import InvoiceForms.Proofs.Store.Ownership

/-!
# The pointer never dangles

Of processes that store templates, point to them and remove them side by side, each relies on what its
locks keep others from changing. So in every state that they come to, the pointer names a template
that is there, or one whose removal is going on, and they never wait for each other in a circle.
-/

namespace InvoiceForms

namespace FileStore

variable {ι : Type}

/-- Whether the document of a template is there. A directory stands in for it only if it was there from
the start. -/
def Stored (s : FileStore) (start tree : FileTree) (id : String) : Prop :=
  ∃ n, tree.node? (s.templatePath id) = some n ∧
    (n = .directory → start.node? (s.templatePath id) = some .directory)

/-- Whether some process removes a template, and holds its lock. -/
def Deleting (s : FileStore) (σ : System ι StoreTask) (id : String) : Prop :=
  ∃ i rest, σ.running i = some (.delete id, rest) ∧ s.lockPath (templateLock id) ∈ σ.held i

/-- What is true of the pointer and the processes of a store in every state that they come to. -/
structure Undangling (s : FileStore) (start : FileTree) (σ : System ι StoreTask) : Prop where
  /-- The pointer names nothing, a template that is there, or one that is being removed. -/
  named : s.pointer σ.world.tree = .ok none ∨ ∃ id, s.pointer σ.world.tree = .ok (some id) ∧
    (s.Stored start σ.world.tree id ∨ s.Deleting σ id)
  /-- A pointer that names nothing is absent, unless it was such a file from the start. -/
  absent : s.pointer σ.world.tree = .ok none → σ.world.tree.node? s.pointerPath = none ∨
    σ.world.tree.node? s.pointerPath = start.node? s.pointerPath
  /-- Where nothing is going on, the template is there. -/
  settled : (∀ i, σ.running i = none) → ∀ id, s.pointer σ.world.tree = .ok (some id) →
    s.Stored start σ.world.tree id
  /-- Not all who are at work wait for a lock. -/
  progress : ¬ σ.Deadlocked

/-- The invariant of processes that follow the locking discipline, by the phases that they are in. -/
structure Disciplined (s : FileStore) (start : FileTree) (σ : System ι StoreTask)
    (phase : ι → Phase) : Prop where
  excludes : Excludes σ.world.locked σ.held
  names : σ.world.Names IsTemporary
  locks : ∀ i, σ.held i = (phase i).locks s
  idle : ∀ i, σ.running i = none → phase i = .free
  follows : ∀ i task rest, σ.running i = some (task, rest) →
    Follows s task.Removes (fun _ here => here = .free) (phase i) rest
  allowed : ∀ i task rest id, σ.running i = some (task, rest) → (phase i).Removing id →
    task.Removes id
  fact : ∀ i, (phase i).Fact s σ.world.tree
  directories : ∀ id, σ.world.tree.node? (s.templatePath id) = some .directory →
    start.node? (s.templatePath id) = some .directory
  pointer : s.pointer σ.world.tree = .ok none ∨ ∃ id, s.pointer σ.world.tree = .ok (some id) ∧
    (s.Present σ.world.tree id ∨ ∃ i, (phase i).Removing id)
  absent : s.pointer σ.world.tree = .ok none → σ.world.tree.node? s.pointerPath = none ∨
    σ.world.tree.node? s.pointerPath = start.node? s.pointerPath

variable {s : FileStore} {start : FileTree} {σ σ' : System ι StoreTask} {phase : ι → Phase}

theorem pointer_congr {tree tree' : FileTree}
    (same : tree'.node? s.pointerPath = tree.node? s.pointerPath) : s.pointer tree' = s.pointer tree := by
  unfold pointer
  rw [same]

namespace Disciplined

/-- Where nothing is going on, the invariant says that the pointer names a template that is there. -/
theorem of_quiet (quiet : σ.Quiet)
    (sound : s.pointer σ.world.tree = .ok none ∨
      ∃ id, s.pointer σ.world.tree = .ok (some id) ∧ s.Present σ.world.tree id) :
    s.Disciplined σ.world.tree σ fun _ => .free where
  excludes := {
    once := quiet.unlocked ▸ List.nodup_nil
    each := fun i => quiet.free i ▸ List.nodup_nil
    holder := fun p => by simp [quiet.unlocked, quiet.free]
    alone := fun i j p mine => by
      rw [quiet.free i] at mine
      cases mine }
  names := quiet.named
  locks := quiet.free
  idle _ _ := rfl
  follows i task rest runs := by
    rw [quiet.idle i] at runs
    cases runs
  allowed _ _ _ _ _ := nofun
  fact _ := trivial
  directories _ there := there
  pointer := sound.imp_right fun ⟨id, names, present⟩ => ⟨id, names, .inl present⟩
  absent _ := .inr rfl

/-- Who holds the lock of the pointer waits for no other. -/
theorem not_waits_of_pointerLock (inv : s.Disciplined start σ phase) {i : ι} {task : StoreTask}
    {rest : Program Unit} (runs : σ.running i = some (task, rest))
    (held : s.lockPath pointerLock ∈ σ.held i) : ¬ rest.Waits σ.world := by
  intro waits
  cases rest with
  | done _ => cases waits
  | act action next =>
    obtain ⟨after, move, -⟩ := inv.follows i task _ runs
    rw [inv.locks i] at held
    generalize phase i = here at move held
    cases move with
    | lockTemplate => cases held
    | lockPointer | lockCleared => exact lockPath_pointerLock_ne (List.mem_singleton.mp held)
    | _ => cases waits

/-- A process that holds a lock is at work. -/
theorem running_of_held (inv : s.Disciplined start σ phase) {i : ι} {p : Path} (held : p ∈ σ.held i) :
    ∃ task rest, σ.running i = some (task, rest) := by
  cases runs : σ.running i with
  | none =>
    rw [inv.locks i, inv.idle i runs] at held
    cases held
  | some pair => exact ⟨pair.1, pair.2, rfl⟩

/-- Locks are taken in an order, that of a template first. So someone can always go on: whoever holds
the lock of the pointer, or else whoever holds the lock of a template, or else all. -/
theorem not_deadlocked (inv : s.Disciplined start σ phase) : ¬ σ.Deadlocked := by
  rintro ⟨⟨i, busy⟩, all⟩
  have unlocked : s.lockPath pointerLock ∉ σ.world.locked := by
    intro locked
    obtain ⟨j, held⟩ := (inv.excludes.holder _).mp locked
    obtain ⟨task, rest, runs⟩ := inv.running_of_held held
    exact inv.not_waits_of_pointerLock runs held (all j task rest runs)
  -- Nobody waits but for the lock of a template, and who holds one waits for that of the pointer.
  have waiting (j : ι) {task : StoreTask} {rest : Program Unit}
      (runs : σ.running j = some (task, rest)) :
      phase j = .free ∧ ∃ id, s.lockPath (templateLock id) ∈ σ.world.locked := by
    have waits := all j task rest runs
    cases rest with
    | done _ => cases waits
    | act action next =>
      obtain ⟨after, move, -⟩ := inv.follows j task _ runs
      generalize phase j = here at move ⊢
      cases move with
      | lockTemplate id => exact ⟨rfl, id, waits⟩
      | lockPointer | lockCleared => exact absurd waits unlocked
      | _ => cases waits
  obtain ⟨⟨task, rest⟩, runs⟩ := Option.ne_none_iff_exists'.mp busy
  obtain ⟨-, id, locked⟩ := waiting i runs
  obtain ⟨j, held⟩ := (inv.excludes.holder _).mp locked
  obtain ⟨task', rest', runs'⟩ := inv.running_of_held held
  rw [inv.locks j, (waiting j runs').1] at held
  cases held

theorem stored_of_present (inv : s.Disciplined start σ phase) {id : String}
    (present : s.Present σ.world.tree id) : s.Stored start σ.world.tree id := by
  obtain ⟨n, there⟩ := Option.isSome_iff_exists.mp present
  refine ⟨n, there, ?_⟩
  rintro rfl
  exact inv.directories id there

theorem deleting_of_removing (inv : s.Disciplined start σ phase) {i : ι} {id : String}
    (removing : (phase i).Removing id) : s.Deleting σ id := by
  have held : s.lockPath (templateLock id) ∈ σ.held i := inv.locks i ▸ mem_locks_of_removing removing
  obtain ⟨task, rest, runs⟩ := inv.running_of_held held
  cases task with
  | delete other =>
    obtain rfl : id = other := inv.allowed i _ _ id runs removing
    exact ⟨i, rest, runs, held⟩
  | _ => cases inv.allowed i _ _ id runs removing

theorem undangling (inv : s.Disciplined start σ phase) : s.Undangling start σ where
  named := by
    refine inv.pointer.imp_right fun ⟨id, names, good⟩ => ⟨id, names, ?_⟩
    rcases good with present | ⟨i, removing⟩
    · exact .inl (inv.stored_of_present present)
    · exact .inr (inv.deleting_of_removing removing)
  absent := inv.absent
  settled idle id names := by
    rcases inv.pointer with nothing | ⟨other, names', good⟩
    · rw [nothing] at names
      cases names
    · obtain rfl : other = id := by
        rw [names'] at names
        cases names
        rfl
      rcases good with present | ⟨i, removing⟩
      · exact inv.stored_of_present present
      · obtain ⟨j, rest, runs, -⟩ := inv.deleting_of_removing removing
        rw [idle j] at runs
        cases runs
  progress := inv.not_deadlocked

/-- What one process owns is touched by no move of another one. -/
theorem untouched {α : Type} {action : Action α} {after : α → Phase} {removes : String → Prop}
    (inv : s.Disciplined start σ phase) {i j : ι} {q : Path} (other : j ≠ i)
    (move : Move s removes (phase i) action after) (owns : (phase j).Owns s q) :
    (σ.world.perform action).2.tree.node? q = σ.world.tree.node? q := by
  refine World.node?_perform inv.names fun touched => ?_
  obtain ⟨lock, held, guards⟩ := owns
  rcases move.touches touched with ⟨lock', held', guards'⟩ | common
  · obtain rfl := guards.unique guards'
    exact other (inv.excludes.alone j i lock (inv.locks j ▸ held) (inv.locks i ▸ held'))
  · exact not_common_of_guards guards common

section Effects

variable {tree : FileTree} {i : ι} {here : Phase} (inv : s.Disciplined start σ phase)
  (effect : Effect s σ.world.tree tree (phase i) here)

include inv effect

theorem directories_of_effect {id : String} (there : tree.node? (s.templatePath id) = some .directory) :
    start.node? (s.templatePath id) = some .directory := by
  rcases effect.document id with same | ⟨content, file⟩ | ⟨gone, -⟩
  · exact inv.directories id (same ▸ there)
  · rw [file] at there
    cases there
  · rw [gone] at there
    cases there

theorem absent_of_effect (nothing : s.pointer tree = .ok none) :
    tree.node? s.pointerPath = none ∨ tree.node? s.pointerPath = start.node? s.pointerPath := by
  rcases effect.pointer with same | gone | ⟨id, names, -⟩
  · rw [same]
    exact inv.absent (pointer_congr same ▸ nothing)
  · exact .inl gone
  · rw [names] at nothing
    cases nothing

/-- What a pointer names that stays as it is either was there and is, or is being removed. -/
theorem pointer_of_effect [DecidableEq ι] : s.pointer tree = .ok none ∨
    ∃ id, s.pointer tree = .ok (some id) ∧
      (s.Present tree id ∨ ∃ j, (Function.update phase i here j).Removing id) := by
  rcases effect.pointer with same | gone | ⟨id, names, present⟩
  · rcases inv.pointer with nothing | ⟨id, names, good⟩
    · exact .inl ((pointer_congr same).trans nothing)
    · have names := (pointer_congr same).trans names
      refine .inr ⟨id, names, ?_⟩
      rcases good with present | ⟨j, removing⟩
      · rcases effect.document id with same | ⟨content, file⟩ | ⟨-, removing⟩
        · exact .inl (present.congr same)
        · exact .inl (by rw [Present, file]; rfl)
        · exact .inr ⟨i, by rwa [Function.update_self]⟩
      · by_cases mine : j = i
        · subst mine
          rcases effect.removing id removing with removing | other
          · exact .inr ⟨j, by rwa [Function.update_self]⟩
          · exact absurd names other
        · exact .inr ⟨j, by rwa [Function.update_of_ne mine]⟩
  · exact .inl (pointer_of_none gone)
  · exact .inr ⟨id, names, .inl present⟩

end Effects

variable [DecidableEq ι]

/-- An action of a process keeps the invariant. -/
theorem act (inv : s.Disciplined start σ phase) {i : ι} {task : StoreTask} {α : Type}
    {action : Action α} {next : α → Program Unit} (runs : σ.running i = some (task, .act action next))
    (ready : ¬ action.Waits σ.world) (succeeds : action.Succeeds (σ.world.perform action).1) :
    ∃ here, s.Disciplined start (σ.act i task action next) (Function.update phase i here) := by
  obtain ⟨after, move, rest⟩ := inv.follows i task _ runs
  have follows := rest _ (Action.gives_perform inv.names succeeds)
  have effect := move.effect inv.names succeeds (inv.fact i)
  let here := after (σ.world.perform action).1
  have kept (j : ι) (other : j ≠ i) : (phase j).Fact s (σ.world.perform action).2.tree :=
    fact_congr (inv.fact j) (fun q owns => inv.untouched other move owns) World.reached_perform
  refine ⟨here, ?_⟩
  constructor
  case excludes =>
    exact inv.excludes.perform ready succeeds fun p given => inv.locks i ▸ move.returns given
  case names => exact inv.names.perform action
  case locks =>
    intro j
    by_cases same : j = i
    · subst same
      simp only [System.act, Function.update_self]
      rw [inv.locks, move.locks]
    · simp only [System.act, Function.update_of_ne same]
      exact inv.locks j
  case idle =>
    intro j
    by_cases same : j = i
    · subst same
      simp [System.act]
    · simp only [System.act, Function.update_of_ne same]
      exact inv.idle j
  case follows =>
    intro j task' rest'
    by_cases same : j = i
    · subst same
      simp only [System.act, Function.update_self]
      rintro ⟨⟩
      exact follows
    · simp only [System.act, Function.update_of_ne same]
      exact inv.follows j task' rest'
  case allowed =>
    intro j task' rest' id
    by_cases same : j = i
    · subst same
      simp only [System.act, Function.update_self]
      rintro ⟨⟩ removing
      rcases move.removing removing with before | allowed
      · exact inv.allowed j task _ id runs before
      · exact allowed
    · simp only [System.act, Function.update_of_ne same]
      exact inv.allowed j task' rest' id
  case fact => exact (Function.forall_update_iff phase fun _ p => p.Fact s _).mpr ⟨effect.fact, kept⟩
  case directories => exact fun id there => inv.directories_of_effect effect there
  case pointer => exact inv.pointer_of_effect effect
  case absent => exact inv.absent_of_effect effect

/-- A process that holds no lock may come to another task, or to none. -/
theorem rerun (inv : s.Disciplined start σ phase) {i : ι} (free : phase i = .free)
    {work : Option (StoreTask × Program Unit)} (follows : ∀ task rest, work = some (task, rest) →
      Follows s task.Removes (fun _ here => here = .free) .free rest) :
    s.Disciplined start { σ with running := Function.update σ.running i work } phase := by
  refine { inv with idle := fun j => ?_, follows := fun j task rest => ?_, allowed := ?_ }
  · by_cases same : j = i
    · exact fun _ => same ▸ free
    · show Function.update σ.running i work j = none → _
      rw [Function.update_of_ne same]
      exact inv.idle j
  · show Function.update σ.running i work j = some (task, rest) → _
    by_cases same : j = i
    · subst same
      rw [Function.update_self, free]
      exact follows task rest
    · rw [Function.update_of_ne same]
      exact inv.follows j task rest
  · intro j task rest id
    show Function.update σ.running i work j = some (task, rest) → _
    by_cases same : j = i
    · subst same
      rw [free]
      exact fun _ => nofun
    · rw [Function.update_of_ne same]
      exact inv.allowed j task rest id

/-- A step keeps the invariant. -/
theorem step (inv : s.Disciplined start σ phase) (step : σ.Step (StoreTask.program s) σ') :
    ∃ phase', s.Disciplined start σ' phase' := by
  cases step with
  | start i task idle =>
    refine ⟨phase, inv.rerun (inv.idle i idle) ?_⟩
    rintro _ _ ⟨⟩
    exact StoreTask.follows_program s task
  | act i runs ready succeeds =>
    obtain ⟨here, inv⟩ := inv.act runs ready succeeds
    exact ⟨_, inv⟩
  | finish i runs =>
    have free : phase i = .free := inv.follows i _ _ runs
    exact ⟨phase, inv.rerun free fun _ _ same => nomatch same⟩
  | names names temporary =>
    obtain ⟨excludes, -, locks, idle, follows, allowed, fact, directories, pointer, absent⟩ := inv
    exact ⟨phase, excludes, temporary, locks, idle, follows, allowed, fact, directories, pointer, absent⟩

/-- The invariant holds wherever processes come to that start from a quiet system. -/
theorem of_reaches {σ₀ : System ι StoreTask} (quiet : σ₀.Quiet)
    (sound : s.pointer σ₀.world.tree = .ok none ∨
      ∃ id, s.pointer σ₀.world.tree = .ok (some id) ∧ s.Present σ₀.world.tree id)
    (reaches : System.Reaches (StoreTask.program s) σ₀ σ) :
    ∃ phase, s.Disciplined σ₀.world.tree σ phase := by
  induction reaches with
  | refl => exact ⟨_, of_quiet quiet sound⟩
  | tail _ last ih =>
    obtain ⟨phase, inv⟩ := ih
    exact inv.step last

end Disciplined

/-- However processes that change a store come between each other, the pointer never dangles and they
never block each other, if the pointer did not dangle before. -/
theorem pointer_never_dangles [DecidableEq ι] (s : FileStore) {σ₀ σ : System ι StoreTask} (quiet : σ₀.Quiet)
    (sound : s.pointer σ₀.world.tree = .ok none ∨
      ∃ id, s.pointer σ₀.world.tree = .ok (some id) ∧ s.Present σ₀.world.tree id)
    (reaches : System.Reaches (StoreTask.program s) σ₀ σ) : s.Undangling σ₀.world.tree σ := by
  obtain ⟨phase, inv⟩ := Disciplined.of_reaches quiet sound reaches
  exact inv.undangling

/-- A system of two processes on a store that points to its one template. -/
def pointingSystem : System Bool StoreTask where
  world := { tree := ⟨[(["s"], .directory), (["s", "templates"], .directory),
    (["s", "templates", "a.json"], .file .empty),
    (["s", "default.json"], .file (Text.encode (documentText (pointerDocument "a"))))]⟩ }
  running _ := none
  held _ := []

/-- The same system when one of the processes starts to remove the template. -/
def removingSystem : System Bool StoreTask where
  world := pointingSystem.world
  running := Function.update pointingSystem.running true
    (some (.delete "a", StoreTask.program ⟨["s"]⟩ (.delete "a")))
  held := pointingSystem.held

/-- While the template is removed, the pointer still names it for a while. -/
theorem pointer_names_removal :
    let s : FileStore := ⟨["s"]⟩
    (removingSystem.advance true 5).world.tree.node? (s.templatePath "a") = none ∧
      s.pointer (removingSystem.advance true 5).world.tree = .ok (some "a") ∧
      s.Undangling pointingSystem.world.tree (removingSystem.advance true 5) := by
  intro s
  have starts : pointingSystem.Step (StoreTask.program s) removingSystem :=
    .start true (StoreTask.delete "a") rfl
  have file : pointingSystem.world.tree.node? s.pointerPath =
      some (.file (Text.encode (documentText (pointerDocument "a")))) := rfl
  have names : s.pointer pointingSystem.world.tree = .ok (some "a") := by
    unfold pointer
    rw [file]
    exact pointing_pointerDocument (by decide)
  have same : (removingSystem.advance true 5).world.tree.node? s.pointerPath =
      pointingSystem.world.tree.node? s.pointerPath := by
    decide +kernel
  have quiet : pointingSystem.Quiet :=
    ⟨fun _ => rfl, rfl, fun _ => rfl, fun stem => ⟨_, (String.toList_append).symm⟩⟩
  refine ⟨by decide, (pointer_congr same).trans names, ?_⟩
  exact pointer_never_dangles s quiet (.inr ⟨"a", names, rfl⟩)
    (.head starts (System.reaches_advance true 5 removingSystem))

end FileStore

end InvoiceForms
