import InvoiceForms.Journal.Entry
import InvoiceForms.Store.FileTree

/-!
# Programs over a file tree

A `Program` is a sequence of atomic actions on files, locks and the journal, each chosen by the
results of those before. `Program.run` runs a program to its end with nobody in between;
`Program.step?` takes one action, so that several programs can be run in any order.
-/

namespace InvoiceForms

/-- The result of asking for a lock. -/
inductive LockResult
  | acquired
  | busy
  | failed (cause : FileFault)
deriving DecidableEq, Repr, Inhabited

/-- One atomic action, by the type of its result. -/
inductive Action : Type → Type
  | read (p : Path) : Action (Except FileFault ByteArray)
  | has (p : Path) : Action Bool
  | hasFile (p : Path) : Action Bool
  | list (p : Path) : Action (Except FileFault (List String))
  | makeDirectories (p : Path) : Action (Except FileFault Unit)
  | touch (p : Path) : Action (Except FileFault Unit)
  | acquire (p : Path) : Action LockResult
  | release (p : Path) : Action Unit
  | makeTemporary (directory : Path) (stem : String) : Action (Except FileFault Path)
  | write (p : Path) (content : ByteArray) : Action (Except FileFault Unit)
  | append (p : Path) (content : ByteArray) : Action (Except FileFault Unit)
  | rename (source target : Path) : Action (Except FileFault Unit)
  | unlink (p : Path) : Action (Except FileFault Unit)
  | report (entry : JournalEntry) : Action Unit
  | now : Action String

/-- What programs act on: files, the lock files that are locked, the journal, the time, and the name
that the next temporary file gets. -/
structure World where
  tree : FileTree := {}
  locked : List Path := []
  journal : List JournalEntry := []
  clock : String := ""
  temporaryName : String → String := fun stem => "." ++ stem ++ ".tmp"
deriving Inhabited

namespace World

/-- Takes over a changed tree, or stays as it is. -/
def change (w : World) : Except FileFault FileTree → Except FileFault Unit × World
  | .ok tree => (.ok (), { w with tree := tree })
  | .error e => (.error e, w)

/-- Removes what is at a path. A lock goes with its file. -/
def removeAll (w : World) (p : Path) : World :=
  { w with tree := w.tree.removeAll p, locked := w.locked.filter fun q => !p.isPrefixOf q }

/-- Asks for a lock: its file is made if it is missing. -/
def acquire (w : World) (p : Path) : LockResult × World :=
  match w.tree.append p .empty with
  | .error e => (.failed e, w)
  | .ok tree =>
    if p ∈ w.locked then (.busy, { w with tree := tree })
    else (.acquired, { w with tree := tree, locked := p :: w.locked })

/-- Makes an empty file with a name of its own. -/
def makeTemporary (w : World) (directory : Path) (stem : String) :
    Except FileFault Path × World :=
  let p := directory ++ [w.temporaryName stem]
  match w.tree.write p .empty with
  | .ok tree => (.ok p, { w with tree := tree })
  | .error e => (.error e, w)

/-- Performs one action. -/
def perform (w : World) : {α : Type} → Action α → α × World
  | _, .read p => (w.tree.read p, w)
  | _, .has p => (w.tree.has p, w)
  | _, .hasFile p => (w.tree.hasFile p, w)
  | _, .list p => (w.tree.list p, w)
  | _, .makeDirectories p => w.change (w.tree.makeDirectories p)
  | _, .touch p => w.change (w.tree.touch p)
  | _, .acquire p => w.acquire p
  | _, .release p => ((), { w with locked := w.locked.erase p })
  | _, .makeTemporary directory stem => w.makeTemporary directory stem
  | _, .write p content => w.change (w.tree.write p content)
  | _, .append p content => w.change (w.tree.append p content)
  | _, .rename source target => w.change (w.tree.rename source target)
  | _, .unlink p => w.change (w.tree.unlink p)
  | _, .report entry => ((), { w with journal := w.journal ++ [entry] })
  | _, .now => (w.clock, w)

end World

/-- A sequence of actions that ends in a result. -/
inductive Program (α : Type) : Type 1
  | done (result : α)
  | act {β : Type} (action : Action β) (next : β → Program α)

namespace Program

variable {α β : Type}

/-- Goes on with the result of a program. -/
def bind : Program α → (α → Program β) → Program β
  | done a, f => f a
  | act action next, f => act action fun b => (next b).bind f

instance : Monad Program where
  pure := done
  bind := bind

/-- The program of one action. -/
def perform (action : Action α) : Program α := act action done

/-- Runs a program to its end. -/
def run : Program α → World → α × World
  | done a, w => (a, w)
  | act action next, w =>
    let (b, w) := w.perform action
    (next b).run w

/-- Takes the first action of a program; none is left when it has ended. -/
def step? : Program α → World → Option (Program α × World)
  | done _, _ => none
  | act action next, w =>
    let (b, w) := w.perform action
    some (next b, w)

/-- Running a program is running its first part and then the rest. -/
theorem run_bind (p : Program α) (f : α → Program β) (w : World) :
    (p.bind f).run w = (f (p.run w).1).run (p.run w).2 := by
  induction p generalizing w with
  | done a => rfl
  | act action next ih => exact ih _ _

end Program

end InvoiceForms
