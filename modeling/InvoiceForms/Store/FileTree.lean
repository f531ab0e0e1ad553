import InvoiceForms.Json.Entries
import InvoiceForms.Text.Quoted
import InvoiceForms.Text.Split

/-!
# File trees

A file tree maps paths to files and directories. The operations fail as those of a file system do:
when something on the way is missing or no directory, when the last part is of the wrong kind, and
when a name is too long. The empty path is the top directory and always exists.
-/

namespace InvoiceForms

open InvoiceForms.Text

/-- A path as the list of its parts. -/
abbrev Path := List String

/-- A path in words. -/
def Path.shown (p : Path) : String := joinWith "/" p

/-- Why a file operation fails. -/
inductive FileCause
  | missing
  | taken
  | notDirectory
  | isDirectory
  | nameTooLong
deriving DecidableEq, Repr, Inhabited

namespace FileCause

/-- The number of a cause. -/
def number : FileCause → Nat
  | missing => 2
  | taken => 17
  | notDirectory => 20
  | isDirectory => 21
  | nameTooLong => 36

/-- A cause in words. -/
def message : FileCause → String
  | missing => "No such file or directory"
  | taken => "File exists"
  | notDirectory => "Not a directory"
  | isDirectory => "Is a directory"
  | nameTooLong => "File name too long"

end FileCause

/-- A failed file operation: why, on which path, and where it should have led. -/
structure FileFault where
  cause : FileCause
  path : Path
  target : Option Path := none
deriving DecidableEq, Repr, Inhabited

/-- A failed file operation in words. -/
def FileFault.message (e : FileFault) : String :=
  "[Errno " ++ toString e.cause.number ++ "] " ++ e.cause.message ++ ": " ++ quoted e.path.shown ++
    e.target.elim "" fun target => " -> " ++ quoted target.shown

/-- A file with its content, or a directory. -/
inductive Node
  | file (content : ByteArray)
  | directory
deriving Inhabited

/-- Decides whether two nodes are the same, by the bytes of their contents. -/
def Node.decEq : (a b : Node) → Decidable (a = b)
  | file a, file b =>
    decidable_of_iff (a.data.toList = b.data.toList) (by
      cases a with | mk xs => cases b with | mk ys => simp [Array.toList_inj])
  | directory, directory => isTrue rfl
  | file _, directory => isFalse (by simp)
  | directory, file _ => isFalse (by simp)

instance : DecidableEq Node := Node.decEq

/-- The files and directories of a tree. -/
structure FileTree where
  nodes : List (Path × Node) := []
deriving DecidableEq, Inhabited

namespace FileTree

/-- The greatest number of bytes in a name. -/
def maxNameBytes : Nat := 255

/-- The greatest number of bytes in a path. -/
def maxPathBytes : Nat := 4095

/-- Whether a path is too long for the file system, whatever there is. -/
def tooLong (p : Path) : Bool := decide (maxPathBytes < p.shown.utf8ByteSize)

/-- The node stored at a path. -/
def node? (t : FileTree) (p : Path) : Option Node :=
  if p = [] then some .directory else (t.nodes.find? (·.1 = p)).map (·.2)

/-- Stores a node at a path. -/
def put (t : FileTree) (p : Path) (n : Node) : FileTree :=
  if t.nodes.any (·.1 = p) then ⟨t.nodes.map fun e => if e.1 = p then (p, n) else e⟩
  else ⟨t.nodes ++ [(p, n)]⟩

/-- Removes the node at a path. -/
def remove (t : FileTree) (p : Path) : FileTree := ⟨t.nodes.filter fun e => e.1 ≠ p⟩

/-- Removes the node at a path and everything below it. -/
def removeAll (t : FileTree) (p : Path) : FileTree := ⟨t.nodes.filter fun e => !p.isPrefixOf e.1⟩

/-- Walks from a directory through the parts of a path. -/
def walk (t : FileTree) (reached : Path) : List String → Except FileCause Node
  | [] => .ok ((t.node? reached).getD .directory)
  | name :: rest =>
    match t.node? reached with
    | some .directory =>
      if maxNameBytes < name.utf8ByteSize then .error .nameTooLong
      else if (t.node? (reached ++ [name])).isNone then .error .missing
      else walk t (reached ++ [name]) rest
    | _ => .error .notDirectory

/-- Fails on a path. -/
def fail {α : Type} (cause : FileCause) (p : Path) : Except FileFault α :=
  .error { cause := cause, path := p }

/-- The node at a path. -/
def find (t : FileTree) (p : Path) : Except FileFault Node :=
  if tooLong p then fail .nameTooLong p
  else (t.walk [] p).mapError fun cause => { cause := cause, path := p }

/-- The content of the file at a path. -/
def read (t : FileTree) (p : Path) : Except FileFault ByteArray := do
  match ← t.find p with
  | .file content => return content
  | .directory => fail .isDirectory p

/-- Whether there is anything at a path. -/
def has (t : FileTree) (p : Path) : Bool := (t.find p).toOption.isSome

/-- Whether there is a file at a path. -/
def hasFile (t : FileTree) (p : Path) : Bool :=
  match t.find p with
  | .ok (.file _) => true
  | _ => false

/-- The names in the directory at a path. -/
def list (t : FileTree) (p : Path) : Except FileFault (List String) := do
  match ← t.find p with
  | .file _ => fail .notDirectory p
  | .directory =>
    return t.nodes.filterMap fun e =>
      match e.1.reverse with
      | name :: parent => if parent.reverse = p then some name else none
      | [] => none

/-- Makes the directories that lead from one to a path. -/
def makeFrom (target : Path) (t : FileTree) (reached : Path) :
    List String → Except FileFault FileTree
  | [] => .ok t
  | name :: rest =>
    let next := reached ++ [name]
    if maxNameBytes < name.utf8ByteSize then fail .nameTooLong target
    else
      match t.node? next with
      | some .directory => makeFrom target t next rest
      | some (.file _) => fail (if rest = [] then .taken else .notDirectory) target
      | none => makeFrom target (t.put next .directory) next rest

/-- Makes a directory and those that lead to it, as far as they are missing. -/
def makeDirectories (t : FileTree) (p : Path) : Except FileFault FileTree :=
  if tooLong p then fail .nameTooLong p else makeFrom p t [] p

/-- Puts content into the file at a path, made from what it held before. -/
def update (t : FileTree) (p : Path) (content : ByteArray → ByteArray) :
    Except FileFault FileTree :=
  match t.find p with
  | .ok (.file old) => .ok (t.put p (.file (content old)))
  | .ok .directory => fail .isDirectory p
  | .error e =>
    if e.cause = .missing then
      match t.find p.dropLast with
      | .ok _ => .ok (t.put p (.file (content .empty)))
      | .error _ => .error e
    else .error e

/-- Writes a file. -/
def write (t : FileTree) (p : Path) (content : ByteArray) : Except FileFault FileTree :=
  t.update p fun _ => content

/-- Writes at the end of a file. -/
def append (t : FileTree) (p : Path) (content : ByteArray) : Except FileFault FileTree :=
  t.update p (· ++ content)

/-- Makes an empty file unless there is something. -/
def touch (t : FileTree) (p : Path) : Except FileFault FileTree :=
  if t.has p then .ok t else t.update p id

/-- Moves a file to a path, in place of the file that is there. -/
def rename (t : FileTree) (source target : Path) : Except FileFault FileTree :=
  match t.find source with
  | .ok (.file content) =>
    if t.node? target = some .directory then
      .error { cause := .isDirectory, path := source, target := some target }
    else .ok ((t.remove source).put target (.file content))
  | .ok .directory => .error { cause := .isDirectory, path := source, target := some target }
  | .error e => .error { e with target := some target }

/-- Removes the file at a path. -/
def unlink (t : FileTree) (p : Path) : Except FileFault FileTree := do
  match ← t.find p with
  | .file _ => return t.remove p
  | .directory => fail .isDirectory p

end FileTree

end InvoiceForms
