import Manuscript.Command.Running

/-!
# Workspaces

A model of what surrounds the program: files in folders, and a terminal that
keeps what is printed on it. A folder is there if a file is somewhere below it;
the folder the program runs in, those above it and the root are always there.
A path is walked step by step, and every step but the last has to lead to a
folder. Names are limited in their length, and so are paths.

Any operation on files can be refused by the disk, which then stays as it is.
Only the writing of text can be refused when some of it is written already, and
then anything may be left in that file. So the model tells what is left when the
disk is full, or a file is protected, at any step of a command.

## Main definitions

* `Place`: Where a file is.
* `Refusal`: What becomes of an operation that is refused.
* `Disk`: Files by their places.
* `Workspace`: A disk and a terminal.
* `Workspace.surroundings`: The workspace as the surroundings of a command.
-/

namespace Manuscript

/-- Where a file or a folder is: the names from it outwards. It ends in `..` for each folder that
    it is above the one the program runs in, or in `/` if it is seen from the root. -/
abbrev Place := List String

namespace Place

/-- The root of all files. -/
def root : Place := ["/"]

/-- The folder around a place. The root is in itself. -/
def parent : Place → Place
  | [] => [".."]
  | ["/"] => root
  | ".." :: rest => ".." :: ".." :: rest
  | _ :: rest => rest

/-- Whether the place is a folder that is always there. -/
def isFixed (p : Place) : Bool := p == root || p.all (· == "..")

end Place

/-- An operation on files. -/
inductive FileOperation where
  | size (path : String)
  | read (path : String)
  | create (path : String)
  | write (path text : String)
  | rename (source target : String)
deriving DecidableEq, Repr

/-- What becomes of an operation that the disk refuses. -/
structure Refusal where
  fault : FileFault
  /-- The bytes of the file that was written to. -/
  remains : ByteArray

/-- Files by their places. -/
structure Disk where
  files : List (Place × ByteArray)
  /-- The refusal of an operation, if the disk refuses it. -/
  refusal? : FileOperation → Option Refusal

namespace Disk

/-- The bytes of the file at a place. -/
def contents? (d : Disk) (p : Place) : Option ByteArray := d.files.lookup p

/-- The disk with a file at a place, in place of one that may be there. -/
def insert (d : Disk) (p : Place) (bytes : ByteArray) : Disk :=
  { d with files := (p, bytes) :: d.files.filter (·.1 != p) }

/-- The disk without a file at a place. -/
def erase (d : Disk) (p : Place) : Disk := { d with files := d.files.filter (·.1 != p) }

/-- Whether a folder is at a place. -/
def isFolder (d : Disk) (p : Place) : Bool :=
  p.isFixed || d.files.any fun (q, _) => q != p && p.isSuffixOf q

/-- The greatest number of bytes in a name. -/
def nameLimit : Nat := 255

/-- The greatest number of bytes in a path. -/
def pathLimit : Nat := 4095

/-- Goes a step from a place, which has to be a folder. -/
def enter (d : Disk) (p : Place) (step : String) : Except FileFault Place :=
  if d.isFolder p then
    if nameLimit < step.utf8ByteSize then .error .nameTooLong
    else .ok (if Path.stays step then p else if step = ".." then p.parent else step :: p)
  else if (d.contents? p).isSome then .error .notFolder
  else .error .notFound

/-- Goes some steps from where a path starts. The path has to be one the system takes. -/
def walk (d : Disk) (path : String) (steps : List String) : Except FileFault Place :=
  if Path.hasNul path then .error .nulInPath
  else if pathLimit < path.utf8ByteSize then .error .nameTooLong
  else steps.foldlM d.enter (if Path.isAbsolute path then Place.root else [])

/-- The place that a path leads to, whether or not something is there. -/
def locate (d : Disk) (path : String) : Except FileFault Place := d.walk path (Path.steps path)

/-- The place that a path leads to where a file can be put. -/
def locateFile (d : Disk) (path : String) : Except FileFault Place := do
  let p ← d.locate path
  if d.isFolder p then throw .isFolder
  return p

/-- The place where a path lets a file be moved. A folder cannot be replaced, and one that is
    named by a dot or two is in use. A slash at the end asks for a folder. -/
def locateTarget (d : Disk) (path : String) : Except FileFault Place :=
  match (Path.steps path).reverse.dropWhile (·.isEmpty) with
  | [] => .error .inUse
  | last :: before => do
    let folder ← d.walk path before.reverse
    let p ← d.enter folder last
    if last = "." ∨ last = ".." then throw .inUse
    if (Path.steps path).getLast? = some "" then throw .notFolder
    if d.isFolder p then throw .isFolder
    return p

/-- The bytes of the file that a path leads to. -/
def fetch (d : Disk) (path : String) : Except FileFault ByteArray := do
  let p ← d.locate path
  match d.contents? p with
  | some bytes => return bytes
  | none => throw (if d.isFolder p then .isFolder else .notFound)

/-- The size of what a path leads to. A folder has no bytes of its own. -/
def sizeOf (d : Disk) (path : String) : Except FileFault Nat := do
  let p ← d.locate path
  match d.contents? p with
  | some bytes => return bytes.size
  | none => if d.isFolder p then return 0 else throw .notFound

/-- The disk after a file was created. -/
def create (d : Disk) (path : String) : Except FileFault Disk := do
  return d.insert (← d.locateFile path) .empty

/-- The disk after bytes were written to a file, in place of those that it had. -/
def write (d : Disk) (path : String) (bytes : ByteArray) : Except FileFault Disk := do
  let _ ← d.fetch path
  return d.insert (← d.locate path) bytes

/-- The disk after a file was moved. -/
def rename (d : Disk) (source target : String) : Except FileFault Disk := do
  let bytes ← d.fetch source
  let p ← d.locate source
  let q ← d.locateTarget target
  return (d.erase p).insert q bytes

/-- The files of a disk that are not as they were on an earlier one. -/
def changesSince (d earlier : Disk) : List (Place × ByteArray) :=
  d.files.filter fun (p, bytes) => earlier.contents? p != some bytes

end Disk

/-- A disk, and a terminal with what was printed on it. -/
structure Workspace where
  disk : Disk
  /-- The results that were printed. -/
  printed : String
  /-- What was printed on the side. -/
  printedAside : String

namespace Workspace

/-- Asks the disk for something, unless it refuses. -/
def ask {α : Type} (operation : FileOperation) (answer : Disk → Except FileFault α) :
    StateM Workspace (Except FileFault α) := fun w =>
  match w.disk.refusal? operation with
  | some refusal => (.error refusal.fault, w)
  | none => (answer w.disk, w)

/-- Changes the disk, unless it refuses or the change fails. What the disk becomes where it refuses
    is given beside the change. -/
def change (operation : FileOperation) (after : Disk → Except FileFault Disk)
    (refused : Refusal → Disk → Except FileFault Disk) :
    StateM Workspace (Except FileFault Unit) := fun w =>
  match w.disk.refusal? operation with
  | some refusal =>
    match refused refusal w.disk with
    | .error _ => (.error refusal.fault, w)
    | .ok disk => (.error refusal.fault, { w with disk })
  | none =>
    match after w.disk with
    | .error fault => (.error fault, w)
    | .ok disk => (.ok (), { w with disk })

/-- The workspace as the surroundings of a command. -/
def surroundings : Surroundings (StateM Workspace) where
  size path := ask (.size path) (·.sizeOf path)
  read path := ask (.read path) (·.fetch path)
  create path := change (.create path) (·.create path) fun _ d => .ok d
  write path text := change (.write path text) (·.write path text.toUTF8)
    fun refusal d => d.write path refusal.remains
  rename source target := change (.rename source target) (·.rename source target) fun _ d => .ok d
  print text := fun w => ((), { w with printed := w.printed ++ text })
  printAside text := fun w => ((), { w with printedAside := w.printedAside ++ text })

/-- Carries out a command in a workspace. -/
def run (w : Workspace) (colored : Bool) (c : Command) : Except Failure Unit × Workspace :=
  (surroundings.run colored c).run.run w

end Workspace

end Manuscript
