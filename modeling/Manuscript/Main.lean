import Manuscript.Command.Arguments
import Manuscript.Command.Running

/-!
# The Program

Carries out the command on the command line with the files of the system. A
failure is told on the side, and the exit status is one. Colours are used if
the result goes to a terminal.

## Main definitions

* `main`: The program.
-/

namespace Manuscript

namespace Main

/-- The fault behind an error of the system. -/
def faultOf : IO.Error → FileFault
  | .noFileOrDirectory _ _ _ => .notFound
  | .resourceBusy _ _ => .inUse
  | .inappropriateType _ 20 _ => .notFolder
  | .inappropriateType _ 21 _ => .isFolder
  | .invalidArgument _ 36 _ => .nameTooLong
  | e => .other (toString e)

/-- Does something to the files of some paths, and tells the fault if there is one. -/
def attempt {α : Type} (paths : List String) (operation : IO α) : IO (Except FileFault α) := do
  if paths.any Path.hasNul then return .error .nulInPath
  match ← operation.toBaseIO with
  | .ok a => return .ok a
  | .error e => return .error (faultOf e)

/-- The size of a file, which is opened first so that the fault is known if there is one. -/
def sizeOfFile (path : String) : IO Nat := do
  let _ ← IO.FS.Handle.mk path .read
  return (← (← IO.FS.realPath path).metadata).byteSize.toNat

/-- Writes text to a file and leaves nothing in memory. -/
def writeText (path text : String) : IO Unit := do
  let file ← IO.FS.Handle.mk path .write
  file.putStr text
  file.flush

/-- The files of the system and the terminal. -/
def system : Surroundings IO where
  size path := attempt [path] (sizeOfFile path)
  read path := attempt [path] (IO.FS.readBinFile path)
  create path := attempt [path] (discard (IO.FS.Handle.mk path .write))
  write path text := attempt [path] (writeText path text)
  rename source target := attempt [source, target] (IO.FS.rename source target)
  print text := IO.print text
  printAside text := IO.eprint text

/-- The surroundings, with each operation on files told on the side. -/
def traced (s : Surroundings IO) : Surroundings IO where
  size path := do IO.eprintln ("size of " ++ path); s.size path
  read path := do IO.eprintln ("read " ++ path); s.read path
  create path := do IO.eprintln ("create " ++ path); s.create path
  write path text := do IO.eprintln ("write " ++ path); s.write path text
  rename source target := do IO.eprintln ("rename " ++ source ++ " to " ++ target)
                             s.rename source target
  print := s.print
  printAside := s.printAside

/-- Shows how the program is used. -/
def showUsage (usage : Usage) : IO UInt32 := do
  match usage with
  | .version => IO.print Usage.versionLine
  | .help => IO.print Usage.text
  | mistake => IO.eprint (mistake.comment ++ Usage.text)
  return usage.exitStatus.toUInt32

/-- Carries out a command. -/
def carryOut (c : Command) : IO UInt32 := do
  let colored ← (← IO.getStdout).isTty
  match ← ((if c.verbose then traced system else system).run colored c).run with
  | .ok () => return 0
  | .error failure =>
    IO.eprintln ("Error: " ++ failure.message?.getD "YAML error: not one well-formed document")
    return 1

end Main

end Manuscript

/-- The program. -/
def main (arguments : List String) : IO UInt32 :=
  match Manuscript.Command.ofArguments arguments with
  | .ok command => Manuscript.Main.carryOut command
  | .error usage => Manuscript.Main.showUsage usage
