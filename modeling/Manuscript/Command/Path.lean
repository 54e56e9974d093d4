/-!
# Paths

The names that a path goes through, and the file beside a file where its new
content is written before it takes the file's place.

## Main definitions

* `Path.steps`: What stands between the slashes of a path.
* `Path.fileName?`: The name of the file.
* `Path.temporary`: The file beside it.
-/

namespace Manuscript

namespace Path

/-- Collects steps from the front. `step` holds the step under way, last character first. -/
def stepsFrom : List Char → List Char → List String
  | step, [] => [String.ofList step.reverse]
  | step, c :: cs =>
    if c = '/' then String.ofList step.reverse :: stepsFrom [] cs else stepsFrom (c :: step) cs

/-- What stands between the slashes of a path. -/
def steps (path : String) : List String := stepsFrom [] path.toList

/-- Whether a step stays where it is. -/
def stays (step : String) : Bool := step = "" || step = "."

/-- The steps of a path that do not stay where they are. -/
def names (path : String) : List String := (steps path).filter (!stays ·)

/-- Whether the path starts at the root of all files. -/
def isAbsolute (path : String) : Bool := path.toList.head? = some '/'

/-- The name of the file, unless the path ends on the way up. -/
def fileName? (path : String) : Option String :=
  (names path).getLast?.filter (· ≠ "..")

/-- Whether the path holds the character that ends a path for the system. -/
def hasNul (path : String) : Bool := path.toList.contains '\x00'

/-- The name of the temporary file for a file. -/
def temporaryName (name : String) : String := "." ++ name ++ ".tmp"

/-- The steps without those at the end that stay where they are, last step first. -/
def trimmed (steps : List String) : List String := steps.reverse.dropWhile stays

/-- The path of the temporary file, in the folder of the file, or in the folder itself if the path
    has no name for a file. The start of the path is kept as it is, also if it is empty. -/
def temporary (path : String) : String :=
  match fileName? path with
  | some name =>
    let folder := match (trimmed (steps path)).tail.reverse with
      | [] => []
      | first :: inner => first :: (trimmed inner).reverse
    "/".intercalate (folder ++ [temporaryName name])
  | none => path ++ (if path.toList.getLast?.all (· = '/') then "" else "/") ++ temporaryName "report"

end Path

end Manuscript
