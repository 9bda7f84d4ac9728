/-!
# Paths

Paths as texts, and the names that they consist of. Where a path leads depends on what is there, so
that is not said here.
-/

namespace ReviewPipeline

/-- A location in the file system, as the names from the root on. -/
abbrev Location := List String

/-- The length in bytes of the path of a location from the root. -/
def Location.size (location : Location) : Nat :=
  location.foldl (fun size name => size + 1 + name.utf8ByteSize) 0

namespace Path

/-- A name inside a directory. -/
def join (directory name : String) : String :=
  if directory.isEmpty || directory.toList.getLast? == some '/' then directory ++ name
  else directory ++ "/" ++ name

/-- The parts of a text between slashes. -/
def split : (path : List Char) → List (List Char)
  | [] => [[]]
  | c :: cs =>
    match split cs with
    | [] => [[c]]
    | part :: parts => if c = '/' then [] :: part :: parts else (c :: part) :: parts

/-- Whether a path begins at the root. -/
def isAbsolute (path : String) : Bool :=
  path.toList.head? == some '/'

/-- Whether a path ends in a slash. -/
def endsInSlash (path : String) : Bool :=
  path.toList.getLast? == some '/'

/-- The names of a path in order: whatever stands between slashes, one dot and two dots too. -/
def names (path : String) : List String :=
  ((split path.toList).map String.ofList).filter (· != "")

/-- The names of a path as they are followed. A slash at the end asks for a directory, just like one
dot after it would. -/
def steps (path : String) : List String :=
  if endsInSlash path then names path ++ ["."] else names path

/-- The names of a path that name something: those other than one dot. -/
def properNames (path : String) : List String :=
  (names path).filter (· != ".")

/-- The names of the directory that holds what a path leads to. -/
def parentNames (path : String) : List String :=
  (properNames path).dropLast

/-- The locations that names pass from a location on, if two dots undo the name before them. -/
def passed (location : Location) : List String → List Location
  | [] => []
  | name :: names =>
    let next :=
      if name = "." then location
      else if name = ".." then location.dropLast
      else location ++ [name]
    next :: passed next names

/-- The path of a location. -/
def ofLocation (location : Location) : String :=
  "/" ++ "/".intercalate location

end Path

end ReviewPipeline
