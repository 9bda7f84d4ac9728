import ReviewPipeline.Database.Basic
import ReviewPipeline.Files.Path

/-!
# Files

The part of a file system that the command line works with: directories, text files, and files
that hold a database. A path is followed name by name from the root or from the working directory,
and everything that is passed on the way has to be a directory; so two dots undo a name only if
there is a directory of that name.
-/

namespace ReviewPipeline

/-- How a database keeps what it may have to undo or redo. -/
inductive Journaling where
  /-- What a change overwrites is kept in a journal until the change is complete. -/
  | rollback
  /-- Changes are written to a log first, and are carried over when the database is closed. -/
  | ahead
  deriving DecidableEq, Repr

/-- What a file holds. -/
inductive Content where
  /-- Text. -/
  | text (s : String)
  /-- Bytes that are no text in UTF-8. -/
  | binary
  /-- A database. -/
  | database (db : Database) (journaling : Journaling)
  deriving DecidableEq, Repr

/-- What a path leads to. -/
inductive Node where
  /-- A directory. -/
  | directory
  /-- A file. -/
  | file (content : Content)
  deriving DecidableEq, Repr

/-- Why the file system refused. -/
inductive FileFault where
  /-- There is nothing at the path. -/
  | missing
  /-- There already is something at the path. -/
  | alreadyThere
  /-- A part of the path that should be a directory is a file. -/
  | notADirectory
  /-- The path leads to a directory. -/
  | isADirectory
  /-- A name or the whole path is too long. -/
  | tooLong
  /-- The path has a NUL in it. -/
  | holdsNul
  /-- The file holds no text. -/
  | notText
  deriving DecidableEq, Repr

/-- The text of a refusal. -/
def FileFault.message : FileFault → String
  | missing => "No such file or directory (os error 2)"
  | alreadyThere => "File exists (os error 17)"
  | notADirectory => "Not a directory (os error 20)"
  | isADirectory => "Is a directory (os error 21)"
  | tooLong => "File name too long (os error 36)"
  | holdsNul => "file name contained an unexpected NUL byte"
  | notText => "stream did not contain valid UTF-8"

/-- A file system, as the nodes below its root. -/
structure Files where
  /-- The nodes with their locations. -/
  nodes : List (Location × Node) := []
  /-- The working directory, where paths that do not begin at the root begin. -/
  workingDirectory : Location := []
  deriving Repr

namespace Files

/-- The greatest length of a name in bytes. -/
def longestName : Nat := 255

/-- The greatest length of a path in bytes. -/
def longestPath : Nat := 4095

/-! ## Nodes and locations -/

/-- The node at a location. The working directory and what is above it are always there. -/
def at? (files : Files) (location : Location) : Option Node :=
  if location.isPrefixOf files.workingDirectory then some .directory
  else files.nodes.lookup location

/-- Put a node at a location. -/
def put (files : Files) (location : Location) (node : Node) : Files :=
  { files with nodes := (location, node) :: files.nodes.filter (·.1 != location) }

/-- Take the node at a location away. -/
def drop (files : Files) (location : Location) : Files :=
  { files with nodes := files.nodes.filter (·.1 != location) }

/-- Follow names from a location. What is passed has to be a directory; the last name may name
nothing. -/
def follow (files : Files) (location : Location) : List String → Except FileFault Location
  | [] => .ok location
  | name :: names =>
    match files.at? location with
    | none => .error .missing
    | some (.file _) => .error .notADirectory
    | some .directory =>
      if name = "." then files.follow location names
      else if name = ".." then files.follow location.dropLast names
      else if longestName < name.utf8ByteSize then .error .tooLong
      else files.follow (location ++ [name]) names

/-- Where a path begins. -/
def start (files : Files) (path : String) : Location :=
  if Path.isAbsolute path then [] else files.workingDirectory

/-- The location that a path leads to, whether there is something or not. -/
def locate (files : Files) (path : String) : Except FileFault Location :=
  if path.toList.contains '\x00' then .error .holdsNul
  else if path.isEmpty then .error .missing
  else if longestPath < path.utf8ByteSize then .error .tooLong
  else files.follow (files.start path) (Path.steps path)

/-- The node that a path leads to, with its location. -/
def node? (files : Files) (path : String) : Except FileFault (Location × Node) := do
  let location ← files.locate path
  match files.at? location with
  | some node => return (location, node)
  | none => throw .missing

/-- Whether a path leads to something. -/
def exists? (files : Files) (path : String) : Bool :=
  (files.node? path).toOption.isSome

/-! ## Directories -/

/-- The length in bytes of a path that has these names. -/
def pathSize (absolute : Bool) (names : List String) : Nat :=
  if absolute then Location.size names else Location.size names - 1

/-- Make the directory that names lead to from a location. -/
def makeDirectory (files : Files) (start : Location) (names : List String) :
    Except FileFault Files := do
  if names.any (·.toList.contains '\x00') then
    throw .holdsNul
  if longestPath < pathSize start.isEmpty names then
    throw .tooLong
  let parent ← files.follow start (names.dropLast ++ ["."])
  let last := names.getLastD ".."
  if last = ".." then
    throw .alreadyThere
  let location ← files.follow parent [last]
  match files.at? location with
  | some _ => throw .alreadyThere
  | none => return files.put location .directory

/-- Whether names lead to a directory from a location. -/
def isDirectory (files : Files) (start : Location) (names : List String) : Bool :=
  (files.follow start (names ++ ["."])).toOption.isSome

/-- Make a directory; that there already is one is no fault. -/
def ensureDirectory (files : Files) (start : Location) (names : List String) :
    Except FileFault Files :=
  match files.makeDirectory start names with
  | .error .alreadyThere =>
    if files.isDirectory start names then .ok files else .error .alreadyThere
  | result => result

/-- Make the directory that names, given from the last to the first, lead to, and those above it
as far as they are missing. What was made stays if a later one cannot be made. -/
def ensureDirectories (files : Files) (start : Location) :
    List String → Except FileFault Unit × Files
  | [] => (.ok (), files)
  | name :: above =>
    match files.ensureDirectory start (name :: above).reverse with
    | .ok files => (.ok (), files)
    | .error .missing =>
      match files.ensureDirectories start above with
      | (.error fault, files) => (.error fault, files)
      | (.ok (), files) =>
        match files.ensureDirectory start (name :: above).reverse with
        | .ok files => (.ok (), files)
        | .error fault => (.error fault, files)
    | .error fault => (.error fault, files)

/-- Make the directory that a path leads to, and those above it. -/
def makeDirectories (files : Files) (path : String) : Except FileFault Unit × Files :=
  files.ensureDirectories (files.start path) (Path.properNames path).reverse

/-- Make the directory that holds what a path leads to, and those above it. -/
def makeParents (files : Files) (path : String) : Except FileFault Unit × Files :=
  files.ensureDirectories (files.start path) (Path.parentNames path).reverse

/-! ## Files -/

/-- Write a text file, over an old one if there is one. -/
def writeText (files : Files) (path text : String) : Except FileFault Files := do
  let location ← files.locate path
  match files.at? location with
  | some .directory => throw .isADirectory
  | _ => return files.put location (.file (.text text))

/-- Read a text file. -/
def readText (files : Files) (path : String) : Except FileFault String := do
  match ← files.node? path with
  | (_, .directory) => throw .isADirectory
  | (_, .file (.text text)) => return text
  | (_, .file _) => throw .notText

/-- Remove a file. -/
def remove (files : Files) (path : String) : Except FileFault Files := do
  match ← files.node? path with
  | (_, .directory) => throw .isADirectory
  | (location, .file _) => return files.drop location

/-- Remove the files at these paths, as far as there is something, up to the first that cannot be
removed. -/
def removeAll (files : Files) : List String → Except FileFault Unit × Files
  | [] => (.ok (), files)
  | path :: rest =>
    if files.exists? path then
      match files.remove path with
      | .ok files => files.removeAll rest
      | .error fault => (.error fault, files)
    else files.removeAll rest

end Files

end ReviewPipeline
