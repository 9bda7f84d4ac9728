import ReviewPipeline.Database.Document
import ReviewPipeline.Files
import ReviewPipeline.Json.Parser
import ReviewPipeline.Json.Printer

/-!
# Files on a Disk

How the files that a command works with are read from a disk and written back. What is to be
written is a list of plain actions, found by comparing the files before and after the command, so
that whatever carries the actions out has nothing left to decide.
-/

namespace ReviewPipeline

namespace Journaling

/-- The word of a way to journal. -/
def word : Journaling → String
  | rollback => "rollback"
  | ahead => "ahead"

/-- The words of ways to journal; there are no synonyms. -/
def vocabulary : Vocabulary Journaling where
  label := "journaling"
  values := [rollback, ahead]
  word := word
  synonyms := []

end Journaling

namespace Content

/-- The names of the fields of a database file, in the order in which they are written. -/
def fieldNames : List String := ["journaling", "database"]

/-- The text of the file of a database. -/
def databaseText (db : Database) (journaling : Journaling) : String :=
  (Json.obj [("journaling", .str journaling.word), ("database", db.toJson)]).compact ++ "\n"

/-- Read the text of the file of a database. -/
def ofDatabaseText? (text : String) : Option Content := do
  let value ← Json.parse? text
  let fields ← value.fields? fieldNames
  let journaling ← fields.required "journaling" (Json.word? Journaling.vocabulary)
  let db ← fields.required "database" Database.ofJson?
  return .database db journaling

/-- What these bytes of a file hold: text if they are UTF-8, and a database if the text is the one
of a database. -/
def ofBytes (bytes : ByteArray) : Content :=
  match String.fromUTF8? bytes with
  | none => .binary
  | some s => (ofDatabaseText? s).getD (.text s)

/-- The text that is written for a content, where it has one. -/
def toText? : Content → Option String
  | text s => some s
  | binary => none
  | database db journaling => some (databaseText db journaling)

end Content

/-- One change of a disk. -/
inductive DiskAction where
  /-- Make a directory. -/
  | makeDirectory (path : String)
  /-- Write a file, over an old one if there is one. -/
  | writeFile (path text : String)
  /-- Remove a file. -/
  | removeFile (path : String)
  deriving DecidableEq, Repr

namespace Files

/-- What puts a node at a location. -/
def actionFor (location : Location) : Node → List DiskAction
  | .directory => [.makeDirectory (Path.ofLocation location)]
  | .file content =>
    match content.toText? with
    | some text => [.writeFile (Path.ofLocation location) text]
    | none => []

/-- The actions that turn one state of the files into a later one: what is new or changed is
written, the older locations first, and then what is gone is removed. -/
def actionsTo (old new : Files) : List DiskAction :=
  let written := new.nodes.reverse.flatMap fun (location, node) =>
    if old.nodes.lookup location = some node then [] else actionFor location node
  let removed := old.nodes.flatMap fun (location, _) =>
    if (new.nodes.lookup location).isNone then [DiskAction.removeFile (Path.ofLocation location)]
    else []
  written ++ removed

end Files

end ReviewPipeline
