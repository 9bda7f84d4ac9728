import ReviewPipeline.Json.Parser
import ReviewPipeline.Json.Printer
import ReviewPipeline.Json.Record

/-!
# Settings

The settings file is a JSON record with two optional fields. Fields that are not set are left out
when the settings are written.
-/

namespace ReviewPipeline

/-- The settings. -/
structure Settings where
  /-- The workspace used when none is named otherwise. -/
  defaultWorkspace : Option String := none
  /-- How long a writer waits for a locked database, in milliseconds. -/
  busyTimeoutMs : Option Nat := none
  deriving DecidableEq, Repr

namespace Settings

/-- The names of the fields, in the order in which they are written. -/
def fieldNames : List String := ["default_workspace", "busy_timeout_ms"]

/-- The settings as a record; fields that are not set are left out. -/
def toJson (s : Settings) : Json :=
  let workspace :=
    match s.defaultWorkspace with
    | some workspace => [("default_workspace", Json.str workspace)]
    | none => []
  let timeout :=
    match s.busyTimeoutMs with
    | some ms => [("busy_timeout_ms", Json.int ms)]
    | none => []
  .obj (workspace ++ timeout)

/-- Read the settings from a record. Both fields have a default, so either may be left out. -/
def ofJson? (value : Json) : Option Settings := do
  let fields ← value.fields? fieldNames
  let workspace ← fields.withDefault "default_workspace" (Json.Fields.nullable Json.text?) none
  let timeout ← fields.withDefault "busy_timeout_ms" (Json.Fields.nullable Json.uint64?) none
  return { defaultWorkspace := workspace, busyTimeoutMs := timeout }

/-- The text of a settings file. -/
def toText (s : Settings) : String :=
  s.toJson.pretty

/-- Read the text of a settings file. -/
def ofText? (text : String) : Option Settings :=
  (Json.parseRecord? fieldNames text).bind ofJson?

end Settings

end ReviewPipeline
