import ReviewPipeline.Stamp
import ReviewPipeline.Text.Case

/-!
# Projects

A project belongs to a workspace, owns a catalog of steps, and numbers its issues under a prefix
of its own.
-/

namespace ReviewPipeline

/-- A project. -/
structure Project where
  /-- The identifier, which starts with `proj_`. -/
  id : String
  /-- The name shown to people. -/
  name : String
  /-- The workspace that owns the project. -/
  workspaceId : String
  /-- An optional description. -/
  description : Option String
  /-- The first part of the short identifiers of the project's issues. -/
  issuePrefix : Option String
  /-- The number of the next issue, a signed 32-bit number. -/
  nextIssueNumber : Int
  /-- When the project was created. -/
  createdAt : Int
  /-- When the project was last changed. -/
  updatedAt : Int
  deriving DecidableEq, Repr

namespace Project

/-- The prefix of a project that has none of its own. -/
def fallbackPrefix : String := "PIPE"

/-- The prefix derived from a name: its first four letters or digits of ASCII in upper case. -/
def derivedPrefix (name : String) : String :=
  let kept := ((name.toList.filter Text.isAsciiAlphanumeric).take 4).map Text.asciiUpper
  if kept.isEmpty then fallbackPrefix else String.ofList kept

/-- A new project of a workspace, with the prefix derived from its name. -/
def create (stamp : Stamp) (name workspaceId : String) : Project where
  id := stamp.identifier "proj"
  name := name
  workspaceId := workspaceId
  description := none
  issuePrefix := some (derivedPrefix name)
  nextIssueNumber := 1
  createdAt := stamp.now
  updatedAt := stamp.now

/-- The prefix under which the issues are numbered. -/
def effectivePrefix (p : Project) : String :=
  p.issuePrefix.getD fallbackPrefix

/-- The short identifier of the next issue: prefix, hyphen, number. -/
def nextShortId (p : Project) : String :=
  p.effectivePrefix ++ "-" ++ Text.showInt p.nextIssueNumber

end Project

end ReviewPipeline
