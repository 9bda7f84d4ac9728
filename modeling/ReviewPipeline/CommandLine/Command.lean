/-!
# Commands

What a command line can ask for, once it is read: the command with its arguments, and the global
choices that go with every command.
-/

namespace ReviewPipeline.CommandLine

/-- The shells for which completions can be written. -/
inductive Shell where
  | bash | zsh | fish | powerShell | elvish
  deriving DecidableEq, Repr

/-- The shell with a name. -/
def Shell.ofName? : String → Option Shell
  | "bash" => some bash
  | "zsh" => some zsh
  | "fish" => some fish
  | "power-shell" => some powerShell
  | "elvish" => some elvish
  | _ => none

/-- Commands about projects. -/
inductive ProjectCommand where
  /-- Create a project in the active workspace. -/
  | create (name : String) (description issuePrefix : Option String)
  /-- List the projects of the active workspace. -/
  | list (limit : Nat)
  /-- Show a project and its catalog. -/
  | inspect (id : String)
  deriving DecidableEq, Repr

/-- Commands about issues. -/
inductive IssueCommand where
  /-- Create an issue. -/
  | create (title project : String) (description : Option String)
  /-- List the issues of a project. -/
  | list (project : String) (status : Option String) (limit : Nat)
  /-- Show an issue. -/
  | inspect (id : String)
  deriving DecidableEq, Repr

/-- Commands about the catalog of steps. -/
inductive StepCommand where
  /-- Add a step. -/
  | add (name project stepType : String) (agent : Option String) (autoAdvance : Bool)
      (number : Option Int)
  /-- List the steps of a project. -/
  | list (project : String)
  /-- Assign a step to another agent, or to none. -/
  | restaff (id : String) (agent : Option String)
  deriving DecidableEq, Repr

/-- Commands that move an issue through its pipeline, or look at it. -/
inductive PipelineCommand where
  /-- Complete the current step. -/
  | advance (issue : String) (agent notes : Option String)
  /-- Reject the current step. -/
  | reject (issue reason : String) (agent : Option String)
  /-- Show where an issue is. -/
  | status (issue : String)
  /-- Show the ledger of an issue. -/
  | history (issue : String)
  /-- Clear the place of an issue. -/
  | reset (issue : String)
  deriving DecidableEq, Repr

/-- A command. -/
inductive Command where
  /-- Make the database. -/
  | init (force : Bool) (defaultWorkspace : Option String)
  /-- Show the version. -/
  | version
  /-- A command about projects. -/
  | project (command : ProjectCommand)
  /-- A command about issues. -/
  | issue (command : IssueCommand)
  /-- A command about steps. -/
  | step (command : StepCommand)
  /-- A command about pipelines. -/
  | pipeline (command : PipelineCommand)
  /-- Record a signal of the context gate. -/
  | recordGate (issue status : String) (error : Option String)
  /-- Write completions for a shell. -/
  | completions (shell : Shell)
  deriving DecidableEq, Repr

/-- A command line that was read: a command and the global choices. -/
structure Invocation where
  /-- The command. -/
  command : Command
  /-- The database named on the command line or by its variable. -/
  database : Option String
  /-- The actor named on the command line or by its variable. -/
  actor : Option String
  /-- The workspace named on the command line or by its variable. -/
  workspace : Option String
  /-- Whether JSON is asked for even on a terminal. -/
  json : Bool
  /-- Whether messages for people about errors are left out. -/
  quiet : Bool
  /-- Whether colours are left out even on a terminal. -/
  noColor : Bool
  deriving DecidableEq, Repr

end ReviewPipeline.CommandLine
