import ReviewPipeline.CommandLine.Execution
import ReviewPipeline.CommandLine.Report

/-!
# At the Terminal

One command from its arguments to what is printed and the exit code. The answer is printed as JSON
if that is asked for or if the output is no terminal, and otherwise as a report for people.

Three things are left out. The log that can be asked for goes to the standard error output, too, and
changes nothing else. The outputs take all that is printed on them. And a command reads the clock
once: whatever it stores bears the same time.
-/

namespace ReviewPipeline.CommandLine

/-- Where the output of a command goes. -/
structure Screen where
  /-- Whether it is a terminal. -/
  isTerminal : Bool
  /-- Whether it shows colours. -/
  hasColors : Bool
  deriving DecidableEq, Repr

/-- What a command that was carried out comes to. -/
structure Finished where
  /-- What it prints, or why it failed. -/
  outcome : Except Error String
  /-- Whether it speaks JSON. -/
  json : Bool
  /-- Whether messages for people about errors are left out. -/
  quiet : Bool

namespace Finished

/-- The exit code. -/
def exitCode (f : Finished) : Nat :=
  match f.outcome with
  | .ok _ => 0
  | .error e => e.exitCode

/-- What stands on the standard output. -/
def stdout (f : Finished) : String :=
  match f.outcome with
  | .ok text => text
  | .error _ => ""

/-- An error in words for people. -/
def errorText (e : Error) : String :=
  match e.hint with
  | some hint => "Error: " ++ e.message ++ "\n  Hint: " ++ hint ++ "\n"
  | none => "Error: " ++ e.message ++ "\n"

/-- Why the program broke off, if it did. -/
def crash? (f : Finished) : Option Crash :=
  match f.outcome with
  | .error (.crashed cause) => some cause
  | _ => none

/-- What stands on the standard error output. Where the program breaks off, nothing is asked about
the output any more. -/
def stderr (f : Finished) : String :=
  match f.outcome with
  | .ok _ => ""
  | .error (.crashed cause) => cause.message ++ "\n"
  | .error e =>
    if f.json then e.toJson.compact ++ "\n"
    else if f.quiet then ""
    else errorText e

end Finished

/-- What a command line comes to. -/
inductive Ended where
  /-- Help or the version was shown. -/
  | helped
  /-- The arguments were refused. -/
  | refused
  /-- Completions for a shell were printed. -/
  | completions (shell : Shell)
  /-- A command was carried out. -/
  | finished (result : Finished)

/-- The exit code of a command line. -/
def Ended.exitCode : Ended → Nat
  | helped | completions _ => 0
  | refused => 2
  | finished result => result.exitCode

/-- An answer as it is printed. -/
def printed (env : Environment) (json isColored : Bool) (answer : Answer) : Except Error String :=
  if json then (answer.told env).map fun value => value.compact ++ "\n"
  else answer.report isColored

/-- Whether a command speaks JSON. -/
def speaksJson (screen : Screen) (inv : Invocation) : Bool :=
  inv.json || !screen.isTerminal

/-- Carry out a command and print its answer. -/
def runInvocation (env : Environment) (stamp : Stamp) (screen : Screen) (inv : Invocation)
    (files : Files) : Ended × Files :=
  let (answer, files) := execute env stamp inv files
  let json := speaksJson screen inv
  match answer with
  | .ok (.completions shell) => (.completions shell, files)
  | answer =>
    let outcome := answer.bind (printed env json (screen.hasColors && !inv.noColor))
    (.finished { outcome := outcome, json := json, quiet := inv.quiet }, files)

/-- Run a command line: what it comes to, and the files after it. -/
def run (env : Environment) (stamp : Stamp) (screen : Screen) (arguments : List String)
    (files : Files) : Ended × Files :=
  match read env arguments with
  | .error .helped => (.helped, files)
  | .error .refused => (.refused, files)
  | .ok inv => runInvocation env stamp screen inv files

end ReviewPipeline.CommandLine
