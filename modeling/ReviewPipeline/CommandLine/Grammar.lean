import ReviewPipeline.CommandLine.Command
import ReviewPipeline.Text.Digits

/-!
# The Grammar of the Command Line

Which words and which flags there are. A command line goes down through levels: the root, a group
of commands, and a single command. Each level has flags of its own; the global flags and the one
for help belong to every level.
-/

namespace ReviewPipeline.CommandLine

/-- A flag of the command line. -/
inductive Flag where
  | database | actor | workspace | json | verbose | quiet | noColor
  | help | version
  | force | defaultWorkspace
  | description | issuePrefix | projectLimit | issueLimit | project | status
  | stepType | agent | noAutoAdvance | number
  | notes | reason | error
  deriving DecidableEq, Repr

namespace Flag

/-- The names of a flag after two hyphens. -/
def longNames : Flag → List String
  | database => ["db"]
  | actor => ["actor"]
  | workspace => ["workspace"]
  | json => ["json", "robot"]
  | verbose => ["verbose"]
  | quiet => ["quiet"]
  | noColor => ["no-color"]
  | help => ["help"]
  | version => ["version"]
  | force => ["force"]
  | defaultWorkspace => ["default-workspace"]
  | description => ["description"]
  | issuePrefix => ["issue-prefix"]
  | projectLimit | issueLimit => ["limit"]
  | project => ["project"]
  | status => ["status"]
  | stepType => ["type"]
  | agent => ["agent"]
  | noAutoAdvance => ["no-auto-advance"]
  | number => ["number"]
  | notes => ["notes"]
  | reason => ["reason"]
  | error => ["error"]

/-- The letter of a flag after one hyphen, if it has one. -/
def letter? : Flag → Option Char
  | verbose => some 'v'
  | quiet => some 'q'
  | help => some 'h'
  | version => some 'V'
  | description => some 'd'
  | issuePrefix => some 'p'
  | projectLimit | issueLimit => some 'l'
  | status => some 's'
  | stepType => some 't'
  | notes => some 'n'
  | reason => some 'r'
  | _ => none

/-- Whether a flag takes a value. -/
def takesValue : Flag → Bool
  | json | verbose | quiet | noColor | help | version | force | noAutoAdvance => false
  | _ => true

/-- Whether a flag may be given more than once at the same level. -/
def isRepeatable : Flag → Bool
  | verbose => true
  | _ => false

/-- The limit on a list of projects that a value denotes: a number without a minus sign that fits
into 64 bits. -/
def projectLimit? (value : String) : Option Nat :=
  (Text.readUnsigned? value.toList).filter (· ≤ 18446744073709551615)

/-- The limit on a list of issues that a value denotes: a number with or without a sign, from zero
to the greatest that fits into 32 bits. A zero may have a minus sign. -/
def issueLimit? (value : String) : Option Nat :=
  ((Text.readSigned? value.toList).filter fun n => decide (0 ≤ n ∧ n ≤ 4294967295)).map Int.toNat

/-- The number that a step number denotes, if it fits into 64 bits. -/
def stepNumber? (value : String) : Option Int :=
  (Text.readSigned? value.toList).filter fun n =>
    decide (-9223372036854775808 ≤ n ∧ n ≤ 9223372036854775807)

/-- Whether a flag accepts a value: a database has a path, limits and step numbers are whole
numbers in range, and all other values are free texts. -/
def accepts : Flag → String → Bool
  | database, value => !value.isEmpty
  | projectLimit, value => (projectLimit? value).isSome
  | issueLimit, value => (issueLimit? value).isSome
  | number, value => (stepNumber? value).isSome
  | _, _ => true

end Flag

/-- The groups of commands. -/
inductive Group where
  | project | issue | step | pipeline | gate
  deriving DecidableEq, Repr

/-- The single commands. -/
inductive Leaf where
  | init | version | completions
  | projectCreate | projectList | projectShow
  | issueCreate | issueList | issueShow
  | stepAdd | stepList | stepRestaff
  | advance | reject | status | history | reset
  | gateRecord
  deriving DecidableEq, Repr

/-- A level of the command line. -/
inductive Level where
  /-- Before any command. -/
  | root
  /-- Inside a group of commands. -/
  | group (g : Group)
  /-- Inside a single command. -/
  | leaf (l : Leaf)
  deriving DecidableEq, Repr

namespace Level

/-- The words that lead further down, with the levels they lead to. -/
def children : Level → List (String × Level)
  | root =>
    [("init", leaf .init), ("version", leaf .version), ("project", group .project),
      ("issue", group .issue), ("step", group .step), ("pipeline", group .pipeline),
      ("gate", group .gate), ("completions", leaf .completions)]
  | group .project =>
    [("create", leaf .projectCreate), ("list", leaf .projectList), ("show", leaf .projectShow)]
  | group .issue =>
    [("create", leaf .issueCreate), ("list", leaf .issueList), ("show", leaf .issueShow)]
  | group .step =>
    [("add", leaf .stepAdd), ("list", leaf .stepList), ("restaff", leaf .stepRestaff)]
  | group .pipeline =>
    [("advance", leaf .advance), ("reject", leaf .reject), ("status", leaf .status),
      ("history", leaf .history), ("reset", leaf .reset)]
  | group .gate => [("record", leaf .gateRecord)]
  | leaf _ => []

/-- The level below that a word leads to. -/
def child? (level : Level) (word : String) : Option Level :=
  level.children.lookup word

/-- Whether a level is one that commands are still to follow. -/
def hasCommands : Level → Bool
  | leaf _ => false
  | _ => true

/-- The flags of every level. -/
def globalFlags : List Flag :=
  [.database, .actor, .workspace, .json, .verbose, .quiet, .noColor, .help]

/-- The flags of one level only. -/
def ownFlags : Level → List Flag
  | root => [.version]
  | leaf .init => [.force, .defaultWorkspace]
  | leaf .projectCreate => [.description, .issuePrefix]
  | leaf .projectList => [.projectLimit]
  | leaf .issueCreate => [.project, .description]
  | leaf .issueList => [.project, .status, .issueLimit]
  | leaf .stepAdd => [.project, .stepType, .agent, .noAutoAdvance, .number]
  | leaf .stepList => [.project]
  | leaf .stepRestaff => [.agent]
  | leaf .advance => [.agent, .notes]
  | leaf .reject => [.reason, .agent]
  | leaf .gateRecord => [.error]
  | _ => []

/-- All flags of a level. -/
def flags (level : Level) : List Flag :=
  globalFlags ++ level.ownFlags

/-- The flag that a long name means at a level. -/
def flagNamed? (level : Level) (name : String) : Option Flag :=
  level.flags.find? fun flag => flag.longNames.contains name

/-- The flag that a letter means at a level. -/
def flagLettered? (level : Level) (letter : Char) : Option Flag :=
  level.flags.find? fun flag => flag.letter? == some letter

/-- How many words a level takes besides flags. -/
def wordCount : Level → Nat
  | leaf .completions | leaf .projectCreate | leaf .projectShow | leaf .issueCreate
  | leaf .issueShow | leaf .stepAdd | leaf .stepRestaff | leaf .advance | leaf .reject
  | leaf .status | leaf .history | leaf .reset => 1
  | leaf .gateRecord => 2
  | _ => 0

/-- Whether a level accepts a word: completions are for a known shell, and all other words are
free texts. -/
def acceptsWord : Level → String → Bool
  | leaf .completions, word => (Shell.ofName? word).isSome
  | _, _ => true

end Level

end ReviewPipeline.CommandLine
