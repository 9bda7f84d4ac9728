import ReviewPipeline.CommandLine.Grammar
import ReviewPipeline.Configuration

/-!
# Reading a Command Line

From the arguments of a command to an `Invocation`. Arguments are read from left to right, and the
first thing that decides the outcome does so: a request for help, or something that does not
belong there. What is missing is found at the end.

A value that stands in an argument of its own is held back: it is looked at when the next flag or
argument of the same level is reached, or at the end. So a command or a request for help below
comes before it.

Global flags may stand at any level; the innermost level that has one decides. Where no level has
one, its environment variable stands in, even with an empty value; only a database cannot be
empty.
-/

namespace ReviewPipeline.CommandLine

/-- Flags as they were given, with their values; flags without a value have an empty one. -/
abbrev Given := List (Flag × String)

/-- Where the flags of one argument end. -/
inductive Tail where
  /-- The argument is complete. -/
  | complete
  /-- The value of the last flag is the next argument. -/
  | awaits (flag : Flag)
  /-- The rest of the argument means nothing. -/
  | unknown

/-- The flags that one argument gives. -/
structure Bundle where
  /-- The flags that are complete. -/
  given : Given
  /-- Where they end. -/
  tail : Tail

/-- What reading a command line comes to, other than a command. -/
inductive Ending where
  /-- Help or the version is asked for. -/
  | helped
  /-- The arguments are refused. -/
  | refused
  deriving DecidableEq, Repr

/-- Split the name of a long flag from the value after an equals sign. -/
def splitEquals (cs : List Char) : String × Option String :=
  match cs.span (· ≠ '=') with
  | (name, '=' :: value) => (String.ofList name, some (String.ofList value))
  | (name, _) => (String.ofList name, none)

/-- The flag of an argument after two hyphens. -/
def longBundle (level : Level) (cs : List Char) : Bundle :=
  let (name, value) := splitEquals cs
  match level.flagNamed? name, value with
  | none, _ => ⟨[], .unknown⟩
  | some flag, some value =>
    if flag.takesValue then ⟨[(flag, value)], .complete⟩ else ⟨[], .unknown⟩
  | some flag, none => if flag.takesValue then ⟨[], .awaits flag⟩ else ⟨[(flag, "")], .complete⟩

/-- The value that is attached to a letter, with or without an equals sign. -/
def attached : List Char → String
  | '=' :: value => String.ofList value
  | value => String.ofList value

/-- The flags of an argument after one hyphen: letters, the last of which may take the rest of the
argument as its value. -/
def shortBundle (level : Level) : List Char → Bundle
  | [] => ⟨[], .complete⟩
  | c :: cs =>
    match level.flagLettered? c with
    | none => ⟨[], .unknown⟩
    | some flag =>
      if flag.takesValue then
        if cs.isEmpty then ⟨[], .awaits flag⟩ else ⟨[(flag, attached cs)], .complete⟩
      else
        let rest := shortBundle level cs
        ⟨(flag, "") :: rest.given, rest.tail⟩

/-- The flags of an argument, if it is one that gives flags. A single hyphen is a word. -/
def bundle? (level : Level) (argument : String) : Option Bundle :=
  match argument.toList with
  | '-' :: '-' :: cs => some (longBundle level cs)
  | ['-'] => none
  | '-' :: cs => some (shortBundle level cs)
  | _ => none

/-- Whether an argument can be the value of the flag before it. -/
def isWord (argument : String) : Bool :=
  argument = "-" || argument.toList.head? != some '-'

/-- The flags of one level. -/
structure Gathered where
  /-- The flags that are taken up. -/
  taken : Given := []
  /-- The flag whose value was the last argument, which is still to be taken up. -/
  held : Option (Flag × String) := none

namespace Gathered

/-- Take up flags, in order. -/
def take (g : Gathered) : Given → Except Ending Gathered
  | [] => .ok g
  | (flag, value) :: rest =>
    if flag = .help ∨ flag = .version then .error .helped
    else if !flag.isRepeatable && g.taken.any (·.1 == flag) then .error .refused
    else if flag.accepts value then { g with taken := g.taken ++ [(flag, value)] }.take rest
    else .error .refused

/-- Take up the flag that is held back. -/
def settle (g : Gathered) : Except Ending Gathered :=
  match g.held with
  | none => .ok g
  | some flag => { g with held := none }.take [flag]

end Gathered

/-- How far a command line has been read. -/
structure Progress where
  /-- The level reached. -/
  level : Level
  /-- The flags of that level. -/
  flags : Gathered
  /-- The words given at that level. -/
  words : List String
  /-- The flags of the levels above, the outermost first. -/
  above : List Gathered
  /-- Whether everything from here on is a word. -/
  wordsOnly : Bool

namespace Progress

/-- Nothing has been read. -/
def start : Progress where
  level := .root
  flags := {}
  words := []
  above := []
  wordsOnly := false

/-- Take up flags after the one that is held back. -/
def take (p : Progress) (given : Given) : Except Ending Progress := do
  let settled ← p.flags.settle
  let flags ← settled.take given
  return { p with flags := flags }

/-- Hold a flag back with its value. -/
def hold (p : Progress) (flag : Flag) (value : String) : Progress :=
  { p with flags := { p.flags with held := some (flag, value) } }

/-- Go down a level. -/
def enter (p : Progress) (level : Level) : Progress where
  level := level
  flags := {}
  words := []
  above := p.above ++ [p.flags]
  wordsOnly := false

/-- Take up a word, as far as the level takes any more and accepts it. -/
def takeWord (p : Progress) (word : String) : Except Ending Progress := do
  -- Nothing is taken up here but the flag that is held back.
  let p ← p.take []
  if p.words.length < p.level.wordCount ∧ p.level.acceptsWord word then
    return { p with words := p.words ++ [word] }
  else throw .refused

/-- Take up a word that is no flag: a command where there are some, else an argument. -/
def descend (p : Progress) (word : String) : Except Ending Progress :=
  if p.level.hasCommands then
    match p.level.child? word with
    | some child => .ok (p.enter child)
    | none => .error .refused
  else p.takeWord word

/-- The flags of all levels, the outermost first, when nothing is left to read. -/
def finish (p : Progress) : Except Ending (List Given) := do
  let levels ← (p.above ++ [p.flags]).mapM Gathered.settle
  return levels.map (·.taken)

end Progress

/-- Whether words after the command `help` lead to a command. -/
def hasHelp : (level : Level) → (words : List String) → Bool
  | _, [] => true
  | level, word :: words =>
    if level.hasCommands && word == "help" then words.isEmpty
    else
      match level.child? word with
      | some child => hasHelp child words
      | none => false

/-- Read the arguments that are left. -/
def readFrom (p : Progress) : List String → Except Ending Progress
  | [] => .ok p
  | argument :: rest =>
    if p.wordsOnly then
      match p.takeWord argument with
      | .error e => .error e
      | .ok p => readFrom p rest
    else if argument = "--" then readFrom { p with wordsOnly := true } rest
    else
      match bundle? p.level argument with
      | some bundle =>
        match p.take bundle.given, bundle.tail with
        | .error e, _ => .error e
        | .ok _, .unknown => .error .refused
        | .ok p, .complete => readFrom p rest
        | .ok p, .awaits flag =>
          -- The value has to be there now, but is looked at only when the flag is taken up.
          match rest with
          | [] => .error .refused
          | value :: rest =>
            if isWord value then readFrom (p.hold flag value) rest else .error .refused
      | none =>
        if p.level.hasCommands && argument == "help" then
          .error (if hasHelp p.level rest then .helped else .refused)
        else
          match p.descend argument with
          | .error e => .error e
          | .ok p => readFrom p rest

/-! ## From flags and words to a command -/

/-- The value of a flag. -/
def Given.value? (given : Given) (flag : Flag) : Option String :=
  given.lookup flag

/-- Whether a flag is given. -/
def Given.has (given : Given) (flag : Flag) : Bool :=
  given.any (·.1 == flag)

/-- The command that flags and words make, if nothing is missing. -/
def command? (given : Given) : Level → List String → Option Command
  | .leaf .init, [] => some (.init (given.has .force) (given.value? .defaultWorkspace))
  | .leaf .version, [] => some .version
  | .leaf .completions, [shell] => (Shell.ofName? shell).map .completions
  | .leaf .projectCreate, [name] =>
    some (.project (.create name (given.value? .description) (given.value? .issuePrefix)))
  | .leaf .projectList, [] =>
    let limit := (given.value? .projectLimit).bind Flag.projectLimit?
    some (.project (.list (limit.getD 50)))
  | .leaf .projectShow, [id] => some (.project (.inspect id))
  | .leaf .issueCreate, [title] =>
    (given.value? .project).map fun project =>
      .issue (.create title project (given.value? .description))
  | .leaf .issueList, [] =>
    let limit := (given.value? .issueLimit).bind Flag.issueLimit?
    (given.value? .project).map fun project =>
      .issue (.list project (given.value? .status) (limit.getD 50))
  | .leaf .issueShow, [id] => some (.issue (.inspect id))
  | .leaf .stepAdd, [name] =>
    (given.value? .project).map fun project =>
      .step
        (.add name project ((given.value? .stepType).getD "agent_work") (given.value? .agent)
          (!given.has .noAutoAdvance) ((given.value? .number).bind Flag.stepNumber?))
  | .leaf .stepList, [] => (given.value? .project).map fun project => .step (.list project)
  | .leaf .stepRestaff, [id] => some (.step (.restaff id (given.value? .agent)))
  | .leaf .advance, [issue] =>
    some (.pipeline (.advance issue (given.value? .agent) (given.value? .notes)))
  | .leaf .reject, [issue] =>
    (given.value? .reason).map fun reason =>
      .pipeline (.reject issue reason (given.value? .agent))
  | .leaf .status, [issue] => some (.pipeline (.status issue))
  | .leaf .history, [issue] => some (.pipeline (.history issue))
  | .leaf .reset, [issue] => some (.pipeline (.reset issue))
  | .leaf .gateRecord, [issue, status] =>
    some (.recordGate issue status (given.value? .error))
  | _, _ => none

/-- The value of a global flag: the one of the innermost level that has it, else the one of its
variable. -/
def globalValue (levels : List Given) (flag : Flag) (fallback : Option String) :
    Option String :=
  (levels.reverse.findSome? (·.value? flag)).or fallback

/-- Whether the variable for the database is empty and stands in at some level. -/
def hasEmptyDatabase (env : Environment) (levels : List Given) : Bool :=
  env.database == some "" && levels.any fun given => !given.has .database

/-- Read a command line in an environment. -/
def read (env : Environment) (arguments : List String) : Except Ending Invocation := do
  let p ← readFrom .start arguments
  let levels ← p.finish
  match command? (levels.getLastD []) p.level p.words with
  | none => throw .refused
  | some command =>
    if hasEmptyDatabase env levels then
      throw .refused
    return {
      command := command
      database := globalValue levels .database env.database
      actor := globalValue levels .actor env.actor
      workspace := globalValue levels .workspace env.workspace
      json := levels.any (·.has .json)
      quiet := levels.any (·.has .quiet)
      noColor := levels.any (·.has .noColor) }

end ReviewPipeline.CommandLine
