import ReviewPipeline.CommandLine.Answer
import ReviewPipeline.CommandLine.Grammar

/-!
# Help and Completions

The text that is shown when help is asked for or the arguments are refused, and the scripts that
let a shell complete the words of the command line. Both are read off the grammar.
-/

namespace ReviewPipeline.CommandLine

/-- The name of the program. -/
def programName : String := "pipectl"

/-- A flag in a line of help: its long name, and a place for a value if it takes one. -/
def Flag.usage (flag : Flag) : String :=
  let name := "--" ++ flag.longNames.headD ""
  if flag.takesValue then name ++ " <VALUE>" else name

namespace Level

/-- The single commands below a level, each with the words that lead to it. -/
def commandsBelow (level : Level) : List (List String × Level) :=
  level.children.flatMap fun (word, child) =>
    if child.hasCommands then child.children.map fun (next, single) => ([word, next], single)
    else [([word], child)]

/-- The line of help for the single command that these words lead to. -/
def usage (words : List String) (level : Level) : String :=
  let arguments := List.replicate level.wordCount "<ARGUMENT>"
  let flags := level.ownFlags.map fun flag => "[" ++ flag.usage ++ "]"
  "  " ++ " ".intercalate (words ++ arguments ++ flags)

end Level

/-- The lines of help. -/
def usageLines : List String :=
  let commands := Level.root.commandsBelow.map fun (words, single) => single.usage words
  let flags := (Level.globalFlags ++ Level.root.ownFlags).map fun flag => "  " ++ flag.usage
  [programName ++ " " ++ programVersion, "", "Usage: " ++ programName ++ " [FLAGS] <COMMAND>", "",
    "Commands:"] ++ commands ++ ["", "Flags:"] ++ flags

/-- The words that a shell offers: the commands and the long names of the flags. -/
def completionWords : List String :=
  let commands := Level.root.commandsBelow.flatMap (·.1)
  let own := Level.root.commandsBelow.flatMap (·.2.ownFlags)
  let flags := (Level.globalFlags ++ Level.root.ownFlags ++ own).flatMap (·.longNames)
  (commands ++ flags.map ("--" ++ ·)).eraseDups

/-- The script with which a shell completes the words of the command line. -/
def Shell.script (shell : Shell) : List String :=
  let words := " ".intercalate completionWords
  let quoted := " ".intercalate (completionWords.map fun word => "'" ++ word ++ "'")
  match shell with
  | bash => ["complete -W \"" ++ words ++ "\" " ++ programName]
  | zsh =>
    ["#compdef " ++ programName, "_" ++ programName ++ "() \x7b compadd -- " ++ words ++ " \x7d",
      "compdef _" ++ programName ++ " " ++ programName]
  | fish => ["complete -c " ++ programName ++ " -f -a \"" ++ words ++ "\""]
  | powerShell =>
    ["Register-ArgumentCompleter -Native -CommandName " ++ programName ++ " -ScriptBlock \x7b",
      "  param($word)", "  -split \"" ++ words ++ "\" | Where-Object \x7b $_ -like \"$word*\" \x7d",
      "\x7d"]
  | elvish =>
    ["set edit:completion:arg-completer[" ++ programName ++ "] = \x7b|@words| put " ++ quoted
      ++ " \x7d"]

end ReviewPipeline.CommandLine
