import ReviewPipeline.Json.Basic
import ReviewPipeline.Text.Digits

/-!
# Writing JSON

Two layouts of the same text: on one line without blanks, and with each item on a line of its own,
indented by two blanks a level. Strings are quoted with the short escapes where there are some,
and other control characters as four hexadecimal digits; all other characters stand for
themselves.
-/

namespace ReviewPipeline.Json

/-- A character inside a quoted string. -/
def escape (c : Char) : List Char :=
  if c = '"' then ['\\', '"']
  else if c = '\\' then ['\\', '\\']
  else if c = '\n' then ['\\', 'n']
  else if c = '\r' then ['\\', 'r']
  else if c = '\t' then ['\\', 't']
  else if c = '\x08' then ['\\', 'b']
  else if c = '\x0c' then ['\\', 'f']
  else if c.toNat < 0x20 then '\\' :: 'u' :: Text.fixedWidth 16 4 c.toNat
  else [c]

/-- A quoted string. -/
def quote (s : String) : List Char :=
  '"' :: (s.toList.flatMap escape ++ ['"'])

/-- The parts of a list with a separator between them. -/
def separated (separator : List Char) (parts : List (List Char)) : List Char :=
  separator.intercalate parts

mutual

/-- The text of a value on one line. -/
def compactChars : Json → List Char
  | null => "null".toList
  | bool b => (if b then "true" else "false").toList
  | int n => Text.decimalInt n
  | decimal text => text.toList
  | str s => quote s
  | arr items => '[' :: (separated [','] (compactItems items) ++ [']'])
  | obj members => '{' :: (separated [','] (compactMembers members) ++ ['}'])

/-- The texts of the items of a list. -/
def compactItems : List Json → List (List Char)
  | [] => []
  | item :: items => compactChars item :: compactItems items

/-- The texts of the members of an object. -/
def compactMembers : List (String × Json) → List (List Char)
  | [] => []
  | (name, value) :: members => (quote name ++ ':' :: compactChars value) :: compactMembers members

end

/-- The text of a value on one line, without blanks. -/
def compact (value : Json) : String :=
  String.ofList (compactChars value)

/-- The start of a line at a level of indentation. -/
def newLine (level : Nat) : List Char :=
  '\n' :: List.replicate (2 * level) ' '

/-- Parts on lines of their own between two brackets; nothing stands between them if there are no
parts. -/
def block (opening closing : Char) (level : Nat) (parts : List (List Char)) : List Char :=
  if parts.isEmpty then [opening, closing]
  else
    opening :: (newLine (level + 1) ++ separated (',' :: newLine (level + 1)) parts
      ++ newLine level ++ [closing])

mutual

/-- The indented text of a value at a level. -/
def prettyChars (level : Nat) : Json → List Char
  | null => "null".toList
  | bool b => (if b then "true" else "false").toList
  | int n => Text.decimalInt n
  | decimal text => text.toList
  | str s => quote s
  | arr items => block '[' ']' level (prettyItems (level + 1) items)
  | obj members => block '{' '}' level (prettyMembers (level + 1) members)

/-- The indented texts of the items of a list. -/
def prettyItems (level : Nat) : List Json → List (List Char)
  | [] => []
  | item :: items => prettyChars level item :: prettyItems level items

/-- The indented texts of the members of an object. -/
def prettyMembers (level : Nat) : List (String × Json) → List (List Char)
  | [] => []
  | (name, value) :: members =>
    (quote name ++ ':' :: ' ' :: prettyChars level value) :: prettyMembers level members

end

/-- The indented text of a value. -/
def pretty (value : Json) : String :=
  String.ofList (prettyChars 0 value)

end ReviewPipeline.Json
