import ReviewPipeline.Json.Basic
import ReviewPipeline.Text.Digits

/-!
# Reading JSON

A reader for JSON texts. It accepts exactly the grammar of JSON: no comments, no comma after the
last item, no control characters inside strings, and nothing but blanks after the value.

A string can spell a character outside the basic plane as a pair of surrogates. A surrogate
without its partner spells no character, so a string with one cannot be read. Where a value is
passed over unread, such a string is let through; `Surrogates` says which of the two applies.
-/

namespace ReviewPipeline.Json

/-- What becomes of a surrogate without its partner. -/
inductive Surrogates where
  /-- The text is refused. -/
  | refused
  /-- The text is let through, with a replacement character. -/
  | replaced
  deriving DecidableEq, Repr

/-- The blanks between the parts of a JSON text. -/
def isLayout (c : Char) : Bool :=
  c == ' ' || c == '\n' || c == '\t' || c == '\r'

/-- The text without its leading blanks. -/
def skipLayout (cs : List Char) : List Char :=
  cs.dropWhile isLayout

/-- The text after an expected beginning. -/
def expect? (word : List Char) (cs : List Char) : Option (List Char) :=
  if word.isPrefixOf cs then some (cs.drop word.length) else none

/-- The number that four hexadecimal digits denote. -/
def hex4? (a b c d : Char) : Option Nat := do
  let a ← Text.hexValue? a
  let b ← Text.hexValue? b
  let c ← Text.hexValue? c
  let d ← Text.hexValue? d
  return ((a * 16 + b) * 16 + c) * 16 + d

/-- Whether a code unit is the first half of a pair. -/
def isLeading (unit : Nat) : Bool := 0xD800 ≤ unit && unit ≤ 0xDBFF

/-- Whether a code unit is the second half of a pair. -/
def isTrailing (unit : Nat) : Bool := 0xDC00 ≤ unit && unit ≤ 0xDFFF

/-- The character that a pair of surrogates spells. -/
def joinSurrogates (leading trailing : Nat) : Char :=
  Char.ofNat (0x10000 + (leading - 0xD800) * 0x400 + (trailing - 0xDC00))

/-- The character that a short escape stands for. -/
def unescape? : Char → Option Char
  | '"' => some '"'
  | '\\' => some '\\'
  | '/' => some '/'
  | 'b' => some '\x08'
  | 'f' => some '\x0c'
  | 'n' => some '\n'
  | 'r' => some '\r'
  | 't' => some '\t'
  | _ => none

/-- A part of a string literal: a character that stands for itself or has a short escape, or a
code unit in hexadecimal digits. -/
inductive Piece where
  /-- A character. -/
  | char (c : Char)
  /-- A code unit. -/
  | unit (n : Nat)

/-- Put a part in front of those that were read after it. -/
def consPiece (piece : Piece) (rest : Option (List Piece × List Char)) :
    Option (List Piece × List Char) :=
  rest.map fun r => (piece :: r.1, r.2)

/-- Read the parts of a string up to its closing quote, after the opening one. -/
def pieces : List Char → Option (List Piece × List Char)
  | [] => none
  | '"' :: cs => some ([], cs)
  | '\\' :: 'u' :: a :: b :: c :: d :: cs =>
    match hex4? a b c d with
    | some unit => consPiece (.unit unit) (pieces cs)
    | none => none
  | '\\' :: c :: cs =>
    match unescape? c with
    | some c => consPiece (.char c) (pieces cs)
    | none => none
  | c :: cs => if c.toNat < 0x20 ∨ c = '\\' then none else consPiece (.char c) (pieces cs)

/-- A code unit that is not half of a pair, in front of what follows it. -/
def single (mode : Surrogates) (unit : Nat) (rest : Option (List Char)) : Option (List Char) :=
  if isLeading unit || isTrailing unit then
    match mode with
    | .refused => none
    | .replaced => rest.map ('\uFFFD' :: ·)
  else rest.map (Char.ofNat unit :: ·)

/-- The characters that the parts of a string spell. -/
def spell (mode : Surrogates) : List Piece → Option (List Char)
  | [] => some []
  | .char c :: rest => (spell mode rest).map (c :: ·)
  | .unit u :: .unit v :: rest =>
    if isLeading u && isTrailing v then (spell mode rest).map (joinSurrogates u v :: ·)
    else single mode u (spell mode (.unit v :: rest))
  | .unit u :: rest => single mode u (spell mode rest)

/-- Read a quoted string. -/
def quoted (mode : Surrogates) (cs : List Char) : Option (String × List Char) :=
  match cs with
  | '"' :: cs =>
    match pieces cs with
    | some (parts, rest) => (spell mode parts).map fun s => (String.ofList s, rest)
    | none => none
  | _ => none

/-- Whether a character is a decimal digit. -/
def isDigit (c : Char) : Bool :=
  (Text.digitValue? c).isSome

/-- Read one digit or more. -/
def digits (cs : List Char) : Option (List Char × List Char) :=
  match cs.span isDigit with
  | ([], _) => none
  | (ds, rest) => some (ds, rest)

/-- Read the whole part of a number: one digit or more, with no zero in front of others. -/
def wholePart (cs : List Char) : Option (List Char × List Char) :=
  match digits cs with
  | some ('0' :: _ :: _, _) => none
  | result => result

/-- Read a fraction, if there is one. -/
def fraction (cs : List Char) : Option (List Char × List Char) :=
  match cs with
  | '.' :: cs => (digits cs).map fun r => ('.' :: r.1, r.2)
  | cs => some ([], cs)

/-- Read an exponent, if there is one. -/
def exponent (cs : List Char) : Option (List Char × List Char) :=
  match cs with
  | e :: rest =>
    if e = 'e' ∨ e = 'E' then
      match rest with
      | '+' :: rest => (digits rest).map fun r => (e :: '+' :: r.1, r.2)
      | '-' :: rest => (digits rest).map fun r => (e :: '-' :: r.1, r.2)
      | rest => (digits rest).map fun r => (e :: r.1, r.2)
    else some ([], cs)
  | [] => some ([], [])

/-- Read a number without its sign. A zero with a minus sign is no whole number. -/
def unsigned (isNegative : Bool) (cs : List Char) : Option (Json × List Char) := do
  let (whole, cs) ← wholePart cs
  let (frac, cs) ← fraction cs
  let (expo, cs) ← exponent cs
  let n ← Text.readNat? whole
  -- A number is whole by how it is written, and not by its value.
  if frac.isEmpty && expo.isEmpty && !(isNegative && n == 0) then
    return (int (if isNegative then -(n : Int) else n), cs)
  else
    let sign := if isNegative then ['-'] else []
    return (decimal (String.ofList (sign ++ whole ++ frac ++ expo)), cs)

/-- Read a number. -/
def number (cs : List Char) : Option (Json × List Char) :=
  match cs with
  | '-' :: cs => unsigned true cs
  | cs => unsigned false cs

mutual

/-- Read a value. Each step into a part of the text takes one unit of `fuel`. -/
def valueFrom (mode : Surrogates) : (fuel : Nat) → List Char → Option (Json × List Char)
  | 0, _ => none
  | fuel + 1, cs =>
    match skipLayout cs with
    | [] => none
    | '"' :: rest =>
      (quoted mode ('"' :: rest)).map fun r => (str r.1, r.2)
    | '[' :: rest =>
      match skipLayout rest with
      | ']' :: rest => some (arr [], rest)
      | rest => (itemsFrom mode fuel rest).map fun r => (arr r.1, r.2)
    | '{' :: rest =>
      match skipLayout rest with
      | '}' :: rest => some (obj [], rest)
      | rest => (membersFrom mode fuel rest).map fun r => (obj r.1, r.2)
    | 'n' :: rest => (expect? "ull".toList rest).map fun rest => (null, rest)
    | 't' :: rest => (expect? "rue".toList rest).map fun rest => (bool true, rest)
    | 'f' :: rest => (expect? "alse".toList rest).map fun rest => (bool false, rest)
    | c :: rest => number (c :: rest)

/-- Read the items of a list up to its closing bracket. -/
def itemsFrom (mode : Surrogates) : (fuel : Nat) → List Char → Option (List Json × List Char)
  | 0, _ => none
  | fuel + 1, cs =>
    match valueFrom mode fuel cs with
    | none => none
    | some (item, cs) =>
      match skipLayout cs with
      | ',' :: cs => (itemsFrom mode fuel cs).map fun r => (item :: r.1, r.2)
      | ']' :: cs => some ([item], cs)
      | _ => none

/-- Read the members of an object up to its closing bracket. -/
def membersFrom (mode : Surrogates) :
    (fuel : Nat) → List Char → Option (List (String × Json) × List Char)
  | 0, _ => none
  | fuel + 1, cs =>
    match quoted mode (skipLayout cs) with
    | none => none
    | some (name, cs) =>
      match skipLayout cs with
      | ':' :: cs =>
        match valueFrom mode fuel cs with
        | none => none
        | some (value, cs) =>
          match skipLayout cs with
          | ',' :: cs => (membersFrom mode fuel cs).map fun r => ((name, value) :: r.1, r.2)
          | '}' :: cs => some ([(name, value)], cs)
          | _ => none
      | _ => none

end

/-- A bound on the steps that reading a text takes: two for each character, and two to begin
with. -/
def fuelFor (cs : List Char) : Nat :=
  2 * cs.length + 2

/-- Read a text that holds one value and nothing else. -/
def parse? (text : String) : Option Json :=
  let cs := text.toList
  match valueFrom .refused (fuelFor cs) cs with
  | some (value, rest) => if (skipLayout rest).isEmpty then some value else none
  | none => none

/-! ## Records with members that are passed over -/

/-- Read the members of a record. The value of a member outside `known` is passed over, so a
string in it may hold a surrogate without its partner. -/
def recordMembersFrom (known : List String) :
    (fuel : Nat) → List Char → Option (List (String × Json) × List Char)
  | 0, _ => none
  | fuel + 1, cs =>
    match quoted .refused (skipLayout cs) with
    | none => none
    | some (name, cs) =>
      match skipLayout cs with
      | ':' :: cs =>
        let mode := if known.contains name then Surrogates.refused else Surrogates.replaced
        match valueFrom mode fuel cs with
        | none => none
        | some (value, cs) =>
          match skipLayout cs with
          | ',' :: cs =>
            (recordMembersFrom known fuel cs).map fun r => ((name, value) :: r.1, r.2)
          | '}' :: cs => some ([(name, value)], cs)
          | _ => none
      | _ => none

/-- Read a text that holds one record with the members `known`, and nothing else. Other members
have to be well formed, no more. -/
def parseRecord? (known : List String) (text : String) : Option Json :=
  let cs := text.toList
  match skipLayout cs with
  | '{' :: rest =>
    match skipLayout rest with
    | '}' :: rest => if (skipLayout rest).isEmpty then some (obj []) else none
    | rest =>
      match recordMembersFrom known (fuelFor cs) rest with
      | some (members, rest) => if (skipLayout rest).isEmpty then some (obj members) else none
      | none => none
  | _ => parse? text

end ReviewPipeline.Json
