import ReviewPipeline.Text.CaseTable

/-!
# Upper and Lower Case

Case maps of whole texts, character by character. The one rule of Unicode that looks at
neighbours, the final form of a Greek sigma, is left out: lower case is only ever compared with
words of Latin letters, and neither form of sigma is one.
-/

namespace ReviewPipeline.Text

/-- Where the run that holds the code point `n` sends it. -/
def CaseRun.send? (run : CaseRun) (n : Nat) : Option Nat :=
  if run.first ≤ n ∧ n ≤ run.last ∧ (n - run.first) % run.stride = 0 then
    some (n + run.shift).toNat
  else none

/-- A character under a case map: its expansion if it has one, else its place in a run, else
the character itself. -/
def mapCase (runs : List CaseRun) (expansions : List (Nat × List Nat)) (c : Char) : List Char :=
  match expansions.lookup c.toNat with
  | some points => points.map Char.ofNat
  | none =>
    match runs.findSome? (·.send? c.toNat) with
    | some n => [Char.ofNat n]
    | none => [c]

/-- The upper case of a text. -/
def upperCase (s : String) : String :=
  String.ofList (s.toList.flatMap (mapCase upperRuns upperExpansions))

/-- The lower case of a text. -/
def lowerCase (s : String) : String :=
  String.ofList (s.toList.flatMap (mapCase lowerRuns lowerExpansions))

/-- Whether a character is a letter or digit of ASCII. -/
def isAsciiAlphanumeric (c : Char) : Bool :=
  ('0' ≤ c && c ≤ '9') || ('A' ≤ c && c ≤ 'Z') || ('a' ≤ c && c ≤ 'z')

/-- The upper case of a letter of ASCII; every other character stays. -/
def asciiUpper (c : Char) : Char :=
  if 'a' ≤ c ∧ c ≤ 'z' then Char.ofNat (c.toNat - 32) else c

/-- The lower case of a letter of ASCII; every other character stays. -/
def asciiLower (c : Char) : Char :=
  if 'A' ≤ c ∧ c ≤ 'Z' then Char.ofNat (c.toNat + 32) else c

end ReviewPipeline.Text
