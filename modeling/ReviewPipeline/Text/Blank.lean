/-!
# Blank Characters and Trimming

Free text reaches the pipeline with stray blanks around it: names, titles, agents, reasons,
workspace names. This module fixes which characters are blank, how a text is trimmed, and when
a text counts as not given at all.
-/

namespace ReviewPipeline.Text

/-- The code points with the Unicode property `White_Space`, as closed ranges. -/
def blankRanges : List (Nat × Nat) :=
  [(0x09, 0x0D), (0x20, 0x20), (0x85, 0x85), (0xA0, 0xA0), (0x1680, 0x1680), (0x2000, 0x200A),
    (0x2028, 0x2029), (0x202F, 0x202F), (0x205F, 0x205F), (0x3000, 0x3000)]

/-- Whether a character is white space. -/
def isBlank (c : Char) : Bool :=
  blankRanges.any fun range => range.1 ≤ c.toNat && c.toNat ≤ range.2

/-- The characters of a text without the blank ones at its two ends. -/
def trimChars (cs : List Char) : List Char :=
  ((cs.dropWhile isBlank).reverse.dropWhile isBlank).reverse

/-- A text without the blank characters at its two ends. -/
def trim (s : String) : String :=
  String.ofList (trimChars s.toList)

/-- A text is blank when nothing is left of it after trimming. -/
def isAllBlank (s : String) : Bool :=
  (trim s).isEmpty

/-- The trimmed text, or nothing when the text is absent or blank. -/
def nonBlank (value : Option String) : Option String :=
  match value with
  | none => none
  | some s => if isAllBlank s then none else some (trim s)

end ReviewPipeline.Text
