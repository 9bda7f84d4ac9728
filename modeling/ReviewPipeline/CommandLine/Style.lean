/-!
# Colours

Terminals show text in colours between control sequences. Where a styled text itself holds the
sequence that ends a style, the style begins again after it.
-/

namespace ReviewPipeline.CommandLine

/-- The styles in which parts of a report are shown. -/
inductive Style where
  | bold | dimmed | red | green | yellow | heading
  deriving DecidableEq, Repr

/-- The control sequence with these parameters. -/
def controlSequence (parameters : String) : List Char :=
  '\x1b' :: '[' :: (parameters.toList ++ ['m'])

/-- The sequence that begins a style. -/
def Style.opening : Style → List Char
  | bold => controlSequence "1"
  | dimmed => controlSequence "2"
  | red => controlSequence "31"
  | green => controlSequence "32"
  | yellow => controlSequence "33"
  | heading => controlSequence "1;36"

/-- The sequence that ends every style. -/
def styleEnd : List Char :=
  controlSequence "0"

/-- Put `opening` after each `styleEnd` in a text. -/
def reopen (opening : List Char) : List Char → List Char
  | '\x1b' :: '[' :: '0' :: 'm' :: cs => styleEnd ++ opening ++ reopen opening cs
  | c :: cs => c :: reopen opening cs
  | [] => []

/-- A text in a style, where colours are shown. -/
def Style.paint (style : Style) (isColored : Bool) (s : String) : String :=
  if isColored then
    String.ofList (style.opening ++ reopen style.opening s.toList ++ styleEnd)
  else s

end ReviewPipeline.CommandLine
