/-!
# Occurrence of a Phrase

The recovery hint of an error is chosen by the phrases that occur in its message.
-/

namespace ReviewPipeline.Text

/-- Whether the characters `phrase` stand somewhere in `cs`, next to each other and in order. -/
def occursInChars (phrase : List Char) : List Char → Bool
  | [] => phrase.isEmpty
  | c :: cs => phrase.isPrefixOf (c :: cs) || occursInChars phrase cs

/-- Whether the text `phrase` occurs in the text `s`. -/
def occursIn (phrase s : String) : Bool :=
  occursInChars phrase.toList s.toList

end ReviewPipeline.Text
