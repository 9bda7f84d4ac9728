import ReviewPipeline.EditDistance

/-!
# Suggestions for Unknown Names

Near misses are answered with the names they may have meant: those within three edits, the
nearest first.
-/

namespace ReviewPipeline

/-- How many edits away a name may be and still be suggested. -/
def suggestionReach : Nat := 3

/-- A known name with its distance to the one that was asked for. -/
structure Suggestion where
  /-- The edit distance to the name asked for. -/
  distance : Nat
  /-- The known name. -/
  name : String
  deriving DecidableEq, Repr

/-- Whether one suggestion comes no later than another: the nearer first, then the name that
comes first in the order of code points. -/
def Suggestion.precedes (a b : Suggestion) : Bool :=
  a.distance < b.distance || (a.distance == b.distance && decide (a.name ≤ b.name))

/-- The known names within reach of `searched`, in the order in which they are suggested. -/
def suggestions (searched : String) (known : List String) : List Suggestion :=
  let near := (known.map fun name => Suggestion.mk (editDistance searched name) name).filter
    fun s => s.distance ≤ suggestionReach
  near.mergeSort Suggestion.precedes

/-- At most `max` known names that `searched` may have meant. -/
def similarNames (searched : String) (known : List String) (max : Nat) : List String :=
  ((suggestions searched known).take max).map (·.name)

end ReviewPipeline
