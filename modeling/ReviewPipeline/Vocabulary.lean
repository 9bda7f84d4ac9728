import ReviewPipeline.EditDistance
import ReviewPipeline.Text.Blank
import ReviewPipeline.Text.Case

/-!
# Closed Vocabularies

Step types, work statuses, gate statuses and results are each one of a few words. A vocabulary
lists the values with the word that stores each of them, and the synonyms people use for them.
Free text is looked up in three tiers: the words themselves, the synonyms, and a refusal that
suggests the nearest word.
-/

namespace ReviewPipeline

/-- The values of a closed set with the words that name them. -/
structure Vocabulary (α : Type) where
  /-- What the values are called in messages. -/
  label : String
  /-- Every value. -/
  values : List α
  /-- The one word under which a value is stored and shown. -/
  word : α → String
  /-- Other words, accepted from users only, each with the stored word that it stands for. -/
  synonyms : List (String × String)

/-- A text that names no value. -/
structure Unrecognized where
  /-- The text as it was given. -/
  input : String
  /-- The word of the value that the text comes nearest to. -/
  suggestion : Option String
  deriving DecidableEq, Repr

namespace Vocabulary

variable {α : Type}

/-- The value stored under exactly this word. -/
def ofWord? (v : Vocabulary α) (s : String) : Option α :=
  v.values.find? fun a => v.word a == s

/-- The stored words. -/
def words (v : Vocabulary α) : List String :=
  v.values.map v.word

/-- All accepted words: the stored ones, then the synonyms. -/
def accepted (v : Vocabulary α) : List String :=
  v.words ++ v.synonyms.map (·.1)

/-- The form in which a text is looked up: trimmed and in lower case. -/
def key (input : String) : String :=
  Text.lowerCase (Text.trim input)

/-- The stored word that is shown for an accepted one: what a synonym stands for, and else the word
itself. -/
def shown (v : Vocabulary α) (word : String) : String :=
  (v.synonyms.lookup word).getD word

/-- How many edits away from a word a key may be and still get a suggestion. -/
def reach : Nat := 3

/-- Take up what is shown for `word`, with its distance from the key, if it is within reach and
nearer than the best one so far. -/
def nearer (v : Vocabulary α) (key : String) (best : Option (String × Nat)) (word : String) :
    Option (String × Nat) :=
  let distance := editDistance key word
  if distance ≤ reach ∧ (best.all fun b => distance < b.2) then some (v.shown word, distance)
  else best

/-- What is shown for the word that is nearest to the key, if any is within reach; of several at
the same distance the first in the order in which the words are gone through. -/
def nearestIn? (v : Vocabulary α) (order : List String) (key : String) : Option String :=
  (order.foldl (v.nearer key) none).map (·.1)

/-- The stored word that a text stands for, or a refusal that repeats the text as it was given. -/
def canonicalIn (v : Vocabulary α) (order : List String) (input : String) :
    Except Unrecognized String :=
  if key input ∈ v.words then .ok (key input)
  else
    match v.synonyms.lookup (key input) with
    | some word => .ok word
    | none => .error ⟨input, v.nearestIn? order (key input)⟩

/-- Resolve a text: the value it names, or a refusal. The accepted words are gone through in the
given order if a suggestion is needed. -/
def normalizeIn (v : Vocabulary α) (order : List String) (input : String) :
    Except Unrecognized α :=
  match v.canonicalIn order input with
  | .error u => .error u
  | .ok word =>
    match v.ofWord? word with
    | some a => .ok a
    | none => .error ⟨input, none⟩

/-- Resolve a text with the accepted words in the order in which they are listed. -/
def normalize (v : Vocabulary α) (input : String) : Except Unrecognized α :=
  v.normalizeIn v.accepted input

end Vocabulary

end ReviewPipeline
