import Mathlib.Data.List.Find
import Mathlib.Data.List.Infix
import ReviewPipeline.Text.Occurs

/-!
# Phrases in Messages

A message is mostly a text from elsewhere in a frame: between two texts that are always the same.
If someone looks for a phrase in it, they may find it in the frame or in the text, and also across
a seam. Whether the frame has a hand in it can be seen from the frame alone.

## Main definitions

* `Text.Frame`: the two texts around another one;
* `Text.Frame.Ignores`, `Text.Frame.Mentions`: the frame has no part in the occurrences of a phrase,
  or a phrase occurs in it;
* `Text.firstHint`: the hint for the first phrase of a table that occurs in a text.

## Main results

* `infix_append_iff`: where something occurs in two lists one after the other;
* `Text.Frame.occursIn_fill`: a phrase that a frame ignores occurs in the message iff it occurs in
  the text;
* `Text.firstHint_fill`: what the text in a frame decides about the hint for a message.
-/

namespace ReviewPipeline

/-! ### Occurrences across a seam -/

section Infix

variable {α : Type} {phrase front back : List α}

/-- What stands in two lists one after the other stands in one of them, or it is cut in two, and the
parts meet at the seam. -/
theorem infix_append_iff : phrase <:+: front ++ back ↔
    phrase <:+: front ∨ phrase <:+: back ∨
      ∃ n < phrase.length, 0 < n ∧ phrase.take n <:+ front ∧ phrase.drop n <+: back := by
  constructor
  · rintro ⟨before, after, hwhole⟩
    rcases List.append_eq_append_iff.1 hwhole with ⟨rest, hfront, -⟩ | ⟨rest, hbefore, hback⟩
    · exact .inl ⟨before, rest, hfront.symm⟩
    -- The phrase does not end in the first list: it begins there, or after it.
    rcases List.append_eq_append_iff.1 hbefore with ⟨part, hfront, hphrase⟩ | ⟨part, -, hrest⟩
    · subst hphrase
      rcases List.eq_nil_or_concat part with rfl | hpart
      · exact .inr (.inl ⟨[], after, by simpa using hback.symm⟩)
      rcases List.eq_nil_or_concat rest with rfl | hrest
      · exact .inl ⟨before, [], by simpa using hfront.symm⟩
      refine .inr (.inr ⟨part.length, ?_, ?_, ?_, ?_⟩)
      · obtain ⟨init, last, rfl⟩ := hrest
        simp
      · obtain ⟨init, last, rfl⟩ := hpart
        simp
      · rw [List.take_left]
        exact ⟨before, hfront.symm⟩
      · rw [List.drop_left]
        exact ⟨after, hback.symm⟩
    · exact .inr (.inl ⟨part, after, by rw [hback, hrest]⟩)
  · rintro (h | h | ⟨n, -, -, ⟨before, hfront⟩, ⟨after, hback⟩⟩)
    · exact h.trans (List.infix_append_left)
    · exact h.trans (List.infix_append_right)
    · refine ⟨before, after, ?_⟩
      calc before ++ phrase ++ after
        _ = before ++ (phrase.take n ++ phrase.drop n) ++ after := by rw [List.take_append_drop]
        _ = (before ++ phrase.take n) ++ (phrase.drop n ++ after) := by
          simp only [List.append_assoc]
        _ = front ++ back := by rw [hfront, hback]

end Infix

namespace Text

variable {phrase text : String}

/-- The search for a phrase finds exactly the segments of a text. -/
theorem occursInChars_iff {phrase cs : List Char} :
    occursInChars phrase cs = true ↔ phrase <:+: cs := by
  induction cs with
  | nil => simp [occursInChars]
  | cons c cs ih => simp [occursInChars, List.infix_cons_iff, ih]

/-- A phrase occurs in a text where its characters are a segment of the text's. -/
theorem occursIn_iff : occursIn phrase text = true ↔ phrase.toList <:+: text.toList :=
  occursInChars_iff

/-! ### Frames -/

/-- Two texts around another one. -/
structure Frame where
  /-- What comes before the text. -/
  before : String
  /-- What comes after it. -/
  after : String

namespace Frame

variable {frame : Frame}

/-- A text in its frame. -/
def fill (frame : Frame) (text : String) : String :=
  frame.before ++ text ++ frame.after

/-- A phrase occurs in the frame itself. -/
def Mentions (frame : Frame) (phrase : String) : Prop :=
  occursIn phrase frame.before = true ∨ occursIn phrase frame.after = true

instance : Decidable (frame.Mentions phrase) :=
  inferInstanceAs (Decidable (_ ∨ _))

/-- A frame ignores a phrase: it does not occur there, and no way to cut it in two leaves a first
part with which the text before ends, or a last part with which the text after begins. -/
def Ignores (frame : Frame) (phrase : String) : Prop :=
  ¬ frame.Mentions phrase ∧ ∀ n < phrase.toList.length, 0 < n →
    ¬ phrase.toList.take n <:+ frame.before.toList ∧ ¬ phrase.toList.drop n <+: frame.after.toList

instance : Decidable (frame.Ignores phrase) :=
  inferInstanceAs (Decidable (_ ∧ _))

/-- A phrase of the frame occurs whatever text is filled in. -/
theorem occursIn_fill_of_mentions (h : frame.Mentions phrase) (text : String) :
    occursIn phrase (frame.fill text) = true := by
  simp only [occursIn_iff, fill, String.toList_append, infix_append_iff]
  rcases h with h | h
  · exact .inl (.inl (occursIn_iff.1 h))
  · exact .inr (.inl (occursIn_iff.1 h))

/-- A phrase that a frame ignores occurs in a message iff it occurs in the text. -/
theorem occursIn_fill (h : frame.Ignores phrase) (text : String) :
    occursIn phrase (frame.fill text) = occursIn phrase text := by
  obtain ⟨hmentions, hseams⟩ := h
  rw [Mentions, not_or, occursIn_iff, occursIn_iff] at hmentions
  rw [Bool.eq_iff_iff, occursIn_iff, occursIn_iff, fill, String.toList_append,
    String.toList_append, infix_append_iff, infix_append_iff]
  refine ⟨?_, fun htext => .inl (.inr (.inl htext))⟩
  rintro ((hbefore | htext | ⟨n, hn, hpos, hfirst, -⟩) | hafter | ⟨n, hn, hpos, -, hlast⟩)
  · exact absurd hbefore hmentions.1
  · exact htext
  · exact absurd hfirst (hseams n hn hpos).1
  · exact absurd hafter hmentions.2
  · exact absurd hlast (hseams n hn hpos).2

end Frame

/-! ### Hints by phrases -/

/-- A table of hints, each with the phrases that it is given for. -/
abbrev HintTable := List (List String × String)

/-- The hint of the first row with a phrase that occurs in a text. -/
def firstHint (table : HintTable) (text : String) : Option String :=
  (table.find? fun row => row.1.any (occursIn · text)).map (·.2)

variable {earlier later : HintTable} {phrases : List String} {hint : String} {frame : Frame}

/-- An empty table has no hint. -/
@[simp] theorem firstHint_nil (text : String) : firstHint [] text = none :=
  rfl

/-- The first row decides, if one of its phrases occurs. -/
theorem firstHint_cons (phrases : List String) (hint : String) (table : HintTable)
    (text : String) :
    firstHint ((phrases, hint) :: table) text =
      if phrases.any (occursIn · text) then some hint else firstHint table text := by
  unfold firstHint
  rw [List.find?_cons]
  split <;> simp_all

/-- Of two tables, the earlier comes first. -/
theorem firstHint_append (earlier later : HintTable) (text : String) :
    firstHint (earlier ++ later) text = (firstHint earlier text).or (firstHint later text) := by
  rw [firstHint, List.find?_append, Option.map_or]
  rfl

/-- There is no hint where no phrase of the table occurs. -/
theorem firstHint_eq_none_iff {table : HintTable} : firstHint table text = none ↔
    ∀ row ∈ table, ∀ phrase ∈ row.1, occursIn phrase text = false := by
  simp [firstHint]

/-- A hint comes from a row of the table. -/
theorem exists_row_of_firstHint {table : HintTable} (h : firstHint table text = some hint) :
    ∃ row ∈ table, row.2 = hint := by
  obtain ⟨row, hrow, rfl⟩ := Option.map_eq_some_iff.1 h
  exact ⟨row, List.mem_of_find?_eq_some hrow, rfl⟩

/-- Where the frame of a message ignores all phrases, the hint is that for the text. -/
theorem firstHint_of_ignores {table : HintTable}
    (h : ∀ row ∈ table, ∀ phrase ∈ row.1, frame.Ignores phrase) (text : String) :
    firstHint table (frame.fill text) = firstHint table text := by
  unfold firstHint
  rw [List.find?_congr fun row hrow => ?_]
  rw [Bool.eq_iff_iff, List.any_eq_true, List.any_eq_true]
  refine exists_congr fun phrase => and_congr_right fun hphrase => ?_
  rw [Frame.occursIn_fill (h row hrow phrase hphrase)]

/-- Where the frame of a message mentions a phrase of a row, and ignores all phrases of the rows
before that one, the text decides which of these hints is given, or whether it is the row's own. -/
theorem firstHint_fill {table : HintTable} (htable : table = earlier ++ (phrases, hint) :: later)
    (hearlier : ∀ row ∈ earlier, ∀ phrase ∈ row.1, frame.Ignores phrase)
    (hown : ∃ phrase ∈ phrases, frame.Mentions phrase) (text : String) :
    firstHint table (frame.fill text) = (firstHint earlier text).or (some hint) := by
  have hfound : phrases.any (occursIn · (frame.fill text)) = true := by
    obtain ⟨phrase, hphrase, hmentions⟩ := hown
    exact List.any_eq_true.2 ⟨phrase, hphrase, frame.occursIn_fill_of_mentions hmentions text⟩
  rw [htable, firstHint_append, firstHint_of_ignores hearlier, firstHint_cons, if_pos hfound]

end Text

end ReviewPipeline
