import Mathlib.Data.List.DropRight
import ReviewPipeline.Text.Blank

/-!
# Trimming

Trimming a text takes the blanks from its two ends, and doing it again changes nothing. What
trimming leaves of a text that is not blank is tidy.

## Main definitions

* `Text.IsTidy`: a text is not empty, and there is nothing to trim;
* `Text.IsTidyOption`: so is a text that may be absent, if it is there.

## Main results

* `Text.trim_trim`: trimming twice is trimming once;
* `Text.isTidy_trim`, `Text.isTidyOption_nonBlank`: where tidy texts come from.
-/

namespace ReviewPipeline

namespace Text

variable {cs : List Char} {text : String} {value : Option String}

/-- Trimming drops blanks on the left and then on the right. -/
theorem trimChars_eq (cs : List Char) : trimChars cs = (cs.dropWhile isBlank).rdropWhile isBlank :=
  rfl

/-- Trimming twice is trimming once. -/
theorem trimChars_trimChars (cs : List Char) : trimChars (trimChars cs) = trimChars cs := by
  have hleft : (trimChars cs).dropWhile isBlank = trimChars cs := by
    refine List.dropWhile_eq_self_iff.2 fun hpos => ?_
    -- What is dropped on the right leaves the first character as it is.
    have hprefix : trimChars cs <+: cs.dropWhile isBlank := List.rdropWhile_prefix isBlank _
    have hlength : 0 < (cs.dropWhile isBlank).length := hpos.trans_le hprefix.length_le
    have hfirst : (trimChars cs)[0] = (cs.dropWhile isBlank).get ⟨0, hlength⟩ :=
      hprefix.getElem hpos
    rw [hfirst]
    exact List.dropWhile_get_zero_not isBlank cs hlength
  rw [trimChars_eq (trimChars cs), hleft, trimChars_eq, List.rdropWhile_idempotent]

/-- Trimming a text twice is trimming it once. -/
@[simp]
theorem trim_trim (text : String) : trim (trim text) = trim text := by
  simp only [trim, String.toList_ofList, trimChars_trimChars]

/-- A text is blank when what trimming leaves of it is. -/
@[simp]
theorem isAllBlank_trim (text : String) : isAllBlank (trim text) = isAllBlank text := by
  simp only [isAllBlank, trim_trim]

/-- What is kept of an optional text is a trimmed one that is not blank. -/
theorem nonBlank_eq_some_iff {trimmed : String} :
    nonBlank value = some trimmed ↔
      ∃ text, value = some text ∧ isAllBlank text = false ∧ trim text = trimmed := by
  cases value with
  | none => simp [nonBlank]
  | some text =>
    simp only [nonBlank]
    split <;> simp_all

/-- A text is tidy if it is not empty and has no blanks at its ends. -/
structure IsTidy (text : String) : Prop where
  /-- It is not empty. -/
  ne_empty : text ≠ ""
  /-- There is nothing to trim. -/
  trim_eq : trim text = text

/-- A text that may be absent is tidy if it is there. -/
def IsTidyOption (value : Option String) : Prop :=
  ∀ text, value = some text → IsTidy text

/-- Trimming leaves a tidy text, if the text is not blank. -/
theorem isTidy_trim (h : isAllBlank text = false) : IsTidy (trim text) where
  ne_empty := by simpa [isAllBlank] using h
  trim_eq := trim_trim text

theorem isTidyOption_none : IsTidyOption none := nofun

/-- What is kept of an optional text is tidy. -/
theorem isTidyOption_nonBlank (value : Option String) : IsTidyOption (nonBlank value) := by
  intro trimmed h
  obtain ⟨text, -, hblank, rfl⟩ := nonBlank_eq_some_iff.1 h
  exact isTidy_trim hblank

end Text

end ReviewPipeline
