import ReviewPipeline.Proofs.Trimming
import ReviewPipeline.Text.Case

/-!
# Lower Case

Lower-casing a text keeps its blanks where they are and makes no new ones, so a text may as well be
trimmed after it as before it. Beside the case map itself, this module looks at the one letter whose
lower case has two forms: a sigma at the end of a word and any other sigma. The case map writes only
the latter, and texts that differ in nothing else are the same letter by letter.

## Main definitions

* `Text.KeepsBlanks`: a map from characters to texts that keeps blanks where they are;
* `Text.plainSigma`, `Text.SameLetters`: a sigma in its usual form, and texts that are the same up
  to the forms of their sigmas.

## Main results

* `Text.KeepsBlanks.trimChars_flatMap`: trimming before and after such a map is the same;
* `Text.trim_pad`: blanks put around a text are trimmed away;
* `Text.lowerCase_trim`: a text may be trimmed before or after it is put into lower case.
-/

namespace ReviewPipeline.Text

variable {c d : Char} {s t : String} {f : Char → List Char}

/-! ### Maps that keep blanks -/

/-- Under a map of characters, a blank stays itself, and from any other character come some
characters, none of which is a blank. -/
structure KeepsBlanks (f : Char → List Char) : Prop where
  /-- A blank stays. -/
  blank : ∀ c, isBlank c = true → f c = [c]
  /-- No character is dropped. -/
  ne_nil : ∀ c, f c ≠ []
  /-- No blank is made of another character. -/
  other : ∀ c, isBlank c = false → ∀ d ∈ f c, isBlank d = false

namespace KeepsBlanks

/-- Whatever keeps blanks keeps them when it is reversed. -/
theorem reverse (h : KeepsBlanks f) : KeepsBlanks fun c => (f c).reverse where
  blank c hc := by simp [h.blank c hc]
  ne_nil c := by simpa using h.ne_nil c
  other c hc d hd := h.other c hc d (List.mem_reverse.1 hd)

/-- Blanks in front are dropped before or after, alike. -/
theorem dropWhile_flatMap (h : KeepsBlanks f) (cs : List Char) :
    (cs.flatMap f).dropWhile isBlank = (cs.dropWhile isBlank).flatMap f := by
  induction cs with
  | nil => rfl
  | cons c cs ih =>
    cases hc : isBlank c with
    | true => simp [h.blank c hc, hc, ih]
    | false =>
      -- What comes from a character that is not a blank begins with one that is not.
      obtain ⟨d, rest, hd⟩ := List.exists_cons_of_ne_nil (h.ne_nil c)
      have hfirst : isBlank d = false := h.other c hc d (by simp [hd])
      simp [hc, hd, hfirst]

/-- A text is trimmed before or after, alike. -/
theorem trimChars_flatMap (h : KeepsBlanks f) (cs : List Char) :
    trimChars (cs.flatMap f) = (trimChars cs).flatMap f := by
  simp only [trimChars, h.dropWhile_flatMap, List.reverse_flatMap]
  -- The right end is the left end of the text read backwards, under the map read backwards.
  have hright := h.reverse.dropWhile_flatMap (cs.dropWhile isBlank).reverse
  simp only [Function.comp_def, hright, List.reverse_flatMap, List.reverse_reverse]

end KeepsBlanks

/-! ### Blanks around a text -/

/-- Blanks around a text are trimmed away. -/
theorem trimChars_pad {before after : List Char} (hbefore : ∀ c ∈ before, isBlank c = true)
    (hafter : ∀ c ∈ after, isBlank c = true) (cs : List Char) :
    trimChars (before ++ cs ++ after) = trimChars cs := by
  have hleft : (before ++ cs ++ after).dropWhile isBlank = (cs ++ after).dropWhile isBlank := by
    rw [List.append_assoc, List.dropWhile_append_of_pos hbefore]
  have hright : ∀ ds : List Char,
      (ds ++ after).reverse.dropWhile isBlank = ds.reverse.dropWhile isBlank := by
    intro ds
    rw [List.reverse_append, List.dropWhile_append_of_pos (by simpa using hafter)]
  rw [trimChars, hleft, trimChars, List.dropWhile_append]
  split
  · -- The text is blank itself, so the blanks after it go from the left.
    next hempty => simp [List.isEmpty_iff.1 hempty, List.dropWhile_eq_nil_iff.2 hafter]
  · rw [hright]

/-- Blanks that are put around a text are trimmed away. -/
theorem trim_pad {before after : String} (hbefore : ∀ c ∈ before.toList, isBlank c = true)
    (hafter : ∀ c ∈ after.toList, isBlank c = true) (s : String) :
    trim (before ++ s ++ after) = trim s := by
  simp only [trim, String.toList_append, trimChars_pad hbefore hafter]

/-! ### The case map -/

/-- A run of the case table holds no blank and leads to none. -/
theorem lowerRuns_off_blanks : ∀ run ∈ lowerRuns, ∀ range ∈ blankRanges,
    (run.last < range.1 ∨ range.2 < run.first) ∧
      ((run.last : Int) + run.shift < range.1 ∨ (range.2 : Int) < run.first + run.shift) := by
  decide +kernel

/-- No letter with an expansion is blank, and none is expanded to blanks. -/
theorem lowerExpansions_off_blanks : ∀ expansion ∈ lowerExpansions,
    (∀ range ∈ blankRanges, expansion.1 < range.1 ∨ range.2 < expansion.1) ∧ expansion.2 ≠ [] ∧
      ∀ point ∈ expansion.2, isBlank (Char.ofNat point) = false := by
  decide +kernel

/-- The null character is no blank. -/
theorem blankRanges_pos : ∀ range ∈ blankRanges, 0 < range.1 := by
  decide

/-- A character is blank if it is in one of the ranges. -/
theorem isBlank_eq_false_iff :
    isBlank c = false ↔ ∀ range ∈ blankRanges, c.toNat < range.1 ∨ range.2 < c.toNat := by
  simp only [isBlank, List.any_eq_false, Bool.and_eq_true, decide_eq_true_eq]
  exact forall₂_congr fun range _ => by omega

/-- A number outside of the ranges is that of no blank. -/
theorem isBlank_ofNat_eq_false {n : Nat}
    (h : ∀ range ∈ blankRanges, n < range.1 ∨ range.2 < n) : isBlank (Char.ofNat n) = false := by
  by_cases hvalid : n.isValidChar
  · have hn : (Char.ofNat n).toNat = n := by
      rw [Char.ofNat, dif_pos hvalid]
      rfl
    rw [isBlank_eq_false_iff, hn]
    exact h
  · rw [Char.ofNat, dif_neg hvalid]
    decide

/-- A run sends characters that are no blanks to characters that are none. -/
theorem isBlank_of_lower_send? {run : CaseRun} (hrun : run ∈ lowerRuns) {n : Nat}
    (h : run.send? c.toNat = some n) : isBlank c = false ∧ isBlank (Char.ofNat n) = false := by
  obtain ⟨⟨hfirst, hlast, -⟩, hn⟩ := Option.ite_none_right_eq_some.1 h
  have hsent : (c.toNat + run.shift : Int).toNat = n := Option.some.inj hn
  refine ⟨isBlank_eq_false_iff.2 fun range hrange => ?_,
    isBlank_ofNat_eq_false fun range hrange => ?_⟩
  all_goals
    have hpos := blankRanges_pos range hrange
    obtain ⟨hsource, htarget⟩ := lowerRuns_off_blanks run hrun range hrange
    omega

/-- Lower case keeps blanks. -/
theorem keepsBlanks_mapCase : KeepsBlanks (mapCase lowerRuns lowerExpansions) := by
  have hcases : ∀ c, (isBlank c = true → mapCase lowerRuns lowerExpansions c = [c]) ∧
      mapCase lowerRuns lowerExpansions c ≠ [] ∧
      (isBlank c = false → ∀ d ∈ mapCase lowerRuns lowerExpansions c, isBlank d = false) := by
    intro c
    unfold mapCase
    split
    · next points hpoints =>
      obtain ⟨before, after, hsplit, -⟩ := List.lookup_eq_some_iff.1 hpoints
      have hmem : (c.toNat, points) ∈ lowerExpansions := by simp [hsplit]
      obtain ⟨hoff, hpoints, htarget⟩ := lowerExpansions_off_blanks _ hmem
      refine ⟨fun hc => ?_, by simpa using hpoints, fun _ => by simpa using htarget⟩
      exact absurd (isBlank_eq_false_iff.2 hoff) (by simp [hc])
    · split
      · next n hsent =>
        obtain ⟨run, hrun, hsent⟩ := List.exists_of_findSome?_eq_some hsent
        obtain ⟨hc, hn⟩ := isBlank_of_lower_send? hrun hsent
        simp [hc, hn]
      · simp
  exact ⟨fun c => (hcases c).1, fun c => (hcases c).2.1, fun c => (hcases c).2.2⟩

/-- A text may be trimmed before or after it is put into lower case. -/
theorem lowerCase_trim (s : String) : lowerCase (trim s) = trim (lowerCase s) := by
  simp only [lowerCase, trim, String.toList_ofList, keepsBlanks_mapCase.trimChars_flatMap]

/-! ### The forms of sigma -/

/-- A sigma in the form that it has within a word; every other character stays. -/
def plainSigma (c : Char) : Char :=
  if c = 'ς' then 'σ' else c

/-- Two texts are the same but for the forms of their sigmas. -/
def SameLetters (s t : String) : Prop :=
  s.toList.map plainSigma = t.toList.map plainSigma

/-- Every text has its own letters. -/
theorem SameLetters.refl (s : String) : SameLetters s s := rfl

/-- Only a sigma comes from another letter. -/
theorem plainSigma_eq_iff (h : d ≠ 'σ' ∧ d ≠ 'ς') : plainSigma c = d ↔ c = d := by
  unfold plainSigma
  split
  · next hc => simp [hc, h.1.symm, h.2.symm]
  · rfl

/-- Plain sigmas keep blanks. -/
theorem keepsBlanks_plainSigma : KeepsBlanks fun c => [plainSigma c] where
  blank c hc := by
    have hsigma : c ≠ 'ς' := by
      rintro rfl
      cases hc
    simp [plainSigma, hsigma]
  ne_nil c := by simp
  other c hc d hd := by
    obtain rfl := List.mem_singleton.1 hd
    unfold plainSigma
    split
    · decide
    · exact hc

/-- Texts with the same letters have them still when they are trimmed. -/
theorem SameLetters.trim (h : SameLetters s t) : SameLetters (trim s) (trim t) := by
  have htrimmed : ∀ cs : List Char,
      trimChars (cs.map plainSigma) = (trimChars cs).map plainSigma := by
    intro cs
    simpa only [← List.map_eq_flatMap] using keepsBlanks_plainSigma.trimChars_flatMap cs
  have hboth := congrArg trimChars h
  rw [htrimmed, htrimmed] at hboth
  simpa only [SameLetters, Text.trim, String.toList_ofList] using hboth

end ReviewPipeline.Text
