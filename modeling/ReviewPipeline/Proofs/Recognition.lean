import Mathlib.Data.List.Nodup
import ReviewPipeline.Cursor
import ReviewPipeline.Issue
import ReviewPipeline.Proofs.EditDistance
import ReviewPipeline.Proofs.LowerCase
import ReviewPipeline.Step

/-!
# Recognizing Words

Free text names a value of a vocabulary if it is one of the accepted words, whatever its case and
the blanks around it. Any other text is refused, with the word of a value that it comes nearest to.
The accepted words are gone through in no particular order, so of several words that are equally
near another one may win each time; what is promised about a suggestion holds for all of them.

## Main definitions

* `Vocabulary.WellFormed`: what is asked of the tables of a vocabulary;
* `Vocabulary.Names`: the accepted words of a value;
* `Vocabulary.IsNearest`: the best of the words that were gone through;
* `Vocabulary.Suggests`: which suggestions are right for a text that is not accepted;
* `Vocabulary.Recognizes`: what a function that resolves free text promises.

## Main results

* `Vocabulary.isNearest_foldl`: the loop invariant of the search for the nearest word;
* `Vocabulary.WellFormed.normalizeIn_eq_ok_iff`, `Vocabulary.normalizeIn_of_not_mem`: which texts
  are resolved, and what becomes of the others;
* `Vocabulary.recognizes_in_any_order`: the promises are kept for step types, work statuses and gate
  statuses, in any order of their words.
-/

namespace ReviewPipeline

open Text

namespace Vocabulary

variable {α : Type} {v : Vocabulary α} {a b : α} {s t k word input : String}
  {order seen : List String}

/-! ### Keys -/

/-- The look-up form of a text, up to the forms of its sigmas. -/
def IsKey (input k : String) : Prop :=
  SameLetters k (key input)

/-- The key of an input is one. -/
theorem isKey_key (input : String) : IsKey input (key input) :=
  SameLetters.refl _

/-- Blanks around a text and the case of its letters do not change its look-up form. -/
theorem IsKey.of_sameLetters {before after : String}
    (hbefore : ∀ c ∈ before.toList, isBlank c = true)
    (hafter : ∀ c ∈ after.toList, isBlank c = true)
    (h : SameLetters (lowerCase s) (lowerCase t)) : IsKey t (key (before ++ s ++ after)) := by
  have hs : key (before ++ s ++ after) = trim (lowerCase s) := by
    rw [key, trim_pad hbefore hafter, lowerCase_trim]
  have ht : key t = trim (lowerCase t) := lowerCase_trim t
  rw [IsKey, hs, ht]
  exact h.trim

/-- The forms of sigmas do not matter for the distance to a word without one. -/
theorem editDistance_eq_of_sameLetters (hword : 'σ' ∉ word.toList ∧ 'ς' ∉ word.toList)
    (h : SameLetters s t) : editDistance s word = editDistance t word := by
  have hplain : ∀ cs : List Char, EditDistance.ofChars (cs.map plainSigma) word.toList =
      EditDistance.ofChars cs word.toList := by
    refine fun cs => EditDistance.ofChars_map_left fun c d hd => plainSigma_eq_iff ?_
    exact ⟨ne_of_mem_of_not_mem hd hword.1, ne_of_mem_of_not_mem hd hword.2⟩
  rw [editDistance, editDistance, ← hplain, h, hplain]

/-! ### Tables -/

/-- The tables of a vocabulary make sense: every value is listed, no word is accepted for two
reasons, a synonym stands for a stored word, and the stored words are in look-up form. No accepted
word holds a sigma. -/
structure WellFormed (v : Vocabulary α) : Prop where
  /-- Every value is listed. -/
  complete : ∀ a, a ∈ v.values
  /-- No two values are stored under one word, and a synonym is listed once and is not a stored
  word. -/
  nodup : v.accepted.Nodup
  /-- A synonym stands for a stored word. -/
  stored : ∀ entry ∈ v.synonyms, entry.2 ∈ v.words
  /-- A stored word is what it is looked up by. -/
  key_word : ∀ a, key (v.word a) = v.word a
  /-- There is no sigma in an accepted word. -/
  no_sigma : ∀ word ∈ v.accepted, 'σ' ∉ word.toList ∧ 'ς' ∉ word.toList

/-- An accepted word names a value: it is the word under which the value is stored, or a synonym of
that word. -/
def Names (v : Vocabulary α) (word : String) (a : α) : Prop :=
  word = v.word a ∨ (word, v.word a) ∈ v.synonyms

namespace WellFormed

/-- The words are those of the values. -/
theorem mem_words (h : v.WellFormed) : word ∈ v.words ↔ ∃ a, v.word a = word := by
  simp [words, h.complete]

/-- The accepted words are those that name a value. -/
theorem mem_accepted (h : v.WellFormed) : word ∈ v.accepted ↔ ∃ a, v.Names word a := by
  simp only [accepted, List.mem_append, h.mem_words, List.mem_map]
  constructor
  · rintro (⟨a, rfl⟩ | ⟨entry, hentry, rfl⟩)
    · exact ⟨a, .inl rfl⟩
    · obtain ⟨a, ha⟩ := h.mem_words.1 (h.stored entry hentry)
      exact ⟨a, .inr (ha ▸ hentry)⟩
  · rintro ⟨a, rfl | hsynonym⟩
    · exact .inl ⟨a, rfl⟩
    · exact .inr ⟨_, hsynonym, rfl⟩

/-- Different values have different words. -/
theorem word_inj (h : v.WellFormed) : v.word a = v.word b ↔ a = b := by
  refine ⟨fun heq => ?_, congrArg v.word⟩
  have hwords : (v.values.map v.word).Nodup := (List.nodup_append.1 h.nodup).1
  exact List.inj_on_of_nodup_map hwords (h.complete a) (h.complete b) heq

/-- A value is found by its word. -/
theorem ofWord?_word (h : v.WellFormed) (a : α) : v.ofWord? (v.word a) = some a := by
  have hfound : (v.ofWord? (v.word a)).isSome := by
    simpa [ofWord?] using ⟨a, h.complete a, rfl⟩
  obtain ⟨b, hb⟩ := Option.isSome_iff_exists.1 hfound
  -- What is found has the same word, so it is `a` itself.
  have hword : v.word b = v.word a := by simpa using List.find?_some hb
  rw [hb, h.word_inj.1 hword]

/-- A stored word is not a synonym. -/
theorem lookup_word (h : v.WellFormed) (a : α) : v.synonyms.lookup (v.word a) = none := by
  obtain ⟨-, -, hdisjoint⟩ := List.nodup_append.1 h.nodup
  have ha : v.word a ∈ v.words := h.mem_words.2 ⟨a, rfl⟩
  simp only [List.lookup_eq_none_iff, bne_iff_ne]
  exact fun entry hentry => hdisjoint _ ha _ (List.mem_map_of_mem hentry)

/-- A synonym stands in the table with its word. -/
theorem lookup_eq_some_iff (h : v.WellFormed) {canonical : String} :
    v.synonyms.lookup word = some canonical ↔ (word, canonical) ∈ v.synonyms := by
  have hmem : ∀ other, v.synonyms.lookup word = some other → (word, other) ∈ v.synonyms := by
    intro other hother
    obtain ⟨before, after, hsplit, -⟩ := List.lookup_eq_some_iff.1 hother
    simp [hsplit]
  refine ⟨hmem canonical, fun hlisted => ?_⟩
  cases hother : v.synonyms.lookup word with
  | none =>
    have hnone := List.lookup_eq_none_iff.1 hother _ hlisted
    simp at hnone
  | some other =>
    -- A word is listed as a synonym only once.
    have hkeys : (v.synonyms.map (·.1)).Nodup := (List.nodup_append.1 h.nodup).2.1
    have hsame := List.inj_on_of_nodup_map hkeys (hmem other hother) hlisted rfl
    rw [(Prod.mk.inj hsame).2]

/-- A word is shown as the one of the value that it names. -/
theorem shown_eq (h : v.WellFormed) (hnames : v.Names word a) : v.shown word = v.word a := by
  rcases hnames with rfl | hsynonym
  · simp [shown, h.lookup_word]
  · simp [shown, h.lookup_eq_some_iff.2 hsynonym]

/-- An accepted word names one value. -/
theorem names_unique (h : v.WellFormed) (ha : v.Names word a) (hb : v.Names word b) : a = b :=
  h.word_inj.1 ((h.shown_eq ha).symm.trans (h.shown_eq hb))

end WellFormed

/-! ### The nearest word -/

/-- The best of the words that were gone through: none if all are out of reach of the key, and else
what is shown for one of them that has the least distance. -/
inductive IsNearest (v : Vocabulary α) (key : String) (seen : List String) :
    Option (String × Nat) → Prop
  /-- No word is within reach. -/
  | none (hfar : ∀ word ∈ seen, reach < editDistance key word) : IsNearest v key seen none
  /-- A word is within reach, and no other is nearer. -/
  | some (near : String) (hseen : near ∈ seen) (hreach : editDistance key near ≤ reach)
      (hleast : ∀ word ∈ seen, editDistance key near ≤ editDistance key word) :
      IsNearest v key seen (some (v.shown near, editDistance key near))

/-- The nearest word so far is nearer still after another look. -/
theorem IsNearest.nearer {best : Option (String × Nat)} (h : v.IsNearest k seen best)
    (word : String) : v.IsNearest k (seen ++ [word]) (v.nearer k best word) := by
  cases h with
  | none hfar =>
    by_cases hreach : editDistance k word ≤ reach
    · -- The first word within reach is nearer than all before it.
      have hold : ∀ other ∈ seen, editDistance k word ≤ editDistance k other :=
        fun other hother => hreach.trans (hfar other hother).le
      simp only [Vocabulary.nearer, hreach, Option.all_none, and_self, if_true]
      exact .some word (by simp) hreach (List.forall_mem_append.2 ⟨hold, by simp⟩)
    · simp only [Vocabulary.nearer, hreach, false_and, if_false]
      exact .none (List.forall_mem_append.2 ⟨hfar, by simpa using hreach⟩)
  | some near hseen hreach hleast =>
    by_cases hnearer : editDistance k word < editDistance k near
    · -- A word that is nearer than the best so far is the new best.
      have hword : editDistance k word ≤ reach := by omega
      have hold : ∀ other ∈ seen, editDistance k word ≤ editDistance k other :=
        fun other hother => hnearer.le.trans (hleast other hother)
      simp only [Vocabulary.nearer, Option.all_some, hword, hnearer, decide_true, and_self, if_true]
      exact .some word (by simp) hword (List.forall_mem_append.2 ⟨hold, by simp⟩)
    · -- No nearer word changes nothing.
      simp only [Vocabulary.nearer, Option.all_some, hnearer, decide_false, Bool.false_eq_true,
        and_false, if_false]
      exact .some near (by simp [hseen]) hreach
        (List.forall_mem_append.2 ⟨hleast, by simpa using hnearer⟩)

/-- Going through the words keeps the best of those that were gone through. -/
theorem isNearest_foldl (v : Vocabulary α) (k : String) (order : List String) :
    v.IsNearest k order (order.foldl (v.nearer k) none) := by
  induction order using List.reverseRecOn with
  | nil => exact .none (by simp)
  | append_singleton seen word ih =>
    rw [List.foldl_concat]
    exact ih.nearer word

/-- A suggestion is right for a key that is no accepted word: there is none just if all accepted
words are out of reach, and a suggestion is the stored word of the value that a nearest accepted
word names. -/
structure Suggests (v : Vocabulary α) (k : String) (suggestion : Option String) : Prop where
  /-- There is none just if every accepted word is more than three edits away. -/
  absent_iff : suggestion = none ↔ ∀ word ∈ v.accepted, 3 < editDistance k word
  /-- It belongs to an accepted word at the least distance. -/
  nearest : ∀ text, suggestion = some text → ∃ near ∈ v.accepted,
    (∀ word ∈ v.accepted, editDistance k near ≤ editDistance k word) ∧
    ∃ a, v.Names near a ∧ text = v.word a

/-- The nearest of all accepted words is a right suggestion, in whatever order they are searched. -/
theorem WellFormed.suggests_nearestIn? (h : v.WellFormed) (horder : order.Perm v.accepted)
    (k : String) : v.Suggests k (v.nearestIn? order k) := by
  have hnearest := isNearest_foldl v k order
  unfold nearestIn?
  generalize order.foldl (v.nearer k) none = best at hnearest
  cases hnearest with
  | none hfar =>
    exact ⟨iff_of_true rfl fun word hword => hfar word (horder.mem_iff.2 hword), nofun⟩
  | some near hseen hreach hleast =>
    -- In whatever order, all accepted words were gone through.
    simp only [horder.mem_iff] at hseen hleast
    refine ⟨iff_of_false nofun fun hfar => ?_, fun text htext => ⟨near, hseen, hleast, ?_⟩⟩
    · exact absurd (hfar near hseen) (Nat.not_lt.2 hreach)
    · obtain ⟨a, ha⟩ := h.mem_accepted.1 hseen
      obtain rfl : v.shown near = text := by simpa using htext
      exact ⟨a, ha, h.shown_eq ha⟩

/-! ### Resolving a text -/

/-- A text whose look-up form is no accepted word is given back as it was. -/
theorem normalizeIn_of_not_mem (hnot : key input ∉ v.accepted) :
    v.normalizeIn order input = .error ⟨input, v.nearestIn? order (key input)⟩ := by
  obtain ⟨hword, hsynonym⟩ : key input ∉ v.words ∧ key input ∉ v.synonyms.map (·.1) := by
    simpa only [accepted, List.mem_append, not_or] using hnot
  have hnone : v.synonyms.lookup (key input) = none := by
    simp only [List.lookup_eq_none_iff, bne_iff_ne]
    intro entry hentry heq
    exact hsynonym (heq ▸ List.mem_map_of_mem hentry)
  simp only [normalizeIn, canonicalIn, hword, hnone, if_false]

namespace WellFormed

/-- An input whose key names a value is recognized as that value. -/
theorem normalizeIn_of_names (h : v.WellFormed) (hnames : v.Names (key input) a) :
    v.normalizeIn order input = .ok a := by
  have hcanonical : v.canonicalIn order input = .ok (v.word a) := by
    unfold canonicalIn
    split
    · next hstored =>
      -- The key is a stored word, and as it names `a` only, it is the one of `a`.
      obtain ⟨b, hb⟩ := h.mem_words.1 hstored
      rw [← hb, h.word_inj.2 (h.names_unique (.inl hb.symm) hnames)]
    · next hnot =>
      rcases hnames with hword | hsynonym
      · exact absurd (h.mem_words.2 ⟨a, hword.symm⟩) hnot
      · rw [h.lookup_eq_some_iff.2 hsynonym]
  simp only [normalizeIn, hcanonical, h.ofWord?_word]

/-- An input is recognized as a value iff its key names the value. -/
theorem normalizeIn_eq_ok_iff (h : v.WellFormed) :
    v.normalizeIn order input = .ok a ↔ v.Names (key input) a := by
  refine ⟨fun hok => ?_, h.normalizeIn_of_names⟩
  by_cases haccepted : key input ∈ v.accepted
  · obtain ⟨b, hb⟩ := h.mem_accepted.1 haccepted
    rw [h.normalizeIn_of_names hb] at hok
    exact Except.ok.inj hok ▸ hb
  · rw [normalizeIn_of_not_mem haccepted] at hok
    cases hok

/-- A stored word is resolved to its value. -/
theorem normalizeIn_word (h : v.WellFormed) (a : α) : v.normalizeIn order (v.word a) = .ok a :=
  h.normalizeIn_of_names (.inl (h.key_word a))

/-- Only the look-up form of a text matters, and no more of it than its distances to the accepted
words. -/
theorem editDistance_eq (h : v.WellFormed) (hkey : IsKey input k) (hword : word ∈ v.accepted) :
    editDistance (key input) word = editDistance k word :=
  (editDistance_eq_of_sameLetters (h.no_sigma word hword) hkey).symm

/-- If one of two look-up forms of a text is an accepted word, they are the same. -/
theorem key_eq (h : v.WellFormed) (hkey : IsKey input k)
    (haccepted : key input ∈ v.accepted ∨ k ∈ v.accepted) : key input = k := by
  have hsame : ∀ word ∈ v.accepted, key input = word ↔ k = word := fun word hword => by
    rw [← editDistance_eq_zero_iff, h.editDistance_eq hkey hword, editDistance_eq_zero_iff]
  rcases haccepted with hmem | hmem
  · exact ((hsame _ hmem).1 rfl).symm
  · exact (hsame _ hmem).2 rfl

/-- Which key an input has makes no difference to what is accepted. -/
theorem mem_accepted_iff (h : v.WellFormed) (hkey : IsKey input k) :
    key input ∈ v.accepted ↔ k ∈ v.accepted := by
  constructor <;> intro hmem
  · exact h.key_eq hkey (.inl hmem) ▸ hmem
  · exact (h.key_eq hkey (.inr hmem)).symm ▸ hmem

/-- Blanks around a text and its letter case make no difference to what it names. -/
theorem names_iff (h : v.WellFormed) (hkey : IsKey input k) :
    v.Names (key input) a ↔ v.Names k a := by
  constructor <;> intro hnames
  · exact h.key_eq hkey (.inl (h.mem_accepted.2 ⟨a, hnames⟩)) ▸ hnames
  · exact (h.key_eq hkey (.inr (h.mem_accepted.2 ⟨a, hnames⟩))).symm ▸ hnames

end WellFormed

/-- What a function that resolves free text promises. The key of a text is its look-up form; whether
a sigma in it stands at the end of a word is left open. -/
structure Recognizes (v : Vocabulary α) (resolve : String → Except Unrecognized α) : Prop where
  /-- A text is accepted just if its key is an accepted word. -/
  accepts : ∀ {input k}, IsKey input k → ((∃ a, resolve input = .ok a) ↔ k ∈ v.accepted)
  /-- It is then resolved to the value that its key names. -/
  resolves : ∀ {input k a}, IsKey input k → (resolve input = .ok a ↔ v.Names k a)
  /-- A stored word is resolved to its value. -/
  word : ∀ a, resolve (v.word a) = .ok a
  /-- Case and the blanks around a text do not matter. -/
  padded : ∀ {before s after t a}, (∀ c ∈ before.toList, isBlank c = true) →
    (∀ c ∈ after.toList, isBlank c = true) → SameLetters (lowerCase s) (lowerCase t) →
    (resolve (before ++ s ++ after) = .ok a ↔ resolve t = .ok a)
  /-- A text that is not accepted is given back as it was, with a right suggestion. -/
  refuses : ∀ {input k}, IsKey input k → k ∉ v.accepted →
    ∃ suggestion, resolve input = .error ⟨input, suggestion⟩ ∧ v.Suggests k suggestion
  /-- A suggestion is itself resolved, to the value that it is the word of. -/
  usable : ∀ {input text}, resolve input = .error ⟨input, some text⟩ →
    ∃ a, text = v.word a ∧ resolve text = .ok a

/-- Blanks around a text and its letter case make no difference to what may be suggested. -/
theorem WellFormed.suggests_of_isKey (h : v.WellFormed) (hkey : IsKey input k)
    {suggestion : Option String} (hright : v.Suggests (key input) suggestion) :
    v.Suggests k suggestion where
  absent_iff := by
    rw [hright.absent_iff]
    exact forall₂_congr fun word hword => by rw [h.editDistance_eq hkey hword]
  nearest text htext := by
    obtain ⟨near, hnear, hleast, hnames⟩ := hright.nearest text htext
    refine ⟨near, hnear, fun word hword => ?_, hnames⟩
    rw [← h.editDistance_eq hkey hnear, ← h.editDistance_eq hkey hword]
    exact hleast word hword

/-- A vocabulary whose words are distinct recognizes what it should, in whatever order it searches.
-/
theorem WellFormed.recognizes (h : v.WellFormed) (horder : order.Perm v.accepted) :
    v.Recognizes (v.normalizeIn order) where
  accepts hkey := by
    simp only [h.normalizeIn_eq_ok_iff, ← h.mem_accepted, h.mem_accepted_iff hkey]
  resolves hkey := by
    rw [h.normalizeIn_eq_ok_iff, h.names_iff hkey]
  word := h.normalizeIn_word
  padded hbefore hafter hletters := by
    have hkey := IsKey.of_sameLetters hbefore hafter hletters
    rw [h.normalizeIn_eq_ok_iff, h.normalizeIn_eq_ok_iff, h.names_iff hkey]
  refuses := by
    intro input k hkey hnot
    rw [← h.mem_accepted_iff hkey] at hnot
    have hright := h.suggests_nearestIn? horder (key input)
    exact ⟨_, normalizeIn_of_not_mem hnot, h.suggests_of_isKey hkey hright⟩
  -- A suggestion is only made for a refused word, and is the word of a value.
  usable := by
    intro input text herror
    have hnot : key input ∉ v.accepted := by
      intro hmem
      obtain ⟨a, ha⟩ := h.mem_accepted.1 hmem
      rw [h.normalizeIn_of_names ha] at herror
      cases herror
    rw [normalizeIn_of_not_mem hnot] at herror
    have htext : v.nearestIn? order (key input) = some text :=
      congrArg Unrecognized.suggestion (Except.error.inj herror)
    obtain ⟨near, -, -, a, -, rfl⟩ :=
      (h.suggests_nearestIn? horder (key input)).nearest text htext
    exact ⟨a, rfl, h.normalizeIn_word a⟩

end Vocabulary

/-! ### The three vocabularies of free text -/

/-- The kinds of steps make a vocabulary. -/
theorem StepKind.wellFormed : StepKind.vocabulary.WellFormed where
  complete a := by cases a <;> decide
  nodup := by decide +kernel
  stored := by decide +kernel
  key_word a := by cases a <;> decide +kernel
  no_sigma := by decide +kernel

/-- The words for the statuses of work are well formed. -/
theorem WorkStatus.wellFormed : WorkStatus.vocabulary.WellFormed where
  complete a := by cases a <;> decide
  nodup := by decide +kernel
  stored := by decide +kernel
  key_word a := by cases a <;> decide +kernel
  no_sigma := by decide +kernel

/-- The words for the statuses of the gate are well formed. -/
theorem GateStatus.wellFormed : GateStatus.vocabulary.WellFormed where
  complete a := by cases a <;> decide
  nodup := by decide +kernel
  stored := by decide +kernel
  key_word a := by cases a <;> decide +kernel
  no_sigma := by decide +kernel

namespace Vocabulary

/-- Step types, work statuses and gate statuses are recognized as promised, in whatever order the
accepted words are gone through to find a suggestion. -/
theorem recognizes_in_any_order {kinds statuses gates : List String}
    (hkinds : kinds.Perm StepKind.vocabulary.accepted)
    (hstatuses : statuses.Perm WorkStatus.vocabulary.accepted)
    (hgates : gates.Perm GateStatus.vocabulary.accepted) :
    StepKind.vocabulary.Recognizes (StepKind.vocabulary.normalizeIn kinds) ∧
    WorkStatus.vocabulary.Recognizes (WorkStatus.vocabulary.normalizeIn statuses) ∧
    GateStatus.vocabulary.Recognizes (GateStatus.vocabulary.normalizeIn gates) :=
  ⟨StepKind.wellFormed.recognizes hkinds, WorkStatus.wellFormed.recognizes hstatuses,
    GateStatus.wellFormed.recognizes hgates⟩

/-- Two statuses are equally near to "do". Of the words in their order the first wins, and of the
words in the reverse order the last; either suggestion is right, and is accepted. -/
theorem recognizes_in_any_order_reversed :
    let listed := WorkStatus.vocabulary.accepted
    let statuses := listed.reverse
    statuses.Perm listed ∧
      (listed.Perm listed ∧ StepKind.vocabulary.accepted.Perm StepKind.vocabulary.accepted ∧
        GateStatus.vocabulary.accepted.Perm GateStatus.vocabulary.accepted) ∧
      WorkStatus.vocabulary.normalize "Do " = .error ⟨"Do ", some "todo"⟩ ∧
      WorkStatus.vocabulary.normalizeIn statuses "Do " = .error ⟨"Do ", some "done"⟩ ∧
      WorkStatus.vocabulary.Suggests "do" (some "todo") ∧
      WorkStatus.vocabulary.Suggests "do" (some "done") ∧
      ∃ a, "done" = WorkStatus.vocabulary.word a ∧
        WorkStatus.vocabulary.normalizeIn statuses "done" = .ok a := by
  intro listed statuses
  have hstatuses : statuses.Perm listed := List.reverse_perm listed
  have hform : key "Do " = "do" := by decide +kernel
  have hkey : IsKey "Do " "do" := hform ▸ isKey_key "Do "
  have hnot : "do" ∉ WorkStatus.vocabulary.accepted := by decide +kernel
  -- The suggestions of both orders are evaluated, and found to be admissible in general.
  have htodo : WorkStatus.vocabulary.normalize "Do " = .error ⟨"Do ", some "todo"⟩ := by
    decide +kernel
  have hdone : WorkStatus.vocabulary.normalizeIn statuses "Do " =
      .error ⟨"Do ", some "done"⟩ := by
    decide +kernel
  have hlisted := (recognizes_in_any_order (.refl _) (List.Perm.refl listed) (.refl _)).2.1
  have hreversed := (recognizes_in_any_order (.refl _) hstatuses (.refl _)).2.1
  refine ⟨hstatuses, ⟨.refl _, .refl _, .refl _⟩, htodo, hdone, ?_, ?_, hreversed.usable hdone⟩
  · obtain ⟨suggestion, herror, hright⟩ := hlisted.refuses hkey hnot
    cases htodo.symm.trans herror
    exact hright
  · obtain ⟨suggestion, herror, hright⟩ := hreversed.refuses hkey hnot
    cases hdone.symm.trans herror
    exact hright

end Vocabulary

end ReviewPipeline
