import Mathlib.Order.Bounds.Basic
import Mathlib.Order.MinMax
import ReviewPipeline.EditDistance

/-!
# The Edit Distance is the Least Number of Edits

One edit inserts a character into a text, deletes one from it, or puts one in the place of another.
Here it is shown that the table of `EditDistance` comes to the least number of edits that turn one
text into another, and the laws of a distance are read off that.

The proof has two halves. Edits come in any order and may undo each other, so a number of edits is
first compared with a pairing of the two texts from left to right (`Aligned`), in which nothing
happens twice; what is least among pairings is then a recursion on the two texts (`distance`). The
other half is about the table: each of its cells holds the `distance` of two beginnings, which are
read backwards because the table grows at their ends.

## Main definitions

* `EditDistance.Edit`, `EditDistance.Edits`: one edit, and several edits in a row;
* `EditDistance.Aligned`: a pairing of two texts with a number of differences;
* `EditDistance.distance`: the recursion for the least number of differences;
* `EditDistance.IsRow`: what stands in a row of the table.

## Main results

* `EditDistance.distance_isLeast`: no pairing has fewer differences than `distance`;
* `EditDistance.isRow_fillRow`, `EditDistance.isRow_lastRow`: the loop invariants of the table;
* `editDistance_isLeast`: the edit distance is the least number of edits;
* `editDistance_metric`: with it, the edit distance is a metric within the bounds of the lengths.
-/

namespace ReviewPipeline

namespace EditDistance

variable {a b c : List Char} {m n : Nat}

/-! ### Edits -/

/-- One edit turns a text into another. -/
inductive Edit : List Char → List Char → Prop
  /-- A character is inserted. -/
  | insertion (front back : List Char) (x : Char) : Edit (front ++ back) (front ++ x :: back)
  /-- A character is deleted. -/
  | deletion (front back : List Char) (x : Char) : Edit (front ++ x :: back) (front ++ back)
  /-- A character is put in the place of another. -/
  | substitution (front back : List Char) (x y : Char) :
    Edit (front ++ x :: back) (front ++ y :: back)

/-- So many edits, one after the other, turn a text into another. -/
inductive Edits : Nat → List Char → List Char → Prop
  /-- Without an edit a text stays as it is. -/
  | none (a : List Char) : Edits 0 a a
  /-- One edit is followed by others. -/
  | next {n : Nat} {a b c : List Char} (first : Edit a b) (rest : Edits n b c) : Edits (n + 1) a c

/-- An edit can be undone by one. -/
theorem Edit.symm (h : Edit a b) : Edit b a := by
  cases h with
  | insertion front back x => exact .deletion front back x
  | deletion front back x => exact .insertion front back x
  | substitution front back x y => exact .substitution front back y x

/-- An edit of a text is one of the reversed text. -/
theorem Edit.reverse (h : Edit a b) : Edit a.reverse b.reverse := by
  cases h with
  | insertion front back x => simpa using Edit.insertion back.reverse front.reverse x
  | deletion front back x => simpa using Edit.deletion back.reverse front.reverse x
  | substitution front back x y => simpa using Edit.substitution back.reverse front.reverse x y

/-- An edit stays one behind a letter. -/
theorem Edit.cons (h : Edit a b) (x : Char) : Edit (x :: a) (x :: b) := by
  cases h with
  | insertion front back y => exact .insertion (x :: front) back y
  | deletion front back y => exact .deletion (x :: front) back y
  | substitution front back y z => exact .substitution (x :: front) back y z

/-- An edit changes the length of a text by one at most. -/
theorem Edit.length_le (h : Edit a b) : a.length ≤ b.length + 1 := by
  cases h <;> simp <;> omega

namespace Edits

/-- One edit is a sequence of one. -/
theorem single (h : Edit a b) : Edits 1 a b :=
  .next h (.none b)

/-- Sequences of edits can be joined. -/
theorem trans (h : Edits m a b) (h' : Edits n b c) : Edits (m + n) a c := by
  induction h with
  | none => simpa using h'
  | next first _ ih => simpa [Nat.add_right_comm] using Edits.next first (ih h')

/-- A sequence of edits can be undone in as many. -/
theorem symm (h : Edits n a b) : Edits n b a := by
  induction h with
  | none a => exact .none a
  | next first _ ih => exact ih.trans (.single first.symm)

/-- A sequence of edits of a text is one of the reversed text. -/
theorem reverse (h : Edits n a b) : Edits n a.reverse b.reverse := by
  induction h with
  | none a => exact .none _
  | next first _ ih => exact .next first.reverse ih

/-- A sequence of edits stays one behind a letter. -/
theorem cons (h : Edits n a b) (x : Char) : Edits n (x :: a) (x :: b) := by
  induction h with
  | none a => exact .none _
  | next first _ ih => exact .next (first.cons x) ih

/-- Without an edit, nothing changes. -/
theorem eq (h : Edits 0 a b) : a = b := by
  cases h
  rfl

/-- Each edit makes a text longer by at most one letter. -/
theorem length_le (h : Edits n a b) : a.length ≤ b.length + n := by
  induction h with
  | none => simp
  | next first _ ih =>
    have hfirst := first.length_le
    omega

end Edits

/-! ### Pairings -/

/-- Two texts are read side by side, with so many differences between them: characters that only one
of them has, and pairs of characters of which one stands in the place of the other. -/
inductive Aligned : Nat → List Char → List Char → Prop
  /-- Both texts end. -/
  | nil : Aligned 0 [] []
  /-- Both texts go on with the same character. -/
  | same (x : Char) {n : Nat} {a b : List Char} (h : Aligned n a b) : Aligned n (x :: a) (x :: b)
  /-- The second text has a character more. -/
  | more (y : Char) {n : Nat} {a b : List Char} (h : Aligned n a b) : Aligned (n + 1) a (y :: b)
  /-- The second text has a character less. -/
  | less (x : Char) {n : Nat} {a b : List Char} (h : Aligned n a b) : Aligned (n + 1) (x :: a) b
  /-- The second text has a character in the place of another. -/
  | other (x y : Char) {n : Nat} {a b : List Char} (h : Aligned n a b) :
    Aligned (n + 1) (x :: a) (y :: b)

namespace Aligned

/-- A text is aligned with itself at no cost. -/
theorem refl (a : List Char) : Aligned 0 a a := by
  induction a with
  | nil => exact .nil
  | cons x a ih => exact .same x ih

/-- The differences of a pairing can be made one by one. -/
theorem edits (h : Aligned n a b) : Edits n a b := by
  induction h with
  | nil => exact .none []
  | same x _ ih => exact ih.cons x
  | @more y n a b _ ih => exact ih.trans (.single (.insertion [] b y))
  | @less x n a b _ ih => exact .next (.deletion [] a x) ih
  | @other x y n a b _ ih => exact .next (.substitution [] a x y) (ih.cons y)

end Aligned

/-- Whatever the second of two texts is paired with, the first is paired with it at the price of at
most one more difference. -/
def WithinOne (a b : List Char) : Prop :=
  ∀ n c, Aligned n b c → ∃ k ≤ n + 1, Aligned k a c

namespace WithinOne

/-- It is enough to look at the pairings of the second text that begin with its first character. -/
theorem of_first {y : Char}
    (hsame : ∀ n c, Aligned n b c → ∃ k ≤ n + 1, Aligned k a (y :: c))
    (hless : ∀ n c, Aligned n b c → ∃ k ≤ n + 2, Aligned k a c)
    (hother : ∀ n z c, Aligned n b c → ∃ k ≤ n + 2, Aligned k a (z :: c)) :
    WithinOne a (y :: b) := by
  intro n c h
  -- The induction is on the pairing, whose first text is `y :: b` as long as `c` has more.
  generalize hfirst : y :: b = first at h
  induction h with
  | nil => cases hfirst
  | same z h _ =>
    cases hfirst
    exact hsame _ _ h
  | more z _ ih =>
    obtain ⟨k, hk, ha⟩ := ih hfirst
    exact ⟨k + 1, by omega, .more z ha⟩
  | less z h _ =>
    cases hfirst
    exact hless _ _ h
  | other z w h _ =>
    cases hfirst
    exact hother _ w _ h

/-- Two texts within one edit stay so behind a letter. -/
theorem cons (h : WithinOne a b) (x : Char) : WithinOne (x :: a) (x :: b) := by
  refine of_first (fun n c hb => ?same) (fun n c hb => ?less) fun n z c hb => ?other
  all_goals obtain ⟨k, hk, ha⟩ := h n c hb
  case same => exact ⟨k, hk, .same x ha⟩
  case less => exact ⟨k + 1, by omega, .less x ha⟩
  case other => exact ⟨k + 1, by omega, .other x z ha⟩

/-- They stay so behind any text. -/
theorem append (h : WithinOne a b) (front : List Char) :
    WithinOne (front ++ a) (front ++ b) := by
  induction front with
  | nil => exact h
  | cons x front ih => exact ih.cons x

/-- A deletion is within one edit. -/
theorem deletion (x : Char) (back : List Char) : WithinOne (x :: back) back :=
  fun n _ h => ⟨n + 1, le_rfl, .less x h⟩

/-- An insertion is within one edit. -/
theorem insertion (x : Char) (back : List Char) : WithinOne back (x :: back) :=
  of_first (fun n _ h => ⟨n + 1, le_rfl, .more x h⟩) (fun n _ h => ⟨n, by omega, h⟩)
    fun n z _ h => ⟨n + 1, by omega, .more z h⟩

/-- A substitution is within one edit. -/
theorem substitution (x y : Char) (back : List Char) : WithinOne (x :: back) (y :: back) :=
  of_first (fun n _ h => ⟨n + 1, le_rfl, .other x y h⟩) (fun n _ h => ⟨n + 1, by omega, .less x h⟩)
    fun n z _ h => ⟨n + 1, by omega, .other x z h⟩

/-- Whatever is one edit is within one. -/
theorem of_edit (h : Edit a b) : WithinOne a b := by
  cases h with
  | insertion front back x => exact (insertion x back).append front
  | deletion front back x => exact (deletion x back).append front
  | substitution front back x y => exact (substitution x y back).append front

end WithinOne

/-- A text is paired with what edits make of it, with no more differences than there were edits. -/
theorem Edits.exists_aligned (h : Edits n a b) : ∃ k ≤ n, Aligned k a b := by
  induction h with
  | none a => exact ⟨0, le_rfl, .refl a⟩
  | next first _ ih =>
    obtain ⟨k, hk, hrest⟩ := ih
    obtain ⟨l, hl, hall⟩ := WithinOne.of_edit first k _ hrest
    exact ⟨l, by omega, hall⟩

/-- The fewest edits are as many as the fewest differences. -/
theorem isLeast_edits (h : IsLeast {n | Aligned n a b} n) : IsLeast {n | Edits n a b} n := by
  refine ⟨h.1.edits, fun m hm => ?_⟩
  obtain ⟨k, hk, hpaired⟩ := Edits.exists_aligned hm
  exact (h.2 hpaired).trans hk

/-! ### The recursion for the fewest differences -/

/-- The fewest differences of two texts: where both go on, the least of reading on in the first, in
the second, and in both. -/
def distance : (a b : List Char) → Nat
  | [], b => b.length
  | _ :: a, [] => a.length + 1
  | x :: a, y :: b =>
    min (min (distance a (y :: b) + 1) (distance (x :: a) b + 1)) (distance a b + substitution x y)
termination_by a b => a.length + b.length

/-- From nothing, every letter is inserted. -/
@[simp]
theorem distance_nil_left (b : List Char) : distance [] b = b.length := by
  rw [distance]

/-- To nothing, every letter is deleted. -/
@[simp]
theorem distance_nil_right (a : List Char) : distance a [] = a.length := by
  cases a <;> simp [distance]

/-- The distance of two texts is that of shorter ones and one edit, or the cost of a substitution.
-/
theorem distance_cons_cons (x y : Char) (a b : List Char) :
    distance (x :: a) (y :: b) =
      min (min (distance a (y :: b) + 1) (distance (x :: a) b + 1))
        (distance a b + substitution x y) := by
  rw [distance]

/-- A letter costs nothing to keep. -/
@[simp]
theorem substitution_self (x : Char) : EditDistance.substitution x x = 0 :=
  if_pos rfl

/-- A substitution costs at most one. -/
theorem substitution_le_one (x y : Char) : EditDistance.substitution x y ≤ 1 := by
  unfold EditDistance.substitution
  split <;> omega

/-- Another letter on the right costs at most one. -/
theorem distance_cons_right_le (y : Char) (a b : List Char) :
    distance a (y :: b) ≤ distance a b + 1 := by
  cases a with
  | nil => simp
  | cons x a =>
    rw [distance_cons_cons]
    omega

/-- Another letter on the left costs at most one. -/
theorem distance_cons_left_le (x : Char) (a b : List Char) :
    distance (x :: a) b ≤ distance a b + 1 := by
  cases b with
  | nil => simp
  | cons y b =>
    rw [distance_cons_cons]
    omega

/-- A letter on both sides costs at most a substitution. -/
theorem distance_cons_cons_le (x y : Char) (a b : List Char) :
    distance (x :: a) (y :: b) ≤ distance a b + substitution x y := by
  rw [distance_cons_cons]
  omega

/-- A map of characters keeps the distance to a text whose characters it neither moves nor makes of
others. -/
theorem distance_map_left {f : Char → Char} (a : List Char) (hf : ∀ x, ∀ y ∈ b, f x = y ↔ x = y) :
    distance (a.map f) b = distance a b := by
  induction a, b using distance.induct with
  | case1 b => rfl
  | case2 x a => simp
  | case3 x a y b hdelete hinsert hkeep =>
    have hrest : ∀ x, ∀ y ∈ b, f x = y ↔ x = y := fun x z hz => hf x z (List.mem_cons_of_mem y hz)
    have hcost : EditDistance.substitution (f x) y = EditDistance.substitution x y := by
      simp only [EditDistance.substitution, hf x y List.mem_cons_self]
    rw [List.map_cons] at hinsert ⊢
    rw [distance_cons_cons, distance_cons_cons, hdelete hf, hinsert hrest, hkeep hrest, hcost]

/-- No alignment costs less than the distance. -/
theorem Aligned.distance_le (h : Aligned n a b) : distance a b ≤ n := by
  -- One step of an alignment for each recursive call of the distance, which takes the least of
  -- them.
  induction h with
  | nil => simp
  | @same x n a b _ ih =>
    have hstep := distance_cons_cons_le x x a b
    rw [substitution_self] at hstep
    omega
  | @more y n a b _ ih =>
    have hstep := distance_cons_right_le y a b
    omega
  | @less x n a b _ ih =>
    have hstep := distance_cons_left_le x a b
    omega
  | @other x y n a b _ ih =>
    have hstep := distance_cons_cons_le x y a b
    have hcost := substitution_le_one x y
    omega

/-- Going on with both texts costs one difference, unless the characters are the same. -/
theorem Aligned.cons_cons (h : Aligned n a b) (x y : Char) :
    Aligned (n + EditDistance.substitution x y) (x :: a) (y :: b) := by
  unfold EditDistance.substitution
  split
  · next hsame => exact hsame ▸ .same x h
  · exact .other x y h

/-- Some alignment costs just the distance. -/
theorem aligned_distance (a b : List Char) : Aligned (distance a b) a b := by
  induction a, b using distance.induct with
  | case1 b =>
    rw [distance_nil_left]
    induction b with
    | nil => exact .nil
    | cons y b ih => exact .more y ih
  | case2 x a =>
    rw [distance_nil_right]
    induction a generalizing x with
    | nil => exact .less x .nil
    | cons y a ih => exact .less x (ih y)
  | case3 x a y b hdelete hinsert hkeep =>
    rw [distance_cons_cons]
    -- One of the three ways to go on is the least.
    rcases min_choice (min (distance a (y :: b) + 1) (distance (x :: a) b + 1))
      (distance a b + substitution x y) with h | h
    · rw [h]
      rcases min_choice (distance a (y :: b) + 1) (distance (x :: a) b + 1) with h | h
      · rw [h]
        exact .less x hdelete
      · rw [h]
        exact .more y hinsert
    · rw [h]
      exact hkeep.cons_cons x y

/-- The recursion comes to the fewest differences. -/
theorem distance_isLeast (a b : List Char) : IsLeast {n | Aligned n a b} (distance a b) :=
  ⟨aligned_distance a b, fun _ h => h.distance_le⟩

/-- Putting each character of one text in the place of one of the other, and adding or taking away
what one of them has more, is one way to get there. -/
theorem aligned_max (a b : List Char) :
    ∃ n ≤ max a.length b.length, Aligned n a b := by
  -- As long as both have characters, one is put in the place of the other.
  induction a generalizing b with
  | nil => exact ⟨b.length, by simp, by simpa using aligned_distance [] b⟩
  | cons x a ih =>
    cases b with
    | nil => exact ⟨a.length + 1, by simp, by simpa using aligned_distance (x :: a) []⟩
    | cons y b =>
      obtain ⟨n, hn, h⟩ := ih b
      exact ⟨n + 1, by simp; omega, .other x y h⟩

/-! ### The table -/

variable {x y : Char} {i j : Nat} {last row spare : Array Nat} {rest : List Char}

/-- The cells of a row up to the `k`-th are filled for the beginning of a text that is `a` when read
backwards: the `j`-th holds the distance to the first `j` characters of `b`. -/
structure IsRow (a b : List Char) (k : Nat) (row : Array Nat) : Prop where
  /-- There is a cell for each beginning of `b`. -/
  size : row.size = b.length + 1
  /-- The cells hold distances. -/
  cell : ∀ j ≤ k, row.getD j 0 = distance a (b.take j).reverse

/-- What was set in a row is found there. -/
theorem getD_setIfInBounds_self {v : Nat} (h : i < row.size) :
    (row.setIfInBounds i v).getD i 0 = v := by
  simp [Array.getD_eq_getD_getElem?, h]

/-- Elsewhere a row is as it was before something was set. -/
theorem getD_setIfInBounds_of_ne {v : Nat} (h : i ≠ j) :
    (row.setIfInBounds i v).getD j 0 = row.getD j 0 := by
  simp [Array.getD_eq_getD_getElem?, h]

/-- While letters are left, their number has not been reached. -/
theorem lt_length_of_drop_eq_cons (h : b.drop j = y :: rest) : j < b.length := by
  have hlength := congrArg List.length h
  simp at hlength
  omega

/-- A beginning that is one character longer has that character in front when read backwards. -/
theorem reverse_take_succ (h : b.drop j = y :: rest) :
    (b.take (j + 1)).reverse = y :: (b.take j).reverse := by
  have hget : b[j]? = some y := by rw [← List.head?_drop, h, List.head?_cons]
  simp [List.take_add_one, hget]

/-- The next cell of a row holds the distance of the texts read so far. -/
theorem nextCell_eq (hlast : IsRow a b b.length last) (hrow : IsRow (x :: a) b j row)
    (h : b.drop j = y :: rest) :
    nextCell x y last row j = distance (x :: a) (b.take (j + 1)).reverse := by
  have hj : j < b.length := lt_length_of_drop_eq_cons h
  have habove : last.getD (j + 1) 0 = distance a (y :: (b.take j).reverse) := by
    rw [hlast.cell (j + 1) hj, reverse_take_succ h]
  rw [reverse_take_succ h, distance_cons_cons, nextCell, habove, hrow.cell j le_rfl,
    hlast.cell j hj.le]

/-- Filling a cell of a row leaves the cells before it as they are. -/
theorem IsRow.fillNext (hlast : IsRow a b b.length last) (hrow : IsRow (x :: a) b j row)
    (h : b.drop j = y :: rest) :
    IsRow (x :: a) b (j + 1) (row.setIfInBounds (j + 1) (nextCell x y last row j)) where
  size := by rw [Array.size_setIfInBounds, hrow.size]
  cell := by
    intro k hk
    rcases Nat.lt_or_eq_of_le hk with hk | rfl
    · rw [getD_setIfInBounds_of_ne (by omega)]
      exact hrow.cell k (by omega)
    · have hj : j + 1 < row.size := by
        have hlength := lt_length_of_drop_eq_cons h
        rw [hrow.size]
        omega
      rw [getD_setIfInBounds_self hj]
      exact nextCell_eq hlast hrow h

/-- A row that is right up to a cell is right everywhere after it is filled from there on. -/
theorem isRow_fillRow (hlast : IsRow a b b.length last) (hrow : IsRow (x :: a) b j row)
    (h : b.drop j = rest) (hj : j ≤ b.length) :
    IsRow (x :: a) b b.length (fillRow x last rest j row) := by
  -- The invariant: up to `j` the row is right, and `rest` is what stands from there on.
  induction rest generalizing j row with
  | nil =>
    have hend : b.length ≤ j := List.drop_eq_nil_iff.1 h
    obtain rfl : j = b.length := by omega
    exact hrow
  | cons y rest ih =>
    have hrest : b.drop (j + 1) = rest := by rw [← List.tail_drop, h, List.tail_cons]
    exact ih (hlast.fillNext hrow h) hrest (lt_length_of_drop_eq_cons h)

/-- Whatever stands in the spare row, it is written over: only its size matters. -/
theorem isRow_lastRow (rest : List Char) (hlast : IsRow a b b.length last)
    (hspare : spare.size = b.length + 1) :
    IsRow (rest.reverse ++ a) b b.length (lastRow b rest a.length last spare) := by
  -- The two rows change places with every character, so both are general in the induction.
  induction rest generalizing a last spare with
  | nil => exact hlast
  | cons x rest ih =>
    have hstart : IsRow (x :: a) b 0 (spare.setIfInBounds 0 (a.length + 1)) := by
      refine ⟨by rw [Array.size_setIfInBounds, hspare], fun j hj => ?_⟩
      obtain rfl : j = 0 := by omega
      rw [getD_setIfInBounds_self (by omega)]
      simp
    have hfilled := isRow_fillRow hlast hstart List.drop_zero (Nat.zero_le _)
    rw [lastRow, List.reverse_cons, List.append_assoc]
    exact ih hfilled hlast.size

/-- The first row is for the empty beginning. -/
theorem isRow_range (b : List Char) : IsRow [] b b.length (Array.range (b.length + 1)) where
  size := Array.size_range
  cell := by
    intro j hj
    have hin : j < b.length + 1 := by omega
    simp [Array.getD_eq_getD_getElem?, hin, hj]

/-- The rows come to the distance of the reversed texts. -/
theorem ofChars_eq (a b : List Char) : ofChars a b = distance a.reverse b.reverse := by
  unfold ofChars
  split
  · next h => simp [List.isEmpty_iff.1 h]
  split
  · next h => simp [List.isEmpty_iff.1 h]
  · have hrow : IsRow a.reverse b b.length (lastRow b a 0 (Array.range (b.length + 1))
        (Array.replicate (b.length + 1) 0)) := by
      have hspare : (Array.replicate (b.length + 1) 0).size = b.length + 1 := Array.size_replicate
      have hlast := isRow_lastRow a (isRow_range b) hspare
      simpa using hlast
    dsimp only
    rw [hrow.cell b.length le_rfl, List.take_length]

/-- Renaming letters that the other text has not changes no distance. -/
theorem ofChars_map_left {f : Char → Char} (hf : ∀ x, ∀ y ∈ b, f x = y ↔ x = y) :
    ofChars (a.map f) b = ofChars a b := by
  rw [ofChars_eq, ofChars_eq, ← List.map_reverse]
  exact distance_map_left a.reverse fun x y hy => hf x y (List.mem_reverse.1 hy)

/-- No fewer edits than the distance turn one list of characters into another. -/
theorem ofChars_isLeast (a b : List Char) : IsLeast {n | Edits n a b} (ofChars a b) := by
  rw [ofChars_eq]
  have hleast := isLeast_edits (distance_isLeast a.reverse b.reverse)
  -- Edits can as well be made on the texts read backwards.
  exact ⟨by simpa using Edits.reverse hleast.1, fun n hn => hleast.2 (Edits.reverse hn)⟩

end EditDistance

/-! ### The laws of a distance -/

open EditDistance

variable {a b c : String}

/-- The edit distance of two texts is the least number of edits that turn one into the other. -/
theorem editDistance_isLeast (a b : String) :
    IsLeast {n | Edits n a.toList b.toList} (editDistance a b) :=
  ofChars_isLeast a.toList b.toList

/-- Only a text itself is at no distance. -/
theorem editDistance_eq_zero_iff : editDistance a b = 0 ↔ a = b := by
  constructor
  · intro h
    have hnone : Edits 0 a.toList b.toList := h ▸ (editDistance_isLeast a b).1
    exact String.toList_inj.1 hnone.eq
  · rintro rfl
    exact Nat.le_zero.1 ((editDistance_isLeast a a).2 (.none a.toList))

/-- The distance is the same in both directions. -/
theorem editDistance_comm (a b : String) : editDistance a b = editDistance b a :=
  Nat.le_antisymm ((editDistance_isLeast a b).2 (Edits.symm (editDistance_isLeast b a).1))
    ((editDistance_isLeast b a).2 (Edits.symm (editDistance_isLeast a b).1))

/-- A detour is no shorter. -/
theorem editDistance_triangle (a b c : String) :
    editDistance a c ≤ editDistance a b + editDistance b c :=
  (editDistance_isLeast a c).2
    (Edits.trans (editDistance_isLeast a b).1 (editDistance_isLeast b c).1)

/-- Lengths differ at most by the distance. -/
theorem length_le_add_editDistance (a b : String) : a.length ≤ b.length + editDistance a b := by
  have hlength := Edits.length_le (editDistance_isLeast a b).1
  simpa only [String.length_toList] using hlength

/-- No distance is greater than the longer text. -/
theorem editDistance_le_max (a b : String) : editDistance a b ≤ max a.length b.length := by
  obtain ⟨n, hn, h⟩ := aligned_max a.toList b.toList
  have hleast := (editDistance_isLeast a b).2 h.edits
  simp only [String.length_toList] at hn
  exact hleast.trans hn

/-- The edit distance of two texts is the least number of single-character insertions, deletions and
substitutions that turn one into the other. It is zero just for equal texts, the same in both
directions, no longer than a detour, and between the difference and the maximum of the lengths. -/
theorem editDistance_metric (a b : String) :
    IsLeast {n | Edits n a.toList b.toList} (editDistance a b) ∧
    (editDistance a b = 0 ↔ a = b) ∧
    editDistance a b = editDistance b a ∧
    (∀ c, editDistance a c ≤ editDistance a b + editDistance b c) ∧
    max a.length b.length - min a.length b.length ≤ editDistance a b ∧
    editDistance a b ≤ max a.length b.length := by
  have hforth := length_le_add_editDistance a b
  have hback := length_le_add_editDistance b a
  rw [editDistance_comm b a] at hback
  exact ⟨editDistance_isLeast a b, editDistance_eq_zero_iff, editDistance_comm a b,
    editDistance_triangle a b, by omega, editDistance_le_max a b⟩

example : editDistance "kitten" "sitting" = 3 := by cbv

end ReviewPipeline
