import Mathlib.Data.List.Nodup
import ReviewPipeline.Database.Basic

/-!
# Keyed Tables

A table is a list of rows in the order in which they were inserted, and a column of it serves as
the key. Look-ups find the first row with a key; a write appends a row or changes the rows with
one key and leaves their key alone (`changeAt`). The lemmas say what such a write does to look-ups,
to the list of keys and to foreign words.
-/

namespace ReviewPipeline

/-! ### Searches -/

section Searches

variable {β : Type} {key : β → String} {xs : List β} {x : β} {k j : String}

/-- While keys are unique, an element is the only one with its key. -/
theorem filter_key_eq_singleton (h : (xs.map key).Nodup) (hx : x ∈ xs) :
    (xs.filter fun y => key y == key x) = [x] := by
  refine List.perm_singleton.1 ?_
  refine (List.perm_ext_iff_of_nodup ((h.of_map key).filter _) (List.nodup_singleton x)).2 ?_
  intro y
  simp only [List.mem_filter, beq_iff_eq, List.mem_singleton]
  constructor
  · rintro ⟨hy, hkey⟩
    exact List.inj_on_of_nodup_map h hy hx hkey
  · rintro rfl
    exact ⟨hx, rfl⟩

/-- An element with a new key is found under its key, and no other search sees it. -/
theorem find?_concat (hnew : ∀ y ∈ xs, key y ≠ key x) :
    ((xs ++ [x]).find? fun y => key y == k) =
      if k = key x then some x else xs.find? fun y => key y == k := by
  rw [List.find?_append]
  by_cases h : k = key x
  · have hnone : (xs.find? fun y => key y == k) = none :=
      List.find?_eq_none.2 fun y hy => by simpa [h] using hnew y hy
    rw [hnone, if_pos h, h]
    simp
  · simp [h, Ne.symm h]

/-- A change at a key that keeps it shows in the search for this key only. -/
theorem find?_changed {f : β → β} (hf : ∀ y, key (f y) = key y) :
    ((xs.map fun y => if key y == j then f y else y).find? fun y => key y == k) =
      if k = j then (xs.find? fun y => key y == k).map f else xs.find? fun y => key y == k := by
  induction xs with
  | nil => simp
  | cons y ys ih =>
    rw [List.map_cons, List.find?_cons, List.find?_cons, ih]
    -- The first element is passed over after the change iff it was before.
    by_cases hj : key y = j
    · simp only [hj, beq_self_eq_true, if_true, hf]
      by_cases hk : k = j
      · simp [hk]
      · simp [beq_eq_false_iff_ne.2 (Ne.symm hk), hk]
    · simp only [beq_eq_false_iff_ne.2 hj, Bool.false_eq_true, if_false]
      by_cases hk : k = j
      · simp [hk, beq_eq_false_iff_ne.2 hj]
      · simp only [hk, if_false]

end Searches

end ReviewPipeline

namespace ReviewPipeline.Row

variable {α : Type} {key : α → String} {rows rows' : List (Row α)} {row : Row α} {k j : String}
  {a : α}

/-- The record of the first row with a key. -/
def lookup (key : α → String) (k : String) (rows : List (Row α)) : Option α :=
  (rows.find? fun row => key row.record == k).map (·.record)

/-- Change the rows with a key. -/
def changeAt (key : α → String) (k : String) (f : Row α → Row α) (rows : List (Row α)) :
    List (Row α) :=
  rows.map fun row => if key row.record == k then f row else row

/-! ### Look-ups -/

/-- A look-up finds nothing iff no row has the key. -/
theorem lookup_eq_none_iff :
    lookup key k rows = none ↔ ∀ row ∈ rows, key row.record ≠ k := by
  simp [lookup]

/-- What a look-up finds is the record of a row with the key. -/
theorem exists_of_lookup (h : lookup key k rows = some a) :
    ∃ row ∈ rows, row.record = a ∧ key a = k := by
  obtain ⟨row, hfind, hrow⟩ := Option.map_eq_some_iff.1 h
  have hkey : key row.record = k := by simpa using List.find?_some hfind
  exact ⟨row, List.mem_of_find?_eq_some hfind, hrow, hrow ▸ hkey⟩

theorem isSome_lookup_iff :
    (lookup key k rows).isSome ↔ (rows.any fun row => key row.record == k) = true := by
  simp [lookup]

/-- While keys are unique, a look-up finds a record iff a row holds it. -/
theorem lookup_eq_some_iff (h : (rows.map fun row => key row.record).Nodup) :
    lookup key k rows = some a ↔ ∃ row ∈ rows, row.record = a ∧ key a = k := by
  constructor
  · exact exists_of_lookup
  · rintro ⟨row, hmem, rfl, rfl⟩
    cases hfound : lookup key (key row.record) rows with
    | none => exact absurd rfl (lookup_eq_none_iff.1 hfound row hmem)
    | some b =>
      obtain ⟨found, hfoundMem, rfl, hkey⟩ := exists_of_lookup hfound
      rw [List.inj_on_of_nodup_map h hfoundMem hmem hkey]

/-- While keys are unique and no foreign word is stored, the row that a look-up finds is the only
one with its key. -/
theorem filter_eq_of_lookup (hids : (rows.map fun row => key row.record).Nodup)
    (hwords : ∀ row ∈ rows, row.foreign = none) (h : lookup key k rows = some a) :
    (rows.filter fun row => key row.record == k) = [{ record := a }] := by
  obtain ⟨⟨record, foreign⟩, hrow, rfl, rfl⟩ := exists_of_lookup h
  obtain rfl : foreign = none := hwords _ hrow
  exact filter_key_eq_singleton hids hrow

/-! ### Rows that are appended -/

/-- A row with a new key is found under its key, and no other look-up sees it. -/
theorem lookup_concat (hnew : ∀ other ∈ rows, key other.record ≠ key row.record) :
    lookup key k (rows ++ [row]) =
      if k = key row.record then some row.record else lookup key k rows := by
  rw [lookup, find?_concat hnew]
  split <;> rfl

/-- Appending an element with a new key keeps keys unique. -/
theorem nodup_map_concat {β γ : Type} {f : β → γ} {xs : List β} {x : β} (h : (xs.map f).Nodup)
    (hnew : ∀ y ∈ xs, f y ≠ f x) : ((xs ++ [x]).map f).Nodup := by
  rw [List.map_append, List.map_singleton, ← List.concat_eq_append]
  refine List.Nodup.concat ?_ h
  intro hmem
  obtain ⟨y, hy, hkey⟩ := List.mem_map.1 hmem
  exact hnew y hy hkey

/-! ### Rows that are changed -/

section Change

variable {f : Row α → Row α} {g : α → α} (hf : ∀ row, (f row).record = g row.record)

include hf

/-- A change at a key that keeps the key shows in the look-up of that key only. -/
theorem lookup_changeAt (hg : ∀ a, key (g a) = key a) :
    lookup key k (changeAt key j f rows) =
      if k = j then (lookup key k rows).map g else lookup key k rows := by
  have hkey : ∀ row, key (f row).record = key row.record := fun row => by rw [hf, hg]
  rw [lookup, changeAt, find?_changed hkey, lookup]
  split
  · cases rows.find? fun row => key row.record == k <;> simp [hf]
  · rfl

/-- A change at a key leaves the rows with other keys alone. -/
theorem filter_changeAt (hg : ∀ a, key (g a) = key a) :
    ((changeAt key k f rows).filter fun row => key row.record != k) =
      rows.filter fun row => key row.record != k := by
  induction rows with
  | nil => rfl
  | cons row rows ih =>
    rw [changeAt, List.map_cons, ← changeAt]
    by_cases h : key row.record = k
    · simp [h, hf, hg, ih]
    · simp [h, ih]

/-- A change keeps every column that it does not touch. -/
theorem map_changeAt {β : Type} {column : α → β} (hcolumn : ∀ a, column (g a) = column a) :
    (changeAt key j f rows).map (fun row => column row.record) =
      rows.map fun row => column row.record := by
  rw [changeAt, List.map_map]
  refine List.map_congr_left fun row _ => ?_
  by_cases h : key row.record = j <;> simp [h, hf, hcolumn]

end Change

/-- A change that cannot make a difference to a choice of rows commutes with choosing them. -/
theorem filter_changeAt_comm {f : Row α → Row α} {p : Row α → Bool}
    (hp : ∀ row, p (f row) = p row) :
    (changeAt key k f rows).filter p = changeAt key k f (rows.filter p) := by
  rw [changeAt, changeAt, List.filter_map]
  refine congrArg _ (List.filter_congr fun row _ => ?_)
  by_cases h : key row.record = k <;> simp [h, hp]

/-- A change at a key that no row has changes nothing. -/
theorem changeAt_eq_self {f : Row α → Row α} (h : ∀ row ∈ rows, key row.record ≠ k) :
    changeAt key k f rows = rows := by
  rw [changeAt]
  refine (List.map_congr_left fun row hrow => if_neg ?_).trans (List.map_id rows)
  simpa using h row hrow

/-- A changed row was there before or is a row with the key, changed. -/
theorem mem_changeAt {f : Row α → Row α} (h : row ∈ changeAt key j f rows) :
    (row ∈ rows ∧ key row.record ≠ j) ∨ ∃ old ∈ rows, key old.record = j ∧ row = f old := by
  obtain ⟨old, hold, hrow⟩ := List.mem_map.1 h
  by_cases hkey : key old.record = j
  · exact .inr ⟨old, hold, hkey, by simpa [hkey] using hrow.symm⟩
  · have hsame : old = row := by simpa [hkey] using hrow
    exact .inl ⟨hsame ▸ hold, hsame ▸ hkey⟩

end ReviewPipeline.Row
