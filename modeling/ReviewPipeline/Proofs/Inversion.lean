import ReviewPipeline.Database.Write

/-!
# Inversion of Results

Every operation is a chain of reads, checks and writes in `Except Error`. The lemmas here open such
a chain: what must have happened for it to end well, and where it can have ended with an error.
The last section reads whole tables in which no closed column holds a foreign word.
-/

namespace ReviewPipeline

section Chains

variable {ε α β : Type} {x : Except ε α} {f : α → Except ε β} {g : α → β} {a : α} {b : β} {e : ε}

/-- A chain ends well iff its first part does and the rest does with what that part answers. -/
theorem bind_eq_ok_iff : x >>= f = .ok b ↔ ∃ a, x = .ok a ∧ f a = .ok b := by
  cases x <;> simp [bind, Except.bind]

/-- A chain fails iff its first part fails or the rest does with what that part answers. -/
theorem bind_eq_error_iff :
    x >>= f = .error e ↔ x = .error e ∨ ∃ a, x = .ok a ∧ f a = .error e := by
  cases x <;> simp [bind, Except.bind]

/-- A mapped result is an answer iff the result is one that maps to it. -/
theorem map_eq_ok_iff : x.map g = .ok b ↔ ∃ a, x = .ok a ∧ g a = b := by
  cases x <;> simp [Except.map]

theorem map_eq_error_iff : x.map g = .error e ↔ x = .error e := by
  cases x <;> simp [Except.map]

theorem throw_ne_ok : (throw e : Except ε α) = .ok a ↔ False := by
  simp [throw, throwThe, MonadExceptOf.throw]

theorem throw_bind_eq : (throw e : Except ε α) >>= f = .error e := rfl

end Chains

namespace Database

variable {db : Database} {kind : WriteKind} {holds : Bool} {fault : Fault} {u : Unit}

/-- A kind of write is permitted iff it is not the blocked one. -/
theorem permit_eq_ok_iff : db.permit kind = .ok u ↔ db.blocked ≠ some kind := by
  unfold permit
  split <;> simp_all

/-- A write that is not permitted is blocked. -/
theorem permit_eq_error {e : Error} (h : db.permit kind = .error e) :
    e = .database .blocked := by
  unfold permit at h
  split at h <;> simp_all

/-- A constraint lets a write pass iff it holds. -/
theorem require_eq_ok_iff : require holds fault = .ok u ↔ holds = true := by
  unfold require
  split <;> simp_all

/-- A requirement that is not met fails with its fault. -/
theorem require_eq_error {e : Error} (h : require holds fault = .error e) :
    e = .database fault := by
  unfold require at h
  split at h <;> simp_all

end Database

namespace Row

variable {α : Type} {rows : List (Row α)} {column : Nat}

/-- A row without foreign words is read as it is. -/
theorem read_eq_ok {row : Row α} (h : row.foreign = none) : row.read column = .ok row.record := by
  simp [read, h]

/-- A row is read iff no foreign word stands in it. -/
theorem read_eq_ok_iff {row : Row α} {a : α} :
    row.read column = .ok a ↔ row.foreign = none ∧ a = row.record := by
  rw [read]
  cases row.foreign <;> simp [eq_comm]

/-- Rows are read iff no foreign word stands in any of them, and then as their records. -/
theorem mapM_read_eq_ok_iff {records : List α} :
    rows.mapM (read column) = .ok records ↔
      (∀ row ∈ rows, row.foreign = none) ∧ records = rows.map (·.record) := by
  -- The first foreign word ends the reading, so one condition for each row suffices.
  induction rows generalizing records with
  | nil => simp [pure, Except.pure, eq_comm]
  | cons row rows ih =>
    simp only [List.mapM_cons, bind_eq_ok_iff, read_eq_ok_iff, ih, pure, Except.pure,
      Except.ok.injEq, List.forall_mem_cons, List.map_cons]
    constructor
    · rintro ⟨_, ⟨hrow, rfl⟩, _, ⟨hrows, rfl⟩, rfl⟩
      exact ⟨⟨hrow, hrows⟩, rfl⟩
    · rintro ⟨⟨hrow, hrows⟩, rfl⟩
      exact ⟨_, ⟨hrow, rfl⟩, _, ⟨hrows, rfl⟩, rfl⟩

/-- Rows without foreign words are read as their records. -/
theorem mapM_read_eq_ok (h : ∀ row ∈ rows, row.foreign = none) :
    rows.mapM (read column) = .ok (rows.map (·.record)) :=
  mapM_read_eq_ok_iff.2 ⟨h, rfl⟩

end Row

end ReviewPipeline
