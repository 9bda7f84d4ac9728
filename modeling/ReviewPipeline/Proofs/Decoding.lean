import ReviewPipeline.Encoding
import ReviewPipeline.Proofs.Json.Formats

/-!
# Reading Records Back

Every record is read back from the JSON that is written for it, if its numbers fit into the integers
that its fields are made for. Whatever else is accepted, with members missing, in another order or
unknown, is accepted for such a record.
-/

namespace ReviewPipeline

open Json

/-! ### Projects -/

namespace Project

/-- The numbers of a project fit. -/
structure Fits (p : Project) : Prop where
  /-- The number of the next issue has 32 bits. -/
  nextIssueNumber : IsInt32 p.nextIssueNumber
  /-- The time of creation has 64 bits. -/
  createdAt : IsInt64 p.createdAt
  /-- The time of the last change has 64 bits. -/
  updatedAt : IsInt64 p.updatedAt

/-- A project is written with whole numbers only. -/
@[simp] theorem isExact_toJson (p : Project) : p.toJson.IsExact := by
  simp [toJson]

/-- A project is read back from its record. -/
theorem undoes_ofJson? : Undoes ofJson? toJson Fits where
  back := by
    intro p h
    -- The fields are found under their names and read one after the other.
    have hfields : p.toJson.fields? fieldNames = some ⟨false, _⟩ := fields?_obj rfl (by decide)
    exact bind_eq hfields <|
      bind_eq (undoes_text.required rfl trivial) <|
      bind_eq (undoes_text.required rfl trivial) <|
      bind_eq (undoes_text.required rfl trivial) <|
      bind_eq (undoes_text?.optional rfl trivial) <|
      bind_eq (undoes_text?.optional rfl trivial) <|
      bind_eq (undoes_int32.withDefault rfl h.nextIssueNumber) <|
      bind_eq (undoes_int64.required rfl h.createdAt) <|
      bind_eq (undoes_int64.required rfl h.updatedAt) rfl
  fits := by
    intro value p h
    -- Of all that was read, only the numbers have to fit.
    simp only [ofJson?, ofJsonWith?, Option.bind_eq_bind, Option.bind_eq_some_iff, Option.pure_def,
      Option.some.injEq] at h
    obtain ⟨_, -, _, -, _, -, _, -, _, -, _, -, _, hnumber, _, hcreated, _, hupdated, rfl⟩ := h
    exact ⟨undoes_int32.fits_of_withDefault hnumber ⟨by decide, by decide⟩,
      undoes_int64.fits_of_required hcreated, undoes_int64.fits_of_required hupdated⟩
  whole := isExact_toJson

/-- How projects are written and read. -/
def format : Format Project := ⟨fieldNames, toJson, ofJson?⟩

end Project

/-! ### Issues -/

namespace Issue

/-- The times of an issue fit. -/
structure Fits (i : Issue) : Prop where
  /-- The time of creation has 64 bits. -/
  createdAt : IsInt64 i.createdAt
  /-- The time of the last change has 64 bits. -/
  updatedAt : IsInt64 i.updatedAt

/-- An issue is written with whole numbers only. -/
@[simp] theorem isExact_toJson (i : Issue) : i.toJson.IsExact := by
  simp [toJson]

/-- An issue is read back from its record. -/
theorem undoes_ofJson? : Undoes ofJson? toJson Fits where
  back := by
    intro i h
    have hfields : i.toJson.fields? fieldNames = some ⟨false, _⟩ := fields?_obj rfl (by decide)
    exact bind_eq hfields <|
      bind_eq (undoes_text.required rfl trivial) <|
      bind_eq (undoes_text?.optional rfl trivial) <|
      bind_eq (undoes_text.required rfl trivial) <|
      bind_eq (undoes_text.required rfl trivial) <|
      bind_eq (undoes_text?.optional rfl trivial) <|
      bind_eq ((undoes_word WorkStatus.ofWord?_word).required rfl trivial) <|
      bind_eq (undoes_int64.required rfl h.createdAt) <|
      bind_eq (undoes_int64.required rfl h.updatedAt) rfl
  fits := by
    intro value i h
    simp only [ofJson?, Option.bind_eq_bind, Option.bind_eq_some_iff, Option.pure_def,
      Option.some.injEq] at h
    obtain ⟨_, -, _, -, _, -, _, -, _, -, _, -, _, -, _, hcreated, _, hupdated, rfl⟩ := h
    exact ⟨undoes_int64.fits_of_required hcreated, undoes_int64.fits_of_required hupdated⟩
  whole := isExact_toJson

/-- How issues are written and read. -/
def format : Format Issue := ⟨fieldNames, toJson, ofJson?⟩

end Issue

/-! ### Steps -/

namespace Step

/-- The numbers of a step fit. -/
structure Fits (s : Step) : Prop where
  /-- The number in the catalog has 64 bits. -/
  number : IsInt64 s.number
  /-- The time of creation has 64 bits. -/
  createdAt : IsInt64 s.createdAt
  /-- The time of the last change has 64 bits. -/
  updatedAt : IsInt64 s.updatedAt

/-- A step is written with whole numbers only. -/
@[simp] theorem isExact_toJson (s : Step) : s.toJson.IsExact := by
  simp [toJson]

/-- A step is read back from its record. -/
theorem undoes_ofJson? : Undoes ofJson? toJson Fits where
  back := by
    intro s h
    have hfields : s.toJson.fields? fieldNames = some ⟨false, _⟩ := fields?_obj rfl (by decide)
    exact bind_eq hfields <|
      bind_eq (undoes_text.required rfl trivial) <|
      bind_eq (undoes_text.required rfl trivial) <|
      bind_eq (undoes_int64.required rfl h.number) <|
      bind_eq (undoes_text.required rfl trivial) <|
      bind_eq ((undoes_word StepKind.ofWord?_word).required rfl trivial) <|
      bind_eq (undoes_text?.optional rfl trivial) <|
      bind_eq (undoes_truth.required rfl trivial) <|
      bind_eq (undoes_int64.required rfl h.createdAt) <|
      bind_eq (undoes_int64.required rfl h.updatedAt) rfl
  fits := by
    intro value s h
    simp only [ofJson?, Option.bind_eq_bind, Option.bind_eq_some_iff, Option.pure_def,
      Option.some.injEq] at h
    obtain
      ⟨_, -, _, -, _, -, _, hnumber, _, -, _, -, _, -, _, -, _, hcreated, _, hupdated, rfl⟩ := h
    exact ⟨undoes_int64.fits_of_required hnumber, undoes_int64.fits_of_required hcreated,
      undoes_int64.fits_of_required hupdated⟩
  whole := isExact_toJson

/-- How steps are written and read. -/
def format : Format Step := ⟨fieldNames, toJson, ofJson?⟩

end Step

/-! ### Cursors -/

namespace GateSnapshot

/-- The time of a gate signal fits: it has 64 bits, if there is one. -/
def Fits (g : GateSnapshot) : Prop :=
  ∀ time ∈ g.checkedAt, IsInt64 time

/-- A signal is written with whole numbers only. -/
@[simp] theorem isExact_toJson (g : GateSnapshot) : g.toJson.IsExact := by
  simp [toJson]

/-- A signal of the gate is read back from its record. -/
theorem undoes_ofJson? : Undoes ofJson? toJson Fits where
  back := by
    intro g h
    have hfields : g.toJson.fields? fieldNames = some ⟨false, _⟩ := fields?_obj rfl (by decide)
    exact bind_eq hfields <|
      bind_eq ((undoes_word? GateStatus.ofWord?_word).optional rfl trivial) <|
      bind_eq (undoes_text?.optional rfl trivial) <|
      bind_eq (undoes_int64?.optional rfl h) rfl
  fits := by
    intro value g h
    simp only [ofJson?, Option.bind_eq_bind, Option.bind_eq_some_iff, Option.pure_def,
      Option.some.injEq] at h
    obtain ⟨_, -, _, -, _, -, _, hchecked, rfl⟩ := h
    exact undoes_int64?.fits_of_optional hchecked nofun
  whole := isExact_toJson

/-- How gate signals are written and read. -/
def format : Format GateSnapshot := ⟨fieldNames, toJson, ofJson?⟩

end GateSnapshot

namespace Cursor

/-- The times of a cursor fit, those of its gate included. -/
structure Fits (c : Cursor) : Prop where
  /-- The time of the start has 64 bits, if it is known. -/
  startedAt : ∀ time ∈ c.startedAt, IsInt64 time
  /-- The time of the end has 64 bits, if it is known. -/
  completedAt : ∀ time ∈ c.completedAt, IsInt64 time
  /-- The gate's time fits. -/
  gate : c.gate.Fits
  /-- The time of the last change has 64 bits. -/
  updatedAt : IsInt64 c.updatedAt

/-- A cursor is written with whole numbers only. -/
@[simp] theorem isExact_toJson (c : Cursor) : c.toJson.IsExact := by
  simp [toJson]

/-- A cursor is read back from its record. -/
theorem undoes_ofJson? : Undoes ofJson? toJson Fits where
  back := by
    intro c h
    have hfields : c.toJson.fields? fieldNames = some ⟨false, _⟩ := fields?_obj rfl (by decide)
    exact bind_eq hfields <|
      bind_eq (undoes_text.required rfl trivial) <|
      bind_eq (undoes_text.required rfl trivial) <|
      bind_eq (undoes_text?.optional rfl trivial) <|
      bind_eq (undoes_int64?.optional rfl h.startedAt) <|
      bind_eq (undoes_int64?.optional rfl h.completedAt) <|
      bind_eq (GateSnapshot.undoes_ofJson?.withDefault rfl h.gate) <|
      bind_eq (undoes_int64.required rfl h.updatedAt) rfl
  fits := by
    intro value c h
    simp only [ofJson?, Option.bind_eq_bind, Option.bind_eq_some_iff, Option.pure_def,
      Option.some.injEq] at h
    obtain ⟨_, -, _, -, _, -, _, -, _, hstarted, _, hcompleted, _, hgate, _, hupdated, rfl⟩ := h
    exact ⟨undoes_int64?.fits_of_optional hstarted nofun,
      undoes_int64?.fits_of_optional hcompleted nofun,
      GateSnapshot.undoes_ofJson?.fits_of_withDefault hgate nofun,
      undoes_int64.fits_of_required hupdated⟩
  whole := isExact_toJson

/-- How cursors are written and read. -/
def format : Format Cursor := ⟨fieldNames, toJson, ofJson?⟩

end Cursor

/-! ### The ledger -/

namespace LedgerEntry

/-- The numbers of a ledger entry fit. -/
structure Fits (e : LedgerEntry) : Prop where
  /-- The place in the order of writing has 64 bits. -/
  seq : IsInt64 e.seq
  /-- The time of the start has 64 bits. -/
  startedAt : IsInt64 e.startedAt
  /-- The time of the end has 64 bits. -/
  completedAt : IsInt64 e.completedAt

/-- A ledger entry is written with whole numbers only. -/
@[simp] theorem isExact_toJson (e : LedgerEntry) : e.toJson.IsExact := by
  simp [toJson]

/-- A ledger entry is read back from its record. -/
theorem undoes_ofJson? : Undoes ofJson? toJson Fits where
  back := by
    intro e h
    have hfields : e.toJson.fields? fieldNames = some ⟨false, _⟩ := fields?_obj rfl (by decide)
    exact bind_eq hfields <|
      bind_eq (undoes_int64.required rfl h.seq) <|
      bind_eq (undoes_text.required rfl trivial) <|
      bind_eq (undoes_text.required rfl trivial) <|
      bind_eq (undoes_text.required rfl trivial) <|
      bind_eq (undoes_text?.optional rfl trivial) <|
      bind_eq (undoes_int64.required rfl h.startedAt) <|
      bind_eq (undoes_int64.required rfl h.completedAt) <|
      bind_eq ((undoes_word StepResult.ofWord?_word).required rfl trivial) <|
      bind_eq (undoes_text?.optional rfl trivial) rfl
  fits := by
    intro value e h
    simp only [ofJson?, Option.bind_eq_bind, Option.bind_eq_some_iff, Option.pure_def,
      Option.some.injEq] at h
    obtain ⟨_, -, _, hseq, _, -, _, -, _, -, _, -, _, hstarted, _, hcompleted, _, -, _, -, rfl⟩ := h
    exact ⟨undoes_int64.fits_of_required hseq, undoes_int64.fits_of_required hstarted,
      undoes_int64.fits_of_required hcompleted⟩
  whole := isExact_toJson

/-- How ledger entries are written and read. -/
def format : Format LedgerEntry := ⟨fieldNames, toJson, ofJson?⟩

end LedgerEntry

end ReviewPipeline
