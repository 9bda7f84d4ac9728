import ReviewPipeline.Proofs.Database.Stored

/-!
# Identifiers of Issues

People call an issue by its full identifier or by its short one. `Names` says which issue an
identifier stands for; in an admitted database looking it up answers exactly that issue
(`issue_eq_ok_iff`), and reports an identifier that names none as not found (`issue_eq_error`).
-/

namespace ReviewPipeline.Database

variable {db : Database} {id : String} {issue : Issue}

/-- An identifier names an issue: by its full identifier or, if no issue has that, by its short
one. -/
def Names (db : Database) (id : String) (issue : Issue) : Prop :=
  ∃ row ∈ db.issues, row.record = issue ∧
    (issue.id = id ∨ (issue.shortId = some id ∧ ∀ other ∈ db.issues, other.record.id ≠ id))

/-- Looking an identifier up, by cases: a full identifier, or none, one or several issues with it
as their short one. -/
theorem issue?_eq (h : db.Consistent) :
    db.issue? id =
      match db.storedIssue? id, db.withShortId id with
      | some issue, _ => .ok (some issue)
      | none, [] => .ok none
      | none, [row] => .ok (some row.record)
      | none, _ => .error (.ambiguousShortId id) := by
  have hwords : ∀ row ∈ db.withShortId id, row.foreign = none := fun row hrow =>
    h.issueWords row (List.mem_of_mem_filter hrow)
  have hread : ((db.withShortId id).take 2).mapM readIssue =
      .ok (((db.withShortId id).take 2).map (·.record)) :=
    Row.mapM_read_eq_ok fun row hrow => hwords row (List.mem_of_mem_take hrow)
  unfold issue? storedIssue? Row.lookup
  cases hfind : db.issues.find? fun row => row.record.id == id with
  | some row =>
    have hword := h.issueWords row (List.mem_of_find?_eq_some hfind)
    simp [readIssue, Row.read_eq_ok hword, Except.map]
  | none =>
    simp only [hread, Option.map_none]
    rcases db.withShortId id with _ | ⟨row, _ | ⟨row', rows⟩⟩ <;> rfl

/-- The same, where it is an error if there is no such issue. -/
theorem issue_eq (h : db.Consistent) :
    db.issue id =
      match db.storedIssue? id, db.withShortId id with
      | some issue, _ => .ok issue
      | none, [] => .error (.issueNotFound id)
      | none, [row] => .ok row.record
      | none, _ => .error (.ambiguousShortId id) := by
  rw [Database.issue, issue?_eq h]
  rcases db.storedIssue? id with _ | issue
  · rcases db.withShortId id with _ | ⟨row, _ | ⟨row', rows⟩⟩ <;> rfl
  · rfl

/-- While short identifiers are unique, one of them stands in one row at most. -/
theorem length_withShortId_le (h : db.shortIds.Nodup) : (db.withShortId id).length ≤ 1 := by
  have hcount := List.nodup_iff_count_le_one.1 h id
  rw [shortIds, List.count_filterMap, List.countP_eq_length_filter] at hcount
  exact hcount

/-- Where short identifiers are unique, none is reported as that of several issues. -/
theorem issue?_ne_ambiguous_of_nodup {shortId : String} (h : db.shortIds.Nodup) :
    db.issue? id ≠ .error (.ambiguousShortId shortId) := by
  have hlength : (db.withShortId id).length ≤ 1 := length_withShortId_le h
  unfold issue?
  split
  · next row _ =>
    rw [readIssue, Row.read]
    cases row.foreign <;> simp [Except.map, Error.ambiguousShortId]
  · rcases hrows : db.withShortId id with _ | ⟨row, _ | ⟨row', rows⟩⟩
    · rintro ⟨⟩
    · have hread : ([row].take 2).mapM readIssue = (readIssue row).map fun issue => [issue] := by
        rw [List.take_of_length_le (by simp), List.mapM_cons]
        cases readIssue row <;> rfl
      rw [hread, readIssue, Row.read]
      cases row.foreign <;> simp [Except.map, Error.ambiguousShortId]
    · rw [hrows, List.length_cons, List.length_cons] at hlength
      omega

/-- What an identifier is looked up to is an issue that it names. -/
theorem names_of_issue_eq_ok (h : db.Consistent) (hissue : db.issue id = .ok issue) :
    db.Names id issue := by
  rw [issue_eq h] at hissue
  split at hissue
  · next found hfound =>
    obtain rfl := Except.ok.inj hissue
    obtain ⟨row, hrow, hrecord, hid⟩ := Row.exists_of_lookup hfound
    exact ⟨row, hrow, hrecord, .inl hid⟩
  · cases hissue
  · next row hnone hshort =>
    obtain rfl := Except.ok.inj hissue
    have hmem : row ∈ db.withShortId id := hshort ▸ List.mem_singleton_self row
    obtain ⟨hrow, hkey⟩ := List.mem_filter.1 hmem
    exact ⟨row, hrow, rfl, .inr ⟨by simpa using hkey, Row.lookup_eq_none_iff.1 hnone⟩⟩
  · cases hissue

/-- What an identifier is looked up to is a stored issue. -/
theorem storedIssue?_of_issue_eq_ok (h : db.Consistent) (hissue : db.issue id = .ok issue) :
    db.storedIssue? issue.id = some issue := by
  obtain ⟨row, hrow, rfl, -⟩ := names_of_issue_eq_ok h hissue
  exact storedIssue?_eq_some_of_mem h hrow

/-- In an admitted database, an identifier is looked up to the issue that it names. -/
theorem issue_eq_ok_iff (h : db.Admitted) : db.issue id = .ok issue ↔ db.Names id issue := by
  refine ⟨names_of_issue_eq_ok h.toConsistent, ?_⟩
  rintro ⟨row, hrow, rfl, rfl | ⟨hshort, hfull⟩⟩
  · rw [issue_eq h.toConsistent, storedIssue?_eq_some_of_mem h.toConsistent hrow]
  · have hnone : db.storedIssue? id = none := Row.lookup_eq_none_iff.2 hfull
    have hmem : row ∈ db.withShortId id := List.mem_filter.2 ⟨hrow, by simp [hshort]⟩
    -- The short identifier stands in one row at most, and this row has it.
    obtain ⟨only, honly⟩ := List.length_eq_one_iff.1
      (Nat.le_antisymm (length_withShortId_le h.shortIdentifiers) (List.length_pos_of_mem hmem))
    rw [issue_eq h.toConsistent, hnone, honly]
    rw [honly, List.mem_singleton] at hmem
    simp [hmem]

/-- An identifier that names no issue is not found. -/
theorem issue_eq_error (h : db.Admitted) (hnone : ∀ issue, ¬ db.Names id issue) :
    db.issue id = .error (.issueNotFound id) := by
  rw [issue_eq h.toConsistent]
  have hfull : db.storedIssue? id = none := by
    refine Option.eq_none_iff_forall_ne_some.2 fun issue hissue => ?_
    obtain ⟨row, hrow, hrecord, hid⟩ := Row.exists_of_lookup hissue
    exact hnone issue ⟨row, hrow, hrecord, .inl hid⟩
  have hshort : db.withShortId id = [] := by
    refine List.filter_eq_nil_iff.2 fun row hrow hkey => ?_
    exact hnone row.record
      ⟨row, hrow, rfl, .inr ⟨by simpa using hkey, Row.lookup_eq_none_iff.1 hfull⟩⟩
  rw [hfull, hshort]

/-- Looking an identifier up never reports a conflict. -/
theorem issue_error_kind (h : db.Consistent) {e : Error} (he : db.issue id = .error e) :
    e.kind ≠ .conflict := by
  rw [issue_eq h] at he
  split at he <;> cases he <;> simp [Error.kind, Error.ambiguousShortId]

end ReviewPipeline.Database
