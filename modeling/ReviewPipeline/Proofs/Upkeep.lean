import ReviewPipeline.Proofs.Runs

/-!
# Single Writes and Batches Keep a Database Consistent

Callers may also write a cursor, a ledger entry or a work status by itself, put several such writes
together, and apply the schema again. These operations go through the constraints of the tables as
well, so together with the calls they keep a database consistent (`consistent_run_of_regular`). Only
direct changes of tables can do otherwise.
-/

namespace ReviewPipeline

/-- Whether an operation is anything but a direct change of a table. -/
def Operation.isRegular : Operation → Bool
  | .raw _ => false
  | _ => true

namespace Database

variable {db db' : Database} {author : Author} {op : Operation} {reply : Reply}
  {calls : List (Author × Operation)}

/-- An issue with a cursor is there. -/
theorem hasIssue_of_storedCursor? (hdb : db.Consistent) {id : String}
    (h : (db.storedCursor? id).isSome) : db.hasIssue id = true := by
  rw [hasIssue_iff]
  by_contra hnone
  rw [storedCursor?_eq_none hdb (Option.not_isSome_iff_eq_none.1 hnone)] at h
  cases h

/-- Appending a ledger entry keeps a database consistent. -/
theorem consistent_of_appendEntry (hdb : db.Consistent) {draft : LedgerDraft} {entry : LedgerEntry}
    (h : db.appendEntry draft = .ok (entry, db')) : db'.Consistent := by
  obtain ⟨-, hfresh, hissue, -, rfl⟩ := appendEntry_eq_ok_iff.1 h
  exact hdb.withEntry _ _ hfresh (Option.isSome_iff_exists.1 (hasIssue_iff.1 hissue))

/-- A single write keeps a database consistent. -/
theorem consistent_of_singleWrite (hdb : db.Consistent) {now : Int} {w : SingleWrite}
    {change : Change (Option LedgerEntry)} (h : db.singleWrite now w = .ok change) :
    change.db.Consistent := by
  cases w with
  | moveCursor issueId projectId update =>
    simp only [singleWrite, bind_eq_ok_iff, moveCursor, putCursor_eq_ok_iff, pure, Except.pure,
      Except.ok.injEq] at h
    obtain ⟨_, ⟨-, htarget, rfl⟩, rfl⟩ := h
    -- The issue is there: the write checks this, unless there is a cursor of it already.
    have hissue := Option.isSome_iff_exists.1
      (hasIssue_iff.1 (htarget.elim (hasIssue_of_storedCursor? hdb) id))
    exact hdb.withCursor (g := fun cursor => cursor.apply update now) (fun _ => rfl) (fun _ => rfl)
      (fun _ hword => hword) hissue
  | appendEntry draft =>
    obtain ⟨⟨entry, next⟩, happend, hdone⟩ := bind_eq_ok_iff.1 h
    cases hdone
    exact consistent_of_appendEntry hdb happend
  | setWorkStatus issueId status =>
    simp only [singleWrite, bind_eq_ok_iff, setWorkStatus_eq_ok_iff, pure, Except.pure,
      Except.ok.injEq] at h
    obtain ⟨_, ⟨-, -, rfl⟩, rfl⟩ := h
    exact hdb.withIssuesMarked issueId status now
  | note event =>
    cases h
    exact hdb

/-- Writes one after the other keep a database consistent. -/
theorem consistent_of_writeAll (hdb : db.Consistent) {now : Int} {writes : List SingleWrite}
    {change : Change (List (Option LedgerEntry))} (h : db.writeAll now writes = .ok change) :
    change.db.Consistent := by
  induction writes generalizing db change with
  | nil =>
    cases h
    exact hdb
  | cons write writes ih =>
    simp only [writeAll, bind_eq_ok_iff, pure, Except.pure, Except.ok.injEq] at h
    obtain ⟨first, hfirst, rest, hrest, rfl⟩ := h
    show rest.db.Consistent
    exact ih (consistent_of_singleWrite hdb hfirst) hrest

/-- Applying the schema touches no table that the rules are about. -/
theorem consistent_of_applySchema (hdb : db.Consistent) {now : Int}
    (h : db.applySchema now = .ok db') : db'.Consistent := by
  obtain ⟨-, rfl⟩ := applySchema_eq_ok_iff.1 h
  exact { hdb with }

/-- A batch that succeeds is a list of writes, one after the other, with their events noted. -/
theorem batch_eq_ok {writes : List SingleWrite} {failure : Option String}
    {entries : List (Option LedgerEntry)}
    (h : db.batch author writes failure = .ok (entries, db')) :
    ∃ change, db.writeAll author.stamp.now writes = .ok change ∧
      db' = change.db.noting author change.events := by
  obtain ⟨change, hwrites, h⟩ := bind_eq_ok_iff.1 h
  cases failure with
  | none => exact ⟨change, hwrites, (commit_eq_ok_iff.1 h).2.2⟩
  | some text => cases h

/-- Every operation but a direct change of a table keeps a database consistent. -/
theorem consistent_of_perform (hdb : db.Consistent) (hregular : op.isRegular = true)
    (h : db.perform author op = .ok (reply, db')) : db'.Consistent := by
  cases op with
  | write w =>
    obtain ⟨change, hwrite, hdone⟩ := map_eq_ok_iff.1 h
    cases hdone
    exact consistent_of_singleWrite hdb hwrite
  | batch writes failure =>
    obtain ⟨entries, h, -⟩ := answer_eq_ok_iff.1 h
    obtain ⟨change, hwrites, rfl⟩ := batch_eq_ok h
    exact (consistent_of_writeAll hdb hwrites).noting _ _
  | applySchema =>
    obtain ⟨_, happlied, hdone⟩ := map_eq_ok_iff.1 h
    cases hdone
    exact consistent_of_applySchema hdb happlied
  | raw w => cases hregular
  | _ => exact (called_of_perform hdb rfl h).consistent hdb

theorem consistent_after_of_regular (hdb : db.Consistent) (hregular : op.isRegular = true)
    (author : Author) : (db.after author op).Consistent := by
  unfold after
  split
  · next h => exact consistent_of_perform hdb hregular h
  · exact hdb

/-- A run without direct changes of tables keeps a database consistent. -/
theorem consistent_run_of_regular (hdb : db.Consistent)
    (hcalls : ∀ call ∈ calls, call.2.isRegular = true) : (db.run calls).2.Consistent := by
  induction calls generalizing db with
  | nil => exact hdb
  | cons call calls ih =>
    obtain ⟨hcall, hrest⟩ := List.forall_mem_cons.1 hcalls
    exact ih (consistent_after_of_regular hdb hcall call.1) hrest

end Database

end ReviewPipeline
