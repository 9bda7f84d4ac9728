import ReviewPipeline.Proofs.Dossiers

/-!
# Operations on Different Issues Commute

A call on a single issue has an addressee. A run of such calls falls into parts, one for each
addressee, and each part goes as if the others had not been there: the answers in it and the
dossier that it leaves are those of the part by itself (`mirrors_run`). So the order of calls on
different issues makes no difference, neither to what any of them is answered nor to the database
after the run, numbers in the ledger and in the audit log aside.

What the parts share are the identifiers of ledger entries. Calls on different issues must bring
different ones.

## Main definitions

* `Database.addressee`: the issue that a call is on;
* `Database.transcript`: the calls of a run with their answers;
* `Renumbered`: two databases are the same but for numbers;
* `SameOutcome`: two runs of the same calls end alike, call by call and in what they leave.

## Main results

* `mirrors_run`: a run restricted to one issue;
* `sameOutcome_of_reordering`: calls on different issues commute, and a run may be reordered in
  every way that keeps the calls on each issue in order.
-/

namespace ReviewPipeline

/-- Two databases hold the same, apart from the numbers in the ledger and in the audit log. -/
structure Renumbered (db db' : Database) : Prop where
  /-- The projects are the same. -/
  projects : db.projects = db'.projects
  /-- The issues are the same. -/
  issues : db.issues = db'.issues
  /-- The steps are the same. -/
  steps : db.steps = db'.steps
  /-- There are the same cursors, perhaps inserted in another order. -/
  cursors : db.cursors.Perm db'.cursors
  /-- Every issue has the same history. -/
  histories : ∀ id,
    (db.history id).map LedgerEntry.unnumbered = (db'.history id).map LedgerEntry.unnumbered
  /-- There are the same events about every thing, in the same order. -/
  events : ∀ entityType entityId,
    (db.events.filter fun row =>
        row.record.entityType == entityType && row.record.entityId == entityId).map
        (fun row => row.modify Event.unnumbered) =
      (db'.events.filter fun row =>
        row.record.entityType == entityType && row.record.entityId == entityId).map
        (fun row => row.modify Event.unnumbered)
  /-- The versions of the schema are the same. -/
  versions : db.versions = db'.versions
  /-- Short identifiers are kept unique in both or in none. -/
  uniqueShortIds : db.uniqueShortIds = db'.uniqueShortIds
  /-- The same kind of write is blocked. -/
  blocked : db.blocked = db'.blocked

namespace Database

variable {db db' : Database} {author : Author} {op : Operation} {text id : String}
  {call : Author × Operation} {calls calls' others : List (Author × Operation)} {reply : Reply}

/-! ### Addressees -/

/-- The full identifier of the issue that a call is on, if it is on a single issue and names one. -/
def addressee (db : Database) (call : Author × Operation) : Option String :=
  call.2.subject?.bind fun text => (db.issue text).toOption.map (·.id)

/-- The calls of a run that are on one issue. -/
def callsOn (db : Database) (id : String) (calls : List (Author × Operation)) :
    List (Author × Operation) :=
  calls.filter fun call => db.addressee call == some id

/-- The calls of a run, each with its answer. -/
def transcript (db : Database) (calls : List (Author × Operation)) :
    List ((Author × Operation) × Except Error Reply) :=
  calls.zip (db.run calls).1

/-- Which issue a call is on is a matter of the directory. -/
theorem addressee_congr (hdb : db.Consistent) (hdb' : db'.Consistent)
    (hcommons : db.commons = db'.commons) (call : Author × Operation) :
    db.addressee call = db'.addressee call := by
  have hdirectory : db.directory = db'.directory := congrArg Commons.directory hcommons
  have hresolved : ∀ text, (db.issue text).map (·.id) = (db'.issue text).map (·.id) := by
    intro text
    rw [issue_map_id hdb, issue_map_id hdb', hdirectory]
  have hoption : ∀ result : Except Error Issue,
      result.toOption.map (·.id) = (result.map (·.id)).toOption := by
    rintro (e | issue) <;> rfl
  simp only [addressee, hoption, hresolved]

theorem transcript_concat :
    db.transcript (calls ++ [call]) = db.transcript calls ++
      [(call, ((db.run calls).2.perform call.1 call.2).map (·.1))] := by
  rw [transcript, run_concat]
  exact List.zip_append length_run.symm

theorem isSome_subject_of_addressee (haddressee : db.addressee call = some id) :
    call.2.subject?.isSome := by
  obtain ⟨text, hsubject, -⟩ := Option.bind_eq_some_iff.1 haddressee
  rw [hsubject]
  rfl

/-- A call with an addressee is an errand on a stored issue. -/
theorem exists_errand_of_addressee (haddressee : db.addressee (author, op) = some id) :
    ∃ text errand issue, op = Errand.on text errand ∧ db.issue text = .ok issue ∧
      issue.id = id := by
  obtain ⟨text, hsubject, hissue⟩ := Option.bind_eq_some_iff.1 haddressee
  obtain ⟨errand, rfl⟩ := Operation.exists_errand hsubject
  cases hfound : db.issue text with
  | error e => simp [hfound, Except.toOption] at hissue
  | ok issue =>
    rw [hfound] at hissue
    exact ⟨text, errand, issue, rfl, hfound, Option.some.inj hissue⟩

/-- A call on a single issue that has no addressee fails, wherever the commons are the same. -/
theorem exists_error_of_addressee (hdb : db.Consistent) (hsubject : op.subject?.isSome)
    (hnone : db.addressee (author, op) = none) :
    ∃ e, ∀ db' : Database, db'.Consistent → db.commons = db'.commons →
      db'.perform author op = .error e := by
  obtain ⟨text, hsubject⟩ := Option.isSome_iff_exists.1 hsubject
  obtain ⟨errand, rfl⟩ := Operation.exists_errand hsubject
  cases hfound : db.issue text with
  | ok issue => simp [addressee, hsubject, hfound, Except.toOption] at hnone
  | error e =>
    have hissue : ∀ db' : Database, db'.Consistent → db.commons = db'.commons →
        db'.issue text = .error e := fun db' hdb' hcommons =>
        issue_eq_error_of_directory hdb hdb' (congrArg Commons.directory hcommons) hfound
    cases hcheck : errand.check with
    | error e' => exact ⟨e', fun db' hdb' _ => by rw [perform_errand hdb', hcheck]; rfl⟩
    | ok u =>
      refine ⟨e, fun db' hdb' hcommons => ?_⟩
      rw [perform_errand hdb', hcheck, hissue db' hdb' hcommons]
      rfl

/-! ### One call -/

/-- What a call on a single issue leaves is confined to its addressee. -/
theorem confined_after (hdb : db.Consistent) (hsubject : op.subject?.isSome) (author : Author) :
    db.after author op = db ∨
      ∃ id, db.addressee (author, op) = some id ∧ db.Confined author id (db.after author op) := by
  cases hperform : db.perform author op with
  | error e => exact .inl (by rw [after, hperform])
  | ok r =>
    refine .inr ?_
    have hafter : db.after author op = r.2 := by rw [after, hperform]
    cases haddressee : db.addressee (author, op) with
    | none =>
      obtain ⟨e, he⟩ := exists_error_of_addressee hdb hsubject haddressee
      cases (he db hdb rfl).symm.trans hperform
    | some id =>
      obtain ⟨text, errand, issue, rfl, hissue, rfl⟩ := exists_errand_of_addressee haddressee
      rw [perform_errand hdb, hissue] at hperform
      obtain ⟨_, -, hdeal⟩ := bind_eq_ok_iff.1 hperform
      exact ⟨issue.id, rfl, hafter ▸ confined_of_deal hdeal⟩

/-- No call on a single issue changes the commons. -/
theorem commons_after (hdb : db.Consistent) (hsubject : op.subject?.isSome) (author : Author) :
    (db.after author op).commons = db.commons := by
  rcases confined_after hdb hsubject author with hsame | ⟨_, -, hconfined⟩
  · rw [hsame]
  · exact hconfined.commons

/-- A database holds about one issue what another one holds, after calls on other issues were made
in that one. -/
structure Mirrors (id : String) (others : List (Author × Operation)) (db db' : Database) :
    Prop where
  /-- The commons are the same. -/
  commons : db.commons = db'.commons
  /-- The dossiers of the issue are the same. -/
  dossier : db.dossier id = db'.dossier id
  /-- There are the same entries, but for those of the other calls. -/
  entries : ∀ entryId, (∀ call ∈ others, call.1.entryId ≠ entryId) →
    db.hasEntry entryId = db'.hasEntry entryId

/-- A call on another issue is one more of the others. -/
theorem Mirrors.other (h : Mirrors id others db db') (hdb : db.Consistent)
    (hsubject : op.subject?.isSome) (hother : db.addressee (author, op) ≠ some id) :
    Mirrors id (others ++ [(author, op)]) (db.after author op) db' := by
  have hbefore : ∀ {entryId}, (∀ call ∈ others ++ [(author, op)], call.1.entryId ≠ entryId) →
      author.entryId ≠ entryId ∧ db.hasEntry entryId = db'.hasEntry entryId := by
    intro entryId hfresh
    obtain ⟨hothers, hlast⟩ := List.forall_mem_append.1 hfresh
    exact ⟨hlast (author, op) (List.mem_singleton_self _), h.entries entryId hothers⟩
  rcases confined_after hdb hsubject author with hsame | ⟨other, haddressee, hconfined⟩
  · rw [hsame]
    exact ⟨h.commons, h.dossier, fun entryId hfresh => (hbefore hfresh).2⟩
  · have hid : id ≠ other := fun hid => hother (hid ▸ haddressee)
    refine ⟨hconfined.commons.trans h.commons, (hconfined.dossiers id hid).trans h.dossier, ?_⟩
    intro entryId hfresh
    obtain ⟨hown, hentries⟩ := hbefore hfresh
    exact (hconfined.entries entryId (Ne.symm hown)).trans hentries

/-- A call on the issue is answered alike, and leaves what is alike. -/
theorem Mirrors.own (h : Mirrors id others db db') (hdb : db.Consistent) (hdb' : db'.Consistent)
    (haddressee : db.addressee (author, op) = some id)
    (hfresh : ∀ call ∈ others, call.1.entryId ≠ author.entryId) :
    (db.perform author op).map (·.1) = (db'.perform author op).map (·.1) ∧
      Mirrors id others (db.after author op) (db'.after author op) := by
  obtain ⟨text, errand, issue, rfl, hissue, rfl⟩ := exists_errand_of_addressee haddressee
  -- The other database looks the text up to the same issue.
  obtain ⟨issue', hissue', hstored'⟩ :=
    issue_eq_ok_of_directory hdb hdb' (congrArg Commons.directory h.commons) hissue
  have hstored := storedIssue?_of_issue_eq_ok hdb hissue
  have hsame : db.storedIssue? issue.id = db'.storedIssue? issue.id :=
    congrArg Dossier.issue h.dossier
  obtain rfl : issue = issue' := Option.some.inj (hstored.symm.trans (hsame.trans hstored'))
  have hagree : Agree (fun r r' => r.1 = r'.1 ∧ Mirrors issue.id others r.2 r'.2)
      (db.perform author (errand.on text)) (db'.perform author (errand.on text)) := by
    rw [perform_errand hdb, perform_errand hdb', hissue, hissue']
    refine Agree.bind_same fun _ => ?_
    refine (deal_agree h.commons h.dossier (h.entries _ hfresh) errand).and_eq.mono ?_
    rintro r r' ⟨⟨hreply, hdossier, htaken⟩, hdeal, hdeal'⟩
    have hconfined := confined_of_deal hdeal
    have hconfined' := confined_of_deal hdeal'
    refine ⟨hreply, hconfined.commons.trans (h.commons.trans hconfined'.commons.symm), hdossier, ?_⟩
    intro entryId hothers
    by_cases hown : entryId = author.entryId
    · rw [hown, htaken]
    · rw [hconfined.entries entryId hown, hconfined'.entries entryId hown]
      exact h.entries entryId hothers
  unfold after
  generalize db.perform author (errand.on text) = x at hagree ⊢
  generalize db'.perform author (errand.on text) = y at hagree ⊢
  cases hagree with
  | ok hok => exact ⟨congrArg Except.ok hok.1, hok.2⟩
  | error e => exact ⟨rfl, h⟩

/-! ### Runs -/

theorem isCall_of_subject (hsubject : op.subject?.isSome) : op.isCall = true := by
  obtain ⟨text, hsubject⟩ := Option.isSome_iff_exists.1 hsubject
  obtain ⟨errand, rfl⟩ := Operation.exists_errand hsubject
  exact errand.isCall_on text

/-- Calls on different issues bring different identifiers for their entries. -/
def EntriesApart (db : Database) (calls : List (Author × Operation)) : Prop :=
  ∀ call ∈ calls, ∀ other ∈ calls, call.1.entryId = other.1.entryId →
    db.addressee call = db.addressee other

instance (db : Database) (calls : List (Author × Operation)) : Decidable (db.EntriesApart calls) :=
  inferInstanceAs (Decidable (∀ call ∈ calls, ∀ other ∈ calls,
    call.1.entryId = other.1.entryId → db.addressee call = db.addressee other))

theorem consistent_run_of_subjects (hdb : db.Consistent)
    (hsubjects : ∀ call ∈ calls, call.2.subject?.isSome) : (db.run calls).2.Consistent :=
  consistent_run hdb fun call hcall => isCall_of_subject (hsubjects call hcall)

/-- No run of calls on single issues changes the commons. -/
theorem commons_run (hdb : db.Consistent) (hsubjects : ∀ call ∈ calls, call.2.subject?.isSome) :
    (db.run calls).2.commons = db.commons := by
  -- What a call leaves of the commons is shown for consistent databases, so the run before it comes
  -- first.
  induction calls using List.reverseRecOn with
  | nil => rfl
  | append_singleton calls call ih =>
    obtain ⟨hbefore, hlast⟩ := List.forall_mem_append.1 hsubjects
    rw [run_concat]
    have hcall := hlast call (List.mem_singleton_self call)
    exact (commons_after (consistent_run_of_subjects hdb hbefore) hcall call.1).trans (ih hbefore)

/-- The part of a run that is on one issue goes as if it were made by itself. -/
theorem mirrors_run (hdb : db.Consistent) (hsubjects : ∀ call ∈ calls, call.2.subject?.isSome)
    (hentries : db.EntriesApart calls) (id : String) :
    Mirrors id (calls.filter fun call => db.addressee call != some id) (db.run calls).2
        (db.run (db.callsOn id calls)).2 ∧
      (db.transcript calls).filter (fun line => db.addressee line.1 == some id) =
        db.transcript (db.callsOn id calls) := by
  induction calls using List.reverseRecOn with
  | nil => exact ⟨⟨rfl, rfl, fun _ _ => rfl⟩, rfl⟩
  | append_singleton calls call ih =>
    obtain ⟨hbefore, hlast⟩ := List.forall_mem_append.1 hsubjects
    have hcall := hlast call (List.mem_singleton_self call)
    obtain ⟨hmirrors, htranscript⟩ := ih hbefore fun made hmade other hother =>
      hentries made (List.mem_append_left _ hmade) other (List.mem_append_left _ hother)
    have hconsistent := consistent_run_of_subjects hdb hbefore
    -- A call has the addressee that it had at the beginning.
    have haddressee : (db.run calls).2.addressee call = db.addressee call :=
      addressee_congr hconsistent hdb (commons_run hdb hbefore) call
    by_cases hon : db.addressee call = some id
    · have hothers : (calls ++ [call]).filter (fun call => db.addressee call != some id) =
          calls.filter fun call => db.addressee call != some id := by simp [hon]
      have hown : db.callsOn id (calls ++ [call]) = db.callsOn id calls ++ [call] := by
        simp [callsOn, hon]
      -- The other calls are on other issues, so they bring other identifiers.
      have hfresh : ∀ other ∈ calls.filter (fun call => db.addressee call != some id),
          other.1.entryId ≠ call.1.entryId := by
        intro other hother hsame
        obtain ⟨hmade, haway⟩ := List.mem_filter.1 hother
        have haddressees := hentries other (List.mem_append_left _ hmade) call
          (List.mem_append_right _ (List.mem_singleton_self call)) hsame
        simp [haddressees, hon] at haway
      have hpart : (db.run (db.callsOn id calls)).2.Consistent :=
        consistent_run_of_subjects hdb fun made hmade => hbefore made (List.mem_of_mem_filter hmade)
      obtain ⟨hanswer, hafter⟩ :=
        hmirrors.own hconsistent hpart (haddressee.trans hon) hfresh
      rw [hothers, hown, transcript_concat, transcript_concat, List.filter_append, htranscript,
        hanswer, run_concat, run_concat]
      exact ⟨hafter, by simp [hon]⟩
    · have hothers : (calls ++ [call]).filter (fun call => db.addressee call != some id) =
          calls.filter (fun call => db.addressee call != some id) ++ [call] := by simp [hon]
      have hown : db.callsOn id (calls ++ [call]) = db.callsOn id calls := by simp [callsOn, hon]
      rw [hothers, hown, transcript_concat, List.filter_append, htranscript, run_concat]
      exact ⟨hmirrors.other hconsistent hcall (haddressee ▸ hon), by simp [hon]⟩

/-- Calls that name no issue are answered as they would be at the beginning. -/
theorem transcript_unaddressed (hdb : db.Consistent)
    (hsubjects : ∀ call ∈ calls, call.2.subject?.isSome) :
    (db.transcript calls).filter (fun line => db.addressee line.1 == none) =
      (calls.filter fun call => db.addressee call == none).map fun call =>
        (call, (db.perform call.1 call.2).map (·.1)) := by
  induction calls using List.reverseRecOn with
  | nil => rfl
  | append_singleton calls call ih =>
    obtain ⟨hbefore, hlast⟩ := List.forall_mem_append.1 hsubjects
    have hcall := hlast call (List.mem_singleton_self call)
    rw [transcript_concat, List.filter_append, List.filter_append, List.map_append, ih hbefore]
    congr 1
    by_cases hnone : db.addressee call = none
    · -- Such a call fails for want of an issue, at any time, as no call on an issue makes one.
      obtain ⟨e, he⟩ := exists_error_of_addressee hdb hcall hnone
      have hlater := he _ (consistent_run_of_subjects hdb hbefore) (commons_run hdb hbefore).symm
      simp [hnone, hlater, he db hdb rfl]
    · simp [hnone]

/-! ### What is left in the end -/

/-- The issues can be read off the directory and the dossiers. -/
theorem issues_eq (hdb : db.Consistent) :
    db.issues = db.directory.filterMap fun identifiers =>
      (db.storedIssue? identifiers.1).map fun issue => { record := issue } := by
  rw [directory, List.filterMap_map]
  refine (List.filterMap_some.symm.trans (List.filterMap_congr fun row hrow => ?_))
  have hstored : db.storedIssue? row.record.identifiers.1 = some row.record :=
    storedIssue?_eq_some_of_mem hdb hrow
  obtain ⟨record, foreign⟩ := row
  obtain rfl : foreign = none := hdb.issueWords _ hrow
  simp only [Function.comp_apply, hstored, Option.map_some]

/-- The cursors can be read off the dossiers, up to their order. -/
theorem mem_cursors_iff (hdb : db.Consistent) {row : Row Cursor} :
    row ∈ db.cursors ↔
      db.storedCursor? row.record.issueId = some row.record ∧ row.foreign = none := by
  constructor
  · exact fun hrow => ⟨storedCursor?_eq_some_of_mem hdb hrow, hdb.cursorWords row hrow⟩
  · rintro ⟨hstored, hword⟩
    obtain ⟨found, hfound, hrecord, -⟩ := Row.exists_of_lookup hstored
    obtain ⟨record, foreign⟩ := row
    obtain ⟨record', foreign'⟩ := found
    obtain rfl : foreign' = none := hdb.cursorWords _ hfound
    cases hrecord
    cases hword
    exact hfound

/-- Databases with the same commons and the same dossiers are the same but for numbers. -/
theorem renumbered_of_dossiers (hdb : db.Consistent) (hdb' : db'.Consistent)
    (hcommons : db.commons = db'.commons) (hdossiers : ∀ id, db.dossier id = db'.dossier id) :
    Renumbered db db' where
  projects := congrArg Commons.projects hcommons
  issues := by
    have hstored : ∀ id, db.storedIssue? id = db'.storedIssue? id := fun id =>
      congrArg Dossier.issue (hdossiers id)
    have hdirectory : db.directory = db'.directory := congrArg Commons.directory hcommons
    rw [issues_eq hdb, issues_eq hdb', hdirectory]
    simp only [hstored]
  steps := congrArg Commons.steps hcommons
  cursors := by
    have hstored : ∀ id, db.storedCursor? id = db'.storedCursor? id := fun id =>
      congrArg Dossier.cursor (hdossiers id)
    -- The rows of cursors are known up to their order, since each stands for its issue.
    refine (List.perm_ext_iff_of_nodup hdb.cursorIds.of_map hdb'.cursorIds.of_map).2 fun row => ?_
    rw [mem_cursors_iff hdb, mem_cursors_iff hdb', hstored]
  histories id := congrArg Dossier.history (hdossiers id)
  events entityType entityId := by
    by_cases htype : entityType = "issue"
    · subst htype
      exact congrArg Dossier.events (hdossiers entityId)
    · -- Such events are among the common ones.
      have hothers : ∀ database : Database,
          (database.events.filter fun row =>
            row.record.entityType == entityType && row.record.entityId == entityId) =
          database.commons.otherEvents.filter fun row =>
            row.record.entityType == entityType && row.record.entityId == entityId := by
        intro database
        rw [commons, List.filter_filter]
        refine List.filter_congr fun row _ => ?_
        by_cases hrow : row.record.entityType = entityType <;> simp [hrow, htype]
      rw [hothers, hothers, hcommons]
  versions := congrArg Commons.versions hcommons
  uniqueShortIds := congrArg Commons.uniqueShortIds hcommons
  blocked := congrArg Commons.blocked hcommons

/-! ### Reordering -/

/-- A run and a run of the same calls in another order come to the same. -/
structure SameOutcome (db : Database) (calls calls' : List (Author × Operation)) : Prop where
  /-- Every call is answered alike. -/
  answers : (db.transcript calls).Perm (db.transcript calls')
  /-- Every issue sees the same calls with the same answers, in the same order. -/
  parts : ∀ id,
    (db.transcript calls).filter (fun line => db.addressee line.1 == some id) =
      (db.transcript calls').filter fun line => db.addressee line.1 == some id
  /-- The databases after the runs are the same but for numbers. -/
  final : Renumbered (db.run calls).2 (db.run calls').2

/-- Lists are permutations of each other if their parts under every key are. -/
theorem perm_of_forall_filter {α κ : Type} [BEq κ] [LawfulBEq κ] (key : α → κ) {xs ys : List α}
    (h : ∀ k, (xs.filter fun x => key x == k).Perm (ys.filter fun y => key y == k)) :
    xs.Perm ys := by
  classical
  refine List.perm_iff_count.2 fun a => ?_
  have hcount := (h (key a)).count_eq a
  rwa [List.count_filter (by simp), List.count_filter (by simp)] at hcount

/-- A run may be reordered in every way that keeps the calls on each issue in order. -/
theorem sameOutcome_of_perm (hdb : db.Consistent)
    (hsubjects : ∀ call ∈ calls, call.2.subject?.isSome) (hentries : db.EntriesApart calls)
    (hperm : calls.Perm calls') (hparts : ∀ id, db.callsOn id calls = db.callsOn id calls') :
    db.SameOutcome calls calls' := by
  have hsubjects' : ∀ call ∈ calls', call.2.subject?.isSome := fun call hcall =>
    hsubjects call (hperm.mem_iff.2 hcall)
  have hentries' : db.EntriesApart calls' := fun call hcall other hother =>
    hentries call (hperm.mem_iff.2 hcall) other (hperm.mem_iff.2 hother)
  -- Each transcript, as far as it is on one issue, is made of the calls on this issue.
  have htranscripts : ∀ id,
      (db.transcript calls).filter (fun line => db.addressee line.1 == some id) =
        (db.transcript calls').filter fun line => db.addressee line.1 == some id := by
    intro id
    rw [(mirrors_run hdb hsubjects hentries id).2, (mirrors_run hdb hsubjects' hentries' id).2,
      hparts id]
  refine ⟨perm_of_forall_filter (fun line => db.addressee line.1) ?_, htranscripts, ?_⟩
  · rintro (_ | id)
    · rw [transcript_unaddressed hdb hsubjects, transcript_unaddressed hdb hsubjects']
      exact (hperm.filter _).map _
    · exact .of_eq (htranscripts id)
  · -- What is left in the end is told by the dossiers and by what is common to all of them.
    refine renumbered_of_dossiers (consistent_run_of_subjects hdb hsubjects)
      (consistent_run_of_subjects hdb hsubjects') ?_ fun id => ?_
    · rw [commons_run hdb hsubjects, commons_run hdb hsubjects']
    · rw [(mirrors_run hdb hsubjects hentries id).1.dossier,
        (mirrors_run hdb hsubjects' hentries' id).1.dossier, hparts id]

/-- Operations on different issues commute: each is answered as if the other had not been there, and
they leave the same database in either order, up to numbers. So a run of them comes to the same in
every order that keeps the calls on each issue in order. -/
theorem sameOutcome_of_reordering (db : Database) (hdb : db.Consistent) :
    (∀ author op author' op' id id', db.addressee (author, op) = some id →
      db.addressee (author', op') = some id' → id ≠ id' → author.entryId ≠ author'.entryId →
      ((db.after author' op').perform author op).map (·.1) = (db.perform author op).map (·.1) ∧
        ((db.after author op).perform author' op').map (·.1) =
          (db.perform author' op').map (·.1) ∧
        Renumbered ((db.after author op).after author' op')
          ((db.after author' op').after author op)) ∧
    ∀ calls calls' : List (Author × Operation), (∀ call ∈ calls, call.2.subject?.isSome) →
      db.EntriesApart calls → calls.Perm calls' →
      (∀ id, db.callsOn id calls = db.callsOn id calls') → db.SameOutcome calls calls' := by
  refine ⟨fun author op author' op' id id' hid hid' hne hentries => ?_,
    fun calls calls' hsubjects => sameOutcome_of_perm hdb hsubjects⟩
  have hsubjects : ∀ call ∈ [(author, op), (author', op')], call.2.subject?.isSome := by
    simp [isSome_subject_of_addressee hid, isSome_subject_of_addressee hid']
  -- Two calls in either order are the smallest case of reordering.
  have hsame : db.SameOutcome [(author, op), (author', op')] [(author', op'), (author, op)] := by
    refine sameOutcome_of_perm hdb hsubjects ?_ (.swap _ _ _) fun other => ?_
    · simp [EntriesApart, hentries, Ne.symm hentries]
    · -- At most one of the two is on an issue, so their order does not show.
      by_cases hother : id = other
      · subst hother
        simp [callsOn, hid, hid', Ne.symm hne]
      · simp [callsOn, List.filter_cons, hid, hid', hother]
  -- The answers to each of the two are the parts of the transcripts on their issues.
  have hown := hsame.parts id
  have hown' := hsame.parts id'
  simp only [transcript, run, List.zip_cons_cons, List.zip_nil_right, List.filter_cons, hid, hid',
    beq_self_eq_true, if_true, Option.some_beq_some, beq_iff_eq, hne, Ne.symm hne, if_false,
    List.filter_nil, List.cons.injEq, Prod.mk.injEq, true_and, and_true] at hown hown'
  exact ⟨hown.symm, hown', hsame.final⟩

/-- Two issues of one project to try this on, and calls on them. -/
def twoIssues : Database :=
  let author (n : Nat) : Author := ⟨"ada", ⟨n, n⟩⟩
  ((create 0).run
    [ (author 1, .createProject ⟨"docs", "Docs", "home", none, some "DOCS", 1, 1, 1⟩),
      (author 2, .addStep ⟨"docs", "draft", .agentWork, none, true, none⟩),
      (author 3, .createIssue "docs" "first" none),
      (author 4, .createIssue "docs" "second" none) ]).2

/-- The second completion of an issue fails, and so does one of an issue that is not there, whatever
else is done in between. -/
theorem sameOutcome_twoIssues :
    let first : Author × Operation := (⟨"ada", ⟨5, 5⟩⟩, .complete "DOCS-1" none none)
    let again : Author × Operation := (⟨"ada", ⟨6, 6⟩⟩, .complete "DOCS-1" none none)
    let second : Author × Operation := (⟨"bob", ⟨7, 7⟩⟩, .complete "DOCS-2" none none)
    let missing : Author × Operation := (⟨"bob", ⟨8, 8⟩⟩, .complete "DOCS-3" none none)
    twoIssues.Consistent ∧
      ((twoIssues.after second.1 second.2).perform first.1 first.2).map (·.1) =
        (twoIssues.perform first.1 first.2).map (·.1) ∧
      (twoIssues.run [first, again, second, missing]).1.map (fun answer => answer.toOption.isSome) =
        [true, false, true, false] ∧
      twoIssues.SameOutcome [first, again, second, missing] [missing, first, second, again] := by
  intro first again second missing
  have hconsistent : twoIssues.Consistent :=
    consistent_run (admitted_create 0).toConsistent (by decide)
  have hfirst : twoIssues.addressee first = some "issue_00000003-400" := by decide +kernel
  have hagain : twoIssues.addressee again = some "issue_00000003-400" := by decide +kernel
  have hsecond : twoIssues.addressee second = some "issue_00000004-400" := by decide +kernel
  have hmissing : twoIssues.addressee missing = none := by decide +kernel
  obtain ⟨hcommute, hreorder⟩ := sameOutcome_of_reordering twoIssues hconsistent
  refine ⟨hconsistent, (hcommute _ _ _ _ _ _ hfirst hsecond (by decide) (by decide)).1,
    by decide +kernel, hreorder _ _ (by decide) (by decide +kernel) ?_ fun id => ?_⟩
  · exact (List.perm_append_singleton missing [first, again, second]).trans
      (.cons _ (.cons _ (.swap _ _ _)))
  · -- Only the first issue has two calls, and they stay in order.
    by_cases hid : "issue_00000003-400" = id
    · subst hid
      simp [callsOn, hfirst, hagain, hsecond, hmissing]
    · simp [callsOn, List.filter_cons, hfirst, hagain, hsecond, hmissing, hid]

end Database

end ReviewPipeline
