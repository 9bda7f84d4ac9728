import ReviewPipeline.Proofs.AppendOnly
import ReviewPipeline.Status

/-!
# Opening a Database Again

The schema is applied whenever a database is opened. Versions that are recorded stay as they are,
and so do all rows, but short identifiers come under an index that keeps them unique, and an index
of that kind cannot be made while two issues share one. A database in which this index was never
lifted is left exactly as it is; one in which it was, and in which an identifier became ambiguous
since, cannot be opened any more (`reopens_of_deeds`).

## Main definitions

* `Current`: the versions of the schema are recorded, and the index holds if it is there;
* `Steady`: what a write keeps that touches neither the versions nor the index;
* `ReadsAlike`: two databases between which no reader can tell;
* `Reopens`: what opening a database again comes to.

## Main results

* `current_afterDeeds`: a database that was opened once stays current whatever is done to it;
* `reopens_of_deeds`: what opening it again comes to.
-/

namespace ReviewPipeline

/-- Whether a deed lifts the index on short identifiers. -/
def Deed.liftsIndex : Deed → Bool
  | .call _ (.raw (.forceShortId _ _)) => true
  | _ => false

namespace Database

variable {db db' : Database} {now : Int}

/-! ### Versions -/

/-- A version is recorded. -/
def HasVersion (versions : List (String × Int)) (version : String) : Prop :=
  versions.any (·.1 == version) = true

/-- A version that is recorded already is not recorded again. -/
theorem recordVersion_of_hasVersion {versions : List (String × Int)} {version : String}
    (h : HasVersion versions version) : recordVersion now versions version = versions :=
  if_pos h

/-- Recording a version keeps those that are recorded, and records it. -/
theorem hasVersion_recordVersion {versions : List (String × Int)} {version other : String}
    (h : HasVersion versions other ∨ other = version) :
    HasVersion (recordVersion now versions version) other := by
  unfold recordVersion
  split
  · next hrecorded => exact h.elim id fun hsame => hsame ▸ hrecorded
  · rw [HasVersion, List.any_append, Bool.or_eq_true]
    rcases h with hbefore | rfl
    · exact .inl hbefore
    · exact .inr (by simp)

/-- Recording versions one after the other records each of them. -/
theorem hasVersion_foldl {versions : List (String × Int)} {added : List String} {version : String}
    (h : HasVersion versions version ∨ version ∈ added) :
    HasVersion (added.foldl (recordVersion now) versions) version := by
  induction added generalizing versions with
  | nil => exact h.resolve_right List.not_mem_nil
  | cons first rest ih =>
    rw [List.mem_cons] at h
    refine ih (or_assoc.2 h |>.imp_left hasVersion_recordVersion)

/-- Versions that are all recorded are not recorded again. -/
theorem foldl_recordVersion_eq {versions : List (String × Int)} {added : List String}
    (h : ∀ version ∈ added, HasVersion versions version) :
    added.foldl (recordVersion now) versions = versions := by
  induction added with
  | nil => rfl
  | cons first rest ih =>
    obtain ⟨hfirst, hrest⟩ := List.forall_mem_cons.1 h
    rw [List.foldl_cons, recordVersion_of_hasVersion hfirst, ih hrest]

/-! ### Short identifiers -/

/-- The short identifiers as the index of the schema sees them. -/
theorem shortIds_eq (db : Database) :
    db.shortIds = (db.issues.map (·.record.shortId)).filterMap id := by
  rw [List.filterMap_map]
  rfl

/-- Issues that keep their short identifiers one by one have the same ones together. -/
theorem shortIds_withIssues {rows : List (Row Issue)}
    (h : rows.map (·.record.shortId) = db.issues.map (·.record.shortId)) :
    { db with issues := rows : Database }.shortIds = db.shortIds := by
  rw [shortIds_eq, shortIds_eq, h]

/-- A new issue with a new short identifier, or with none, makes no conflict. -/
theorem nodup_shortIds_concat {issue : Issue} (h : db.shortIds.Nodup)
    (hnew : ∀ row ∈ db.issues, issue.shortId.isSome → row.record.shortId ≠ issue.shortId) :
    { db with issues := db.issues ++ [{ record := issue }] : Database }.shortIds.Nodup := by
  rw [shortIds] at h ⊢
  cases hshort : issue.shortId with
  | none => simpa [hshort] using h
  | some shortId =>
    have hone : [({ record := issue } : Row Issue)].filterMap (·.record.shortId) = [shortId] :=
      List.filterMap_cons_some hshort
    rw [List.filterMap_append, hone, ← List.concat_eq_append]
    refine List.Nodup.concat (fun hmem => ?_) h
    obtain ⟨row, hrow, htaken⟩ := List.mem_filterMap.1 hmem
    exact hnew row hrow (by rw [hshort]; rfl) (htaken.trans hshort.symm)

/-- Short identifiers that are taken away leave the others in their order. -/
theorem sublist_shortIds_cleared (rows : List (Row Issue)) (p : Row Issue → Bool) :
    ((rows.map fun row =>
        if p row then row.modify fun issue => { issue with shortId := none } else row).filterMap
      (·.record.shortId)).Sublist (rows.filterMap (·.record.shortId)) := by
  induction rows with
  | nil => exact .slnil
  | cons row rows ih =>
    rw [List.map_cons, List.filterMap_cons, List.filterMap_cons]
    -- A cleared row may leave the list shorter, the others keep their places.
    cases p row with
    | true =>
      rw [if_pos rfl]
      cases row.record.shortId with
      | none => exact ih
      | some shortId => exact .cons shortId ih
    | false =>
      rw [if_neg Bool.false_ne_true]
      cases row.record.shortId with
      | none => exact ih
      | some shortId => exact .cons_cons shortId ih

/-! ### What writes keep -/

/-- The versions of the schema are recorded, and the index holds if it is there. -/
structure Current (db : Database) : Prop where
  /-- Every version of the current schema is recorded. -/
  versions : ∀ version ∈ currentVersions, HasVersion db.versions version
  /-- Under the index, no two issues share a short identifier. -/
  index : db.uniqueShortIds = true → db.shortIds.Nodup

/-- The versions and the index are as they were, and what the index asks for still holds. -/
structure Steady (db db' : Database) : Prop where
  /-- The same versions are recorded. -/
  versions : db'.versions = db.versions
  /-- The index is there iff it was. -/
  uniqueShortIds : db'.uniqueShortIds = db.uniqueShortIds
  /-- Under the index, distinct short identifiers stay distinct. -/
  labels : db.uniqueShortIds = true → db.shortIds.Nodup → db'.shortIds.Nodup

namespace Steady

variable {db'' : Database}

/-- A database is steady with respect to itself. -/
theorem refl (db : Database) : db.Steady db := ⟨rfl, rfl, fun _ h => h⟩

/-- Steadiness is transitive. -/
theorem trans (h : db.Steady db') (h' : db'.Steady db'') : db.Steady db'' where
  versions := h'.versions.trans h.versions
  uniqueShortIds := h'.uniqueShortIds.trans h.uniqueShortIds
  labels hindex hdb := h'.labels (h.uniqueShortIds.trans hindex) (h.labels hindex hdb)

/-- A current database stays so in a steady step. -/
theorem current (h : db.Steady db') (hdb : db.Current) : db'.Current where
  versions := h.versions ▸ hdb.versions
  index hindex :=
    have hbefore := h.uniqueShortIds.symm.trans hindex
    h.labels hbefore (hdb.index hbefore)

/-- A write that does not add a short identifier is steady. -/
theorem of_sublist (hversions : db'.versions = db.versions)
    (hindex : db'.uniqueShortIds = db.uniqueShortIds)
    (hlabels : db'.shortIds.Sublist db.shortIds) : db.Steady db' :=
  ⟨hversions, hindex, fun _ hdb => hdb.sublist hlabels⟩

/-- A write that leaves the issues alone is steady. -/
theorem of_issues (hversions : db'.versions = db.versions)
    (hindex : db'.uniqueShortIds = db.uniqueShortIds) (hissues : db'.issues = db.issues) :
    db.Steady db' :=
  .of_sublist hversions hindex (by rw [shortIds, hissues]; exact List.Sublist.refl _)

end Steady

/-- Every statement is steady: a new issue is the only one to bring a short identifier, and it goes
through the index. -/
theorem steady_of_statement {statement : Statement} (h : statement.run db = .ok db') :
    db.Steady db' := by
  cases statement with
  | insertProject p =>
    -- Only issues have short identifiers, so the other tables do not matter.
    obtain ⟨-, -, -, rfl⟩ := insertProject_eq_ok_iff.1 h
    exact .of_issues rfl rfl rfl
  | insertIssue issue =>
    obtain ⟨hnew, -, -, rfl⟩ := insertIssue_eq_ok h
    exact ⟨rfl, rfl, fun hindex hdb => nodup_shortIds_concat hdb (hnew hindex)⟩
  | countIssue projectId now =>
    rw [countIssue_eq_ok h]
    exact .of_issues rfl rfl rfl
  | insertStep step =>
    obtain ⟨-, -, -, -, rfl⟩ := insertStep_eq_ok h
    exact .of_issues rfl rfl rfl
  | assignStep stepId agent now =>
    obtain ⟨-, rfl⟩ := assignStep_eq_ok_iff.1 h
    exact .of_issues rfl rfl rfl
  | putGate issueId projectId gate now =>
    obtain ⟨-, -, rfl⟩ := putCursor_eq_ok_iff.1 h
    exact .of_issues rfl rfl rfl
  | clearCursor issueId now =>
    obtain ⟨-, rfl⟩ := clearCursor_eq_ok_iff.1 h
    exact .of_issues rfl rfl rfl
  | moveCursor issueId projectId update now =>
    obtain ⟨-, -, rfl⟩ := putCursor_eq_ok_iff.1 h
    exact .of_issues rfl rfl rfl
  | appendEntry draft =>
    obtain ⟨⟨entry, db'⟩, happend, rfl⟩ := map_eq_ok_iff.1 h
    obtain ⟨-, -, -, -, rfl⟩ := appendEntry_eq_ok_iff.1 happend
    exact .of_issues rfl rfl rfl
  | setWorkStatus issueId status now =>
    obtain ⟨-, -, rfl⟩ := setWorkStatus_eq_ok_iff.1 h
    -- Another status leaves the short identifiers.
    have hlabels : (db.issuesMarked issueId status now).map (·.record.shortId) =
        db.issues.map (·.record.shortId) := map_changed fun _ => rfl
    exact .of_sublist rfl rfl (shortIds_withIssues hlabels ▸ List.Sublist.refl _)
  | appendEvent actor now draft =>
    obtain ⟨-, -, hdone⟩ := bind_eq_ok_iff.1 h
    cases hdone
    exact .of_issues rfl rfl rfl

/-- A chain of writes is steady. -/
theorem steady_of_chain (h : Chain db db') : db.Steady db' := by
  induction h with
  | refl => exact .refl db
  | tail _ hlast ih =>
    obtain ⟨statement, hstatement⟩ := hlast
    exact ih.trans (steady_of_statement hstatement)

/-- Taking issues out is steady. -/
theorem steady_of_removeIssues {p : Issue → Bool} (h : db.removeIssues p = .ok db') :
    db.Steady db' := by
  obtain ⟨-, cursors, rfl⟩ := removeIssues_eq_ok h
  exact .of_sublist rfl rfl (List.filter_sublist.filterMap _)

/-- A strike is steady. -/
theorem steady_of_strike {strike : Strike} (h : db.strike strike = .ok db') : db.Steady db' := by
  cases strike with
  | projects p =>
    obtain ⟨db₁, hremove, hdone⟩ := bind_eq_ok_iff.1 h
    cases hdone
    exact (steady_of_removeIssues hremove).trans (.of_issues rfl rfl rfl)
  | issues p => exact steady_of_removeIssues h
  | steps p =>
    cases h
    exact .of_issues rfl rfl rfl
  | entries p | rewrite p f =>
    obtain ⟨-, -, hdone⟩ := bind_eq_ok_iff.1 h
    cases hdone
    exact .refl db

/-- Setting a closed column is steady. -/
theorem steady_of_setClosed {column : ClosedColumn} {id word : String} {isChecked : Bool}
    {count : Nat} (h : db.setClosed column id word isChecked = .ok (count, db')) :
    db.Steady db' := by
  cases column with
  | workStatus =>
    obtain ⟨⟨count, db'⟩, hwrite, h⟩ := bind_eq_ok_iff.1 h
    obtain ⟨-, -, hdone⟩ := bind_eq_ok_iff.1 h
    cases hdone
    rw [updateIssues_eq_ok hwrite]
    refine .of_sublist rfl rfl ?_
    -- Another word in the column leaves the short identifier of the row.
    rw [shortIds_withIssues (map_changed fun row => ?_)]
    refine record_putWord Issue.shortId ?_ row
    exact fun _ _ => rfl
  | stepKind =>
    obtain ⟨⟨count, db'⟩, hwrite, h⟩ := bind_eq_ok_iff.1 h
    obtain ⟨-, -, hdone⟩ := bind_eq_ok_iff.1 h
    cases hdone
    rw [updateSteps_eq_ok hwrite]
    exact .of_issues rfl rfl rfl
  | gateStatus =>
    obtain ⟨-, -, hdone⟩ := bind_eq_ok_iff.1 h
    cases hdone
    exact .of_issues rfl rfl rfl

/-- A direct change is steady, or it lifts the index. -/
theorem steady_of_rawWrite {w : RawWrite} {count : Nat} (h : db.rawWrite w = .ok (count, db')) :
    db.Steady db' ∨ ((∃ issueId shortId, w = .forceShortId issueId shortId) ∧
      db'.versions = db.versions ∧ db'.uniqueShortIds = false) := by
  cases w with
  | deleteProject id =>
    obtain ⟨db₁, hremove, hdone⟩ := bind_eq_ok_iff.1 h
    cases hdone
    exact .inl ((steady_of_removeIssues hremove).trans (.of_issues rfl rfl rfl))
  | deleteIssue id =>
    obtain ⟨db₁, hremove, hdone⟩ := bind_eq_ok_iff.1 h
    cases hdone
    exact .inl (steady_of_removeIssues hremove)
  | deleteHistory issueId | updateHistory issueId =>
    obtain ⟨-, -, hdone⟩ := bind_eq_ok_iff.1 h
    cases hdone
    exact .inl (.refl db)
  -- Short identifiers can only be lost by this, so that they stay distinct.
  | clearShortId issueId =>
    rw [updateIssues_eq_ok h]
    exact .inl (.of_sublist rfl rfl (sublist_shortIds_cleared _ _))
  | forceShortId issueId shortId =>
    -- This alone lifts the index, and the caller is told so.
    rw [updateIssues_eq_ok h]
    exact .inr ⟨⟨issueId, shortId, rfl⟩, rfl, rfl⟩
  | setClosed column id word isChecked => exact .inl (steady_of_setClosed h)
  | deleteStep _ | setEventKind _ _ | block _ | unblock =>
    cases h
    exact .inl (.of_issues rfl rfl rfl)

/-! ### Applying the schema -/

/-- Applying the schema is refused where short identifiers repeat and the index is missing. -/
theorem applySchema_eq_notUnique (hindex : db.uniqueShortIds = false) (h : ¬ db.shortIds.Nodup) :
    db.applySchema now = .error (.database (.notUnique "issues.short_id")) := by
  have hdistinct : db.hasDistinctShortIds = false := decide_eq_false h
  rw [applySchema, hindex, hdistinct]
  rfl

/-- Applying the schema makes a database current in which the index holds if it is there. -/
theorem current_of_applySchema (hdb : db.uniqueShortIds = true → db.shortIds.Nodup)
    (h : db.applySchema now = .ok db') : db'.Current := by
  obtain ⟨hindex, rfl⟩ := applySchema_eq_ok_iff.1 h
  exact ⟨fun version hversion => hasVersion_foldl (.inr hversion), fun _ => hindex.elim hdb id⟩

/-- A current database is current after whatever is done to it, and the index is still there unless
it was lifted. -/
theorem current_afterDeed (hdb : db.Current) (deed : Deed) :
    (db.afterDeed deed).Current ∧ (deed.liftsIndex = false → db.uniqueShortIds = true →
      (db.afterDeed deed).uniqueShortIds = true) := by
  -- What is steady keeps all that is asked for.
  have hsteady : ∀ {db'}, db.Steady db' → db'.Current ∧ (deed.liftsIndex = false →
      db.uniqueShortIds = true → db'.uniqueShortIds = true) := fun h =>
    ⟨h.current hdb, fun _ hindex => h.uniqueShortIds.trans hindex⟩
  cases deed with
  | strike strike =>
    rw [afterDeed, carryOut]
    cases hstrike : db.strike strike with
    | error e => exact hsteady (.refl db)
    | ok db' => exact hsteady (steady_of_strike hstrike)
  | call author op =>
    rw [afterDeed_call]
    -- Applying the schema is what makes a database current, if it does not refuse.
    by_cases hschema : op = .applySchema
    · subst hschema
      rw [after, perform]
      cases happly : db.applySchema author.stamp.now with
      | error e => exact hsteady (.refl db)
      | ok db' =>
        refine ⟨current_of_applySchema hdb.index happly, fun _ _ => ?_⟩
        obtain ⟨-, rfl⟩ := applySchema_eq_ok_iff.1 happly
        rfl
    by_cases hraw : ∃ w, op = .raw w
    · obtain ⟨w, rfl⟩ := hraw
      rw [after, perform]
      cases hwrite : db.rawWrite w with
      | error e => exact hsteady (.refl db)
      | ok r =>
        -- All direct writes are steady but the one that forces a short identifier.
        rcases steady_of_rawWrite hwrite with h | ⟨⟨issueId, shortId, rfl⟩, hversions, hindex⟩
        · exact hsteady h
        · refine ⟨⟨?_, fun hthere => ?_⟩, fun hlifts => ?_⟩
          · exact fun version hversion => hversions ▸ hdb.versions version hversion
          · exact absurd hthere (hindex ▸ Bool.false_ne_true)
          · cases hlifts
    · exact hsteady (steady_of_chain (chain_after hschema fun w hop => hraw ⟨w, hop⟩))

/-- Any deeds leave a current database current, and those that lift no index leave it in place. -/
theorem current_afterDeeds (hdb : db.Current) (deeds : List Deed) :
    (db.afterDeeds deeds).Current ∧ ((∀ deed ∈ deeds, deed.liftsIndex = false) →
      db.uniqueShortIds = true → (db.afterDeeds deeds).uniqueShortIds = true) := by
  -- Both are shown at once, as the index is only looked after on a current database.
  induction deeds generalizing db with
  | nil => exact ⟨hdb, fun _ hindex => hindex⟩
  | cons deed deeds ih =>
    obtain ⟨hnext, hkept⟩ := current_afterDeed hdb deed
    obtain ⟨hlast, hkeptOn⟩ := ih hnext
    refine ⟨hlast, fun hdeeds hindex => ?_⟩
    obtain ⟨hdeed, hdeeds⟩ := List.forall_mem_cons.1 hdeeds
    exact hkeptOn hdeeds (hkept hdeed hindex)

/-! ### Opening again -/

/-- No reader can tell two databases apart. -/
structure ReadsAlike (db db' : Database) : Prop where
  /-- The same projects are found by their identifiers. -/
  project : ∀ id, db'.project? id = db.project? id
  /-- The same projects are listed. -/
  projects : ∀ workspace limit, db'.listProjects workspace limit = db.listProjects workspace limit
  /-- Prefixes belong to the same projects. -/
  prefixes : ∀ issuePrefix, db'.prefixOwner? issuePrefix = db.prefixOwner? issuePrefix
  /-- Identifiers are looked up to the same issues, and the same identifiers are ambiguous. -/
  issue : ∀ id, db'.issue? id = db.issue? id
  /-- The same issues are listed. -/
  issues : ∀ projectId status limit,
    db'.listIssues projectId status limit = db.listIssues projectId status limit
  /-- The same steps are found by their identifiers. -/
  step : ∀ id, db'.step? id = db.step? id
  /-- The catalogs are the same. -/
  catalog : ∀ projectId, db'.catalog projectId = db.catalog projectId
  /-- The same cursors are found. -/
  cursor : ∀ issueId, db'.cursor? issueId = db.cursor? issueId
  /-- The histories are the same. -/
  history : ∀ issueId, db'.history issueId = db.history issueId
  /-- The same audit events are listed. -/
  events : ∀ entityType entityId limit,
    db'.listEvents entityType entityId limit = db.listEvents entityType entityId limit
  /-- Issues stand where they stood. -/
  status : ∀ issueId now, db'.status issueId now = db.status issueId now
  /-- The versions are recorded with the same times. -/
  versions : db'.appliedVersions = db.appliedVersions

/-- What opening a database again comes to. -/
structure Reopens (db : Database) (now : Int) : Prop where
  /-- It succeeds iff no two issues share a short identifier. -/
  succeeds_iff : (∃ again, db.applySchema now = .ok again) ↔ db.shortIds.Nodup
  /-- Then all rows and all recorded versions with their times are the same, and so is every
  answer. -/
  same : ∀ again, db.applySchema now = .ok again →
    again = { db with uniqueShortIds := true } ∧ db.ReadsAlike again
  /-- Where the index is there, nothing at all is new. -/
  untouched : db.uniqueShortIds = true → db.applySchema now = .ok db
  /-- Otherwise it is refused on account of the short identifiers. -/
  refused : ¬ db.shortIds.Nodup →
    db.applySchema now = .error (.database (.notUnique "issues.short_id"))
  /-- So it is wherever looking up an identifier reports that several issues have it. -/
  ambiguous : ∀ id, db.issue? id = .error (.ambiguousShortId id) →
    db.applySchema now = .error (.database (.notUnique "issues.short_id"))

/-- A current database is opened again iff the index holds or can be made again. -/
theorem Current.reopens (hdb : db.Current) : db.Reopens now := by
  -- A current database has all versions, so opening it again records none.
  have hversions : currentVersions.foldl (recordVersion now) db.versions = db.versions :=
    foldl_recordVersion_eq hdb.versions
  have hdistinct : db.uniqueShortIds = true ∨ db.shortIds.Nodup ↔ db.shortIds.Nodup :=
    or_iff_right_of_imp hdb.index
  have hok : ∀ again, db.applySchema now = .ok again ↔
      db.shortIds.Nodup ∧ again = { db with uniqueShortIds := true } := fun again => by
    rw [applySchema_eq_ok_iff, hversions, hdistinct]
  have hrefused : ¬ db.shortIds.Nodup →
      db.applySchema now = .error (.database (.notUnique "issues.short_id")) := fun hshared =>
    applySchema_eq_notUnique (Bool.eq_false_iff.2 (mt hdb.index hshared)) hshared
  constructor
  case succeeds_iff =>
    exact ⟨fun ⟨again, h⟩ => ((hok again).1 h).1, fun h => ⟨_, (hok _).2 ⟨h, rfl⟩⟩⟩
  case same =>
    intro again h
    obtain ⟨-, rfl⟩ := (hok again).1 h
    exact ⟨rfl, by constructor <;> intros <;> rfl⟩
  case untouched =>
    intro hindex
    refine (hok db).2 ⟨hdb.index hindex, ?_⟩
    rw [← hindex]
  case refused => exact hrefused
  case ambiguous =>
    intro id hambiguous
    exact hrefused fun hnodup => issue?_ne_ambiguous_of_nodup hnodup hambiguous

/-- A database that the schema was applied to once is opened again, whatever was done to it in
between, iff no two issues share a short identifier; then no row and no version is changed, and
every reader answers as before. While nobody lifts the index, it is left as it is altogether. -/
theorem reopens_of_deeds {start opened : Database} {made : Int}
    (hstart : start.uniqueShortIds = true → start.shortIds.Nodup)
    (hopened : start.applySchema made = .ok opened) (deeds : List Deed) (now : Int) :
    (opened.afterDeeds deeds).Reopens now ∧
      ((∀ deed ∈ deeds, deed.liftsIndex = false) →
        (opened.afterDeeds deeds).applySchema now = .ok (opened.afterDeeds deeds)) := by
  obtain ⟨hcurrent, hkept⟩ := current_afterDeeds (current_of_applySchema hstart hopened) deeds
  refine ⟨hcurrent.reopens, fun hdeeds => hcurrent.reopens.untouched (hkept hdeeds ?_)⟩
  obtain ⟨-, rfl⟩ := applySchema_eq_ok_iff.1 hopened
  rfl

/-- Two issues, the second of which is given the short identifier of the first as if there were no
index. -/
def sharedRun : List Deed :=
  let author (n : Nat) : Author := ⟨"tester", ⟨1700000000000 + 1000 * n, n⟩⟩
  [ .call (author 1) (.createProject
      { Project.create (author 1).stamp "Docs" "ws" with issuePrefix := some "DOCS" }),
    .call (author 2) (.createIssue "proj_00000001-400" "first" none),
    .call (author 3) (.createIssue "proj_00000001-400" "second" none),
    .call (author 4) (.raw (.forceShortId "issue_00000003-400" "DOCS-1")) ]

/-- In this run the identifier is reported as ambiguous, issues are still found by their full
identifiers, and the database cannot be opened again. -/
theorem not_reopened_sharedRun :
    let db := (create 1700000000000).afterDeeds sharedRun
    db.issue? "DOCS-1" = .error (.ambiguousShortId "DOCS-1") ∧
      (db.issue? "issue_00000002-400").map (·.isSome) = .ok true ∧
      db.applySchema 1700000005000 = .error (.database (.notUnique "issues.short_id")) := by
  decide +kernel

/-- The run fits the statement, with its last deed or without. With it, opening the database again
is refused; without it, the database is left as it is. -/
theorem reopens_sharedRun :
    let start : Database := {}
    let db := (create 1700000000000).afterDeeds sharedRun
    let before := (create 1700000000000).afterDeeds sharedRun.dropLast
    (start.uniqueShortIds = true → start.shortIds.Nodup) ∧
      start.applySchema 1700000000000 = .ok (create 1700000000000) ∧
      db.shortIds = ["DOCS-1", "DOCS-1"] ∧ db.Reopens 1700000005000 ∧
      (∀ deed ∈ sharedRun.dropLast, deed.liftsIndex = false) ∧
      before.applySchema 1700000005000 = .ok before := by
  intro start db before
  have hstart : start.uniqueShortIds = true → start.shortIds.Nodup := by decide
  have hopened := applySchema_empty 1700000000000
  have hdeeds : ∀ deed ∈ sharedRun.dropLast, deed.liftsIndex = false := by decide
  exact ⟨hstart, hopened, by decide +kernel,
    (reopens_of_deeds hstart hopened sharedRun 1700000005000).1, hdeeds,
    (reopens_of_deeds hstart hopened sharedRun.dropLast 1700000005000).2 hdeeds⟩

end Database

end ReviewPipeline
