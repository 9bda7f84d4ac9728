import ReviewPipeline.Proofs.AppendOnly
import ReviewPipeline.Proofs.Footprint

/-!
# Catalogs Stay in Order

A catalog lists the steps of a project by number, and this is an order only because no two steps of
a project share a number. Numbers and identifiers are checked when a step is inserted and never
change afterwards, so they stay unique whatever is done to a database, direct changes of tables
included.

## Main definitions

* `Restocked`: the steps lost rows at most, or one step was added that is in nobody's way;
* `Catalogued`: steps have identifiers and numbers of their own.

## Main results

* `catalogued_afterDeeds`: a database stays catalogued whatever is done to it;
* `Catalogued.isCatalog`: then the steps of a project are in the order of their numbers;
* `catalog_eq_ok_iff`: a catalog is listed iff no kind of its steps is a foreign word.
-/

namespace ReviewPipeline

/-- What a step is told apart by: its identifier, and its number in its project. -/
def Step.keys (step : Step) : String × String × Int :=
  (step.id, step.projectId, step.number)

namespace Database

variable {db db' : Database} {step : Step} {projectId : String}

/-- What a write can do to the steps. -/
inductive Restocked (db db' : Database) : Prop where
  /-- No step is new, and none has other keys than before. -/
  | kept (h : (db'.steps.map (·.record.keys)).Sublist (db.steps.map (·.record.keys)))
  /-- A step is added under an identifier and at a place of its own. -/
  | added {step : Step} (h : db'.steps = db.steps ++ [{ record := step }])
      (hpositive : 0 < step.number) (hid : ∀ row ∈ db.steps, row.record.id ≠ step.id)
      (hnumber : ∀ row ∈ db.steps, row.record.projectId = step.projectId →
        row.record.number ≠ step.number)

namespace Restocked

/-- Where steps are the same, a catalog is restocked. -/
theorem of_steps (h : db'.steps = db.steps) : db.Restocked db' :=
  .kept (h ▸ List.Sublist.refl _)

/-- Where steps have the same keys, a catalog is restocked. -/
theorem of_keys (h : db'.steps.map (·.record.keys) = db.steps.map (·.record.keys)) :
    db.Restocked db' :=
  .kept (h ▸ List.Sublist.refl _)

end Restocked

/-- Every statement restocks catalogs. -/
theorem restocked_of_statement {statement : Statement} (h : statement.run db = .ok db') :
    db.Restocked db' := by
  cases statement with
  | insertProject p =>
    obtain ⟨-, -, -, rfl⟩ := insertProject_eq_ok_iff.1 h
    exact .of_steps rfl
  | insertIssue issue =>
    obtain ⟨-, -, -, rfl⟩ := insertIssue_eq_ok h
    exact .of_steps rfl
  | countIssue projectId now =>
    rw [countIssue_eq_ok h]
    exact .of_steps rfl
  | insertStep step =>
    -- This is the one statement that adds a step, and it checks what the catalog needs.
    obtain ⟨hpositive, hnumber, hid, -, rfl⟩ := insertStep_eq_ok h
    exact .added rfl hpositive hid hnumber
  | assignStep stepId agent now =>
    obtain ⟨-, rfl⟩ := assignStep_eq_ok_iff.1 h
    -- Another agent leaves the keys of the step.
    exact .of_keys (map_changed fun _ => rfl)
  | putGate issueId projectId gate now =>
    obtain ⟨-, -, rfl⟩ := putCursor_eq_ok_iff.1 h
    exact .of_steps rfl
  | clearCursor issueId now =>
    obtain ⟨-, rfl⟩ := clearCursor_eq_ok_iff.1 h
    exact .of_steps rfl
  | moveCursor issueId projectId update now =>
    obtain ⟨-, -, rfl⟩ := putCursor_eq_ok_iff.1 h
    exact .of_steps rfl
  | appendEntry draft =>
    obtain ⟨⟨entry, db'⟩, happend, rfl⟩ := map_eq_ok_iff.1 h
    obtain ⟨-, -, -, -, rfl⟩ := appendEntry_eq_ok_iff.1 happend
    exact .of_steps rfl
  | setWorkStatus issueId status now =>
    obtain ⟨-, -, rfl⟩ := setWorkStatus_eq_ok_iff.1 h
    exact .of_steps rfl
  | appendEvent actor now draft =>
    obtain ⟨-, -, hdone⟩ := bind_eq_ok_iff.1 h
    cases hdone
    exact .of_steps rfl

/-- Removing issues removes no step. -/
theorem steps_removeIssues {p : Issue → Bool} (h : db.removeIssues p = .ok db') :
    db'.steps = db.steps := by
  obtain ⟨-, cursors, rfl⟩ := removeIssues_eq_ok h
  rfl

/-- Every removal restocks catalogs. -/
theorem restocked_of_strike {strike : Strike} (h : db.strike strike = .ok db') :
    db.Restocked db' := by
  cases strike with
  | projects p =>
    obtain ⟨db₁, hremove, hdone⟩ := bind_eq_ok_iff.1 h
    cases hdone
    exact .kept (steps_removeIssues hremove ▸ List.filter_sublist.map _)
  | issues p => exact .of_steps (steps_removeIssues h)
  | steps p =>
    cases h
    exact .kept (List.filter_sublist.map _)
  | entries p | rewrite p f =>
    obtain ⟨-, -, hdone⟩ := bind_eq_ok_iff.1 h
    cases hdone
    exact .of_steps rfl

/-- Updating issues updates no step. -/
theorem steps_updateIssues {id : String} {f : Row Issue → Row Issue} {count : Nat}
    (h : db.updateIssues id f = .ok (count, db')) : db'.steps = db.steps := by
  rw [updateIssues_eq_ok h]

/-- Another word in a closed column restocks catalogs. -/
theorem restocked_of_setClosed {column : ClosedColumn} {id word : String} {isChecked : Bool}
    {count : Nat} (h : db.setClosed column id word isChecked = .ok (count, db')) :
    db.Restocked db' := by
  cases column with
  | workStatus =>
    obtain ⟨⟨count, db'⟩, hwrite, h⟩ := bind_eq_ok_iff.1 h
    obtain ⟨-, -, hdone⟩ := bind_eq_ok_iff.1 h
    cases hdone
    exact .of_steps (steps_updateIssues hwrite)
  | stepKind =>
    obtain ⟨⟨count, db'⟩, hwrite, h⟩ := bind_eq_ok_iff.1 h
    obtain ⟨-, -, hdone⟩ := bind_eq_ok_iff.1 h
    cases hdone
    rw [updateSteps_eq_ok hwrite]
    exact .of_keys (map_changed (record_putWord Step.keys fun _ _ => rfl))
  | gateStatus =>
    obtain ⟨-, -, hdone⟩ := bind_eq_ok_iff.1 h
    cases hdone
    exact .of_steps rfl

/-- Every direct change restocks catalogs. -/
theorem restocked_of_rawWrite {w : RawWrite} {count : Nat} (h : db.rawWrite w = .ok (count, db')) :
    db.Restocked db' := by
  cases w with
  | deleteProject id =>
    obtain ⟨db₁, hremove, hdone⟩ := bind_eq_ok_iff.1 h
    cases hdone
    exact .kept (steps_removeIssues hremove ▸ List.filter_sublist.map _)
  | deleteIssue id =>
    obtain ⟨db₁, hremove, hdone⟩ := bind_eq_ok_iff.1 h
    cases hdone
    exact .of_steps (steps_removeIssues hremove)
  | deleteStep id =>
    cases h
    exact .kept (List.filter_sublist.map _)
  | deleteHistory issueId | updateHistory issueId =>
    obtain ⟨-, -, hdone⟩ := bind_eq_ok_iff.1 h
    cases hdone
    exact .of_steps rfl
  | clearShortId issueId => exact .of_steps (steps_updateIssues h)
  | forceShortId issueId shortId =>
    have hsame := steps_updateIssues h
    exact .of_steps hsame
  | setClosed column id word isChecked => exact restocked_of_setClosed h
  | setEventKind _ _ | block _ | unblock =>
    cases h
    exact .of_steps rfl

/-! ### Catalogued databases -/

/-- Steps have identifiers of their own, and numbers of their own in each project. -/
structure Catalogued (db : Database) : Prop where
  /-- No two steps share an identifier. -/
  ids : (db.steps.map (·.record.id)).Nodup
  /-- No two steps of a project share a number. -/
  numbers : (db.steps.map fun row => (row.record.projectId, row.record.number)).Nodup
  /-- The numbers of steps are positive. -/
  positive : ∀ row ∈ db.steps, 0 < row.record.number

/-- A new database is catalogued. -/
theorem catalogued_create (now : Int) : (create now).Catalogued := by
  constructor <;> simp [create]

/-- A database that is restocked stays catalogued. -/
theorem Restocked.catalogued (h : db.Restocked db') (hdb : db.Catalogued) : db'.Catalogued := by
  cases h with
  | kept hkeys =>
    have hids := hkeys.map Prod.fst
    have hnumbers := hkeys.map Prod.snd
    rw [List.map_map, List.map_map] at hids hnumbers
    refine ⟨hdb.ids.sublist hids, hdb.numbers.sublist hnumbers, fun row hrow => ?_⟩
    obtain ⟨old, hold, hsame⟩ := List.mem_map.1 (hkeys.subset (List.mem_map_of_mem hrow))
    have hnumber : old.record.number = row.record.number := congrArg (·.2.2) hsame
    exact hnumber ▸ hdb.positive old hold
  | @added step hsteps hpositive hid hnumber =>
    constructor
    · rw [hsteps]
      exact Row.nodup_map_concat hdb.ids hid
    · rw [hsteps]
      refine Row.nodup_map_concat hdb.numbers fun row hrow hsame => ?_
      obtain ⟨hproject, htaken⟩ := Prod.mk.inj hsame
      exact hnumber row hrow hproject htaken
    · rw [hsteps]
      exact List.forall_mem_append.2 ⟨hdb.positive, List.forall_mem_singleton.2 hpositive⟩

/-- A chain of statements keeps a database catalogued. -/
theorem catalogued_of_chain (h : Chain db db') (hdb : db.Catalogued) : db'.Catalogued := by
  induction h with
  | refl => exact hdb
  | tail _ hlast ih =>
    obtain ⟨statement, hstatement⟩ := hlast
    exact (restocked_of_statement hstatement).catalogued ih

/-- Every deed leaves a catalogued database catalogued. -/
theorem catalogued_afterDeed (hdb : db.Catalogued) (deed : Deed) :
    (db.afterDeed deed).Catalogued := by
  cases deed with
  | strike strike =>
    rw [afterDeed, carryOut]
    cases hstrike : db.strike strike with
    | error e => exact hdb
    | ok db' => exact (restocked_of_strike hstrike).catalogued hdb
  | call author op =>
    rw [afterDeed_call]
    by_cases hschema : op = .applySchema
    · subst hschema
      rw [after, perform]
      cases happly : db.applySchema author.stamp.now with
      | error e => exact hdb
      | ok db' =>
        obtain ⟨-, rfl⟩ := applySchema_eq_ok_iff.1 happly
        exact ⟨hdb.ids, hdb.numbers, hdb.positive⟩
    by_cases hraw : ∃ w, op = .raw w
    · obtain ⟨w, rfl⟩ := hraw
      rw [after, perform]
      cases hwrite : db.rawWrite w with
      | error e => exact hdb
      | ok r => exact (restocked_of_rawWrite hwrite).catalogued hdb
    · exact catalogued_of_chain (chain_after hschema fun w hop => hraw ⟨w, hop⟩) hdb

/-- Whatever is done to a database, its steps keep identifiers and numbers of their own. -/
theorem catalogued_afterDeeds (hdb : db.Catalogued) (deeds : List Deed) :
    (db.afterDeeds deeds).Catalogued := by
  induction deeds generalizing db with
  | nil => exact hdb
  | cons deed deeds ih => exact ih (catalogued_afterDeed hdb deed)

/-! ### Catalogs -/

/-- The steps of a project are in the order of their numbers, with no two at one place. -/
theorem Catalogued.isCatalog (h : db.Catalogued) (projectId : String) :
    db.IsCatalog projectId (db.storedCatalog projectId) :=
  isCatalog_of_nodup h.numbers projectId

/-- A catalog is listed iff no kind of its steps is a foreign word, and then it holds the steps as
they are stored. -/
theorem catalog_eq_ok_iff {steps : List Step} :
    db.catalog projectId = .ok steps ↔
      (∀ row ∈ db.steps, row.record.projectId = projectId → row.foreign = none) ∧
        steps = db.storedCatalog projectId := by
  have hrows : (∀ row ∈ db.catalogRows projectId, row.foreign = none) ↔
      ∀ row ∈ db.steps, row.record.projectId = projectId → row.foreign = none := by
    simp only [catalogRows, List.mem_mergeSort, List.mem_filter, beq_iff_eq, and_imp]
  rw [catalog, ← hrows]
  exact Row.mapM_read_eq_ok_iff

end Database

end ReviewPipeline
