import ReviewPipeline.Proofs.ShortIds
import ReviewPipeline.Proofs.Upkeep

/-!
# The Register of Projects and Issues

Projects and issues are entered by two operations, and nothing but a direct change of a table
removes one or gives it another identifier. `Registered` says once what an operation does to the
register: to the projects, and to what issues are found by. Everything else that operations do is
out of its sight, and `SameRegister` says that nothing else was done.

## Main definitions

* `Database.SameRegister`: two databases have the same projects, and their issues are found alike;
* `Database.Registered`: an operation enters a project, or an issue, or neither.

## Main results

* `Database.registered_cases`: an operation that is no direct change of a table fails or is a case
  of `Registered`;
* `Database.project_eq_ok_iff`: a project is found iff it is there and its number can be read.
-/

namespace ReviewPipeline

/-- Whether an operation enters a project or an issue. -/
def Operation.isEntering : Operation → Bool
  | .createProject _ | .createIssue _ _ _ => true
  | _ => false

namespace Database

variable {db db' db'' : Database} {author : Author} {op : Operation} {reply : Reply} {p q : Project}

/-- The projects are the same, and so is everything that issues are found by. No kind of write
became blocked or unblocked, short identifiers stay unique, and no event of an unknown kind was
written. -/
structure SameRegister (db db' : Database) : Prop where
  /-- The projects are the same. -/
  projects : db'.projects = db.projects
  /-- Issues have the same identifiers and are in the same projects. -/
  labels : db'.issues.map (·.record.labels) = db.issues.map (·.record.labels)
  /-- What is blocked stays blocked, and nothing else is. -/
  blocked : db'.blocked = db.blocked
  /-- Short identifiers are kept unique if they were before. -/
  uniqueShortIds : db.uniqueShortIds = true → db'.uniqueShortIds = true
  /-- The kinds of events are known ones if they were before. -/
  eventWords : (∀ row ∈ db.events, row.foreign = none) → ∀ row ∈ db'.events, row.foreign = none

namespace SameRegister

/-- A database has the same register as itself. -/
protected theorem refl (db : Database) : db.SameRegister db where
  projects := rfl
  labels := rfl
  blocked := rfl
  uniqueShortIds := id
  eventWords := id

/-- Having the same register is transitive. -/
protected theorem trans (h : db.SameRegister db') (h' : db'.SameRegister db'') :
    db.SameRegister db'' where
  projects := h'.projects.trans h.projects
  labels := h'.labels.trans h.labels
  blocked := h'.blocked.trans h.blocked
  uniqueShortIds := h'.uniqueShortIds ∘ h.uniqueShortIds
  eventWords := h'.eventWords ∘ h.eventWords

end SameRegister

/-! ### Writes out of sight -/

/-- The rows of noted events hold nothing foreign. -/
theorem foreign_of_mem_eventRows {last : Int} {drafts : List EventDraft} {row : Row Event}
    (h : row ∈ eventRows author last drafts) : row.foreign = none := by
  induction drafts generalizing last with
  | nil => cases h
  | cons draft drafts ih =>
    rcases List.mem_cons.1 h with rfl | hrest
    · rfl
    · exact ih hrest

/-- Noting events leaves the register alone. -/
theorem sameRegister_noting (db : Database) (author : Author) (drafts : List EventDraft) :
    db.SameRegister (db.noting author drafts) :=
  { SameRegister.refl db with
    eventWords := fun h =>
      List.forall_mem_append.2 ⟨h, fun _ hrow => foreign_of_mem_eventRows hrow⟩ }

/-- A transition leaves the register alone. -/
theorem sameRegister_transitioned (db : Database) (author : Author) (issue : Issue)
    (t : Transition) : db.SameRegister (db.transitioned author issue t) where
  projects := rfl
  labels := map_labels_issuesAfter
  blocked := rfl
  uniqueShortIds := id
  eventWords := fun h =>
    List.forall_mem_append.2 ⟨h, fun _ hrow => foreign_of_mem_eventRows hrow⟩

/-- A single write enters nothing. -/
theorem sameRegister_of_singleWrite {now : Int} {w : SingleWrite}
    {change : Change (Option LedgerEntry)} (h : db.singleWrite now w = .ok change) :
    db.SameRegister change.db := by
  cases w with
  | moveCursor issueId projectId update =>
    simp only [singleWrite, bind_eq_ok_iff, moveCursor, putCursor_eq_ok_iff, pure, Except.pure,
      Except.ok.injEq] at h
    obtain ⟨_, ⟨-, -, rfl⟩, rfl⟩ := h
    exact { SameRegister.refl db with }
  | appendEntry draft =>
    obtain ⟨⟨entry, next⟩, happend, hdone⟩ := bind_eq_ok_iff.1 h
    cases hdone
    obtain ⟨-, -, -, -, rfl⟩ := appendEntry_eq_ok_iff.1 happend
    exact { SameRegister.refl db with }
  | setWorkStatus issueId status =>
    simp only [singleWrite, bind_eq_ok_iff, setWorkStatus_eq_ok_iff, pure, Except.pure,
      Except.ok.injEq] at h
    obtain ⟨_, ⟨-, -, rfl⟩, rfl⟩ := h
    -- Another status leaves the labels of the issue.
    have hlabels : (db.issuesMarked issueId status now).map (·.record.labels) =
        db.issues.map (·.record.labels) :=
      Row.map_changeAt (g := fun issue => { issue with workStatus := status, updatedAt := now })
        (fun _ => rfl) fun _ => rfl
    exact { SameRegister.refl db with labels := hlabels }
  | note event =>
    cases h
    exact .refl db

/-- Several single writes leave the register alone. -/
theorem sameRegister_of_writeAll {now : Int} {writes : List SingleWrite}
    {change : Change (List (Option LedgerEntry))} (h : db.writeAll now writes = .ok change) :
    db.SameRegister change.db := by
  induction writes generalizing db change with
  | nil =>
    cases h
    exact .refl db
  | cons write writes ih =>
    simp only [writeAll, bind_eq_ok_iff, pure, Except.pure, Except.ok.injEq] at h
    obtain ⟨first, hfirst, rest, hrest, rfl⟩ := h
    have hthen : first.db.SameRegister rest.db := ih hrest
    exact (sameRegister_of_singleWrite hfirst).trans hthen

/-- Applying the schema leaves the register alone. -/
theorem sameRegister_of_applySchema {now : Int} (h : db.applySchema now = .ok db') :
    db.SameRegister db' := by
  obtain ⟨-, rfl⟩ := applySchema_eq_ok_iff.1 h
  exact { SameRegister.refl db with uniqueShortIds := fun _ => rfl }

/-! ### What operations enter -/

/-- What an operation that succeeds does to the register. -/
inductive Registered (db : Database) (author : Author) : Operation → Database → Prop
  /-- A project is entered. -/
  | project {p : Project} {db' : Database} (hid : ∀ q ∈ db.projects, q.id ≠ p.id)
      (hprefixes : ∀ q ∈ db.projects, p.issuePrefix.isSome → q.issuePrefix ≠ p.issuePrefix)
      (h : SameRegister { db with projects := db.projects ++ [p] } db') :
      Registered db author (.createProject p) db'
  /-- An issue is entered under the next number of its project, which is counted up. -/
  | issue {projectId title : String} {description : Option String} {p : Project} {issue : Issue}
      {db' : Database} (hproject : db.project projectId = .ok p)
      (hissue : issue = Issue.create author.stamp p.id p.nextShortId title description)
      (hid : ∀ row ∈ db.issues, row.record.id ≠ issue.id)
      (hshort : db.uniqueShortIds → ∀ row ∈ db.issues, row.record.shortId ≠ issue.shortId)
      (h : SameRegister
        { db with
          issues := db.issues ++ [{ record := issue }]
          projects := db.projectsCounted p.id author.stamp.now } db') :
      Registered db author (.createIssue projectId title description) db'
  /-- Neither is. -/
  | neither {op : Operation} {db' : Database} (hop : op.isEntering = false)
      (h : SameRegister db db') : Registered db author op db'

/-- A call enters a project, or an issue, or neither. -/
theorem Called.registered (h : Called db author op reply db') : Registered db author op db' := by
  cases h with
  | createProject hid hprefixes => exact .project hid hprefixes (sameRegister_noting _ _ _)
  | createIssue hproject hissue hid hshort =>
    exact .issue hproject hissue hid hshort (sameRegister_noting _ _ _)
  | addStep | restaffStep | recordGate | resetPipeline =>
    refine .neither rfl (SameRegister.trans ?_ (sameRegister_noting _ _ _))
    exact { SameRegister.refl db with }
  | complete | reject => exact .neither rfl (sameRegister_transitioned db _ _ _)

/-- Every operation but a direct change of a table registers what it creates and nothing else. -/
theorem registered_of_perform (hdb : db.Consistent) (hregular : op.isRegular = true)
    (h : db.perform author op = .ok (reply, db')) : Registered db author op db' := by
  cases op with
  | write w =>
    obtain ⟨change, hwrite, hdone⟩ := map_eq_ok_iff.1 h
    cases hdone
    exact .neither rfl (sameRegister_of_singleWrite hwrite)
  | batch writes failure =>
    obtain ⟨entries, h, -⟩ := answer_eq_ok_iff.1 h
    obtain ⟨change, hwrites, rfl⟩ := batch_eq_ok h
    exact .neither rfl ((sameRegister_of_writeAll hwrites).trans (sameRegister_noting _ _ _))
  | applySchema =>
    obtain ⟨_, happlied, hdone⟩ := map_eq_ok_iff.1 h
    cases hdone
    exact .neither rfl (sameRegister_of_applySchema happlied)
  | raw w => cases hregular
  | _ => exact (called_of_perform hdb rfl h).registered

/-- An operation that is no direct change of a table fails and changes nothing, or it succeeds and
is a case of `Registered`. -/
theorem registered_cases (hdb : db.Consistent) (hregular : op.isRegular = true) (author : Author) :
    (∃ e, db.perform author op = .error e ∧ db.after author op = db) ∨
      ∃ reply, db.perform author op = .ok (reply, db.after author op) ∧
        Registered db author op (db.after author op) := by
  cases hperform : db.perform author op with
  | error e => exact .inl ⟨e, rfl, by rw [after, hperform]⟩
  | ok r =>
    have hafter : db.after author op = r.2 := by rw [after, hperform]
    rw [hafter]
    exact .inr ⟨r.1, rfl, registered_of_perform hdb hregular hperform⟩

/-! ### Projects and their numbers -/

/-- A project that has counted another issue. -/
def counted (p : Project) (now : Int) : Project :=
  { p with nextIssueNumber := p.nextIssueNumber + 1, updatedAt := now }

@[simp]
theorem counted_id {now : Int} : (counted p now).id = p.id := rfl

@[simp]
theorem counted_issuePrefix {now : Int} : (counted p now).issuePrefix = p.issuePrefix := rfl

@[simp]
theorem counted_nextIssueNumber {now : Int} :
    (counted p now).nextIssueNumber = p.nextIssueNumber + 1 := rfl

/-- Counting changes the one project and no other. -/
theorem mem_projectsCounted (hdb : db.Consistent) (hp : p ∈ db.projects) {now : Int} :
    q ∈ db.projectsCounted p.id now ↔ (q ∈ db.projects ∧ q.id ≠ p.id) ∨ q = counted p now := by
  constructor
  · intro hq
    obtain ⟨old, hold, rfl⟩ := List.mem_map.1 hq
    by_cases howner : old.id = p.id
    · obtain rfl : old = p := List.inj_on_of_nodup_map hdb.projectIds hold hp howner
      exact .inr (if_pos (beq_self_eq_true _))
    · rw [if_neg (by simpa using howner)]
      exact .inl ⟨hold, howner⟩
  · rintro (⟨hq, howner⟩ | rfl)
    · exact List.mem_map.2 ⟨q, hq, if_neg (by simpa using howner)⟩
    · exact List.mem_map.2 ⟨p, hp, if_pos (beq_self_eq_true _)⟩

/-- A project that is there is read, which its number may forbid. -/
theorem project?_eq (hdb : db.Consistent) (hp : p ∈ db.projects) :
    db.project? p.id = (readProject p).map some := by
  unfold project?
  cases hfind : db.projects.find? fun other => other.id == p.id with
  | none => exact absurd (beq_self_eq_true _) (List.find?_eq_none.1 hfind p hp)
  | some other =>
    have hid : other.id = p.id := by simpa using List.find?_some hfind
    obtain rfl := List.inj_on_of_nodup_map hdb.projectIds (List.mem_of_find?_eq_some hfind) hp hid
    rfl

/-- A project that has no row is not found. -/
theorem project?_eq_none {id : String} (h : ∀ p ∈ db.projects, p.id ≠ id) :
    db.project? id = .ok none := by
  have hfind : db.projects.find? (fun p => p.id == id) = none :=
    List.find?_eq_none.2 fun p hp => by simpa using h p hp
  rw [project?, hfind]

/-- A project is found iff it is there and its number fits into 32 bits. -/
theorem project_eq_ok_iff (hdb : db.Consistent) {id : String} :
    db.project id = .ok p ↔
      p ∈ db.projects ∧ p.id = id ∧ fitsInt32 p.nextIssueNumber = true := by
  constructor
  · intro h
    obtain ⟨hp, rfl⟩ := project_eq_ok h
    refine ⟨hp, rfl, ?_⟩
    rw [Database.project, project?_eq hdb hp, readProject] at h
    by_contra hfits
    rw [if_neg hfits] at h
    cases h
  · rintro ⟨hp, rfl, hfits⟩
    rw [Database.project, project?_eq hdb hp, readProject, if_pos hfits]
    rfl

end Database

end ReviewPipeline
