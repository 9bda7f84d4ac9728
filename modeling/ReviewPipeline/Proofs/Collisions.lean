import ReviewPipeline.Proofs.Register

/-!
# Projects Under One Prefix

A project without a prefix of its own numbers its issues under the fallback, but only prefixes that
are stored are kept apart. So there can be several projects under the fallback, each with a count of
its own, and an issue can be created in one of them only while no other has counted further. Once
that happened, the project is stuck: its number is counted up by creating an issue, and no issue can
be created under this number any more.

## Main definitions

* `Operation.StartsAtOne`: an operation that enters a project starts its count at one, under no
  prefix or one of letters and digits;
* `Database.Tallied`: every project has numbered its issues, under a prefix of its own if it stores
  one, and nothing is blocked;
* `Database.Outrun`: another project under the same prefix has counted further.

## Main results

* `Database.shortId_taken_iff`: the next short identifier of a project is taken iff the project was
  outrun;
* `Database.outrun_after`: a project that was outrun stays as it is, and outrun;
* `Database.numbering_of_run`: after a run, an issue can be created iff its project was not outrun.
-/

namespace ReviewPipeline

/-- An operation that enters a project starts the count of its issues at one, and gives it no prefix
or one of letters and digits. -/
def Operation.StartsAtOne : Operation → Prop
  | .createProject p =>
    p.nextIssueNumber = 1 ∧ ∀ text, p.issuePrefix = some text → IsIssuePrefix text
  | _ => True

/-- The prefix of projects without one is itself a proper prefix. -/
theorem isIssuePrefix_fallbackPrefix : IsIssuePrefix Project.fallbackPrefix := by
  have hletters : "PIPE".toList.all Text.isAsciiAlphanumeric = true := by decide
  exact ⟨by decide, List.all_eq_true.1 hletters⟩

/-- A project that has a prefix numbers under it. -/
theorem Project.effectivePrefix_of_eq_some {p : Project} {text : String}
    (h : p.issuePrefix = some text) : p.effectivePrefix = text := by
  simp [effectivePrefix, h]

/-- A project without a prefix numbers under the shared one. -/
theorem Project.effectivePrefix_of_eq_none {p : Project} (h : p.issuePrefix = none) :
    p.effectivePrefix = fallbackPrefix := by
  simp [effectivePrefix, h]

namespace Database

variable {db db' : Database} {author : Author} {op : Operation} {reply : Reply} {p q : Project}
  {calls : List (Author × Operation)} {id title : String} {description : Option String}

/-- Every project has numbered its issues under its prefix or the fallback, no two projects store
the same prefix, and no kind of write is blocked. -/
structure Tallied (db : Database) : Prop extends Consistent db where
  /-- Prefixes are of letters and digits. -/
  prefixes : ∀ p ∈ db.projects, IsIssuePrefix p.effectivePrefix
  /-- No two projects store the same prefix. -/
  storedDistinct : ∀ p ∈ db.projects, ∀ q ∈ db.projects, p.issuePrefix.isSome →
    p.issuePrefix = q.issuePrefix → p = q
  /-- The issues of a project are numbered in the order in which they were created. -/
  numbers : db.CountsIssues
  /-- Nothing is blocked. -/
  permitted : db.blocked = none
  /-- Short identifiers are kept unique. -/
  uniqueShortIds : db.uniqueShortIds = true

/-- Another project under the same prefix has counted further. -/
def Outrun (db : Database) (p : Project) : Prop :=
  ∃ q ∈ db.projects, q.effectivePrefix = p.effectivePrefix ∧ p.nextIssueNumber < q.nextIssueNumber

/-- How projects number their issues side by side. -/
structure Numbering (db : Database) : Prop where
  /-- An issue of a project that was not outrun can be created, under a short identifier that no
  other issue has. -/
  creates : ∀ author p title description, p ∈ db.projects →
    (db.rows.shortIdsOf p.id).length < 2147483647 →
    (∀ row ∈ db.issues, row.record.id ≠ author.stamp.identifier "issue") → ¬ db.Outrun p →
    ∃ issue next, db.createIssue author p.id title description = .ok (issue, next) ∧
      issue.shortId = some p.nextShortId ∧ ∀ row ∈ db.issues, row.record.shortId ≠ issue.shortId
  /-- No issue of a project that was outrun can be created, nor after whatever else is done. -/
  stuck : ∀ p ∈ db.projects, (db.rows.shortIdsOf p.id).length < 2147483647 → db.Outrun p →
    ∀ more : List (Author × Operation),
      (∀ call ∈ more, call.2.isRegular = true ∧ call.2.StartsAtOne) →
      ∀ author title description, (db.run more).2.createIssue author p.id title description =
        .error (.database (.notUnique "issues.short_id"))
  /-- A project is outrun under the fallback only, by another one, and one of the two stores no
  prefix. -/
  fallback : ∀ p ∈ db.projects, db.Outrun p → p.effectivePrefix = Project.fallbackPrefix ∧
    ∃ q ∈ db.projects, q ≠ p ∧ q.effectivePrefix = Project.fallbackPrefix ∧
      (p.issuePrefix = none ∨ q.issuePrefix = none)
  /-- A project is entered iff its identifier is new, and its prefix is, if it stores one. -/
  enters : ∀ author p, ((∃ next, db.createProject author p = .ok ((), next)) ↔
    (∀ q ∈ db.projects, q.id ≠ p.id) ∧
      ∀ q ∈ db.projects, p.issuePrefix.isSome → q.issuePrefix ≠ p.issuePrefix)

/-! ### Runs keep a database tallied -/

/-- A new database is tallied. -/
theorem tallied_create (now : Int) : (create now).Tallied :=
  { (admitted_create now).toConsistent with
    prefixes := by simp [create]
    storedDistinct := by simp [create]
    numbers := by simp [create, CountsIssues]
    permitted := rfl
    uniqueShortIds := rfl }

namespace Tallied

/-- What leaves the register alone leaves a database tallied. -/
theorem of_sameRegister (h : db.Tallied) (hsame : db.SameRegister db') (hdb : db'.Consistent) :
    db'.Tallied where
  toConsistent := hdb
  prefixes := hsame.projects ▸ h.prefixes
  storedDistinct := hsame.projects ▸ h.storedDistinct
  numbers := h.numbers.of_labels hsame.projects hsame.labels
  permitted := hsame.blocked.trans h.permitted
  uniqueShortIds := hsame.uniqueShortIds h.uniqueShortIds

/-- A new project has no issue yet, and its prefix is new if it stores one. -/
theorem withProject (h : db.Tallied) (hid : ∀ q ∈ db.projects, q.id ≠ p.id)
    (hprefixes : ∀ q ∈ db.projects, p.issuePrefix.isSome → q.issuePrefix ≠ p.issuePrefix)
    (hstarts : (Operation.createProject p).StartsAtOne) :
    { db with projects := db.projects ++ [p] : Database }.Tallied where
  toConsistent :=
    h.toConsistent.withProjects (Row.nodup_map_concat h.projectIds hid) fun q hq =>
      ⟨q, List.mem_append_left _ hq, rfl⟩
  prefixes := by
    refine List.forall_mem_append.2 ⟨h.prefixes, List.forall_mem_singleton.2 ?_⟩
    cases hstored : p.issuePrefix with
    | none =>
      rw [Project.effectivePrefix_of_eq_none hstored]
      exact isIssuePrefix_fallbackPrefix
    | some text =>
      rw [Project.effectivePrefix_of_eq_some hstored]
      exact hstarts.2 text hstored
  storedDistinct := by
    intro q hq r hr hsome hsame
    -- Both are old, or one of them is new, or both are.
    rcases List.mem_append.1 hq with hold | hnew <;> rcases List.mem_append.1 hr with hold' | hnew'
    · exact h.storedDistinct q hold r hold' hsome hsame
    · obtain rfl := List.mem_singleton.1 hnew'
      exact absurd hsame (hprefixes q hold (hsame ▸ hsome))
    · obtain rfl := List.mem_singleton.1 hnew
      exact absurd hsame.symm (hprefixes r hold' hsome)
    · rw [List.mem_singleton.1 hnew, List.mem_singleton.1 hnew']
  numbers := h.numbers.withProject h.toConsistent hid hstarts.1
  permitted := h.permitted
  uniqueShortIds := h.uniqueShortIds

/-- A new issue has the next number of its project, and the one after it becomes the next. -/
theorem withIssue (h : db.Tallied) {issue : Issue} {now : Int} (hp : p ∈ db.projects)
    (hid : ∀ row ∈ db.issues, row.record.id ≠ issue.id) (hproject : issue.projectId = p.id)
    (hshort : issue.shortId = some p.nextShortId) :
    { db with
      issues := db.issues ++ [{ record := issue }]
      projects := db.projectsCounted p.id now : Database }.Tallied where
  toConsistent := (h.toConsistent.withIssue hid ⟨p, hp, hproject.symm⟩).withProjectsCounted
  prefixes := by
    intro q hq
    rcases (mem_projectsCounted h.toConsistent hp).1 hq with ⟨hold, -⟩ | rfl
    · exact h.prefixes q hold
    · exact h.prefixes p hp
  storedDistinct := by
    intro q hq r hr hsome hsame
    rcases (mem_projectsCounted h.toConsistent hp).1 hq with ⟨hq, hother⟩ | rfl <;>
      rcases (mem_projectsCounted h.toConsistent hp).1 hr with ⟨hr, hother'⟩ | rfl
    · exact h.storedDistinct q hq r hr hsome hsame
    · exact absurd (congrArg Project.id (h.storedDistinct q hq p hp hsome hsame)) hother
    · exact absurd (congrArg Project.id (h.storedDistinct p hp r hr hsome hsame)).symm hother'
    · rfl
  numbers := h.numbers.withIssue h.toConsistent hp hproject hshort
  permitted := h.permitted
  uniqueShortIds := h.uniqueShortIds

end Tallied

/-- An operation keeps a database tallied. -/
theorem Registered.tallied (h : Registered db author op db') (hdb : db.Tallied)
    (hstarts : op.StartsAtOne) (hafter : db'.Consistent) : db'.Tallied := by
  cases h with
  | project hid hprefixes hsame =>
    exact (hdb.withProject hid hprefixes hstarts).of_sameRegister hsame hafter
  | issue hproject hissue hid hshort hsame =>
    subst hissue
    have hp := (project_eq_ok hproject).1
    exact (hdb.withIssue hp hid rfl rfl).of_sameRegister hsame hafter
  | neither hop hsame => exact hdb.of_sameRegister hsame hafter

/-- A regular operation leaves a database tallied, if it creates projects that start at one. -/
theorem tallied_after (hdb : db.Tallied) (hregular : op.isRegular = true)
    (hstarts : op.StartsAtOne) (author : Author) : (db.after author op).Tallied := by
  have hafter := consistent_after_of_regular hdb.toConsistent hregular author
  rcases registered_cases hdb.toConsistent hregular author with ⟨_, -, hsame⟩ | ⟨_, -, hentered⟩
  · rwa [hsame]
  · exact hentered.tallied hdb hstarts hafter

/-- A run of regular operations leaves a database tallied, if projects start at one. -/
theorem tallied_run (hdb : db.Tallied)
    (hcalls : ∀ call ∈ calls, call.2.isRegular = true ∧ call.2.StartsAtOne) :
    (db.run calls).2.Tallied := by
  induction calls generalizing db with
  | nil => exact hdb
  | cons call calls ih =>
    obtain ⟨⟨hregular, hstarts⟩, hrest⟩ := List.forall_mem_cons.1 hcalls
    exact ih (tallied_after hdb hregular hstarts call.1) hrest

/-! ### Short identifiers that are taken -/

/-- A short identifier that is taken was given out by a project under the same prefix, which has
counted past its number; and such a project has given it out. -/
theorem shortId_taken_iff (hdb : db.Tallied) (hp : p ∈ db.projects) :
    (∃ row ∈ db.issues, row.record.shortId = some p.nextShortId) ↔ db.Outrun p := by
  obtain ⟨count, hnext, -⟩ := hdb.numbers p hp
  rw [Project.nextShortId_eq hnext]
  constructor
  · rintro ⟨row, hrow, hshort⟩
    obtain ⟨q, hq, -, n, hgiven, hbelow⟩ := hdb.numbers.exists_shortId hdb.toConsistent hrow
    obtain ⟨hprefixed, hsame⟩ := Project.shortId_injective (hdb.prefixes q hq)
      (Option.some.inj (hgiven.symm.trans hshort))
    exact ⟨q, hq, hprefixed, by omega⟩
  · rintro ⟨q, hq, hprefixed, hfurther⟩
    obtain ⟨further, hnext', hnumbers⟩ := hdb.numbers q hq
    have hmem : some (q.shortId (count + 1)) ∈ db.rows.shortIdsOf q.id := by
      rw [hnumbers]
      exact List.mem_map_of_mem (f := fun n => some (q.shortId (n + 1)))
        (List.mem_range.2 (by omega))
    obtain ⟨row, hrow, hshort⟩ := List.mem_map.1 hmem
    refine ⟨row, List.mem_of_mem_filter hrow, ?_⟩
    rw [hshort, Project.shortId, Project.shortId, hprefixed]

/-- A database where nothing is blocked permits every write. -/
theorem permit_eq_ok (h : db.blocked = none) (kind : WriteKind) : db.permit kind = .ok () := by
  rw [permit_eq_ok_iff, h]
  exact nofun

/-- While nothing is blocked, a project is counted up. -/
theorem countIssue_eq (h : db.blocked = none) (now : Int) :
    db.countIssue id now = .ok { db with projects := db.projectsCounted id now } := by
  simp only [countIssue, permit_eq_ok h]
  split <;> rfl

/-- An issue is inserted under identifiers that are free. -/
theorem insertIssue_eq (hdb : db.Tallied) {issue : Issue} (hproject : db.hasProject issue.projectId)
    (hid : ∀ row ∈ db.issues, row.record.id ≠ issue.id)
    (hfree : ∀ row ∈ db.issues, row.record.shortId ≠ issue.shortId) :
    db.insertIssue issue = .ok { db with issues := db.issues ++ [{ record := issue }] } := by
  have hnone : (db.uniqueShortIds && db.issues.any fun row =>
      issue.shortId.isSome && row.record.shortId == issue.shortId) = false := by
    simpa [hdb.uniqueShortIds] using fun row hrow _ => hfree row hrow
  have hnew : db.hasIssue issue.id = false := by
    simpa [hasIssue] using hid
  simp only [insertIssue, permit_eq_ok hdb.permitted, hnone, hnew, hproject]
  rfl

/-- An issue is refused under a short identifier that is taken. -/
theorem insertIssue_eq_error (hdb : db.Tallied) {issue : Issue} (hsome : issue.shortId.isSome)
    (htaken : ∃ row ∈ db.issues, row.record.shortId = issue.shortId) :
    db.insertIssue issue = .error (.database (.notUnique "issues.short_id")) := by
  have hany : (db.uniqueShortIds && db.issues.any fun row =>
      issue.shortId.isSome && row.record.shortId == issue.shortId) = true := by
    simpa [hdb.uniqueShortIds, hsome] using htaken
  simp only [insertIssue, permit_eq_ok hdb.permitted, hany]
  rfl

/-- An issue of a project that can be read is created under a free short identifier. -/
theorem createIssue_eq_ok (hdb : db.Tallied) (hproject : db.project id = .ok p)
    (hid : ∀ row ∈ db.issues, row.record.id ≠ author.stamp.identifier "issue")
    (hfree : ∀ row ∈ db.issues, row.record.shortId ≠ some p.nextShortId) :
    ∃ next, db.createIssue author id title description =
      .ok (Issue.create author.stamp p.id p.nextShortId title description, next) := by
  let issue := Issue.create author.stamp p.id p.nextShortId title description
  let inserted : Database := { db with issues := db.issues ++ [{ record := issue }] }
  have hthere : db.hasProject p.id = true :=
    List.any_eq_true.2 ⟨p, (project_eq_ok hproject).1, beq_self_eq_true _⟩
  have hinsert : db.insertIssue issue = .ok inserted := insertIssue_eq hdb hthere hid hfree
  have hcount : inserted.countIssue p.id author.stamp.now =
      .ok { inserted with projects := db.projectsCounted p.id author.stamp.now } := by
    have hopen : inserted.blocked = none := hdb.permitted
    exact countIssue_eq hopen author.stamp.now
  have hevents : db.blocked ≠ some .eventInsert := by simp [hdb.permitted]
  exact ⟨_, bind_eq_ok_iff.2 ⟨p, hproject, bind_eq_ok_iff.2 ⟨inserted, hinsert, bind_eq_ok_iff.2
    ⟨_, hcount, commit_eq_ok_iff.2 ⟨fun _ => hevents, rfl, rfl⟩⟩⟩⟩⟩

/-- An issue is refused under a short identifier that is taken. -/
theorem createIssue_eq_error (hdb : db.Tallied) (hproject : db.project id = .ok p)
    (htaken : ∃ row ∈ db.issues, row.record.shortId = some p.nextShortId) :
    db.createIssue author id title description =
      .error (.database (.notUnique "issues.short_id")) := by
  let issue := Issue.create author.stamp p.id p.nextShortId title description
  have hinsert : db.insertIssue issue = .error (.database (.notUnique "issues.short_id")) :=
    insertIssue_eq_error hdb rfl htaken
  exact bind_eq_error_iff.2 (.inr ⟨p, hproject, bind_eq_error_iff.2 (.inl hinsert)⟩)

/-- A project is entered iff its identifier is new, and its prefix is, if it stores one. -/
theorem createProject_eq_ok_iff (hopen : db.blocked = none) :
    (∃ next, db.createProject author p = .ok ((), next)) ↔
      (∀ q ∈ db.projects, q.id ≠ p.id) ∧
        ∀ q ∈ db.projects, p.issuePrefix.isSome → q.issuePrefix ≠ p.issuePrefix := by
  constructor
  · rintro ⟨next, hok⟩
    cases createProject_called hok with
    | createProject hid hprefixes => exact ⟨hid, hprefixes⟩
  · rintro ⟨hid, hprefixes⟩
    have hinserts : db.blocked ≠ some .projectInsert := by simp [hopen]
    have hinsert := insertProject_eq_ok_iff.2 ⟨hinserts, hprefixes, hid, rfl⟩
    have hevents : db.blocked ≠ some .eventInsert := by simp [hopen]
    have hfree : ∀ text, p.issuePrefix = some text → db.prefixOwner? text = none := by
      intro text htext
      refine Option.map_eq_none_iff.2 (List.find?_eq_none.2 fun q hq hsame => ?_)
      exact hprefixes q hq (by rw [htext]; rfl) (by rw [htext]; simpa using hsame)
    -- Whether the project stores a prefix or not, what is left to do is the same.
    obtain ⟨next, hrest⟩ : ∃ next, (db.insertProject p >>= fun inserted => Change.commit
        ⟨(), [{ entityType := "project", entityId := p.id, kind := .projectCreated }], inserted⟩
        author) = .ok ((), next) :=
      ⟨_, bind_eq_ok_iff.2 ⟨_, hinsert, commit_eq_ok_iff.2 ⟨fun _ => hevents, rfl, rfl⟩⟩⟩
    refine ⟨next, ?_⟩
    unfold createProject
    split
    · next text htext =>
      rw [hfree text htext]
      exact hrest
    · exact hrest

/-! ### Projects that are stuck -/

/-- A project that was outrun stays as it is, and outrun. -/
theorem outrun_after (hdb : db.Tallied) (hp : p ∈ db.projects) (houtrun : db.Outrun p)
    (hregular : op.isRegular = true) (author : Author) :
    p ∈ (db.after author op).projects ∧ (db.after author op).Outrun p := by
  obtain ⟨q, hq, hprefixed, hfurther⟩ := houtrun
  rcases registered_cases hdb.toConsistent hregular author with ⟨_, -, hsame⟩ | ⟨_, -, hentered⟩
  · rw [hsame]
    exact ⟨hp, q, hq, hprefixed, hfurther⟩
  · cases hentered with
    | project hid hprefixes hsame =>
      rw [Outrun, hsame.projects]
      exact ⟨List.mem_append_left _ hp, q, List.mem_append_left _ hq, hprefixed, hfurther⟩
    | @issue _ _ _ r _ _ hproject hissue _ hshort hsame =>
      have hr := (project_eq_ok hproject).1
      -- The project did not get the issue, for its next short identifier is taken.
      have hother : p.id ≠ r.id := by
        intro howner
        obtain rfl := List.inj_on_of_nodup_map hdb.projectIds hp hr howner
        obtain ⟨row, hrow, htaken⟩ := (shortId_taken_iff hdb hp).2 ⟨q, hq, hprefixed, hfurther⟩
        exact hshort hdb.uniqueShortIds row hrow (by rw [htaken, hissue]; rfl)
      rw [Outrun, hsame.projects]
      refine ⟨(mem_projectsCounted hdb.toConsistent hr).2 (.inl ⟨hp, hother⟩), ?_⟩
      by_cases howner : q.id = r.id
      · obtain rfl := List.inj_on_of_nodup_map hdb.projectIds hq hr howner
        refine ⟨_, (mem_projectsCounted hdb.toConsistent hr).2 (.inr rfl), hprefixed, ?_⟩
        rw [counted_nextIssueNumber]
        omega
      · exact ⟨q, (mem_projectsCounted hdb.toConsistent hr).2 (.inl ⟨hq, howner⟩), hprefixed,
          hfurther⟩
    | neither hop hsame =>
      rw [Outrun, hsame.projects]
      exact ⟨hp, q, hq, hprefixed, hfurther⟩

/-- A project that is outrun stays so over every run. -/
theorem outrun_run (hdb : db.Tallied) (hp : p ∈ db.projects) (houtrun : db.Outrun p)
    (hcalls : ∀ call ∈ calls, call.2.isRegular = true ∧ call.2.StartsAtOne) :
    p ∈ (db.run calls).2.projects ∧ (db.run calls).2.Outrun p := by
  -- A tallied database stays so, which is what keeps the other project ahead.
  induction calls generalizing db with
  | nil => exact ⟨hp, houtrun⟩
  | cons call calls ih =>
    obtain ⟨⟨hregular, hstarts⟩, hrest⟩ := List.forall_mem_cons.1 hcalls
    obtain ⟨hp, houtrun⟩ := outrun_after hdb hp houtrun hregular call.1
    exact ih (tallied_after hdb hregular hstarts call.1) hp houtrun hrest

/-- A project with less than 2147483647 issues can be read. -/
theorem project_eq_ok_of_length (hdb : db.Tallied) (hp : p ∈ db.projects)
    (hlength : (db.rows.shortIdsOf p.id).length < 2147483647) : db.project p.id = .ok p := by
  obtain ⟨count, hnext, hnumbers⟩ := hdb.numbers p hp
  rw [hnumbers, List.length_map, List.length_range] at hlength
  have hfits : fitsInt32 p.nextIssueNumber = true := by
    simp only [fitsInt32, Bool.and_eq_true, decide_eq_true_eq]
    omega
  exact (project_eq_ok_iff hdb.toConsistent).2 ⟨hp, rfl, hfits⟩

/-- A tallied database numbers its issues as the specification says. -/
theorem Tallied.numbering (hdb : db.Tallied) : db.Numbering where
  creates author p title description hp hlength hid hfirst := by
    -- A taken short identifier is that of a project which was outrun.
    have hfree : ∀ row ∈ db.issues, row.record.shortId ≠ some p.nextShortId := by
      intro row hrow htaken
      exact hfirst ((shortId_taken_iff hdb hp).1 ⟨row, hrow, htaken⟩)
    obtain ⟨next, hok⟩ :=
      createIssue_eq_ok hdb (project_eq_ok_of_length hdb hp hlength) hid hfree
    exact ⟨_, next, hok, rfl, hfree⟩
  stuck p hp hlength houtrun more hmore author title description := by
    -- Being outrun is kept by whatever follows, and so is being refused.
    obtain ⟨hp', houtrun'⟩ := outrun_run hdb hp houtrun hmore
    have hdb' := tallied_run hdb hmore
    have hfits := ((project_eq_ok_iff hdb.toConsistent).1
      (project_eq_ok_of_length hdb hp hlength)).2.2
    exact createIssue_eq_error hdb' ((project_eq_ok_iff hdb'.toConsistent).2 ⟨hp', rfl, hfits⟩)
      ((shortId_taken_iff hdb' hp').2 houtrun')
  fallback p hp houtrun := by
    obtain ⟨q, hq, hprefixed, hfurther⟩ := houtrun
    have hother : q ≠ p := by
      rintro rfl
      omega
    -- Stored prefixes are distinct, so one of the two projects has none.
    have hone : p.issuePrefix = none ∨ q.issuePrefix = none := by
      by_contra hboth
      obtain ⟨hp', hq'⟩ := not_or.1 hboth
      obtain ⟨text, htext⟩ := Option.ne_none_iff_exists'.1 hp'
      obtain ⟨text', htext'⟩ := Option.ne_none_iff_exists'.1 hq'
      rw [Project.effectivePrefix_of_eq_some htext,
        Project.effectivePrefix_of_eq_some htext'] at hprefixed
      refine hother (hdb.storedDistinct q hq p hp (by simp [htext']) ?_)
      rw [htext, htext', hprefixed]
    have hfallback : p.effectivePrefix = Project.fallbackPrefix := by
      rcases hone with hnone | hnone
      · exact Project.effectivePrefix_of_eq_none hnone
      · exact hprefixed.symm.trans (Project.effectivePrefix_of_eq_none hnone)
    exact ⟨hfallback, q, hq, hother, hprefixed.trans hfallback, hone⟩
  enters author p := createProject_eq_ok_iff hdb.permitted

/-- After any run from a new database in which projects start to count at one, an issue can be
created iff its project was not outrun, and a project that was outrun stays stuck. -/
theorem numbering_of_run (created : Int) (calls : List (Author × Operation))
    (hcalls : ∀ call ∈ calls, call.2.isRegular = true ∧ call.2.StartsAtOne) :
    ((create created).run calls).2.Numbering :=
  (tallied_run (tallied_create created) hcalls).numbering

/-- Two projects without a prefix, and an issue of the first. -/
def fallbackRun : List (Author × Operation) :=
  let author (n : Nat) : Author := ⟨"tester", ⟨1700000000000 + 1000 * n, n⟩⟩
  [ (author 1, .createProject
      { Project.create (author 1).stamp "Docs" "ws" with issuePrefix := none }),
    (author 2, .createProject
      { Project.create (author 2).stamp "Garden" "ws" with issuePrefix := none }),
    (author 3, .createIssue "proj_00000001-400" "first" none) ]

/-- Each operation of this run succeeds, and then no issue of the second project can be created, not
even its first. -/
theorem not_created_fallbackRun :
    (∀ call ∈ fallbackRun, call.2.isRegular = true ∧ call.2.StartsAtOne) ∧
      (((create 1700000000000).run fallbackRun).1.all fun answer => answer.isOk) = true ∧
      (∃ p ∈ ((create 1700000000000).run fallbackRun).2.projects,
        p.id = "proj_00000002-400" ∧ p.nextIssueNumber = 1) ∧
      (∀ row ∈ ((create 1700000000000).run fallbackRun).2.issues,
        row.record.id ≠ "issue_00000004-400") ∧
      (((create 1700000000000).run fallbackRun).2.createIssue ⟨"tester", ⟨1700000004000, 4⟩⟩
        "proj_00000002-400" "weeds" none).map (·.1) =
        .error (.database (.notUnique "issues.short_id")) := by
  refine ⟨?_, by decide +kernel, by decide +kernel, by decide +kernel, by decide +kernel⟩
  simp [fallbackRun, Operation.isRegular, Operation.StartsAtOne, Project.create]

/-- After this run, the second project was outrun by the first, so that it is stuck. -/
theorem numbering_fallbackRun :
    (∀ call ∈ fallbackRun, call.2.isRegular = true ∧ call.2.StartsAtOne) ∧
      ((create 1700000000000).run fallbackRun).2.Numbering ∧
      ∃ p ∈ ((create 1700000000000).run fallbackRun).2.projects,
        p.id = "proj_00000002-400" ∧ ((create 1700000000000).run fallbackRun).2.Outrun p := by
  have hcalls : ∀ call ∈ fallbackRun, call.2.isRegular = true ∧ call.2.StartsAtOne := by
    simp [fallbackRun, Operation.isRegular, Operation.StartsAtOne, Project.create]
  refine ⟨hcalls, numbering_of_run 1700000000000 fallbackRun hcalls, ?_⟩
  unfold Outrun
  decide +kernel

end Database

end ReviewPipeline
