import ReviewPipeline.Proofs.Calls
import ReviewPipeline.Proofs.Database.Names
import ReviewPipeline.Proofs.Opening

/-!
# Short Identifiers

An issue is called by a short identifier, such as `DOCS-3`: the prefix of its project and its number
in it. Here it is shown that such an identifier is as good as a full one, as long as all projects
come with prefixes of letters and digits and start to count at one.

## Main definitions

* `IsIssuePrefix`: what the prefix of a project looks like;
* `Database.CountsIssues`: every project has numbered its issues;
* `Database.Labelled`: every project has a prefix of its own and has numbered its issues under it;
* `Operation.IsOrderly`: a call that creates a project gives it such a prefix, and starts at one.

## Main results

* `Database.Labelled.nodup_map_shortId`, `Database.Labelled.shortId_ne_id`: no two issues share a
  short identifier, and none is the full identifier of an issue;
* `Database.Called.labelled`: orderly calls keep a database labelled;
* `Database.issue?_shortId`, `Database.issue?_ne_ambiguous`: looking a short identifier up answers
  what looking the full one up does, and no look-up finds two issues.
-/

namespace ReviewPipeline

/-! ### Prefixes and numbers -/

/-- A text that can be the prefix of a project: letters and digits of ASCII, and at least one. -/
def IsIssuePrefix (text : String) : Prop :=
  text ≠ "" ∧ ∀ c ∈ text.toList, Text.isAsciiAlphanumeric c = true

/-- The short identifier that a project gives to its `n`-th issue. -/
def Project.shortId (p : Project) (n : Nat) : String :=
  p.effectivePrefix ++ "-" ++ Text.showNat n

/-- The next short identifier is the one under the next number. -/
theorem Project.nextShortId_eq {p : Project} {n : Nat} (h : p.nextIssueNumber = n + 1) :
    p.nextShortId = p.shortId (n + 1) := by
  rw [nextShortId, h, shortId]
  rfl

/-- Different numbers are written differently. -/
theorem Text.decimal_injective {m n : Nat} (h : decimal m = decimal n) : m = n := by
  simpa [readDigits_decimal] using congrArg (readDigits 0) h

/-- Numbers are written in letters and digits of ASCII. -/
theorem Text.isAsciiAlphanumeric_of_mem_decimal {n : Nat} :
    ∀ c ∈ decimal n, isAsciiAlphanumeric c = true :=
  forall_mem_decimal (by decide) n

/-- Whatever is no letter or digit does not occur in a prefix. -/
theorem IsIssuePrefix.notMem {text : String} {c : Char} (h : IsIssuePrefix text)
    (hc : Text.isAsciiAlphanumeric c = false) : c ∉ text.toList := by
  intro hmem
  rw [h.2 c hmem] at hc
  cases hc

/-- Short identifiers tell their prefixes and their numbers. -/
theorem Project.shortId_injective {p q : Project} {m n : Nat} (hp : IsIssuePrefix p.effectivePrefix)
    (h : p.shortId m = q.shortId n) : p.effectivePrefix = q.effectivePrefix ∧ m = n := by
  have hlists := congrArg String.toList h
  simp only [shortId, Text.showNat, String.toList_append, String.toList_ofList,
    List.append_assoc] at hlists
  -- The first hyphen ends the prefix, for there is none in it.
  have hnumber : '-' ∉ Text.decimal m := by
    intro hmem
    cases Text.isAsciiAlphanumeric_of_mem_decimal _ hmem
  obtain ⟨hprefixed, -, hnumbers⟩ :=
    (List.append_cons_inj_of_notMem (hp.notMem (by decide)) hnumber).1 hlists
  exact ⟨String.toList_inj.1 hprefixed, Text.decimal_injective hnumbers⟩

/-- No underscore occurs in a short identifier. -/
theorem Project.underscore_notMem_shortId {p : Project} {n : Nat}
    (h : IsIssuePrefix p.effectivePrefix) : '_' ∉ (p.shortId n).toList := by
  simp only [shortId, Text.showNat, String.toList_append, String.toList_ofList, List.mem_append]
  rintro ((hprefixed | hhyphen) | hnumber)
  · exact h.notMem (by decide) hprefixed
  · simp at hhyphen
  · cases Text.isAsciiAlphanumeric_of_mem_decimal _ hnumber

/-- A short identifier does not begin with a hyphen. -/
theorem Project.head?_shortId {p : Project} {n : Nat} (h : IsIssuePrefix p.effectivePrefix) :
    (p.shortId n).toList.head? ≠ some '-' := by
  have hne : p.effectivePrefix.toList ≠ [] := fun hnil => h.1 (String.toList_eq_nil_iff.1 hnil)
  obtain ⟨c, cs, hcs⟩ := List.exists_cons_of_ne_nil hne
  have hletter : '-' ≠ c := by
    rintro rfl
    exact h.notMem (by decide) (hcs ▸ List.mem_cons_self)
  simpa [shortId, String.toList_append, hcs] using hletter.symm

/-- An underscore occurs in every identifier that is made from a stamp. -/
theorem Stamp.underscore_mem_identifier (stamp : Stamp) (kind : String) :
    '_' ∈ (stamp.identifier kind).toList := by
  simp [identifier, String.toList_append]

/-! ### Labelled databases -/

/-- What an issue is found by and never changes: its full identifier, its project and its short
identifier. -/
def Issue.labels (issue : Issue) : String × String × Option String :=
  (issue.id, issue.projectId, issue.shortId)

/-- The short identifiers of a project's issues, in the order in which these were created. -/
def Rows.shortIdsOf (rows : Rows) (projectId : String) : List (Option String) :=
  (rows.issues.filter (·.record.projectId == projectId)).map (·.record.shortId)

namespace Database

variable {db db' : Database} {author : Author} {op : Operation} {reply : Reply}
  {row other : Row Issue} {p : Project} {id s : String}

/-- The issues of every project are numbered under its prefix, from one on, in the order in which
they were created. -/
def CountsIssues (db : Database) : Prop :=
  ∀ p ∈ db.projects, ∃ count : Nat, p.nextIssueNumber = count + 1 ∧
    db.rows.shortIdsOf p.id = (List.range count).map fun n => some (p.shortId (n + 1))

/-- Every project has a prefix of its own, and has numbered its issues under it from one on. -/
structure Labelled (db : Database) : Prop extends Consistent db where
  /-- Every project has a prefix. -/
  prefixes : ∀ p ∈ db.projects, ∃ text, p.issuePrefix = some text ∧ IsIssuePrefix text
  /-- No two projects share a prefix. -/
  prefixesDistinct : (db.projects.map (·.issuePrefix)).Nodup
  /-- The issues of a project are numbered in the order in which they were created. -/
  numbers : db.CountsIssues
  /-- The full identifier of an issue was made from a stamp. -/
  fullIds : ∀ row ∈ db.issues, ∃ stamp : Stamp, row.record.id = stamp.identifier "issue"

/-- A new database is labelled. -/
theorem labelled_create (now : Int) : (create now).Labelled :=
  { (admitted_create now).toConsistent with
    prefixes := by simp [create]
    prefixesDistinct := by simp [create]
    numbers := by simp [create, CountsIssues]
    fullIds := by simp [create] }

/-- An issue has the short identifier that its project gave it, under a number below the next
one. -/
theorem CountsIssues.exists_shortId (h : db.CountsIssues) (hdb : db.Consistent)
    (hrow : row ∈ db.issues) :
    ∃ p ∈ db.projects, p.id = row.record.projectId ∧
      ∃ n : Nat, row.record.shortId = some (p.shortId (n + 1)) ∧ n + 1 < p.nextIssueNumber := by
  obtain ⟨p, hp, hproject⟩ := hdb.issueProjects row hrow
  obtain ⟨count, hnext, hnumbers⟩ := h p hp
  have hmem : row.record.shortId ∈ db.rows.shortIdsOf p.id :=
    List.mem_map_of_mem (List.mem_filter.2 ⟨hrow, by simp [hproject]⟩)
  rw [hnumbers] at hmem
  obtain ⟨n, hn, hshort⟩ := List.mem_map.1 hmem
  rw [List.mem_range] at hn
  exact ⟨p, hp, hproject, n, hshort.symm, by omega⟩

namespace Labelled

/-- Being labelled is a matter of the rows. -/
theorem congr (h : db.Labelled) (hrows : db'.rows = db.rows) : db'.Labelled := by
  obtain ⟨projects, issues, steps, cursors, ledger⟩ := db
  obtain ⟨projects', issues', steps', cursors', ledger'⟩ := db'
  obtain ⟨rfl, rfl, rfl, rfl, rfl, -⟩ := Rows.mk.inj hrows
  exact { h with }

/-- A project of a labelled database has its prefix, and a proper one. -/
theorem isIssuePrefix (h : db.Labelled) (hp : p ∈ db.projects) :
    p.issuePrefix = some p.effectivePrefix ∧ IsIssuePrefix p.effectivePrefix := by
  obtain ⟨text, htext, hletters⟩ := h.prefixes p hp
  have heffective : p.effectivePrefix = text := by simp [Project.effectivePrefix, htext]
  rw [heffective]
  exact ⟨htext, hletters⟩

/-- An issue has the short identifier that its project gave it. -/
theorem exists_shortId (h : db.Labelled) (hrow : row ∈ db.issues) :
    ∃ p ∈ db.projects, p.id = row.record.projectId ∧
      ∃ n, row.record.shortId = some (p.shortId (n + 1)) := by
  obtain ⟨p, hp, hproject, n, hn, -⟩ := h.numbers.exists_shortId h.toConsistent hrow
  exact ⟨p, hp, hproject, n, hn⟩

/-- No two issues share a short identifier. -/
theorem nodup_map_shortId (h : db.Labelled) : (db.issues.map (·.record.shortId)).Nodup := by
  refine List.Nodup.map_on ?_ (List.Nodup.of_map _ h.issueIds)
  intro row hrow other hother hsame
  obtain ⟨p, hp, hproject, m, hm⟩ := h.exists_shortId hrow
  obtain ⟨q, hq, hproject', n, hn⟩ := h.exists_shortId hother
  -- The two issues are of the same project, as these have different prefixes,
  have hshort : p.shortId (m + 1) = q.shortId (n + 1) := by
    rw [hm, hn] at hsame
    exact Option.some.inj hsame
  have hprefixed := (Project.shortId_injective (h.isIssuePrefix hp).2 hshort).1
  obtain rfl : p = q := by
    refine List.inj_on_of_nodup_map h.prefixesDistinct hp hq ?_
    rw [(h.isIssuePrefix hp).1, (h.isIssuePrefix hq).1, hprefixed]
  -- and in a project there is one issue for each number.
  have hnodup : (db.rows.shortIdsOf p.id).Nodup := by
    obtain ⟨count, -, hnumbers⟩ := h.numbers p hp
    rw [hnumbers]
    refine List.Nodup.map_on ?_ List.nodup_range
    intro i _ j _ hij
    have := (Project.shortId_injective (h.isIssuePrefix hp).2 (Option.some.inj hij)).2
    omega
  exact List.inj_on_of_nodup_map hnodup (List.mem_filter.2 ⟨hrow, by simp [hproject]⟩)
    (List.mem_filter.2 ⟨hother, by simp [hproject']⟩) hsame

/-- All short identifiers of a labelled database are different. -/
theorem nodup_shortIds (h : db.Labelled) : db.shortIds.Nodup := by
  have hfilter : db.shortIds = (db.issues.map (·.record.shortId)).filterMap id := by
    simp [shortIds, List.filterMap_map]
  rw [hfilter]
  exact h.nodup_map_shortId.filterMap fun _ _ _ hs hs' => by simp_all

/-- No short identifier is the full identifier of an issue. -/
theorem shortId_ne_id (h : db.Labelled) (hrow : row ∈ db.issues) (hother : other ∈ db.issues) :
    row.record.shortId ≠ some other.record.id := by
  obtain ⟨p, hp, -, n, hn⟩ := h.exists_shortId hrow
  obtain ⟨stamp, hid⟩ := h.fullIds other hother
  intro hsame
  rw [hn, hid] at hsame
  have hunderscore := stamp.underscore_mem_identifier "issue"
  rw [← Option.some.inj hsame] at hunderscore
  exact Project.underscore_notMem_shortId (h.isIssuePrefix hp).2 hunderscore

end Labelled

/-! ### Calls keep a database labelled -/

/-- The short identifiers of a project can be told from the labels of issues. -/
theorem shortIdsOf_eq (db : Database) (id : String) :
    db.rows.shortIdsOf id =
      ((db.issues.map (·.record.labels)).filter (·.2.1 == id)).map (·.2.2) := by
  simp [Rows.shortIdsOf, rows, List.filter_map, Function.comp_def, Issue.labels]

/-- A new issue adds its short identifier to its project only. -/
theorem shortIdsOf_concat (issue : Issue) (projects : List Project) (id : String) :
    { db with issues := db.issues ++ [{ record := issue }], projects := projects : Database
      }.rows.shortIdsOf id =
      db.rows.shortIdsOf id ++ if issue.projectId = id then [issue.shortId] else [] := by
  by_cases h : issue.projectId = id <;> simp [Rows.shortIdsOf, rows, h]

namespace CountsIssues

/-- A write that touches no project and no label of an issue keeps issues numbered. -/
theorem of_labels (h : db.CountsIssues) (hprojects : db'.projects = db.projects)
    (hissues : db'.issues.map (·.record.labels) = db.issues.map (·.record.labels)) :
    db'.CountsIssues := by
  intro p hp
  rw [shortIdsOf_eq, hissues, ← shortIdsOf_eq]
  exact h p (hprojects ▸ hp)

/-- A new project has no issue yet. -/
theorem withProject (h : db.CountsIssues) (hdb : db.Consistent)
    (hid : ∀ q ∈ db.projects, q.id ≠ p.id) (hnext : p.nextIssueNumber = 1) :
    { db with projects := db.projects ++ [p] : Database }.CountsIssues := by
  refine List.forall_mem_append.2 ⟨h, List.forall_mem_singleton.2 ⟨0, hnext, ?_⟩⟩
  -- An issue of it would belong to a project that was there before.
  refine List.map_eq_nil_iff.2 (List.filter_eq_nil_iff.2 fun row hrow hproject => ?_)
  obtain ⟨q, hq, howner⟩ := hdb.issueProjects row hrow
  exact hid q hq (howner.trans (by simpa using hproject))

/-- A new issue has the next number of its project, and the one after it becomes the next. -/
theorem withIssue (h : db.CountsIssues) (hdb : db.Consistent) {issue : Issue} {now : Int}
    (hp : p ∈ db.projects) (hproject : issue.projectId = p.id)
    (hshort : issue.shortId = some p.nextShortId) :
    { db with
      issues := db.issues ++ [{ record := issue }]
      projects := db.projectsCounted p.id now : Database }.CountsIssues := by
  intro q hq
  obtain ⟨old, hold, rfl⟩ := List.mem_map.1 hq
  obtain ⟨count, hnext, hnumbers⟩ := h old hold
  rw [shortIdsOf_concat]
  by_cases howner : old.id = p.id
  · -- Only one project has the identifier, so this is the one that counts.
    obtain rfl : old = p := List.inj_on_of_nodup_map hdb.projectIds hold hp howner
    rw [if_pos (beq_self_eq_true _), if_pos hproject, hshort, Project.nextShortId_eq hnext]
    refine ⟨count + 1, ?_, ?_⟩
    · simp [hnext]
    · rw [List.range_succ, List.map_append, hnumbers]
      rfl
  · -- Another project counts as before.
    have hother : issue.projectId ≠ old.id := fun hsame => howner (hsame.symm.trans hproject)
    rw [if_neg (by simpa using howner), if_neg hother, List.append_nil]
    exact ⟨count, hnext, hnumbers⟩

end CountsIssues

/-- A write that touches no project and no label of an issue keeps a database labelled. -/
theorem Labelled.of_labels (h : db.Labelled) (hdb : db'.Consistent)
    (hprojects : db'.projects = db.projects)
    (hissues : db'.issues.map (·.record.labels) = db.issues.map (·.record.labels)) :
    db'.Labelled where
  toConsistent := hdb
  prefixes := hprojects ▸ h.prefixes
  prefixesDistinct := hprojects ▸ h.prefixesDistinct
  numbers := h.numbers.of_labels hprojects hissues
  fullIds := by
    intro row hrow
    have hmem : row.record.labels ∈ db.issues.map (·.record.labels) :=
      hissues ▸ List.mem_map_of_mem hrow
    obtain ⟨old, hold, hsame⟩ := List.mem_map.1 hmem
    obtain ⟨stamp, hid⟩ := h.fullIds old hold
    exact ⟨stamp, (congrArg Prod.fst hsame).symm.trans hid⟩

/-- Noting events leaves a database labelled. -/
theorem Labelled.noting (h : db.Labelled) (author : Author) (drafts : List EventDraft) :
    (db.noting author drafts).Labelled :=
  h.of_labels (h.toConsistent.noting author drafts) rfl rfl

/-- Another work status leaves the labels of issues. -/
theorem map_labels_issuesAfter {status : Option WorkStatus} {now : Int} :
    (db.issuesAfter id status now).map (·.record.labels) = db.issues.map (·.record.labels) := by
  unfold issuesAfter
  split
  · next status =>
    exact Row.map_changeAt (g := fun issue => { issue with workStatus := status, updatedAt := now })
      (fun _ => rfl) fun _ => rfl
  · rfl

/-- A new project has a prefix of its own and no issue yet. -/
theorem Labelled.withProject (h : db.Labelled) (hid : ∀ q ∈ db.projects, q.id ≠ p.id)
    (hnext : p.nextIssueNumber = 1)
    (hprefixed : ∃ text, p.issuePrefix = some text ∧ IsIssuePrefix text)
    (hfree : ∀ q ∈ db.projects, q.issuePrefix ≠ p.issuePrefix) :
    { db with projects := db.projects ++ [p] : Database }.Labelled where
  toConsistent :=
    h.toConsistent.withProjects (Row.nodup_map_concat h.projectIds hid) fun q hq =>
      ⟨q, List.mem_append_left _ hq, rfl⟩
  prefixes := List.forall_mem_append.2 ⟨h.prefixes, List.forall_mem_singleton.2 hprefixed⟩
  prefixesDistinct := Row.nodup_map_concat h.prefixesDistinct hfree
  numbers := h.numbers.withProject h.toConsistent hid hnext
  fullIds := h.fullIds

/-- A new issue has the next number of its project, and the one after it becomes the next. -/
theorem Labelled.withIssue (h : db.Labelled) {issue : Issue} {stamp : Stamp} {now : Int}
    (hp : p ∈ db.projects) (hid : ∀ row ∈ db.issues, row.record.id ≠ issue.id)
    (hproject : issue.projectId = p.id) (hshort : issue.shortId = some p.nextShortId)
    (hstamp : issue.id = stamp.identifier "issue") :
    { db with
      issues := db.issues ++ [{ record := issue }]
      projects := db.projectsCounted p.id now : Database }.Labelled where
  toConsistent := (h.toConsistent.withIssue hid ⟨p, hp, hproject.symm⟩).withProjectsCounted
  prefixes := by
    intro q hq
    obtain ⟨old, hold, rfl⟩ := List.mem_map.1 hq
    obtain ⟨text, htext, hletters⟩ := h.prefixes old hold
    refine ⟨text, ?_, hletters⟩
    split <;> exact htext
  prefixesDistinct := by
    have hsame : (db.projectsCounted p.id now).map (·.issuePrefix) =
        db.projects.map (·.issuePrefix) := by
      rw [projectsCounted, List.map_map]
      refine List.map_congr_left fun q _ => ?_
      simp only [Function.comp_apply]
      split <;> rfl
    exact hsame ▸ h.prefixesDistinct
  numbers := h.numbers.withIssue h.toConsistent hp hproject hshort
  fullIds := List.forall_mem_append.2 ⟨h.fullIds, List.forall_mem_singleton.2 ⟨stamp, hstamp⟩⟩

end Database

/-- A call creates no project, or one that begins to count its issues at one, under a prefix of
letters and digits. -/
def Operation.IsOrderly : Operation → Prop
  | .createProject p =>
    p.nextIssueNumber = 1 ∧ ∃ text, p.issuePrefix = some text ∧ IsIssuePrefix text
  | _ => True

namespace Database

variable {db db' : Database} {author : Author} {op : Operation} {reply : Reply}
  {row : Row Issue} {id s : String}

/-- A call keeps a database labelled. -/
theorem Called.labelled (h : Called db author op reply db') (horderly : op.IsOrderly)
    (hdb : db.Labelled) : db'.Labelled := by
  have hconsistent := h.consistent hdb.toConsistent
  cases h with
  | @createProject p hid hprefixes =>
    obtain ⟨hnext, text, htext, hletters⟩ := horderly
    have hfree : ∀ q ∈ db.projects, q.issuePrefix ≠ p.issuePrefix := fun q hq =>
      hprefixes q hq (by rw [htext]; rfl)
    exact (hdb.withProject hid hnext ⟨text, htext, hletters⟩ hfree).noting author _
  | createIssue hproject hissue hid =>
    subst hissue
    exact (hdb.withIssue (project_eq_ok hproject).1 hid rfl rfl rfl).noting author _
  | complete | reject => exact hdb.of_labels hconsistent rfl map_labels_issuesAfter
  | addStep | restaffStep | recordGate | resetPipeline =>
    exact hdb.of_labels hconsistent rfl rfl

/-! ### Looking an issue up -/

/-- An issue is found by its full identifier. -/
theorem issue?_id (h : db.Consistent) (hrow : row ∈ db.issues) :
    db.issue? row.record.id = .ok (some row.record) := by
  rw [issue?_eq h, storedIssue?_eq_some_of_mem h hrow]

/-- An issue is found by its short identifier. -/
theorem issue?_shortId (h : db.Labelled) (hrow : row ∈ db.issues)
    (hshort : row.record.shortId = some s) : db.issue? s = .ok (some row.record) := by
  have hnone : db.storedIssue? s = none := by
    refine Row.lookup_eq_none_iff.2 fun other hother hid => h.shortId_ne_id hrow hother ?_
    rw [hshort, hid]
  have hmem : row ∈ db.withShortId s := List.mem_filter.2 ⟨hrow, by simp [hshort]⟩
  obtain ⟨only, honly⟩ := List.length_eq_one_iff.1
    (Nat.le_antisymm (length_withShortId_le h.nodup_shortIds) (List.length_pos_of_mem hmem))
  rw [honly, List.mem_singleton] at hmem
  rw [issue?_eq h.toConsistent, hnone, honly, hmem]

/-- No look-up finds two issues. -/
theorem issue?_ne_ambiguous (h : db.Labelled) : db.issue? id ≠ .error (.ambiguousShortId s) :=
  issue?_ne_ambiguous_of_nodup h.nodup_shortIds

end Database

end ReviewPipeline
