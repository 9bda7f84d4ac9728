import Mathlib.Data.List.Basic
import ReviewPipeline.Proofs.Workspaces
import ReviewPipeline.Suggestion

/-!
# Suggestions for Unknown Names

A name that is not known is answered with the known names it is nearest to: those within reach are
put in order and cut off. The order compares distances and then texts, and tells any two names
apart. There is thus only one way to put the names in order, and the suggestions depend on which
names are known and how often, but not on how these are arranged. For the short identifiers of
issues this matters, as they are read from the database in whatever order its rows have.

## Main definitions

* `NoLater`: the order of suggestions;
* `AreBest`: names are the best suggestions there are;
* `CommandLine.SameIssues`: a command works on the same issues in two states of the files, in
  whatever order they are stored.

## Main results

* `ranking_eq_of_perm`: there is one ranking of the known names, however they are arranged;
* `areBest_similarNames`: the best names are suggested;
* `CommandLine.run_eq_of_sameIssues`: a command line for an unknown issue ends the same, in whatever
  order the issues are stored;
* `CommandLine.suggestions_in_any_order`: all of it together.
-/

namespace ReviewPipeline

variable {searched a b c : String} {known known' : List String} {max : Nat}

/-! ### The order of suggestions -/

/-- Among the suggestions for `searched`, one name comes no later than another: it is nearer, or it
is as near and comes no later in the order of texts. -/
def NoLater (searched a b : String) : Prop :=
  editDistance searched a < editDistance searched b ∨
    editDistance searched a = editDistance searched b ∧ a ≤ b

instance : Decidable (NoLater searched a b) :=
  inferInstanceAs (Decidable (_ ∨ _))

/-- Two names of which neither is later are the same. -/
theorem NoLater.antisymm (h : NoLater searched a b) (h' : NoLater searched b a) :
    a = b := by
  rcases h with h | ⟨h, hab⟩
  · rcases h' with h' | ⟨h', -⟩ <;> omega
  · rcases h' with h' | ⟨-, hba⟩
    · omega
    · exact String.le_antisymm hab hba

/-- The order of suggestions is by distance and then by text. -/
theorem precedes_iff {s t : Suggestion} :
    s.precedes t = true ↔ s.distance < t.distance ∨ s.distance = t.distance ∧ s.name ≤ t.name := by
  simp [Suggestion.precedes]

/-- Any two suggestions are in order one way or the other. -/
theorem precedes_total (s t : Suggestion) : (s.precedes t || t.precedes s) = true := by
  simp only [Bool.or_eq_true, precedes_iff]
  rcases Nat.lt_trichotomy s.distance t.distance with h | h | h
  · exact .inl (.inl h)
  · rcases String.le_total s.name t.name with hst | hts
    · exact .inl (.inr ⟨h, hst⟩)
    · exact .inr (.inr ⟨h.symm, hts⟩)
  · exact .inr (.inl h)

/-- The order of suggestions is transitive. -/
theorem precedes_trans (r s t : Suggestion) (h : r.precedes s = true) (h' : s.precedes t = true) :
    r.precedes t = true := by
  rw [precedes_iff] at h h' ⊢
  rcases h with h | ⟨h, hrs⟩
  · omega
  · rcases h' with h' | ⟨h', hst⟩
    · omega
    · exact .inr ⟨h.trans h', String.le_trans hrs hst⟩

/-! ### The ranking -/

/-- Whether a name is near enough to be suggested. -/
def isNear (searched name : String) : Bool :=
  editDistance searched name ≤ suggestionReach

/-- The names within reach, in the order in which they are suggested. -/
def ranking (searched : String) (known : List String) : List String :=
  (suggestions searched known).map (·.name)

/-- The names suggested are the first of the ranking. -/
theorem similarNames_eq_take (searched : String) (known : List String) (max : Nat) :
    similarNames searched known max = (ranking searched known).take max := by
  rw [similarNames, ranking, List.map_take]

/-- Just the names within reach are ranked, each as often as it is known. -/
theorem ranking_perm (searched : String) (known : List String) :
    (ranking searched known).Perm (known.filter (isNear searched)) := by
  have hsorted : (ranking searched known).Perm (((known.map fun name =>
      Suggestion.mk (editDistance searched name) name).filter
        fun s => s.distance ≤ suggestionReach).map (·.name)) :=
    (List.mergeSort_perm _ _).map _
  rw [List.filter_map, List.map_map] at hsorted
  show (ranking searched known).Perm (known.filter fun name =>
    editDistance searched name ≤ suggestionReach)
  simpa [Function.comp_def] using hsorted

/-- The ranking holds the known names within reach, and no others. -/
theorem mem_ranking_iff {name : String} : name ∈ ranking searched known ↔
    name ∈ known ∧ editDistance searched name ≤ suggestionReach := by
  rw [(ranking_perm searched known).mem_iff]
  simp [isNear]

/-- The known names are those that are ranked and those out of reach. -/
theorem perm_ranking_append (searched : String) (known : List String) :
    known.Perm (ranking searched known ++ known.filter fun name => !isNear searched name) := by
  have hsplit := List.filter_append_perm (isNear searched) known
  exact hsplit.symm.trans ((ranking_perm searched known).symm.append_right _)

/-- The ranking is in order. -/
theorem pairwise_ranking (searched : String) (known : List String) :
    (ranking searched known).Pairwise (NoLater searched) := by
  have hdistance : ∀ s ∈ suggestions searched known, s.distance = editDistance searched s.name := by
    intro s hs
    simp only [suggestions, List.mem_mergeSort, List.mem_filter, List.mem_map] at hs
    obtain ⟨⟨name, -, rfl⟩, -⟩ := hs
    rfl
  have hsorted : (suggestions searched known).Pairwise fun s t => s.precedes t = true :=
    List.pairwise_mergeSort precedes_trans precedes_total _
  rw [ranking, List.pairwise_map]
  refine hsorted.imp_of_mem fun hs ht h => ?_
  rw [precedes_iff, hdistance _ hs, hdistance _ ht] at h
  exact h

/-- Of the arrangements of the names within reach, only one is in the order of suggestions. -/
theorem ranking_eq_of_pairwise {names : List String}
    (hnames : names.Perm (known.filter (isNear searched))) (h : names.Pairwise (NoLater searched)) :
    ranking searched known = names := by
  have hperm : (ranking searched known).Perm names :=
    (ranking_perm searched known).trans hnames.symm
  exact List.Perm.eq_of_pairwise (fun _ _ _ _ => NoLater.antisymm)
    (pairwise_ranking searched known) h hperm

/-- The order in which the names are known does not matter for their ranking. -/
theorem ranking_eq_of_perm (h : known.Perm known') :
    ranking searched known = ranking searched known' := by
  have hnames : (ranking searched known').Perm (known.filter (isNear searched)) :=
    (ranking_perm searched known').trans (h.filter _).symm
  exact ranking_eq_of_pairwise hnames (pairwise_ranking searched known')

/-- At most `max` of the known names are the best suggestions for `searched`. -/
structure AreBest (searched : String) (known : List String) (max : Nat) (names : List String) :
    Prop where
  /-- There are as many as allowed, unless there are not so many within three edits. -/
  length_eq : names.length =
    min max (known.countP fun name => editDistance searched name ≤ 3)
  /-- Each is known and within three edits. -/
  near : ∀ name ∈ names, name ∈ known ∧ editDistance searched name ≤ 3
  /-- Each is used at most as often as it is known. -/
  count_le : ∀ name, names.count name ≤ known.count name
  /-- They are in the order of suggestions. -/
  ordered : names.Pairwise (NoLater searched)
  /-- None of the names that are left out would come before one of them. -/
  left_out : ∃ rest, known.Perm (names ++ rest) ∧
    ∀ name ∈ names, ∀ other ∈ rest, NoLater searched name other

/-- The names suggested are the best of those known. -/
theorem areBest_similarNames (searched : String) (known : List String) (max : Nat) :
    AreBest searched known max (similarNames searched known max) := by
  rw [similarNames_eq_take]
  have hpairwise := pairwise_ranking searched known
  have hperm := perm_ranking_append searched known
  -- The cut leaves out the end of the ranking and the names out of reach.
  rw [← List.take_append_drop max (ranking searched known)] at hpairwise hperm
  rw [List.append_assoc] at hperm
  obtain ⟨hordered, -, hcut⟩ := List.pairwise_append.1 hpairwise
  refine ⟨?_, fun name hname => mem_ranking_iff.1 (List.mem_of_mem_take hname), fun name => ?_,
    hordered, _, hperm, fun name hname other hother => ?_⟩
  · rw [List.length_take, (ranking_perm searched known).length_eq, ← List.countP_eq_length_filter]
    rfl
  · rw [hperm.count_eq, List.count_append]
    exact Nat.le_add_right _ _
  · rcases List.mem_append.1 hother with hranked | hfar
    · exact hcut name hname other hranked
    · have hnear := (mem_ranking_iff.1 (List.mem_of_mem_take hname)).2
      have hother : ¬ editDistance searched other ≤ suggestionReach := by
        simpa [isNear] using (List.mem_filter.1 hfar).2
      exact .inl (hnear.trans_lt (Nat.lt_of_not_le hother))

/-- The order in which the names are known does not matter for the suggestions. -/
theorem similarNames_eq_of_perm (h : known.Perm known') :
    similarNames searched known max = similarNames searched known' max := by
  rw [similarNames_eq_take, similarNames_eq_take, ranking_eq_of_perm h]

/-! ### Unknown issues -/

variable {db db' : Database} {id : String}

/-- An identifier is looked up to nothing iff it is neither the full nor the short one of an
issue. -/
theorem Database.issue?_eq_none_iff : db.issue? id = .ok none ↔
    ∀ row ∈ db.issues, row.record.id ≠ id ∧ row.record.shortId ≠ some id := by
  have hshort : (∀ row ∈ db.issues, row.record.shortId ≠ some id) ↔ db.withShortId id = [] := by
    simp [withShortId]
  rw [forall₂_and, hshort]
  unfold issue?
  split
  · next row hfind =>
    have hrow := List.mem_of_find?_eq_some hfind
    have hid : row.record.id = id := by simpa using List.find?_some hfind
    refine iff_of_false ?_ fun h => h.1 row hrow hid
    cases readIssue row <;> simp [Except.map]
  · next hnone =>
    have hfull : ∀ row ∈ db.issues, row.record.id ≠ id := by simpa using hnone
    rcases hrows : db.withShortId id with _ | ⟨row, rows⟩
    · exact iff_of_true rfl ⟨hfull, rfl⟩
    · refine iff_of_false (fun h => ?_) nofun
      -- What is read of one or two rows is not nothing.
      split at h
      · cases h
      · next hread =>
        have hrecords := (Row.mapM_read_eq_ok_iff.1 hread).2
        simp at hrecords
      · cases h
      · cases h

/-- A text that finds no issue finds none however the rows are ordered. -/
theorem Database.issue?_eq_none_of_perm (h : db.issues.Perm db'.issues)
    (hunknown : db.issue? id = .ok none) : db'.issue? id = .ok none := by
  rw [issue?_eq_none_iff] at hunknown ⊢
  exact fun row hrow => hunknown row (h.mem_iff.2 hrow)

namespace CommandLine

variable {env : Environment} {stamp : Stamp} {screen : Screen} {inv : Invocation}
  {files files' : Files} {opened opened' : Opened} {ctx ctx' : Context}
  {arguments : List String} {place : Location}

/-- What is said about an unknown issue does not depend on the order of the short identifiers. -/
theorem unknownIssue_eq_of_perm (h : db.shortIds.Perm db'.shortIds) :
    Context.unknownIssue db id = Context.unknownIssue db' id := by
  unfold Context.unknownIssue
  rw [similarNames_eq_of_perm h]

/-- An unknown issue is refused alike in two databases with the same rows of issues. -/
theorem exists_scopedIssue_eq_error (hworkspace : ctx.activeWorkspace = ctx'.activeWorkspace)
    (hrows : db.issues.Perm db'.issues) (hunknown : db.issue? id = .ok none) :
    ∃ e, ctx.scopedIssue db id = .error e ∧ ctx'.scopedIssue db' id = .error e := by
  have hshort : db.shortIds.Perm db'.shortIds := hrows.filterMap _
  have hunknown' := Database.issue?_eq_none_of_perm hrows hunknown
  unfold Context.scopedIssue
  rw [← hworkspace, hunknown, hunknown', unknownIssue_eq_of_perm hshort]
  cases ctx.activeWorkspace with
  -- Without a workspace the command does not get as far as looking for the issue.
  | error e => exact ⟨e, rfl, rfl⟩
  | ok workspace => exact ⟨_, rfl, rfl⟩

/-- A command that opens its database and then fails answers with the error. -/
theorem withDatabase_eq_error {work : Context → Database → Except Error (Answer × Database)}
    {e : Error} (hopen : (openExisting env stamp.now inv files).1 = .ok opened)
    (hwork : work (contextOf env stamp inv files) opened.database = .error e) :
    (withDatabase env stamp inv files work).1 = .error e := by
  unfold contextOf at hwork
  unfold withDatabase
  rcases hresult : openExisting env stamp.now inv files with ⟨result, next⟩
  rw [hresult] at hopen hwork
  obtain rfl : result = .ok opened := hopen
  simp only [hwork]

/-- A command for an unknown issue answers the same, in whatever order the issues are stored. -/
theorem execute_eq_of_perm (hcommand : inv.command.target? = some (.issue id))
    (hopen : (openExisting env stamp.now inv files).1 = .ok opened)
    (hopen' : (openExisting env stamp.now inv files').1 = .ok opened')
    (hworkspace : (contextOf env stamp inv files).activeWorkspace =
      (contextOf env stamp inv files').activeWorkspace)
    (hrows : opened.database.issues.Perm opened'.database.issues)
    (hunknown : opened.database.issue? id = .ok none) :
    (execute env stamp inv files).1 = (execute env stamp inv files').1 := by
  obtain ⟨e, he, he'⟩ := exists_scopedIssue_eq_error hworkspace hrows hunknown
  have hwork : ∀ {work : Context → Database → Except Error (Answer × Database)},
      (∀ ctx db, ctx.scopedIssue db id = .error e → work ctx db = .error e) →
      (withDatabase env stamp inv files work).1 = (withDatabase env stamp inv files' work).1 :=
    fun hfails => (withDatabase_eq_error hopen (hfails _ _ he)).trans
      (withDatabase_eq_error hopen' (hfails _ _ he')).symm
  unfold execute
  obtain ⟨command, database, actor, workspace⟩ := inv
  -- Every command for an issue begins with looking for it.
  cases command with
  | init | version | completions => cases hcommand
  | project command => cases command <;> cases hcommand
  | step command => cases command <;> cases hcommand
  | issue command =>
    cases command with
    | create | list => cases hcommand
    | inspect text =>
      cases hcommand
      refine hwork fun ctx db h => ?_
      simp only [IssueCommand.execute, h]
      rfl
  | pipeline command =>
    cases command
    all_goals
      cases hcommand
      refine hwork fun ctx db h => ?_
      simp only [PipelineCommand.execute, h]
      rfl
  | recordGate text status error =>
    cases hcommand
    dsimp only
    split
    · rfl
    · refine hwork fun ctx db h => ?_
      simp only [recordGate, h]
      rfl

/-- What a command prints is made of its answer. -/
theorem runInvocation_congr
    (h : (execute env stamp inv files).1 = (execute env stamp inv files').1) :
    (runInvocation env stamp screen inv files).1 =
      (runInvocation env stamp screen inv files').1 := by
  unfold runInvocation
  rcases hanswer : execute env stamp inv files with ⟨answer, next⟩
  rcases hanswer' : execute env stamp inv files' with ⟨answer', next'⟩
  rw [hanswer, hanswer'] at h
  obtain rfl : answer = answer' := h
  dsimp only
  split <;> rfl

/-- In two states of the files a command finds its database at one place, with the same rows of
issues in whatever order, and the same workspace is active. -/
structure SameIssues (env : Environment) (stamp : Stamp) (inv : Invocation) (place : Location)
    (files files' : Files) : Prop where
  /-- The place of the database in the one state. -/
  place_eq : placeOf env inv files = some place
  /-- The place of the database in the other state. -/
  place_eq' : placeOf env inv files' = some place
  /-- The database can be opened in the one state. -/
  opens : ∃ opened, (openExisting env stamp.now inv files).1 = .ok opened
  /-- The database can be opened in the other state. -/
  opens' : ∃ opened, (openExisting env stamp.now inv files').1 = .ok opened
  /-- The same workspace is active. -/
  workspace : (contextOf env stamp inv files).activeWorkspace =
    (contextOf env stamp inv files').activeWorkspace
  /-- The rows of issues are the same but for their order. -/
  issues : (files.rows place).issues.Perm (files'.rows place).issues

/-- Opening a database that is there shows the rows of its place. -/
theorem rows_of_openExisting (hplace : placeOf env inv files = some place)
    (hopen : (openExisting env stamp.now inv files).1 = .ok opened) :
    opened.database.rows = files.rows place := by
  rcases hresult : openExisting env stamp.now inv files with ⟨result, next⟩
  rw [hresult] at hopen
  obtain rfl : result = .ok opened := hopen
  exact ((opens_of_openExisting hplace hresult).opened opened rfl).2

/-- A command line for an unknown issue ends the same, in whatever order the issues are stored. -/
theorem run_eq_of_sameIssues (hread : read env arguments = .ok inv)
    (hcommand : inv.command.target? = some (.issue id))
    (h : SameIssues env stamp inv place files files')
    (hunknown : ∀ row ∈ (files.rows place).issues,
      row.record.id ≠ id ∧ row.record.shortId ≠ some id) :
    (run env stamp screen arguments files).1 = (run env stamp screen arguments files').1 := by
  obtain ⟨opened, hopen⟩ := h.opens
  obtain ⟨opened', hopen'⟩ := h.opens'
  -- The issues of both databases are the same up to their order, and none has the identifier.
  have hrows : opened.database.issues = (files.rows place).issues :=
    congrArg Rows.issues (rows_of_openExisting h.place_eq hopen)
  have hrows' : opened'.database.issues = (files'.rows place).issues :=
    congrArg Rows.issues (rows_of_openExisting h.place_eq' hopen')
  have hperm : opened.database.issues.Perm opened'.database.issues := by
    rw [hrows, hrows']
    exact h.issues
  have hnone : opened.database.issue? id = .ok none := by
    rw [Database.issue?_eq_none_iff, hrows]
    exact hunknown
  unfold run
  rw [hread]
  exact runInvocation_congr (execute_eq_of_perm hcommand hopen hopen' h.workspace hperm hnone)

/-- The names that are suggested are the best ones, and the order in which the known names come does
not matter. So nothing that is said about an unknown issue depends on the order in which the short
identifiers are read: neither the error itself, nor what a command line that names the issue comes
to. -/
theorem suggestions_in_any_order :
    (∀ searched known max, AreBest searched known max (similarNames searched known max)) ∧
    (∀ searched known known' max, known.Perm known' →
      similarNames searched known max = similarNames searched known' max) ∧
    (∀ (db db' : Database) id, db.shortIds.Perm db'.shortIds →
      Context.unknownIssue db id = Context.unknownIssue db' id) ∧
    ∀ env stamp screen arguments inv id place files files',
      read env arguments = .ok inv → inv.command.target? = some (.issue id) →
      SameIssues env stamp inv place files files' →
      (∀ row ∈ (files.rows place).issues, row.record.id ≠ id ∧ row.record.shortId ≠ some id) →
      (run env stamp screen arguments files).1 = (run env stamp screen arguments files').1 :=
  ⟨areBest_similarNames, fun _ _ _ _ => similarNames_eq_of_perm,
    fun _ _ _ => unknownIssue_eq_of_perm,
    fun _ _ _ _ _ _ _ _ _ hread hcommand h => run_eq_of_sameIssues hread hcommand h⟩

/-- A database with three issues, of which two are as near to "DOCS-12". -/
def shelf : Database where
  projects := [⟨"docs", "Docs", "home", none, some "DOCS", 1, 1, 1⟩]
  issues :=
    [{ record := ⟨"issue_c", some "DOCS-3456", "docs", "third", none, .todo, 1, 1⟩ },
     { record := ⟨"issue_b", some "DOCS-2", "docs", "second", none, .todo, 1, 1⟩ },
     { record := ⟨"issue_a", some "DOCS-1", "docs", "first", none, .todo, 1, 1⟩ }]
  uniqueShortIds := true

/-- Asked for "DOCS-12", the sample database suggests the same two issues in either order of its
rows. -/
theorem suggestions_in_any_order_shelf :
    let turned : Database := { shelf with issues := shelf.issues.reverse }
    let env : Environment := { home := some "/home", workspace := some "home" }
    let files : Files := { nodes := [(["docs.db"], .file (.database shelf .ahead))] }
    let files' : Files := { nodes := [(["docs.db"], .file (.database turned .ahead))] }
    let arguments := ["--db", "/docs.db", "issue", "show", "DOCS-12"]
    let similar := ["DOCS-1", "DOCS-2"]
    shelf.shortIds.Perm turned.shortIds ∧
      similarNames "DOCS-12" shelf.shortIds 3 = similar ∧
      AreBest "DOCS-12" shelf.shortIds 3 similar ∧
      similarNames "DOCS-12" turned.shortIds 3 = similar ∧
      Context.unknownIssue turned "DOCS-12" = .issueNotFoundSimilar "DOCS-12" similar ∧
      (∀ row ∈ (files.rows ["docs.db"]).issues,
        row.record.id ≠ "DOCS-12" ∧ row.record.shortId ≠ some "DOCS-12") ∧
      (run env ⟨7, 7⟩ ⟨false, false⟩ arguments files).1 =
        (run env ⟨7, 7⟩ ⟨false, false⟩ arguments files').1 := by
  intro turned env files files' arguments similar
  obtain ⟨hbest, hnames, herror, hlines⟩ := suggestions_in_any_order
  have hissues : shelf.issues.Perm turned.issues := (List.reverse_perm shelf.issues).symm
  have hperm : shelf.shortIds.Perm turned.shortIds := hissues.filterMap _
  -- The ranking is sorted, which does not compute, but it is known once it is in order.
  have hranking : ranking "DOCS-12" shelf.shortIds = similar :=
    ranking_eq_of_pairwise (by decide +kernel) (by decide +kernel)
  have hsimilar : similarNames "DOCS-12" shelf.shortIds 3 = similar := by
    rw [similarNames_eq_take, hranking]
    rfl
  have hunknown : Context.unknownIssue shelf "DOCS-12" =
      .issueNotFoundSimilar "DOCS-12" similar := by
    simp only [Context.unknownIssue, Context.suggestionCount, hsimilar]
    rfl
  have hrows : ∀ row ∈ (files.rows ["docs.db"]).issues,
      row.record.id ≠ "DOCS-12" ∧ row.record.shortId ≠ some "DOCS-12" := by
    decide +kernel
  let showing : Invocation := ⟨.issue (.inspect "DOCS-12"), some "/docs.db", none, some "home",
    false, false, false⟩
  have hread : read env arguments = .ok showing := by decide +kernel
  -- The two databases hold the same rows in another order, all else being equal.
  have hsame : SameIssues env ⟨7, 7⟩ showing ["docs.db"] files files' := {
    place_eq := by decide +kernel
    place_eq' := by decide +kernel
    opens := ⟨_, rfl⟩
    opens' := ⟨_, rfl⟩
    workspace := by decide +kernel
    issues := hissues }
  refine ⟨hperm, hsimilar, hsimilar ▸ hbest _ _ _, (hnames _ _ _ _ hperm).symm.trans hsimilar,
    (herror _ _ _ hperm).symm.trans hunknown, hrows, ?_⟩
  exact hlines env ⟨7, 7⟩ ⟨false, false⟩ arguments showing "DOCS-12" ["docs.db"] files files' hread
    rfl hsame hrows

end CommandLine

end ReviewPipeline
