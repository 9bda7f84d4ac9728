import ReviewPipeline.Proofs.Register
import ReviewPipeline.Proofs.Suggestions

/-!
# Where Suggestions Lead

A command for an unknown issue fails, and names the short identifiers that may have been meant. They
are the nearest ones of all workspaces: the search comes before any project is known, so there is
nothing yet to check a workspace of. Each of them stands for one issue. A command that is given
again with it passes the check on the workspace iff the issue's project belongs to the active
workspace; elsewhere it is refused, with the name of the workspace that owns the issue.

## Main definitions

* `Command.IsUnderstood`: the words of a command, other than the issue's, are known;
* `LeadsTo`: what comes of a suggestion.

## Main results

* `exists_scopedIssue_of_target`: a command for an issue begins with looking for it;
* `scopedIssue_shortId`: the check on an issue that is called by its short identifier;
* `suggestions_lead_to_owners`: what is suggested for an unknown issue, and what comes of it;
* `not_scoped_gardenLines`: a suggestion of an issue that only another workspace owns.
-/

namespace ReviewPipeline.CommandLine

variable {env : Environment} {stamp : Stamp} {screen : Screen} {inv : Invocation}
  {files : Files} {opened : Opened} {ctx : Context} {db : Database} {place : Location}
  {command : Command} {row : Row Issue} {p : Project} {id s workspace : String} {e : Error}

/-! ### Commands for an issue -/

/-- The words of a command, other than the issue's, are known. Of the commands for an issue only a
gate signal is named by such a word, and it is looked at before the database is opened. -/
def Command.IsUnderstood : Command → Prop
  | .recordGate _ word _ => ∃ status, choose GateStatus.vocabulary word = .ok status
  | _ => True

theorem target?_about (h : command.target? = some (.issue id)) :
    (command.about s).target? = some (.issue s) := by
  cases command with
  | init | version | completions => cases h
  | project command => cases command <;> cases h
  | step command => cases command <;> cases h
  | issue command => cases command <;> first | rfl | cases h
  | pipeline command => cases command <;> rfl
  | recordGate => rfl

theorem isUnderstood_about (h : command.IsUnderstood) : (command.about s).IsUnderstood := by
  cases command with
  | recordGate => exact h
  | init | version | completions | project | step => trivial
  | issue command => cases command <;> trivial
  | pipeline command => cases command <;> trivial

/-- Every command for an issue begins with looking for it in the database. -/
theorem exists_scopedIssue_of_target (htarget : inv.command.target? = some (.issue id))
    (hunderstood : inv.command.IsUnderstood) :
    ∃ go : Context → Database → Issue → Except Error (Answer × Database),
      execute env stamp inv files =
        withDatabase env stamp inv files fun ctx db => ctx.scopedIssue db id >>= go ctx db := by
  unfold execute
  obtain ⟨command, database, actor, workspace⟩ := inv
  cases command with
  | init | version | completions => cases htarget
  | project command => cases command <;> cases htarget
  | step command => cases command <;> cases htarget
  | issue command =>
    cases command with
    | create | list => cases htarget
    | inspect =>
      cases htarget
      exact ⟨_, rfl⟩
  | pipeline command =>
    cases command
    all_goals
      cases htarget
      exact ⟨_, rfl⟩
  -- The status is looked at before the issue, which is why it has to be understood.
  | recordGate =>
    cases htarget
    obtain ⟨status, hstatus⟩ := hunderstood
    simp only [hstatus]
    exact ⟨_, rfl⟩

/-- If the issue of a command does not pass the check, the command ends with that error. -/
theorem error?_of_scopedIssue (htarget : inv.command.target? = some (.issue id))
    (hunderstood : inv.command.IsUnderstood)
    (hopen : (openExisting env stamp.now inv files).1 = .ok opened)
    (h : (contextOf env stamp inv files).scopedIssue opened.database id = .error e) :
    (runInvocation env stamp screen inv files).1.error? = some e := by
  obtain ⟨go, hgo⟩ := exists_scopedIssue_of_target htarget hunderstood
  refine error?_runInvocation ?_
  rw [hgo]
  refine withDatabase_eq_error hopen ?_
  rw [h]
  rfl

/-! ### The check on the workspace -/

/-- An issue that is called by its short identifier passes the check iff its project belongs to the
active workspace. -/
theorem scopedIssue_shortId (hdb : db.Labelled) (hactive : ctx.activeWorkspace = .ok workspace)
    (hrow : row ∈ db.issues) (hshort : row.record.shortId = some s) (hp : p ∈ db.projects)
    (hproject : p.id = row.record.projectId) (hlast : p.nextIssueNumber ≤ 2147483647) :
    ctx.scopedIssue db s =
      if p.workspaceId = workspace then .ok row.record
      else .error (.forbidden ("issue " ++ s) p.workspaceId workspace) := by
  obtain ⟨count, hnext, -⟩ := hdb.numbers p hp
  have hfits : Database.fitsInt32 p.nextIssueNumber = true := by
    simp only [Database.fitsInt32, Bool.and_eq_true, decide_eq_true_eq]
    omega
  -- The project can be read, since its counter has not gone past 32 bits.
  have hfound : db.project row.record.projectId = .ok p :=
    (Database.project_eq_ok_iff hdb.toConsistent).2 ⟨hp, hproject, hfits⟩
  have hlabel : row.record.label = s := by rw [Issue.label, hshort]; rfl
  have hfollow : ctx.scopedIssue db s =
      (p.checkWorkspace workspace ("issue " ++ s)).map fun _ => row.record := by
    simp only [Context.scopedIssue, hactive, Database.issue?_shortId hdb hrow hshort, bind,
      Except.bind, hfound, hlabel]
    cases p.checkWorkspace workspace ("issue " ++ s) <;> rfl
  rw [hfollow, Project.checkWorkspace]
  split <;> rfl

theorem unknownIssue_eq (db : Database) (id : String) :
    Context.unknownIssue db id =
      if similarNames id db.shortIds 3 = [] then .issueNotFound id
      else .issueNotFoundSimilar id (similarNames id db.shortIds 3) := by
  simp only [Context.unknownIssue, Context.suggestionCount, List.isEmpty_iff]

theorem scopedIssue_unknown (hactive : ctx.activeWorkspace = .ok workspace)
    (hunknown : db.issue? id = .ok none) :
    ctx.scopedIssue db id = .error (Context.unknownIssue db id) := by
  rw [Context.scopedIssue, hactive, hunknown]
  rfl

/-! ### Suggestions -/

/-- What comes of a suggestion for a command that works in a workspace: the suggested short
identifier leads to an issue, and that to the project that owns it. -/
structure LeadsTo (env : Environment) (stamp : Stamp) (screen : Screen) (inv : Invocation)
    (files : Files) (db : Database) (workspace s : String) (issue : Issue) (owner : Project) :
    Prop where
  /-- The issue is found by the short identifier. -/
  resolves : db.issue? s = .ok (some issue)
  /-- It is the issue's own one. -/
  shortId_eq : issue.shortId = some s
  /-- The project is there. -/
  owner_mem : owner ∈ db.projects
  /-- The issue is one of its issues. -/
  owner_eq : owner.id = issue.projectId
  /-- The issue passes the check on the workspace iff the project belongs to it, provided that the
  project's next number is one that projects are read with. -/
  passes_iff : owner.nextIssueNumber ≤ 2147483647 →
    ((contextOf env stamp inv files).scopedIssue db s = .ok issue ↔ owner.workspaceId = workspace)
  /-- If the project belongs elsewhere, the command for the suggested issue is refused, and says to
  whom the issue belongs. -/
  forbidden : owner.nextIssueNumber ≤ 2147483647 → owner.workspaceId ≠ workspace →
    (runInvocation env stamp screen (inv.about s) files).1.error? =
      some (.forbidden ("issue " ++ s) owner.workspaceId workspace)

/-- Every short identifier in a labelled database leads to an issue and its project. -/
theorem exists_leadsTo (hdb : opened.database.Labelled)
    (htarget : inv.command.target? = some (.issue id)) (hunderstood : inv.command.IsUnderstood)
    (hopen : (openExisting env stamp.now inv files).1 = .ok opened)
    (hactive : (contextOf env stamp inv files).activeWorkspace = .ok workspace)
    (hs : s ∈ opened.database.shortIds) :
    ∃ issue owner, LeadsTo env stamp screen inv files opened.database workspace s issue owner := by
  obtain ⟨row, hrow, hshort⟩ := List.mem_filterMap.1 hs
  obtain ⟨p, hp, hproject⟩ := hdb.issueProjects row hrow
  have hcheck (hlast : p.nextIssueNumber ≤ 2147483647) :=
    scopedIssue_shortId hdb hactive hrow hshort hp hproject hlast
  refine ⟨row.record, p, Database.issue?_shortId hdb hrow hshort, hshort, hp, hproject,
    fun hlast => ?_, fun hlast hother => ?_⟩
  · rw [hcheck hlast]
    split <;> simp_all
  · have hfails := hcheck hlast
    rw [if_neg hother] at hfails
    exact error?_of_scopedIssue (target?_about htarget) (isUnderstood_about hunderstood) hopen
      hfails

/-- What a command for an unknown issue comes to, on a database that any command lines have made.
Of all short identifiers, whatever workspace they belong to, the three nearest ones within three
edits are suggested. Each leads to an issue and its project, and is usable in the active workspace
iff the project belongs to it. The command for a suggested issue is the same command line with
another word in the place of the issue. -/
theorem suggestions_lead_to_owners (files : Files) (lines : List Line) (place : Location)
    (hfresh : files.rows place = {}) :
    let files' := runAll files lines
    ∀ env stamp screen arguments inv id workspace opened,
      read env arguments = .ok inv → inv.command.target? = some (.issue id) →
      inv.command.IsUnderstood → placeOf env inv files' = some place →
      (openExisting env stamp.now inv files').1 = .ok opened →
      workspaceOf env stamp inv files' = .ok workspace →
      (∀ row ∈ (files'.rows place).issues,
        row.record.id ≠ id ∧ row.record.shortId ≠ some id) →
      opened.database.rows = files'.rows place ∧
      ∃ similar, AreBest id opened.database.shortIds 3 similar ∧
        (run env stamp screen arguments files').1.error? = some
          (if similar = [] then .issueNotFound id else .issueNotFoundSimilar id similar) ∧
        ∀ s ∈ similar,
          (∃ issue owner,
            LeadsTo env stamp screen inv files' opened.database workspace s issue owner) ∧
          ∀ before after, arguments = before ++ id :: after → awaitsIssue before = true →
            id.toList.head? ≠ some '-' →
            run env stamp screen (before ++ s :: after) files' =
              runInvocation env stamp screen (inv.about s) files' := by
  intro files' env stamp screen arguments inv id workspace opened hread htarget hunderstood hplace
    hopen hworkspace hunknown
  have hrows := rows_of_openExisting hplace hopen
  -- The database was made by command lines alone, so its issues are labelled.
  have hdb : opened.database.Labelled := by
    obtain ⟨db, hsame, hlabelled⟩ : (files'.rows place).Labelled :=
      runAll_of_fresh keptByCalls_labelled lines hfresh
    exact hlabelled.congr (hrows.trans hsame.symm)
  have hactive : (contextOf env stamp inv files').activeWorkspace = .ok workspace :=
    activeWorkspace_contextOf.trans hworkspace
  have hnone : opened.database.issue? id = .ok none := by
    rw [Database.issue?_eq_none_iff]
    exact fun row hrow => hunknown row (hrows ▸ hrow)
  -- The suggestions are told, found by the same command, and read in place of the identifier.
  have hbest := areBest_similarNames id opened.database.shortIds 3
  refine ⟨hrows, _, hbest, ?_, fun s hs => ⟨?_, fun before after harguments hbefore hid => ?_⟩⟩
  · rw [run, hread, ← unknownIssue_eq]
    exact error?_of_scopedIssue htarget hunderstood hopen (scopedIssue_unknown hactive hnone)
  · exact exists_leadsTo hdb htarget hunderstood hopen hactive (hbest.near s hs).1
  · -- A short identifier begins with a prefix, so it is not read as a flag.
    obtain ⟨row, hrow, hshort⟩ := List.mem_filterMap.1 (hbest.near s hs).1
    obtain ⟨p, hp, -, n, hn⟩ := hdb.exists_shortId hrow
    obtain rfl := Option.some.inj (hshort.symm.trans hn)
    have hs := Project.head?_shortId (n := n + 1) (hdb.isIssuePrefix hp).2
    rw [run, read_about hbefore hs hid, ← harguments, hread]
    rfl

/-- The environment of the sample command lines. -/
def gardenEnv : Environment :=
  { home := some "/home", database := some "/docs.db", workspace := some "home" }

/-- Command lines to try the statement on: two projects of two workspaces, and an issue in the
second one. -/
def gardenLines : List Line :=
  let line (n : Nat) (arguments : List String) : Line :=
    ⟨gardenEnv, ⟨1000, n⟩, ⟨false, false⟩, arguments⟩
  [ line 1 ["init"],
    line 2 ["project", "create", "Docs"],
    line 3 ["project", "create", "Garden", "--workspace", "away"],
    line 4 ["issue", "create", "Weeds", "--project", "proj_00000003-400", "--workspace", "away"] ]

/-- The status of an issue is asked for in the first workspace. -/
def gardenAsking (id : String) : Invocation :=
  ⟨.pipeline (.status id), some "/docs.db", none, some "home", false, false, false⟩

/-- The issue of the sample command lines. -/
def weeds : Issue :=
  ⟨"issue_00000004-400", some "GARD-1", "proj_00000003-400", "Weeds", none, .todo, 1000, 1000⟩

/-- What is opened after the sample command lines, and how the check on the issue ends there. -/
theorem opened_gardenLines :
    ∃ opened, (openExisting gardenEnv 1000 (gardenAsking "GARD-2") (runAll {} gardenLines)).1 =
        .ok opened ∧
      (opened.database.issues,
          (contextOf gardenEnv ⟨1000, 5⟩ (gardenAsking "GARD-2")
            (runAll {} gardenLines)).scopedIssue opened.database "GARD-1") =
        ([{ record := weeds }], .error (.forbidden "issue GARD-1" "away" "home")) := by
  refine map_eq_ok_iff.1 ?_
  decide +kernel

/-- The issue of the other workspace is suggested, and it is the only one there is; but the command
for it is refused, since it does not pass the check on the workspace. -/
theorem not_scoped_gardenLines :
    let files := runAll {} gardenLines
    let line (id : String) :=
      (run gardenEnv ⟨1000, 5⟩ ⟨false, false⟩ ["pipeline", "status", id] files).1.error?
    Files.rows {} ["docs.db"] = {} ∧
      line "GARD-2" = some (.issueNotFoundSimilar "GARD-2" ["GARD-1"]) ∧
      line "GARD-1" = some (.forbidden "issue GARD-1" "away" "home") ∧
      ∃ opened, (openExisting gardenEnv 1000 (gardenAsking "GARD-2") files).1 = .ok opened ∧
        (contextOf gardenEnv ⟨1000, 5⟩ (gardenAsking "GARD-2") files).scopedIssue
          opened.database "GARD-1" = .error (.forbidden "issue GARD-1" "away" "home") := by
  intro files line
  obtain ⟨opened, hopen, hfound⟩ := opened_gardenLines
  obtain ⟨hissues, hforbidden⟩ := Prod.mk.inj hfound
  have hactive : (contextOf gardenEnv ⟨1000, 5⟩ (gardenAsking "GARD-2") files).activeWorkspace =
      .ok "home" := by decide +kernel
  -- The text finds no issue, and only one name is known.
  have hunknown : opened.database.issue? "GARD-2" = .ok none := by
    rw [Database.issue?_eq_none_iff, hissues]
    decide
  have hsimilar : similarNames "GARD-2" opened.database.shortIds 3 = ["GARD-1"] := by
    have hranking : ranking "GARD-2" ["GARD-1"] = ["GARD-1"] :=
      ranking_eq_of_pairwise (by decide +kernel) (List.pairwise_singleton _ _)
    rw [Database.shortIds, hissues, similarNames_eq_take]
    exact congrArg (List.take 3) hranking
  have hsuggested : line "GARD-2" = some (.issueNotFoundSimilar "GARD-2" ["GARD-1"]) := by
    have hread : read gardenEnv ["pipeline", "status", "GARD-2"] =
      .ok (gardenAsking "GARD-2") := by decide +kernel
    have hfails := scopedIssue_unknown hactive hunknown
    rw [unknownIssue_eq, hsimilar, if_neg (List.cons_ne_nil _ _)] at hfails
    unfold line
    rw [run, hread]
    exact error?_of_scopedIssue rfl trivial hopen hfails
  have hrefused : line "GARD-1" = some (.forbidden "issue GARD-1" "away" "home") := by
    decide +kernel
  exact ⟨by decide +kernel, hsuggested, hrefused, opened, hopen, hforbidden⟩

/-- After the sample command lines the issue of the other workspace is suggested; it leads to its
project, which does not belong to the active workspace; and the status of the suggested issue is
asked for by the same command line with the suggestion in it. -/
theorem suggestions_lead_to_owners_gardenLines :
    let files := runAll {} gardenLines
    let line (id : String) :=
      run gardenEnv ⟨1000, 5⟩ ⟨false, false⟩ ["pipeline", "status", id] files
    Files.rows {} ["docs.db"] = {} ∧
      read gardenEnv ["pipeline", "status", "GARD-2"] = .ok (gardenAsking "GARD-2") ∧
      placeOf gardenEnv (gardenAsking "GARD-2") files = some ["docs.db"] ∧
      workspaceOf gardenEnv ⟨1000, 5⟩ (gardenAsking "GARD-2") files = .ok "home" ∧
      (∀ row ∈ (files.rows ["docs.db"]).issues,
        row.record.id ≠ "GARD-2" ∧ row.record.shortId ≠ some "GARD-2") ∧
      (line "GARD-2").1.error? = some (.issueNotFoundSimilar "GARD-2" ["GARD-1"]) ∧
      line "GARD-1" =
        runInvocation gardenEnv ⟨1000, 5⟩ ⟨false, false⟩ (gardenAsking "GARD-1") files ∧
      ∃ opened, (openExisting gardenEnv 1000 (gardenAsking "GARD-2") files).1 = .ok opened ∧
        ∃ issue owner, LeadsTo gardenEnv ⟨1000, 5⟩ ⟨false, false⟩ (gardenAsking "GARD-2") files
          opened.database "home" "GARD-1" issue owner := by
  intro files line
  obtain ⟨opened, hopen, hfound⟩ := opened_gardenLines
  obtain ⟨hissues, -⟩ := Prod.mk.inj hfound
  have hfresh : Files.rows {} ["docs.db"] = {} := by decide +kernel
  have hread : read gardenEnv ["pipeline", "status", "GARD-2"] = .ok (gardenAsking "GARD-2") := by
    decide +kernel
  have hplace : placeOf gardenEnv (gardenAsking "GARD-2") files = some ["docs.db"] := by
    decide +kernel
  have hworkspace : workspaceOf gardenEnv ⟨1000, 5⟩ (gardenAsking "GARD-2") files =
      .ok "home" := by decide +kernel
  have hrows : (files.rows ["docs.db"]).issues = [{ record := weeds }] := by decide +kernel
  have hunknown : ∀ row ∈ (files.rows ["docs.db"]).issues,
      row.record.id ≠ "GARD-2" ∧ row.record.shortId ≠ some "GARD-2" := by
    rw [hrows]
    decide
  obtain ⟨-, similar, hbest, herror, hleads⟩ :=
    suggestions_lead_to_owners {} gardenLines ["docs.db"] hfresh gardenEnv ⟨1000, 5⟩
      ⟨false, false⟩ ["pipeline", "status", "GARD-2"] (gardenAsking "GARD-2") "GARD-2" "home"
      opened hread rfl trivial hplace hopen hworkspace hunknown
  -- One name is known, so that it is the one suggested.
  have hshort : opened.database.shortIds = ["GARD-1"] := by
    rw [Database.shortIds, hissues]
    rfl
  rw [hshort] at hbest
  obtain rfl : similar = ["GARD-1"] := by
    have hlength : similar.length = 1 := hbest.length_eq.trans (by decide +kernel)
    obtain ⟨s, rfl⟩ := List.length_eq_one_iff.1 hlength
    rw [List.mem_singleton.1 (hbest.near s List.mem_cons_self).1]
  obtain ⟨hleads, hagain⟩ := hleads "GARD-1" List.mem_cons_self
  exact ⟨hfresh, hread, hplace, hworkspace, hunknown, herror,
    hagain ["pipeline", "status"] [] rfl (by decide +kernel) (by decide), opened, hopen, hleads⟩

end ReviewPipeline.CommandLine
