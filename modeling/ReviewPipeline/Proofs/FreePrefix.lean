import Mathlib.Data.List.Perm.Subperm
import ReviewPipeline.Proofs.OutputModes

/-!
# Prefixes Derived from Names

A project that is created without a prefix gets one that is derived from its name, or that prefix
with a number behind it. The search for it goes through the candidates one by one until it finds a
free one. Here it is shown that it ends, because the candidates are pairwise distinct and there are
more of them than projects, and that what it ends with is never refused afterwards.

## Main definitions

* `Database.SearchEnds`: the search from a candidate on ends with a free one, and its numbers fit
  into 32 bits.

## Main results

* `Database.prefixCandidate_injective`: no two candidates are the same text;
* `Database.exists_free_candidate`: one of the first candidates is free;
* `Database.freePrefix_eq`, `Database.searchEnds_freePrefix`: the search ends, with the first
  candidate that is free;
* `CommandLine.create_derived`: how creating a project goes on after its prefix was derived;
* `CommandLine.derivedPrefix_is_free`: the search ends with the first free candidate, and no project
  is refused because of a derived prefix.
-/

namespace ReviewPipeline

/-- Different numbers are shown differently. -/
theorem Text.showNat_injective : Function.Injective Text.showNat := by
  intro m n h
  refine Text.decimal_injective ?_
  simpa [Text.showNat] using congrArg String.toList h

/-- A number is shown by at least one digit. -/
theorem Text.showNat_ne_empty (n : Nat) : Text.showNat n ≠ "" := by
  intro h
  have hread := Text.readDigits_decimal n
  have hempty : Text.decimal n = [] := by simpa [Text.showNat] using congrArg String.toList h
  -- The empty numeral would be read as zero, which has a numeral of one digit.
  obtain rfl : 0 = n := by simpa [hempty, Text.readDigits] using hread
  simp [Text.decimal] at hempty

namespace Database

variable {db : Database} {base text found : String} {n k tries : Nat}

/-! ### Candidates -/

/-- Every candidate after the first is the base with a number from two on. -/
theorem prefixCandidate_succ (base : String) (n : Nat) :
    prefixCandidate base (n + 1) = base ++ Text.showNat (n + 2) := rfl

/-- Two texts with the same beginning are the same when the rests are. -/
theorem append_eq_append_left_iff {s t : String} : base ++ s = base ++ t ↔ s = t := by
  simp [← String.toList_inj, String.toList_append]

/-- The base is followed by no numeral, or by numerals of different numbers. -/
theorem prefixCandidate_injective (base : String) : Function.Injective (prefixCandidate base) := by
  have hbase : ∀ n, base ≠ base ++ Text.showNat n := by
    intro n h
    have hempty : base ++ "" = base ++ Text.showNat n := by rwa [String.append_empty]
    exact Text.showNat_ne_empty n (append_eq_append_left_iff.1 hempty).symm
  intro m n h
  cases m with
  | zero =>
    cases n with
    | zero => rfl
    | succ n => exact absurd h (hbase _)
  | succ m =>
    cases n with
    | zero => exact absurd h.symm (hbase _)
    | succ n =>
      rw [prefixCandidate_succ, prefixCandidate_succ] at h
      have hnumber := Text.showNat_injective (append_eq_append_left_iff.1 h)
      omega

/-- A prefix has no owner when no project has it. -/
theorem prefixOwner?_eq_none_iff :
    db.prefixOwner? text = none ↔ ∀ p ∈ db.projects, p.issuePrefix ≠ some text := by
  simp [prefixOwner?, List.find?_eq_none]

/-- A prefix has an owner when a project has it. -/
theorem prefixOwner?_ne_none_iff :
    db.prefixOwner? text ≠ none ↔ ∃ p ∈ db.projects, p.issuePrefix = some text := by
  rw [ne_eq, prefixOwner?_eq_none_iff]
  simp

/-- There are fewer prefixes than candidates, so one of the first candidates is free. -/
theorem exists_free_candidate (db : Database) (base : String) :
    ∃ k ≤ db.projects.length, db.prefixOwner? (prefixCandidate base k) = none := by
  by_contra hnone
  push Not at hnone
  -- Otherwise all of them, which are one more than there are projects, stand among the prefixes.
  let candidates := (List.range (db.projects.length + 1)).map fun k => some (prefixCandidate base k)
  have hdistinct : candidates.Nodup := by
    refine List.Nodup.map ?_ List.nodup_range
    exact (Option.some_injective _).comp (prefixCandidate_injective base)
  have howned : candidates ⊆ db.projects.map (·.issuePrefix) := by
    intro candidate hcandidate
    obtain ⟨k, hk, rfl⟩ := List.mem_map.1 hcandidate
    have hk : k ≤ db.projects.length := by simpa [Nat.lt_succ_iff] using hk
    obtain ⟨p, hp, howned⟩ := prefixOwner?_ne_none_iff.1 (hnone k hk)
    exact List.mem_map.2 ⟨p, hp, howned⟩
  have hlength := (hdistinct.subperm howned).length_le
  simp [candidates] at hlength

/-! ### The search -/

/-- The search that begins with the `n`-th candidate ends with `found`. Without a bound on its steps
it goes on as long as candidates are owned; the number behind the base is of 32 bits. -/
inductive SearchEnds (db : Database) (base : String) : (n : Nat) → (found : String) → Prop
  /-- No project owns the candidate. -/
  | free {n : Nat} (hbits : n + 1 < 2 ^ 32)
      (h : ∀ p ∈ db.projects, p.issuePrefix ≠ some (prefixCandidate base n)) :
      SearchEnds db base n (prefixCandidate base n)
  /-- A project owns the candidate, so the next one is tried. -/
  | owned {n : Nat} {found : String}
      (h : ∃ p ∈ db.projects, p.issuePrefix = some (prefixCandidate base n))
      (rest : SearchEnds db base (n + 1) found) : SearchEnds db base n found

/-- The search passes over owned candidates, as long as it has tries left. -/
theorem firstFreePrefix_eq (hn : n ≤ k) (hk : k ≤ n + tries)
    (howned : ∀ j, n ≤ j → j < k → db.prefixOwner? (prefixCandidate base j) ≠ none)
    (hfree : db.prefixOwner? (prefixCandidate base k) = none) :
    db.firstFreePrefix base tries n = prefixCandidate base k := by
  -- The tries that are left reach at least to the first free candidate, which is the invariant.
  induction tries generalizing n with
  | zero =>
    obtain rfl : n = k := by omega
    rfl
  | succ tries ih =>
    rw [firstFreePrefix]
    rcases Nat.eq_or_lt_of_le hn with rfl | hlt
    · simp [hfree]
    · have hnext := howned n le_rfl hlt
      rw [if_neg (by simpa using hnext)]
      exact ih hlt (by omega) fun j hj => howned j (by omega)

/-- The search ends with the first candidate that is free. -/
theorem freePrefix_eq (db : Database) (base : String) :
    ∃ k ≤ db.projects.length, db.freePrefix base = prefixCandidate base k ∧
      db.prefixOwner? (prefixCandidate base k) = none ∧
      ∀ j < k, db.prefixOwner? (prefixCandidate base j) ≠ none := by
  let free (k : Nat) : Prop := db.prefixOwner? (prefixCandidate base k) = none
  obtain ⟨bound, hbound, hfree⟩ := exists_free_candidate db base
  have hexists : ∃ k, free k := ⟨bound, hfree⟩
  have hfirst : Nat.find hexists ≤ db.projects.length := (Nat.find_min' hexists hfree).trans hbound
  have howned : ∀ j < Nat.find hexists, ¬ free j := fun j hj => Nat.find_min hexists hj
  refine ⟨Nat.find hexists, hfirst, ?_, Nat.find_spec hexists, howned⟩
  exact firstFreePrefix_eq (Nat.zero_le _) (by omega) (fun j _ => howned j) (Nat.find_spec hexists)

/-- As long as there are fewer projects than numbers, the search ends by itself. -/
theorem searchEnds_freePrefix (h : db.projects.length < 2 ^ 32 - 2) :
    db.SearchEnds base 0 (db.freePrefix base) := by
  obtain ⟨k, hk, heq, hfree, howned⟩ := freePrefix_eq db base
  rw [heq]
  -- By induction from the free candidate backwards over the owned ones.
  refine Nat.decreasingInduction' (P := fun n => db.SearchEnds base n (prefixCandidate base k))
    (fun n hn _ rest => ?_) (Nat.zero_le k) ?_
  · exact .owned (prefixOwner?_ne_none_iff.1 (howned n hn)) rest
  · exact .free (by omega) (prefixOwner?_eq_none_iff.1 hfree)

/-- A project whose prefix is free is refused only for its identifier, or because its row or the
event cannot be written. -/
theorem createProject_cases (author : Author) {p : Project} (hnamed : p.issuePrefix = some text)
    (hfree : db.prefixOwner? text = none) :
    ((∃ q ∈ db.projects, q.id = p.id) ∧
        db.createProject author p = .error (.database (.notUnique "projects.id"))) ∨
      ((db.blocked = some .projectInsert ∨ db.blocked = some .eventInsert) ∧
        db.createProject author p = .error (.database .blocked)) ∨
      ∃ db', db.createProject author p = .ok ((), db') ∧ db'.projects = db.projects ++ [p] := by
  let created : EventDraft :=
    { entityType := "project", entityId := p.id, kind := .projectCreated }
  let inserted : Database := { db with projects := db.projects ++ [p] }
  have howner : db.createProject author p =
      db.insertProject p >>= fun next => Change.commit ⟨(), [created], next⟩ author := by
    simp only [createProject, hnamed, hfree]
    rfl
  have hprefixes : ∀ q ∈ db.projects, p.issuePrefix.isSome → q.issuePrefix ≠ p.issuePrefix := by
    intro q hq _
    rw [hnamed]
    exact prefixOwner?_eq_none_iff.1 hfree q hq
  by_cases hproject : db.blocked = some .projectInsert
  · refine .inr (.inl ⟨.inl hproject, ?_⟩)
    rw [howner, insertProject, permit, if_pos hproject]
    rfl
  by_cases hid : ∀ q ∈ db.projects, q.id ≠ p.id
  · have hinserted : db.insertProject p = .ok inserted :=
      insertProject_eq_ok_iff.2 ⟨hproject, hprefixes, hid, rfl⟩
    rw [howner, hinserted]
    by_cases hblocked : db.blocked = some .eventInsert
    · refine .inr (.inl ⟨.inr hblocked, ?_⟩)
      show Change.commit ⟨(), [created], inserted⟩ author = _
      cases hcommit : Change.commit ⟨(), [created], inserted⟩ author with
      | error e => exact congrArg Except.error (commit_eq_error hcommit)
      | ok made =>
        obtain ⟨hpermit, -⟩ := commit_eq_ok_iff.1 hcommit
        exact absurd hblocked (hpermit (by simp))
    · refine .inr (.inr ⟨inserted.noting author [created], ?_, rfl⟩)
      exact commit_eq_ok_iff.2 ⟨fun _ => hblocked, rfl, rfl⟩
  · push Not at hid
    refine .inl ⟨hid, ?_⟩
    -- Of the two unique columns, only that of the identifiers is in the way.
    have hunique : (db.projects.any fun q =>
        p.issuePrefix.isSome && q.issuePrefix == p.issuePrefix) = false := by
      simpa [hnamed] using hprefixes
    have htaken : db.hasProject p.id = true := by simpa [hasProject] using hid
    have hpermit : db.permit .projectInsert = .ok () := permit_eq_ok_iff.2 hproject
    rw [howner, insertProject, hpermit, hunique, htaken]
    rfl

end Database

/-! ### Creating a project -/

/-- The settings fail to load with an error of the configuration only. -/
theorem Environment.loadSettings_eq_error {env : Environment} {files : Files} {e : Error}
    (h : env.loadSettings files = .error e) : ∃ text, e = .config text := by
  unfold loadSettings at h
  rcases bind_eq_error_iff.1 h with hpath | ⟨path, -, h⟩
  · unfold settingsPath at hpath
    split at hpath
    · cases hpath
    · exact ⟨_, (Except.error.inj hpath).symm⟩
  · split at h
    · split at h
      · exact ⟨_, (Except.error.inj h).symm⟩
      split at h
      · cases h
      · exact ⟨_, (Except.error.inj h).symm⟩
    · cases h

/-- The active workspace fails for want of a name, or with the settings. -/
theorem Environment.activeWorkspace_eq_error {env : Environment} {files : Files}
    {explicit : Option String} {e : Error} (h : env.activeWorkspace files explicit = .error e) :
    e = .noWorkspace ∨ ∃ text, e = .config text := by
  unfold activeWorkspace at h
  split at h
  · cases h
  split at h
  · next hload => exact .inr (Except.error.inj h ▸ loadSettings_eq_error hload)
  split at h
  · split at h
    · exact .inl (Except.error.inj h).symm
    · cases h
  · exact .inl (Except.error.inj h).symm

namespace CommandLine

variable {ctx : Context} {db : Database} {env : Environment} {stamp : Stamp} {screen : Screen}
  {inv : Invocation} {files files' : Files} {arguments : List String} {name : String}
  {description : Option String} {e : Error}

/-- Opening a database fails in one of three ways. -/
theorem openExisting_eq_error {now : Int}
    (h : openExisting env now inv files = (.error e, files')) :
    e = .notInitialized ∨ (∃ text, e = .config text) ∨ ∃ wait, Files.Refusal wait e := by
  unfold openExisting at h
  split at h
  · cases h
    exact .inl rfl
  · split at h
    · split at h
      · next hload =>
        cases h
        exact .inr (.inl (Environment.loadSettings_eq_error hload))
      · exact .inr (.inr ⟨_, Files.refusal_openDatabase (congrArg Prod.fst h)⟩)
    · cases h
      exact .inl rfl

/-- A new project of a workspace, with a prefix that is derived from its name. -/
def derivedProject (ctx : Context) (db : Database) (name : String) (description : Option String)
    (workspace : String) : Project :=
  { Project.create ctx.author.stamp (Text.trim name) workspace with
    description := description
    issuePrefix := some (db.freePrefix (Project.derivedPrefix (Text.trim name))) }

/-- How creating a project with a derived prefix ends. -/
inductive DerivedCreation (ctx : Context) (db : Database) (name : String)
    (description : Option String) : Except Error (Answer × Database) → Prop
  /-- No workspace is active. -/
  | nowhere {e : Error} (h : ctx.activeWorkspace = .error e) :
      DerivedCreation ctx db name description (.error e)
  /-- The identifier that was drawn for the project is not new. -/
  | drawnTwice (h : ∃ p ∈ db.projects, p.id = ctx.author.stamp.identifier "proj") :
      DerivedCreation ctx db name description (.error (.database (.notUnique "projects.id")))
  /-- The project or the event cannot be written. -/
  | blocked (h : db.blocked = some .projectInsert ∨ db.blocked = some .eventInsert) :
      DerivedCreation ctx db name description (.error (.database .blocked))
  /-- The project is stored. -/
  | created {workspace : String} {db' : Database} (h : ctx.activeWorkspace = .ok workspace)
      (hstored : db'.projects =
        db.projects ++ [derivedProject ctx db name description workspace]) :
      DerivedCreation ctx db name description
        (.ok (.projectCreated (derivedProject ctx db name description workspace), db'))

/-- What creating a project without a given prefix comes to. -/
theorem create_derived (hname : Text.isAllBlank name = false) :
    DerivedCreation ctx db name description
      (ProjectCommand.execute ctx db (.create name description none)) := by
  cases hworkspace : ctx.activeWorkspace with
  | error e =>
    have hfailed : ProjectCommand.execute ctx db (.create name description none) = .error e :=
      bind_eq_error_iff.2 (.inl hworkspace)
    exact hfailed ▸ .nowhere hworkspace
  | ok workspace =>
    let p := derivedProject ctx db name description workspace
    have hexecute : ProjectCommand.execute ctx db (.create name description none) =
        db.createProject ctx.author p >>= fun made => .ok (.projectCreated p, made.2) := by
      simp only [ProjectCommand.execute, hworkspace, hname]
      rfl
    -- The prefix that was searched for is free, so creation never meets its owner.
    have hfree : db.prefixOwner? (db.freePrefix (Project.derivedPrefix (Text.trim name))) =
        none := by
      obtain ⟨k, -, hfound, hfree, -⟩ :=
        Database.freePrefix_eq db (Project.derivedPrefix (Text.trim name))
      rw [hfound, hfree]
    rw [hexecute]
    have hnamed : p.issuePrefix =
        some (db.freePrefix (Project.derivedPrefix (Text.trim name))) := rfl
    rcases Database.createProject_cases ctx.author hnamed hfree with
      ⟨hid, hmade⟩ | ⟨hblocked, hmade⟩ | ⟨db', hmade, hstored⟩
    · rw [hmade]
      exact .drawnTwice hid
    · rw [hmade]
      exact .blocked hblocked
    · rw [hmade]
      exact .created hworkspace hstored

/-- A command that creates a project with a derived prefix is never told that the prefix is used. -/
theorem execute_create_ne_prefixTaken {taken owner : String}
    (hcommand : inv.command = .project (.create name description none))
    (hname : Text.isAllBlank name = false) :
    (execute env stamp inv files).1 ≠ .error (.prefixTaken taken owner) := by
  intro h
  simp only [execute, hcommand, withDatabase] at h
  split at h
  · next hopen =>
    cases h
    -- Opening the database has errors of its own, and this is none of them.
    rcases openExisting_eq_error hopen with h | ⟨text, h⟩ | ⟨wait, h⟩ <;> cases h
  · next opened files' hopen =>
    split at h
    · next hwork =>
      cases h
      have hderived : DerivedCreation ⟨env, files', inv.workspace, ⟨actorOf env inv, stamp⟩⟩
          opened.database name description (.error (.prefixTaken taken owner)) :=
        hwork ▸ create_derived hname
      cases hderived with
      | nowhere h =>
        rcases Environment.activeWorkspace_eq_error h with h | ⟨text, h⟩ <;> cases h
    · cases h

/-- The search for a free prefix ends, with the first of all candidates that no project owns, as
long as there are fewer projects than numbers to put behind the base. Creating a project with a
derived prefix therefore fails only where no workspace is active, where the identifier of the
project is not new, or where the project or the event cannot be written, and no command line that
creates one is told that the prefix is already used. -/
theorem derivedPrefix_is_free :
    (∀ (db : Database) (base : String), db.projects.length < 2 ^ 32 - 2 →
      db.SearchEnds base 0 (db.freePrefix base) ∧
      ∃ k, db.freePrefix base = Database.prefixCandidate base k ∧
        (∀ p ∈ db.projects, p.issuePrefix ≠ some (Database.prefixCandidate base k)) ∧
        ∀ j < k, ∃ p ∈ db.projects, p.issuePrefix = some (Database.prefixCandidate base j)) ∧
    (∀ (ctx : Context) (db : Database) (name : String) (description : Option String),
      Text.isAllBlank name = false →
      DerivedCreation ctx db name description
        (ProjectCommand.execute ctx db (.create name description none))) ∧
    ∀ (env : Environment) (stamp : Stamp) (screen : Screen) (arguments : List String)
      (files : Files) (inv : Invocation) (name : String) (description : Option String)
      (result : Finished),
      read env arguments = .ok inv → inv.command = .project (.create name description none) →
      Text.isAllBlank name = false →
      (run env stamp screen arguments files).1 = .finished result →
      ∀ taken owner, result.outcome ≠ .error (.prefixTaken taken owner) := by
  refine ⟨fun db base hprojects => ?_, fun _ _ _ _ hname => create_derived hname, ?_⟩
  · obtain ⟨k, -, hfound, hfree, howned⟩ := Database.freePrefix_eq db base
    exact ⟨Database.searchEnds_freePrefix hprojects, k, hfound,
      Database.prefixOwner?_eq_none_iff.1 hfree,
      fun j hj => Database.prefixOwner?_ne_none_iff.1 (howned j hj)⟩
  · intro env stamp screen arguments files inv name description result hread hcommand hname hrun
      taken owner houtcome
    rw [run_eq_finished hread (by simp [hcommand])] at hrun
    cases hrun
    cases hanswer : (execute env stamp inv files).1 with
    | error e =>
      rw [hanswer] at houtcome
      cases houtcome
      exact execute_create_ne_prefixTaken hcommand hname hanswer
    | ok answer =>
      -- What was done is put into words without failing.
      simp only [execute, hcommand] at hanswer
      obtain ⟨ctx, opened, -, db', -, hdone⟩ := exists_opened_of_withDatabase hanswer
      have hplain : answer.isPlain = true := plain_project _ answer db' hdone
      simp only [execute, hcommand, hanswer] at houtcome
      cases hplain.symm.trans (not_isPlain_of_printed_eq_error houtcome)

/-- Two projects of two workspaces, of which the second owns what would be the next candidate for
the first. -/
def secondEdition : Database where
  projects :=
    [⟨"docs", "Docs", "home", none, some "DOCS", 1, 1, 1⟩,
     ⟨"garden", "Garden", "away", none, some "DOCS2", 1, 1, 1⟩]
  uniqueShortIds := true

/-- A third project with a name that begins alike gets the third candidate. -/
theorem derivedPrefix_is_free_secondEdition :
    let env : Environment := { home := some "/home", workspace := some "home" }
    let files : Files := { nodes := [(["docs.db"], .file (.database secondEdition .ahead))] }
    let arguments := ["--db", "/docs.db", "project", "create", "Docs, revised"]
    let ended := run env ⟨7, 7⟩ ⟨false, false⟩ arguments files
    secondEdition.projects.length < 2 ^ 32 - 2 ∧
      secondEdition.SearchEnds "DOCS" 0 "DOCS3" ∧
      (∃ result, ended.1 = .finished result ∧ result.exitCode = 0 ∧
        ∀ taken owner, result.outcome ≠ .error (.prefixTaken taken owner)) ∧
      (ended.2.rows ["docs.db"]).projects.map (·.issuePrefix) =
        [some "DOCS", some "DOCS2", some "DOCS3"] := by
  intro env files arguments ended
  obtain ⟨hsearch, -, hlines⟩ := derivedPrefix_is_free
  have hlength : secondEdition.projects.length < 2 ^ 32 - 2 := by decide
  -- Two projects are there with the first two candidates, so the search finds the third.
  have hfound : secondEdition.freePrefix "DOCS" = "DOCS3" := by decide +kernel
  let creating : Invocation := ⟨.project (.create "Docs, revised" none none), some "/docs.db", none,
    some "home", false, false, false⟩
  have hread : read env arguments = .ok creating := by decide +kernel
  have hended : run env ⟨7, 7⟩ ⟨false, false⟩ arguments files = _ := run_eq_finished hread nofun
  have hexit : ended.1.exitCode = 0 := by decide +kernel
  have hresult : ended.1 = .finished _ := congrArg Prod.fst hended
  refine ⟨hlength, hfound ▸ (hsearch secondEdition "DOCS" hlength).1, ?_, by decide +kernel⟩
  refine ⟨_, hresult, ?_, ?_⟩
  · rw [hresult] at hexit
    exact hexit
  · exact hlines env ⟨7, 7⟩ ⟨false, false⟩ arguments files creating "Docs, revised" none _ hread rfl
      (by decide +kernel) hresult

end CommandLine

end ReviewPipeline
