import ReviewPipeline.Proofs.Register
import ReviewPipeline.Proofs.SettingsFile
import ReviewPipeline.Proofs.Trimming

/-!
# What a Text Means as a Workspace

A workspace is named by a flag, by a variable or by the settings. A flag and a variable are trimmed,
but what stands in the settings is taken letter by letter. So a text with blanks around it means
another workspace in the settings than elsewhere, and a project that is made under the one meaning
is out of reach under the other.

## Main definitions

* `WorkspaceSource.meaning`: the workspace that a text means in a source;
* `Environment.Names`: a source is the first in which there is a text that is not blank;
* `WorkspaceSource.Agrees`: a text means the same workspace in two sources.

## Main results

* `Environment.activeWorkspace_eq_ok_iff`: the active workspace is what the text of such a source
  means;
* `CommandLine.names_of_initDatabase`: the default workspace that is given when a database is made
  is named by the settings afterwards;
* `CommandLine.access_of_names`: a project that was made with a text in one source is accessible
  with the text in another iff it means the same there, and is forbidden otherwise.
-/

namespace ReviewPipeline

/-! ### Sources -/

/-- Where a workspace can be named. -/
inductive WorkspaceSource where
  /-- The flag of a command line. -/
  | flag
  /-- The variable of the environment. -/
  | environment
  /-- The settings. -/
  | settings
  deriving DecidableEq, Repr

namespace WorkspaceSource

variable {source source' : WorkspaceSource} {text : String}

/-- The workspace that a text means in a source. -/
def meaning (text : String) : WorkspaceSource → String
  | flag | environment => Text.trim text
  | settings => text

/-- A text means the same workspace in two sources: there is nothing to trim, or both sources are
the settings, or none is. -/
def Agrees (text : String) (source source' : WorkspaceSource) : Prop :=
  Text.trim text = text ∨ (source = .settings ↔ source' = .settings)

instance : Decidable (Agrees text source source') :=
  inferInstanceAs (Decidable (_ ∨ _))

/-- Two sources mean the same workspace when they agree on the text. -/
theorem meaning_eq_meaning_iff : source.meaning text = source'.meaning text ↔
    Agrees text source source' := by
  have hcomm : text = Text.trim text ↔ Text.trim text = text := eq_comm
  cases source <;> cases source' <;> simp [Agrees, meaning, hcomm]

/-- A text is trimmed in every source but the settings. -/
theorem meaning_eq_trim_iff :
    source.meaning text = Text.trim text ↔ source ≠ .settings ∨ Text.trim text = text := by
  have hcomm : text = Text.trim text ↔ Text.trim text = text := eq_comm
  cases source <;> simp [meaning, hcomm]

/-- A source never makes a text blank, or takes it from being so. -/
@[simp]
theorem isAllBlank_meaning : Text.isAllBlank (source.meaning text) = Text.isAllBlank text := by
  cases source <;> simp [meaning]

end WorkspaceSource

namespace Environment

variable {env env' : Environment} {files : Files} {flag : Option String}
  {source : WorkspaceSource} {text workspace : String}

/-- A text that is not blank stands in a source, and the sources before it are blank. -/
inductive Names (env : Environment) (files : Files) (flag : Option String) (text : String) :
    WorkspaceSource → Prop
  /-- The flag comes first. -/
  | flag (hflag : flag = some text) (hblank : Text.isAllBlank text = false) :
      Names env files flag text .flag
  /-- The variable comes after it. -/
  | environment (hflag : Text.nonBlank flag = none) (hvariable : env.workspace = some text)
      (hblank : Text.isAllBlank text = false) : Names env files flag text .environment
  /-- The settings come last. -/
  | settings {settings : Settings} (hflag : Text.nonBlank flag = none)
      (hvariable : Text.nonBlank env.workspace = none)
      (hload : env.loadSettings files = .ok settings)
      (hdefault : settings.defaultWorkspace = some text) (hblank : Text.isAllBlank text = false) :
      Names env files flag text .settings

/-- A text that names the workspace is not blank. -/
theorem Names.isAllBlank_eq_false (h : env.Names files flag text source) :
    Text.isAllBlank text = false := by
  cases h <;> assumption

/-- The active workspace is what a text means in the first source that is not blank. -/
theorem activeWorkspace_eq_ok_iff : env.activeWorkspace files flag = .ok workspace ↔
    ∃ source text, env.Names files flag text source ∧ workspace = source.meaning text := by
  constructor
  · intro h
    unfold activeWorkspace at h
    split at h
    · next trimmed hnamed =>
      cases h
      -- The flag goes before the variable, and both before the settings.
      rcases Option.or_eq_some_iff.1 hnamed with hflag | ⟨hnone, hvariable⟩
      · obtain ⟨text, htext, hblank, rfl⟩ := Text.nonBlank_eq_some_iff.1 hflag
        exact ⟨.flag, text, .flag htext hblank, rfl⟩
      · obtain ⟨text, htext, hblank, rfl⟩ := Text.nonBlank_eq_some_iff.1 hvariable
        exact ⟨.environment, text, .environment hnone htext hblank, rfl⟩
    · next hnone =>
      obtain ⟨hflag, hvariable⟩ := Option.or_eq_none_iff.1 hnone
      split at h
      · cases h
      · next settings hload =>
        split at h
        · next text hdefault =>
          split_ifs at h with hblank
          exact ⟨.settings, text, .settings hflag hvariable hload hdefault
            (Bool.eq_false_iff.2 hblank), (Except.ok.inj h).symm⟩
        · cases h
  · -- The other way round, each source is reached because those before it are silent.
    rintro ⟨source, text, hnames, rfl⟩
    unfold activeWorkspace
    cases hnames with
    | flag hflag hblank =>
      have hnamed : Text.nonBlank flag = some (Text.trim text) :=
        Text.nonBlank_eq_some_iff.2 ⟨text, hflag, hblank, rfl⟩
      rw [hnamed]
      rfl
    | environment hflag hvariable hblank =>
      have hnamed : Text.nonBlank env.workspace = some (Text.trim text) :=
        Text.nonBlank_eq_some_iff.2 ⟨text, hvariable, hblank, rfl⟩
      rw [hflag, hnamed]
      rfl
    | settings hflag hvariable hload hdefault hblank =>
      simp only [hflag, hvariable, hload, hdefault, hblank]
      rfl

/-- That the variable stands in for a flag which is not given makes no difference to the active
workspace. -/
theorem activeWorkspace_or :
    env.activeWorkspace files (flag.or env.workspace) = env.activeWorkspace files flag := by
  have hnamed : (Text.nonBlank (flag.or env.workspace)).or (Text.nonBlank env.workspace) =
      (Text.nonBlank flag).or (Text.nonBlank env.workspace) := by
    cases flag with
    | none => simp [Text.nonBlank]
    | some text => rfl
  simp only [activeWorkspace, hnamed]

/-- Of the environment, the settings depend on the home directory only. -/
theorem loadSettings_congr (h : env'.home = env.home) :
    env'.loadSettings files = env.loadSettings files := by
  simp only [loadSettings, settingsPath, globalDirectory, h]

end Environment

/-! ### Projects and their workspaces -/

namespace Database

variable {db db' : Database} {author : Author} {op : Operation} {p q : Project}
  {calls : List (Author × Operation)}

/-- A project stays, and stays in its workspace, unless a table is changed directly. -/
theorem exists_project_after (hdb : db.Consistent) (hregular : op.isRegular = true)
    (author : Author) (hp : p ∈ db.projects) :
    ∃ q ∈ (db.after author op).projects, q.id = p.id ∧ q.workspaceId = p.workspaceId := by
  rcases registered_cases hdb hregular author with ⟨_, -, hsame⟩ | ⟨_, -, hentered⟩
  · rw [hsame]
    exact ⟨p, hp, rfl, rfl⟩
  · cases hentered with
    | project hid hprefixes hsame =>
      rw [hsame.projects]
      exact ⟨p, List.mem_append_left _ hp, rfl, rfl⟩
    | @issue _ _ _ r _ _ hproject hissue _ hshort hsame =>
      have hr := (project_eq_ok hproject).1
      rw [hsame.projects]
      by_cases howner : p.id = r.id
      · obtain rfl := List.inj_on_of_nodup_map hdb.projectIds hp hr howner
        exact ⟨_, (mem_projectsCounted hdb hr).2 (.inr rfl), rfl, rfl⟩
      · exact ⟨p, (mem_projectsCounted hdb hr).2 (.inl ⟨hp, howner⟩), rfl, rfl⟩
    | neither hop hsame =>
      rw [hsame.projects]
      exact ⟨p, hp, rfl, rfl⟩

/-- A project that is found after a run has the workspace that it had before. -/
theorem workspaceId_of_run (hdb : db.Consistent) (hp : p ∈ db.projects)
    (hcalls : ∀ call ∈ calls, call.2.isRegular = true)
    (hfound : (db.run calls).2.project p.id = .ok q) : q.workspaceId = p.workspaceId := by
  -- The project is another one after each call, but with the same identifier and workspace.
  induction calls generalizing db p with
  | nil =>
    obtain ⟨hq, hid⟩ := project_eq_ok hfound
    rw [List.inj_on_of_nodup_map hdb.projectIds hq hp hid]
  | cons call calls ih =>
    obtain ⟨hregular, hrest⟩ := List.forall_mem_cons.1 hcalls
    obtain ⟨r, hr, hid, hworkspace⟩ := exists_project_after hdb hregular call.1 hp
    rw [← hworkspace]
    exact ih (consistent_after_of_regular hdb hregular call.1) hr hrest (hid ▸ hfound)

end Database

namespace CommandLine

variable {ctx ctx' : Context} {db db' : Database} {id text workspace : String} {p q : Project}
  {issue : Issue} {flag flag' : Option String} {source source' : WorkspaceSource}

/-- A project that is found passes the check iff it is in the active workspace. -/
theorem scopedProject_eq (hactive : ctx.activeWorkspace = .ok workspace)
    (hfound : db.project id = .ok p) :
    ctx.scopedProject db id = if p.workspaceId = workspace then .ok p
      else .error (.forbidden ("project " ++ p.id) p.workspaceId workspace) := by
  simp only [Context.scopedProject, hactive, hfound, Project.checkWorkspace, bind, Except.bind]
  split_ifs <;> rfl

/-- An issue that is found passes the check iff its project is in the active workspace. -/
theorem scopedIssue_eq (hactive : ctx.activeWorkspace = .ok workspace)
    (hissue : db.issue? text = .ok (some issue)) (hfound : db.project issue.projectId = .ok p) :
    ctx.scopedIssue db text = if p.workspaceId = workspace then .ok issue
      else .error (.forbidden ("issue " ++ issue.label) p.workspaceId workspace) := by
  simp only [Context.scopedIssue, hactive, hissue, hfound, Project.checkWorkspace, bind,
    Except.bind]
  split_ifs <;> rfl

/-- A project that is created is in the active workspace, and it is found. -/
theorem project_of_create {name : String} {description issuePrefix : Option String}
    (hdb : db.Consistent) (hactive : ctx.activeWorkspace = .ok workspace)
    (h : ProjectCommand.execute ctx db (.create name description issuePrefix) =
      .ok (.projectCreated p, db')) :
    p.workspaceId = workspace ∧ db'.Consistent ∧ db'.project p.id = .ok p := by
  obtain ⟨active, hactive', h⟩ := bind_eq_ok_iff.1 h
  obtain rfl : workspace = active := Except.ok.inj (hactive.symm.trans hactive')
  split at h
  · cases h
  · obtain ⟨chosen, -, h⟩ := bind_eq_ok_iff.1 h
    obtain ⟨⟨_, next⟩, hcreated, h⟩ := bind_eq_ok_iff.1 h
    cases h
    have hcalled := Database.createProject_called hcreated
    have hconsistent := hcalled.consistent hdb
    have hfits : Database.fitsInt32 1 = true := by decide
    refine ⟨rfl, hconsistent, (Database.project_eq_ok_iff hconsistent).2 ⟨?_, rfl, hfits⟩⟩
    cases hcalled
    exact List.mem_append_right _ (List.mem_singleton_self _)

/-- The default workspace that is given when a database is made is named by the settings
afterwards, wherever the home directory is the same. -/
theorem names_of_initDatabase {env env' : Environment} {stamp : Stamp} {inv : Invocation}
    {files files' : Files} {force : Bool} {answer : Answer} (hblank : Text.isAllBlank text = false)
    (h : initDatabase env stamp inv files force (some text) = (.ok answer, files'))
    (hhome : env'.home = env.home) (hflag : Text.nonBlank flag = none)
    (hvariable : Text.nonBlank env'.workspace = none) : env'.Names files' flag text .settings := by
  obtain ⟨settings, -, hload⟩ := loadSettings_of_initDatabase h
  rw [← Environment.loadSettings_congr hhome] at hload
  exact .settings hflag hvariable hload rfl hblank

/-- How a project that was created with a text in one source is reached with the text in another. -/
structure Access (ctx : Context) (text : String) (source source' : WorkspaceSource) (db : Database)
    (p : Project) : Prop where
  /-- The project is in the workspace that the text meant. -/
  workspace : p.workspaceId = source.meaning text
  /-- It is found. -/
  found : db.project p.id = .ok p
  /-- Whatever is done to the database, the project passes the check as long as it is found, iff the
  text means the same. -/
  project : ∀ calls q, (∀ call ∈ calls, call.2.isRegular = true) →
    (db.run calls).2.project p.id = .ok q →
      ctx.scopedProject (db.run calls).2 p.id = if source.Agrees text source' then .ok q
        else .error (.forbidden ("project " ++ q.id) (source.meaning text) (source'.meaning text))
  /-- So do its issues. -/
  issue : ∀ calls q label issue, (∀ call ∈ calls, call.2.isRegular = true) →
    (db.run calls).2.project p.id = .ok q → (db.run calls).2.issue? label = .ok (some issue) →
    issue.projectId = p.id →
      ctx.scopedIssue (db.run calls).2 label = if source.Agrees text source' then .ok issue
        else .error
          (.forbidden ("issue " ++ issue.label) (source.meaning text) (source'.meaning text))

/-- A flag or the variable stands for the workspace of a command. -/
theorem activeWorkspace_of_names (hctx : ctx.workspace = flag.or ctx.env.workspace)
    (hnames : ctx.env.Names ctx.files flag text source) :
    ctx.activeWorkspace = .ok (source.meaning text) := by
  rw [Context.activeWorkspace, hctx, Environment.activeWorkspace_or]
  exact Environment.activeWorkspace_eq_ok_iff.2 ⟨source, text, hnames, rfl⟩

/-- What the creator of a project may do follows for any source of the same workspace. -/
theorem access_of_create {name : String} {description issuePrefix : Option String}
    (hdb : db.Consistent) (hactive : ctx.activeWorkspace = .ok (source.meaning text))
    (hactive' : ctx'.activeWorkspace = .ok (source'.meaning text))
    (h : ProjectCommand.execute ctx db (.create name description issuePrefix) =
      .ok (.projectCreated p, db')) : Access ctx' text source source' db' p := by
  obtain ⟨hworkspace, hdb', hfound⟩ := project_of_create hdb hactive h
  have hp := (Database.project_eq_ok hfound).1
  refine ⟨hworkspace, hfound, fun calls q hcalls hlater => ?_,
    fun calls q label issue hcalls hlater hissue hproject => ?_⟩
  · have hq : q.workspaceId = source.meaning text :=
      (Database.workspaceId_of_run hdb' hp hcalls hlater).trans hworkspace
    rw [scopedProject_eq hactive' hlater, hq]
    simp only [WorkspaceSource.meaning_eq_meaning_iff]
  · have hq : q.workspaceId = source.meaning text :=
      (Database.workspaceId_of_run hdb' hp hcalls hlater).trans hworkspace
    rw [scopedIssue_eq hactive' hissue (hproject ▸ hlater), hq]
    simp only [WorkspaceSource.meaning_eq_meaning_iff]

/-- A text that is not blank means its trimmed form where a flag or the variable names the
workspace, and itself where the settings do, which is where the default workspace ends up that is
given when a database is made. A project that was created with the text in one source is accessible
with the text in another iff it means the same there. -/
theorem access_of_names (hctx : ctx.workspace = flag.or ctx.env.workspace)
    (hctx' : ctx'.workspace = flag'.or ctx'.env.workspace)
    (hnames : ctx.env.Names ctx.files flag text source)
    (hnames' : ctx'.env.Names ctx'.files flag' text source') :
    ctx.activeWorkspace = .ok (source.meaning text) ∧
      Text.isAllBlank (source.meaning text) = false ∧
      (source.meaning text = Text.trim text ↔ source ≠ .settings ∨ Text.trim text = text) ∧
      (∀ (env env' : Environment) stamp inv files files' force answer flag,
        initDatabase env stamp inv files force (some text) = (.ok answer, files') →
        env'.home = env.home → Text.nonBlank flag = none → Text.nonBlank env'.workspace = none →
          env'.activeWorkspace files' flag = .ok text) ∧
      ∀ db db' name description issuePrefix p, db.Consistent →
        ProjectCommand.execute ctx db (.create name description issuePrefix) =
          .ok (.projectCreated p, db') → Access ctx' text source source' db' p := by
  have hblank := hnames.isAllBlank_eq_false
  have hactive := activeWorkspace_of_names hctx hnames
  have hactive' := activeWorkspace_of_names hctx' hnames'
  refine ⟨hactive, WorkspaceSource.isAllBlank_meaning.trans hblank,
    WorkspaceSource.meaning_eq_trim_iff, ?_, ?_⟩
  · -- What was saved is read back as it was given, and nothing trims it.
    intro env env' stamp inv files files' force answer flag h hhome hflag hvariable
    exact Environment.activeWorkspace_eq_ok_iff.2
      ⟨.settings, text, names_of_initDatabase hblank h hhome hflag hvariable, rfl⟩
  · -- Who may work in the project is decided by the name it was created under.
    intro db db' name description issuePrefix p hdb h
    exact access_of_create hdb hactive hactive' h

/-- Files with settings whose default workspace has blanks around it. -/
def paddedFiles : Files where
  nodes := [(["home", ".pipectl", "config.json"],
      .file (.text (Settings.toText { defaultWorkspace := some " ws_acme " }))),
    (["home", ".pipectl"], .directory), (["home"], .directory)]

/-- A command whose workspace these settings name. -/
def paddedContext : Context where
  env := { home := some "/home" }
  files := paddedFiles
  workspace := none
  author := ⟨"tester", ⟨1700000000000, 1⟩⟩

/-- The same command with the text in a flag. -/
def flaggedContext : Context :=
  { paddedContext with workspace := some " ws_acme " }

theorem names_paddedContext :
    paddedContext.env.Names paddedFiles none " ws_acme " .settings := by
  have hload : paddedContext.env.loadSettings paddedFiles =
      .ok { defaultWorkspace := some " ws_acme " } := by decide +kernel
  exact .settings rfl rfl hload rfl (by decide)

theorem names_flaggedContext :
    flaggedContext.env.Names paddedFiles (some " ws_acme ") " ws_acme " .flag :=
  .flag rfl (by decide)

/-- The project that the first command creates. -/
def paddedProject : Project where
  id := "proj_00000001-400"
  name := "Docs"
  workspaceId := " ws_acme "
  description := none
  issuePrefix := some "DOCS"
  nextIssueNumber := 1
  createdAt := 1700000000000
  updatedAt := 1700000000000

/-- The first command creates the project, and the second one may not use it. -/
theorem create_paddedProject :
    ∃ db, ProjectCommand.execute paddedContext (.create 1700000000000)
        (.create "Docs" none none) = .ok (.projectCreated paddedProject, db) ∧
      flaggedContext.scopedProject db paddedProject.id =
        .error (.forbidden "project proj_00000001-400" " ws_acme " "ws_acme") := by
  have hmade : ((Database.create 1700000000000).createProject paddedContext.author
      paddedProject).map (·.1) = .ok () := by decide +kernel
  obtain ⟨⟨_, db⟩, hmade, -⟩ := map_eq_ok_iff.1 hmade
  have hactive : paddedContext.activeWorkspace = .ok " ws_acme " := by decide +kernel
  have hprefix : choosePrefix (.create 1700000000000)
      (Project.create paddedContext.author.stamp "Docs" " ws_acme ") none = .ok (some "DOCS") := by
    decide +kernel
  have hactive' : flaggedContext.activeWorkspace = .ok "ws_acme" := by decide +kernel
  have hblank : ¬ Text.isAllBlank "Docs" = true := by decide
  have hdone : ProjectCommand.execute paddedContext (.create 1700000000000)
      (.create "Docs" none none) = .ok (.projectCreated paddedProject, db) := by
    refine bind_eq_ok_iff.2 ⟨_, hactive, ?_⟩
    rw [if_neg hblank]
    exact bind_eq_ok_iff.2 ⟨_, hprefix, bind_eq_ok_iff.2 ⟨_, hmade, rfl⟩⟩
  have hconsistent : (Database.create 1700000000000).Consistent :=
    (Database.admitted_create _).toConsistent
  obtain ⟨-, -, hfound⟩ := project_of_create hconsistent hactive hdone
  refine ⟨db, hdone, ?_⟩
  rw [scopedProject_eq hactive' hfound]
  rfl

/-- The text is not trimmed in these settings, and the project that is created there is forbidden
when the same text is given by a flag. -/
theorem not_trimmed_paddedContext :
    paddedContext.env.Names paddedFiles none " ws_acme " .settings ∧
      flaggedContext.env.Names paddedFiles (some " ws_acme ") " ws_acme " .flag ∧
      paddedContext.activeWorkspace ≠ .ok (Text.trim " ws_acme ") ∧
      ∃ db, ProjectCommand.execute paddedContext (.create 1700000000000)
          (.create "Docs" none none) = .ok (.projectCreated paddedProject, db) ∧
        flaggedContext.scopedProject db paddedProject.id =
          .error (.forbidden "project proj_00000001-400" " ws_acme " "ws_acme") :=
  ⟨names_paddedContext, names_flaggedContext, by decide +kernel, create_paddedProject⟩

/-- The text names the workspace of both commands, but it does not mean the same in them. -/
theorem access_paddedContext :
    paddedContext.env.Names paddedFiles none " ws_acme " .settings ∧
      flaggedContext.env.Names paddedFiles (some " ws_acme ") " ws_acme " .flag ∧
      paddedContext.activeWorkspace = .ok " ws_acme " ∧
      ¬ WorkspaceSource.settings.Agrees " ws_acme " .flag ∧
      ∃ db, ProjectCommand.execute paddedContext (.create 1700000000000)
          (.create "Docs" none none) = .ok (.projectCreated paddedProject, db) ∧
        Access flaggedContext " ws_acme " .settings .flag db paddedProject := by
  have hflag : paddedContext.workspace = (none : Option String).or paddedContext.env.workspace :=
    rfl
  have hflag' : flaggedContext.workspace =
      (some " ws_acme ").or flaggedContext.env.workspace := rfl
  obtain ⟨hactive, -, -, -, haccess⟩ :=
    access_of_names hflag hflag' names_paddedContext names_flaggedContext
  have hconsistent : (Database.create 1700000000000).Consistent :=
    (Database.admitted_create _).toConsistent
  obtain ⟨db, hdone, -⟩ := create_paddedProject
  exact ⟨names_paddedContext, names_flaggedContext, hactive, by decide +kernel, db, hdone,
    haccess _ _ _ _ _ _ hconsistent hdone⟩

end CommandLine

end ReviewPipeline
