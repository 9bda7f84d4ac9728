import ReviewPipeline.Proofs.ChosenDatabase
import ReviewPipeline.Proofs.Directories

/-!
# Who Is Named in the Audit Log

Every change is recorded with the one who made it. Where no flag names an actor, there is an order
of sources for the name, and an empty text is no name. Two of the sources do not keep to this. On a
command line the variable stands in for the flag, and the flag goes before everything, so an empty
variable is taken as it is; and the user, the last source, is taken without a look at the name. So
there can be events of an actor without a name. All others name the actor that the order prescribes.

## Main definitions

* `Environment.actorSources`, `Environment.prescribedActor`: the order of the sources, and the first
  name among them;
* `Signed`: the audit log has grown, by events of one actor;
* `CommandLine.Signs`: work on a database adds events of the one who acts, or leaves the database as
  it was;
* `CommandLine.OnlyAdds`: every event was there before, or names an actor who is known;
* `CommandLine.gives`: whether a flag is given on a command line.

## Main results

* `Environment.defaultActor_eq_ite`: the default actor is the prescribed one, or without a name;
* `Database.signed_of_perform`: every call that succeeds adds events, and they name its author;
* `CommandLine.events_execute`: so does every command that changes the database;
* `CommandLine.onlyAdds_runAll`: no command line adds an event of anyone else, nor do several;
* `CommandLine.actor_ne_empty_of_runAll`: so all their events name somebody, if all their actors
  have names;
* `CommandLine.recorded_actor`: who that is where no flag names an actor;
* `CommandLine.not_prescribed_unsigned`: an event of an actor without a name.
-/

namespace ReviewPipeline

/-! ### The prescribed order -/

namespace Environment

variable {env : Environment}

/-- What git prints as the name of its user, trimmed, if asking for it succeeds. -/
def gitOutput (env : Environment) : Option String :=
  (env.git.filter (·.exitCode = 0)).map fun answer => Text.trim answer.output

/-- The sources of a name for the actor, in the order in which they are asked. -/
def actorSources (env : Environment) : List (Option String) :=
  [env.actor, env.gitOutput, env.user]

/-- The text of a source, if it is a name: the empty text is none. -/
def named (source : Option String) : Option String :=
  source.filter (!·.isEmpty)

/-- The actor that the order prescribes: the first name among the sources, else nobody known. -/
def prescribedActor (env : Environment) : String :=
  (env.actorSources.findSome? named).getD "unknown"

/-- A source names somebody if it is there and not empty. -/
theorem named_eq_some_iff {source : Option String} {name : String} :
    named source = some name ↔ source = some name ∧ name ≠ "" := by
  simp [named, Option.filter_eq_some_iff]

/-- The actor who ought to be recorded has a name. -/
theorem prescribedActor_ne_empty : env.prescribedActor ≠ "" := by
  unfold prescribedActor
  cases hfound : env.actorSources.findSome? named with
  | none => decide
  | some actor =>
    obtain ⟨source, -, hname⟩ := List.exists_of_findSome?_eq_some hfound
    exact (named_eq_some_iff.1 hname).2

/-- The name that git gives is what it prints, unless that is empty. -/
theorem gitName_eq : env.gitName = named env.gitOutput := by
  unfold gitName gitOutput
  cases env.git with
  | none => rfl
  | some answer =>
    by_cases hexit : answer.exitCode = 0
    · simp [hexit, Text.nonBlank, Text.isAllBlank, named, Option.filter]
    · simp [hexit, named, Option.filter]

/-- The default actor is the first name too, except that the user's is taken as it is. -/
theorem defaultActor_eq : env.defaultActor =
    ((named env.actor).or (env.gitName.or env.user)).getD "unknown" := by
  unfold defaultActor
  split
  all_goals
    next hactor =>
    rw [named, hactor]
    rfl

/-- The actor who ought to be recorded is the first that is named. -/
theorem prescribedActor_eq : env.prescribedActor =
    ((named env.actor).or (env.gitName.or (named env.user))).getD "unknown" := by
  rw [gitName_eq, prescribedActor, actorSources, List.findSome?_cons, List.findSome?_cons,
    List.findSome?_cons, List.findSome?_nil]
  cases named env.actor <;> cases named env.gitOutput <;> cases named env.user <;> rfl

/-- Git gives no name, and that of the user is empty. -/
def HasNamelessUser (env : Environment) : Prop :=
  env.gitName = none ∧ env.user = some ""

instance : Decidable env.HasNamelessUser :=
  inferInstanceAs (Decidable (_ ∧ _))

/-- Without the variable, the actor is the prescribed one unless the user without a name is
taken. -/
theorem getD_user_eq_ite (h : named env.actor = none) :
    (env.gitName.or env.user).getD "unknown" =
      if env.HasNamelessUser then "" else env.prescribedActor := by
  rw [prescribedActor_eq, h, Option.none_or]
  obtain hgit | ⟨name, hgit⟩ := Option.eq_none_or_eq_some env.gitName
  · obtain huser | ⟨user, huser⟩ := Option.eq_none_or_eq_some env.user
    · simp [HasNamelessUser, hgit, huser, named]
    · by_cases hempty : user = ""
      · simp [HasNamelessUser, hgit, huser, hempty]
      · simp [HasNamelessUser, hgit, huser, hempty, named_eq_some_iff.2 ⟨rfl, hempty⟩]
  · simp [HasNamelessUser, hgit]

/-- The default actor is the one who ought to be, unless an empty name is in the way. -/
theorem defaultActor_eq_ite : env.defaultActor =
    if named env.actor = none ∧ env.HasNamelessUser then "" else env.prescribedActor := by
  cases h : named env.actor with
  | none => simpa [defaultActor_eq, h] using getD_user_eq_ite h
  | some actor => simp [defaultActor_eq, prescribedActor_eq, h]

/-- The variable, if it is set, goes before the default actor. -/
theorem getD_defaultActor_eq_ite : env.actor.getD env.defaultActor =
    if env.actor = some "" ∨ env.actor = none ∧ env.HasNamelessUser then ""
    else env.prescribedActor := by
  cases hactor : env.actor with
  | none => simp [defaultActor_eq_ite, hactor, named]
  | some actor =>
    by_cases hempty : actor = ""
    · simp [hempty]
    · have hnamed : named env.actor = some actor := named_eq_some_iff.2 ⟨hactor, hempty⟩
      simp [hempty, prescribedActor_eq, hnamed]

end Environment

/-! ### Signed events -/

/-- The audit log has grown, by events of one actor. -/
def Signed (actor : String) (before after : List (Row Event)) : Prop :=
  ∃ added, after = before ++ added ∧ added ≠ [] ∧ ∀ row ∈ added, row.record.actor = actor

namespace Database

variable {db db' : Database} {author : Author} {op : Operation} {reply : Reply} {issue : Issue}
  {t : Transition}

/-- All events of one change have the same actor. -/
theorem actor_of_mem_eventRows {last : Int} {drafts : List EventDraft} {row : Row Event}
    (h : row ∈ eventRows author last drafts) : row.record.actor = author.actor := by
  induction drafts generalizing last with
  | nil => cases h
  | cons draft drafts ih =>
    rcases List.mem_cons.1 h with rfl | hrest
    · rfl
    · exact ih hrest

/-- Whoever notes events signs them. -/
theorem signed_eventRows {drafts : List EventDraft} (last : Int) (before : List (Row Event))
    (h : drafts ≠ []) : Signed author.actor before (before ++ eventRows author last drafts) := by
  refine ⟨_, rfl, ?_, fun row hrow => actor_of_mem_eventRows hrow⟩
  obtain ⟨draft, rest, rfl⟩ := List.exists_cons_of_ne_nil h
  exact List.cons_ne_nil _ _

/-- A transition is signed. -/
theorem signed_transitioned (db : Database) (author : Author) (issue : Issue) (t : Transition) :
    Signed author.actor db.events (db.transitioned author issue t).events :=
  signed_eventRows _ _ transitionEvents_ne_nil

/-- A change that notes something is signed. -/
theorem signed_of_commit {α : Type} {change : Change α} {a : α} (hevents : change.events ≠ [])
    (h : change.commit author = .ok (a, db')) :
    Signed author.actor change.db.events db'.events := by
  obtain ⟨-, -, rfl⟩ := commit_eq_ok_iff.1 h
  exact signed_eventRows _ _ hevents

/-- A recorded signal is signed. -/
theorem signed_recordGate {text : String} {status : GateStatus} {error : Option String}
    {cursor : Cursor} (h : db.recordGate author text status error = .ok (cursor, db')) :
    Signed author.actor db.events db'.events := by
  simp only [recordGate, bind_eq_ok_iff] at h
  obtain ⟨issue, -, gated, hput, read, -, h⟩ := h
  rw [putGate, putCursor_eq_ok_iff] at hput
  obtain ⟨-, -, rfl⟩ := hput
  split at h
  · exact signed_of_commit (List.cons_ne_nil _ _) h
  · cases h

/-- A completion is signed. -/
theorem signed_complete {text : String} {agent notes : Option String} {completion : Completion}
    (h : db.complete author text agent notes = .ok (completion, db')) :
    Signed author.actor db.events db'.events := by
  unfold complete at h
  obtain ⟨s, hs, h⟩ := bind_eq_ok_iff.1 h
  split at h
  · cases h
  simp only [bind_eq_ok_iff] at h
  obtain ⟨t, hplan, ⟨u, after⟩, happly, hreply⟩ := h
  cases hreply
  obtain ⟨-, -, rfl⟩ := transitioned_of_situation hs
    (Progression.planned_of_planCompletion hplan).1 happly
  exact signed_transitioned db author _ _

/-- A rejection is signed. -/
theorem signed_reject {text reason : String} {agent : Option String} {rejection : Rejection}
    (h : db.reject author text agent reason = .ok (rejection, db')) :
    Signed author.actor db.events db'.events := by
  unfold reject at h
  split at h
  · cases h
  simp only [bind_eq_ok_iff] at h
  obtain ⟨s, hs, t, hplan, ⟨u, after⟩, happly, hreply⟩ := h
  obtain ⟨-, -, rfl⟩ := transitioned_of_situation hs
    (Progression.planned_of_planRejection hplan).1 happly
  split at hreply
  · cases hreply
    exact signed_transitioned db author _ _
  · cases hreply

/-- Every call that succeeds adds events, and they name its author. -/
theorem signed_of_perform (hcall : op.isCall = true)
    (h : db.perform author op = .ok (reply, db')) : Signed author.actor db.events db'.events := by
  cases op with
  | createProject p =>
    simp only [perform, answer_eq_ok_iff] at h
    obtain ⟨_, h, -⟩ := h
    -- The rows of noted events are never none, and the author has signed all of them.
    cases createProject_called h
    exact signed_eventRows _ _ (List.cons_ne_nil _ _)
  | createIssue projectId title description =>
    simp only [perform, answer_eq_ok_iff] at h
    obtain ⟨_, h, -⟩ := h
    cases createIssue_called h
    exact signed_eventRows _ _ (List.cons_ne_nil _ _)
  | addStep new =>
    simp only [perform, answer_eq_ok_iff] at h
    obtain ⟨_, h, -⟩ := h
    cases addStep_called h
    exact signed_eventRows _ _ (List.cons_ne_nil _ _)
  | restaffStep stepId agent =>
    simp only [perform, answer_eq_ok_iff] at h
    obtain ⟨_, h, -⟩ := h
    simp only [restaffStep, bind_eq_ok_iff] at h
    obtain ⟨found, -, assigned, hassign, h⟩ := h
    obtain ⟨-, rfl⟩ := assignStep_eq_ok_iff.1 hassign
    exact signed_of_commit (List.cons_ne_nil _ _) h
  | recordGate issueId status error =>
    simp only [perform, answer_eq_ok_iff] at h
    obtain ⟨_, h, -⟩ := h
    exact signed_recordGate h
  | resetPipeline issueId =>
    simp only [perform, answer_eq_ok_iff] at h
    obtain ⟨_, h, -⟩ := h
    cases resetPipeline_called h
    exact signed_eventRows _ _ (List.cons_ne_nil _ _)
  | complete issueId agent notes =>
    simp only [perform, answer_eq_ok_iff] at h
    obtain ⟨_, h, -⟩ := h
    exact signed_complete h
  | reject issueId agent reason =>
    simp only [perform, answer_eq_ok_iff] at h
    obtain ⟨_, h, -⟩ := h
    exact signed_reject h
  | write | batch | applySchema | raw => cases hcall

end Database

/-! ### Commands -/

namespace CommandLine

variable {ctx : Context} {db db' : Database} {answer : Answer} {looks : Bool}

/-- If work on a database answers something, events of the one who acts have been added; and if it
only looks, the database is as it was. -/
def Signs (ctx : Context) (db : Database) (looks : Bool)
    (result : Except Error (Answer × Database)) : Prop :=
  ∀ answer db', result = .ok (answer, db') →
    if looks then db' = db else Signed ctx.author.actor db.events db'.events

/-- Work after a look-up is signed if it always is. -/
theorem signs_bind {α : Type} {x : Except Error α} {f : α → Except Error (Answer × Database)}
    (h : ∀ a, Signs ctx db looks (f a)) : Signs ctx db looks (x >>= f) := by
  intro answer db' hdone
  obtain ⟨a, -, hf⟩ := bind_eq_ok_iff.1 hdone
  exact h a answer db' hf

/-- What fails has nothing to be signed. -/
theorem signs_error {e : Error} : Signs ctx db looks (.error e) :=
  fun _ _ hdone => nomatch hdone

/-- Work that only looks has nothing to be signed. -/
theorem signs_same : Signs ctx db true (.ok (answer, db)) := by
  intro _ _ hdone
  cases hdone
  rfl

/-- Work that ends with a call adds the events of the call. -/
theorem signs_call {α : Type} {x : Except Error (α × Database)} {toAnswer : α × Database → Answer}
    (op : Operation) (toReply : α → Reply)
    (hop : db.perform ctx.author op = Database.answer toReply x) (hcall : op.isCall = true) :
    Signs ctx db false (x >>= fun made => .ok (toAnswer made, made.2)) := by
  intro answer db' hdone
  obtain ⟨a, hx⟩ := exists_of_bind hdone
  exact Database.signed_of_perform hcall (hop.trans (Database.answer_eq_ok_iff.2 ⟨a, hx, rfl⟩))

/-- A command about projects signs what it changes. -/
theorem signs_project (command : ProjectCommand) :
    Signs ctx db (Command.project command).onlyLooks (command.execute ctx db) := by
  cases command with
  | create name description issuePrefix =>
    refine signs_bind fun workspace => ?_
    split
    · exact signs_error
    · exact signs_bind fun chosen =>
        signs_call (.createProject _) (fun _ => .project _) rfl rfl
  | list limit => exact signs_bind fun _ => signs_bind fun _ => signs_same
  | inspect id => exact signs_bind fun _ => signs_bind fun _ => signs_same

/-- A command about issues signs what it changes. -/
theorem signs_issue (command : IssueCommand) :
    Signs ctx db (Command.issue command).onlyLooks (command.execute ctx db) := by
  cases command with
  | create title project description =>
    unfold IssueCommand.execute
    dsimp only
    split
    · exact signs_error
    · exact signs_bind fun _ => signs_call (.createIssue _ _ _) .issue rfl rfl
  | list project status limit =>
    refine signs_bind fun _ => ?_
    cases status with
    | some word => exact signs_bind fun _ => signs_bind fun _ => signs_same
    | none => exact signs_bind fun _ => signs_bind fun _ => signs_same
  | inspect id => exact signs_bind fun _ => signs_same

/-- A command about steps signs what it changes. -/
theorem signs_step (command : StepCommand) :
    Signs ctx db (Command.step command).onlyLooks (command.execute ctx db) := by
  cases command with
  | add name project stepType agent autoAdvance number =>
    exact signs_bind fun _ => signs_bind fun _ => signs_call (.addStep _) .step rfl rfl
  | list project => exact signs_bind fun _ => signs_bind fun _ => signs_same
  | restaff id agent =>
    exact signs_bind fun _ => signs_bind fun _ => signs_call (.restaffStep _ _) .step rfl rfl

/-- A command about pipelines signs what it changes. -/
theorem signs_pipeline (command : PipelineCommand) :
    Signs ctx db (Command.pipeline command).onlyLooks (command.execute ctx db) := by
  cases command with
  | advance issue agent notes =>
    exact signs_bind fun _ => signs_call (.complete _ _ _) .completion rfl rfl
  | reject issue reason agent =>
    exact signs_bind fun _ => signs_call (.reject _ _ _) .rejection rfl rfl
  | status issue => exact signs_bind fun _ => signs_bind fun _ => signs_same
  | history issue => exact signs_bind fun _ => signs_same
  | reset issue =>
    exact signs_bind fun _ => signs_call (.resetPipeline _) (fun _ => .done) rfl rfl

/-- Recording a signal of the gate is signed. -/
theorem signs_recordGate (issue : String) (status : GateStatus) (error : Option String) :
    Signs ctx db false (recordGate ctx db issue status error) :=
  signs_bind fun _ => signs_call (.recordGate _ _ _) .cursor rfl rfl

/-! ### What is stored -/

variable {env : Environment} {stamp : Stamp} {inv : Invocation} {files files' : Files}
  {place : Location} {screen : Screen} {arguments : List String}

/-- A database that is open is in no directory. -/
theorem at?_ne_directory_of_openExisting {now : Int} {opened : Opened}
    (hplace : placeOf env inv files = some place)
    (hopen : openExisting env now inv files = (.ok opened, files')) :
    files.at? place ≠ some .directory := by
  intro hdirectory
  obtain ⟨name, hname, hopened⟩ := exists_name_of_openExisting hopen
  rw [placeOf, hname, Option.bind_some] at hplace
  obtain ⟨fault, hcases⟩ | ⟨connected, made, hconnects, hcases⟩ :=
    Files.openDatabase_cases files name now (waitOf env files)
  · cases hcases.symm.trans hopened
  rw [hcases] at hopened
  split at hopened
  · cases hopened
  cases hconnects with
  | transient haddress htransient =>
    simp [Files.databasePlace?, haddress, htransient] at hplace
  | directory => cases hopened
  | file haddress htransient hlocation hfound | made haddress htransient hlocation hfound =>
    -- What is at the place is a file, or nothing is there yet.
    rw [Files.databasePlace?_eq haddress htransient, hlocation] at hplace
    obtain rfl := Option.some.inj hplace
    cases hfound.symm.trans hdirectory

/-- A database that was opened from a file is saved there. -/
theorem rows_save_of_openExisting {now : Int} {opened : Opened}
    (hplace : placeOf env inv files = some place)
    (hopen : openExisting env now inv files = (.ok opened, files')) (db : Database) :
    (files'.save opened db).rows place = db.rows := by
  have hlocation : opened.location = some place := (location_of_openExisting hopen).trans hplace
  -- Opening it has made no directory of the place.
  have hfree : files'.at? place ≠ some .directory := by
    obtain ⟨name, -, hopened⟩ := exists_name_of_openExisting hopen
    have hsame : files.SameDirectories (files.openDatabase name now (waitOf env files)).2 :=
      Files.sameDirectories_openDatabase
    rw [hopened] at hsame
    exact hsame.ne_directory (at?_ne_directory_of_openExisting hplace hopen)
  rw [Files.save, hlocation, Files.rows, Files.at?_put_self,
    if_neg (Files.SameDirectories.not_isPrefixOf hfree)]
  rfl

/-- Work on a database that answers something is done on the rows of the place, and what it makes of
them stands there afterwards. -/
theorem stored_withDatabase {work : Context → Database → Except Error (Answer × Database)}
    (hplace : placeOf env inv files = some place)
    (h : (withDatabase env stamp inv files work).1 = .ok answer) :
    ∃ db db', work (contextOf env stamp inv files) db = .ok (answer, db') ∧
      db.rows = files.rows place ∧
      (withDatabase env stamp inv files work).2.rows place = db'.rows := by
  unfold withDatabase at h ⊢
  split at h
  · cases h
  next opened files' hopen =>
  have hcontext : contextOf env stamp inv files =
      ⟨env, files', inv.workspace, actorOf env inv, stamp⟩ := by rw [contextOf, hopen]
  dsimp only at h ⊢
  rw [← hcontext] at h ⊢
  cases hdone : work (contextOf env stamp inv files) opened.database with
  | error e =>
    rw [hdone] at h
    cases h
  | ok made =>
    rw [hdone] at h
    cases h
    have hread := ((opens_of_openExisting hplace hopen).opened opened rfl).2
    exact ⟨opened.database, made.2, hdone, hread, rows_save_of_openExisting hplace hopen made.2⟩

/-- The events at the place of a command after it. -/
theorem events_withDatabase {work : Context → Database → Except Error (Answer × Database)}
    (hplace : placeOf env inv files = some place)
    (hwork : ∀ ctx db, Signs ctx db looks (work ctx db))
    (h : (withDatabase env stamp inv files work).1 = .ok answer) :
    if looks then
      ((withDatabase env stamp inv files work).2.rows place).events = (files.rows place).events
    else
      Signed (actorOf env inv) (files.rows place).events
        ((withDatabase env stamp inv files work).2.rows place).events := by
  obtain ⟨db, db', hdone, hread, hwritten⟩ := stored_withDatabase hplace h
  have hsigns := hwork _ db answer db' hdone
  rw [hwritten, ← hread]
  split
  · next hlooks =>
    rw [if_pos hlooks] at hsigns
    rw [hsigns]
  · next hlooks =>
    rw [if_neg hlooks] at hsigns
    exact hsigns

/-- A command that is answered adds events of its actor, unless it makes the database or only
looks; if it only looks, the events are as before. -/
theorem events_execute (hplace : placeOf env inv files = some place)
    (hinit : ∀ force workspace, inv.command ≠ .init force workspace)
    (h : (execute env stamp inv files).1 = .ok answer) :
    if inv.command.onlyLooks then
      ((execute env stamp inv files).2.rows place).events = (files.rows place).events
    else
      Signed (actorOf env inv) (files.rows place).events
        ((execute env stamp inv files).2.rows place).events := by
  unfold execute at h ⊢
  cases hcommand : inv.command with
  | init force workspace => exact absurd hcommand (hinit force workspace)
  | version => rfl
  | completions shell => rfl
  | project command =>
    rw [hcommand] at h
    exact events_withDatabase hplace (fun _ _ => signs_project command) h
  | issue command =>
    rw [hcommand] at h
    exact events_withDatabase hplace (fun _ _ => signs_issue command) h
  | step command =>
    rw [hcommand] at h
    exact events_withDatabase hplace (fun _ _ => signs_step command) h
  | pipeline command =>
    rw [hcommand] at h
    exact events_withDatabase hplace (fun _ _ => signs_pipeline command) h
  | recordGate issue word error =>
    rw [hcommand] at h
    -- The word for the status is looked at first; if it is refused, there is no answer.
    dsimp only at h ⊢
    split at h
    · cases h
    · next status _ =>
      exact events_withDatabase hplace (fun _ _ => signs_recordGate issue status error) h

/-! ### What is added at a place -/

variable {before : List (Row Event)} {known : String → Prop}

/-- Every event of the rows was there before, or names an actor who is known. -/
def OnlyAdds (before : List (Row Event)) (known : String → Prop) (rows : Rows) : Prop :=
  ∀ row ∈ rows.events, row ∈ before ∨ known row.record.actor

/-- Where there are no rows, nobody has signed anything. -/
theorem onlyAdds_empty : OnlyAdds before known {} :=
  fun _ hrow => nomatch hrow

/-- Signed events are added by the actor who signs them. -/
theorem onlyAdds_of_signs (hsigns : Signs ctx db looks (.ok (answer, db')))
    (hactor : known ctx.author.actor) (h : OnlyAdds before known db.rows) :
    OnlyAdds before known db'.rows := by
  have hevents := hsigns answer db' rfl
  split at hevents
  · rw [hevents]
    exact h
  · obtain ⟨added, hadded, -, hsigned⟩ := hevents
    intro row hrow
    have hrow : row ∈ db.events ++ added := hadded ▸ hrow
    rcases List.mem_append.1 hrow with hold | hnew
    · exact h row hold
    · exact .inr (hsigned row hnew ▸ hactor)

/-- Work on a database only adds what its actor has signed. -/
theorem onlyAdds_withDatabase {work : Context → Database → Except Error (Answer × Database)}
    (hwork : ∀ ctx db, Signs ctx db looks (work ctx db)) (hactor : known (actorOf env inv))
    (h : files.Meets place (OnlyAdds before known)) :
    (withDatabase env stamp inv files work).2.Meets place (OnlyAdds before known) := by
  refine meets_withDatabase_of_work onlyAdds_empty (fun ctx db answer db' hctx hdone => ?_) h
  have hsigns := hwork ctx db
  rw [hdone] at hsigns
  exact onlyAdds_of_signs hsigns (hctx ▸ hactor)

/-- Whatever a command is and however it ends, at no place is there an event after it that was not
there before and does not name its actor. -/
theorem onlyAdds_execute (hactor : known (actorOf env inv))
    (h : files.Meets place (OnlyAdds before known)) :
    (execute env stamp inv files).2.Meets place (OnlyAdds before known) := by
  unfold execute
  split
  · exact meets_initDatabase onlyAdds_empty h
  · exact h
  · exact h
  · exact onlyAdds_withDatabase (fun _ _ => signs_project _) hactor h
  · exact onlyAdds_withDatabase (fun _ _ => signs_issue _) hactor h
  · exact onlyAdds_withDatabase (fun _ _ => signs_step _) hactor h
  · exact onlyAdds_withDatabase (fun _ _ => signs_pipeline _) hactor h
  · split
    · exact h
    · exact onlyAdds_withDatabase (fun _ _ => signs_recordGate _ _ _) hactor h

/-- Whatever a command line is, at no place is there an event after it that was not there before, or
that its actor has not signed. -/
theorem onlyAdds_run (hactor : ∀ inv, read env arguments = .ok inv → known (actorOf env inv))
    (h : files.Meets place (OnlyAdds before known)) :
    (run env stamp screen arguments files).2.Meets place (OnlyAdds before known) := by
  unfold run
  split
  · exact h
  · exact h
  · next inv hread =>
    rw [runInvocation_files]
    exact onlyAdds_execute (hactor inv hread) h

/-- Several command lines add no event of anyone but their actors. -/
theorem onlyAdds_runAll {lines : List Line}
    (hactors : ∀ line ∈ lines, ∀ inv, read line.env line.arguments = .ok inv →
      known (actorOf line.env inv))
    (h : files.Meets place (OnlyAdds before known)) :
    (runAll files lines).Meets place (OnlyAdds before known) := by
  -- By induction on the lines, each of which adds only events of its own actor.
  induction lines generalizing files with
  | nil => exact h
  | cons line lines ih =>
    obtain ⟨hline, hlines⟩ := List.forall_mem_cons.1 hactors
    exact ih hlines (onlyAdds_run hline h)

/-- As long as no command line takes an empty text for its actor, every event that they have
recorded names somebody. -/
theorem actor_ne_empty_of_runAll {lines : List Line}
    (hactors : ∀ line ∈ lines, ∀ inv, read line.env line.arguments = .ok inv →
      actorOf line.env inv ≠ "")
    (hfresh : files.rows place = {}) :
    ∀ row ∈ ((runAll files lines).rows place).events, row.record.actor ≠ "" := by
  have hadds : (runAll files lines).Meets place (OnlyAdds [] (· ≠ "")) := by
    refine onlyAdds_runAll hactors ?_
    rw [Files.Meets, hfresh]
    exact onlyAdds_empty
  exact fun row hrow => (hadds row hrow).resolve_left List.not_mem_nil

/-! ### Command lines without the flag -/

/-- Whether a flag is given, at any level. -/
def gives (flag : Flag) (arguments : List String) : Bool :=
  match readFrom .start arguments >>= Progress.finish with
  | .ok levels => levels.any (·.has flag)
  | .error _ => false

/-- Without a flag for the actor, a command line takes its actor from the variable. -/
theorem actor_of_read (hread : read env arguments = .ok inv)
    (hnone : gives .actor arguments = false) : inv.actor = env.actor := by
  rw [read_eq] at hread
  obtain ⟨p, hreached, hread⟩ := bind_eq_ok_iff.1 hread
  obtain ⟨levels, hfinish, hread⟩ := bind_eq_ok_iff.1 hread
  have habsent : ∀ given ∈ levels, given.has .actor = false := by
    simpa [gives, bind_eq_ok_iff.2 ⟨p, hreached, hfinish⟩] using hnone
  split at hread
  · cases hread
  · dsimp only at hread
    split at hread
    · cases hread
    · cases hread
      exact globalValue_eq habsent

/-- Without a flag, the actor is the one who ought to be, unless an empty name is in the way. -/
theorem actorOf_eq_ite (hread : read env arguments = .ok inv)
    (hnone : gives .actor arguments = false) : actorOf env inv =
      if env.actor = some "" ∨ env.actor = none ∧ env.HasNamelessUser then ""
      else env.prescribedActor := by
  rw [actorOf, actor_of_read hread hnone, Environment.getD_defaultActor_eq_ite]

/-- Without a flag for the actor, the events that a command line adds, at whatever place, name the
variable's, or if it is not set the default actor; and a command that changes the database does add
some. That is the actor whom the order prescribes, and who has a name, unless an empty text is taken
for one: that of the variable, or without it and without a name from git that of the user. -/
theorem recorded_actor (hread : read env arguments = .ok inv)
    (hnone : gives .actor arguments = false) :
    env.prescribedActor ≠ "" ∧
      env.defaultActor =
        (if Environment.named env.actor = none ∧ env.HasNamelessUser then ""
          else env.prescribedActor) ∧
      actorOf env inv =
        (if env.actor = some "" ∨ env.actor = none ∧ env.HasNamelessUser then ""
          else env.prescribedActor) ∧
      ∀ stamp screen files place,
        let ended := run env stamp screen arguments files
        (∀ row ∈ (ended.2.rows place).events,
          row ∈ (files.rows place).events ∨ row.record.actor = actorOf env inv) ∧
        (placeOf env inv files = some place →
          (∀ force workspace, inv.command ≠ .init force workspace) →
          inv.command.onlyLooks = false → ended.1.exitCode = 0 →
          Signed (actorOf env inv) (files.rows place).events (ended.2.rows place).events) := by
  -- The last part is about the files, and they are those of the command alone.
  refine ⟨Environment.prescribedActor_ne_empty, Environment.defaultActor_eq_ite,
    actorOf_eq_ite hread hnone, fun stamp screen files place => ?_⟩
  rw [run, hread]
  dsimp only
  rw [runInvocation_files]
  constructor
  · have hadds : (execute env stamp inv files).2.Meets place
        (OnlyAdds (files.rows place).events (· = actorOf env inv)) :=
      onlyAdds_execute rfl fun _ hrow => .inl hrow
    exact hadds
  intro hplace hinit hchanges hexit
  -- Exit code zero means that there is an answer, and so that the work was signed.
  obtain ⟨answer, hanswer⟩ := exists_answer_of_exitCode_eq_zero hexit
  have hevents := events_execute hplace hinit hanswer
  rwa [hchanges] at hevents

/-- A command line that creates a project. -/
def creatingDocs : List String :=
  ["--db", "/docs.db", "project", "create", "Docs"]

/-- Files with a database in which nothing is yet. -/
def blankFiles : Files where
  nodes := [(["docs.db"], .file (.database (.create 1) .ahead))]

/-- An environment in which the variable for the actor is set to the empty text, and the user has a
name. -/
def unsigned : Environment where
  home := some "/home"
  user := some "bob"
  workspace := some "home"
  actor := some ""

/-- The event is recorded for an actor without a name there, where the user should be named. And
where all that is known is a user without a name, the default actor has none either. -/
theorem not_prescribed_unsigned :
    let ended := run unsigned ⟨7, 7⟩ ⟨false, false⟩ creatingDocs blankFiles
    gives .actor creatingDocs = false ∧ unsigned.prescribedActor = "bob" ∧
      ended.1.exitCode = 0 ∧
      (ended.2.rows ["docs.db"]).events.map (·.record.actor) = [""] ∧
      Environment.prescribedActor { user := some "" } = "unknown" ∧
      Environment.defaultActor { user := some "" } = "" := by
  decide +kernel

/-- Where git gives a name it is recorded, although the user has none. -/
theorem recorded_actor_git :
    let env : Environment :=
      { home := some "/home", user := some "", workspace := some "home", git := some ⟨"Ada\n", 0⟩ }
    let ended := run env ⟨7, 7⟩ ⟨false, false⟩ creatingDocs blankFiles
    ∃ inv, read env creatingDocs = .ok inv ∧ gives .actor creatingDocs = false ∧
      placeOf env inv blankFiles = some ["docs.db"] ∧
      (∀ force workspace, inv.command ≠ .init force workspace) ∧
      inv.command.onlyLooks = false ∧ ended.1.exitCode = 0 ∧
      env.prescribedActor = "Ada" ∧ actorOf env inv = env.prescribedActor ∧
      Signed env.prescribedActor (blankFiles.rows ["docs.db"]).events
        (ended.2.rows ["docs.db"]).events := by
  intro env ended
  let inv : Invocation :=
    ⟨.project (.create "Docs" none none), some "/docs.db", none, some "home", false, false, false⟩
  have hread : read env creatingDocs = .ok inv := by decide +kernel
  have hnone : gives .actor creatingDocs = false := by decide +kernel
  have hplace : placeOf env inv blankFiles = some ["docs.db"] := by decide +kernel
  have hexit : ended.1.exitCode = 0 := by decide +kernel
  obtain ⟨-, -, hactor, hruns⟩ := recorded_actor hread hnone
  have hnamed : ¬ (env.actor = some "" ∨ env.actor = none ∧ env.HasNamelessUser) := by
    decide +kernel
  rw [if_neg hnamed] at hactor
  obtain ⟨-, hsigned⟩ := hruns ⟨7, 7⟩ ⟨false, false⟩ blankFiles ["docs.db"]
  refine ⟨inv, hread, hnone, hplace, nofun, rfl, hexit, by decide +kernel, hactor, ?_⟩
  rw [← hactor]
  exact hsigned hplace nofun rfl hexit

end CommandLine

end ReviewPipeline
