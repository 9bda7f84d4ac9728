import ReviewPipeline.Proofs.Failures
import ReviewPipeline.Proofs.Tidy

/-!
# Commands as Calls

A command does nothing to the database that it has opened, or what one call does. Everything else
that it does to files leaves the rows at a place as they are, or leaves none. So whatever calls
keep, and holds where there are no rows, is kept at every place by whole command lines.

## Main definitions

* `Calls`: the database is as it was, or as a call has left it;
* `Files.Meets`: the rows at a place meet a condition;
* `KeptByCalls`: a condition on rows that calls keep.

## Main results

* `calls_project`, `calls_issue`, `calls_step`, `calls_pipeline`, `calls_recordGate`: what commands
  do to a database;
* `meets_run`: what calls keep, command lines keep.
-/

namespace ReviewPipeline

namespace CommandLine

variable {ctx : Context} {db db' : Database} {author : Author} {answer : Answer}

/-- If work on a database answers something, the database is as it was, or as a call has left it. -/
def Calls (db : Database) (author : Author) (result : Except Error (Answer × Database)) : Prop :=
  ∀ answer db', result = .ok (answer, db') →
    db' = db ∨ ∃ op reply, op.isCall = true ∧ op.IsOrderly ∧ op.IsTidy ∧
      db.perform author op = .ok (reply, db')

/-- Work after a look-up makes a call if it always does. -/
theorem calls_bind {α : Type} {x : Except Error α} {f : α → Except Error (Answer × Database)}
    (h : ∀ a, x = .ok a → Calls db author (f a)) : Calls db author (x >>= f) := by
  intro answer db' hresult
  obtain ⟨a, hx, hf⟩ := bind_eq_ok_iff.1 hresult
  exact h a hx answer db' hf

/-- Looking only makes no call, and leaves the database. -/
theorem calls_same : Calls db author (.ok (answer, db)) := by
  intro _ _ hresult
  cases hresult
  exact .inl rfl

/-- What fails makes no call that counts. -/
theorem calls_error {e : Error} : Calls db author (.error e) :=
  fun _ _ hresult => nomatch hresult

/-- The last thing that work on a database does may be a call. -/
theorem calls_of_ok {α : Type} {x : Except Error (α × Database)} {made : α × Database}
    (op : Operation) (toReply : α → Reply) (hx : x = .ok made)
    (hop : db.perform author op = Database.answer toReply x) (hcall : op.isCall = true)
    (horderly : op.IsOrderly) (htidy : op.IsTidy) : Calls db author (.ok (answer, made.2)) := by
  intro _ _ hresult
  cases hresult
  exact .inr ⟨op, toReply made.1, hcall, horderly, htidy, hop.trans (by rw [hx]; rfl)⟩

/-- Whatever number is put behind it, a prefix stays one in upper case. -/
theorem isUpperPrefix_firstFreePrefix {base : String} (h : IsUpperPrefix base) (tries n : Nat) :
    IsUpperPrefix (db.firstFreePrefix base tries n) := by
  -- Every candidate is one, so it does not matter which of them is free.
  have hcandidate : ∀ n, IsUpperPrefix (Database.prefixCandidate base n) := by
    intro n
    unfold Database.prefixCandidate
    split
    · exact h
    · exact h.append_showNat (n + 1)
  induction tries generalizing n with
  | zero => exact hcandidate n
  | succ tries ih =>
    unfold Database.firstFreePrefix
    split
    · exact hcandidate n
    · exact ih (n + 1)

/-- The prefix that is chosen for a new project is one of digits and upper-case letters. -/
theorem isUpperPrefix_of_choosePrefix {stamp : Stamp} {name workspace : String}
    {named chosen : Option String}
    (h : choosePrefix db (Project.create stamp name workspace) named = .ok chosen) :
    ∃ text, chosen = some text ∧ IsUpperPrefix text := by
  unfold choosePrefix at h
  split at h
  · next text =>
    dsimp only at h
    split at h
    · cases h
    · next hletters =>
      simp only [Bool.or_eq_true, not_or, Bool.not_eq_true', Bool.not_eq_false] at hletters
      cases h
      exact ⟨_, rfl, .of_upperCase (by simpa using hletters.1) (by simpa using hletters.2)⟩
  · cases h
    exact ⟨_, rfl, isUpperPrefix_firstFreePrefix (.derivedPrefix name) _ _⟩

/-- A command about projects makes at most one call. -/
theorem calls_project (command : ProjectCommand) :
    Calls db ctx.author (command.execute ctx db) := by
  cases command with
  | create name description issuePrefix =>
    refine calls_bind fun workspace _ => ?_
    split
    · exact calls_error
    · next hname =>
      refine calls_bind fun chosen hchosen => calls_bind fun _ hmade => ?_
      obtain ⟨text, htext, hletters⟩ := isUpperPrefix_of_choosePrefix hchosen
      refine calls_of_ok (.createProject _) (fun _ => .project _) hmade rfl rfl
        ⟨rfl, text, htext, hletters.isIssuePrefix⟩ ⟨?_, text, htext, hletters⟩
      exact Text.isTidy_trim (Bool.eq_false_iff.2 hname)
  | list limit => exact calls_bind fun _ _ => calls_bind fun _ _ => calls_same
  | inspect id => exact calls_bind fun _ _ => calls_bind fun _ _ => calls_same

/-- A command about issues makes at most one call. -/
theorem calls_issue (command : IssueCommand) : Calls db ctx.author (command.execute ctx db) := by
  cases command with
  | create title project description =>
    unfold IssueCommand.execute
    dsimp only
    split
    · exact calls_error
    · next htitle =>
      exact calls_bind fun _ _ => calls_bind fun _ hmade =>
        calls_of_ok (.createIssue _ _ _) .issue hmade rfl rfl trivial
          (Text.isTidy_trim (Bool.eq_false_iff.2 htitle))
  | list project status limit =>
    refine calls_bind fun _ _ => ?_
    cases status with
    | some word => exact calls_bind fun _ _ => calls_bind fun _ _ => calls_same
    | none => exact calls_bind fun _ _ => calls_bind fun _ _ => calls_same
  | inspect id => exact calls_bind fun _ _ => calls_same

/-- A command about steps makes at most one call. -/
theorem calls_step (command : StepCommand) : Calls db ctx.author (command.execute ctx db) := by
  cases command with
  | add name project stepType agent autoAdvance number =>
    exact calls_bind fun _ _ => calls_bind fun _ _ => calls_bind fun _ hmade =>
      calls_of_ok (.addStep _) .step hmade rfl rfl trivial (Text.isTidyOption_nonBlank agent)
  | list project => exact calls_bind fun _ _ => calls_bind fun _ _ => calls_same
  | restaff id agent =>
    exact calls_bind fun _ _ => calls_bind fun _ _ => calls_bind fun _ hmade =>
      calls_of_ok (.restaffStep _ _) .step hmade rfl rfl trivial (Text.isTidyOption_nonBlank agent)

/-- A command about pipelines makes at most one call. -/
theorem calls_pipeline (command : PipelineCommand) :
    Calls db ctx.author (command.execute ctx db) := by
  cases command with
  | advance issue agent notes =>
    exact calls_bind fun _ _ => calls_bind fun _ hmade =>
      calls_of_ok (.complete _ _ _) .completion hmade rfl rfl trivial trivial
  | reject issue reason agent =>
    exact calls_bind fun _ _ => calls_bind fun _ hmade =>
      calls_of_ok (.reject _ _ _) .rejection hmade rfl rfl trivial trivial
  | status issue => exact calls_bind fun _ _ => calls_bind fun _ _ => calls_same
  | history issue => exact calls_bind fun _ _ => calls_same
  | reset issue =>
    exact calls_bind fun found _ => calls_bind fun _ hdone =>
      calls_of_ok (.resetPipeline found.id) (fun _ => .done) hdone rfl rfl trivial trivial

/-- Recording a signal of the gate makes at most one call. -/
theorem calls_recordGate (issue : String) (status : GateStatus) (error : Option String) :
    Calls db ctx.author (recordGate ctx db issue status error) :=
  calls_bind fun _ _ => calls_bind fun _ hmade =>
    calls_of_ok (.recordGate _ _ _) .cursor hmade rfl rfl trivial (Text.isTidyOption_nonBlank error)

end CommandLine

/-! ### The rows at a place -/

namespace Files

variable {P : Rows → Prop} {files files' : Files} {place location : Location} {node : Node}
  {path text : String} {start : Location} {names : List String}

/-- The rows at a place meet a condition. -/
def Meets (place : Location) (P : Rows → Prop) (files : Files) : Prop :=
  P (files.rows place)

variable (hnone : P {})

include hnone

/-- What is put at a place has to meet the condition there. -/
theorem Meets.put (h : files.Meets place P)
    (hnode : ∀ content, node = .file content → location = place → P content.rows) :
    (files.put location node).Meets place P := by
  by_cases hplace : place = location
  · subst hplace
    rw [Meets, rows, at?_put_self]
    by_cases hfixed : place.isPrefixOf files.workingDirectory = true
    · rw [if_pos hfixed]
      exact hnone
    · rw [if_neg hfixed]
      cases node with
      | directory => exact hnone
      | file content => exact hnode content rfl rfl
  · rw [Meets, rows, at?_put_of_ne hplace]
    exact h

/-- Nothing is there to fail the condition where something was dropped. -/
theorem Meets.drop (h : files.Meets place P) : (files.drop location).Meets place P := by
  by_cases hplace : place = location
  · rw [Meets, hplace, rows_drop_self]
    exact hnone
  · rw [Meets, rows, at?_drop_of_ne hplace]
    exact h

/-- Where rows are kept, or gone, the condition is still met. -/
theorem Meets.of_keeps (h : files.Meets place P) (hkeeps : Keeps location files files') :
    files'.Meets place P := by
  rcases hkeeps place with hkept | ⟨hgone, -⟩
  · rw [Meets, hkept]
    exact h
  · rw [Meets, hgone]
    exact hnone

/-- A directory holds no rows. -/
theorem Meets.of_makeDirectory (h : files.Meets place P)
    (hmade : files.makeDirectory start names = .ok files') : files'.Meets place P := by
  unfold makeDirectory at hmade
  dsimp only at hmade
  simp only [throw_bind_eq] at hmade
  -- Whatever is checked before, a directory is put somewhere.
  split at hmade
  · cases hmade
  split at hmade
  · cases hmade
  obtain ⟨parent, -, hmade⟩ := bind_eq_ok_iff.1 hmade
  split at hmade
  · cases hmade
  obtain ⟨location, -, hmade⟩ := bind_eq_ok_iff.1 hmade
  split at hmade
  · cases hmade
  · cases hmade
    exact h.put hnone nofun

/-- Making sure that a directory is there keeps the condition. -/
theorem Meets.of_ensureDirectory (h : files.Meets place P)
    (hmade : files.ensureDirectory start names = .ok files') : files'.Meets place P := by
  unfold ensureDirectory at hmade
  split at hmade
  · split at hmade
    · cases hmade
      exact h
    · cases hmade
  · exact h.of_makeDirectory hnone hmade

/-- Making sure of the directories above keeps the condition. -/
theorem Meets.ensureDirectories (h : files.Meets place P) :
    (files.ensureDirectories start names).2.Meets place P := by
  -- The recursion goes up to the parent and comes back to the directory itself.
  fun_induction Files.ensureDirectories files start names with
  | case1 => exact h
  | case2 name names files' hmade => exact h.of_ensureDirectory hnone hmade
  | case3 name names hmissing fault files' habove ih =>
    rw [habove] at ih
    exact ih
  | case4 name names hmissing files' habove files'' hmade ih =>
    rw [habove] at ih
    exact ih.of_ensureDirectory hnone hmade
  | case5 name names hmissing files' habove fault hfailed ih =>
    rw [habove] at ih
    exact ih
  | case6 => exact h

/-- A text file holds no rows. -/
theorem Meets.of_writeText (h : files.Meets place P)
    (hdone : files.writeText path text = .ok files') : files'.Meets place P := by
  unfold writeText at hdone
  obtain ⟨location, -, hdone⟩ := bind_eq_ok_iff.1 hdone
  split at hdone
  · cases hdone
  · cases hdone
    refine h.put hnone ?_
    rintro _ ⟨⟩ -
    exact hnone

/-- A file that is removed holds no rows any more. -/
theorem Meets.of_remove (h : files.Meets place P) (hdone : files.remove path = .ok files') :
    files'.Meets place P := by
  unfold remove at hdone
  obtain ⟨found, -, hdone⟩ := bind_eq_ok_iff.1 hdone
  split at hdone
  · cases hdone
  · cases hdone
    exact h.drop hnone

/-- Removing several files keeps the condition. -/
theorem Meets.removeAll {paths : List String} (h : files.Meets place P) :
    (files.removeAll paths).2.Meets place P := by
  induction paths generalizing files with
  | nil => exact h
  | cons path paths ih =>
    unfold Files.removeAll
    split
    · split
      · next hdone => exact ih (h.of_remove hnone hdone)
      · exact h
    · exact ih h

/-- Opening a database keeps the condition, and what is open from the place meets it. -/
theorem Meets.openDatabase {name : String} {now : Int} {wait : Nat} (h : files.Meets place P) :
    (files.openDatabase name now wait).2.Meets place P ∧
      ∀ opened, (files.openDatabase name now wait).1 = .ok opened →
        (∀ location, opened.location = some location → location = place) →
        P opened.database.rows := by
  -- A database in no file has no rows, and one in a file has those of its place.
  cases hplace : files.databasePlace? name with
  | none =>
    have hopens : OpensNowhere wait files (files.openDatabase name now wait) :=
      opensNowhere_openDatabase hplace
    refine ⟨?_, fun opened hopened _ => ?_⟩
    · rw [hopens.files_eq]
      exact h
    · rw [(hopens.opened opened hopened).2]
      exact hnone
  | some location =>
    have hopens : Opens wait location files (files.openDatabase name now wait) :=
      opens_openDatabase hplace
    refine ⟨h.of_keeps hnone hopens.keeps, fun opened hopened hplace => ?_⟩
    obtain ⟨hlocation, hrows⟩ := hopens.opened opened hopened
    obtain rfl := hplace location hlocation
    rw [hrows]
    exact h

end Files

/-- A condition on rows that holds where there are none and that calls keep. -/
structure KeptByCalls (P : Rows → Prop) : Prop where
  /-- It holds where there are no rows. -/
  empty : P {}
  /-- A call that succeeds keeps it. -/
  kept : ∀ {db db' : Database} {author : Author} {op : Operation} {reply : Reply},
    op.isCall = true → op.IsOrderly → op.IsTidy → db.perform author op = .ok (reply, db') →
      P db.rows → P db'.rows

namespace CommandLine

variable {P : Rows → Prop} {env : Environment} {stamp : Stamp} {inv : Invocation} {files : Files}
  {place : Location} {screen : Screen} {arguments : List String}

/-- Opening the database of a command keeps the condition, and what is open from the place meets it.
-/
theorem meets_openExisting {now : Int} (hnone : P {}) (h : files.Meets place P) :
    (openExisting env now inv files).2.Meets place P ∧
      ∀ opened, (openExisting env now inv files).1 = .ok opened →
        (∀ location, opened.location = some location → location = place) →
        P opened.database.rows := by
  rcases openExisting_cases now with ⟨e, hopen⟩ | ⟨name, -, hopen⟩
  · rw [hopen]
    exact ⟨h, fun _ hopened => nomatch hopened⟩
  · rw [hopen]
    exact h.openDatabase hnone

/-- What the work of a command keeps is kept at a place, if it holds where there are no rows. -/
theorem meets_withDatabase_of_work (hnone : P {})
    {work : Context → Database → Except Error (Answer × Database)}
    (hwork : ∀ ctx db answer db', ctx.author = ⟨actorOf env inv, stamp⟩ →
      work ctx db = .ok (answer, db') → P db.rows → P db'.rows)
    (h : files.Meets place P) : (withDatabase env stamp inv files work).2.Meets place P := by
  have hopening : (openExisting env stamp.now inv files).2.Meets place P ∧ _ :=
    meets_openExisting hnone h
  obtain ⟨hfiles, hopened⟩ := hopening
  unfold withDatabase
  split
  · next e files' hopen =>
    rw [hopen] at hfiles
    exact hfiles
  · next opened files' hopen =>
    rw [hopen] at hfiles hopened
    dsimp only
    split
    · exact hfiles
    · next answer db hdone =>
      unfold Files.save
      split
      · exact hfiles
      · next location hlocation =>
        refine hfiles.put hnone ?_
        rintro _ ⟨⟩ hplace
        -- What is written to the place is what was opened there, or what the work has made of it.
        refine hwork _ _ _ _ rfl hdone (hopened opened rfl fun other hother => ?_)
        exact (Option.some.inj (hother.symm.trans hlocation)).trans hplace

/-- Work that makes at most one call keeps the condition at the place. -/
theorem meets_withDatabase (hP : KeptByCalls P)
    {work : Context → Database → Except Error (Answer × Database)}
    (hwork : ∀ ctx db, Calls db ctx.author (work ctx db)) (h : files.Meets place P) :
    (withDatabase env stamp inv files work).2.Meets place P := by
  refine meets_withDatabase_of_work hP.empty (fun ctx db answer db' _ hdone hrows => ?_) h
  rcases hwork _ _ _ _ hdone with rfl | ⟨op, reply, hcall, horderly, htidy, hperform⟩
  · exact hrows
  · exact hP.kept hcall horderly htidy hperform hrows

/-- Saving settings keeps the condition. -/
theorem meets_saveSettings (hnone : P {}) {settings : Settings} (h : files.Meets place P) :
    (env.saveSettings files settings).2.Meets place P := by
  unfold Environment.saveSettings
  split
  · exact h
  · next path _ =>
    have hparents : (files.makeParents path).2.Meets place P := h.ensureDirectories hnone
    split
    · next hmade =>
      rw [hmade] at hparents
      exact hparents
    · next hmade =>
      rw [hmade] at hparents
      split
      · next hwritten => exact hparents.of_writeText hnone hwritten
      · exact hparents

/-- Saving the default workspace keeps the condition. -/
theorem meets_saveDefaultWorkspace (hnone : P {}) {workspace : String} (h : files.Meets place P) :
    (saveDefaultWorkspace env files workspace).2.Meets place P := by
  unfold saveDefaultWorkspace
  split
  · exact h
  · exact meets_saveSettings hnone h

/-- Removing a database keeps the condition. -/
theorem meets_removeDatabase (hnone : P {}) {path : String} {force : Bool}
    (h : files.Meets place P) : (removeDatabase files path force).2.Meets place P := by
  unfold removeDatabase
  split
  · split
    · have hremoved : (files.removeAll (path :: Files.sideFiles path)).2.Meets place P :=
        h.removeAll hnone
      split
      all_goals
        next hdone =>
        rw [hdone] at hremoved
        exact hremoved
    · exact h
  · exact h

/-- Making a database keeps the condition. -/
theorem meets_makeDatabase (hnone : P {}) {path : String} {now : Int} (h : files.Meets place P) :
    (makeDatabase files path now).2.Meets place P := by
  have hparents : (files.makeParents path).2.Meets place P := h.ensureDirectories hnone
  unfold makeDatabase
  split
  · next hmade =>
    rw [hmade] at hparents
    exact hparents
  · next files' hmade =>
    rw [hmade] at hparents
    have hopened : (files'.openDatabase path now).2.Meets place P := (hparents.openDatabase hnone).1
    split
    all_goals
      next hopen =>
      rw [hopen] at hopened
      exact hopened

/-- An attempt to make a database keeps the condition. -/
theorem meets_initDatabase (hnone : P {}) {force : Bool} {workspace : Option String}
    (h : files.Meets place P) :
    (initDatabase env stamp inv files force workspace).2.Meets place P := by
  unfold initDatabase
  split
  · exact h
  next path _ =>
  -- Each of the three changes keeps the condition, whether it fails or not.
  have hremoved : (removeDatabase files path force).2.Meets place P := meets_removeDatabase hnone h
  split
  · next hdone =>
    rw [hdone] at hremoved
    exact hremoved
  next files₁ hdone =>
  rw [hdone] at hremoved
  have hmade : (makeDatabase files₁ path stamp.now).2.Meets place P :=
    meets_makeDatabase hnone hremoved
  split
  · next files₂ workspace hdone =>
    rw [hdone] at hmade
    have hsaved : (saveDefaultWorkspace env files₂ workspace).2.Meets place P :=
      meets_saveDefaultWorkspace hnone hmade
    split
    all_goals
      next hdone =>
      rw [hdone] at hsaved
      exact hsaved
  · exact hmade

/-- A command keeps at a place what calls keep. -/
theorem meets_execute (hP : KeptByCalls P) (h : files.Meets place P) :
    (execute env stamp inv files).2.Meets place P := by
  unfold execute
  split
  · exact meets_initDatabase hP.empty h
  · exact h
  · exact h
  · exact meets_withDatabase hP (fun _ _ => calls_project _) h
  · exact meets_withDatabase hP (fun _ _ => calls_issue _) h
  · exact meets_withDatabase hP (fun _ _ => calls_step _) h
  · exact meets_withDatabase hP (fun _ _ => calls_pipeline _) h
  · split
    · exact h
    · exact meets_withDatabase hP (fun _ _ => calls_recordGate _ _ _) h

/-- What calls keep, command lines keep at a place. -/
theorem meets_run (hP : KeptByCalls P) (h : files.Meets place P) :
    (run env stamp screen arguments files).2.Meets place P := by
  unfold run
  split
  · exact h
  · exact h
  · rw [runInvocation_files]
    exact meets_execute hP h

end CommandLine

end ReviewPipeline
