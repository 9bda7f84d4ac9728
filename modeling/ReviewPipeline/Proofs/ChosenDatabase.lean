import ReviewPipeline.Proofs.ActiveWorkspace
import ReviewPipeline.Proofs.Seclusion
import ReviewPipeline.Proofs.Workspaces

/-!
# Which Database a Command Works With

The order in which a database is looked up says that the database for tests, where it is turned on,
goes before the one of the variable. But on a command line without a flag for the database the
variable stands in for the flag, and the flag goes before everything. So the variable decides even
where the database for tests is turned on, and a blank value of it is a name like any other.

## Main definitions

* `Environment.Prescribes`: the database that the order prescribes where no flag is given;
* `CommandLine.namesDatabase`: whether a flag for the database is given on a command line.

## Main results

* `Environment.prescribes_iff`: where no flag is given and nothing stands in for it, the prescribed
  database is the one that is looked up;
* `CommandLine.database_of_read`: without the flag, a command line takes its database from the
  variable;
* `CommandLine.chosen_database`: so it works with the prescribed database iff the variable is not
  set, or names that database, and it looks at no other.
-/

namespace ReviewPipeline

/-! ### The prescribed order -/

theorem Text.isBlank_of_isAllBlank {text : String} {c : Char} (h : isAllBlank text = true)
    (hc : c ∈ text.toList) : isBlank c = true := by
  have hnone : (text.toList.dropWhile isBlank).rdropWhile isBlank = [] := by
    have htrim : trim text = "" := by simpa [isAllBlank] using h
    have hchars : (trim text).toList = [] := by rw [htrim]; rfl
    simpa only [trim, String.toList_ofList, trimChars_eq] using hchars
  have hright := List.rdropWhile_eq_nil_iff.1 hnone
  have hall : ∀ c ∈ text.toList, isBlank c = true := by
    rw [← List.takeWhile_append_dropWhile (p := isBlank) (l := text.toList)]
    exact List.forall_mem_append.2 ⟨fun _ hmem => List.mem_takeWhile_imp hmem, hright⟩
  exact hall c hc

namespace Environment

variable {env : Environment} {name : String} {chosen : Option String}

/-- Which database is prescribed where no flag names one. -/
inductive Prescribes (env : Environment) : Option String → Prop
  /-- The one for tests, if that is turned on. -/
  | test (h : env.isTestMode = true) : Prescribes env env.testDatabasePath
  /-- Else the one of the variable, if it is not blank. -/
  | named {name : String} (h : env.isTestMode = false) (hname : env.database = some name)
      (hblank : Text.isAllBlank name = false) : Prescribes env (some name)
  /-- Else the default one. -/
  | fallback (h : env.isTestMode = false)
      (hblank : ∀ name, env.database = some name → Text.isAllBlank name = true) :
      Prescribes env env.defaultDatabasePath

/-- The order prescribes the database that is looked up where no flag is given. -/
theorem prescribes_iff : env.Prescribes chosen ↔ chosen = env.databasePath none := by
  constructor
  · intro h
    cases h with
    | test h => simp [databasePath, h]
    | named h hname hblank => simp [databasePath, h, hname, hblank]
    | fallback h hblank =>
      cases hname : env.database with
      | none => simp [databasePath, h, hname]
      | some name => simp [databasePath, h, hname, hblank name hname]
  · rintro rfl
    unfold databasePath
    dsimp only
    split_ifs with h
    · exact .test h
    · rw [Bool.not_eq_true] at h
      split
      · next name hname =>
        split_ifs with hblank
        · refine .fallback h fun other hother => ?_
          rwa [Option.some.inj (hother.symm.trans hname)]
        · exact .named h hname (Bool.eq_false_iff.2 hblank)
      · next hnone => exact .fallback h fun name hname => nomatch hnone.symm.trans hname

theorem mem_toList_join {directory name : String} {c : Char} (hc : c ∈ name.toList) :
    c ∈ (Path.join directory name).toList := by
  unfold Path.join
  split <;> simp [hc]

/-- The default database has a name that is not blank. -/
theorem isAllBlank_eq_false_of_default (h : env.defaultDatabasePath = some name) :
    Text.isAllBlank name = false := by
  obtain ⟨directory, -, rfl⟩ := Option.map_eq_some_iff.1 h
  rw [Bool.eq_false_iff]
  intro hblank
  have hmem : 'b' ∈ (Path.join (Path.join directory "data") "pipeline.db").toList :=
    mem_toList_join (by decide)
  have hletter : Text.isBlank 'b' = true := Text.isBlank_of_isAllBlank hblank hmem
  revert hletter
  decide

/-- The value of the variable is what is prescribed iff it is not blank and the database for tests
is turned off, or it names the database for tests that is turned on. -/
theorem prescribes_some_iff (hname : env.database = some name) : env.Prescribes (some name) ↔
    if env.isTestMode then env.testDatabasePath = some name else Text.isAllBlank name = false := by
  rw [prescribes_iff, databasePath, hname]
  split_ifs with h
  · exact eq_comm
  · dsimp only
    split_ifs with hblank
    · constructor
      · intro hsame
        rw [isAllBlank_eq_false_of_default hsame.symm] at hblank
        cases hblank
      · intro hfilled
        rw [hfilled] at hblank
        cases hblank
    · simpa using hblank

end Environment

/-! ### Command lines without the flag -/

namespace CommandLine

variable {env : Environment} {arguments : List String} {inv : Invocation} {given : Given}
  {flag : Flag} {levels : List Given} {p : Progress}

/-- Whether a flag for the database is given, at any level. -/
def namesDatabase (arguments : List String) : Bool :=
  match readFrom .start arguments >>= Progress.finish with
  | .ok levels => levels.any (·.has .database)
  | .error _ => false

theorem value?_eq_none (h : given.has flag = false) : given.value? flag = none := by
  rw [Given.has, List.any_eq_false] at h
  rw [Given.value?, List.lookup_eq_none_iff]
  intro pair hpair
  have hother := h pair hpair
  rw [Bool.not_eq_true, beq_eq_false_iff_ne] at hother
  exact bne_iff_ne.2 (Ne.symm hother)

/-- A flag that is given at no level has the value of its variable. -/
theorem globalValue_eq {fallback : Option String}
    (h : ∀ given ∈ levels, given.has flag = false) :
    globalValue levels flag fallback = fallback := by
  have hnone : levels.reverse.findSome? (·.value? flag) = none :=
    List.findSome?_eq_none_iff.2 fun given hgiven =>
      value?_eq_none (h given (List.mem_reverse.1 hgiven))
  rw [globalValue, hnone, Option.none_or]

/-- There is at least the level that was reached. -/
theorem finish_ne_nil (h : p.finish = .ok levels) : levels ≠ [] := by
  rw [Progress.finish, List.mapM_append] at h
  simp only [bind_eq_ok_iff, List.mapM_cons, pure, Except.pure, Except.ok.injEq] at h
  obtain ⟨settled, ⟨above, -, last, ⟨first, -, rest, -, rfl⟩, rfl⟩, rfl⟩ := h
  simp

/-- Without a flag for the database, a command line takes its database from the variable, which must
not be empty. -/
theorem database_of_read (hread : read env arguments = .ok inv)
    (hnone : namesDatabase arguments = false) :
    inv.database = env.database ∧ env.database ≠ some "" := by
  rw [read_eq] at hread
  obtain ⟨p, hreached, hread⟩ := bind_eq_ok_iff.1 hread
  obtain ⟨levels, hfinish, hread⟩ := bind_eq_ok_iff.1 hread
  have habsent : ∀ given ∈ levels, given.has .database = false := by
    simpa [namesDatabase, bind_eq_ok_iff.2 ⟨p, hreached, hfinish⟩] using hnone
  split at hread
  · cases hread
  · dsimp only at hread
    split at hread
    · cases hread
    · next hempty =>
      cases hread
      refine ⟨globalValue_eq habsent, fun hvariable => hempty ?_⟩
      -- The variable would stand in at the first level already.
      obtain ⟨given, rest, hlevels⟩ := List.exists_cons_of_ne_nil (finish_ne_nil hfinish)
      have hgiven : given.has .database = false := habsent given (hlevels ▸ List.mem_cons_self)
      simp [hasEmptyDatabase, hvariable, hlevels, hgiven]

/-- Without a flag for the database, a command works with the database of the variable, and only if
that is not set with the prescribed one. So it works with the prescribed one iff the variable is not
set, or names it: the database for tests if that is turned on, else one that is not blank. Whichever
it is, the command looks at no other, and changes no other. -/
theorem chosen_database (hread : read env arguments = .ok inv)
    (hnone : namesDatabase arguments = false) :
    env.database ≠ some "" ∧
      env.databasePath inv.database = env.database.or (env.databasePath none) ∧
      (env.Prescribes (env.databasePath inv.database) ↔ ∀ name, env.database = some name →
        if env.isTestMode then env.testDatabasePath = some name
        else Text.isAllBlank name = false) ∧
      ∀ stamp screen (files : Files), files.workingDirectory.IsPlain →
        Secluded env stamp screen arguments files
          (locationsOf env inv files.workingDirectory) := by
  obtain ⟨hsame, hfilled⟩ := database_of_read hread hnone
  refine ⟨hfilled, ?_, ?_, fun stamp screen files hplain => secluded_run hplain hread⟩
  · -- The name on the command line would go first, but there is none.
    rw [hsame]
    cases hname : env.database <;> rfl
  · rw [hsame]
    cases hname : env.database with
    | none => simpa using Environment.prescribes_iff.2 rfl
    | some name =>
      have hpath : env.databasePath (some name) = some name := rfl
      rw [hpath, Environment.prescribes_some_iff hname]
      simp

/-- An environment in which the database for tests is turned on, and the variable names another. -/
def testing : Environment where
  home := some "/home"
  database := some "/live.db"
  testDatabase := some "1"

/-- Files in which that other database is. -/
def liveFiles : Files where
  nodes := [(["live.db"], .file (.database neighbours .ahead))]

/-- There the database of the variable is removed and made anew, and nothing is made where the
database for tests should be. -/
theorem not_prescribed_testing :
    namesDatabase ["init", "--force"] = false ∧ testing.isTestMode = true ∧
      testing.testDatabasePath = some "/home/.pipectl/test/pipeline.db" ∧
      (liveFiles.rows ["live.db"]).projects.length = 2 ∧
      (run testing ⟨7, 7⟩ ⟨false, false⟩ ["init", "--force"] liveFiles).1.exitCode = 0 ∧
      (run testing ⟨7, 7⟩ ⟨false, false⟩ ["init", "--force"] liveFiles).2.rows ["live.db"] = {} ∧
      (run testing ⟨7, 7⟩ ⟨false, false⟩ ["init", "--force"] liveFiles).2.exists?
        "/home/.pipectl/test/pipeline.db" = false := by
  decide +kernel

/-- What is read there names the database of the variable, which is not the prescribed one; and the
command line looks at nothing but the settings, that database and what stands beside it. -/
theorem chosen_database_testing :
    ∃ inv, read testing ["init", "--force"] = .ok inv ∧
      namesDatabase ["init", "--force"] = false ∧
      testing.databasePath inv.database = some "/live.db" ∧
      ¬ testing.Prescribes (testing.databasePath inv.database) ∧
      Secluded testing ⟨7, 7⟩ ⟨false, false⟩ ["init", "--force"] liveFiles
        [["home"], ["home", ".pipectl"], ["home", ".pipectl", "config.json"], ["live.db"],
          ["live.db-wal"], ["live.db-shm"], ["live.db"], ["live.db-journal"], ["live.db-wal"],
          ["live.db-shm"]] := by
  let inv : Invocation := ⟨.init true none, some "/live.db", none, none, false, false, false⟩
  have hread : read testing ["init", "--force"] = .ok inv := by decide +kernel
  have hnone : namesDatabase ["init", "--force"] = false := by decide +kernel
  obtain ⟨-, hpath, hprescribes, hsecluded⟩ := chosen_database hread hnone
  have hplain : liveFiles.workingDirectory.IsPlain := fun _ hmem => nomatch hmem
  have hlocations : locationsOf testing inv liveFiles.workingDirectory =
      [["home"], ["home", ".pipectl"], ["home", ".pipectl", "config.json"], ["live.db"],
        ["live.db-wal"], ["live.db-shm"], ["live.db"], ["live.db-journal"], ["live.db-wal"],
        ["live.db-shm"]] := by decide +kernel
  refine ⟨inv, hread, hnone, hpath, fun h => ?_, ?_⟩
  · -- The order asks for the database for tests, but the path is that of the variable.
    have hsame := hprescribes.1 h "/live.db" rfl
    revert hsame
    decide +kernel
  · rw [← hlocations]
    exact hsecluded ⟨7, 7⟩ ⟨false, false⟩ liveFiles hplain

end CommandLine

end ReviewPipeline
