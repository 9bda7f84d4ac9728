import ReviewPipeline.CommandLine.Reading
import ReviewPipeline.Proofs.Inversion

/-!
# Words on a Command Line

The word by which a command calls an issue is read without being looked at: another word in its
place makes the same command about another issue, and a command line that is refused or asks for
help does so whatever the word is.

## Main definitions

* `Level.takesIssue`: the commands whose first word calls an issue;
* `awaitsIssue`: whether the next word on a command line calls an issue;
* `Command.about`: a command with another word for its issue.

## Main results

* `readFrom_append`: what was read stays read when more arguments follow;
* `read_about`: exchanging the word for the issue on a command line exchanges it in the command.
-/

namespace ReviewPipeline.CommandLine

variable {p q : Progress} {before after rest : List String} {issue word : String}

/-- The level of a command whose first word calls an issue. -/
def Level.takesIssue : Level → Bool
  | .leaf .issueShow | .leaf .advance | .leaf .reject | .leaf .status | .leaf .history
  | .leaf .reset | .leaf .gateRecord => true
  | _ => false

/-- A command with another word for the issue that it is about. Other commands stay as they are. -/
def Command.about (issue : String) : Command → Command
  | .issue (.inspect _) => .issue (.inspect issue)
  | .pipeline (.advance _ agent notes) => .pipeline (.advance issue agent notes)
  | .pipeline (.reject _ reason agent) => .pipeline (.reject issue reason agent)
  | .pipeline (.status _) => .pipeline (.status issue)
  | .pipeline (.history _) => .pipeline (.history issue)
  | .pipeline (.reset _) => .pipeline (.reset issue)
  | .recordGate _ status error => .recordGate issue status error
  | command => command

/-- Whether the word that comes after these arguments calls an issue. -/
def awaitsIssue (arguments : List String) : Bool :=
  match readFrom .start arguments with
  | .ok p => p.level.takesIssue && p.words.isEmpty
  | .error _ => false

/-- An issue is awaited where the words so far go down to a command that takes one first. -/
theorem awaitsIssue_iff : awaitsIssue before = true ↔
    ∃ p, readFrom .start before = .ok p ∧ p.level.takesIssue = true ∧ p.words = [] := by
  unfold awaitsIssue
  cases readFrom .start before <;> simp

/-- The same command line with another word for the issue. -/
def Invocation.about (issue : String) (inv : Invocation) : Invocation :=
  { inv with command := inv.command.about issue }

/-- Whatever was read of a command line stays read when more arguments follow. -/
theorem readFrom_append (h : readFrom p before = .ok q) :
    readFrom p (before ++ after) = readFrom q after := by
  -- The induction is on how the first part was read; where that stopped early, `h` is absurd.
  fun_induction readFrom p before with
  | case1 p =>
    cases h
    rfl
  | case2 | case5 | case6 | case8 | case10 | case11 | case12 => cases h
  | case3 p argument rest hwords p' hword ih => simp [readFrom, hwords, hword, ih h]
  | case4 p rest hwords ih => simp [readFrom, hwords, ih h]
  | case7 p argument rest hwords hdashes bundle hbundle p' htail htake ih =>
    simp [readFrom, hwords, hdashes, hbundle, htail, htake, ih h]
  | case9 p argument hwords hdashes bundle hbundle p' flag htail htake value rest hvalue ih =>
    simp [readFrom, hwords, hdashes, hbundle, htail, htake, hvalue, ih h]
  | case13 p argument rest hwords hdashes hbundle hhelp p' hdescend ih =>
    simp only [Bool.not_eq_true] at hhelp
    simp [readFrom, hwords, hdashes, hbundle, hhelp, hdescend, ih h]

/-! ### Past the word for an issue -/

/-- Below a command that takes an issue there is none. -/
theorem Level.hasCommands_of_takesIssue {level : Level} (h : level.takesIssue = true) :
    level.hasCommands = false := by
  cases level with
  | leaf l => rfl
  | root => cases h
  | group g => cases h

/-- A command that takes an issue accepts any word for it. -/
theorem Level.acceptsWord_of_takesIssue {level : Level} (h : level.takesIssue = true) :
    level.acceptsWord word = true := by
  unfold acceptsWord
  split
  · cases h
  · rfl

namespace Progress

/-- The same with another word for the issue. -/
def about (issue : String) (p : Progress) : Progress :=
  { p with words := issue :: p.words.tail }

@[simp] theorem about_level : (p.about issue).level = p.level := rfl

@[simp] theorem about_wordsOnly : (p.about issue).wordsOnly = p.wordsOnly := rfl

@[simp] theorem about_hold {flag : Flag} {value : String} :
    (p.about issue).hold flag value = (p.hold flag value).about issue := rfl

/-- The word for the issue has been read. -/
structure PastIssue (p : Progress) : Prop where
  /-- The command is about an issue. -/
  takesIssue : p.level.takesIssue = true
  /-- There was a word. -/
  words : p.words ≠ []

/-- Taking up flags changes nothing but the flags. -/
theorem take_eq {given : Given} :
    p.take given =
      (p.flags.settle >>= fun settled => settled.take given).map fun flags =>
        { p with flags := flags } := by
  unfold take
  cases p.flags.settle with
  | error e => rfl
  | ok settled =>
    change (settled.take given >>= _) = (settled.take given).map _
    cases settled.take given <;> rfl

/-- A flag is taken alike with another issue. -/
theorem take_about {given : Given} :
    (p.about issue).take given = (p.take given).map (·.about issue) := by
  rw [take_eq, take_eq]
  change Except.map _ (p.flags.settle >>= _) = _
  cases p.flags.settle >>= fun settled => settled.take given <;> rfl

/-- A flag changes neither the level nor the words. -/
theorem take_eq_ok {given : Given} (h : p.take given = .ok q) :
    q.level = p.level ∧ q.words = p.words := by
  rw [take_eq] at h
  obtain ⟨flags, -, rfl⟩ := map_eq_ok_iff.1 h
  exact ⟨rfl, rfl⟩

/-- Where the first word calls an issue, every word is taken up as one. -/
theorem descend_eq (h : p.level.takesIssue = true) : p.descend word = p.takeWord word := by
  rw [descend, Level.hasCommands_of_takesIssue h]
  rfl

/-- A word is put behind the others, at the same level. -/
theorem takeWord_eq_ok (h : p.takeWord word = .ok q) :
    q.level = p.level ∧ q.words = p.words ++ [word] := by
  obtain ⟨taken, htake, h⟩ := bind_eq_ok_iff.1 h
  obtain ⟨hlevel, hwords⟩ := take_eq_ok htake
  split at h
  · cases h
    exact ⟨hlevel, congrArg (· ++ [word]) hwords⟩
  · cases h

namespace PastIssue

/-- A flag stays past the issue. -/
theorem of_take (h : p.PastIssue) {given : Given} (htake : p.take given = .ok q) :
    q.PastIssue := by
  obtain ⟨hlevel, hwords⟩ := take_eq_ok htake
  exact ⟨hlevel ▸ h.takesIssue, hwords ▸ h.words⟩

/-- The first word at such a level is the issue. -/
theorem of_takeWord (h : p.level.takesIssue = true) (hword : p.takeWord word = .ok q) :
    q.PastIssue := by
  obtain ⟨hlevel, hwords⟩ := takeWord_eq_ok hword
  exact ⟨hlevel ▸ h, by simp [hwords]⟩

/-- Another word is taken alike with another issue. -/
theorem takeWord_about (h : p.PastIssue) :
    (p.about issue).takeWord word = (p.takeWord word).map (·.about issue) := by
  unfold takeWord
  rw [take_about]
  cases htake : p.take [] with
  | error e => rfl
  | ok taken =>
    -- The word goes after the one for the issue, and is counted as before.
    obtain ⟨first, words, hwords⟩ := List.exists_cons_of_ne_nil (h.of_take htake).words
    change (if _ then _ else _) = Except.map _ (if _ then _ else _)
    simp only [about, hwords, List.tail_cons, List.length_cons]
    split <;> rfl

/-- A word behind the issue leads down to no command, whatever the issue is. -/
theorem descend_about (h : p.PastIssue) :
    (p.about issue).descend word = (p.descend word).map (·.about issue) := by
  rw [descend_eq h.takesIssue, ← h.takeWord_about]
  exact descend_eq h.takesIssue

end PastIssue

end Progress

/-- Once the word for the issue is read, the rest of a command line is read as if it were another
word. -/
theorem readFrom_about (h : p.PastIssue) :
    readFrom (p.about issue) rest = (readFrom p rest).map (·.about issue) := by
  have hcommands : ∀ {q : Progress}, q.PastIssue → q.level.hasCommands = false :=
    fun hq => Level.hasCommands_of_takesIssue hq.takesIssue
  -- No branch of the reading looks at the words, so both readings take the same one, and that the
  -- word for the issue has been read is what each of them hands on to the rest.
  fun_induction readFrom p rest with
  | case1 p => rfl
  | case2 p argument rest hwords e hword =>
    simp [readFrom, hwords, h.takeWord_about, hword, Except.map]
  | case3 p argument rest hwords p' hword ih =>
    have hpast : p'.PastIssue := .of_takeWord h.takesIssue hword
    simp [readFrom, hwords, h.takeWord_about, hword, Except.map, ih hpast]
  | case4 p rest hwords ih =>
    have hpast : { p with wordsOnly := true : Progress }.PastIssue := ⟨h.takesIssue, h.words⟩
    simpa [readFrom, hwords, Progress.about] using ih hpast
  | case5 p argument rest hwords hdashes bundle hbundle e htake =>
    simp [readFrom, hwords, hdashes, hbundle, Progress.take_about, htake, Except.map]
  | case6 p argument rest hwords hdashes bundle hbundle p' htail htake =>
    simp [readFrom, hwords, hdashes, hbundle, Progress.take_about, htake, htail, Except.map]
  | case7 p argument rest hwords hdashes bundle hbundle p' htail htake ih =>
    simp [readFrom, hwords, hdashes, hbundle, htail, Progress.take_about, htake, Except.map,
      ih (h.of_take htake)]
  | case8 p argument hwords hdashes bundle hbundle p' flag htail htake =>
    simp [readFrom, hwords, hdashes, hbundle, htail, Progress.take_about, htake, Except.map]
  | case9 p argument hwords hdashes bundle hbundle p' flag htail htake value rest hvalue ih =>
    have hpast : (p'.hold flag value).PastIssue :=
      ⟨(h.of_take htake).takesIssue, (h.of_take htake).words⟩
    simp [readFrom, hwords, hdashes, hbundle, htail, Progress.take_about, htake, hvalue,
      Except.map, ih hpast]
  | case10 p argument hwords hdashes bundle hbundle p' flag htail htake value rest hvalue =>
    simp [readFrom, hwords, hdashes, hbundle, htail, Progress.take_about, htake, hvalue, Except.map]
  | case11 p argument rest hwords hdashes hbundle hhelp => simp [hcommands h] at hhelp
  | case12 p argument rest hwords hdashes hbundle hhelp e hdescend =>
    simp [readFrom, hwords, hdashes, hbundle, hcommands h, h.descend_about, hdescend, Except.map]
  | case13 p argument rest hwords hdashes hbundle hhelp p' hdescend ih =>
    have hpast : p'.PastIssue :=
      .of_takeWord h.takesIssue ((Progress.descend_eq h.takesIssue).symm.trans hdescend)
    simp [readFrom, hwords, hdashes, hbundle, hcommands h, h.descend_about, hdescend, Except.map,
      ih hpast]

/-- Whatever is read afterwards stays past the issue. -/
theorem readFrom_pastIssue (h : p.PastIssue) (hread : readFrom p rest = .ok q) : q.PastIssue := by
  -- Reading goes on in five ways: with a word, past two dashes, with flags, with a flag and its
  -- value, and with a command below. Wherever it ends, it ends as it stands.
  fun_induction readFrom p rest with
  | case1 p =>
    cases hread
    exact h
  | case2 | case5 | case6 | case8 | case10 | case11 | case12 => cases hread
  | case3 p argument rest hwords p' hword ih => exact ih (.of_takeWord h.takesIssue hword) hread
  | case4 p rest hwords ih => exact ih ⟨h.takesIssue, h.words⟩ hread
  | case7 p argument rest hwords hdashes bundle hbundle p' htail htake ih =>
    exact ih (h.of_take htake) hread
  | case9 p argument hwords hdashes bundle hbundle p' flag htail htake value rest hvalue ih =>
    exact ih ⟨(h.of_take htake).takesIssue, (h.of_take htake).words⟩ hread
  | case13 p argument rest hwords hdashes hbundle hhelp p' hdescend ih =>
    rw [Progress.descend_eq h.takesIssue] at hdescend
    exact ih (.of_takeWord h.takesIssue hdescend) hread

/-! ### The word for an issue -/

/-- A word that gives no flag is taken up, where no command is to follow. -/
theorem readFrom_word (hlevel : p.level.takesIssue = true)
    (hword : issue.toList.head? ≠ some '-') :
    readFrom p (issue :: rest) = p.takeWord issue >>= (readFrom · rest) := by
  have hcommands := Level.hasCommands_of_takesIssue hlevel
  have hdashes : issue ≠ "--" := by
    rintro rfl
    exact hword (by decide)
  have hbundle : bundle? p.level issue = none := by
    unfold bundle?
    split <;> simp_all
  simp only [readFrom, hdashes, if_false, hbundle, hcommands, Bool.false_and, Progress.descend]
  by_cases hwords : p.wordsOnly = true
  · simp only [hwords, if_true]
    cases p.takeWord issue <;> rfl
  · simp only [hwords]
    cases p.takeWord issue <;> rfl

/-- Whatever word there is for an issue, it is taken up. -/
theorem Progress.takeWord_first (other : String) (hlevel : p.level.takesIssue = true)
    (hnone : p.words = []) : p.takeWord issue = (p.takeWord other).map (·.about issue) := by
  unfold takeWord
  cases htake : p.take [] with
  | error e => rfl
  | ok taken =>
    obtain ⟨hsame, hwords⟩ := take_eq_ok htake
    rw [hnone] at hwords
    change (if _ then _ else _) = Except.map _ (if _ then _ else _)
    simp only [Level.acceptsWord_of_takesIssue (hsame ▸ hlevel), hwords, List.length_nil]
    split <;> rfl

/-- What a command line comes to that is read so far. -/
def Progress.invocation (env : Environment) (p : Progress) : Except Ending Invocation := do
  let levels ← p.finish
  match command? (levels.getLastD []) p.level p.words with
  | none => throw .refused
  | some command =>
    if hasEmptyDatabase env levels then
      throw .refused
    return {
      command := command
      database := globalValue levels .database env.database
      actor := globalValue levels .actor env.actor
      workspace := globalValue levels .workspace env.workspace
      json := levels.any (·.has .json)
      quiet := levels.any (·.has .quiet)
      noColor := levels.any (·.has .noColor) }

/-- A command line is read argument by argument, and then made into a command. -/
theorem read_eq (env : Environment) (arguments : List String) :
    read env arguments = readFrom .start arguments >>= (·.invocation env) := rfl

/-- With another issue, the words make the same command about that one. -/
theorem command?_about {given : Given} {level : Level} {words : List String}
    (hlevel : level.takesIssue = true) (hwords : words ≠ []) :
    command? given level (issue :: words.tail) =
      (command? given level words).map (·.about issue) := by
  obtain ⟨first, words, rfl⟩ := List.exists_cons_of_ne_nil hwords
  unfold Level.takesIssue at hlevel
  split at hlevel
  case h_8 => cases hlevel
  -- A command takes one word, or two, and there is none with more.
  all_goals
    rcases words with _ | ⟨second, _ | ⟨third, words⟩⟩ <;>
      simp [command?, Command.about, Function.comp_def]

/-- What was read past the issue makes the same command line with another one. -/
theorem Progress.invocation_about {env : Environment} (h : p.PastIssue) :
    (p.about issue).invocation env = (p.invocation env).map (·.about issue) := by
  unfold invocation
  change (p.finish >>= _) = _
  cases p.finish with
  | error e => rfl
  | ok levels =>
    simp only [bind, Except.bind, about, command?_about h.takesIssue h.words]
    cases command? (levels.getLastD []) p.level p.words with
    | none => rfl
    | some command =>
      simp only [Option.map_some]
      split <;> rfl

/-- Exchanging the word for the issue on a command line exchanges it in the command. -/
theorem read_about {env : Environment} {other : String} (hbefore : awaitsIssue before = true)
    (hissue : issue.toList.head? ≠ some '-') (hother : other.toList.head? ≠ some '-') :
    read env (before ++ issue :: after) =
      (read env (before ++ other :: after)).map (·.about issue) := by
  obtain ⟨p, hread, hlevel, hnone⟩ := awaitsIssue_iff.1 hbefore
  rw [read_eq, read_eq, readFrom_append hread, readFrom_append hread, readFrom_word hlevel hissue,
    readFrom_word hlevel hother, Progress.takeWord_first other hlevel hnone]
  cases htake : p.takeWord other with
  | error e => rfl
  | ok taken =>
    have htaken := Progress.PastIssue.of_takeWord hlevel htake
    change (readFrom (taken.about issue) after >>= _) = Except.map _ (readFrom taken after >>= _)
    rw [readFrom_about htaken]
    cases hrest : readFrom taken after with
    | error e => rfl
    | ok q => exact Progress.invocation_about (readFrom_pastIssue htaken hrest)

end ReviewPipeline.CommandLine
