import Mathlib.Data.List.Forall2
import ReviewPipeline.Proofs.SwitchArguments
import ReviewPipeline.Proofs.Words

/-!
# Command Lines Without a Switch

A switch says how a command is shown. It can stand wherever flags can, and here it is shown that it
does nothing else: without it, a command line is read as the same command, with the same choices
but for that one; and so it is with the switch in front.

A switch has one effect on the way: a value that is held back is taken up when a flag comes after
it. So two readings are compared by what is given at each level, and by whether what is held back
can be taken up.

## Main definitions

* `Progress.IsAlike`: two readings have come as far, a switch apart;
* `Progress.gives`: whether a flag has been given;
* `Invocation.set`: a command line that was read, with a switch on or off.

## Main results

* `readFrom_without`: without a switch, a command line is read as far;
* `read_without`: and it makes the same command, with the switch off;
* `argumentsWithout_of_read`: a command line that leaves a switch off is one without it;
* `read_cons_switch`: with the switch in front, it makes the same command, with the switch on.
-/

namespace ReviewPipeline.CommandLine

variable {switch flag : Flag} {g g' taken : Gathered} {given given' : Given} {level : Level}

/-! ### The flags of a level -/

namespace Gathered

/-- All that is given at a level: what is taken up, and what is held back. -/
def entries (g : Gathered) : Given :=
  g.taken ++ g.held.toList

/-- What is taken and nothing held back is all there is. -/
@[simp] theorem entries_of_taken : entries { taken := given } = given :=
  List.append_nil given

/-- Flags that are taken up go after the others. -/
theorem eq_of_take (h : g.take given = .ok taken) :
    taken = { g with taken := g.taken ++ given } := by
  induction given generalizing g with
  | nil =>
    cases h
    simp
  | cons entry given ih =>
    obtain ⟨flag, value⟩ := entry
    unfold take at h
    split_ifs at h
    simpa using ih h

/-- What is held back goes after what is taken up. -/
theorem eq_of_settle (h : g.settle = .ok taken) : taken = { taken := g.entries } := by
  obtain ⟨given, _ | entry⟩ := g
  · cases h
    simp [entries]
  · exact eq_of_take h

/-- Flags are taken up alike, without a switch, where the same other flags have been. -/
theorem exists_take_without (hsame : g'.taken.without switch = g.taken.without switch)
    (h : g.take given = .ok taken) : ∃ taken', g'.take (given.without switch) = .ok taken' := by
  induction given generalizing g g' with
  | nil => exact ⟨g', rfl⟩
  | cons entry given ih =>
    obtain ⟨flag, value⟩ := entry
    unfold take at h
    split_ifs at h with hhelp htwice haccepts
    by_cases hflag : flag = switch
    -- A switch is taken up on one side only, where it does not count.
    · rw [hflag, Given.without_cons_self]
      rw [hflag] at h
      have hleft :
          Given.without (g.taken ++ [(switch, value)]) switch = g.taken.without switch := by
        simp [Given.without]
      exact ih (hsame.trans hleft.symm) h
    · have hgiven : g'.taken.any (·.1 == flag) = g.taken.any (·.1 == flag) :=
        Given.has_congr hsame hflag
      rw [Given.without_cons hflag, take, if_neg hhelp, hgiven, if_neg htwice, if_pos haccepts]
      exact ih (by simp only [Given.without_append, hsame]) h

/-- One level of two readings: the same is given but for a switch, and what the first holds back
can be taken up by the second as well. -/
structure IsAlike (switch : Flag) (g g' : Gathered) : Prop where
  /-- The flags are the same, but for the switch. -/
  entries : g'.entries.without switch = g.entries.without switch
  /-- If the first can take up what it holds back, so can the second. -/
  settles : ∀ settled, g.settle = .ok settled → ∃ settled', g'.settle = .ok settled'

/-- What is gathered is like itself. -/
theorem IsAlike.refl : g.IsAlike switch g :=
  ⟨rfl, fun settled h => ⟨settled, h⟩⟩

/-- Without the switch, the same is taken. -/
theorem isAlike_of_taken (h : given'.without switch = given.without switch) :
    IsAlike switch { taken := given } { taken := given' } :=
  ⟨by simpa using h, fun _ _ => ⟨_, rfl⟩⟩

/-- A flag that is held back keeps levels alike. -/
theorem IsAlike.held (h : given'.without switch = given.without switch) (hflag : flag ≠ switch)
    {value : String} :
    IsAlike switch { taken := given, held := some (flag, value) }
      { taken := given', held := some (flag, value) } where
  entries := by simp [Gathered.entries, Given.without_append, h]
  settles := fun settled hsettled => by
    have htake : ∃ settled', take { taken := given' } (Given.without [(flag, value)] switch) =
        .ok settled' := exists_take_without h hsettled
    rwa [Given.without_cons hflag] at htake

end Gathered

/-! ### Readings -/

namespace Progress

variable {p p' q q' : Progress} {on : Bool} {value : String}

/-- Whether a flag has been given, at any level. -/
def gives (p : Progress) (flag : Flag) : Bool :=
  (p.above ++ [p.flags]).any (·.entries.has flag)

/-- An argument is taken once the one before is settled. -/
theorem take_eq_ok_iff : p.take given = .ok q ↔
    ∃ settled flags, p.flags.settle = .ok settled ∧ settled.take given = .ok flags ∧
      q = { p with flags := flags } := by
  rw [take_eq, map_eq_ok_iff]
  simp only [bind_eq_ok_iff]
  constructor
  · rintro ⟨flags, ⟨settled, hsettled, hflags⟩, rfl⟩
    exact ⟨settled, flags, hsettled, hflags, rfl⟩
  · rintro ⟨settled, flags, hsettled, hflags, rfl⟩
    exact ⟨flags, ⟨settled, hsettled, hflags⟩, rfl⟩

/-- Flags are taken up after all that is given at the level. -/
theorem eq_of_take (h : p.take given = .ok q) :
    q = { p with flags := { taken := p.flags.entries ++ given } } := by
  obtain ⟨settled, flags, hsettled, hflags, rfl⟩ := take_eq_ok_iff.1 h
  rw [Gathered.eq_of_take hflags, Gathered.eq_of_settle hsettled]

/-- A flag is given if it was or if it is taken now. -/
theorem gives_of_take (h : p.take given = .ok q) :
    q.gives flag = (p.gives flag || given.has flag) := by
  rw [eq_of_take h]
  simp [gives, Given.has_append, Bool.or_assoc]

/-- A flag that is held back after others are taken up counts as given. -/
theorem gives_hold_of_take (h : p.take given = .ok q) {held : Flag} :
    (q.hold held value).gives flag = (q.gives flag || held == flag) := by
  rw [eq_of_take h]
  simp [gives, hold, Gathered.entries, Given.has, Bool.or_assoc]

/-- A command word gives no flag. -/
theorem gives_enter : (p.enter level).gives flag = p.gives flag := by
  simp [gives, enter, Gathered.entries, Given.has]

/-- A word that is taken gives no flag. -/
theorem gives_of_takeWord {word : String} (h : p.takeWord word = .ok q) :
    q.gives flag = p.gives flag := by
  obtain ⟨taken, htaken, h⟩ := bind_eq_ok_iff.1 h
  split_ifs at h
  cases h
  have hgives : taken.gives flag = (p.gives flag || Given.has [] flag) := gives_of_take htaken
  rw [← Bool.or_false (p.gives flag)]
  exact hgives

/-- Going down to a command gives no flag. -/
theorem gives_of_descend {word : String} (h : p.descend word = .ok q) :
    q.gives flag = p.gives flag := by
  unfold descend at h
  split_ifs at h
  · split at h
    · cases h
      exact gives_enter
    · cases h
  · exact gives_of_takeWord h

/-- A flag does not end the flags. -/
theorem take_wordsOnly (h : p.take given = .ok q) : q.wordsOnly = p.wordsOnly := by
  rw [eq_of_take h]

/-- A word does not end the flags. -/
theorem takeWord_wordsOnly {word : String} (h : p.takeWord word = .ok q) :
    q.wordsOnly = p.wordsOnly := by
  obtain ⟨taken, htaken, h⟩ := bind_eq_ok_iff.1 h
  split_ifs at h
  cases h
  exact (take_wordsOnly htaken : taken.wordsOnly = p.wordsOnly)

/-- Going down to a command does not end the flags. -/
theorem descend_wordsOnly {word : String} (h : p.descend word = .ok q)
    (hwords : p.wordsOnly = false) : q.wordsOnly = false := by
  unfold descend at h
  split_ifs at h
  · split at h
    · cases h
      rfl
    · cases h
  · exact (takeWord_wordsOnly h).trans hwords

/-- Two readings have come as far, a switch apart. The second has it or has it not. -/
structure IsAlike (switch : Flag) (on : Bool) (p p' : Progress) : Prop where
  /-- Both are at the same level. -/
  level : p'.level = p.level
  /-- Both have read the same words. -/
  words : p'.words = p.words
  /-- Both read only words from here on, or neither does. -/
  wordsOnly : p'.wordsOnly = p.wordsOnly
  /-- The flags of the level are alike. -/
  flags : p.flags.IsAlike switch p'.flags
  /-- So are those of the levels above. -/
  above : List.Forall₂ (Gathered.IsAlike switch) p.above p'.above
  /-- Whether the second has the switch. -/
  gives : p'.gives switch = on

/-- Every progress is like itself, with or without the switch. -/
theorem isAlike_self : p.IsAlike switch (p.gives switch) p where
  level := rfl
  words := rfl
  wordsOnly := rfl
  flags := .refl
  above := List.forall₂_same.2 fun _ _ => .refl
  gives := rfl

namespace IsAlike

/-- Where a switch is not taken up, there is the same but for it. -/
theorem taken_without (h : p.IsAlike switch on p') :
    Given.without (p'.flags.entries ++ given.without switch) switch =
      Given.without (p.flags.entries ++ given) switch := by
  rw [Given.without_append, Given.without_append, Given.without_without, h.flags.entries]

/-- Flags are taken up by both readings, except for the switch. -/
theorem take (h : p.IsAlike switch on p') (htake : p.take given = .ok q) :
    ∃ q', p'.take (given.without switch) = .ok q' ∧ q.IsAlike switch on q' := by
  obtain ⟨settled, flags, hsettled, hflags, -⟩ := take_eq_ok_iff.1 htake
  obtain ⟨settled', hsettled'⟩ := h.flags.settles settled hsettled
  have hsame : settled'.taken.without switch = settled.taken.without switch := by
    rw [Gathered.eq_of_settle hsettled, Gathered.eq_of_settle hsettled']
    exact h.flags.entries
  obtain ⟨flags', hflags'⟩ := Gathered.exists_take_without hsame hflags
  have htake' := take_eq_ok_iff.2 ⟨settled', flags', hsettled', hflags', rfl⟩
  refine ⟨_, htake', ?_⟩
  rw [eq_of_take htake, eq_of_take htake']
  refine ⟨h.level, h.words, h.wordsOnly, Gathered.isAlike_of_taken h.taken_without, h.above, ?_⟩
  rw [← h.gives, ← eq_of_take htake', gives_of_take htake', Given.has_without_self, Bool.or_false]

/-- The flag behind them is then held back by both. -/
theorem hold (h : p.IsAlike switch on p') (hflag : flag ≠ switch) (htake : p.take given = .ok q)
    (htake' : p'.take (given.without switch) = .ok q') :
    (q.hold flag value).IsAlike switch on (q'.hold flag value) := by
  have hgives : (q'.hold flag value).gives switch = on := by
    rw [gives_hold_of_take htake', gives_of_take htake', Given.has_without_self,
      beq_eq_false_iff_ne.2 hflag, Bool.or_false, Bool.or_false, h.gives]
  obtain rfl := eq_of_take htake
  obtain rfl := eq_of_take htake'
  exact ⟨h.level, h.words, h.wordsOnly, Gathered.IsAlike.held h.taken_without hflag, h.above,
    hgives⟩

/-- A switch is taken up by the first reading and passed over by the second, which may go on to
hold a value back. -/
theorem pass (h : p.IsAlike switch on p') (hgiven : given.without switch = [])
    (htake : p.take given = .ok q) : q.IsAlike switch on p' := by
  -- What the first held back it has taken up by now, so the second can do so at any time.
  obtain ⟨settled, flags, hsettled, -, -⟩ := take_eq_ok_iff.1 htake
  rw [eq_of_take htake]
  refine ⟨h.level, h.words, h.wordsOnly, ⟨?_, fun _ _ => h.flags.settles settled hsettled⟩,
    h.above, h.gives⟩
  rw [Gathered.entries_of_taken, Given.without_append, hgiven, List.append_nil, h.flags.entries]

/-- The same word is taken in both readings. -/
theorem takeWord (h : p.IsAlike switch on p') {word : String} (htake : p.takeWord word = .ok q) :
    ∃ q', p'.takeWord word = .ok q' ∧ q.IsAlike switch on q' := by
  obtain ⟨taken, htaken, htake⟩ := bind_eq_ok_iff.1 htake
  obtain ⟨taken', htaken', hlike⟩ := h.take htaken
  split_ifs at htake with hword
  cases htake
  refine ⟨{ taken' with words := taken'.words ++ [word] }, ?_, hlike.level,
    congrArg (· ++ [word]) hlike.words, hlike.wordsOnly, hlike.flags, hlike.above, hlike.gives⟩
  have hbare : p'.take [] = .ok taken' := htaken'
  rw [Progress.takeWord, hbare]
  change (if _ then _ else _) = _
  rw [hlike.words, hlike.level, if_pos hword]
  rfl

/-- The same level is entered in both readings. -/
theorem enter (h : p.IsAlike switch on p') :
    (p.enter level).IsAlike switch on (p'.enter level) where
  level := rfl
  words := rfl
  wordsOnly := rfl
  flags := .refl
  above := List.rel_append h.above (.cons h.flags .nil)
  gives := gives_enter.trans h.gives

/-- Both readings go down to the same command. -/
theorem descend (h : p.IsAlike switch on p') {word : String} (hdescend : p.descend word = .ok q) :
    ∃ q', p'.descend word = .ok q' ∧ q.IsAlike switch on q' := by
  unfold Progress.descend at hdescend ⊢
  rw [h.level]
  split_ifs at hdescend ⊢ with hcommands
  · split at hdescend
    · cases hdescend
      exact ⟨_, rfl, h.enter⟩
    · cases hdescend
  · exact h.takeWord hdescend

end IsAlike

end Progress

/-! ### Reading -/

variable {p p' q : Progress} {on : Bool} {rest : List String} {env : Environment}
  {inv : Invocation}

/-- Where there are only words, they are read alike. -/
theorem readFrom_of_wordsOnly (h : p.IsAlike switch on p') (hwords : p.wordsOnly = true)
    (hread : readFrom p rest = .ok q) :
    ∃ q', readFrom p' rest = .ok q' ∧ q.IsAlike switch on q' := by
  -- A word changes neither that only words are left nor that both are alike.
  induction rest generalizing p p' with
  | nil =>
    cases hread
    exact ⟨p', rfl, h⟩
  | cons word rest ih =>
    simp only [readFrom, h.wordsOnly, hwords, if_true] at hread ⊢
    cases htake : p.takeWord word with
    | error e =>
      rw [htake] at hread
      cases hread
    | ok taken =>
      rw [htake] at hread
      obtain ⟨taken', htaken', hlike⟩ := h.takeWord htake
      rw [htaken']
      exact ih hlike ((Progress.takeWord_wordsOnly htake).trans hwords) hread

/-- Without a switch, a command line is read as far. -/
theorem readFrom_without (hswitch : switch.isSwitch = true) (h : p.IsAlike switch on p')
    (hwords : p.wordsOnly = false) (hread : readFrom p rest = .ok q) :
    ∃ q', readFrom p' (argumentsWithout switch rest) = .ok q' ∧ q.IsAlike switch on q' := by
  -- The induction is on how the first reading goes; the second takes the same branches, and none
  -- where the first takes up nothing but the switch.
  fun_induction readFrom p rest generalizing p' with
  | case1 p =>
    cases hread
    exact ⟨p', rfl, h⟩
  | case2 | case5 | case6 | case8 | case10 | case11 | case12 => cases hread
  | case3 p argument rest hyes taken hword ih => cases hwords.symm.trans hyes
  | case4 p rest hno ih =>
    -- After two hyphens nothing is left out.
    have hlike : { p with wordsOnly := true : Progress }.IsAlike switch on
        { p' with wordsOnly := true } :=
      ⟨h.level, h.words, rfl, h.flags, h.above, h.gives⟩
    obtain ⟨q', hread', hq⟩ := readFrom_of_wordsOnly hlike rfl hread
    refine ⟨q', ?_, hq⟩
    rw [argumentsWithout, if_pos rfl, readFrom, h.wordsOnly, if_neg hno, if_pos rfl]
    exact hread'
  | case7 p argument rest hno hdashes bundle hbundle taken htail htake ih =>
    have hno' := (Progress.take_wordsOnly htake).trans hwords
    cases hleft : argumentWithout? switch argument with
    | none =>
      -- The argument was the switch alone, and is passed over.
      have hgiven :=
        congrArg Bundle.given (bundle_of_argumentWithout?_eq_none hswitch hbundle hleft)
      rw [argumentsWithout_cons_of_none hdashes hleft]
      exact ih (h.pass hgiven htake) hno' hread
    | some left =>
      obtain ⟨hleftDashes, hleftBundle⟩ :=
        bundle?_of_argumentWithout?_eq_some hswitch hdashes hbundle (by simp [htail]) hleft
      obtain ⟨taken', htake', hlike⟩ := h.take htake
      obtain ⟨q', hread', hq⟩ := ih hlike hno' hread
      refine ⟨q', ?_, hq⟩
      rw [argumentsWithout_cons_of_some hdashes hleft]
      simp [readFrom, h.wordsOnly, hno, hleftDashes, h.level, hleftBundle, Bundle.without, htail,
        htake', hread']
  | case9 p argument hno hdashes bundle hbundle taken flag htail htake value rest hvalue ih =>
    -- The flag that awaits a value is no switch, so it is left, and so is its value.
    have hflag : flag ≠ switch := by
      rintro rfl
      cases (takesValue_of_awaits hbundle htail).symm.trans (Flag.takesValue_of_isSwitch hswitch)
    obtain ⟨left, hleft⟩ : ∃ left, argumentWithout? switch argument = some left := by
      refine Option.ne_none_iff_exists'.1 fun hnone => ?_
      have hcomplete :=
        congrArg Bundle.tail (bundle_of_argumentWithout?_eq_none hswitch hbundle hnone)
      cases htail.symm.trans hcomplete
    obtain ⟨hleftDashes, hleftBundle⟩ :=
      bundle?_of_argumentWithout?_eq_some hswitch hdashes hbundle (by simp [htail]) hleft
    obtain ⟨taken', htake', -⟩ := h.take htake
    obtain ⟨hvalueDashes, hvalueLeft⟩ := argumentWithout?_of_isWord hvalue
    obtain ⟨q', hread', hq⟩ := ih (h.hold hflag htake htake')
      ((Progress.take_wordsOnly htake).trans hwords) hread
    refine ⟨q', ?_, hq⟩
    rw [argumentsWithout_cons_of_some hdashes hleft,
      argumentsWithout_cons_of_some hvalueDashes hvalueLeft]
    simp [readFrom, h.wordsOnly, hno, hleftDashes, h.level, hleftBundle, Bundle.without, htail,
      htake', hvalue, hread']
  | case13 p argument rest hno hdashes hbundle hhelp below hdescend ih =>
    obtain ⟨below', hdescend', hlike⟩ := h.descend hdescend
    obtain ⟨q', hread', hq⟩ := ih hlike (Progress.descend_wordsOnly hdescend hwords) hread
    refine ⟨q', ?_, hq⟩
    simp only [Bool.not_eq_true] at hhelp
    rw [argumentsWithout_cons_of_some hdashes (argumentWithout?_of_bundle?_eq_none hbundle)]
    simp [readFrom, h.wordsOnly, hno, hdashes, h.level, hbundle, hhelp, hdescend', hread']

/-- A command line that does not give a switch is left as it is. -/
theorem argumentsWithout_eq_self (hswitch : switch.isSwitch = true)
    (hread : readFrom p rest = .ok q) (hnone : q.gives switch = false) :
    p.gives switch = false ∧ (p.wordsOnly = false → argumentsWithout switch rest = rest) := by
  -- What has been given stays given, so a switch that is not there in the end never was.
  fun_induction readFrom p rest with
  | case1 p =>
    cases hread
    exact ⟨hnone, fun _ => rfl⟩
  | case2 | case5 | case6 | case8 | case10 | case11 | case12 => cases hread
  | case3 p argument rest hyes taken hword ih =>
    refine ⟨?_, fun hwords => by cases hwords.symm.trans hyes⟩
    rw [← Progress.gives_of_takeWord hword]
    exact (ih hread).1
  | case4 p rest hno ih => exact ⟨(ih hread).1, fun _ => rfl⟩
  | case7 p argument rest hno hdashes bundle hbundle taken htail htake ih =>
    obtain ⟨htaken, hrest⟩ := ih hread
    rw [Progress.gives_of_take htake, Bool.or_eq_false_iff] at htaken
    refine ⟨htaken.1, fun hwords => ?_⟩
    rw [argumentsWithout_cons_of_some hdashes
      (argumentWithout?_eq_self hswitch hbundle (by simp [htail]) htaken.2),
      hrest ((Progress.take_wordsOnly htake).trans hwords)]
  | case9 p argument hno hdashes bundle hbundle taken flag htail htake value rest hvalue ih =>
    obtain ⟨hheld, hrest⟩ := ih hread
    rw [Progress.gives_hold_of_take htake, Progress.gives_of_take htake, Bool.or_eq_false_iff,
      Bool.or_eq_false_iff] at hheld
    obtain ⟨hvalueDashes, hvalueLeft⟩ := argumentWithout?_of_isWord hvalue
    refine ⟨hheld.1.1, fun hwords => ?_⟩
    rw [argumentsWithout_cons_of_some hdashes
      (argumentWithout?_eq_self hswitch hbundle (by simp [htail]) hheld.1.2),
      argumentsWithout_cons_of_some hvalueDashes hvalueLeft,
      hrest ((Progress.take_wordsOnly htake).trans hwords)]
  | case13 p argument rest hno hdashes hbundle hhelp below hdescend ih =>
    obtain ⟨hbelow, hrest⟩ := ih hread
    rw [Progress.gives_of_descend hdescend] at hbelow
    refine ⟨hbelow, fun hwords => ?_⟩
    rw [argumentsWithout_cons_of_some hdashes (argumentWithout?_of_bundle?_eq_none hbundle),
      hrest (Progress.descend_wordsOnly hdescend hwords)]

/-- Nothing has been read but a switch. -/
def Progress.startWith (switch : Flag) : Progress :=
  { start with flags := { taken := [(switch, "")] } }

/-- One that starts with the switch is like one that starts without. -/
theorem Progress.isAlike_startWith : start.IsAlike switch true (startWith switch) where
  level := rfl
  words := rfl
  wordsOnly := rfl
  flags := Gathered.isAlike_of_taken Given.without_cons_self
  above := .nil
  gives := by simp [Progress.gives, startWith, start, Given.has]

/-- A switch can be put in front of every command line. -/
theorem readFrom_cons_switch (hswitch : switch.isSwitch = true) {long : String}
    (hlong : switch.longNames.contains long = true) :
    readFrom .start (("--" ++ long) :: rest) = readFrom (.startWith switch) rest := by
  have hlist : ("--" ++ long).toList = '-' :: '-' :: long.toList := String.toList_append
  have hdashes : "--" ++ long ≠ "--" := by
    intro hsame
    have hnil : long.toList = [] := by simpa [hsame] using hlist.symm
    cases switch <;> simp_all [Flag.longNames]
  have hbundle : bundle? .root ("--" ++ long) = some ⟨[(switch, "")], .complete⟩ := by
    rw [bundle?_long hlist, longBundle_of_isSwitch hswitch (by rwa [String.ofList_toList])]
  have htake : Progress.start.take [(switch, "")] = .ok (.startWith switch) := by
    cases switch <;> cases hswitch <;> rfl
  simp only [readFrom, Progress.start, hdashes, hbundle] at htake ⊢
  simp [htake]

/-! ### What was read -/

section Levels

variable {levels levels' : List Given}

/-- What does not depend on a switch is the same at levels that are the same but for it. -/
theorem map_levels_congr {α : Type} {f : Given → α}
    (h : levels'.map (·.without switch) = levels.map (·.without switch))
    (hf : ∀ given : Given, f (given.without switch) = f given) : levels'.map f = levels.map f := by
  have hmap (levels : List Given) : (levels.map (·.without switch)).map f = levels.map f := by
    simp [hf]
  rw [← hmap levels', h, hmap]

/-- Every other flag is given in both or in neither. -/
theorem any_has_congr (h : levels'.map (·.without switch) = levels.map (·.without switch))
    (hflag : flag ≠ switch) : levels'.any (·.has flag) = levels.any (·.has flag) := by
  have hmap : levels'.map (·.has flag) = levels.map (·.has flag) :=
    map_levels_congr h fun _ => Given.has_without hflag
  have hany (levels : List Given) :
      levels.any (·.has flag) = (levels.map (·.has flag)).any id := by
    rw [List.any_map]
    rfl
  rw [hany, hmap, ← hany]

/-- Every other value is the same in both. -/
theorem globalValue_congr (h : levels'.map (·.without switch) = levels.map (·.without switch))
    (hflag : flag ≠ switch) {fallback : Option String} :
    globalValue levels' flag fallback = globalValue levels flag fallback := by
  have hmap : levels'.map (·.value? flag) = levels.map (·.value? flag) :=
    map_levels_congr h fun _ => Given.value?_without hflag
  have hfound (levels : List Given) : levels.reverse.findSome? (·.value? flag) =
      (levels.map (·.value? flag)).reverse.findSome? id := by
    rw [← List.map_reverse, List.findSome?_map]
    rfl
  rw [globalValue, globalValue, hfound, hmap, ← hfound]

/-- An empty path is given in both or in neither. -/
theorem hasEmptyDatabase_congr (h : levels'.map (·.without switch) = levels.map (·.without switch))
    (hflag : Flag.database ≠ switch) :
    hasEmptyDatabase env levels' = hasEmptyDatabase env levels := by
  have hmap : levels'.map (·.has .database) = levels.map (·.has .database) :=
    map_levels_congr h fun _ => Given.has_without hflag
  have hany (levels : List Given) :
      (levels.any fun given => !given.has .database) = (levels.map (·.has .database)).any (!·) := by
    rw [List.any_map]
    rfl
  rw [hasEmptyDatabase, hasEmptyDatabase, hany, hmap, ← hany]

end Levels

/-- No command depends on a switch. -/
theorem command?_congr (hswitch : switch.isSwitch = true)
    (h : given'.without switch = given.without switch) {words : List String} :
    command? given' level words = command? given level words := by
  have hhas (flag : Flag) (hflag : flag.isSwitch = false) : given'.has flag = given.has flag :=
    Given.has_congr h (Flag.ne_of_isSwitch hswitch hflag)
  have hvalue (flag : Flag) (hflag : flag.isSwitch = false) :
      given'.value? flag = given.value? flag :=
    Given.value?_congr h (Flag.ne_of_isSwitch hswitch hflag)
  unfold command?
  split <;> first | rfl | simp (disch := decide) only [hhas, hvalue]

namespace Progress

/-- Settling changes nothing of what was given. -/
theorem taken_of_mapM_settle {gs settled : List Gathered}
    (h : gs.mapM Gathered.settle = .ok settled) :
    settled.map (·.taken) = gs.map Gathered.entries := by
  induction gs generalizing settled with
  | nil =>
    cases h
    rfl
  | cons g gs ih =>
    rw [List.mapM_cons] at h
    obtain ⟨first, hfirst, h⟩ := bind_eq_ok_iff.1 h
    obtain ⟨others, hothers, h⟩ := bind_eq_ok_iff.1 h
    cases h
    rw [List.map_cons, List.map_cons, ih hothers, Gathered.eq_of_settle hfirst]

/-- In the end each level has all that was given there. -/
theorem eq_of_finish {levels : List Given} (h : p.finish = .ok levels) :
    levels = (p.above ++ [p.flags]).map Gathered.entries := by
  obtain ⟨settled, hsettled, h⟩ := bind_eq_ok_iff.1 h
  cases h
  exact taken_of_mapM_settle hsettled

/-- What settles in one settles in the other. -/
theorem exists_mapM_settle {gs gs' : List Gathered}
    (h : List.Forall₂ (Gathered.IsAlike switch) gs gs') {settled : List Gathered}
    (hsettle : gs.mapM Gathered.settle = .ok settled) :
    ∃ settled', gs'.mapM Gathered.settle = .ok settled' := by
  induction h generalizing settled with
  | nil => exact ⟨[], rfl⟩
  | @cons g g' gs gs' hg hgs ih =>
    rw [List.mapM_cons] at hsettle ⊢
    obtain ⟨first, hfirst, hsettle⟩ := bind_eq_ok_iff.1 hsettle
    obtain ⟨others, hothers, -⟩ := bind_eq_ok_iff.1 hsettle
    obtain ⟨first', hfirst'⟩ := hg.settles first hfirst
    obtain ⟨others', hothers'⟩ := ih hothers
    exact ⟨_, bind_eq_ok_iff.2 ⟨_, hfirst', bind_eq_ok_iff.2 ⟨_, hothers', rfl⟩⟩⟩

/-- All levels of two readings that have come as far are alike. -/
theorem IsAlike.levels (h : p.IsAlike switch on p') :
    List.Forall₂ (Gathered.IsAlike switch) (p.above ++ [p.flags]) (p'.above ++ [p'.flags]) :=
  List.rel_append h.above (.cons h.flags .nil)

/-- What is finished in one is finished in the other, with the same but for the switch. -/
theorem IsAlike.exists_finish (h : p.IsAlike switch on p') {levels : List Given}
    (hfinish : p.finish = .ok levels) : ∃ levels', p'.finish = .ok levels' ∧
      levels'.map (·.without switch) = levels.map (·.without switch) ∧
      levels'.any (·.has switch) = on := by
  obtain ⟨settled, hsettled, -⟩ := bind_eq_ok_iff.1 hfinish
  obtain ⟨settled', hsettled'⟩ := exists_mapM_settle h.levels hsettled
  have hfinish' : p'.finish = .ok (settled'.map (·.taken)) :=
    bind_eq_ok_iff.2 ⟨settled', hsettled', rfl⟩
  refine ⟨_, hfinish', ?_, ?_⟩
  · rw [eq_of_finish hfinish, eq_of_finish hfinish', List.map_map, List.map_map]
    have hlevels := h.levels
    generalize p.above ++ [p.flags] = gs at hlevels
    generalize p'.above ++ [p'.flags] = gs' at hlevels
    induction hlevels with
    | nil => rfl
    | cons hg _ ih => exact congrArg₂ List.cons hg.entries ih
  · -- Whether the switch is given anywhere is part of being alike, and settling does not change it.
    rw [eq_of_finish hfinish', List.any_map]
    exact h.gives

end Progress

/-- A command line that was read, with a switch on or off. Whether more is to be told is not
kept. -/
def Invocation.set (inv : Invocation) (switch : Flag) (on : Bool) : Invocation :=
  match switch with
  | .json => { inv with json := on }
  | .quiet => { inv with quiet := on }
  | .noColor => { inv with noColor := on }
  | _ => inv

/-- Readings that have come as far make the same command, a switch apart. -/
theorem Progress.IsAlike.invocation (hswitch : switch.isSwitch = true)
    (h : p.IsAlike switch on p') (hread : p.invocation env = .ok inv) :
    p'.invocation env = .ok (inv.set switch on) := by
  obtain ⟨levels, hfinish, hread⟩ := bind_eq_ok_iff.1 hread
  obtain ⟨levels', hfinish', hsame, hon⟩ := h.exists_finish hfinish
  -- The command and the values do not depend on the switch.
  have hcommand : command? (levels'.getLastD []) p'.level p'.words =
      command? (levels.getLastD []) p.level p.words := by
    rw [eq_of_finish hfinish, eq_of_finish hfinish', h.level, h.words]
    simpa using command?_congr hswitch h.flags.entries
  have hvalue (flag : Flag) (hflag : flag.isSwitch = false) (fallback : Option String) :
      globalValue levels' flag fallback = globalValue levels flag fallback :=
    globalValue_congr hsame (Flag.ne_of_isSwitch hswitch hflag)
  have hempty : hasEmptyDatabase env levels' = hasEmptyDatabase env levels :=
    hasEmptyDatabase_congr hsame (Flag.ne_of_isSwitch hswitch rfl)
  have hhas (flag : Flag) (hflag : flag ≠ switch) :
      levels'.any (·.has flag) = levels.any (·.has flag) := any_has_congr hsame hflag
  unfold Progress.invocation
  simp only [hfinish', bind, Except.bind, hcommand, hempty]
  split at hread
  · cases hread
  · next command hsome =>
    split_ifs at hread with hrefused
    · cases hread
    · cases hread
      simp only [if_neg hrefused]
      rw [hvalue _ rfl, hvalue _ rfl, hvalue _ rfl]
      -- The switch itself is the one flag that may differ.
      cases switch <;> cases hswitch <;> simp [Invocation.set, hhas, hon] <;> rfl

/-- Without a switch, a command line makes the same command, with the switch off. -/
theorem read_without (hswitch : switch.isSwitch = true) {arguments : List String}
    (h : read env arguments = .ok inv) :
    read env (argumentsWithout switch arguments) = .ok (inv.set switch false) := by
  rw [read_eq] at h ⊢
  obtain ⟨q, hread, hinv⟩ := bind_eq_ok_iff.1 h
  obtain ⟨q', hread', hq⟩ := readFrom_without hswitch Progress.isAlike_self rfl hread
  rw [hread']
  exact hq.invocation hswitch hinv

/-- A command line that leaves a switch off is one without it. -/
theorem argumentsWithout_of_read (hswitch : switch.isSwitch = true) {arguments : List String}
    (h : read env arguments = .ok inv) (hoff : inv.set switch true ≠ inv) :
    argumentsWithout switch arguments = arguments := by
  rw [read_eq] at h
  obtain ⟨q, hread, hinv⟩ := bind_eq_ok_iff.1 h
  -- A reading is like itself, so its command is set to whether it gives the switch.
  have hset : q.invocation env = .ok (inv.set switch (q.gives switch)) :=
    Progress.isAlike_self.invocation hswitch hinv
  have hnone : q.gives switch = false := by
    refine Bool.eq_false_iff.2 fun hgives => hoff ?_
    rw [hgives, hinv] at hset
    exact (Except.ok.inj hset).symm
  exact (argumentsWithout_eq_self hswitch hread hnone).2 rfl

/-- With a switch in front, a command line that leaves it off makes the same command, with the
switch on. -/
theorem read_cons_switch (hswitch : switch.isSwitch = true) {long : String}
    (hlong : switch.longNames.contains long = true) {arguments : List String}
    (h : read env arguments = .ok inv) (hoff : inv.set switch true ≠ inv) :
    read env (("--" ++ long) :: arguments) = .ok (inv.set switch true) := by
  have hsame := argumentsWithout_of_read hswitch h hoff
  rw [read_eq] at h ⊢
  obtain ⟨q, hread, hinv⟩ := bind_eq_ok_iff.1 h
  obtain ⟨q', hread', hq⟩ := readFrom_without hswitch Progress.isAlike_startWith rfl hread
  rw [hsame] at hread'
  rw [readFrom_cons_switch hswitch hlong, hread']
  exact hq.invocation hswitch hinv

example : argumentsWithout .quiet ["-vq", "issue", "--quiet", "show", "-q", "--", "-q"] =
    ["-v", "issue", "show", "--", "-q"] := by decide

end ReviewPipeline.CommandLine
