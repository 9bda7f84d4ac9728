import Mathlib.Data.List.TakeDrop
import Mathlib.Tactic.SplitIfs
import ReviewPipeline.CommandLine.Reading

/-!
# Arguments Without a Switch

A switch is a flag without a value that says how a command is shown, and not what it does. It is
given by its long name in an argument of its own, or by its letter among the letters of others. So
it can be taken out of an argument, or the argument out of the command line if nothing is left.

What follows the letter of a flag with a value is that value, and no more letters. It does not
matter at which level the argument stands: the letters of the root are those of the flags that take
no value, and no level uses one of them for another flag.

## Main definitions

* `argumentWithout?`, `argumentsWithout`: an argument and a command line without a switch;
* `Given.without`: the flags that are given, without a switch.

## Main results

* `bundle_of_argumentWithout?_eq_none`: an argument of which nothing is left gives only the switch;
* `bundle?_of_argumentWithout?_eq_some`: what is left gives the same flags but for the switch;
* `argumentWithout?_eq_self`: an argument that does not give the switch stays as it is.
-/

namespace ReviewPipeline.CommandLine

variable {switch flag : Flag} {given given' : Given} {level : Level} {argument : String}
  {letter : Char} {letters name : List Char}

/-- Whether a flag only says how a command is shown. -/
def Flag.isSwitch : Flag → Bool
  | json | verbose | quiet | noColor => true
  | _ => false

/-- A flag that is no switch is not this one. -/
theorem Flag.ne_of_isSwitch (hswitch : switch.isSwitch = true) (hflag : flag.isSwitch = false) :
    flag ≠ switch := by
  rintro rfl
  cases hswitch.symm.trans hflag

/-- A switch takes no value. -/
theorem Flag.takesValue_of_isSwitch (h : switch.isSwitch = true) : switch.takesValue = false := by
  cases switch <;> first | rfl | cases h

/-! ### Arguments -/

/-- The letters of an argument, without those of a switch. After the letter of a flag that takes a
value comes that value; the letters of the root are those that take none. -/
def lettersWithout (switch : Flag) : List Char → List Char
  | [] => []
  | c :: cs =>
    if switch.letter? = some c then lettersWithout switch cs
    else if (Level.root.flagLettered? c).isSome then c :: lettersWithout switch cs
    else c :: cs

/-- An argument without a switch, if anything is left of it. -/
def argumentWithout? (switch : Flag) (argument : String) : Option String :=
  match argument.toList with
  | '-' :: '-' :: name =>
    if switch.longNames.contains (String.ofList name) then none else some argument
  | '-' :: c :: cs =>
    match lettersWithout switch (c :: cs) with
    | [] => none
    | letters => some (String.ofList ('-' :: letters))
  | _ => some argument

/-- A command line without a switch. After two hyphens there are only words. -/
def argumentsWithout (switch : Flag) : List String → List String
  | [] => []
  | argument :: rest =>
    if argument = "--" then argument :: rest
    else (argumentWithout? switch argument).toList ++ argumentsWithout switch rest

/-- An argument that is nothing but the switch is left out. -/
theorem argumentsWithout_cons_of_none {rest : List String} (hdashes : argument ≠ "--")
    (h : argumentWithout? switch argument = none) :
    argumentsWithout switch (argument :: rest) = argumentsWithout switch rest := by
  rw [argumentsWithout, if_neg hdashes, h]
  rfl

/-- Of any other argument, what is no switch is kept. -/
theorem argumentsWithout_cons_of_some {left : String} {rest : List String}
    (hdashes : argument ≠ "--") (h : argumentWithout? switch argument = some left) :
    argumentsWithout switch (argument :: rest) = left :: argumentsWithout switch rest := by
  rw [argumentsWithout, if_neg hdashes, h]
  rfl

/-- An argument that gives no flags is left as it is. -/
theorem argumentWithout?_of_bundle?_eq_none (h : bundle? level argument = none) :
    argumentWithout? switch argument = some argument := by
  unfold bundle? at h
  split at h
  · cases h
  · next hhyphen =>
    rw [argumentWithout?, hhyphen]
    rfl
  · cases h
  · next hlong hhyphen hshort =>
    unfold argumentWithout?
    split
    · next name hname => exact absurd hname (hlong name)
    · next c cs _ hletters => exact absurd hletters (hshort (c :: cs))
    · rfl

/-- What can be the value of a flag does not end the flags, and is left as it is. -/
theorem argumentWithout?_of_isWord (h : isWord argument = true) :
    argument ≠ "--" ∧ argumentWithout? switch argument = some argument := by
  have hword : argument = "-" ∨ argument.toList.head? ≠ some '-' := by simpa [isWord] using h
  rcases hword with rfl | hhead
  · exact ⟨by decide, rfl⟩
  · refine ⟨?_, ?_⟩
    · rintro rfl
      exact hhead rfl
    · unfold argumentWithout?
      split <;> simp_all

/-! ### Given flags -/

namespace Given

/-- The flags that are given, without a switch. -/
def without (given : Given) (switch : Flag) : Given :=
  given.filter (·.1 != switch)

/-- Without a switch, its entry is gone. -/
theorem without_cons_self {value : String} :
    without ((switch, value) :: given) switch = given.without switch := by
  simp [without]

/-- Other entries stay. -/
theorem without_cons (h : flag ≠ switch) {value : String} :
    without ((flag, value) :: given) switch = (flag, value) :: given.without switch := by
  simp [without, h]

/-- Two lists of entries lose a switch each for itself. -/
theorem without_append :
    without (given ++ given') switch = given.without switch ++ given'.without switch :=
  List.filter_append _ _

/-- A switch is lost once. -/
theorem without_without : (given.without switch).without switch = given.without switch := by
  simp [without]

/-- A flag is given in one of two lists if it is in both together. -/
theorem has_append : has (given ++ given') flag = (given.has flag || given'.has flag) :=
  List.any_append

/-- Without a switch, it is not given. -/
theorem has_without_self : (given.without switch).has switch = false := by
  simp [has, without]

/-- Other flags are given as before. -/
theorem has_without (h : flag ≠ switch) : (given.without switch).has flag = given.has flag := by
  unfold has without
  rw [List.any_filter]
  congr 1
  funext entry
  by_cases hflag : entry.1 = flag
  · simp [hflag, h]
  · simp [hflag]

/-- Other flags have the values they had. -/
theorem value?_without (h : flag ≠ switch) :
    (given.without switch).value? flag = given.value? flag := by
  unfold value? without
  induction given with
  | nil => rfl
  | cons entry given ih =>
    obtain ⟨other, value⟩ := entry
    by_cases hother : other = switch
    · have hne : flag ≠ other := hother ▸ h
      simp [hother, List.lookup_cons, beq_eq_false_iff_ne.2 h, ih]
    · simp [hother, List.lookup_cons, ih]

/-- Flags that are the same but for a switch give the same other flags. -/
theorem has_congr (hsame : given'.without switch = given.without switch) (h : flag ≠ switch) :
    given'.has flag = given.has flag := by
  rw [← has_without h, hsame, has_without h]

/-- Where the same is left without a switch, other flags have the same values. -/
theorem value?_congr (hsame : given'.without switch = given.without switch) (h : flag ≠ switch) :
    given'.value? flag = given.value? flag := by
  rw [← value?_without h, hsame, value?_without h]

end Given

/-! ### The flags of an argument -/

/-- The flags of an argument, without a switch. -/
def Bundle.without (bundle : Bundle) (switch : Flag) : Bundle :=
  { bundle with given := bundle.given.without switch }

/-- A switch is found by its letter at every level. -/
theorem Level.flagLettered?_of_isSwitch (hswitch : switch.isSwitch = true)
    (h : switch.letter? = some letter) : level.flagLettered? letter = some switch := by
  cases switch <;> cases hswitch <;> cases h <;>
    simp [flagLettered?, flags, globalFlags, Flag.letter?]

/-- A switch is found by any of its names, at every level. -/
theorem Level.flagNamed?_of_isSwitch (hswitch : switch.isSwitch = true) {name : String}
    (h : switch.longNames.contains name = true) : level.flagNamed? name = some switch := by
  have hname : name ∈ switch.longNames := List.contains_iff_mem.1 h
  unfold flagNamed? flags
  rw [List.find?_append]
  cases switch <;> cases hswitch <;>
    simp only [Flag.longNames, List.mem_cons, List.not_mem_nil, or_false] at hname
  case json => rcases hname with rfl | rfl <;> rfl
  all_goals
    subst hname
    rfl

/-- The letters of the root are those of flags that take no value, at every level. -/
theorem Flag.takesValue_of_letter? (h : flag.letter? = some letter) :
    flag.takesValue = !(Level.root.flagLettered? letter).isSome := by
  cases flag <;> cases h <;> rfl

/-- Without the letters of a switch, an argument gives the same other flags. -/
theorem shortBundle_lettersWithout (hswitch : switch.isSwitch = true) :
    shortBundle level (lettersWithout switch letters) =
      (shortBundle level letters).without switch := by
  induction letters with
  | nil => rfl
  | cons c cs ih =>
    unfold lettersWithout
    split_ifs with hletter hbare
    · simp [shortBundle, Level.flagLettered?_of_isSwitch hswitch hletter,
        Flag.takesValue_of_isSwitch hswitch, ih, Bundle.without, Given.without_cons_self]
    -- Another letter stays, and whether a value comes after it is the same at every level.
    all_goals
      cases hflag : level.flagLettered? c with
      | none => simp [shortBundle, hflag, Bundle.without, Given.without]
      | some flag => ?_
      have hlettered : flag.letter? = some c := by simpa using List.find?_some hflag
      have hne : flag ≠ switch := by
        rintro rfl
        exact hletter hlettered
      have htakes := Flag.takesValue_of_letter? hlettered
    · simp [shortBundle, hflag, htakes, hbare, ih, Bundle.without, Given.without_cons hne]
    · by_cases hnone : cs.isEmpty = true <;>
        simp [shortBundle, hflag, htakes, hbare, hnone, Bundle.without, Given.without, hne]

/-- Where there is no equals sign, all that stands there is the name. -/
theorem splitEquals_eq_none {cs : List Char} {name : String} (h : splitEquals cs = (name, none)) :
    name = String.ofList cs := by
  unfold splitEquals at h
  split at h
  · cases h
  · next before rest hnone hspan =>
    rw [List.span_eq_takeWhile_dropWhile] at hspan
    obtain ⟨hbefore, hrest⟩ := Prod.mk.inj hspan
    -- What is left after the name would begin with an equals sign.
    have hempty : rest = [] := by
      cases rest with
      | nil => rfl
      | cons c value =>
        have hequals := List.head?_dropWhile_not (fun c => decide (c ≠ '=')) cs
        rw [hrest] at hequals
        obtain rfl : c = '=' := by simpa using hequals
        exact absurd rfl (hnone value)
    have hcs : before = cs := by
      rw [← List.takeWhile_append_dropWhile (p := fun c => decide (c ≠ '=')) (l := cs), hbefore,
        hrest, hempty, List.append_nil]
    cases h
    rw [hcs]

/-- The long name of a switch gives that switch. -/
theorem longBundle_of_isSwitch (hswitch : switch.isSwitch = true)
    (h : switch.longNames.contains (String.ofList name) = true) :
    longBundle level name = ⟨[(switch, "")], .complete⟩ := by
  have hsplit : splitEquals name = (String.ofList name, none) := by
    have hname : String.ofList name ∈ switch.longNames := List.contains_iff_mem.1 h
    rw [← String.toList_ofList (l := name)]
    generalize String.ofList name = name at hname
    cases switch <;> cases hswitch <;>
      simp only [Flag.longNames, List.mem_cons, List.not_mem_nil, or_false] at hname
    case json => rcases hname with rfl | rfl <;> decide
    all_goals
      subst hname
      decide
  rw [longBundle, hsplit]
  simp [Level.flagNamed?_of_isSwitch hswitch h, Flag.takesValue_of_isSwitch hswitch]

/-- Any other long flag is no switch, or it has a value that a switch does not take. -/
theorem longBundle_without (hswitch : switch.isSwitch = true)
    (h : switch.longNames.contains (String.ofList name) = false) :
    (longBundle level name).without switch = longBundle level name := by
  unfold longBundle
  cases hsplit : splitEquals name with
  | mk found value =>
  dsimp only
  cases hnamed : level.flagNamed? found with
  | none => rfl
  | some flag =>
    by_cases hflag : flag = switch
    -- A switch with a value gives nothing, and without one all that stands there is its name.
    · subst hflag
      have hfound : flag.longNames.contains found = true := by simpa using List.find?_some hnamed
      cases value with
      | some value => simp [Flag.takesValue_of_isSwitch hswitch, Bundle.without, Given.without]
      | none =>
        rw [splitEquals_eq_none hsplit, h] at hfound
        cases hfound
    · cases value <;> by_cases htakes : flag.takesValue = true <;>
        simp [htakes, hflag, Bundle.without, Given.without]

/-- An argument that gives flags is a long one or a short one. -/
theorem bundle?_cases {bundle : Bundle} (h : bundle? level argument = some bundle) :
    (∃ name, argument.toList = '-' :: '-' :: name ∧ bundle = longBundle level name) ∨
      ∃ c cs, argument.toList = '-' :: c :: cs ∧ c ≠ '-' ∧
        bundle = shortBundle level (c :: cs) := by
  unfold bundle? at h
  split at h
  · next name hname =>
    cases h
    exact .inl ⟨name, hname, rfl⟩
  · cases h
  · next letters hlong hempty hletters =>
    cases h
    cases letters with
    | nil => exact absurd rfl hempty
    | cons c cs =>
      refine .inr ⟨c, cs, hletters, ?_, rfl⟩
      rintro rfl
      exact hlong cs rfl
  · cases h

/-- An argument with two hyphens is a flag with a long name. -/
theorem bundle?_long (h : argument.toList = '-' :: '-' :: name) :
    bundle? level argument = some (longBundle level name) := by
  unfold bundle?
  split <;> simp_all

/-- An argument with one is a bundle of letters. -/
theorem bundle?_short {c : Char} {cs : List Char} (h : argument.toList = '-' :: c :: cs)
    (hc : c ≠ '-') : bundle? level argument = some (shortBundle level (c :: cs)) := by
  unfold bundle?
  split <;> simp_all [eq_comm]

/-- A long name is left out if it is one of the switch. -/
theorem argumentWithout?_long (h : argument.toList = '-' :: '-' :: name) :
    argumentWithout? switch argument =
      if switch.longNames.contains (String.ofList name) then none else some argument := by
  unfold argumentWithout?
  split <;> simp_all

/-- Of a bundle, the letters of the switch are left out. -/
theorem argumentWithout?_short {c : Char} {cs : List Char} (h : argument.toList = '-' :: c :: cs)
    (hc : c ≠ '-') : argumentWithout? switch argument =
      match lettersWithout switch (c :: cs) with
      | [] => none
      | letters => some (String.ofList ('-' :: letters)) := by
  unfold argumentWithout?
  split
  · next name hname =>
    rw [h] at hname
    cases hname
    exact absurd rfl hc
  · next first others _ hletters =>
    rw [h] at hletters
    cases hletters
    rfl
  · next hnone => exact absurd h (hnone c cs)

/-- No flag has a hyphen for its letter. -/
theorem shortBundle_hyphen : shortBundle level ('-' :: letters) = ⟨[], .unknown⟩ := by
  have hnone : level.flagLettered? '-' = none := by
    refine List.find?_eq_none.2 fun flag _ => ?_
    cases flag <;> simp [Flag.letter?]
  simp [shortBundle, hnone]

/-- An argument of which nothing is left gives a switch and no other flag. -/
theorem bundle_of_argumentWithout?_eq_none (hswitch : switch.isSwitch = true) {bundle : Bundle}
    (hbundle : bundle? level argument = some bundle)
    (h : argumentWithout? switch argument = none) : bundle.without switch = ⟨[], .complete⟩ := by
  rcases bundle?_cases hbundle with ⟨name, hlong, rfl⟩ | ⟨c, cs, hshort, hc, rfl⟩
  · rw [argumentWithout?_long hlong] at h
    split_ifs at h with hname
    rw [longBundle_of_isSwitch hswitch hname]
    simp [Bundle.without, Given.without]
  · rw [argumentWithout?_short hshort hc] at h
    rw [← shortBundle_lettersWithout hswitch]
    split at h
    · next hnone =>
      rw [hnone]
      rfl
    · cases h

/-- What is left of an argument gives the same flags but for the switch. -/
theorem bundle?_of_argumentWithout?_eq_some (hswitch : switch.isSwitch = true) {bundle : Bundle}
    {left : String} (hdashes : argument ≠ "--") (hbundle : bundle? level argument = some bundle)
    (hknown : bundle.tail ≠ .unknown) (h : argumentWithout? switch argument = some left) :
    left ≠ "--" ∧ bundle? level left = some (bundle.without switch) := by
  rcases bundle?_cases hbundle with ⟨name, hlong, rfl⟩ | ⟨c, cs, hshort, hc, rfl⟩
  · rw [argumentWithout?_long hlong] at h
    split_ifs at h with hname
    cases h
    rw [longBundle_without hswitch (Bool.eq_false_iff.2 hname)]
    exact ⟨hdashes, hbundle⟩
  · rw [argumentWithout?_short hshort hc] at h
    have hsame : shortBundle level (lettersWithout switch (c :: cs)) =
        (shortBundle level (c :: cs)).without switch := shortBundle_lettersWithout hswitch
    cases hleft : lettersWithout switch (c :: cs) with
    | nil =>
      rw [hleft] at h
      cases h
    | cons first others =>
      rw [hleft] at h hsame
      cases h
      -- Had a hyphen become the first letter, the argument would mean nothing.
      have hfirst : first ≠ '-' := by
        rintro rfl
        rw [shortBundle_hyphen] at hsame
        exact hknown (congrArg Bundle.tail hsame).symm
      have hlist : (String.ofList ('-' :: first :: others)).toList = '-' :: first :: others :=
        String.toList_ofList
      refine ⟨fun hends => hfirst ?_, by rw [bundle?_short hlist hfirst, hsame]⟩
      rw [hends] at hlist
      cases hlist
      rfl

/-- Where no switch is given by its letter, there is none to be left out. -/
theorem lettersWithout_eq_self (hswitch : switch.isSwitch = true)
    (hnone : (shortBundle level letters).given.has switch = false)
    (hknown : (shortBundle level letters).tail ≠ .unknown) :
    lettersWithout switch letters = letters := by
  -- A bundle is read up to the first letter that takes a value. What is after it is no flag, and
  -- stays.
  induction letters with
  | nil => rfl
  | cons c cs ih =>
    unfold lettersWithout
    split_ifs with hletter hbare
    · simp [shortBundle, Level.flagLettered?_of_isSwitch hswitch hletter,
        Flag.takesValue_of_isSwitch hswitch, Given.has] at hnone
    · cases hflag : level.flagLettered? c with
      | none => simp [shortBundle, hflag] at hknown
      | some flag =>
        have htakes := Flag.takesValue_of_letter? (by simpa using List.find?_some hflag)
        simp only [shortBundle, hflag, htakes, hbare, Bool.not_true, Bool.false_eq_true,
          if_false] at hnone hknown
        rw [Given.has, List.any_cons, Bool.or_eq_false_iff] at hnone
        rw [ih hnone.2 hknown]
    · rfl

/-- An argument that does not give a switch is left as it is. -/
theorem argumentWithout?_eq_self (hswitch : switch.isSwitch = true) {bundle : Bundle}
    (hbundle : bundle? level argument = some bundle) (hknown : bundle.tail ≠ .unknown)
    (hnone : bundle.given.has switch = false) :
    argumentWithout? switch argument = some argument := by
  rcases bundle?_cases hbundle with ⟨name, hlong, rfl⟩ | ⟨c, cs, hshort, hc, rfl⟩
  · rw [argumentWithout?_long hlong]
    split_ifs with hname
    · rw [longBundle_of_isSwitch hswitch hname] at hnone
      simp [Given.has] at hnone
    · rfl
  · rw [argumentWithout?_short hshort hc, lettersWithout_eq_self hswitch hnone hknown]
    exact congrArg some (by rw [← hshort, String.ofList_toList])

/-- A bundle that awaits a value ends in a flag that takes one. -/
theorem takesValue_of_shortBundle (h : (shortBundle level letters).tail = .awaits flag) :
    flag.takesValue = true := by
  induction letters with
  | nil => cases h
  | cons c cs ih =>
    unfold shortBundle at h
    split at h
    · cases h
    · next found _ =>
      split_ifs at h with htakes hempty
      · cases h
        exact htakes
      · exact ih h

/-- A flag whose value is to follow takes one. -/
theorem takesValue_of_awaits {bundle : Bundle} (h : bundle? level argument = some bundle)
    (htail : bundle.tail = .awaits flag) : flag.takesValue = true := by
  rcases bundle?_cases h with ⟨name, -, rfl⟩ | ⟨c, cs, -, -, rfl⟩
  · unfold longBundle at htail
    dsimp only at htail
    split at htail
    · cases htail
    · split_ifs at htail
    · split_ifs at htail with htakes
      cases htail
      exact htakes
  · exact takesValue_of_shortBundle htail

end ReviewPipeline.CommandLine
