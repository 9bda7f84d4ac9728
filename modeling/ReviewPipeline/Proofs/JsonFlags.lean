import ReviewPipeline.Proofs.Switches

/-!
# Command Lines Without Their JSON Flags

JSON can be asked for by a flag with two names, wherever flags can stand. It is a switch: without it
a command line is read as the same command, with the same choices but for JSON.

## Main definitions

* `withoutJson`: a command line without the flags that ask for JSON.

## Main results

* `withoutJson_eq`: that is the command line without the switch for JSON;
* `read_withoutJson`: it makes the same command, with no JSON asked for.
-/

namespace ReviewPipeline.CommandLine

variable {argument : String} {letters : List Char} {env : Environment} {inv : Invocation}

/-- Whether an argument asks for JSON, where flags can stand. -/
def isJsonFlag (argument : String) : Bool :=
  argument == "--json" || argument == "--robot"

/-- A command line without the flags that ask for JSON. After two hyphens there are only words. -/
def withoutJson : List String → List String
  | [] => []
  | argument :: rest =>
    if argument = "--" then argument :: rest
    else if isJsonFlag argument then withoutJson rest
    else argument :: withoutJson rest

theorem isJsonFlag_iff :
    isJsonFlag argument = true ↔ argument = "--json" ∨ argument = "--robot" := by
  simp [isJsonFlag]

/-- There is no letter that asks for JSON. -/
theorem lettersWithout_json : lettersWithout .json letters = letters := by
  induction letters with
  | nil => rfl
  | cons c cs ih => simp [lettersWithout, Flag.letter?, ih]

theorem argumentWithout?_json : argumentWithout? .json argument =
    if isJsonFlag argument then none else some argument := by
  by_cases hjson : isJsonFlag argument = true
  · rw [if_pos hjson]
    rcases isJsonFlag_iff.1 hjson with rfl | rfl <;> rfl
  rw [if_neg hjson]
  unfold argumentWithout?
  split
  · next name hname =>
    refine if_neg fun hlong => hjson (isJsonFlag_iff.2 ?_)
    have hnames : String.ofList name = "json" ∨ String.ofList name = "robot" := by
      simpa [Flag.longNames] using hlong
    rw [← String.ofList_toList (s := argument), hname]
    refine hnames.imp (fun hsame => ?_) fun hsame => ?_
    all_goals
      obtain rfl : name = _ := String.toList_ofList.symm.trans (congrArg String.toList hsame)
      rfl
  · -- Of the letters on their own, none is short for the flag.
    next c cs _ hletters =>
    rw [lettersWithout_json]
    exact congrArg some (by rw [← hletters, String.ofList_toList])
  · rfl

theorem withoutJson_eq (arguments : List String) :
    withoutJson arguments = argumentsWithout .json arguments := by
  induction arguments with
  | nil => rfl
  | cons argument rest ih =>
    rw [withoutJson, argumentsWithout, argumentWithout?_json, ih]
    split_ifs <;> rfl

/-- Without its JSON flags, a command line makes the same command, with no JSON asked for. -/
theorem read_withoutJson {arguments : List String} (h : read env arguments = .ok inv) :
    read env (withoutJson arguments) = .ok { inv with json := false } := by
  rw [withoutJson_eq]
  exact read_without rfl h

example : withoutJson ["--json", "issue", "--robot", "show", "--", "--json"] =
    ["issue", "show", "--", "--json"] := by decide

end ReviewPipeline.CommandLine
