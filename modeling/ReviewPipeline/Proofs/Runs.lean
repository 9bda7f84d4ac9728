import Mathlib.Data.List.Induction
import ReviewPipeline.Proofs.Effects

/-!
# Runs

A run is followed call by call: `run_concat` says what one more call adds to it. A call that fails
leaves the database alone, and one that succeeds is a case of `Called` (`after_cases`), so what
calls keep holds after every run (`consistent_run`).

`Along` states a property of every moment of a run, for hypotheses that speak of the database in
which a call is made.
-/

namespace ReviewPipeline.Database

variable {db : Database} {author : Author} {op : Operation} {calls : List (Author × Operation)}

/-- A run with one more call. -/
theorem run_concat :
    db.run (calls ++ [(author, op)]) =
      ((db.run calls).1 ++ [((db.run calls).2.perform author op).map (·.1)],
        (db.run calls).2.after author op) := by
  induction calls generalizing db with
  | nil => rfl
  | cons call calls ih => simp only [List.cons_append, run, ih]

theorem length_run : (db.run calls).1.length = calls.length := by
  induction calls generalizing db with
  | nil => rfl
  | cons call calls ih => simp [run, ih]

/-- A call fails and changes nothing, or it succeeds and is a case of `Called`. -/
theorem after_cases (hdb : db.Consistent) (hcall : op.isCall = true) (author : Author) :
    (∃ e, db.perform author op = .error e ∧ db.after author op = db) ∨
      ∃ reply, db.perform author op = .ok (reply, db.after author op) ∧
        Called db author op reply (db.after author op) := by
  cases hperform : db.perform author op with
  | error e => exact .inl ⟨e, rfl, by rw [after, hperform]⟩
  | ok r =>
    have hafter : db.after author op = r.2 := by rw [after, hperform]
    rw [hafter]
    exact .inr ⟨r.1, rfl, called_of_perform hdb hcall hperform⟩

theorem consistent_after (hdb : db.Consistent) (hcall : op.isCall = true) :
    (db.after author op).Consistent := by
  rcases after_cases hdb hcall author with ⟨_, -, hsame⟩ | ⟨_, -, hcalled⟩
  · rwa [hsame]
  · exact hcalled.consistent hdb

/-- A run of calls keeps a database consistent. -/
theorem consistent_run (hdb : db.Consistent) (hcalls : ∀ call ∈ calls, call.2.isCall = true) :
    (db.run calls).2.Consistent := by
  induction calls using List.reverseRecOn with
  | nil => exact hdb
  | append_singleton calls call ih =>
    obtain ⟨hbefore, hlast⟩ := List.forall_mem_append.1 hcalls
    rw [run_concat]
    exact consistent_after (ih hbefore) (hlast call (List.mem_singleton_self call))

/-- A property holds of every call of a run and the database in which it is made. -/
def Along (P : Database → Author → Operation → Prop) (db : Database)
    (calls : List (Author × Operation)) : Prop :=
  ∀ made author op rest, calls = made ++ (author, op) :: rest → P (db.run made).2 author op

/-- A property of the moments of a run, call by call. -/
theorem along_concat {P : Database → Author → Operation → Prop} :
    Along P db (calls ++ [(author, op)]) ↔ Along P db calls ∧ P (db.run calls).2 author op := by
  constructor
  · intro h
    refine ⟨fun made author' op' rest hcalls => ?_, h calls author op [] rfl⟩
    exact h made author' op' (rest ++ [(author, op)]) (by simp [hcalls])
  · rintro ⟨hbefore, hlast⟩ made author' op' rest hcalls
    -- The call is the last one, or another one is, and then it was there before.
    rcases List.eq_nil_or_concat rest with rfl | ⟨rest, call, rfl⟩
    · obtain ⟨rfl, hcall⟩ := List.append_inj' hcalls rfl
      cases hcall
      exact hlast
    · have hsplit : calls ++ [(author, op)] = (made ++ (author', op') :: rest) ++ [call] := by
        simpa using hcalls
      exact hbefore made author' op' rest (List.append_inj' hsplit rfl).1

/-- A run to try general statements on: a project with one step and one issue, a signal of the
gate, and a completion. -/
def sampleRun : List (Author × Operation) :=
  let author (n : Nat) : Author := ⟨"ada", ⟨n, n⟩⟩
  [ (author 1, .createProject ⟨"docs", "Docs", "home", none, some "DOCS", 1, 1, 1⟩),
    (author 2, .addStep ⟨"docs", "draft", .agentWork, none, true, none⟩),
    (author 3, .createIssue "docs" "first" none),
    (author 4, .recordGate "DOCS-1" .succeeded none),
    (author 5, .complete "DOCS-1" none none) ]

end ReviewPipeline.Database
