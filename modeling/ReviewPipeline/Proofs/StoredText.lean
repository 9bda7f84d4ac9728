import ReviewPipeline.Proofs.Interchange

/-!
# Stored Text

Whatever is given on command lines, what is stored of it is tidy: names, titles, agents, errors and
reasons are trimmed and not empty, and prefixes are digits and upper-case letters of ASCII.

## Main results

* `keptByCalls_tidy`: calls keep labelled rows tidy;
* `tidy_runAll`: after any command lines on a fresh database, all its records are tidy.
-/

namespace ReviewPipeline

open CommandLine

/-- Calls that bring tidy texts keep rows tidy. What a call does to rows is known if they are
labelled, so that is kept with it. -/
theorem keptByCalls_tidy : KeptByCalls fun rows => rows.Labelled ∧ rows.Tidy where
  empty := by
    refine ⟨keptByCalls_labelled.empty, ?_⟩
    constructor <;> exact List.forall_mem_nil _
  kept := by
    intro db db' author op reply hcall horderly hop hperform ⟨hlabelled, htidy⟩
    have hcalled : Database.Called db author op reply db' := by
      obtain ⟨other, hrows, hother⟩ := hlabelled
      exact Database.called_of_perform (hother.congr hrows.symm).toConsistent hcall hperform
    exact ⟨keptByCalls_labelled.kept hcall horderly hop hperform hlabelled,
      hcalled.tidy hop htidy⟩

/-- After any command lines, all records at a place where there were none before them are tidy:
the names of projects and steps and the titles of issues are trimmed and not empty, prefixes are
digits and upper-case letters, at least one, and so on for assignees, errors, agents and the
reasons of rejections, where they are given. -/
theorem tidy_runAll (files : Files) (lines : List Line) (place : Location)
    (hfresh : files.rows place = {}) : ((runAll files lines).rows place).Tidy :=
  (runAll_of_fresh keptByCalls_tidy lines hfresh).2

/-- Command lines with blanks around what they bring, and a prefix in lower case. -/
def untidyLines : List Line :=
  [["init"],
   ["project", "create", " Docs ", "--issue-prefix", "ab1"],
   ["step", "add", "draft ", "--project", "proj_00000001-400", "--agent", " "],
   ["issue", "create", "\tfirst", "--project", "proj_00000001-400"],
   ["pipeline", "advance", "AB1-1", "--agent", "bob "],
   ["gate", "record", "AB1-1", "fail", "--error", "dim\n"]].zipIdx.map
    fun (arguments, n) => ⟨labelEnv, ⟨1000, n⟩, ⟨false, false⟩, arguments⟩

/-- What is stored after these lines. -/
theorem tidy_runAll_untidyLines :
    let rows := (runAll {} untidyLines).rows ["docs.db"]
    Files.rows {} ["docs.db"] = {} ∧ rows.Tidy ∧
      rows.projects.map (fun p => (p.name, p.issuePrefix)) = [("Docs", some "AB1")] ∧
      rows.steps.map (fun row => (row.record.name, row.record.assignee)) = [("draft", none)] ∧
      rows.issues.map (·.record.title) = ["first"] ∧
      rows.cursors.map (·.record.gate.error) = [some "dim"] ∧
      rows.ledger.map (fun entry => (entry.agentId, entry.notes)) = [(some "bob", none)] := by
  have hfresh : Files.rows {} ["docs.db"] = {} := rfl
  have htidy := tidy_runAll {} untidyLines ["docs.db"] hfresh
  refine ⟨hfresh, htidy, ?_⟩
  decide +kernel

end ReviewPipeline
