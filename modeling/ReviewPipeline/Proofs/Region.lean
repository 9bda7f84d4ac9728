import Mathlib.Data.Set.Defs
import Mathlib.Tactic.SplitIfs
import ReviewPipeline.Proofs.Opening

/-!
# Regions of a File System

A region is a set of locations that can be looked at by themselves: with each of its locations it
has those above it, and it has the working directory. Whatever follows paths that stay in a region
sees only what is there, and changes nothing elsewhere. This is said of two file systems at once:
they look the same in the region before and afterwards, so the results are the same, and outside the
region nothing has changed.

## Main definitions

* `Region`, `Files.Alike`: a region, and file systems that look the same in it;
* `Confined`: what was done to two file systems, and was confined to a region;
* `Region.Covers`, `Region.CoversPath`: names, and a path, with all that is passed lie in a region;
* `Path.reached`: where names lead, if two dots undo the name before them;
* `ConfinedFiles`, `ConfinedAnswer`: two results that are the same, after confined changes.

## Main results

* `Files.Alike.locate_eq`, `Files.Alike.node?_eq`: where a path leads, and to what;
* `Confined.writeText`, `Confined.ensureDirectories`, `Confined.removeAll`: writing a text, making
  directories and removing files.
-/

namespace ReviewPipeline

/-- A location whose names are names, and not dots. -/
def Location.IsPlain (location : Location) : Prop :=
  ∀ name ∈ location, name ≠ "." ∧ name ≠ ".."

/-- Locations that can be looked at by themselves. -/
structure Region where
  /-- The locations. -/
  locations : Set Location
  /-- The working directory. -/
  workingDirectory : Location
  /-- The working directory is one of the locations. -/
  working_mem : workingDirectory ∈ locations
  /-- It is written without dots. -/
  working_plain : workingDirectory.IsPlain
  /-- What is above a location is one of them too. -/
  above : ∀ {location other : Location}, location ∈ locations → other <+: location →
    other ∈ locations

/-- Two file systems look the same in a region. -/
structure Files.Alike (r : Region) (f g : Files) : Prop where
  /-- The region is one for the working directory of the first. -/
  here : f.workingDirectory = r.workingDirectory
  /-- The second has the same working directory. -/
  same : g.workingDirectory = r.workingDirectory
  /-- The nodes in the region are the same. -/
  nodes : ∀ location ∈ r.locations, g.at? location = f.at? location

/-- What was done to the first of two file systems, and likewise to the second, is confined to a
region: they still look the same there, and elsewhere the first is as it was before. -/
structure Confined (r : Region) (before f g : Files) : Prop extends Files.Alike r f g where
  /-- Outside the region nothing has changed. -/
  kept : ∀ location, location ∉ r.locations → f.at? location = before.at? location

namespace Region

variable {r : Region}

/-- The root is always looked at. -/
theorem nil_mem (r : Region) : [] ∈ r.locations :=
  r.above r.working_mem List.nil_prefix

/-- A location and everything that names pass from there on lie in the region. -/
structure Covers (r : Region) (start : Location) (names : List String) : Prop where
  /-- The location does. -/
  start_mem : start ∈ r.locations
  /-- What is passed does. -/
  passed_mem : ∀ location ∈ Path.passed start names, location ∈ r.locations

/-- Where a path begins. -/
def origin (r : Region) (path : String) : Location :=
  if Path.isAbsolute path then [] else r.workingDirectory

/-- A path and all that is passed on it lie in the region. -/
def CoversPath (r : Region) (path : String) : Prop :=
  r.Covers (r.origin path) (Path.names path)

end Region

namespace Path

variable {start : Location} {name : String} {names more : List String}

/-- Where a name leads from a location, if two dots undo the name before them. -/
def step (location : Location) (name : String) : Location :=
  if name = "." then location else if name = ".." then location.dropLast else location ++ [name]

/-- A path passes where its first name leads, and all that is passed from there. -/
theorem passed_cons :
    passed start (name :: names) = step start name :: passed (step start name) names :=
  rfl

/-- What names lead to, if two dots undo the name before them. -/
def reached (start : Location) (names : List String) : Location :=
  names.foldl step start

/-- A longer path passes what the shorter one does, and all from its end. -/
theorem passed_append : passed start (names ++ more) =
    passed start names ++ passed (reached start names) more := by
  induction names generalizing start with
  | nil => rfl
  | cons name names ih => simp only [List.cons_append, passed_cons, ih, reached, List.foldl_cons]

end Path

namespace Region

variable {r : Region} {start : Location} {name path : String} {names more : List String}

/-- A path without names is covered where it starts. -/
theorem Covers.nil (h : start ∈ r.locations) : r.Covers start [] :=
  ⟨h, fun _ hmem => nomatch hmem⟩

/-- A path is covered from step to step. -/
theorem covers_cons : r.Covers start (name :: names) ↔
    start ∈ r.locations ∧ r.Covers (Path.step start name) names := by
  constructor
  · rintro ⟨hstart, hpassed⟩
    rw [Path.passed_cons, List.forall_mem_cons] at hpassed
    exact ⟨hstart, hpassed.1, hpassed.2⟩
  · rintro ⟨hstart, hnext, hpassed⟩
    exact ⟨hstart, by rw [Path.passed_cons, List.forall_mem_cons]; exact ⟨hnext, hpassed⟩⟩

/-- A longer path is covered if both its parts are. -/
theorem covers_append : r.Covers start (names ++ more) ↔
    r.Covers start names ∧ r.Covers (Path.reached start names) more := by
  induction names generalizing start with
  | nil => exact ⟨fun h => ⟨.nil h.start_mem, h⟩, fun h => h.2⟩
  | cons name names ih =>
    rw [List.cons_append, covers_cons, covers_cons, ih, and_assoc]
    rfl

/-- Where a covered path leads is in the region. -/
theorem Covers.reached_mem (h : r.Covers start names) : Path.reached start names ∈ r.locations := by
  have hempty : r.Covers start (names ++ []) := by rwa [List.append_nil]
  exact (covers_append.1 hempty).2.start_mem

/-- A dot at the end passes nothing new. -/
theorem Covers.concat_dot (h : r.Covers start names) : r.Covers start (names ++ ["."]) := by
  refine covers_append.2 ⟨h, covers_cons.2 ⟨h.reached_mem, .nil ?_⟩⟩
  exact h.reached_mem

/-- Dots on the way pass nothing new either. -/
theorem Covers.proper (h : r.Covers start names) :
    r.Covers start (names.filter (· != ".")) := by
  induction names generalizing start with
  | nil => exact h
  | cons name names ih =>
    obtain ⟨hstart, hrest⟩ := covers_cons.1 h
    by_cases hdot : name = "."
    · subst hdot
      exact ih hrest
    · rw [List.filter_cons_of_pos (by simpa using hdot)]
      exact covers_cons.2 ⟨hstart, ih hrest⟩

/-- The path above a covered one is covered. -/
theorem Covers.dropLast (h : r.Covers start names) : r.Covers start names.dropLast := by
  rcases List.eq_nil_or_concat names with rfl | ⟨before, last, rfl⟩
  · exact h
  · rw [List.concat_eq_append] at h ⊢
    rw [List.dropLast_concat]
    exact (covers_append.1 h).1

/-- A slash at the end of a path makes no difference to what is passed. -/
theorem CoversPath.steps (h : r.CoversPath path) : r.Covers (r.origin path) (Path.steps path) := by
  unfold Path.steps
  split
  · exact Covers.concat_dot h
  · exact h

end Region

/-- What names lead to is where they get if two dots undo the name before them. -/
theorem Files.eq_reached_of_follow {f : Files} {start found : Location} {names : List String}
    (h : f.follow start names = .ok found) : found = Path.reached start names := by
  -- Following fails where there is no directory, so wherever it succeeds the names alone decide.
  induction names generalizing start with
  | nil =>
    cases h
    rfl
  | cons name names ih =>
    rw [follow] at h
    split at h
    · cases h
    · cases h
    · rw [Path.reached, List.foldl_cons, Path.step]
      split_ifs at h ⊢
      · exact ih h
      · exact ih h
      · exact ih h

/-! ### Looking -/

namespace Files.Alike

variable {r : Region} {f g : Files} {start location found : Location} {names : List String}
  {path : String} {node : Node}

/-- Names that stay in the region lead to the same place. -/
theorem follow_eq (h : Alike r f g) (hcovers : r.Covers start names) :
    g.follow start names = f.follow start names := by
  induction names generalizing start with
  | nil => rfl
  | cons name names ih =>
    obtain ⟨hstart, hrest⟩ := Region.covers_cons.1 hcovers
    have hnext := ih hrest
    -- In the region, the same node stands in both file systems, so the same happens at it.
    rw [follow, follow, h.nodes start hstart]
    unfold Path.step at hnext
    cases f.at? start with
    | none => rfl
    | some node =>
      cases node with
      | file content => rfl
      | directory =>
        dsimp only
        split_ifs with hdot hdots hlong
        · rwa [if_pos hdot] at hnext
        · rwa [if_neg hdot, if_pos hdots] at hnext
        · rfl
        · rwa [if_neg hdot, if_neg hdots] at hnext

/-- Both files have paths start at the same place. -/
theorem start_eq (h : Alike r f g) :
    f.start path = r.origin path ∧ g.start path = r.origin path := by
  rw [Files.start, Files.start, Region.origin, h.here, h.same]
  exact ⟨rfl, rfl⟩

/-- Paths of the region lead to the same place in both file systems. -/
theorem locate_eq (h : Alike r f g) (hcovers : r.CoversPath path) :
    g.locate path = f.locate path := by
  rw [locate, locate, h.start_eq.1, h.start_eq.2, h.follow_eq hcovers.steps]

/-- Paths of the region lead into the region. -/
theorem locate_mem (h : Alike r f g) (hcovers : r.CoversPath path)
    (hfound : f.locate path = .ok found) : found ∈ r.locations := by
  unfold locate at hfound
  split_ifs at hfound
  rw [h.start_eq.1] at hfound
  rw [eq_reached_of_follow hfound]
  exact hcovers.steps.reached_mem

/-- The same node is found in both file systems by a path of the region. -/
theorem node?_eq (h : Alike r f g) (hcovers : r.CoversPath path) : g.node? path = f.node? path := by
  rw [node?, node?, h.locate_eq hcovers]
  cases hfound : f.locate path with
  | error fault => rfl
  | ok found =>
    simp only [bind, Except.bind, h.nodes found (h.locate_mem hcovers hfound)]

/-- A node that is found by a path of the region is in the region. -/
theorem node?_mem (h : Alike r f g) (hcovers : r.CoversPath path)
    (hfound : f.node? path = .ok (found, node)) : found ∈ r.locations := by
  obtain ⟨location, hlocation, hfound⟩ := bind_eq_ok_iff.1 hfound
  split at hfound
  · cases hfound
    exact h.locate_mem hcovers hlocation
  · cases hfound

/-- The same paths of the region name something in both file systems. -/
theorem exists?_eq (h : Alike r f g) (hcovers : r.CoversPath path) :
    g.exists? path = f.exists? path := by
  rw [exists?, exists?, h.node?_eq hcovers]

/-- The same texts are read in both file systems. -/
theorem readText_eq (h : Alike r f g) (hcovers : r.CoversPath path) :
    g.readText path = f.readText path := by
  rw [readText, readText, h.node?_eq hcovers]

/-- The same names are those of directories in both file systems. -/
theorem isDirectory_eq (h : Alike r f g) (hcovers : r.Covers start names) :
    g.isDirectory start names = f.isDirectory start names := by
  rw [isDirectory, isDirectory, h.follow_eq hcovers.concat_dot]

end Files.Alike

/-! ### Changing -/

/-- Two results: the same fault, or files in which all changes are confined. -/
inductive ConfinedFiles {ε : Type} (r : Region) (before : Files) :
    Except ε Files → Except ε Files → Prop
  /-- Both went well. -/
  | ok {f g : Files} (h : Confined r before f g) : ConfinedFiles r before (.ok f) (.ok g)
  /-- Both went wrong. -/
  | error (fault : ε) : ConfinedFiles r before (.error fault) (.error fault)

/-- Two results with the same answer and with files in which all changes are confined. -/
inductive ConfinedAnswer {α : Type} (r : Region) (before : Files) : α × Files → α × Files → Prop
  /-- The answer is the same. -/
  | same {f g : Files} (answer : α) (h : Confined r before f g) :
    ConfinedAnswer r before (answer, f) (answer, g)

namespace Confined

variable {r : Region} {before f g : Files} {start location : Location} {names above : List String}
  {path text : String} {node : Node}

/-- As long as nothing was done, nothing has left the region. -/
theorem refl (h : Files.Alike r f g) : Confined r f f g :=
  { h with kept := fun _ _ => rfl }

/-- Putting a node in the region stays confined. -/
protected theorem put (h : Confined r before f g) (hmem : location ∈ r.locations) :
    Confined r before (f.put location node) (g.put location node) where
  here := h.here
  same := h.same
  nodes := by
    intro other hother
    by_cases hsame : other = location
    · subst hsame
      rw [Files.at?_put_self, Files.at?_put_self, h.here, h.same]
    · rw [Files.at?_put_of_ne hsame, Files.at?_put_of_ne hsame, h.nodes other hother]
  kept := by
    intro other hother
    have hne : other ≠ location := fun hsame => hother (hsame ▸ hmem)
    rw [Files.at?_put_of_ne hne, h.kept other hother]

/-- Dropping a node in the region stays confined. -/
protected theorem drop (h : Confined r before f g) (hmem : location ∈ r.locations) :
    Confined r before (f.drop location) (g.drop location) where
  here := h.here
  same := h.same
  nodes := by
    intro other hother
    by_cases hsame : other = location
    · subst hsame
      rw [Files.at?_drop_self, Files.at?_drop_self, h.here, h.same]
    · rw [Files.at?_drop_of_ne hsame, Files.at?_drop_of_ne hsame, h.nodes other hother]
  kept := by
    intro other hother
    have hne : other ≠ location := fun hsame => hother (hsame ▸ hmem)
    rw [Files.at?_drop_of_ne hne, h.kept other hother]

/-- Writing a text in the region stays confined, and comes to the same in both. -/
theorem writeText (h : Confined r before f g) (hcovers : r.CoversPath path) :
    ConfinedFiles r before (f.writeText path text) (g.writeText path text) := by
  rw [Files.writeText, Files.writeText, h.locate_eq hcovers]
  cases hfound : f.locate path with
  | error fault => exact .error fault
  | ok found =>
    have hmem := h.locate_mem hcovers hfound
    simp only [bind, Except.bind, h.nodes found hmem]
    split
    · exact .error _
    · exact .ok (h.put hmem)

/-- Making a directory in the region stays confined. -/
theorem makeDirectory (h : Confined r before f g) (hcovers : r.Covers start names) :
    ConfinedFiles r before (f.makeDirectory start names) (g.makeDirectory start names) := by
  rw [Files.makeDirectory, Files.makeDirectory, h.follow_eq hcovers.dropLast.concat_dot]
  dsimp only
  simp only [throw_bind_eq]
  split
  · exact .error _
  split
  · exact .error _
  cases hparent : f.follow start (names.dropLast ++ ["."]) with
  | error fault => exact .error fault
  | ok parent =>
    simp only [bind, Except.bind]
    split
    · exact .error _
    next hlast =>
    -- There is a last name, and it is followed from where the names before it lead to.
    rcases List.eq_nil_or_concat names with rfl | ⟨before', last, rfl⟩
    · exact absurd rfl hlast
    rw [List.concat_eq_append] at hcovers hparent ⊢
    rw [List.dropLast_concat] at hparent
    have hreached : parent = Path.reached start before' := by
      rw [Files.eq_reached_of_follow hparent, Path.reached, Path.reached, List.foldl_append]
      rfl
    have hlast : r.Covers parent [last] := hreached ▸ (Region.covers_append.1 hcovers).2
    simp only [List.getLastD_concat, h.follow_eq hlast]
    cases hfound : f.follow parent [last] with
    | error fault => exact .error fault
    | ok found =>
      have hmem : found ∈ r.locations := Files.eq_reached_of_follow hfound ▸ hlast.reached_mem
      simp only [h.nodes found hmem]
      split
      · exact .error _
      · exact .ok (h.put hmem)

/-- Making sure that a directory is there stays confined. -/
theorem ensureDirectory (h : Confined r before f g) (hcovers : r.Covers start names) :
    ConfinedFiles r before (f.ensureDirectory start names) (g.ensureDirectory start names) := by
  have hmade := h.makeDirectory hcovers
  rw [Files.ensureDirectory, Files.ensureDirectory, h.isDirectory_eq hcovers]
  generalize f.makeDirectory start names = x, g.makeDirectory start names = y at hmade ⊢
  cases hmade with
  | ok h' => exact .ok h'
  | error fault =>
    cases fault with
    | alreadyThere =>
      dsimp only
      split
      · exact .ok h
      · exact .error _
    | _ => exact .error _

/-- Making a directory and those above it is confined to a region in which they are. -/
theorem ensureDirectories (h : Confined r before f g) (hcovers : r.Covers start above.reverse) :
    ConfinedAnswer r before (f.ensureDirectories start above)
      (g.ensureDirectories start above) := by
  -- The induction is on the names from the last to the first, as the recursion is.
  induction above with
  | nil => exact .same _ h
  | cons name above ih =>
    have hmade := h.ensureDirectory hcovers
    rw [Files.ensureDirectories, Files.ensureDirectories]
    generalize f.ensureDirectory start (name :: above).reverse = x,
      g.ensureDirectory start (name :: above).reverse = y at hmade ⊢
    cases hmade with
    | ok h' => exact .same _ h'
    | error fault =>
      cases fault with
      | missing =>
        have hcovers' := hcovers
        rw [List.reverse_cons] at hcovers'
        have habove := ih (Region.covers_append.1 hcovers').1
        dsimp only
        generalize f.ensureDirectories start above = x,
          g.ensureDirectories start above = y at habove ⊢
        cases habove with
        | @same f' g' answer h' =>
          cases answer with
          | error fault => exact .same _ h'
          | ok u =>
            have hlast := h'.ensureDirectory hcovers
            dsimp only
            generalize f'.ensureDirectory start (name :: above).reverse = x,
              g'.ensureDirectory start (name :: above).reverse = y at hlast ⊢
            cases hlast with
            | ok h'' => exact .same _ h''
            | error fault => exact .same _ h'
      | _ => exact .same _ h

/-- Making the directories above a path of the region stays confined. -/
theorem makeParents (h : Confined r before f g) (hcovers : r.CoversPath path) :
    ConfinedAnswer r before (f.makeParents path) (g.makeParents path) := by
  rw [Files.makeParents, Files.makeParents, h.start_eq.1, h.start_eq.2]
  refine h.ensureDirectories ?_
  rw [List.reverse_reverse]
  exact hcovers.proper.dropLast

/-- Removing a file of the region stays confined. -/
theorem remove (h : Confined r before f g) (hcovers : r.CoversPath path) :
    ConfinedFiles r before (f.remove path) (g.remove path) := by
  rw [Files.remove, Files.remove, h.node?_eq hcovers]
  cases hfound : f.node? path with
  | error fault => exact .error fault
  | ok found =>
    obtain ⟨location, node⟩ := found
    cases node with
    | directory => exact .error _
    | file content => exact .ok (h.drop (h.node?_mem hcovers hfound))

/-- Removing several files of the region stays confined. -/
theorem removeAll {paths : List String} (h : Confined r before f g)
    (hcovers : ∀ path ∈ paths, r.CoversPath path) :
    ConfinedAnswer r before (f.removeAll paths) (g.removeAll paths) := by
  induction paths generalizing f g with
  | nil => exact .same _ h
  | cons path paths ih =>
    obtain ⟨hpath, hpaths⟩ := List.forall_mem_cons.1 hcovers
    rw [Files.removeAll, Files.removeAll, h.exists?_eq hpath]
    split
    · have hremoved := h.remove hpath
      generalize f.remove path = x, g.remove path = y at hremoved ⊢
      cases hremoved with
      | ok h' => exact ih h' hpaths
      | error fault => exact .same _ h
    · exact ih h hpaths

end Confined

end ReviewPipeline
