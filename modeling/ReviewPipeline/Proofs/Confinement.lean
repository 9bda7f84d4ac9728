import ReviewPipeline.Proofs.Region

/-!
# Opening a Database in a Region

If a region has the place to which the name of a database leads, what is passed on the way there,
and the places beside it, then opening that database is confined to the region: what stands
elsewhere is neither looked at nor changed.

## Main definitions

* `Region.Houses`: a region has a place for a database and for its companions;
* `Region.CoversDatabase`: a region has all that the name of a database leads to.

## Main results

* `Confined.openDatabase`: opening a database is confined to a region that covers its name;
* `Confined.save`: so is writing it back.
-/

namespace ReviewPipeline

/-! ### Where the name of a database leads -/

namespace Region

variable {r : Region} {start location database : Location} {names : List String} {path : String}

/-- A path from where it starts has no dots left. -/
theorem isPlain_origin : (r.origin path).IsPlain := by
  unfold origin
  split
  · exact fun _ hmem => nomatch hmem
  · exact r.working_plain

/-- Names that are no dots stay in the region if what they lead to does. -/
theorem covers_of_isPlain (h : Location.IsPlain names) (hmem : start ++ names ∈ r.locations) :
    r.Covers start names := by
  induction names generalizing start with
  | nil => exact .nil (by simpa using hmem)
  | cons name names ih =>
    obtain ⟨⟨hdot, hdots⟩, hrest⟩ := List.forall_mem_cons.1 h
    refine covers_cons.2 ⟨r.above hmem (List.prefix_append _ _), ?_⟩
    rw [Path.step, if_neg hdot, if_neg hdots]
    exact ih hrest (by simpa using hmem)

/-- The place of a database and those of its companions are in the region. -/
structure Houses (r : Region) (database : Location) : Prop where
  /-- The place of the database. -/
  place : database ∈ r.locations
  /-- The places of its companions. -/
  beside : ∀ companion : Companion, companion.location database ∈ r.locations

/-- The name of a database leads to a place in the region, on a path inside it, if it leads to a
file at all. -/
def CoversDatabase (r : Region) (name : String) : Prop :=
  ∀ address, Address.ofName? name = .ok address → address.isTransient = false →
    r.CoversPath address.path ∧
      r.Houses (Path.reached (r.origin address.path) (Path.names address.path))

end Region

namespace Files.Alike

variable {r : Region} {f g : Files} {start location found : Location} {names : List String}
  {path : String} {layer : Layer} {companion : Companion}

/-- Databases are traced to the same place in files that are alike. -/
theorem trace_eq (h : Alike r f g) (hplain : start.IsPlain) (hcovers : r.Covers start names) :
    g.trace start names = f.trace start names := by
  induction names generalizing start with
  | nil => rfl
  | cons name names ih =>
    obtain ⟨-, hrest⟩ := Region.covers_cons.1 hcovers
    rw [trace, trace]
    unfold Path.step at hrest
    split_ifs at hrest ⊢ with hdot hdots
    · exact ih hplain hrest
    · exact ih (fun _ hmem => hplain _ (List.dropLast_subset _ hmem)) hrest
    -- A name is looked up from the root again, and what is passed there is above where it leads.
    · have hnext : Location.IsPlain (start ++ [name]) :=
        List.forall_mem_append.2 ⟨hplain, List.forall_mem_singleton.2 ⟨hdot, hdots⟩⟩
      have hroot : r.Covers [] (start ++ [name]) :=
        Region.covers_of_isPlain hnext hrest.start_mem
      dsimp only
      rw [h.follow_eq hroot, ih hnext hrest]

end Files.Alike

/-- Where a trace ends is where its names lead. -/
theorem Files.eq_reached_of_trace {f : Files} {start found : Location} {names : List String}
    (h : f.trace start names = some found) : found = Path.reached start names := by
  -- Both walk name by name, and a missing node is passed, so what a trace finds the names alone
  -- decide.
  induction names generalizing start with
  | nil =>
    cases h
    rfl
  | cons name names ih =>
    rw [trace] at h
    rw [Path.reached, List.foldl_cons, Path.step]
    split_ifs at h ⊢
    · exact ih h
    · exact ih h
    · dsimp only at h
      split at h
      · cases h
      split at h
      · exact ih h
      · exact ih h
      · cases h

namespace Files.Alike

variable {r : Region} {f g : Files} {location found : Location} {path : String} {layer : Layer}
  {companion : Companion}

/-- The place of a database is the same in both file systems. -/
theorem databaseLocation_eq (h : Alike r f g) (hcovers : r.CoversPath path) :
    g.databaseLocation path = f.databaseLocation path := by
  rw [databaseLocation, databaseLocation, h.start_eq.1, h.start_eq.2,
    h.trace_eq Region.isPlain_origin hcovers]

/-- The place of a database is where its path leads. -/
theorem eq_reached_of_databaseLocation (h : Alike r f g)
    (hfound : f.databaseLocation path = some found) :
    found = Path.reached (r.origin path) (Path.names path) := by
  rw [databaseLocation, h.start_eq.1] at hfound
  exact eq_reached_of_trace (Option.filter_eq_some_iff.1 hfound).1

variable (h : Alike r f g) (hhouses : r.Houses location)

include h hhouses

/-- A companion is found alike in both file systems. -/
theorem found_eq : g.found location companion = f.found location companion := by
  rw [found, found, h.nodes _ (hhouses.beside companion)]

/-- There is a log in both file systems or in neither. -/
theorem hasLog_eq : g.hasLog location = f.hasLog location := by
  rw [hasLog, hasLog, h.found_eq hhouses]

/-- The index is missing in both file systems or in neither. -/
theorem lacksIndex_eq : g.lacksIndex location layer = f.lacksIndex location layer := by
  rw [lacksIndex, lacksIndex, h.found_eq hhouses]

/-- The journal is missing in both file systems or in neither. -/
theorem lacksJournal_eq : g.lacksJournal location = f.lacksJournal location := by
  rw [lacksJournal, lacksJournal, h.found_eq hhouses]

/-- The log is read alike in both file systems. -/
theorem readLog_eq : g.readLog location layer = f.readLog location layer := by
  rw [readLog, readLog, h.found_eq hhouses]
  simp only [h.lacksIndex_eq hhouses]

end Files.Alike

namespace Confined

variable {r : Region} {before f g : Files} {location : Location} {companion : Companion}
  {layer : Layer} {address : Address} {db : Database} {journaling : Journaling} {now : Int}
  {content : Content} {name : String} {wait : Nat}

section Housed

variable (h : Confined r before f g) (hhouses : r.Houses location)

include h hhouses

/-- Discarding a companion is confined to the region. -/
theorem discard :
    Confined r before (f.discard location companion) (g.discard location companion) := by
  rw [Files.discard, Files.discard, h.found_eq hhouses]
  split
  · exact h.drop (hhouses.beside companion)
  · exact h.drop (hhouses.beside companion)
  · exact h
  · exact h

/-- Discarding a companion that holds something is confined to the region. -/
theorem discardHeld :
    Confined r before (f.discardHeld location companion) (g.discardHeld location companion) := by
  rw [Files.discardHeld, Files.discardHeld, h.found_eq hhouses]
  split
  · exact h.drop (hhouses.beside companion)
  · exact h

/-- Providing a companion is confined to the region. -/
theorem provide :
    Confined r before (f.provide location companion) (g.provide location companion) := by
  rw [Files.provide, Files.provide, h.found_eq hhouses]
  split
  · exact h.put (hhouses.beside companion)
  · exact h

/-- Writing the index is confined to the region. -/
theorem writeIndex : Confined r before (f.writeIndex location) (g.writeIndex location) := by
  rw [Files.writeIndex, Files.writeIndex, h.found_eq hhouses]
  split
  · exact h
  · exact h.put (hhouses.beside .index)

/-- Discarding the log is confined to the region. -/
theorem discardLog :
    Confined r before (f.discardLog location layer) (g.discardLog location layer) := by
  unfold Files.discardLog
  dsimp only
  split
  · exact (h.discard hhouses).discard hhouses
  · exact h.discard hhouses

/-- Bringing a database to the current schema is confined to the region. -/
theorem bringUp : ConfinedAnswer r before (f.bringUp location db journaling now)
    (g.bringUp location db journaling now) := by
  rw [Files.bringUp, Files.bringUp]
  split
  · exact .same _ h
  · exact .same _ (h.put hhouses.place)

/-- Opening an empty file is confined to the region. -/
theorem openBlank : ConfinedAnswer r before (f.openBlank location address now)
    (g.openBlank location address now) := by
  unfold Files.openBlank
  -- The files are named as in the definition, in both file systems.
  extract_lets isReadOnly f₁ f₂ f₃ g₁ g₂ g₃
  have h₁ : Confined r before f₁ g₁ := by
    unfold f₁ g₁
    split
    · exact h
    · exact h.discardHeld hhouses
  have h₂ : Confined r before f₂ g₂ := h₁.discardHeld hhouses
  have h₃ : Confined r before f₃ g₃ := h₂.discard hhouses
  rw [h₁.found_eq hhouses, h₂.lacksJournal_eq hhouses, h₃.lacksIndex_eq hhouses]
  split_ifs
  · exact .same _ h₁
  · exact .same _ h₂
  · exact .same _ h₂
  · exact h₃.bringUp hhouses
  · exact .same _ ((h₃.put hhouses.place).provide hhouses)
  · exact (h₃.discardLog hhouses).bringUp hhouses

/-- Refusing a file that is no database is confined to the region. -/
theorem refuse : ConfinedAnswer r before (f.refuse location address)
    (g.refuse location address) := by
  unfold Files.refuse
  rw [h.hasLog_eq hhouses, h.lacksIndex_eq hhouses]
  refine .same _ ?_
  split_ifs
  · exact h
  · exact h.writeIndex hhouses
  · exact h
  · exact h.discardLog hhouses

/-- Opening a database in a file is confined to the region. -/
theorem openHeld : ConfinedAnswer r before (f.openHeld location address db journaling now)
    (g.openHeld location address db journaling now) := by
  unfold Files.openHeld
  rw [h.hasLog_eq hhouses]
  extract_lets isReadOnly usesLog logged f₁ f₂ journaling' logged' g₁ g₂ journaling''
  have hlogged : Confined r before logged logged' := h.provide hhouses
  have h₁ : Confined r before f₁ g₁ := by
    unfold f₁ g₁
    split_ifs
    · exact hlogged.writeIndex hhouses
    · exact hlogged
    · exact h
  have h₂ : Confined r before f₂ g₂ := by
    unfold f₂ g₂
    split
    · exact h
    · exact h.discard hhouses
  -- Whether there is a log is looked up after the journal was discarded.
  have hsame : journaling'' = journaling' := by
    unfold journaling'' journaling'
    rw [h₂.hasLog_eq hhouses]
  rw [hsame, h₂.lacksIndex_eq hhouses]
  split_ifs
  · exact .same _ h
  · exact .same _ h
  · exact h.bringUp hhouses
  · exact .same _ h₁
  · exact .same _ ((h₂.put hhouses.place).provide hhouses)
  · exact (h₂.discardLog hhouses).bringUp hhouses

/-- Undoing a journal is confined to the region. -/
theorem undo :
    ConfinedFiles r before (f.undo location address) (g.undo location address) := by
  unfold Files.undo
  rw [h.found_eq hhouses]
  split
  · exact .ok h
  split
  · exact .error _
  · split_ifs
    · exact .ok h
    · exact .error _
    · exact .ok (h.discard hhouses)
  · exact .ok h
  · exact .ok h

/-- Opening a file that holds something is confined to the region. -/
theorem openFilled : ConfinedAnswer r before (f.openFilled location address content now)
    (g.openFilled location address content now) := by
  have hundone : ConfinedFiles r before (f.undo location address) (g.undo location address) :=
    h.undo hhouses
  unfold Files.openFilled
  generalize f.undo location address = x, g.undo location address = y at hundone ⊢
  cases hundone with
  | error fault => exact .same _ h
  | ok h' =>
    dsimp only
    rw [h'.readLog_eq hhouses]
    split
    · exact .same _ h'
    · exact h'.openHeld hhouses
    · exact h'.refuse hhouses

/-- Opening any file of the region is confined to it. -/
theorem openFile : ConfinedAnswer r before (f.openFile location address content now)
    (g.openFile location address content now) := by
  unfold Files.openFile
  split
  · exact .same _ h
  split
  · exact h.openBlank hhouses
  · exact h.openFilled hhouses

end Housed

/-- Connecting to a database is confined to a region that covers its name. -/
theorem connect (h : Confined r before f g) (hcovers : r.CoversDatabase name) :
    ConfinedAnswer r before (f.connect name) (g.connect name) := by
  unfold Files.connect
  cases haddress : Address.ofName? name with
  | error fault => exact .same _ h
  | ok address =>
    dsimp only
    split
    · exact .same _ h
    next htransient =>
    obtain ⟨hpath, hhouses⟩ := hcovers address haddress (Bool.eq_false_iff.2 htransient)
    rw [h.databaseLocation_eq hpath]
    cases hfound : f.databaseLocation address.path with
    | none => exact .same _ h
    | some location =>
      rw [← h.eq_reached_of_databaseLocation hfound] at hhouses
      have habove : location.dropLast ∈ r.locations :=
        r.above hhouses.place (List.dropLast_prefix location)
      simp only [h.nodes location hhouses.place, h.nodes _ habove]
      split
      · exact .same _ h
      · split <;> exact .same _ h
      · split
        · exact .same _ (h.put hhouses.place)
        · exact .same _ h

/-- A file that was connected to has its place in the region. -/
theorem houses_of_connects {files' : Files} (h : Files.Alike r f g)
    (hcovers : r.CoversDatabase name)
    (hconnects : f.Connects name (.ok (.file location address content), files')) :
    r.Houses location := by
  cases hconnects with
  | file haddress htransient hlocation | made haddress htransient hlocation =>
    rw [h.eq_reached_of_databaseLocation hlocation]
    exact (hcovers _ haddress htransient).2

/-- Opening a database is confined to a region that covers its name. -/
theorem openDatabase (h : Confined r before f g) (hcovers : r.CoversDatabase name) :
    ConfinedAnswer r before (f.openDatabase name now wait) (g.openDatabase name now wait) := by
  have hconnected : ConfinedAnswer r before (f.connect name) (g.connect name) := h.connect hcovers
  have hconnects := Files.connects_connect f name
  unfold Files.openDatabase
  generalize f.connect name = x, g.connect name = y at hconnected hconnects ⊢
  cases hconnected with
  | @same f' g' answer h' =>
    cases answer with
    | error e => exact .same _ h'
    | ok connected =>
      dsimp only
      split
      · exact .same _ h'
      cases connected with
      | transient address =>
        unfold Files.openConnected
        dsimp only
        split <;> exact .same _ h'
      | file location address content =>
        exact h'.openFile (houses_of_connects h.toAlike hcovers hconnects)
      | directory => exact .same _ h'

/-- A database that was opened is in the region, if it is in a file. -/
theorem place_mem {opened : Opened} (h : Files.Alike r f g) (hcovers : r.CoversDatabase name)
    (hopened : (f.openDatabase name now wait).1 = .ok opened)
    (hplace : opened.location = some location) : location ∈ r.locations := by
  cases hnamed : f.databasePlace? name with
  | none =>
    rw [((Files.opensNowhere_openDatabase hnamed).opened opened hopened).1] at hplace
    cases hplace
  | some place =>
    obtain ⟨hlocation, -⟩ := (Files.opens_openDatabase hnamed).opened opened hopened
    obtain rfl : location = place := Option.some.inj (hplace.symm.trans hlocation)
    unfold Files.databasePlace? at hnamed
    split at hnamed
    · cases hnamed
    · next address haddress =>
      split_ifs at hnamed with htransient
      rw [h.eq_reached_of_databaseLocation hnamed]
      exact (hcovers address haddress (Bool.eq_false_iff.2 htransient)).2.place

/-- Saving a database that is in the region is confined to it. -/
theorem save {opened : Opened} (h : Confined r before f g)
    (hmem : ∀ location, opened.location = some location → location ∈ r.locations) :
    Confined r before (f.save opened db) (g.save opened db) := by
  unfold Files.save
  split
  · exact h
  · next place hplace => exact h.put (hmem place hplace)

end Confined

end ReviewPipeline
