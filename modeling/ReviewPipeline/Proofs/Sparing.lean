import ReviewPipeline.Proofs.Confinement

/-!
# What Changes of Files Spare

Making directories, removing files and opening a database change nodes at some places only. At
every other place a node stays what it is; the one thing that can come up there is a directory,
where there was nothing. What rows a database holds is a matter of `ReviewPipeline.Proofs.Opening`;
here it is all nodes, so that a text file is known to be left alone as well.

## Main definitions

* `Files.destination`: where a path leads, if two dots undo the name before them;
* `Files.Spares`: nothing but directories is new outside some places;
* `Files.IsPlaceOf`: the places that the name of a database stands for.

## Main results

* `Files.spares_makeParents`, `Files.spares_removeAll`, `Files.spares_openDatabase`: what each of
  these spares;
* `Files.not_isPlaceOf_settings`: the settings are at none of the places of a database, unless the
  database itself is at theirs.
-/

namespace ReviewPipeline.Files

variable {P Q : Location → Prop} {files files' files'' : Files} {location place start : Location}
  {names above : List String} {path name : String} {paths : List String} {node : Node} {now : Int}
  {wait : Nat}

/-- Where a path leads, if two dots undo the name before them. -/
def destination (files : Files) (path : String) : Location :=
  Path.reached (files.start path) (Path.names path)

/-- A slash at the end makes no difference to where names lead. -/
theorem reached_steps :
    Path.reached start (Path.steps path) = Path.reached start (Path.names path) := by
  unfold Path.steps
  split
  · rw [Path.reached, List.foldl_append]
    rfl
  · rfl

/-- What a path is found to lead to is its destination. -/
theorem eq_destination_of_locate (h : files.locate path = .ok location) :
    location = files.destination path := by
  unfold locate at h
  split_ifs at h
  rw [eq_reached_of_follow h, destination, reached_steps]

/-- A database that is located is at the destination of its path. -/
theorem eq_destination_of_databaseLocation (h : files.databaseLocation path = some location) :
    location = files.destination path :=
  eq_reached_of_trace (Option.filter_eq_some_iff.1 h).1

/-- A node that a path leads to stands at the destination of the path. -/
theorem node?_eq_ok (h : files.node? path = .ok (location, node)) :
    location = files.destination path ∧ files.at? location = some node := by
  obtain ⟨found, hfound, h⟩ := bind_eq_ok_iff.1 h
  split at h
  · next hat =>
    cases h
    exact ⟨eq_destination_of_locate hfound, hat⟩
  · cases h

/-! ### Sparing -/

/-- Outside some places every node is as it was, and only directories are new. -/
structure Spares (P : Location → Prop) (files files' : Files) : Prop where
  /-- The working directory is the same. -/
  workingDirectory : files'.workingDirectory = files.workingDirectory
  /-- A node outside the places is the same, or there was none and now there is a directory. -/
  nodes : ∀ place, ¬ P place → files'.at? place = files.at? place ∨
    files.at? place = none ∧ files'.at? place = some .directory

namespace Spares

/-- Doing nothing spares everything. -/
theorem refl (P : Location → Prop) (files : Files) : Spares P files files :=
  ⟨rfl, fun _ _ => .inl rfl⟩

/-- What is spared twice is spared. -/
theorem trans (h : Spares P files files') (h' : Spares P files' files'') :
    Spares P files files'' := by
  refine ⟨h'.workingDirectory.trans h.workingDirectory, fun place hplace => ?_⟩
  rcases h'.nodes place hplace with hsame | ⟨hnone, hdirectory⟩
  · rw [hsame]
    exact h.nodes place hplace
  · rcases h.nodes place hplace with hsame | ⟨-, hdirectory'⟩
    · exact .inr ⟨hsame ▸ hnone, hdirectory⟩
    · rw [hdirectory'] at hnone
      cases hnone

/-- Whoever spares all but some places spares all but more. -/
theorem mono (h : Spares P files files') (hPQ : ∀ place, P place → Q place) :
    Spares Q files files' :=
  ⟨h.workingDirectory, fun place hplace => h.nodes place fun hP => hplace (hPQ place hP)⟩

/-- Putting a node at a place spares the others. -/
protected theorem put (h : P location) : Spares P files (files.put location node) :=
  ⟨rfl, fun _ hplace => .inl (at?_put_of_ne fun hsame => hplace (hsame ▸ h))⟩

/-- Dropping a node at a place spares the others. -/
protected theorem drop (h : P location) : Spares P files (files.drop location) :=
  ⟨rfl, fun _ hplace => .inl (at?_drop_of_ne fun hsame => hplace (hsame ▸ h))⟩

/-- A new directory is allowed at every place. -/
theorem put_directory (h : files.at? location = none) :
    Spares P files (files.put location .directory) := by
  refine ⟨rfl, fun place _ => ?_⟩
  by_cases hsame : place = location
  · subst hsame
    refine .inr ⟨h, ?_⟩
    rw [at?_put_self]
    split <;> rfl
  · exact .inl (at?_put_of_ne hsame)

/-- A path starts where it did. -/
theorem start_eq (h : Spares P files files') : files'.start path = files.start path := by
  rw [start, start, h.workingDirectory]

/-- A path leads where it did. -/
theorem destination_eq (h : Spares P files files') :
    files'.destination path = files.destination path := by
  rw [destination, destination, h.start_eq]

/-- A file stands at a spared place iff it stood there. -/
theorem file_iff (h : Spares P files files') (hplace : ¬ P place) {content : Content} :
    files'.at? place = some (.file content) ↔ files.at? place = some (.file content) := by
  rcases h.nodes place hplace with hsame | ⟨hnone, hdirectory⟩
  · rw [hsame]
  · rw [hnone, hdirectory]
    simp

/-- Rows outside the places are what they were. -/
theorem rows_eq (h : Spares P files files') (hplace : ¬ P place) :
    files'.rows place = files.rows place := by
  rcases h.nodes place hplace with hsame | ⟨hnone, hdirectory⟩
  · rw [rows, rows, hsame]
  · rw [rows, rows, hnone, hdirectory]

end Spares

/-- What a path leads to is found there again, if it is spared and no directory has gone. -/
theorem node?_eq_ok_of_spares (hspares : Spares P files files')
    (hdirectories : ∀ place, files.at? place = some .directory → files'.at? place = some .directory)
    (hplace : ¬ P (files.destination path)) (h : files.node? path = .ok (location, node)) :
    files'.node? path = .ok (location, node) := by
  obtain ⟨rfl, hat⟩ := node?_eq_ok h
  obtain ⟨found, hfound, -⟩ := bind_eq_ok_iff.1 h
  -- The path still leads to the same place, since no directory on the way has gone.
  have hlocate : files'.locate path = .ok (files.destination path) := by
    rw [eq_destination_of_locate hfound] at hfound
    unfold locate at hfound ⊢
    split_ifs at hfound ⊢
    rw [hspares.start_eq]
    exact follow_eq_ok_of_directories hdirectories hfound
  -- What stands there is the same, since the place is spared.
  have hat' : files'.at? (files.destination path) = some node := by
    rcases hspares.nodes _ hplace with hsame | ⟨hnone, -⟩
    · rw [hsame, hat]
    · rw [hnone] at hat
      cases hat
  rw [node?, hlocate]
  simp only [bind, Except.bind, hat']
  rfl

/-- Only directories are new. -/
abbrev SparesAll (files files' : Files) : Prop :=
  Spares (fun _ => False) files files'

namespace SparesAll

/-- Where all is spared, every node is still there. -/
theorem at?_eq_some (h : SparesAll files files') (hat : files.at? location = some node) :
    files'.at? location = some node := by
  rcases h.nodes location not_false with hsame | ⟨hnone, -⟩
  · rw [hsame, hat]
  · rw [hat] at hnone
    cases hnone

/-- New directories are in nobody's way. -/
theorem exists?_eq_true (h : SparesAll files files') (hexists : files.exists? path = true) :
    files'.exists? path = true := by
  unfold exists? at hexists ⊢
  cases hnode : files.node? path with
  | error fault =>
    rw [hnode] at hexists
    cases hexists
  | ok found =>
    rw [node?_eq_ok_of_spares h (fun _ => h.at?_eq_some) not_false hnode]
    rfl

end SparesAll

/-! ### Directories and removals -/

/-- Making a directory spares every node. -/
theorem spares_makeDirectory (h : files.makeDirectory start names = .ok files') :
    Spares P files files' := by
  unfold makeDirectory at h
  simp only [throw_bind_eq] at h
  split_ifs at h
  · obtain ⟨parent, -, h⟩ := bind_eq_ok_iff.1 h
    cases h
  · obtain ⟨parent, -, h⟩ := bind_eq_ok_iff.1 h
    obtain ⟨location, -, h⟩ := bind_eq_ok_iff.1 h
    split at h
    · cases h
    · next hnone =>
      cases h
      exact .put_directory hnone

/-- Making sure that a directory is there spares every node. -/
theorem spares_ensureDirectory (h : files.ensureDirectory start names = .ok files') :
    Spares P files files' := by
  unfold ensureDirectory at h
  split at h
  · split_ifs at h
    cases h
    exact .refl P files
  · exact spares_makeDirectory h

/-- Making sure of the directories above spares every node. -/
theorem spares_ensureDirectories : Spares P files (files.ensureDirectories start above).2 := by
  -- The names are those of the directories above, the nearest first, so the rest of them comes
  -- first.
  induction above with
  | nil => exact .refl P files
  | cons name above ih =>
    rw [ensureDirectories]
    split
    · next h => exact spares_ensureDirectory h
    · split
      · next h => rwa [h] at ih
      · next h =>
        rw [h] at ih
        split
        · next h' => exact ih.trans (spares_ensureDirectory h')
        · exact ih
    · exact .refl P files

/-- Making the directories above a path spares every node. -/
theorem spares_makeParents : Spares P files (files.makeParents path).2 :=
  spares_ensureDirectories

/-- Removing files spares all but their destinations. -/
theorem spares_removeAll (h : ∀ path ∈ paths, P (files.destination path)) :
    Spares P files (files.removeAll paths).2 := by
  -- The other destinations are those of the files that are left, as nothing but a file has gone.
  induction paths generalizing files with
  | nil => exact .refl P files
  | cons path paths ih =>
    obtain ⟨hpath, hpaths⟩ := List.forall_mem_cons.1 h
    rw [removeAll]
    split
    · split
      · next files' hremove =>
        obtain ⟨⟨location, node⟩, hnode, hremove⟩ := bind_eq_ok_iff.1 hremove
        split at hremove
        · cases hremove
        · next hfile =>
          cases hfile
          cases hremove
          have hdrop : Spares P files (files.drop location) := by
            rw [(node?_eq_ok hnode).1]
            exact .drop hpath
          refine hdrop.trans (ih fun other hother => ?_)
          rw [hdrop.destination_eq]
          exact hpaths other hother
      · exact .refl P files
    · exact ih hpaths

/-! ### Opening a database -/

section Opening

variable {companion : Companion} {layer : Layer} {address : Address} {db : Database}
  {journaling : Journaling} {content : Content} (hplace : P location)
  (hbeside : ∀ companion : Companion, P (companion.location location))

include hbeside

/-- Discarding a companion spares the places that are none of the database. -/
theorem spares_discard : Spares P files (files.discard location companion) := by
  unfold discard
  split
  · exact .drop (hbeside companion)
  · exact .drop (hbeside companion)
  · exact .refl P files
  · exact .refl P files

/-- Discarding a companion that holds something spares the places that are none of the database. -/
theorem spares_discardHeld : Spares P files (files.discardHeld location companion) := by
  unfold discardHeld
  split
  · exact .drop (hbeside companion)
  · exact .refl P files

/-- Providing a companion spares the places that are none of the database. -/
theorem spares_provide : Spares P files (files.provide location companion) := by
  unfold provide
  split
  · exact .put (hbeside companion)
  · exact .refl P files

/-- Writing the index spares the places that are none of the database. -/
theorem spares_writeIndex : Spares P files (files.writeIndex location) := by
  unfold writeIndex
  split
  · exact .refl P files
  · exact .put (hbeside .index)

/-- Discarding the log spares the places that are none of the database. -/
theorem spares_discardLog : Spares P files (files.discardLog location layer) := by
  unfold discardLog
  dsimp only
  split
  · exact (spares_discard hbeside).trans (spares_discard hbeside)
  · exact spares_discard hbeside

/-- Undoing a journal spares the places that are none of the database. -/
theorem spares_undo (h : files.undo location address = .ok files') : Spares P files files' := by
  unfold undo at h
  split at h
  · cases h
    exact .refl P files
  split at h
  · cases h
  · split_ifs at h
    · cases h
      exact .refl P files
    · cases h
      exact spares_discard hbeside
  · cases h
    exact .refl P files
  · cases h
    exact .refl P files

/-- Refusing a file that is no database spares the places that are none of it. -/
theorem spares_refuse : Spares P files (files.refuse location address).2 := by
  unfold refuse
  dsimp only
  split_ifs
  · exact .refl P files
  · exact spares_writeIndex hbeside
  · exact .refl P files
  · exact spares_discardLog hbeside

include hplace

omit hbeside in
/-- Bringing a database to the current schema spares the places that are none of it. -/
theorem spares_bringUp : Spares P files (files.bringUp location db journaling now).2 := by
  unfold bringUp
  split
  · exact .refl P files
  · exact .put hplace

/-- Opening an empty file spares the places that are none of the database. -/
theorem spares_openBlank : Spares P files (files.openBlank location address now).2 := by
  unfold openBlank
  extract_lets isReadOnly files₁ files₂ files₃
  have h₁ : Spares P files files₁ := by
    unfold files₁
    split
    · exact .refl P files
    · exact spares_discardHeld hbeside
  have h₂ : Spares P files files₂ := h₁.trans (spares_discardHeld hbeside)
  have h₃ : Spares P files files₃ := h₂.trans (spares_discard hbeside)
  split_ifs
  · exact h₁
  · exact h₂
  · exact h₂
  · exact h₃.trans (spares_bringUp hplace)
  · exact (h₃.trans (.put hplace)).trans (spares_provide hbeside)
  · exact (h₃.trans (spares_discardLog hbeside)).trans (spares_bringUp hplace)

/-- Opening a database in a file spares the places that are none of the database. -/
theorem spares_openHeld :
    Spares P files (files.openHeld location address db journaling now).2 := by
  unfold openHeld
  -- The files are named as in the definition, one after the other.
  extract_lets isReadOnly usesLog logged files₁ files₂ journaling'
  have hlogged : Spares P files logged := spares_provide hbeside
  have h₁ : Spares P files files₁ := by
    unfold files₁
    split_ifs
    · exact hlogged.trans (spares_writeIndex hbeside)
    · exact hlogged
    · exact .refl P files
  have h₂ : Spares P files files₂ := by
    unfold files₂
    split
    · exact .refl P files
    · exact spares_discard hbeside
  split_ifs
  · exact .refl P files
  · exact .refl P files
  · exact spares_bringUp hplace
  · exact h₁
  · exact (h₂.trans (.put hplace)).trans (spares_provide hbeside)
  · exact (h₂.trans (spares_discardLog hbeside)).trans (spares_bringUp hplace)

/-- Opening a file that holds something spares the places that are none of the database. -/
theorem spares_openFilled :
    Spares P files (files.openFilled location address content now).2 := by
  unfold openFilled
  split
  · exact .refl P files
  · next hundo =>
    have hundone := spares_undo hbeside hundo
    split
    · exact hundone
    · exact hundone.trans (spares_openHeld hplace hbeside)
    · exact hundone.trans (spares_refuse hbeside)

/-- Opening any file spares the places that are none of the database. -/
theorem spares_openFile : Spares P files (files.openFile location address content now).2 := by
  unfold openFile
  split_ifs
  · exact .refl P files
  · exact spares_openBlank hplace hbeside
  · exact spares_openFilled hplace hbeside

end Opening

/-- The places that the name of a database stands for: those of the name and of the files beside it,
as paths, and those of the database that the name leads to and of its companions. -/
inductive IsPlaceOf (files : Files) (name : String) : Location → Prop where
  /-- The name as a path. -/
  | named : IsPlaceOf files name (files.destination name)
  /-- A file beside it. -/
  | side {path : String} (h : path ∈ sideFiles name) :
    IsPlaceOf files name (files.destination path)
  /-- The database. -/
  | opened {address : Address} (h : Address.ofName? name = .ok address) :
    IsPlaceOf files name (files.destination address.path)
  /-- A companion of it. -/
  | companion {address : Address} (h : Address.ofName? name = .ok address)
    (companion : Companion) :
    IsPlaceOf files name (companion.location (files.destination address.path))

/-- The places depend on the working directory only. -/
theorem Spares.isPlaceOf (h : Spares P files files') (hplace : files'.IsPlaceOf name place) :
    files.IsPlaceOf name place := by
  cases hplace with
  | named =>
    rw [h.destination_eq]
    exact .named
  | side hside =>
    rw [h.destination_eq]
    exact .side hside
  | opened haddress =>
    rw [h.destination_eq]
    exact .opened haddress
  | companion haddress companion =>
    rw [h.destination_eq]
    exact .companion haddress companion

/-- Opening a database spares everything but the places that its name stands for. -/
theorem spares_openDatabase :
    Spares (files.IsPlaceOf name) files (files.openDatabase name now wait).2 := by
  have hplace {address : Address} (haddress : Address.ofName? name = .ok address) :
      files.IsPlaceOf name (files.destination address.path) := .opened haddress
  have hbeside {address : Address} (haddress : Address.ofName? name = .ok address)
      (companion : Companion) : files.IsPlaceOf name
      (companion.location (files.destination address.path)) := .companion haddress companion
  -- What is opened in no file spares everything, and so does an error before.
  obtain ⟨fault, hopen⟩ | ⟨connected, files', hconnects, hopen⟩ :=
    openDatabase_cases files name now wait
  · rw [hopen]
    exact .refl _ files
  rw [hopen]
  cases hconnects with
  | transient =>
    split_ifs
    · exact .refl _ files
    · unfold openConnected
      dsimp only
      split_ifs <;> exact .refl _ files
  | file haddress _ hlocation =>
    obtain rfl := eq_destination_of_databaseLocation hlocation
    split_ifs
    · exact .refl _ files
    · exact spares_openFile (hplace haddress) (hbeside haddress)
  | directory => split_ifs <;> exact .refl _ files
  | made haddress _ hlocation =>
    obtain rfl := eq_destination_of_databaseLocation hlocation
    split_ifs
    · exact .put (hplace haddress)
    · -- A database that is made is put at its place first, and then opened there.
      exact (Spares.put (hplace haddress)).trans
        (spares_openFile (hplace haddress) (hbeside haddress))

/-- A database that is in a file is at the destination of its address. -/
theorem eq_destination_of_databasePlace? (h : files.databasePlace? name = some location) :
    ∃ address, Address.ofName? name = .ok address ∧
      location = files.destination address.path := by
  unfold databasePlace? at h
  split at h
  · cases h
  · next address haddress =>
    split_ifs at h
    exact ⟨address, haddress, eq_destination_of_databaseLocation h⟩

/-! ### The settings -/

/-- What is added to a path, without a slash in it, is added to its last part. -/
theorem split_append {more : List Char} (h : '/' ∉ more) (cs : List Char) :
    ∃ parts last, Path.split (cs ++ more) = parts ++ [last ++ more] := by
  -- Only the last part grows; the parts before it end at slashes of the first text.
  induction cs with
  | nil =>
    refine ⟨[], [], ?_⟩
    induction more with
    | nil => rfl
    | cons c more ih =>
      obtain ⟨hc, hmore⟩ := not_or.1 (mt List.mem_cons.2 h)
      simp only [List.nil_append] at ih ⊢
      rw [Path.split, ih hmore]
      exact if_neg (Ne.symm hc)
  | cons c cs ih =>
    obtain ⟨parts, last, hsplit⟩ := ih
    rw [List.cons_append, Path.split, hsplit]
    cases parts with
    | nil =>
      by_cases hc : c = '/'
      · exact ⟨[[]], last, if_pos hc⟩
      · exact ⟨[], c :: last, if_neg hc⟩
    | cons part parts =>
      by_cases hc : c = '/'
      · exact ⟨[] :: part :: parts, last, if_pos hc⟩
      · exact ⟨(c :: part) :: parts, last, if_neg hc⟩

/-- The last name that a path leads to ends like the path, if it does not end in a slash or in a
dot. -/
theorem getLast?_destination {suffix : String} {c : Char} (hslash : '/' ∉ suffix.toList)
    (hlast : suffix.toList.getLast? = some c) (hdot : c ≠ '.') (files : Files) (path : String) :
    ∃ name, (files.destination (path ++ suffix)).getLast? = some name ∧
      name.toList.getLast? = some c := by
  obtain ⟨parts, last, hsplit⟩ := split_append hslash path.toList
  let name := String.ofList (last ++ suffix.toList)
  have hname : name.toList.getLast? = some c := by
    rw [String.toList_ofList, List.getLast?_append, hlast, Option.some_or]
  -- Such a name is not empty, and neither one dot nor two.
  have hother : ∀ text : String, text.toList.getLast? ≠ some c → name ≠ text := by
    rintro text htext rfl
    exact htext hname
  have hnames : Path.names (path ++ suffix) =
      (parts.map String.ofList).filter (· != "") ++ [name] := by
    rw [Path.names, String.toList_append, hsplit, List.map_append, List.filter_append]
    refine congrArg _ (List.filter_cons_of_pos ?_)
    exact bne_iff_ne.2 (hother "" (by simp))
  refine ⟨name, ?_, hname⟩
  rw [destination, hnames, Path.reached, List.foldl_append, List.foldl_cons, List.foldl_nil,
    Path.step, if_neg (hother "." (by simpa using hdot.symm)),
    if_neg (hother ".." (by simpa using hdot.symm)), List.getLast?_concat]

/-- The name of a companion ends as its kind does. -/
theorem getLast?_companion {companion : Companion} {database : Location} {name : String}
    (h : (companion.location database).getLast? = some name) :
    name.toList.getLast? = companion.ending.toList.getLast? := by
  unfold Companion.location at h
  split at h
  · rw [List.getLast?_concat] at h
    cases h
    cases companion <;> simp [Companion.ending, List.getLast?_append]
  · next hnone =>
    rw [hnone] at h
    cases h

/-- The settings are at none of the places of a database, unless the database itself is at
theirs. -/
theorem not_isPlaceOf_settings {directory : String} {settings : Location}
    (hsettings : settings = files.destination (Path.join directory "config.json"))
    (hnamed : settings ≠ files.destination name)
    (hopened : ∀ address, Address.ofName? name = .ok address →
      settings ≠ files.destination address.path) : ¬ files.IsPlaceOf name settings := by
  -- The name of the settings ends in another letter than those of the files beside a database.
  obtain ⟨last, hlast, hletter⟩ : ∃ last, settings.getLast? = some last ∧
      last.toList.getLast? = some 'n' := by
    have hjoin : ∃ before, Path.join directory "config.json" = before ++ "config.json" := by
      unfold Path.join
      split
      · exact ⟨_, rfl⟩
      · exact ⟨_, rfl⟩
    obtain ⟨before, hjoin⟩ := hjoin
    rw [hsettings, hjoin]
    exact getLast?_destination (by decide) (by decide) (by decide) files before
  have hbeside : ∀ companion : Companion, ∃ c, companion.ending.toList.getLast? = some c ∧
      c ≠ 'n' ∧ c ≠ '.' ∧ '/' ∉ companion.ending.toList := by
    intro companion
    cases companion <;> exact ⟨_, rfl, by decide, by decide, by decide⟩
  intro hplace
  cases hplace with
  | named => exact hnamed rfl
  | opened haddress => exact hopened _ haddress rfl
  | companion haddress companion =>
    obtain ⟨c, hc, hother, -⟩ := hbeside companion
    have hsame := (hc.symm.trans (getLast?_companion hlast).symm).trans hletter
    exact hother (Option.some.inj hsame)
  | @side path hside =>
    obtain ⟨companion, rfl⟩ : ∃ companion : Companion, path = name ++ companion.ending := by
      rcases List.mem_cons.1 hside with rfl | hside
      · exact ⟨.log, rfl⟩
      · exact ⟨.index, List.mem_singleton.1 hside⟩
    obtain ⟨c, hc, hother, hdot, hslash⟩ := hbeside companion
    obtain ⟨other, hlast', hletter'⟩ := getLast?_destination hslash hc hdot files name
    obtain rfl := Option.some.inj (hlast.symm.trans hlast')
    exact hother (Option.some.inj (hletter'.symm.trans hletter))

end ReviewPipeline.Files
