import ReviewPipeline.Proofs.Sparing

/-!
# Directories Stay

Removing files and opening a database make and take away files only: a directory that stands in the
place of a companion stays, and so do all others. So where a path leads does not change, unless what
it leads to does.

## Main definitions

* `Files.SameDirectories`: the directories are the same.

## Main results

* `Files.sameDirectories_removeAll`, `Files.sameDirectories_openDatabase`: removing files and
  opening a database.
-/

namespace ReviewPipeline.Files

variable {P : Location → Prop} {files files' files'' : Files} {location place start : Location}
  {names : List String} {path name : String} {paths : List String} {node : Node} {now : Int}
  {content : Content} {wait : Nat}

/-- The directories are the same. -/
def SameDirectories (files files' : Files) : Prop :=
  ∀ place, files'.at? place = some .directory ↔ files.at? place = some .directory

namespace SameDirectories

/-- Where nothing was done, directories are the same. -/
theorem refl (files : Files) : SameDirectories files files :=
  fun _ => .rfl

/-- What keeps directories twice keeps them. -/
theorem trans (h : SameDirectories files files') (h' : SameDirectories files' files'') :
    SameDirectories files files'' :=
  fun place => (h' place).trans (h place)

/-- What is no directory does not become one. -/
theorem ne_directory (h : SameDirectories files files')
    (hplace : files.at? location ≠ some .directory) : files'.at? location ≠ some .directory :=
  mt (h location).1 hplace

/-- The working directory is not where there is none. -/
theorem not_isPrefixOf (hplace : files.at? location ≠ some .directory) :
    ¬ location.isPrefixOf files.workingDirectory = true :=
  fun hfixed => hplace (if_pos hfixed)

/-- A file that is put where no directory is makes and removes none. -/
protected theorem put (hplace : files.at? location ≠ some .directory) :
    SameDirectories files (files.put location (.file content)) := by
  intro place
  by_cases hsame : place = location
  · subst hsame
    rw [at?_put_self, if_neg (not_isPrefixOf hplace)]
    exact iff_of_false nofun hplace
  · rw [at?_put_of_ne hsame]

/-- Dropping what is no directory makes and removes none. -/
protected theorem drop (hplace : files.at? location ≠ some .directory) :
    SameDirectories files (files.drop location) := by
  intro place
  by_cases hsame : place = location
  · subst hsame
    rw [at?_drop_self, if_neg (not_isPrefixOf hplace)]
    exact iff_of_false nofun hplace
  · rw [at?_drop_of_ne hsame]

end SameDirectories

/-! ### Removals -/

/-- Files that are removed are no directories. -/
theorem sameDirectories_removeAll : SameDirectories files (files.removeAll paths).2 := by
  induction paths generalizing files with
  | nil => exact .refl files
  | cons path paths ih =>
    rw [removeAll]
    split
    · split
      · next files' hremove =>
        obtain ⟨⟨location, node⟩, hnode, hremove⟩ := bind_eq_ok_iff.1 hremove
        split at hremove
        · cases hremove
        · next hfile =>
          cases hfile
          cases hremove
          have hplace : files.at? location ≠ some .directory := by
            rw [(node?_eq_ok hnode).2]
            rintro ⟨⟩
          -- What is dropped was a file, and no directory has it in its place.
          exact (SameDirectories.drop hplace).trans ih
      · exact .refl files
    · exact ih

/-! ### Opening a database -/

section Opening

variable {companion : Companion} {layer : Layer} {address : Address} {db : Database}
  {journaling : Journaling}

/-- What is found as a file, or not at all, is no directory. -/
theorem ne_directory_of_found (h : files.found location companion ≠ .directory) :
    files.at? (companion.location location) ≠ some .directory := by
  intro hplace
  rw [found, hplace] at h
  exact h rfl

/-- Discarding a companion keeps directories. -/
theorem sameDirectories_discard : SameDirectories files (files.discard location companion) := by
  unfold discard
  split
  · next h => exact .drop (ne_directory_of_found (h ▸ nofun))
  · next h => exact .drop (ne_directory_of_found (h ▸ nofun))
  · exact .refl files
  · exact .refl files

/-- Discarding a companion that holds something keeps directories. -/
theorem sameDirectories_discardHeld :
    SameDirectories files (files.discardHeld location companion) := by
  unfold discardHeld
  split
  · next h => exact .drop (ne_directory_of_found (h ▸ nofun))
  · exact .refl files

/-- Providing a companion keeps directories. -/
theorem sameDirectories_provide : SameDirectories files (files.provide location companion) := by
  unfold provide
  split
  · next h => exact .put (ne_directory_of_found (h ▸ nofun))
  · exact .refl files

/-- Writing the index keeps directories. -/
theorem sameDirectories_writeIndex : SameDirectories files (files.writeIndex location) := by
  unfold writeIndex
  split
  · exact .refl files
  · next h => exact .put (ne_directory_of_found h)

/-- Discarding the log keeps directories. -/
theorem sameDirectories_discardLog : SameDirectories files (files.discardLog location layer) := by
  unfold discardLog
  dsimp only
  split
  · exact sameDirectories_discard.trans sameDirectories_discard
  · exact sameDirectories_discard

/-- Undoing a journal keeps directories. -/
theorem sameDirectories_undo (h : files.undo location address = .ok files') :
    SameDirectories files files' := by
  unfold undo at h
  split at h
  · cases h
    exact .refl files
  split at h
  · cases h
  · split_ifs at h
    · cases h
      exact .refl files
    · cases h
      exact sameDirectories_discard
  · cases h
    exact .refl files
  · cases h
    exact .refl files

/-- Refusing a file that is no database keeps directories. -/
theorem sameDirectories_refuse : SameDirectories files (files.refuse location address).2 := by
  unfold refuse
  dsimp only
  split_ifs
  · exact .refl files
  · exact sameDirectories_writeIndex
  · exact .refl files
  · exact sameDirectories_discardLog

/-- Bringing a database to the current schema keeps directories. -/
theorem sameDirectories_bringUp (hplace : files.at? location ≠ some .directory) :
    SameDirectories files (files.bringUp location db journaling now).2 := by
  unfold bringUp
  split
  · exact .refl files
  · exact .put hplace

/-- Opening an empty file keeps directories. -/
theorem sameDirectories_openBlank (hplace : files.at? location ≠ some .directory) :
    SameDirectories files (files.openBlank location address now).2 := by
  unfold openBlank
  extract_lets isReadOnly files₁ files₂ files₃
  -- What is left of an older database goes first, one companion after the other.
  have h₁ : SameDirectories files files₁ := by
    unfold files₁
    split
    · exact .refl files
    · exact sameDirectories_discardHeld
  have h₂ : SameDirectories files files₂ := h₁.trans sameDirectories_discardHeld
  have h₃ : SameDirectories files files₃ := h₂.trans sameDirectories_discard
  split_ifs
  · exact h₁
  · exact h₂
  · exact h₂
  · exact h₃.trans (sameDirectories_bringUp (h₃.ne_directory hplace))
  · exact (h₃.trans (.put (h₃.ne_directory hplace))).trans sameDirectories_provide
  · have hlog : SameDirectories files (files₃.discardLog location address.layer) :=
      h₃.trans sameDirectories_discardLog
    exact hlog.trans (sameDirectories_bringUp (hlog.ne_directory hplace))

/-- Opening a database in a file keeps directories. -/
theorem sameDirectories_openHeld (hplace : files.at? location ≠ some .directory) :
    SameDirectories files (files.openHeld location address db journaling now).2 := by
  unfold openHeld
  extract_lets isReadOnly usesLog logged files₁ files₂ journaling'
  have hlogged : SameDirectories files logged := sameDirectories_provide
  have h₁ : SameDirectories files files₁ := by
    unfold files₁
    split_ifs
    · exact hlogged.trans sameDirectories_writeIndex
    · exact hlogged
    · exact .refl files
  have h₂ : SameDirectories files files₂ := by
    unfold files₂
    split
    · exact .refl files
    · exact sameDirectories_discard
  split_ifs
  · exact .refl files
  · exact .refl files
  · exact sameDirectories_bringUp hplace
  · exact h₁
  · exact (h₂.trans (.put (h₂.ne_directory hplace))).trans sameDirectories_provide
  · have hlog : SameDirectories files (files₂.discardLog location address.layer) :=
      h₂.trans sameDirectories_discardLog
    exact hlog.trans (sameDirectories_bringUp (hlog.ne_directory hplace))

/-- Opening a file that holds something keeps directories. -/
theorem sameDirectories_openFilled (hplace : files.at? location ≠ some .directory) :
    SameDirectories files (files.openFilled location address content now).2 := by
  unfold openFilled
  split
  · exact .refl files
  · next hundo =>
    have hundone := sameDirectories_undo hundo
    split
    · exact hundone
    · exact hundone.trans (sameDirectories_openHeld (hundone.ne_directory hplace))
    · exact hundone.trans sameDirectories_refuse

/-- Opening any file keeps directories. -/
theorem sameDirectories_openFile (hplace : files.at? location ≠ some .directory) :
    SameDirectories files (files.openFile location address content now).2 := by
  unfold openFile
  split_ifs
  · exact .refl files
  · exact sameDirectories_openBlank hplace
  · exact sameDirectories_openFilled hplace

/-- Opening a database makes no directory and takes none away. -/
theorem sameDirectories_openDatabase :
    SameDirectories files (files.openDatabase name now wait).2 := by
  obtain ⟨fault, hopen⟩ | ⟨connected, files', hconnects, hopen⟩ :=
    openDatabase_cases files name now wait
  · rw [hopen]
    exact .refl files
  rw [hopen]
  cases hconnects with
  | transient =>
    split_ifs
    · exact .refl files
    · unfold openConnected
      dsimp only
      split_ifs <;> exact .refl files
  | file _ _ _ hfile =>
    split_ifs
    · exact .refl files
    · exact sameDirectories_openFile (hfile ▸ nofun)
  | directory => split_ifs <;> exact .refl files
  | @made _ location _ _ _ hmissing =>
    have hplace : files.at? location ≠ some .directory := hmissing ▸ nofun
    have hmade : SameDirectories files (files.put location (.file (.text ""))) := .put hplace
    split_ifs
    · exact hmade
    · exact hmade.trans (sameDirectories_openFile (hmade.ne_directory hplace))

end Opening

end ReviewPipeline.Files
