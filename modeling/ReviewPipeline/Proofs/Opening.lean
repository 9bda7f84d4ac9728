import ReviewPipeline.Files.Opening
import ReviewPipeline.Proofs.Database.Writes

/-!
# What Opening a Database Leaves Alone

A command opens the database before anything else. That makes files and removes files, brings the
database to the current schema, and stays done even if the command fails afterwards. Here it is
shown that no row of any database is touched by it: the only files that can be lost are the
companions of the database that is opened.

## Main definitions

* `Rows`, `Files.rows`: the rows that the database at a place holds;
* `Files.Keeps`: the same rows at every place, except that those of a companion may be gone;
* `Opens`, `OpensNowhere`: what opening the database at a location, or one that is in no file,
  comes to, as far as rows are concerned;
* `Files.Refusal`: the errors that opening ends with, when the caller is ready to wait so long;
* `Files.Connects`: what connecting to a database comes to, before anybody waits for it;
* `Files.databasePlace?`: the location that the name of a database leads to.

## Main results

* `rows_openDatabase`: opening a database, in whatever way it ends, touches no row;
* `rows_save_of_openDatabase`: neither does writing it back as it was opened.
-/

namespace ReviewPipeline

/-- The rows of a database and the counters that number them. What the schema adds, and the block on
writes, are no rows. -/
structure Rows where
  /-- The projects. -/
  projects : List Project := []
  /-- The issues. -/
  issues : List (Row Issue) := []
  /-- The steps. -/
  steps : List (Row Step) := []
  /-- The cursors. -/
  cursors : List (Row Cursor) := []
  /-- The ledger. -/
  ledger : List LedgerEntry := []
  /-- The audit log. -/
  events : List (Row Event) := []
  /-- The number of the last ledger entry. -/
  lastSeq : Int := 0
  /-- The number of the last audit event. -/
  lastEventId : Int := 0
  deriving DecidableEq, Repr

/-- The rows of a database. -/
def Database.rows (db : Database) : Rows :=
  ⟨db.projects, db.issues, db.steps, db.cursors, db.ledger, db.events, db.lastSeq, db.lastEventId⟩

/-- The rows in a file. A file that holds no database has none. -/
def Content.rows : Content → Rows
  | .database db _ => db.rows
  | _ => {}

/-- Bringing a database to the current schema changes no row. -/
theorem Database.rows_applySchema {db db' : Database} {now : Int}
    (h : db.applySchema now = .ok db') : db'.rows = db.rows := by
  obtain ⟨-, rfl⟩ := Database.applySchema_eq_ok_iff.1 h
  rfl

/-- It fails only with a fault of the database. -/
theorem Database.applySchema_eq_error {db : Database} {now : Int} {e : Error}
    (h : db.applySchema now = .error e) : ∃ fault, e = .database fault := by
  unfold applySchema at h
  split at h
  · next he =>
    cases h
    exact ⟨_, require_eq_error he⟩
  · cases h

/-- A file that counts as empty has no rows. -/
theorem Content.rows_of_isBlank {content : Content} (h : content.isBlank = true) :
    content.rows = {} := by
  cases content with
  | database db journaling => cases h
  | text s => rfl
  | binary => rfl

/-- A companion is another file than its database. -/
theorem Companion.location_ne {database : Location} (h : database ≠ []) (companion : Companion) :
    companion.location database ≠ database := by
  obtain ⟨above, name, rfl⟩ := (List.eq_nil_or_concat database).resolve_left h
  have hending : companion.ending ≠ "" := by cases companion <;> decide
  have hname : name ++ companion.ending ≠ name := fun hsame =>
    hending (String.append_eq_left_iff.1 hsame)
  simpa [location] using hname

namespace Files

variable {files files' files'' : Files} {location place : Location} {node : Node}
  {content : Content} {db : Database} {journaling : Journaling} {companion : Companion}
  {layer : Layer} {address : Address} {now : Int} {wait : Nat}

/-- The rows at a place. -/
def rows (files : Files) (place : Location) : Rows :=
  match files.at? place with
  | some (.file content) => content.rows
  | _ => {}

/-! ### Single changes -/

/-- Other nodes are found after one was taken away. -/
theorem lookup_filter_ne {nodes : List (Location × Node)} (h : place ≠ location) :
    (nodes.filter (·.1 != location)).lookup place = nodes.lookup place := by
  induction nodes with
  | nil => rfl
  | cons pair nodes ih =>
    obtain ⟨other, node⟩ := pair
    by_cases hother : other = location
    · subst hother
      simp [List.lookup_cons, beq_eq_false_iff_ne.2 h, ih]
    · simp [List.lookup_cons, hother, ih]

/-- Elsewhere there is what was there before something was put. -/
theorem at?_put_of_ne (h : place ≠ location) :
    (files.put location node).at? place = files.at? place := by
  simp only [at?, put, List.lookup_cons, beq_eq_false_iff_ne.2 h, lookup_filter_ne h]

/-- Elsewhere there is what was there before something was dropped. -/
theorem at?_drop_of_ne (h : place ≠ location) :
    (files.drop location).at? place = files.at? place := by
  simp only [at?, drop, lookup_filter_ne h]

/-- A node that is put somewhere stands there, unless there always is a directory. -/
theorem at?_put_self : (files.put location node).at? location =
    if location.isPrefixOf files.workingDirectory then some .directory else some node := by
  simp [at?, put]

/-- A file with the rows that its place holds already can be put there. -/
theorem rows_put (h : content.rows = files.rows location) :
    (files.put location (.file content)).rows = files.rows := by
  funext place
  by_cases hplace : place = location
  · subst hplace
    -- What is put where a directory is for good is not seen.
    by_cases hfixed : place.isPrefixOf files.workingDirectory = true
    · have hat : files.at? place = some .directory := if_pos hfixed
      rw [rows, rows, at?_put_self, if_pos hfixed, hat]
    · rw [rows, at?_put_self, if_neg hfixed]
      exact h
  · rw [rows, rows, at?_put_of_ne hplace]

/-- A database can be written back with the rows that its place holds. -/
theorem rows_save {opened : Opened} (hlocation : opened.location = some location)
    (h : db.rows = files.rows location) : (files.save opened db).rows = files.rows := by
  rw [save, hlocation]
  exact rows_put h

/-- Where an empty file was put, there are no rows. -/
theorem rows_put_blank (h : content.rows = {}) :
    (files.put location (.file content)).rows location = {} := by
  rw [rows, at?_put_self]
  by_cases hfixed : location.isPrefixOf files.workingDirectory = true
  · rw [if_pos hfixed]
  · rw [if_neg hfixed]
    exact h

/-- A node that was dropped is gone, unless there always is a directory. -/
theorem at?_drop_self : (files.drop location).at? location =
    if location.isPrefixOf files.workingDirectory then some .directory else none := by
  have hgone : (files.nodes.filter (·.1 != location)).lookup location = none := by
    simp only [List.lookup_eq_none_iff, List.mem_filter]
    intro pair hpair
    simpa using Ne.symm (bne_iff_ne.1 hpair.2)
  rw [at?, drop, hgone]

/-- Where something was dropped, there are no rows. -/
theorem rows_drop_self : (files.drop location).rows location = {} := by
  rw [rows, at?_drop_self]
  by_cases hfixed : location.isPrefixOf files.workingDirectory = true
  · rw [if_pos hfixed]
  · rw [if_neg hfixed]

/-! ### Following names -/

/-- Names lead to the same place if the directories that are passed are still there. -/
theorem follow_eq_ok_of_directories {start found : Location} {names : List String}
    (hdirectories : ∀ place, files.at? place = some .directory → files'.at? place = some .directory)
    (hfound : files.follow start names = .ok found) : files'.follow start names = .ok found := by
  -- Wherever the walk passed, there was a directory, which is still there.
  induction names generalizing start with
  | nil => exact hfound
  | cons name names ih =>
    rw [follow] at hfound ⊢
    split at hfound
    · cases hfound
    · cases hfound
    · next hat =>
      simp only [hdirectories _ hat]
      split_ifs at hfound ⊢
      · exact ih hfound
      · exact ih hfound
      · exact ih hfound

/-! ### Companions -/

/-- Every place has the same rows as before, except that those of a companion may be gone. -/
def Keeps (database : Location) (files files' : Files) : Prop :=
  ∀ place, files'.rows place = files.rows place ∨
    files'.rows place = {} ∧ ∃ companion : Companion, place = companion.location database

/-- Where nothing was done, everything is kept. -/
theorem Keeps.refl : Keeps location files files :=
  fun _ => .inl rfl

/-- What is kept twice is kept. -/
theorem Keeps.trans (h : Keeps location files files') (h' : Keeps location files' files'') :
    Keeps location files files'' := by
  intro place
  rcases h' place with hkept | hgone
  · rw [hkept]
    exact h place
  · exact .inr hgone

/-- What leaves all rows as they are keeps them. -/
theorem Keeps.of_rows (h : files'.rows = files.rows) : Keeps location files files' :=
  fun place => .inl (congrFun h place)

/-- Whatever is no companion has its rows still. -/
theorem Keeps.rows_eq (h : Keeps location files files')
    (hplace : ∀ companion : Companion, place ≠ companion.location location) :
    files'.rows place = files.rows place := by
  rcases h place with hkept | ⟨-, companion, hcompanion⟩
  · exact hkept
  · exact absurd hcompanion (hplace companion)

/-- The database itself is none of its companions. -/
theorem Keeps.self (h : Keeps location files files') (hlocation : location ≠ []) :
    files'.rows location = files.rows location :=
  h.rows_eq fun companion => (companion.location_ne hlocation).symm

/-- A companion that is written keeps all other rows. -/
theorem keeps_put_companion (h : content.rows = {}) :
    Keeps location files (files.put (companion.location location) (.file content)) := by
  intro place
  by_cases hplace : place = companion.location location
  · subst hplace
    exact .inr ⟨rows_put_blank h, companion, rfl⟩
  · exact .inl (by rw [rows, rows, at?_put_of_ne hplace])

/-- A companion that is dropped keeps all other rows. -/
theorem keeps_drop_companion : Keeps location files (files.drop (companion.location location)) := by
  intro place
  by_cases hplace : place = companion.location location
  · subst hplace
    exact .inr ⟨rows_drop_self, companion, rfl⟩
  · exact .inl (by rw [rows, rows, at?_drop_of_ne hplace])

/-- To discard a companion keeps the rows. -/
theorem keeps_discard : Keeps location files (files.discard location companion) := by
  unfold discard
  split
  · exact keeps_drop_companion
  · exact keeps_drop_companion
  · exact .refl
  · exact .refl

/-- Discarding a companion that holds something keeps the rows of a place. -/
theorem keeps_discardHeld : Keeps location files (files.discardHeld location companion) := by
  unfold discardHeld
  split
  · exact keeps_drop_companion
  · exact .refl

/-- To provide a companion keeps the rows. -/
theorem keeps_provide : Keeps location files (files.provide location companion) := by
  unfold provide
  split
  · exact keeps_put_companion rfl
  · exact .refl

/-- To write the index keeps the rows. -/
theorem keeps_writeIndex : Keeps location files (files.writeIndex location) := by
  unfold writeIndex
  split
  · exact .refl
  · exact keeps_put_companion rfl

/-- To discard the log keeps the rows. -/
theorem keeps_discardLog : Keeps location files (files.discardLog location layer) := by
  unfold discardLog
  dsimp only
  split
  · exact keeps_discard.trans keeps_discard
  · exact keeps_discard

/-! ### Opening -/

/-- What opening a database can fail with: a fault of the database, or a wait that is too long. -/
inductive Refusal (wait : Nat) : Error → Prop
  /-- The database refuses. -/
  | fault (fault : Fault) : Refusal wait (.database fault)
  /-- The wait is too long. -/
  | wait (hwait : longestWait < wait) : Refusal wait (.crashed .waitTooLong)

/-- Opening the database at a location touches no row. If it ends well, what is open has the rows of
that location; else it was refused. -/
structure Opens (wait : Nat) (location : Location) (files : Files)
    (result : Except Error Opened × Files) : Prop where
  /-- No row is touched. -/
  keeps : Keeps location files result.2
  /-- What is open is the database at the location. -/
  opened : ∀ opened, result.1 = .ok opened →
    opened.location = some location ∧ opened.database.rows = files.rows location
  /-- What is reported is a fault of the database or the wait. -/
  refused : ∀ e, result.1 = .error e → Refusal wait e

/-- A refusal opens nothing. -/
theorem opens_of_refusal {e : Error} (hrefusal : Refusal wait e) (h : Keeps location files files') :
    Opens wait location files (.error e, files') :=
  ⟨h, fun _ hopened => (nomatch hopened), fun _ he => Except.error.inj he ▸ hrefusal⟩

/-- A fault opens nothing. -/
theorem opens_error {fault : Fault} (h : Keeps location files files') :
    Opens wait location files (.error (.database fault), files') :=
  opens_of_refusal (.fault fault) h

/-- What is done to the companions first is of no consequence. -/
theorem Opens.of_keeps {result : Except Error Opened × Files} (hlocation : location ≠ [])
    (hkeeps : Keeps location files files') (h : Opens wait location files' result) :
    Opens wait location files result :=
  ⟨hkeeps.trans h.keeps, fun opened hopened => by
    rw [← hkeeps.self hlocation]
    exact h.opened opened hopened, h.refused⟩

/-- A database that is brought up is open with the rows it had. -/
theorem opens_bringUp (h : db.rows = files.rows location) :
    Opens wait location files (files.bringUp location db journaling now) := by
  unfold bringUp
  split
  · next e hschema =>
    obtain ⟨fault, rfl⟩ := Database.applySchema_eq_error hschema
    exact opens_error .refl
  · next db' hschema =>
    have hrows : db'.rows = files.rows location := (Database.rows_applySchema hschema).trans h
    refine ⟨.of_rows (rows_put hrows), fun opened hopened => ?_, fun _ he => nomatch he⟩
    cases hopened
    exact ⟨rfl, hrows⟩

/-- An empty file is opened as a database without rows. -/
theorem opens_openBlank (hlocation : location ≠ []) (h : files.rows location = {}) :
    Opens wait location files (files.openBlank location address now) := by
  unfold openBlank
  extract_lets isReadOnly files₁ files₂ files₃
  -- Whatever goes before the file becomes a database is a companion.
  have h₁ : Keeps location files files₁ := by
    unfold files₁
    split
    · exact .refl
    · exact keeps_discardHeld
  have h₂ : Keeps location files files₂ := h₁.trans keeps_discardHeld
  have h₃ : Keeps location files files₃ := h₂.trans keeps_discard
  have hempty : (Content.database {} .ahead).rows = files₃.rows location :=
    ((h₃.self hlocation).trans h).symm
  split
  · exact opens_error h₁
  split
  · exact opens_error h₂
  split
  · exact opens_error h₂
  split
  · exact (opens_bringUp hempty).of_keeps hlocation h₃
  split
  · exact opens_error ((h₃.trans (.of_rows (rows_put hempty))).trans keeps_provide)
  · have hclosed : Keeps location files₃ (files₃.discardLog location address.layer) :=
      keeps_discardLog
    refine .of_keeps hlocation (h₃.trans hclosed) (opens_bringUp ?_)
    exact hempty.trans (hclosed.self hlocation).symm

/-- What is no database is refused. -/
theorem opens_refuse : Opens wait location files (files.refuse location address) := by
  unfold refuse
  refine opens_error ?_
  split
  · exact .refl
  split
  · split
    · exact keeps_writeIndex
    · exact .refl
  · exact keeps_discardLog

/-- A database in a file is opened with its rows. -/
theorem opens_openHeld (hlocation : location ≠ []) (h : db.rows = files.rows location) :
    Opens wait location files (files.openHeld location address db journaling now) := by
  unfold openHeld
  extract_lets isReadOnly usesLog logged files₁ files₂ journaling'
  have hlogged : Keeps location files logged := keeps_provide
  have h₁ : Keeps location files files₁ := by
    unfold files₁
    split
    · split
      · exact hlogged.trans keeps_writeIndex
      · exact hlogged
    · exact .refl
  have h₂ : Keeps location files files₂ := by
    unfold files₂
    split
    · exact .refl
    · exact keeps_discard
  -- The way of journaling may change, the rows do not.
  have hrows : (Content.database db journaling').rows = files₂.rows location :=
    h.trans (h₂.self hlocation).symm
  split
  · split
    · exact opens_error .refl
    split
    · exact opens_error .refl
    · exact opens_bringUp h
  split
  · exact opens_error h₁
  split
  · exact opens_error ((h₂.trans (.of_rows (rows_put hrows))).trans keeps_provide)
  · have hclosed : Keeps location files₂ (files₂.discardLog location address.layer) :=
      keeps_discardLog
    refine .of_keeps hlocation (h₂.trans hclosed) (opens_bringUp ?_)
    exact hrows.trans (hclosed.self hlocation).symm

/-- To undo a journal keeps the rows. -/
theorem keeps_undo (h : files.undo location address = .ok files') :
    Keeps location files files' := by
  unfold undo at h
  split at h
  · cases h
    exact .refl
  split at h
  · cases h
  · split at h
    · cases h
      exact .refl
    split at h
    · cases h
    · cases h
      exact keeps_discard
  · cases h
    exact .refl
  · cases h
    exact .refl

/-- A file that holds something is opened with its rows. -/
theorem opens_openFilled (hlocation : location ≠ []) (h : content.rows = files.rows location) :
    Opens wait location files (files.openFilled location address content now) := by
  unfold openFilled
  split
  · exact opens_error .refl
  · next files' hundo =>
    have hkeeps := keeps_undo hundo
    -- The journal was only a companion, so the file holds what it held.
    refine .of_keeps hlocation hkeeps ?_
    rw [← hkeeps.self hlocation] at h
    split
    · exact opens_error .refl
    · exact opens_openHeld hlocation h
    · exact opens_refuse

/-- A file is opened with its rows. -/
theorem opens_openFile (hlocation : location ≠ []) (h : content.rows = files.rows location) :
    Opens wait location files (files.openFile location address content now) := by
  unfold openFile
  split
  · exact opens_error .refl
  split
  · next hblank =>
    exact opens_openBlank hlocation (h.symm.trans (Content.rows_of_isBlank hblank))
  · exact opens_openFilled hlocation h

/-- The location that the name of a database leads to, if the database is in a file. -/
def databasePlace? (files : Files) (name : String) : Option Location :=
  match Address.ofName? name with
  | .error _ => none
  | .ok address => if address.isTransient then none else files.databaseLocation address.path

/-- A database is not at the root. -/
theorem databasePlace?_ne_nil {name : String} (h : files.databasePlace? name = some location) :
    location ≠ [] := by
  unfold databasePlace? at h
  split at h
  · cases h
  split at h
  · cases h
  · have hfilter := (Option.filter_eq_some_iff.1 h).2
    rintro rfl
    simp at hfilter

/-- What connecting to the name of a database comes to. -/
inductive Connects (files : Files) (name : String) : Except Error Connected × Files → Prop
  /-- The name makes no sense, or nothing can be opened there. -/
  | refused (fault : Fault) : Connects files name (.error (.database fault), files)
  /-- The database is in no file. -/
  | transient {address : Address} (haddress : Address.ofName? name = .ok address)
      (htransient : address.isTransient = true) :
      Connects files name (.ok (.transient address), files)
  /-- There is a file. -/
  | file {address : Address} {location : Location} {content : Content}
      (haddress : Address.ofName? name = .ok address) (htransient : address.isTransient = false)
      (hlocation : files.databaseLocation address.path = some location)
      (hfile : files.at? location = some (.file content)) :
      Connects files name (.ok (.file location address content), files)
  /-- There is a directory. -/
  | directory {address : Address} {location : Location}
      (haddress : Address.ofName? name = .ok address) (htransient : address.isTransient = false)
      (hlocation : files.databaseLocation address.path = some location)
      (hdirectory : files.at? location = some .directory) :
      Connects files name (.ok .directory, files)
  /-- A file is made. -/
  | made {address : Address} {location : Location}
      (haddress : Address.ofName? name = .ok address) (htransient : address.isTransient = false)
      (hlocation : files.databaseLocation address.path = some location)
      (hmissing : files.at? location = none)
      (hparent : files.at? location.dropLast = some .directory) :
      Connects files name
        (.ok (.file location address (.text "")), files.put location (.file (.text "")))

/-- That is all that connecting comes to. -/
theorem connects_connect (files : Files) (name : String) :
    Connects files name (files.connect name) := by
  unfold connect
  split
  · exact .refused _
  · next address haddress =>
    -- A database in no file is told by its address alone.
    split
    · next htransient => exact .transient haddress htransient
    · next htransient =>
      rw [Bool.not_eq_true] at htransient
      extract_lets refusal
      -- Else its file is located, and what stands there decides.
      split
      · exact .refused _
      · next location hlocation =>
        split
        · next content hfile => exact .file haddress htransient hlocation hfile
        · next hdirectory =>
          split
          · exact .directory haddress htransient hlocation hdirectory
          · exact .refused _
        · next hmissing =>
          split
          · next hmakes =>
            rw [Bool.and_eq_true, decide_eq_true_iff, decide_eq_true_iff] at hmakes
            exact .made haddress htransient hlocation hmissing hmakes.2
          · exact .refused _

/-- The place of a database in a file is where its path leads. -/
theorem databasePlace?_eq {name : String} {address : Address}
    (haddress : Address.ofName? name = .ok address) (htransient : address.isTransient = false) :
    files.databasePlace? name = files.databaseLocation address.path := by
  simp [databasePlace?, haddress, htransient]

/-- A wait that is too long is all that can keep what was connected to from being opened. -/
theorem openDatabase_cases (files : Files) (name : String) (now : Int) (wait : Nat) :
    (∃ fault, files.openDatabase name now wait = (.error (.database fault), files)) ∨
      ∃ connected files', Connects files name (.ok connected, files') ∧
        files.openDatabase name now wait =
          if longestWait < wait then (.error (.crashed .waitTooLong), files')
          else files'.openConnected now connected := by
  have hconnects := connects_connect files name
  unfold openDatabase
  generalize files.connect name = result at hconnects
  cases hconnects with
  | refused fault => exact .inl ⟨fault, rfl⟩
  | transient haddress htransient => exact .inr ⟨_, _, .transient haddress htransient, rfl⟩
  | file haddress htransient hlocation hfile =>
    exact .inr ⟨_, _, .file haddress htransient hlocation hfile, rfl⟩
  | directory haddress htransient hlocation hdirectory =>
    exact .inr ⟨_, _, .directory haddress htransient hlocation hdirectory, rfl⟩
  | made haddress htransient hlocation hmissing hparent =>
    exact .inr ⟨_, _, .made haddress htransient hlocation hmissing hparent, rfl⟩

/-- If the name of a database leads to a file, opening it touches no row, and what is open has the
rows of that file. -/
theorem opens_openDatabase {name : String}
    (h : files.databasePlace? name = some location) :
    Opens wait location files (files.openDatabase name now wait) := by
  have hne := databasePlace?_ne_nil h
  obtain ⟨fault, hopen⟩ | ⟨connected, files', hconnects, hopen⟩ :=
    openDatabase_cases files name now wait
  · rw [hopen]
    exact opens_error .refl
  rw [hopen]
  cases hconnects with
  | transient haddress htransient => simp [databasePlace?, haddress, htransient] at h
  | file haddress htransient hlocation hfile =>
    obtain rfl := Option.some.inj
      (hlocation.symm.trans ((databasePlace?_eq haddress htransient).symm.trans h))
    split
    · next hwait => exact opens_of_refusal (.wait hwait) .refl
    · exact opens_openFile hne (by rw [rows, hfile])
  | directory =>
    split
    · next hwait => exact opens_of_refusal (.wait hwait) .refl
    · exact opens_error .refl
  | @made _ made haddress htransient hlocation hmissing hparent =>
    obtain rfl := Option.some.inj
      (hlocation.symm.trans ((databasePlace?_eq haddress htransient).symm.trans h))
    -- The file that was made holds nothing, as there was nothing.
    have hput : (files.put made (.file (.text ""))).rows = files.rows :=
      rows_put (by rw [rows, hmissing]; rfl)
    split
    · next hwait => exact opens_of_refusal (.wait hwait) (.of_rows hput)
    · refine .of_keeps hne (.of_rows hput) (opens_openFile hne ?_)
      rw [hput, rows, hmissing]
      rfl

/-- Opening a database that is in no file touches no file, and what is open holds nothing; else it
was refused. -/
structure OpensNowhere (wait : Nat) (files : Files) (result : Except Error Opened × Files) :
    Prop where
  /-- No file is touched. -/
  files_eq : result.2 = files
  /-- What is open is in no file, and holds nothing. -/
  opened : ∀ opened, result.1 = .ok opened → opened.location = none ∧ opened.database.rows = {}
  /-- What is reported is a fault of the database or the wait. -/
  refused : ∀ e, result.1 = .error e → Refusal wait e

/-- A refusal of a database in no file touches nothing. -/
theorem opensNowhere_error {e : Error} (h : Refusal wait e) :
    OpensNowhere wait files (.error e, files) :=
  ⟨rfl, fun _ hopened => (nomatch hopened), fun _ he => Except.error.inj he ▸ h⟩

/-- If the name of a database leads to no file, no file is touched, and what is open is in none. -/
theorem opensNowhere_openDatabase {name : String}
    (h : files.databasePlace? name = none) :
    OpensNowhere wait files (files.openDatabase name now wait) := by
  obtain ⟨fault, hopen⟩ | ⟨connected, files', hconnects, hopen⟩ :=
    openDatabase_cases files name now wait
  · rw [hopen]
    exact opensNowhere_error (.fault fault)
  rw [hopen]
  cases hconnects with
  | transient haddress htransient =>
    split
    · next hwait => exact opensNowhere_error (.wait hwait)
    unfold openConnected
    dsimp only
    split
    · exact opensNowhere_error (.fault _)
    · refine ⟨rfl, fun opened hopened => ?_, fun _ he => nomatch he⟩
      cases hopened
      exact ⟨rfl, rfl⟩
  | file haddress htransient hlocation | directory haddress htransient hlocation
  | made haddress htransient hlocation =>
    rw [databasePlace?_eq haddress htransient, hlocation] at h
    cases h

/-- What opening a database fails with is a fault of it, or the wait. -/
theorem refusal_openDatabase {name : String} {e : Error}
    (h : (files.openDatabase name now wait).1 = .error e) : Refusal wait e := by
  cases hplace : files.databasePlace? name with
  | none => exact (opensNowhere_openDatabase hplace).refused e h
  | some location => exact (opens_openDatabase hplace).refused e h

/-- Opening a database leaves the rows of every place as they are, the companions of the database
aside. -/
theorem rows_openDatabase {name : String}
    (h : ∀ location, files.databasePlace? name = some location →
      ∀ companion : Companion, place ≠ companion.location location) :
    (files.openDatabase name now wait).2.rows place = files.rows place := by
  cases hplace : files.databasePlace? name with
  | none => rw [(opensNowhere_openDatabase hplace).files_eq]
  | some location => exact (opens_openDatabase hplace).keeps.rows_eq (h location hplace)

/-- Writing a database back as it was opened changes no row. -/
theorem rows_save_of_openDatabase {name : String} {opened : Opened}
    (h : files.openDatabase name now wait = (.ok opened, files')) :
    (files'.save opened opened.database).rows = files'.rows := by
  cases hplace : files.databasePlace? name with
  | none =>
    have hnowhere : opened.location = none :=
      ((opensNowhere_openDatabase hplace).opened opened (by rw [h])).1
    rw [save, hnowhere]
  | some location =>
    have hopens : Opens wait location files (.ok opened, files') := h ▸ opens_openDatabase hplace
    obtain ⟨hlocation, hrows⟩ := hopens.opened opened rfl
    have hself := hopens.keeps.self (databasePlace?_ne_nil hplace)
    exact rows_save hlocation (hrows.trans hself.symm)

end Files

end ReviewPipeline
