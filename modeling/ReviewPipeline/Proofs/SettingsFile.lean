import ReviewPipeline.CommandLine.Execution
import ReviewPipeline.Proofs.Json.Formats
import ReviewPipeline.Proofs.Opening

/-!
# The Settings File

Settings that were saved are the ones that are loaded afterwards. Their text is read back
(`Settings.ofText?_toText`), and a text file that was written is found at its path again, though
writing it may have changed where other paths lead (`Files.readText_of_writeText`). So a default
workspace that is given when a database is made is the default workspace from then on, letter by
letter (`CommandLine.loadSettings_of_initDatabase`).
-/

namespace ReviewPipeline

/-! ### The text of the settings -/

/-- Settings whose time fits into 64 bits, as those that are read from a file do. -/
def Settings.IsStorable (s : Settings) : Prop :=
  ∀ ms ∈ s.busyTimeoutMs, ms ≤ 18446744073709551615

namespace Settings

variable {s : Settings} {text : String}

/-- The text of the settings is that of a record on lines of its own, which is read back. -/
theorem parseRecord?_toText (s : Settings) :
    Json.parseRecord? fieldNames s.toText = some s.toJson := by
  obtain ⟨workspace, timeout⟩ := s
  refine Json.parseRecord?_pretty fieldNames fun member hmember => ?_
  rcases List.mem_append.1 hmember with hmember | hmember
  · cases workspace with
    | none => cases hmember
    | some workspace =>
      obtain rfl := List.mem_singleton.1 hmember
      exact Json.reads_str workspace
  · cases timeout with
    | none => cases hmember
    | some ms =>
      obtain rfl := List.mem_singleton.1 hmember
      exact Json.reads_int ms

/-- Settings are read back from the record that is written for them, with what is not set left
out. -/
theorem undoes_ofJson? : Json.Undoes ofJson? toJson IsStorable where
  back := by
    rintro ⟨_ | workspace, _ | ms⟩ h
    · rfl
    · exact Json.bind_eq rfl <| Json.bind_eq rfl <|
        Json.bind_eq (Json.undoes_uint64?.withDefault rfl h) rfl
    · exact Json.bind_eq rfl <|
        Json.bind_eq (Json.undoes_text?.withDefault rfl trivial) rfl
    · exact Json.bind_eq rfl <|
        Json.bind_eq (Json.undoes_text?.withDefault rfl trivial) <|
        Json.bind_eq (Json.undoes_uint64?.withDefault rfl h) rfl
  fits := by
    intro value s h
    simp only [ofJson?, Option.bind_eq_bind, Option.bind_eq_some_iff, Option.pure_def,
      Option.some.injEq] at h
    obtain ⟨_, -, _, -, _, htimeout, rfl⟩ := h
    exact Json.undoes_uint64?.fits_of_withDefault htimeout nofun
  whole := by
    rintro ⟨_ | workspace, _ | ms⟩ <;> simp [toJson]

/-- Settings are read back from their text. -/
theorem ofText?_toText (h : s.IsStorable) : ofText? s.toText = some s := by
  rw [ofText?, parseRecord?_toText, Option.bind_some]
  exact undoes_ofJson?.back h

/-- Settings that were read from a text can be stored. -/
theorem isStorable_of_ofText? (h : ofText? text = some s) : s.IsStorable := by
  obtain ⟨value, -, hvalue⟩ := Option.bind_eq_some_iff.1 h
  exact undoes_ofJson?.fits hvalue

end Settings

/-! ### Text files -/

namespace Files

variable {files files' : Files} {location found start : Location} {node : Node}
  {names : List String} {path text : String}

/-- Where a path leads does not change when something is put in a place that is no directory. -/
theorem locate_put (hplace : files.at? location ≠ some .directory)
    (h : files.locate path = .ok found) : (files.put location node).locate path = .ok found := by
  unfold locate at h ⊢
  split_ifs at h ⊢
  refine follow_eq_ok_of_directories (fun place hat => ?_) h
  -- What is passed on the way is a directory, so it is another place.
  have hother : place ≠ location := by
    rintro rfl
    exact hplace hat
  rw [at?_put_of_ne hother, hat]

/-- A text file that was written is found at its path. -/
theorem readText_of_writeText (h : files.writeText path text = .ok files') :
    files'.exists? path = true ∧ files'.readText path = .ok text := by
  obtain ⟨location, hlocation, h⟩ := bind_eq_ok_iff.1 h
  split at h
  · cases h
  · next hplace =>
    cases h
    -- The new file is found by the path under which it was written.
    have hlocation : (files.put location (.file (.text text))).locate path = .ok location :=
      locate_put hplace hlocation
    have hthere : (files.put location (.file (.text text))).at? location =
        some (.file (.text text)) := by
      rw [at?_put_self, if_neg]
      intro hfixed
      exact hplace (by rw [at?, if_pos hfixed])
    have hnode : (files.put location (.file (.text text))).node? path =
        .ok (location, .file (.text text)) := by
      simp only [node?, hlocation, bind, Except.bind, hthere]
      rfl
    constructor
    · rw [exists?, hnode]
      rfl
    · rw [readText, hnode]
      rfl

end Files

/-! ### Saving and loading -/

namespace Environment

variable {env : Environment} {files files' : Files} {settings : Settings}

/-- Settings that were loaded can be stored. -/
theorem isStorable_of_loadSettings (h : env.loadSettings files = .ok settings) :
    settings.IsStorable := by
  obtain ⟨path, -, h⟩ := bind_eq_ok_iff.1 h
  split at h
  · split at h
    · cases h
    · split at h
      · next hread =>
        cases h
        exact Settings.isStorable_of_ofText? hread
      · cases h
  · cases h
    exact nofun

/-- Settings that were saved are loaded. -/
theorem loadSettings_of_saveSettings (hstorable : settings.IsStorable)
    (h : env.saveSettings files settings = (.ok (), files')) :
    env.loadSettings files' = .ok settings := by
  unfold saveSettings at h
  split at h
  · cases h
  · next path hpath =>
    split at h
    · cases h
    · split at h
      · next written hwritten =>
        cases h
        obtain ⟨hexists, hread⟩ := Files.readText_of_writeText hwritten
        refine bind_eq_ok_iff.2 ⟨path, hpath, ?_⟩
        rw [if_pos hexists, hread]
        simp only [Settings.ofText?_toText hstorable]
        rfl
      · cases h

end Environment

namespace CommandLine

variable {env : Environment} {files files' : Files} {workspace : String}

/-- A default workspace that was saved is loaded, next to what stood in the settings before. -/
theorem loadSettings_of_saveDefaultWorkspace
    (h : saveDefaultWorkspace env files workspace = (.ok (), files')) :
    ∃ settings, env.loadSettings files = .ok settings ∧
      env.loadSettings files' = .ok { settings with defaultWorkspace := some workspace } := by
  unfold saveDefaultWorkspace at h
  split at h
  · cases h
  · next settings hloaded =>
    have hstorable : { settings with defaultWorkspace := some workspace : Settings }.IsStorable :=
      fun ms hms => Environment.isStorable_of_loadSettings hloaded ms hms
    exact ⟨settings, hloaded, Environment.loadSettings_of_saveSettings hstorable h⟩

/-- A default workspace that is given when the database is made is the default one afterwards,
letter by letter, next to the settings that are loaded once the database is made. -/
theorem loadSettings_of_initDatabase {stamp : Stamp} {inv : Invocation} {force : Bool}
    {answer : Answer}
    (h : initDatabase env stamp inv files force (some workspace) = (.ok answer, files')) :
    ∃ settings, env.loadSettings (initDatabase env stamp inv files force none).2 = .ok settings ∧
      env.loadSettings files' = .ok { settings with defaultWorkspace := some workspace } := by
  unfold initDatabase at h ⊢
  split at h
  · cases h
  · split at h
    · cases h
    · split at h
      · next hmade hworkspace =>
        cases hworkspace
        simp only [hmade]
        split at h
        · cases h
        · next hsaved =>
          cases h
          exact loadSettings_of_saveDefaultWorkspace hsaved
      · next hnone => exact (hnone _ _ _ h rfl).elim

end CommandLine

end ReviewPipeline
