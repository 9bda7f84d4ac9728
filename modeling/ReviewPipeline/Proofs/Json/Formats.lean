import ReviewPipeline.Json.Record
import ReviewPipeline.Proofs.Json.Compact

/-!
# Formats of Records

A format says how the values of a type are written as JSON and how they are read. Reading is more
generous than writing: members may come in any order or be left out, there may be more of them, and
a record may be a list. So writing does not undo reading; but reading undoes writing, for all values
that fit into the numbers of their fields, and these are the values that can be read.

## Main definitions

* `Json.Undoes`: reading undoes writing, for the values that fit;
* `Json.Format`: how the records of a kind are written and read;
* `Json.Format.RoundTrips`: what is written is read back, and reading again changes nothing.

## Main results

* `Json.undoes_text`, `Json.undoes_int64`, `Json.undoes_word`, …: the values of fields;
* `Json.Undoes.required`, `Json.Undoes.optional`, `Json.Undoes.withDefault`: fields of a record;
* `Json.Format.roundTrips`: records as texts.
-/

namespace ReviewPipeline.Json

variable {α : Type} {read : Json → Option α} {write : α → Json} {Fits : α → Prop}

/-- Reading undoes writing for the values that fit, and all that is read fits. -/
structure Undoes (read : Json → Option α) (write : α → Json) (Fits : α → Prop) : Prop where
  /-- A value that fits is read back. -/
  back : ∀ {a}, Fits a → read (write a) = some a
  /-- What is read fits, however it was written. -/
  fits : ∀ {value a}, read value = some a → Fits a
  /-- The numbers that are written are whole. -/
  whole : ∀ a, IsExact (write a)

/-! ### The values of fields -/

/-- A text is read back. -/
theorem undoes_text : Undoes text? str fun _ => True where
  back := fun _ => rfl
  fits := fun _ => trivial
  whole := isExact_str

/-- A truth value is read back. -/
theorem undoes_truth : Undoes truth? bool fun _ => True where
  back := fun _ => rfl
  fits := fun _ => trivial
  whole := isExact_bool

/-- A number within bounds is read back. -/
theorem undoes_intBetween (least greatest : Int) :
    Undoes (intBetween? least greatest) int fun n => least ≤ n ∧ n ≤ greatest where
  back := fun h => if_pos h
  fits := by
    intro value n h
    unfold intBetween? at h
    split at h
    · split_ifs at h with hbounds
      cases h
      exact hbounds
    · cases h
  whole := isExact_int

/-- A number fits into a signed 32-bit integer. -/
def IsInt32 (n : Int) : Prop :=
  -2147483648 ≤ n ∧ n ≤ 2147483647

/-- A number fits into a signed 64-bit integer. -/
def IsInt64 (n : Int) : Prop :=
  -9223372036854775808 ≤ n ∧ n ≤ 9223372036854775807

/-- A number of 32 bits is read back. -/
theorem undoes_int32 : Undoes int32? int IsInt32 :=
  undoes_intBetween _ _

/-- A number of 64 bits is read back. -/
theorem undoes_int64 : Undoes int64? int IsInt64 :=
  undoes_intBetween _ _

/-- A natural number of 64 bits is read back. -/
theorem undoes_uint64 :
    Undoes uint64? (fun n => int (n : Nat)) fun n => n ≤ 18446744073709551615 where
  back := by
    intro n h
    have hread : intBetween? 0 18446744073709551615 (int (n : Nat)) = some (n : Int) :=
      (undoes_intBetween 0 18446744073709551615).back ⟨by omega, by omega⟩
    rw [uint64?, hread]
    rfl
  fits := by
    intro value n h
    obtain ⟨m, hm, rfl⟩ := Option.map_eq_some_iff.1 h
    obtain ⟨-, hgreatest⟩ := (undoes_intBetween 0 18446744073709551615).fits hm
    omega
  whole := fun n => isExact_int n

/-- A word of a vocabulary is read back as its value. -/
theorem undoes_word {v : Vocabulary α} (h : ∀ a, v.ofWord? (v.word a) = some a) :
    Undoes (word? v) (fun a => str (v.word a)) fun _ => True where
  back := fun {a} _ => h a
  fits := fun _ => trivial
  whole := fun a => isExact_str (v.word a)

/-- A value that may be missing is written as `null` where it is. -/
theorem Undoes.nullable {write? : Option α → Json} {Fits? : Option α → Prop}
    (h : Undoes read write Fits) (hnone : write? none = null)
    (hsome : ∀ a, write? (some a) = write a) (hnull : ∀ a, write a ≠ null)
    (hfits : ∀ o, Fits? o ↔ ∀ a ∈ o, Fits a) : Undoes (Fields.nullable read) write? Fits? where
  back := by
    rintro (_ | a) ha
    · rw [hnone]
      rfl
    · rw [hsome, Fields.nullable.eq_2 _ _ (hnull a), h.back ((hfits _).1 ha a rfl)]
      rfl
  fits := by
    intro value o hread
    -- What is read from a missing value is nothing, and it fits.
    rw [hfits]
    unfold Fields.nullable at hread
    split at hread
    · cases hread
      exact nofun
    · obtain ⟨a, ha, rfl⟩ := Option.map_eq_some_iff.1 hread
      rintro _ ⟨⟩
      exact h.fits ha
  whole := by
    rintro (_ | a)
    · rw [hnone]
      exact .null
    · rw [hsome]
      exact h.whole a

/-- A text that may be absent is read back. -/
theorem undoes_text? : Undoes (Fields.nullable text?) ofText? fun _ => True :=
  undoes_text.nullable rfl (fun _ => rfl) nofun (by simp)

/-- A number of 64 bits that may be absent is read back. -/
theorem undoes_int64? : Undoes (Fields.nullable int64?) ofInt? fun o => ∀ n ∈ o, IsInt64 n :=
  undoes_int64.nullable rfl (fun _ => rfl) nofun fun _ => .rfl

/-- A natural number that may be absent is read back. -/
theorem undoes_uint64? :
    Undoes (Fields.nullable uint64?) (fun o => o.elim null fun n => int (n : Nat))
      fun o => ∀ n ∈ o, n ≤ 18446744073709551615 :=
  undoes_uint64.nullable rfl (fun _ => rfl) nofun fun _ => .rfl

/-- A word of a vocabulary that may be absent is read back. -/
theorem undoes_word? {v : Vocabulary α} (h : ∀ a, v.ofWord? (v.word a) = some a) :
    Undoes (Fields.nullable (word? v)) (fun o => ofText? (o.map v.word)) fun _ => True :=
  (undoes_word h).nullable rfl (fun _ => rfl) nofun (by simp)

/-! ### The fields of a record -/

section Fields

variable {names : List String} {members : List (String × Json)} {fields : Fields} {name : String}
  {a default : α} {o : Option α} {Fits? : Option α → Prop} {write? : Option α → Json}

/-- Reading one field after the other, where each of them can be read. -/
theorem bind_eq {β : Type} {x : Option α} {f : α → Option β} {result : Option β} (hx : x = some a)
    (hf : f a = result) : (x >>= f) = result := by
  rw [hx]
  exact hf

/-- All members of a record that is written are found. -/
theorem fields?_obj (hnames : members.map (·.1) = names) (hdistinct : names.Nodup) :
    (obj members).fields? names = some ⟨false, members⟩ := by
  have hall : members.filter (fun member => names.contains member.1) = members := by
    refine List.filter_eq_self.2 fun member hmember => ?_
    rw [List.contains_iff_mem, ← hnames]
    exact List.mem_map_of_mem hmember
  rw [fields?, hall, hnames, decide_eq_true hdistinct]
  rfl

namespace Undoes

/-- A member that has to be there is read back. -/
theorem required (h : Undoes read write Fits) (hfound : fields.found.lookup name = some (write a))
    (ha : Fits a) : fields.required name read = some a := by
  rw [Fields.required, hfound]
  exact h.back ha

/-- A member that may be absent is read back. -/
theorem optional (h : Undoes (Fields.nullable read) write? Fits?)
    (hfound : fields.found.lookup name = some (write? o)) (ho : Fits? o) :
    fields.optional name read = some o := by
  rw [Fields.optional, hfound]
  exact h.back ho

/-- A member with a default is read back. -/
theorem withDefault (h : Undoes read write Fits)
    (hfound : fields.found.lookup name = some (write a)) (ha : Fits a) :
    fields.withDefault name read default = some a := by
  rw [Fields.withDefault, hfound]
  exact h.back ha

/-- What was read from a member is in its range. -/
theorem fits_of_required (h : Undoes read write Fits)
    (hread : fields.required name read = some a) : Fits a := by
  obtain ⟨value, -, hvalue⟩ := Option.bind_eq_some_iff.1 hread
  exact h.fits hvalue

/-- What was read from a member that may be absent is in its range. -/
theorem fits_of_optional (h : Undoes (Fields.nullable read) write? Fits?)
    (hread : fields.optional name read = some o) (hnone : Fits? none) : Fits? o := by
  unfold Fields.optional at hread
  split at hread
  · exact h.fits hread
  · -- A member may be missing, but not from a list.
    split at hread
    · cases hread
    · cases hread
      exact hnone

/-- What was read from a member with a default is in its range. -/
theorem fits_of_withDefault (h : Undoes read write Fits)
    (hread : fields.withDefault name read default = some a) (hdefault : Fits default) :
    Fits a := by
  unfold Fields.withDefault at hread
  split at hread
  · exact h.fits hread
  · cases hread
    exact hdefault

end Undoes

end Fields

/-! ### Records as texts -/

/-- How the records of a kind are written and read. -/
structure Format (α : Type) where
  /-- The names of the fields. -/
  names : List String
  /-- A record as a value. -/
  write : α → Json
  /-- A record read from a value. -/
  read : Json → Option α

namespace Format

variable {format : Format α}

/-- Read a record from a text. -/
def ofText? (format : Format α) (text : String) : Option α :=
  (parseRecord? format.names text).bind format.read

/-- What is written is read back, and reading again changes nothing, for texts in a layout. -/
structure RoundTrips (format : Format α) (layout : Json → String) (Fits : α → Prop) : Prop where
  /-- A record that fits is read back from its text. -/
  back : ∀ a, Fits a → format.ofText? (layout (format.write a)) = some a
  /-- Whatever was read fits, however it was written. -/
  fits : ∀ value a, format.read value = some a → Fits a
  /-- So a record that was read is read back from the text that is written for it. -/
  settled : ∀ value a, format.read value = some a →
    format.ofText? (layout (format.write a)) = some a
  /-- So reading a text, writing what was read and reading that is reading the text. -/
  again : ∀ text, ((format.ofText? text).bind fun a => format.ofText? (layout (format.write a))) =
    format.ofText? text

/-- A format round-trips in a layout from which the records it writes are read. -/
theorem roundTrips {layout : Json → String} (h : Undoes format.read format.write Fits)
    (hlayout : ∀ a, parseRecord? format.names (layout (format.write a)) = some (format.write a)) :
    format.RoundTrips layout Fits := by
  have hback : ∀ a, Fits a → format.ofText? (layout (format.write a)) = some a := by
    intro a ha
    rw [ofText?, hlayout]
    exact h.back ha
  refine ⟨hback, fun _ _ hread => h.fits hread, fun _ a hread => hback a (h.fits hread),
    fun text => ?_⟩
  cases hread : format.ofText? text with
  | none => rfl
  | some a =>
    obtain ⟨value, -, hvalue⟩ := Option.bind_eq_some_iff.1 hread
    exact hback a (h.fits hvalue)

/-- A format that writes objects round-trips on one line. -/
theorem roundTrips_compact (h : Undoes format.read format.write Fits)
    (hobj : ∀ a, ∃ members, format.write a = .obj members) : format.RoundTrips compact Fits := by
  refine roundTrips h fun a => ?_
  have hwhole := h.whole a
  obtain ⟨members, hmembers⟩ := hobj a
  rw [hmembers] at hwhole ⊢
  exact parseRecord?_compact format.names hwhole

end Format

end ReviewPipeline.Json
