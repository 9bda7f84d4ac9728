import Mathlib.Data.List.Forall2
import ReviewPipeline.Proofs.Json.RoundTrip

/-!
# JSON on One Line

The compact text of a value has no line break in it and is read back as that value. Numbers with a
fraction or an exponent are the exception: they are kept as the text in which they were written,
which need not be one, so the values spoken of here have whole numbers only.

## Main definitions

* `Json.IsExact`: the numbers in a value are whole;
* `Json.IsLine`: a text is one line that holds one value.

## Main results

* `Json.reads_compact`: the compact text of a value is read as the value, whatever comes after it;
* `Json.parseRecord?_compact`: so is the compact text of a record, read as a record;
* `Json.isLine_compact`: it is one line, and holds the value and nothing else.
-/

namespace ReviewPipeline.Json

variable {value : Json} {items : List Json} {members : List (String × Json)}

/-- All numbers in a value are whole. -/
inductive IsExact : Json → Prop where
  /-- The value `null`. -/
  | null : IsExact null
  /-- A truth value. -/
  | bool (b : Bool) : IsExact (bool b)
  /-- A whole number. -/
  | int (n : Int) : IsExact (int n)
  /-- A string. -/
  | str (s : String) : IsExact (str s)
  /-- A list of such values. -/
  | arr {items : List Json} (h : ∀ item ∈ items, IsExact item) : IsExact (arr items)
  /-- An object with such values. -/
  | obj {members : List (String × Json)} (h : ∀ member ∈ members, IsExact member.2) :
      IsExact (obj members)

@[simp] theorem isExact_null : IsExact null := .null

@[simp] theorem isExact_bool (b : Bool) : IsExact (bool b) := .bool b

@[simp] theorem isExact_int (n : Int) : IsExact (int n) := .int n

@[simp] theorem isExact_str (s : String) : IsExact (str s) := .str s

@[simp] theorem isExact_arr_iff : IsExact (arr items) ↔ ∀ item ∈ items, IsExact item :=
  ⟨fun | .arr h => h, .arr⟩

@[simp] theorem isExact_obj_iff : IsExact (obj members) ↔ ∀ member ∈ members, IsExact member.2 :=
  ⟨fun | .obj h => h, .obj⟩

@[simp] theorem isExact_ofText? (s : Option String) : IsExact (ofText? s) := by
  cases s <;> simp [ofText?]

@[simp] theorem isExact_ofInt? (n : Option Int) : IsExact (ofInt? n) := by
  cases n <;> simp [ofInt?]

/-! ### How a text begins -/

/-- A value never begins with a blank or a closing bracket. -/
theorem exists_compactChars_eq_cons (h : IsExact value) :
    ∃ c cs, compactChars value = c :: cs ∧ isLayout c = false ∧ c ≠ ']' := by
  have hdigit : ∀ d < 10, isLayout (Text.digitChar d) = false ∧ Text.digitChar d ≠ ']' := by
    decide
  cases h with
  | null => exact ⟨_, _, rfl, by decide⟩
  | bool b => cases b <;> exact ⟨_, _, rfl, by decide⟩
  | int n =>
    cases n with
    | ofNat n =>
      obtain ⟨d, hd, -, ds, hds⟩ := exists_decimal_eq_cons n
      exact ⟨_, ds, hds, hdigit d hd⟩
    | negSucc n => exact ⟨'-', _, rfl, by decide⟩
  | str s => exact ⟨'"', _, rfl, by decide⟩
  | arr _ => exact ⟨'[', _, rfl, by decide⟩
  | obj _ => exact ⟨_, _, rfl, by decide⟩

/-- What is written takes enough room for another step of reading. -/
theorem exists_fuel (h : IsExact value) {fuel : Nat}
    (hfuel : 2 * (compactChars value).length ≤ fuel) : ∃ n, fuel = n + 1 := by
  obtain ⟨c, cs, htext, -⟩ := exists_compactChars_eq_cons h
  rw [htext, List.length_cons] at hfuel
  exact ⟨fuel - 1, by omega⟩

/-! ### Reading lists and objects -/

/-- Items one after the other are read back. -/
theorem itemsFrom_separated (mode : Surrogates) {texts : List (List Char)} (hne : items ≠ [])
    (h : List.Forall₂ Reads texts items) {fuel : Nat} (rest : List Char)
    (hfuel : 2 * (separated [','] texts).length + 1 ≤ fuel) :
    itemsFrom mode fuel (separated [','] texts ++ ']' :: rest) = some (items, rest) := by
  -- The budget is twice the length of what is left, which pays for an item and the comma after it.
  induction h generalizing fuel with
  | nil => exact absurd rfl hne
  | @cons text item texts items hitem hitems ih =>
    obtain ⟨fuel, rfl⟩ : ∃ n, fuel = n + 1 := ⟨fuel - 1, by omega⟩
    cases hitems with
    | nil =>
      rw [separated_singleton] at hfuel ⊢
      have hread := hitem mode fuel (']' :: rest) (endsNumber_cons (.inr (.inr (.inr rfl))) rest)
        (by omega)
      rw [itemsFrom, hread]
      rfl
    | @cons next second texts items hsecond hitems =>
      rw [separated_cons_cons] at hfuel ⊢
      simp only [List.length_append, List.length_singleton] at hfuel
      have hothers := ih (List.cons_ne_nil second items) (show _ ≤ fuel by omega)
      rw [List.append_assoc, List.append_assoc, List.singleton_append, itemsFrom,
        hitem mode fuel _ (endsNumber_cons (.inr (.inl rfl)) _) (by omega)]
      simp only [skipLayout_cons (show isLayout ',' = false by decide), hothers, Option.map_some]

/-- What is read of an object after a member: other members, or the end. -/
def membersAfter (mode : Surrogates) (fuel : Nat) (member : String × Json) :
    List Char → Option (List (String × Json) × List Char)
  | ',' :: cs => (membersFrom mode fuel cs).map fun r => (member :: r.1, r.2)
  | '}' :: cs => some ([member], cs)
  | _ => none

/-- One member is read, and what comes after it says whether there is another. -/
theorem membersFrom_member (mode : Surrogates) {text rest : List Char} {member : String × Json}
    (h : IsMember text member) (hrest : EndsNumber rest) {fuel : Nat}
    (hfuel : 2 * text.length ≤ fuel + 1) :
    membersFrom mode (fuel + 1) (text ++ rest) =
      membersAfter mode fuel member (skipLayout rest) := by
  obtain ⟨cs, hname, hvalue⟩ := h.exists_value hrest hfuel
  rw [membersFrom]
  simp only [hname, skipLayout_cons (show isLayout ':' = false by decide), hvalue]
  rfl

/-- Members one after the other are read back. -/
theorem membersFrom_separated (mode : Surrogates) {texts : List (List Char)} (hne : members ≠ [])
    (h : List.Forall₂ IsMember texts members) {fuel : Nat} (rest : List Char)
    (hfuel : 2 * (separated [','] texts).length + 1 ≤ fuel) :
    membersFrom mode fuel (separated [','] texts ++ '}' :: rest) = some (members, rest) := by
  induction h generalizing fuel with
  | nil => exact absurd rfl hne
  | @cons text member texts members hmember hmembers ih =>
    -- Each member pays for one step of the reader.
    obtain ⟨fuel, rfl⟩ : ∃ n, fuel = n + 1 := ⟨fuel - 1, by omega⟩
    cases hmembers with
    | nil =>
      rw [separated_singleton] at hfuel ⊢
      rw [membersFrom_member mode hmember (endsNumber_cons (.inr (.inr (.inl rfl))) rest)
        (by omega), skipLayout_cons (by decide)]
      rfl
    | @cons next second texts members hsecond hmembers =>
      rw [separated_cons_cons] at hfuel ⊢
      simp only [List.length_append, List.length_singleton] at hfuel
      have hothers := ih (List.cons_ne_nil second members) (show _ ≤ fuel by omega)
      rw [List.append_assoc, List.append_assoc, List.singleton_append, membersFrom_member mode
        hmember (endsNumber_cons (.inr (.inl rfl)) _) (by omega), skipLayout_cons (by decide)]
      simp only [membersAfter, hothers, Option.map_some]

/-- Items are written one by one. -/
theorem compactItems_eq_map (items : List Json) : compactItems items = items.map compactChars := by
  induction items with
  | nil => rfl
  | cons item items ih => rw [compactItems, ih, List.map_cons]

/-- Members are written one by one, each behind its name. -/
theorem compactMembers_eq_map (members : List (String × Json)) :
    compactMembers members =
      members.map fun member => quote member.1 ++ ':' :: compactChars member.2 := by
  induction members with
  | nil => rfl
  | cons member members ih => rw [compactMembers, ih, List.map_cons]

/-- Items are read back one by one. -/
theorem forall₂_compactItems (h : ∀ item ∈ items, Reads (compactChars item) item) :
    List.Forall₂ Reads (compactItems items) items := by
  rw [compactItems_eq_map]
  exact List.forall₂_map_left_iff.2 (List.forall₂_same.2 h)

/-- Members are read back one by one. -/
theorem forall₂_compactMembers
    (h : ∀ member ∈ members, Reads (compactChars member.2) member.2) :
    List.Forall₂ IsMember (compactMembers members) members := by
  rw [compactMembers_eq_map]
  exact List.forall₂_map_left_iff.2
    (List.forall₂_same.2 fun member hmember => ⟨_, [], nofun, h member hmember, rfl⟩)

/-! ### Reading values -/

/-- A list that begins with an item is read item by item. -/
theorem valueFrom_bracket {c : Char} (hlayout : isLayout c = false) (hclosing : c ≠ ']')
    (mode : Surrogates) (fuel : Nat) (cs : List Char) :
    valueFrom mode (fuel + 1) ('[' :: c :: cs) =
      (itemsFrom mode fuel (c :: cs)).map fun r => (arr r.1, r.2) := by
  rw [valueFrom, skipLayout_cons (by decide)]
  simp only [skipLayout_cons hlayout]
  split
  · next heq => exact absurd (List.cons.inj heq).1 hclosing
  · rfl

/-- An object that begins with a member is read member by member. -/
theorem valueFrom_brace (mode : Surrogates) (fuel : Nat) (cs : List Char) :
    valueFrom mode (fuel + 1) ('{' :: '"' :: cs) =
      (membersFrom mode fuel ('"' :: cs)).map fun r => (obj r.1, r.2) :=
  rfl

/-- Parts one after the other begin as the first of them does. -/
theorem exists_separated_eq_cons (c : Char) (cs : List Char) (texts : List (List Char)) :
    ∃ others, separated [','] ((c :: cs) :: texts) = c :: others := by
  cases texts with
  | nil => exact ⟨cs, separated_singleton _ _⟩
  | cons next texts => exact ⟨_, separated_cons_cons _ _ _ _⟩

/-- The compact text of a value is read as the value, whatever comes after it. -/
theorem reads_compact (h : IsExact value) : Reads (compactChars value) value := by
  -- The induction is on the value: a list and an object are read back if what they hold is.
  induction h with
  | null =>
    intro mode fuel rest _ hfuel
    obtain ⟨fuel, rfl⟩ := exists_fuel .null hfuel
    rfl
  | bool b =>
    intro mode fuel rest _ hfuel
    obtain ⟨fuel, rfl⟩ := exists_fuel (.bool b) hfuel
    cases b <;> rfl
  | int n => exact reads_int n
  | str s => exact reads_str s
  | @arr items h ih =>
    intro mode fuel rest _ hfuel
    obtain ⟨fuel, rfl⟩ := exists_fuel (.arr h) hfuel
    rw [compactChars] at hfuel ⊢
    simp only [List.length_cons, List.length_append, List.length_nil] at hfuel
    simp only [List.cons_append, List.append_assoc, List.nil_append]
    cases items with
    | nil => rfl
    | cons item items =>
      have hinner := itemsFrom_separated mode (List.cons_ne_nil item items)
        (forall₂_compactItems ih) rest (show _ ≤ fuel by omega)
      obtain ⟨c, cs, htext, hlayout, hclosing⟩ :=
        exists_compactChars_eq_cons (h item List.mem_cons_self)
      obtain ⟨others, hothers⟩ := exists_separated_eq_cons c cs (compactItems items)
      rw [compactItems, htext, hothers, List.cons_append] at hinner ⊢
      rw [valueFrom_bracket hlayout hclosing, hinner]
      rfl
  | @obj members h ih =>
    intro mode fuel rest _ hfuel
    obtain ⟨fuel, rfl⟩ := exists_fuel (.obj h) hfuel
    rw [compactChars] at hfuel ⊢
    simp only [List.length_cons, List.length_append, List.length_nil] at hfuel
    simp only [List.cons_append, List.append_assoc, List.nil_append]
    cases members with
    | nil => rfl
    | cons member members =>
      have hinner := membersFrom_separated mode (List.cons_ne_nil member members)
        (forall₂_compactMembers ih) rest (show _ ≤ fuel by omega)
      obtain ⟨others, hothers⟩ := exists_separated_eq_cons '"'
        (member.1.toList.flatMap escape ++ '"' :: ':' :: compactChars member.2)
        (compactMembers members)
      have htext : quote member.1 ++ ':' :: compactChars member.2 = '"' ::
          (member.1.toList.flatMap escape ++ '"' :: ':' :: compactChars member.2) := by
        simp [quote]
      rw [compactMembers, htext, hothers, List.cons_append] at hinner ⊢
      rw [valueFrom_brace, hinner]
      rfl

/-- The compact text of a value holds the value and nothing else. -/
theorem parse?_compact (h : IsExact value) : parse? value.compact = some value := by
  have hread := reads_compact h .refused (fuelFor (compactChars value)) [] nofun
    (by rw [fuelFor]; omega)
  rw [List.append_nil] at hread
  rw [parse?, compact, String.toList_ofList]
  simp only [hread]
  rfl

/-- A record that is written on one line is read back, whatever members are known of it. -/
theorem parseRecord?_compact (known : List String) (h : IsExact (obj members)) :
    parseRecord? known (obj members).compact = some (obj members) := by
  have hmembers := isExact_obj_iff.1 h
  cases members with
  | nil => rfl
  | cons member members =>
    -- There are no blanks, neither before a member nor after the last.
    have hblanks : ∀ c ∈ ([] : List Char), isLayout c = true := nofun
    rw [compact, compactChars]
    exact parseRecord?_separated hblanks hblanks
      (forall₂_compactMembers fun other hother => reads_compact (hmembers other hother))
      (List.cons_ne_nil _ _)

/-! ### Line breaks -/

/-- No digit is a line break. -/
theorem digitChar_ne_newLine : ∀ d < 16, Text.digitChar d ≠ '\n' := by
  decide

/-- A character that is escaped is no line break. -/
theorem not_mem_escape (c : Char) : '\n' ∉ escape c := by
  rcases escape_cases c with ⟨e, -, hshort, hescape⟩ | ⟨-, hescape⟩ | ⟨hprinted, -, -, hescape⟩
  · rw [hescape]
    rintro (_ | ⟨_, _ | ⟨_, ⟨⟩⟩⟩)
    cases hshort
  · have hdigits : Text.fixedWidth 16 4 c.toNat =
        [Text.digitChar (c.toNat / 16 / 16 / 16 % 16), Text.digitChar (c.toNat / 16 / 16 % 16),
          Text.digitChar (c.toNat / 16 % 16), Text.digitChar (c.toNat % 16)] := rfl
    have hdigit (n : Nat) : '\n' ≠ Text.digitChar (n % 16) :=
      (digitChar_ne_newLine _ (Nat.mod_lt n (by decide))).symm
    rw [hescape, hdigits]
    simp [hdigit]
  · rw [hescape, List.mem_singleton]
    rintro rfl
    exact absurd hprinted (by decide)

/-- So there is no line break in quotes. -/
theorem not_mem_quote (s : String) : '\n' ∉ quote s := by
  simp [quote, not_mem_escape]

/-- There is none in a number. -/
theorem not_mem_decimalInt (n : Int) : '\n' ∉ Text.decimalInt n := by
  have hdecimal (n : Nat) : '\n' ∉ Text.decimal n := fun hmem => by
    cases isDigit_of_mem_decimal _ hmem
  cases n with
  | ofNat n => exact hdecimal n
  | negSucc n => exact fun hmem => (List.mem_cons.1 hmem).elim nofun (hdecimal _)

/-- There is none between parts. -/
theorem not_mem_separated {texts : List (List Char)} (h : ∀ text ∈ texts, '\n' ∉ text) :
    '\n' ∉ separated [','] texts := by
  induction texts with
  | nil => exact nofun
  | cons text texts ih =>
    obtain ⟨htext, htexts⟩ := List.forall_mem_cons.1 h
    cases texts with
    | nil =>
      rw [separated_singleton]
      exact htext
    | cons next texts =>
      rw [separated_cons_cons]
      simp [htext, ih htexts]

/-- The compact text of a value has no line break in it. -/
theorem not_mem_compactChars (h : IsExact value) : '\n' ∉ compactChars value := by
  -- Lists and objects are taken apart by commas, and no part has a line break.
  induction h with
  | null => decide
  | bool b => cases b <;> decide
  | int n => exact not_mem_decimalInt n
  | str s => exact not_mem_quote s
  | @arr items h ih =>
    have hitems : '\n' ∉ separated [','] (compactItems items) := by
      refine not_mem_separated ?_
      rw [compactItems_eq_map]
      exact List.forall_mem_map.2 ih
    simp [compactChars, hitems]
  | @obj members h ih =>
    have hmembers : '\n' ∉ separated [','] (compactMembers members) := by
      refine not_mem_separated ?_
      rw [compactMembers_eq_map]
      refine List.forall_mem_map.2 fun member hmember => ?_
      simp [not_mem_quote, ih member hmember]
    simp [compactChars, hmembers]

/-- A text is one line, ended by a line break, that holds a value and nothing else. -/
def IsLine (text : String) (value : Json) : Prop :=
  ∃ line : String, text = line ++ "\n" ∧ '\n' ∉ line.toList ∧ parse? line = some value

/-- A value with whole numbers only is written on one line, and read back from it. -/
theorem isLine_compact (h : IsExact value) : IsLine (value.compact ++ "\n") value := by
  refine ⟨value.compact, rfl, ?_, parse?_compact h⟩
  rw [compact, String.toList_ofList]
  exact not_mem_compactChars h

end ReviewPipeline.Json
