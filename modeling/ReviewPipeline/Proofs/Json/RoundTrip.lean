import Mathlib.Data.List.DropRight
import Mathlib.Data.List.TakeDrop
import Mathlib.Tactic.IntervalCases
import ReviewPipeline.Json.Parser
import ReviewPipeline.Json.Printer

/-!
# Reading Undoes Writing

What the writer of JSON puts down is read back as the value it was written for: quoted strings,
numerals, and the members of an object, in whatever layout they stand. A text is followed by
something else when it is read inside of another, so each statement speaks of a text and what comes
after it.

## Main definitions

* `Json.EndsNumber`: what comes next does not go on with a number;
* `Json.Reads`: a text is read as a value, whatever comes after it.

## Main results

* `Json.quoted_quote`: a quoted string is read back;
* `Json.reads_str`, `Json.reads_int`: a string and a whole number are read back;
* `Json.recordMembersFrom_separated`: so are the members of an object;
* `Json.parseRecord?_separated`: and a record, from the texts of its members;
* `Json.parseRecord?_pretty`: so a record that is written on lines of its own is read back.
-/

namespace ReviewPipeline.Json

/-! ### Strings -/

/-- A code unit that is no surrogate spells a character of its own. -/
theorem spell_unit {mode : Surrogates} {u : Nat} (h : isLeading u = false ∧ isTrailing u = false)
    (rest : List Piece) :
    spell mode (.unit u :: rest) = (spell mode rest).map (Char.ofNat u :: ·) := by
  have hsingle : ∀ spelled, single mode u spelled = spelled.map (Char.ofNat u :: ·) := by
    intro spelled
    simp [single, h]
  cases rest with
  | nil => exact hsingle _
  | cons piece rest =>
    cases piece with
    | char c => exact hsingle _
    | unit v =>
      rw [spell, h.1, Bool.false_and]
      exact hsingle _

/-- The four digits of a control character are read as its code unit. -/
theorem hex4?_control : ∀ n < 32, hex4? (Text.digitChar (n / 16 / 16 / 16 % 16))
    (Text.digitChar (n / 16 / 16 % 16)) (Text.digitChar (n / 16 % 16)) (Text.digitChar (n % 16)) =
      some n := by
  decide

/-- A character is written as a short escape, as the code unit of a control character, or as
itself. -/
theorem escape_cases (c : Char) :
    (∃ e, e ≠ 'u' ∧ unescape? e = some c ∧ escape c = ['\\', e]) ∨
      (c.toNat < 32 ∧ escape c = '\\' :: 'u' :: Text.fixedWidth 16 4 c.toNat) ∨
      (32 ≤ c.toNat ∧ c ≠ '"' ∧ c ≠ '\\' ∧ escape c = [c]) := by
  unfold escape
  split_ifs with hquote hbackslash
  all_goals first
    | exact .inl ⟨_, by decide, by subst c; rfl, rfl⟩
    | exact .inr (.inl ⟨by assumption, rfl⟩)
    | exact .inr (.inr ⟨by omega, hquote, hbackslash, rfl⟩)

/-- An escaped character is one part of a string, which spells it. -/
theorem exists_piece_escape (c : Char) :
    ∃ piece, (∀ cs, pieces (escape c ++ cs) = consPiece piece (pieces cs)) ∧
      ∀ mode rest, spell mode (piece :: rest) = (spell mode rest).map (c :: ·) := by
  rcases escape_cases c with ⟨e, hne, hshort, hescape⟩ | ⟨hcontrol, hescape⟩ |
    ⟨hprinted, hquote, hbackslash, hescape⟩
  · -- The character has a short escape.
    refine ⟨.char c, fun cs => ?_, fun _ _ => rfl⟩
    rw [hescape, List.cons_append, List.singleton_append, pieces, hshort]
    exact fun _ _ _ _ _ hsame => absurd hsame hne
  · -- The character is a control character, spelt by its number.
    refine ⟨.unit c.toNat, fun cs => ?_, fun mode rest => ?_⟩
    · have hdigits : Text.fixedWidth 16 4 c.toNat =
          [Text.digitChar (c.toNat / 16 / 16 / 16 % 16), Text.digitChar (c.toNat / 16 / 16 % 16),
            Text.digitChar (c.toNat / 16 % 16), Text.digitChar (c.toNat % 16)] := rfl
      rw [hescape, hdigits]
      simp only [List.cons_append, List.nil_append, pieces, hex4?_control c.toNat hcontrol]
    · have hlow : isLeading c.toNat = false ∧ isTrailing c.toNat = false := by
        simp only [isLeading, isTrailing, Bool.and_eq_false_imp, decide_eq_true_eq]
        omega
      rw [spell_unit hlow, Char.ofNat_toNat]
  · -- The character stands for itself.
    refine ⟨.char c, fun cs => ?_, fun _ _ => rfl⟩
    have hplain : ¬ (c.toNat < 32 ∨ c = '\\') := by
      rintro (hcontrol | hsame)
      · omega
      · exact hbackslash hsame
    rw [hescape, List.singleton_append, pieces, if_neg hplain]
    · exact fun hsame => absurd hsame hquote
    · exact fun _ _ _ _ _ hsame _ => absurd hsame hbackslash
    · exact fun _ _ hsame _ => absurd hsame hbackslash

/-- An escaped text is read up to the quote that closes it. -/
theorem exists_pieces_escape (cs rest : List Char) :
    ∃ parts, pieces (cs.flatMap escape ++ '"' :: rest) = some (parts, rest) ∧
      ∀ mode, spell mode parts = some cs := by
  -- Each character is escaped by itself, and what is read for it does not depend on what follows.
  induction cs with
  | nil => exact ⟨[], rfl, fun _ => rfl⟩
  | cons c cs ih =>
    obtain ⟨parts, hparts, hspelled⟩ := ih
    obtain ⟨piece, hpiece, hspell⟩ := exists_piece_escape c
    refine ⟨piece :: parts, ?_, fun mode => ?_⟩
    · rw [List.flatMap_cons, List.append_assoc, hpiece, hparts]
      rfl
    · rw [hspell, hspelled]
      rfl

/-- A quoted string is read back. -/
theorem quoted_quote (mode : Surrogates) (s : String) (rest : List Char) :
    quoted mode (quote s ++ rest) = some (s, rest) := by
  obtain ⟨parts, hparts, hspelled⟩ := exists_pieces_escape s.toList rest
  have hquote : quote s ++ rest = '"' :: (s.toList.flatMap escape ++ '"' :: rest) := by
    simp [quote]
  rw [hquote, quoted, hparts]
  simp [hspelled]

/-! ### Layout -/

/-- Layout in front of a text is skipped with that of the text. -/
theorem skipLayout_append {blanks : List Char} (h : ∀ c ∈ blanks, isLayout c = true)
    (cs : List Char) : skipLayout (blanks ++ cs) = skipLayout cs :=
  List.dropWhile_append_of_pos h

/-- A text that does not begin with layout is not skipped. -/
theorem skipLayout_cons {c : Char} (h : isLayout c = false) (cs : List Char) :
    skipLayout (c :: cs) = c :: cs := by
  simp [skipLayout, h]

/-- A quoted text does not begin with layout. -/
theorem skipLayout_quote (s : String) (cs : List Char) :
    skipLayout (quote s ++ cs) = quote s ++ cs :=
  skipLayout_cons (by decide) _

/-- Blanks in front of a value make no difference. -/
theorem valueFrom_append {blanks : List Char} (h : ∀ c ∈ blanks, isLayout c = true)
    (mode : Surrogates) (fuel : Nat) (cs : List Char) :
    valueFrom mode fuel (blanks ++ cs) = valueFrom mode fuel cs := by
  cases fuel with
  | zero => rfl
  | succ fuel => rw [valueFrom, valueFrom, skipLayout_append h]

/-! ### Numbers -/

/-- What comes next does not go on with a number. -/
def EndsNumber (rest : List Char) : Prop :=
  ∀ c ∈ rest.head?, isDigit c = false ∧ c ≠ '.' ∧ c ≠ 'e' ∧ c ≠ 'E'

/-- The character of a digit is one. -/
theorem isDigit_digitChar {d : Nat} (h : d < 10) : isDigit (Text.digitChar d) = true := by
  rw [isDigit, Text.digitValue?_digitChar h]
  rfl

/-- A numeral begins with a digit, which is a zero for zero only. -/
theorem exists_decimal_eq_cons (n : Nat) :
    ∃ d < 10, (0 < n → 0 < d) ∧ ∃ ds, Text.decimal n = Text.digitChar d :: ds := by
  induction n using Text.decimal.induct with
  | case1 n h =>
    rw [Text.decimal, if_pos h]
    exact ⟨n, h, id, [], rfl⟩
  | case2 n h ih =>
    obtain ⟨d, hd, hpositive, ds, hds⟩ := ih
    rw [Text.decimal, if_neg h, hds]
    exact ⟨d, hd, fun _ => hpositive (by omega), _, rfl⟩

/-- A number is written in digits. -/
theorem isDigit_of_mem_decimal {n : Nat} : ∀ c ∈ Text.decimal n, isDigit c = true :=
  Text.forall_mem_decimal (fun _ => isDigit_digitChar) n

/-- The digits of a number are read up to its end. -/
theorem digits_decimal (n : Nat) {rest : List Char} (h : EndsNumber rest) :
    digits (Text.decimal n ++ rest) = some (Text.decimal n, rest) := by
  have hrest : rest.takeWhile isDigit = [] ∧ rest.dropWhile isDigit = rest := by
    cases rest with
    | nil => exact ⟨rfl, rfl⟩
    | cons c cs => simp [(h c rfl).1]
  have hspan : (Text.decimal n ++ rest).span isDigit = (Text.decimal n, rest) := by
    rw [List.span_eq_takeWhile_dropWhile, List.takeWhile_append_of_pos isDigit_of_mem_decimal,
      List.dropWhile_append_of_pos isDigit_of_mem_decimal, hrest.1, hrest.2, List.append_nil]
  obtain ⟨d, -, -, ds, hds⟩ := exists_decimal_eq_cons n
  rw [digits, hspan, hds]

/-- The whole part of a number is read back. -/
theorem wholePart_decimal (n : Nat) {rest : List Char} (h : EndsNumber rest) :
    wholePart (Text.decimal n ++ rest) = some (Text.decimal n, rest) := by
  rw [wholePart, digits_decimal n h]
  split
  · next c cs _ heq =>
    -- Only the numeral of zero begins with a zero, and it has no second digit.
    have hdecimal : Text.decimal n = '0' :: c :: cs := (Prod.mk.inj (Option.some.inj heq)).1
    obtain ⟨d, hd, hpositive, ds, hds⟩ := exists_decimal_eq_cons n
    have hfirst : ∀ d < 10, Text.digitChar d = '0' → d = 0 := by decide
    have hzero := hfirst d hd (List.cons.inj (hds.symm.trans hdecimal)).1
    obtain rfl : n = 0 := by omega
    rw [Text.decimal, if_pos (by decide)] at hdecimal
    cases hdecimal
  · rfl

/-- Where a number ends, it has no fraction. -/
theorem fraction_eq {rest : List Char} (h : EndsNumber rest) : fraction rest = some ([], rest) := by
  unfold fraction
  split
  · exact absurd rfl (h '.' rfl).2.1
  · rfl

/-- After a number that has ended there is no exponent. -/
theorem exponent_eq {rest : List Char} (h : EndsNumber rest) : exponent rest = some ([], rest) := by
  unfold exponent
  split
  · next e cs =>
    obtain ⟨-, -, hlower, hupper⟩ := h e rfl
    rw [if_neg (not_or.2 ⟨hlower, hupper⟩)]
  · rfl

/-- A number is read back from its digits. -/
theorem readNat?_decimal (n : Nat) : Text.readNat? (Text.decimal n) = some n := by
  obtain ⟨d, -, -, ds, hds⟩ := exists_decimal_eq_cons n
  rw [Text.readNat?, if_neg (by simp [hds]), Text.readDigits_decimal]

/-- A numeral is read back, with a minus sign in front of it or without. -/
theorem unsigned_decimal (isNegative : Bool) {n : Nat} (hn : isNegative = true → n ≠ 0)
    {rest : List Char} (h : EndsNumber rest) :
    unsigned isNegative (Text.decimal n ++ rest) =
      some (int (if isNegative then -(n : Int) else n), rest) := by
  simpa [unsigned, wholePart_decimal n h, fraction_eq h, exponent_eq h, readNat?_decimal] using hn

/-- A whole number is read back with its sign. -/
theorem number_decimalInt (n : Int) {rest : List Char} (h : EndsNumber rest) :
    number (Text.decimalInt n ++ rest) = some (int n, rest) := by
  cases n with
  | ofNat n =>
    have hunsigned : ∀ d < 10, Text.digitChar d ≠ '-' := by decide
    obtain ⟨d, hd, -, ds, hds⟩ := exists_decimal_eq_cons n
    rw [Text.decimalInt, hds, List.cons_append, number, ← List.cons_append, ← hds]
    · exact unsigned_decimal false nofun h
    · exact fun _ hsame => absurd (List.cons.inj hsame).1 (hunsigned d hd)
  | negSucc n => exact unsigned_decimal true (fun _ => Nat.succ_ne_zero n) h

/-! ### Values -/

/-- A text is read as a value, whatever comes after it. -/
def Reads (text : List Char) (value : Json) : Prop :=
  ∀ mode fuel rest, EndsNumber rest → 2 * text.length ≤ fuel →
    valueFrom mode fuel (text ++ rest) = some (value, rest)

/-- A text is read back from its quotes. -/
theorem reads_str (s : String) : Reads (quote s) (str s) := by
  intro mode fuel rest _ hfuel
  cases fuel with
  | zero => simp [quote] at hfuel
  | succ fuel =>
    have hread := quoted_quote mode s rest
    have hquote : quote s ++ rest = '"' :: (s.toList.flatMap escape ++ '"' :: rest) := by
      simp [quote]
    rw [hquote] at hread ⊢
    rw [valueFrom, skipLayout_cons (by decide)]
    simp only [hread, Option.map_some]

/-- A value that begins like a number is read as one. -/
theorem valueFrom_numeral {c : Char} (h : c = '-' ∨ ∃ d < 10, c = Text.digitChar d)
    (mode : Surrogates) (fuel : Nat) (cs : List Char) :
    valueFrom mode (fuel + 1) (c :: cs) = number (c :: cs) := by
  rcases h with rfl | ⟨d, hd, rfl⟩
  · rfl
  · interval_cases d <;> rfl

/-- A number is read back. -/
theorem reads_int (n : Int) : Reads (Text.decimalInt n) (int n) := by
  intro mode fuel rest hrest hfuel
  obtain ⟨c, hc, cs, hcs⟩ : ∃ c, (c = '-' ∨ ∃ d < 10, c = Text.digitChar d) ∧
      ∃ cs, Text.decimalInt n = c :: cs := by
    cases n with
    | ofNat n =>
      obtain ⟨d, hd, -, ds, hds⟩ := exists_decimal_eq_cons n
      exact ⟨_, .inr ⟨d, hd, rfl⟩, ds, hds⟩
    | negSucc n => exact ⟨'-', .inl rfl, _, rfl⟩
  cases fuel with
  | zero => simp [hcs] at hfuel
  | succ fuel =>
    have hread := number_decimalInt n hrest
    rw [hcs, List.cons_append] at hread ⊢
    rw [valueFrom_numeral hc, hread]

/-! ### Objects -/

/-- Whatever follows a value ends a number. -/
theorem endsNumber_cons {c : Char} (h : isLayout c = true ∨ c = ',' ∨ c = '}' ∨ c = ']')
    (cs : List Char) : EndsNumber (c :: cs) := by
  intro d hd
  obtain rfl := Option.some.inj hd
  simp only [isLayout, Bool.or_eq_true, beq_iff_eq] at h
  rcases h with (((rfl | rfl) | rfl) | rfl) | rfl | rfl | rfl <;> decide

/-- The text of a member: its name, and the text of its value after some blanks. -/
def IsMember (text : List Char) (member : String × Json) : Prop :=
  ∃ value blanks, (∀ c ∈ blanks, isLayout c = true) ∧ Reads value member.2 ∧
    text = quote member.1 ++ ':' :: (blanks ++ value)

/-- A member is read by its name, and then by its value. -/
theorem IsMember.exists_value {text rest : List Char} {member : String × Json}
    (h : IsMember text member) (hrest : EndsNumber rest) {fuel : Nat}
    (hfuel : 2 * text.length ≤ fuel + 1) :
    ∃ cs, (∀ mode, quoted mode (skipLayout (text ++ rest)) = some (member.1, ':' :: cs)) ∧
      ∀ mode, valueFrom mode fuel cs = some (member.2, rest) := by
  obtain ⟨value, gap, hgap, hvalue, rfl⟩ := h
  refine ⟨gap ++ (value ++ rest), fun mode => ?_, fun mode => ?_⟩
  · rw [List.append_assoc, skipLayout_quote, quoted_quote]
    simp
  · rw [valueFrom_append hgap]
    refine hvalue mode fuel rest hrest ?_
    simp only [List.length_append, List.length_cons] at hfuel
    omega

/-- A single part is not separated. -/
theorem separated_singleton (separator part : List Char) : separated separator [part] = part := by
  simp [separated, List.intercalate]

/-- Parts are separated one by one. -/
theorem separated_cons_cons (separator part next : List Char) (parts : List (List Char)) :
    separated separator (part :: next :: parts) =
      part ++ (separator ++ separated separator (next :: parts)) := by
  simp [separated, List.intercalate]

/-- What is read of a record after a member: other members, or the end. -/
def recordMembersAfter (known : List String) (fuel : Nat) (member : String × Json) :
    List Char → Option (List (String × Json) × List Char)
  | ',' :: cs => (recordMembersFrom known fuel cs).map fun r => (member :: r.1, r.2)
  | '}' :: cs => some ([member], cs)
  | _ => none

/-- Layout before a member is skipped anyway. -/
theorem recordMembersFrom_skipLayout {known : List String} {fuel : Nat} {cs : List Char} :
    recordMembersFrom known fuel (skipLayout cs) = recordMembersFrom known fuel cs := by
  have hskip : skipLayout (skipLayout cs) = skipLayout cs := List.dropWhile_idempotent isLayout cs
  cases fuel with
  | zero => rfl
  | succ fuel => rw [recordMembersFrom, recordMembersFrom, hskip]

section Members

variable {known : List String} {blanks closing text rest : List Char} {member : String × Json}
  (hblanks : ∀ c ∈ blanks, isLayout c = true)

include hblanks

/-- One member is read, and what comes after it says whether there is another. -/
theorem recordMembersFrom_member (h : IsMember text member) (hrest : EndsNumber rest) {fuel : Nat}
    (hfuel : 2 * text.length ≤ fuel + 1) :
    recordMembersFrom known (fuel + 1) (blanks ++ (text ++ rest)) =
      recordMembersAfter known fuel member (skipLayout rest) := by
  obtain ⟨cs, hname, hvalue⟩ := h.exists_value hrest hfuel
  rw [recordMembersFrom, skipLayout_append hblanks]
  simp only [hname, skipLayout_cons (show isLayout ':' = false by decide), hvalue]
  rfl

/-- Members one after the other are read back. -/
theorem recordMembersFrom_separated (hclosing : ∀ c ∈ closing, isLayout c = true)
    {texts : List (List Char)} {members : List (String × Json)}
    (h : List.Forall₂ IsMember texts members) (hne : members ≠ []) {fuel : Nat}
    (hfuel : 2 * (separated (',' :: blanks) texts).length ≤ fuel) :
    recordMembersFrom known fuel
        (blanks ++ (separated (',' :: blanks) texts ++ (closing ++ '}' :: rest))) =
      some (members, rest) := by
  induction h generalizing fuel with
  | nil => exact absurd rfl hne
  | @cons text member texts members hmember hmembers ih =>
    -- A member is long enough to pay for the step that reads it.
    have hlength : 3 ≤ text.length := by
      obtain ⟨value, gap, -, -, rfl⟩ := hmember
      simp [quote]
      omega
    cases hmembers with
    | nil =>
      rw [separated_singleton] at hfuel ⊢
      obtain ⟨fuel, rfl⟩ : ∃ n, fuel = n + 1 := ⟨fuel - 1, by omega⟩
      -- The last member is followed by the closing brace, the others by a comma.
      have hends : EndsNumber (closing ++ '}' :: rest) := by
        cases closing with
        | nil => exact endsNumber_cons (.inr (.inr (.inl rfl))) rest
        | cons c cs => exact endsNumber_cons (.inl (hclosing c List.mem_cons_self)) _
      rw [recordMembersFrom_member hblanks hmember hends hfuel, skipLayout_append hclosing,
        skipLayout_cons (by decide)]
      rfl
    | @cons next second texts members hsecond hmembers =>
      rw [separated_cons_cons] at hfuel ⊢
      simp only [List.length_append, List.length_cons] at hfuel
      obtain ⟨fuel, rfl⟩ : ∃ n, fuel = n + 1 := ⟨fuel - 1, by omega⟩
      have hothers := ih (List.cons_ne_nil second members) (show _ ≤ fuel by omega)
      rw [List.append_assoc, List.append_assoc, List.cons_append, recordMembersFrom_member hblanks
        hmember (endsNumber_cons (.inr (.inl rfl)) _) (by omega), skipLayout_cons (by decide)]
      simp only [recordMembersAfter, hothers, Option.map_some]

/-- A record is read back from its members one after the other, between braces. -/
theorem parseRecord?_separated (hclosing : ∀ c ∈ closing, isLayout c = true)
    {texts : List (List Char)} {members : List (String × Json)}
    (h : List.Forall₂ IsMember texts members) (hne : members ≠ []) :
    parseRecord? known (String.ofList ('{' ::
        (blanks ++ (separated (',' :: blanks) texts ++ (closing ++ ['}']))))) =
      some (obj members) := by
  generalize hinner : separated (',' :: blanks) texts ++ (closing ++ ['}']) = inner
  -- The text after the blanks begins with a quotation mark, so that no layout is skipped in it.
  obtain ⟨cs, hcs⟩ : ∃ cs, inner = '"' :: cs := by
    cases h with
    | nil => exact absurd rfl hne
    | @cons text member texts members hmember hmembers =>
      obtain ⟨value, gap, -, -, rfl⟩ := hmember
      cases texts <;> simp [← hinner, separated_singleton, separated_cons_cons, quote]
  have hskip : skipLayout (blanks ++ inner) = inner := by
    rw [skipLayout_append hblanks, hcs]
    rfl
  have hread : recordMembersFrom known (fuelFor ('{' :: (blanks ++ inner))) inner =
      some (members, []) := by
    rw [← hskip, recordMembersFrom_skipLayout, hskip, ← hinner]
    refine recordMembersFrom_separated hblanks hclosing h hne ?_
    simp only [fuelFor, List.length_append, List.length_cons]
    omega
  rw [parseRecord?, String.toList_ofList]
  simp only [skipLayout_cons (show isLayout '{' = false by decide), hskip]
  rw [hcs] at hread ⊢
  split
  · next heq => simp at heq
  · rw [hread]
    rfl

end Members

/-! ### Records on lines of their own -/

/-- A new line is layout, however deep it is. -/
theorem isLayout_of_mem_newLine {level : Nat} : ∀ c ∈ newLine level, isLayout c = true := by
  intro c hc
  rcases List.mem_cons.1 hc with rfl | hblank
  · rfl
  · obtain ⟨-, rfl⟩ := List.mem_replicate.1 hblank
    rfl

/-- A member is read back from where it is written with layout. -/
theorem isMember_pretty {name : String} {value : Json} {level : Nat}
    (h : Reads (prettyChars level value) value) :
    IsMember (quote name ++ ':' :: ' ' :: prettyChars level value) (name, value) :=
  ⟨_, [' '], List.forall_mem_singleton.2 rfl, h, rfl⟩

/-- A record that is written on lines of its own is read back. -/
theorem parseRecord?_block (known : List String) {texts : List (List Char)}
    {members : List (String × Json)} (h : List.Forall₂ IsMember texts members) :
    parseRecord? known (String.ofList (block '{' '}' 0 texts)) = some (obj members) := by
  cases h with
  | nil => rfl
  | @cons text member texts members hmember hmembers =>
    have hblock : block '{' '}' 0 (text :: texts) = '{' :: (newLine 1 ++
        (separated (',' :: newLine 1) (text :: texts) ++ (newLine 0 ++ ['}']))) := by
      simp [block]
    rw [hblock]
    exact parseRecord?_separated isLayout_of_mem_newLine isLayout_of_mem_newLine
      (.cons hmember hmembers) (List.cons_ne_nil _ _)

/-- All members of a record are read back. -/
theorem forall₂_prettyMembers {level : Nat} {members : List (String × Json)}
    (h : ∀ member ∈ members, Reads (prettyChars level member.2) member.2) :
    List.Forall₂ IsMember (prettyMembers level members) members := by
  induction members with
  | nil => exact .nil
  | cons member members ih =>
    obtain ⟨hmember, hmembers⟩ := List.forall_mem_cons.1 h
    obtain ⟨name, value⟩ := member
    exact .cons (isMember_pretty hmember) (ih hmembers)

/-- A record is read back if the values of its members are. -/
theorem parseRecord?_pretty (known : List String) {members : List (String × Json)}
    (h : ∀ member ∈ members, Reads (prettyChars 1 member.2) member.2) :
    parseRecord? known (obj members).pretty = some (obj members) :=
  parseRecord?_block known (forall₂_prettyMembers h)

end ReviewPipeline.Json
