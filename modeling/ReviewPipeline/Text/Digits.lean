/-!
# Numerals

Decimal and hexadecimal numerals as lists of digits: writing a number, reading one back, and
padding to a width.
-/

namespace ReviewPipeline.Text

/-- The digit characters, up to base sixteen. -/
def digitChars : List Char :=
  ['0', '1', '2', '3', '4', '5', '6', '7', '8', '9', 'a', 'b', 'c', 'd', 'e', 'f']

/-- The character of the digit `d`; digits above fifteen have none and show as `0`. -/
def digitChar (d : Nat) : Char :=
  digitChars.getD d '0'

/-- The value of a decimal digit character. -/
def digitValue? (c : Char) : Option Nat :=
  if '0' ≤ c ∧ c ≤ '9' then some (c.toNat - '0'.toNat) else none

/-- The value of a hexadecimal digit character, in either case. -/
def hexValue? (c : Char) : Option Nat :=
  if '0' ≤ c ∧ c ≤ '9' then some (c.toNat - '0'.toNat)
  else if 'a' ≤ c ∧ c ≤ 'f' then some (c.toNat - 'a'.toNat + 10)
  else if 'A' ≤ c ∧ c ≤ 'F' then some (c.toNat - 'A'.toNat + 10)
  else none

/-- The numeral of `n` in base ten, without leading zeros. -/
def decimal (n : Nat) : List Char :=
  if n < 10 then [digitChar n] else decimal (n / 10) ++ [digitChar (n % 10)]
termination_by n
decreasing_by omega

/-- The numeral of an integer in base ten: a minus sign if it is negative. -/
def decimalInt : Int → List Char
  | .ofNat n => decimal n
  | .negSucc n => '-' :: decimal (n + 1)

/-- The numeral of an integer as a text. -/
def showInt (n : Int) : String :=
  String.ofList (decimalInt n)

/-- The numeral of a natural number as a text. -/
def showNat (n : Nat) : String :=
  String.ofList (decimal n)

/-- Exactly `width` digits of `n` in base `base`; higher digits are cut off. -/
def fixedWidth (base : Nat) : (width : Nat) → (n : Nat) → List Char
  | 0, _ => []
  | width + 1, n => fixedWidth base width (n / base) ++ [digitChar (n % base)]

/-- The number that decimal digits denote, read after `acc`; nothing if a character is no digit. -/
def readDigits (acc : Nat) : List Char → Option Nat
  | [] => some acc
  | c :: cs =>
    match digitValue? c with
    | some d => readDigits (acc * 10 + d) cs
    | none => none

theorem digitValue?_digitChar : ∀ {d : Nat}, d < 10 → digitValue? (digitChar d) = some d := by
  decide

theorem readDigits_append (acc : Nat) (cs ds : List Char) :
    readDigits acc (cs ++ ds) = (readDigits acc cs).bind (readDigits · ds) := by
  induction cs generalizing acc with
  | nil => rfl
  | cons c cs ih =>
    rw [List.cons_append, readDigits, readDigits]
    cases digitValue? c with
    | none => rfl
    | some d => exact ih _

/-- A numeral is made of digits. -/
theorem forall_mem_decimal {P : Char → Prop} (h : ∀ d < 10, P (digitChar d)) (n : Nat) :
    ∀ c ∈ decimal n, P c := by
  induction n using decimal.induct with
  | case1 n hn =>
    rw [decimal, if_pos hn]
    exact List.forall_mem_singleton.2 (h n hn)
  | case2 n hn ih =>
    rw [decimal, if_neg hn]
    exact List.forall_mem_append.2
      ⟨ih, List.forall_mem_singleton.2 (h (n % 10) (Nat.mod_lt n (by decide)))⟩

/-- A numeral is read back as the number it was written for. -/
theorem readDigits_decimal (n : Nat) : readDigits 0 (decimal n) = some n := by
  induction n using decimal.induct with
  | case1 n h =>
    rw [decimal, if_pos h, readDigits, digitValue?_digitChar h]
    simp [readDigits]
  | case2 n h ih =>
    have hdigit : digitValue? (digitChar (n % 10)) = some (n % 10) :=
      digitValue?_digitChar (Nat.mod_lt n (by decide))
    rw [decimal, if_neg h, readDigits_append, ih, Option.bind_some, readDigits, hdigit]
    simp only [readDigits, Option.some.injEq]
    omega

/-- Read a numeral of base ten: one digit or more and nothing else. -/
def readNat? (cs : List Char) : Option Nat :=
  if cs.isEmpty then none else readDigits 0 cs

/-- Read a numeral of base ten with an optional plus sign. -/
def readUnsigned? : List Char → Option Nat
  | '+' :: cs => readNat? cs
  | cs => readNat? cs

/-- Read a numeral of base ten with an optional sign. -/
def readSigned? : List Char → Option Int
  | '-' :: cs => (readNat? cs).map fun n => -(n : Int)
  | cs => (readUnsigned? cs).map fun n => (n : Int)

/-- Blanks before a text until it is `width` characters wide; a wider text stays as it is. -/
def padLeft (width : Nat) (s : String) : String :=
  String.ofList (List.replicate (width - s.length) ' ') ++ s

end ReviewPipeline.Text
