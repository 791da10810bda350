import Mathlib.Algebra.Group.Nat.Defs
import Mathlib.Data.List.Basic
import Mathlib.Tactic.Common
import Rtnetlink.Text.Numeral

/-!
# Which texts are numerals

Numerals are read from the left, digit by digit.  Here it is said what is accepted, and with which
value, without a reader: a digit is a character of a given row, and a numeral is a non-empty row of
digits.

* `Text.Numeral.read?_eq_some_iff`: what is read, and as what number;
* `Text.Numeral.isNumeral_decimalDigits`, `Text.Numeral.isNumeral_hexByte`: what is written.
-/

namespace Rtnetlink.Text

namespace Numeral

variable {base n : Nat} {c : Char} {digits : List Char}

/-- The digits of base sixteen, by their values. -/
def lowerDigits : List Char :=
  ['0', '1', '2', '3', '4', '5', '6', '7', '8', '9', 'a', 'b', 'c', 'd', 'e', 'f']

/-- The same digits in upper case. -/
def upperDigits : List Char :=
  ['0', '1', '2', '3', '4', '5', '6', '7', '8', '9', 'A', 'B', 'C', 'D', 'E', 'F']

/-- The value of a digit, which is its place among the digits; that of any other character is
sixteen. -/
def digitValue (c : Char) : Nat := min (lowerDigits.idxOf c) (upperDigits.idxOf c)

/-- A numeral is a non-empty row of digits. -/
def IsNumeral (base : Nat) (digits : List Char) : Prop :=
  digits ≠ [] ∧ ∀ c ∈ digits, digitValue c < base

/-- The number that digits make, the first of them being the most significant. -/
def value (base : Nat) (digits : List Char) : Nat :=
  digits.foldl (fun n c => n * base + digitValue c) 0

instance (base : Nat) : DecidablePred (IsNumeral base) := fun digits =>
  decidable_of_iff (digits ≠ [] ∧ digits.all fun c => digitValue c < base) (by simp [IsNumeral])

/-! ## Digits -/

/-- Only ASCII characters are digits. -/
lemma digitValue_of_le (h : 128 ≤ c.toNat) : digitValue c = 16 := by
  have hascii : ∀ d ∈ lowerDigits ++ upperDigits, d.toNat < 128 := by
    simp [lowerDigits, upperDigits]
  have hlower : c ∉ lowerDigits := fun hc =>
    Nat.not_lt.2 h (hascii c (List.mem_append_left _ hc))
  have hupper : c ∉ upperDigits := fun hc =>
    Nat.not_lt.2 h (hascii c (List.mem_append_right _ hc))
  rw [digitValue, List.idxOf_eq_length_iff.2 hlower, List.idxOf_eq_length_iff.2 hupper]
  rfl

/-- What holds of the ASCII characters, and of those behind them, holds of all. -/
lemma forall_char {P : Char → Prop} (hascii : ∀ n : Fin 128, P (Char.ofNat n))
    (hbehind : ∀ c : Char, 128 ≤ c.toNat → P c) (c : Char) : P c := by
  by_cases hc : c.toNat < 128
  · have hP := hascii ⟨c.toNat, hc⟩
    rwa [Char.ofNat_toNat] at hP
  · exact hbehind c (Nat.not_lt.1 hc)

/-- The digits that are read are those of the two rows. -/
lemma digit?_eq (c : Char) :
    digit? c = if digitValue c < 16 then some (digitValue c) else none := by
  revert c
  refine forall_char (by decide +kernel) fun c hc => ?_
  have hbehind : ∀ d : Char, d.toNat < 128 → ¬ c ≤ d := fun d hd hle =>
    Nat.not_lt.2 hc (Nat.lt_of_le_of_lt (UInt32.le_iff_toNat_le.1 hle) hd)
  rw [digitValue_of_le hc, if_neg (Nat.lt_irrefl _), digit?,
    if_neg fun h => hbehind '9' (by decide) h.2, if_neg fun h => hbehind 'f' (by decide) h.2,
    if_neg fun h => hbehind 'F' (by decide) h.2]

lemma digitOf?_eq (hbase : base ≤ 16) (c : Char) :
    digitOf? base c = if digitValue c < base then some (digitValue c) else none := by
  rw [digitOf?, digit?_eq]
  by_cases hc : digitValue c < base
  · simp [hc, Nat.lt_of_lt_of_le hc hbase]
  · rw [if_neg hc]
    split <;> simp [Nat.not_lt.1 hc]

lemma digitValue_eq_zero_iff (c : Char) : digitValue c = 0 ↔ c = '0' := by
  revert c
  refine forall_char (by decide +kernel) fun c hc => ?_
  rw [digitValue_of_le hc]
  refine ⟨fun h => (by cases h), ?_⟩
  rintro rfl
  exact absurd hc (by decide)

/-! ## Numerals -/

lemma readFrom?_eq_some_iff (hbase : base ≤ 16) (start : Nat) :
    readFrom? base start digits = some n ↔ (∀ c ∈ digits, digitValue c < base) ∧
      digits.foldl (fun n c => n * base + digitValue c) start = n := by
  induction digits generalizing start with
  | nil => simp [readFrom?]
  | cons c digits ih =>
    rw [readFrom?, digitOf?_eq hbase, List.forall_mem_cons, List.foldl_cons]
    by_cases hc : digitValue c < base
    · rw [if_pos hc, Option.bind_some, ih]
      simp [hc]
    · simp [hc]

/-- What is read is a numeral, and its value. -/
lemma read?_eq_some_iff (hbase : base ≤ 16) :
    read? base digits = some n ↔ IsNumeral base digits ∧ value base digits = n := by
  cases digits with
  | nil => simp [read?, IsNumeral]
  | cons c digits =>
    rw [read?, readFrom?_eq_some_iff hbase, IsNumeral, value]
    · simp
    · exact List.cons_ne_nil _ _

/-- Digits in front of others count for at least so much. -/
lemma le_foldl (base start : Nat) (digits : List Char) :
    start * base ^ digits.length ≤ digits.foldl (fun n c => n * base + digitValue c) start := by
  induction digits generalizing start with
  | nil => simp
  | cons c digits ih =>
    rw [List.length_cons, List.foldl_cons, Nat.pow_succ', ← Nat.mul_assoc]
    exact Nat.le_trans (Nat.mul_le_mul_right _ (Nat.le_add_right ..)) (ih _)

lemma foldl_lt (start : Nat) (hdigits : ∀ c ∈ digits, digitValue c < base) :
    digits.foldl (fun n c => n * base + digitValue c) start
      < (start + 1) * base ^ digits.length := by
  induction digits generalizing start with
  | nil => simp
  | cons c digits ih =>
    obtain ⟨hc, hdigits⟩ := List.forall_mem_cons.1 hdigits
    have hstart : start * base + digitValue c + 1 ≤ (start + 1) * base := by
      rw [Nat.add_mul, Nat.one_mul]
      omega
    rw [List.length_cons, List.foldl_cons, Nat.pow_succ', ← Nat.mul_assoc]
    exact Nat.lt_of_lt_of_le (ih _ hdigits) (Nat.mul_le_mul_right _ hstart)

lemma value_lt_pow (hdigits : IsNumeral base digits) :
    value base digits < base ^ digits.length := by
  simpa [value] using foldl_lt 0 hdigits.2

/-- Without a leading zero, the first digit counts. -/
lemma pow_le_value (hdigits : IsNumeral base digits) (hzero : digits.head? ≠ some '0') :
    base ^ (digits.length - 1) ≤ value base digits := by
  obtain ⟨c, digits, rfl⟩ := List.exists_cons_of_ne_nil hdigits.1
  have hc : 1 ≤ digitValue c := by
    refine Nat.one_le_iff_ne_zero.2 fun hvalue => hzero ?_
    rw [List.head?_cons, (digitValue_eq_zero_iff c).1 hvalue]
  have hle := le_foldl base (digitValue c) digits
  rw [value, List.foldl_cons, Nat.zero_mul, Nat.zero_add, List.length_cons, Nat.add_sub_cancel]
  exact Nat.le_trans (Nat.le_mul_of_pos_left _ hc) hle

/-! ## What is written -/

lemma digitOf?_hexDigit {value : Nat} (hvalue : value < base) (hbase : base ≤ 16) :
    digitOf? base (hexDigit value) = some value := by
  have hall : ∀ value : Fin 16, digit? (hexDigit value) = some value.val := by decide
  simp [digitOf?, hall ⟨value, by omega⟩, hvalue]

lemma readFrom?_append (base start : Nat) (digits more : List Char) :
    readFrom? base start (digits ++ more)
      = (readFrom? base start digits).bind (readFrom? base · more) := by
  induction digits generalizing start with
  | nil => rfl
  | cons c rest ih => simp [readFrom?, ih, Option.bind_assoc]

lemma decimalDigits_ne_nil (n : Nat) : decimalDigits n ≠ [] := by
  unfold decimalDigits
  split <;> simp

lemma readFrom?_decimalDigits (n : Nat) : readFrom? 10 0 (decimalDigits n) = some n := by
  fun_induction decimalDigits n with
  | case1 n hsmall => simp [readFrom?, digitOf?_hexDigit hsmall (by decide)]
  | case2 n hlarge ih =>
    have hlow : n % 10 < 10 := Nat.mod_lt _ (by decide)
    simp only [readFrom?_append, ih, Option.bind_some, readFrom?,
      digitOf?_hexDigit hlow (by decide), Option.some.injEq]
    omega

lemma read?_decimalDigits (n : Nat) : read? 10 (decimalDigits n) = some n := by
  rw [← readFrom?_decimalDigits n]
  unfold read?
  split
  · next hnil => exact absurd hnil (decimalDigits_ne_nil n)
  · rfl

lemma read?_hexByte (byte : UInt8) : read? 16 (hexByte byte) = some byte.toNat := by
  have hbyte := byte.toNat_lt
  have hhigh : byte.toNat / 16 < 16 := by omega
  have hlow : byte.toNat % 16 < 16 := Nat.mod_lt _ (by decide)
  simp only [hexByte, read?, readFrom?, digitOf?_hexDigit hhigh (by decide),
    digitOf?_hexDigit hlow (by decide), Option.bind_some, Option.some.injEq]
  omega

lemma isNumeral_decimalDigits (n : Nat) :
    IsNumeral 10 (decimalDigits n) ∧ value 10 (decimalDigits n) = n :=
  (read?_eq_some_iff (by decide)).1 (read?_decimalDigits n)

/-- Only zero is written with a zero in front. -/
lemma head?_decimalDigits (n : Nat) (hzero : (decimalDigits n).head? = some '0') :
    decimalDigits n = ['0'] := by
  fun_induction decimalDigits n with
  | case1 n hsmall => simpa using hzero
  | case2 n hlarge ih =>
    obtain ⟨c, digits, hdigits⟩ := List.exists_cons_of_ne_nil (decimalDigits_ne_nil (n / 10))
    have hvalue := (isNumeral_decimalDigits (n / 10)).2
    rw [hdigits] at ih hzero hvalue
    rw [ih hzero] at hvalue
    have hquotient : 0 = n / 10 := hvalue
    omega

lemma isNumeral_hexByte (byte : UInt8) :
    IsNumeral 16 (hexByte byte) ∧ value 16 (hexByte byte) = byte.toNat :=
  (read?_eq_some_iff (by decide)).1 (read?_hexByte byte)

/-- Bytes are written in lower case. -/
lemma mem_lowerDigits_of_hexByte {byte : UInt8} (h : c ∈ hexByte byte) : c ∈ lowerDigits := by
  have hall : ∀ n : Fin 16, hexDigit n ∈ lowerDigits := by decide
  have hhigh : byte.toNat / 16 < 16 := by
    have hbyte := byte.toNat_lt
    omega
  rcases List.mem_pair.1 h with rfl | rfl
  · exact hall ⟨_, hhigh⟩
  · exact hall ⟨_, Nat.mod_lt _ (by decide)⟩

/-- A character that is no digit does not occur. -/
lemma IsNumeral.not_mem (hdigits : IsNumeral base digits) (hc : base ≤ digitValue c) :
    c ∉ digits :=
  fun h => Nat.not_lt.2 hc (hdigits.2 c h)

end Numeral

end Rtnetlink.Text
