import ArithLex.Text.Written
import Mathlib.Data.Nat.Digits.Defs
import Mathlib.Tactic.Ring

/-!
# Digits and the numbers they write

Decimal digits write `decimalValue`, hexadecimal ones `hexValue`. A decimal text tells the integer and holds
nothing but digits and perhaps a sign (`decimal_inj`, `notMem_decimal`).
-/

set_option autoImplicit false

namespace ArithLex.Text

/-! ## Decimal digits -/

/-- The number that decimal digits write: each digit times the power of ten of its place. -/
def decimalValue : List Char → Nat
  | [] => 0
  | c :: cs => (c.toNat - '0'.toNat) * 10 ^ cs.length + decimalValue cs

theorem decimalValue_append (cs ds : List Char) :
    decimalValue (cs ++ ds) = decimalValue cs * 10 ^ ds.length + decimalValue ds := by
  induction cs with
  | nil => simp [decimalValue]
  | cons c cs ih =>
    rw [List.cons_append, decimalValue, decimalValue, ih, List.length_append, pow_add]
    ring

theorem ofDigitChars_eq_decimalValue (cs : List Char) : Nat.ofDigitChars 10 cs 0 = decimalValue cs := by
  induction cs with
  | nil => rfl
  | cons c cs ih =>
    rw [Nat.ofDigitChars_cons, Nat.ofDigitChars_eq_ofDigitChars_zero, ih, decimalValue]
    ring

theorem mem_decimal {i : Int} {c : Char} (h : c ∈ (decimal i).toList) : c = '-' ∨ c.isDigit = true := by
  rw [toList_decimal] at h
  by_cases hi : i < 0
  · rw [if_pos hi] at h
    rcases List.mem_cons.1 h with rfl | h
    · exact Or.inl rfl
    · exact Or.inr (Nat.isDigit_of_mem_toDigits (by omega) (by omega) h)
  · rw [if_neg hi] at h
    exact Or.inr (Nat.isDigit_of_mem_toDigits (by omega) (by omega) h)

theorem notMem_decimal {c : Char} (hsign : c ≠ '-') (hdigit : c.isDigit = false) (i : Int) :
    c ∉ (decimal i).toList := by
  intro h
  rcases mem_decimal h with h | h
  · exact hsign h
  · rw [hdigit] at h
    cases h

theorem minus_notMem_toDigits (n : Nat) : '-' ∉ Nat.toDigits 10 n := by
  intro h
  have := Nat.isDigit_of_mem_toDigits (by omega) (by omega) h
  exact absurd this (by decide)

theorem toDigits_inj {m n : Nat} : Nat.toDigits 10 m = Nat.toDigits 10 n ↔ m = n := by
  constructor
  · intro h
    rw [← Nat.ofDigitChars_ten_toDigits (n := m), h, Nat.ofDigitChars_ten_toDigits]
  · rintro rfl
    rfl

theorem decimal_inj {i j : Int} : decimal i = decimal j ↔ i = j := by
  constructor
  · intro h
    have hdigits := congrArg String.toList h
    rw [toList_decimal, toList_decimal] at hdigits
    by_cases hi : i < 0
    · by_cases hj : j < 0
      · rw [if_pos hi, if_pos hj, List.cons_inj_right, toDigits_inj] at hdigits
        omega
      · rw [if_pos hi, if_neg hj] at hdigits
        exact absurd (hdigits ▸ List.mem_cons_self) (minus_notMem_toDigits j.natAbs)
    · by_cases hj : j < 0
      · rw [if_neg hi, if_pos hj] at hdigits
        exact absurd (hdigits ▸ List.mem_cons_self) (minus_notMem_toDigits i.natAbs)
      · rw [if_neg hi, if_neg hj, toDigits_inj] at hdigits
        omega
  · rintro rfl
    rfl

/-! ## Hexadecimal digits -/

/-- The value of a hexadecimal digit of either case. -/
def hexDigitValue (c : Char) : Nat :=
  if c.toNat < 58 then c.toNat - 48 else if c.toNat < 97 then c.toNat - 55 else c.toNat - 87

def hexValue (cs : List Char) : Nat := cs.foldl (fun n c => 16 * n + hexDigitValue c) 0

theorem hexDigitValue_digitChar : ∀ d < 16, hexDigitValue d.digitChar = d := by decide

theorem toNat_toUpper (c : Char) :
    c.toUpper.toNat = if 97 ≤ c.toNat ∧ c.toNat ≤ 122 then c.toNat - 32 else c.toNat := by
  unfold Char.toUpper
  split
  · rename_i h
    have hc : 97 ≤ c.toNat ∧ c.toNat ≤ 122 := h
    have hstep : ('A'.val - 'a'.val).toNat = 4294967264 := by decide
    rw [if_pos hc]
    show (c.val + ('A'.val - 'a'.val)).toNat = c.val.toNat - 32
    have hval : 97 ≤ c.val.toNat ∧ c.val.toNat ≤ 122 := h
    rw [UInt32.toNat_add, hstep]
    omega
  · rename_i h
    exact (if_neg h).symm

theorem hexDigitValue_toUpper (c : Char) : hexDigitValue c.toUpper = hexDigitValue c := by
  unfold hexDigitValue
  rw [toNat_toUpper]
  repeat' split
  all_goals omega

theorem hexValue_concat (cs : List Char) (c : Char) :
    hexValue (cs ++ [c]) = 16 * hexValue cs + hexDigitValue c := by
  rw [hexValue, List.foldl_append]
  rfl

theorem hexValue_map_toUpper (cs : List Char) : hexValue (cs.map Char.toUpper) = hexValue cs := by
  simp only [hexValue, List.foldl_map, hexDigitValue_toUpper]

theorem hexValue_toDigits (n : Nat) : hexValue (Nat.toDigits 16 n) = n := by
  induction n using Nat.strongRecOn with
  | ind n ih =>
    rw [Nat.toDigits_eq_if (by decide)]
    split
    · rename_i hn
      rw [← List.nil_append [n.digitChar], hexValue_concat, hexDigitValue_digitChar n hn]
      exact Nat.zero_add n
    · rw [hexValue_concat, ih (n / 16) (by omega), hexDigitValue_digitChar _ (by omega)]
      omega

theorem hexValue_hexDigits (width n : Nat) : hexValue (hexDigits width n) = n := by
  have hzeros : ∀ k cs, hexValue (List.replicate k '0' ++ cs) = hexValue cs := by
    intro k cs
    induction k with
    | zero => rfl
    | succ k ih =>
      rw [List.replicate_succ, List.cons_append]
      exact ih
  rw [hexDigits, List.leftpad, hzeros, hexValue_toDigits]

theorem length_hexDigits {width n : Nat} (hwidth : 0 < width) (hn : n < 16 ^ width) :
    (hexDigits width n).length = width := by
  rw [hexDigits, List.length_leftpad, Nat.max_eq_left (Nat.toDigits_length 16 n width hwidth hn)]

theorem mem_toDigits {n : Nat} {c : Char} (h : c ∈ Nat.toDigits 16 n) : ∃ d < 16, c = d.digitChar := by
  induction n using Nat.strongRecOn with
  | ind n ih =>
    rw [Nat.toDigits_eq_if (by decide)] at h
    split at h
    · rename_i hn
      exact ⟨n, hn, List.mem_singleton.1 h⟩
    · rcases List.mem_append.1 h with h | h
      · exact ih (n / 16) (by omega) h
      · exact ⟨n % 16, by omega, List.mem_singleton.1 h⟩

theorem mem_hexDigits {width n : Nat} {c : Char} (h : c ∈ hexDigits width n) :
    ∃ d < 16, c = d.digitChar := by
  rcases List.mem_append.1 h with h | h
  · exact ⟨0, by decide, (List.mem_replicate.1 h).2⟩
  · exact mem_toDigits h

theorem toList_codePointName (c : Char) :
    (codePointName c).toList = 'U' :: '+' :: (hexDigits 4 c.toNat).map Char.toUpper := by
  rw [codePointName, String.toList_append]
  exact congrArg (['U', '+'] ++ ·) String.toList_ofList

theorem codePointName_inj {c d : Char} : codePointName c = codePointName d ↔ c = d := by
  constructor
  · intro h
    have hdigits := congrArg String.toList h
    rw [toList_codePointName, toList_codePointName, List.cons_inj_right, List.cons_inj_right] at hdigits
    have hvalue := congrArg hexValue hdigits
    rw [hexValue_map_toUpper, hexValue_map_toUpper, hexValue_hexDigits, hexValue_hexDigits] at hvalue
    exact Char.toNat_inj.1 hvalue
  · rintro rfl
    rfl

end ArithLex.Text
