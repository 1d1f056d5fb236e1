import ArithLex.Proofs.Lexeme.Runs
import Mathlib.Algebra.BigOperators.Group.Finset.Basic

/-!
# Number tokens

A number token stands for a run of digits that cannot be made longer, and its value is the number that
these digits write, however many they are: the sum of the digits by their places (`decimalValue_eq_sum`).
In decimal again it is the digits without the zeros in front (`toDigits_decimalValue`).
-/

set_option autoImplicit false

namespace ArithLex
open Text Lexeme

/-! ## Digits by their places -/

namespace Text

def placeValue (cs : List Char) (i : Nat) : Nat := cs[i]?.elim 0 fun c => c.toNat - '0'.toNat

theorem decimalValue_eq_sum (ds : List Char) :
    decimalValue ds = ∑ j ∈ Finset.range ds.length, placeValue ds j * 10 ^ (ds.length - 1 - j) := by
  induction ds with
  | nil => rfl
  | cons d ds ih =>
    have htail : ∀ j, placeValue (d :: ds) (j + 1) * 10 ^ (ds.length + 1 - 1 - (j + 1)) =
        placeValue ds j * 10 ^ (ds.length - 1 - j) := by
      intro j
      have hplace : ds.length + 1 - 1 - (j + 1) = ds.length - 1 - j := by omega
      rw [hplace]
      rfl
    rw [decimalValue, ih, List.length_cons, Finset.sum_range_succ', Nat.add_comm]
    simp only [htail]
    rfl

theorem toDigits_digit {d : Char} (h : d.isDigit = true) :
    Nat.toDigits 10 (d.toNat - '0'.toNat) = [d] := by
  have hd := CharClass.isDigit_iff.1 h
  have hzero : '0'.toNat = 48 := rfl
  have hchar : Nat.digitChar (d.toNat - '0'.toNat) = d := by
    apply Char.toNat_inj.1
    rw [Nat.toNat_digitChar_of_lt_ten (by omega)]
    omega
  rw [Nat.toDigits_of_lt_base (by omega), hchar]

section Digits
variable {ds : List Char} (hds : ∀ d ∈ ds, d.isDigit = true)
include hds

theorem decimalValue_lt : decimalValue ds < 10 ^ ds.length := by
  induction ds with
  | nil => decide
  | cons d ds ih =>
    have hd := CharClass.isDigit_iff.1 (hds d (by simp))
    have htail := ih fun e he => hds e (by simp [he])
    have hzero : '0'.toNat = 48 := rfl
    have hle : (d.toNat - 48) * 10 ^ ds.length ≤ 9 * 10 ^ ds.length :=
      Nat.mul_le_mul_right _ (by omega)
    rw [decimalValue, List.length_cons, pow_succ, hzero]
    omega

/-! ## Canonical digits -/

theorem toDigits_append {n : Nat} (hn : 0 < n) :
    Nat.toDigits 10 n ++ ds = Nat.toDigits 10 (n * 10 ^ ds.length + decimalValue ds) := by
  induction ds generalizing n with
  | nil => simp [decimalValue]
  | cons d ds ih =>
    have hd := CharClass.isDigit_iff.1 (hds d (by simp))
    have hzero : '0'.toNat = 48 := rfl
    have hjoin := Nat.toDigits_append_toDigits (b := 10) (n := n) (d := d.toNat - '0'.toNat) (by decide)
      hn (by omega)
    calc Nat.toDigits 10 n ++ d :: ds
        = Nat.toDigits 10 n ++ Nat.toDigits 10 (d.toNat - '0'.toNat) ++ ds := by
          rw [toDigits_digit (hds d (by simp)), List.append_assoc, List.singleton_append]
      _ = Nat.toDigits 10 (10 * n + (d.toNat - '0'.toNat)) ++ ds := by rw [hjoin]
      _ = Nat.toDigits 10 ((10 * n + (d.toNat - '0'.toNat)) * 10 ^ ds.length + decimalValue ds) :=
        ih (fun e he => hds e (by simp [he])) (by omega)
      _ = Nat.toDigits 10 (n * 10 ^ (d :: ds).length + decimalValue (d :: ds)) := by
        congr 1
        rw [List.length_cons, decimalValue]
        ring

end Digits

/-- Digits without the zeros in front, and one zero where there is nothing else. -/
def withoutLeadingZeros (ds : List Char) : List Char :=
  if ds.all (· == '0') then ['0'] else ds.dropWhile (· == '0')

theorem withoutLeadingZeros_zero_cons (ds : List Char) :
    withoutLeadingZeros ('0' :: ds) = withoutLeadingZeros ds := by
  simp [withoutLeadingZeros]

theorem withoutLeadingZeros_cons_of_ne {d : Char} (h : d ≠ '0') (ds : List Char) :
    withoutLeadingZeros (d :: ds) = d :: ds := by
  simp [withoutLeadingZeros, h]

theorem decimalValue_zero_cons (ds : List Char) : decimalValue ('0' :: ds) = decimalValue ds := by
  simp [decimalValue]

/-- **The canonical digits** of the number that digits write are these digits without leading zeros. -/
theorem toDigits_decimalValue {ds : List Char} (hds : ∀ d ∈ ds, d.isDigit = true) :
    Nat.toDigits 10 (decimalValue ds) = withoutLeadingZeros ds := by
  induction ds with
  | nil => rfl
  | cons d ds ih =>
    by_cases hd : d = '0'
    · rw [hd, decimalValue_zero_cons, withoutLeadingZeros_zero_cons]
      exact ih fun e he => hds e (by simp [he])
    · have hpos : 0 < d.toNat - '0'.toNat := by
        have hrange := CharClass.isDigit_iff.1 (hds d (by simp))
        have hzero : '0'.toNat = 48 := rfl
        have hne : d.toNat ≠ '0'.toNat := fun h => hd (Char.toNat_inj.1 h)
        omega
      rw [withoutLeadingZeros_cons_of_ne hd, decimalValue,
        ← toDigits_append (fun e he => hds e (by simp [he])) hpos, toDigits_digit (hds d (by simp)),
        List.singleton_append]

theorem decimalValue_replicate_zero_append (k : Nat) (ds : List Char) :
    decimalValue (List.replicate k '0' ++ ds) = decimalValue ds := by
  induction k with
  | zero => rfl
  | succ k ih => rw [List.replicate_succ, List.cons_append, decimalValue_zero_cons, ih]

end Text

/-! ## Tokens -/

theorem placeValue_append {before ds after : List Char} {j : Nat} (hj : j < ds.length) :
    placeValue (before ++ (ds ++ after)) (before.length + j) = placeValue ds j := by
  rw [placeValue, placeValue, List.getElem?_append_right (by omega), Nat.add_sub_cancel_left,
    List.getElem?_append_left hj]

theorem toList_decimal_natCast (n : Nat) : (decimal n).toList = Nat.toDigits 10 n := by
  rw [toList_decimal, if_neg (by omega), Int.natAbs_natCast]

/-- A number token is a run of digits of the source, with the text before it and the text behind it. -/
theorem exists_of_mem_tokenize {source filename : String} {t : Token} (ht : t ∈ tokenize source filename)
    (hkind : t.kind = .number) : ∃ before ds after, lexemes source.toList = before ++ ofDigits ds :: after ∧
      source.toList = textOf before ++ (ds ++ textOf after) ∧ (∀ d ∈ ds, d.isDigit = true) ∧
      t = ⟨.number, ⟨(textOf before).length, ((textOf before).length + ds.length : Nat),
        String.ofList ds⟩, some (decimalValue ds)⟩ := by
  rw [tokenize_eq] at ht
  rcases List.mem_append.1 ht with ht | ht
  · obtain ⟨before, ds, after, hcs, rfl⟩ := exists_lexemes_of_number ht hkind
    have hsplits := splits_lexemes source.toList
    rw [hcs] at hsplits
    refine ⟨before, ds, after, hcs, ?_, ?_, token_ofDigits ds _⟩
    · rw [← hsplits.text, textOf_append, textOf_cons]
      rfl
    · exact (formed_ofDigits_iff.1 (hsplits.formed _ (by simp))).2
  · rw [List.mem_singleton.1 ht] at hkind
    cases hkind

theorem value_eq_none_of_mem_tokenize {source filename : String} {t : Token}
    (ht : t ∈ tokenize source filename) (hkind : t.kind ≠ .number) : t.value = none := by
  rw [tokenize_eq] at ht
  rcases List.mem_append.1 ht with ht | ht
  · obtain ⟨x, hx, n, rfl⟩ := exists_of_mem_place ht
    have hformed := (splits_lexemes source.toList).formed x hx
    cases hformed with
    | digits _ _ => exact absurd rfl hkind
    | blank _ | punctuation _ | stray _ => rfl
  · rw [List.mem_singleton.1 ht]
    rfl

theorem tokenize_zeros_decimal (filename : String) (n k : Nat) :
    tokenize (String.ofList (List.replicate k '0') ++ decimal n) filename =
      [⟨.number, ⟨0, (String.ofList (List.replicate k '0') ++ decimal n).length,
        String.ofList (List.replicate k '0') ++ decimal n⟩, some n⟩, .endMarker] := by
  have hchars : (String.ofList (List.replicate k '0') ++ decimal n).toList =
      List.replicate k '0' ++ Nat.toDigits 10 n := by
    rw [String.toList_append, String.toList_ofList, toList_decimal_natCast]
  have hformed : (ofDigits (List.replicate k '0' ++ Nat.toDigits 10 n)).Formed := by
    refine formed_ofDigits_iff.2 ⟨by simp [Nat.toDigits_ne_nil], fun d hd => ?_⟩
    rcases List.mem_append.1 hd with hd | hd
    · rw [List.eq_of_mem_replicate hd]
      rfl
    · exact Nat.isDigit_of_mem_toDigits (by omega) (by omega) hd
  have hvalue : decimalValue (List.replicate k '0' ++ Nat.toDigits 10 n) = n := by
    rw [decimalValue_replicate_zero_append, ← ofDigitChars_eq_decimalValue,
      Nat.ofDigitChars_ten_toDigits]
  rw [tokenize_eq, hchars, lexemes_digits hformed, place_cons, place_nil, token_ofDigits, hvalue,
    ← String.length_toList, ← hchars, String.ofList_toList, Nat.zero_add]
  rfl

/-- **Number tokens are maximal and exact.** The span of a number token is a run of digits that cannot be made
longer, its value is their sum by places, and the value in decimal is the text without the zeros in front; no
other token has a value. Conversely any number in decimal, with any zeros in front, is one token of this value. -/
theorem numbers_maximal_and_exact (source filename : String) :
    (∀ t ∈ tokenize source filename, t.kind = .number → ∃ s e v : Nat,
      t.span.start = s ∧ t.span.stop = e ∧ t.value = some (v : Int) ∧ MaximalRun source.toList s e ∧
        t.literal.toList = (source.toList.drop s).take (e - s) ∧
        v = ∑ j ∈ Finset.range (e - s), placeValue source.toList (s + j) * 10 ^ (e - s - 1 - j) ∧
        v < 10 ^ (e - s) ∧ (decimal v).toList = withoutLeadingZeros t.literal.toList) ∧
      (∀ t ∈ tokenize source filename, t.kind ≠ .number → t.value = none) ∧
      ∀ n k : Nat, let text := String.ofList (List.replicate k '0') ++ decimal n
        tokenize text filename = [⟨.number, ⟨0, text.length, text⟩, some n⟩, .endMarker] := by
  refine ⟨fun t ht hkind => ?_, fun t => value_eq_none_of_mem_tokenize, fun n k =>
    tokenize_zeros_decimal filename n k⟩
  obtain ⟨before, ds, after, hlexemes, hsource, hdigits, rfl⟩ := exists_of_mem_tokenize ht hkind
  have hlength : (textOf before).length + ds.length - (textOf before).length = ds.length := by omega
  refine ⟨(textOf before).length, (textOf before).length + ds.length, decimalValue ds, rfl, rfl, rfl,
    maximalRun_of_lexemes hlexemes, ?_, ?_, ?_, ?_⟩
  · rw [Token.literal, String.toList_ofList, hlength, hsource, List.drop_left, List.take_left]
  · rw [hlength, decimalValue_eq_sum]
    refine Finset.sum_congr rfl fun j hj => ?_
    rw [hsource, placeValue_append (Finset.mem_range.1 hj)]
  · rw [hlength]
    exact decimalValue_lt hdigits
  · rw [toList_decimal_natCast, toDigits_decimalValue hdigits, Token.literal, String.toList_ofList]

/-- A number with zeros in front, and the digit of another script before it, which is not part of it. -/
theorem numbers_maximal_and_exact_of_zeros :
    let t : Token := ⟨.number, ⟨1, 4, "007"⟩, some 7⟩
    let u : Token := ⟨.invalid, ⟨0, 1, "٣"⟩, none⟩
    (t ∈ tokenize "٣007" "sum" ∧ t.kind = .number ∧ ∃ s e v : Nat,
      t.span.start = s ∧ t.span.stop = e ∧ t.value = some (v : Int) ∧ MaximalRun "٣007".toList s e ∧
        t.literal.toList = ("٣007".toList.drop s).take (e - s) ∧
        v = ∑ j ∈ Finset.range (e - s), placeValue "٣007".toList (s + j) * 10 ^ (e - s - 1 - j) ∧
        v < 10 ^ (e - s) ∧ (decimal v).toList = withoutLeadingZeros t.literal.toList) ∧
      (u ∈ tokenize "٣007" "sum" ∧ u.kind ≠ .number ∧ u.value = none) := by
  intro t u
  have ht : t ∈ tokenize "٣007" "sum" := by decide
  have hu : u ∈ tokenize "٣007" "sum" := by decide
  have hkind : u.kind ≠ .number := by decide
  obtain ⟨hnumber, hother, -⟩ := numbers_maximal_and_exact "٣007" "sum"
  exact ⟨⟨ht, rfl, hnumber t ht rfl⟩, hu, hkind, hother u hu hkind⟩

end ArithLex
