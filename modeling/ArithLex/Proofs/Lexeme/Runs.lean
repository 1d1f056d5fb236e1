import ArithLex.Proofs.Lexer.Concatenation
import Mathlib.Data.Finset.Prod

/-!
# Numbers and runs of digits

The numbers of a text are its runs of digits, each taken as far as it goes in both directions. What runs
there are is said by the indices of the characters alone, without the lexer (`MaximalRun`, `digitRuns`).
-/

set_option autoImplicit false

namespace ArithLex
open Lexeme

def digitAt (cs : List Char) (i : Nat) : Bool := cs[i]?.any Char.isDigit

/-- From one index up to another there are digits, and none before the one or at the other. -/
structure MaximalRun (cs : List Char) (start stop : Nat) : Prop where
  lt : start < stop
  digits : ∀ i < stop, start ≤ i → digitAt cs i = true
  before : 0 < start → digitAt cs (start - 1) = false
  behind : digitAt cs stop = false

instance (cs : List Char) (start stop : Nat) : Decidable (MaximalRun cs start stop) :=
  decidable_of_iff (start < stop ∧ (∀ i < stop, start ≤ i → digitAt cs i = true) ∧
      (0 < start → digitAt cs (start - 1) = false) ∧ digitAt cs stop = false)
    ⟨fun ⟨h1, h2, h3, h4⟩ => ⟨h1, h2, h3, h4⟩, fun ⟨h1, h2, h3, h4⟩ => ⟨h1, h2, h3, h4⟩⟩

/-- The runs of digits of a text, by the indices where they begin and end. -/
def digitRuns (cs : List Char) : Finset (Nat × Nat) :=
  (Finset.range cs.length ×ˢ Finset.range (cs.length + 1)).filter fun r => MaximalRun cs r.1 r.2

theorem lt_length_of_digitAt {cs : List Char} {i : Nat} (h : digitAt cs i = true) : i < cs.length := by
  by_contra hlt
  rw [digitAt, List.getElem?_eq_none (by omega)] at h
  cases h

theorem MaximalRun.stop_le {cs : List Char} {start stop : Nat} (h : MaximalRun cs start stop) :
    stop ≤ cs.length := by
  have hlt := h.lt
  have := lt_length_of_digitAt (h.digits (stop - 1) (by omega) (by omega))
  omega

theorem mem_digitRuns {cs : List Char} {r : Nat × Nat} : r ∈ digitRuns cs ↔ MaximalRun cs r.1 r.2 := by
  unfold digitRuns
  rw [Finset.mem_filter, Finset.mem_product, Finset.mem_range, Finset.mem_range]
  refine and_iff_right_of_imp fun h => ?_
  have := h.lt
  have := h.stop_le
  omega

/-! ## A run cuts a text in three -/

section Parts
variable {before ds after : List Char}

theorem digitAt_before {i : Nat} (h : i < before.length) (ds : List Char) :
    digitAt (before ++ ds) i = digitAt before i := by
  rw [digitAt, digitAt, List.getElem?_append_left h]

theorem digitAt_behind (before ds : List Char) (i : Nat) :
    digitAt (before ++ ds) (before.length + i) = digitAt ds i := by
  rw [digitAt, digitAt, List.getElem?_append_right (by omega), Nat.add_sub_cancel_left]

theorem digitAt_eq_true_iff {cs : List Char} {i : Nat} :
    digitAt cs i = true ↔ ∃ c, cs[i]? = some c ∧ c.isDigit = true := Option.any_eq_true ..

theorem digitAt_last (cs : List Char) :
    digitAt cs (cs.length - 1) = true ↔ ∃ c ∈ cs.getLast?, c.isDigit = true := by
  rw [digitAt_eq_true_iff, List.getLast?_eq_getElem?]
  rfl

theorem digitAt_zero (cs : List Char) : digitAt cs 0 = true ↔ ∃ c ∈ cs.head?, c.isDigit = true := by
  rw [digitAt_eq_true_iff, List.head?_eq_getElem?]
  rfl

theorem maximalRun_append_iff :
    MaximalRun (before ++ (ds ++ after)) before.length (before.length + ds.length) ↔
      (ofDigits ds).Formed ∧ (¬ ∃ c ∈ before.getLast?, c.isDigit = true) ∧
        ¬ ∃ c ∈ after.head?, c.isDigit = true := by
  have hend : digitAt (before ++ (ds ++ after)) (before.length + ds.length) = digitAt after 0 := by
    rw [digitAt_behind, ← Nat.add_zero ds.length, digitAt_behind]
  have hstart : 0 < before.length → digitAt (before ++ (ds ++ after)) (before.length - 1) =
      digitAt before (before.length - 1) := fun h => digitAt_before (by omega) _
  have hinside : ∀ i < ds.length,
      digitAt (before ++ (ds ++ after)) (before.length + i) = digitAt ds i := by
    intro i hi
    rw [digitAt_behind, digitAt_before hi]
  rw [formed_ofDigits_iff, ← digitAt_last, ← digitAt_zero, Bool.not_eq_true, Bool.not_eq_true]
  constructor
  · intro h
    have hlt := h.lt
    refine ⟨⟨List.length_pos_iff.1 (by omega), fun d hd => ?_⟩, ?_, hend ▸ h.behind⟩
    · obtain ⟨i, hi, rfl⟩ := List.mem_iff_getElem.1 hd
      have hdigit := h.digits (before.length + i) (by omega) (by omega)
      rw [hinside i hi, digitAt_eq_true_iff] at hdigit
      obtain ⟨c, hc, hdigit⟩ := hdigit
      rw [List.getElem?_eq_getElem hi, Option.some.injEq] at hc
      rwa [hc]
    · rcases Nat.eq_zero_or_pos before.length with hzero | hpos
      · rw [List.length_eq_zero_iff.1 hzero]
        rfl
      · rw [← hstart hpos]
        exact h.before hpos
  · rintro ⟨⟨hne, hdigits⟩, hbefore, hafter⟩
    have hpos := List.length_pos_iff.2 hne
    refine ⟨by omega, fun i hi hle => ?_, fun hpos => ?_, ?_⟩
    · obtain ⟨j, rfl⟩ := Nat.exists_eq_add_of_le hle
      have hj : j < ds.length := by omega
      rw [hinside j hj, digitAt_eq_true_iff]
      exact ⟨ds[j], List.getElem?_eq_getElem hj, hdigits _ (List.getElem_mem hj)⟩
    · rw [hstart hpos, hbefore]
    · rw [hend, hafter]

/-- A run cuts a text in three: what is before it, itself, and what is behind it. -/
theorem MaximalRun.exists_append {cs : List Char} {start stop : Nat} (h : MaximalRun cs start stop) :
    ∃ before ds after, cs = before ++ (ds ++ after) ∧ start = before.length ∧
      stop = before.length + ds.length := by
  have hlt := h.lt
  have hle := h.stop_le
  have hdrop : cs.drop stop = (cs.drop start).drop (stop - start) := by
    rw [List.drop_drop]
    congr 1
    omega
  refine ⟨cs.take start, (cs.drop start).take (stop - start), cs.drop stop, ?_, ?_, ?_⟩
  · rw [hdrop, List.take_append_drop, List.take_append_drop]
  · rw [List.length_take]
    omega
  · rw [List.length_take, List.length_take, List.length_drop]
    omega

end Parts

/-! ## Numbers are runs -/

theorem lexemes_digits {ds : List Char} (h : (ofDigits ds).Formed) : lexemes ds = [ofDigits ds] := by
  have hsplits : Splits [ofDigits ds] ds := by
    refine ⟨fun x hx => ?_, .singleton _, List.append_nil ds⟩
    rwa [List.mem_singleton.1 hx]
  exact hsplits.eq_lexemes.symm

theorem maximalRun_of_lexemes {cs ds : List Char} {before after : List Lexeme}
    (h : lexemes cs = before ++ ofDigits ds :: after) :
    MaximalRun cs (textOf before).length ((textOf before).length + ds.length) := by
  have hsplits := splits_lexemes cs
  rw [h] at hsplits
  obtain ⟨hbefore, hrest, hseam⟩ := hsplits.parts
  have hcs : cs = textOf before ++ (ds ++ textOf after) := by
    rw [← hsplits.text, textOf_append, textOf_cons]
    rfl
  rw [hcs, maximalRun_append_iff]
  refine ⟨hrest.formed _ (by simp), fun hdigit => ?_, fun hdigit => ?_⟩
  · obtain ⟨x, hx, hkind⟩ := hbefore.getLast?_isDigit.2 hdigit
    exact hseam x hx _ rfl ⟨hkind, rfl⟩
  · obtain ⟨y, hy, hkind⟩ := hrest.tail.head?_isDigit.2 hdigit
    exact hrest.apart.rel_head? hy ⟨rfl, hkind⟩

theorem MaximalRun.exists_lexemes {cs : List Char} {start stop : Nat} (h : MaximalRun cs start stop) :
    ∃ before ds after, lexemes cs = before ++ ofDigits ds :: after ∧
      start = (textOf before).length ∧ stop = (textOf before).length + ds.length := by
  obtain ⟨before, ds, after, rfl, rfl, rfl⟩ := h.exists_append
  obtain ⟨hformed, hbefore, hafter⟩ := maximalRun_append_iff.1 h
  obtain ⟨d, hd⟩ := List.exists_mem_of_ne_nil ds (formed_ofDigits_iff.1 hformed).1
  refine ⟨lexemes before, ds, lexemes after, ?_, by rw [textOf_lexemes], by rw [textOf_lexemes]⟩
  have hlast : ¬ ((∃ c ∈ ds.getLast?, c.isDigit = true) ∧ ∃ c ∈ after.head?, c.isDigit = true) :=
    fun hboth => hafter hboth.2
  rw [lexemes_append fun hboth => hbefore hboth.1, lexemes_append hlast, lexemes_digits hformed]
  rfl

theorem exists_lexemes_of_number {cs : List Char} {t : Token} (ht : t ∈ place 0 (lexemes cs))
    (hkind : t.kind = .number) : ∃ before ds after, lexemes cs = before ++ ofDigits ds :: after ∧
      t = (ofDigits ds).token (textOf before).length := by
  obtain ⟨before, x, after, hcs, rfl⟩ := exists_append_of_mem_place ht
  have hformed := (splits_lexemes cs).formed x (by rw [hcs]; simp)
  obtain ⟨ds, rfl⟩ := hformed.eq_ofDigits hkind
  exact ⟨before, ds, after, hcs, by rw [Nat.zero_add]⟩

/-- **The number tokens of a text span its runs of digits**, and no other part. -/
theorem exists_number_iff {cs : List Char} {start stop : Nat} :
    (∃ t ∈ place 0 (lexemes cs), t.kind = .number ∧ t.span.start = start ∧ t.span.stop = stop) ↔
      MaximalRun cs start stop := by
  constructor
  · rintro ⟨t, ht, hkind, hstart, hstop⟩
    obtain ⟨before, ds, after, hcs, rfl⟩ := exists_lexemes_of_number ht hkind
    rw [← Int.ofNat_inj.1 hstart, ← Int.ofNat_inj.1 hstop]
    exact maximalRun_of_lexemes hcs
  · intro h
    obtain ⟨before, ds, after, hcs, rfl, rfl⟩ := h.exists_lexemes
    have hmem := mem_place 0 before (ofDigits ds) after
    rw [← hcs, Nat.zero_add] at hmem
    exact ⟨_, hmem, rfl, rfl, rfl⟩

end ArithLex
