import ArithLex.Lexeme
import Mathlib.Data.List.Chain

/-!
# Splitting a text into lexemes

* `Lexeme.Formed` : what a lexeme can be, one rule for each class of characters;
* `Splits xs cs` : `xs` cuts `cs` into formed lexemes, and no two numbers meet (`Splits.append`);
* `splits_iff` : the lexemes of a text are the only way to split it.
-/

set_option autoImplicit false

namespace ArithLex

/-- The lexemes of a text, in order. -/
def lexemes : List Char → List Lexeme
  | [] => []
  | c :: cs => (Lexeme.read c cs).1 :: lexemes (Lexeme.read c cs).2
termination_by cs => cs.length
decreasing_by exact Lexeme.length_rest_lt c cs

@[simp] theorem lexemes_nil : lexemes [] = [] := by rw [lexemes]

theorem lexemes_cons (c : Char) (cs : List Char) :
    lexemes (c :: cs) = (Lexeme.read c cs).1 :: lexemes (Lexeme.read c cs).2 := by rw [lexemes]

namespace Lexeme

/-- What a lexeme can be: a run of digits with its value, or one character of another class. -/
inductive Formed : Lexeme → Prop
  | digits {ds : List Char} : ds ≠ [] → (∀ d ∈ ds, d.isDigit = true) → Formed (ofDigits ds)
  | blank {c : Char} : CharClass.of c = .blank → Formed (single .whitespace c)
  | punctuation {c : Char} {k : Kind} : CharClass.of c = .punctuation k → Formed (single k c)
  | stray {c : Char} : CharClass.of c = .stray → Formed (single .invalid c)

/-- Two lexemes may stand side by side: they are not both numbers. -/
def Apart (x y : Lexeme) : Prop := ¬ (x.kind = .number ∧ y.kind = .number)

/-- The text that lexemes were cut from. -/
def textOf (xs : List Lexeme) : List Char := xs.flatMap text

@[simp] theorem textOf_nil : textOf [] = [] := rfl

@[simp] theorem textOf_cons (x : Lexeme) (xs : List Lexeme) : textOf (x :: xs) = x.text ++ textOf xs :=
  List.flatMap_cons

@[simp] theorem textOf_append (xs ys : List Lexeme) : textOf (xs ++ ys) = textOf xs ++ textOf ys :=
  List.flatMap_append

/-! ## Formed lexemes -/

theorem Formed.text_ne_nil {x : Lexeme} (hx : x.Formed) : x.text ≠ [] := by
  cases hx with
  | digits hne _ => exact hne
  | blank _ | punctuation _ | stray _ => exact List.cons_ne_nil _ _

theorem ne_of_ofChar? {c : Char} {k k' : Kind} (h : Kind.ofChar? c = some k) (hk' : k'.char? = none) :
    k ≠ k' := by
  rintro rfl
  rw [Kind.char?_of_ofChar? h] at hk'
  cases hk'

theorem Formed.isDigit_iff {x : Lexeme} (hx : x.Formed) {c : Char} (hc : c ∈ x.text) :
    c.isDigit = true ↔ x.kind = .number := by
  rw [← CharClass.of_eq_digit_iff]
  cases hx with
  | digits _ hds => exact iff_of_true (CharClass.of_eq_digit_iff.2 (hds c hc)) rfl
  | punctuation h =>
    obtain rfl := List.mem_singleton.1 hc
    exact iff_of_false (by rw [h]; simp) (ne_of_ofChar? (CharClass.of_eq_punctuation_iff.1 h) rfl)
  | blank h | stray h =>
    obtain rfl := List.mem_singleton.1 hc
    exact iff_of_false (by rw [h]; simp) (by simp [single])

theorem formed_ofDigits_iff {ds : List Char} :
    (ofDigits ds).Formed ↔ ds ≠ [] ∧ ∀ d ∈ ds, d.isDigit = true := by
  refine ⟨fun h => ⟨h.text_ne_nil, fun d hd => (h.isDigit_iff hd).2 rfl⟩, fun h => ?_⟩
  exact .digits h.1 h.2

theorem formed_ofDigits_append {ds es : List Char} (hds : (ofDigits ds).Formed)
    (hes : (ofDigits es).Formed) : (ofDigits (ds ++ es)).Formed := by
  rw [formed_ofDigits_iff] at hds hes ⊢
  refine ⟨by simp [hds.1], fun d hd => ?_⟩
  rcases List.mem_append.1 hd with hd | hd
  · exact hds.2 d hd
  · exact hes.2 d hd

theorem Formed.eq_ofDigits {x : Lexeme} (hx : x.Formed) (h : x.kind = .number) :
    ∃ ds, x = ofDigits ds := by
  cases hx with
  | digits _ _ => exact ⟨_, rfl⟩
  | punctuation hc => exact absurd h (ne_of_ofChar? (CharClass.of_eq_punctuation_iff.1 hc) rfl)
  | blank _ | stray _ => cases h

theorem isChain_apart_of_map_kind {xs ys : List Lexeme} (h : xs.map kind = ys.map kind)
    (hx : xs.IsChain Apart) : ys.IsChain Apart := by
  have hkinds : (xs.map kind).IsChain fun j k => ¬ (j = .number ∧ k = .number) :=
    (List.isChain_map kind).2 hx
  rw [h] at hkinds
  exact (List.isChain_map kind).1 hkinds

/-! ## Reading one lexeme -/

theorem formed_read (c : Char) (cs : List Char) : (read c cs).1.Formed := by
  unfold read
  split
  · rename_i h
    refine .digits (List.cons_ne_nil _ _) fun d hd => ?_
    rcases List.mem_cons.1 hd with rfl | hd
    · exact CharClass.of_eq_digit_iff.1 h
    · exact List.all_eq_true.1 List.all_takeWhile d hd
  · rename_i h
    exact .blank h
  · rename_i h
    exact .punctuation h
  · rename_i h
    exact .stray h

theorem isDigit_head?_rest {c : Char} {cs : List Char} (h : (read c cs).1.kind = .number) :
    ∀ d ∈ (read c cs).2.head?, d.isDigit = false := by
  have hc : CharClass.of c = .digit := by
    rw [CharClass.of_eq_digit_iff, (formed_read c cs).isDigit_iff, h]
    have hlen := congrArg List.head? (read_text_append c cs)
    rw [List.head?_append_of_ne_nil _ (read_text_ne_nil c cs)] at hlen
    exact List.mem_of_mem_head? hlen
  intro d hd
  have hstop := List.head?_dropWhile_not Char.isDigit cs
  simp only [read, hc] at hd
  rw [Option.mem_def] at hd
  rw [hd] at hstop
  simpa using hstop

/-- A formed lexeme at the head of a text is what is read there, unless it is a number that goes on. -/
theorem read_of_formed {x : Lexeme} (hx : x.Formed) {c : Char} {cs rest : List Char}
    (hcs : c :: cs = x.text ++ rest)
    (hend : x.kind = .number → ∀ d ∈ rest.head?, d.isDigit = false) : read c cs = (x, rest) := by
  cases hx with
  | @digits ds hne hds =>
    obtain ⟨d, ds, rfl⟩ := List.exists_cons_of_ne_nil hne
    obtain ⟨rfl, rfl⟩ : c = d ∧ cs = ds ++ rest := by simpa [ofDigits] using hcs
    have hc : CharClass.of c = .digit := CharClass.of_eq_digit_iff.2 (hds c (by simp))
    have hrun : ∀ d ∈ ds, d.isDigit = true := fun d hd => hds d (by simp [hd])
    have hstop : rest.takeWhile Char.isDigit = [] ∧ rest.dropWhile Char.isDigit = rest := by
      cases rest with
      | nil => simp
      | cons d rest => simp [hend rfl d (by simp)]
    simp only [read, hc, List.takeWhile_append_of_pos hrun, List.dropWhile_append_of_pos hrun, hstop,
      List.append_nil]
  | blank h | punctuation h | stray h =>
    obtain ⟨rfl, rfl⟩ : c = _ ∧ cs = rest := by simpa [single] using hcs
    simp only [read, h]

end Lexeme

open Lexeme

/-! ## Splits -/

/-- `xs` cuts `cs` into formed lexemes, and no two numbers stand side by side. -/
structure Splits (xs : List Lexeme) (cs : List Char) : Prop where
  formed : ∀ x ∈ xs, x.Formed
  apart : xs.IsChain Apart
  text : textOf xs = cs

theorem Splits.nil : Splits [] [] := ⟨by simp, .nil, rfl⟩

theorem Splits.append {xs ys : List Lexeme} {cs ds : List Char} (hx : Splits xs cs) (hy : Splits ys ds)
    (h : ∀ x ∈ xs.getLast?, ∀ y ∈ ys.head?, Apart x y) : Splits (xs ++ ys) (cs ++ ds) := by
  refine ⟨fun x hmem => ?_, hx.apart.append hy.apart h, ?_⟩
  · rcases List.mem_append.1 hmem with hmem | hmem
    · exact hx.formed x hmem
    · exact hy.formed x hmem
  · rw [textOf_append, hx.text, hy.text]

theorem Splits.parts {xs ys : List Lexeme} {cs : List Char} (h : Splits (xs ++ ys) cs) :
    Splits xs (textOf xs) ∧ Splits ys (textOf ys) ∧
      ∀ x ∈ xs.getLast?, ∀ y ∈ ys.head?, Apart x y := by
  obtain ⟨hx, hy, hseam⟩ := List.isChain_append.1 h.apart
  exact ⟨⟨fun x hmem => h.formed x (List.mem_append_left ys hmem), hx, rfl⟩,
    ⟨fun y hmem => h.formed y (List.mem_append_right xs hmem), hy, rfl⟩, hseam⟩

theorem Splits.tail {x : Lexeme} {xs : List Lexeme} {cs : List Char} (h : Splits (x :: xs) cs) :
    Splits xs (textOf xs) :=
  ⟨fun y hy => h.formed y (List.mem_cons_of_mem x hy), h.apart.tail, rfl⟩

/-- Where numbers meet, they become one. -/
theorem Splits.fuse {xs ys : List Lexeme} {cs ds es fs : List Char}
    (hx : Splits (xs ++ [ofDigits es]) cs) (hy : Splits (ofDigits fs :: ys) ds) :
    Splits (xs ++ ofDigits (es ++ fs) :: ys) (cs ++ ds) := by
  refine ⟨fun z hz => ?_, ?_, ?_⟩
  · rcases List.mem_append.1 hz with hz | hz
    · exact hx.formed z (List.mem_append_left _ hz)
    · rcases List.mem_cons.1 hz with rfl | hz
      · exact formed_ofDigits_append (hx.formed _ (by simp)) (hy.formed _ (by simp))
      · exact hy.formed z (List.mem_cons_of_mem _ hz)
  · rw [List.isChain_split]
    refine ⟨isChain_apart_of_map_kind ?_ hx.apart, isChain_apart_of_map_kind ?_ hy.apart⟩
    · simp [ofDigits]
    · simp [ofDigits]
  · rw [← hx.text, ← hy.text]
    simp [ofDigits]

theorem Splits.head?_isDigit {xs : List Lexeme} {cs : List Char} (h : Splits xs cs) :
    (∃ x ∈ xs.head?, x.kind = .number) ↔ ∃ c ∈ cs.head?, c.isDigit = true := by
  cases xs with
  | nil => simp [← h.text]
  | cons x xs =>
    have hx := h.formed x (by simp)
    obtain ⟨c, ds, htext⟩ := List.exists_cons_of_ne_nil hx.text_ne_nil
    have := hx.isDigit_iff (c := c) (by simp [htext])
    simp [← h.text, htext, this]

theorem Splits.getLast?_isDigit {xs : List Lexeme} {cs : List Char} (h : Splits xs cs) :
    (∃ x ∈ xs.getLast?, x.kind = .number) ↔ ∃ c ∈ cs.getLast?, c.isDigit = true := by
  rcases List.eq_nil_or_concat xs with rfl | ⟨ys, x, rfl⟩
  · simp [← h.text]
  · have hx := h.formed x (by simp)
    rcases List.eq_nil_or_concat x.text with hnil | ⟨ds, c, htext⟩
    · exact absurd hnil hx.text_ne_nil
    · have := hx.isDigit_iff (c := c) (by simp [htext])
      simp [← h.text, htext, this]

theorem splits_lexemes (cs : List Char) : Splits (lexemes cs) cs := by
  fun_induction lexemes cs with
  | case1 => exact .nil
  | case2 c cs ih =>
    have hx := formed_read c cs
    have htext := read_text_append c cs
    refine ⟨?_, ih.apart.cons fun y hy hboth => ?_, by rw [textOf_cons, ih.text, htext]⟩
    · intro x hmem
      rcases List.mem_cons.1 hmem with rfl | hmem
      · exact hx
      · exact ih.formed x hmem
    · obtain ⟨d, hd, hdigit⟩ := ih.head?_isDigit.1 ⟨y, hy, hboth.2⟩
      rw [isDigit_head?_rest hboth.1 d hd] at hdigit
      cases hdigit

theorem Splits.eq_lexemes {xs : List Lexeme} {cs : List Char} (h : Splits xs cs) : xs = lexemes cs := by
  induction xs generalizing cs with
  | nil => simp [← h.text]
  | cons x xs ih =>
    have hx := h.formed x (by simp)
    obtain ⟨c, ds, htext⟩ := List.exists_cons_of_ne_nil hx.text_ne_nil
    -- maximal munch: a digit after the number `x` would make the next lexeme a number too
    have hend : x.kind = .number → ∀ d ∈ (textOf xs).head?, d.isDigit = false := by
      intro hk d hd
      rw [Bool.eq_false_iff]
      intro hdigit
      obtain ⟨y, hy, hnum⟩ := h.tail.head?_isDigit.2 ⟨d, hd, hdigit⟩
      exact h.apart.rel_head? hy ⟨hk, hnum⟩
    have hread : Lexeme.read c (ds ++ textOf xs) = (x, textOf xs) :=
      read_of_formed hx (by rw [htext]; rfl) hend
    rw [← h.text, textOf_cons, htext, List.cons_append, lexemes_cons, hread, ← ih h.tail]

/-- **The lexemes of a text are its only split.** -/
theorem splits_iff {xs : List Lexeme} {cs : List Char} : Splits xs cs ↔ xs = lexemes cs :=
  ⟨Splits.eq_lexemes, fun h => h ▸ splits_lexemes cs⟩

@[simp] theorem textOf_lexemes (cs : List Char) : textOf (lexemes cs) = cs := (splits_lexemes cs).text

end ArithLex
