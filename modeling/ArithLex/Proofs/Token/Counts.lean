import ArithLex.Proofs.Lexeme.Place
import ArithLex.Proofs.Lexeme.Runs
import Mathlib.Data.Finset.Card

/-!
# How many tokens a source has

A source has one token for each character that is no digit and one for each run of digits (`tokenCount`),
and of each kind as many as there are characters of its class, or runs (`CountsOf`).
-/

set_option autoImplicit false

namespace ArithLex
open Text Lexeme

theorem countP_lexemes (p : Kind → Bool) (hp : p .number = false) (cs : List Char) :
    (lexemes cs).countP (fun x => p x.kind) = cs.countP fun c => p (CharClass.of c).kind := by
  have hformed := (splits_lexemes cs).formed
  have hchosen : ∀ x ∈ (lexemes cs).filter fun x => p x.kind, x.Formed := fun x hx =>
    hformed x (List.mem_of_mem_filter hx)
  have hnumber : ∀ x ∈ (lexemes cs).filter fun x => p x.kind, x.kind ≠ .number := by
    intro x hx hkind
    have := (List.mem_filter.1 hx).2
    rw [hkind, hp] at this
    cases this
  have hlength := congrArg List.length (map_text_eq hchosen hnumber)
  rw [List.length_map, List.length_map, textOf_filter p hformed, textOf_lexemes] at hlength
  rw [List.countP_eq_length_filter, List.countP_eq_length_filter, hlength]

theorem countP_kind_place (p : Kind → Bool) (n : Nat) (xs : List Lexeme) :
    (place n xs).countP (fun t => p t.kind) = xs.countP fun x => p x.kind := by
  rw [List.countP_eq_length_filter, List.countP_eq_length_filter, ← List.length_map (f := Token.content),
    map_content_filter_place, List.length_map]

/-! ## Counting numbers -/

def Token.bounds (t : Token) : Nat × Nat := (t.span.start.toNat, t.span.stop.toNat)

/-- The indices where the numbers of a text begin and end. -/
def numberBounds (cs : List Char) : List (Nat × Nat) :=
  ((place 0 (lexemes cs)).filter (·.kind = .number)).map Token.bounds

theorem mem_numberBounds {cs : List Char} {r : Nat × Nat} :
    r ∈ numberBounds cs ↔ MaximalRun cs r.1 r.2 := by
  rw [← exists_number_iff, numberBounds, List.mem_map]
  constructor
  · rintro ⟨t, ht, rfl⟩
    obtain ⟨ht, hkind⟩ := List.mem_filter.1 ht
    obtain ⟨before, x, after, -, rfl⟩ := exists_append_of_mem_place ht
    exact ⟨_, ht, of_decide_eq_true hkind, rfl, rfl⟩
  · rintro ⟨t, ht, hkind, hstart, hstop⟩
    refine ⟨t, List.mem_filter.2 ⟨ht, decide_eq_true hkind⟩, Prod.ext ?_ ?_⟩
    · show t.span.start.toNat = r.1
      rw [hstart, Int.toNat_natCast]
    · show t.span.stop.toNat = r.2
      rw [hstop, Int.toNat_natCast]

/-- No two numbers of a text have the same bounds, since none begins where another does. -/
theorem nodup_numberBounds (cs : List Char) : (numberBounds cs).Nodup := by
  have horder := (pairwise_start_place 0 (splits_lexemes cs).formed).sublist
    (List.filter_sublist (p := fun t => decide (t.kind = .number)))
  refine List.pairwise_map.2 (horder.imp_of_mem fun {t u} ht hu hlt heq => ?_)
  have hstart := congrArg Prod.fst heq
  obtain ⟨_, _, _, -, rfl⟩ := exists_append_of_mem_place (List.mem_of_mem_filter ht)
  obtain ⟨_, _, _, -, rfl⟩ := exists_append_of_mem_place (List.mem_of_mem_filter hu)
  exact absurd (congrArg Int.ofNat hstart) (Int.ne_of_lt hlt)

theorem countP_number (cs : List Char) :
    (lexemes cs).countP (·.kind = .number) = (digitRuns cs).card := by
  have hset : (numberBounds cs).toFinset = digitRuns cs := by
    ext r
    rw [List.mem_toFinset, mem_numberBounds, mem_digitRuns]
  rw [← hset, List.toFinset_card_of_nodup (nodup_numberBounds cs), numberBounds, List.length_map,
    ← List.countP_eq_length_filter, countP_kind_place (fun k => decide (k = .number))]

/-! ## Counting tokens -/

/-- How many lexemes a text has: one for each character that is no digit, and one for each run of
digits. -/
def tokenCount (cs : List Char) : Nat := cs.countP (fun c => !c.isDigit) + (digitRuns cs).card

theorem length_lexemes (cs : List Char) : (lexemes cs).length = tokenCount cs := by
  have hothers : (lexemes cs).countP (fun x => !decide (x.kind = .number)) =
      cs.countP fun c => !c.isDigit := by
    rw [countP_lexemes (fun k => !decide (k = .number)) rfl]
    refine List.countP_congr fun c _ => ?_
    rw [Bool.not_eq_true', decide_eq_false_iff_not, CharClass.kind_of_eq_number_iff, Bool.not_eq_true',
      Bool.not_eq_true]
  rw [List.length_eq_countP_add_countP (fun x => decide (x.kind = .number)), countP_number,
    Nat.add_comm, tokenCount, ← hothers]
  simp

theorem length_le_length_textOf {xs : List Lexeme} (h : ∀ x ∈ xs, x.Formed) :
    xs.length ≤ (textOf xs).length := by
  induction xs with
  | nil => exact Nat.le_refl 0
  | cons x xs ih =>
    have hlen : 0 < x.text.length := List.length_pos_iff.2 (h x (by simp)).text_ne_nil
    have := ih fun y hy => h y (by simp [hy])
    rw [textOf_cons, List.length_append, List.length_cons]
    omega

theorem tokenCount_le (cs : List Char) : tokenCount cs ≤ cs.length := by
  have hle := length_le_length_textOf (splits_lexemes cs).formed
  rwa [length_lexemes, textOf_lexemes] at hle

/-- How many tokens of each kind there are, told by the characters of the source. -/
structure CountsOf (cs : List Char) (ts : List Token) : Prop where
  whitespace : ts.countP (·.kind = .whitespace) = cs.countP isBlank
  punctuation : ∀ k c, k.char? = some c → ts.countP (·.kind = k) = cs.count c
  invalid : ts.countP (·.kind = .invalid) = cs.countP fun c => decide (Rejected c)
  number : ts.countP (·.kind = .number) = (digitRuns cs).card
  eof : ts.countP (·.kind = .eof) = 1

section Parts
variable (source filename : String)

theorem countP_tokenize {k : Kind} (h : k ≠ .eof) :
    (tokenize source filename).countP (·.kind = k) =
      (lexemes source.toList).countP fun x => decide (x.kind = k) := by
  rw [tokenize_eq, List.countP_append, countP_kind_place (fun j => decide (j = k))]
  simp [Token.endMarker, h.symm]

theorem countP_tokenize_of_class {k : Kind} (hnumber : k ≠ .number) (heof : k ≠ .eof) (q : Char → Bool)
    (h : ∀ c, (CharClass.of c).kind = k ↔ q c = true) :
    (tokenize source filename).countP (·.kind = k) = source.toList.countP q := by
  rw [countP_tokenize source filename heof,
    countP_lexemes (fun j => decide (j = k)) (decide_eq_false hnumber.symm)]
  refine List.countP_congr fun c _ => ?_
  rw [decide_eq_true_iff, h]

end Parts

theorem countsOf_tokenize (source filename : String) :
    CountsOf source.toList (tokenize source filename) where
  whitespace := countP_tokenize_of_class source filename (by decide) (by decide) isBlank fun _ =>
    CharClass.kind_of_eq_whitespace_iff
  punctuation k c h := by
    have hnumber : k ≠ .number := by
      rintro rfl
      cases h
    have heof : k ≠ .eof := by
      rintro rfl
      cases h
    refine countP_tokenize_of_class source filename hnumber heof (· == c) fun d => ?_
    rw [CharClass.kind_of_eq_iff_of_char? h, beq_iff_eq]
  invalid := by
    refine countP_tokenize_of_class source filename (by decide) (by decide) _ fun c => ?_
    rw [CharClass.kind_of_eq_invalid_iff, CharClass.of_eq_stray_iff, decide_eq_true_iff]
  number := by
    rw [countP_tokenize source filename (by decide), ← countP_number]
  eof := by
    have hnone : (place 0 (lexemes source.toList)).countP (·.kind = .eof) = 0 := by
      refine List.countP_eq_zero.2 fun t ht => ?_
      rw [decide_eq_true_iff]
      exact kind_ne_eof_of_mem_place (splits_lexemes source.toList).formed ht
    rw [tokenize_eq, List.countP_append, hnone]
    rfl

theorem nodup_tokenize (source filename : String) : (tokenize source filename).Nodup := by
  rw [tokenize_eq]
  have hformed := (splits_lexemes source.toList).formed
  refine List.nodup_append'.2 ⟨?_, List.nodup_singleton _, List.disjoint_singleton.2 fun hmem => ?_⟩
  · refine (pairwise_start_place 0 hformed).imp fun {t u} hlt => ?_
    rintro rfl
    exact Int.lt_irrefl _ hlt
  · exact kind_ne_eof_of_mem_place hformed hmem rfl

end ArithLex
