import ArithLex.Proofs.Lexer.Progress
import ArithLex.Proofs.Text.Numerals

/-!
# Round trip

Which token lists come from a source (`WellFormed`), and that each comes from one source only.
-/

set_option autoImplicit false

namespace ArithLex
open Text Lexeme

namespace Token

/-- What the kind of a token promises of its literal and its value, whatever the span. -/
inductive Formed : Token → Prop
  | number {start stop : Int} {s : String} : s ≠ "" → (∀ c ∈ s.toList, c.isDigit = true) →
      Formed ⟨.number, ⟨start, stop, s⟩, some (decimalValue s.toList)⟩
  | whitespace {start stop : Int} {c : Char} : isBlank c = true →
      Formed ⟨.whitespace, ⟨start, stop, String.singleton c⟩, none⟩
  | punctuation {start stop : Int} {c : Char} {k : Kind} : Kind.ofChar? c = some k →
      Formed ⟨k, ⟨start, stop, String.singleton c⟩, none⟩
  | invalid {start stop : Int} {c : Char} : Rejected c →
      Formed ⟨.invalid, ⟨start, stop, String.singleton c⟩, none⟩

def Apart (t u : Token) : Prop := ¬ (t.kind = .number ∧ u.kind = .number)

def lexeme (t : Token) : Lexeme := ⟨t.kind, t.literal.toList, t.value.map Int.toNat⟩

theorem Formed.lexeme {t : Token} (h : t.Formed) : t.lexeme.Formed := by
  cases h with
  | @number start stop s hne hdigits =>
    have hds : s.toList ≠ [] := fun h => hne (String.toList_eq_nil_iff.1 h)
    have := Lexeme.Formed.digits hds hdigits
    rwa [ofDigits, ofDigitChars_eq_decimalValue] at this
  | whitespace h =>
    simpa [Token.lexeme, literal, single] using Lexeme.Formed.blank (CharClass.of_eq_blank_iff.2 h)
  | punctuation h =>
    simpa [Token.lexeme, literal, single] using
      Lexeme.Formed.punctuation (CharClass.of_eq_punctuation_iff.2 h)
  | invalid h =>
    simpa [Token.lexeme, literal, single] using Lexeme.Formed.stray (CharClass.of_eq_stray_iff.2 h)

theorem formed_token {x : Lexeme} (hx : x.Formed) (n : Nat) : (x.token n).Formed := by
  cases hx with
  | @digits ds hne hdigits =>
    have hs : String.ofList ds ≠ "" := by simpa using hne
    have hds : ∀ c ∈ (String.ofList ds).toList, c.isDigit = true := by simpa using hdigits
    have hvalue : (ofDigits ds).value = some (decimalValue (String.ofList ds).toList) := by
      rw [String.toList_ofList, ← ofDigitChars_eq_decimalValue]
      rfl
    rw [Lexeme.token, hvalue]
    exact .number hs hds
  | blank h => exact .whitespace (CharClass.of_eq_blank_iff.1 h)
  | punctuation h => exact .punctuation (CharClass.of_eq_punctuation_iff.1 h)
  | stray h => exact .invalid (CharClass.of_eq_stray_iff.1 h)

theorem Formed.token_lexeme {t : Token} (h : t.Formed) {n : Nat} (hstart : t.span.start = n)
    (hstop : t.span.stop = n + t.literal.length) : t.lexeme.token n = t := by
  cases h <;> simp_all [Token.lexeme, Lexeme.token, literal, String.length_toList]

end Token

/-! ## Token lists -/

/-- The spans follow one another from an offset on, each as long as its literal. -/
def Contiguous : Int → List Token → Prop
  | _, [] => True
  | n, t :: ts => t.span.start = n ∧ t.span.stop = n + t.literal.length ∧ Contiguous t.span.stop ts

/-- Formed tokens one after another from the start, no two numbers side by side, and an end marker. -/
def WellFormed (ts : List Token) : Prop :=
  ∃ body, ts = body ++ [.endMarker] ∧ Contiguous 0 body ∧ (∀ t ∈ body, t.Formed) ∧
    body.IsChain Token.Apart

theorem place_map_lexeme {n : Nat} {ts : List Token} (hcont : Contiguous n ts)
    (hformed : ∀ t ∈ ts, t.Formed) : place n (ts.map Token.lexeme) = ts := by
  induction ts generalizing n with
  | nil => rfl
  | cons t ts ih =>
    obtain ⟨hstart, hstop, hrest⟩ := hcont
    have hnext : t.span.stop = ((n + t.lexeme.text.length : Nat) : Int) := by
      rw [hstop, Token.lexeme, String.length_toList, Int.natCast_add]
    rw [List.map_cons, place_cons, (hformed t (by simp)).token_lexeme hstart hstop,
      ih (hnext ▸ hrest) fun u hu => hformed u (by simp [hu])]

theorem contiguous_place (n : Nat) (xs : List Lexeme) : Contiguous n (place n xs) := by
  induction xs generalizing n with
  | nil => trivial
  | cons x xs ih =>
    refine ⟨rfl, ?_, ih (n + x.text.length)⟩
    simp [token, Token.literal]

theorem isChain_place (n : Nat) {xs : List Lexeme} (h : xs.IsChain Lexeme.Apart) :
    (place n xs).IsChain Token.Apart := by
  induction xs generalizing n with
  | nil => exact .nil
  | cons x xs ih =>
    refine (ih (n + x.text.length) h.tail).cons fun t ht => ?_
    cases xs with
    | nil => cases ht
    | cons y ys =>
      cases ht
      exact h.rel_head? rfl

/-! ## The image of the lexer -/

theorem wellFormed_tokenize (source filename : String) : WellFormed (tokenize source filename) := by
  have h := splits_lexemes source.toList
  refine ⟨_, tokenize_eq source filename, contiguous_place 0 _, fun t ht => ?_, isChain_place 0 h.apart⟩
  obtain ⟨x, hx, m, rfl⟩ := exists_of_mem_place ht
  exact Token.formed_token (h.formed x hx) m

theorem sourceText_tokenize (source filename : String) :
    sourceText (tokenize source filename) = source := by
  have h := splits_lexemes source.toList
  rw [tokenize_eq, sourceText_append, sourceText_place h.formed, h.text, sourceText_endMarker,
    String.append_empty, String.ofList_toList]

theorem WellFormed.eq_tokenize {ts : List Token} (h : WellFormed ts) (filename : String) :
    ts = tokenize (sourceText ts) filename := by
  obtain ⟨body, rfl, hcont, hformed, hapart⟩ := h
  have hplace := place_map_lexeme hcont hformed
  have hlex : ∀ x ∈ body.map Token.lexeme, x.Formed := by
    intro x hx
    obtain ⟨t, ht, rfl⟩ := List.mem_map.1 hx
    exact (hformed t ht).lexeme
  have hsplits : Splits (body.map Token.lexeme) (textOf (body.map Token.lexeme)) :=
    ⟨hlex, (List.isChain_map Token.lexeme).2 hapart, rfl⟩
  have htext : (sourceText (body ++ [.endMarker])).toList = textOf (body.map Token.lexeme) := by
    rw [← hplace, sourceText_append, sourceText_place hlex, sourceText_endMarker, hplace,
      String.append_empty, String.toList_ofList]
  rw [tokenize_eq, htext, ← hsplits.eq_lexemes]
  exact congrArg (· ++ [Token.endMarker]) hplace.symm

/-- **The tokens of a source are the one well-formed list with its text**, whatever the source. -/
theorem tokenize_eq_iff (source filename : String) :
    (∀ ts, ts = tokenize source filename ↔ WellFormed ts ∧ sourceText ts = source) ∧
      sourceText (tokenize source filename) = source := by
  refine ⟨fun ts => ⟨?_, ?_⟩, sourceText_tokenize source filename⟩
  · rintro rfl
    exact ⟨wellFormed_tokenize source filename, sourceText_tokenize source filename⟩
  · rintro ⟨hts, rfl⟩
    exact hts.eq_tokenize filename

end ArithLex
