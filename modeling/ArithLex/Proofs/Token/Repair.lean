import ArithLex.Proofs.Lexer.State

/-!
# Repaired sources

A source is repaired by doing what its findings suggest: a look-alike gives way to its alternative, a blank
that is easy to miss to a space (`repairChar`). Repairing changes neither digits nor line feeds and makes
none, so tokens and lines stay where they are. The warnings go, and the errors that came with a suggestion.
-/

set_option autoImplicit false

namespace ArithLex
open Text Lexeme

/-- A character with the change that is suggested for it. -/
def repairChar (c : Char) : Char :=
  match Lookalike.alternative? c with
  | some d => d
  | none => if isBlank c && !isCommonBlank c then ' ' else c

theorem of_lookalike {c d : Char} (h : Lookalike.alternative? c = some d) :
    CharClass.of c = .stray ∧ ∃ k, Kind.ofChar? d = some k := by
  have every : ∀ p ∈ Lookalike.table, CharClass.of p.1 = .stray := by decide
  exact ⟨every _ (Lookalike.mem_table_of_alternative? h),
    Option.isSome_iff_exists.1 (Lookalike.ofChar?_alternative h)⟩

theorem ne_of_lookalike {c d : Char} (h : Lookalike.alternative? c = some d) : c ≠ d := by
  rintro rfl
  obtain ⟨hc, k, hk⟩ := of_lookalike h
  rw [CharClass.of_eq_punctuation_iff.2 hk] at hc
  cases hc

/-- What becomes of a character: a look-alike is replaced, a blank that is easy to miss is replaced, and
every other character stays. -/
theorem repairChar_cases (c : Char) :
    (∃ d k, Lookalike.alternative? c = some d ∧ CharClass.of c = .stray ∧ Kind.ofChar? d = some k ∧
        repairChar c = d) ∨
      (CharClass.of c = .blank ∧ isCommonBlank c = false ∧ repairChar c = ' ') ∨
      (Lookalike.alternative? c = none ∧ ¬ (CharClass.of c = .blank ∧ isCommonBlank c = false) ∧
        repairChar c = c) := by
  unfold repairChar
  cases halt : Lookalike.alternative? c with
  | some d =>
    obtain ⟨hc, k, hk⟩ := of_lookalike halt
    exact Or.inl ⟨d, k, rfl, hc, hk, rfl⟩
  | none =>
    rw [CharClass.of_eq_blank_iff]
    by_cases hblank : isBlank c = true ∧ isCommonBlank c = false
    · exact Or.inr (Or.inl ⟨hblank.1, hblank.2, by simp [hblank]⟩)
    · exact Or.inr (Or.inr ⟨rfl, hblank, if_neg (by simpa using hblank)⟩)

theorem repairChar_of_not_stray {c : Char} (hc : CharClass.of c ≠ .stray)
    (hblank : CharClass.of c = .blank → isCommonBlank c = true) : repairChar c = c := by
  rcases repairChar_cases c with ⟨_, _, _, hstray, _⟩ | ⟨hof, hcommon, _⟩ | ⟨_, _, h⟩
  · exact absurd hstray hc
  · rw [hblank hof] at hcommon
    cases hcommon
  · exact h

theorem repairChar_of_isDigit {c : Char} (h : c.isDigit = true) : repairChar c = c := by
  have hc : CharClass.of c = .digit := CharClass.of_eq_digit_iff.2 h
  exact repairChar_of_not_stray (by rw [hc]; simp) (by rw [hc]; simp)

theorem isDigit_repairChar (c : Char) : (repairChar c).isDigit = c.isDigit := by
  rcases repairChar_cases c with ⟨d, k, _, hc, hk, h⟩ | ⟨hc, _, h⟩ | ⟨_, _, h⟩
  · rw [h, (CharClass.not_isDigit_of_ofChar? hk).1, (CharClass.of_eq_stray_iff.1 hc).1]
  · have hnot : c.isDigit = false := by
      rw [Bool.eq_false_iff]
      intro hd
      rw [CharClass.of_eq_digit_iff.2 hd] at hc
      cases hc
    rw [h, hnot]
    rfl
  · rw [h]

/-- Neither a line feed goes away nor does one come up, so lines and columns stay. -/
theorem advance_repairChar (p : Cursor) (c : Char) : p.advance (repairChar c) = p.advance c := by
  have hiff : repairChar c = '\n' ↔ c = '\n' := by
    rcases repairChar_cases c with ⟨d, k, _, hc, hk, h⟩ | ⟨_, hcommon, h⟩ | ⟨_, _, h⟩
    · refine iff_of_false ?_ ?_
      · rintro hd
        rw [← h, hd] at hk
        cases hk
      · rintro rfl
        exact absurd hc (by decide)
    · refine iff_of_false (by rw [h]; decide) ?_
      rintro rfl
      exact absurd hcommon (by decide)
    · rw [h]
  unfold Cursor.advance
  simp only [hiff]

theorem repairChar_repairChar (c : Char) : repairChar (repairChar c) = repairChar c := by
  rcases repairChar_cases c with ⟨d, k, _, _, hk, h⟩ | ⟨_, _, h⟩ | ⟨_, _, h⟩
  · rw [h]
    have hd : CharClass.of d = .punctuation k := CharClass.of_eq_punctuation_iff.2 hk
    exact repairChar_of_not_stray (by rw [hd]; simp) (by rw [hd]; simp)
  · rw [h]
    decide
  · rw [h, h]

namespace Lexeme

/-- What becomes of a lexeme: it stays, or its one character is replaced by another one. -/
inductive Repaired : Lexeme → Lexeme → Prop
  | same {x : Lexeme} : (∀ c ∈ x.text, repairChar c = c) → Repaired x x
  | lookalike {c d : Char} {k : Kind} : Lookalike.alternative? c = some d → Kind.ofChar? d = some k →
      c ≠ d → Repaired (single .invalid c) (single k d)
  | blank {c : Char} : isBlank c = true → isCommonBlank c = false → c ≠ ' ' →
      Repaired (single .whitespace c) (single .whitespace ' ')

theorem Repaired.length_text {x y : Lexeme} (h : Repaired x y) : y.text.length = x.text.length := by
  cases h <;> rfl

theorem eq_or_isDigit_of_mem_read {c d : Char} {cs : List Char} (h : d ∈ (read c cs).1.text) :
    d = c ∨ d.isDigit = true := by
  unfold read at h
  split at h
  · rcases List.mem_cons.1 h with h | h
    · exact Or.inl h
    · exact Or.inr (List.all_eq_true.1 List.all_takeWhile d h)
  all_goals exact Or.inl (List.mem_singleton.1 h)

theorem map_repairChar_of_digits {cs : List Char} (h : ∀ c ∈ cs, c.isDigit = true) :
    cs.map repairChar = cs := by
  refine (List.map_congr_left fun c hc => ?_).trans (List.map_id cs)
  exact repairChar_of_isDigit (h c hc)

/-- Of a repaired text the first lexeme is the repaired first lexeme. -/
theorem read_repairChar (c : Char) (cs : List Char) : ∃ y,
    read (repairChar c) (cs.map repairChar) = (y, (read c cs).2.map repairChar) ∧
      Repaired (read c cs).1 y := by
  -- only a number reads on past its first character, and digits stay as they are
  rcases repairChar_cases c with ⟨d, k, halt, hc, hk, h⟩ | ⟨hc, hcommon, h⟩ | ⟨_, _, h⟩
  · have hd : CharClass.of d = .punctuation k := CharClass.of_eq_punctuation_iff.2 hk
    refine ⟨single k d, ?_, ?_⟩
    · simp only [h, read, hd, hc]
    · simp only [read, hc]
      exact .lookalike halt hk (ne_of_lookalike halt)
  · refine ⟨single .whitespace ' ', ?_, ?_⟩
    · have hspace : CharClass.of ' ' = .blank := by decide
      simp only [h, read, hspace, hc]
    · simp only [read, hc]
      refine .blank (CharClass.of_eq_blank_iff.1 hc) hcommon ?_
      rintro rfl
      exact absurd hcommon (by decide)
  · rw [h]
    refine ⟨(read c cs).1, ?_, .same fun d hd => ?_⟩
    · cases hc : CharClass.of c with
      | digit =>
        have hdigits : Char.isDigit ∘ repairChar = Char.isDigit := funext isDigit_repairChar
        have hrun : (cs.takeWhile Char.isDigit).map repairChar = cs.takeWhile Char.isDigit :=
          map_repairChar_of_digits fun d hd => List.all_eq_true.1 List.all_takeWhile d hd
        simp only [read, hc, List.takeWhile_map, List.dropWhile_map, hdigits, hrun]
      | blank | punctuation _ | stray => simp only [read, hc]
    · rcases eq_or_isDigit_of_mem_read hd with rfl | hd
      · exact h
      · exact repairChar_of_isDigit hd

end Lexeme

theorem lexemes_map_repairChar (cs : List Char) :
    List.Forall₂ Lexeme.Repaired (lexemes cs) (lexemes (cs.map repairChar)) := by
  fun_induction lexemes cs with
  | case1 =>
    rw [List.map_nil, lexemes_nil]
    exact .nil
  | case2 c cs ih =>
    obtain ⟨y, hread, hy⟩ := Lexeme.read_repairChar c cs
    rw [List.map_cons, lexemes_cons, hread]
    exact .cons hy ih

/-! ## Repaired tokens -/

def repair (source : String) : String := String.ofList (source.toList.map repairChar)

/-- What becomes of a token: it stays if all its characters do; an invalid token of a look-alike becomes
the operator or parenthesis that the look-alike stands for; the whitespace token of another blank that
is replaced becomes that of a space. -/
inductive Token.Repaired : Token → Token → Prop
  | same {t : Token} : (∀ c ∈ t.literal.toList, repairChar c = c) → Repaired t t
  | lookalike {start stop : Int} {c d : Char} {k : Kind} :
      Lookalike.alternative? c = some d → Kind.ofChar? d = some k → c ≠ d →
      Repaired ⟨.invalid, ⟨start, stop, String.singleton c⟩, none⟩
        ⟨k, ⟨start, stop, String.singleton d⟩, none⟩
  | blank {start stop : Int} {c : Char} : isBlank c = true → isCommonBlank c = false → c ≠ ' ' →
      Repaired ⟨.whitespace, ⟨start, stop, String.singleton c⟩, none⟩
        ⟨.whitespace, ⟨start, stop, " "⟩, none⟩

@[simp] theorem toList_repair (source : String) :
    (repair source).toList = source.toList.map repairChar := String.toList_ofList

theorem repair_repair (source : String) : repair (repair source) = repair source := by
  apply String.toList_inj.1
  rw [toList_repair, toList_repair, List.map_map]
  refine List.map_congr_left fun c _ => ?_
  exact repairChar_repairChar c

theorem Lexeme.Repaired.token {x y : Lexeme} (h : x.Repaired y) (n : Nat) :
    (x.token n).Repaired (y.token n) := by
  cases h with
  | same hsame =>
    refine .same fun c hc => hsame c ?_
    rwa [Token.literal, Lexeme.token, String.toList_ofList] at hc
  | lookalike halt hk hne => exact .lookalike halt hk hne
  | blank hblank hcommon hne => exact .blank hblank hcommon hne

theorem repaired_place (n : Nat) {xs ys : List Lexeme} (h : List.Forall₂ Lexeme.Repaired xs ys) :
    List.Forall₂ Token.Repaired (place n xs) (place n ys) := by
  induction h generalizing n with
  | nil => exact .nil
  | cons hxy _ ih =>
    rw [place_cons, place_cons, hxy.length_text]
    exact .cons (hxy.token n) (ih _)

theorem repaired_tokenize (source filename : String) :
    List.Forall₂ Token.Repaired (tokenize source filename) (tokenize (repair source) filename) := by
  rw [tokenize_eq, tokenize_eq, toList_repair]
  refine List.rel_append (repaired_place 0 (lexemes_map_repairChar source.toList)) ?_
  have hend : ∀ c ∈ Token.endMarker.literal.toList, repairChar c = c := by
    intro c hc
    rw [List.mem_singleton.1 hc]
    decide
  exact .cons (.same hend) .nil

/-! ## Findings -/

theorem suggestions_invalidCharacter (c : Char) (p : Location) :
    (Diagnostic.invalidCharacter c p).suggestions = some (Lookalike.charSuggestions c) :=
  congrArg some (Lookalike.suggestions_singleton c)

/-- No suggestion comes with an error. -/
def Diagnostic.isUnhelped (e : Diagnostic) : Bool := decide (e.suggestions = some [])

theorem errors_map_repairChar (filename : String) (p : Cursor) (cs : List Char) :
    remarks Diagnostic.errorAt? filename p (cs.map repairChar) =
      (remarks Diagnostic.errorAt? filename p cs).filter Diagnostic.isUnhelped := by
  induction cs generalizing p with
  | nil => rfl
  | cons c cs ih =>
    -- both texts go on from the same cursor, so one character is left to compare
    rw [List.map_cons, remarks_cons, remarks_cons, advance_repairChar, ih, List.filter_append]
    congr 1
    rcases repairChar_cases c with ⟨d, k, halt, hc, hk, h⟩ | ⟨hc, _, h⟩ | ⟨halt, _, h⟩
    · have hd : CharClass.of d ≠ .stray := by
        rw [CharClass.of_eq_punctuation_iff.2 hk]
        simp
      rw [h, errorAt?_of_ne_stray _ hd, errorAt?_of_stray _ hc]
      simp [Diagnostic.isUnhelped, suggestions_invalidCharacter, Lookalike.charSuggestions, halt]
    · have hnot : CharClass.of c ≠ .stray := by
        rw [hc]
        simp
      rw [h, errorAt?_of_ne_stray _ hnot, errorAt?_of_ne_stray _ (by decide)]
      rfl
    · rw [h]
      by_cases hc : CharClass.of c = .stray
      · rw [errorAt?_of_stray _ hc]
        simp [Diagnostic.isUnhelped, suggestions_invalidCharacter, Lookalike.charSuggestions, halt]
      · rw [errorAt?_of_ne_stray _ hc]
        rfl

theorem warnings_map_repairChar (filename : String) (p : Cursor) (cs : List Char) :
    remarks Diagnostic.warningAt? filename p (cs.map repairChar) = [] := by
  apply remarks_eq_nil
  intro d hd q
  obtain ⟨c, -, rfl⟩ := List.mem_map.1 hd
  apply warningAt?_of_not_unusual
  rcases repairChar_cases c with ⟨d, k, _, _, hk, h⟩ | ⟨_, _, h⟩ | ⟨_, hblank, h⟩
  · rw [h, CharClass.of_eq_punctuation_iff.2 hk]
    simp
  · rw [h]
    decide
  · rwa [h]

theorem suggestion_of_lookalike {source filename : String} {i : Nat} {c d : Char}
    (hi : source.toList[i]? = some c) (hd : Lookalike.alternative? c = some d) :
    ∃ e ∈ (drained source filename).errors, e.location = locate filename source.toList i ∧
      e.suggestions = some [String.singleton d] := by
  refine ⟨.invalidCharacter c (locate filename source.toList i), ?_, rfl, ?_⟩
  · have hlt : i < source.toList.length := (List.getElem?_eq_some_iff.1 hi).1
    rw [← Array.mem_toList_iff, errors_drained, mem_remarks_iff _ _ source.toList [], List.append_nil]
    exact ⟨i, hlt, c, hi, errorAt?_of_stray _ (of_lookalike hd).1⟩
  · rw [suggestions_invalidCharacter, Lookalike.charSuggestions, hd]
    rfl

/-- **Doing what is suggested works.** The tokens of a repaired source are the repaired tokens of the source, at the
same places; no warning is left, and of the errors those that came without a suggestion, unchanged. So the
strict reading accepts the repaired source unless there is such an error, and nothing is left to repair. -/
theorem repair_works (source filename : String) :
    List.Forall₂ Token.Repaired (tokenize source filename) (tokenize (repair source) filename) ∧
      (drained (repair source) filename).warnings = #[] ∧
      (drained (repair source) filename).errors =
        (drained source filename).errors.filter (fun e => e.suggestions = some []) ∧
      (∀ i c d, source.toList[i]? = some c → Lookalike.alternative? c = some d →
        (repair source).toList[i]? = some d ∧
          ∃ e ∈ (drained source filename).errors, e.location = locate filename source.toList i ∧
            e.suggestions = some [String.singleton d]) ∧
      ((∃ e, tokenizeStrict (repair source) filename = .error e) ↔
        ∃ e ∈ (drained source filename).errors, e.suggestions = some []) ∧
      repair (repair source) = repair source := by
  have herrors : (drained (repair source) filename).errors.toList =
      (drained source filename).errors.toList.filter Diagnostic.isUnhelped := by
    rw [errors_drained, errors_drained, toList_repair, errors_map_repairChar]
  refine ⟨repaired_tokenize source filename, ?_, ?_, fun i c d hi hd => ⟨?_, ?_⟩, ?_,
    repair_repair source⟩
  · rw [← Array.toList_inj, warnings_drained, toList_repair, warnings_map_repairChar]
  · rw [← Array.toList_inj, herrors, Array.toList_filter]
    rfl
  · rw [toList_repair, List.getElem?_map, hi, Option.map_some]
    simp only [repairChar, hd]
  · exact suggestion_of_lookalike hi hd
  · rw [exists_tokenizeStrict_eq_error_iff, ← errors_drained, herrors, ne_eq, List.filter_eq_nil_iff]
    simp [Diagnostic.isUnhelped]

/-- A look-alike between two numbers, a blank that is easy to miss, and a character without a suggestion. -/
theorem repair_works_of_times :
    repair "12\xa0× 3?" = "12 * 3?" ∧ "12\xa0× 3?".toList[3]? = some '×' ∧
      Lookalike.alternative? '×' = some '*' ∧
      (∃ e ∈ (drained "12\xa0× 3?" "sum").errors,
        e.location = locate "sum" "12\xa0× 3?".toList 3 ∧ e.suggestions = some ["*"]) ∧
      ((∃ e, tokenizeStrict (repair "12\xa0× 3?") "sum" = .error e) ↔
        ∃ e ∈ (drained "12\xa0× 3?" "sum").errors, e.suggestions = some []) := by
  have hi : "12\xa0× 3?".toList[3]? = some '×' := by decide
  have hd : Lookalike.alternative? '×' = some '*' := by decide
  obtain ⟨-, -, -, hsuggested, hstrict, -⟩ := repair_works "12\xa0× 3?" "sum"
  exact ⟨by decide, hi, hd, (hsuggested 3 '×' '*' hi hd).2, hstrict⟩

end ArithLex
