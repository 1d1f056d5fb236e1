import ArithLex.Lexer.Scanner
import ArithLex.Proofs.Diagnostic.Lines
import ArithLex.Proofs.Lexer.Termination

/-!
# Scanning never fails

Where a character is ahead no step of a scanner fails. Called for tokens, a scanner comes to the states of
the lexer of the same source (`Scanner.of`), and there the text ahead is what the source has from the offset
on. A caller who asks for a finding with a text of his own has no such promise.
-/

set_option autoImplicit false

namespace ArithLex
open Text Lexeme

namespace Scanner

/-! ## What is ahead -/

def rest (s : Scanner) : List Char := s.source.toList.drop s.cursor.offset

def past (s : Scanner) (cs : List Char) : Scanner := { s with cursor := s.cursor.advanceBy cs }

section Ahead
variable {s : Scanner} {c : Char} {cs : List Char}

theorem offset_lt_of_rest (h : s.rest = c :: cs) : s.cursor.offset < s.source.length := by
  have := congrArg List.length h
  rw [rest, List.length_drop, String.length_toList, List.length_cons] at this
  omega

/-- Beyond the end there is no character; nothing but its own states keeps a scanner from going there. -/
theorem next_eq_error (hphase : s.phase = .scanning) (h : s.source.length < s.cursor.offset) :
    s.next = .error (.noCharacter s.cursor.offset) := by
  have hhere : s.here = .error (.noCharacter s.cursor.offset) := by
    have hnone : s.source.toList[s.cursor.offset]? = none :=
      List.getElem?_eq_none (by rw [String.length_toList]; omega)
    rw [here, hnone]
  rw [next, hphase, if_neg (by decide), if_neg (by omega), passLexeme, hhere]
  rfl

theorem here_eq_ok (h : s.rest = c :: cs) : s.here = .ok (String.singleton c) := by
  have hc : s.source.toList[s.cursor.offset]? = some c := by
    rw [← List.head?_drop]
    exact congrArg List.head? h
  rw [here, hc]

theorem advance_eq_ok (h : s.rest = c :: cs) : s.advance = .ok (s.past [c]) := by
  have hone : "\n" = String.singleton '\n' := by decide
  have hfeed : String.singleton c = "\n" ↔ c = '\n' := by rw [hone, String.singleton_inj]
  rw [advance, here_eq_ok h, ok_bind, past, Cursor.advanceBy_cons, Cursor.advanceBy_nil, Cursor.advance]
  by_cases hc : c = '\n'
  · rw [if_pos (hfeed.2 hc), if_pos hc]
    rfl
  · rw [if_neg (mt hfeed.1 hc), if_neg hc]
    rfl

theorem rest_past {ds : List Char} (h : s.rest = cs ++ ds) : (s.past cs).rest = ds := by
  show s.source.toList.drop (s.cursor.advanceBy cs).offset = ds
  rw [Cursor.offset_advanceBy, ← List.drop_drop]
  show s.rest.drop cs.length = ds
  rw [h, List.drop_left]

theorem textTo_past {ds : List Char} (h : s.rest = cs ++ ds) : s.textTo (s.past cs) = String.ofList cs := by
  have hlen : (s.past cs).cursor.offset = s.cursor.offset + cs.length := Cursor.offset_advanceBy ..
  rw [textTo, hlen, List.drop_take, Nat.add_sub_cancel_left]
  show String.ofList (s.rest.take cs.length) = _
  rw [h, List.take_left]

end Ahead

theorem passDigits_eq_ok (n : Nat) (s : Scanner) :
    s.passDigits n = .ok (((Nat.ofDigitChars 10 (s.rest.takeWhile Char.isDigit) n : Nat) : Int),
      s.past (s.rest.takeWhile Char.isDigit)) := by
  -- on what is ahead, of which every turn uses up one character
  induction hrest : s.rest generalizing n s with
  | nil =>
    have hend : ¬ s.cursor.offset < s.source.length := by
      rw [rest, List.drop_eq_nil_iff, String.length_toList] at hrest
      omega
    rw [passDigits, dif_neg hend]
    rfl
  | cons c cs ih =>
    rw [passDigits, dif_pos (offset_lt_of_rest hrest), here_eq_ok hrest, ok_bind, isOneOf_digits]
    by_cases hc : c.isDigit = true
    · have hloop := ih (n * 10 + (c.toNat - '0'.toNat)) (s.past [c]) (rest_past hrest)
      rw [if_pos hc, ok_bind, addDigit_singleton n hc, ok_bind, List.takeWhile_cons_of_pos hc,
        Nat.ofDigitChars_cons, Nat.mul_comm 10]
      split
      · rename_i s' hs'
        cases (advance_eq_ok hrest).symm.trans hs'
        exact hloop
      · rename_i e he
        cases (advance_eq_ok hrest).symm.trans he
    · rw [if_neg hc, List.takeWhile_cons_of_neg hc]
      rfl

theorem passBlank_eq_ok {s : Scanner} {c : Char} {cs : List Char} (h : s.rest = c :: cs) :
    s.passBlank = .ok (if isCommonBlank c then s.past [c]
      else { s with warnings := s.warnings.push (.unusualBlank c s.location) }.past [c]) := by
  have hcommon : isOneOf commonBlanks (String.singleton c) = isCommonBlank c := isOneOf_singleton ..
  rw [passBlank, here_eq_ok h, ok_bind, hcommon]
  by_cases hc : isCommonBlank c = true
  · rw [if_pos hc, if_pos hc]
    exact advance_eq_ok h
  · rw [if_neg hc, if_neg hc, Diagnostic.unusualText_singleton]
    exact advance_eq_ok h

theorem passOther_of_kind {s : Scanner} {c : Char} {cs : List Char} {k : Kind} (h : s.rest = c :: cs)
    (hk : Kind.ofChar? c = some k) : s.passOther = .ok (k, s.past [c]) := by
  rw [passOther, here_eq_ok h, ok_bind, kindOfText?_singleton, hk]
  dsimp only
  rw [advance_eq_ok h]
  rfl

theorem passOther_of_none {s : Scanner} {c : Char} {cs : List Char} (h : s.rest = c :: cs)
    (hk : Kind.ofChar? c = none) : s.passOther = .ok (.invalid,
      { s with
        errors := s.errors.push (.invalidCharacter c s.location)
        journal := s.journal.push (Event.rejected c s.location).message }.past [c]) := by
  rw [passOther, here_eq_ok h, ok_bind, kindOfText?_singleton, hk]
  dsimp only
  rw [Diagnostic.invalidText_singleton]
  dsimp only
  rw [advance_eq_ok]
  · rfl
  · exact h

/-! ## The states of a lexer -/

/-- The scanner of a source in the state of a lexer. -/
def of (source : String) (l : Lexer) : Scanner where
  source := source
  filename := l.filename
  cursor := l.cursor
  phase := l.phase
  errors := l.errors
  warnings := l.warnings
  journal := l.journal.map Event.message

theorem start_eq_of (source filename : String) :
    start source filename = of source (.start source filename) := by
  simp [start, of, Lexer.start, Lexer.phase]

section Lexers
variable {source filename : String} {l : Lexer} {c : Char} {cs : List Char}

theorem of_note_pass (hahead : l.ahead = some (c :: cs)) (x : Lexeme) (rest : List Char) :
    of source ((l.note c).pass x rest) = (of source (l.note c)).past x.text := by
  simp [of, past, Lexer.pass, Lexer.phase, Lexer.note_eq, hahead]

theorem of_rejected (d : Diagnostic) (e : Event) :
    of source { l with errors := l.errors.push d, journal := l.journal.push e } =
      { of source l with errors := l.errors.push d, journal := (of source l).journal.push e.message } := by
  simp only [of, Array.map_push]
  rfl

theorem passLexeme_of (hahead : l.ahead = some (c :: cs)) (hrest : (of source l).rest = c :: cs) :
    (of source l).passLexeme = .ok (((Lexeme.read c cs).1.kind, (Lexeme.read c cs).1.value.map Int.ofNat),
      of source ((l.note c).pass (Lexeme.read c cs).1 (Lexeme.read c cs).2)) := by
  rw [of_note_pass hahead, passLexeme, here_eq_ok hrest, ok_bind, isOneOf_digits, isBlankText_singleton]
  cases hclass : CharClass.of c with
  | digit =>
    have hc := CharClass.of_eq_digit_iff.1 hclass
    have hloop := passDigits_eq_ok 0 (of source l)
    rw [hrest, List.takeWhile_cons_of_pos hc, Nat.cast_zero] at hloop
    simp only [if_pos hc, hloop, ok_bind, Lexeme.read, Lexer.note, hclass]
    rfl
  | blank =>
    have hc := CharClass.of_eq_blank_iff.1 hclass
    have hdigit : ¬ c.isDigit = true := by simp [← CharClass.of_eq_digit_iff, hclass]
    simp only [if_neg hdigit, if_pos hc, passBlank_eq_ok hrest, ok_bind, Lexeme.read, Lexer.note, hclass]
    split <;> rfl
  | punctuation k =>
    have hdigit : ¬ c.isDigit = true := by simp [← CharClass.of_eq_digit_iff, hclass]
    have hblank : ¬ isBlank c = true := by simp [← CharClass.of_eq_blank_iff, hclass]
    have hk := CharClass.of_eq_punctuation_iff.1 hclass
    simp only [if_neg hdigit, if_neg hblank, passOther_of_kind hrest hk, ok_bind, Lexeme.read, Lexer.note,
      hclass]
    rfl
  | stray =>
    obtain ⟨hdigit, hblank, hk⟩ := CharClass.of_eq_stray_iff.1 hclass
    simp only [hdigit, hblank, Bool.false_eq_true, if_false, passOther_of_none hrest hk, ok_bind,
      Lexeme.read, Lexer.note, hclass, of_rejected]
    rfl

theorem next_of_exhausted (hahead : l.ahead = none) : (of source l).next = .ok (none, of source l) := by
  have hphase : (of source l).phase = .exhausted := by simp [of, Lexer.phase, hahead]
  rw [next, if_pos hphase]
  rfl

theorem next_of_nil (hahead : l.ahead = some []) (hend : l.cursor.offset = source.length) :
    (of source l).next = .ok (some .endMarker, of source l.finish) := by
  have hphase : (of source l).phase ≠ .exhausted := by simp [of, Lexer.phase, hahead]
  have hlast : (of source l).cursor.offset = (of source l).source.length := hend
  have hfinish : of source l.finish = (of source l).finish := by
    simp only [of, Lexer.finish, Array.map_push]
    rfl
  rw [next, if_neg hphase, if_pos hlast, hfinish]
  rfl

theorem next_of_cons (hahead : l.ahead = some (c :: cs)) (hrest : (of source l).rest = c :: cs) :
    (of source l).next = .ok (some ((Lexeme.read c cs).1.token l.cursor.offset),
      of source ((l.note c).pass (Lexeme.read c cs).1 (Lexeme.read c cs).2)) := by
  have hphase : (of source l).phase ≠ .exhausted := by simp [of, Lexer.phase, hahead]
  have hbefore : (of source l).cursor.offset ≠ (of source l).source.length :=
    Nat.ne_of_lt (offset_lt_of_rest hrest)
  have hpassed : (of source l).rest = (Lexeme.read c cs).1.text ++ (Lexeme.read c cs).2 := by
    rw [hrest, read_text_append]
  have hoffset : ((of source (l.note c)).past (Lexeme.read c cs).1.text).cursor.offset =
      l.cursor.offset + (Lexeme.read c cs).1.text.length := by
    rw [Lexer.note_eq]
    exact Cursor.offset_advanceBy ..
  -- noting a character does not change what the text of the lexeme is taken from
  have htext : (of source l).textTo ((of source (l.note c)).past (Lexeme.read c cs).1.text) =
      String.ofList (Lexeme.read c cs).1.text := by
    rw [← textTo_past hpassed, Lexer.note_eq]
    rfl
  rw [next, if_neg hphase, if_neg hbefore, passLexeme_of hahead hrest, ok_bind,
    of_note_pass hahead]
  dsimp only
  rw [htext, hoffset]
  rfl

/-- Ahead of a lexer on its way is the source from its offset on. -/
theorem rest_of_underway (h : Lexer.Underway source filename l) {rest : List Char}
    (hahead : l.ahead = some rest) :
    (of source l).rest = rest ∧ l.cursor.offset + rest.length = source.length := by
  cases h with
  | finished => cases hahead
  | @midway passed rest' hsource =>
    cases hahead
    have hoffset : (Lexer.midway filename passed rest).cursor.offset = passed.length := by
      rw [Lexer.cursor_midway]
    refine ⟨?_, ?_⟩
    · show source.toList.drop (Lexer.midway filename passed rest).cursor.offset = rest
      rw [hoffset, ← hsource, List.drop_left]
    · rw [hoffset, ← String.length_toList, ← hsource, List.length_append]

/-- **One call of a scanner is one call of the lexer**, and it does not fail. -/
theorem next_of (h : Lexer.Underway source filename l) :
    (of source l).next = .ok (l.next.map Prod.fst, of source (l.take 1).2) := by
  cases hahead : l.ahead with
  | none =>
    have hnone := Lexer.next_eq_none_iff.2 hahead
    rw [next_of_exhausted hahead, hnone, Lexer.take_of_next_none hnone]
    rfl
  | some rest =>
    obtain ⟨hrest, hlen⟩ := rest_of_underway h hahead
    cases rest with
    | nil =>
      have hnext : l.next = some (.endMarker, l.finish) := by rw [Lexer.next, hahead]
      rw [next_of_nil hahead hlen, Lexer.take_succ_of_next hnext, hnext]
      rfl
    | cons c cs =>
      have hnext : l.next = some ((Lexeme.read c cs).1.token l.cursor.offset,
          (l.note c).pass (Lexeme.read c cs).1 (Lexeme.read c cs).2) := by rw [Lexer.next, hahead]
      rw [next_of_cons hahead hrest, Lexer.take_succ_of_next hnext, hnext]
      rfl

theorem calls_of (h : Lexer.Underway source filename l) (k : Nat) : (of source l).calls k =
    .ok ((List.range k).map fun i => l.drain.1[i]?, of source (l.take k).2) := by
  induction k generalizing l with
  | zero => rfl
  | succ k ih =>
    have hfirst : l.next.map Prod.fst = l.drain.1[0]? := by
      rw [show l.next = _ from Lexer.next_take l 0]
      cases l.drain.1[0]? <;> rfl
    have hlater : ∀ i, (l.take 1).2.drain.1[i]? = l.drain.1[i + 1]? := by
      intro i
      rw [Lexer.drain_take, List.getElem?_drop, Nat.add_comm]
    rw [calls, next_of h, ok_bind]
    dsimp only
    rw [ih (h.take 1), ok_bind, hfirst, Nat.add_comm k 1, Lexer.take_add, Nat.add_comm 1 k,
      List.range_succ_eq_map, List.map_cons, List.map_map]
    simp only [hlater]
    rfl

end Lexers

end Scanner

/-! ## Which texts have a code point -/

theorem onlyChar_eq_error_iff {text : String} {e : NotOneCharacter} :
    onlyChar text = .error e ↔ text.length ≠ 1 ∧ e = ⟨text.length⟩ := by
  rw [onlyChar, ← String.length_toList]
  split
  · rename_i c hc
    simp [hc]
  · rename_i cs hcs
    have hlen : text.toList.length ≠ 1 := by
      intro hone
      obtain ⟨c, hc⟩ := List.length_eq_one_iff.1 hone
      exact hcs c hc
    simp [hlen, eq_comm]

namespace Diagnostic
variable {text : String} {location : Location} {e : NotOneCharacter}

theorem unusualText_eq_error_iff :
    unusualText text location = .error e ↔ text.length ≠ 1 ∧ e = ⟨text.length⟩ := by
  rw [← onlyChar_eq_error_iff, unusualText]
  cases onlyChar text <;> simp [Except.map]

theorem invalidText_eq_error_iff : invalidText text location = .error e ↔
    text ∉ Lookalike.keys ∧ (∃ c ∈ text.toList, isPrintable c = false) ∧ text.length ≠ 1 ∧
      e = ⟨text.length⟩ := by
  have hhelp : invalidText text location = .error e ↔ Help.ofText text = .error e := by
    rw [invalidText]
    cases Help.ofText text <;> simp [Except.map]
  rw [hhelp, Help.ofText, ← onlyChar_eq_error_iff]
  rcases Lookalike.suggestions_cases text with ⟨hkey, d, hone, -⟩ | ⟨hkey, hnone⟩
  · have hmem : text ∈ Lookalike.keys := List.contains_iff_mem.1 hkey
    simp [hone, hmem]
  · have hmem : text ∉ Lookalike.keys := by simpa using hkey
    rw [hnone, if_neg (by simp)]
    by_cases hall : text.toList.all isPrintable = true
    · rw [if_pos hall]
      have hno : ¬ ∃ c ∈ text.toList, isPrintable c = false := by simpa using hall
      simp [hno]
    · rw [if_neg hall]
      have hsome : ∃ c ∈ text.toList, isPrintable c = false := by simpa using hall
      cases onlyChar text <;> simp [Except.map, hmem, hsome]

end Diagnostic

/-- **Scanning never fails.** Any number of calls for a token succeed, on any source: every look-up finds its
character, every code point is asked of one character, and a number grows by amounts from zero to nine only.
The scanner comes to the states of the lexer. Asked for with a text, the error is refused if the text is no
look-alike, cannot be shown and is not one character long; the warning if it is not one character long. -/
theorem scanning_never_fails (source filename : String) :
    (∀ k, (Scanner.start source filename).calls k =
        .ok ((List.range k).map fun i => (tokenize source filename)[i]?,
          .of source (called source filename k)) ∧
      (Scanner.of source (called source filename k)).next =
        .ok ((tokenize source filename)[k]?, .of source (called source filename (k + 1)))) ∧
    (∀ text location, (∃ e, Diagnostic.invalidText text location = .error e) ↔
      text ∉ Lookalike.keys ∧ (∃ c ∈ text.toList, isPrintable c = false) ∧ text.length ≠ 1) ∧
    (∀ location, ∃ d, Diagnostic.invalidText "" location = .ok d) ∧
    ∀ text location, (∃ e, Diagnostic.unusualText text location = .error e) ↔ text.length ≠ 1 := by
  refine ⟨fun k => ⟨?_, ?_⟩, fun text location => ?_, fun location => ⟨_, rfl⟩, fun text location => ?_⟩
  · rw [Scanner.start_eq_of, Scanner.calls_of (Lexer.underway_start source filename), called,
      Lexer.after_replicate_next]
    rfl
  · have hway : Lexer.Underway source filename (called source filename k) :=
      Lexer.underway_after source filename _
    have hlater : ((called source filename k).take 1).2 = called source filename (k + 1) := by
      rw [called, called, Lexer.after_replicate_next, Lexer.after_replicate_next, Lexer.take_add]
    rw [Scanner.next_of hway, next_called, hlater]
    cases (tokenize source filename)[k]? <;> rfl
  · simp only [Diagnostic.invalidText_eq_error_iff]
    simp
  · simp only [Diagnostic.unusualText_eq_error_iff]
    simp

end ArithLex
