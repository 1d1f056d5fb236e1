import ArithLex.Lexer.Pull
import ArithLex.Proofs.Lexeme.Place

/-!
# How far a lexer has come

A lexer between two tokens is determined by the text it has passed and the text ahead of it (`midway`). Of
the text passed it has remarked on single characters (`remarks`), and on no digit.
-/

set_option autoImplicit false

namespace ArithLex
open Text Lexeme

/-! ## Remarks -/

variable {α : Type}

/-- What is remarked of the characters of a text, in order, from a cursor on. -/
def remarks (remark : Char → Location → Option α) (filename : String) : Cursor → List Char → List α
  | _, [] => []
  | p, c :: cs => (remark c (p.location filename)).toList ++ remarks remark filename (p.advance c) cs

def SilentOnDigits (remark : Char → Location → Option α) : Prop :=
  ∀ c p, c.isDigit = true → remark c p = none

section Laws
variable (remark : Char → Location → Option α) (filename : String)

@[simp] theorem remarks_nil (p : Cursor) : remarks remark filename p [] = [] := rfl

@[simp] theorem remarks_cons (p : Cursor) (c : Char) (cs : List Char) :
    remarks remark filename p (c :: cs) =
      (remark c (p.location filename)).toList ++ remarks remark filename (p.advance c) cs := rfl

theorem remarks_append (p : Cursor) (cs ds : List Char) :
    remarks remark filename p (cs ++ ds) =
      remarks remark filename p cs ++ remarks remark filename (p.advanceBy cs) ds := by
  induction cs generalizing p with
  | nil => rfl
  | cons c cs ih =>
    rw [List.cons_append, remarks_cons, remarks_cons, ih, Cursor.advanceBy_cons, List.append_assoc]

variable {remark}

theorem remarks_eq_nil (p : Cursor) {cs : List Char} (h : ∀ c ∈ cs, ∀ q, remark c q = none) :
    remarks remark filename p cs = [] := by
  induction cs generalizing p with
  | nil => rfl
  | cons c cs ih =>
    rw [remarks_cons, h c (by simp), ih _ fun d hd => h d (by simp [hd])]
    rfl

theorem SilentOnDigits.remarks_eq_nil (h : SilentOnDigits remark) (p : Cursor) {cs : List Char}
    (hcs : ∀ c ∈ cs, c.isDigit = true) : remarks remark filename p cs = [] :=
  ArithLex.remarks_eq_nil filename p fun c hc q => h c q (hcs c hc)

/-- Of a lexeme only its first character can be remarked on. -/
theorem SilentOnDigits.remarks_read (h : SilentOnDigits remark) (p : Cursor) (c : Char)
    (cs : List Char) : remarks remark filename p (Lexeme.read c cs).1.text =
      (remark c (p.location filename)).toList := by
  unfold Lexeme.read
  split
  · have hrun : remarks remark filename (p.advance c) (cs.takeWhile Char.isDigit) = [] :=
      h.remarks_eq_nil filename _ fun d hd => List.all_eq_true.1 List.all_takeWhile d hd
    rw [Lexeme.ofDigits, remarks_cons, hrun, List.append_nil]
  all_goals simp [Lexeme.single]

end Laws

/-- The error a character gives rise to: one for each stray. -/
def Diagnostic.errorAt? (c : Char) (p : Location) : Option Diagnostic :=
  if CharClass.of c = .stray then some (.invalidCharacter c p) else none

/-- The warning a character gives rise to: one for each blank that is not common. -/
def Diagnostic.warningAt? (c : Char) (p : Location) : Option Diagnostic :=
  if CharClass.of c = .blank ∧ isCommonBlank c = false then some (.unusualBlank c p) else none

def Event.rejectionAt? (c : Char) (p : Location) : Option Event :=
  if CharClass.of c = .stray then some (.rejected c p) else none

section Findings
variable {c : Char} (p : Location)

theorem errorAt?_of_stray (h : CharClass.of c = .stray) :
    Diagnostic.errorAt? c p = some (.invalidCharacter c p) := if_pos h

theorem errorAt?_of_ne_stray (h : CharClass.of c ≠ .stray) : Diagnostic.errorAt? c p = none := if_neg h

theorem warningAt?_of_unusual (h : CharClass.of c = .blank ∧ isCommonBlank c = false) :
    Diagnostic.warningAt? c p = some (.unusualBlank c p) := if_pos h

theorem warningAt?_of_not_unusual (h : ¬ (CharClass.of c = .blank ∧ isCommonBlank c = false)) :
    Diagnostic.warningAt? c p = none := if_neg h

end Findings

theorem silent_errorAt? : SilentOnDigits Diagnostic.errorAt? := by
  intro c p hc
  apply errorAt?_of_ne_stray
  rw [CharClass.of_eq_digit_iff.2 hc]
  simp

theorem silent_warningAt? : SilentOnDigits Diagnostic.warningAt? := by
  intro c p hc
  apply warningAt?_of_not_unusual
  rw [CharClass.of_eq_digit_iff.2 hc]
  simp

theorem silent_rejectionAt? : SilentOnDigits Event.rejectionAt? := by
  intro c p hc
  rw [Event.rejectionAt?, CharClass.of_eq_digit_iff.2 hc, if_neg (by simp)]

/-- Noting a character adds its remarks and changes nothing else. -/
theorem Lexer.note_eq (l : Lexer) (c : Char) : l.note c =
    { l with
      errors := l.errors ++ (Diagnostic.errorAt? c l.location).toList.toArray
      warnings := l.warnings ++ (Diagnostic.warningAt? c l.location).toList.toArray
      journal := l.journal ++ (Event.rejectionAt? c l.location).toList.toArray } := by
  unfold note Diagnostic.errorAt? Diagnostic.warningAt? Event.rejectionAt?
  cases h : CharClass.of c with
  | blank => cases hc : isCommonBlank c <;> simp
  | digit | punctuation | stray => simp

/-! ## Between two tokens -/

namespace Lexer

/-- The lexer that has passed a text and still has another text ahead. -/
def midway (filename : String) (passed rest : List Char) : Lexer where
  filename := filename
  ahead := some rest
  cursor := Cursor.start.advanceBy passed
  errors := (remarks Diagnostic.errorAt? filename .start passed).toArray
  warnings := (remarks Diagnostic.warningAt? filename .start passed).toArray
  journal := (.created filename (passed.length + rest.length) ::
    remarks Event.rejectionAt? filename .start passed).toArray

/-- The lexer that has passed a text and delivered the end marker. -/
def finished (filename : String) (passed : List Char) : Lexer := (midway filename passed []).finish

@[simp] theorem phase_midway (filename : String) (passed rest : List Char) :
    (midway filename passed rest).phase = .scanning := rfl

@[simp] theorem phase_finished (filename : String) (passed : List Char) :
    (finished filename passed).phase = .exhausted := rfl

theorem start_eq_midway (source filename : String) :
    start source filename = midway filename [] source.toList := by
  simp [start, midway, ← String.length_toList]

theorem next_midway_cons (filename : String) (passed : List Char) (c : Char) (cs : List Char) :
    (midway filename passed (c :: cs)).next =
      some ((read c cs).1.token passed.length,
        midway filename (passed ++ (read c cs).1.text) (read c cs).2) := by
  have hlen := congrArg List.length (read_text_append c cs)
  rw [List.length_append, List.length_cons] at hlen
  have hsize : passed.length + (cs.length + 1) =
      passed.length + (read c cs).1.text.length + (read c cs).2.length := by omega
  simp only [next, midway, note_eq, pass, location, Cursor.offset_advanceBy, Cursor.advanceBy_append,
    remarks_append, silent_errorAt?.remarks_read, silent_warningAt?.remarks_read,
    silent_rejectionAt?.remarks_read, List.length_append, List.length_cons, hsize]
  simp [Cursor.start]

theorem next_midway_nil (filename : String) (passed : List Char) :
    (midway filename passed []).next = some (.endMarker, finished filename passed) := rfl

@[simp] theorem next_finished (filename : String) (passed : List Char) :
    (finished filename passed).next = none := rfl

theorem drain_of_next {l m : Lexer} {t : Token} (h : l.next = some (t, m)) :
    l.drain = (t :: m.drain.1, m.drain.2) := by
  have hlt := remaining_next_lt h
  obtain ⟨k, hk⟩ : ∃ k, l.remaining = k + 1 := ⟨l.remaining - 1, by omega⟩
  rw [drain, hk, take_succ_of_next h, take_of_remaining_le (by omega : m.remaining ≤ k)]

theorem drain_of_next_none {l : Lexer} (h : l.next = none) : l.drain = ([], l) :=
  take_of_next_none h _

theorem drain_midway (filename : String) (passed rest : List Char) :
    (midway filename passed rest).drain =
      (place passed.length (lexemes rest) ++ [.endMarker], finished filename (passed ++ rest)) := by
  fun_induction lexemes rest generalizing passed with
  | case1 =>
    rw [drain_of_next (next_midway_nil filename passed), drain_of_next_none (next_finished _ _),
      List.append_nil]
    rfl
  | case2 c cs ih =>
    rw [drain_of_next (next_midway_cons filename passed c cs), ih, place_cons, List.length_append,
      List.append_assoc, read_text_append]
    rfl

end Lexer

/-- **The tokens of a source** are its lexemes, placed one after another, and the end marker. -/
theorem tokenize_eq (source filename : String) :
    tokenize source filename = place 0 (lexemes source.toList) ++ [.endMarker] := by
  rw [tokenize, Lexer.start_eq_midway, Lexer.drain_midway]
  rfl

/-! ## Lexers on their way through a source -/

/-- What becomes of the lexer of a source: it stands before some character, or it has finished. -/
inductive Lexer.Underway (source filename : String) : Lexer → Prop
  | midway {passed rest : List Char} :
    passed ++ rest = source.toList → Underway source filename (.midway filename passed rest)
  | finished : Underway source filename (.finished filename source.toList)

namespace Lexer

theorem underway_start (source filename : String) : Underway source filename (start source filename) := by
  rw [start_eq_midway]
  exact .midway rfl

theorem Underway.next {source filename : String} {l m : Lexer} {t : Token}
    (h : Underway source filename l) (hn : l.next = some (t, m)) : Underway source filename m := by
  cases h with
  | finished => cases hn
  | @midway passed rest hsource =>
    cases rest with
    | nil =>
      cases hn
      rw [List.append_nil] at hsource
      exact hsource ▸ .finished
    | cons c cs =>
      rw [next_midway_cons] at hn
      cases hn
      refine .midway ?_
      rw [List.append_assoc, read_text_append, hsource]

theorem Underway.take {source filename : String} {l : Lexer} (h : Underway source filename l) (k : Nat) :
    Underway source filename (l.take k).2 := by
  induction k generalizing l with
  | zero => exact h
  | succ k ih =>
    cases hn : l.next with
    | none => rwa [take_of_next_none hn]
    | some p =>
      obtain ⟨t, m⟩ := p
      rw [take_succ_of_next hn]
      exact ih (h.next hn)

end Lexer

end ArithLex
