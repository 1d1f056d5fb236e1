import ArithLex.Proofs.Lexer.State
import ArithLex.Proofs.Token.Insertion
import Mathlib.Data.List.Forall2

/-!
# Sources of the same classes of characters

Which tokens a source has, and where they stand, is decided by the classes of its characters. So two
lexers whose sources agree in these go abreast (`Lexer.Abreast`): each step takes both equally far. Where
the sources have their line feeds at the same places too, the lexers agree in line and column.
-/

set_option autoImplicit false

namespace ArithLex
open Text Lexeme

/-- Two characters of one class: both are digits, both are blanks, they are the same punctuation
character, or both begin no token. -/
def Alike (c d : Char) : Prop :=
  (c.isDigit = true ∧ d.isDigit = true) ∨ (isBlank c = true ∧ isBlank d = true) ∨
    ((Kind.ofChar? c).isSome = true ∧ c = d) ∨ (Rejected c ∧ Rejected d)

instance (c d : Char) : Decidable (Alike c d) :=
  inferInstanceAs (Decidable ((c.isDigit = true ∧ d.isDigit = true) ∨
    (isBlank c = true ∧ isBlank d = true) ∨ ((Kind.ofChar? c).isSome = true ∧ c = d) ∨
    (Rejected c ∧ Rejected d)))

/-- The kind of a token and where it begins and ends. -/
def Token.outline (t : Token) : Kind × Int × Int := (t.kind, t.span.start, t.span.stop)

def Diagnostic.place (d : Diagnostic) : Int × Int × Int :=
  (d.location.line, d.location.column, d.location.offset)

theorem place_invalidCharacter (c : Char) (p : Location) :
    (Diagnostic.invalidCharacter c p).place = (p.line, p.column, p.offset) := rfl

theorem alike_iff {c d : Char} : Alike c d ↔ CharClass.of c = CharClass.of d := by
  constructor
  · rintro (⟨hc, hd⟩ | ⟨hc, hd⟩ | ⟨-, rfl⟩ | ⟨hc, hd⟩)
    · rw [CharClass.of_eq_digit_iff.2 hc, CharClass.of_eq_digit_iff.2 hd]
    · rw [CharClass.of_eq_blank_iff.2 hc, CharClass.of_eq_blank_iff.2 hd]
    · rfl
    · rw [CharClass.of_eq_stray_iff.2 hc, CharClass.of_eq_stray_iff.2 hd]
  · intro h
    cases hc : CharClass.of c with
    | digit =>
      exact .inl ⟨CharClass.of_eq_digit_iff.1 hc, CharClass.of_eq_digit_iff.1 (h ▸ hc)⟩
    | blank =>
      exact .inr (.inl ⟨CharClass.of_eq_blank_iff.1 hc, CharClass.of_eq_blank_iff.1 (h ▸ hc)⟩)
    | punctuation k =>
      have hck := CharClass.of_eq_punctuation_iff.1 hc
      have hdk := CharClass.of_eq_punctuation_iff.1 (h ▸ hc)
      have hchar := (Kind.char?_of_ofChar? hck).symm.trans (Kind.char?_of_ofChar? hdk)
      exact .inr (.inr (.inl ⟨by rw [hck]; rfl, Option.some.inj hchar⟩))
    | stray =>
      exact .inr (.inr (.inr ⟨CharClass.of_eq_stray_iff.1 hc, CharClass.of_eq_stray_iff.1 (h ▸ hc)⟩))

theorem Alike.isDigit_eq {c d : Char} (h : Alike c d) : c.isDigit = d.isDigit := by
  rw [Bool.eq_iff_iff, ← CharClass.of_eq_digit_iff, ← CharClass.of_eq_digit_iff, alike_iff.1 h]

theorem Alike.rejected_iff {c d : Char} (h : Alike c d) : Rejected c ↔ Rejected d := by
  rw [← CharClass.of_eq_stray_iff, ← CharClass.of_eq_stray_iff, alike_iff.1 h]

theorem forall₂_run {α : Type} {R : α → α → Prop} {p : α → Bool} (hp : ∀ a b, R a b → p a = p b)
    {as bs : List α} (h : List.Forall₂ R as bs) :
    List.Forall₂ R (as.takeWhile p) (bs.takeWhile p) ∧
      List.Forall₂ R (as.dropWhile p) (bs.dropWhile p) := by
  induction h with
  | nil => exact ⟨.nil, .nil⟩
  | @cons a b as bs hab hrest ih =>
    cases hb : p b with
    | true =>
      have ha : p a = true := (hp a b hab).trans hb
      rw [List.takeWhile_cons_of_pos ha, List.takeWhile_cons_of_pos hb,
        List.dropWhile_cons_of_pos ha, List.dropWhile_cons_of_pos hb]
      exact ⟨.cons hab ih.1, ih.2⟩
    | false =>
      have ha : ¬ p a = true := by simp [hp a b hab, hb]
      have hb : ¬ p b = true := by simp [hb]
      rw [List.takeWhile_cons_of_neg ha, List.takeWhile_cons_of_neg hb,
        List.dropWhile_cons_of_neg ha, List.dropWhile_cons_of_neg hb]
      exact ⟨.nil, .cons hab hrest⟩

/-- Two texts of the same classes begin with lexemes of one kind, whose texts and what follows them
are of the same classes again. -/
theorem read_alike {R : Char → Char → Prop} (hR : ∀ c d, R c d → Alike c d) {c d : Char}
    {cs ds : List Char} (h : R c d) (hs : List.Forall₂ R cs ds) :
    (Lexeme.read c cs).1.kind = (Lexeme.read d ds).1.kind ∧
      List.Forall₂ R (Lexeme.read c cs).1.text (Lexeme.read d ds).1.text ∧
      List.Forall₂ R (Lexeme.read c cs).2 (Lexeme.read d ds).2 := by
  have hof : CharClass.of c = CharClass.of d := alike_iff.1 (hR c d h)
  unfold Lexeme.read
  rw [hof]
  cases CharClass.of d with
  | digit =>
    obtain ⟨hrun, hrest⟩ := forall₂_run (fun a b hab => (hR a b hab).isDigit_eq) hs
    exact ⟨rfl, .cons h hrun, hrest⟩
  | blank | punctuation _ | stray => exact ⟨rfl, .cons h .nil, hs⟩

/-! ## Two lexers -/

namespace Lexer

/-- Two lexers have passed texts that differ only as `R` allows, and have such texts ahead of them. -/
inductive Abreast (R : Char → Char → Prop) (filename filename' : String) : Lexer → Lexer → Prop
  | midway {ps qs rs ss : List Char} : List.Forall₂ R ps qs → List.Forall₂ R rs ss →
      Abreast R filename filename' (.midway filename ps rs) (.midway filename' qs ss)
  | finished {ps qs : List Char} : List.Forall₂ R ps qs →
      Abreast R filename filename' (.finished filename ps) (.finished filename' qs)

section Run
variable {R : Char → Char → Prop} {filename filename' : String} {l m : Lexer}

theorem abreast_start (filename filename' : String) {source other : String}
    (h : List.Forall₂ R source.toList other.toList) :
    Abreast R filename filename' (start source filename) (start other filename') := by
  rw [start_eq_midway, start_eq_midway]
  exact .midway .nil h

theorem Abreast.remaining_eq (h : Abreast R filename filename' l m) : l.remaining = m.remaining := by
  cases h with
  | midway _ hrest => exact congrArg (· + 1) hrest.length_eq
  | finished _ => rfl

theorem Abreast.phase_eq (h : Abreast R filename filename' l m) : l.phase = m.phase := by
  cases h with
  | midway _ _ | finished _ => rfl

theorem Abreast.offset_eq (h : Abreast R filename filename' l m) :
    l.cursor.offset = m.cursor.offset := by
  cases h with
  | midway hpassed _ => simp only [cursor_midway, hpassed.length_eq]
  | finished hpassed => simp only [cursor_finished, hpassed.length_eq]

section Steps
variable (hR : ∀ c d, R c d → Alike c d)
include hR

/-- Lexers abreast are at the end together, or go on abreast past tokens of one outline. -/
theorem Abreast.next (h : Abreast R filename filename' l m) :
    Option.Rel (fun p q => p.1.outline = q.1.outline ∧ Abreast R filename filename' p.2 q.2)
      l.next m.next := by
  cases h with
  | finished _ => exact .none
  | @midway ps qs rs ss hpassed hrest =>
    cases hrest with
    | nil => exact .some ⟨rfl, .finished hpassed⟩
    | cons hcd hrest =>
      obtain ⟨hkind, htext, hrest⟩ := read_alike hR hcd hrest
      rw [next_midway_cons, next_midway_cons]
      refine .some ⟨?_, .midway (List.rel_append hpassed htext) hrest⟩
      simp only [Token.outline, Lexeme.token, hkind, hpassed.length_eq, htext.length_eq]

theorem Abreast.take (h : Abreast R filename filename' l m) (n : Nat) :
    (l.take n).1.map Token.outline = (m.take n).1.map Token.outline ∧
      Abreast R filename filename' (l.take n).2 (m.take n).2 := by
  induction n generalizing l m with
  | zero => exact ⟨rfl, h⟩
  | succ n ih =>
    have hnext := h.next hR
    generalize hl : l.next = o, hm : m.next = o' at hnext
    cases hnext with
    | none =>
      rw [take_of_next_none hl, take_of_next_none hm]
      exact ⟨rfl, h⟩
    | @some p q hpq =>
      obtain ⟨houtline, hafter⟩ := hpq
      obtain ⟨hrest, hlast⟩ := ih hafter
      rw [take_succ_of_next hl, take_succ_of_next hm, List.map_cons, List.map_cons, houtline, hrest]
      exact ⟨rfl, hlast⟩

theorem Abreast.after (h : Abreast R filename filename' l m) (steps : List Step) :
    Abreast R filename filename' (l.after steps) (m.after steps) := by
  induction steps generalizing l m with
  | nil => exact h
  | cons s ss ih =>
    have hdemand : l.demand s = m.demand s := by
      cases s <;> simp only [demand, h.remaining_eq]
    rw [Lexer.after, Lexer.after, (perform_eq_take l s).2, (perform_eq_take m s).2, hdemand]
    exact ih (h.take hR _).2

theorem length_errors_eq {ps qs : List Char} (h : List.Forall₂ R ps qs) :
    (remarks Diagnostic.errorAt? filename .start ps).length =
      (remarks Diagnostic.errorAt? filename' .start qs).length := by
  have hrejected : List.Forall₂ R (ps.filter fun c => decide (Rejected c))
      (qs.filter fun c => decide (Rejected c)) :=
    List.rel_filter (fun c d hcd => by simpa using (hR c d hcd).rejected_iff) h
  rw [← (errorsFor_remarks filename .start ps).length_eq,
    ← (errorsFor_remarks filename' .start qs).length_eq, hrejected.length_eq]

theorem Abreast.size_errors_eq (h : Abreast R filename filename' l m) :
    l.errors.size = m.errors.size := by
  cases h with
  | midway hpassed _ | finished hpassed => exact length_errors_eq hR hpassed

end Steps

/-! ## Lines and columns -/

section Lines
variable (hfeed : ∀ c d, R c d → (c = '\n' ↔ d = '\n'))
include hfeed

theorem advance_eq {c d : Char} (h : R c d) (p : Cursor) : p.advance c = p.advance d := by
  simp only [Cursor.advance, hfeed c d h]

theorem advanceBy_eq {ps qs : List Char} (h : List.Forall₂ R ps qs) (p : Cursor) :
    p.advanceBy ps = p.advanceBy qs := by
  induction h generalizing p with
  | nil => rfl
  | cons hcd _ ih => rw [Cursor.advanceBy_cons, Cursor.advanceBy_cons, advance_eq hfeed hcd, ih]

theorem Abreast.cursor_eq (h : Abreast R filename filename' l m) : l.cursor = m.cursor := by
  cases h with
  | midway hpassed _ => exact advanceBy_eq hfeed hpassed .start
  | finished hpassed =>
    have hcursor := advanceBy_eq hfeed hpassed .start
    simp only [Lexer.finished, finish, Lexer.midway, hcursor]

variable (hR : ∀ c d, R c d → Alike c d)
include hR

theorem map_place_errors_eq {ps qs : List Char} (h : List.Forall₂ R ps qs) (p : Cursor) :
    (remarks Diagnostic.errorAt? filename p ps).map Diagnostic.place =
      (remarks Diagnostic.errorAt? filename' p qs).map Diagnostic.place := by
  induction h generalizing p with
  | nil => rfl
  | @cons c d _ _ hcd _ ih =>
    rw [remarks_cons, remarks_cons, List.map_append, List.map_append, advance_eq hfeed hcd, ih]
    congr 1
    have hof : CharClass.of c = CharClass.of d := alike_iff.1 (hR c d hcd)
    by_cases hd : CharClass.of d = .stray
    · rw [errorAt?_of_stray _ (hof.trans hd), errorAt?_of_stray _ hd]
      simp only [Option.toList_some, List.map_singleton, place_invalidCharacter,
        Cursor.location]
    · rw [errorAt?_of_ne_stray _ fun hc => hd (hof ▸ hc), errorAt?_of_ne_stray _ hd]

theorem Abreast.map_place_errors_eq (h : Abreast R filename filename' l m) :
    l.errors.toList.map Diagnostic.place = m.errors.toList.map Diagnostic.place := by
  cases h with
  | midway hpassed _ | finished hpassed => exact Lexer.map_place_errors_eq hfeed hR hpassed .start

end Lines

end Run

end Lexer

theorem outlines_tokenize_eq {source other : String} (filename filename' : String)
    (h : List.Forall₂ Alike source.toList other.toList) :
    (tokenize source filename).map Token.outline = (tokenize other filename').map Token.outline := by
  have hstart : Lexer.Abreast Alike filename filename' (.start source filename)
      (.start other filename') := Lexer.abreast_start filename filename' h
  unfold tokenize Lexer.drain
  rw [hstart.remaining_eq]
  exact (hstart.take (fun _ _ hcd => hcd) _).1

/-- **The classes of its characters tell the kinds and places of the tokens of a source.** Two lexers of sources
with the same classes, asked for the same, are equally far after each step and have as many errors. If the line
feeds are at the same indices too, they agree in line and column, and their errors are at the same places. -/
theorem classes_tell_kinds_and_places (source other filename filename' : String)
    (h : List.Forall₂ Alike source.toList other.toList) :
    (tokenize source filename).map Token.outline = (tokenize other filename').map Token.outline ∧
      (∀ steps, let l := (Lexer.start source filename).after steps
        let m := (Lexer.start other filename').after steps
        l.cursor.offset = m.cursor.offset ∧ l.phase = m.phase ∧ l.errors.size = m.errors.size) ∧
      (List.Forall₂ (fun c d => c = '\n' ↔ d = '\n') source.toList other.toList → ∀ steps,
        let l := (Lexer.start source filename).after steps
        let m := (Lexer.start other filename').after steps
        l.cursor.line = m.cursor.line ∧ l.cursor.column = m.cursor.column ∧
          l.errors.toList.map Diagnostic.place = m.errors.toList.map Diagnostic.place) := by
  refine ⟨outlines_tokenize_eq filename filename' h, fun steps => ?_, fun hfeed steps => ?_⟩
  · have hR : ∀ c d, Alike c d → Alike c d := fun _ _ hcd => hcd
    have hafter := (Lexer.abreast_start filename filename' h).after hR steps
    exact ⟨hafter.offset_eq, hafter.phase_eq, hafter.size_errors_eq hR⟩
  · have hboth : List.Forall₂ (fun c d => Alike c d ∧ (c = '\n' ↔ d = '\n')) source.toList other.toList := by
      rw [List.forall₂_iff_zip] at h hfeed ⊢
      exact ⟨h.1, fun hmem => ⟨h.2 hmem, hfeed.2 hmem⟩⟩
    have hafter := (Lexer.abreast_start filename filename' hboth).after
      (fun _ _ hcd => hcd.1) steps
    have hcursor := hafter.cursor_eq fun _ _ hcd => hcd.2
    exact ⟨congrArg Cursor.line hcursor, congrArg Cursor.column hcursor,
      hafter.map_place_errors_eq (fun _ _ hcd => hcd.2) fun _ _ hcd => hcd.1⟩

theorem classes_tell_kinds_and_places_of_two :
    List.Forall₂ Alike "40 +\n?".toList "17\t+\n×".toList ∧
      (tokenize "40 +\n?" "left").map Token.outline = (tokenize "17\t+\n×" "right").map Token.outline ∧
      List.Forall₂ (fun c d => c = '\n' ↔ d = '\n') "40 +\n?".toList "17\t+\n×".toList ∧
      ((Lexer.start "40 +\n?" "left").after [.drain]).errors.toList.map Diagnostic.place =
        ((Lexer.start "17\t+\n×" "right").after [.drain]).errors.toList.map Diagnostic.place := by
  have halike : List.Forall₂ Alike "40 +\n?".toList "17\t+\n×".toList := by decide
  have hfeed : List.Forall₂ (fun c d => c = '\n' ↔ d = '\n') "40 +\n?".toList "17\t+\n×".toList := by
    decide
  obtain ⟨hkinds, -, hplaces⟩ := classes_tell_kinds_and_places "40 +\n?" "17\t+\n×" "left" "right" halike
  exact ⟨halike, hkinds, hfeed, (hplaces hfeed [.drain]).2.2⟩

end ArithLex
