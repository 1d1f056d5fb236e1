import ArithLex.Proofs.Lexer.Pulls
import ArithLex.Proofs.Location.Lines

/-!
# Places that a lexer reports

The locations of a lexer and of its findings lead back to the source (`Lexer.Reports`): line and column are
those of the offset, and the character there is the one that the finding names.
-/

set_option autoImplicit false

namespace ArithLex
open Text

theorem eq_of_errorAt? {c : Char} {p : Location} {e : Diagnostic} (h : Diagnostic.errorAt? c p = some e) :
    c ≠ '\n' ∧ e = .invalidCharacter c p := by
  by_cases hc : CharClass.of c = .stray
  · rw [errorAt?_of_stray p hc, Option.some.injEq] at h
    refine ⟨?_, h.symm⟩
    rintro rfl
    exact absurd hc (by decide)
  · rw [errorAt?_of_ne_stray p hc] at h
    cases h

theorem eq_of_warningAt? {c : Char} {p : Location} {w : Diagnostic}
    (h : Diagnostic.warningAt? c p = some w) : c ≠ '\n' ∧ w = .unusualBlank c p := by
  by_cases hc : CharClass.of c = .blank ∧ isCommonBlank c = false
  · rw [warningAt?_of_unusual p hc, Option.some.injEq] at h
    refine ⟨?_, h.symm⟩
    rintro rfl
    exact absurd hc.2 (by decide)
  · rw [warningAt?_of_not_unusual p hc] at h
    cases h

namespace Lexer
variable {source filename : String} {l : Lexer}

theorem Underway.exists_passed (h : Underway source filename l) : ∃ passed rest,
    passed ++ rest = source.toList ∧
      l.errors.toList = remarks Diagnostic.errorAt? filename .start passed ∧
      l.warnings.toList = remarks Diagnostic.warningAt? filename .start passed := by
  cases h with
  | midway hsource => exact ⟨_, _, hsource, rfl, rfl⟩
  | finished => exact ⟨source.toList, [], List.append_nil _, rfl, rfl⟩

theorem Underway.error_eq (h : Underway source filename l) {e : Diagnostic} (he : e ∈ l.errors) :
    ∃ i c, source.toList[i]? = some c ∧ c ≠ '\n' ∧
      e = .invalidCharacter c (locate filename source.toList i) := by
  obtain ⟨passed, rest, hsource, herrors, -⟩ := h.exists_passed
  rw [← Array.mem_toList_iff, herrors, mem_remarks_iff _ _ passed rest, hsource] at he
  obtain ⟨i, -, c, hi, hc⟩ := he
  exact ⟨i, c, hi, eq_of_errorAt? hc⟩

theorem Underway.warning_eq (h : Underway source filename l) {w : Diagnostic} (hw : w ∈ l.warnings) :
    ∃ i c, source.toList[i]? = some c ∧ c ≠ '\n' ∧
      w = .unusualBlank c (locate filename source.toList i) := by
  obtain ⟨passed, rest, hsource, -, hwarnings⟩ := h.exists_passed
  rw [← Array.mem_toList_iff, hwarnings, mem_remarks_iff _ _ passed rest, hsource] at hw
  obtain ⟨i, -, c, hi, hc⟩ := hw
  exact ⟨i, c, hi, eq_of_warningAt? hc⟩

/-! ## Reported places -/

/-- The places that a lexer of a source tells of: where it stands while it has tokens left, and the
places of its errors and warnings, after any steps. -/
inductive Reports (source filename : String) : Location → Prop
  | cursor {steps : List Step} : ((start source filename).after steps).phase = .scanning →
      Reports source filename ((start source filename).after steps).location
  | error {steps : List Step} {e : Diagnostic} : e ∈ ((start source filename).after steps).errors →
      Reports source filename e.location
  | warning {steps : List Step} {w : Diagnostic} : w ∈ ((start source filename).after steps).warnings →
      Reports source filename w.location

theorem Underway.location_eq (h : Underway source filename l) (hphase : l.phase = .scanning) :
    ∃ i ≤ source.toList.length, l.location = locate filename source.toList i := by
  cases h with
  | @midway passed rest hsource =>
    refine ⟨passed.length, ?_, ?_⟩
    · rw [← hsource, List.length_append]
      omega
    · rw [← hsource]
      exact location_advanceBy_start filename passed rest
  | finished => cases hphase

theorem Reports.eq_locate {p : Location} (h : Reports source filename p) :
    ∃ i ≤ source.toList.length, p = locate filename source.toList i := by
  cases h with
  | cursor hphase => exact (underway_after source filename _).location_eq hphase
  | error he =>
    obtain ⟨i, c, hi, -, rfl⟩ := (underway_after source filename _).error_eq he
    exact ⟨i, Nat.le_of_lt (List.getElem?_eq_some_iff.1 hi).1, rfl⟩
  | warning hw =>
    obtain ⟨i, c, hi, -, rfl⟩ := (underway_after source filename _).warning_eq hw
    exact ⟨i, Nat.le_of_lt (List.getElem?_eq_some_iff.1 hi).1, rfl⟩

theorem Reports.inText {p : Location} (h : Reports source filename p) : p.InText source.toList := by
  obtain ⟨i, hi, rfl⟩ := h.eq_locate
  exact inText_locate filename hi

theorem Reports.filename_eq {p : Location} (h : Reports source filename p) : p.filename = filename := by
  obtain ⟨i, hi, rfl⟩ := h.eq_locate
  rfl

end Lexer

/-- **Reported places lead back to the source.** Line and column of a place that a lexer tells of are in the lines
of the source, and the offset is theirs; at the place of a finding stands the character that it names; and of
two places the order, and whether the short forms are the same, is told by the offsets. -/
theorem reported_places_resolve (source filename : String) :
    (∀ p, Lexer.Reports source filename p → p.InText source.toList) ∧
      (∀ steps, let l := (Lexer.start source filename).after steps
        (∀ e ∈ l.errors, ∃ c, e.message = "Invalid character: " ++ quote (String.singleton c) ∧
          source.toList[e.location.offset.toNat]? = some c ∧
          e.location.charIn? source.toList = some c) ∧
        ∀ w ∈ l.warnings, ∃ c, w.message = "Unusual whitespace character " ++ codePointName c ∧
          source.toList[w.location.offset.toNat]? = some c ∧
          w.location.charIn? source.toList = some c) ∧
      ∀ p q, Lexer.Reports source filename p → Lexer.Reports source filename q →
        (p.offset < q.offset ↔ p.line < q.line ∨ p.line = q.line ∧ p.column < q.column) ∧
          (p.short = q.short ↔ p.offset = q.offset) := by
  refine ⟨fun p hp => hp.inText, fun steps => ⟨fun e he => ?_, fun w hw => ?_⟩,
    fun p q hp hq => ⟨?_, ?_⟩⟩
  · obtain ⟨i, c, hi, hc, rfl⟩ := (Lexer.underway_after source filename steps).error_eq he
    exact ⟨c, rfl, hi, charIn?_locate filename hi hc⟩
  · obtain ⟨i, c, hi, hc, rfl⟩ := (Lexer.underway_after source filename steps).warning_eq hw
    exact ⟨c, rfl, hi, charIn?_locate filename hi hc⟩
  · exact hp.inText.offset_lt_iff hq.inText
  · exact hp.inText.short_eq_iff hq.inText (hp.filename_eq.trans hq.filename_eq.symm)

theorem reported_places_resolve_on_second_line :
    let source := "7\n ?\u2028"
    let p : Location := ⟨"a:1", 2, 1, 2⟩
    let e := Diagnostic.invalidCharacter '?' ⟨"a:1", 2, 2, 3⟩
    let w := Diagnostic.unusualBlank '\u2028' ⟨"a:1", 2, 3, 4⟩
    (Lexer.Reports source "a:1" p ∧ p.InText source.toList) ∧
      (Lexer.Reports source "a:1" e.location ∧ e.location.InText source.toList) ∧
      (∃ c, w.message = "Unusual whitespace character " ++ codePointName c ∧
        source.toList[w.location.offset.toNat]? = some c ∧ w.location.charIn? source.toList = some c) ∧
      (∃ c, e.message = "Invalid character: " ++ quote (String.singleton c) ∧
        source.toList[e.location.offset.toNat]? = some c ∧ e.location.charIn? source.toList = some c) ∧
      (p.offset < e.location.offset ↔
        p.line < e.location.line ∨ p.line = e.location.line ∧ p.column < e.location.column) ∧
      (p.short = e.location.short ↔ p.offset = e.location.offset) := by
  have herrors : ((Lexer.start "7\n ?\u2028" "a:1").after [.drain]).errors =
      #[.invalidCharacter '?' ⟨"a:1", 2, 2, 3⟩] := by rfl
  have hwarnings : ((Lexer.start "7\n ?\u2028" "a:1").after [.drain]).warnings =
      #[.unusualBlank '\u2028' ⟨"a:1", 2, 3, 4⟩] := by rfl
  intro source p e w
  have hplace : ((Lexer.start source "a:1").after [.take 2]).location = p := by decide
  have hp : Lexer.Reports source "a:1" p := hplace ▸ .cursor (by decide)
  have he : e ∈ ((Lexer.start source "a:1").after [.drain]).errors := by rw [herrors]; simp [e]
  have hw : w ∈ ((Lexer.start source "a:1").after [.drain]).warnings := by rw [hwarnings]; simp [w]
  have hq : Lexer.Reports source "a:1" e.location := .error he
  obtain ⟨hin, hfound, horder⟩ := reported_places_resolve source "a:1"
  exact ⟨⟨hp, hin p hp⟩, ⟨hq, hin _ hq⟩, (hfound [.drain]).2 w hw, (hfound [.drain]).1 e he,
    horder p _ hp hq⟩

end ArithLex
