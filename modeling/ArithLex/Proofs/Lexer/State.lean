import ArithLex.Proofs.Lexer.Pulls
import ArithLex.Proofs.Location.Lines

/-!
# The state of a lexer

All parts of a lexer that has been asked for tokens can be told from its offset and the source alone: its
findings are one for each character before the offset that gives rise to one. The strict reading of a
source ends with the first of the errors that there are at the end.
-/

set_option autoImplicit false

namespace ArithLex
open Text

/-- The errors for the characters before index `p`: one for each that begins no token, in order. -/
def errorsBefore (filename : String) (cs : List Char) (p : Nat) : List Diagnostic :=
  ((cs.take p).zipIdx.filter fun (c, _) => decide (Rejected c)).map
    fun (c, i) => .invalidCharacter c (locate filename cs i)

/-- The warnings for the characters before index `p`: one for each blank that is not common, in order. -/
def warningsBefore (filename : String) (cs : List Char) (p : Nat) : List Diagnostic :=
  ((cs.take p).zipIdx.filter fun (c, _) => isBlank c && !isCommonBlank c).map
    fun (c, i) => .unusualBlank c (locate filename cs i)

theorem errorsBefore_length (filename : String) (cs ds : List Char) :
    errorsBefore filename (cs ++ ds) cs.length = remarks Diagnostic.errorAt? filename .start cs := by
  rw [errorsBefore, List.take_left, remarks_eq_filterMap _ filename cs ds, ← List.filterMap_eq_map,
    List.filterMap_filter]
  simp only [Diagnostic.errorAt?, CharClass.of_eq_stray_iff, decide_eq_true_eq]
  rfl

theorem warningsBefore_length (filename : String) (cs ds : List Char) :
    warningsBefore filename (cs ++ ds) cs.length =
      remarks Diagnostic.warningAt? filename .start cs := by
  rw [warningsBefore, List.take_left, remarks_eq_filterMap _ filename cs ds, ← List.filterMap_eq_map,
    List.filterMap_filter]
  simp only [Diagnostic.warningAt?, CharClass.of_eq_blank_iff, Bool.and_eq_true, Bool.not_eq_true']
  rfl

namespace Lexer
variable (filename : String) (passed rest : List Char)

theorem cursor_midway :
    (midway filename passed rest).cursor = ⟨passed.length, lineAfter passed, columnAfter passed⟩ :=
  advanceBy_start passed

theorem errors_midway : (midway filename passed rest).errors.toList =
    errorsBefore filename (passed ++ rest) passed.length :=
  (errorsBefore_length filename passed rest).symm

theorem warnings_midway : (midway filename passed rest).warnings.toList =
    warningsBefore filename (passed ++ rest) passed.length :=
  (warningsBefore_length filename passed rest).symm

theorem cursor_finished :
    (finished filename passed).cursor = ⟨passed.length + 1, lineAfter passed, columnAfter passed⟩ := by
  rw [finished, finish, cursor_midway]

end Lexer

/-! ## After any steps -/

/-- **All parts of a lexer can be told from its offset and the source**, whatever was asked of it. Past the end line
and column stay, and only the offset goes one further. -/
theorem state_after_steps (source filename : String) (steps : List Step) :
    let l := (Lexer.start source filename).after steps
    let cs := source.toList
    let p := min l.cursor.offset cs.length
    (l.phase = .scanning ↔ l.cursor.offset ≤ cs.length) ∧
      (l.phase = .exhausted ↔ l.cursor.offset = cs.length + 1) ∧
      l.cursor.offset ≤ cs.length + 1 ∧
      l.cursor.line = 1 + (cs.take p).count '\n' ∧
      l.cursor.column = 1 + ((cs.take p).rtakeWhile (· ≠ '\n')).length ∧
      l.location = ⟨filename, l.cursor.line, l.cursor.column, l.cursor.offset⟩ ∧
      l.errors.toList = errorsBefore filename cs p ∧
      l.warnings.toList = warningsBefore filename cs p := by
  intro l cs p
  have hway : Lexer.Underway source filename l := Lexer.underway_after source filename steps
  clear_value l
  cases hway with
  | @midway passed rest hsource =>
    have hcs : cs = passed ++ rest := hsource.symm
    have hlen : cs.length = passed.length + rest.length := by rw [hcs, List.length_append]
    have hcursor := Lexer.cursor_midway filename passed rest
    have hoffset : (Lexer.midway filename passed rest).cursor.offset = passed.length := by rw [hcursor]
    have hp : p = passed.length := by omega
    have htake : cs.take p = passed := by rw [hp, hcs, List.take_left]
    rw [htake, hp]
    refine ⟨iff_of_true rfl (by omega), iff_of_false (by simp) (by omega), by omega, ?_, ?_, rfl, ?_, ?_⟩
    · rw [hcursor, lineAfter]
    · rw [hcursor, columnAfter]
    · rw [hcs, Lexer.errors_midway]
    · rw [hcs, Lexer.warnings_midway]
  | finished =>
    have hcursor := Lexer.cursor_finished filename source.toList
    have hoffset : (Lexer.finished filename source.toList).cursor.offset = cs.length + 1 := by rw [hcursor]
    have hp : p = cs.length := by omega
    have herrors := Lexer.errors_midway filename cs []
    have hwarnings := Lexer.warnings_midway filename cs []
    rw [List.append_nil] at herrors hwarnings
    rw [hp, List.take_length]
    refine ⟨iff_of_false (by simp) (by omega), iff_of_true rfl hoffset, by omega, ?_, ?_, rfl, herrors,
      hwarnings⟩
    · rw [hcursor, lineAfter]
    · rw [hcursor, columnAfter]

/-! ## At the end -/

/-- The lexer that has delivered all tokens of a source. -/
def drained (source filename : String) : Lexer := (Lexer.start source filename).drain.2

section Parts
variable (source filename : String)

theorem drained_eq : drained source filename = .finished filename source.toList := by
  rw [drained, Lexer.start_eq_midway, Lexer.drain_midway]
  rfl

theorem errors_drained : (drained source filename).errors.toList =
    remarks Diagnostic.errorAt? filename .start source.toList := by
  rw [drained_eq]
  rfl

theorem warnings_drained : (drained source filename).warnings.toList =
    remarks Diagnostic.warningAt? filename .start source.toList := by
  rw [drained_eq]
  rfl

theorem cursor_drained : (drained source filename).cursor =
    ⟨source.length + 1, lineAfter source.toList, columnAfter source.toList⟩ := by
  rw [drained_eq, Lexer.cursor_finished, String.length_toList]

theorem location_drained : (drained source filename).location =
    ⟨filename, lineAfter source.toList, columnAfter source.toList, (source.length : Int) + 1⟩ := by
  unfold Lexer.location
  rw [cursor_drained, drained_eq]
  rfl

end Parts

theorem tokenizeStrict_eq_elim (source filename : String) : tokenizeStrict source filename =
    (remarks Diagnostic.errorAt? filename .start source.toList).head?.elim
      (.ok (tokenize source filename)) .error := by
  rw [← errors_drained, List.head?_eq_getElem?, Array.getElem?_toList]
  unfold tokenizeStrict tokenize drained Lexer.drainStrict
  generalize (Lexer.start source filename).drain = p
  obtain ⟨ts, last⟩ := p
  dsimp only
  cases last.errors[0]? <;> rfl

theorem tokenizeStrict_eq_error_iff {source filename : String} {e : Diagnostic} :
    tokenizeStrict source filename = .error e ↔
      (remarks Diagnostic.errorAt? filename .start source.toList).head? = some e := by
  rw [tokenizeStrict_eq_elim]
  cases (remarks Diagnostic.errorAt? filename .start source.toList).head? <;> simp

theorem exists_tokenizeStrict_eq_error_iff {source filename : String} :
    (∃ e, tokenizeStrict source filename = .error e) ↔
      remarks Diagnostic.errorAt? filename .start source.toList ≠ [] := by
  simp only [tokenizeStrict_eq_error_iff, ne_eq, ← List.head?_eq_none_iff, Option.ne_none_iff_exists']

theorem tokenizeStrict_eq_ok {source filename : String}
    (h : remarks Diagnostic.errorAt? filename .start source.toList = []) :
    tokenizeStrict source filename = .ok (tokenize source filename) := by
  rw [tokenizeStrict_eq_elim, h]
  rfl

end ArithLex
