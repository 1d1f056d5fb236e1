import ArithLex.Proofs.Lexer.State

/-!
# Two texts side by side

Lexing two texts one after another is lexing each by itself, unless digits meet at the seam: then the two
numbers there become one (`lexemes_append_seam`). For findings nothing special happens there, since no digit
gives rise to one, and lines and columns are counted character by character (`Diagnostic.relocate`).
-/

set_option autoImplicit false

namespace ArithLex
open Text Lexeme

/-- A token so many characters further on. The end marker has no place to move. -/
def Token.shift (n : Nat) (t : Token) : Token :=
  if t.isEof then t else ⟨t.kind, ⟨t.span.start + n, t.span.stop + n, t.span.literal⟩, t.value⟩

def EndsWithDigit (s : String) : Prop := ∃ c ∈ s.toList.getLast?, c.isDigit = true

def BeginsWithDigit (s : String) : Prop := ∃ c ∈ s.toList.head?, c.isDigit = true

instance (s : String) : Decidable (EndsWithDigit s) :=
  decidable_of_iff (s.toList.getLast?.any Char.isDigit = true) (Option.any_eq_true _ _)

instance (s : String) : Decidable (BeginsWithDigit s) :=
  decidable_of_iff (s.toList.head?.any Char.isDigit = true) (Option.any_eq_true _ _)

theorem shift_token (n m : Nat) {x : Lexeme} (h : x.kind ≠ .eof) :
    (x.token m).shift n = x.token (n + m) := by
  have heof : ¬ (x.token m).isEof = true := by simpa [Token.isEof, token] using h
  have hstart : (m : Int) + n = (n + m : Nat) := by omega
  have hstop : ((m + x.text.length : Nat) : Int) + n = (n + m + x.text.length : Nat) := by omega
  rw [Token.shift, if_neg heof, token, token]
  simp only [hstart, hstop]

theorem map_shift_place (n m : Nat) {xs : List Lexeme} (h : ∀ x ∈ xs, x.Formed) :
    (place m xs).map (Token.shift n) = place (n + m) xs := by
  induction xs generalizing m with
  | nil => rfl
  | cons x xs ih =>
    rw [place_cons, place_cons, List.map_cons, ih _ fun y hy => h y (by simp [hy]),
      shift_token n m (h x (by simp)).kind_ne_eof, Nat.add_assoc n]

theorem lexemes_append {cs ds : List Char}
    (h : ¬ ((∃ c ∈ cs.getLast?, c.isDigit = true) ∧ ∃ d ∈ ds.head?, d.isDigit = true)) :
    lexemes (cs ++ ds) = lexemes cs ++ lexemes ds := by
  have hcs := splits_lexemes cs
  have hds := splits_lexemes ds
  refine (hcs.append hds fun x hx y hy hboth => h ⟨?_, ?_⟩).eq_lexemes.symm
  · exact hcs.getLast?_isDigit.1 ⟨x, hx, hboth.1⟩
  · exact hds.head?_isDigit.1 ⟨y, hy, hboth.2⟩

theorem lexemes_append_seam {cs ds : List Char} (hc : ∃ c ∈ cs.getLast?, c.isDigit = true)
    (hd : ∃ d ∈ ds.head?, d.isDigit = true) :
    ∃ xs es fs ys, lexemes cs = xs ++ [ofDigits es] ∧ lexemes ds = ofDigits fs :: ys ∧
      lexemes (cs ++ ds) = xs ++ ofDigits (es ++ fs) :: ys := by
  have hcs := splits_lexemes cs
  have hds := splits_lexemes ds
  obtain ⟨x, hx, hxkind⟩ := hcs.getLast?_isDigit.2 hc
  obtain ⟨y, hy, hykind⟩ := hds.head?_isDigit.2 hd
  obtain ⟨xs, hxs⟩ := List.getLast?_eq_some_iff.1 hx
  obtain ⟨ys, hys⟩ := List.head?_eq_some_iff.1 hy
  obtain ⟨es, rfl⟩ := (hcs.formed x (List.mem_of_getLast? hx)).eq_ofDigits hxkind
  obtain ⟨fs, rfl⟩ := (hds.formed y (List.mem_of_mem_head? hy)).eq_ofDigits hykind
  refine ⟨xs, es, fs, ys, hxs, hys, ?_⟩
  rw [hxs] at hcs
  rw [hys] at hds
  exact (hcs.fuse hds).eq_lexemes.symm

theorem token_ofDigits (ds : List Char) (n : Nat) : (ofDigits ds).token n =
    ⟨.number, ⟨n, (n + ds.length : Nat), String.ofList ds⟩, some (decimalValue ds)⟩ := by
  rw [← ofDigitChars_eq_decimalValue]
  rfl

/-- **Lexing is compositional up to the seam.** The tokens of two texts are those of the first without
the end marker and those of the second, further on; only where digits meet, the two numbers there
become one that has their digits and the value of both together. -/
theorem tokenize_append (a b filename : String) :
    (¬ (EndsWithDigit a ∧ BeginsWithDigit b) →
      ∃ ta, tokenize a filename = ta ++ [.endMarker] ∧
        tokenize (a ++ b) filename = ta ++ (tokenize b filename).map (Token.shift a.length)) ∧
    (EndsWithDigit a ∧ BeginsWithDigit b →
      ∃ (ta tb : List Token) (s : Nat) (l₁ l₂ : String) (v₁ v₂ : Nat),
        tokenize a filename = ta ++ [⟨.number, ⟨s, a.length, l₁⟩, some v₁⟩, .endMarker] ∧
        tokenize b filename = ⟨.number, ⟨0, l₂.length, l₂⟩, some v₂⟩ :: tb ∧
        tokenize (a ++ b) filename =
          ta ++ ⟨.number, ⟨s, a.length + l₂.length, l₁ ++ l₂⟩,
            some (v₁ * 10 ^ l₂.length + v₂)⟩ :: tb.map (Token.shift a.length)) := by
  have hb' := (splits_lexemes b.toList).formed
  constructor
  · intro h
    refine ⟨_, tokenize_eq a filename, ?_⟩
    rw [tokenize_eq, tokenize_eq, String.toList_append, lexemes_append h, place_append, textOf_lexemes,
      List.map_append, map_shift_place _ _ hb', String.length_toList, List.append_assoc,
      Nat.zero_add, Nat.add_zero]
    rfl
  · rintro ⟨ha, hb⟩
    obtain ⟨xs, es, fs, ys, hxs, hys, hseam⟩ := lexemes_append_seam ha hb
    have hlen : (textOf xs).length + es.length = a.length := by
      rw [← String.length_toList, ← textOf_lexemes a.toList, hxs, textOf_append, List.length_append]
      simp [ofDigits]
    have hfar : (textOf xs).length + (es ++ fs).length = a.length + fs.length := by
      rw [List.length_append]
      omega
    have hrest : ∀ y ∈ ys, y.Formed := fun y hy => hb' y (by rw [hys]; exact List.mem_cons_of_mem _ hy)
    refine ⟨place 0 xs, place fs.length ys ++ [.endMarker], (textOf xs).length, String.ofList es,
      String.ofList fs, decimalValue es, decimalValue fs, ?_, ?_, ?_⟩
    · rw [tokenize_eq, hxs, place_append, place_cons, token_ofDigits, Nat.zero_add, hlen]
      simp
    · rw [tokenize_eq, hys, place_cons, token_ofDigits, Nat.zero_add, Nat.zero_add]
      simp [ofDigits]
    · rw [tokenize_eq, String.toList_append, hseam, place_append, place_cons, token_ofDigits, Nat.zero_add,
        List.map_append, map_shift_place _ _ hrest, decimalValue_append, String.ofList_append]
      simp only [ofDigits, hfar]
      simp [Token.shift, Token.isEof, Token.endMarker]

theorem tokenize_append_apart_and_meeting :
    ¬ (EndsWithDigit "12" ∧ BeginsWithDigit "+3") ∧
      (∃ ta, tokenize "12" "sum" = ta ++ [.endMarker] ∧
        tokenize ("12" ++ "+3") "sum" = ta ++ (tokenize "+3" "sum").map (Token.shift 2)) ∧
      (EndsWithDigit "7+12" ∧ BeginsWithDigit "034") ∧
      ∃ (ta tb : List Token) (s : Nat) (l₁ l₂ : String) (v₁ v₂ : Nat),
        tokenize "7+12" "sum" = ta ++ [⟨.number, ⟨s, 4, l₁⟩, some v₁⟩, .endMarker] ∧
        tokenize "034" "sum" = ⟨.number, ⟨0, l₂.length, l₂⟩, some v₂⟩ :: tb ∧
        tokenize ("7+12" ++ "034") "sum" =
          ta ++ ⟨.number, ⟨s, 4 + l₂.length, l₁ ++ l₂⟩, some (v₁ * 10 ^ l₂.length + v₂)⟩ ::
            tb.map (Token.shift 4) :=
  ⟨by decide, (tokenize_append "12" "+3" "sum").1 (by decide), by decide,
    (tokenize_append "7+12" "034" "sum").2 (by decide)⟩

/-! ## Findings behind a text -/

/-- A place in a text that is put behind another text, one that ends at a line and a column. What
stands on the first line goes on from that column; on later lines the columns stay. -/
def Location.relocate (line column length : Int) (p : Location) : Location where
  filename := p.filename
  line := line + p.line - 1
  column := if 1 < p.line then p.column else column + p.column - 1
  offset := length + p.offset

def Diagnostic.relocate (line column length : Int) (d : Diagnostic) : Diagnostic :=
  { d with location := d.location.relocate line column length }

theorem relocate_lineAfter_columnAfter (filename : String) (cs ds : List Char) (offset : Int) :
    Location.relocate (lineAfter cs) (columnAfter cs) cs.length
        ⟨filename, lineAfter ds, columnAfter ds, offset⟩ =
      ⟨filename, lineAfter (cs ++ ds), columnAfter (cs ++ ds), cs.length + offset⟩ := by
  have hline := lineAfter_append cs ds
  have hcolumn := columnAfter_append cs ds
  unfold Location.relocate
  by_cases hds : '\n' ∈ ds
  · have hlater : 1 < lineAfter ds := one_lt_lineAfter_iff.2 hds
    rw [if_pos hds] at hcolumn
    simp only [Location.mk.injEq, true_and, and_true]
    refine ⟨by omega, ?_⟩
    rw [if_pos (by omega), hcolumn]
  · have hfirst : ¬ 1 < lineAfter ds := fun h => hds (one_lt_lineAfter_iff.1 h)
    have halone : columnAfter ds = 1 + ds.length := by
      have := columnAfter_append [] ds
      rwa [if_neg hds, List.nil_append] at this
    rw [if_neg hds] at hcolumn
    simp only [Location.mk.injEq, true_and, and_true]
    refine ⟨by omega, ?_⟩
    rw [if_neg (by omega)]
    omega

theorem locate_append (filename : String) (cs ds : List Char) (i : Nat) :
    locate filename (cs ++ ds) (cs.length + i) =
      (locate filename ds i).relocate (lineAfter cs) (columnAfter cs) cs.length := by
  unfold locate
  rw [relocate_lineAfter_columnAfter, List.take_length_add_append, Int.natCast_add]

/-- The location is named in the remark and decides nothing. -/
def RelocatesWell (remark : Char → Location → Option Diagnostic) : Prop :=
  ∀ c p line column length,
    remark c (p.relocate line column length) = (remark c p).map (Diagnostic.relocate line column length)

theorem relocatesWell_errorAt? : RelocatesWell Diagnostic.errorAt? := by
  intro c p line column length
  unfold Diagnostic.errorAt?
  split <;> rfl

theorem relocatesWell_warningAt? : RelocatesWell Diagnostic.warningAt? := by
  intro c p line column length
  unfold Diagnostic.warningAt?
  split <;> rfl

theorem RelocatesWell.remarks_advanceBy {remark : Char → Location → Option Diagnostic}
    (h : RelocatesWell remark) (filename : String) (cs ds : List Char) :
    remarks remark filename (Cursor.start.advanceBy cs) ds =
      (remarks remark filename .start ds).map
        (Diagnostic.relocate (lineAfter cs) (columnAfter cs) cs.length) := by
  rw [remarks_advanceBy_start remark filename cs ds [], remarks_eq_filterMap remark filename ds [],
    List.zipIdx_eq_map_add, List.filterMap_map, List.map_filterMap, List.append_nil, List.append_nil]
  congr 1
  funext ⟨c, i⟩
  show remark c (locate filename (cs ++ ds) (cs.length + i)) = _
  rw [locate_append, h]

/-- **What is found in two texts side by side** is what is found in the first, and what is found in
the second, moved behind the first; and the lexer ends at the moved end of the second. No condition is
put on the characters that meet. -/
theorem findings_append (a b filename : String) :
    (drained (a ++ b) filename).errors.toList =
        (drained a filename).errors.toList ++ (drained b filename).errors.toList.map
          (Diagnostic.relocate (drained a filename).cursor.line (drained a filename).cursor.column
            a.length) ∧
      (drained (a ++ b) filename).warnings.toList =
        (drained a filename).warnings.toList ++ (drained b filename).warnings.toList.map
          (Diagnostic.relocate (drained a filename).cursor.line (drained a filename).cursor.column
            a.length) ∧
      (drained (a ++ b) filename).location = (drained b filename).location.relocate
        (drained a filename).cursor.line (drained a filename).cursor.column a.length := by
  rw [cursor_drained a filename, ← String.length_toList]
  refine ⟨?_, ?_, ?_⟩
  · rw [errors_drained, errors_drained, errors_drained, String.toList_append, remarks_append,
      relocatesWell_errorAt?.remarks_advanceBy]
  · rw [warnings_drained, warnings_drained, warnings_drained, String.toList_append, remarks_append,
      relocatesWell_warningAt?.remarks_advanceBy]
  · have hlength : ((a ++ b).length : Int) + 1 = a.toList.length + (b.length + 1) := by
      rw [String.length_append, String.length_toList]
      omega
    rw [location_drained, location_drained, String.toList_append, hlength,
      relocate_lineAfter_columnAfter]

end ArithLex
