import ArithLex.Proofs.Lexeme.Place
import ArithLex.Proofs.Lexer.Strict
import ArithLex.Proofs.Lexer.Concatenation

/-!
# Whitespace put into a text

Whitespace put between two texts moves the tokens of the second one (`Token.makeRoom`) and leaves all else
as it was. Only a number that goes over the place is cut in two (`Seam`).
-/

set_option autoImplicit false

namespace ArithLex
open Text Lexeme

/-- What becomes of a token when `n` characters are put in at offset `m`: one that starts before it
stays, any other moves on. The end marker has no place to move. -/
def Token.makeRoom (m n : Nat) (t : Token) : Token := if t.span.start < m then t else t.shift n

theorem kind_shift (n : Nat) (t : Token) : (t.shift n).kind = t.kind := by
  unfold Token.shift
  split <;> rfl

theorem kind_makeRoom (m n : Nat) (t : Token) : (t.makeRoom m n).kind = t.kind := by
  unfold Token.makeRoom
  split
  · rfl
  · exact kind_shift n t

theorem stripTrivia_map_makeRoom (m n : Nat) (ts : List Token) :
    stripTrivia (ts.map (Token.makeRoom m n)) = (stripTrivia ts).map (Token.makeRoom m n) := by
  unfold stripTrivia
  rw [List.filter_map]
  congr 1
  refine List.filter_congr fun t _ => ?_
  show (!(t.makeRoom m n).isTrivia) = !t.isTrivia
  rw [Token.isTrivia, Token.isTrivia, kind_makeRoom]

theorem map_makeRoom_before {m : Nat} (n : Nat) {xs : List Lexeme} (h : ∀ x ∈ xs, x.Formed)
    (hm : (textOf xs).length ≤ m) : (place 0 xs).map (Token.makeRoom m n) = place 0 xs := by
  refine (List.map_congr_left fun t ht => ?_).trans (List.map_id _)
  have := start_of_mem_place h ht
  exact if_pos (by omega)

theorem map_makeRoom_behind {k m : Nat} (n : Nat) {xs : List Lexeme} (h : ∀ x ∈ xs, x.Formed)
    (hm : m ≤ k) : (place k xs).map (Token.makeRoom m n) = place (n + k) xs := by
  rw [← map_shift_place n k h]
  refine List.map_congr_left fun t ht => ?_
  have := start_of_mem_place h ht
  exact if_neg (by omega)

theorem map_makeRoom_endMarker (m n : Nat) :
    [Token.endMarker].map (Token.makeRoom m n) = [.endMarker] := by
  rw [List.map_singleton, Token.makeRoom]
  split <;> rfl

/-! ## Whitespace among lexemes -/

/-- Whitespace keeps the texts on both sides apart. -/
theorem lexemes_insert {ws : List Char} (hne : ws ≠ []) (hws : ∀ c ∈ ws, isBlank c = true)
    (cs ds : List Char) :
    lexemes (cs ++ ws ++ ds) = lexemes cs ++ ws.map (single .whitespace) ++ lexemes ds := by
  have hdigit : ∀ c ∈ ws, ¬ c.isDigit = true := by
    intro c hc hd
    have hblank := hws c hc
    rw [CharClass.isBlank_of_isDigit hd] at hblank
    cases hblank
  rw [lexemes_append, lexemes_append, lexemes_blanks hws]
  · rintro ⟨-, c, hc, hd⟩
    exact hdigit c (List.mem_of_mem_head? hc) hd
  · rintro ⟨⟨c, hc, hd⟩, -⟩
    rw [List.getLast?_append_of_ne_nil _ hne] at hc
    exact hdigit c (List.mem_of_getLast? hc) hd

theorem stripTrivia_place_blanks (n : Nat) (ws : List Char) :
    stripTrivia (place n (ws.map (single .whitespace))) = [] := by
  refine List.filter_eq_nil_iff.2 fun t ht => ?_
  obtain ⟨x, hx, m, rfl⟩ := exists_of_mem_place ht
  obtain ⟨c, -, rfl⟩ := List.mem_map.1 hx
  simp [Token.isTrivia, token, single]

theorem stripTrivia_tokenize_insert {a w b : String} (filename : String) (hne : w ≠ "")
    (hw : ∀ c ∈ w.toList, isBlank c = true) :
    stripTrivia (tokenize (a ++ w ++ b) filename) =
      stripTrivia (place 0 (lexemes a.toList)) ++
        stripTrivia (place (w.length + a.length) (lexemes b.toList) ++ [.endMarker]) := by
  have hne' : w.toList ≠ [] := fun h => hne (String.toList_eq_nil_iff.1 h)
  have htext : (textOf (w.toList.map (single .whitespace))).length = w.length := by
    rw [← lexemes_blanks hw, textOf_lexemes, String.length_toList]
  have hfar : 0 + (textOf (lexemes a.toList ++ w.toList.map (single .whitespace))).length =
      w.length + a.length := by
    rw [textOf_append, List.length_append, textOf_lexemes, String.length_toList, htext]
    omega
  rw [tokenize_eq, String.toList_append, String.toList_append, lexemes_insert hne' hw, place_append,
    hfar, place_append, List.append_assoc, List.append_assoc, stripTrivia_append, stripTrivia_append,
    stripTrivia_place_blanks, List.nil_append]

theorem stripTrivia_tokenize_insert_apart {a w b : String} (filename : String) (hne : w ≠ "")
    (hw : ∀ c ∈ w.toList, isBlank c = true) (h : ¬ (EndsWithDigit a ∧ BeginsWithDigit b)) :
    stripTrivia (tokenize (a ++ w ++ b) filename) =
      (stripTrivia (tokenize (a ++ b) filename)).map (Token.makeRoom a.length w.length) := by
  have hlen : (textOf (lexemes a.toList)).length ≤ a.length := by
    rw [textOf_lexemes, String.length_toList]
  have hplain : tokenize (a ++ b) filename =
      place 0 (lexemes a.toList) ++ (place a.length (lexemes b.toList) ++ [.endMarker]) := by
    rw [tokenize_eq, String.toList_append, lexemes_append h, place_append, textOf_lexemes,
      String.length_toList, Nat.zero_add, List.append_assoc]
  rw [stripTrivia_tokenize_insert filename hne hw, ← stripTrivia_append, hplain,
    ← stripTrivia_map_makeRoom, List.map_append, List.map_append, map_makeRoom_endMarker,
    map_makeRoom_before w.length (splits_lexemes a.toList).formed hlen,
    map_makeRoom_behind w.length (splits_lexemes b.toList).formed (Nat.le_refl _)]

/-! ## A number over the place -/

/-- Two texts meet in a number: the lexemes of the first are `xs` and the digits `es`, those of the
second the digits `fs` and `ys`. -/
structure Seam (a b : String) (xs : List Lexeme) (es fs : List Char) (ys : List Lexeme) : Prop where
  first : lexemes a.toList = xs ++ [ofDigits es]
  second : lexemes b.toList = ofDigits fs :: ys
  joined : lexemes (a.toList ++ b.toList) = xs ++ ofDigits (es ++ fs) :: ys
  formed : ∀ x ∈ xs ++ ys, x.Formed
  ne_nil : es ≠ [] ∧ fs ≠ []
  length_eq : (textOf xs).length + es.length = a.length

theorem exists_seam {a b : String} (ha : EndsWithDigit a) (hb : BeginsWithDigit b) :
    ∃ xs es fs ys, Seam a b xs es fs ys := by
  obtain ⟨xs, es, fs, ys, hxs, hys, hjoined⟩ := lexemes_append_seam ha hb
  have hcs := splits_lexemes a.toList
  have hds := splits_lexemes b.toList
  rw [hxs] at hcs
  rw [hys] at hds
  refine ⟨xs, es, fs, ys, hxs, hys, hjoined, fun x hx => ?_, ⟨?_, ?_⟩, ?_⟩
  · rcases List.mem_append.1 hx with hx | hx
    · exact hcs.formed x (List.mem_append_left _ hx)
    · exact hds.formed x (List.mem_cons_of_mem _ hx)
  · exact (formed_ofDigits_iff.1 (hcs.formed (ofDigits es) (by simp))).1
  · exact (formed_ofDigits_iff.1 (hds.formed (ofDigits fs) (by simp))).1
  · rw [← String.length_toList, ← hcs.text, textOf_append, List.length_append]
    simp [ofDigits]

namespace Seam
variable {a b : String} {xs : List Lexeme} {es fs : List Char} {ys : List Lexeme}
  (h : Seam a b xs es fs ys)
include h

theorem stripTrivia_tokenize_append (filename : String) :
    stripTrivia (tokenize (a ++ b) filename) =
      stripTrivia (place 0 xs) ++ (ofDigits (es ++ fs)).token (textOf xs).length ::
        stripTrivia (place (a.length + fs.length) ys ++ [.endMarker]) := by
  have hfar : (textOf xs).length + (ofDigits (es ++ fs)).text.length = a.length + fs.length := by
    have := h.length_eq
    rw [ofDigits, List.length_append]
    omega
  rw [tokenize_eq, String.toList_append, h.joined, place_append, place_cons, Nat.zero_add, hfar,
    List.append_assoc, stripTrivia_append]
  rfl

theorem stripTrivia_tokenize_insert {w : String} (filename : String) (hne : w ≠ "")
    (hw : ∀ c ∈ w.toList, isBlank c = true) :
    stripTrivia (tokenize (a ++ w ++ b) filename) =
      (stripTrivia (place 0 xs)).map (Token.makeRoom a.length w.length) ++
        (ofDigits es).token (textOf xs).length :: (ofDigits fs).token (w.length + a.length) ::
          (stripTrivia (place (a.length + fs.length) ys ++ [.endMarker])).map
            (Token.makeRoom a.length w.length) := by
  have hxs : ∀ x ∈ xs, x.Formed := fun x hx => h.formed x (List.mem_append_left _ hx)
  have hys : ∀ y ∈ ys, y.Formed := fun y hy => h.formed y (List.mem_append_right _ hy)
  have hlength := h.length_eq
  rw [ArithLex.stripTrivia_tokenize_insert filename hne hw, ← stripTrivia_map_makeRoom,
    ← stripTrivia_map_makeRoom, List.map_append,
    map_makeRoom_endMarker, map_makeRoom_before w.length hxs (by omega),
    map_makeRoom_behind w.length hys (by omega), h.first, h.second, place_append, place_cons, place_cons,
    Nat.zero_add, stripTrivia_append, List.append_assoc, ← Nat.add_assoc]
  rfl

/-- The tokens at the seam: the number that goes over it, and its two parts. -/
theorem token_ofDigits (n : Nat) :
    (ofDigits (es ++ fs)).token (textOf xs).length =
        ⟨.number, ⟨(textOf xs).length, a.length + (String.ofList fs).length,
          String.ofList es ++ String.ofList fs⟩, some (decimalValue (es ++ fs))⟩ ∧
      (ofDigits es).token (textOf xs).length =
        ⟨.number, ⟨(textOf xs).length, a.length, String.ofList es⟩, some (decimalValue es)⟩ ∧
      (ofDigits fs).token (n + a.length) =
        ⟨.number, ⟨a.length + n, a.length + n + (String.ofList fs).length, String.ofList fs⟩,
          some (decimalValue fs)⟩ := by
  refine ⟨?_, ?_, ?_⟩
  · rw [ArithLex.token_ofDigits, List.length_append, ← Nat.add_assoc, h.length_eq,
      ← String.ofList_append, String.length_ofList, Int.natCast_add]
  · rw [ArithLex.token_ofDigits, h.length_eq]
  · rw [ArithLex.token_ofDigits, Nat.add_comm n, String.length_ofList]
    simp only [Int.natCast_add]

end Seam

/-! ## The errors -/

/-- The errors are those for the characters, one for each and in order, wherever these stand. -/
def ErrorsFor (cs : List Char) (es : List Diagnostic) : Prop :=
  List.Forall₂ (fun c e => e = .invalidCharacter c e.location) cs es

theorem errorsFor_remarks (filename : String) (p : Cursor) (cs : List Char) :
    ErrorsFor (cs.filter fun c => decide (Rejected c))
      (remarks Diagnostic.errorAt? filename p cs) := by
  induction cs generalizing p with
  | nil => exact .nil
  | cons c cs ih =>
    rw [remarks_cons, List.filter_cons]
    by_cases hc : Rejected c
    · rw [if_pos (decide_eq_true hc), errorAt?_of_stray _ (CharClass.of_eq_stray_iff.2 hc)]
      exact .cons rfl (ih _)
    · rw [if_neg (by simpa using hc), errorAt?_of_ne_stray _ (mt CharClass.of_eq_stray_iff.1 hc)]
      exact ih _

theorem errorsFor_drained (source filename : String) :
    ErrorsFor (source.toList.filter fun c => decide (Rejected c))
      (drained source filename).errors.toList := by
  rw [errors_drained]
  exact errorsFor_remarks filename .start source.toList

theorem filter_rejected_insert {a w b : String} (hw : ∀ c ∈ w.toList, isBlank c = true) :
    (a ++ w ++ b).toList.filter (fun c => decide (Rejected c)) =
      (a ++ b).toList.filter fun c => decide (Rejected c) := by
  have hnone : w.toList.filter (fun c => decide (Rejected c)) = [] := by
    refine List.filter_eq_nil_iff.2 fun c hc hr => ?_
    have hblank := hw c hc
    rw [(of_decide_eq_true hr).2.1] at hblank
    cases hblank
  rw [String.toList_append, String.toList_append, String.toList_append, List.filter_append,
    List.filter_append, List.filter_append, hnone, List.append_nil]

/-! ## Both texts -/

/-- **Whitespace is insignificant except inside a number.** Put between two texts, it leaves the tokens that are not
whitespace as they were, those of the second text further on; only a number that goes over the place becomes
two, with its digits and, weighed by their places, its value. The errors are for the same characters. -/
theorem insert_blanks (a w b filename : String) (hne : w ≠ "")
    (hw : ∀ c ∈ w.toList, isBlank c = true) :
    let kept₁ := stripTrivia (tokenize (a ++ b) filename)
    let kept₂ := stripTrivia (tokenize (a ++ w ++ b) filename)
    let move := Token.makeRoom a.length w.length
    (¬ (EndsWithDigit a ∧ BeginsWithDigit b) → kept₂ = kept₁.map move) ∧
      (EndsWithDigit a ∧ BeginsWithDigit b →
        ∃ (before after : List Token) (s : Nat) (l₁ l₂ : String) (v v₁ v₂ : Nat),
          kept₁ = before ++ ⟨.number, ⟨s, a.length + l₂.length, l₁ ++ l₂⟩, some v⟩ :: after ∧
          kept₂ = before.map move ++ ⟨.number, ⟨s, a.length, l₁⟩, some v₁⟩ ::
            ⟨.number, ⟨a.length + w.length, a.length + w.length + l₂.length, l₂⟩, some v₂⟩ ::
              after.map move ∧
          l₁ ≠ "" ∧ l₂ ≠ "" ∧ s + l₁.length = a.length ∧ v = v₁ * 10 ^ l₂.length + v₂) ∧
      ∃ cs, ErrorsFor cs (drained (a ++ b) filename).errors.toList ∧
        ErrorsFor cs (drained (a ++ w ++ b) filename).errors.toList := by
  intro kept₁ kept₂ move
  refine ⟨fun h => ?_, ?_, _, errorsFor_drained _ _, ?_⟩
  · exact stripTrivia_tokenize_insert_apart filename hne hw h
  · rintro ⟨ha, hb⟩
    obtain ⟨xs, es, fs, ys, h⟩ := exists_seam ha hb
    obtain ⟨hwhole, hfirst, hsecond⟩ := h.token_ofDigits w.length
    refine ⟨stripTrivia (place 0 xs), stripTrivia (place (a.length + fs.length) ys ++ [.endMarker]),
      (textOf xs).length, String.ofList es, String.ofList fs, decimalValue (es ++ fs),
      decimalValue es, decimalValue fs, ?_, ?_, ?_, ?_, ?_, ?_⟩
    · rw [← hwhole]
      exact h.stripTrivia_tokenize_append filename
    · rw [← hfirst, ← hsecond]
      exact h.stripTrivia_tokenize_insert filename hne hw
    · simpa using h.ne_nil.1
    · simpa using h.ne_nil.2
    · simpa using h.length_eq
    · simpa using decimalValue_append es fs
  · rw [← filter_rejected_insert hw]
    exact errorsFor_drained _ _

/-- A line feed and an unusual blank, put behind a number and into a number. -/
theorem insert_blanks_behind_and_into_number :
    "\n\xa0" ≠ "" ∧ (∀ c ∈ "\n\xa0".toList, isBlank c = true) ∧
      ¬ (EndsWithDigit "?12" ∧ BeginsWithDigit "+3") ∧
      stripTrivia (tokenize ("?12" ++ "\n\xa0" ++ "+3") "sum") =
        (stripTrivia (tokenize ("?12" ++ "+3") "sum")).map (Token.makeRoom 3 2) ∧
      (EndsWithDigit "7+12" ∧ BeginsWithDigit "034") ∧
      (∃ (before after : List Token) (s : Nat) (l₁ l₂ : String) (v v₁ v₂ : Nat),
        stripTrivia (tokenize ("7+12" ++ "034") "sum") =
          before ++ ⟨.number, ⟨s, 4 + l₂.length, l₁ ++ l₂⟩, some v⟩ :: after ∧
        stripTrivia (tokenize ("7+12" ++ "\n\xa0" ++ "034") "sum") =
          before.map (Token.makeRoom 4 2) ++ ⟨.number, ⟨s, 4, l₁⟩, some v₁⟩ ::
            ⟨.number, ⟨4 + 2, 4 + 2 + l₂.length, l₂⟩, some v₂⟩ :: after.map (Token.makeRoom 4 2) ∧
        l₁ ≠ "" ∧ l₂ ≠ "" ∧ s + l₁.length = 4 ∧ v = v₁ * 10 ^ l₂.length + v₂) ∧
      ∃ cs, ErrorsFor cs (drained ("?12" ++ "+3") "sum").errors.toList ∧
        ErrorsFor cs (drained ("?12" ++ "\n\xa0" ++ "+3") "sum").errors.toList := by
  have hne : "\n\xa0" ≠ "" := by decide
  have hall : ("\n\xa0".toList.all isBlank) = true := by decide
  have hw : ∀ c ∈ "\n\xa0".toList, isBlank c = true := List.all_eq_true.1 hall
  have happart : ¬ (EndsWithDigit "?12" ∧ BeginsWithDigit "+3") := by decide
  have hmeet : EndsWithDigit "7+12" ∧ BeginsWithDigit "034" := by decide
  obtain ⟨hkept, -, herrors⟩ := insert_blanks "?12" "\n\xa0" "+3" "sum" hne hw
  obtain ⟨-, hcut, -⟩ := insert_blanks "7+12" "\n\xa0" "034" "sum" hne hw
  exact ⟨hne, hw, happart, hkept happart, hmeet, hcut hmeet, herrors⟩

end ArithLex
