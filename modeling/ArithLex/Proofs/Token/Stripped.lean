import ArithLex.Proofs.Lexeme.Place
import ArithLex.Proofs.Token.RoundTrip

/-!
# Dropping whitespace and lexing again

The tokens that are not whitespace have a text of their own: the source without its whitespace. Lexed
again, this text gives the same tokens at other places, unless two numbers were parted by whitespace
alone (`NumbersParted`): these become one.
-/

set_option autoImplicit false

namespace ArithLex
open Text Lexeme

def Lexeme.dropBlanks (xs : List Lexeme) : List Lexeme := xs.filter fun x => !(x.kind == .whitespace)

/-- Two numbers are parted by whitespace alone. -/
def NumbersParted (ts : List Token) : Prop :=
  ∃ before t gap u after, ts = before ++ t :: gap ++ u :: after ∧ t.kind = .number ∧
    u.kind = .number ∧ ∀ g ∈ gap, g.kind = .whitespace

/-! ## The text without whitespace -/

theorem sourceText_eq_content (ts : List Token) : sourceText ts =
    String.join (((ts.map Token.content).filter fun e => !(e.1 == .eof)).map fun e => e.2.1) := by
  rw [List.filter_map, List.map_map]
  rfl

theorem formed_dropBlanks {xs : List Lexeme} (h : ∀ x ∈ xs, x.Formed) :
    ∀ x ∈ dropBlanks xs, x.Formed := fun x hx => h x (List.mem_filter.1 hx).1

theorem map_content_stripTrivia_tokenize (source filename : String) :
    (stripTrivia (tokenize source filename)).map Token.content =
      (dropBlanks (lexemes source.toList)).map content ++ [Token.endMarker.content] := by
  have hplace := map_content_filter_place (fun k => !(k == .whitespace)) 0 (lexemes source.toList)
  rw [tokenize_eq, stripTrivia_append, List.map_append]
  exact congrArg (· ++ [Token.endMarker.content]) hplace

theorem toList_sourceText_stripTrivia (source filename : String) :
    (sourceText (stripTrivia (tokenize source filename))).toList =
      textOf (dropBlanks (lexemes source.toList)) := by
  have hformed := formed_dropBlanks (splits_lexemes source.toList).formed
  have hsame : sourceText (stripTrivia (tokenize source filename)) =
      sourceText (place 0 (dropBlanks (lexemes source.toList)) ++ [.endMarker]) := by
    rw [sourceText_eq_content, sourceText_eq_content, map_content_stripTrivia_tokenize,
      List.map_append, map_content_place]
    rfl
  rw [hsame, sourceText_append, sourceText_place hformed, sourceText_endMarker, String.append_empty,
    String.toList_ofList]

theorem textOf_dropBlanks (cs : List Char) :
    textOf (dropBlanks (lexemes cs)) = cs.filter fun c => !isBlank c := by
  have h := textOf_filter (fun k => !(k == .whitespace)) (splits_lexemes cs).formed
  rw [textOf_lexemes] at h
  rw [dropBlanks, h]
  refine List.filter_congr fun c _ => ?_
  rw [Bool.eq_iff_iff, Bool.not_eq_true', Bool.not_eq_true', beq_eq_false_iff_ne, ne_eq,
    CharClass.kind_of_eq_whitespace_iff, Bool.not_eq_true]

theorem kind_ne_whitespace_of_mem_tokenize {source filename : String}
    (h : ∀ c ∈ source.toList, isBlank c = false) {t : Token} (ht : t ∈ tokenize source filename) :
    t.kind ≠ .whitespace := by
  rw [tokenize_eq] at ht
  rcases List.mem_append.1 ht with ht | ht
  · obtain ⟨x, hx, n, rfl⟩ := exists_of_mem_place ht
    have hformed := (splits_lexemes source.toList).formed x hx
    obtain ⟨c, cs, htext⟩ := List.exists_cons_of_ne_nil hformed.text_ne_nil
    have hc : c ∈ x.text := by simp [htext]
    have hsource : c ∈ source.toList := by
      rw [← textOf_lexemes source.toList]
      exact List.mem_flatMap.2 ⟨x, hx, hc⟩
    intro hkind
    have hblank := CharClass.kind_of_eq_whitespace_iff.1 ((hformed.kind_eq hc).symm.trans hkind)
    rw [h c hsource] at hblank
    cases hblank
  · obtain rfl := List.mem_singleton.1 ht
    exact Kind.noConfusion

/-! ## Numbers that meet -/

/-- What stands side by side among the chosen members of a list has no other chosen member between. -/
theorem isChain_filter_iff {α : Type} {R : α → α → Prop} {p : α → Bool} {xs : List α} :
    (xs.filter p).IsChain R ↔ ∀ before x gap y after, xs = before ++ x :: gap ++ y :: after →
      p x = true → p y = true → (∀ g ∈ gap, ¬ p g = true) → R x y := by
  rw [List.isChain_iff_forall_rel_of_append_cons_cons]
  constructor
  · rintro h before x gap y after rfl hx hy hgap
    have hnone : gap.filter p = [] := List.filter_eq_nil_iff.2 hgap
    have hkept : (before ++ x :: gap ++ y :: after).filter p =
        before.filter p ++ x :: y :: after.filter p := by
      rw [List.filter_append, List.filter_append, List.filter_cons_of_pos hx,
        List.filter_cons_of_pos hy, hnone, List.append_assoc]
      rfl
    exact h hkept
  · intro h x y kept₁ kept₂ hkept
    obtain ⟨before, rest, rfl, -, hrest⟩ := List.filter_eq_append_iff.1 hkept
    obtain ⟨gap₁, rest, rfl, -, hx, hrest⟩ := List.filter_eq_cons_iff.1 hrest
    obtain ⟨gap, after, rfl, hgap, hy, -⟩ := List.filter_eq_cons_iff.1 hrest
    exact h (before ++ gap₁) x gap y after (by simp) hx hy hgap

theorem isChain_stripTrivia_iff (ts : List Token) :
    (stripTrivia ts).IsChain Token.Apart ↔ ¬ NumbersParted ts := by
  have htrivia : ∀ t : Token, (!t.isTrivia) = true ↔ t.kind ≠ .whitespace := by
    intro t
    rw [Bool.not_eq_true', Token.isTrivia, beq_eq_false_iff_ne]
  unfold stripTrivia
  rw [isChain_filter_iff]
  constructor
  · rintro h ⟨before, t, gap, u, after, hts, ht, hu, hgap⟩
    refine h before t gap u after hts ?_ ?_ (fun g hg => ?_) ⟨ht, hu⟩
    · rw [htrivia, ht]
      exact Kind.noConfusion
    · rw [htrivia, hu]
      exact Kind.noConfusion
    · rw [htrivia, hgap g hg]
      exact fun hne => hne rfl
  · intro h before t gap u after hts _ _ hgap hboth
    refine h ⟨before, t, gap, u, after, hts, hboth.1, hboth.2, fun g hg => ?_⟩
    have := hgap g hg
    rwa [htrivia, not_ne_iff] at this

theorem isChain_stripTrivia_tokenize_iff (source filename : String) :
    (stripTrivia (tokenize source filename)).IsChain Token.Apart ↔
      (dropBlanks (lexemes source.toList)).IsChain Lexeme.Apart := by
  have hkinds : (stripTrivia (tokenize source filename)).map Token.kind =
      (dropBlanks (lexemes source.toList)).map Lexeme.kind ++ [.eof] := by
    have h := congrArg (List.map Prod.fst) (map_content_stripTrivia_tokenize source filename)
    rwa [List.map_map, List.map_append, List.map_map] at h
  show (stripTrivia (tokenize source filename)).IsChain
    (fun t u => ¬ (t.kind = .number ∧ u.kind = .number)) ↔ _
  rw [← List.isChain_map Token.kind (R := fun j k => ¬ (j = .number ∧ k = .number)), hkinds,
    List.isChain_append, List.isChain_map]
  refine and_iff_left ⟨.singleton _, fun j _ k hk hboth => ?_⟩
  obtain rfl := Option.some.inj hk
  exact Kind.noConfusion hboth.2

theorem content_injective : Function.Injective content := by
  intro x y h
  have hkind := congrArg Prod.fst h
  have htext := congrArg (fun e => e.2.1.toList) h
  have hvalue := congrArg (fun e => e.2.2) h
  obtain ⟨kind, text, value⟩ := x
  obtain ⟨kind', text', value'⟩ := y
  simp only [content, String.toList_ofList] at hkind htext hvalue
  rw [hkind, htext, Option.map_injective (fun _ _ => Int.ofNat.inj) hvalue]

/-- The invalid tokens of a source are its characters that begin no token. -/
theorem literals_invalid (source filename : String) :
    ((tokenize source filename).filter Token.isInvalid).map Token.literal =
      (source.toList.filter fun c => (CharClass.of c).kind == .invalid).map String.singleton := by
  have hformed := (splits_lexemes source.toList).formed
  have hkept := congrArg (List.map fun e => e.2.1)
    (map_content_filter_place (fun k => k == .invalid) 0 (lexemes source.toList))
  rw [List.map_map, List.map_map] at hkept
  have htext := textOf_filter (fun k => k == .invalid) hformed
  rw [textOf_lexemes] at htext
  rw [tokenize_eq, List.filter_append, ← htext, ← map_text_eq]
  · exact (congrArg (List.map Token.literal) (List.append_nil _)).trans hkept
  · exact fun x hx => hformed x (List.mem_filter.1 hx).1
  · intro x hx hnumber
    have hinvalid := (List.mem_filter.1 hx).2
    rw [hnumber] at hinvalid
    cases hinvalid

theorem filter_invalid_filter_blank (cs : List Char) :
    (cs.filter fun c => !isBlank c).filter (fun c => (CharClass.of c).kind == .invalid) =
      cs.filter fun c => (CharClass.of c).kind == .invalid := by
  rw [List.filter_filter]
  refine List.filter_congr fun c _ => ?_
  cases hc : (CharClass.of c).kind == .invalid with
  | false => rfl
  | true =>
    have hstray := CharClass.kind_of_eq_invalid_iff.1 (eq_of_beq hc)
    rw [(CharClass.of_eq_stray_iff.1 hstray).2.1]
    rfl

/-! ## Lexing again -/

/-- **Whitespace dropped, and the text lexed again.** The text of the other tokens is the source without its
whitespace. It has the same tokens, but for their places, exactly if no two numbers of the source are parted by
whitespace alone; and in any case the same invalid tokens in the same order. -/
theorem strip_and_lex_again (source filename : String) :
    (sourceText (stripTrivia (tokenize source filename))).toList =
        source.toList.filter (fun c => !isBlank c) ∧
      let ts := tokenize source filename
      let kept := stripTrivia ts
      let again := tokenize (sourceText kept) filename
      (∀ t ∈ again, t.kind ≠ .whitespace) ∧
        (again.map Token.content = kept.map Token.content ↔ ¬ NumbersParted ts) ∧
        (again.filter Token.isInvalid).map Token.literal =
          (ts.filter Token.isInvalid).map Token.literal := by
  have htext := toList_sourceText_stripTrivia source filename
  have hchars : (sourceText (stripTrivia (tokenize source filename))).toList =
      source.toList.filter fun c => !isBlank c := by
    rw [htext, textOf_dropBlanks]
  refine ⟨hchars, ?_⟩
  intro ts kept again
  refine ⟨fun t ht => ?_, ?_, ?_⟩
  · refine kind_ne_whitespace_of_mem_tokenize (fun c hc => ?_) ht
    rw [hchars] at hc
    simpa using (List.mem_filter.1 hc).2
  · have hagain : again.map Token.content =
        (lexemes (sourceText kept).toList).map content ++ [Token.endMarker.content] := by
      show (tokenize _ _).map Token.content = _
      rw [tokenize_eq, List.map_append, map_content_place]
      rfl
    have hformed := formed_dropBlanks (splits_lexemes source.toList).formed
    rw [hagain, map_content_stripTrivia_tokenize, List.append_cancel_right_eq,
      (List.map_injective_iff.2 content_injective).eq_iff, eq_comm, ← splits_iff,
      ← isChain_stripTrivia_iff, isChain_stripTrivia_tokenize_iff]
    exact ⟨fun h => h.apart, fun h => ⟨hformed, h, htext.symm⟩⟩
  · rw [literals_invalid, literals_invalid, hchars, filter_invalid_filter_blank]

theorem strip_and_lex_again_of_parted :
    let ts := tokenize "1 2?" "sum"
    let kept := stripTrivia ts
    let again := tokenize (sourceText kept) "sum"
    let twelve : Token := ⟨.number, ⟨0, 2, "12"⟩, some 12⟩
    sourceText kept = "12?" ∧ NumbersParted ts ∧ (twelve ∈ again ∧ twelve.kind ≠ .whitespace) ∧
      again.map Token.content ≠ kept.map Token.content ∧
      (again.filter Token.isInvalid).map Token.literal =
        (ts.filter Token.isInvalid).map Token.literal := by
  intro ts kept again twelve
  have htext : sourceText kept = "12?" := by decide
  have hparted : NumbersParted ts :=
    ⟨[], ⟨.number, ⟨0, 1, "1"⟩, some 1⟩, [⟨.whitespace, ⟨1, 2, " "⟩, none⟩],
      ⟨.number, ⟨2, 3, "2"⟩, some 2⟩, [⟨.invalid, ⟨3, 4, "?"⟩, none⟩, .endMarker], by decide, rfl, rfl,
      by simp⟩
  have hmem : twelve ∈ again := by
    show twelve ∈ tokenize (sourceText kept) "sum"
    rw [htext]
    decide
  obtain ⟨-, hkind, hiff, hinvalid⟩ := strip_and_lex_again "1 2?" "sum"
  exact ⟨htext, hparted, ⟨hmem, hkind twelve hmem⟩, fun h => hiff.1 h hparted, hinvalid⟩

end ArithLex
