import ArithLex.Proofs.Lexeme.Split

/-!
# Lexemes in their places

A source is its lexemes, placed one after another (`place`), and a character tells the kind of the lexeme
that it stands in. So to choose tokens by their kind is to choose characters by their class.
-/

set_option autoImplicit false

namespace ArithLex
open Text

namespace Lexeme

/-- The tokens of lexemes that stand one after another from an offset on. -/
def place : Nat → List Lexeme → List Token
  | _, [] => []
  | n, x :: xs => x.token n :: place (n + x.text.length) xs

@[simp] theorem place_nil (n : Nat) : place n [] = [] := rfl

@[simp] theorem place_cons (n : Nat) (x : Lexeme) (xs : List Lexeme) :
    place n (x :: xs) = x.token n :: place (n + x.text.length) xs := rfl

theorem place_append (n : Nat) (xs ys : List Lexeme) :
    place n (xs ++ ys) = place n xs ++ place (n + (textOf xs).length) ys := by
  induction xs generalizing n with
  | nil => rfl
  | cons x xs ih =>
    rw [List.cons_append, place_cons, place_cons, ih, textOf_cons, List.length_append, Nat.add_assoc,
      List.cons_append]

theorem length_place (n : Nat) (xs : List Lexeme) : (place n xs).length = xs.length := by
  induction xs generalizing n with
  | nil => rfl
  | cons x xs ih => rw [place_cons, List.length_cons, List.length_cons, ih]

theorem exists_append_of_mem_place {n : Nat} {xs : List Lexeme} {t : Token} (h : t ∈ place n xs) :
    ∃ before x after, xs = before ++ x :: after ∧ t = x.token (n + (textOf before).length) := by
  induction xs generalizing n with
  | nil => cases h
  | cons x xs ih =>
    rcases List.mem_cons.1 h with rfl | h
    · exact ⟨[], x, xs, rfl, rfl⟩
    · obtain ⟨before, y, after, rfl, rfl⟩ := ih h
      refine ⟨x :: before, y, after, rfl, ?_⟩
      rw [textOf_cons, List.length_append, Nat.add_assoc]

theorem exists_of_mem_place {n : Nat} {xs : List Lexeme} {t : Token} (h : t ∈ place n xs) :
    ∃ x ∈ xs, ∃ m, t = x.token m := by
  obtain ⟨before, x, after, rfl, rfl⟩ := exists_append_of_mem_place h
  exact ⟨x, by simp, _, rfl⟩

theorem mem_place (n : Nat) (before : List Lexeme) (x : Lexeme) (after : List Lexeme) :
    x.token (n + (textOf before).length) ∈ place n (before ++ x :: after) := by
  rw [place_append, place_cons]
  simp

theorem start_of_mem_place {n : Nat} {xs : List Lexeme} (h : ∀ x ∈ xs, x.Formed) {t : Token}
    (ht : t ∈ place n xs) : (n : Int) ≤ t.span.start ∧ t.span.start < n + (textOf xs).length := by
  induction xs generalizing n with
  | nil => cases ht
  | cons x xs ih =>
    have hlen : 0 < x.text.length := List.length_pos_iff.2 (h x (by simp)).text_ne_nil
    rw [textOf_cons, List.length_append]
    rcases List.mem_cons.1 ht with rfl | ht
    · show (n : Int) ≤ n ∧ (n : Int) < _
      omega
    · have := ih (fun y hy => h y (by simp [hy])) ht
      omega

/-- Placed tokens stand in the order of their starts. -/
theorem pairwise_start_place (n : Nat) {xs : List Lexeme} (h : ∀ x ∈ xs, x.Formed) :
    (place n xs).Pairwise fun t u => t.span.start < u.span.start := by
  induction xs generalizing n with
  | nil => exact .nil
  | cons x xs ih =>
    have hlen : 0 < x.text.length := List.length_pos_iff.2 (h x (by simp)).text_ne_nil
    have hxs : ∀ y ∈ xs, y.Formed := fun y hy => h y (by simp [hy])
    refine .cons (fun u hu => ?_) (ih _ hxs)
    have := start_of_mem_place hxs hu
    show (n : Int) < u.span.start
    omega

theorem literals_place (n : Nat) (xs : List Lexeme) :
    (place n xs).flatMap (fun t => t.literal.toList) = textOf xs := by
  induction xs generalizing n with
  | nil => rfl
  | cons x xs ih =>
    rw [place_cons, List.flatMap_cons, ih, textOf_cons]
    simp [token, Token.literal]

theorem Formed.kind_ne_eof {x : Lexeme} (hx : x.Formed) : x.kind ≠ .eof := by
  cases hx with
  | punctuation h => exact ne_of_ofChar? (CharClass.of_eq_punctuation_iff.1 h) rfl
  | digits _ _ | blank _ | stray _ => simp [ofDigits, single]

theorem kind_ne_eof_of_mem_place {n : Nat} {xs : List Lexeme} (h : ∀ x ∈ xs, x.Formed) {t : Token}
    (ht : t ∈ place n xs) : t.kind ≠ .eof := by
  obtain ⟨x, hx, m, rfl⟩ := exists_of_mem_place ht
  exact (h x hx).kind_ne_eof

theorem isEof_of_mem_place {n : Nat} {xs : List Lexeme} (h : ∀ x ∈ xs, x.Formed) :
    ∀ t ∈ place n xs, t.isEof = false := by
  intro t ht
  rw [Token.isEof, beq_eq_false_iff_ne]
  exact kind_ne_eof_of_mem_place h ht

theorem sourceText_place {n : Nat} {xs : List Lexeme} (h : ∀ x ∈ xs, x.Formed) :
    sourceText (place n xs) = String.ofList (textOf xs) := by
  apply String.toList_inj.1
  rw [toList_sourceText, List.filter_eq_self.2 (by simpa using isEof_of_mem_place h), literals_place,
    String.toList_ofList]

@[simp] theorem sourceText_endMarker : sourceText [Token.endMarker] = "" := rfl

end Lexeme

/-! ## Kinds and classes -/

/-- The kind of lexeme that characters of a class make up. -/
def CharClass.kind : CharClass → Kind
  | digit => .number
  | blank => .whitespace
  | punctuation k => k
  | stray => .invalid

namespace Lexeme

theorem Formed.kind_eq {x : Lexeme} (hx : x.Formed) {c : Char} (hc : c ∈ x.text) :
    x.kind = (CharClass.of c).kind := by
  cases hx with
  | digits _ hds =>
    rw [CharClass.of_eq_digit_iff.2 (hds c hc)]
    rfl
  | blank h | punctuation h | stray h =>
    obtain rfl := List.mem_singleton.1 hc
    rw [h]
    rfl

theorem Formed.filter_text {x : Lexeme} (hx : x.Formed) (p : Kind → Bool) :
    (x.text.filter fun c => p (CharClass.of c).kind) = if p x.kind then x.text else [] := by
  split
  · rename_i h
    refine List.filter_eq_self.2 fun c hc => ?_
    rwa [← hx.kind_eq hc]
  · rename_i h
    refine List.filter_eq_nil_iff.2 fun c hc => ?_
    rwa [← hx.kind_eq hc]

/-- The text of the lexemes of some kinds holds the characters of the classes of these kinds. -/
theorem textOf_filter (p : Kind → Bool) {xs : List Lexeme} (h : ∀ x ∈ xs, x.Formed) :
    textOf (xs.filter fun x => p x.kind) =
      (textOf xs).filter fun c => p (CharClass.of c).kind := by
  induction xs with
  | nil => rfl
  | cons x xs ih =>
    rw [textOf_cons, List.filter_append, ← ih fun y hy => h y (by simp [hy]),
      (h x (by simp)).filter_text p, List.filter_cons]
    split
    · rw [textOf_cons]
    · rw [List.nil_append]

theorem Formed.exists_text_eq {x : Lexeme} (hx : x.Formed) (h : x.kind ≠ .number) :
    ∃ c, x.text = [c] := by
  cases hx with
  | digits _ _ => exact absurd rfl h
  | blank _ | punctuation _ | stray _ => exact ⟨_, rfl⟩

theorem map_text_eq {xs : List Lexeme} (h : ∀ x ∈ xs, x.Formed) (hkind : ∀ x ∈ xs, x.kind ≠ .number) :
    xs.map (fun x => String.ofList x.text) = (textOf xs).map String.singleton := by
  induction xs with
  | nil => rfl
  | cons x xs ih =>
    obtain ⟨c, hc⟩ := (h x (by simp)).exists_text_eq (hkind x (by simp))
    rw [List.map_cons, textOf_cons, hc, List.map_append,
      ih (fun y hy => h y (by simp [hy])) fun y hy => hkind y (by simp [hy])]
    rfl

end Lexeme

/-! ## The classes of the kinds -/

namespace CharClass

/-- The class of characters that lexemes of a kind are made of. -/
def ofKind : Kind → CharClass
  | .number => digit
  | .whitespace => blank
  | .invalid => stray
  | k => punctuation k

theorem ofKind_kind (c : Char) : ofKind (of c).kind = of c := by
  cases h : of c with
  | digit | blank | stray => rfl
  | punctuation k =>
    have hchar := Kind.char?_of_ofChar? (of_eq_punctuation_iff.1 h)
    cases k with
    | plus | minus | asterisk | slash | leftParen | rightParen => rfl
    | number | whitespace | invalid | eof => cases hchar

theorem kind_of_inj {c d : Char} : (of c).kind = (of d).kind ↔ of c = of d := by
  constructor
  · intro h
    rw [← ofKind_kind c, h, ofKind_kind]
  · exact congrArg kind

theorem kind_of_eq_number_iff {c : Char} : (of c).kind = .number ↔ c.isDigit = true := by
  have hzero : of '0' = .digit := by decide
  rw [← of_eq_digit_iff, ← hzero, ← kind_of_inj, hzero]
  rfl

theorem kind_of_eq_whitespace_iff {c : Char} : (of c).kind = .whitespace ↔ isBlank c = true := by
  have hspace : of ' ' = .blank := by decide
  rw [← of_eq_blank_iff, ← hspace, ← kind_of_inj, hspace]
  rfl

theorem kind_of_eq_invalid_iff {c : Char} : (of c).kind = .invalid ↔ of c = .stray := by
  have hmark : of '?' = .stray := by decide
  rw [← hmark, ← kind_of_inj, hmark]
  rfl

theorem kind_of_eq_iff_of_char? {k : Kind} {d : Char} (hk : k.char? = some d) {c : Char} :
    (of c).kind = k ↔ c = d := by
  have hd : of d = .punctuation k := of_eq_punctuation_iff.2 (Kind.ofChar?_of_char? hk)
  have hkind : (of d).kind = k := by
    rw [hd]
    rfl
  rw [← hkind, kind_of_inj, hd, of_eq_punctuation_iff, Kind.ofChar?_eq_some_iff, hk, Option.some_inj,
    eq_comm]

end CharClass

/-! ## Tokens without their places -/

/-- Kind, literal and value of a token. -/
def Token.content (t : Token) : Kind × String × Option Int := (t.kind, t.literal, t.value)

namespace Lexeme

/-- Kind, literal and value of the token of a lexeme, wherever it stands. -/
def content (x : Lexeme) : Kind × String × Option Int :=
  (x.kind, String.ofList x.text, x.value.map Int.ofNat)

theorem map_content_place (n : Nat) (xs : List Lexeme) :
    (place n xs).map Token.content = xs.map content := by
  induction xs generalizing n with
  | nil => rfl
  | cons x xs ih =>
    rw [place_cons, List.map_cons, List.map_cons, ih]
    rfl

/-- To choose tokens by their kind is to choose lexemes by their kind. -/
theorem map_content_filter_place (p : Kind → Bool) (n : Nat) (xs : List Lexeme) :
    ((place n xs).filter fun t => p t.kind).map Token.content =
      (xs.filter fun x => p x.kind).map content :=
  calc ((place n xs).filter fun t => p t.kind).map Token.content
      = ((place n xs).map Token.content).filter fun e => p e.1 :=
        (List.filter_map (p := fun e => p e.1) (f := Token.content)).symm
    _ = (xs.map content).filter fun e => p e.1 := by rw [map_content_place]
    _ = (xs.filter fun x => p x.kind).map content :=
        List.filter_map (p := fun e => p e.1) (f := content)

end Lexeme

theorem lexemes_blanks {cs : List Char} (h : ∀ c ∈ cs, isBlank c = true) :
    lexemes cs = cs.map (Lexeme.single .whitespace) := by
  induction cs with
  | nil => exact lexemes_nil
  | cons c cs ih =>
    have hc : CharClass.of c = .blank := CharClass.of_eq_blank_iff.2 (h c (by simp))
    have hread : Lexeme.read c cs = (.single .whitespace c, cs) := by simp only [Lexeme.read, hc]
    rw [lexemes_cons, hread, List.map_cons, ih fun d hd => h d (by simp [hd])]

end ArithLex
