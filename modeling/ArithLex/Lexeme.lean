import ArithLex.Text.CharTable
import ArithLex.Token.Basic

/-!
# Classes of characters, and lexemes

Every character is a digit, a blank, a punctuation character or a stray, and this class alone decides
which kind of token it begins. A lexeme is a token before it has a place: a kind, the characters and, for
a number, the value. Numbers are as long as they can be, every other lexeme is one character.
-/

set_option autoImplicit false

namespace ArithLex
open Text

/-- What a character is to the lexer. Only the ten ASCII digits are digits. -/
inductive CharClass where
  | digit
  | blank
  | punctuation (kind : Kind)
  | stray
deriving DecidableEq

/-- A character that begins no token: no digit, no blank and no punctuation. -/
def Rejected (c : Char) : Prop :=
  c.isDigit = false ∧ isBlank c = false ∧ Kind.ofChar? c = none

instance (c : Char) : Decidable (Rejected c) :=
  inferInstanceAs (Decidable (c.isDigit = false ∧ isBlank c = false ∧ Kind.ofChar? c = none))

namespace CharClass

def digits : List Char := ['0', '1', '2', '3', '4', '5', '6', '7', '8', '9']

def of (c : Char) : CharClass :=
  if c.isDigit then .digit
  else if isBlank c then .blank
  else match Kind.ofChar? c with
    | some k => .punctuation k
    | none => .stray

/-! ## The classes do not overlap -/

theorem isDigit_iff {c : Char} : c.isDigit = true ↔ 48 ≤ c.toNat ∧ c.toNat ≤ 57 := by
  simp only [Char.isDigit, Bool.and_eq_true, decide_eq_true_eq, ge_iff_le, UInt32.le_iff_toNat_le]
  exact Iff.rfl

theorem isBlank_of_isDigit {c : Char} (h : c.isDigit = true) : isBlank c = false := by
  rw [isDigit_iff] at h
  rw [Bool.eq_false_iff]
  intro hb
  obtain ⟨r, hr, h1, h2⟩ := (inRanges_iff blanks_ascending c.toNat).1 hb
  have apart : ∀ r ∈ blanks, r.last < 48 ∨ 57 < r.first := by decide
  have := apart r hr
  omega

theorem not_isDigit_of_ofChar? {c : Char} {k : Kind} (h : Kind.ofChar? c = some k) :
    c.isDigit = false ∧ isBlank c = false := by
  have hk := Kind.char?_of_ofChar? h
  cases k <;> simp only [Kind.char?, Option.some.injEq, reduceCtorEq] at hk <;> subst hk <;> decide

theorem of_eq_digit_iff {c : Char} : of c = .digit ↔ c.isDigit = true := by
  unfold of
  split
  · simp_all
  · split
    · simp_all
    · split <;> simp_all

theorem of_eq_blank_iff {c : Char} : of c = .blank ↔ isBlank c = true := by
  unfold of
  split
  · rename_i h
    simp [isBlank_of_isDigit h]
  · split
    · simp_all
    · split <;> simp_all

theorem of_eq_punctuation_iff {c : Char} {k : Kind} :
    of c = .punctuation k ↔ Kind.ofChar? c = some k := by
  constructor
  · unfold of
    split
    · simp
    · split
      · simp
      · split
        · rename_i h
          simp [h]
        · simp
  · intro h
    obtain ⟨hd, hb⟩ := not_isDigit_of_ofChar? h
    simp [of, hd, hb, h]

theorem of_eq_stray_iff {c : Char} : of c = .stray ↔ Rejected c := by
  unfold of Rejected
  split
  · simp_all
  · split
    · simp_all
    · split <;> simp_all

end CharClass

/-! ## Lexemes -/

/-- A piece of text of one kind. -/
structure Lexeme where
  kind : Kind
  text : List Char
  value : Option Nat
deriving DecidableEq

namespace Lexeme

def single (kind : Kind) (c : Char) : Lexeme := ⟨kind, [c], none⟩

def ofDigits (digits : List Char) : Lexeme := ⟨.number, digits, some (Nat.ofDigitChars 10 digits 0)⟩

/-- The lexeme that begins with `c`, and the text after it. -/
def read (c : Char) (cs : List Char) : Lexeme × List Char :=
  match CharClass.of c with
  | .digit => (ofDigits (c :: cs.takeWhile Char.isDigit), cs.dropWhile Char.isDigit)
  | .blank => (single .whitespace c, cs)
  | .punctuation k => (single k c, cs)
  | .stray => (single .invalid c, cs)

def token (x : Lexeme) (offset : Nat) : Token :=
  ⟨x.kind, ⟨offset, (offset + x.text.length : Nat), String.ofList x.text⟩, x.value.map Int.ofNat⟩

theorem read_text_append (c : Char) (cs : List Char) :
    (read c cs).1.text ++ (read c cs).2 = c :: cs := by
  unfold read
  split <;> simp [ofDigits, single]

theorem read_text_ne_nil (c : Char) (cs : List Char) : (read c cs).1.text ≠ [] := by
  unfold read
  split <;> simp [ofDigits, single]

theorem length_rest_lt (c : Char) (cs : List Char) :
    (read c cs).2.length < (c :: cs).length := by
  have h := congrArg List.length (read_text_append c cs)
  have := List.length_pos_iff.2 (read_text_ne_nil c cs)
  rw [List.length_append] at h
  omega

end Lexeme

end ArithLex
