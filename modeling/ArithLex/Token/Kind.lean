import ArithLex.Catalogue

/-!
# Kinds of token

The set is closed: numbers, four operators, two parentheses, whitespace, invalid characters and the
marker at the end of input.
-/

set_option autoImplicit false

namespace ArithLex

inductive Kind where
  | number
  | plus
  | minus
  | asterisk
  | slash
  | leftParen
  | rightParen
  | whitespace
  | invalid
  | eof
deriving DecidableEq

namespace Kind

def name : Kind → String
  | number => "NUMBER"
  | plus => "PLUS"
  | minus => "MINUS"
  | asterisk => "ASTERISK"
  | slash => "SLASH"
  | leftParen => "LEFT_PAREN"
  | rightParen => "RIGHT_PAREN"
  | whitespace => "WHITESPACE"
  | invalid => "INVALID"
  | eof => "EOF"

/-- All kinds, in the order of their numbers. -/
def all : List Kind :=
  [number, plus, minus, asterisk, slash, leftParen, rightParen, whitespace, invalid, eof]

def catalogue : Catalogue Kind := ⟨"TokenKind", all, name⟩

/-- The kind of a punctuation character. -/
def ofChar? : Char → Option Kind
  | '+' => some plus
  | '-' => some minus
  | '*' => some asterisk
  | '/' => some slash
  | '(' => some leftParen
  | ')' => some rightParen
  | _ => none

def char? : Kind → Option Char
  | plus => some '+'
  | minus => some '-'
  | asterisk => some '*'
  | slash => some '/'
  | leftParen => some '('
  | rightParen => some ')'
  | _ => none

def punctuation : List (Char × Kind) := all.filterMap fun k => k.char?.map fun c => (c, k)

def isOperator : Kind → Bool
  | plus | minus | asterisk | slash => true
  | _ => false

def isParen : Kind → Bool
  | leftParen | rightParen => true
  | _ => false

theorem mem_all (k : Kind) : k ∈ all := by cases k <;> decide

theorem name_inj {j k : Kind} : j.name = k.name ↔ j = k := by
  constructor
  · cases j <;> cases k <;> decide
  · rintro rfl
    rfl

theorem char?_of_ofChar? {c : Char} {k : Kind} (h : ofChar? c = some k) : k.char? = some c := by
  unfold ofChar? at h
  split at h <;> simp_all [char?]
  all_goals subst h; rfl

theorem ofChar?_of_char? {c : Char} {k : Kind} (h : k.char? = some c) : ofChar? c = some k := by
  cases k <;> simp only [char?, Option.some.injEq, reduceCtorEq] at h <;> subst h <;> rfl

theorem ofChar?_eq_some_iff {c : Char} {k : Kind} : ofChar? c = some k ↔ k.char? = some c :=
  ⟨char?_of_ofChar?, ofChar?_of_char?⟩

theorem byName_name (k : Kind) : catalogue.byName k.name = .ok k :=
  catalogue.byName_name (mem_all k) fun _ _ => name_inj.1

end Kind

end ArithLex
