import ArithLex.Diagnostic
import ArithLex.Lexeme

/-!
# The lexer

A lexer turns a source into tokens, one at a time. It is a value: the text ahead, the cursor, and what was
found so far. A character of no class becomes an invalid token and an error, and lexing goes on; after the
last character comes one end marker, and after that nothing. A journal tells what happens to a lexer, but
for warnings.
-/

set_option autoImplicit false

namespace ArithLex
open Text

/-! ## Events -/

/-- Something that happens to a lexer. -/
inductive Event where
  | created (filename : String) (length : Nat)
  | rejected (c : Char) (location : Location)
  | reachedEnd (filename : String)
deriving DecidableEq

namespace Event

def level : String := "DEBUG"

def message : Event → String
  | created filename length =>
    "Lexer created for " ++ filename ++ " (" ++ decimal length ++ " characters)"
  | rejected c location =>
    "Invalid character " ++ quote (String.singleton c) ++ " at " ++ location.short
  | reachedEnd filename => "Reached end of input in " ++ filename

end Event

/-! ## Lexers -/

inductive Phase where
  | scanning
  | exhausted
deriving DecidableEq

namespace Phase

def name : Phase → String
  | scanning => "SCANNING"
  | exhausted => "EXHAUSTED"

def catalogue : Catalogue Phase := ⟨"ScannerState", [scanning, exhausted], name⟩

end Phase

/-- A lexer on its way through a source. Nothing is ahead, not even the end, once the end marker has
been delivered. -/
structure Lexer where
  filename : String
  ahead : Option (List Char)
  cursor : Cursor
  errors : Array Diagnostic
  warnings : Array Diagnostic
  journal : Array Event
deriving DecidableEq

namespace Lexer

def unknownSource : String := "<unknown>"

def start (source filename : String) : Lexer where
  filename := filename
  ahead := some source.toList
  cursor := .start
  errors := #[]
  warnings := #[]
  journal := #[.created filename source.length]

def phase (l : Lexer) : Phase := if l.ahead.isSome then .scanning else .exhausted

def isExhausted (l : Lexer) : Bool := l.ahead.isNone

/-- The place of the next character. -/
def location (l : Lexer) : Location := l.cursor.location l.filename

def hasErrors (l : Lexer) : Bool := !l.errors.isEmpty

def hasWarnings (l : Lexer) : Bool := !l.warnings.isEmpty

def diagnostics (l : Lexer) : Array Diagnostic := l.errors ++ l.warnings

/-! ## One token -/

/-- Records what is to be said of the next character. -/
def note (l : Lexer) (c : Char) : Lexer :=
  match CharClass.of c with
  | .blank =>
    if isCommonBlank c then l
    else { l with warnings := l.warnings.push (.unusualBlank c l.location) }
  | .stray =>
    { l with
      errors := l.errors.push (.invalidCharacter c l.location)
      journal := l.journal.push (.rejected c l.location) }
  | _ => l

/-- Moves over a lexeme, to the text after it. -/
def pass (l : Lexer) (x : Lexeme) (rest : List Char) : Lexer :=
  { l with ahead := some rest, cursor := l.cursor.advanceBy x.text }

/-- Delivers the end marker. The offset moves past the end; line and column stay. -/
def finish (l : Lexer) : Lexer :=
  { l with
    ahead := none
    cursor := { l.cursor with offset := l.cursor.offset + 1 }
    journal := l.journal.push (.reachedEnd l.filename) }

/-- The next token, and the lexer after it. -/
def next (l : Lexer) : Option (Token × Lexer) :=
  match l.ahead with
  | none => none
  | some [] => some (.endMarker, l.finish)
  | some (c :: cs) =>
    let (x, rest) := Lexeme.read c cs
    some (x.token l.cursor.offset, (l.note c).pass x rest)

/-- How many tokens are left at most: one for each character ahead and one for the end. -/
def remaining (l : Lexer) : Nat :=
  match l.ahead with
  | none => 0
  | some cs => cs.length + 1

theorem next_eq_none_iff {l : Lexer} : l.next = none ↔ l.ahead = none := by
  unfold next
  split <;> simp_all

theorem remaining_next_lt {l m : Lexer} {t : Token} (h : l.next = some (t, m)) :
    m.remaining < l.remaining := by
  unfold next at h
  split at h
  · simp at h
  · rename_i ha
    simp only [Option.some.injEq, Prod.mk.injEq] at h
    simp [← h.2, remaining, finish, ha]
  · rename_i c cs ha
    simp only [Option.some.injEq, Prod.mk.injEq] at h
    have := Lexeme.length_rest_lt c cs
    simp only [← h.2, remaining, pass, ha]
    omega

end Lexer

end ArithLex
