import ArithLex.Text.Written

/-!
# Locations and cursors

A location is a place in a named source, by line and column and by its offset from the start. A cursor
counts the characters, lines and columns that a lexer has passed, and gives its place.
-/

set_option autoImplicit false

namespace ArithLex
open Text

/-- A place in a source. Lines and columns count from one, offsets from zero. -/
structure Location where
  filename : String
  line : Int
  column : Int
  offset : Int
deriving DecidableEq

namespace Location

/-- Name, line and column. -/
def short (p : Location) : String :=
  p.filename ++ ":" ++ decimal p.line ++ ":" ++ decimal p.column

def fullWith (printable : Char → Bool) (p : Location) : String :=
  applied "SourceLocation"
    [quoteWith printable p.filename, decimal p.line, decimal p.column, decimal p.offset]

def full (p : Location) : String := p.fullWith isPrintable

end Location

/-! ## Cursors -/

/-- A position in a source: the characters passed, and the line and column of the next one. -/
structure Cursor where
  offset : Nat
  line : Nat
  column : Nat
deriving DecidableEq

namespace Cursor

def start : Cursor := ⟨0, 1, 1⟩

/-- Past one character. Only a line feed begins a line. -/
def advance (p : Cursor) (c : Char) : Cursor :=
  if c = '\n' then ⟨p.offset + 1, p.line + 1, 1⟩ else ⟨p.offset + 1, p.line, p.column + 1⟩

def advanceBy (p : Cursor) (cs : List Char) : Cursor := cs.foldl advance p

def location (p : Cursor) (filename : String) : Location :=
  ⟨filename, p.line, p.column, p.offset⟩

@[simp] theorem advanceBy_nil (p : Cursor) : p.advanceBy [] = p := rfl

@[simp] theorem advanceBy_cons (p : Cursor) (c : Char) (cs : List Char) :
    p.advanceBy (c :: cs) = (p.advance c).advanceBy cs := rfl

theorem advanceBy_append (p : Cursor) (cs ds : List Char) :
    p.advanceBy (cs ++ ds) = (p.advanceBy cs).advanceBy ds := List.foldl_append

@[simp] theorem offset_advance (p : Cursor) (c : Char) : (p.advance c).offset = p.offset + 1 := by
  unfold advance
  split <;> rfl

@[simp] theorem offset_advanceBy (p : Cursor) (cs : List Char) :
    (p.advanceBy cs).offset = p.offset + cs.length := by
  induction cs generalizing p with
  | nil => rfl
  | cons c cs ih =>
    rw [advanceBy_cons, ih, offset_advance, List.length_cons]
    omega

end Cursor

end ArithLex
