import ArithLex.Text.Written
import ArithLex.Token.Kind

/-!
# Tokens

A token is a kind, the span it was read from and, for a number, its value. Spans and tokens may also be
made by hand: nothing ties the ends of a span to each other or to its text, and any kind may come with any
span and any value.
-/

set_option autoImplicit false

namespace ArithLex
open Text

/-- The characters from `start` up to `stop`, and their text. -/
structure Span where
  start : Int
  stop : Int
  literal : String
deriving DecidableEq

/-- The text that stands for the end of input. -/
def endLiteral : String := "\x00"

namespace Span

def length (s : Span) : Int := s.stop - s.start

/-- The span of the end marker, at no place in the source. -/
def sentinel : Span := ⟨0, 0, endLiteral⟩

/-- The ends alone: `0..1`. -/
def short (s : Span) : String := decimal s.start ++ ".." ++ decimal s.stop

def fullWith (printable : Char → Bool) (s : Span) : String :=
  record "TextSpan" [("start", decimal s.start), ("end", decimal s.stop),
    ("literal", quoteWith printable s.literal)]

def full (s : Span) : String := s.fullWith isPrintable

end Span

/-! ## Tokens -/

/-- A classified piece of text. -/
structure Token where
  kind : Kind
  span : Span
  value : Option Int
deriving DecidableEq

namespace Token

def literal (t : Token) : String := t.span.literal

def endMarker : Token := ⟨.eof, .sentinel, none⟩

def isEof (t : Token) : Bool := t.kind == .eof

def isOperator (t : Token) : Bool := t.kind.isOperator

def isParen (t : Token) : Bool := t.kind.isParen

/-- Whether a parser may pass over a token. -/
def isTrivia (t : Token) : Bool := t.kind == .whitespace

def isInvalid (t : Token) : Bool := t.kind == .invalid

/-- The kind and the text, and the value of a token that has one. -/
def shortWith (printable : Char → Bool) (t : Token) : String :=
  t.kind.name ++ "(" ++ quoteWith printable t.literal ++
    (match t.value with
      | some v => " -> " ++ decimal v
      | none => "") ++ ")"

def short (t : Token) : String := t.shortWith isPrintable

def fullWith (printable : Char → Bool) (t : Token) : String :=
  applied "Token" [t.kind.name, decimal t.span.start, decimal t.span.stop,
    quoteWith printable t.literal, optional decimal t.value]

def full (t : Token) : String := t.fullWith isPrintable

end Token

def stripTrivia (ts : List Token) : List Token := ts.filter fun t => !t.isTrivia

/-- The texts of the tokens joined, end markers left out. -/
def sourceText (ts : List Token) : String :=
  String.join ((ts.filter fun t => !t.isEof).map Token.literal)

theorem stripTrivia_append (ts us : List Token) :
    stripTrivia (ts ++ us) = stripTrivia ts ++ stripTrivia us := List.filter_append ..

theorem toList_sourceText (ts : List Token) :
    (sourceText ts).toList = (ts.filter fun t => !t.isEof).flatMap fun t => t.literal.toList := by
  simp [sourceText, String.toList_join, List.flatMap_map]

theorem sourceText_append (ts us : List Token) :
    sourceText (ts ++ us) = sourceText ts ++ sourceText us := by
  apply String.toList_inj.1
  simp [toList_sourceText]

end ArithLex
