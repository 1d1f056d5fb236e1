import ArithLex.Location
import ArithLex.Token.Kind

/-!
# Diagnostics

A diagnostic tells what was found, where, and what may help. Two findings name a character of the source:
an error for one that begins no token, with an alternative if it looks like an operator or a parenthesis,
and a warning for a blank that is easy to miss. The lexer asks for them with the character at hand; a
caller may ask with any text, and then the code point of the text may be needed where it has none.
-/

set_option autoImplicit false

namespace ArithLex
open Text

/-- A finding in a source. In diagnostics made by hand the severity is free text, in ASCII. -/
structure Diagnostic where
  message : String
  location : Location
  severity : String
  code : Option String
  helpText : Option String
  suggestions : Option (List String)
deriving DecidableEq

namespace Diagnostic

def error (message : String) (location : Location) (code helpText : Option String)
    (suggestions : Option (List String)) : Diagnostic :=
  ⟨message, location, "error", code, helpText, suggestions⟩

def warning (message : String) (location : Location) (code helpText : Option String)
    (suggestions : Option (List String)) : Diagnostic :=
  ⟨message, location, "warning", code, helpText, suggestions⟩

def helpLine : Option String → String
  | some help => if help.isEmpty then "" else "  help: " ++ help ++ "\n"
  | none => ""

def suggestionLines : Option (List String) → String
  | some (s :: ss) =>
    "  suggestions:\n" ++ String.join ((s :: ss).map fun s => "    - " ++ s ++ "\n")
  | _ => ""

/-- The text of a diagnostic for a reader. Of its severity only the ASCII letters are put in capitals: `error`,
`warning`, `info` and `hint` have no others. -/
def report (d : Diagnostic) : String :=
  d.severity.toUpper ++ ": " ++ d.message ++ "\n" ++
    "  --> " ++ d.location.short ++ "\n" ++ helpLine d.helpText ++ suggestionLines d.suggestions

def fullWith (printable : Char → Bool) (d : Diagnostic) : String :=
  let text := quoteWith printable
  record "Diagnostic" [("message", text d.message), ("location", d.location.fullWith printable),
    ("severity", text d.severity), ("code", optional text d.code),
    ("help_text", optional text d.helpText),
    ("suggestions", optional (bracketed text) d.suggestions)]

def full (d : Diagnostic) : String := d.fullWith isPrintable

end Diagnostic

/-! ## Look-alikes -/

namespace Lookalike

/-- The look-alikes and their alternatives, by code point. -/
def table : List (Char × Char) :=
  [('[', '('), (']', ')'), ('\x7b', '('), ('\x7d', ')'), ('·', '*'), ('×', '*'), ('÷', '/'),
    ('–', '-'), ('—', '-'), ('⁄', '/'), ('−', '-'), ('∕', '/'), ('∗', '*'), ('⋅', '*'),
    ('（', '('), ('）', ')'), ('＊', '*'), ('＋', '+'), ('／', '/')]

/-- The accepted character that a look-alike stands for. -/
def alternative? (c : Char) : Option Char := table.lookup c

def charSuggestions (c : Char) : List String := (alternative? c).toList.map String.singleton

/-- The suggestions for a text: those of its one character, none for any other text. -/
def suggestions (text : String) : List String :=
  match text.toList with
  | [c] => charSuggestions c
  | _ => []

theorem mem_table_of_alternative? {c d : Char} (h : alternative? c = some d) : (c, d) ∈ table := by
  obtain ⟨before, after, hsplit, _⟩ := List.lookup_eq_some_iff.1 h
  simp [hsplit]

theorem ofChar?_alternative {c d : Char} (h : alternative? c = some d) :
    (Kind.ofChar? d).isSome = true := by
  have every : ∀ p ∈ table, (Kind.ofChar? p.2).isSome = true := by decide
  exact every _ (mem_table_of_alternative? h)

theorem suggestions_singleton (c : Char) :
    suggestions (String.singleton c) = charSuggestions c := by
  simp [suggestions]

end Lookalike

/-- A code point was needed of a text that is not one character long. -/
structure NotOneCharacter where
  length : Nat
deriving DecidableEq

def NotOneCharacter.message (e : NotOneCharacter) : String :=
  "ord() expected a character, but string of length " ++ decimal e.length ++ " found"

def onlyChar (text : String) : Except NotOneCharacter Char :=
  match text.toList with
  | [c] => .ok c
  | cs => .error ⟨cs.length⟩

/-! ## Help -/

/-- The advice on an invalid text. -/
inductive Help where
  | didYouMean (alternatives : List String)
  | notValid (text : String)
  | notPrintable (c : Char)
deriving DecidableEq

namespace Help

def text : Help → String
  | didYouMean alternatives => "Did you mean: " ++ commas alternatives ++ "?"
  | notValid text => "The character '" ++ text ++ "' is not valid in a TAL expression."
  | notPrintable c => "Non-printable character (Unicode: " ++ codePointName c ++ ") is not allowed."

/-- An alternative comes first, then the text itself if it can be shown, then its code point. -/
def ofText (text : String) : Except NotOneCharacter Help :=
  if Lookalike.suggestions text ≠ [] then .ok (.didYouMean (Lookalike.suggestions text))
  else if text.toList.all isPrintable then .ok (.notValid text)
  else (onlyChar text).map .notPrintable

def ofChar (c : Char) : Help :=
  if Lookalike.charSuggestions c ≠ [] then .didYouMean (Lookalike.charSuggestions c)
  else if isPrintable c then .notValid (String.singleton c)
  else .notPrintable c

theorem ofText_singleton (c : Char) : ofText (String.singleton c) = .ok (ofChar c) := by
  simp only [ofText, ofChar, Lookalike.suggestions_singleton, onlyChar, String.toList_singleton,
    List.all_cons, List.all_nil, Bool.and_true]
  split
  · rfl
  · split <;> rfl

end Help

namespace Diagnostic

def invalidCharacterCode : String := "L001"

def invalid (text : String) (help : Help) (location : Location) : Diagnostic :=
  error ("Invalid character: " ++ quote text) location (some invalidCharacterCode)
    (some help.text) (some (Lookalike.suggestions text))

/-- The error for a character that begins no token. -/
def invalidCharacter (c : Char) (location : Location) : Diagnostic :=
  invalid (String.singleton c) (.ofChar c) location

/-- The error for a text in the place of a character. -/
def invalidText (text : String) (location : Location) : Except NotOneCharacter Diagnostic :=
  (Help.ofText text).map fun help => invalid text help location

theorem invalidText_singleton (c : Char) (location : Location) :
    invalidText (String.singleton c) location = .ok (invalidCharacter c location) := by
  rw [invalidText, Help.ofText_singleton]
  rfl

def unusualBlankCode : String := "W001"

/-- The warning for a blank other than space, tab, carriage return and line feed. -/
def unusualBlank (c : Char) (location : Location) : Diagnostic :=
  warning ("Unusual whitespace character " ++ codePointName c) location (some unusualBlankCode)
    (some "This character is treated as whitespace but is easy to miss.")
    (some ["Replace it with a regular space"])

def unusualText (text : String) (location : Location) : Except NotOneCharacter Diagnostic :=
  (onlyChar text).map fun c => unusualBlank c location

theorem unusualText_singleton (c : Char) (location : Location) :
    unusualText (String.singleton c) location = .ok (unusualBlank c location) := by
  simp only [unusualText, onlyChar, String.toList_singleton]
  rfl

def errorCodes : List (String × String) := [(invalidCharacterCode, "Invalid character")]

def warningCodes : List (String × String) := [(unusualBlankCode, "Unusual whitespace character")]

end Diagnostic

end ArithLex
