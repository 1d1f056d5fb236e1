import ArithLex.Lexer.Basic

/-!
# Looking characters up

A lexer carries the text ahead of it. A scanner keeps the source whole and looks each character up by its
index, and the same character several times: for its class, for its code point, for the cursor. A look-up
can miss, and a text need not have a code point, so each step of a scanner may fail.
-/

set_option autoImplicit false

namespace ArithLex
open Text Lexeme

/-- What can go wrong in a step of a scanner. -/
inductive Fault where
  /-- The source has no character of this index. -/
  | noCharacter (index : Nat)
  /-- A code point was needed of a text of this length. -/
  | notOneCharacter (length : Nat)
  /-- A number was to grow by an amount that no digit has. -/
  | notADigit (amount : Int)
deriving DecidableEq

theorem ok_bind {α β : Type} (a : α) (f : α → Except Fault β) : (Except.ok a >>= f) = f a := rfl

/-! ## Tests on texts -/

namespace Text

def isOneOf (cs : List Char) (text : String) : Bool := (cs.map String.singleton).contains text

def isBlankText (text : String) : Bool := !text.isEmpty && text.toList.all isBlank

def kindOfText? (text : String) : Option Kind :=
  match text.toList with
  | [c] => Kind.ofChar? c
  | _ => none

def codePoint (text : String) : Except Fault Int :=
  match onlyChar text with
  | .ok c => .ok c.toNat
  | .error e => .error (.notOneCharacter e.length)

/-- A number with one more digit, given as a text. -/
def addDigit (number : Int) (text : String) : Except Fault Int := do
  let amount := (← codePoint text) - (← codePoint "0")
  if 0 ≤ amount ∧ amount ≤ 9 then return number * 10 + amount else throw (.notADigit amount)

theorem isOneOf_singleton (cs : List Char) (c : Char) :
    isOneOf cs (String.singleton c) = cs.contains c := by
  rw [Bool.eq_iff_iff, isOneOf, List.contains_iff_mem, List.contains_iff_mem, List.mem_map]
  constructor
  · rintro ⟨d, hd, heq⟩
    exact String.singleton_inj.1 heq ▸ hd
  · exact fun h => ⟨c, h, rfl⟩

theorem isOneOf_digits (c : Char) : isOneOf CharClass.digits (String.singleton c) = c.isDigit := by
  rw [isOneOf_singleton, Bool.eq_iff_iff, List.contains_iff_mem]
  constructor
  · have every : CharClass.digits.all Char.isDigit = true := by decide
    exact List.all_eq_true.1 every c
  · intro h
    obtain ⟨hlow, hhigh⟩ := CharClass.isDigit_iff.1 h
    have every : ∀ n < 10, Char.ofNat (48 + n) ∈ CharClass.digits := by decide
    have hc : Char.ofNat (48 + (c.toNat - 48)) = c := by
      rw [Nat.add_sub_cancel' hlow, Char.ofNat_toNat]
    exact hc ▸ every (c.toNat - 48) (by omega)

theorem isBlankText_singleton (c : Char) : isBlankText (String.singleton c) = isBlank c := by
  simp [isBlankText]

theorem kindOfText?_singleton (c : Char) : kindOfText? (String.singleton c) = Kind.ofChar? c := by
  simp [kindOfText?]

theorem onlyChar_singleton (c : Char) : onlyChar (String.singleton c) = .ok c := by
  simp [onlyChar]

theorem addDigit_singleton (n : Nat) {c : Char} (h : c.isDigit = true) :
    addDigit n (String.singleton c) = .ok ((n * 10 + (c.toNat - '0'.toNat) : Nat) : Int) := by
  obtain ⟨hlow, hhigh⟩ := CharClass.isDigit_iff.1 h
  have hzero : codePoint "0" = .ok 48 := rfl
  have hc : codePoint (String.singleton c) = .ok (c.toNat : Int) := by
    rw [codePoint, onlyChar_singleton]
  have hamount : (0 : Int) ≤ (c.toNat : Int) - 48 ∧ (c.toNat : Int) - 48 ≤ 9 := by omega
  have hvalue : (n : Int) * 10 + ((c.toNat : Int) - 48) = ((n * 10 + (c.toNat - 48) : Nat) : Int) := by omega
  rw [addDigit, hzero, hc, ok_bind, ok_bind, if_pos hamount, hvalue]
  rfl

end Text

/-! ## The scanner -/

/-- A lexer that keeps its source whole. -/
structure Scanner where
  source : String
  filename : String
  cursor : Cursor
  phase : Phase
  errors : Array Diagnostic
  warnings : Array Diagnostic
  /-- The messages of the events so far. -/
  journal : Array String
deriving DecidableEq

namespace Scanner

def start (source filename : String) : Scanner where
  source := source
  filename := filename
  cursor := .start
  phase := .scanning
  errors := #[]
  warnings := #[]
  journal := #[(Event.created filename source.length).message]

def location (s : Scanner) : Location := s.cursor.location s.filename

/-- The character at the cursor, as a text. -/
def here (s : Scanner) : Except Fault String :=
  match s.source.toList[s.cursor.offset]? with
  | some c => .ok (String.singleton c)
  | none => .error (.noCharacter s.cursor.offset)

def advance (s : Scanner) : Except Fault Scanner := do
  let p := s.cursor
  if (← s.here) = "\n" then return { s with cursor := ⟨p.offset + 1, p.line + 1, 1⟩ }
  else return { s with cursor := ⟨p.offset + 1, p.line, p.column + 1⟩ }

/-- The text between the offset of a scanner and that of a later one. -/
def textTo (s s' : Scanner) : String :=
  String.ofList ((s.source.toList.take s'.cursor.offset).drop s.cursor.offset)

theorem advance_ok {s s' : Scanner} (h : s.advance = .ok s') :
    s'.source = s.source ∧ s'.cursor.offset = s.cursor.offset + 1 := by
  unfold advance at h
  cases hhere : s.here with
  | error e =>
    rw [hhere] at h
    cases h
  | ok text =>
    rw [hhere, ok_bind] at h
    split at h
    · cases h
      exact ⟨rfl, rfl⟩
    · cases h
      exact ⟨rfl, rfl⟩

/-! ## One call -/

/-- Over the digits at the cursor, adding them to a number. The bound is tested before each look-up. -/
def passDigits (number : Int) (s : Scanner) : Except Fault (Int × Scanner) :=
  if _hahead : s.cursor.offset < s.source.length then do
    if isOneOf CharClass.digits (← s.here) then
      let number ← addDigit number (← s.here)
      match _h : s.advance with
      | .ok s' => passDigits number s'
      | .error e => throw e
    else return (number, s)
  else return (number, s)
termination_by s.source.length - s.cursor.offset
decreasing_by
  obtain ⟨hsource, hoffset⟩ := advance_ok _h
  rw [hsource, hoffset]
  omega

/-- Over the blank at the cursor, with a warning if it is not a common one. -/
def passBlank (s : Scanner) : Except Fault Scanner := do
  let text ← s.here
  if isOneOf commonBlanks text then s.advance
  else match Diagnostic.unusualText text s.location with
    | .ok d => advance { s with warnings := s.warnings.push d }
    | .error e => throw (.notOneCharacter e.length)

/-- Over any other character at the cursor, with an error if it begins no token; and its kind. -/
def passOther (s : Scanner) : Except Fault (Kind × Scanner) := do
  let text ← s.here
  match kindOfText? text with
  | some k => return (k, ← s.advance)
  | none =>
    let message := "Invalid character " ++ quote text ++ " at " ++ s.location.short
    match Diagnostic.invalidText text s.location with
    | .ok d =>
      let s' ← advance { s with errors := s.errors.push d, journal := s.journal.push message }
      return (.invalid, s')
    | .error e => throw (.notOneCharacter e.length)

def passLexeme (s : Scanner) : Except Fault ((Kind × Option Int) × Scanner) := do
  let text ← s.here
  if isOneOf CharClass.digits text then
    let (number, s') ← s.passDigits 0
    return ((.number, some number), s')
  else if isBlankText text then
    let s' ← s.passBlank
    return ((.whitespace, none), s')
  else
    let (kind, s') ← s.passOther
    return ((kind, none), s')

def finish (s : Scanner) : Scanner :=
  { s with
    cursor := { s.cursor with offset := s.cursor.offset + 1 }
    phase := .exhausted
    journal := s.journal.push (Event.reachedEnd s.filename).message }

/-- One call for a token: the token, if one is left, and the scanner after it. -/
def next (s : Scanner) : Except Fault (Option Token × Scanner) := do
  if s.phase = .exhausted then return (none, s)
  else if s.cursor.offset = s.source.length then return (some .endMarker, s.finish)
  else
    let ((kind, value), s') ← s.passLexeme
    return (some ⟨kind, ⟨s.cursor.offset, s'.cursor.offset, s.textTo s'⟩, value⟩, s')

/-- Several calls for a token: what they answer, and the scanner after them. -/
def calls : Nat → Scanner → Except Fault (List (Option Token) × Scanner)
  | 0, s => return ([], s)
  | k + 1, s => do
    let (t, s') ← s.next
    let (ts, last) ← calls k s'
    return (t :: ts, last)

end Scanner

end ArithLex
