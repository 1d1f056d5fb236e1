import ArithLex.Text.CharTable

/-!
# Written forms

How values are written: numbers in decimal and hexadecimal, texts between quotation marks, so that they
read as one line of printable characters and can be read back, and values by the names of their types and
parts, as in `Name(first, second)` or `Name(part=first, other=second)`.
-/

set_option autoImplicit false

namespace ArithLex.Text

/-! ## Numerals -/

/-- The decimal text of an integer, with a sign only below zero. It has as many digits as the integer needs:
no limit is put on the conversion. -/
def decimal (i : Int) : String :=
  String.ofList (if i < 0 then '-' :: Nat.toDigits 10 i.natAbs else Nat.toDigits 10 i.natAbs)

def hexDigits (width n : Nat) : List Char := (Nat.toDigits 16 n).leftpad width '0'

/-- A character by its code point: upper-case hexadecimal digits, four or more. -/
def codePointName (c : Char) : String :=
  "U+" ++ String.ofList ((hexDigits 4 c.toNat).map Char.toUpper)

theorem toList_decimal (i : Int) : (decimal i).toList =
    if i < 0 then '-' :: Nat.toDigits 10 i.natAbs else Nat.toDigits 10 i.natAbs :=
  String.toList_ofList

/-! ## Quoted texts -/

/-- The mark around a text: a double quote if the text holds apostrophes and no double quote. -/
def quoteMark (cs : List Char) : Char :=
  if cs.contains '\'' && !cs.contains '"' then '"' else '\''

/-- A character between two marks. The mark, the backslash, line feed, carriage return and tab take a
backslash; any other character that may not stand as it is takes its code point in two, four or
eight digits. -/
def escape (printable : Char → Bool) (mark c : Char) : List Char :=
  if c = mark ∨ c = '\\' then ['\\', c]
  else if c = '\n' then ['\\', 'n']
  else if c = '\r' then ['\\', 'r']
  else if c = '\t' then ['\\', 't']
  else if printable c then [c]
  else if c.toNat < 0x100 then '\\' :: 'x' :: hexDigits 2 c.toNat
  else if c.toNat < 0x10000 then '\\' :: 'u' :: hexDigits 4 c.toNat
  else '\\' :: 'U' :: hexDigits 8 c.toNat

def escapeAll (printable : Char → Bool) (mark : Char) (cs : List Char) : List Char :=
  cs.flatMap (escape printable mark)

/-- A text between its marks, with `printable` saying what may stand as it is. -/
def quoteWith (printable : Char → Bool) (s : String) : String :=
  let mark := quoteMark s.toList
  String.ofList (mark :: escapeAll printable mark s.toList ++ [mark])

def quote (s : String) : String := quoteWith isPrintable s

theorem toList_quoteWith (printable : Char → Bool) (s : String) :
    (quoteWith printable s).toList = quoteMark s.toList ::
      escapeAll printable (quoteMark s.toList) s.toList ++ [quoteMark s.toList] :=
  String.toList_ofList

theorem quoteMark_eq_or (cs : List Char) : quoteMark cs = '\'' ∨ quoteMark cs = '"' := by
  unfold quoteMark
  split
  · exact .inr rfl
  · exact .inl rfl

/-! ## Values by their parts -/

/-- A value that may be missing. -/
def optional {α : Type} (write : α → String) : Option α → String
  | none => "None"
  | some a => write a

def commas (parts : List String) : String := String.intercalate ", " parts

/-- A list in square brackets. -/
def bracketed {α : Type} (write : α → String) (as : List α) : String :=
  "[" ++ commas (as.map write) ++ "]"

/-- A value by its type's name and its parts. -/
def applied (name : String) (parts : List String) : String := name ++ "(" ++ commas parts ++ ")"

/-- A value by its type's name and its named parts. -/
def record (name : String) (parts : List (String × String)) : String :=
  applied name (parts.map fun (label, part) => label ++ "=" ++ part)

end ArithLex.Text
