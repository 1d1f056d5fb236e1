import ArithLex.Text.Written

/-!
# Catalogues

A catalogue is a closed list of members with a title. Each member has a name and a number, its place
in the list counted from one, and can be looked up by either.
-/

set_option autoImplicit false

namespace ArithLex

open Text

/-- The ways to ask a catalogue for a member it does not have. -/
inductive LookupError where
  | unknownName (name : String)
  | unknownNumber (title : String) (number : Int)
deriving DecidableEq

def LookupError.message : LookupError → String
  | .unknownName name => quote name
  | .unknownNumber title number => decimal number ++ " is not a valid " ++ title

/-- A titled list of members and their names. -/
structure Catalogue (α : Type) where
  title : String
  members : List α
  name : α → String

namespace Catalogue

variable {α : Type}

/-- The place of a member, counted from one. -/
def number [BEq α] (c : Catalogue α) (a : α) : Nat := c.members.idxOf a + 1

/-- The member of a name. Names are told apart by case. -/
def byName (c : Catalogue α) (name : String) : Except LookupError α :=
  match c.members.find? (c.name · == name) with
  | some a => .ok a
  | none => .error (.unknownName name)

def byNumber (c : Catalogue α) (number : Int) : Except LookupError α :=
  match (if 1 ≤ number then c.members[number.toNat - 1]? else none) with
  | some a => .ok a
  | none => .error (.unknownNumber c.title number)

def short (c : Catalogue α) (a : α) : String := c.title ++ "." ++ c.name a

def full [BEq α] (c : Catalogue α) (a : α) : String :=
  "<" ++ c.short a ++ ": " ++ decimal (c.number a) ++ ">"

theorem byName_name (c : Catalogue α) {a : α} (h : a ∈ c.members)
    (inj : ∀ b ∈ c.members, c.name b = c.name a → b = a) : c.byName (c.name a) = .ok a := by
  cases hb : c.members.find? (c.name · == c.name a) with
  | none => simpa using List.find?_eq_none.1 hb a h
  | some b =>
    have hname : c.name b = c.name a := by simpa using List.find?_some hb
    simp only [byName, hb, inj b (List.mem_of_find?_eq_some hb) hname]

theorem byNumber_number [BEq α] [LawfulBEq α] (c : Catalogue α) {a : α} (h : a ∈ c.members) :
    c.byNumber (c.number a) = .ok a := by
  have hlt := List.idxOf_lt_length_of_mem h
  have hget : c.members[c.members.idxOf a]? = some a := by
    rw [List.getElem?_eq_getElem hlt, List.getElem_idxOf hlt]
  have hone : (1 : Int) ≤ ((c.members.idxOf a + 1 : Nat) : Int) := by omega
  simp only [byNumber, number, hone, if_true, Int.toNat_natCast, Nat.add_sub_cancel, hget]

end Catalogue

end ArithLex
