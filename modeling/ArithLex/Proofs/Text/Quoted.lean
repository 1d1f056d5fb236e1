import ArithLex.Text.Written
import ArithLex.Proofs.Text.Numerals
import Mathlib.Tactic.SplitIfs

/-!
# Reading quoted text

A quoted text tells the text and where it ends, whatever follows: every escape can be read back
(`unescape_escape`), and the mark stands unescaped at the end only.
-/

set_option autoImplicit false

namespace ArithLex.Text

/-- The character with a code point of so many hexadecimal digits, and what follows them. -/
def readCodePoint (width : Nat) (cs : List Char) : Option (Char × List Char) :=
  some (Char.ofNat (hexValue (cs.take width)), cs.drop width)

/-- The first character of an escaped text, and what follows it. -/
def unescape : List Char → Option (Char × List Char)
  | '\\' :: 'n' :: cs => some ('\n', cs)
  | '\\' :: 'r' :: cs => some ('\r', cs)
  | '\\' :: 't' :: cs => some ('\t', cs)
  | '\\' :: 'x' :: cs => readCodePoint 2 cs
  | '\\' :: 'u' :: cs => readCodePoint 4 cs
  | '\\' :: 'U' :: cs => readCodePoint 8 cs
  | '\\' :: c :: cs => some (c, cs)
  | c :: cs => some (c, cs)
  | [] => none

theorem unescape_of_ne {c : Char} (h : c ≠ '\\') (cs : List Char) : unescape (c :: cs) = some (c, cs) := by
  unfold unescape
  split <;> simp_all

theorem readCodePoint_hexDigits {width : Nat} {c : Char} (hwidth : 0 < width)
    (hc : c.toNat < 16 ^ width) (cs : List Char) :
    readCodePoint width (hexDigits width c.toNat ++ cs) = some (c, cs) := by
  have hlength := length_hexDigits hwidth hc
  rw [readCodePoint, List.take_left' hlength, List.drop_left' hlength, hexValue_hexDigits,
    Char.ofNat_toNat]

theorem escape_eq_or (printable : Char → Bool) (mark c : Char) :
    (∃ cs, escape printable mark c = '\\' :: cs) ∨
      (c ≠ mark ∧ c ≠ '\\' ∧ escape printable mark c = [c]) := by
  unfold escape
  split_ifs with hmarked hfeed hreturn htab hprintable hbyte hplane
  · exact Or.inl ⟨_, rfl⟩
  · exact Or.inl ⟨_, rfl⟩
  · exact Or.inl ⟨_, rfl⟩
  · exact Or.inl ⟨_, rfl⟩
  · exact Or.inr ⟨fun h => hmarked (Or.inl h), fun h => hmarked (Or.inr h), rfl⟩
  · exact Or.inl ⟨_, rfl⟩
  · exact Or.inl ⟨_, rfl⟩
  · exact Or.inl ⟨_, rfl⟩

section Mark
variable (printable : Char → Bool) {mark : Char} (hmark : mark = '\'' ∨ mark = '"')
include hmark

/-- An escape is read back as the character it stands for, whatever follows. -/
theorem unescape_escape (c : Char) (cs : List Char) :
    unescape (escape printable mark c ++ cs) = some (c, cs) := by
  have hvalid : c.toNat < 16 ^ 8 := by
    have := c.valid
    simp only [UInt32.isValidChar, Nat.isValidChar] at this
    show c.val.toNat < _
    omega
  unfold escape
  split_ifs with hmarked hfeed hreturn htab hprintable hbyte hplane
  · rcases hmarked with rfl | rfl
    · rcases hmark with rfl | rfl <;> rfl
    · rfl
  · rw [hfeed]
    rfl
  · rw [hreturn]
    rfl
  · rw [htab]
    rfl
  · rw [List.singleton_append, unescape_of_ne (not_or.1 hmarked).2]
  · exact readCodePoint_hexDigits (by decide) hbyte cs
  · exact readCodePoint_hexDigits (by decide) hplane cs
  · exact readCodePoint_hexDigits (by decide) hvalid cs

theorem escape_append_inj {c d : Char} {r s : List Char}
    (h : escape printable mark c ++ r = escape printable mark d ++ s) : c = d ∧ r = s := by
  have hread := unescape_escape printable hmark c r
  rw [h, unescape_escape printable hmark d s] at hread
  simpa [eq_comm] using hread

theorem escape_append_ne (c : Char) (r s : List Char) : escape printable mark c ++ r ≠ mark :: s := by
  have hslash : '\\' ≠ mark := by rcases hmark with rfl | rfl <;> decide
  intro h
  rcases escape_eq_or printable mark c with ⟨cs, hc⟩ | ⟨hne, -, hc⟩
  · rw [hc] at h
    exact hslash (List.cons.inj h).1
  · rw [hc] at h
    exact hne (List.cons.inj h).1

theorem escapeAll_append_inj {cs ds r s : List Char}
    (h : escapeAll printable mark cs ++ mark :: r = escapeAll printable mark ds ++ mark :: s) :
    cs = ds ∧ r = s := by
  have hcons : ∀ c cs, escapeAll printable mark (c :: cs) =
      escape printable mark c ++ escapeAll printable mark cs := fun _ _ => List.flatMap_cons
  induction cs generalizing ds with
  | nil =>
    cases ds with
    | nil => exact ⟨rfl, (List.cons.inj h).2⟩
    | cons d ds =>
      rw [hcons, List.append_assoc] at h
      exact absurd h.symm (escape_append_ne printable hmark d _ _)
  | cons c cs ih =>
    cases ds with
    | nil =>
      rw [hcons, List.append_assoc] at h
      exact absurd h (escape_append_ne printable hmark c _ _)
    | cons d ds =>
      rw [hcons, hcons, List.append_assoc, List.append_assoc] at h
      obtain ⟨rfl, htail⟩ := escape_append_inj printable hmark h
      obtain ⟨rfl, hrest⟩ := ih htail
      exact ⟨rfl, hrest⟩

end Mark

/-- **A quoted text tells the text and where it ends**, whatever follows. -/
theorem quoteWith_append_inj {printable : Char → Bool} {s t : String} {rs ts : List Char}
    (h : (quoteWith printable s).toList ++ rs = (quoteWith printable t).toList ++ ts) :
    s = t ∧ rs = ts := by
  rw [toList_quoteWith, toList_quoteWith, List.append_assoc, List.append_assoc, List.cons_append,
    List.cons_append] at h
  obtain ⟨hmark, h⟩ := List.cons.inj h
  rw [← hmark] at h
  obtain ⟨htext, hrest⟩ := escapeAll_append_inj printable (quoteMark_eq_or s.toList) h
  exact ⟨String.toList_inj.1 htext, hrest⟩

end ArithLex.Text
