import ArithLex.Lexeme
import ArithLex.Location
import ArithLex.Proofs.Text.Numerals
import Mathlib.Tactic.SplitIfs

/-!
# Printable texts

A text of printable characters is one line: no line feed and no other separator of lines is printable.
What the lexer writes is made of such texts, also where it names a character that is none: quoted, the
character is escaped, and its code point is written in ASCII.
-/

set_option autoImplicit false

namespace ArithLex.Text

/-- All characters of a text are printable, so it has no line feed and is one line. -/
def Printable (s : String) : Prop := ∀ c ∈ s.toList, isPrintable c = true

theorem printable_of_all {s : String} (h : s.toList.all isPrintable = true) : Printable s :=
  List.all_eq_true.1 h

theorem printable_append {s t : String} : Printable (s ++ t) ↔ Printable s ∧ Printable t := by
  unfold Printable
  rw [String.toList_append, List.forall_mem_append]

theorem Printable.append {s t : String} (hs : Printable s) (ht : Printable t) : Printable (s ++ t) :=
  printable_append.2 ⟨hs, ht⟩

theorem printable_singleton {c : Char} (h : isPrintable c = true) : Printable (String.singleton c) := by
  intro d hd
  rw [String.toList_singleton, List.mem_singleton] at hd
  rwa [hd]

theorem isPrintable_lineFeed : isPrintable '\n' = false := by decide

theorem Printable.lineFeed_notMem {s : String} (h : Printable s) : '\n' ∉ s.toList := by
  intro hmem
  have := h _ hmem
  rw [isPrintable_lineFeed] at this
  cases this

theorem isPrintable_of_ascii {c : Char} (h : 32 ≤ c.toNat) (h' : c.toNat ≤ 126) :
    isPrintable c = true := by
  rw [isPrintable, Bool.not_eq_true', Bool.eq_false_iff]
  intro hc
  obtain ⟨r, hr, h1, h2⟩ := (inRanges_iff unprintables_ascending c.toNat).1 hc
  have apart : ∀ r ∈ unprintables, r.last < 32 ∨ 126 < r.first := by decide +kernel
  have := apart r hr
  omega

theorem isPrintable_of_isDigit {c : Char} (h : c.isDigit = true) : isPrintable c = true := by
  rw [CharClass.isDigit_iff] at h
  exact isPrintable_of_ascii (by omega) (by omega)

theorem printable_decimal (i : Int) : Printable (decimal i) := by
  intro c hc
  rcases mem_decimal hc with rfl | h
  · decide
  · exact isPrintable_of_isDigit h

theorem printable_codePointName (c : Char) : Printable (codePointName c) := by
  intro d hd
  have hdigit : ∀ n < 16, isPrintable n.digitChar.toUpper = true := by decide
  rw [toList_codePointName, List.mem_cons, List.mem_cons, List.mem_map] at hd
  rcases hd with rfl | rfl | ⟨x, hx, rfl⟩
  · decide
  · decide
  · obtain ⟨n, hn, rfl⟩ := mem_hexDigits hx
    exact hdigit n hn

/-! ## Quoted texts -/

theorem isPrintable_of_mem_code {mark d : Char} {width n : Nat} (hmark : isPrintable mark = true)
    (h : d ∈ '\\' :: mark :: hexDigits width n) : isPrintable d = true := by
  have hdigit : ∀ n < 16, isPrintable n.digitChar = true := by decide
  rw [List.mem_cons, List.mem_cons] at h
  rcases h with rfl | rfl | h
  · decide
  · exact hmark
  · obtain ⟨n, hn, rfl⟩ := mem_hexDigits h
    exact hdigit n hn

theorem isPrintable_of_mem_escape {mark c d : Char} (hmark : isPrintable mark = true)
    (h : d ∈ escape isPrintable mark c) : isPrintable d = true := by
  have hslash : isPrintable '\\' = true := by decide
  have hpair : ∀ x, isPrintable x = true → d ∈ ['\\', x] → isPrintable d = true := by
    intro x hx hd
    rcases List.mem_cons.1 hd with rfl | hd
    · exact hslash
    · rwa [List.mem_singleton.1 hd]
  unfold escape at h
  split_ifs at h with hmarked hfeed hreturn htab hprintable hbyte hplane
  · rcases hmarked with rfl | rfl
    · exact hpair _ hmark h
    · exact hpair _ hslash h
  · exact hpair _ (by decide) h
  · exact hpair _ (by decide) h
  · exact hpair _ (by decide) h
  · rwa [List.mem_singleton.1 h]
  · exact isPrintable_of_mem_code (by decide) h
  · exact isPrintable_of_mem_code (by decide) h
  · exact isPrintable_of_mem_code (by decide) h

theorem printable_quote (s : String) : Printable (quote s) := by
  have hmark : isPrintable (quoteMark s.toList) = true := by
    rcases quoteMark_eq_or s.toList with h | h <;> rw [h] <;> decide
  intro c hc
  rw [quote, toList_quoteWith, List.mem_append, List.mem_cons, List.mem_singleton] at hc
  rcases hc with (rfl | hc) | rfl
  · exact hmark
  · obtain ⟨d, -, hd⟩ := List.mem_flatMap.1 hc
    exact isPrintable_of_mem_escape hmark hd
  · exact hmark

end ArithLex.Text

namespace ArithLex.Location
open Text

theorem printable_short {p : Location} (h : Printable p.filename) : Printable p.short := by
  have hcolon : Printable ":" := printable_of_all (by decide)
  exact ((h.append hcolon).append (printable_decimal _)).append hcolon |>.append (printable_decimal _)

end ArithLex.Location
