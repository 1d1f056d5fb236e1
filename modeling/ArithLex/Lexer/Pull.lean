import ArithLex.Lexer.Basic

/-!
# Pulling tokens

Tokens can be pulled several at a time (`Lexer.take`) or all that are left (`Lexer.drain`). Pulls in a row
are one pull, and past the end a pull is a drain (`take_add`, `take_of_remaining_le`).
-/

set_option autoImplicit false

namespace ArithLex

namespace Lexer

/-- Up to `n` tokens, and the lexer after them. -/
def take : Nat → Lexer → List Token × Lexer
  | 0, l => ([], l)
  | n + 1, l =>
    match l.next with
    | none => ([], l)
    | some (t, m) =>
      let (ts, last) := take n m
      (t :: ts, last)

/-- The tokens that are left, and the exhausted lexer. -/
def drain (l : Lexer) : List Token × Lexer := l.take l.remaining

/-- The tokens that are left, or the first error, and in both cases the exhausted lexer: the whole
source is read before an error is told. -/
def drainStrict (l : Lexer) : Except Diagnostic (List Token) × Lexer :=
  let (ts, last) := l.drain
  match last.errors[0]? with
  | some e => (.error e, last)
  | none => (.ok ts, last)

theorem take_of_next_none {l : Lexer} (h : l.next = none) (n : Nat) : l.take n = ([], l) := by
  cases n <;> simp [take, h]

theorem take_succ_of_next {l m : Lexer} {t : Token} (h : l.next = some (t, m)) (n : Nat) :
    l.take (n + 1) = (t :: (m.take n).1, (m.take n).2) := by
  simp [take, h]

theorem take_add (j k : Nat) (l : Lexer) : l.take (j + k) =
    ((l.take j).1 ++ ((l.take j).2.take k).1, ((l.take j).2.take k).2) := by
  induction j generalizing l with
  | zero => simp [take]
  | succ j ih =>
    cases h : l.next with
    | none => simp [take_of_next_none h]
    | some p =>
      obtain ⟨t, m⟩ := p
      rw [show j + 1 + k = (j + k) + 1 by omega, take_succ_of_next h, take_succ_of_next h, ih]
      simp

theorem ahead_take {l : Lexer} {n : Nat} (h : l.remaining ≤ n) : (l.take n).2.ahead = none := by
  induction n generalizing l with
  | zero =>
    unfold remaining at h
    split at h
    · simpa [take]
    · omega
  | succ n ih =>
    cases hn : l.next with
    | none =>
      rw [take_of_next_none hn]
      exact next_eq_none_iff.1 hn
    | some p =>
      obtain ⟨t, m⟩ := p
      rw [take_succ_of_next hn]
      have := remaining_next_lt hn
      exact ih (by omega)

theorem take_of_remaining_le {l : Lexer} {n : Nat} (h : l.remaining ≤ n) : l.take n = l.drain := by
  obtain ⟨k, rfl⟩ := Nat.exists_eq_add_of_le h
  have hnone := next_eq_none_iff.2 (ahead_take (Nat.le_refl l.remaining))
  rw [take_add, take_of_next_none hnone, List.append_nil]
  rfl

theorem isExhausted_drain (l : Lexer) : l.drain.2.isExhausted = true := by
  simp [isExhausted, drain, ahead_take]

end Lexer

def textSource : String := "<string>"

/-- All tokens of a source. Invalid characters are tokens too. -/
def tokenize (source filename : String) : List Token := (Lexer.start source filename).drain.1

/-- All tokens of a source without invalid characters, or the error for the first of them. -/
def tokenizeStrict (source filename : String) : Except Diagnostic (List Token) :=
  (Lexer.start source filename).drainStrict.1

end ArithLex
