import ArithLex.Proofs.Lexer.State
import ArithLex.Proofs.Token.Counts

/-!
# How reading comes to an end

Each call for a token moves the lexer over the text of that token, or over the end, and so a source of
`n` tokens is read by `n + 1` calls (`called`, `Lexer.offset_next`). The two loops of a reading, over tokens
and over digits, are written here as loops that nothing but their own test stops (`EndsAfter`).
-/

set_option autoImplicit false

namespace ArithLex
open Text Lexeme

/-! ## Loops -/

/-- From `s` a loop stops after `k` turns, in `e`. -/
inductive EndsAfter {σ : Type} (turn : σ → Option σ) : Nat → σ → σ → Prop
  | stop {s : σ} : turn s = none → EndsAfter turn 0 s s
  | step {k : Nat} {s s' e : σ} : turn s = some s' → EndsAfter turn k s' e → EndsAfter turn (k + 1) s e

/-- One turn over the digits: the number so far, and the text ahead. -/
def digitTurn : Nat × List Char → Option (Nat × List Char)
  | (_, []) => none
  | (n, c :: cs) => if c.isDigit then some (n * 10 + (c.toNat - '0'.toNat), cs) else none

theorem endsAfter_digits (n : Nat) (cs : List Char) :
    EndsAfter digitTurn (cs.takeWhile Char.isDigit).length (n, cs)
      (Nat.ofDigitChars 10 (cs.takeWhile Char.isDigit) n, cs.dropWhile Char.isDigit) := by
  induction cs generalizing n with
  | nil => exact .stop rfl
  | cons c cs ih =>
    by_cases hc : c.isDigit = true
    · rw [List.takeWhile_cons_of_pos hc, List.dropWhile_cons_of_pos hc, List.length_cons,
        Nat.ofDigitChars_cons, Nat.mul_comm]
      exact .step (if_pos hc) (ih _)
    · rw [List.takeWhile_cons_of_neg hc, List.dropWhile_cons_of_neg hc]
      exact .stop (if_neg hc)

theorem endsAfter_read {c : Char} (hc : c.isDigit = true) (cs : List Char) :
    ∃ v, (Lexeme.read c cs).1.value = some v ∧
      EndsAfter digitTurn (Lexeme.read c cs).1.text.length (0, c :: cs) (v, (Lexeme.read c cs).2) := by
  have hread : Lexeme.read c cs = (ofDigits (c :: cs.takeWhile Char.isDigit), cs.dropWhile Char.isDigit) := by
    unfold Lexeme.read
    rw [CharClass.of_eq_digit_iff.2 hc]
  have hloop := endsAfter_digits 0 (c :: cs)
  rw [List.takeWhile_cons_of_pos hc, List.dropWhile_cons_of_pos hc] at hloop
  rw [hread]
  exact ⟨_, rfl, hloop⟩

namespace Lexer

def drainTurn : List Token × Lexer → Option (List Token × Lexer)
  | (ts, l) => l.next.map fun (t, m) => (ts ++ [t], m)

theorem endsAfter_drain (ts : List Token) (l : Lexer) :
    EndsAfter drainTurn l.drain.1.length (ts, l) (ts ++ l.drain.1, l.drain.2) := by
  -- what is ahead becomes less with each token
  induction hn : l.remaining using Nat.strong_induction_on generalizing ts l with
  | _ n ih =>
    subst hn
    cases h : l.next with
    | none =>
      rw [drain_of_next_none h, List.append_nil]
      exact .stop (by rw [drainTurn, h]; rfl)
    | some p =>
      obtain ⟨t, m⟩ := p
      have hrest := ih m.remaining (remaining_next_lt h) (ts ++ [t]) m rfl
      rw [List.append_assoc] at hrest
      rw [drain_of_next h]
      exact .step (by rw [drainTurn, h]; rfl) hrest

/-! ## One call -/

theorem next_take (l : Lexer) (k : Nat) :
    (l.take k).2.next = l.drain.1[k]?.map fun t => (t, (l.take (k + 1)).2) := by
  have hrest : (l.take k).2.drain.1 = l.drain.1.drop k := by rw [drain_take]
  have hone : (l.take (k + 1)).2 = ((l.take k).2.take 1).2 := by rw [take_add]
  rw [← List.head?_drop, ← hrest, hone]
  cases h : (l.take k).2.next with
  | none =>
    rw [drain_of_next_none h]
    rfl
  | some p =>
    obtain ⟨t, m⟩ := p
    rw [drain_of_next h, take_succ_of_next h]
    rfl

/-- A call moves a lexer over the end, or over the text of a token, which is not empty. -/
theorem offset_next {l m : Lexer} {t : Token} (h : l.next = some (t, m)) :
    t = .endMarker ∧ m.cursor.offset = l.cursor.offset + 1 ∨
      t.kind ≠ .eof ∧ 0 < t.literal.length ∧ m.cursor.offset = l.cursor.offset + t.literal.length := by
  unfold next at h
  split at h
  · cases h
  · cases h
    exact .inl ⟨rfl, rfl⟩
  · rename_i c cs hahead
    simp only [Option.some.injEq, Prod.mk.injEq] at h
    obtain ⟨rfl, rfl⟩ := h
    have hlen : ((Lexeme.read c cs).1.token l.cursor.offset).literal.length =
        (Lexeme.read c cs).1.text.length := String.length_ofList
    refine .inr ⟨(formed_read c cs).kind_ne_eof, ?_, ?_⟩
    · rw [hlen]
      exact List.length_pos_iff.2 (read_text_ne_nil c cs)
    · rw [hlen, note_eq, pass, Cursor.offset_advanceBy]

end Lexer

/-! ## All calls -/

/-- The lexer of a source after some calls for the next token. -/
def called (source filename : String) (k : Nat) : Lexer :=
  (Lexer.start source filename).after (List.replicate k .next)

section Parts
variable (source filename : String)

theorem next_called (k : Nat) : (called source filename k).next =
    (tokenize source filename)[k]?.map fun t => (t, called source filename (k + 1)) := by
  unfold called
  rw [Lexer.after_replicate_next, Lexer.after_replicate_next]
  exact Lexer.next_take _ k

theorem length_tokenize : (tokenize source filename).length = tokenCount source.toList + 1 := by
  rw [tokenize_eq, List.length_append, length_place, length_lexemes]
  rfl

theorem next_called_lt {k : Nat} (hk : k < tokenCount source.toList) :
    ∃ t, (called source filename k).next = some (t, called source filename (k + 1)) ∧
      t.kind ≠ .eof := by
  rw [next_called, tokenize_eq]
  rw [← length_lexemes, ← length_place 0] at hk
  rw [List.getElem?_append_left hk, List.getElem?_eq_getElem hk]
  exact ⟨_, rfl, kind_ne_eof_of_mem_place (splits_lexemes source.toList).formed (List.getElem_mem hk)⟩

theorem next_called_last : (called source filename (tokenCount source.toList)).next =
    some (.endMarker, called source filename (tokenCount source.toList + 1)) := by
  rw [next_called, tokenize_eq, ← length_lexemes, ← length_place 0,
    List.getElem?_append_right (Nat.le_refl _), Nat.sub_self]
  rfl

theorem next_called_gt {k : Nat} (hk : tokenCount source.toList < k) :
    (called source filename k).next = none := by
  rw [next_called, List.getElem?_eq_none (by rw [length_tokenize]; omega)]
  rfl

end Parts

/-- **Reading comes to an end after as many calls as there are tokens.** Each call moves the lexer over the text of
its token, the last one over the end, and later ones get nothing. Of each kind there are as many tokens as the
characters tell, and none comes twice. Both loops of a reading stop on their own, with what the lexer delivers. -/
theorem calls_come_to_an_end (source filename : String) :
    tokenCount source.toList ≤ source.length ∧
      (∀ k < tokenCount source.toList, ∃ t,
        (called source filename k).next = some (t, called source filename (k + 1)) ∧
          t.kind ≠ .eof ∧ 0 < t.literal.length ∧
          (called source filename (k + 1)).cursor.offset =
            (called source filename k).cursor.offset + t.literal.length) ∧
      (called source filename (tokenCount source.toList)).next =
        some (.endMarker, called source filename (tokenCount source.toList + 1)) ∧
      (called source filename (tokenCount source.toList + 1)).cursor.offset =
        (called source filename (tokenCount source.toList)).cursor.offset + 1 ∧
      (∀ k, tokenCount source.toList < k → (called source filename k).next = none) ∧
      CountsOf source.toList (tokenize source filename) ∧
      (tokenize source filename).Nodup ∧
      EndsAfter Lexer.drainTurn (tokenCount source.toList + 1) ([], .start source filename)
        (tokenize source filename, drained source filename) ∧
      ∀ c cs, c.isDigit = true → ∃ v, (Lexeme.read c cs).1.value = some v ∧
        EndsAfter digitTurn (Lexeme.read c cs).1.text.length (0, c :: cs) (v, (Lexeme.read c cs).2) := by
  have hlast := next_called_last source filename
  refine ⟨?_, fun k hk => ?_, hlast, ?_, fun k hk => next_called_gt source filename hk,
    countsOf_tokenize source filename, nodup_tokenize source filename, ?_,
    fun c cs hc => endsAfter_read hc cs⟩
  · rw [← String.length_toList]
    exact tokenCount_le source.toList
  · obtain ⟨t, hnext, heof⟩ := next_called_lt source filename hk
    rcases Lexer.offset_next hnext with ⟨rfl, -⟩ | ⟨-, hpos, hoffset⟩
    · exact absurd rfl heof
    · exact ⟨t, hnext, heof, hpos, hoffset⟩
  · rcases Lexer.offset_next hlast with ⟨-, hoffset⟩ | ⟨heof, -⟩
    · exact hoffset
    · exact absurd rfl heof
  · rw [← length_tokenize source filename]
    exact Lexer.endsAfter_drain [] (.start source filename)

theorem calls_come_to_an_end_of_sum :
    let lexer := called "40+2!" "sum"
    (1 < tokenCount "40+2!".toList ∧ ∃ t, (lexer 1).next = some (t, lexer 2) ∧ t.kind ≠ .eof ∧
        0 < t.literal.length ∧ (lexer 2).cursor.offset = (lexer 1).cursor.offset + t.literal.length) ∧
      (tokenCount "40+2!".toList < 5 ∧ (lexer 5).next = none) ∧
      (Kind.plus.char? = some '+' ∧
        (tokenize "40+2!" "sum").countP (·.kind = .plus) = "40+2!".toList.count '+') ∧
      ('4'.isDigit = true ∧ ∃ v, (Lexeme.read '4' ['0', '+']).1.value = some v ∧
        EndsAfter digitTurn (Lexeme.read '4' ['0', '+']).1.text.length (0, ['4', '0', '+'])
          (v, (Lexeme.read '4' ['0', '+']).2)) := by
  have hcount : tokenCount "40+2!".toList = 4 := by decide
  obtain ⟨-, hcalls, -, -, hafter, hkinds, -, -, hdigits⟩ := calls_come_to_an_end "40+2!" "sum"
  have hbefore : 1 < tokenCount "40+2!".toList := by omega
  have hbehind : tokenCount "40+2!".toList < 5 := by omega
  exact ⟨⟨hbefore, hcalls 1 hbefore⟩, ⟨hbehind, hafter 5 hbehind⟩,
    ⟨rfl, hkinds.punctuation .plus '+' rfl⟩, rfl, hdigits '4' ['0', '+'] rfl⟩

end ArithLex
