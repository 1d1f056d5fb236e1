import ArithLex.Proofs.Lexer.Progress
import ArithLex.Session

/-!
# Pulling in any way

A lexer can be asked for one token, for several, for all that is left, or for a part or the text of
what is left. However the steps are mixed, the tokens they use up (`Lexer.used`) are the tokens of the
source in order, and what the lexer is afterwards (`Lexer.after`) depends on their number alone.
-/

set_option autoImplicit false

namespace ArithLex
open Lexeme

def Reply.shown : Reply → List Token
  | .token t => [t]
  | .tokens ts => ts
  | _ => []

namespace Lexer

/-- The tokens that a step uses up: those it answers with. A step that answers with a part or with the
text of the rest uses up what a drain would answer with. -/
def usedBy (l : Lexer) : Step → List Token
  | .stripRest | .textOfRest => (l.perform .drain).1.shown
  | step => (l.perform step).1.shown

/-- The lexer after a list of steps. -/
def after (l : Lexer) : List Step → Lexer
  | [] => l
  | s :: ss => (l.perform s).2.after ss

/-- The tokens that a list of steps uses up, in order. -/
def used (l : Lexer) : List Step → List Token
  | [] => []
  | s :: ss => l.usedBy s ++ (l.perform s).2.used ss

/-! ## Steps are pulls -/

def demand (l : Lexer) : Step → Nat
  | .next | .pull => 1
  | .take n => n
  | .drain | .stripRest | .textOfRest => l.remaining
  | .location | .errors | .warnings | .diagnostics => 0

theorem perform_eq_take (l : Lexer) (s : Step) :
    l.usedBy s = (l.take (l.demand s)).1 ∧ (l.perform s).2 = (l.take (l.demand s)).2 := by
  cases s with
  | next | pull =>
    cases h : l.next with
    | none => simp [usedBy, perform, demand, Reply.shown, h, take]
    | some p =>
      obtain ⟨t, m⟩ := p
      simp [usedBy, perform, demand, Reply.shown, h, take]
  | drain | take n | stripRest | textOfRest => exact ⟨rfl, rfl⟩
  | location | errors | warnings | diagnostics => exact ⟨rfl, rfl⟩

theorem steps_eq_take (l : Lexer) (steps : List Step) :
    ∃ n, l.used steps = (l.take n).1 ∧ l.after steps = (l.take n).2 := by
  induction steps generalizing l with
  | nil => exact ⟨0, rfl, rfl⟩
  | cons s ss ih =>
    obtain ⟨hused, hafter⟩ := perform_eq_take l s
    obtain ⟨n, h1, h2⟩ := ih (l.perform s).2
    refine ⟨l.demand s + n, ?_, ?_⟩
    · rw [used, hused, h1, hafter, take_add]
    · rw [after, h2, hafter, take_add]

theorem after_replicate_next (l : Lexer) (k : Nat) : l.after (List.replicate k .next) = (l.take k).2 := by
  induction k generalizing l with
  | zero => rfl
  | succ k ih =>
    rw [List.replicate_succ, after, ih, (perform_eq_take l .next).2, Nat.add_comm, take_add]
    rfl

theorem fst_take (l : Lexer) (k : Nat) : (l.take k).1 = l.drain.1.take k := by
  induction k generalizing l with
  | zero => rfl
  | succ k ih =>
    cases h : l.next with
    | none => rw [take_of_next_none h, drain_of_next_none h, List.take_nil]
    | some p =>
      obtain ⟨t, m⟩ := p
      rw [take_succ_of_next h, drain_of_next h, List.take_succ_cons, ih]

theorem drain_take (l : Lexer) (k : Nat) : (l.take k).2.drain = (l.drain.1.drop k, l.drain.2) := by
  induction k generalizing l with
  | zero => rfl
  | succ k ih =>
    cases h : l.next with
    | none => rw [take_of_next_none h, drain_of_next_none h, List.drop_nil]
    | some p =>
      obtain ⟨t, m⟩ := p
      rw [take_succ_of_next h, drain_of_next h, List.drop_succ_cons, ih]

theorem take_length_take (l : Lexer) (n : Nat) : l.take (l.take n).1.length = l.take n := by
  induction n generalizing l with
  | zero => rfl
  | succ n ih =>
    cases h : l.next with
    | none => rw [take_of_next_none h, take_of_next_none h]
    | some p =>
      obtain ⟨t, m⟩ := p
      rw [take_succ_of_next h, List.length_cons, take_succ_of_next h, ih]

/-! ## Before and after the end -/

/-- Asked for the rest, a lexer answers with these tokens and an end marker, with those of them that
are not whitespace and an end marker, or with this text, and is exhausted. -/
def YieldsRest (l : Lexer) (ts : List Token) (text : String) : Prop :=
  ∃ last : Lexer, last.phase = .exhausted ∧
    l.perform .drain = (.tokens (ts ++ [.endMarker]), last) ∧
    l.perform .stripRest = (.tokens (ts.filter (·.kind ≠ .whitespace) ++ [.endMarker]), last) ∧
    l.perform .textOfRest = (.text text, last)

/-- No step gets anything out of a lexer or changes it. -/
structure Idle (l : Lexer) : Prop where
  next : l.perform .next = (.noToken, l)
  pull : l.perform .pull = (.stop, l)
  drain : l.perform .drain = (.tokens [], l)
  take : ∀ n, l.perform (.take n) = (.tokens [], l)
  stripRest : l.perform .stripRest = (.tokens [], l)
  textOfRest : l.perform .textOfRest = (.text "", l)
  steps : ∀ steps, l.after steps = l ∧ l.used steps = []

theorem phase_eq_exhausted_iff {l : Lexer} : l.phase = .exhausted ↔ l.ahead = none := by
  unfold phase
  cases l.ahead <;> simp

theorem idle_of_exhausted {l : Lexer} (h : l.phase = .exhausted) : l.Idle := by
  have hnext : l.next = none := next_eq_none_iff.2 (phase_eq_exhausted_iff.1 h)
  have hdrain : l.drain = ([], l) := drain_of_next_none hnext
  refine ⟨?_, ?_, ?_, fun n => ?_, ?_, ?_, fun steps => ?_⟩
  · simp only [perform, hnext]
  · simp only [perform, hnext]
  · simp only [perform, hdrain]
  · simp only [perform, take_of_next_none hnext]
  · simp only [perform, hdrain]
    rfl
  · simp only [perform, hdrain]
    rfl
  · obtain ⟨n, hused, hafter⟩ := steps_eq_take l steps
    rw [hused, hafter, take_of_next_none hnext]
    exact ⟨rfl, rfl⟩

theorem stripTrivia_eq_filter (ts : List Token) :
    stripTrivia ts = ts.filter (·.kind ≠ .whitespace) := by
  refine List.filter_congr fun t _ => ?_
  rw [Token.isTrivia, decide_not]
  rfl

theorem yieldsRest_midway (filename : String) (passed rest : List Char) :
    (midway filename passed rest).YieldsRest (place passed.length (lexemes rest))
      (String.ofList rest) := by
  have hdrain := drain_midway filename passed rest
  refine ⟨finished filename (passed ++ rest), rfl, ?_, ?_, ?_⟩
  · simp only [perform, hdrain]
  · simp only [perform, hdrain]
    rw [stripTrivia_append, stripTrivia_eq_filter]
    rfl
  · have hformed := (splits_lexemes rest).formed
    simp only [perform, hdrain, sourceText_append, sourceText_place hformed, textOf_lexemes,
      sourceText_endMarker, String.append_empty]

/-! ## The steps of a list -/

theorem used_append_drain (l : Lexer) (steps : List Step) :
    l.used steps ++ (l.after steps).drain.1 = l.drain.1 := by
  obtain ⟨n, hused, hafter⟩ := steps_eq_take l steps
  rw [hused, hafter, fst_take, drain_take, List.take_append_drop]

theorem after_eq_take_length (l : Lexer) (steps : List Step) :
    l.after steps = (l.take (l.used steps).length).2 := by
  obtain ⟨n, hused, hafter⟩ := steps_eq_take l steps
  rw [hused, hafter, take_length_take]

theorem underway_after (source filename : String) (steps : List Step) :
    Underway source filename ((start source filename).after steps) := by
  rw [after_eq_take_length]
  exact (underway_start source filename).take _

theorem used_append_place {source filename : String} {steps : List Step} {passed rest : List Char}
    (h : (start source filename).after steps = midway filename passed rest) :
    (start source filename).used steps ++ place passed.length (lexemes rest) =
      place 0 (lexemes source.toList) := by
  have hall := used_append_drain (start source filename) steps
  rw [h, drain_midway, ← tokenize, tokenize_eq, ← List.append_assoc] at hall
  exact List.append_cancel_right hall

theorem join_literals_used {source filename : String} {steps : List Step} {passed rest : List Char}
    (h : (start source filename).after steps = midway filename passed rest)
    (hsource : passed ++ rest = source.toList) :
    String.join (((start source filename).used steps).map Token.literal) = String.ofList passed := by
  have hliterals := congrArg (List.flatMap fun t => t.literal.toList) (used_append_place h)
  rw [List.flatMap_append, literals_place, literals_place, textOf_lexemes, textOf_lexemes, ← hsource]
    at hliterals
  apply String.toList_inj.1
  rw [String.toList_join, List.flatMap_map, List.append_cancel_right hliterals, String.toList_ofList]

theorem endMarker_notMem_used {source filename : String} {steps : List Step} {passed rest : List Char}
    (h : (start source filename).after steps = midway filename passed rest) :
    Token.endMarker ∉ (start source filename).used steps := by
  intro hmem
  have hplace : Token.endMarker ∈ place 0 (lexemes source.toList) := by
    rw [← used_append_place h]
    exact List.mem_append_left _ hmem
  have := isEof_of_mem_place (splits_lexemes source.toList).formed _ hplace
  cases this

end Lexer

/-- **Pulling in any way delivers the same tokens.** The steps of a list use up a first part of the
tokens of the source; the lexer after them is the one after as many calls of `next`; before the end it
still yields exactly the other tokens and the text ahead, and after the end it is idle. -/
theorem steps_use_up_in_order (source filename : String) (steps : List Step) :
    let l := (Lexer.start source filename).after steps
    let used := (Lexer.start source filename).used steps
    used = (tokenize source filename).take used.length ∧
      l = (Lexer.start source filename).after (List.replicate used.length .next) ∧
      (l.phase = .exhausted ↔ .endMarker ∈ used) ∧
      (l.phase = .scanning →
        String.join (used.map Token.literal) = String.ofList (source.toList.take l.cursor.offset) ∧
        ∃ rest, tokenize source filename = used ++ rest ++ [.endMarker] ∧
          l.YieldsRest rest (String.ofList (source.toList.drop l.cursor.offset))) ∧
      (l.phase = .exhausted → l.Idle) := by
  intro l used
  have hall : used ++ l.drain.1 = tokenize source filename := Lexer.used_append_drain _ steps
  have hfirst : used = (tokenize source filename).take used.length := by rw [← hall, List.take_left]
  have hstate : l = (Lexer.start source filename).after (List.replicate used.length .next) := by
    rw [Lexer.after_replicate_next]
    exact Lexer.after_eq_take_length _ steps
  have hway : Lexer.Underway source filename l := Lexer.underway_after source filename steps
  generalize hl : l = m at hway hstate hall ⊢
  cases hway with
  | @midway passed rest hsource =>
    have hpos : (Lexer.midway filename passed rest).cursor.offset = passed.length := by
      simp [Lexer.midway, Cursor.start]
    refine ⟨hfirst, hstate, iff_of_false (by simp) (Lexer.endMarker_notMem_used hl),
      fun _ => ⟨?_, ?_⟩, by simp⟩
    · rw [hpos, ← hsource, List.take_left]
      exact Lexer.join_literals_used hl hsource
    · refine ⟨place passed.length (lexemes rest), ?_, ?_⟩
      · rw [Lexer.used_append_place hl, tokenize_eq]
      · rw [hpos, ← hsource, List.drop_left]
        exact Lexer.yieldsRest_midway filename passed rest
  | finished =>
    rw [Lexer.drain_of_next_none (Lexer.next_finished _ _), List.append_nil] at hall
    have hmem : Token.endMarker ∈ used := by
      rw [hall, tokenize_eq]
      exact List.mem_append_right _ (List.mem_singleton_self _)
    exact ⟨hfirst, hstate, iff_of_true rfl hmem, by simp, Lexer.idle_of_exhausted⟩

theorem steps_use_up_in_order_of_sum :
    let steps : List Step := [.next, .errors, .take 2]
    let l := (Lexer.start "12 + 7" "sum").after steps
    let last := (Lexer.start "12 + 7" "sum").after (steps ++ [.stripRest])
    l.phase = .scanning ∧
      (∃ rest, tokenize "12 + 7" "sum" =
          (Lexer.start "12 + 7" "sum").used steps ++ rest ++ [.endMarker] ∧
        l.YieldsRest rest (String.ofList ("12 + 7".toList.drop l.cursor.offset))) ∧
      last.phase = .exhausted ∧ last.Idle := by
  intro steps l last
  have hl : l.phase = .scanning := by decide
  have hlast : last.phase = .exhausted := by decide
  obtain ⟨-, -, -, hrest, -⟩ := steps_use_up_in_order "12 + 7" "sum" steps
  obtain ⟨-, -, -, -, hidle⟩ := steps_use_up_in_order "12 + 7" "sum" (steps ++ [.stripRest])
  exact ⟨hl, (hrest hl).2, hlast, hidle hlast⟩

end ArithLex
