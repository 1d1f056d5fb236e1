import ArithLex.Session

/-!
# Lexers side by side

The lexers of a session do not disturb each other. However the commands for different lexers are mixed,
each lexer answers as it would if its own commands were the only ones (`answersOf_run`); and the name of a
lexer's file shows in the places that this lexer tells and nowhere else (`perform_rename`).
-/

set_option autoImplicit false

namespace ArithLex

/-! ## Another file name -/

def Location.rename (filename : String) (p : Location) : Location := { p with filename := filename }

def Diagnostic.rename (filename : String) (d : Diagnostic) : Diagnostic :=
  { d with location := d.location.rename filename }

def Event.rename (filename : String) : Event → Event
  | .created _ length => .created filename length
  | .rejected c p => .rejected c (p.rename filename)
  | .reachedEnd _ => .reachedEnd filename

/-- The same reply about a source of another name. Tokens and texts do not tell the name. -/
def Reply.rename (filename : String) : Reply → Reply
  | .location p => .location (p.rename filename)
  | .diagnostics ds => .diagnostics (ds.map (Diagnostic.rename filename))
  | reply => reply

namespace Lexer

def rename (filename : String) (l : Lexer) : Lexer where
  filename := filename
  ahead := l.ahead
  cursor := l.cursor
  errors := l.errors.map (Diagnostic.rename filename)
  warnings := l.warnings.map (Diagnostic.rename filename)
  journal := l.journal.map (Event.rename filename)

theorem start_rename (source filename other : String) :
    (start source filename).rename other = start source other := by
  simp [start, rename, Event.rename]

theorem remaining_rename (filename : String) (l : Lexer) :
    (l.rename filename).remaining = l.remaining := rfl

theorem note_rename (filename : String) (l : Lexer) (c : Char) :
    (l.rename filename).note c = (l.note c).rename filename := by
  unfold note
  cases CharClass.of c with
  | digit | punctuation _ => rfl
  | blank =>
    dsimp only
    split
    · rfl
    · simp only [rename, Array.map_push]
      rfl
  | stray =>
    simp only [rename, Array.map_push]
    rfl

theorem finish_rename (filename : String) (l : Lexer) :
    (l.rename filename).finish = l.finish.rename filename := by
  simp only [finish, rename, Array.map_push]
  rfl

theorem next_rename (filename : String) (l : Lexer) :
    (l.rename filename).next = l.next.map fun (t, m) => (t, m.rename filename) := by
  unfold next
  have hahead : (l.rename filename).ahead = l.ahead := rfl
  rw [hahead]
  cases l.ahead with
  | none => rfl
  | some cs =>
    cases cs with
    | nil => exact congrArg (fun m => some (Token.endMarker, m)) (finish_rename filename l)
    | cons c cs =>
      dsimp only
      rw [note_rename]
      rfl

theorem take_rename (filename : String) (n : Nat) (l : Lexer) :
    (l.rename filename).take n = ((l.take n).1, (l.take n).2.rename filename) := by
  induction n generalizing l with
  | zero => rfl
  | succ n ih =>
    cases h : l.next with
    | none =>
      have hrenamed : (l.rename filename).next = none := by rw [next_rename, h]; rfl
      rw [take_of_next_none h, take_of_next_none hrenamed]
    | some p =>
      obtain ⟨t, m⟩ := p
      have hrenamed : (l.rename filename).next = some (t, m.rename filename) := by
        rw [next_rename, h]
        rfl
      rw [take_succ_of_next h, take_succ_of_next hrenamed, ih]

theorem drain_rename (filename : String) (l : Lexer) :
    (l.rename filename).drain = (l.drain.1, l.drain.2.rename filename) := by
  rw [drain, remaining_rename, take_rename]
  rfl

/-- **A step under another file name** answers with the reply and the lexer renamed. -/
theorem perform_rename (filename : String) (l : Lexer) (s : Step) :
    (l.rename filename).perform s = ((l.perform s).1.rename filename, (l.perform s).2.rename filename) := by
  cases s with
  | next | pull =>
    simp only [perform, next_rename]
    cases l.next <;> rfl
  | drain | stripRest | textOfRest =>
    simp only [perform, drain_rename]
    rfl
  | take n =>
    simp only [perform, take_rename]
    rfl
  | location => rfl
  | errors | warnings =>
    simp only [perform, rename, Array.toList_map]
    rfl
  | diagnostics =>
    have hall : (l.rename filename).diagnostics = l.diagnostics.map (Diagnostic.rename filename) := by
      simp only [diagnostics, rename, Array.map_append]
    simp only [perform, hall, Array.toList_map]
    rfl

end Lexer

/-! ## Sessions -/

def Lexer.answers (l : Lexer) : List Step → List (Reply × Lexer)
  | [] => []
  | s :: ss => l.perform s :: (l.perform s).2.answers ss

namespace Session

variable {n : Nat}

/-- A fresh lexer for each text and the name of its file. -/
def fresh (sources : Vector (String × String) n) : Vector Lexer n :=
  sources.map fun (source, filename) => .start source filename

/-- The steps that commands ask of one lexer, in order. -/
def stepsFor (i : Fin n) (commands : List (Command n)) : List Step :=
  (commands.filter fun c => c.target = i).map Command.step

/-- The replies of one lexer and the lexers after them, in order. -/
def answersOf (i : Fin n) (entries : List (Entry n)) : List (Reply × Lexer) :=
  (entries.filter fun e => e.target = i).map fun e => (e.reply, e.after)

/-- The entry with another file name if it is one of lexer `i`, and the same entry if it is not. -/
def Entry.renameFor (i : Fin n) (filename : String) (e : Entry n) : Entry n :=
  if e.target = i then ⟨e.target, e.reply.rename filename, e.after.rename filename⟩ else e

theorem run_cons (lexers : Vector Lexer n) (j : Fin n) (s : Step) (commands : List (Command n)) :
    run lexers (⟨j, s⟩ :: commands) =
      ⟨j, (lexers[j].perform s).1, (lexers[j].perform s).2⟩ ::
        run (lexers.set j (lexers[j].perform s).2) commands := rfl

section Part
variable {i j : Fin n} (r : Reply) (l : Lexer)

theorem stepsFor_cons_self (i : Fin n) (s : Step) (commands : List (Command n)) :
    stepsFor i (⟨i, s⟩ :: commands) = s :: stepsFor i commands := by simp [stepsFor]

theorem stepsFor_cons_of_ne (h : j ≠ i) (s : Step) (commands : List (Command n)) :
    stepsFor i (⟨j, s⟩ :: commands) = stepsFor i commands := by simp [stepsFor, h]

theorem answersOf_cons_self (i : Fin n) (entries : List (Entry n)) :
    answersOf i (⟨i, r, l⟩ :: entries) = (r, l) :: answersOf i entries := by simp [answersOf]

theorem answersOf_cons_of_ne (h : j ≠ i) (entries : List (Entry n)) :
    answersOf i (⟨j, r, l⟩ :: entries) = answersOf i entries := by simp [answersOf, h]

theorem renameFor_self (i : Fin n) (filename : String) : Entry.renameFor i filename ⟨i, r, l⟩ =
    ⟨i, r.rename filename, l.rename filename⟩ := if_pos rfl

theorem renameFor_of_ne (h : j ≠ i) (filename : String) :
    Entry.renameFor i filename ⟨j, r, l⟩ = ⟨j, r, l⟩ := if_neg h

end Part

theorem map_target_run (lexers : Vector Lexer n) (commands : List (Command n)) :
    (run lexers commands).map Entry.target = commands.map Command.target := by
  induction commands generalizing lexers with
  | nil => rfl
  | cons c commands ih =>
    obtain ⟨j, s⟩ := c
    rw [run_cons, List.map_cons, List.map_cons, ih]

/-- **A lexer answers in a session as it would alone.** -/
theorem answersOf_run (lexers : Vector Lexer n) (commands : List (Command n)) (i : Fin n) :
    answersOf i (run lexers commands) = lexers[i].answers (stepsFor i commands) := by
  induction commands generalizing lexers with
  | nil => rfl
  | cons c commands ih =>
    obtain ⟨j, s⟩ := c
    rw [run_cons]
    by_cases h : j = i
    · subst h
      rw [answersOf_cons_self, stepsFor_cons_self, ih]
      simp only [Fin.getElem_fin, Vector.getElem_set_self]
      rfl
    · rw [answersOf_cons_of_ne _ _ h, stepsFor_cons_of_ne h, ih]
      simp only [Fin.getElem_fin, Vector.getElem_set_ne _ _ (Fin.val_ne_iff.2 h)]

/-- The name of a lexer's file changes the entries of this lexer, and these by the name alone. -/
theorem run_set_rename (lexers : Vector Lexer n) (commands : List (Command n)) (i : Fin n)
    (filename : String) : run (lexers.set i (lexers[i].rename filename)) commands =
      (run lexers commands).map (Entry.renameFor i filename) := by
  induction commands generalizing lexers with
  | nil => rfl
  | cons c commands ih =>
    obtain ⟨j, s⟩ := c
    rw [run_cons, run_cons, List.map_cons, ← ih]
    by_cases h : j = i
    · subst h
      rw [renameFor_self]
      simp only [Fin.getElem_fin, Vector.getElem_set_self, Lexer.perform_rename, Vector.set_set]
    · have hval : j.val ≠ i.val := Fin.val_ne_iff.2 h
      rw [renameFor_of_ne _ _ h]
      simp only [Fin.getElem_fin, Vector.getElem_set_ne _ _ hval, Vector.getElem_set_ne _ _ hval.symm]
      rw [Vector.set_comm _ _ hval.symm]

theorem fresh_getElem (sources : Vector (String × String) n) (i : Fin n) :
    (fresh sources)[i] = .start sources[i].1 sources[i].2 := by simp [fresh]

theorem fresh_set (sources : Vector (String × String) n) (i : Fin n) (filename : String) :
    fresh (sources.set i (sources[i].1, filename)) =
      (fresh sources).set i ((fresh sources)[i].rename filename) := by
  rw [fresh_getElem, Lexer.start_rename]
  exact Vector.map_set

end Session

open Session in
/-- **Lexers side by side keep apart.** There is one entry for each command. Replies and states of a lexer are those
of a fresh lexer of the same source that is asked for the same steps and nothing else, however these are mixed
with the steps of others. Another name for its file changes its entries in the name alone, and no others. -/
theorem lexers_keep_apart {n : Nat} (sources : Vector (String × String) n)
    (commands : List (Command n)) :
    (run (fresh sources) commands).map Entry.target = commands.map Command.target ∧
      (∀ i, answersOf i (run (fresh sources) commands) =
        (Lexer.start sources[i].1 sources[i].2).answers (stepsFor i commands)) ∧
      (∀ others i, stepsFor i others = stepsFor i commands →
        answersOf i (run (fresh sources) others) = answersOf i (run (fresh sources) commands)) ∧
      ∀ (i : Fin n) filename, run (fresh (sources.set i (sources[i].1, filename))) commands =
        (run (fresh sources) commands).map (Entry.renameFor i filename) := by
  refine ⟨map_target_run _ _, fun i => ?_, fun others i h => ?_, fun i filename => ?_⟩
  · rw [answersOf_run, fresh_getElem]
  · rw [answersOf_run, answersOf_run, h]
  · rw [fresh_set, run_set_rename]

open Session in
theorem lexers_keep_apart_of_two :
    let sources : Vector (String × String) 2 := #v[("1+2?", "left"), ("1+2?", "right")]
    let commands : List (Command 2) := [⟨0, .next⟩, ⟨1, .take 2⟩, ⟨0, .drain⟩, ⟨1, .location⟩, ⟨0, .errors⟩]
    let others : List (Command 2) := [⟨1, .drain⟩, ⟨0, .next⟩, ⟨0, .drain⟩, ⟨1, .pull⟩, ⟨0, .errors⟩]
    stepsFor 0 others = stepsFor 0 commands ∧
      answersOf 0 (run (fresh sources) others) = answersOf 0 (run (fresh sources) commands) := by
  intro sources commands others
  have hsteps : stepsFor 0 others = stepsFor 0 commands := by decide
  exact ⟨hsteps, (lexers_keep_apart sources commands).2.2.1 others 0 hsteps⟩

end ArithLex
