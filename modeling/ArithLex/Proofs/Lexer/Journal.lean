import ArithLex.Proofs.Lexer.State

/-!
# The journal of a lexer

A lexer writes its journal when it is made, at each character that it rejects, and at the end of its input.
So the journal only grows, and that of a whole run tells the errors of the run, and nothing of its warnings.
-/

set_option autoImplicit false

namespace ArithLex
open Text

/-- The record that an error stands for: the character of the source at its offset, and its place. -/
def Diagnostic.rejectionRecord? (cs : List Char) (e : Diagnostic) : Option (String × String) :=
  cs[e.location.offset.toNat]?.map fun c =>
    ("DEBUG", "Invalid character " ++ quote (String.singleton c) ++ " at " ++ e.location.short)

namespace Lexer

/-- The journal as it is written: the level and the message of each record. -/
def records (l : Lexer) : List (String × String) :=
  l.journal.toList.map fun e => (Event.level, e.message)

/-! ## The journal grows -/

theorem journal_next {l m : Lexer} {t : Token} (h : l.next = some (t, m)) :
    l.journal.toList <+: m.journal.toList := by
  unfold next at h
  split at h
  · cases h
  · cases h
    show l.journal.toList <+: (l.journal.push (.reachedEnd l.filename)).toList
    rw [Array.toList_push]
    exact List.prefix_append _ _
  · cases h
    show l.journal.toList <+: (l.note _).journal.toList
    rw [note_eq]
    show l.journal.toList <+: (l.journal ++ _).toList
    rw [Array.toList_append]
    exact List.prefix_append _ _

theorem journal_take (l : Lexer) (k : Nat) : l.journal.toList <+: (l.take k).2.journal.toList := by
  induction k generalizing l with
  | zero => exact List.prefix_refl _
  | succ k ih =>
    cases h : l.next with
    | none => simp [take_of_next_none h]
    | some p =>
      obtain ⟨t, m⟩ := p
      rw [take_succ_of_next h]
      exact (journal_next h).trans (ih m)

theorem journal_after (l : Lexer) (steps : List Step) :
    (l.after steps).journal.toList <+: l.drain.2.journal.toList := by
  obtain ⟨n, -, hafter⟩ := steps_eq_take l steps
  have hdrain : (l.after steps).drain.2 = l.drain.2 := by rw [hafter, drain_take]
  rw [← hdrain]
  exact journal_take (l.after steps) _

theorem snd_drainStrict (l : Lexer) : l.drainStrict.2 = l.drain.2 := by
  unfold drainStrict
  generalize l.drain = p
  obtain ⟨ts, last⟩ := p
  dsimp only
  cases last.errors[0]? <;> rfl

theorem Underway.eq_drained {source filename : String} {l : Lexer} (h : Underway source filename l)
    (hend : l.phase = .exhausted) : l = drained source filename := by
  cases h with
  | midway _ => cases hend
  | finished => rw [drained_eq]

end Lexer

/-! ## The journal of a whole run -/

section Parts
variable (source filename : String)

theorem journal_drained : (drained source filename).journal.toList =
    .created filename source.length ::
      remarks Event.rejectionAt? filename .start source.toList ++ [.reachedEnd filename] := by
  rw [drained_eq, ← String.length_toList]
  show ((Event.created filename (source.toList.length + 0) ::
    remarks Event.rejectionAt? filename .start source.toList).toArray.push _).toList = _
  rw [Array.toList_push, Nat.add_zero]
  rfl

theorem rejectionRecord?_errors (cs : List Char) :
    (remarks Diagnostic.errorAt? filename .start cs).map (Diagnostic.rejectionRecord? cs) =
      (remarks Event.rejectionAt? filename .start cs).map
        fun e => some (Event.level, e.message) := by
  rw [remarks_eq_filterMap _ filename cs [], remarks_eq_filterMap _ filename cs [], List.append_nil,
    List.map_filterMap, List.map_filterMap]
  refine List.filterMap_congr fun ⟨c, i⟩ hci => ?_
  have hi : cs[i]? = some c := List.mem_zipIdx_iff_getElem?.1 hci
  by_cases hc : CharClass.of c = .stray
  · have hrecord : Diagnostic.rejectionRecord? cs (.invalidCharacter c (locate filename cs i)) =
        some (Event.level, (Event.rejected c (locate filename cs i)).message) := by
      show (cs[i]?).map _ = _
      rw [hi]
      rfl
    rw [errorAt?_of_stray _ hc, Event.rejectionAt?, if_pos hc, Option.map_some, Option.map_some,
      hrecord]
  · rw [errorAt?_of_ne_stray _ hc, Event.rejectionAt?, if_neg hc]
    rfl

theorem records_drained : (drained source filename).records.map some =
    some ("DEBUG", "Lexer created for " ++ filename ++ " (" ++ decimal source.length ++ " characters)") ::
      (drained source filename).errors.toList.map (Diagnostic.rejectionRecord? source.toList) ++
        [some ("DEBUG", "Reached end of input in " ++ filename)] := by
  rw [errors_drained, rejectionRecord?_errors, Lexer.records, journal_drained, List.map_map,
    List.map_append]
  rfl

theorem records_after (steps : List Step) :
    ((Lexer.start source filename).after steps).records <+: (drained source filename).records :=
  (Lexer.journal_after (Lexer.start source filename) steps).map _

end Parts

/-- **The journal tells the run.** A whole run writes one record for the lexer, one for each error, in order, and
one for the end, whether it is strict or not; the character of each error is found at its offset. After any
steps a first part of this has been written, and once the lexer is exhausted all of it. -/
theorem journal_tells_run (source filename : String) :
    (drained source filename).records.map some =
        some ("DEBUG",
          "Lexer created for " ++ filename ++ " (" ++ decimal source.length ++ " characters)") ::
            (drained source filename).errors.toList.map (Diagnostic.rejectionRecord? source.toList) ++
              [some ("DEBUG", "Reached end of input in " ++ filename)] ∧
      (Lexer.start source filename).drainStrict =
        (tokenizeStrict source filename, drained source filename) ∧
      (drained source filename).phase = .exhausted ∧
      ∀ steps, let l := (Lexer.start source filename).after steps
        l.records <+: (drained source filename).records ∧
          (l.phase = .exhausted → ∀ more, (l.after more).records = (drained source filename).records) := by
  have hstrict := Lexer.snd_drainStrict (Lexer.start source filename)
  refine ⟨records_drained source filename, Prod.ext rfl hstrict, ?_, fun steps => ⟨?_, ?_⟩⟩
  · rw [drained_eq]
    rfl
  · exact records_after source filename steps
  · intro hend more
    have hway := Lexer.underway_after source filename steps
    rw [((Lexer.idle_of_exhausted hend).steps more).1, hway.eq_drained hend]

theorem journal_tells_run_of_stray :
    let l := (Lexer.start "1\xa0?" "sum").after [.take 3]
    let last := (Lexer.start "1\xa0?" "sum").after [.pull, .drain]
    l.records = [("DEBUG", "Lexer created for sum (3 characters)"),
        ("DEBUG", "Invalid character '?' at sum:1:3")] ∧
      l.records <+: (drained "1\xa0?" "sum").records ∧
      last.phase = .exhausted ∧
      (last.after [.next, .take 2]).records = (drained "1\xa0?" "sum").records := by
  intro l last
  have hlast : last.phase = .exhausted := by decide
  obtain ⟨-, -, -, hsteps⟩ := journal_tells_run "1\xa0?" "sum"
  exact ⟨by decide, (hsteps [.take 3]).1, hlast, (hsteps [.pull, .drain]).2 hlast [.next, .take 2]⟩

end ArithLex
