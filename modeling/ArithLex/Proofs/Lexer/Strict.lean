import ArithLex.Proofs.Lexer.State

/-!
# The strict reading of a source

A source is accepted unless one of its characters begins no token, and it is rejected with the error
for the first of these (`errors_eq_nil_iff`, `head?_errors`).
-/

set_option autoImplicit false

namespace ArithLex
open Text

/-- The strict reading of a source ends with tokens. -/
def Accepted (source filename : String) : Prop := ∃ ts, tokenizeStrict source filename = .ok ts

section First
variable (filename : String)

theorem errors_eq_nil_iff (p : Cursor) (cs : List Char) :
    remarks Diagnostic.errorAt? filename p cs = [] ↔ ∀ c ∈ cs, ¬ Rejected c := by
  induction cs generalizing p with
  | nil => simp
  | cons c cs ih =>
    rw [remarks_cons, List.append_eq_nil_iff, ih, List.forall_mem_cons, ← CharClass.of_eq_stray_iff]
    by_cases hc : CharClass.of c = .stray
    · simp [errorAt?_of_stray _ hc, hc]
    · simp [errorAt?_of_ne_stray _ hc, hc]

/-- The first error is that for the first character that is rejected, at the index of this one. -/
theorem head?_errors {before : List Char} (after : List Char) {c : Char}
    (hbefore : ∀ d ∈ before, ¬ Rejected d) (hc : Rejected c) :
    (remarks Diagnostic.errorAt? filename .start (before ++ c :: after)).head? =
      some (.invalidCharacter c (locate filename (before ++ c :: after) before.length)) := by
  have hnone : remarks Diagnostic.errorAt? filename .start before = [] :=
    (errors_eq_nil_iff filename .start before).2 hbefore
  rw [remarks_append, hnone, List.nil_append, remarks_cons, errorAt?_of_stray _ (CharClass.of_eq_stray_iff.2 hc),
    location_advanceBy_start filename before (c :: after)]
  rfl

theorem exists_first_rejected {cs : List Char} (h : ∃ c ∈ cs, Rejected c) :
    ∃ before c after, cs = before ++ c :: after ∧ Rejected c ∧ ∀ d ∈ before, ¬ Rejected d := by
  obtain ⟨c, hc, hrejected⟩ := h
  cases hfind : cs.find? fun d => decide (Rejected d) with
  | none => exact absurd (decide_eq_true hrejected) (List.find?_eq_none.1 hfind c hc)
  | some d =>
    obtain ⟨hd, before, after, hcs, hbefore⟩ := List.find?_eq_some_iff_append.1 hfind
    refine ⟨before, d, after, hcs, of_decide_eq_true hd, fun x hx => ?_⟩
    simpa using hbefore x hx

end First

theorem exists_error_iff_rejected {source filename : String} :
    (∃ e, tokenizeStrict source filename = .error e) ↔ ∃ c ∈ source.toList, Rejected c := by
  rw [exists_tokenizeStrict_eq_error_iff, ne_eq, errors_eq_nil_iff]
  simp

theorem accepted_iff {source filename : String} :
    Accepted source filename ↔ ∀ c ∈ source.toList, ¬ Rejected c := by
  constructor
  · rintro ⟨ts, hts⟩ c hc hrejected
    obtain ⟨e, he⟩ := exists_error_iff_rejected.2 ⟨c, hc, hrejected⟩
    rw [hts] at he
    cases he
  · intro h
    exact ⟨_, tokenizeStrict_eq_ok ((errors_eq_nil_iff filename .start source.toList).2 h)⟩

/-- **A source is rejected for its first character that begins no token**, and for nothing else: the error is the
one for that character at its index. Two texts side by side are accepted if both are, and the error of the
first text stays whatever follows it. -/
theorem tokenizeStrict_rejects_first (source filename : String) :
    ((∃ e, tokenizeStrict source filename = .error e) ↔ ∃ c ∈ source.toList, Rejected c) ∧
      (∀ e, tokenizeStrict source filename = .error e →
        ∃ i c, source.toList[i]? = some c ∧ Rejected c ∧
          (∀ j < i, ∀ d, source.toList[j]? = some d → ¬ Rejected d) ∧
          e.location =
            ⟨filename, lineAfter (source.toList.take i), columnAfter (source.toList.take i), i⟩ ∧
          Diagnostic.invalidText (String.singleton c) e.location = .ok e) ∧
      ((∀ c ∈ source.toList, ¬ Rejected c) →
        tokenizeStrict source filename = .ok (tokenize source filename)) ∧
      ∀ b, (Accepted (source ++ b) filename ↔ Accepted source filename ∧ Accepted b filename) ∧
        ∀ e, tokenizeStrict source filename = .error e →
          tokenizeStrict (source ++ b) filename = .error e := by
  refine ⟨exists_error_iff_rejected, fun e he => ?_, fun h => ?_, fun b => ⟨?_, fun e he => ?_⟩⟩
  · obtain ⟨before, c, after, hsource, hc, hbefore⟩ :=
      exists_first_rejected (exists_error_iff_rejected.1 ⟨e, he⟩)
    have hfirst := head?_errors filename after hbefore hc
    rw [tokenizeStrict_eq_error_iff, hsource, hfirst] at he
    cases he
    rw [hsource]
    refine ⟨before.length, c, by simp, hc, fun j hj d hd => ?_, rfl, ?_⟩
    · rw [List.getElem?_append_left hj] at hd
      exact hbefore d (List.mem_of_getElem? hd)
    · exact Diagnostic.invalidText_singleton c _
  · exact tokenizeStrict_eq_ok ((errors_eq_nil_iff filename .start source.toList).2 h)
  · simp only [accepted_iff, String.toList_append, List.forall_mem_append]
  · rw [tokenizeStrict_eq_error_iff] at he ⊢
    rw [String.toList_append, remarks_append, List.head?_append, he]
    rfl

theorem tokenizeStrict_rejects_first_of_two :
    let e : Diagnostic := .invalidCharacter '?' ⟨"sum", 2, 1, 4⟩
    tokenizeStrict "7 +\n?$" "sum" = .error e ∧
      (∃ (i : Nat) (c : Char), "7 +\n?$".toList[i]? = some c ∧ Rejected c ∧
        (∀ j < i, ∀ d, "7 +\n?$".toList[j]? = some d → ¬ Rejected d) ∧
        Diagnostic.invalidText (String.singleton c) ⟨"sum", 2, 1, 4⟩ = .ok e) ∧
      tokenizeStrict ("7 +\n?$" ++ "1\xa0+ 2") "sum" = .error e ∧
      (∀ c ∈ "1\xa0+ 2".toList, ¬ Rejected c) ∧
      tokenizeStrict "1\xa0+ 2" "sum" = .ok (tokenize "1\xa0+ 2" "sum") := by
  intro e
  have he : tokenizeStrict "7 +\n?$" "sum" = .error e := by rfl
  have hall : ("1\xa0+ 2".toList.all fun c => !decide (Rejected c)) = true := by decide
  have hfree : ∀ c ∈ "1\xa0+ 2".toList, ¬ Rejected c := fun c hc => by
    simpa using List.all_eq_true.1 hall c hc
  obtain ⟨-, hfirst, -, happend⟩ := tokenizeStrict_rejects_first "7 +\n?$" "sum"
  obtain ⟨i, c, hi, hc, hbefore, -, htext⟩ := hfirst e he
  refine ⟨he, ⟨i, c, hi, hc, hbefore, htext⟩, (happend "1\xa0+ 2").2 e he, hfree, ?_⟩
  exact (tokenizeStrict_rejects_first "1\xa0+ 2" "sum").2.2.1 hfree

end ArithLex
