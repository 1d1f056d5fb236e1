import ArithLex.Proofs.Diagnostic.Places
import ArithLex.Proofs.Text.Legible

/-!
# Reports tell what they report

The report of a finding names the character and the place, and both can be read off it: the first line
ends with the quoted text or the code point, the second with the short form of the place, and the lines
behind them depend on the character alone (`Diagnostic.report_eq`, `Diagnostic.report_eq_iff`).
-/

set_option autoImplicit false

namespace ArithLex
open Text

namespace Diagnostic

/-! ## Reading a report -/

/-- The part of a report behind the place. -/
def advice (help : Option String) (suggestions : Option (List String)) : String :=
  "\n" ++ helpLine help ++ suggestionLines suggestions

theorem report_eq (d : Diagnostic) : d.report =
    d.severity.toUpper ++ (": " ++ (d.message ++
      ("\n  --> " ++ (d.location.short ++ advice d.helpText d.suggestions)))) := by
  have hline : "\n  --> " = "\n" ++ "  --> " := by decide
  rw [hline]
  simp only [report, advice, String.append_assoc]

/-- Reports of findings whose messages end with something legible, on which the help depends and nothing
else, tell it and the place. -/
theorem report_eq_iff {α : Type} {write : α → String} (hwrite : Legible write)
    {label severity : String} {a b : α} {p q : Location} {code code' help help' : Option String}
    {suggestions suggestions' : Option (List String)}
    (hadvice : a = b → help = help' ∧ suggestions = suggestions') :
    (⟨label ++ write a, p, severity, code, help, suggestions⟩ : Diagnostic).report =
        (⟨label ++ write b, q, severity, code', help', suggestions'⟩ : Diagnostic).report ↔
      a = b ∧ p.short = q.short := by
  rw [report_eq, report_eq, String.append_right_inj, String.append_right_inj, String.append_assoc,
    String.append_assoc, String.append_right_inj]
  constructor
  · intro h
    have hline : ∀ s, Closes ("\n  --> " ++ s).toList := fun s => by
      rw [String.toList_append]
      exact closes_cons (c := '\n') rfl _
    have hchars := congrArg String.toList h
    rw [String.toList_append, String.toList_append (s := write b)] at hchars
    obtain rfl := hwrite a b _ _ (hline _) (hline _) hchars
    obtain ⟨rfl, rfl⟩ := hadvice rfl
    rw [String.append_right_inj, String.append_right_inj, String.append_left_inj] at h
    exact ⟨rfl, h⟩
  · rintro ⟨rfl, hplace⟩
    obtain ⟨rfl, rfl⟩ := hadvice rfl
    rw [hplace]

theorem report_invalid_eq_iff {text text' : String} {help help' : Help} {p q : Location}
    (hhelp : text = text' → help = help') :
    (invalid text help p).report = (invalid text' help' q).report ↔
      text = text' ∧ p.short = q.short := by
  have hquote : Legible quote := legible_quoteWith isPrintable
  refine report_eq_iff hquote fun h => ⟨?_, ?_⟩
  · rw [hhelp h]
  · rw [h]

theorem report_invalidCharacter_eq_iff {c d : Char} {p q : Location} :
    (invalidCharacter c p).report = (invalidCharacter d q).report ↔ c = d ∧ p.short = q.short := by
  have hsingleton : String.singleton c = String.singleton d ↔ c = d := by
    rw [← String.toList_inj, String.toList_singleton, String.toList_singleton, List.singleton_inj]
  rw [invalidCharacter, invalidCharacter, report_invalid_eq_iff, hsingleton]
  intro h
  rw [hsingleton.1 h]

theorem exists_help_of_invalidText {text : String} {p : Location} {e : Diagnostic}
    (h : invalidText text p = .ok e) : ∃ help, Help.ofText text = .ok help ∧ e = invalid text help p := by
  unfold invalidText at h
  cases hhelp : Help.ofText text with
  | error err =>
    rw [hhelp] at h
    cases h
  | ok help =>
    rw [hhelp] at h
    exact ⟨help, rfl, (Except.ok.inj h).symm⟩

theorem report_unusualBlank_eq_iff {c d : Char} {p q : Location} :
    (unusualBlank c p).report = (unusualBlank d q).report ↔ c = d ∧ p.short = q.short :=
  report_eq_iff legible_codePointName fun _ => ⟨rfl, rfl⟩

theorem toList_toUpper_error : "error".toUpper.toList = ['E', 'R', 'R', 'O', 'R'] := by
  rw [String.toUpper, String.toList_map]
  rfl

theorem toList_toUpper_warning : "warning".toUpper.toList = ['W', 'A', 'R', 'N', 'I', 'N', 'G'] := by
  rw [String.toUpper, String.toList_map]
  rfl

/-- An error is told from a warning by the first letter of the report. -/
theorem report_error_ne_warning {message message' : String} {p q : Location}
    {code code' help help' : Option String} {suggestions suggestions' : Option (List String)} :
    (error message p code help suggestions).report ≠
      (warning message' q code' help' suggestions').report := by
  have hfirst : ∀ d : Diagnostic, ∃ r, d.report.toList = d.severity.toUpper.toList ++ r := fun d =>
    ⟨_, by rw [report_eq, String.toList_append]⟩
  intro h
  obtain ⟨r, hr⟩ := hfirst (error message p code help suggestions)
  obtain ⟨s, hs⟩ := hfirst (warning message' q code' help' suggestions')
  rw [h, hs, error, warning, toList_toUpper_error, toList_toUpper_warning] at hr
  exact absurd (List.cons.inj hr).1 (by decide)

end Diagnostic

/-! ## The findings of a lexer -/

theorem offset_pairwise_remarks {remark : Char → Location → Option Diagnostic}
    (hplace : ∀ c p d, remark c p = some d → d.location = p) (filename : String) (cs : List Char) :
    (remarks remark filename .start cs).Pairwise fun d e => d.location.offset < e.location.offset := by
  have hindex : cs.zipIdx.Pairwise fun x y => x.2 < y.2 := by
    rw [← List.pairwise_map, List.zipIdx_map_snd]
    exact List.pairwise_lt_range' 1
  rw [remarks_eq_filterMap remark filename cs [], List.pairwise_filterMap]
  refine hindex.imp fun {x y} hxy d hd e he => ?_
  rw [hplace _ _ _ hd, hplace _ _ _ he]
  exact Int.ofNat_lt.2 hxy

/-- Remarks have distinct reports, if a report tells the place. -/
theorem nodup_reports_remarks {remark : Char → Location → Option Diagnostic}
    {finding : Char → Location → Diagnostic}
    (hremark : ∀ {c p d}, remark c p = some d → d = finding c p)
    (hplace : ∀ c p, (finding c p).location = p)
    (htold : ∀ {c p d q}, (finding c p).report = (finding d q).report → p.short = q.short)
    (filename : String) (cs : List Char) :
    ((remarks remark filename .start cs).map Diagnostic.report).Nodup := by
  have horder := offset_pairwise_remarks (fun c p d h => hremark h ▸ hplace c p) filename cs
  rw [List.Nodup, List.pairwise_map]
  refine horder.imp_of_mem fun {d e} hd he hlt heq => ?_
  obtain ⟨i, hi, c, -, hc⟩ := (mem_remarks_iff remark filename cs []).1 hd
  obtain ⟨j, hj, c', -, hc'⟩ := (mem_remarks_iff remark filename cs []).1 he
  rw [List.append_nil] at hc hc'
  rw [hremark hc, hremark hc'] at hlt heq
  rw [hplace, hplace] at hlt
  have hoffset := ((inText_locate filename hi.le).short_eq_iff (inText_locate filename hj.le) rfl).1
    (htold heq)
  omega

theorem Lexer.Underway.nodup_reports {source filename : String} {l : Lexer}
    (h : Underway source filename l) : (l.diagnostics.toList.map Diagnostic.report).Nodup := by
  obtain ⟨passed, rest, -, herrors, hwarnings⟩ := h.exists_passed
  rw [diagnostics, Array.toList_append, herrors, hwarnings, List.map_append, List.nodup_append]
  refine ⟨?_, ?_, ?_⟩
  · exact nodup_reports_remarks (fun h => (eq_of_errorAt? h).2) (fun _ _ => rfl)
      (fun h => (Diagnostic.report_invalidCharacter_eq_iff.1 h).2) filename passed
  · exact nodup_reports_remarks (fun h => (eq_of_warningAt? h).2) (fun _ _ => rfl)
      (fun h => (Diagnostic.report_unusualBlank_eq_iff.1 h).2) filename passed
  rintro _ hr _ hs
  obtain ⟨d, hd, rfl⟩ := List.mem_map.1 hr
  obtain ⟨e, he, rfl⟩ := List.mem_map.1 hs
  obtain ⟨i, -, c, -, hc⟩ := (mem_remarks_iff _ filename passed []).1 hd
  obtain ⟨j, -, c', -, hc'⟩ := (mem_remarks_iff _ filename passed []).1 he
  rw [(eq_of_errorAt? hc).2, (eq_of_warningAt? hc').2]
  exact Diagnostic.report_error_ne_warning

/-- **A report tells the finding.** Two errors about texts have the same report only for the same text, file, line
and column, whatever the file is called, and two warnings only for the same character and place; no error has
the report of a warning; and of all findings of a lexer, after any steps, no two have the same report. -/
theorem reports_tell_findings :
    (∀ c d p q e f, Diagnostic.invalidText c p = .ok e → Diagnostic.invalidText d q = .ok f →
      (e.report = f.report ↔
        c = d ∧ p.filename = q.filename ∧ p.line = q.line ∧ p.column = q.column)) ∧
      (∀ (c d : Char) (p q : Location), ∃ v w,
        Diagnostic.unusualText (String.singleton c) p = .ok v ∧
          Diagnostic.unusualText (String.singleton d) q = .ok w ∧
          (v.report = w.report ↔
            c = d ∧ p.filename = q.filename ∧ p.line = q.line ∧ p.column = q.column)) ∧
      (∀ c d : Char, codePointName c = codePointName d ↔ c = d) ∧
      (∀ message message' p q code code' help help' suggestions suggestions',
        (Diagnostic.error message p code help suggestions).report ≠
          (Diagnostic.warning message' q code' help' suggestions').report) ∧
      ∀ (source filename : String) (steps : List Step),
        (((Lexer.start source filename).after steps).diagnostics.toList.map Diagnostic.report).Nodup := by
  refine ⟨fun c d p q e f he hf => ?_, fun c d p q => ?_,
    fun _ _ => codePointName_inj, fun _ _ _ _ _ _ _ _ _ _ => Diagnostic.report_error_ne_warning,
    fun source filename steps => (Lexer.underway_after source filename steps).nodup_reports⟩
  · obtain ⟨help, hhelp, rfl⟩ := Diagnostic.exists_help_of_invalidText he
    obtain ⟨help', hhelp', rfl⟩ := Diagnostic.exists_help_of_invalidText hf
    rw [Diagnostic.report_invalid_eq_iff, Location.short_inj]
    rintro rfl
    exact Except.ok.inj (hhelp.symm.trans hhelp')
  · refine ⟨_, _, Diagnostic.unusualText_singleton c p, Diagnostic.unusualText_singleton d q, ?_⟩
    rw [Diagnostic.report_unusualBlank_eq_iff, Location.short_inj]

/-- An apostrophe and a look-alike, in files whose names end in numbers and a line feed. -/
theorem reports_tell_findings_in_odd_files :
    let p : Location := ⟨"a:1", 2, 3, 0⟩
    let q : Location := ⟨"a\n", 1, 2, 3⟩
    let e := Diagnostic.invalid "'" (.notValid "'") p
    let f := Diagnostic.invalid "×" (.didYouMean ["*"]) q
    Diagnostic.invalidText "'" p = .ok e ∧ Diagnostic.invalidText "×" q = .ok f ∧
      (e.report = f.report ↔
        "'" = "×" ∧ p.filename = q.filename ∧ p.line = q.line ∧ p.column = q.column) := by
  intro p q e f
  have he : Diagnostic.invalidText "'" p = .ok e := by rfl
  have hf : Diagnostic.invalidText "×" q = .ok f := by rfl
  exact ⟨he, hf, reports_tell_findings.1 _ _ _ _ _ _ he hf⟩

end ArithLex
