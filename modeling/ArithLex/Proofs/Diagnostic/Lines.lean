import ArithLex.Proofs.Diagnostic.Reports
import ArithLex.Proofs.Lexer.Journal
import ArithLex.Proofs.Text.Printable

/-!
# The lines of reports and records

A report is a list of lines (`Diagnostic.lines`), each ended by a line feed. How many they are depends on
the finding alone, not on the text of the source: where a character of the source comes into a line, it is
quoted, written by its code point, or printable. So no source can break a line or forge one.
-/

set_option autoImplicit false

namespace ArithLex
open Text

namespace Text

def unlines (ls : List String) : String := String.join (ls.map fun l => l ++ "\n")

/-- A text of so many lines: each is ended by a line feed, and all other characters are printable. -/
structure OfLines (n : Nat) (s : String) : Prop where
  count_eq : s.toList.count '\n' = n
  getLast?_eq : s.toList.getLast? = some '\n'
  printable : ∀ c ∈ s.toList, c ≠ '\n' → isPrintable c = true

theorem toList_unlines (ls : List String) :
    (unlines ls).toList = ls.flatMap fun l => l.toList ++ ['\n'] := by
  rw [unlines, String.toList_join, List.flatMap_map]
  refine List.flatMap_congr fun l _ => ?_
  rw [String.toList_append]
  rfl

theorem unlines_cons (l : String) (ls : List String) : unlines (l :: ls) = l ++ "\n" ++ unlines ls := by
  apply String.toList_inj.1
  rw [toList_unlines, List.flatMap_cons, ← toList_unlines, String.toList_append, String.toList_append]
  rfl

theorem unlines_append (ls ms : List String) : unlines (ls ++ ms) = unlines ls ++ unlines ms := by
  apply String.toList_inj.1
  rw [String.toList_append, toList_unlines, toList_unlines, toList_unlines, List.flatMap_append]

theorem count_lineFeed_unlines {ls : List String} (h : ∀ l ∈ ls, Printable l) :
    (unlines ls).toList.count '\n' = ls.length := by
  induction ls with
  | nil => rfl
  | cons l ls ih =>
    have hl : l.toList.count '\n' = 0 := List.count_eq_zero.2 (h l (by simp)).lineFeed_notMem
    rw [toList_unlines, List.flatMap_cons, ← toList_unlines, List.count_append, List.count_append, hl,
      ih fun m hm => h m (by simp [hm]), List.length_cons]
    simp only [List.count_singleton_self]
    omega

theorem getLast?_unlines {ls : List String} (h : ls ≠ []) :
    (unlines ls).toList.getLast? = some '\n' := by
  obtain ⟨ms, l, rfl⟩ := List.eq_nil_or_concat ls |>.resolve_left h
  rw [toList_unlines, List.concat_eq_append, List.flatMap_append, List.flatMap_singleton,
    ← List.append_assoc, List.getLast?_concat]

theorem ofLines_unlines {ls : List String} {n : Nat} (hlength : ls.length = n) (hne : ls ≠ [])
    (h : ∀ l ∈ ls, Printable l) : OfLines n (unlines ls) := by
  refine ⟨(count_lineFeed_unlines h).trans hlength, getLast?_unlines hne, fun c hc hfeed => ?_⟩
  rw [toList_unlines] at hc
  obtain ⟨l, hl, hc⟩ := List.mem_flatMap.1 hc
  rcases List.mem_append.1 hc with hc | hc
  · exact h l hl c hc
  · exact absurd (List.mem_singleton.1 hc) hfeed

end Text

/-! ## The lines of a report -/

namespace Diagnostic

def helpRows : Option String → List String
  | some help => if help.isEmpty then [] else ["  help: " ++ help]
  | none => []

def suggestionRows : Option (List String) → List String
  | some (s :: ss) => "  suggestions:" :: (s :: ss).map fun s => "    - " ++ s
  | _ => []

/-- The lines of a report, without the line feeds. -/
def lines (d : Diagnostic) : List String :=
  (d.severity.toUpper ++ ": " ++ d.message) :: ("  --> " ++ d.location.short) ::
    (helpRows d.helpText ++ suggestionRows d.suggestions)

theorem helpLine_eq_unlines (help : Option String) : helpLine help = unlines (helpRows help) := by
  unfold helpLine helpRows
  cases help with
  | none => rfl
  | some help =>
    dsimp only
    split
    · rfl
    · rw [unlines_cons]
      exact (String.append_empty).symm

theorem suggestionLines_eq_unlines (suggestions : Option (List String)) :
    suggestionLines suggestions = unlines (suggestionRows suggestions) := by
  rcases suggestions with _ | _ | ⟨s, ss⟩
  · rfl
  · rfl
  · show "  suggestions:\n" ++ _ = unlines ("  suggestions:" :: _)
    have hheading : "  suggestions:" ++ "\n" = "  suggestions:\n" := by decide
    rw [unlines_cons, hheading, unlines, List.map_map]
    rfl

/-- **A report is its lines**, whatever the finding. -/
theorem report_eq_unlines (d : Diagnostic) : d.report = unlines d.lines := by
  have hend : "  --> " ++ d.location.short ++ "\n" = "  --> " ++ (d.location.short ++ "\n") :=
    String.append_assoc ..
  rw [lines, unlines_cons, unlines_cons, unlines_append, ← helpLine_eq_unlines,
    ← suggestionLines_eq_unlines, report]
  simp only [String.append_assoc]

end Diagnostic

/-! ## The error for a text -/

namespace Lookalike

/-- The look-alikes as texts. -/
def keys : List String := table.map fun p => String.singleton p.1

/-- A look-alike has one suggestion, and any other text has none. -/
theorem suggestions_cases (text : String) :
    (keys.contains text = true ∧ ∃ d, suggestions text = [String.singleton d] ∧ isPrintable d = true) ∨
      (keys.contains text = false ∧ suggestions text = []) := by
  have hprintable : ∀ p ∈ table, isPrintable p.2 = true := by decide
  have hkeys : ∀ {text}, text ∈ keys ↔ ∃ p ∈ table, String.singleton p.1 = text := List.mem_map
  by_cases hone : ∃ c, text = String.singleton c
  · obtain ⟨c, rfl⟩ := hone
    rw [suggestions_singleton, charSuggestions]
    cases hc : alternative? c with
    | none =>
      refine Or.inr ⟨?_, rfl⟩
      rw [Bool.eq_false_iff, ne_eq, List.contains_iff_mem, hkeys]
      rintro ⟨p, hmem, heq⟩
      have := List.lookup_eq_none_iff.1 hc p hmem
      rw [String.singleton_inj.1 heq] at this
      simp at this
    | some d =>
      have hmem := mem_table_of_alternative? hc
      refine Or.inl ⟨?_, d, rfl, hprintable _ hmem⟩
      rw [List.contains_iff_mem, hkeys]
      exact ⟨_, hmem, rfl⟩
  · refine Or.inr ⟨?_, ?_⟩
    · rw [Bool.eq_false_iff, ne_eq, List.contains_iff_mem, hkeys]
      rintro ⟨p, -, rfl⟩
      exact hone ⟨p.1, rfl⟩
    · unfold suggestions
      split
      · rename_i c hc
        exact absurd ⟨c, String.toList_inj.1 (hc.trans (String.toList_singleton c).symm)⟩ hone
      · rfl

end Lookalike

theorem Help.printable_text {text : String} {help : Help} (h : Help.ofText text = .ok help) :
    Printable help.text := by
  unfold Help.ofText at h
  split at h
  · rename_i hsuggest
    cases h
    rcases Lookalike.suggestions_cases text with ⟨-, d, hone, hd⟩ | ⟨-, hnone⟩
    · have hbefore : Printable "Did you mean: " := printable_of_all (by decide +kernel)
      rw [hone]
      exact (hbefore.append (printable_singleton hd)).append (printable_of_all (by decide +kernel))
    · exact absurd hnone hsuggest
  · split at h
    · rename_i hall
      cases h
      have hbefore : Printable "The character '" := printable_of_all (by decide +kernel)
      exact (hbefore.append (printable_of_all hall)).append (printable_of_all (by decide +kernel))
    · obtain ⟨c, rfl⟩ : ∃ c, help = .notPrintable c := by
        cases hc : onlyChar text with
        | error e =>
          rw [hc] at h
          cases h
        | ok c =>
          rw [hc] at h
          exact ⟨c, (Except.ok.inj h).symm⟩
      have hbefore : Printable "Non-printable character (Unicode: " := printable_of_all (by decide +kernel)
      exact (hbefore.append (printable_codePointName c)).append (printable_of_all (by decide +kernel))

theorem Help.text_isEmpty (help : Help) : help.text.isEmpty = false := by
  have hbegin : ∀ {s t u : String}, s.isEmpty = false → (s ++ t ++ u).isEmpty = false := by
    intro s t u hs
    rw [String.isEmpty_eq_false_iff] at hs ⊢
    rw [ne_eq, String.append_eq_empty_iff, String.append_eq_empty_iff]
    exact fun h => hs h.1.1
  cases help with
  | didYouMean _ | notValid _ | notPrintable _ => exact hbegin (by decide)

namespace Diagnostic

/-- How many lines the error for a text has: two more where there is something to suggest. -/
def errorLines (text : String) : Nat := if Lookalike.keys.contains text then 5 else 3

theorem printable_suggestionRows {suggestions : List String} (h : ∀ s ∈ suggestions, Printable s) :
    ∀ l ∈ suggestionRows (some suggestions), Printable l := by
  have hheading : Printable "  suggestions:" := printable_of_all (by decide +kernel)
  have hbullet : Printable "    - " := printable_of_all (by decide +kernel)
  intro l hl
  cases suggestions with
  | nil => cases hl
  | cons s ss =>
    rcases List.mem_cons.1 hl with rfl | hl
    · exact hheading
    · obtain ⟨t, ht, rfl⟩ := List.mem_map.1 hl
      exact hbullet.append (h t ht)

/-- A finding of printable parts is reported in printable lines: two for the message and the place, one
for the help, and those of the suggestions. -/
theorem ofLines_report {severity message help : String} {p : Location} {code : Option String}
    {suggestions : List String} {n : Nat} (hrows : (suggestionRows (some suggestions)).length + 3 = n)
    (hseverity : Printable severity.toUpper) (hmessage : Printable message) (hfile : Printable p.filename)
    (hhelp : Printable help) (hsome : help.isEmpty = false)
    (hsuggestions : ∀ s ∈ suggestions, Printable s) :
    OfLines n (⟨message, p, severity, code, some help, some suggestions⟩ : Diagnostic).report := by
  have hcolon : Printable ": " := printable_of_all (by decide +kernel)
  have harrow : Printable "  --> " := printable_of_all (by decide +kernel)
  have hlabel : Printable "  help: " := printable_of_all (by decide +kernel)
  have hlines : (⟨message, p, severity, code, some help, some suggestions⟩ : Diagnostic).lines =
      (severity.toUpper ++ ": " ++ message) :: ("  --> " ++ p.short) :: ("  help: " ++ help) ::
        suggestionRows (some suggestions) := by
    rw [lines, helpRows, hsome]
    rfl
  rw [report_eq_unlines, hlines]
  refine ofLines_unlines hrows (List.cons_ne_nil _ _) ?_
  simp only [List.forall_mem_cons]
  exact ⟨(hseverity.append hcolon).append hmessage, harrow.append (Location.printable_short hfile),
    hlabel.append hhelp, printable_suggestionRows hsuggestions⟩

theorem ofLines_report_invalid {text : String} {help : Help} {p : Location}
    (hhelp : Help.ofText text = .ok help) (hfile : Printable p.filename) :
    OfLines (errorLines text) (invalid text help p).report := by
  have hseverity : Printable "error".toUpper :=
    printable_of_all (by rw [toList_toUpper_error]; decide)
  have hlabel : Printable "Invalid character: " := printable_of_all (by decide +kernel)
  have hmessage : Printable ("Invalid character: " ++ quote text) :=
    hlabel.append (printable_quote text)
  unfold invalid error errorLines
  rcases Lookalike.suggestions_cases text with ⟨hkey, d, hone, hd⟩ | ⟨hkey, hnone⟩
  · rw [hone, hkey]
    refine ofLines_report rfl hseverity hmessage hfile (Help.printable_text hhelp) help.text_isEmpty ?_
    intro s hs
    rw [List.mem_singleton.1 hs]
    exact printable_singleton hd
  · rw [hnone, hkey]
    refine ofLines_report rfl hseverity hmessage hfile (Help.printable_text hhelp) help.text_isEmpty ?_
    intro s hs
    cases hs

theorem ofLines_report_unusualBlank {c : Char} {p : Location} (hfile : Printable p.filename) :
    OfLines 5 (unusualBlank c p).report := by
  have hseverity : Printable "warning".toUpper :=
    printable_of_all (by rw [toList_toUpper_warning]; decide)
  have hlabel : Printable "Unusual whitespace character " := printable_of_all (by decide +kernel)
  have hhelp : Printable "This character is treated as whitespace but is easy to miss." :=
    printable_of_all (by decide +kernel)
  have hsuggestion : Printable "Replace it with a regular space" :=
    printable_of_all (by decide +kernel)
  refine ofLines_report rfl hseverity (hlabel.append (printable_codePointName c)) hfile hhelp (by decide) ?_
  intro s hs
  rwa [List.mem_singleton.1 hs]

end Diagnostic

/-! ## The records of the journal -/

theorem printable_of_mem_records {source filename : String} (hfile : Printable filename)
    {r : String × String} (hr : r ∈ (drained source filename).records) : Printable r.2 := by
  have hcreated : Printable "Lexer created for " := printable_of_all (by decide +kernel)
  have hopen : Printable " (" := printable_of_all (by decide +kernel)
  have hclose : Printable " characters)" := printable_of_all (by decide +kernel)
  have hrejected : Printable "Invalid character " := printable_of_all (by decide +kernel)
  have hat : Printable " at " := printable_of_all (by decide +kernel)
  have hended : Printable "Reached end of input in " := printable_of_all (by decide +kernel)
  have hsome : some r ∈ (drained source filename).records.map some := List.mem_map_of_mem hr
  rw [records_drained, List.mem_append, List.mem_cons, List.mem_singleton] at hsome
  rcases hsome with (h | h) | h
  · cases h
    exact (((hcreated.append hfile).append hopen).append (printable_decimal _)).append hclose
  · obtain ⟨e, he, hrecord⟩ := List.mem_map.1 h
    obtain ⟨c, -, rfl⟩ := Option.map_eq_some_iff.1 hrecord
    have hway : Lexer.Underway source filename (drained source filename) := by
      rw [drained_eq]
      exact .finished
    obtain ⟨i, d, -, -, rfl⟩ := hway.error_eq (Array.mem_toList_iff.1 he)
    exact ((hrejected.append (printable_quote _)).append hat).append (Location.printable_short hfile)
  · cases h
    exact hended.append hfile

/-- **No source can break the lines of a report or a record.** In a file with a printable name each record of a
lexer is one printable line, after any steps; the report of an error has five printable lines for a look-alike
and three for any other text, and that of a warning has five. -/
theorem texts_keep_their_lines (filename : String) (hfile : Printable filename) :
    (∀ source steps, let l := (Lexer.start source filename).after steps
      (∀ r ∈ l.records, '\n' ∉ r.2.toList ∧ Printable r.2) ∧
        (∀ e ∈ l.errors, ∃ c, source.toList[e.location.offset.toNat]? = some c ∧
          OfLines (Diagnostic.errorLines (String.singleton c)) e.report) ∧
        ∀ w ∈ l.warnings, OfLines 5 w.report) ∧
      ∀ text p e, p.filename = filename → Diagnostic.invalidText text p = .ok e →
        OfLines (Diagnostic.errorLines text) e.report := by
  refine ⟨fun source steps => ⟨fun r hr => ?_, fun e he => ?_, fun w hw => ?_⟩, ?_⟩
  · have hshown := printable_of_mem_records hfile ((records_after source filename steps).subset hr)
    exact ⟨hshown.lineFeed_notMem, hshown⟩
  · obtain ⟨i, c, hi, -, rfl⟩ := (Lexer.underway_after source filename steps).error_eq he
    exact ⟨c, hi, Diagnostic.ofLines_report_invalid (Help.ofText_singleton c) hfile⟩
  · obtain ⟨i, c, -, -, rfl⟩ := (Lexer.underway_after source filename steps).warning_eq hw
    exact Diagnostic.ofLines_report_unusualBlank hfile
  · rintro text p e rfl he
    obtain ⟨help, hhelp, rfl⟩ := Diagnostic.exists_help_of_invalidText he
    exact Diagnostic.ofLines_report_invalid hhelp hfile

/-- A null character behind a separator of lines, and the error for a look-alike at a place made by hand. -/
theorem texts_keep_their_lines_of_controls :
    let l := (Lexer.start "1\u2028\x00" "sum").after [.drain]
    let p : Location := ⟨"sum", -1, 7, 0⟩
    let e := Diagnostic.invalidCharacter '\x00' ⟨"sum", 1, 3, 2⟩
    let w := Diagnostic.unusualBlank '\u2028' ⟨"sum", 1, 2, 1⟩
    let r := ("DEBUG", "Invalid character '\\x00' at sum:1:3")
    let f := Diagnostic.invalid "×" (.didYouMean ["*"]) p
    Printable "sum" ∧ (r ∈ l.records ∧ '\n' ∉ r.2.toList ∧ Printable r.2) ∧
      (e ∈ l.errors ∧ ∃ c, "1\u2028\x00".toList[e.location.offset.toNat]? = some c ∧
        OfLines (Diagnostic.errorLines (String.singleton c)) e.report) ∧
      (w ∈ l.warnings ∧ OfLines 5 w.report) ∧
      Diagnostic.invalidText "×" p = .ok f ∧ OfLines (Diagnostic.errorLines "×") f.report := by
  have herrors : ((Lexer.start "1\u2028\x00" "sum").after [.drain]).errors =
      #[.invalidCharacter '\x00' ⟨"sum", 1, 3, 2⟩] := by rfl
  have hwarnings : ((Lexer.start "1\u2028\x00" "sum").after [.drain]).warnings =
      #[.unusualBlank '\u2028' ⟨"sum", 1, 2, 1⟩] := by rfl
  intro l p e w r f
  have hfile : Printable "sum" := printable_of_all (by decide)
  have hr : r ∈ l.records := by decide
  have he : e ∈ l.errors := by rw [herrors]; simp [e]
  have hw : w ∈ l.warnings := by rw [hwarnings]; simp [w]
  have hf : Diagnostic.invalidText "×" p = .ok f := by rfl
  obtain ⟨hlexer, htext⟩ := texts_keep_their_lines "sum" hfile
  obtain ⟨hrecords, herror, hwarning⟩ := hlexer "1\u2028\x00" [.drain]
  exact ⟨hfile, ⟨hr, hrecords r hr⟩, ⟨he, herror e he⟩, ⟨hw, hwarning w hw⟩, hf, htext "×" p f rfl hf⟩

end ArithLex
