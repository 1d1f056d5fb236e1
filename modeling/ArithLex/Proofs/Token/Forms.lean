import ArithLex.Proofs.Location.Lines
import ArithLex.Proofs.Text.Legible

/-!
# What written forms tell

The full form of a token, a location, a span or a diagnostic holds all its parts, and each of them can be
read off: free text stands between its marks and is escaped there, a missing part differs from every text
and number, and a missing list from an empty one. A short form leaves something out; the rest can be read
off.
-/

set_option autoImplicit false

namespace ArithLex
open Text Lexeme

section Legible
variable (printable : Char → Bool)

theorem Kind.legible_name : Legible Kind.name := by
  refine legible_of_plain (fun k c hc => ?_) fun j k => Kind.name_inj.1
  have hplain : (k.name.toList.all fun c => !isCloser c) = true := by cases k <;> decide
  simpa using List.all_eq_true.1 hplain c hc

theorem Token.legible : Legible (Token.fullWith printable) := by
  have hkind := Kind.legible_name
  have hint := legible_decimal
  have htext := legible_quoteWith printable
  have hvalue := hint.optional (neverBegins_decimal (by decide) (by decide))
  refine legible_applied (fun t u => ?_) fun t u h => ?_
  · exact .cons (hkind.told _ _) (.cons (hint.told _ _) (.cons (hint.told _ _)
      (.cons (htext.told _ _) (.cons (hvalue.told _ _) .nil))))
  · simp only [List.cons.injEq, hkind.eq_iff, hint.eq_iff, htext.eq_iff, hvalue.eq_iff, and_true] at h
    obtain ⟨j, ⟨start, stop, literal⟩, v⟩ := t
    obtain ⟨rfl, rfl, rfl, rfl, rfl⟩ := h
    rfl

theorem Location.legible : Legible (Location.fullWith printable) := by
  have hint := legible_decimal
  have htext := legible_quoteWith printable
  refine legible_applied (fun p q => ?_) fun p q h => ?_
  · exact .cons (htext.told _ _) (.cons (hint.told _ _) (.cons (hint.told _ _)
      (.cons (hint.told _ _) .nil)))
  · simp only [List.cons.injEq, hint.eq_iff, htext.eq_iff, and_true] at h
    obtain ⟨filename, line, column, offset⟩ := p
    obtain ⟨rfl, rfl, rfl, rfl⟩ := h
    rfl

theorem Span.legible : Legible (Span.fullWith printable) := by
  have hint := legible_decimal
  have htext := legible_quoteWith printable
  refine legible_record (fun s t => ?_) fun s t h => ?_
  · exact .cons ⟨rfl, hint.told _ _⟩ (.cons ⟨rfl, hint.told _ _⟩ (.cons ⟨rfl, htext.told _ _⟩ .nil))
  · simp only [List.cons.injEq, Prod.mk.injEq, hint.eq_iff, htext.eq_iff, true_and, and_true] at h
    obtain ⟨start, stop, literal⟩ := s
    obtain ⟨rfl, rfl, rfl⟩ := h
    rfl

theorem Diagnostic.legible : Legible (Diagnostic.fullWith printable) := by
  have htext := legible_quoteWith printable
  have hplace := Location.legible printable
  have hoption := htext.optional (neverBegins_quoteWith printable (by decide) (by decide))
  have hlist := (htext.bracketed (neverBegins_quoteWith printable (by decide) (by decide))).optional
    (neverBegins_bracketed _ (by decide))
  refine legible_record (fun d e => ?_) fun d e h => ?_
  · exact .cons ⟨rfl, htext.told _ _⟩ (.cons ⟨rfl, hplace.told _ _⟩ (.cons ⟨rfl, htext.told _ _⟩
      (.cons ⟨rfl, hoption.told _ _⟩ (.cons ⟨rfl, hoption.told _ _⟩ (.cons ⟨rfl, hlist.told _ _⟩ .nil)))))
  · simp only [List.cons.injEq, Prod.mk.injEq, htext.eq_iff, hplace.eq_iff, hoption.eq_iff, hlist.eq_iff,
      true_and, and_true] at h
    obtain ⟨message, location, severity, code, help, suggestions⟩ := d
    obtain ⟨rfl, rfl, rfl, rfl, rfl, rfl⟩ := h
    rfl

end Legible

/-- **The full form loses nothing**: it is the same for two tokens, locations, spans or diagnostics only
if they are the same, whichever characters may stand unescaped in text. -/
theorem fullWith_tells_value (printable : Char → Bool) :
    (∀ t u : Token, t.fullWith printable = u.fullWith printable ↔ t = u) ∧
      (∀ p q : Location, p.fullWith printable = q.fullWith printable ↔ p = q) ∧
      (∀ s t : Span, s.fullWith printable = t.fullWith printable ↔ s = t) ∧
      ∀ d e : Diagnostic, d.fullWith printable = e.fullWith printable ↔ d = e :=
  ⟨fun _ _ => (Token.legible printable).eq_iff, fun _ _ => (Location.legible printable).eq_iff,
    fun _ _ => (Span.legible printable).eq_iff, fun _ _ => (Diagnostic.legible printable).eq_iff⟩

/-! ## Short forms -/

theorem append_cons_inj_of_notMem_left {α : Type} {x : α} {as bs cs ds : List α} (ha : x ∉ as)
    (hb : x ∉ bs) : as ++ x :: cs = bs ++ x :: ds ↔ as = bs ∧ cs = ds := by
  have hreverse : ∀ es fs : List α, (es ++ x :: fs).reverse = fs.reverse ++ x :: es.reverse := by
    intro es fs
    rw [List.reverse_append, List.reverse_cons, List.append_assoc, List.singleton_append]
  -- read from the end, the first occurrence is the last
  rw [← List.reverse_inj, hreverse, hreverse,
    append_cons_inj_of_notMem_right (by simpa using ha) (by simpa using hb), List.reverse_inj,
    List.reverse_inj, and_comm]

namespace Span

theorem toList_short (s : Span) :
    s.short.toList = (decimal s.start).toList ++ '.' :: '.' :: (decimal s.stop).toList := by
  simp [short, String.toList_append]

theorem short_inj {s t : Span} : s.short = t.short ↔ s.start = t.start ∧ s.stop = t.stop := by
  have hdot : ∀ i, '.' ∉ (decimal i).toList := notMem_decimal (by decide) (by decide)
  rw [← String.toList_inj, toList_short, toList_short,
    append_cons_inj_of_notMem_left (hdot _) (hdot _), List.cons_inj_right, String.toList_inj,
    String.toList_inj, decimal_inj, decimal_inj]

end Span

theorem bracket_notMem_name (k : Kind) : '(' ∉ k.name.toList := by cases k <;> decide

namespace Token

def valueSuffix : Option Int → String
  | some v => " -> " ++ decimal v
  | none => ""

theorem valueSuffix_inj {v w : Option Int} : valueSuffix v = valueSuffix w ↔ v = w := by
  have hapart : ∀ v, valueSuffix (some v) ≠ "" := fun v h => by
    have := congrArg String.toList h
    simp [valueSuffix, String.toList_append] at this
  constructor
  · intro h
    cases v with
    | none =>
      cases w with
      | none => rfl
      | some w => exact absurd h.symm (hapart w)
    | some v =>
      cases w with
      | none => exact absurd h (hapart v)
      | some w =>
        rw [valueSuffix, valueSuffix, String.append_right_inj, decimal_inj] at h
        rw [h]
  · rintro rfl
    rfl

theorem toList_shortWith (printable : Char → Bool) (t : Token) : (t.shortWith printable).toList =
    t.kind.name.toList ++
      '(' :: ((quoteWith printable t.literal).toList ++ ((valueSuffix t.value).toList ++ [')'])) := by
  have hshape : t.shortWith printable =
      t.kind.name ++ "(" ++ quoteWith printable t.literal ++ valueSuffix t.value ++ ")" := rfl
  have hopen : "(".toList = ['('] := rfl
  have hclose : ")".toList = [')'] := rfl
  simp only [hshape, String.toList_append, List.append_assoc, hopen, hclose,
    List.cons_append, List.nil_append]

/-- The short form of a token tells its kind, its text and its value, or that it has none, whichever
characters may stand unescaped. -/
theorem shortWith_inj {printable : Char → Bool} {t u : Token} :
    t.shortWith printable = u.shortWith printable ↔
      t.kind = u.kind ∧ t.literal = u.literal ∧ t.value = u.value := by
  constructor
  · intro h
    have hlist := congrArg String.toList h
    rw [toList_shortWith, toList_shortWith,
      append_cons_inj_of_notMem_left (bracket_notMem_name _) (bracket_notMem_name _),
      String.toList_inj, Kind.name_inj] at hlist
    obtain ⟨hkind, hrest⟩ := hlist
    -- the closing mark tells where the text ends, even if it goes on like a value
    obtain ⟨hliteral, hvalue⟩ := quoteWith_append_inj hrest
    rw [List.append_cancel_right_eq, String.toList_inj, valueSuffix_inj] at hvalue
    exact ⟨hkind, hliteral, hvalue⟩
  · rintro ⟨hkind, hliteral, hvalue⟩
    unfold shortWith
    rw [hkind, hliteral, hvalue]

end Token

theorem pairwise_short_tokenize (source filename : String) :
    ((tokenize source filename).filter fun t => !t.isEof).Pairwise
      fun t u => t.span.short ≠ u.span.short := by
  have hformed := (splits_lexemes source.toList).formed
  have hkept : (tokenize source filename).filter (fun t => !t.isEof) =
      place 0 (lexemes source.toList) := by
    rw [tokenize_eq, List.filter_append,
      List.filter_eq_self.2 fun t ht => by rw [isEof_of_mem_place hformed t ht]; rfl]
    exact List.append_nil _
  rw [hkept]
  refine (pairwise_start_place 0 hformed).imp fun {t u} hlt hshort => ?_
  rw [(Span.short_inj.1 hshort).1] at hlt
  exact Int.lt_irrefl _ hlt

/-- **A short form loses what it leaves out and nothing else.** That of a token tells kind, text and value, that of
a location file, line and column, that of a span the ends. So the spans of the tokens of a source, the end marker
apart, all read differently. -/
theorem short_tells_all_but_omitted :
    (∀ t u : Token, t.short = u.short ↔
        t.kind = u.kind ∧ t.literal = u.literal ∧ t.value = u.value) ∧
      (∀ p q : Location, p.short = q.short ↔
        p.filename = q.filename ∧ p.line = q.line ∧ p.column = q.column) ∧
      (∀ s t : Span, s.short = t.short ↔ s.start = t.start ∧ s.stop = t.stop) ∧
      ∀ source filename, ((tokenize source filename).filter fun t => !t.isEof).Pairwise
        fun t u => t.span.short ≠ u.span.short :=
  ⟨fun _ _ => Token.shortWith_inj, fun _ _ => Location.short_inj, fun _ _ => Span.short_inj,
    pairwise_short_tokenize⟩

/-- A text that goes on like a value and a bracket. -/
example : Token.short ⟨.invalid, ⟨0, 1, "?' -> 1)"⟩, none⟩ = "INVALID(\"?' -> 1)\")" := by
  decide +kernel

end ArithLex
