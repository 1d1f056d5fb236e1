import ArithLex.Proofs.Lexer.Progress
import ArithLex.Proofs.Text.Numerals
import Mathlib.Data.List.DropRight

/-!
# Lines of a text and places in it

A location gives its place twice, by line and column and by offset. In the lines of the text both name the
same place, and so both order places alike (`Location.InText`). The short form leaves the offset out and
tells all the rest, for the last two colons tell its parts from one another, whatever the file is called.
-/

set_option autoImplicit false

namespace ArithLex
open Text

/-! ## Short forms -/

theorem append_cons_inj_of_notMem_right {α : Type} {x : α} {as bs cs ds : List α} (hc : x ∉ cs)
    (hd : x ∉ ds) : as ++ x :: cs = bs ++ x :: ds ↔ as = bs ∧ cs = ds := by
  constructor
  · intro h
    -- were one part longer than the other, `x` would stand in a part behind its last occurrence
    rcases List.append_eq_append_iff.1 h with ⟨es, rfl, hes⟩ | ⟨es, rfl, hes⟩
    · cases es with
      | nil => simpa using hes
      | cons e es =>
        rw [List.cons_append, List.cons.injEq] at hes
        exact absurd (by simp [hes.2]) hc
    · cases es with
      | nil => simpa [eq_comm] using hes
      | cons e es =>
        rw [List.cons_append, List.cons.injEq] at hes
        exact absurd (by simp [hes.2]) hd
  · rintro ⟨rfl, rfl⟩
    rfl

theorem colon_notMem_decimal (i : Int) : ':' ∉ (decimal i).toList :=
  notMem_decimal (by decide) (by decide) i

namespace Location

theorem toList_short (p : Location) : p.short.toList =
    (p.filename.toList ++ ':' :: (decimal p.line).toList) ++ ':' :: (decimal p.column).toList := by
  simp [short, String.toList_append]

theorem short_inj {p q : Location} :
    p.short = q.short ↔ p.filename = q.filename ∧ p.line = q.line ∧ p.column = q.column := by
  rw [← String.toList_inj, toList_short, toList_short,
    append_cons_inj_of_notMem_right (colon_notMem_decimal _) (colon_notMem_decimal _),
    append_cons_inj_of_notMem_right (colon_notMem_decimal _) (colon_notMem_decimal _), String.toList_inj,
    String.toList_inj, String.toList_inj, decimal_inj, decimal_inj, and_assoc]

end Location

/-! ## Line and column of a position -/

/-- The line behind a text: one more than its line feeds. -/
def lineAfter (cs : List Char) : Nat := 1 + cs.count '\n'

/-- The column behind a text: one more than its characters after the last line feed. -/
def columnAfter (cs : List Char) : Nat := 1 + (cs.rtakeWhile (· ≠ '\n')).length

theorem lineAfter_concat (cs : List Char) (c : Char) :
    lineAfter (cs ++ [c]) = if c = '\n' then lineAfter cs + 1 else lineAfter cs := by
  rw [lineAfter, lineAfter, List.count_append, List.count_singleton]
  split <;> simp_all [Nat.add_assoc]

theorem columnAfter_concat (cs : List Char) (c : Char) :
    columnAfter (cs ++ [c]) = if c = '\n' then 1 else columnAfter cs + 1 := by
  rw [columnAfter, columnAfter, List.rtakeWhile_concat]
  by_cases hc : c = '\n'
  · simp [hc]
  · simp [hc, Nat.add_assoc]

theorem lineAfter_append (cs ds : List Char) : lineAfter (cs ++ ds) + 1 = lineAfter cs + lineAfter ds := by
  unfold lineAfter
  rw [List.count_append]
  omega

theorem one_lt_lineAfter_iff {cs : List Char} : 1 < lineAfter cs ↔ '\n' ∈ cs := by
  rw [← List.count_pos_iff, lineAfter]
  omega

theorem columnAfter_append (cs ds : List Char) : columnAfter (cs ++ ds) =
    if '\n' ∈ ds then columnAfter ds else columnAfter cs + ds.length := by
  induction ds using List.reverseRecOn with
  | nil => simp
  | append_singleton ds c ih =>
    rw [← List.append_assoc, columnAfter_concat, columnAfter_concat, ih]
    by_cases hc : c = '\n'
    · simp [hc]
    · by_cases hds : '\n' ∈ ds
      · simp [hc, hds]
      · simp [hc, hds, Ne.symm hc, Nat.add_assoc]

theorem advanceBy_start (cs : List Char) :
    Cursor.start.advanceBy cs = ⟨cs.length, lineAfter cs, columnAfter cs⟩ := by
  induction cs using List.reverseRecOn with
  | nil => rfl
  | append_singleton cs c ih =>
    rw [Cursor.advanceBy_append, ih, Cursor.advanceBy_cons, Cursor.advanceBy_nil, Cursor.advance,
      lineAfter_concat, columnAfter_concat, List.length_append, List.length_singleton]
    split <;> rfl

/-- The location of an index in a source. -/
def locate (filename : String) (cs : List Char) (i : Nat) : Location :=
  ⟨filename, lineAfter (cs.take i), columnAfter (cs.take i), i⟩

theorem location_advanceBy_start (filename : String) (cs ds : List Char) :
    (Cursor.start.advanceBy cs).location filename = locate filename (cs ++ ds) cs.length := by
  rw [advanceBy_start, locate, List.take_left]
  rfl

section Indices
variable {α : Type} (remark : Char → Location → Option α) (filename : String)

theorem remarks_advanceBy_start (before cs after : List Char) :
    remarks remark filename (Cursor.start.advanceBy before) cs =
      (cs.zipIdx before.length).filterMap fun ci =>
        remark ci.1 (locate filename (before ++ cs ++ after) ci.2) := by
  induction cs generalizing before with
  | nil => rfl
  | cons c cs ih =>
    have hadvance : (Cursor.start.advanceBy before).advance c = Cursor.start.advanceBy (before ++ [c]) := by
      rw [Cursor.advanceBy_append]
      rfl
    have hsource : before ++ [c] ++ cs ++ after = before ++ c :: cs ++ after := by simp
    rw [remarks_cons, hadvance, ih, hsource, List.zipIdx_cons, List.filterMap_cons,
      List.append_assoc before (c :: cs), location_advanceBy_start filename before (c :: cs ++ after),
      List.length_append, List.length_singleton]
    cases remark c (locate filename (before ++ (c :: cs ++ after)) before.length) <;> rfl

theorem remarks_eq_filterMap (cs after : List Char) :
    remarks remark filename .start cs =
      cs.zipIdx.filterMap fun ci => remark ci.1 (locate filename (cs ++ after) ci.2) :=
  remarks_advanceBy_start remark filename [] cs after

theorem mem_remarks_iff (cs after : List Char) {x : α} : x ∈ remarks remark filename .start cs ↔
    ∃ i < cs.length, ∃ c, (cs ++ after)[i]? = some c ∧
      remark c (locate filename (cs ++ after) i) = some x := by
  rw [remarks_eq_filterMap remark filename cs after, List.mem_filterMap]
  constructor
  · rintro ⟨⟨c, i⟩, hci, hx⟩
    have hi := List.mem_zipIdx_iff_getElem?.1 hci
    have hlt : i < cs.length := (List.getElem?_eq_some_iff.1 hi).1
    exact ⟨i, hlt, c, (List.getElem?_append_left hlt).trans hi, hx⟩
  · rintro ⟨i, hlt, c, hi, hx⟩
    rw [List.getElem?_append_left hlt] at hi
    exact ⟨(c, i), List.mem_zipIdx_iff_getElem?.2 hi, hx⟩

end Indices

/-! ## Lines -/

/-- The lines of a text: what stands between line feeds. -/
def linesOf (cs : List Char) : List (List Char) := cs.splitOn '\n'

/-- The characters before a line, the line feeds included. -/
def lineStart (cs : List Char) (n : Nat) : Nat := (((linesOf cs).take n).map fun l => l.length + 1).sum

theorem linesOf_cons (c : Char) (cs : List Char) : linesOf (c :: cs) =
    if c = '\n' then [] :: linesOf cs else (linesOf cs).modifyHead (c :: ·) := by
  unfold linesOf
  rw [List.splitOn_cons_eq_if_modifyHead]
  simp only [beq_iff_eq]

theorem exists_linesOf_cons {c : Char} (hc : c ≠ '\n') (cs : List Char) :
    ∃ l ls, linesOf (c :: cs) = (c :: l) :: ls := by
  obtain ⟨l, ls, h⟩ := List.exists_cons_of_ne_nil (List.splitOn_ne_nil '\n' cs)
  refine ⟨l, ls, ?_⟩
  rw [linesOf_cons, if_neg hc, linesOf, h, List.modifyHead_cons]

theorem exists_lines_append (cs : List Char) : ∃ earlier last,
    lineAfter cs = earlier.length + 1 ∧ columnAfter cs = last.length + 1 ∧
      cs.length = (earlier.map fun l => l.length + 1).sum + last.length ∧
      ∀ ds, linesOf (cs ++ ds) = earlier ++ (linesOf ds).modifyHead (last ++ ·) := by
  -- the last line grows at its end, so the text is taken from the right
  induction cs using List.reverseRecOn with
  | nil => exact ⟨[], [], rfl, rfl, rfl, fun ds => by cases h : linesOf ds <;> exact h⟩
  | append_singleton cs c ih =>
    obtain ⟨earlier, last, hline, hcolumn, hlength, hlines⟩ := ih
    rw [lineAfter_concat, columnAfter_concat, List.length_append, List.length_singleton]
    by_cases hc : c = '\n'
    · refine ⟨earlier ++ [last], [], ?_, ?_, ?_, fun ds => ?_⟩
      · rw [if_pos hc, hline, List.length_append, List.length_singleton]
      · rw [if_pos hc]
        rfl
      · simp only [List.map_append, List.sum_append, List.map_cons, List.map_nil, List.sum_cons,
          List.sum_nil, List.length_nil]
        omega
      · rw [List.append_assoc, List.singleton_append, hlines, linesOf_cons, if_pos hc,
          List.modifyHead_cons, List.append_nil, List.append_assoc, List.singleton_append]
        cases linesOf ds <;> rfl
    · refine ⟨earlier, last ++ [c], ?_, ?_, ?_, fun ds => ?_⟩
      · rw [if_neg hc, hline]
      · rw [if_neg hc, hcolumn, List.length_append, List.length_singleton]
      · rw [List.length_append, List.length_singleton]
        omega
      · rw [List.append_assoc, List.singleton_append, hlines, linesOf_cons, if_neg hc,
          List.modifyHead_modifyHead]
        congr 2
        funext l
        simp

theorem exists_lines (filename : String) {cs : List Char} {i : Nat} (hi : i ≤ cs.length) :
    ∃ earlier last first later,
      linesOf cs = earlier ++ (last ++ first) :: later ∧ linesOf (cs.drop i) = first :: later ∧
        locate filename cs i = ⟨filename, earlier.length + 1, last.length + 1, i⟩ ∧
        i = (earlier.map fun l => l.length + 1).sum + last.length := by
  obtain ⟨earlier, last, hline, hcolumn, hlength, hlines⟩ := exists_lines_append (cs.take i)
  obtain ⟨first, later, hrest⟩ :=
    List.exists_cons_of_ne_nil (List.splitOn_ne_nil '\n' (cs.drop i))
  have hall := hlines (cs.drop i)
  rw [List.take_append_drop, linesOf, linesOf, hrest, List.modifyHead_cons] at hall
  rw [List.length_take, Nat.min_eq_left hi] at hlength
  refine ⟨earlier, last, first, later, hall, hrest, ?_, hlength⟩
  unfold locate
  rw [hline, hcolumn, Int.natCast_add, Int.natCast_add]
  rfl

/-! ## Places -/

namespace Location

def lineIn? (cs : List Char) (p : Location) : Option (List Char) := (linesOf cs)[(p.line - 1).toNat]?

/-- The character at the line and column of a location. -/
def charIn? (cs : List Char) (p : Location) : Option Char :=
  (p.lineIn? cs).bind fun l => l[(p.column - 1).toNat]?

/-- Line and column of a location are in the text, and the offset is that of line and column. -/
structure InText (cs : List Char) (p : Location) : Prop where
  one_le_line : 1 ≤ p.line
  line_le : p.line ≤ (linesOf cs).length
  one_le_column : 1 ≤ p.column
  column_le : ∃ l, p.lineIn? cs = some l ∧ p.column - 1 ≤ l.length
  offset_eq : p.offset = lineStart cs (p.line - 1).toNat + p.column - 1

end Location

theorem Location.lineIn?_eq_some {cs l : List Char} {p : Location} {earlier later : List (List Char)}
    (hlines : linesOf cs = earlier ++ l :: later) (hline : p.line = earlier.length + 1) :
    p.lineIn? cs = some l := by
  have hindex : (p.line - 1).toNat = earlier.length := by omega
  rw [lineIn?, hindex, hlines, List.getElem?_append_right (Nat.le_refl _), Nat.sub_self]
  rfl

theorem inText_locate (filename : String) {cs : List Char} {i : Nat} (hi : i ≤ cs.length) :
    (locate filename cs i).InText cs := by
  obtain ⟨earlier, last, first, later, hlines, -, hplace, hoffset⟩ := exists_lines filename hi
  rw [hplace]
  refine ⟨by simp, ?_, by simp, ⟨last ++ first, Location.lineIn?_eq_some hlines rfl, ?_⟩, ?_⟩
  · rw [hlines, List.length_append, List.length_cons]
    dsimp only
    omega
  · rw [List.length_append]
    dsimp only
    omega
  · have hindex : ((earlier.length : Int) + 1 - 1).toNat = earlier.length := by omega
    dsimp only
    rw [hindex, lineStart, hlines, List.take_left]
    omega

theorem charIn?_locate (filename : String) {cs : List Char} {i : Nat} {c : Char} (hi : cs[i]? = some c)
    (hc : c ≠ '\n') : (locate filename cs i).charIn? cs = some c := by
  obtain ⟨hlt, hget⟩ := List.getElem?_eq_some_iff.1 hi
  obtain ⟨earlier, last, first, later, hlines, hrest, hplace, -⟩ :=
    exists_lines filename (Nat.le_of_lt hlt)
  have hfirst : first.head? = some c := by
    obtain ⟨l, ls, hcons⟩ := exists_linesOf_cons hc (cs.drop (i + 1))
    rw [List.drop_eq_getElem_cons hlt, hget, hcons, List.cons.injEq] at hrest
    rw [← hrest.1]
    rfl
  have hindex : ((last.length : Int) + 1 - 1).toNat = last.length := by omega
  rw [hplace, Location.charIn?, Location.lineIn?_eq_some hlines rfl, Option.bind_some, hindex,
    List.getElem?_append_right (Nat.le_refl _), Nat.sub_self, ← List.head?_eq_getElem?, hfirst]

/-! ## The order of places -/

theorem lineStart_add_length_lt {cs l : List Char} {m n : Nat} (hl : (linesOf cs)[m]? = some l)
    (hmn : m < n) : lineStart cs m + l.length < lineStart cs n := by
  obtain ⟨k, rfl⟩ := Nat.exists_eq_add_of_lt hmn
  -- line `m` is among those before line `n`, and its line feed makes the difference
  have htake : (linesOf cs).take (m + k + 1) =
      (linesOf cs).take m ++ l :: ((linesOf cs).drop (m + 1)).take k := by
    obtain ⟨hlt, hget⟩ := List.getElem?_eq_some_iff.1 hl
    rw [Nat.add_assoc, List.take_add, List.drop_eq_getElem_cons hlt, hget, List.take_succ_cons]
  unfold lineStart
  rw [htake, List.map_append, List.sum_append, List.map_cons, List.sum_cons]
  omega

namespace Location.InText
variable {cs : List Char} {p q : Location}

theorem offset_lt_of_line_lt (hp : p.InText cs) (hq : q.InText cs) (h : p.line < q.line) :
    p.offset < q.offset := by
  obtain ⟨l, hl, hcolumn⟩ := hp.column_le
  have hp1 := hp.one_le_line
  have hq1 := hq.one_le_column
  have hstart : lineStart cs (p.line - 1).toNat + l.length < lineStart cs (q.line - 1).toNat :=
    lineStart_add_length_lt hl (by omega)
  rw [hp.offset_eq, hq.offset_eq]
  omega

theorem offset_lt_iff (hp : p.InText cs) (hq : q.InText cs) :
    p.offset < q.offset ↔ p.line < q.line ∨ p.line = q.line ∧ p.column < q.column := by
  rcases Int.lt_trichotomy p.line q.line with h | h | h
  · exact iff_of_true (hp.offset_lt_of_line_lt hq h) (Or.inl h)
  · rw [hp.offset_eq, hq.offset_eq, h]
    omega
  · have := hq.offset_lt_of_line_lt hp h
    exact iff_of_false (by omega) (by omega)

theorem short_eq_iff (hp : p.InText cs) (hq : q.InText cs) (hfile : p.filename = q.filename) :
    p.short = q.short ↔ p.offset = q.offset := by
  rw [short_inj, and_iff_right hfile]
  constructor
  · rintro ⟨hline, hcolumn⟩
    rw [hp.offset_eq, hq.offset_eq, hline, hcolumn]
  · intro h
    have hpq := hp.offset_lt_iff hq
    have hqp := hq.offset_lt_iff hp
    omega

end Location.InText

end ArithLex
