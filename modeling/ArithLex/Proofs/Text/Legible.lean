import ArithLex.Text.Written
import ArithLex.Proofs.Text.Numerals
import ArithLex.Proofs.Text.Quoted
import Mathlib.Data.List.Forall2

/-!
# Legible written forms

In a written form every part is followed by a comma, by a closing bracket or by the end of the line. A
way of writing is legible if a text that begins with a written value and goes on like that begins with
no other value. Numbers and names are legible because they hold none of these, quoted text because it
tells its own end, and values made of legible parts are legible (`legible_applied`, `legible_record`).
-/

set_option autoImplicit false

namespace ArithLex.Text

variable {α : Type}

/-- A comma, a closing bracket or a line feed. -/
def isCloser (c : Char) : Bool := c == ',' || c == ')' || c == ']' || c == '\n'

/-- A text begins with a character that closes what stands before it. -/
def Closes (r : List Char) : Prop := ∃ c rest, r = c :: rest ∧ isCloser c = true

/-- What a text begins with tells the value, if it is closed. -/
def Legible (write : α → String) : Prop :=
  ∀ a b r s, Closes r → Closes s → (write a).toList ++ r = (write b).toList ++ s → a = b

/-- Of two texts at most one begins a text, if it is closed. -/
def Told (p q : String) : Prop :=
  ∀ r s, Closes r → Closes s → p.toList ++ r = q.toList ++ s → p = q

theorem closes_cons {c : Char} (h : isCloser c = true) (r : List Char) : Closes (c :: r) :=
  ⟨c, r, rfl, h⟩

section Legible
variable {write : α → String}

theorem Legible.told (h : Legible write) (a b : α) : Told (write a) (write b) :=
  fun r s hr hs heq => congrArg write (h a b r s hr hs heq)

theorem Legible.eq_iff (h : Legible write) {a b : α} : write a = write b ↔ a = b := by
  constructor
  · intro heq
    exact h a b [','] [','] (closes_cons rfl []) (closes_cons rfl []) (by rw [heq])
  · rintro rfl
    rfl

/-! ## Simple forms -/

theorem takeWhile_append_closes {cs r : List Char} (hcs : ∀ c ∈ cs, isCloser c = false)
    (hr : Closes r) : (cs ++ r).takeWhile (fun c => !isCloser c) = cs := by
  obtain ⟨c, rest, rfl, hc⟩ := hr
  have hpos : ∀ c ∈ cs, (!isCloser c) = true := fun c h => by rw [hcs c h]; rfl
  rw [List.takeWhile_append_of_pos hpos, List.takeWhile_cons_of_neg (by simp [hc]), List.append_nil]

theorem legible_of_plain (hplain : ∀ a, ∀ c ∈ (write a).toList, isCloser c = false)
    (hinj : ∀ a b, write a = write b → a = b) : Legible write := by
  intro a b r s hr hs h
  have htake := takeWhile_append_closes (hplain a) hr
  rw [h, takeWhile_append_closes (hplain b) hs] at htake
  exact hinj a b (String.toList_inj.1 htake.symm)

theorem legible_decimal : Legible decimal := by
  refine legible_of_plain (fun i c hc => ?_) fun i j => decimal_inj.1
  rcases mem_decimal hc with rfl | hdigit
  · rfl
  · by_contra hcloser
    simp only [isCloser, Bool.not_eq_false, Bool.or_eq_true, beq_iff_eq] at hcloser
    rcases hcloser with ((rfl | rfl) | rfl) | rfl <;> exact absurd hdigit (by decide)

theorem legible_quoteWith (printable : Char → Bool) : Legible (quoteWith printable) :=
  fun _ _ _ _ _ _ h => (quoteWith_append_inj h).1

theorem legible_codePointName : Legible codePointName := by
  refine legible_of_plain (fun a c hc => ?_) fun a b => codePointName_inj.1
  have hdigit : ∀ d < 16, isCloser d.digitChar.toUpper = false := by decide
  rw [toList_codePointName, List.mem_cons, List.mem_cons, List.mem_map] at hc
  rcases hc with rfl | rfl | ⟨x, hx, rfl⟩
  · rfl
  · rfl
  · obtain ⟨d, hd, rfl⟩ := mem_hexDigits hx
    exact hdigit d hd

/-! ## Missing values -/

def NeverBegins (write : α → String) (c : Char) : Prop :=
  ∀ a, ∃ d ds, (write a).toList = d :: ds ∧ d ≠ c

theorem neverBegins_decimal {c : Char} (hsign : c ≠ '-') (hdigit : c.isDigit = false) :
    NeverBegins decimal c := by
  intro i
  cases hi : (decimal i).toList with
  | nil =>
    rw [toList_decimal] at hi
    split at hi
    · exact absurd hi (List.cons_ne_nil _ _)
    · exact absurd hi Nat.toDigits_ne_nil
  | cons d ds =>
    refine ⟨d, ds, rfl, ?_⟩
    rintro rfl
    rcases mem_decimal (hi ▸ List.mem_cons_self) with h | h
    · exact hsign h
    · exact absurd (hdigit.symm.trans h) Bool.false_ne_true

theorem neverBegins_quoteWith (printable : Char → Bool) {c : Char} (happ : c ≠ '\'')
    (hquote : c ≠ '"') : NeverBegins (quoteWith printable) c := by
  intro s
  refine ⟨_, _, toList_quoteWith printable s, ?_⟩
  rcases quoteMark_eq_or s.toList with h | h
  · rw [h]
    exact happ.symm
  · rw [h]
    exact hquote.symm

theorem neverBegins_bracketed (write : α → String) {c : Char} (h : c ≠ '[') :
    NeverBegins (bracketed write) c := by
  intro as
  refine ⟨'[', (commas (as.map write)).toList ++ [']'], ?_, h.symm⟩
  rw [bracketed, String.toList_append, String.toList_append, List.append_assoc]
  rfl

theorem Legible.optional (h : Legible write) (hnone : NeverBegins write 'N') :
    Legible (optional write) := by
  intro a b r s hr hs heq
  -- `None` begins with a letter that no other value begins with
  have hapart : ∀ a r s, (write a).toList ++ r ≠ "None".toList ++ s := by
    intro a r s heq
    obtain ⟨d, ds, hd, hne⟩ := hnone a
    rw [hd] at heq
    exact hne (List.cons.inj heq).1
  cases a with
  | none =>
    cases b with
    | none => rfl
    | some b => exact absurd heq.symm (hapart b s r)
  | some a =>
    cases b with
    | none => exact absurd heq (hapart a r s)
    | some b => exact congrArg some (h a b r s hr hs heq)

end Legible

/-! ## Parts and lists -/

/-- The texts after the first one, with a comma and a space before each. -/
def followers (ps : List String) : List Char := ps.flatMap fun p => ',' :: ' ' :: p.toList

theorem followers_cons (p : String) (ps : List String) :
    followers (p :: ps) = ',' :: ' ' :: (p.toList ++ followers ps) := by
  rw [followers, List.flatMap_cons]
  rfl

theorem toList_commas_cons (p : String) (ps : List String) :
    (commas (p :: ps)).toList = p.toList ++ followers ps := by
  induction ps generalizing p with
  | nil =>
    rw [commas, String.intercalate_singleton]
    exact (List.append_nil _).symm
  | cons q ps ih =>
    have hq : (String.intercalate ", " (q :: ps)).toList = q.toList ++ followers ps := ih q
    rw [commas, String.intercalate_cons_cons, String.toList_append, String.toList_append, hq,
      followers_cons, List.append_assoc]
    rfl

theorem closes_followers (ps : List String) {r : List Char} (hr : Closes r) :
    Closes (followers ps ++ r) := by
  cases ps with
  | nil => exact hr
  | cons p ps =>
    rw [followers_cons]
    exact closes_cons rfl _

theorem followers_append_inj {c : Char} (hcloser : isCloser c = true) (hcomma : c ≠ ',')
    {ps qs : List String} (htold : ∀ {p q}, (p, q) ∈ ps.zip qs → Told p q) {r s : List Char}
    (heq : followers ps ++ c :: r = followers qs ++ c :: s) : ps = qs := by
  induction ps generalizing qs with
  | nil =>
    cases qs with
    | nil => rfl
    | cons q qs =>
      rw [followers_cons] at heq
      exact absurd (List.cons.inj heq).1 hcomma
  | cons p ps ih =>
    cases qs with
    | nil =>
      rw [followers_cons] at heq
      exact absurd (List.cons.inj heq).1.symm hcomma
    | cons q qs =>
      rw [followers_cons, followers_cons, List.cons_append, List.cons_append, List.cons_append,
        List.cons_append, List.cons_inj_right, List.cons_inj_right, List.append_assoc,
        List.append_assoc] at heq
      have hclose : ∀ t, Closes (c :: t) := closes_cons hcloser
      obtain rfl : p = q := htold List.mem_cons_self _ _ (closes_followers ps (hclose r))
        (closes_followers qs (hclose s)) heq
      rw [ih (fun h => htold (List.mem_cons_of_mem _ h)) (List.append_cancel_left heq)]

theorem commas_append_inj {c : Char} (hcloser : isCloser c = true) (hcomma : c ≠ ',')
    {p q : String} {ps qs : List String}
    (htold : ∀ {x y}, (x, y) ∈ (p :: ps).zip (q :: qs) → Told x y) {r s : List Char}
    (heq : (commas (p :: ps)).toList ++ c :: r = (commas (q :: qs)).toList ++ c :: s) :
    p :: ps = q :: qs := by
  refine followers_append_inj hcloser hcomma htold (r := r) (s := s) ?_
  rw [followers_cons, followers_cons, ← toList_commas_cons, ← toList_commas_cons, List.cons_append,
    List.cons_append, List.cons_append, List.cons_append, heq]

/-- A value of parts is legible, if each part can be told and the parts tell the value. -/
theorem legible_applied {name : String} {parts : α → List String}
    (htold : ∀ a b, List.Forall₂ Told (parts a) (parts b))
    (hparts : ∀ a b, parts a = parts b → a = b) : Legible fun a => applied name (parts a) := by
  intro a b r s _ _ heq
  have hshape : ∀ ps t, (applied name ps).toList ++ t =
      (name ++ "(").toList ++ ((commas ps).toList ++ ')' :: t) := by
    intro ps t
    rw [applied, String.toList_append, String.toList_append, List.append_assoc, List.append_assoc]
    rfl
  rw [hshape, hshape] at heq
  apply hparts
  have hforall := htold a b
  generalize parts a = ps at heq hforall
  generalize parts b = qs at heq hforall
  cases hforall with
  | nil => rfl
  | cons hpq hrest =>
    exact commas_append_inj rfl (by decide) (List.forall₂_iff_zip.1 (.cons hpq hrest)).2
      (List.append_cancel_left heq)

def named (part : String × String) : String := part.1 ++ "=" ++ part.2

theorem record_eq (name : String) (parts : List (String × String)) :
    record name parts = applied name (parts.map named) := rfl

def ToldByName (x y : String × String) : Prop := x.1 = y.1 ∧ Told x.2 y.2

theorem ToldByName.told {x y : String × String} (h : ToldByName x y) : Told (named x) (named y) := by
  intro r s hr hs heq
  rw [named, named, ← h.1, String.toList_append, String.toList_append (s := x.1 ++ "="),
    List.append_assoc, List.append_assoc] at heq
  rw [named, named, ← h.1, h.2 r s hr hs (List.append_cancel_left heq)]

theorem named_inj {x y : String × String} (hname : x.1 = y.1) (h : named x = named y) : x = y := by
  rw [named, named, ← hname, String.append_right_inj] at h
  exact Prod.ext hname h

/-- A value of named parts is legible, if each part can be told and the parts tell the value. -/
theorem legible_record {name : String} {parts : α → List (String × String)}
    (htold : ∀ a b, List.Forall₂ ToldByName (parts a) (parts b))
    (hparts : ∀ a b, parts a = parts b → a = b) : Legible fun a => record name (parts a) := by
  simp only [record_eq]
  refine legible_applied (fun a b => ?_) fun a b h => ?_
  · rw [List.forall₂_map_left_iff, List.forall₂_map_right_iff]
    exact (htold a b).imp fun _ _ => ToldByName.told
  · apply hparts
    have hforall := htold a b
    generalize parts a = xs at h hforall
    generalize parts b = ys at h hforall
    induction hforall with
    | nil => rfl
    | cons hxy _ ih =>
      obtain ⟨hhead, htail⟩ := List.cons.inj h
      rw [named_inj hxy.1 hhead, ih htail]

theorem Legible.bracketed {write : α → String} (h : Legible write) (hclose : NeverBegins write ']') :
    Legible (bracketed write) := by
  intro as bs r s _ _ heq
  have hshape : ∀ xs t, (Text.bracketed write xs).toList ++ t =
      '[' :: ((commas (xs.map write)).toList ++ ']' :: t) := by
    intro xs t
    rw [Text.bracketed, String.toList_append, String.toList_append, List.append_assoc, List.append_assoc]
    rfl
  -- the text of an empty list goes on with a bracket that no value begins with
  have hapart : ∀ x xs t u, (commas ((x :: xs).map write)).toList ++ t ≠ ']' :: u := by
    intro x xs t u heq
    obtain ⟨d, ds, hd, hne⟩ := hclose x
    rw [List.map_cons, toList_commas_cons, hd] at heq
    exact hne (List.cons.inj heq).1
  rw [hshape, hshape, List.cons_inj_right] at heq
  cases as with
  | nil =>
    cases bs with
    | nil => rfl
    | cons b bs => exact absurd heq.symm (hapart b bs _ _)
  | cons a as =>
    cases bs with
    | nil => exact absurd heq (hapart a as _ _)
    | cons b bs =>
      have hmap := commas_append_inj rfl (by decide) (fun hmem => ?_) heq
      · exact List.map_injective_iff.2 (fun _ _ => h.eq_iff.1) hmap
      · obtain ⟨hp, hq⟩ := List.of_mem_zip hmem
        obtain ⟨x, -, rfl⟩ := List.mem_map.1 (show _ ∈ (a :: as).map write from hp)
        obtain ⟨y, -, rfl⟩ := List.mem_map.1 (show _ ∈ (b :: bs).map write from hq)
        exact h.told x y

end ArithLex.Text
