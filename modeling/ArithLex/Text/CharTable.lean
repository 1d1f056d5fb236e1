/-!
# Tables of characters

A property of characters is a table: ranges of code points in ascending order, searched in one pass that
stops at the first range above the code point. Two properties are needed: to be blank, and to be printable.
Characters are Unicode scalar values, so a surrogate that stands alone is none and occurs in no text.
-/

set_option autoImplicit false

namespace ArithLex.Text

/-- The code points from `first` to `last`, both included. -/
structure CodeRange where
  first : Nat
  last : Nat
deriving DecidableEq

def CodeRange.only (n : Nat) : CodeRange := ⟨n, n⟩

/-- Whether a table in ascending order holds `n`. -/
def inRanges : List CodeRange → Nat → Bool
  | [], _ => false
  | r :: rs, n => decide (r.first ≤ n) && (decide (n ≤ r.last) || inRanges rs n)

/-- The ranges are not empty, start at `n` or above, and each ends below the next. -/
def AscendingFrom (n : Nat) : List CodeRange → Prop
  | [] => True
  | r :: rs => n ≤ r.first ∧ r.first ≤ r.last ∧ AscendingFrom (r.last + 1) rs

instance AscendingFrom.decidable : ∀ (n : Nat) (rs : List CodeRange),
    Decidable (AscendingFrom n rs)
  | _, [] => isTrue trivial
  | n, r :: rs =>
    have := AscendingFrom.decidable (r.last + 1) rs
    inferInstanceAs (Decidable (n ≤ r.first ∧ r.first ≤ r.last ∧ AscendingFrom (r.last + 1) rs))

theorem AscendingFrom.le_first {n : Nat} {rs : List CodeRange} (h : AscendingFrom n rs) :
    ∀ r ∈ rs, n ≤ r.first := by
  induction rs generalizing n with
  | nil => simp
  | cons r rs ih =>
    obtain ⟨h1, h2, h3⟩ := h
    intro s hs
    rcases List.mem_cons.1 hs with rfl | hs
    · exact h1
    · have := ih h3 s hs
      omega

theorem inRanges_iff {m : Nat} {rs : List CodeRange} (h : AscendingFrom m rs) (n : Nat) :
    inRanges rs n = true ↔ ∃ r ∈ rs, r.first ≤ n ∧ n ≤ r.last := by
  induction rs generalizing m with
  | nil => simp [inRanges]
  | cons r rs ih =>
    obtain ⟨_, _, h3⟩ := h
    have above := h3.le_first
    simp only [inRanges, Bool.and_eq_true, Bool.or_eq_true, decide_eq_true_eq, ih h3,
      List.mem_cons]
    constructor
    · rintro ⟨h1, h2 | ⟨s, hs, h2⟩⟩
      · exact ⟨r, .inl rfl, h1, h2⟩
      · exact ⟨s, .inr hs, h2⟩
    · rintro ⟨s, rfl | hs, h1, h2⟩
      · exact ⟨h1, .inl h2⟩
      · have := above s hs
        exact ⟨by omega, .inr ⟨s, hs, h1, h2⟩⟩

/-! ## Blank characters -/

def blanks : List CodeRange :=
  [⟨0x9, 0xD⟩, ⟨0x1C, 0x20⟩, .only 0x85, .only 0xA0, .only 0x1680, ⟨0x2000, 0x200A⟩,
    ⟨0x2028, 0x2029⟩, .only 0x202F, .only 0x205F, .only 0x3000]

def isBlank (c : Char) : Bool := inRanges blanks c.toNat

/-- The blank characters expected in source text, by code point. -/
def commonBlanks : List Char := ['\t', '\n', '\r', ' ']

def isCommonBlank (c : Char) : Bool := commonBlanks.contains c

theorem blanks_ascending : AscendingFrom 0 blanks := by decide

/-! ## Printable characters -/

/-- The code points that are not printable. -/
def unprintables : List CodeRange :=
  [⟨0x0, 0x1F⟩, ⟨0x7F, 0xA0⟩, .only 0xAD, ⟨0x378, 0x379⟩, ⟨0x380, 0x383⟩, .only 0x38B, .only 0x38D,
    .only 0x3A2, .only 0x530, ⟨0x557, 0x558⟩, ⟨0x58B, 0x58C⟩, .only 0x590, ⟨0x5C8, 0x5CF⟩,
    ⟨0x5EB, 0x5EE⟩, ⟨0x5F5, 0x605⟩, .only 0x61C, .only 0x6DD, ⟨0x70E, 0x70F⟩, ⟨0x74B, 0x74C⟩,
    ⟨0x7B2, 0x7BF⟩, ⟨0x7FB, 0x7FC⟩, ⟨0x82E, 0x82F⟩, .only 0x83F, ⟨0x85C, 0x85D⟩, .only 0x85F,
    ⟨0x86B, 0x86F⟩, ⟨0x88F, 0x897⟩, .only 0x8E2, .only 0x984, ⟨0x98D, 0x98E⟩, ⟨0x991, 0x992⟩,
    .only 0x9A9, .only 0x9B1, ⟨0x9B3, 0x9B5⟩, ⟨0x9BA, 0x9BB⟩, ⟨0x9C5, 0x9C6⟩, ⟨0x9C9, 0x9CA⟩,
    ⟨0x9CF, 0x9D6⟩, ⟨0x9D8, 0x9DB⟩, .only 0x9DE, ⟨0x9E4, 0x9E5⟩, ⟨0x9FF, 0xA00⟩, .only 0xA04,
    ⟨0xA0B, 0xA0E⟩, ⟨0xA11, 0xA12⟩, .only 0xA29, .only 0xA31, .only 0xA34, .only 0xA37,
    ⟨0xA3A, 0xA3B⟩, .only 0xA3D, ⟨0xA43, 0xA46⟩, ⟨0xA49, 0xA4A⟩, ⟨0xA4E, 0xA50⟩, ⟨0xA52, 0xA58⟩,
    .only 0xA5D, ⟨0xA5F, 0xA65⟩, ⟨0xA77, 0xA80⟩, .only 0xA84, .only 0xA8E, .only 0xA92, .only 0xAA9,
    .only 0xAB1, .only 0xAB4, ⟨0xABA, 0xABB⟩, .only 0xAC6, .only 0xACA, ⟨0xACE, 0xACF⟩,
    ⟨0xAD1, 0xADF⟩, ⟨0xAE4, 0xAE5⟩, ⟨0xAF2, 0xAF8⟩, .only 0xB00, .only 0xB04, ⟨0xB0D, 0xB0E⟩,
    ⟨0xB11, 0xB12⟩, .only 0xB29, .only 0xB31, .only 0xB34, ⟨0xB3A, 0xB3B⟩, ⟨0xB45, 0xB46⟩,
    ⟨0xB49, 0xB4A⟩, ⟨0xB4E, 0xB54⟩, ⟨0xB58, 0xB5B⟩, .only 0xB5E, ⟨0xB64, 0xB65⟩, ⟨0xB78, 0xB81⟩,
    .only 0xB84, ⟨0xB8B, 0xB8D⟩, .only 0xB91, ⟨0xB96, 0xB98⟩, .only 0xB9B, .only 0xB9D,
    ⟨0xBA0, 0xBA2⟩, ⟨0xBA5, 0xBA7⟩, ⟨0xBAB, 0xBAD⟩, ⟨0xBBA, 0xBBD⟩, ⟨0xBC3, 0xBC5⟩, .only 0xBC9,
    ⟨0xBCE, 0xBCF⟩, ⟨0xBD1, 0xBD6⟩, ⟨0xBD8, 0xBE5⟩, ⟨0xBFB, 0xBFF⟩, .only 0xC0D, .only 0xC11,
    .only 0xC29, ⟨0xC3A, 0xC3B⟩, .only 0xC45, .only 0xC49, ⟨0xC4E, 0xC54⟩, .only 0xC57,
    ⟨0xC5B, 0xC5C⟩, ⟨0xC5E, 0xC5F⟩, ⟨0xC64, 0xC65⟩, ⟨0xC70, 0xC76⟩, .only 0xC8D, .only 0xC91,
    .only 0xCA9, .only 0xCB4, ⟨0xCBA, 0xCBB⟩, .only 0xCC5, .only 0xCC9, ⟨0xCCE, 0xCD4⟩,
    ⟨0xCD7, 0xCDC⟩, .only 0xCDF, ⟨0xCE4, 0xCE5⟩, .only 0xCF0, ⟨0xCF3, 0xCFF⟩, .only 0xD0D,
    .only 0xD11, .only 0xD45, .only 0xD49, ⟨0xD50, 0xD53⟩, ⟨0xD64, 0xD65⟩, .only 0xD80, .only 0xD84,
    ⟨0xD97, 0xD99⟩, .only 0xDB2, .only 0xDBC, ⟨0xDBE, 0xDBF⟩, ⟨0xDC7, 0xDC9⟩, ⟨0xDCB, 0xDCE⟩,
    .only 0xDD5, .only 0xDD7, ⟨0xDE0, 0xDE5⟩, ⟨0xDF0, 0xDF1⟩, ⟨0xDF5, 0xE00⟩, ⟨0xE3B, 0xE3E⟩,
    ⟨0xE5C, 0xE80⟩, .only 0xE83, .only 0xE85, .only 0xE8B, .only 0xEA4, .only 0xEA6, ⟨0xEBE, 0xEBF⟩,
    .only 0xEC5, .only 0xEC7, ⟨0xECE, 0xECF⟩, ⟨0xEDA, 0xEDB⟩, ⟨0xEE0, 0xEFF⟩, .only 0xF48,
    ⟨0xF6D, 0xF70⟩, .only 0xF98, .only 0xFBD, .only 0xFCD, ⟨0xFDB, 0xFFF⟩, .only 0x10C6,
    ⟨0x10C8, 0x10CC⟩, ⟨0x10CE, 0x10CF⟩, .only 0x1249, ⟨0x124E, 0x124F⟩, .only 0x1257, .only 0x1259,
    ⟨0x125E, 0x125F⟩, .only 0x1289, ⟨0x128E, 0x128F⟩, .only 0x12B1, ⟨0x12B6, 0x12B7⟩, .only 0x12BF,
    .only 0x12C1, ⟨0x12C6, 0x12C7⟩, .only 0x12D7, .only 0x1311, ⟨0x1316, 0x1317⟩, ⟨0x135B, 0x135C⟩,
    ⟨0x137D, 0x137F⟩, ⟨0x139A, 0x139F⟩, ⟨0x13F6, 0x13F7⟩, ⟨0x13FE, 0x13FF⟩, .only 0x1680,
    ⟨0x169D, 0x169F⟩, ⟨0x16F9, 0x16FF⟩, ⟨0x1716, 0x171E⟩, ⟨0x1737, 0x173F⟩, ⟨0x1754, 0x175F⟩,
    .only 0x176D, .only 0x1771, ⟨0x1774, 0x177F⟩, ⟨0x17DE, 0x17DF⟩, ⟨0x17EA, 0x17EF⟩,
    ⟨0x17FA, 0x17FF⟩, .only 0x180E, ⟨0x181A, 0x181F⟩, ⟨0x1879, 0x187F⟩, ⟨0x18AB, 0x18AF⟩,
    ⟨0x18F6, 0x18FF⟩, .only 0x191F, ⟨0x192C, 0x192F⟩, ⟨0x193C, 0x193F⟩, ⟨0x1941, 0x1943⟩,
    ⟨0x196E, 0x196F⟩, ⟨0x1975, 0x197F⟩, ⟨0x19AC, 0x19AF⟩, ⟨0x19CA, 0x19CF⟩, ⟨0x19DB, 0x19DD⟩,
    ⟨0x1A1C, 0x1A1D⟩, .only 0x1A5F, ⟨0x1A7D, 0x1A7E⟩, ⟨0x1A8A, 0x1A8F⟩, ⟨0x1A9A, 0x1A9F⟩,
    ⟨0x1AAE, 0x1AAF⟩, ⟨0x1ACF, 0x1AFF⟩, ⟨0x1B4D, 0x1B4F⟩, .only 0x1B7F, ⟨0x1BF4, 0x1BFB⟩,
    ⟨0x1C38, 0x1C3A⟩, ⟨0x1C4A, 0x1C4C⟩, ⟨0x1C89, 0x1C8F⟩, ⟨0x1CBB, 0x1CBC⟩, ⟨0x1CC8, 0x1CCF⟩,
    ⟨0x1CFB, 0x1CFF⟩, ⟨0x1F16, 0x1F17⟩, ⟨0x1F1E, 0x1F1F⟩, ⟨0x1F46, 0x1F47⟩, ⟨0x1F4E, 0x1F4F⟩,
    .only 0x1F58, .only 0x1F5A, .only 0x1F5C, .only 0x1F5E, ⟨0x1F7E, 0x1F7F⟩, .only 0x1FB5,
    .only 0x1FC5, ⟨0x1FD4, 0x1FD5⟩, .only 0x1FDC, ⟨0x1FF0, 0x1FF1⟩, .only 0x1FF5, ⟨0x1FFF, 0x200F⟩,
    ⟨0x2028, 0x202F⟩, ⟨0x205F, 0x206F⟩, ⟨0x2072, 0x2073⟩, .only 0x208F, ⟨0x209D, 0x209F⟩,
    ⟨0x20C1, 0x20CF⟩, ⟨0x20F1, 0x20FF⟩, ⟨0x218C, 0x218F⟩, ⟨0x2427, 0x243F⟩, ⟨0x244B, 0x245F⟩,
    ⟨0x2B74, 0x2B75⟩, .only 0x2B96, ⟨0x2CF4, 0x2CF8⟩, .only 0x2D26, ⟨0x2D28, 0x2D2C⟩,
    ⟨0x2D2E, 0x2D2F⟩, ⟨0x2D68, 0x2D6E⟩, ⟨0x2D71, 0x2D7E⟩, ⟨0x2D97, 0x2D9F⟩, .only 0x2DA7,
    .only 0x2DAF, .only 0x2DB7, .only 0x2DBF, .only 0x2DC7, .only 0x2DCF, .only 0x2DD7,
    .only 0x2DDF, ⟨0x2E5E, 0x2E7F⟩, .only 0x2E9A, ⟨0x2EF4, 0x2EFF⟩, ⟨0x2FD6, 0x2FEF⟩,
    ⟨0x2FFC, 0x3000⟩, .only 0x3040, ⟨0x3097, 0x3098⟩, ⟨0x3100, 0x3104⟩, .only 0x3130, .only 0x318F,
    ⟨0x31E4, 0x31EF⟩, .only 0x321F, ⟨0xA48D, 0xA48F⟩, ⟨0xA4C7, 0xA4CF⟩, ⟨0xA62C, 0xA63F⟩,
    ⟨0xA6F8, 0xA6FF⟩, ⟨0xA7CB, 0xA7CF⟩, .only 0xA7D2, .only 0xA7D4, ⟨0xA7DA, 0xA7F1⟩,
    ⟨0xA82D, 0xA82F⟩, ⟨0xA83A, 0xA83F⟩, ⟨0xA878, 0xA87F⟩, ⟨0xA8C6, 0xA8CD⟩, ⟨0xA8DA, 0xA8DF⟩,
    ⟨0xA954, 0xA95E⟩, ⟨0xA97D, 0xA97F⟩, .only 0xA9CE, ⟨0xA9DA, 0xA9DD⟩, .only 0xA9FF,
    ⟨0xAA37, 0xAA3F⟩, ⟨0xAA4E, 0xAA4F⟩, ⟨0xAA5A, 0xAA5B⟩, ⟨0xAAC3, 0xAADA⟩, ⟨0xAAF7, 0xAB00⟩,
    ⟨0xAB07, 0xAB08⟩, ⟨0xAB0F, 0xAB10⟩, ⟨0xAB17, 0xAB1F⟩, .only 0xAB27, .only 0xAB2F,
    ⟨0xAB6C, 0xAB6F⟩, ⟨0xABEE, 0xABEF⟩, ⟨0xABFA, 0xABFF⟩, ⟨0xD7A4, 0xD7AF⟩, ⟨0xD7C7, 0xD7CA⟩,
    ⟨0xD7FC, 0xF8FF⟩, ⟨0xFA6E, 0xFA6F⟩, ⟨0xFADA, 0xFAFF⟩, ⟨0xFB07, 0xFB12⟩, ⟨0xFB18, 0xFB1C⟩,
    .only 0xFB37, .only 0xFB3D, .only 0xFB3F, .only 0xFB42, .only 0xFB45, ⟨0xFBC3, 0xFBD2⟩,
    ⟨0xFD90, 0xFD91⟩, ⟨0xFDC8, 0xFDCE⟩, ⟨0xFDD0, 0xFDEF⟩, ⟨0xFE1A, 0xFE1F⟩, .only 0xFE53,
    .only 0xFE67, ⟨0xFE6C, 0xFE6F⟩, .only 0xFE75, ⟨0xFEFD, 0xFF00⟩, ⟨0xFFBF, 0xFFC1⟩,
    ⟨0xFFC8, 0xFFC9⟩, ⟨0xFFD0, 0xFFD1⟩, ⟨0xFFD8, 0xFFD9⟩, ⟨0xFFDD, 0xFFDF⟩, .only 0xFFE7,
    ⟨0xFFEF, 0xFFFB⟩, ⟨0xFFFE, 0xFFFF⟩, .only 0x1000C, .only 0x10027, .only 0x1003B, .only 0x1003E,
    ⟨0x1004E, 0x1004F⟩, ⟨0x1005E, 0x1007F⟩, ⟨0x100FB, 0x100FF⟩, ⟨0x10103, 0x10106⟩,
    ⟨0x10134, 0x10136⟩, .only 0x1018F, ⟨0x1019D, 0x1019F⟩, ⟨0x101A1, 0x101CF⟩, ⟨0x101FE, 0x1027F⟩,
    ⟨0x1029D, 0x1029F⟩, ⟨0x102D1, 0x102DF⟩, ⟨0x102FC, 0x102FF⟩, ⟨0x10324, 0x1032C⟩,
    ⟨0x1034B, 0x1034F⟩, ⟨0x1037B, 0x1037F⟩, .only 0x1039E, ⟨0x103C4, 0x103C7⟩, ⟨0x103D6, 0x103FF⟩,
    ⟨0x1049E, 0x1049F⟩, ⟨0x104AA, 0x104AF⟩, ⟨0x104D4, 0x104D7⟩, ⟨0x104FC, 0x104FF⟩,
    ⟨0x10528, 0x1052F⟩, ⟨0x10564, 0x1056E⟩, .only 0x1057B, .only 0x1058B, .only 0x10593,
    .only 0x10596, .only 0x105A2, .only 0x105B2, .only 0x105BA, ⟨0x105BD, 0x105FF⟩,
    ⟨0x10737, 0x1073F⟩, ⟨0x10756, 0x1075F⟩, ⟨0x10768, 0x1077F⟩, .only 0x10786, .only 0x107B1,
    ⟨0x107BB, 0x107FF⟩, ⟨0x10806, 0x10807⟩, .only 0x10809, .only 0x10836, ⟨0x10839, 0x1083B⟩,
    ⟨0x1083D, 0x1083E⟩, .only 0x10856, ⟨0x1089F, 0x108A6⟩, ⟨0x108B0, 0x108DF⟩, .only 0x108F3,
    ⟨0x108F6, 0x108FA⟩, ⟨0x1091C, 0x1091E⟩, ⟨0x1093A, 0x1093E⟩, ⟨0x10940, 0x1097F⟩,
    ⟨0x109B8, 0x109BB⟩, ⟨0x109D0, 0x109D1⟩, .only 0x10A04, ⟨0x10A07, 0x10A0B⟩, .only 0x10A14,
    .only 0x10A18, ⟨0x10A36, 0x10A37⟩, ⟨0x10A3B, 0x10A3E⟩, ⟨0x10A49, 0x10A4F⟩, ⟨0x10A59, 0x10A5F⟩,
    ⟨0x10AA0, 0x10ABF⟩, ⟨0x10AE7, 0x10AEA⟩, ⟨0x10AF7, 0x10AFF⟩, ⟨0x10B36, 0x10B38⟩,
    ⟨0x10B56, 0x10B57⟩, ⟨0x10B73, 0x10B77⟩, ⟨0x10B92, 0x10B98⟩, ⟨0x10B9D, 0x10BA8⟩,
    ⟨0x10BB0, 0x10BFF⟩, ⟨0x10C49, 0x10C7F⟩, ⟨0x10CB3, 0x10CBF⟩, ⟨0x10CF3, 0x10CF9⟩,
    ⟨0x10D28, 0x10D2F⟩, ⟨0x10D3A, 0x10E5F⟩, .only 0x10E7F, .only 0x10EAA, ⟨0x10EAE, 0x10EAF⟩,
    ⟨0x10EB2, 0x10EFF⟩, ⟨0x10F28, 0x10F2F⟩, ⟨0x10F5A, 0x10F6F⟩, ⟨0x10F8A, 0x10FAF⟩,
    ⟨0x10FCC, 0x10FDF⟩, ⟨0x10FF7, 0x10FFF⟩, ⟨0x1104E, 0x11051⟩, ⟨0x11076, 0x1107E⟩, .only 0x110BD,
    ⟨0x110C3, 0x110CF⟩, ⟨0x110E9, 0x110EF⟩, ⟨0x110FA, 0x110FF⟩, .only 0x11135, ⟨0x11148, 0x1114F⟩,
    ⟨0x11177, 0x1117F⟩, .only 0x111E0, ⟨0x111F5, 0x111FF⟩, .only 0x11212, ⟨0x1123F, 0x1127F⟩,
    .only 0x11287, .only 0x11289, .only 0x1128E, .only 0x1129E, ⟨0x112AA, 0x112AF⟩,
    ⟨0x112EB, 0x112EF⟩, ⟨0x112FA, 0x112FF⟩, .only 0x11304, ⟨0x1130D, 0x1130E⟩, ⟨0x11311, 0x11312⟩,
    .only 0x11329, .only 0x11331, .only 0x11334, .only 0x1133A, ⟨0x11345, 0x11346⟩,
    ⟨0x11349, 0x1134A⟩, ⟨0x1134E, 0x1134F⟩, ⟨0x11351, 0x11356⟩, ⟨0x11358, 0x1135C⟩,
    ⟨0x11364, 0x11365⟩, ⟨0x1136D, 0x1136F⟩, ⟨0x11375, 0x113FF⟩, .only 0x1145C, ⟨0x11462, 0x1147F⟩,
    ⟨0x114C8, 0x114CF⟩, ⟨0x114DA, 0x1157F⟩, ⟨0x115B6, 0x115B7⟩, ⟨0x115DE, 0x115FF⟩,
    ⟨0x11645, 0x1164F⟩, ⟨0x1165A, 0x1165F⟩, ⟨0x1166D, 0x1167F⟩, ⟨0x116BA, 0x116BF⟩,
    ⟨0x116CA, 0x116FF⟩, ⟨0x1171B, 0x1171C⟩, ⟨0x1172C, 0x1172F⟩, ⟨0x11747, 0x117FF⟩,
    ⟨0x1183C, 0x1189F⟩, ⟨0x118F3, 0x118FE⟩, ⟨0x11907, 0x11908⟩, ⟨0x1190A, 0x1190B⟩, .only 0x11914,
    .only 0x11917, .only 0x11936, ⟨0x11939, 0x1193A⟩, ⟨0x11947, 0x1194F⟩, ⟨0x1195A, 0x1199F⟩,
    ⟨0x119A8, 0x119A9⟩, ⟨0x119D8, 0x119D9⟩, ⟨0x119E5, 0x119FF⟩, ⟨0x11A48, 0x11A4F⟩,
    ⟨0x11AA3, 0x11AAF⟩, ⟨0x11AF9, 0x11BFF⟩, .only 0x11C09, .only 0x11C37, ⟨0x11C46, 0x11C4F⟩,
    ⟨0x11C6D, 0x11C6F⟩, ⟨0x11C90, 0x11C91⟩, .only 0x11CA8, ⟨0x11CB7, 0x11CFF⟩, .only 0x11D07,
    .only 0x11D0A, ⟨0x11D37, 0x11D39⟩, .only 0x11D3B, .only 0x11D3E, ⟨0x11D48, 0x11D4F⟩,
    ⟨0x11D5A, 0x11D5F⟩, .only 0x11D66, .only 0x11D69, .only 0x11D8F, .only 0x11D92,
    ⟨0x11D99, 0x11D9F⟩, ⟨0x11DAA, 0x11EDF⟩, ⟨0x11EF9, 0x11FAF⟩, ⟨0x11FB1, 0x11FBF⟩,
    ⟨0x11FF2, 0x11FFE⟩, ⟨0x1239A, 0x123FF⟩, .only 0x1246F, ⟨0x12475, 0x1247F⟩, ⟨0x12544, 0x12F8F⟩,
    ⟨0x12FF3, 0x12FFF⟩, ⟨0x1342F, 0x143FF⟩, ⟨0x14647, 0x167FF⟩, ⟨0x16A39, 0x16A3F⟩, .only 0x16A5F,
    ⟨0x16A6A, 0x16A6D⟩, .only 0x16ABF, ⟨0x16ACA, 0x16ACF⟩, ⟨0x16AEE, 0x16AEF⟩, ⟨0x16AF6, 0x16AFF⟩,
    ⟨0x16B46, 0x16B4F⟩, .only 0x16B5A, .only 0x16B62, ⟨0x16B78, 0x16B7C⟩, ⟨0x16B90, 0x16E3F⟩,
    ⟨0x16E9B, 0x16EFF⟩, ⟨0x16F4B, 0x16F4E⟩, ⟨0x16F88, 0x16F8E⟩, ⟨0x16FA0, 0x16FDF⟩,
    ⟨0x16FE5, 0x16FEF⟩, ⟨0x16FF2, 0x16FFF⟩, ⟨0x187F8, 0x187FF⟩, ⟨0x18CD6, 0x18CFF⟩,
    ⟨0x18D09, 0x1AFEF⟩, .only 0x1AFF4, .only 0x1AFFC, .only 0x1AFFF, ⟨0x1B123, 0x1B14F⟩,
    ⟨0x1B153, 0x1B163⟩, ⟨0x1B168, 0x1B16F⟩, ⟨0x1B2FC, 0x1BBFF⟩, ⟨0x1BC6B, 0x1BC6F⟩,
    ⟨0x1BC7D, 0x1BC7F⟩, ⟨0x1BC89, 0x1BC8F⟩, ⟨0x1BC9A, 0x1BC9B⟩, ⟨0x1BCA0, 0x1CEFF⟩,
    ⟨0x1CF2E, 0x1CF2F⟩, ⟨0x1CF47, 0x1CF4F⟩, ⟨0x1CFC4, 0x1CFFF⟩, ⟨0x1D0F6, 0x1D0FF⟩,
    ⟨0x1D127, 0x1D128⟩, ⟨0x1D173, 0x1D17A⟩, ⟨0x1D1EB, 0x1D1FF⟩, ⟨0x1D246, 0x1D2DF⟩,
    ⟨0x1D2F4, 0x1D2FF⟩, ⟨0x1D357, 0x1D35F⟩, ⟨0x1D379, 0x1D3FF⟩, .only 0x1D455, .only 0x1D49D,
    ⟨0x1D4A0, 0x1D4A1⟩, ⟨0x1D4A3, 0x1D4A4⟩, ⟨0x1D4A7, 0x1D4A8⟩, .only 0x1D4AD, .only 0x1D4BA,
    .only 0x1D4BC, .only 0x1D4C4, .only 0x1D506, ⟨0x1D50B, 0x1D50C⟩, .only 0x1D515, .only 0x1D51D,
    .only 0x1D53A, .only 0x1D53F, .only 0x1D545, ⟨0x1D547, 0x1D549⟩, .only 0x1D551,
    ⟨0x1D6A6, 0x1D6A7⟩, ⟨0x1D7CC, 0x1D7CD⟩, ⟨0x1DA8C, 0x1DA9A⟩, .only 0x1DAA0, ⟨0x1DAB0, 0x1DEFF⟩,
    ⟨0x1DF1F, 0x1DFFF⟩, .only 0x1E007, ⟨0x1E019, 0x1E01A⟩, .only 0x1E022, .only 0x1E025,
    ⟨0x1E02B, 0x1E0FF⟩, ⟨0x1E12D, 0x1E12F⟩, ⟨0x1E13E, 0x1E13F⟩, ⟨0x1E14A, 0x1E14D⟩,
    ⟨0x1E150, 0x1E28F⟩, ⟨0x1E2AF, 0x1E2BF⟩, ⟨0x1E2FA, 0x1E2FE⟩, ⟨0x1E300, 0x1E7DF⟩, .only 0x1E7E7,
    .only 0x1E7EC, .only 0x1E7EF, .only 0x1E7FF, ⟨0x1E8C5, 0x1E8C6⟩, ⟨0x1E8D7, 0x1E8FF⟩,
    ⟨0x1E94C, 0x1E94F⟩, ⟨0x1E95A, 0x1E95D⟩, ⟨0x1E960, 0x1EC70⟩, ⟨0x1ECB5, 0x1ED00⟩,
    ⟨0x1ED3E, 0x1EDFF⟩, .only 0x1EE04, .only 0x1EE20, .only 0x1EE23, ⟨0x1EE25, 0x1EE26⟩,
    .only 0x1EE28, .only 0x1EE33, .only 0x1EE38, .only 0x1EE3A, ⟨0x1EE3C, 0x1EE41⟩,
    ⟨0x1EE43, 0x1EE46⟩, .only 0x1EE48, .only 0x1EE4A, .only 0x1EE4C, .only 0x1EE50, .only 0x1EE53,
    ⟨0x1EE55, 0x1EE56⟩, .only 0x1EE58, .only 0x1EE5A, .only 0x1EE5C, .only 0x1EE5E, .only 0x1EE60,
    .only 0x1EE63, ⟨0x1EE65, 0x1EE66⟩, .only 0x1EE6B, .only 0x1EE73, .only 0x1EE78, .only 0x1EE7D,
    .only 0x1EE7F, .only 0x1EE8A, ⟨0x1EE9C, 0x1EEA0⟩, .only 0x1EEA4, .only 0x1EEAA,
    ⟨0x1EEBC, 0x1EEEF⟩, ⟨0x1EEF2, 0x1EFFF⟩, ⟨0x1F02C, 0x1F02F⟩, ⟨0x1F094, 0x1F09F⟩,
    ⟨0x1F0AF, 0x1F0B0⟩, .only 0x1F0C0, .only 0x1F0D0, ⟨0x1F0F6, 0x1F0FF⟩, ⟨0x1F1AE, 0x1F1E5⟩,
    ⟨0x1F203, 0x1F20F⟩, ⟨0x1F23C, 0x1F23F⟩, ⟨0x1F249, 0x1F24F⟩, ⟨0x1F252, 0x1F25F⟩,
    ⟨0x1F266, 0x1F2FF⟩, ⟨0x1F6D8, 0x1F6DC⟩, ⟨0x1F6ED, 0x1F6EF⟩, ⟨0x1F6FD, 0x1F6FF⟩,
    ⟨0x1F774, 0x1F77F⟩, ⟨0x1F7D9, 0x1F7DF⟩, ⟨0x1F7EC, 0x1F7EF⟩, ⟨0x1F7F1, 0x1F7FF⟩,
    ⟨0x1F80C, 0x1F80F⟩, ⟨0x1F848, 0x1F84F⟩, ⟨0x1F85A, 0x1F85F⟩, ⟨0x1F888, 0x1F88F⟩,
    ⟨0x1F8AE, 0x1F8AF⟩, ⟨0x1F8B2, 0x1F8FF⟩, ⟨0x1FA54, 0x1FA5F⟩, ⟨0x1FA6E, 0x1FA6F⟩,
    ⟨0x1FA75, 0x1FA77⟩, ⟨0x1FA7D, 0x1FA7F⟩, ⟨0x1FA87, 0x1FA8F⟩, ⟨0x1FAAD, 0x1FAAF⟩,
    ⟨0x1FABB, 0x1FABF⟩, ⟨0x1FAC6, 0x1FACF⟩, ⟨0x1FADA, 0x1FADF⟩, ⟨0x1FAE8, 0x1FAEF⟩,
    ⟨0x1FAF7, 0x1FAFF⟩, .only 0x1FB93, ⟨0x1FBCB, 0x1FBEF⟩, ⟨0x1FBFA, 0x1FFFF⟩, ⟨0x2A6E0, 0x2A6FF⟩,
    ⟨0x2B739, 0x2B73F⟩, ⟨0x2B81E, 0x2B81F⟩, ⟨0x2CEA2, 0x2CEAF⟩, ⟨0x2EBE1, 0x2F7FF⟩,
    ⟨0x2FA1E, 0x2FFFF⟩, ⟨0x3134B, 0xE00FF⟩, ⟨0xE01F0, 0x10FFFF⟩]

def isPrintable (c : Char) : Bool := !inRanges unprintables c.toNat

theorem unprintables_ascending : AscendingFrom 0 unprintables := by decide +kernel

end ArithLex.Text
