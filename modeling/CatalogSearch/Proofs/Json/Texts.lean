import CatalogSearch.Proofs.Json.Arrays
import Mathlib.Data.List.Chain

/-!
# Texts in JSON

A code point is written in one of four ways (`Written`), and the reader takes each of them for that
code point, with one exception: two escapes in a row, of a high and of a low half of a surrogate
pair, are read as the character of the pair. So a text is read back unless a high half stands
directly before a low half in it (`Text.Unpaired`). A string has no halves at all.
-/

namespace CatalogSearch

theorem Utf16.isHighHalf_iff {n : Nat} : isHighHalf n = true ↔ 0xd800 ≤ n ∧ n ≤ 0xdbff := by
  rw [isHighHalf, ← Bool.decide_and, decide_eq_true_iff]

theorem Utf16.isLowHalf_iff {n : Nat} : isLowHalf n = true ↔ 0xdc00 ≤ n ∧ n ≤ 0xdfff := by
  rw [isLowHalf, ← Bool.decide_and, decide_eq_true_iff]

theorem CodePoint.char_valid (c : Char) :
    c.toNat < 0xd800 ∨ 0xdfff < c.toNat ∧ c.toNat < 0x110000 := c.valid

theorem CodePoint.ofNat_toNat (p : CodePoint) : ofNat p.toNat = p := by
  cases p with
  | char c =>
    have hvalid := CodePoint.char_valid c
    rw [toNat, ofNat, dif_neg (by omega), Char.ofNat_toNat]
  | half offset =>
    have hrange : 0xd800 ≤ (half offset).toNat ∧ (half offset).toNat ≤ 0xdfff := by
      simp only [toNat]
      omega
    have hoffset : (half offset).toNat - 0xd800 = offset.val := by
      simp only [toNat]
      omega
    simp only [ofNat, hrange, and_self, dif_pos, hoffset]

/-- The first code point is a high half and the second a low one. -/
def CodePoint.IsPair (p q : CodePoint) : Prop :=
  Utf16.isHighHalf p.toNat = true ∧ Utf16.isLowHalf q.toNat = true

instance (p q : CodePoint) : Decidable (p.IsPair q) := inferInstanceAs (Decidable (_ ∧ _))

/-- No high half stands directly before a low half. -/
def Text.Unpaired (t : Text) : Prop := t.points.IsChain fun p q => ¬p.IsPair q

instance (t : Text) : Decidable t.Unpaired := inferInstanceAs (Decidable (List.IsChain _ _))

theorem CodePoint.isHighHalf_char (c : Char) : Utf16.isHighHalf (char c).toNat = false := by
  have hvalid := CodePoint.char_valid c
  rw [toNat, Bool.eq_false_iff, ne_eq, Utf16.isHighHalf_iff]
  omega

theorem Text.unpaired_ofString (s : String) : (Text.ofString s).Unpaired := by
  apply List.Pairwise.isChain
  rw [ofString, List.pairwise_map]
  apply List.pairwise_of_forall
  intro c d hpair
  rw [CodePoint.IsPair, CodePoint.isHighHalf_char] at hpair
  cases hpair.1

namespace Json

/-! ### Units -/

theorem hexDigit?_digitChar : ∀ d < 16, hexDigit? (.char d.digitChar) = some d := by decide

theorem hexDigits_four {n : Nat} (hn : n < 0x10000) :
    Text.hexDigits 4 n = [(n / 4096).digitChar, (n / 256 % 16).digitChar, (n / 16 % 16).digitChar,
      (n % 16).digitChar] := by
  have hone : ∀ m < 16, Nat.toDigits 16 m = [m.digitChar] := fun m hm =>
    Nat.toDigits_of_lt_base hm
  have hmore : ∀ m, 16 ≤ m →
      Nat.toDigits 16 m = Nat.toDigits 16 (m / 16) ++ [(m % 16).digitChar] :=
    fun m hm => Nat.toDigits_of_base_le (by decide) hm
  rw [Text.hexDigits]
  rcases Nat.lt_or_ge n 0x10 with h1 | h1
  · rw [hone n h1, show n / 4096 = 0 by omega, show n / 256 % 16 = 0 by omega,
      show n / 16 % 16 = 0 by omega, Nat.mod_eq_of_lt h1]
    rfl
  · rcases Nat.lt_or_ge n 0x100 with h2 | h2
    · rw [hmore n h1, hone (n / 16) (by omega), show n / 4096 = 0 by omega,
        show n / 256 % 16 = 0 by omega, Nat.mod_eq_of_lt (show n / 16 < 16 by omega)]
      rfl
    · rcases Nat.lt_or_ge n 0x1000 with h3 | h3
      · rw [hmore n h1, hmore (n / 16) (by omega), Nat.div_div_eq_div_mul,
          hone (n / 256) (by omega), show n / 4096 = 0 by omega,
          Nat.mod_eq_of_lt (show n / 256 < 16 by omega)]
        rfl
      · rw [hmore n h1, hmore (n / 16) (by omega), Nat.div_div_eq_div_mul,
          hmore (n / 256) (by omega), Nat.div_div_eq_div_mul, hone (n / 4096) (by omega)]
        rfl

theorem unit?_hexDigits {n : Nat} (hn : n < 0x10000) :
    unit? (points (Text.hexDigits 4 n)) = some n := by
  rw [hexDigits_four hn, points]
  simp only [List.map_cons, List.map_nil, unit?,
    hexDigit?_digitChar _ (show n / 4096 < 16 by omega),
    hexDigit?_digitChar _ (Nat.mod_lt _ (show 0 < 16 by decide)), Option.bind_eq_bind,
    Option.bind_some, Option.pure_def, Option.some.injEq]
  omega

theorem length_points_hexDigits {n : Nat} (hn : n < 0x10000) :
    (points (Text.hexDigits 4 n)).length = 4 := by
  rw [hexDigits_four hn]
  rfl

/-- Behind a high half: anything but the escape of a low half. -/
inductive Apart : List CodePoint → Prop
  | plain {rest : List CodePoint}
      (h : ∀ second, rest ≠ .char '\\' :: .char 'u' :: second) : Apart rest
  | unit {n : Nat} (hn : n < 0x10000) (hlow : Utf16.isLowHalf n = false) (rest : List CodePoint) :
    Apart (points (unitEscape n) ++ rest)

theorem points_unitEscape_append (n : Nat) (rest : List CodePoint) :
    points (unitEscape n) ++ rest
      = .char '\\' :: .char 'u' :: (points (Text.hexDigits 4 n) ++ rest) := rfl

section

variable {n : Nat} (hn : n < 0x10000) {rest : List CodePoint}

include hn

theorem take_hexDigits : (points (Text.hexDigits 4 n) ++ rest).take 4
    = points (Text.hexDigits 4 n) :=
  List.take_left' (length_points_hexDigits hn)

theorem drop_hexDigits : (points (Text.hexDigits 4 n) ++ rest).drop 4 = rest :=
  List.drop_left' (length_points_hexDigits hn)

theorem length_hexDigits_append :
    (points (Text.hexDigits 4 n) ++ rest).length = 4 + rest.length := by
  rw [List.length_append, length_points_hexDigits hn]

/-- An escape is read as its unit, unless it is a high half with a low one behind it. -/
theorem unicodeEscape_unit (hrest : rest ≠ []) (hapart : Utf16.isHighHalf n = true → Apart rest)
    (mark : List CodePoint) :
    unicodeEscape mark (points (Text.hexDigits 4 n) ++ rest) = .ok (.ofNat n, 4) := by
  have hpos := List.length_pos_iff.2 hrest
  rw [unicodeEscape, if_neg (by rw [length_hexDigits_append hn]; omega), take_hexDigits hn,
    unit?_hexDigits hn, drop_hexDigits hn]
  dsimp only
  cases hhigh : Utf16.isHighHalf n with
  | false => split <;> rfl
  | true =>
    obtain hplain | ⟨hm, hlow, more⟩ := hapart hhigh
    · split
      · exact absurd rfl (hplain _)
      · rfl
    · rw [points_unitEscape_append]
      split
      case h_1 second hsecond =>
        cases hsecond
        rw [take_hexDigits hm, unit?_hexDigits hm]
        dsimp only
        rw [hlow, if_neg Bool.false_ne_true, ite_self]
      case h_2 => rfl

/-- The escapes of a high and of a low half are read as the character of the pair. -/
theorem unicodeEscape_pair {low : Nat} (hlow : low < 0x10000) (hhigh : Utf16.isHighHalf n = true)
    (hislow : Utf16.isLowHalf low = true) (hrest : rest ≠ []) (mark : List CodePoint) :
    unicodeEscape mark (points (Text.hexDigits 4 n) ++ (points (unitEscape low) ++ rest))
      = .ok (.char (Utf16.pair n low), 10) := by
  have hpos := List.length_pos_iff.2 hrest
  have hlong : (points (Text.hexDigits 4 low) ++ rest).length ≥ 5 := by
    rw [length_hexDigits_append hlow]
    omega
  rw [points_unitEscape_append, unicodeEscape,
    if_neg (by rw [length_hexDigits_append hn, List.length_cons]; omega), take_hexDigits hn,
    unit?_hexDigits hn, drop_hexDigits hn]
  dsimp only
  split
  case h_1 second hsecond =>
    cases hsecond
    rw [hhigh, decide_eq_true hlong, Bool.and_self, if_pos rfl, take_hexDigits hlow,
      unit?_hexDigits hlow]
    exact if_pos hislow
  case h_2 hno => exact absurd rfl (hno _)

end

/-! ### Code points -/

/-- The four ways in which code points are written: with a letter, as they are, by one unit, and by
two. -/
inductive Written : CodePoint → List Char → Prop
  | short {c e : Char} (hunit : e ≠ 'u') (h : shortEscape? (.char e) = some c) :
    Written (.char c) ['\\', e]
  | plain {c : Char} (hquote : c ≠ '\x22') (hslash : c ≠ '\\') (h : 0x1f < c.toNat) :
    Written (.char c) [c]
  | unit {p : CodePoint} (h : p.toNat < 0x10000) : Written p (unitEscape p.toNat)
  | pair {c : Char} {high low : Nat} (hhigh : Utf16.isHighHalf high = true)
      (hlow : Utf16.isLowHalf low = true) (h : Utf16.pair high low = c) :
    Written (.char c) (unitEscape high ++ unitEscape low)

theorem pair_of_le {c : Char} (h : 0x10000 ≤ c.toNat) :
    let n := c.toNat - 0x10000
    Utf16.isHighHalf (0xd800 + n / 0x400) = true ∧ Utf16.isLowHalf (0xdc00 + n % 0x400) = true ∧
      Utf16.pair (0xd800 + n / 0x400) (0xdc00 + n % 0x400) = c := by
  have hvalid := CodePoint.char_valid c
  intro n
  have hn : n + 0x10000 = c.toNat := Nat.sub_add_cancel h
  have hsum : 0x10000 + (0xd800 + n / 0x400 - 0xd800) * 0x400 + (0xdc00 + n % 0x400 - 0xdc00)
      = c.toNat := by omega
  refine ⟨Utf16.isHighHalf_iff.2 (by omega), Utf16.isLowHalf_iff.2 (by omega), ?_⟩
  rw [Utf16.pair, hsum, Char.ofNat_toNat]

theorem written_short {c d e : Char} (hunit : e ≠ 'u') (h : shortEscape? (.char e) = some d)
    (hc : (c == d) = true) : Written (.char c) ['\\', e] := by
  rw [← beq_iff_eq.1 hc] at h
  exact .short hunit h

theorem written_writeChar (c : Char) : Written (.char c) (writeChar c) := by
  unfold writeChar
  split_ifs with hquote hslash hline hreturn htab hfeed hback hplain hunit
  · exact written_short (by decide) rfl hquote
  · exact written_short (by decide) rfl hslash
  · exact written_short (by decide) rfl hline
  · exact written_short (by decide) rfl hreturn
  · exact written_short (by decide) rfl htab
  · exact written_short (by decide) rfl hfeed
  · exact written_short (by decide) rfl hback
  · exact .plain (by simpa using hquote) (by simpa using hslash) hplain.1
  · exact .unit hunit
  · obtain ⟨hhigh, hlow, hpair⟩ := pair_of_le (Nat.not_lt.1 hunit)
    exact .pair hhigh hlow hpair

theorem written_writePoint (p : CodePoint) : Written p (writePoint p) := by
  cases p with
  | char c => exact written_writeChar c
  | half offset =>
    apply Written.unit
    simp only [CodePoint.toNat]
    omega

theorem not_isLowHalf_of_isHighHalf {n : Nat} (h : Utf16.isHighHalf n = true) :
    Utf16.isLowHalf n = false := by
  rw [Utf16.isHighHalf_iff] at h
  rw [Bool.eq_false_iff, ne_eq, Utf16.isLowHalf_iff]
  omega

theorem lt_of_isHighHalf {n : Nat} (h : Utf16.isHighHalf n = true) : n < 0x10000 := by
  have hrange := Utf16.isHighHalf_iff.1 h
  omega

theorem lt_of_isLowHalf {n : Nat} (h : Utf16.isLowHalf n = true) : n < 0x10000 := by
  have hrange := Utf16.isLowHalf_iff.1 h
  omega

theorem Written.apart {p : CodePoint} {cs : List Char} (h : Written p cs)
    (hlow : Utf16.isLowHalf p.toNat = false) (rest : List CodePoint) :
    Apart (points cs ++ rest) := by
  cases h with
  | short hunit h =>
    apply Apart.plain
    rintro second hsecond
    cases hsecond
    exact hunit rfl
  | plain hquote hslash h =>
    apply Apart.plain
    rintro second hsecond
    exact hslash (CodePoint.char.inj (List.cons.inj hsecond).1)
  | unit h => exact .unit h hlow rest
  | pair hhigh hislow h =>
    rw [points, List.map_append, List.append_assoc]
    exact .unit (lt_of_isHighHalf hhigh) (not_isLowHalf_of_isHighHalf hhigh) _

theorem textBody_skip {taken : Nat} {ps : List CodePoint} (h : ps.length = taken)
    (start rest : List CodePoint) :
    textBody start taken (ps ++ rest) = textBody start 0 rest := by
  subst h
  induction ps with
  | nil => rfl
  | cons p ps ih => exact ih

/-- What is written for a code point is taken off the front of a text, and the rest is read as
before. -/
theorem Written.textBody_eq {p : CodePoint} {cs : List Char} (h : Written p cs)
    {rest : List CodePoint} (hrest : rest ≠ [])
    (hapart : Utf16.isHighHalf p.toNat = true → Apart rest) (start : List CodePoint) :
    textBody start 0 (points cs ++ rest)
      = (textBody start 0 rest).map fun found => (p :: found.1, found.2) := by
  cases h with
  | @short c e hunit h =>
    rw [points, List.map_cons, List.map_cons, List.map_nil, List.cons_append, List.cons_append,
      List.nil_append, textBody, h]
    · rfl
    · rintro ⟨⟩
      exact hunit rfl
  | @plain c hquote hslash h =>
    have hshown : ¬(CodePoint.char c).toNat ≤ 0x1f := Nat.not_le.2 h
    have hmark : CodePoint.char c ≠ .char '\\' := fun heq => hslash (CodePoint.char.inj heq)
    rw [points, List.map_cons, List.map_nil, List.cons_append, List.nil_append, textBody,
      if_neg hshown]
    · rfl
    · exact fun heq => hquote (CodePoint.char.inj heq)
    · exact fun heq _ => hmark heq
    · exact fun _ heq _ => hmark heq
    · exact fun _ _ heq _ => hmark heq
  | unit h =>
    rw [points_unitEscape_append, textBody, unicodeEscape_unit h hrest hapart]
    dsimp only [bind, Except.bind]
    rw [textBody_skip (length_points_hexDigits h), CodePoint.ofNat_toNat]
    rfl
  | @pair c high low hhigh hlow h =>
    have hhigh' := lt_of_isHighHalf hhigh
    have hlow' := lt_of_isLowHalf hlow
    have hlength : (points (Text.hexDigits 4 high) ++ points (unitEscape low)).length = 10 := by
      rw [List.length_append, length_points_hexDigits hhigh', unitEscape, hexDigits_four hlow']
      rfl
    rw [points, List.map_append, ← points, ← points, List.append_assoc, points_unitEscape_append,
      textBody, unicodeEscape_pair hhigh' hlow' hhigh hlow hrest, h]
    dsimp only [bind, Except.bind]
    rw [← List.append_assoc, textBody_skip hlength]
    rfl

theorem textBody_flatMap {ps : List CodePoint} (h : ps.IsChain fun p q => ¬p.IsPair q)
    (start rest : List CodePoint) :
    textBody start 0 (points (ps.flatMap writePoint) ++ .char '\x22' :: rest) = .ok (ps, rest) := by
  -- on the code points: behind a high half stands the closing quote, or what is written for a code
  -- point that is no low half
  induction ps with
  | nil => rfl
  | cons p ps ih =>
    have hmore := ih (List.IsChain.tail h)
    have hapart : Utf16.isHighHalf p.toNat = true →
        Apart (points (ps.flatMap writePoint) ++ .char '\x22' :: rest) := by
      intro hhigh
      cases ps with
      | nil =>
        apply Apart.plain
        rintro second ⟨⟩
      | cons q ps =>
        have hlow : Utf16.isLowHalf q.toNat = false := by
          rw [Bool.eq_false_iff]
          intro hlow
          exact List.rel_of_isChain_cons_cons h ⟨hhigh, hlow⟩
        rw [List.flatMap_cons, points, List.map_append, List.append_assoc]
        exact (written_writePoint q).apart hlow _
    rw [List.flatMap_cons, points, List.map_append, List.append_assoc,
      ← points, ← points, (written_writePoint p).textBody_eq (by simp) hapart, hmore]
    rfl

/-! ### Texts -/

theorem toList_writeText (t : Text) :
    (writeText t).toList = '\x22' :: (t.points.flatMap writePoint ++ ['\x22']) := by
  rw [writeText, String.toList_ofList]
  rfl

theorem textToken_writeText {t : Text} (h : t.Unpaired) (rest : List CodePoint) :
    textToken (points (writeText t).toList ++ rest) = .ok (t, rest) := by
  have hpoints : points (writeText t).toList ++ rest
      = .char '\x22' :: (points (t.points.flatMap writePoint) ++ .char '\x22' :: rest) := by
    rw [toList_writeText, points, List.map_cons, List.map_append, List.cons_append,
      List.append_assoc]
    rfl
  rw [hpoints, textToken, List.drop_one, List.tail_cons, textBody_flatMap h]
  rfl

/-- A text is read back, unless halves in it make a pair. -/
theorem readsBack_text {t : Text} (h : t.Unpaired) : ReadsBack 0 (.text t) := by
  have hwrite : write (.text t) = writeText t := by rw [write]
  constructor
  · rw [hwrite]
    exact ⟨'\x22', _, toList_writeText t, by decide⟩
  · intro fuel depth rest hfuel _ _
    have htoken := textToken_writeText h rest
    rw [hwrite] at hfuel ⊢
    rw [toList_writeText] at hfuel htoken ⊢
    obtain ⟨fuel, rfl⟩ : ∃ n, fuel = n + 1 := ⟨fuel - 1, by simp at hfuel; omega⟩
    rw [points, List.map_cons, List.cons_append] at htoken ⊢
    cases depth <;> rw [value, if_pos (by decide), htoken] <;> rfl

end Json

end CatalogSearch
