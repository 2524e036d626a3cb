import CatalogSearch.Text
import Mathlib.Data.List.Infix

/-!
# `LIKE`

Matching texts against patterns, as SQLite does it when no escape character is given: `%` stands for
any run of characters, `_` for any one, and all else for itself in either case of ASCII letters. So
a pattern without wildcards and a `%` behind it asks for a beginning up to the case of letters
(`likePoints_stem_iff`), and with a `%` at both ends it asks for a part (`like_enclosed_iff`). A
wildcard in the middle only lets more texts through (`like_enclosed_of_occursIn`), and it always
does let some through that do not have the part (`exists_like_not_occursIn`).
-/

namespace CatalogSearch.Sql

/-- A code point without regard to the case of ASCII letters. -/
def foldCase : CodePoint → CodePoint
  | .char c => .char c.toLower
  | p => p

/-- Whether code points match a pattern: `%` stands for any run of them, `_` for any one, and all
else for itself in either case. -/
def likePoints : List CodePoint → List CodePoint → Bool
  | [], cs => cs.isEmpty
  | p :: ps, cs =>
    if p = .char '%' then cs.tails.any fun rest => likePoints ps rest
    else
      match cs with
      | [] => false
      | c :: rest => (p == .char '_' || foldCase p == foldCase c) && likePoints ps rest

/-- `LIKE` as SQLite has it. -/
def like (text pattern : Text) : Bool := likePoints pattern.points text.points

example : like "Map, 1st" "%AP__1%" = true := by decide +kernel

/-- A code point that does not stand for itself in a pattern. -/
def isWildcard (p : CodePoint) : Bool := p == .char '%' || p == .char '_'

/-! ### One step -/

theorem likePoints_run_iff {ps cs : List CodePoint} :
    likePoints (.char '%' :: ps) cs = true ↔ ∃ rest, rest <:+ cs ∧ likePoints ps rest = true := by
  simp only [likePoints, if_true, List.any_eq_true, List.mem_tails]

theorem likePoints_cons_iff {p : CodePoint} (hp : isWildcard p = false) {ps cs : List CodePoint} :
    likePoints (p :: ps) cs = true ↔
      ∃ c rest, cs = c :: rest ∧ foldCase p = foldCase c ∧ likePoints ps rest = true := by
  rw [isWildcard, Bool.or_eq_false_iff, beq_eq_false_iff_ne, beq_eq_false_iff_ne] at hp
  cases cs with
  | nil => simp [likePoints, hp.1]
  | cons c rest =>
    simp only [likePoints, if_neg hp.1, Bool.and_eq_true, Bool.or_eq_true, beq_iff_eq, hp.2,
      false_or, List.cons.injEq]
    constructor
    · rintro ⟨hfold, hrest⟩
      exact ⟨c, rest, ⟨rfl, rfl⟩, hfold, hrest⟩
    · rintro ⟨c', rest', ⟨rfl, rfl⟩, hfold, hrest⟩
      exact ⟨hfold, hrest⟩

theorem likePoints_cons_of_foldCase {p c : CodePoint} (h : foldCase p = foldCase c)
    {ps cs : List CodePoint} (hrest : likePoints ps cs = true) :
    likePoints (p :: ps) (c :: cs) = true := by
  by_cases hrun : p = .char '%'
  · rw [hrun, likePoints_run_iff]
    exact ⟨cs, List.suffix_cons c cs, hrest⟩
  · simp only [likePoints, if_neg hrun, h, beq_self_eq_true, Bool.or_true, Bool.true_and, hrest]

/-! ### Patterns with a final `%` -/

theorem likePoints_stem_of_prefix {ps cs : List CodePoint}
    (h : ps.map foldCase <+: cs.map foldCase) : likePoints (ps ++ [.char '%']) cs = true := by
  induction ps generalizing cs with
  | nil =>
    -- the wildcard stands for all there is, which leaves nothing to be matched
    exact likePoints_run_iff.2 ⟨[], List.nil_suffix, rfl⟩
  | cons p ps ih =>
    cases cs with
    | nil => simp at h
    | cons c cs =>
      rw [List.map_cons, List.map_cons, List.cons_prefix_cons] at h
      exact likePoints_cons_of_foldCase h.1 (ih h.2)

/-- A stem without wildcards asks for a beginning, up to the case of letters. -/
theorem likePoints_stem_iff {ps : List CodePoint} (hps : ∀ p ∈ ps, isWildcard p = false)
    {cs : List CodePoint} :
    likePoints (ps ++ [.char '%']) cs = true ↔ ps.map foldCase <+: cs.map foldCase := by
  refine ⟨?_, likePoints_stem_of_prefix⟩
  induction ps generalizing cs with
  | nil => exact fun _ => List.nil_prefix
  | cons p ps ih =>
    intro h
    rw [List.cons_append, likePoints_cons_iff (hps p List.mem_cons_self)] at h
    obtain ⟨c, rest, rfl, hfold, hrest⟩ := h
    rw [List.map_cons, List.map_cons, List.cons_prefix_cons]
    exact ⟨hfold, ih (fun q hq => hps q (List.mem_cons_of_mem p hq)) hrest⟩

/-- A character that stands for itself alone in a pattern. -/
def isLiteral (c : Char) : Bool := !c.isAlpha && c != '%' && c != '_'

theorem isAlpha_iff {c : Char} :
    c.isAlpha = true ↔ 65 ≤ c.toNat ∧ c.toNat ≤ 90 ∨ 97 ≤ c.toNat ∧ c.toNat ≤ 122 := by
  have hupper : c.isUpper = true ↔ 65 ≤ c.toNat ∧ c.toNat ≤ 90 :=
    decide_eq_true_iff.trans (and_congr UInt32.le_iff_toNat_le UInt32.le_iff_toNat_le)
  have hlower : c.isLower = true ↔ 97 ≤ c.toNat ∧ c.toNat ≤ 122 :=
    Bool.and_eq_true_iff.trans
      (and_congr (decide_eq_true_iff.trans UInt32.le_iff_toNat_le)
        (decide_eq_true_iff.trans UInt32.le_iff_toNat_le))
  exact Bool.or_eq_true_iff.trans (or_congr hupper hlower)

/-- Only letters have a lower case that is not themselves, and it is a letter. -/
theorem toLower_eq_or_isAlpha (c : Char) :
    c.toLower = c ∨ c.isAlpha = true ∧ c.toLower.isAlpha = true := by
  rw [isAlpha_iff, isAlpha_iff]
  unfold Char.toLower
  split
  case isTrue hupper =>
    have hlow : 65 ≤ c.toNat := UInt32.le_iff_toNat_le.1 hupper.1
    have hhigh : c.toNat ≤ 90 := UInt32.le_iff_toNat_le.1 hupper.2
    have hshift : (c.val + ('a'.val - 'A'.val)).toNat = c.toNat + 32 := by
      have hval : c.val.toNat = c.toNat := rfl
      rw [UInt32.toNat_add, show ('a'.val - 'A'.val).toNat = 32 by decide]
      omega
    refine .inr ⟨.inl ⟨hlow, hhigh⟩, .inr ?_⟩
    rw [Char.toNat, hshift]
    omega
  case isFalse => exact .inl rfl

theorem eq_of_foldCase_eq {c : Char} (hc : c.isAlpha = false) {p : CodePoint}
    (h : foldCase (.char c) = foldCase p) : p = .char c := by
  have hself : c.toLower = c := by
    obtain hself | ⟨halpha, -⟩ := toLower_eq_or_isAlpha c
    · exact hself
    · rw [hc] at halpha
      cases halpha
  cases p with
  | half offset => cases h
  | char d =>
    have hd : c = d.toLower := by
      rw [← hself]
      exact CodePoint.char.inj h
    obtain hlower | ⟨-, halpha⟩ := toLower_eq_or_isAlpha d
    · rw [hd, hlower]
    · -- the lower case of a letter is a letter, which `c` is not
      rw [← hd, hc] at halpha
      cases halpha

theorem map_foldCase_prefix_iff {ps : List Char} (hps : ∀ c ∈ ps, c.isAlpha = false)
    {cs : List Char} :
    (ps.map CodePoint.char).map foldCase <+: (cs.map CodePoint.char).map foldCase ↔ ps <+: cs := by
  refine ⟨?_, fun h => (h.map CodePoint.char).map foldCase⟩
  induction ps generalizing cs with
  | nil => exact fun _ => List.nil_prefix
  | cons p ps ih =>
    cases cs with
    | nil => simp
    | cons c cs =>
      simp only [List.map_cons, List.cons_prefix_cons]
      rintro ⟨hfold, hrest⟩
      have hchar := eq_of_foldCase_eq (hps p List.mem_cons_self) hfold
      exact ⟨(CodePoint.char.inj hchar).symm,
        ih (fun d hd => hps d (List.mem_cons_of_mem p hd)) hrest⟩

/-- A literal pattern with a final `%` asks for a beginning. -/
theorem like_literal_iff {pattern : String} (hpattern : ∀ c ∈ pattern.toList, isLiteral c = true)
    (text : String) : like text (pattern ++ "%") = true ↔ pattern.toList <+: text.toList := by
  have hliteral : ∀ c ∈ pattern.toList, c.isAlpha = false ∧ c ≠ '%' ∧ c ≠ '_' := by
    intro c hc
    simpa [isLiteral, and_assoc] using hpattern c hc
  have hwild : ∀ p ∈ pattern.toList.map CodePoint.char, isWildcard p = false := by
    intro p hp
    obtain ⟨c, hc, rfl⟩ := List.mem_map.1 hp
    simp [isWildcard, (hliteral c hc).2]
  have hpercent : (Text.ofString pattern ++ Text.ofString "%").points
      = pattern.toList.map .char ++ [.char '%'] := rfl
  rw [like, hpercent, likePoints_stem_iff hwild]
  exact map_foldCase_prefix_iff fun c hc => (hliteral c hc).1

/-! ### Patterns with a `%` at both ends -/

/-- Whether a text occurs in another one, up to the case of ASCII letters. -/
def OccursIn (part text : Text) : Prop :=
  part.points.map foldCase <:+: text.points.map foldCase

instance (part text : Text) : Decidable (OccursIn part text) :=
  inferInstanceAs (Decidable (_ <:+: _))

def enclosePattern (part : Text) : Text := "%" ++ part ++ "%"

theorem points_enclosePattern (part : Text) :
    (enclosePattern part).points = .char '%' :: (part.points ++ [.char '%']) := rfl

theorem like_enclosePattern_iff {part text : Text} :
    like text (enclosePattern part) = true ↔
      ∃ rest, rest <:+ text.points ∧ likePoints (part.points ++ [.char '%']) rest = true := by
  rw [like, points_enclosePattern, likePoints_run_iff]

theorem occursIn_iff {part text : Text} :
    OccursIn part text ↔
      ∃ rest, rest <:+ text.points ∧ part.points.map foldCase <+: rest.map foldCase := by
  rw [OccursIn, List.infix_iff_prefix_suffix]
  constructor
  · rintro ⟨rest, hprefix, hsuffix⟩
    obtain ⟨front, hfront⟩ := hsuffix
    obtain ⟨front', rest', htext, -, hrest⟩ := List.map_eq_append_iff.1 hfront.symm
    rw [← hrest] at hprefix
    exact ⟨rest', ⟨front', htext.symm⟩, hprefix⟩
  · rintro ⟨rest, hsuffix, hprefix⟩
    exact ⟨_, hprefix, hsuffix.map foldCase⟩

theorem like_enclosed_of_occursIn {part text : Text} (h : OccursIn part text) :
    like text (enclosePattern part) = true := by
  obtain ⟨rest, hsuffix, hprefix⟩ := occursIn_iff.1 h
  exact like_enclosePattern_iff.2 ⟨rest, hsuffix, likePoints_stem_of_prefix hprefix⟩

theorem like_enclosed_iff {part : Text} (hpart : ∀ p ∈ part.points, isWildcard p = false)
    {text : Text} : like text (enclosePattern part) = true ↔ OccursIn part text := by
  rw [like_enclosePattern_iff, occursIn_iff]
  simp only [likePoints_stem_iff hpart]

/-- What a pattern begins with can be matched by itself, whatever wildcards it has. -/
theorem likePoints_append_self (front : List CodePoint) {ps cs : List CodePoint}
    (h : likePoints ps cs = true) : likePoints (front ++ ps) (front ++ cs) = true := by
  induction front with
  | nil => exact h
  | cons p front ih => exact likePoints_cons_of_foldCase rfl ih

theorem likePoints_stem_self (ps : List CodePoint) : likePoints (ps ++ [.char '%']) ps = true :=
  likePoints_stem_of_prefix List.prefix_rfl

theorem length_le_of_occursIn {part text : Text} (h : OccursIn part text) :
    part.points.length ≤ text.points.length := by
  simpa using h.length_le

/-- A wildcard between the two `%` lets a text through that does not have the part. -/
theorem exists_like_not_occursIn {part : Text} (h : ∃ p ∈ part.points, isWildcard p = true) :
    ∃ text, like text (enclosePattern part) = true ∧ ¬OccursIn part text := by
  obtain ⟨p, hmem, hwild⟩ := h
  obtain ⟨front, back, hpoints⟩ := List.append_of_mem hmem
  rw [isWildcard, Bool.or_eq_true, beq_iff_eq, beq_iff_eq] at hwild
  rcases hwild with rfl | rfl
  · -- the run in the middle may be empty, so the text can lack it
    refine ⟨⟨front ++ back⟩, like_enclosePattern_iff.2 ⟨_, List.suffix_rfl, ?_⟩, ?_⟩
    · rw [hpoints, List.append_assoc]
      apply likePoints_append_self
      exact likePoints_run_iff.2 ⟨back, List.suffix_rfl, likePoints_stem_self back⟩
    · intro hoccurs
      have hlength := length_le_of_occursIn hoccurs
      simp only [hpoints, List.length_append, List.length_cons] at hlength
      omega
  · -- any character may stand at the place of the underscore
    refine ⟨⟨front ++ .char 'x' :: back⟩,
      like_enclosePattern_iff.2 ⟨_, List.suffix_rfl, ?_⟩, ?_⟩
    · rw [hpoints, List.append_assoc]
      apply likePoints_append_self
      have hback := likePoints_stem_self back
      simp [likePoints, hback]
    · intro hoccurs
      have hsame := hoccurs.eq_of_length (by simp [hpoints])
      rw [hpoints, List.map_append, List.map_append] at hsame
      have hfold := (List.cons.inj (List.append_cancel_left hsame)).1
      exact absurd hfold (by decide)

theorem like_enclosePattern_exact_iff {part : Text} :
    (∀ t, like t (enclosePattern part) = true ↔ OccursIn part t) ↔
      ∀ p ∈ part.points, isWildcard p = false := by
  refine ⟨?_, fun hpart t => like_enclosed_iff hpart⟩
  intro hexact p hp
  by_contra hwild
  rw [Bool.not_eq_false] at hwild
  obtain ⟨t, hlike, hoccurs⟩ := exists_like_not_occursIn ⟨p, hp, hwild⟩
  exact hoccurs ((hexact t).1 hlike)

end CatalogSearch.Sql
