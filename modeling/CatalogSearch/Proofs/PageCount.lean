import CatalogSearch.Search.Page
import Mathlib.Algebra.Order.Ring.Int
import Mathlib.Tactic.Ring

/-!
# How many pages there are

The number of pages is a quotient rounded up, but the quotient is first rounded to the nearest
double. For totals up to 2^53 this makes no difference, because the doubles around such a quotient
have all whole numbers among them and lie closer to each other than the quotient to the whole number
below it: rounding passes no whole number (`Binary64.ratioUnits_between`), and the page count is the
exact one (`pageCount_eq`). Beyond that only its existence is shown.
-/

namespace CatalogSearch

namespace Binary64

/-! ### Rounding a quotient -/

theorem roundHalfEven_le {n d m : Nat} (h : n ≤ d * m) : roundHalfEven n d ≤ m := by
  have hq : n / d ≤ m := Nat.div_le_of_le_mul h
  rw [roundHalfEven]
  rcases Nat.lt_or_eq_of_le hq with hlt | heq
  · split
    · exact hq
    · split
      · exact hlt
      · have := Nat.mod_lt (n / d) (show 0 < 2 by decide)
        omega
  · have hsplit := Nat.div_add_mod n d
    rw [heq] at hsplit
    have hr : n % d = 0 := by omega
    have hm : d = 0 → m = 0 := by
      rintro rfl
      rw [← heq, Nat.div_zero]
    rw [hr, heq]
    split
    · exact le_refl m
    · rw [if_neg (by omega), hm (by omega)]

theorem lt_roundHalfEven {n d m : Nat} (hd : 0 < d) (hlt : d * m < n)
    (h : d < 2 * (n - d * m)) : m < roundHalfEven n d := by
  have hq : m ≤ n / d := (Nat.le_div_iff_mul_le hd).2 (by rw [Nat.mul_comm]; exact hlt.le)
  rw [roundHalfEven]
  rcases Nat.lt_or_eq_of_le hq with hlt' | heq
  · split
    · exact hlt'
    · split
      · omega
      · omega
  · have hsplit := Nat.div_add_mod n d
    rw [← heq] at hsplit ⊢
    rw [if_neg (by omega), if_pos (by omega)]
    exact Nat.lt_succ_self m

theorem roundHalfEven_mul {d m : Nat} (hd : 0 < d) : roundHalfEven (d * m) d = m := by
  rw [roundHalfEven, Nat.mul_div_cancel_left m hd, Nat.mul_mod_right, if_pos (by omega)]

/-! ### The nearest double -/

/-- The shift of the double nearest to a quotient, before a carry. -/
def ratioShift (n d : Nat) : Nat := Nat.log2 (n * Place.unitsPerOne / d) + 1 - 53

/-- The units of the double nearest to a quotient. -/
def ratioUnits (n d : Nat) : Nat :=
  roundHalfEven (n * Place.unitsPerOne) (d * 2 ^ ratioShift n d) * 2 ^ ratioShift n d

/-- The exponent of the unit as a name, so that no power of that size gets computed. -/
theorem exists_unitsPerOne_eq : ∃ e, e = 1074 ∧ Place.unitsPerOne = 2 ^ e := by
  obtain ⟨e, he⟩ : ∃ e, e = 1074 := ⟨_, rfl⟩
  refine ⟨e, he, ?_⟩
  unfold Place.unitsPerOne
  rw [← he, Nat.pow_eq]

theorem unitsPerOne_pos : 0 < Place.unitsPerOne := by
  obtain ⟨e, -, he⟩ := exists_unitsPerOne_eq
  rw [he]
  exact Nat.two_pow_pos e

theorem ratioShift_le {n : Nat} (hn : n < 2 ^ 63) (d : Nat) : ratioShift n d ≤ 1084 := by
  obtain ⟨e, he, hunit⟩ := exists_unitsPerOne_eq
  have hunits : n * Place.unitsPerOne / d < 2 ^ (63 + e) := by
    refine lt_of_le_of_lt (Nat.div_le_self _ _) ?_
    rw [hunit, pow_add]
    exact Nat.mul_lt_mul_of_pos_right hn (Nat.two_pow_pos e)
  have hlog : Nat.log2 (n * Place.unitsPerOne / d) < 63 + e := by
    by_cases hzero : n * Place.unitsPerOne / d = 0
    · rw [hzero, Nat.log2_zero]
      omega
    · exact (Nat.log2_lt hzero).2 hunits
  rw [ratioShift]
  omega

/-- A shift means that the quotient has all bits of a significand. -/
theorem mul_two_pow_ratioShift_le {n d : Nat} (h : 0 < ratioShift n d) :
    d * 2 ^ ratioShift n d * 2 ^ 52 ≤ n * Place.unitsPerOne := by
  have hlog : ratioShift n d + 52 = Nat.log2 (n * Place.unitsPerOne / d) := by
    rw [ratioShift] at h ⊢
    omega
  have hne : n * Place.unitsPerOne / d ≠ 0 := by
    intro hzero
    rw [hzero] at hlog
    rw [Nat.log2_zero] at hlog
    omega
  calc d * 2 ^ ratioShift n d * 2 ^ 52
      = d * 2 ^ Nat.log2 (n * Place.unitsPerOne / d) := by rw [mul_assoc, ← pow_add, hlog]
    _ ≤ d * (n * Place.unitsPerOne / d) := Nat.mul_le_mul_left d (Nat.log2_self_le hne)
    _ ≤ n * Place.unitsPerOne := Nat.mul_div_le _ _

theorem ofRatio_eq (negative : Bool) (n d : Nat) :
    ofRatio negative n d
      = if roundHalfEven (n * Place.unitsPerOne) (d * 2 ^ ratioShift n d) = 2 ^ 53
        then pack negative (2 ^ 52) (ratioShift n d + 1)
        else pack negative (roundHalfEven (n * Place.unitsPerOne) (d * 2 ^ ratioShift n d))
          (ratioShift n d) := rfl

theorem place_ofRatio {n : Nat} (hn : n < 2 ^ 63) (negative : Bool) (d : Nat) :
    (ofRatio negative n d).place
      = .point (if negative then -(ratioUnits n d : Int) else ratioUnits n d) := by
  have hshift := ratioShift_le hn d
  rw [ofRatio_eq, ratioUnits]
  split
  case isTrue hcarry =>
    have hunits : 2 ^ 52 * 2 ^ (ratioShift n d + 1) = 2 ^ 53 * 2 ^ ratioShift n d := by ring
    rw [pack, if_neg (by rw [maxShift]; omega), place, hcarry, Nat.pow_eq, hunits]
  case isFalse =>
    rw [pack, if_neg (by rw [maxShift]; omega), place, Nat.pow_eq]

/-- A quotient that the nearest double is not equal to is so close to it that the distance is less
than one over the denominator. -/
theorem mul_two_pow_ratioShift_lt {n d : Nat} (hn : n ≤ 2 ^ 53) (hd : d < 2 ^ 63)
    (hdvd : ¬d * 2 ^ ratioShift n d ∣ n * Place.unitsPerOne) :
    d * 2 ^ ratioShift n d < 2 * Place.unitsPerOne := by
  obtain ⟨e, he, hunit⟩ := exists_unitsPerOne_eq
  rcases Nat.eq_zero_or_pos (ratioShift n d) with hzero | hpos
  · have hpow : 2 ^ 63 ≤ 2 ^ e := Nat.pow_le_pow_right (by decide) (by omega)
    rw [hzero, pow_zero, mul_one, hunit]
    omega
  · have hle := mul_two_pow_ratioShift_le hpos
    have hne : d * 2 ^ ratioShift n d * 2 ^ 52 ≠ n * Place.unitsPerOne := by
      intro heq
      exact hdvd ⟨2 ^ 52, heq.symm⟩
    have hmul : n * Place.unitsPerOne ≤ 2 ^ 53 * Place.unitsPerOne := Nat.mul_le_mul_right _ hn
    omega

theorem mul_roundHalfEven_of_dvd {n d w unit : Nat} (hpos : 0 < d * w) (h : d * w ∣ n * unit) :
    d * (roundHalfEven (n * unit) (d * w) * w) = n * unit := by
  obtain ⟨m, hm⟩ := h
  rw [hm, roundHalfEven_mul hpos]
  ring

/-- On a grid that has all whole numbers, and that is finer than the distance of a quotient to the
whole number below it, rounding does not pass a whole number. -/
theorem roundHalfEven_between {n d k w unit : Nat} (hpos : 0 < d * w) (hgrid : w ∣ unit)
    (hgap : d * w < 2 * unit) (hbelow : d * k < n) (habove : n ≤ d * (k + 1)) :
    k * unit < roundHalfEven (n * unit) (d * w) * w ∧
      roundHalfEven (n * unit) (d * w) * w ≤ (k + 1) * unit := by
  obtain ⟨c, rfl⟩ := hgrid
  have hw : 0 < w := Nat.pos_of_mul_pos_left hpos
  have hunit : 0 < w * c := by omega
  have hwhole : ∀ m, d * w * (m * c) = d * m * (w * c) := by
    intro m
    ring
  rw [show k * (w * c) = k * c * w by ring, show (k + 1) * (w * c) = (k + 1) * c * w by ring]
  constructor
  · refine Nat.mul_lt_mul_of_pos_right (lt_roundHalfEven hpos ?_ ?_) hw
    · rw [hwhole]
      exact Nat.mul_lt_mul_of_pos_right hbelow hunit
    · have hone : w * c ≤ (n - d * k) * (w * c) := Nat.le_mul_of_pos_left _ (by omega)
      rw [hwhole, ← Nat.sub_mul]
      omega
  · refine Nat.mul_le_mul_right _ (roundHalfEven_le ?_)
    rw [hwhole]
    exact Nat.mul_le_mul_right _ habove

/-- The nearest double of a quotient lies between the same whole numbers as the quotient. -/
theorem ratioUnits_between {n d k : Nat} (hn : n ≤ 2 ^ 53) (hd : d < 2 ^ 63) (hbelow : d * k < n)
    (habove : n ≤ d * (k + 1)) :
    k * Place.unitsPerOne < ratioUnits n d ∧ ratioUnits n d ≤ (k + 1) * Place.unitsPerOne := by
  have hd0 : 0 < d := by
    rcases Nat.eq_zero_or_pos d with rfl | h
    · omega
    · exact h
  have hpos : 0 < d * 2 ^ ratioShift n d := Nat.mul_pos hd0 (Nat.two_pow_pos _)
  have hunit := unitsPerOne_pos
  -- a quotient on the grid is its own double, and beside the grid the grid is fine enough
  by_cases hdvd : d * 2 ^ ratioShift n d ∣ n * Place.unitsPerOne
  · have hexact := mul_roundHalfEven_of_dvd hpos hdvd
    rw [← ratioUnits] at hexact
    generalize Place.unitsPerOne = unit at hexact hunit ⊢
    constructor
    · refine Nat.lt_of_mul_lt_mul_left (a := d) ?_
      rw [hexact, ← mul_assoc]
      exact Nat.mul_lt_mul_of_pos_right hbelow hunit
    · refine Nat.le_of_mul_le_mul_left ?_ hd0
      rw [hexact, ← mul_assoc]
      exact Nat.mul_le_mul_right _ habove
  · have hgap := mul_two_pow_ratioShift_lt hn hd hdvd
    refine roundHalfEven_between hpos ?_ hgap hbelow habove
    obtain ⟨e, -, heq⟩ := exists_unitsPerOne_eq
    rw [heq] at hgap ⊢
    refine pow_dvd_pow 2 (Nat.le_of_lt_succ ((Nat.pow_lt_pow_iff_right (show 1 < 2 by decide)).1 ?_))
    calc 2 ^ ratioShift n d ≤ d * 2 ^ ratioShift n d := Nat.le_mul_of_pos_left _ hd0
      _ < 2 ^ (e + 1) := by rw [pow_succ]; omega

theorem ratioUnits_zero (d : Nat) : ratioUnits 0 d = 0 := by
  have h : roundHalfEven (0 * Place.unitsPerOne) (d * 2 ^ ratioShift 0 d) ≤ 0 := by
    refine roundHalfEven_le ?_
    rw [Nat.zero_mul]
    exact Nat.zero_le _
  rw [ratioUnits, Nat.le_zero.1 h, Nat.zero_mul]

theorem ceil?_ofRatio {n : Nat} (hn : n < 2 ^ 63) (negative : Bool) (d : Nat) :
    (ofRatio negative n d).ceil?
      = some (-(-(if negative then -(ratioUnits n d : Int) else ratioUnits n d) /
          Place.unitsPerOne)) := by
  rw [ceil?, place_ofRatio hn]

end Binary64

/-! ### Counting pages -/

theorem pageCount_of_ceil? {total size pages : Int}
    (h : (Binary64.ofRatio (decide (total < 0) != decide (size < 0)) total.natAbs
      size.natAbs).ceil? = some pages) : pageCount total size = .ok pages := by
  rw [pageCount, pagesUpTo, h]

theorem exists_pageCount {total : Int} (h : total.natAbs < 2 ^ 63) (size : Int) :
    ∃ pages, pageCount total size = .ok pages :=
  ⟨_, pageCount_of_ceil? (Binary64.ceil?_ofRatio h _ _)⟩

theorem le_neg_ediv_iff {total size p : Int} (hsize : 0 < size) :
    p ≤ -(-total / size) ↔ (p - 1) * size < total := by
  have hneg : p ≤ -(-total / size) ↔ -total / size < -p + 1 := by omega
  rw [hneg, Int.ediv_lt_iff_lt_mul hsize, show (-p + 1) * size = -((p - 1) * size) by ring]
  omega

theorem neg_ediv_eq {total size k : Int} (hsize : 0 < size) (hbelow : k * size < total)
    (habove : total ≤ (k + 1) * size) : -(-total / size) = k + 1 := by
  have hle : k + 1 ≤ -(-total / size) := by
    rw [le_neg_ediv_iff hsize, Int.add_sub_cancel]
    exact hbelow
  have hnot : ¬k + 2 ≤ -(-total / size) := by
    rw [le_neg_ediv_iff hsize, show k + 2 - 1 = k + 1 by ring]
    omega
  omega

/-- The page count is the exact quotient rounded up, although it is taken from a double. -/
theorem pageCount_eq {total size : Int} (htotal : 0 ≤ total) (hbig : total ≤ 2 ^ 53)
    (hsize : 1 ≤ size) (hwide : size < 2 ^ 63) :
    pageCount total size = .ok (-(-total / size)) := by
  obtain ⟨n, rfl⟩ := Int.eq_ofNat_of_zero_le htotal
  obtain ⟨d, rfl⟩ := Int.eq_ofNat_of_zero_le (show 0 ≤ size by omega)
  have hn : n ≤ 2 ^ 53 := by omega
  have hd : d < 2 ^ 63 := by omega
  have hsign : (decide ((n : Int) < 0) != decide ((d : Int) < 0)) = false := by
    rw [decide_eq_false (by omega), decide_eq_false (by omega)]
    rfl
  apply pageCount_of_ceil?
  rw [hsign, Int.natAbs_natCast, Int.natAbs_natCast,
    Binary64.ceil?_ofRatio (by omega), if_neg Bool.false_ne_true]
  have hunit : (0 : Int) < Place.unitsPerOne := by exact_mod_cast Binary64.unitsPerOne_pos
  rcases Nat.eq_zero_or_pos n with rfl | hpos
  · rw [Binary64.ratioUnits_zero, Int.natCast_zero, Int.neg_zero, Int.zero_ediv, Int.zero_ediv]
  · -- the whole numbers around the quotient are those around its nearest double
    obtain ⟨k, hbelow, habove⟩ : ∃ k, d * k < n ∧ n ≤ d * (k + 1) := by
      refine ⟨(n - 1) / d, ?_, ?_⟩
      · have := Nat.mul_div_le (n - 1) d
        omega
      · have := Nat.lt_mul_div_succ (n - 1) (show 0 < d by omega)
        omega
    obtain ⟨hleft, hright⟩ := Binary64.ratioUnits_between hn hd hbelow habove
    rw [neg_ediv_eq (k := k) hunit (by exact_mod_cast hleft) (by exact_mod_cast hright),
      neg_ediv_eq (k := k) (by omega) (by rw [mul_comm]; exact_mod_cast hbelow)
        (by rw [mul_comm]; exact_mod_cast habove)]

end CatalogSearch
