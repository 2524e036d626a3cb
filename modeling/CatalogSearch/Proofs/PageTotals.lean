import CatalogSearch.Proofs.Execution
import CatalogSearch.Proofs.PageCount
import Mathlib.Data.Nat.Dist
import Mathlib.Order.Bounds.Basic

/-!
# The number of pages that is told

How many pages there are comes from a division of doubles. `Nearest` says which double that is
without computing it: no finite double lies closer to the quotient, and of two that lie as close it
is the one with the even significand. The division here gives that double (`ofRatio_nearest`). Up to
2^53 rows the least whole number that is not below it is the least number of pages that hold them
all, and this is the number that a page tells (`runSubmitted_totalPages`).
-/

namespace CatalogSearch

namespace Binary64

/-! ### The nearest double -/

/-- How far so many units are from a quotient, in parts of the denominator. -/
def unitsOff (n d units : Nat) : Nat := Nat.dist (units * d) (n * Place.unitsPerOne)

/-- A significand and a shift are those of the finite double, in standard form, that is nearest to a
quotient. -/
structure Nearest (n d significand shift : Nat) : Prop where
  bits : significand < 2 ^ 53
  standard : 2 ^ 52 ≤ significand ∨ shift = 0
  range : shift ≤ maxShift
  closest : ∀ m p, m < 2 ^ 53 →
    unitsOff n d (significand * 2 ^ shift) ≤ unitsOff n d (m * 2 ^ p)
  ties : ∀ m p, m < 2 ^ 53 →
    unitsOff n d (m * 2 ^ p) = unitsOff n d (significand * 2 ^ shift) →
      m * 2 ^ p = significand * 2 ^ shift ∨ Even significand

theorem roundHalfEven_cases (n d : Nat) :
    2 * (n % d) < d ∧ roundHalfEven n d = n / d ∨
      d < 2 * (n % d) ∧ roundHalfEven n d = n / d + 1 ∨
      2 * (n % d) = d ∧ (roundHalfEven n d = n / d ∨ roundHalfEven n d = n / d + 1) ∧
        roundHalfEven n d % 2 = 0 := by
  rw [roundHalfEven]
  split
  · omega
  · split
    · omega
    · omega

theorem le_roundHalfEven {n d m : Nat} (hd : 0 < d) (h : m * d ≤ n) : m ≤ roundHalfEven n d := by
  have hq : m ≤ n / d := (Nat.le_div_iff_mul_le hd).2 h
  have := roundHalfEven_cases n d
  omega

theorem roundHalfEven_closest {n d : Nat} (hd : 0 < d) (j : Nat) :
    Nat.dist (roundHalfEven n d * d) n ≤ Nat.dist (j * d) n ∧
      (Nat.dist (j * d) n = Nat.dist (roundHalfEven n d * d) n →
        j = roundHalfEven n d ∨ roundHalfEven n d % 2 = 0) := by
  have hcases := roundHalfEven_cases n d
  have hsplit := Nat.div_add_mod n d
  have hrest := Nat.mod_lt n hd
  generalize roundHalfEven n d = rounded at hcases ⊢
  generalize n / d = q at hcases hsplit
  generalize n % d = r at hcases hsplit hrest
  have hnext : (q + 1) * d = d * q + d := by ring
  have hthis : q * d = d * q := Nat.mul_comm q d
  simp only [Nat.dist]
  -- the multiples on either side of the quotient, and those that are further off
  obtain hbelow | rfl | rfl | habove : j < q ∨ j = q ∨ j = q + 1 ∨ q + 1 < j := by omega
  · have hmul : (j + 1) * d ≤ q * d := Nat.mul_le_mul_right d hbelow
    rw [Nat.succ_mul] at hmul
    obtain ⟨h, rfl⟩ | ⟨h, rfl⟩ | ⟨h, rfl | rfl, heven⟩ := hcases <;> omega
  · obtain ⟨h, rfl⟩ | ⟨h, rfl⟩ | ⟨h, rfl | rfl, heven⟩ := hcases <;> omega
  · obtain ⟨h, rfl⟩ | ⟨h, rfl⟩ | ⟨h, rfl | rfl, heven⟩ := hcases <;> omega
  · have hmul : (q + 1 + 1) * d ≤ j * d := Nat.mul_le_mul_right d habove
    rw [Nat.succ_mul] at hmul
    obtain ⟨h, rfl⟩ | ⟨h, rfl⟩ | ⟨h, rfl | rfl, heven⟩ := hcases <;> omega

theorem lt_mul_two_pow_ratioShift {n d : Nat} (hd : 0 < d) :
    n * Place.unitsPerOne < d * 2 ^ ratioShift n d * 2 ^ 53 := by
  have hlog : n * Place.unitsPerOne / d < 2 ^ (ratioShift n d + 53) := by
    refine lt_of_lt_of_le Nat.lt_log2_self (Nat.pow_le_pow_right (by decide) ?_)
    rw [ratioShift]
    omega
  rw [Nat.div_lt_iff_lt_mul hd, pow_add] at hlog
  calc n * Place.unitsPerOne < 2 ^ ratioShift n d * 2 ^ 53 * d := hlog
    _ = d * 2 ^ ratioShift n d * 2 ^ 53 := by ring

/-- A finite double is on the grid of a shift, or below all significands with that shift. -/
theorem on_grid_or_below {m : Nat} (hm : m < 2 ^ 53) (p shift : Nat) :
    (∃ j, m * 2 ^ p = j * 2 ^ shift) ∨ 0 < shift ∧ m * 2 ^ p < 2 ^ 52 * 2 ^ shift := by
  rcases Nat.lt_or_ge p shift with hfine | hcoarse
  · have hpow : 2 ^ (p + 1) ≤ 2 ^ shift := Nat.pow_le_pow_right (by decide) hfine
    refine Or.inr ⟨by omega, ?_⟩
    calc m * 2 ^ p < 2 ^ 53 * 2 ^ p := Nat.mul_lt_mul_of_pos_right hm (Nat.two_pow_pos p)
      _ = 2 ^ 52 * 2 ^ (p + 1) := by ring
      _ ≤ 2 ^ 52 * 2 ^ shift := Nat.mul_le_mul_left _ hpow
  · refine Or.inl ⟨m * 2 ^ (p - shift), ?_⟩
    rw [mul_assoc, ← pow_add, Nat.sub_add_cancel hcoarse]

/-- No finite double is closer to a quotient than its rounding on the grid of its shift, and a tie is
even. -/
theorem ratioUnits_closest {n d m : Nat} (hd : 0 < d) (hm : m < 2 ^ 53) (p : Nat) :
    unitsOff n d (ratioUnits n d) ≤ unitsOff n d (m * 2 ^ p) ∧
      (unitsOff n d (m * 2 ^ p) = unitsOff n d (ratioUnits n d) →
        m * 2 ^ p = ratioUnits n d ∨
          roundHalfEven (n * Place.unitsPerOne) (d * 2 ^ ratioShift n d) % 2 = 0) := by
  have hgrid : 0 < d * 2 ^ ratioShift n d := Nat.mul_pos hd (Nat.two_pow_pos _)
  have hunits : ∀ j, j * 2 ^ ratioShift n d * d = j * (d * 2 ^ ratioShift n d) := by
    intro j
    ring
  have hclosest := roundHalfEven_closest (n := n * Place.unitsPerOne) hgrid
  rw [ratioUnits, unitsOff, unitsOff, hunits]
  obtain ⟨j, hj⟩ | ⟨hshift, hbelow⟩ := on_grid_or_below hm p (ratioShift n d)
  · rw [hj, hunits]
    refine ⟨(hclosest j).1, fun htie => ?_⟩
    obtain heq | heven := (hclosest j).2 htie
    · exact Or.inl (by rw [heq])
    · exact Or.inr heven
  · -- the least significand with the shift lies between this double and the quotient
    have hle := mul_two_pow_ratioShift_le hshift
    have hbetween := (hclosest (2 ^ 52)).1
    have hless : m * 2 ^ p * d < 2 ^ 52 * (d * 2 ^ ratioShift n d) := by
      rw [← hunits]
      exact Nat.mul_lt_mul_of_pos_right hbelow hd
    rw [Nat.mul_comm] at hle
    generalize n * Place.unitsPerOne = total at *
    generalize d * 2 ^ ratioShift n d = w at *
    simp only [Nat.dist] at hbetween ⊢
    omega

/-- A division gives the nearest double. -/
theorem ofRatio_nearest {n d : Nat} (hn : n < 2 ^ 63) (hd : 0 < d) :
    ∃ significand shift, ofRatio false n d = .finite false significand shift ∧
      Nearest n d significand shift := by
  have hshift := ratioShift_le hn d
  have hgrid : 0 < d * 2 ^ ratioShift n d := Nat.mul_pos hd (Nat.two_pow_pos _)
  have htop : roundHalfEven (n * Place.unitsPerOne) (d * 2 ^ ratioShift n d) ≤ 2 ^ 53 :=
    roundHalfEven_le (lt_mul_two_pow_ratioShift hd).le
  have hclosest := fun m p hm => ratioUnits_closest (n := n) (m := m) hd hm p
  rw [ofRatio_eq]
  by_cases hcarry : roundHalfEven (n * Place.unitsPerOne) (d * 2 ^ ratioShift n d) = 2 ^ 53
  · have hunits : ratioUnits n d = 2 ^ 52 * 2 ^ (ratioShift n d + 1) := by
      rw [ratioUnits, hcarry]
      ring
    rw [if_pos hcarry, pack, if_neg (by rw [maxShift]; omega)]
    refine ⟨_, _, rfl, by decide, Or.inl le_rfl, by rw [maxShift]; omega, ?_, ?_⟩
    · intro m p hm
      rw [← hunits]
      exact (hclosest m p hm).1
    · intro m p hm htie
      exact Or.inr (by decide)
  · rw [if_neg hcarry, pack, if_neg (by rw [maxShift]; omega)]
    refine ⟨_, _, rfl, by omega, ?_, by rw [maxShift]; omega, ?_, ?_⟩
    · rcases Nat.eq_zero_or_pos (ratioShift n d) with hzero | hpos
      · exact Or.inr hzero
      · have hle := mul_two_pow_ratioShift_le hpos
        rw [Nat.mul_comm] at hle
        exact Or.inl (le_roundHalfEven hgrid hle)
    · intro m p hm
      exact (hclosest m p hm).1
    · intro m p hm htie
      obtain heq | heven := (hclosest m p hm).2 htie
      · exact Or.inl heq
      · exact Or.inr (Nat.even_iff.2 heven)

end Binary64

/-! ### The least number of pages -/

theorem isLeast_neg_ediv {total size pages : Nat} (hsize : 0 < size)
    (hpages : (pages : Int) = -(-(total : Int) / size)) :
    IsLeast {n : Nat | total ≤ n * size} pages := by
  have hneeded : ∀ p : Int, p ≤ pages ↔ (p - 1) * size < total := by
    intro p
    rw [hpages]
    exact le_neg_ediv_iff (by omega)
  constructor
  · have hlast := (hneeded (pages + 1)).not.1 (by omega)
    rw [Int.add_sub_cancel, not_lt] at hlast
    exact_mod_cast hlast
  · intro n hn
    by_contra hlt
    have hmore := (hneeded (n + 1)).1 (by omega)
    rw [Int.add_sub_cancel] at hmore
    have hless : n * size < total := by exact_mod_cast hmore
    exact absurd hless (not_lt.2 hn)

theorem pageCount_nearest {total size : Nat} (hbig : total ≤ 2 ^ 53) (hsize : 0 < size)
    (hwide : size < 2 ^ 63) :
    ∃ pages : Nat, pageCount total size = .ok pages ∧
      IsLeast {n : Nat | total ≤ n * size} pages ∧
      ∃ significand shift, Binary64.Nearest total size significand shift ∧
        (Binary64.finite false significand shift).ceil? = some (pages : Int) := by
  have hcount : pageCount total size = .ok (-(-(total : Int) / size)) :=
    pageCount_eq (by omega) (by omega) (by omega) (by omega)
  have hnonneg : 0 ≤ -(-(total : Int) / size) := (le_neg_ediv_iff (by omega)).2 (by omega)
  obtain ⟨pages, hpages⟩ := Int.eq_ofNat_of_zero_le hnonneg
  obtain ⟨significand, shift, hratio, hnearest⟩ :=
    Binary64.ofRatio_nearest (n := total) (d := size) (by omega) hsize
  rw [hpages] at hcount
  refine ⟨pages, hcount, isLeast_neg_ediv hsize hpages.symm, significand, shift, hnearest, ?_⟩
  have hsign : (decide ((total : Int) < 0) != decide ((size : Int) < 0)) = false := by
    rw [decide_eq_false (by omega), decide_eq_false (by omega)]
    rfl
  rw [pageCount, hsign, Int.natAbs_natCast, Int.natAbs_natCast, hratio, pagesUpTo] at hcount
  split at hcount
  case h_1 n hceil =>
    cases hcount
    exact hceil
  case h_2 => cases hcount

section

variable {settings : Settings} {data count : Submission} {text : String} {filters : List Value}
  {limit skip : Value} {counting : Query} {size offset : Int}

/-- The number of pages is exact. Whatever is handed in, a page comes back if the store answers,
and the number of pages that it tells is the least that hold all rows, although it is made of the
double that is nearest to the quotient. -/
theorem runSubmitted_totalPages
    (hdata : data.check .data = .ok ⟨text, filters ++ [limit, skip]⟩)
    (hcount : count.check .count = .ok counting) (hlimit : limit.asInteger? = some size)
    (hskip : skip.asInteger? = some offset) {served total : Nat}
    (hserved : settings.servedSize size = served) (hpos : 1 ≤ served) (hwide : served < 2 ^ 63)
    (hbig : total ≤ 2 ^ 53) {s : Session} {counted : List Row} (h0 : s.reply 0 = .rows counted)
    (htotal : countOf counted = .ok total) :
    ((∃ page, ((runSubmitted settings data count).run.run s).1 = .ok page) ↔
        (max 0 offset < total → ∃ rows, s.reply 1 = .rows rows)) ∧
      ∀ page, ((runSubmitted settings data count).run.run s).1 = .ok page →
        page.totalSize = total ∧ page.pageSize = served ∧
          ∃ pages : Nat, page.totalPages = pages ∧ IsLeast {n : Nat | total ≤ n * served} pages ∧
            ∃ significand shift, Binary64.Nearest total served significand shift ∧
              (Binary64.finite false significand shift).ceil? = some (pages : Int) := by
  obtain ⟨pages, hpages, hexact⟩ := pageCount_nearest hbig hpos hwide
  have hne : settings.servedSize size ≠ 0 := by omega
  have hexecutes := runSubmitted_executes hdata hcount hlimit hskip hne
  rw [hserved] at hexecutes
  have hresult := hexecutes.eq_ok_iff h0 htotal hpages
  refine ⟨⟨?_, ?_⟩, ?_⟩
  · intro hpage hmore
    obtain ⟨page, hpage⟩ := hpage
    obtain ⟨rows, hrows, -⟩ := (hresult page).1 hpage
    rw [if_pos hmore] at hrows
    exact ⟨rows, hrows⟩
  · intro hrows
    by_cases hmore : max 0 offset < total
    · obtain ⟨rows, h1⟩ := hrows hmore
      exact ⟨_, (hresult _).2 ⟨rows, by rwa [if_pos hmore], rfl⟩⟩
    · exact ⟨_, (hresult _).2 ⟨[], by rw [if_neg hmore], rfl⟩⟩
  · intro page hpage
    obtain ⟨rows, -, rfl⟩ := (hresult page).1 hpage
    exact ⟨rfl, rfl, pages, rfl, hexact⟩

end

/-- A store counts 2^53 notes, one more than fit on a page. The quotient is above one by less than
the next double is. -/
theorem runSubmitted_totalPages_above_one :
    (Submission.ofQuery ⟨ownedText, [.int 7, .int (2 ^ 53 - 1), .int (-5)]⟩).check .data
        = .ok ⟨ownedText, [.int 7] ++ [.int (2 ^ 53 - 1), .int (-5)]⟩ ∧
      (Submission.ofQuery ownedCount).check .count = .ok ownedCount ∧
      (Value.int (2 ^ 53 - 1)).asInteger? = some (2 ^ 53 - 1) ∧
      (Value.int (-5)).asInteger? = some (-5) ∧
      Settings.servedSize {} (2 ^ 53 - 1) = (2 ^ 53 - 1 : Nat) ∧
      1 ≤ 2 ^ 53 - 1 ∧ 2 ^ 53 - 1 < 2 ^ 63 ∧ 2 ^ 53 ≤ 2 ^ 53 ∧
      (countingStore (2 ^ 53)).reply 0 = .rows [[("total", .int (2 ^ 53))]] ∧
      countOf [[("total", .int (2 ^ 53))]] = .ok (2 ^ 53 : Nat) ∧
      ∃ page, ((runSubmitted {}
          (.ofQuery ⟨ownedText, [.int 7, .int (2 ^ 53 - 1), .int (-5)]⟩)
          (.ofQuery ownedCount)).run.run (countingStore (2 ^ 53))).1 = .ok page ∧
        page.totalPages = 2 := by
  have hdata := check_ownedText (.int (2 ^ 53 - 1)) (.int (-5))
  have hserved : Settings.servedSize {} (2 ^ 53 - 1) = (2 ^ 53 - 1 : Nat) := by decide
  have hpos : 1 ≤ 2 ^ 53 - 1 := by decide
  have hwide : 2 ^ 53 - 1 < 2 ^ 63 := by decide
  have hbig : 2 ^ 53 ≤ 2 ^ 53 := le_rfl
  have h0 : (countingStore (2 ^ 53)).reply 0 = .rows [[("total", .int (2 ^ 53))]] := rfl
  have htotal : countOf [[("total", .int (2 ^ 53))]] = .ok (2 ^ 53 : Nat) := countOf_of_int rfl
  obtain ⟨hanswered, htold⟩ :=
    runSubmitted_totalPages hdata check_ownedCount rfl rfl hserved hpos hwide hbig h0 htotal
  obtain ⟨page, hpage⟩ := hanswered.2 fun _ => ⟨[], rfl⟩
  obtain ⟨-, -, pages, hpages, hleast, -⟩ := htold page hpage
  have htwo : pages ≤ 2 := hleast.2 (show 2 ^ 53 ≤ 2 * (2 ^ 53 - 1) by decide)
  have henough : 2 ^ 53 ≤ pages * (2 ^ 53 - 1) := hleast.1
  obtain rfl : pages = 2 := by omega
  exact ⟨hdata, check_ownedCount, rfl, rfl, hserved, hpos, hwide, hbig, h0, htotal, page, hpage,
    hpages⟩

end CatalogSearch
