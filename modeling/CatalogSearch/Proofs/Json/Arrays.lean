import CatalogSearch.Json.Reader
import CatalogSearch.Json.Writer
import Mathlib.Data.List.Basic

/-!
# Reading back what was written

What the writer makes of integers and of arrays is taken off the front of any text by the reader,
whatever an array may go on with behind it. `ReadsBack` says so of a value. It holds of integers with
no more digits than the reader takes, and of an array if it holds of the items, one level deeper. The
fuel that a text needs is twice its length.
-/

namespace CatalogSearch.Json

/-! ### Numerals -/

theorem asciiDigit?_of_isDigit {c : Char} (h : c.isDigit = true) :
    Text.asciiDigit? c = some (c.toNat - '0'.toNat) := by
  obtain ⟨hlow, hhigh⟩ := Char.isDigit_iff_toNat.1 h
  have hrange : '0' ≤ c ∧ c ≤ '9' := by
    rw [Char.le_def, Char.le_def, UInt32.le_iff_toNat_le, UInt32.le_iff_toNat_le]
    exact ⟨hlow, hhigh⟩
  exact if_pos hrange

theorem digitsValue_eq {ds : List Char} (h : ∀ c ∈ ds, c.isDigit = true) :
    Numeral.digitsValue ds = Nat.ofDigitChars 10 ds 0 := by
  have hvalues : ∀ cs : List Char, (∀ c ∈ cs, c.isDigit = true) →
      cs.filterMap Text.asciiDigit? = cs.map fun c => c.toNat - '0'.toNat := by
    intro cs hcs
    induction cs with
    | nil => rfl
    | cons c cs ih =>
      rw [List.filterMap_cons_some (asciiDigit?_of_isDigit (hcs c List.mem_cons_self)),
        ih fun d hd => hcs d (List.mem_cons_of_mem _ hd), List.map_cons]
  rw [Numeral.digitsValue, hvalues ds h, Text.ofDigits, List.foldl_map]
  rfl

def decimal (n : Nat) : List Char := Nat.toDigits 10 n

theorem isDigit_of_mem_decimal {n : Nat} {c : Char} (h : c ∈ decimal n) : c.isDigit = true :=
  Nat.isDigit_of_mem_toDigits (by decide) (by decide) h

theorem digitsValue_decimal (n : Nat) : Numeral.digitsValue (decimal n) = n := by
  rw [digitsValue_eq fun c hc => isDigit_of_mem_decimal hc]
  exact Nat.ofDigitChars_toDigits (by decide) (by decide)

theorem decimal_inj {m n : Nat} : decimal m = decimal n ↔ m = n := by
  refine ⟨fun h => ?_, congrArg decimal⟩
  rw [← digitsValue_decimal m, h, digitsValue_decimal]

theorem decimal_ne_nil (n : Nat) : decimal n ≠ [] := Nat.toDigits_ne_nil

theorem exists_decimal_eq_cons {n : Nat} (hn : 0 < n) : ∃ c cs, decimal n = c :: cs ∧ c ≠ '0' := by
  induction n using Nat.strongRecOn with
  | ind n ih =>
    rcases Nat.lt_or_ge n 10 with hsmall | hlarge
    · refine ⟨n.digitChar, [], Nat.toDigits_of_lt_base hsmall, ?_⟩
      intro hzero
      have hvalue := congrArg Char.toNat hzero
      rw [Nat.toNat_digitChar_of_lt_ten hsmall, show '0'.toNat = 48 from rfl] at hvalue
      omega
    · obtain ⟨c, cs, hcs, hc⟩ := ih (n / 10) (by omega) (by omega)
      refine ⟨c, cs ++ [(n % 10).digitChar], ?_, hc⟩
      rw [decimal, Nat.toDigits_of_base_le (by decide) hlarge, ← decimal, hcs, List.cons_append]

theorem toList_write_int (i : Int) :
    (write (.int i)).toList = if i < 0 then '-' :: decimal i.natAbs else decimal i.natAbs := by
  rw [write, Int.toString_eq_repr, Int.repr_eq_if]
  split
  case isTrue hpos =>
    rw [if_neg (by omega), Nat.repr_eq_ofList_toDigits, String.toList_ofList, decimal,
      show i.toNat = i.natAbs by omega]
  case isFalse hneg =>
    rw [if_pos (by omega), String.toList_append, Nat.repr_eq_ofList_toDigits,
      show (-i).toNat = i.natAbs by omega, show "-".toList = ['-'] from rfl, String.toList_ofList]
    rfl

def points (cs : List Char) : List CodePoint := cs.map .char

/-- What may stand behind an item of an array or the value of a field. -/
inductive Follows : List CodePoint → Prop where
  | nothing : Follows []
  | comma (rest : List CodePoint) : Follows (.char ',' :: rest)
  | bracket (rest : List CodePoint) : Follows (.char ']' :: rest)
  | brace (rest : List CodePoint) : Follows (.char '\x7d' :: rest)

section

variable {rest : List CodePoint} (h : Follows rest)

include h

theorem Follows.skipSpaces_eq : skipSpaces rest = rest := by cases h <;> rfl

theorem Follows.digits_eq : digits rest = ([], rest) := by cases h <;> rfl

theorem Follows.fraction_eq : fraction rest = ([], rest) := by cases h <;> rfl

theorem Follows.exponent_eq : exponent rest = ([], rest) := by cases h <;> rfl

end

theorem digits_points {ds : List Char} (hds : ∀ c ∈ ds, c.isDigit = true) {rest : List CodePoint}
    (hrest : Follows rest) : digits (points ds ++ rest) = (ds, rest) := by
  induction ds with
  | nil => exact hrest.digits_eq
  | cons c ds ih =>
    have hc := asciiDigit?_of_isDigit (hds c List.mem_cons_self)
    have hmore := ih fun d hd => hds d (List.mem_cons_of_mem _ hd)
    rw [points, List.map_cons, List.cons_append, ← points, digits, hc, hmore]
    rfl

theorem wholePart_decimal (n : Nat) {rest : List CodePoint} (hrest : Follows rest) :
    wholePart (points (decimal n) ++ rest) = (decimal n, rest) := by
  have hdigits := digits_points (fun c hc => isDigit_of_mem_decimal (n := n) hc) hrest
  rcases Nat.eq_zero_or_pos n with hzero | hpos
  · rw [hzero]
    rfl
  · obtain ⟨c, cs, hcs, hc⟩ := exists_decimal_eq_cons hpos
    rw [hcs] at hdigits ⊢
    rw [← hdigits, points, List.map_cons, List.cons_append, wholePart]
    intro ps hps
    exact hc (CodePoint.char.inj (List.cons.inj hps).1)

theorem isDigit_minus : ('-').isDigit = false := by decide

theorem decimal_ne_minus (n : Nat) {rest ps : List CodePoint} :
    points (decimal n) ++ rest ≠ .char '-' :: ps := by
  intro h
  obtain ⟨c, cs, hcs⟩ := List.exists_cons_of_ne_nil (decimal_ne_nil n)
  have hdigit : c.isDigit = true := isDigit_of_mem_decimal (n := n) (by rw [hcs]; simp)
  rw [hcs, points, List.map_cons, List.cons_append] at h
  rw [CodePoint.char.inj (List.cons.inj h).1, isDigit_minus] at hdigit
  cases hdigit

theorem number_write_int (i : Int) {rest : List CodePoint} (hrest : Follows rest) :
    number (points (write (.int i)).toList ++ rest)
      = .ok (⟨decide (i < 0), decimal i.natAbs, [], []⟩, rest) := by
  have hwhole := wholePart_decimal i.natAbs hrest
  have hne : (decimal i.natAbs).isEmpty = false :=
    List.isEmpty_eq_false_iff.2 (decimal_ne_nil i.natAbs)
  rw [toList_write_int]
  by_cases hneg : i < 0
  · rw [if_pos hneg, points, List.map_cons, List.cons_append, ← points, number]
    simp only [hwhole, hne, Bool.false_eq_true, if_false, hrest.fraction_eq, hrest.exponent_eq, hneg,
      decide_true]
  · rw [if_neg hneg, number]
    · simp only [hwhole, hne, Bool.false_eq_true, if_false, hrest.fraction_eq, hrest.exponent_eq,
        hneg, decide_false]
    · intro ps hps
      exact decimal_ne_minus _ hps

theorem words_unlike_numerals :
    words.all (fun w => match w.1.points with
      | .char c :: .char d :: _ => !c.isDigit && !(c == '-' && d.isDigit)
      | _ => false) = true := by decide

theorem word?_eq_none {ps : List CodePoint}
    (h : ∀ c d : Char, c.isDigit = false → (c = '-' → d.isDigit = false) →
      ¬[CodePoint.char c, .char d] <+: ps) : word? ps = none := by
  rw [word?, List.findSome?_eq_none_iff]
  intro w hw
  have hunlike := List.all_eq_true.1 words_unlike_numerals w hw
  obtain ⟨⟨points⟩, v⟩ := w
  dsimp only at hunlike ⊢
  split at hunlike
  case h_1 c d more =>
    rw [if_neg]
    intro hprefix
    rw [List.isPrefixOf_iff_prefix] at hprefix
    simp only [Bool.and_eq_true, Bool.not_eq_true', Bool.and_eq_false_iff, beq_eq_false_iff_ne]
      at hunlike
    refine h c d hunlike.1 ?_ (List.IsPrefix.trans ⟨more, rfl⟩ hprefix)
    intro hminus
    exact hunlike.2.resolve_left fun hne => hne hminus
  case h_2 => cases hunlike

theorem exists_write_int_eq (i : Int) :
    ∃ c cs, c.isDigit = true ∧
      ((write (.int i)).toList = c :: cs ∨ (write (.int i)).toList = '-' :: c :: cs) := by
  obtain ⟨c, cs, hdecimal⟩ := List.exists_cons_of_ne_nil (decimal_ne_nil i.natAbs)
  have hdigit : c.isDigit = true := by
    apply isDigit_of_mem_decimal (n := i.natAbs)
    rw [hdecimal]
    exact List.mem_cons_self
  refine ⟨c, cs, hdigit, ?_⟩
  rw [toList_write_int, hdecimal]
  split
  · exact .inr rfl
  · exact .inl rfl

theorem word?_write_int (i : Int) (rest : List CodePoint) :
    word? (points (write (.int i)).toList ++ rest) = none := by
  obtain ⟨c, cs, hdigit, htext⟩ := exists_write_int_eq i
  apply word?_eq_none
  intro c' d' hc' hd' hprefix
  obtain htext | htext := htext
  · rw [htext, points, List.map_cons, List.cons_append, List.cons_prefix_cons] at hprefix
    rw [CodePoint.char.inj hprefix.1, hdigit] at hc'
    cases hc'
  · rw [htext, points, List.map_cons, List.map_cons, List.cons_append, List.cons_append,
      List.cons_prefix_cons, List.cons_prefix_cons] at hprefix
    rw [CodePoint.char.inj hprefix.2.1, hdigit] at hd'
    cases hd' (CodePoint.char.inj hprefix.1)

/-! ### Values -/

theorem value_eq_number {numeral : Numeral → Except ReadError Value} {c : Char}
    {ps : List CodePoint} (hquote : c ≠ '\x22') (hbracket : c ≠ '[') (hbrace : c ≠ '\x7b')
    (hword : word? (.char c :: ps) = none) (fuel depth : Nat) :
    value numeral (fuel + 1) depth (.char c :: ps) = do
      let (n, rest) ← number (.char c :: ps)
      return (← numeral n, rest) := by
  cases depth <;>
    rw [value, if_neg (by simpa using hquote), if_neg (by simpa using hbracket),
      if_neg (by simpa using hbrace), hword]

/-- Whether a value can begin with a character: it is neither skipped nor the end of an array. -/
def startsValue (c : Char) : Bool := !isSpace (.char c) && c != ']' && c != '\ufeff'

theorem skipSpaces_of_startsValue {c : Char} (h : startsValue c = true) (ps : List CodePoint) :
    skipSpaces (.char c :: ps) = .char c :: ps := by
  simp only [startsValue, Bool.and_eq_true, Bool.not_eq_true'] at h
  exact List.dropWhile_cons_of_neg (by simp [h.1.1])

/-- The reader takes the text of a value off the front, if the arrays in it may nest so deep. -/
structure ReadsBack (levels : Nat) (v : Value) : Prop where
  starts : ∃ c cs, (write v).toList = c :: cs ∧ startsValue c = true
  value_eq : ∀ fuel depth rest, 2 * (write v).toList.length ≤ fuel → levels ≤ depth →
    Follows rest →
      value Numeral.toValue fuel depth (points (write v).toList ++ rest) = .ok (v, rest)

/-- The reader takes an integer of so many digits. -/
def IsReadable (i : Int) : Prop := Binary64.decimalLength i.natAbs ≤ Text.digitLimit

instance (i : Int) : Decidable (IsReadable i) := inferInstanceAs (Decidable (_ ≤ _))

theorem signed_natAbs (i : Int) : Text.signed (decide (i < 0)) i.natAbs = i := by
  rw [Text.signed]
  split
  case isTrue h =>
    have hneg : i < 0 := of_decide_eq_true h
    omega
  case isFalse h =>
    have hnonneg : ¬i < 0 := of_decide_eq_false (Bool.eq_false_iff.2 h)
    omega

theorem toValue_decimal {i : Int} (h : IsReadable i) :
    Numeral.toValue ⟨decide (i < 0), decimal i.natAbs, [], []⟩ = .ok (.int i) := by
  have hlength : ¬(decimal i.natAbs).length > Text.digitLimit := by
    have hle : (decimal i.natAbs).length ≤ Text.digitLimit := h
    omega
  rw [Numeral.toValue, if_pos (by rfl), if_neg hlength, digitsValue_decimal, signed_natAbs]

theorem readsBack_int {i : Int} (h : IsReadable i) : ReadsBack 0 (.int i) := by
  obtain ⟨c, cs, hdigit, htext⟩ := exists_write_int_eq i
  have hstart : ∃ d ds, (write (.int i)).toList = d :: ds ∧ (d.isDigit = true ∨ d = '-') := by
    obtain htext | htext := htext
    · exact ⟨c, cs, htext, .inl hdigit⟩
    · exact ⟨'-', c :: cs, htext, .inr rfl⟩
  obtain ⟨d, ds, hds, hd⟩ := hstart
  have hne : ∀ other : Char, other.isDigit = false → other ≠ '-' → d ≠ other := by
    intro other hother hminus heq
    obtain hd | hd := hd
    · rw [heq, hother] at hd
      cases hd
    · exact hminus (heq.symm.trans hd)
  constructor
  · refine ⟨d, ds, hds, ?_⟩
    have hmark : d ≠ '\ufeff' := hne '\ufeff' (by decide) (by decide)
    have hbracket : d ≠ ']' := hne ']' (by decide) (by decide)
    have hblank : d ≠ ' ' := hne ' ' (by decide) (by decide)
    have htab : d ≠ '\t' := hne '\t' (by decide) (by decide)
    have hline : d ≠ '\n' := hne '\n' (by decide) (by decide)
    have hreturn : d ≠ '\r' := hne '\r' (by decide) (by decide)
    simp [startsValue, isSpace, hmark, hbracket, hblank, htab, hline, hreturn]
  · intro fuel depth rest hfuel _ hrest
    have hnumber := number_write_int i hrest
    have hword := word?_write_int i rest
    rw [hds] at hnumber hword hfuel ⊢
    obtain ⟨fuel, rfl⟩ : ∃ n, fuel = n + 1 := ⟨fuel - 1, by simp at hfuel; omega⟩
    rw [points, List.map_cons, List.cons_append] at hnumber hword ⊢
    rw [value_eq_number (hne _ (by decide) (by decide)) (hne _ (by decide) (by decide))
      (hne _ (by decide) (by decide)) hword, hnumber]
    simp only [bind, Except.bind, toValue_decimal h]
    rfl

theorem starts_writeItems {levels : Nat} {vs : List Value} (hne : vs ≠ [])
    (hvs : ∀ v ∈ vs, ReadsBack levels v) :
    ∃ c cs, (writeItems vs).toList = c :: cs ∧ startsValue c = true := by
  cases vs with
  | nil => exact absurd rfl hne
  | cons v vs =>
    obtain ⟨c, cs, hcs, hc⟩ := (hvs v List.mem_cons_self).starts
    cases vs with
    | nil => exact ⟨c, cs, hcs, hc⟩
    | cons w vs =>
      refine ⟨c, cs ++ (",".toList ++ (writeItems (w :: vs)).toList), ?_, hc⟩
      rw [writeItems, String.toList_append, String.toList_append, hcs, List.append_assoc,
        List.cons_append]

theorem items_writeItems {levels : Nat} {vs : List Value} (hne : vs ≠ [])
    (hvs : ∀ v ∈ vs, ReadsBack levels v) {fuel depth : Nat}
    (hfuel : 2 * (writeItems vs).toList.length + 1 ≤ fuel) (hdepth : levels ≤ depth)
    (rest : List CodePoint) :
    items Numeral.toValue fuel depth (points (writeItems vs).toList ++ .char ']' :: rest)
      = .ok (vs, rest) := by
  -- on the items: what is left behind an item begins with the comma or the bracket after it, and
  -- each item uses up its own length of the fuel
  induction vs generalizing fuel with
  | nil => exact absurd rfl hne
  | cons v vs ih =>
    obtain ⟨fuel, rfl⟩ : ∃ n, fuel = n + 1 := ⟨fuel - 1, by omega⟩
    have hv := hvs v List.mem_cons_self
    cases vs with
    | nil =>
      rw [writeItems] at hfuel ⊢
      rw [items, hv.value_eq fuel depth _ (by omega) hdepth (.bracket rest)]
      rfl
    | cons w vs =>
      have htext : (writeItems (v :: w :: vs)).toList
          = (write v).toList ++ ',' :: (writeItems (w :: vs)).toList := by
        rw [writeItems, String.toList_append, String.toList_append, List.append_assoc]
        rfl
      rw [htext, List.length_append, List.length_cons] at hfuel
      have hsplit : points (writeItems (v :: w :: vs)).toList ++ .char ']' :: rest
          = points (write v).toList ++ .char ',' ::
              (points (writeItems (w :: vs)).toList ++ .char ']' :: rest) := by
        rw [htext, points, List.map_append, List.map_cons, List.append_assoc]
        rfl
      have hstart : skipSpaces (points (writeItems (w :: vs)).toList ++ .char ']' :: rest)
          = points (writeItems (w :: vs)).toList ++ .char ']' :: rest := by
        obtain ⟨c, cs, hcs, hc⟩ := starts_writeItems (List.cons_ne_nil w vs)
          fun u hu => hvs u (List.mem_cons_of_mem v hu)
        rw [hcs]
        exact skipSpaces_of_startsValue hc _
      have hmore : items Numeral.toValue fuel depth
          (points (writeItems (w :: vs)).toList ++ .char ']' :: rest) = .ok (w :: vs, rest) :=
        ih (List.cons_ne_nil w vs) (fun u hu => hvs u (List.mem_cons_of_mem v hu)) (by omega)
      rw [items, hsplit, hv.value_eq fuel depth _ (by omega) hdepth (.comma _)]
      simp only [bind, Except.bind, (Follows.comma _).skipSpaces_eq, hstart, hmore]
      rfl

theorem toList_write_list (vs : List Value) :
    (write (.list vs)).toList = '[' :: ((writeItems vs).toList ++ [']']) := by
  rw [write, String.toList_append, String.toList_append, List.append_assoc]
  rfl

/-- An array is taken off the front if its items are, with one level more. -/
theorem readsBack_list {levels : Nat} {vs : List Value} (hvs : ∀ v ∈ vs, ReadsBack levels v) :
    ReadsBack (levels + 1) (.list vs) := by
  constructor
  · exact ⟨'[', _, toList_write_list vs, by decide⟩
  · intro fuel depth rest hfuel hdepth _
    rw [toList_write_list] at hfuel ⊢
    rw [List.length_cons, List.length_append, List.length_singleton] at hfuel
    obtain ⟨fuel, rfl⟩ : ∃ n, fuel = n + 1 := ⟨fuel - 1, by omega⟩
    obtain ⟨depth, rfl⟩ : ∃ n, depth = n + 1 := ⟨depth - 1, by omega⟩
    have htext : points ('[' :: ((writeItems vs).toList ++ [']'])) ++ rest
        = .char '[' :: (points (writeItems vs).toList ++ .char ']' :: rest) := by
      rw [points, List.map_cons, List.map_append, List.cons_append, List.append_assoc]
      rfl
    rw [htext, value, if_neg (by decide), if_pos (by decide)]
    by_cases hne : vs = []
    · rw [hne]
      rfl
    · obtain ⟨c, cs, hcs, hc⟩ := starts_writeItems hne hvs
      have hitems : items Numeral.toValue fuel depth
          (points (writeItems vs).toList ++ .char ']' :: rest) = .ok (vs, rest) :=
        items_writeItems hne hvs (by omega) (by omega) rest
      rw [hcs, points, List.map_cons, List.cons_append, ← points] at hitems ⊢
      rw [skipSpaces_of_startsValue hc]
      split
      case h_1 more hclosed =>
        -- no item begins with the bracket that closes an array
        rw [CodePoint.char.inj (List.cons.inj hclosed).1] at hc
        cases hc
      case h_2 =>
        rw [hitems]
        rfl

/-- What was written is read back, if its arrays nest no deeper than the reader goes. -/
theorem ReadsBack.read_write {levels : Nat} {v : Value} (h : ReadsBack levels v)
    (hlevels : levels ≤ depthLimit) : read (Text.ofString (write v)) = .ok v := by
  obtain ⟨c, cs, hcs, hc⟩ := h.starts
  have hvalue := h.value_eq (2 * (write v).toList.length + 2) depthLimit [] (by omega) hlevels
    .nothing
  have hmark : c ≠ '\ufeff' := by
    intro hmark
    rw [hmark] at hc
    cases hc
  have hpoints : (Text.ofString (write v)).points = points (write v).toList := rfl
  have hlength : (points (write v).toList).length = (write v).toList.length := List.length_map _
  rw [List.append_nil, ← hlength] at hvalue
  rw [read, readWith, hpoints]
  rw [hcs, points, List.map_cons, ← points] at hvalue ⊢
  rw [if_neg (by simpa using hmark), skipSpaces_of_startsValue hc, hvalue]
  rfl

end CatalogSearch.Json
