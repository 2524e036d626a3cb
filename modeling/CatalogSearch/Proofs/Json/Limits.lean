import CatalogSearch.Json.Reader

/-!
# The limits of the reader

The reader gives up at arrays and objects that nest too deep and at integers with too many digits.
Neither limit belongs to JSON. `Within` compares a reader with another one that has wider limits: it
comes to the same, unless it gives up at a limit. The induction is on the fuel, for values, items and
fields together. `Writes` is what a text writes when nothing limits the reader.
-/

namespace CatalogSearch.Json

/-- The reader gave up at a limit of its own. -/
def ReadError.IsLimit : ReadError → Prop
  | malformed .. => False
  | tooManyDigits _ => True
  | tooDeep _ => True

/-- The first comes to what the second comes to, or gives up at a limit. -/
def Within {α : Type} (x y : Except ReadError α) : Prop := x = y ∨ ∃ e, x = .error e ∧ e.IsLimit

namespace Within

variable {α β : Type} {x y z : Except ReadError α}

theorem refl (x : Except ReadError α) : Within x x := .inl rfl

theorem trans (hxy : Within x y) (hyz : Within y z) : Within x z := by
  obtain hxy | hlimit := hxy
  · rw [hxy]
    exact hyz
  · exact .inr hlimit

theorem bind {f g : α → Except ReadError β} (h : Within x y) (hfg : ∀ a, Within (f a) (g a)) :
    Within (x >>= f) (y >>= g) := by
  obtain h | ⟨e, hx, he⟩ := h
  · rw [h]
    cases y with
    | error e => exact .refl _
    | ok a => exact hfg a
  · rw [hx]
    exact .inr ⟨e, rfl, he⟩

theorem fromFront (h : Within x y) (length : Nat) :
    Within (x.mapError (ReadError.fromFront length)) (y.mapError (ReadError.fromFront length)) := by
  obtain h | ⟨e, hx, he⟩ := h
  · exact .inl (congrArg _ h)
  · rw [hx]
    cases e with
    | malformed => cases he
    | tooManyDigits count => exact .inr ⟨_, rfl, he⟩
    | tooDeep inObject => exact .inr ⟨_, rfl, he⟩

theorem eq_ok {a : α} (h : Within x y) (hx : x = .ok a) : y = .ok a := by
  obtain h | ⟨e, he, -⟩ := h
  · rw [← h, hx]
  · cases hx.symm.trans he

end Within

theorem value_cons (numeral : Numeral → Except ReadError Value) (fuel depth : Nat) (p : CodePoint)
    (ps : List CodePoint) :
    value numeral (fuel + 1) depth (p :: ps) =
      if p == .char '\x22' then do
        let (t, rest) ← textToken (p :: ps)
        return (.text t, rest)
      else if p == .char '[' then
        match depth with
        | 0 => .error (.tooDeep false)
        | depth + 1 =>
          match skipSpaces ps with
          | .char ']' :: rest => .ok (.list [], rest)
          | inside => do
            let (vs, rest) ← items numeral fuel depth inside
            return (.list vs, rest)
      else if p == .char '\x7b' then
        match depth with
        | 0 => .error (.tooDeep true)
        | depth + 1 =>
          match skipSpaces ps with
          | .char '\x7d' :: rest => .ok (.object [], rest)
          | inside => do
            let (fs, rest) ← fields numeral fuel depth [] inside
            return (.object fs, rest)
      else
        match word? (p :: ps) with
        | some found => .ok found
        | none => do
          let (n, rest) ← number (p :: ps)
          return (← numeral n, rest) := by
  cases depth with
  | zero => exact value.eq_3 numeral fuel p ps
  | succ depth => exact value.eq_4 numeral fuel p ps depth

/-- With so much fuel, a reader stays within one with wider limits. -/
structure Narrower (numeral wider : Numeral → Except ReadError Value) (fuel : Nat) : Prop where
  value : ∀ depth depth' ps, depth ≤ depth' →
    Within (value numeral fuel depth ps) (value wider fuel depth' ps)
  items : ∀ depth depth' ps, depth ≤ depth' →
    Within (items numeral fuel depth ps) (items wider fuel depth' ps)
  fields : ∀ depth depth' read ps, depth ≤ depth' →
    Within (fields numeral fuel depth read ps) (fields wider fuel depth' read ps)

section

variable {numeral wider : Numeral → Except ReadError Value} {fuel depth depth' : Nat}

theorem narrower_zero : Narrower numeral wider 0 where
  value := by
    intro depth depth' ps _
    rw [value, value]
    exact .refl _
  items := by
    intro depth depth' ps _
    rw [items, items]
    exact .refl _
  fields := by
    intro depth depth' read ps _
    rw [fields, fields]
    exact .refl _

theorem Narrower.value_succ (hnumeral : ∀ n, Within (numeral n) (wider n))
    (h : Narrower numeral wider fuel) (hle : depth ≤ depth') (ps : List CodePoint) :
    Within (Json.value numeral (fuel + 1) depth ps) (Json.value wider (fuel + 1) depth' ps) := by
  cases ps with
  | nil =>
    rw [Json.value, Json.value]
    exact .refl _
  | cons p ps =>
    rw [value_cons, value_cons]
    split
    case isTrue => exact .refl _
    case isFalse =>
      split
      case isTrue =>
        cases depth with
        | zero => exact .inr ⟨_, rfl, trivial⟩
        | succ depth =>
          obtain ⟨depth', rfl⟩ : ∃ n, depth' = n + 1 := ⟨depth' - 1, by omega⟩
          dsimp only
          split
          · exact .refl _
          · exact .bind (h.items depth depth' _ (by omega)) fun _ => .refl _
      case isFalse =>
        split
        case isTrue =>
          cases depth with
          | zero => exact .inr ⟨_, rfl, trivial⟩
          | succ depth =>
            obtain ⟨depth', rfl⟩ : ∃ n, depth' = n + 1 := ⟨depth' - 1, by omega⟩
            dsimp only
            split
            · exact .refl _
            · exact .bind (h.fields depth depth' _ _ (by omega)) fun _ => .refl _
        case isFalse =>
          split
          · exact .refl _
          · exact .bind (.refl _) fun n => .bind (hnumeral n.1) fun _ => .refl _

theorem Narrower.items_succ (h : Narrower numeral wider fuel) (hle : depth ≤ depth')
    (ps : List CodePoint) :
    Within (Json.items numeral (fuel + 1) depth ps) (Json.items wider (fuel + 1) depth' ps) := by
  rw [Json.items, Json.items]
  apply Within.bind (h.value depth depth' ps hle)
  intro found
  obtain ⟨v, rest⟩ := found
  dsimp only
  split
  · exact .refl _
  · exact .bind (h.items depth depth' _ hle) fun _ => .refl _
  · exact .refl _

theorem Narrower.fields_succ (h : Narrower numeral wider fuel) (hle : depth ≤ depth') (read : Row)
    (ps : List CodePoint) :
    Within (Json.fields numeral (fuel + 1) depth read ps)
      (Json.fields wider (fuel + 1) depth' read ps) := by
  rw [Json.fields, Json.fields]
  split
  case isTrue => exact .refl _
  case isFalse =>
    apply Within.bind (.refl _)
    intro found
    obtain ⟨name, rest⟩ := found
    dsimp only
    split
    · apply Within.bind (h.value depth depth' _ hle)
      intro found
      obtain ⟨v, rest⟩ := found
      dsimp only
      split
      · exact .refl _
      · exact h.fields depth depth' _ _ hle
      · exact .refl _
    · exact .refl _

variable (hnumeral : ∀ n, Within (numeral n) (wider n))

include hnumeral

theorem narrower (fuel : Nat) : Narrower numeral wider fuel := by
  -- the depths may differ at every level, so all three are for any two of them
  induction fuel with
  | zero => exact narrower_zero
  | succ fuel ih =>
    exact ⟨fun _ _ ps hle => ih.value_succ hnumeral hle ps, fun _ _ ps hle => ih.items_succ hle ps,
      fun _ _ read ps hle => ih.fields_succ hle read ps⟩

/-- A reader comes to the same as one with wider limits, unless it gives up at a limit. -/
theorem readWith_within (hle : depth ≤ depth') (t : Text) :
    Within (readWith numeral depth t) (readWith wider depth' t) := by
  rw [readWith, readWith]
  split
  · exact .refl _
  · apply Within.fromFront
    exact .bind ((narrower hnumeral _).value depth depth' _ hle) fun _ => .refl _

end

/-! ### Without limits -/

def Numeral.exact (n : Numeral) : Except ReadError Value :=
  if n.isWhole then .ok (.int (Text.signed n.negative (digitsValue n.whole))) else n.toValue

theorem Numeral.toValue_within (n : Numeral) : Within n.toValue n.exact := by
  rw [exact]
  split
  case isTrue hwhole =>
    rw [toValue, if_pos hwhole]
    split
    · exact .inr ⟨_, rfl, trivial⟩
    · exact .refl _
  case isFalse => exact .refl _

/-- A text writes a value: that is what a reader finds in it that goes deep enough and takes all
digits. -/
def Writes (t : Text) (v : Value) : Prop := ∃ depth, readWith Numeral.exact depth t = .ok v

theorem exact_within {depth depth' : Nat} (hle : depth ≤ depth') (t : Text) :
    Within (readWith Numeral.exact depth t) (readWith Numeral.exact depth' t) :=
  readWith_within (fun _ => .refl _) hle t

theorem Writes.unique {t : Text} {v w : Value} (hv : Writes t v) (hw : Writes t w) : v = w := by
  obtain ⟨depth, hv⟩ := hv
  obtain ⟨depth', hw⟩ := hw
  have hv' := (exact_within (Nat.le_max_left depth depth') t).eq_ok hv
  have hw' := (exact_within (Nat.le_max_right depth depth') t).eq_ok hw
  exact Except.ok.inj (hv'.symm.trans hw')

theorem writes_of_read {t : Text} {v : Value} (h : read t = .ok v) : Writes t v :=
  ⟨depthLimit, (readWith_within Numeral.toValue_within (Nat.le_refl depthLimit) t).eq_ok h⟩

theorem Writes.read_within {t : Text} {v : Value} (h : Writes t v) : Within (read t) (.ok v) := by
  obtain ⟨depth, h⟩ := h
  have hdeep := (exact_within (Nat.le_max_left depth depthLimit) t).eq_ok h
  rw [← hdeep]
  exact readWith_within Numeral.toValue_within (Nat.le_max_right depth depthLimit) t

end CatalogSearch.Json
