import CatalogSearch.Proofs.Json.Arrays
import CatalogSearch.Proofs.Registry
import CatalogSearch.Proofs.Sql.Like

/-!
# Searching for stored paths

A stored path is looked for by its text alone, with the `LIKE` and the `=` of SQLite. The text of a
path is a list of numerals with commas between them, and a comma or a bracket ends every numeral, so
the text determines the path (`encode_inj`). The pattern for what lies under a path stops behind a
comma: that is why `[4,%` finds `[4,51]` and not `[45,1]`, and also why it does not find `[4]`,
which the comparison beside it has to find. Together they find exactly the paths that the path is a
prefix of.
-/

namespace CatalogSearch

/-! ### The text of a path -/

def numeral (i : Int) : List Char := (toString i).toList

/-- Digits and the minus: what a numeral is made of. -/
def isNumeralChar (c : Char) : Bool := c.isDigit || c == '-'

theorem numeral_eq (i : Int) :
    numeral i = if i < 0 then '-' :: Json.decimal i.natAbs else Json.decimal i.natAbs :=
  Json.toList_write_int i

theorem isNumeralChar_of_mem {i : Int} {c : Char} (h : c ∈ numeral i) : isNumeralChar c = true := by
  have hdigit : c ∈ Json.decimal i.natAbs → isNumeralChar c = true := by
    intro hc
    rw [isNumeralChar, Json.isDigit_of_mem_decimal hc]
    rfl
  rw [numeral_eq] at h
  split at h
  case isTrue =>
    obtain rfl | hc := List.mem_cons.1 h
    · rfl
    · exact hdigit hc
  case isFalse => exact hdigit h

theorem isLiteral_of_isNumeralChar {c : Char} (h : isNumeralChar c = true) :
    Sql.isLiteral c = true := by
  rw [isNumeralChar, Bool.or_eq_true, beq_iff_eq] at h
  rcases h with hdigit | rfl
  · have hle : c.toNat ≤ 57 := (Char.isDigit_iff_toNat.1 hdigit).2
    have halpha : c.isAlpha = false := by
      rw [Bool.eq_false_iff, ne_eq, Sql.isAlpha_iff]
      omega
    have hpercent : c ≠ '%' := fun h => absurd hdigit (by rw [h]; decide)
    have hunderscore : c ≠ '_' := fun h => absurd hdigit (by rw [h]; decide)
    simp [Sql.isLiteral, halpha, hpercent, hunderscore]
  · decide

theorem numeral_ne_nil (i : Int) : numeral i ≠ [] := by
  rw [numeral_eq]
  split
  case isTrue => exact List.cons_ne_nil _ _
  case isFalse => exact Json.decimal_ne_nil _

theorem numeral_inj {i j : Int} : numeral i = numeral j ↔ i = j := by
  refine ⟨?_, congrArg numeral⟩
  intro h
  have hminus : ∀ n, '-' ∉ Json.decimal n := fun n hmem =>
    absurd (Json.isDigit_of_mem_decimal hmem) (by decide)
  rw [numeral_eq, numeral_eq] at h
  -- the sign is told by the minus, the size by the digits
  by_cases hi : i < 0
  · by_cases hj : j < 0
    · rw [if_pos hi, if_pos hj, List.cons_inj_right, Json.decimal_inj] at h
      omega
    · rw [if_pos hi, if_neg hj] at h
      exact absurd (h ▸ List.mem_cons_self) (hminus j.natAbs)
  · by_cases hj : j < 0
    · rw [if_neg hi, if_pos hj] at h
      exact absurd (h ▸ List.mem_cons_self) (hminus i.natAbs)
    · rw [if_neg hi, if_neg hj, Json.decimal_inj] at h
      omega

/-- A numeral ends where something else begins, so it can be told from what stands behind it. -/
theorem numeral_append_inj {i j : Int} {c d : Char} {cs ds : List Char}
    (hc : isNumeralChar c = false) (hd : isNumeralChar d = false) :
    numeral i ++ c :: cs = numeral j ++ d :: ds ↔ i = j ∧ c :: cs = d :: ds := by
  have htake : ∀ (k : Int) (x : Char) (xs : List Char), isNumeralChar x = false →
      (numeral k ++ x :: xs).takeWhile isNumeralChar = numeral k := by
    intro k x xs hx
    rw [List.takeWhile_append_of_pos fun y hy => isNumeralChar_of_mem hy,
      List.takeWhile_cons_of_neg (by simp [hx]), List.append_nil]
  constructor
  · intro h
    have hnumerals := congrArg (List.takeWhile isNumeralChar) h
    rw [htake i c cs hc, htake j d ds hd, numeral_inj] at hnumerals
    subst hnumerals
    exact ⟨rfl, List.append_cancel_left h⟩
  · rintro ⟨rfl, h⟩
    rw [h]

theorem numeral_append_prefix_iff {i j : Int} {c d : Char} {cs ds : List Char}
    (hc : isNumeralChar c = false) (hd : isNumeralChar d = false) :
    numeral i ++ c :: cs <+: numeral j ++ d :: ds ↔ i = j ∧ c :: cs <+: d :: ds := by
  constructor
  · rintro ⟨more, h⟩
    rw [List.append_assoc, List.cons_append, numeral_append_inj hc hd] at h
    exact ⟨h.1, more, h.2⟩
  · rintro ⟨rfl, h⟩
    exact (List.prefix_append_right_inj _).2 h

theorem not_numeral_prefix_single (i : Int) {c : Char} (hc : isNumeralChar c = false)
    (cs : List Char) : ¬numeral i ++ cs <+: [c] := by
  intro h
  obtain ⟨d, hd⟩ := List.exists_mem_of_ne_nil _ (numeral_ne_nil i)
  have hmem : d ∈ [c] := h.subset (List.mem_append_left cs hd)
  rw [List.mem_singleton] at hmem
  rw [← hmem, isNumeralChar_of_mem hd] at hc
  cases hc

theorem Text.ofString_inj {s t : String} : ofString s = ofString t ↔ s = t := by
  constructor
  · intro h
    have hback := congrArg Text.string? h
    rw [string?_ofString, string?_ofString] at hback
    exact Option.some.inj hback
  · intro h
    rw [h]

namespace IdPath

/-- The text of a path behind its first numeral, up to a last character. -/
def behind (last : Char) : IdPath → List Char
  | [] => [last]
  | i :: path => ',' :: (numeral i ++ behind last path)

theorem exists_behind_eq {last : Char} (hlast : isNumeralChar last = false) (path : IdPath) :
    ∃ c cs, path.behind last = c :: cs ∧ isNumeralChar c = false := by
  cases path with
  | nil => exact ⟨last, [], rfl, hlast⟩
  | cons i path => exact ⟨',', numeral i ++ behind last path, rfl, by decide⟩

theorem toList_writeItems (i : Int) (path : IdPath) :
    (Json.writeItems ((i :: path).map .int)).toList ++ [']'] = numeral i ++ behind ']' path := by
  induction path generalizing i with
  | nil => rfl
  | cons j path ih =>
    have hrest : (Json.writeItems ((j :: path).map .int)).toList ++ [']']
        = numeral j ++ behind ']' path := ih j
    rw [behind, ← hrest, List.map_cons, List.map_cons, Json.writeItems, String.toList_append,
      String.toList_append, List.append_assoc, List.append_assoc]
    rfl

theorem toList_encode_cons (i : Int) (path : IdPath) :
    (encode (i :: path)).toList = '[' :: (numeral i ++ path.behind ']') := by
  rw [encode, Json.write, String.toList_append, String.toList_append, List.append_assoc]
  exact congrArg _ (toList_writeItems i path)

/-- A path that goes on has a comma where it would end with a bracket. -/
theorem dropLast_behind (path : IdPath) :
    (path.behind ']').dropLast ++ [','] = path.behind ',' := by
  induction path with
  | nil => rfl
  | cons i path ih =>
    have hrest : (behind ']' path).dropLast ++ [','] = behind ',' path := ih
    obtain ⟨c, cs, hbehind, -⟩ := exists_behind_eq (show isNumeralChar ']' = false by decide) path
    rw [behind, behind, ← hrest, hbehind, List.dropLast_cons_of_ne_nil (by simp),
      List.dropLast_append_of_ne_nil (by simp), List.cons_append, List.append_assoc]

theorem toList_stem_cons (i : Int) (path : IdPath) :
    (stem (i :: path)).toList = '[' :: (numeral i ++ path.behind ',') := by
  obtain ⟨c, cs, hbehind, -⟩ := exists_behind_eq (show isNumeralChar ']' = false by decide) path
  rw [stem, String.toList_append, String.toList_ofList, toList_encode_cons, ← dropLast_behind,
    hbehind, List.dropLast_cons_of_ne_nil (by simp), List.dropLast_append_of_ne_nil (by simp),
    List.cons_append, List.append_assoc]
  rfl

theorem behind_prefix_iff (p q : IdPath) :
    p.behind ',' <+: q.behind ']' ↔ ∃ r ≠ [], q = p ++ r := by
  have hcomma : isNumeralChar ',' = false := by decide
  have hbracket : isNumeralChar ']' = false := by decide
  induction p generalizing q with
  | nil =>
    cases q with
    | nil => simp [behind]
    | cons j q => simp [behind]
  | cons i p ih =>
    cases q with
    | nil => simp [behind]
    | cons j q =>
      obtain ⟨c, cs, hp, hc⟩ := exists_behind_eq hcomma p
      obtain ⟨d, ds, hq, hd⟩ := exists_behind_eq hbracket q
      have hrest : behind ',' p <+: behind ']' q ↔ ∃ r ≠ [], q = p ++ r := ih q
      rw [behind, behind, List.cons_prefix_cons, hp, hq, numeral_append_prefix_iff hc hd, ← hp,
        ← hq, hrest]
      constructor
      · rintro ⟨-, rfl, r, hr, rfl⟩
        exact ⟨r, hr, rfl⟩
      · rintro ⟨r, hr, h⟩
        obtain ⟨rfl, rfl⟩ := List.cons.inj h
        exact ⟨rfl, rfl, r, hr, rfl⟩

theorem behind_inj {p q : IdPath} (h : p.behind ']' = q.behind ']') : p = q := by
  have hbracket : isNumeralChar ']' = false := by decide
  induction p generalizing q with
  | nil =>
    cases q with
    | nil => rfl
    | cons j q => simp [behind] at h
  | cons i p ih =>
    cases q with
    | nil => simp [behind] at h
    | cons j q =>
      obtain ⟨c, cs, hp, hc⟩ := exists_behind_eq hbracket p
      obtain ⟨d, ds, hq, hd⟩ := exists_behind_eq hbracket q
      rw [behind, behind, List.cons.injEq, hp, hq, numeral_append_inj hc hd, ← hp, ← hq] at h
      rw [h.2.1, ih h.2.2]

/-- The text of a path determines the path. -/
theorem encode_inj {p q : IdPath} : p.encode = q.encode ↔ p = q := by
  have hbracket : isNumeralChar ']' = false := by decide
  -- no path with an id has the text of the empty one, which is two brackets
  have hempty : ∀ (i : Int) (path : IdPath), encode [] ≠ encode (i :: path) := by
    intro i path h
    have hlist := congrArg String.toList h
    rw [toList_encode_cons] at hlist
    apply not_numeral_prefix_single i hbracket (path.behind ']')
    rw [← (List.cons.inj hlist).2]
    exact List.prefix_rfl
  constructor
  · intro h
    cases p with
    | nil =>
      cases q with
      | nil => rfl
      | cons j q => exact absurd h (hempty j q)
    | cons i p =>
      cases q with
      | nil => exact absurd h.symm (hempty i p)
      | cons j q =>
        obtain ⟨c, cs, hp, hc⟩ := exists_behind_eq hbracket p
        obtain ⟨d, ds, hq, hd⟩ := exists_behind_eq hbracket q
        have hlist := congrArg String.toList h
        rw [toList_encode_cons, toList_encode_cons, List.cons.injEq, hp, hq,
          numeral_append_inj hc hd, ← hp, ← hq] at hlist
        rw [hlist.2.1, behind_inj hlist.2.2]
  · intro h
    rw [h]

/-- What begins with the stem of a path are the texts of the longer paths under it. -/
theorem stem_prefix_iff {p : IdPath} (hp : p ≠ []) (q : IdPath) :
    p.stem.toList <+: q.encode.toList ↔ ∃ r ≠ [], q = p ++ r := by
  cases p with
  | nil => exact absurd rfl hp
  | cons i p =>
    rw [toList_stem_cons]
    cases q with
    | nil =>
      constructor
      · intro h
        exact absurd (List.cons_prefix_cons.1 h).2
          (not_numeral_prefix_single i (by decide) (behind ',' p))
      · rintro ⟨r, -, h⟩
        cases h
    | cons j q =>
      obtain ⟨c, cs, hstem, hc⟩ := exists_behind_eq (show isNumeralChar ',' = false by decide) p
      obtain ⟨d, ds, hrest, hd⟩ := exists_behind_eq (show isNumeralChar ']' = false by decide) q
      rw [toList_encode_cons, List.cons_prefix_cons, hstem, hrest,
        numeral_append_prefix_iff hc hd, ← hstem, ← hrest, behind_prefix_iff]
      constructor
      · rintro ⟨-, rfl, r, hr, rfl⟩
        exact ⟨r, hr, rfl⟩
      · rintro ⟨r, hr, h⟩
        obtain ⟨rfl, rfl⟩ := List.cons.inj h
        exact ⟨rfl, rfl, r, hr, rfl⟩

/-- Nothing in a stem is a wildcard, or a letter that `LIKE` would find in the other case too. -/
theorem isLiteral_of_mem_stem {p : IdPath} (hp : p ≠ []) {c : Char} (h : c ∈ p.stem.toList) :
    Sql.isLiteral c = true := by
  have hbehind : ∀ path : IdPath, c ∈ behind ',' path → isNumeralChar c = true ∨ c = ',' := by
    intro path
    induction path with
    | nil => exact fun hmem => .inr (List.mem_singleton.1 hmem)
    | cons i path ih =>
      intro hmem
      rw [behind, List.mem_cons, List.mem_append] at hmem
      rcases hmem with rfl | hnumeral | hrest
      · exact .inr rfl
      · exact .inl (isNumeralChar_of_mem hnumeral)
      · exact ih hrest
  cases p with
  | nil => exact absurd rfl hp
  | cons i p =>
    rw [toList_stem_cons, List.mem_cons, List.mem_append] at h
    rcases h with rfl | hnumeral | hrest
    · decide
    · exact isLiteral_of_isNumeralChar (isNumeralChar_of_mem hnumeral)
    · rcases hbehind p hrest with hchar | rfl
      · exact isLiteral_of_isNumeralChar hchar
      · decide

/-- A pattern and a text find exactly the paths under a path. The pattern finds the longer ones,
the text the path itself. -/
theorem prefix_iff_like_or_eq {p : IdPath} (hp : p ≠ []) (q : IdPath) :
    Sql.like q.encode (p.stem ++ "%") = true ∨ q.encode = p.encode ↔ p <+: q := by
  rw [Sql.like_literal_iff fun c hc => isLiteral_of_mem_stem hp hc, stem_prefix_iff hp, encode_inj]
  constructor
  · rintro (⟨r, -, rfl⟩ | rfl)
    · exact List.prefix_append p r
    · exact List.prefix_rfl
  · rintro ⟨r, rfl⟩
    by_cases hr : r = []
    · exact .inr (by rw [hr, List.append_nil])
    · exact .inl ⟨r, hr, rfl⟩

/-! ### What a criterion asks for -/

/-- A path that a criterion can ask for: it has an id, and all its ids are positive. -/
structure Searchable (path : IdPath) : Prop where
  ne_nil : path ≠ []
  pos : ∀ i ∈ path, 0 < i

def toValue (path : IdPath) : Value := .list (path.map .int)

theorem positiveIds_map_int {path : IdPath} (h : ∀ i ∈ path, 0 < i) :
    positiveIds (path.map .int) = path := by
  induction path with
  | nil => rfl
  | cons i path ih =>
    have hrest := ih fun j hj => h j (List.mem_cons_of_mem i hj)
    rw [positiveIds] at hrest ⊢
    simp only [List.map_cons, List.filterMap_cons, if_pos (h i List.mem_cons_self), hrest]

theorem ofValue?_toValue {path : IdPath} (h : path.Searchable) :
    ofValue? path.toValue = some path := by
  cases path with
  | nil => exact absurd rfl h.ne_nil
  | cons i path =>
    have hids : positiveIds (.int i :: path.map .int) = i :: path := positiveIds_map_int h.pos
    simp only [toValue, List.map_cons, ofValue?, hids, List.length_cons, List.length_map, if_true]

theorem mapM_ofValue?_toValue {paths : List IdPath} (h : ∀ p ∈ paths, p.Searchable) :
    (paths.map toValue).mapM ofValue? = some paths := by
  induction paths with
  | nil => rfl
  | cons p paths ih =>
    rw [List.map_cons, List.mapM_cons, ofValue?_toValue (h p List.mem_cons_self),
      ih fun q hq => h q (List.mem_cons_of_mem p hq)]
    rfl

/-- Whether a path is found by parameters, taken in pairs of a pattern and a text. -/
def isFound (path : IdPath) : List Value → Bool
  | .text pattern :: .text whole :: rest =>
    Sql.like path.encode pattern || (path.encode : Text) == whole || path.isFound rest
  | _ => false

theorem isFound_parameters_iff {paths : List IdPath} (h : ∀ p ∈ paths, p ≠ []) (source : String)
    (q : IdPath) :
    q.isFound (Subquery.pathUnder source paths).parameters = true ↔ ∃ p ∈ paths, p <+: q := by
  induction paths with
  | nil => simp [Subquery.parameters, isFound]
  | cons p paths ih =>
    have hone := prefix_iff_like_or_eq (h p List.mem_cons_self) q
    have hrest := ih fun r hr => h r (List.mem_cons_of_mem p hr)
    rw [Subquery.parameters] at hrest ⊢
    rw [List.flatMap_cons, List.cons_append, List.cons_append, List.nil_append, isFound]
    simp only [Bool.or_eq_true, beq_iff_eq, Text.ofString_inj, hrest, hone, List.mem_cons,
      exists_eq_or_imp]

theorem parameters_ofSubquery (negate : Bool) (s : Subquery) :
    (Condition.ofSubquery negate s).parameters = s.parameters := by
  cases negate <;> rfl

theorem storedPaths_anyOf {paths : List IdPath} (h : ∀ p ∈ paths, p.Searchable)
    (column field : String) (negate : Bool) (tableAlias : String) :
    ∃ c, Handler.storedPaths column ⟨field, .anyOf, .list (paths.map toValue), negate⟩ tableAlias
          = Handler.answer c ∧
        c.parameters = (Subquery.pathUnder (tableAlias ++ "." ++ column) paths).parameters := by
  cases paths with
  | nil =>
    refine ⟨.ofEmptySet negate, rfl, ?_⟩
    cases negate <;> rfl
  | cons p paths =>
    refine ⟨_, ?_, parameters_ofSubquery negate _⟩
    have hread := mapM_ofValue?_toValue h
    rw [List.map_cons] at hread
    simp only [Handler.storedPaths, List.map_cons, hread]

theorem storedPaths_equal {p : IdPath} (h : p.Searchable) (column field : String) (negate : Bool)
    (tableAlias : String) :
    ∃ c, Handler.storedPaths column ⟨field, .equal, p.toValue, negate⟩ tableAlias
          = Handler.answer c ∧ c.parameters = [.text p.encode] := by
  refine ⟨_, ?_, parameters_ofSubquery negate (.pathIs (tableAlias ++ "." ++ column) p)⟩
  simp only [Handler.storedPaths, ofValue?_toValue h]

/-- The search for stored paths is exact. Whether a stored path is found is decided by the
parameters alone: those of `ANY_OF` find it exactly if one of the listed paths is a prefix of it, by
the pattern or by the text beside it, and the one of `EQ` is its text exactly if it is that path. -/
theorem storedPaths_exact (column field : String) (negate : Bool) (tableAlias : String)
    {p : IdPath} (hp : p.Searchable) {paths : List IdPath} (hpaths : ∀ p ∈ paths, p.Searchable)
    (q : IdPath) :
    (∃ c pattern whole,
      Handler.storedPaths column ⟨field, .anyOf, .list [p.toValue], negate⟩ tableAlias
          = Handler.answer c ∧
        c.parameters = [.text pattern, .text whole] ∧
        (Sql.like q.encode pattern = true ∨ (q.encode : Text) = whole ↔ p <+: q)) ∧
    (∃ c,
      Handler.storedPaths column ⟨field, .anyOf, .list (paths.map toValue), negate⟩ tableAlias
          = Handler.answer c ∧
        (q.isFound c.parameters = true ↔ ∃ p ∈ paths, p <+: q)) ∧
    (∃ c whole,
      Handler.storedPaths column ⟨field, .equal, p.toValue, negate⟩ tableAlias
          = Handler.answer c ∧
        c.parameters = [.text whole] ∧ ((q.encode : Text) = whole ↔ p = q)) := by
  have hone : ∀ r ∈ [p], r.Searchable := by
    intro r hr
    rw [List.mem_singleton.1 hr]
    exact hp
  refine ⟨?_, ?_, ?_⟩
  · obtain ⟨c, hanswer, hparameters⟩ := storedPaths_anyOf hone column field negate tableAlias
    refine ⟨c, p.stem ++ "%", p.encode, hanswer, hparameters, ?_⟩
    rw [Text.ofString_inj]
    exact prefix_iff_like_or_eq hp.ne_nil q
  · obtain ⟨c, hanswer, hparameters⟩ := storedPaths_anyOf hpaths column field negate tableAlias
    refine ⟨c, hanswer, ?_⟩
    rw [hparameters]
    exact isFound_parameters_iff (fun r hr => (hpaths r hr).ne_nil) _ q
  · obtain ⟨c, hanswer, hparameters⟩ := storedPaths_equal hp column field negate tableAlias
    refine ⟨c, p.encode, hanswer, hparameters, ?_⟩
    rw [Text.ofString_inj, encode_inj]
    exact eq_comm

/-- The path `[4]` does not find `[45, 1]`, whose text has a 4 at the same place. -/
theorem storedPaths_exact_numeral :
    Searchable [4] ∧ (∀ p ∈ [[7], [45, 1, 2]], Searchable p) ∧ ¬[4] <+: ([45, 1] : IdPath) ∧
    (∃ c pattern whole,
      Handler.storedPaths "paths" ⟨"path", .anyOf, .list [toValue [4]], false⟩ "d"
          = Handler.answer c ∧
        c.parameters = [.text pattern, .text whole] ∧
        (Sql.like (encode [45, 1]) pattern = true ∨ (encode [45, 1] : Text) = whole
          ↔ [4] <+: ([45, 1] : IdPath))) ∧
    (∃ c,
      Handler.storedPaths "paths"
          ⟨"path", .anyOf, .list ([[7], [45, 1, 2]].map toValue), false⟩ "d"
          = Handler.answer c ∧
        (isFound [45, 1] c.parameters = true ↔ ∃ p ∈ [[7], [45, 1, 2]], p <+: ([45, 1] : IdPath))) ∧
    (∃ c whole,
      Handler.storedPaths "paths" ⟨"path", .equal, toValue [4], false⟩ "d" = Handler.answer c ∧
        c.parameters = [.text whole] ∧
        ((encode [45, 1] : Text) = whole ↔ ([4] : IdPath) = [45, 1])) := by
  have hp : Searchable [4] := ⟨by decide, by decide⟩
  have hpaths : ∀ p ∈ [[7], [45, 1, 2]], Searchable p := by
    intro p hp
    rcases List.mem_pair.1 hp with rfl | rfl
    · exact ⟨by decide, by decide⟩
    · exact ⟨by decide, by decide⟩
  exact ⟨hp, hpaths, by decide, storedPaths_exact "paths" "path" false "d" hp hpaths [45, 1]⟩

end IdPath

end CatalogSearch
