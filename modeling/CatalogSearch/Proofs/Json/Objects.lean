import CatalogSearch.Proofs.Json.Texts

/-!
# Objects in JSON

The fields of an object are read one by one and written into a row. Names that are apart from each
other come out in their order, so an object is read back if its names are, and its values
(`readsBack_object`).
-/

namespace CatalogSearch

namespace Row

theorem set_of_not_mem {row : Row} {column : Text} (h : column ∉ row.map (·.1)) (v : Value) :
    row.set column v = row ++ [(column, v)] := by
  rw [set, if_neg]
  intro hany
  obtain ⟨f, hf, hname⟩ := List.any_eq_true.1 hany
  exact h (List.mem_map.2 ⟨f, hf, beq_iff_eq.1 hname⟩)

/-- Fields with names of their own are written behind those of a row. -/
theorem foldl_set (row : Row) {fs : Row} (h : ((row ++ fs).map (·.1)).Nodup) :
    fs.foldl (fun read f => read.set f.1 f.2) row = row ++ fs := by
  induction fs generalizing row with
  | nil => rw [List.foldl_nil, List.append_nil]
  | cons f fs ih =>
    have hsplit : row ++ f :: fs = row ++ [f] ++ fs := by
      rw [List.append_assoc, List.singleton_append]
    have hnew : f.1 ∉ row.map (·.1) := by
      rw [List.map_append, List.map_cons] at h
      intro hmem
      exact (List.nodup_append.1 h).2.2 _ hmem _ List.mem_cons_self rfl
    rw [hsplit] at h
    rw [List.foldl_cons, set_of_not_mem hnew, ih _ h, hsplit]

end Row

namespace Json

structure FieldReadsBack (levels : Nat) (f : Text × Value) : Prop where
  name : f.1.Unpaired
  value : ReadsBack levels f.2

def fieldText (f : Text × Value) : List Char :=
  (writeText f.1).toList ++ ':' :: (write f.2).toList

section

variable {levels fuel depth : Nat} {f : Text × Value} {read : Row} {rest : List CodePoint}

theorem fields_fieldText (hf : FieldReadsBack levels f)
    (hfuel : 2 * (write f.2).toList.length ≤ fuel) (hdepth : levels ≤ depth) :
    Follows rest → fields Numeral.toValue (fuel + 1) depth read (points (fieldText f) ++ rest)
      = match rest with
        | .char '\x7d' :: rest => .ok (read.set f.1 f.2, rest)
        | .char ',' :: rest =>
          fields Numeral.toValue fuel depth (read.set f.1 f.2) (skipSpaces rest)
        | rest => refuse .expectedComma rest := by
  intro hrest
  obtain ⟨c, cs, hcs, hc⟩ := hf.value.starts
  have hvalue := hf.value.value_eq fuel depth rest hfuel hdepth hrest
  have hsplit : points (fieldText f) ++ rest
      = points (writeText f.1).toList ++ .char ':' :: (points (write f.2).toList ++ rest) := by
    rw [fieldText, points, List.map_append, List.append_assoc]
    rfl
  have hquote : (points (writeText f.1).toList
      ++ .char ':' :: (points (write f.2).toList ++ rest)).head? = some (.char '\x22') := by
    rw [toList_writeText]
    rfl
  have hstart : skipSpaces (points (write f.2).toList ++ rest)
      = points (write f.2).toList ++ rest := by
    rw [hcs]
    exact skipSpaces_of_startsValue hc _
  have hcolon : ∀ ps, skipSpaces (.char ':' :: ps) = .char ':' :: ps := fun _ => rfl
  rw [hsplit, fields, hquote, if_neg (by simp), textToken_writeText hf.name]
  simp only [bind, Except.bind, hcolon, hstart, hvalue, hrest.skipSpaces_eq]
  rfl

end

theorem toList_writeFields_cons (f g : Text × Value) (fs : Row) :
    (writeFields (f :: g :: fs)).toList = fieldText f ++ ',' :: (writeFields (g :: fs)).toList := by
  simp only [writeFields, String.toList_append, fieldText, List.append_assoc]
  rfl

theorem toList_writeFields_singleton (f : Text × Value) :
    (writeFields [f]).toList = fieldText f := by
  simp only [writeFields, String.toList_append, fieldText, List.append_assoc]
  rfl

theorem exists_writeFields_eq {fs : Row} (hne : fs ≠ []) :
    ∃ cs, (writeFields fs).toList = '\x22' :: cs := by
  match fs with
  | [] => exact absurd rfl hne
  | [f] =>
    rw [toList_writeFields_singleton, fieldText, toList_writeText]
    exact ⟨_, rfl⟩
  | f :: g :: fs =>
    rw [toList_writeFields_cons, fieldText, toList_writeText]
    exact ⟨_, rfl⟩

theorem fields_writeFields {levels : Nat} {fs : Row} (hne : fs ≠ [])
    (hfs : ∀ f ∈ fs, FieldReadsBack levels f) {fuel depth : Nat}
    (hfuel : 2 * (writeFields fs).toList.length + 1 ≤ fuel) (hdepth : levels ≤ depth) (read : Row)
    (rest : List CodePoint) :
    fields Numeral.toValue fuel depth read (points (writeFields fs).toList ++ .char '\x7d' :: rest)
      = .ok (fs.foldl (fun read f => read.set f.1 f.2) read, rest) := by
  -- on the fields: each uses up its own length of the fuel, and the next begins behind its comma
  induction fs generalizing fuel read with
  | nil => exact absurd rfl hne
  | cons f fs ih =>
    obtain ⟨fuel, rfl⟩ : ∃ n, fuel = n + 1 := ⟨fuel - 1, by omega⟩
    have hf := hfs f List.mem_cons_self
    have hlength : (fieldText f).length
        = (writeText f.1).toList.length + ((write f.2).toList.length + 1) := by
      rw [fieldText, List.length_append, List.length_cons]
    cases fs with
    | nil =>
      rw [toList_writeFields_singleton] at hfuel ⊢
      rw [fields_fieldText hf (by omega) hdepth (.brace rest)]
      rfl
    | cons g fs =>
      rw [toList_writeFields_cons, List.length_append, List.length_cons] at hfuel
      have hsplit : points (writeFields (f :: g :: fs)).toList ++ .char '\x7d' :: rest
          = points (fieldText f) ++ .char ',' ::
              (points (writeFields (g :: fs)).toList ++ .char '\x7d' :: rest) := by
        rw [toList_writeFields_cons, points, List.map_append, List.map_cons, List.append_assoc]
        rfl
      have hstart : skipSpaces (points (writeFields (g :: fs)).toList ++ .char '\x7d' :: rest)
          = points (writeFields (g :: fs)).toList ++ .char '\x7d' :: rest := by
        obtain ⟨cs, hcs⟩ := exists_writeFields_eq (List.cons_ne_nil g fs)
        rw [hcs]
        exact skipSpaces_of_startsValue (by decide) _
      have hfuel' : 2 * (writeFields (g :: fs)).toList.length + 1 ≤ fuel := by omega
      have hmore := ih (List.cons_ne_nil g fs) (fun h hh => hfs h (List.mem_cons_of_mem f hh))
        hfuel' (read.set f.1 f.2)
      rw [← hstart] at hmore
      rw [hsplit, fields_fieldText hf (by omega) hdepth (.comma _)]
      exact hmore

theorem toList_write_object (fs : Row) :
    (write (.object fs)).toList = '\x7b' :: ((writeFields fs).toList ++ ['\x7d']) := by
  rw [write, String.toList_append, String.toList_append, List.append_assoc]
  rfl

/-- An object is read back if its fields are, one level deeper, and if no name comes twice. -/
theorem readsBack_object {levels : Nat} {fs : Row} (hfs : ∀ f ∈ fs, FieldReadsBack levels f)
    (hnames : (fs.map (·.1)).Nodup) : ReadsBack (levels + 1) (.object fs) := by
  constructor
  · exact ⟨'\x7b', _, toList_write_object fs, by decide⟩
  · intro fuel depth rest hfuel hdepth _
    rw [toList_write_object] at hfuel ⊢
    rw [List.length_cons, List.length_append, List.length_singleton] at hfuel
    obtain ⟨fuel, rfl⟩ : ∃ n, fuel = n + 1 := ⟨fuel - 1, by omega⟩
    obtain ⟨depth, rfl⟩ : ∃ n, depth = n + 1 := ⟨depth - 1, by omega⟩
    have htext : points ('\x7b' :: ((writeFields fs).toList ++ ['\x7d'])) ++ rest
        = .char '\x7b' :: (points (writeFields fs).toList ++ .char '\x7d' :: rest) := by
      rw [points, List.map_cons, List.map_append, List.cons_append, List.append_assoc]
      rfl
    rw [htext, value, if_neg (by decide), if_neg (by decide), if_pos (by decide)]
    by_cases hne : fs = []
    · rw [hne]
      rfl
    · obtain ⟨cs, hcs⟩ := exists_writeFields_eq hne
      have hfields : fields Numeral.toValue fuel depth []
          (points (writeFields fs).toList ++ .char '\x7d' :: rest) = .ok (fs, rest) := by
        rw [fields_writeFields hne hfs (by omega) (by omega), Row.foldl_set [] hnames,
          List.nil_append]
      rw [hcs, points, List.map_cons, List.cons_append] at hfields ⊢
      rw [skipSpaces_of_startsValue (by decide)]
      split
      case h_1 more hclosed =>
        -- no name begins with the brace that closes an object
        cases hclosed
      case h_2 =>
        rw [hfields]
        rfl

end Json

end CatalogSearch
