import CatalogSearch.Entity.Search
import CatalogSearch.Proofs.Json.Arrays
import CatalogSearch.Proofs.PathPrefix

/-!
# The paths of a document

A document holds its id paths as JSON text: an array of arrays of integers, without blanks. The
reader is one for JSON of any kind, so that paths come back is a fact about arrays and numerals
(`Json.ReadsBack`). The only limit is on the digits of an id. A row without text has no paths, and
text that the reader refuses counts as none, with a warning.
-/

namespace CatalogSearch

/-! ### Stored paths -/

def IdPath.encodeAll (paths : List IdPath) : String := Json.write (.list (paths.map toValue))

theorem IdPath.readsBack_toValue {path : IdPath} (h : ∀ i ∈ path, Json.IsReadable i) :
    Json.ReadsBack 1 path.toValue := by
  apply Json.readsBack_list
  intro v hv
  obtain ⟨i, hi, hvalue⟩ := List.mem_map.1 hv
  rw [← hvalue]
  exact Json.readsBack_int (h i hi)

theorem IdPath.read_encodeAll {paths : List IdPath}
    (h : ∀ path ∈ paths, ∀ i ∈ path, Json.IsReadable i) :
    Json.read (Text.ofString (encodeAll paths)) = .ok (.list (paths.map toValue)) := by
  have hpaths : Json.ReadsBack 2 (.list (paths.map toValue)) := by
    apply Json.readsBack_list
    intro v hv
    obtain ⟨path, hpath, hvalue⟩ := List.mem_map.1 hv
    rw [← hvalue]
    exact readsBack_toValue (h path hpath)
  exact hpaths.read_write (by decide)

/-! ### What a row holds -/

def Row.stored (row : Row) : Value := (row.get? Entity.pathsColumn).getD .null

theorem decodePaths_of_not_isTruthy {row : Row} (h : row.stored.isTruthy = false) :
    decodePaths row = .ok (.list [], []) := by
  rw [Row.stored] at h
  rw [decodePaths, h]
  rfl

theorem decodePaths_of_text {row : Row} {t : Text} (h : row.stored = .text t)
    (hne : t.isEmpty = false) :
    decodePaths row = match Json.read t with
      | .ok v => .ok (v, [])
      | .error (.tooDeep inObject) => .error (.pathsTooDeep inObject)
      | .error _ =>
        .ok (.list [],
          [.malformedPaths ((row.get? "archive_document_id").getD .null) (.text t)]) := by
  have htruthy : (Value.text t).isTruthy = true := by rw [Value.isTruthy, hne, Bool.not_false]
  rw [Row.stored] at h
  cases hread : Json.read t with
  | ok v => simp only [decodePaths, h, htruthy, if_true, hread]
  | error e =>
    cases e with
    | malformed => simp only [decodePaths, h, htruthy, if_true, hread]
    | tooManyDigits => simp only [decodePaths, h, htruthy, if_true, hread]
    | tooDeep => simp only [decodePaths, h, htruthy, if_true, hread]

/-- Stored paths come back as they were, without a warning, and storing what came back gives the
same text. -/
theorem decodePaths_encodeAll {row : Row} {paths : List IdPath}
    (hstored : row.get? Entity.pathsColumn = some (.text (IdPath.encodeAll paths)))
    (hdigits : ∀ path ∈ paths, ∀ i ∈ path, Json.IsReadable i) :
    ∃ decoded, decodePaths row = .ok (decoded, []) ∧
      decoded = .list (paths.map IdPath.toValue) ∧
      Json.write decoded = IdPath.encodeAll paths := by
  have htext : row.stored = .text (IdPath.encodeAll paths) := by rw [Row.stored, hstored]; rfl
  have hne : (Text.ofString (IdPath.encodeAll paths)).isEmpty = false := by
    rw [Text.isEmpty, Text.ofString, IdPath.encodeAll, Json.toList_write_list]
    rfl
  refine ⟨_, ?_, rfl, rfl⟩
  rw [decodePaths_of_text htext hne, IdPath.read_encodeAll hdigits]

theorem decodePaths_encodeAll_signed :
    Row.get? [("descriptive_signature_element_ids", .text "[[],[-12,0,345]]")] Entity.pathsColumn
        = some (.text (IdPath.encodeAll [[], [-12, 0, 345]])) ∧
      (∀ path ∈ [[], [-12, 0, 345]], ∀ i ∈ path, Json.IsReadable i) ∧
      ∃ decoded,
        decodePaths [("descriptive_signature_element_ids", .text "[[],[-12,0,345]]")]
          = .ok (decoded, []) ∧
        decoded = .list [.list [], .list [.int (-12), .int 0, .int 345]] := by
  have hstored :
      Row.get? [("descriptive_signature_element_ids", .text "[[],[-12,0,345]]")] Entity.pathsColumn
        = some (.text (IdPath.encodeAll [[], [-12, 0, 345]])) := by
    have htext : IdPath.encodeAll [[], [-12, 0, 345]] = "[[],[-12,0,345]]" := by decide
    rw [htext]
    rfl
  have hdigits : ∀ path ∈ [[], [-12, 0, 345]], ∀ i ∈ path, Json.IsReadable i := by decide
  obtain ⟨decoded, hdecoded, hpaths, -⟩ := decodePaths_encodeAll hstored hdigits
  exact ⟨hstored, hdigits, decoded, hdecoded, hpaths⟩

end CatalogSearch
