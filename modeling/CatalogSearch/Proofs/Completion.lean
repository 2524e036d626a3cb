import CatalogSearch.Proofs.Attachment
import CatalogSearch.Proofs.Conversation

/-!
# Completing the rows of a page

The rows of a page are completed with one query at most. It asks for what belongs to the keys of the
rows, each key once and in the order in which they come, and rows without keys are refused before
anything is asked. `Entity.relatedQuery?` is that query, and `Entity.CompleteTalk` lists what the
completion can come to.
-/

namespace CatalogSearch

open Query

/-! ### Related rows -/

/-- Rows that are known by a column: each has a key there. -/
def Keyed (key : String) (rows : List Row) : Prop :=
  ∀ row ∈ rows, ∃ v, row.get? key = some v ∧ v.isKey = true

def keyValues (key : String) (rows : List Row) : List Value := rows.filterMap (·.get? key)

theorem Keyed.isKey {key : String} {rows : List Row} (h : Keyed key rows) :
    ∀ v ∈ keyValues key rows, v.isKey = true := by
  intro v hv
  obtain ⟨row, hrow, hget⟩ := List.mem_filterMap.1 hv
  obtain ⟨w, hw, hkey⟩ := h row hrow
  cases hget.symm.trans hw
  exact hkey

theorem Keyed.keyValues_eq_nil {key : String} {rows : List Row} (h : Keyed key rows) :
    keyValues key rows = [] ↔ rows = [] := by
  cases rows with
  | nil => exact iff_of_true rfl rfl
  | cons row rows =>
    obtain ⟨v, hv, -⟩ := h row List.mem_cons_self
    simp [keyValues, hv]

theorem Keyed.columnValues_eq {key : String} {rows : List Row} (h : Keyed key rows) :
    columnValues key rows = .ok (keyValues key rows) := by
  induction rows with
  | nil => rfl
  | cons row rows ih =>
    obtain ⟨v, hv, -⟩ := h row List.mem_cons_self
    have hrest := ih fun r hr => h r (List.mem_cons_of_mem _ hr)
    have hkeys : keyValues key (row :: rows) = v :: keyValues key rows := by simp [keyValues, hv]
    rw [columnValues] at hrest ⊢
    rw [List.mapM_cons, hrest, hv, hkeys]
    rfl

theorem mapM_asKey_eq {vs : List Value} (h : ∀ v ∈ vs, v.isKey = true) :
    vs.mapM asKey = .ok vs := by
  induction vs with
  | nil => rfl
  | cons v vs ih =>
    rw [List.mapM_cons, ih fun w hw => h w (List.mem_cons_of_mem _ hw), asKey,
      if_pos (h v List.mem_cons_self)]
    rfl

/-- Keys can be read off the rows only if each row has one. -/
theorem keyed_of_mapM_asKey {key : String} {rows : List Row} {vs ks : List Value}
    (hvs : columnValues key rows = .ok vs) (hks : vs.mapM asKey = .ok ks) : Keyed key rows := by
  induction rows generalizing vs ks with
  | nil => simp [Keyed]
  | cons row rows ih =>
    obtain ⟨v, ws, hget, hws, rfl⟩ := exists_of_columnValues_cons hvs
    obtain ⟨k, ls, hk, hls, -⟩ := exists_of_mapM_cons_eq_ok hks
    obtain ⟨rfl, hkey⟩ := asKey_eq_ok hk
    intro r hr
    rcases List.mem_cons.1 hr with rfl | hr
    · exact ⟨v, hget, hkey⟩
    · exact ih hws hls r hr

namespace RelatedSource

def query (source : RelatedSource) (key : String) (rows : List Row) : Query :=
  relatedQuery source.select source.owner (Value.firstSeen (keyValues key rows))

/-- What the query for related rows comes to. Rows without keys end the search before it. -/
inductive LoadTalk (source : RelatedSource) (key : String) (rows : List Row) :
    Except Failure Groups → List Exchange → Prop where
  | unkeyed {e : Failure} (h : ¬Keyed key rows) : LoadTalk source key rows (.error e) []
  | noRows (h : rows = []) : LoadTalk source key rows (.ok []) []
  | fault (h : Keyed key rows) (hne : rows ≠ []) (connecting : Bool) (fault : StoreFault) :
    LoadTalk source key rows (.error (fault.failure (source.query key rows)))
      [⟨source.query key rows, .fault connecting fault⟩]
  | fetched (h : Keyed key rows) (hne : rows ≠ []) (related : List Row) :
    LoadTalk source key rows (Groups.ofRows (bareColumn source.owner) related)
      [⟨source.query key rows, .rows related⟩]

theorem load_talks (source : RelatedSource) (key : String) (rows : List Row) :
    (source.load key rows).Converses (source.LoadTalk key rows) := by
  rw [load]
  refine .bind_ofExcept ?_ ?_
  · intro vs hvs
    rw [loadRelated]
    refine .bind_ofExcept ?_ ?_
    · intro ks hks
      -- the keys are those of the rows, and each is asked for once
      have hkeyed := keyed_of_mapM_asKey hvs hks
      have hvs' : vs = keyValues key rows := by
        rw [hkeyed.columnValues_eq] at hvs
        cases hvs
        rfl
      have hks' : ks = keyValues key rows := by
        rw [hvs', mapM_asKey_eq hkeyed.isKey] at hks
        cases hks
        rfl
      rw [hks', Value.distinctKeys_eq_firstSeen hkeyed.isKey]
      split
      case h_1 hnil =>
        exact .pure (.noRows (hkeyed.keyValues_eq_nil.1 (Value.firstSeen_eq_nil.1 hnil)))
      case h_2 hids =>
        have hne : rows ≠ [] := by
          intro hnil
          exact hids (Value.firstSeen_eq_nil.2 (hkeyed.keyValues_eq_nil.2 hnil))
        exact .bind_ask (fun related => .ofExcept (.fetched hkeyed hne related))
          (.fault hkeyed hne)
    · intro e he
      refine .unkeyed fun hkeyed => ?_
      rw [hkeyed.columnValues_eq] at hvs
      cases hvs
      rw [mapM_asKey_eq hkeyed.isKey] at he
      cases he
  · intro e he
    refine .unkeyed fun hkeyed => ?_
    rw [hkeyed.columnValues_eq] at he
    cases he

end RelatedSource

theorem withPaths_talks (row : Row) :
    (withPaths row).Converses fun r es =>
      es = [] ∧ ∀ out, r = .ok out → ∃ paths, out = row.set Entity.pathsColumn paths := by
  rw [withPaths]
  refine .bind_ofExcept ?_ fun e _ => ⟨rfl, nofun⟩
  rintro ⟨paths, notices⟩ -
  refine .bind_report (.pure ⟨rfl, ?_⟩)
  rintro _ ⟨⟩
  exact ⟨paths, rfl⟩

/-- Documents that gained their tags gain their paths, and nothing is asked for them. -/
theorem mapM_withPaths_talks {groups : Groups} {rows attached : List Row}
    (h : List.Forall₂ (Entity.documents.Gains groups) rows attached) :
    (attached.mapM withPaths).Converses fun r es => es = [] ∧ ∀ completed, r = .ok completed →
      List.Forall₂ (Entity.documents.Gains groups) rows completed := by
  induction h with
  | nil =>
    refine .pure ⟨rfl, ?_⟩
    rintro _ ⟨⟩
    exact .nil
  | @cons row first rows rest hfirst _ ih =>
    rw [List.mapM_cons]
    refine .bind (withPaths_talks first) ?_ fun e es hes => ⟨hes.1, nofun⟩
    rintro out es ⟨rfl, hout⟩
    obtain ⟨paths, rfl⟩ := hout out rfl
    refine .bind ih ?_ fun e es hes => ⟨hes.1, nofun⟩
    rintro completed es ⟨rfl, hcompleted⟩
    refine .pure ⟨rfl, ?_⟩
    rintro _ ⟨⟩
    exact .cons (hfirst.withPaths paths) (hcompleted completed rfl)

def Entity.source? : Entity → Option RelatedSource
  | documents => some documentTags
  | notes => some noteTags
  | elements => some elementParents
  | logs => none

namespace Entity

theorem source?_eq_none {e : Entity} : e.source? = none ↔ e = logs := by
  cases e <;> simp [source?]

/-- The query for what belongs to the rows of a page, if there is anything to ask. -/
def relatedQuery? (e : Entity) (rows : List Row) : Option Query :=
  if rows.isEmpty then none else e.source?.map (·.query e.target.primaryKey rows)

theorem relatedQuery?_eq_some {e : Entity} {rows : List Row} {q : Query} :
    e.relatedQuery? rows = some q ↔ rows ≠ [] ∧ ∃ source, e.source? = some source ∧
      source.query e.target.primaryKey rows = q := by
  rw [relatedQuery?]
  split
  case isTrue h => simp [List.isEmpty_iff.1 h]
  case isFalse h =>
    rw [List.isEmpty_iff] at h
    simp [h, Option.map_eq_some_iff]

theorem relatedQuery?_eq_none {e : Entity} {rows : List Row} :
    e.relatedQuery? rows = none ↔ rows = [] ∨ e = logs := by
  rw [relatedQuery?]
  split
  case isTrue h => simp [List.isEmpty_iff.1 h]
  case isFalse h =>
    rw [List.isEmpty_iff] at h
    simp [h, source?_eq_none]

theorem marks_source {e : Entity} {source : RelatedSource} (h : e.source? = some source) :
    Query.marks source.select = 0 ∧ Query.marks source.owner = 0 := by
  cases e with
  | documents =>
    cases h
    refine ⟨?_, by decide⟩
    unfold documentTags
    dsimp only
    rw [marks_append]
    decide
  | notes =>
    cases h
    refine ⟨?_, by decide⟩
    unfold noteTags
    dsimp only
    rw [marks_append]
    decide
  | elements =>
    cases h
    decide
  | logs => cases h

theorem marks_relatedQuery? {e : Entity} {rows : List Row} {q : Query}
    (h : e.relatedQuery? rows = some q) : Query.marks q.text = q.parameters.length := by
  obtain ⟨-, source, hsource, rfl⟩ := relatedQuery?_eq_some.1 h
  obtain ⟨hselect, howner⟩ := marks_source hsource
  simp only [RelatedSource.query, relatedQuery, marks_append, hselect, howner, marks_placeholders]
  rw [show marks " WHERE " = 0 by decide, show marks " IN (" = 0 by decide,
    show marks ")" = 0 by decide]
  omega

inductive CompleteTalk (e : Entity) (rows : List Row) :
    Except Failure (List Row) → List Exchange → Prop where
  | unkeyed {r : Except Failure (List Row)} (h : ¬Keyed e.target.primaryKey rows) :
    CompleteTalk e rows r []
  | alone {r : Except Failure (List Row)} (h : e.relatedQuery? rows = none) :
    CompleteTalk e rows r []
  | fault {q : Query} (h : e.relatedQuery? rows = some q) (connecting : Bool)
      (fault : StoreFault) :
    CompleteTalk e rows (.error (fault.failure q)) [⟨q, .fault connecting fault⟩]
  | fetched {q : Query} {r : Except Failure (List Row)} (h : e.relatedQuery? rows = some q)
      (related : List Row) : CompleteTalk e rows r [⟨q, .rows related⟩]

/-- Rows with a source gain what the groups from it hold, and nothing more is asked. -/
theorem complete_of_source {e : Entity} {source : RelatedSource} (h : e.source? = some source)
    (rows : List Row) :
    ∃ rest : Groups → Run (List Row),
      e.complete rows = source.load e.target.primaryKey rows >>= rest ∧
        ∀ groups, (rest groups).Converses fun r es => es = [] ∧
          ∀ completed, r = .ok completed → List.Forall₂ (e.Gains groups) rows completed := by
  cases e with
  | documents =>
    cases h
    refine ⟨_, rfl, fun groups => .bind_ofExcept (fun attached hattached => ?_) ?_⟩
    · exact mapM_withPaths_talks
        (gains_of_attach hattached (by simp [writtenColumns]) fun _ _ => id)
    · intro e _
      refine ⟨rfl, ?_⟩
      rintro _ ⟨⟩
  | notes =>
    cases h
    refine ⟨_, rfl, fun groups => .ofExcept ⟨rfl, fun completed hcompleted => ?_⟩⟩
    exact gains_of_attach hcompleted (by simp [writtenColumns]) fun _ _ => id
  | elements =>
    cases h
    refine ⟨_, rfl, fun groups => .ofExcept ⟨rfl, fun completed hcompleted => ?_⟩⟩
    exact gains_of_withParents hcompleted
  | logs => cases h

theorem complete_loads {e : Entity} {source : RelatedSource} (h : e.source? = some source)
    (rows : List Row) :
    (e.complete rows).Converses fun r es => ∃ loaded,
      source.LoadTalk e.target.primaryKey rows loaded es ∧
        match loaded with
        | .error failure => r = .error failure
        | .ok groups => ∀ completed, r = .ok completed →
            List.Forall₂ (e.Gains groups) rows completed := by
  obtain ⟨rest, hrest, hgains⟩ := complete_of_source h rows
  rw [hrest]
  refine .bind (source.load_talks e.target.primaryKey rows) ?_ ?_
  · intro groups es htalk
    refine (hgains groups).mono ?_
    rintro r more ⟨rfl, hcompleted⟩
    rw [List.append_nil]
    exact ⟨.ok groups, htalk, hcompleted⟩
  · intro failure es htalk
    exact ⟨.error failure, htalk, rfl⟩

theorem relatedQuery?_of_source {e : Entity} {source : RelatedSource}
    (h : e.source? = some source) {rows : List Row} (hne : rows ≠ []) :
    e.relatedQuery? rows = some (source.query e.target.primaryKey rows) :=
  relatedQuery?_eq_some.2 ⟨hne, source, h, rfl⟩

theorem complete_talks (e : Entity) (rows : List Row) :
    (e.complete rows).Converses (e.CompleteTalk rows) := by
  cases hsource : e.source? with
  | none =>
    obtain rfl := source?_eq_none.1 hsource
    exact .pure (.alone (relatedQuery?_eq_none.2 (Or.inr rfl)))
  | some source =>
    refine (complete_loads hsource rows).mono ?_
    rintro r es ⟨loaded, htalk, hloaded⟩
    cases htalk with
    | unkeyed h => exact .unkeyed h
    | noRows h => exact .alone (relatedQuery?_eq_none.2 (Or.inl h))
    | fault h hne connecting fault =>
      cases hloaded
      exact .fault (relatedQuery?_of_source hsource hne) connecting fault
    | fetched h hne related => exact .fetched (relatedQuery?_of_source hsource hne) related

end Entity

end CatalogSearch
