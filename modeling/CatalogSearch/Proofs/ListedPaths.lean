import CatalogSearch.Proofs.DocumentPaths
import CatalogSearch.Proofs.Json.Limits
import CatalogSearch.Proofs.Transcript

/-!
# The paths that a response lists

Each document of a response is meant to carry a list of paths: the array that its text writes, else
no paths, with a warning unless there is no text. `Row.Lists` says this of a row and
`Entity.ListsPaths` of a page, whose other columns and rows stay as they are. The text is read as
JSON of any kind, though, and only what is no JSON at all is caught. So a number is handed out as a
number, a text that nests too deep brings the search down, and an array with an integer of too many
digits counts as malformed. `Entity.listsPaths_iff` says that these are the only exceptions.
-/

namespace CatalogSearch

/-! ### A row -/

namespace Row

/-- The row holds text for its paths, or nothing. -/
def HoldsText (row : Row) : Prop := row.stored = .null ∨ ∃ t, row.stored = .text t

/-- What is meant to be listed for a row, and what is meant to be noted. -/
inductive Lists (row : Row) : Value → List Notice → Prop where
  | nothing (h : row.stored = .null ∨ row.stored = .text "") : Lists row (.list []) []
  | array {t : Text} {items : List Value} (h : row.stored = .text t) (hne : t.isEmpty = false)
      (hwrites : Json.Writes t (.list items)) : Lists row (.list items) []
  | other {t : Text} (h : row.stored = .text t) (hne : t.isEmpty = false)
      (hwrites : ∀ items, ¬Json.Writes t (.list items)) :
    Lists row (.list [])
      [.malformedPaths ((row.get? "archive_document_id").getD .null) (.text t)]

theorem Lists.exists_eq_list {row : Row} {v : Value} {notices : List Notice}
    (h : row.Lists v notices) : ∃ items, v = .list items := by
  cases h with
  | nothing => exact ⟨_, rfl⟩
  | array => exact ⟨_, rfl⟩
  | other => exact ⟨_, rfl⟩

end Row

/-- The reader makes a list of a text if it makes anything of it: the text writes no value of another
kind, does not nest too deep, and is read if it writes an array. -/
structure Json.Listable (t : Text) : Prop where
  list : ∀ v, Json.read t = .ok v → ∃ items, v = .list items
  shallow : ∀ inObject, Json.read t ≠ .error (.tooDeep inObject)
  read : ∀ items, Json.Writes t (.list items) → ∃ v, Json.read t = .ok v

theorem Json.Listable.of_list {t : Text} {items : List Value} (h : Json.read t = .ok (.list items)) :
    Json.Listable t where
  list := fun v hv => ⟨items, Except.ok.inj (hv.symm.trans h)⟩
  shallow := by
    intro inObject hdeep
    cases h.symm.trans hdeep
  read := fun _ _ => ⟨_, h⟩

theorem Json.Listable.of_malformed {t : Text} {fault : Json.Fault} {position : Nat}
    (h : Json.read t = .error (.malformed fault position)) : Json.Listable t where
  list := by
    intro v hv
    cases h.symm.trans hv
  shallow := by
    intro inObject hdeep
    cases h.symm.trans hdeep
  read := by
    intro items hitems
    obtain hread | ⟨e, hread, hlimit⟩ := hitems.read_within
    · exact ⟨_, hread⟩
    · cases h.symm.trans hread
      cases hlimit

def Json.listsOrRefuses (t : Text) : Bool :=
  match Json.read t with
  | .ok (.list _) => true
  | .error (.malformed ..) => true
  | _ => false

theorem Json.Listable.of_listsOrRefuses {t : Text} (h : Json.listsOrRefuses t = true) :
    Json.Listable t := by
  rw [listsOrRefuses] at h
  split at h
  case h_1 hread => exact .of_list hread
  case h_2 hread => exact .of_malformed hread
  case h_3 => cases h

def Row.Listable (row : Row) : Prop :=
  ∀ t, row.stored = .text t → t.isEmpty = false → Json.Listable t

theorem Text.eq_empty_of_isEmpty {t : Text} (h : t.isEmpty = true) : t = Text.ofString "" := by
  obtain ⟨points⟩ := t
  obtain rfl : points = [] := List.isEmpty_iff.1 h
  rfl

theorem Row.HoldsText.lists {row : Row} (htext : row.HoldsText) (h : row.Listable) :
    ∃ out, decodePaths row = .ok out ∧ row.Lists out.1 out.2 := by
  obtain hnull | ⟨t, ht⟩ := htext
  · exact ⟨_, decodePaths_of_not_isTruthy (by rw [hnull]; rfl), .nothing (.inl hnull)⟩
  · cases hne : t.isEmpty with
    | true =>
      rw [Text.eq_empty_of_isEmpty hne] at ht
      exact ⟨_, decodePaths_of_not_isTruthy (by rw [ht]; rfl), .nothing (.inr ht)⟩
    | false =>
      obtain ⟨hlist, hshallow, hread⟩ := h t ht hne
      rw [decodePaths_of_text ht hne]
      cases hresult : Json.read t with
      | ok v =>
        obtain ⟨items, hitems⟩ := hlist v hresult
        rw [hitems] at hresult ⊢
        exact ⟨_, rfl, .array ht hne (Json.writes_of_read hresult)⟩
      | error e =>
        have hnone : ∀ items, ¬Json.Writes t (.list items) := by
          intro items hitems
          obtain ⟨v, hv⟩ := hread items hitems
          cases hresult.symm.trans hv
        cases e with
        | tooDeep inObject => exact absurd hresult (hshallow inObject)
        | malformed fault position => exact ⟨_, rfl, .other ht hne hnone⟩
        | tooManyDigits count => exact ⟨_, rfl, .other ht hne hnone⟩

/-- Text is decoded to what it is read as, or to no paths if it is refused. -/
theorem decodePaths_text_eq_ok {row : Row} {t : Text} {found : Value × List Notice}
    (h : row.stored = .text t) (hne : t.isEmpty = false) (hfound : decodePaths row = .ok found) :
    Json.read t = .ok found.1 ∧ found.2 = [] ∨
      ∃ e, Json.read t = .error e ∧ (∀ inObject, e ≠ .tooDeep inObject) ∧ found.2.length = 1 := by
  rw [decodePaths_of_text h hne] at hfound
  split at hfound
  case h_1 hread =>
    cases hfound
    exact .inl ⟨hread, rfl⟩
  case h_2 => cases hfound
  case h_3 e hdeep hread =>
    cases hfound
    exact .inr ⟨e, hread, hdeep, rfl⟩

theorem Row.Lists.listable {row : Row} {v : Value} {notices : List Notice}
    {found : Value × List Notice} (hlists : row.Lists v notices)
    (hfound : decodePaths row = .ok found) (hvalue : v = found.1) :
    notices.length ≤ found.2.length ∧ (notices.length = found.2.length → row.Listable) := by
  cases hlists with
  | nothing h =>
    refine ⟨Nat.zero_le _, ?_⟩
    intro _ t ht hne
    obtain h | h := h
    · cases ht.symm.trans h
    · cases ht.symm.trans h
      cases hne
  | @array t items h hne hwrites =>
    refine ⟨Nat.zero_le _, ?_⟩
    intro hlength t' ht' _
    cases h.symm.trans ht'
    obtain ⟨hread, -⟩ | ⟨e, -, -, hnoted⟩ := decodePaths_text_eq_ok h hne hfound
    · rw [← hvalue] at hread
      exact .of_list hread
    · rw [hnoted] at hlength
      cases hlength
  | @other t h hne hwrites =>
    obtain ⟨hread, -⟩ | ⟨e, hread, hdeep, hnoted⟩ := decodePaths_text_eq_ok h hne hfound
    · -- a text that writes no array is not read as the empty one
      rw [← hvalue] at hread
      exact absurd (Json.writes_of_read hread) (hwrites [])
    · refine ⟨by rw [hnoted]; exact Nat.le_refl 1, ?_⟩
      intro _ t' ht' _
      cases h.symm.trans ht'
      refine ⟨?_, ?_, ?_⟩
      · intro v hv
        cases hv.symm.trans hread
      · intro inObject hresult
        exact hdeep inObject (Except.error.inj (hread.symm.trans hresult))
      · intro items hitems
        exact absurd hitems (hwrites items)

/-! ### A page -/

def Entity.withFound (rows : List Row) (found : List (Value × List Notice)) : List Row :=
  List.zipWith (fun row out => row.set Entity.pathsColumn out.1) rows found

theorem run_withPaths {row : Row} {found : Value × List Notice}
    (h : decodePaths row = .ok found) (s : Session) :
    (withPaths row).run.run s = (.ok (row.set Entity.pathsColumn found.1),
      { s with notices := s.notices ++ found.2 }) := by
  rw [withPaths, h]
  rfl

theorem run_mapM_withPaths (rows : List Row) (s : Session) :
    (∃ found, List.Forall₂ (fun row out => decodePaths row = .ok out) rows found ∧
      (rows.mapM withPaths).run.run s = (.ok (Entity.withFound rows found),
        { s with notices := s.notices ++ found.flatMap (·.2) })) ∨
    ∃ row ∈ rows, ∃ e, decodePaths row = .error e ∧
      ((rows.mapM withPaths).run.run s).1 = .error e := by
  induction rows generalizing s with
  | nil => exact .inl ⟨[], .nil, by rw [List.flatMap_nil, List.append_nil]; rfl⟩
  | cons row rows ih =>
    rw [List.mapM_cons, Run.run_bind]
    cases hrow : decodePaths row with
    | error e =>
      refine .inr ⟨row, List.mem_cons_self, e, hrow, ?_⟩
      rw [withPaths, hrow]
      rfl
    | ok out =>
      rw [run_withPaths hrow]
      dsimp only
      rw [Run.run_bind]
      obtain ⟨found, hfound, hrun⟩ | ⟨other, hother, e, hfails, hrun⟩ :=
        ih { s with notices := s.notices ++ out.2 }
      · refine .inl ⟨out :: found, .cons hrow hfound, ?_⟩
        rw [hrun, List.flatMap_cons, ← List.append_assoc]
        rfl
      · refine .inr ⟨other, List.mem_cons_of_mem row hother, e, hfails, ?_⟩
        rcases hrest : (rows.mapM withPaths).run.run { s with notices := s.notices ++ out.2 } with
          ⟨r, s'⟩
        rw [hrest] at hrun
        cases hrun
        rfl

theorem forall_listable {rows : List Row} {outs found : List (Value × List Notice)}
    (hlists : List.Forall₂ (fun row out => row.Lists out.1 out.2) rows outs)
    (hfound : List.Forall₂ (fun row out => decodePaths row = .ok out) rows found)
    (hrows : Entity.withFound rows outs = Entity.withFound rows found) :
    (outs.flatMap (·.2)).length ≤ (found.flatMap (·.2)).length ∧
      ((outs.flatMap (·.2)).length = (found.flatMap (·.2)).length →
        ∀ row ∈ rows, row.Listable) := by
  -- only the sums of the notices are known to agree, so that no row notes too little has to be
  -- carried along
  induction hlists generalizing found with
  | nil =>
    cases hfound
    exact ⟨Nat.le_refl _, nofun⟩
  | @cons row out rows outs hrow _ ih =>
    cases hfound with
    | @cons _ here _ rest hhere hrest =>
      obtain ⟨hfirst, hmore⟩ := List.cons.inj hrows
      have hvalue : out.1 = here.1 := by
        have hcolumn := congrArg (Row.get? · Entity.pathsColumn) hfirst
        simpa only [Row.get?_set, if_true, Option.some.injEq] using hcolumn
      obtain ⟨hle, hlistable⟩ := hrow.listable hhere hvalue
      obtain ⟨hles, hlistables⟩ := ih hrest hmore
      rw [List.flatMap_cons, List.flatMap_cons, List.length_append, List.length_append]
      refine ⟨by omega, ?_⟩
      intro hlength other hother
      obtain hother | hother := List.mem_cons.1 hother
      · rw [hother]
        exact hlistable (by omega)
      · exact hlistables (by omega) other hother

namespace Entity

/-! ### A search -/

/-- A search for documents up to their tags. -/
def searchTagged (settings : Settings) (request : SearchRequest) (p : Principal) :
    Run SearchPage := do
  let allowed ← Run.ofExcept (documents.allow request p)
  Run.report allowed.notices
  let compilation := documents.compile settings allowed.request allowed.required
  Run.report compilation.notices
  let page ← (← Run.ofExcept compilation.result).run settings
  let groups ← documentTags.load "archive_document_id" page.rows
  let tagged ← Run.ofExcept (groups.attach "archive_document_id" "tags" page.rows)
  return { page with rows := tagged }

theorem search_documents_eq (settings : Settings) (request : SearchRequest) (p : Principal) :
    documents.search settings request p = searchTagged settings request p >>= fun page => do
      return { page with rows := ← page.rows.mapM withPaths } := by
  simp only [search, searchTagged, complete, bind_assoc, pure_bind]

theorem exists_mem_left {α β : Type} {related : α → β → Prop} {xs : List α} {ys : List β}
    (h : List.Forall₂ related xs ys) {y : β} (hy : y ∈ ys) : ∃ x ∈ xs, related x y := by
  induction h with
  | nil => cases hy
  | @cons x _ xs _ hfirst _ ih =>
    obtain heq | hy := List.mem_cons.1 hy
    · rw [heq]
      exact ⟨x, List.mem_cons_self, hfirst⟩
    · obtain ⟨other, hother, hrelated⟩ := ih hy
      exact ⟨other, List.mem_cons_of_mem x hother, hrelated⟩

theorem told_of_pageTalk {plan : SearchPlan} {settings : Settings} {page : SearchPage}
    {es : List Exchange} (h : plan.PageTalk settings (.ok page) es) :
    page.rows = [] ∨ ∃ q, es[1]? = some ⟨q, .rows page.rows⟩ := by
  generalize hresult : Except.ok page = result at h
  cases h with
  | countFault => cases hresult
  | miscount => cases hresult
  | dataFault => cases hresult
  | pastEnd => exact .inl (rows_of_fetchedPage hresult.symm)
  | fetched =>
    rw [rows_of_fetchedPage hresult.symm]
    exact .inr ⟨_, rfl⟩

/-- A document that is found holds for its paths what the store told. -/
theorem searchTagged_rows {settings : Settings} {request : SearchRequest} {p : Principal}
    {s : Session} {page : SearchPage}
    (h : ((searchTagged settings request p).run.run s).1 = .ok page) :
    ∀ row ∈ page.rows, ∃ rows told, s.reply 1 = .rows rows ∧ told ∈ rows ∧
      row.stored = Row.stored told := by
  have hconverses : (searchTagged settings request p).Converses fun r es => ∀ page, r = .ok page →
      ∀ row ∈ page.rows, ∃ q rows told, es[1]? = some ⟨q, .rows rows⟩ ∧ told ∈ rows ∧
        row.stored = Row.stored told := by
    -- the second exchange has the rows, and the tags go to another column
    refine .bind_ofExcept ?_ fun _ _ => nofun
    intro allowed hallowed
    obtain ⟨plan, hplan, hpaired⟩ := exists_plan hallowed settings
    refine .bind_report (.bind_report (.bind_ofExcept ?_ fun _ _ => nofun))
    intro plan' hplan'
    cases hplan.symm.trans hplan'
    refine .bind (hpaired.run_talks settings) ?_ fun _ _ _ => nofun
    intro page es hpage
    refine .bind (documentTags.load_talks _ page.rows) ?_ fun _ _ _ => nofun
    intro groups more _
    refine .bind_ofExcept ?_ fun _ _ => nofun
    intro tagged htagged
    refine .pure ?_
    intro served hserved row hrow
    cases hserved
    obtain ⟨told, hmem, owned, -, hset⟩ := exists_mem_left (Groups.attach_eq_ok htagged) hrow
    obtain hnil | ⟨q, htold⟩ := told_of_pageTalk hpage
    · rw [hnil] at hmem
      cases hmem
    · refine ⟨q, page.rows, told, ?_, hmem, ?_⟩
      · have hfirst : 1 < es.length := (List.getElem?_eq_some_iff.1 htold).1
        rw [List.getElem?_append_left hfirst, htold]
      · rw [hset, Row.stored, Row.get?_set, if_neg (by decide), Row.stored]
  obtain ⟨es, hpasses, htold⟩ := hconverses s
  intro row hrow
  obtain ⟨q, rows, told, hexchange, hmem, hstored⟩ := htold page h row hrow
  exact ⟨rows, told, (hpasses.reply 1 _ hexchange).symm, hmem, hstored⟩

/-- The paths are listed as they are meant to be. If documents are found, then the search succeeds
with the same page, in which each row carries what is meant to be listed for it and is otherwise as
it was, and what is meant to be noted for the rows is all that is noted. -/
def ListsPaths (settings : Settings) (request : SearchRequest) (p : Principal) (s : Session) :
    Prop :=
  ∀ page s', (searchTagged settings request p).run.run s = (.ok page, s') →
    ∃ outs : List (Value × List Notice),
      List.Forall₂ (fun row out => row.Lists out.1 out.2) page.rows outs ∧
      (documents.search settings request p).run.run s
        = (.ok { page with rows := withFound page.rows outs },
          { s' with notices := s'.notices ++ outs.flatMap (·.2) })

theorem run_search_documents {settings : Settings} {request : SearchRequest} {p : Principal}
    {s s' : Session} {page : SearchPage}
    (h : (searchTagged settings request p).run.run s = (.ok page, s')) :
    (documents.search settings request p).run.run s
      = (((page.rows.mapM withPaths).run.run s').1.map fun rows => { page with rows := rows },
        ((page.rows.mapM withPaths).run.run s').2) := by
  rw [search_documents_eq, Run.run_bind, h]
  dsimp only
  rw [Run.run_bind]
  rcases (page.rows.mapM withPaths).run.run s' with ⟨_ | rows, s''⟩
  · rfl
  · rfl

/-- A page lists its paths as it is meant to exactly if its texts are listable, for a store that
holds text or nothing. -/
theorem listsPaths_iff {settings : Settings} {request : SearchRequest} {p : Principal} {s : Session}
    (htext : ∀ rows, s.reply 1 = .rows rows → ∀ row ∈ rows, Row.HoldsText row) :
    ListsPaths settings request p s ↔
      ∀ page s', (searchTagged settings request p).run.run s = (.ok page, s') →
        ∀ row ∈ page.rows, Row.Listable row := by
  have hholds : ∀ page s', (searchTagged settings request p).run.run s = (.ok page, s') →
      ∀ row ∈ page.rows, Row.HoldsText row := by
    intro page s' hpage row hrow
    obtain ⟨rows, told, hreply, hmem, hstored⟩ :=
      searchTagged_rows (congrArg Prod.fst hpage) row hrow
    rw [Row.HoldsText, hstored]
    exact htext rows hreply told hmem
  refine forall_congr' fun page => forall_congr' fun s' => forall_congr' fun hpage => ?_
  have hsearch := run_search_documents hpage
  constructor
  · intro hlists
    obtain ⟨outs, houts, hrun⟩ := hlists
    rw [hsearch] at hrun
    obtain ⟨found, hfound, hdecoded⟩ | ⟨row, hrow, e, he, hfails⟩ :=
      run_mapM_withPaths page.rows s'
    · rw [hdecoded] at hrun
      obtain ⟨hresult, hsession⟩ := Prod.mk.inj hrun
      have hrows := congrArg SearchPage.rows (Except.ok.inj hresult)
      have hnotices := List.append_cancel_left (congrArg Session.notices hsession)
      have hlength := congrArg List.length hnotices
      exact (forall_listable houts hfound hrows.symm).2 hlength.symm
    · rw [hfails] at hrun
      cases congrArg Prod.fst hrun
  · intro hlistable
    obtain ⟨found, hfound, hdecoded⟩ | ⟨row, hrow, e, he, -⟩ := run_mapM_withPaths page.rows s'
    · refine ⟨found, ?_, ?_⟩
      · have hmeant : ∀ row ∈ page.rows, Row.HoldsText row ∧ Row.Listable row :=
          fun row hrow => ⟨hholds page s' hpage row hrow, hlistable row hrow⟩
        refine ((List.forall₂_and_left page.rows found).2 ⟨hmeant, hfound⟩).imp ?_
        intro row out hrow
        obtain ⟨⟨hrowtext, hrowlistable⟩, hout⟩ := hrow
        obtain ⟨meant, hmeant, hlists⟩ := hrowtext.lists hrowlistable
        cases hout.symm.trans hmeant
        exact hlists
      · rw [hsearch, hdecoded]
        rfl
    · obtain ⟨out, hout, -⟩ := (hholds page s' hpage row hrow).lists (hlistable row hrow)
      cases he.symm.trans hout

/-- A store with documents that hold some values for their paths, and no tags. -/
def storedDocuments (stored : List Value) : Session where
  replies :=
    [.rows [[("total", .int stored.length)]],
      .rows (stored.map fun v =>
        [("archive_document_id", .int 1), ("title", .text "a"), (pathsColumn, v)])]

theorem stored_mem_of_reply {stored : List Value} {rows : List Row}
    (h : (storedDocuments stored).reply 1 = .rows rows) : ∀ row ∈ rows, Row.stored row ∈ stored := by
  intro row hrow
  cases h
  obtain ⟨v, hv, hcolumns⟩ := List.mem_map.1 hrow
  rw [← hcolumns]
  exact hv

def mixedTexts : List Value := [.text "[[1,2],[3]]", .text "[[1,", .null]

/-- Of three documents the first carries its paths, and the others none, one of them with a
warning. -/
theorem listsPaths_mixed :
    (∀ rows, (storedDocuments mixedTexts).reply 1 = .rows rows → ∀ row ∈ rows, Row.HoldsText row) ∧
      ListsPaths {} {} [("role", .text "admin")] (storedDocuments mixedTexts) := by
  have htext : ∀ rows, (storedDocuments mixedTexts).reply 1 = .rows rows →
      ∀ row ∈ rows, Row.HoldsText row := by
    intro rows hrows row hrow
    have hmem := stored_mem_of_reply hrows row hrow
    simp only [mixedTexts, List.mem_cons, List.not_mem_nil, or_false] at hmem
    obtain hfirst | hsecond | hthird := hmem
    · exact .inr ⟨_, hfirst⟩
    · exact .inr ⟨_, hsecond⟩
    · exact .inl hthird
  refine ⟨htext, (listsPaths_iff htext).2 ?_⟩
  intro page s' hpage row hrow t ht _
  obtain ⟨rows, told, hreply, htold, hstored⟩ :=
    searchTagged_rows (congrArg Prod.fst hpage) row hrow
  have hmem := stored_mem_of_reply hreply told htold
  rw [← hstored, ht] at hmem
  simp only [mixedTexts, List.mem_cons, List.not_mem_nil, or_false, Value.text.injEq,
    reduceCtorEq] at hmem
  obtain hfirst | hsecond := hmem
  · rw [hfirst]
    exact .of_listsOrRefuses (by decide +kernel)
  · rw [hsecond]
    exact .of_listsOrRefuses (by decide +kernel)

theorem exists_of_mem_withFound {related : Row → Value × List Notice → Prop} {rows : List Row}
    {outs : List (Value × List Notice)} (h : List.Forall₂ related rows outs) {row : Row}
    (hrow : row ∈ withFound rows outs) :
    ∃ told out, related told out ∧ row = told.set pathsColumn out.1 := by
  rw [withFound, ← List.map_uncurry_zip_eq_zipWith] at hrow
  obtain ⟨⟨told, out⟩, hmem, heq⟩ := List.mem_map.1 hrow
  exact ⟨told, out, List.forall₂_zip h hmem, heq.symm⟩

theorem ListsPaths.exists_list {settings : Settings} {request : SearchRequest} {p : Principal}
    {s : Session} (h : ListsPaths settings request p s) {page : SearchPage}
    (hpage : ((documents.search settings request p).run.run s).1 = .ok page) :
    ∀ row ∈ page.rows, ∃ items, Row.get? row pathsColumn = some (.list items) := by
  rcases hrun : (searchTagged settings request p).run.run s with ⟨e | tagged, s'⟩
  · rw [search_documents_eq, Run.run_bind, hrun] at hpage
    cases hpage
  · obtain ⟨outs, houts, hsearch⟩ := h tagged s' hrun
    rw [hsearch] at hpage
    cases hpage
    intro row hrow
    obtain ⟨told, out, hlists, hset⟩ := exists_of_mem_withFound houts hrow
    obtain ⟨items, hitems⟩ := hlists.exists_eq_list
    refine ⟨items, ?_⟩
    rw [hset, Row.get?_set, if_pos rfl, hitems]

def numberedDocument : Session := storedDocuments [.text "5"]

theorem run_numberedDocument :
    ∃ page,
      ((documents.search {} {} [("role", .text "admin")]).run.run numberedDocument).1 = .ok page ∧
      page.rows.map (·.get? pathsColumn) = [some (.int 5)] ∧
      ((documents.search {} {} [("role", .text "admin")]).run.run numberedDocument).2.notices
        = [] := by
  have hallowed : documents.allow {} [("role", .text "admin")] = .ok ⟨{}, [activeOnly], []⟩ := rfl
  have hnumber : (match
      ((documents.search {} {} [("role", .text "admin")]).run.run numberedDocument).1 with
      | .ok page => page.rows.map fun row => (row.get? pathsColumn).bind Value.asInteger?
      | .error _ => []) = [some 5] := by
    rw [search_eq_runPage hallowed]
    decide +kernel
  have hnoted : ((documents.search {} {} [("role", .text "admin")]).run.run
      numberedDocument).2.notices.length = 0 := by
    rw [search_eq_runPage hallowed]
    decide +kernel
  cases hresult : ((documents.search {} {} [("role", .text "admin")]).run.run numberedDocument).1 with
  | error failure =>
    rw [hresult] at hnumber
    cases hnumber
  | ok page =>
    rw [hresult] at hnumber
    refine ⟨page, rfl, ?_, List.length_eq_zero_iff.1 hnoted⟩
    obtain ⟨row, hrows, hrow⟩ := List.map_eq_singleton_iff.1 hnumber
    obtain ⟨v, hcolumn, hfive⟩ := Option.bind_eq_some_iff.1 hrow
    rw [hrows, List.map_singleton, hcolumn]
    cases v with
    | int i =>
      cases hfive
      rfl
    | bool b => cases b <;> cases hfive
    | _ => cases hfive

/-- A stored number comes back as a number, and nothing is noted. -/
theorem number_not_listed :
    (∀ rows, numberedDocument.reply 1 = .rows rows → ∀ row ∈ rows, Row.HoldsText row) ∧
      (∃ page,
        ((documents.search {} {} [("role", .text "admin")]).run.run numberedDocument).1 = .ok page ∧
        page.rows.map (·.get? pathsColumn) = [some (.int 5)] ∧
        ((documents.search {} {} [("role", .text "admin")]).run.run numberedDocument).2.notices
          = []) ∧
      ¬ListsPaths {} {} [("role", .text "admin")] numberedDocument := by
  refine ⟨?_, run_numberedDocument, ?_⟩
  · intro rows hrows row hrow
    exact .inr ⟨_, List.mem_singleton.1 (stored_mem_of_reply hrows row hrow)⟩
  · intro hlists
    obtain ⟨page, hpage, hcolumns, -⟩ := run_numberedDocument
    obtain ⟨row, hrows, hcolumn⟩ := List.map_eq_singleton_iff.1 hcolumns
    obtain ⟨items, hitems⟩ :=
      hlists.exists_list hpage row (by rw [hrows]; exact List.mem_cons_self)
    cases hcolumn.symm.trans hitems

end Entity

end CatalogSearch
