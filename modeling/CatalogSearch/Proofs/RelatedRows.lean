import CatalogSearch.Proofs.Transcript

/-!
# The related rows of a page

A search that is served has a page whose rows are those of the reply to the data query, in order and
none missing, each completed. `Entity.Completes` says how a row and the completed row belong
together when the related rows are known: outside the columns that completing writes nothing is
touched, and inside stands what belongs to the key of the row and nothing else.
-/

namespace CatalogSearch.Entity

open SearchPlan

/-- A row and the same row completed with the related rows of a reply. -/
structure Completes (e : Entity) (related : List Row) (row completed : Row) : Prop where
  kept : ∀ column, column ∉ e.writtenColumns → completed.get? column = row.get? column
  carried : ∀ source, e.source? = some source →
    ∃ key, row.get? e.target.primaryKey = some key ∧
      e.Carries (ownedBy (bareColumn source.owner) key related) completed

theorem Gains.completes {e : Entity} {source : RelatedSource} (hsource : e.source? = some source)
    {related : List Row} {groups : Groups}
    (hgroups : Groups.ofRows (bareColumn source.owner) related = .ok groups) {row completed : Row}
    (hkey : ∃ key, row.get? e.target.primaryKey = some key ∧ key.isKey = true)
    (hgains : e.Gains groups row completed) : e.Completes related row completed := by
  obtain ⟨key, hget, hkey⟩ := hkey
  obtain ⟨owned, howned, hcarries⟩ := hgains.carried
  rw [hget, Option.getD_some, Groups.rowsOf_ofRows hgroups hkey] at howned
  cases howned
  refine ⟨hgains.kept, ?_⟩
  intro other hother
  cases hsource.symm.trans hother
  exact ⟨key, hget, hcarries⟩

theorem complete_attaches (e : Entity) (rows : List Row) :
    (e.complete rows).Converses fun r es => ∀ completed, r = .ok completed → ∃ related,
      es = (e.relatedQuery? rows).toList.map (⟨·, .rows related⟩) ∧
        List.Forall₂ (e.Completes related) rows completed := by
  cases hsource : e.source? with
  | none =>
    obtain rfl := source?_eq_none.1 hsource
    refine .pure ?_
    rintro _ ⟨⟩
    have hnone : logs.relatedQuery? rows = none := relatedQuery?_eq_none.2 (Or.inr rfl)
    refine ⟨[], by rw [hnone]; rfl, List.forall₂_same.2 fun row _ => ⟨fun _ _ => rfl, ?_⟩⟩
    intro source h
    cases h
  | some source =>
    refine (complete_loads hsource rows).mono ?_
    rintro r es ⟨loaded, htalk, hloaded⟩ completed rfl
    cases htalk with
    | unkeyed h => cases hloaded
    | noRows h =>
      subst h
      cases hloaded completed rfl
      exact ⟨[], rfl, .nil⟩
    | fault h hne connecting fault => cases hloaded
    | fetched hkeyed hne related =>
      cases hgroups : Groups.ofRows (bareColumn source.owner) related with
      | error failure =>
        rw [hgroups] at hloaded
        cases hloaded
      | ok groups =>
        rw [hgroups] at hloaded
        refine ⟨related, by rw [relatedQuery?_of_source hsource hne]; rfl, ?_⟩
        have hgains := (List.forall₂_and_left rows completed).2 ⟨hkeyed, hloaded completed rfl⟩
        exact hgains.imp fun row out hrow => hrow.2.completes hsource hgroups hrow.1

inductive ServedTalk (e : Entity) (settings : Settings) (plan : SearchPlan) :
    SearchPage → List Exchange → Prop where
  | pastEnd {page : SearchPage} {counted : List Row} (h : page.rows = []) :
    ServedTalk e settings plan page [⟨plan.countQuery, .rows counted⟩]
  | fetched {page : SearchPage} {counted rows related : List Row}
      (h : List.Forall₂ (e.Completes related) rows page.rows) :
    ServedTalk e settings plan page
      (⟨plan.countQuery, .rows counted⟩ :: ⟨plan.sentQuery settings, .rows rows⟩ ::
        (e.relatedQuery? rows).toList.map (⟨·, .rows related⟩))

theorem ServedTalk.of_page {e : Entity} {settings : Settings} {plan : SearchPlan}
    {page : SearchPage} {es more : List Exchange} (hpage : plan.PageTalk settings (.ok page) es)
    {completed : List Row} (hattaches : ∃ related,
      more = (e.relatedQuery? page.rows).toList.map (⟨·, .rows related⟩) ∧
        List.Forall₂ (e.Completes related) page.rows completed) :
    e.ServedTalk settings plan { page with rows := completed } (es ++ more) := by
  obtain ⟨related, rfl, hcompletes⟩ := hattaches
  generalize hresult : Except.ok page = result at hpage
  cases hpage with
  | countFault connecting fault => cases hresult
  | miscount h => cases hresult
  | dataFault h hmore connecting fault => cases hresult
  | pastEnd h hend =>
    rw [rows_of_fetchedPage hresult.symm] at hcompletes ⊢
    cases hcompletes
    exact .pastEnd rfl
  | @fetched counted rows total h hmore =>
    rw [rows_of_fetchedPage hresult.symm] at hcompletes ⊢
    exact .fetched hcompletes

/-- The rows of a page are those of the data reply, in order, and each is completed with exactly
the related rows of its key. -/
theorem search_completes {e : Entity} {settings : Settings} {request : SearchRequest}
    {p : Principal} {s : Session} {page : SearchPage}
    (h : ((e.search settings request p).run.run s).1 = .ok page) :
    ∃ allowed plan es, e.allow request p = .ok allowed ∧
      (e.compile settings allowed.request allowed.required).result = .ok plan ∧
      s.Passes es ((e.search settings request p).run.run s).2 ∧
      e.ServedTalk settings plan page es := by
  have hconverses : (e.search settings request p).Converses fun r es => ∀ page, r = .ok page →
      ∃ allowed plan, e.allow request p = .ok allowed ∧
        (e.compile settings allowed.request allowed.required).result = .ok plan ∧
        e.ServedTalk settings plan page es := by
    cases hallowed : e.allow request p with
    | error failure => exact search_refused hallowed settings nofun
    | ok allowed =>
      obtain ⟨plan, hplan, hpaired⟩ := exists_plan hallowed settings
      refine search_converses hallowed hplan hpaired e.complete_attaches (fun _ _ _ => nofun) ?_
      intro page es completed more hpage hattaches served hserved
      refine ⟨allowed, plan, rfl, hplan, ?_⟩
      cases completed with
      | error failure => cases hserved
      | ok rows =>
        cases hserved
        exact .of_page hpage (hattaches rows rfl)
  obtain ⟨es, hpasses, hserved⟩ := hconverses s
  obtain ⟨allowed, plan, hallowed, hplan, htalk⟩ := hserved page h
  exact ⟨allowed, plan, es, hallowed, hplan, hpasses, htalk⟩

/-- Two notes, and then tags of the first, named in two spellings, and a tag of some other note. -/
def taggedNotes : Session where
  replies :=
    [.rows [[("total", .int 2)]],
      .rows [[("note_id", .int 1), ("title", .text "a")], [("note_id", .int 2)]],
      .rows
        [[("note_id", .bool true), ("tag_id", .int 5)], [("note_id", .int 3), ("tag_id", .int 5)],
          [("note_id", .int 1), ("tag_id", .int 4)]]]

def taggedRows : List String :=
  ["\x7b'note_id': 1, 'title': 'a', 'tags': [\x7b'tag_id': 5\x7d, \x7b'tag_id': 4\x7d]\x7d",
    "\x7b'note_id': 2, 'tags': []\x7d"]

theorem search_completes_tagged :
    ∃ page, ((notes.search {} {} [("role", .text "admin")]).run.run taggedNotes).1 = .ok page ∧
      page.rows.map (fun row => (Value.object row).shown) = taggedRows ∧
      ∃ allowed plan es, notes.allow {} [("role", .text "admin")] = .ok allowed ∧
        (notes.compile {} allowed.request allowed.required).result = .ok plan ∧
        taggedNotes.Passes es
          ((notes.search {} {} [("role", .text "admin")]).run.run taggedNotes).2 ∧
        notes.ServedTalk {} plan page es := by
  have hallowed : notes.allow {} [("role", .text "admin")] = .ok ⟨{}, [], []⟩ := rfl
  obtain ⟨plan, hplan, hpaired⟩ := exists_plan hallowed {}
  have hcompiled := SearchTarget.compile_registered notes.target_registers {} {} []
  cases hplan.symm.trans hcompiled
  have hshown : ((notes.search {} {} [("role", .text "admin")]).run.run taggedNotes).1.toOption.map
      (fun page => page.rows.map fun row => (Value.object row).shown) = some taggedRows := by
    -- the texts of the queries are not looked at, because they are known to pass the checks
    rw [search_eq hallowed hplan, hpaired.run_eq]
    decide +kernel
  cases hresult : ((notes.search {} {} [("role", .text "admin")]).run.run taggedNotes).1 with
  | error failure =>
    rw [hresult] at hshown
    cases hshown
  | ok page =>
    rw [hresult] at hshown
    exact ⟨page, rfl, Option.some.inj hshown, search_completes hresult⟩

end CatalogSearch.Entity
