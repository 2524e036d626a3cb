import CatalogSearch.Proofs.Completion
import CatalogSearch.Proofs.Conjuncts

/-!
# What a search sends

A whole search is the conversation of its plan and then the completion of the rows of the page, or
it is refused and has no conversation. The store sees of it only the queries that reach it.
`Run.Sends` speaks about those and about what the search comes to, whatever the store answers. A
search sends the count query of its plan, then perhaps the data query with the page size corrected,
then perhaps one query for related rows, and it stops anywhere if something fails.
-/

namespace CatalogSearch

namespace Run

variable {α : Type} {m : Run α}

/-- What a computation comes to and the queries that it sends meet a condition, whatever the store
answers. -/
def Sends (m : Run α) (post : Except Failure α → List Query → Prop) : Prop :=
  ∀ s : Session, ∃ sent, (m.run.run s).2.calls = s.calls ++ sent ∧ post (m.run.run s).1 sent

theorem Sends.mono {post weaker : Except Failure α → List Query → Prop} (h : m.Sends post)
    (himp : ∀ r sent, post r sent → weaker r sent) : m.Sends weaker := by
  intro s
  obtain ⟨sent, hcalls, hpost⟩ := h s
  exact ⟨sent, hcalls, himp _ _ hpost⟩

theorem Converses.sends {post : Except Failure α → List Exchange → Prop} (h : m.Converses post)
    {weaker : Except Failure α → List Query → Prop}
    (himp : ∀ r es, post r es → weaker r (es.filterMap Exchange.recorded?)) : m.Sends weaker := by
  intro s
  obtain ⟨es, hpasses, hpost⟩ := h s
  exact ⟨_, hpasses.calls, himp _ _ hpost⟩

end Run

def Entity.Loads (e : Entity) (q : Query) : Prop :=
  ∃ source owners, e.source? = some source ∧ q = relatedQuery source.select source.owner owners

/-- The queries of a page that reach the store are its two queries, in order, or less if something
failed. A page without a data query has no rows. -/
theorem FetchTalk.sent {data count : Query} {size offset : Int} {r : Except Failure SearchPage}
    {es : List Exchange} (h : FetchTalk data count size offset r es) :
    es.filterMap Exchange.recorded? <+: [count, data] ∧
      ∀ page, r = .ok page →
        es.filterMap Exchange.recorded? = [count, data] ∨
          es.filterMap Exchange.recorded? = [count] ∧ page.rows = [] := by
  cases h with
  | countFault connecting fault =>
    refine ⟨?_, nofun⟩
    cases connecting with
    | true => exact List.nil_prefix
    | false => exact ⟨[data], rfl⟩
  | miscount => exact ⟨⟨[data], rfl⟩, nofun⟩
  | pastEnd h hend =>
    exact ⟨⟨[data], rfl⟩, fun page hpage => Or.inr ⟨rfl, rows_of_fetchedPage hpage⟩⟩
  | dataFault h hmore connecting fault =>
    refine ⟨?_, nofun⟩
    cases connecting with
    | true => exact ⟨[data], rfl⟩
    | false => exact List.prefix_refl _
  | fetched h hmore => exact ⟨List.prefix_refl _, fun _ _ => Or.inl rfl⟩

namespace Entity

/-! ### A whole search -/

/-- What a search over a plan comes to: its page fails, or the rows of the page are completed. -/
inductive SearchTalk (e : Entity) (settings : Settings) (plan : SearchPlan) :
    Except Failure SearchPage → List Exchange → Prop where
  | failed {failure : Failure} {es : List Exchange}
      (h : plan.PageTalk settings (.error failure) es) :
    SearchTalk e settings plan (.error failure) es
  | served {page : SearchPage} {es : List Exchange} (h : plan.PageTalk settings (.ok page) es)
      {completed : Except Failure (List Row)} {more : List Exchange}
      (hcomplete : e.CompleteTalk page.rows completed more) :
    SearchTalk e settings plan (completed.map fun rows => { page with rows := rows }) (es ++ more)

theorem search_eq {e : Entity} {settings : Settings} {request : SearchRequest} {p : Principal}
    {allowed : Allowed} {plan : SearchPlan} (hallowed : e.allow request p = .ok allowed)
    (hplan : (e.compile settings allowed.request allowed.required).result = .ok plan) :
    e.search settings request p = do
      Run.report allowed.notices
      Run.report (e.compile settings allowed.request allowed.required).notices
      let page ← plan.run settings
      return { page with rows := ← e.complete page.rows } := by
  simp only [search, hallowed, hplan, Run.ofExcept_ok_bind]

/-- A search that is allowed has the exchanges of its plan and then those of the completion. -/
theorem search_converses {e : Entity} {settings : Settings} {request : SearchRequest}
    {p : Principal} {allowed : Allowed} {plan : SearchPlan}
    (hallowed : e.allow request p = .ok allowed)
    (hplan : (e.compile settings allowed.request allowed.required).result = .ok plan)
    (hpaired : plan.Paired)
    {completion : List Row → Except Failure (List Row) → List Exchange → Prop}
    (hcompletion : ∀ rows, (e.complete rows).Converses (completion rows))
    {post : Except Failure SearchPage → List Exchange → Prop}
    (hfailed : ∀ failure es, plan.PageTalk settings (.error failure) es → post (.error failure) es)
    (hserved : ∀ page es completed more, plan.PageTalk settings (.ok page) es →
      completion page.rows completed more →
        post (completed.map fun rows => { page with rows := rows }) (es ++ more)) :
    (e.search settings request p).Converses post := by
  rw [search_eq hallowed hplan]
  refine .bind_report (.bind_report ?_)
  refine .bind (hpaired.run_talks settings) ?_ hfailed
  intro page es hpage
  refine .bind (hcompletion page.rows) ?_ ?_
  · intro rows more hrows
    refine .pure ?_
    rw [List.append_nil]
    exact hserved page es _ more hpage hrows
  · intro failure more hrows
    exact hserved page es _ more hpage hrows

theorem search_talks {e : Entity} {settings : Settings} {request : SearchRequest} {p : Principal}
    {allowed : Allowed} {plan : SearchPlan} (hallowed : e.allow request p = .ok allowed)
    (hplan : (e.compile settings allowed.request allowed.required).result = .ok plan)
    (hpaired : plan.Paired) :
    (e.search settings request p).Converses (e.SearchTalk settings plan) :=
  search_converses hallowed hplan hpaired e.complete_talks (fun _ _ => .failed)
    fun _ _ _ _ hpage hcomplete => .served hpage hcomplete

theorem search_refused {e : Entity} {request : SearchRequest} {p : Principal} {failure : Failure}
    (h : e.allow request p = .error failure) (settings : Settings)
    {post : Except Failure SearchPage → List Exchange → Prop} (hpost : post (.error failure) []) :
    (e.search settings request p).Converses post := by
  rw [search, h]
  refine .bind_ofExcept (by simp) ?_
  rintro _ ⟨⟩
  exact hpost

theorem exists_plan {e : Entity} {request : SearchRequest} {p : Principal} {allowed : Allowed}
    (hallowed : e.allow request p = .ok allowed) (settings : Settings) :
    ∃ plan, (e.compile settings allowed.request allowed.required).result = .ok plan ∧ plan.Paired :=
  SearchTarget.compile_paired e.target_registers e.target_unmarked settings allowed.request
    (required_paired hallowed)

def compiled (e : Entity) (settings : Settings) (allowed : Allowed) : SearchPlan :=
  e.target.plan (SearchTarget.pageWindow settings allowed.request)
    (e.target.extraJoins.map (Template.expand · e.target.tableAlias))
    (allowed.request.criteria.filterMap e.target.clauseFragment ++
      allowed.required.map (· e.target.tableAlias))
    (e.target.extraColumns.map (Template.expand · e.target.tableAlias))

theorem compile_eq_compiled (e : Entity) (settings : Settings) (allowed : Allowed) :
    (e.compile settings allowed.request allowed.required).result
      = .ok (e.compiled settings allowed) :=
  SearchTarget.compile_registered e.target_registers settings allowed.request allowed.required

/-- A search that is allowed fetches its page without a look at the texts of the queries, because
they are known to pass the checks. -/
theorem search_eq_runPage {e : Entity} {request : SearchRequest} {p : Principal} {allowed : Allowed}
    (hallowed : e.allow request p = .ok allowed) (settings : Settings) :
    e.search settings request p = do
      Run.report allowed.notices
      Run.report (e.compile settings allowed.request allowed.required).notices
      let page ← runPage settings (e.compiled settings allowed).dataQuery
        (e.compiled settings allowed).countQuery
      return { page with rows := ← e.complete page.rows } := by
  obtain ⟨plan, hplan, hpaired⟩ := exists_plan hallowed settings
  rw [search_eq hallowed hplan, hpaired.run_eq]
  cases hplan.symm.trans (e.compile_eq_compiled settings allowed)
  rfl

theorem CompleteTalk.sent {e : Entity} {rows : List Row} {r : Except Failure (List Row)}
    {es : List Exchange} (h : e.CompleteTalk rows r es) :
    es.filterMap Exchange.recorded? = [] ∨
      ∃ q, e.relatedQuery? rows = some q ∧ es.filterMap Exchange.recorded? = [q] := by
  cases h with
  | unkeyed => exact Or.inl rfl
  | alone => exact Or.inl rfl
  | fault hq connecting fault =>
    cases connecting with
    | true => exact Or.inl rfl
    | false => exact Or.inr ⟨_, hq, rfl⟩
  | fetched hq related => exact Or.inr ⟨_, hq, rfl⟩

theorem loads_of_relatedQuery? {e : Entity} {rows : List Row} {q : Query}
    (h : e.relatedQuery? rows = some q) : e.Loads q := by
  obtain ⟨-, source, hsource, rfl⟩ := relatedQuery?_eq_some.1 h
  exact ⟨source, _, hsource, rfl⟩

theorem SearchTalk.sent {e : Entity} {settings : Settings} {plan : SearchPlan}
    {r : Except Failure SearchPage} {es : List Exchange} (h : e.SearchTalk settings plan r es) :
    ∃ related, (∀ q ∈ related, e.Loads q) ∧ related.length ≤ 1 ∧
      es.filterMap Exchange.recorded?
        <+: plan.countQuery :: plan.sentQuery settings :: related := by
  cases h with
  | failed h => exact ⟨[], by simp, by simp, h.sent.1⟩
  | @served page es h completed more hcomplete =>
    rw [List.filterMap_append]
    rcases hcomplete.sent with hmore | ⟨q, hq, hmore⟩
    · rw [hmore, List.append_nil]
      exact ⟨[], by simp, by simp, h.sent.1⟩
    · -- related rows are asked for behind both queries only, because a page without a data query
      -- has no rows
      rcases h.sent.2 page rfl with hsent | ⟨-, hnil⟩
      · rw [hmore, hsent]
        exact ⟨[q], by simpa using loads_of_relatedQuery? hq, by simp, List.prefix_refl _⟩
      · exact absurd hnil (relatedQuery?_eq_some.1 hq).1

/-- What a search sends. Nothing, if it is not allowed; otherwise the count query of its plan,
the data query with the size corrected and a query for related rows, or the beginning of that. -/
theorem search_sends (e : Entity) (settings : Settings) (request : SearchRequest)
    (p : Principal) :
    (e.search settings request p).Sends fun _ sent => sent = [] ∨
      ∃ allowed plan, e.allow request p = .ok allowed ∧
        (e.compile settings allowed.request allowed.required).result = .ok plan ∧
        ∃ related, (∀ q ∈ related, e.Loads q) ∧ related.length ≤ 1 ∧
          sent <+: plan.countQuery :: plan.sentQuery settings :: related := by
  cases hallowed : e.allow request p with
  | error failure =>
    have hnone : (e.search settings request p).Converses fun _ es => es = [] :=
      search_refused hallowed settings rfl
    refine hnone.sends ?_
    rintro r es rfl
    exact Or.inl rfl
  | ok allowed =>
    obtain ⟨plan, hplan, hpaired⟩ := exists_plan hallowed settings
    refine (search_talks hallowed hplan hpaired).sends fun r es htalk => Or.inr ?_
    exact ⟨allowed, plan, rfl, hplan, htalk.sent⟩

end Entity

end CatalogSearch
