import CatalogSearch.Proofs.Execution
import CatalogSearch.Proofs.PageCount
import CatalogSearch.Proofs.Transcript

/-!
# The protocol of a search

A search asks the store three questions at most: how many rows there are, which rows the page has,
and what belongs to those rows. Each question is asked only if the answer to the one before it calls
for it, and a fault ends the search with the failure that it is for the query that met it, the data
query with its page size corrected. `Entity.Protocol` says this of the exchanges of a search. It is
proved of every conversation that a search can come to (`Entity.SearchTalk.protocol`), and so of
every search.
-/

namespace CatalogSearch

open Query

/-! ### What the store is asked to keep to -/

/-- The total that a reply to a count query tells: an integer that a store can count to, or nothing,
which is zero. -/
inductive CountsTo (counted : List Row) : Int → Prop where
  | nothing (h : firstScalar counted = .null) : CountsTo counted 0
  | integer {n : Int} (h : firstScalar counted = .int n) (hbound : n.natAbs < 2 ^ 63) :
    CountsTo counted n

theorem CountsTo.countOf_eq {counted : List Row} {total : Int} (h : CountsTo counted total) :
    countOf counted = .ok total := by
  cases h with
  | nothing h => simp [countOf, h, Value.isTruthy]
  | integer h hbound => exact countOf_of_int h

theorem CountsTo.bound {counted : List Row} {total : Int} (h : CountsTo counted total) :
    total.natAbs < 2 ^ 63 := by
  cases h with
  | nothing => decide
  | integer h hbound => exact hbound

namespace Entity

/-! ### The protocol -/

/-- The replies of a store that keeps to the schema. The reply to the count query tells a total, and
if the page goes on, the rows in the reply to the data query have keys. -/
structure Answers (e : Entity) (plan : SearchPlan) (s : Session) : Prop where
  count : ∀ counted, s.reply 0 = .rows counted → ∃ total, CountsTo counted total
  data : ∀ counted total rows, s.reply 0 = .rows counted → CountsTo counted total →
    plan.offset < total → s.reply 1 = .rows rows → Keyed e.target.primaryKey rows

/-- Only the last exchange is a fault, if any is, and the end is then the failure that the fault is
for the query that met it. -/
def EndsByFault (r : Except Failure SearchPage) : List Exchange → Prop
  | [] => True
  | x :: rest =>
    (∀ connecting fault, x.reply = .fault connecting fault →
      rest = [] ∧ r = .error (fault.failure x.query)) ∧ EndsByFault r rest

/-- The protocol of a search over a plan, with the exchanges `es` and the end `r`, when the replies
of `s` are ready. -/
structure Protocol (e : Entity) (settings : Settings) (plan : SearchPlan) (s : Session)
    (r : Except Failure SearchPage) (es : List Exchange) : Prop where
  /-- The count query, the data query as it is sent, one query for related rows: the queries are
  these, or the first of these. -/
  order : ∃ related, es.map Exchange.query <+: [plan.countQuery, plan.sentQuery settings, related]
  count : 0 < es.length
  data : 1 < es.length ↔
    ∃ counted total, s.reply 0 = .rows counted ∧ CountsTo counted total ∧ plan.offset < total
  related : 2 < es.length ↔
    1 < es.length ∧ e ≠ logs ∧ ∃ rows, s.reply 1 = .rows rows ∧ rows ≠ []
  /-- The query for related rows asks for each key of the page once. -/
  owners : ∀ x, es[2]? = some x → ∃ source rows, e.source? = some source ∧ s.reply 1 = .rows rows ∧
    x.query = relatedQuery source.select source.owner
      (Value.firstSeen (keyValues e.target.primaryKey rows))
  marks : ∀ x ∈ es, Query.marks x.query.text = x.query.parameters.length
  fault : EndsByFault r es

theorem marks_sentQuery {plan : SearchPlan} (hpaired : plan.Paired) (settings : Settings) :
    Query.marks (plan.sentQuery settings).text = (plan.sentQuery settings).parameters.length := by
  have hdata := hpaired.aligned_data
  obtain ⟨htext, size, offset, hparameters⟩ := plan.sentQuery_eq settings
  rw [htext, hdata.marks, hdata.parameters, hparameters, SearchPlan.filterParameters,
    List.length_append, List.length_append]
  rfl

theorem Answers.countsTo {e : Entity} {plan : SearchPlan} {s : Session} (hs : e.Answers plan s)
    {counted : List Row} {total : Int} (hreply : s.reply 0 = .rows counted)
    (h : countOf counted = .ok total) : CountsTo counted total := by
  obtain ⟨n, hn⟩ := hs.count counted hreply
  cases hn.countOf_eq.symm.trans h
  exact hn

section

variable {e : Entity} {settings : Settings} {plan : SearchPlan} {s : Session}
  {r : Except Failure SearchPage} {counted rows : List Row} {total : Int} {reply : Reply}

theorem Protocol.of_count (hpaired : plan.Paired)
    (hend : ¬∃ counted total,
      s.reply 0 = .rows counted ∧ CountsTo counted total ∧ plan.offset < total)
    (hfault : ∀ connecting fault, reply = .fault connecting fault →
      r = .error (fault.failure plan.countQuery)) :
    e.Protocol settings plan s r [⟨plan.countQuery, reply⟩] where
  order := ⟨plan.countQuery, by simp⟩
  count := by simp
  data := iff_of_false (by simp) hend
  related := by simp
  owners := by simp
  marks := by simp [hpaired.aligned_count.marks]
  fault := by simpa [EndsByFault] using hfault

theorem Protocol.of_data (hpaired : plan.Paired) (h0 : s.reply 0 = .rows counted)
    (hcounts : CountsTo counted total) (hmore : plan.offset < total)
    (hend : ¬(e ≠ logs ∧ ∃ rows, s.reply 1 = .rows rows ∧ rows ≠ []))
    (hfault : ∀ connecting fault, reply = .fault connecting fault →
      r = .error (fault.failure (plan.sentQuery settings))) :
    e.Protocol settings plan s r
      [⟨plan.countQuery, .rows counted⟩, ⟨plan.sentQuery settings, reply⟩] where
  order := ⟨plan.countQuery, by simp⟩
  count := by simp
  data := iff_of_true (by simp) ⟨counted, total, h0, hcounts, hmore⟩
  related := iff_of_false (by simp) fun h => hend h.2
  owners := by simp
  marks := by simp [hpaired.aligned_count.marks, marks_sentQuery hpaired]
  fault := by simpa [EndsByFault] using hfault

theorem Protocol.of_related (hpaired : plan.Paired) (h0 : s.reply 0 = .rows counted)
    (hcounts : CountsTo counted total) (hmore : plan.offset < total) (h1 : s.reply 1 = .rows rows)
    {q : Query} (hq : e.relatedQuery? rows = some q)
    (hfault : ∀ connecting fault, reply = .fault connecting fault → r = .error (fault.failure q)) :
    e.Protocol settings plan s r
      [⟨plan.countQuery, .rows counted⟩, ⟨plan.sentQuery settings, .rows rows⟩, ⟨q, reply⟩] := by
  obtain ⟨hne, source, hsource, rfl⟩ := relatedQuery?_eq_some.1 hq
  have hlogs : e ≠ logs := by
    rintro rfl
    cases hsource
  exact {
    order := ⟨source.query e.target.primaryKey rows, by simp⟩
    count := by simp
    data := iff_of_true (by simp) ⟨counted, total, h0, hcounts, hmore⟩
    related := iff_of_true (by simp) ⟨by simp, hlogs, rows, h1, hne⟩
    owners := by
      rintro _ ⟨⟩
      exact ⟨source, rows, hsource, h1, rfl⟩
    marks := by
      simp [hpaired.aligned_count.marks, marks_sentQuery hpaired, marks_relatedQuery? hq]
    fault := by simpa [EndsByFault] using hfault }

/-- What a search comes to over a plan keeps to the protocol, when the store answers as it
should. -/
theorem SearchTalk.protocol (hpaired : plan.Paired) (hoffset : 0 ≤ plan.offset)
    (hsize : 1 ≤ plan.servedSize settings) (hs : e.Answers plan s) {es : List Exchange}
    (hreply : ∀ i x, es[i]? = some x → x.reply = s.reply i) (h : e.SearchTalk settings plan r es) :
    e.Protocol settings plan s r es := by
  have hstart : plan.window.offset = plan.offset := max_eq_right hoffset
  -- a page can be made of every total that is told, so only the store ends a search
  have hpage : ∀ counted total rows, CountsTo counted total →
      ∃ page, fetchedPage (plan.servedSize settings) plan.window.offset total rows = .ok page ∧
        page.rows = rows := by
    intro counted total rows hcounts
    obtain ⟨pages, hpages⟩ := exists_pageCount hcounts.bound (plan.servedSize settings)
    exact ⟨_, fetchedPage_eq (by omega) hpages _ rows, rfl⟩
  cases h with
  | @failed failure es h =>
    generalize hr : Except.error failure = r at h
    have h0 := fun x hx => (hreply 0 x hx).symm
    cases h with
    | countFault connecting fault =>
      refine .of_count hpaired ?_ ?_
      · simp [h0 _ rfl]
      · rintro _ _ ⟨⟩
        rfl
    | miscount h =>
      obtain ⟨total, hcounts⟩ := hs.count _ (h0 _ rfl)
      cases hcounts.countOf_eq.symm.trans h
    | pastEnd h hend =>
      obtain ⟨page, hpage, -⟩ := hpage _ _ [] (hs.countsTo (h0 _ rfl) h)
      cases hr.trans hpage
    | dataFault h hmore connecting fault =>
      rw [hstart] at hmore
      refine .of_data hpaired (h0 _ rfl) (hs.countsTo (h0 _ rfl) h) hmore ?_ ?_
      · simp [← hreply 1 _ rfl]
      · rintro _ _ ⟨⟩
        rfl
    | @fetched _ rows _ h hmore =>
      obtain ⟨page, hpage, -⟩ := hpage _ _ rows (hs.countsTo (h0 _ rfl) h)
      cases hr.trans hpage
  | @served page es h completed more hcomplete =>
    generalize hr : Except.ok page = r at h
    cases h with
    | countFault connecting fault => cases hr
    | miscount h => cases hr
    | dataFault h hmore connecting fault => cases hr
    | @pastEnd counted total h hend =>
      have h0 := (hreply 0 _ rfl).symm
      have hcounts := hs.countsTo h0 h
      rw [hstart] at hend
      -- there are no rows to complete
      have hmore : more = [] := by
        obtain ⟨page', hpage', hrows⟩ := hpage counted total [] hcounts
        cases hr.trans hpage'
        have hnone : e.relatedQuery? page.rows = none := relatedQuery?_eq_none.2 (Or.inl hrows)
        cases hcomplete with
        | unkeyed h => rfl
        | alone h => rfl
        | fault h => cases hnone.symm.trans h
        | fetched h => cases hnone.symm.trans h
      rw [hmore]
      refine .of_count hpaired ?_ (by simp)
      rintro ⟨counted', n, h0', hn, hmore⟩
      cases h0.symm.trans h0'
      cases h.symm.trans hn.countOf_eq
      omega
    | @fetched counted rows total h hmore =>
      have h0 := (hreply 0 _ rfl).symm
      have h1 := (hreply 1 _ rfl).symm
      have hcounts := hs.countsTo h0 h
      rw [hstart] at hmore
      obtain ⟨page', hpage', hrows⟩ := hpage counted total rows hcounts
      cases hr.trans hpage'
      rw [hrows] at hcomplete
      cases hcomplete with
      | unkeyed h => exact absurd (hs.data _ _ _ h0 hcounts hmore h1) h
      | alone h =>
        refine .of_data hpaired h0 hcounts hmore ?_ (by simp)
        rintro ⟨hlogs, rows', h1', hne⟩
        cases h1.symm.trans h1'
        exact (relatedQuery?_eq_none.1 h).elim hne hlogs
      | fault h connecting fault =>
        refine .of_related hpaired h0 hcounts hmore h1 h ?_
        rintro _ _ ⟨⟩
        rfl
      | fetched h related => exact .of_related hpaired h0 hcounts hmore h1 h (by simp)

end

theorem offset_nonneg {e : Entity} {settings : Settings} {request : SearchRequest}
    {required : List (String → Fragment)} {plan : SearchPlan}
    (h : (e.compile settings request required).result = .ok plan) : 0 ≤ plan.offset := by
  have hwindow := SearchTarget.window_of_compile h
  have hbounds := (SearchTarget.pageWindow_bounds settings request).2
  rwa [← hwindow] at hbounds

theorem userId?_of_text {p : Principal} {t : Text} (hsub : p.claim "sub" = .text t) :
    ∃ user, p.userId? = .ok user := by
  have hbounded : (p.claim "sub").toInteger ≠ .error .unbounded := by
    rw [hsub, Value.toInteger]
    split <;> simp
  rw [Principal.userId?]
  split
  case h_1 => exact ⟨_, rfl⟩
  case h_2 h => exact absurd h hbounded
  case h_3 => exact ⟨_, rfl⟩

theorem exists_allow {p : Principal} (hsub : p.claim "sub" = .null ∨ ∃ t, p.claim "sub" = .text t)
    (e : Entity) (request : SearchRequest) : ∃ allowed, e.allow request p = .ok allowed := by
  cases e with
  | documents => exact ⟨_, rfl⟩
  | elements => exact ⟨_, rfl⟩
  | logs => exact ⟨_, rfl⟩
  | notes =>
    obtain ⟨user, huser⟩ : ∃ user, p.userId? = .ok user := by
      rcases hsub with hsub | ⟨t, hsub⟩
      · exact ⟨none, by rw [Principal.userId?, hsub]; rfl⟩
      · exact userId?_of_text hsub
    rw [allow, allowNotes, huser]
    split
    · exact ⟨_, rfl⟩
    · exact ⟨_, rfl⟩

/-- The protocol of a search. Whoever comes without a subject or with one that is text is
allowed a plan, and whatever the store answers the search keeps to the protocol over that plan. -/
theorem search_protocol (e : Entity) {settings : Settings} (hdefault : 1 ≤ settings.defaultPageSize)
    (request : SearchRequest) {p : Principal}
    (hsub : p.claim "sub" = .null ∨ ∃ t, p.claim "sub" = .text t) :
    ∃ allowed plan, e.allow request p = .ok allowed ∧
      (e.compile settings allowed.request allowed.required).result = .ok plan ∧
      ∀ s, e.Answers plan s → ∃ es,
        s.Passes es ((e.search settings request p).run.run s).2 ∧
        e.Protocol settings plan s ((e.search settings request p).run.run s).1 es := by
  obtain ⟨allowed, hallowed⟩ := exists_allow hsub e request
  obtain ⟨plan, hplan, hpaired⟩ := exists_plan hallowed settings
  have hsize : 1 ≤ plan.servedSize settings := Settings.one_le_servedSize hdefault plan.pageSize
  refine ⟨allowed, plan, hallowed, hplan, ?_⟩
  intro s hs
  obtain ⟨es, hpasses, htalk⟩ := search_talks hallowed hplan hpaired s
  exact ⟨es, hpasses, htalk.protocol hpaired (offset_nonneg hplan) hsize hs hpasses.reply⟩

/-- The user 7 searches for notes, the store tells three and lists them with one key twice, and then
it refuses the query for their tags. -/
theorem search_protocol_notes :
    (1 : Int) ≤ Settings.defaultPageSize {} ∧
      (Principal.claim [("sub", .text "7")] "sub" = .null ∨
        ∃ t, Principal.claim [("sub", .text "7")] "sub" = .text t) ∧
      ∃ plan, ∀ s : Session,
        s.replies =
          [.rows [[("total", .int 3)]],
            .rows [[("note_id", .int 7)], [("note_id", .int 5)], [("note_id", .int 7)]],
            .fault false ⟨.database, "disk I/O error"⟩] →
        ∃ es, s.Passes es ((notes.search {} {} [("sub", .text "7")]).run.run s).2 ∧
          notes.Protocol {} plan s ((notes.search {} {} [("sub", .text "7")]).run.run s).1 es := by
  have hdefault : (1 : Int) ≤ Settings.defaultPageSize {} := by decide
  have hsub : Principal.claim [("sub", .text "7")] "sub" = .null ∨
      ∃ t, Principal.claim [("sub", .text "7")] "sub" = .text t := Or.inr ⟨_, rfl⟩
  obtain ⟨allowed, plan, hallowed, hplan, hprotocol⟩ := search_protocol notes hdefault {} hsub
  refine ⟨hdefault, hsub, plan, ?_⟩
  intro s hreplies
  refine hprotocol s ⟨?_, ?_⟩
  · intro counted hcounted
    rw [Session.reply, hreplies] at hcounted
    cases hcounted
    exact ⟨3, .integer rfl (by decide)⟩
  · intro counted total rows _ _ _ hrows
    rw [Session.reply, hreplies] at hrows
    cases hrows
    intro row hrow
    simp only [List.mem_cons, List.not_mem_nil, or_false] at hrow
    rcases hrow with rfl | rfl | rfl <;> exact ⟨_, rfl, rfl⟩

end Entity

end CatalogSearch
