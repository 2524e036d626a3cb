import CatalogSearch.Proofs.Authorization
import CatalogSearch.Proofs.Composition
import CatalogSearch.Proofs.Protocol

/-!
# Failures of the store

A query that the store refuses ends the search, whichever of the three it is and whatever came
before it. The client is told that the search failed and nothing else; the query and its parameters
go to the log. `Run.EndsAtFaults` says of a computation that a fault is the end of it and is noted,
and the parts of a search have that. Where the queries come from is read off the conversation of the
search (`Entity.SearchTalk.endsAt`).
-/

namespace CatalogSearch

/-! ### A fault is the end -/

/-- An exchange that a refusal of the query ended. -/
def Exchange.IsRefusal (x : Exchange) : Prop :=
  ∃ connecting fault, x.reply = .fault connecting fault ∧ fault.kind.isRefusal = true

theorem StoreFault.failure_of_isRefusal {f : StoreFault} (h : f.kind.isRefusal = true) (q : Query) :
    f.failure q = .execution q f :=
  if_pos h

namespace Run

variable {α β : Type}

/-- What a fault in an exchange does to a computation: it ends with the failure that the fault is
for the query, and a refusal is the last thing noted. -/
def EndsWith (x : Exchange) (r : Except Failure α) (notices : List Notice) : Prop :=
  ∀ connecting fault, x.reply = .fault connecting fault →
    r = .error (fault.failure x.query) ∧
      (fault.kind.isRefusal = true →
        ∃ before, notices = before ++ [.queryFailed x.query.text x.query.parameters])

def EndsAtFaults (m : Run α) : Prop :=
  ∀ s : Session, ∃ es, s.Passes es (m.run.run s).2 ∧
    ∀ x ∈ es, EndsWith x (m.run.run s).1 (m.run.run s).2.notices

namespace EndsAtFaults

theorem ofExcept (x : Except Failure α) : (Run.ofExcept x).EndsAtFaults := by
  intro s
  cases x with
  | ok a => exact ⟨[], .refl s s.notices, nofun⟩
  | error e => exact ⟨[], .refl s s.notices, nofun⟩

theorem report (notices : List Notice) : (Run.report notices).EndsAtFaults :=
  fun s => ⟨[], .refl s (s.notices ++ notices), nofun⟩

theorem ask (q : Query) : (Run.ask q).EndsAtFaults := by
  intro s
  obtain ⟨replies, calls, notices⟩ := s
  cases replies with
  | nil =>
    refine ⟨_, .single q rfl rfl, ?_⟩
    intro x hx connecting fault hfault
    rw [List.mem_singleton.1 hx] at hfault
    cases hfault
  | cons reply rest =>
    cases reply with
    | rows rows =>
      refine ⟨_, .single q rfl rfl, ?_⟩
      intro x hx connecting fault hfault
      rw [List.mem_singleton.1 hx] at hfault
      cases hfault
    | fault connecting fault =>
      have hrun : (Run.ask q).run.run ⟨.fault connecting fault :: rest, calls, notices⟩
          = (refuse q fault : Run (List Row)).run.run
              ⟨rest, if connecting then calls else calls ++ [q], notices⟩ := rfl
      rw [hrun, Converses.run_refuse]
      refine ⟨[⟨q, .fault connecting fault⟩], .single q rfl ?_, ?_⟩
      · cases connecting with
        | true => exact (List.append_nil calls).symm
        | false => rfl
      · intro x hx connecting' fault' hfault
        rw [List.mem_singleton.1 hx] at hfault ⊢
        cases hfault
        refine ⟨rfl, fun hrefusal => ⟨notices, ?_⟩⟩
        rw [if_pos hrefusal]

theorem bind {m : Run α} {f : α → Run β} (hm : m.EndsAtFaults) (hf : ∀ a, (f a).EndsAtFaults) :
    (m >>= f).EndsAtFaults := by
  intro s
  obtain ⟨es, hpasses, hends⟩ := hm s
  rw [run_bind]
  rcases hrun : m.run.run s with ⟨e | a, s'⟩
  · rw [hrun] at hpasses hends
    refine ⟨es, hpasses, ?_⟩
    intro x hx connecting fault hfault
    obtain ⟨hresult, hnoted⟩ := hends x hx connecting fault hfault
    cases hresult
    exact ⟨rfl, hnoted⟩
  · rw [hrun] at hpasses hends
    obtain ⟨more, hmore, hrest⟩ := hf a s'
    refine ⟨es ++ more, hpasses.trans hmore, ?_⟩
    intro x hx
    obtain hx | hx := List.mem_append.1 hx
    · -- what came to a value has met no fault
      intro connecting fault hfault
      cases (hends x hx connecting fault hfault).1
    · exact hrest x hx

theorem compositional : Compositional @EndsAtFaults := ⟨ofExcept, report, ask, bind⟩

end EndsAtFaults

end Run

/-! ### The query that is refused -/

section

variable {e : Entity} {settings : Settings} {plan : SearchPlan} {x : Exchange} {connecting : Bool}
  {fault : StoreFault}

theorem FetchTalk.endsAt {data count : Query} {size offset : Int} {r : Except Failure SearchPage}
    {es : List Exchange} (h : FetchTalk data count size offset r es) (hx : x ∈ es)
    (hfault : x.reply = .fault connecting fault) :
    es.getLast? = some x ∧ r = .error (fault.failure x.query) := by
  cases h with
  | countFault =>
    cases List.mem_singleton.1 hx
    cases hfault
    exact ⟨rfl, rfl⟩
  | miscount =>
    cases List.mem_singleton.1 hx
    cases hfault
  | pastEnd =>
    cases List.mem_singleton.1 hx
    cases hfault
  | dataFault =>
    obtain hx | hx := List.mem_cons.1 hx
    · cases hx
      cases hfault
    · cases List.mem_singleton.1 hx
      cases hfault
      exact ⟨rfl, rfl⟩
  | fetched =>
    obtain hx | hx := List.mem_cons.1 hx
    · cases hx
      cases hfault
    · cases List.mem_singleton.1 hx
      cases hfault

theorem Entity.CompleteTalk.endsAt {rows : List Row} {r : Except Failure (List Row)}
    {es : List Exchange} (h : e.CompleteTalk rows r es) (hx : x ∈ es)
    (hfault : x.reply = .fault connecting fault) :
    es.getLast? = some x ∧ r = .error (fault.failure x.query) := by
  cases h with
  | unkeyed => cases hx
  | alone => cases hx
  | fault =>
    cases List.mem_singleton.1 hx
    cases hfault
    exact ⟨rfl, rfl⟩
  | fetched =>
    cases List.mem_singleton.1 hx
    cases hfault

/-- A fault that a search meets is its last exchange and what it comes to. -/
theorem Entity.SearchTalk.endsAt {r : Except Failure SearchPage} {es : List Exchange}
    (h : e.SearchTalk settings plan r es) (hx : x ∈ es)
    (hfault : x.reply = .fault connecting fault) :
    es.getLast? = some x ∧ r = .error (fault.failure x.query) := by
  cases h with
  | failed h => exact h.endsAt hx hfault
  | @served page es h completed more hcomplete =>
    obtain hx | hx := List.mem_append.1 hx
    · cases (h.endsAt hx hfault).2
    · obtain ⟨hlast, hresult⟩ := hcomplete.endsAt hx hfault
      rw [List.getLast?_append, hlast, hresult]
      exact ⟨rfl, rfl⟩

end

namespace Session

/-- On the way from one session to another the store refuses a query: a refusal is among the replies
that are used up. -/
def Refuses (s s' : Session) : Prop :=
  ∃ used connecting fault, s.replies = used ++ s'.replies ∧ .fault connecting fault ∈ used ∧
    fault.kind.isRefusal = true

theorem Passes.exists_isRefusal {s s' : Session} {es : List Exchange} (h : s.Passes es s')
    (hrefuses : s.Refuses s') : ∃ x ∈ es, x.IsRefusal := by
  obtain ⟨used, connecting, fault, hsplit, hused, hrefusal⟩ := hrefuses
  obtain ⟨i, hi, hget⟩ := List.getElem_of_mem hused
  have hlength := congrArg List.length hsplit
  rw [List.length_append, h.rest, List.length_drop] at hlength
  -- each reply that is used up belongs to an exchange
  have hes : i < es.length := by omega
  have hreply := h.reply i es[i] (List.getElem?_eq_getElem hes)
  rw [Session.reply, hsplit, List.getElem?_append_left hi, List.getElem?_eq_getElem hi, hget]
    at hreply
  exact ⟨es[i], List.getElem_mem hes, connecting, fault, hreply, hrefusal⟩

end Session

namespace Entity

/-- A search over a plan ends at a query that is refused: the query is the last of the conversation,
and the search comes to its failure. -/
def FailsAt (e : Entity) (settings : Settings) (plan : SearchPlan) (q : Query)
    (s s' : Session) : Prop :=
  ∃ es connecting fault, s.Passes es s' ∧
    e.SearchTalk settings plan (.error (.execution q fault)) es ∧
    es.getLast? = some ⟨q, .fault connecting fault⟩

/-- A refused query ends the search. The search comes to the failure of that query, the last of
its conversation, and the query with its parameters is the last that is noted. -/
theorem search_failsAt (e : Entity) (settings : Settings) (request : SearchRequest) (p : Principal)
    {s : Session} (h : s.Refuses ((e.search settings request p).run.run s).2) :
    ∃ allowed plan q fault before, e.allow request p = .ok allowed ∧
      (e.compile settings allowed.request allowed.required).result = .ok plan ∧
      ((e.search settings request p).run.run s).1 = .error (.execution q fault) ∧
      ((e.search settings request p).run.run s).2.notices
        = before ++ [.queryFailed q.text q.parameters] ∧
      e.FailsAt settings plan q s ((e.search settings request p).run.run s).2 := by
  cases hallowed : e.allow request p with
  | error failure =>
    -- a search that is not allowed asks nothing
    have hnone : (e.search settings request p).Converses fun _ es => es = [] :=
      search_refused hallowed settings rfl
    obtain ⟨es, hpasses, hes⟩ := hnone s
    obtain ⟨x, hx, -⟩ := hpasses.exists_isRefusal h
    rw [hes] at hx
    cases hx
  | ok allowed =>
    obtain ⟨plan, hplan, hpaired⟩ := exists_plan hallowed settings
    obtain ⟨es, hpasses, htalk⟩ := search_talks hallowed hplan hpaired s
    obtain ⟨⟨q, reply⟩, hx, connecting, fault, hfault, hrefusal⟩ := hpasses.exists_isRefusal h
    dsimp only at hfault
    rw [hfault] at hx
    obtain ⟨hlast, hresult⟩ := htalk.endsAt hx rfl
    rw [StoreFault.failure_of_isRefusal hrefusal] at hresult
    -- the note is about the same query, because both are the failure that the search comes to
    obtain ⟨es', hpasses', hends⟩ := Run.EndsAtFaults.compositional.search e settings request p s
    obtain ⟨x', hx', connecting', fault', hfault', hrefusal'⟩ := hpasses'.exists_isRefusal h
    obtain ⟨hresult', hnoted⟩ := hends x' hx' connecting' fault' hfault'
    rw [StoreFault.failure_of_isRefusal hrefusal', hresult] at hresult'
    cases hresult'
    obtain ⟨before, hbefore⟩ := hnoted hrefusal'
    rw [hresult] at htalk
    exact ⟨allowed, plan, _, fault, before, rfl, hplan, hresult, hbefore, es, connecting, fault,
      hpasses, htalk, hlast⟩

end Entity

/-! ### What the client is told -/

/-- A request, and what is there when it arrives. -/
structure Arrival where
  settings : Settings
  now : Int
  /-- The id of a request that brings none. -/
  fresh : String
  request : HttpRequest
  session : Session

theorem replies_answerSearch (settings : Settings) (e : Entity) (asked : SearchRequest)
    (p : Principal) (session : Session) :
    (answerSearch settings e asked p session).session.replies
      = ((e.search settings asked p).run.run session).2.replies := by
  rw [answerSearch]
  split <;> simp [*]

theorem answerSearch_of_execution {settings : Settings} {e : Entity} {asked : SearchRequest}
    {p : Principal} {session : Session} {q : Query} {fault : StoreFault}
    (h : ((e.search settings asked p).run.run session).1 = .error (.execution q fault)) :
    answerSearch settings e asked p session
      = ⟨.detail 500 "Search failed", none, 1,
          { ((e.search settings asked p).run.run session).2 with
            notices := ((e.search settings asked p).run.run session).2.notices ++
              [.searchFailed e.area (p.claim "sub")] }⟩ := by
  rw [answerSearch]
  rcases hrun : (e.search settings asked p).run.run session with ⟨r, s'⟩
  rw [hrun] at h
  cases h
  rfl

namespace Arrival

def served (a : Arrival) : Served := serve a.settings a.now a.fresh a.request a.session

def headers (a : Arrival) : List (String × String) :=
  originHeaders a.settings (a.request.header? "origin") ++
    hardeningHeaders (requestId a.fresh (.text ((a.request.header? "x-request-id").getD "")))

structure Asks (a : Arrival) (e : Entity) (p : Principal) (asked : SearchRequest) : Prop where
  path : a.request.path = (Route.search e).path
  method : a.request.method = "POST"
  admitted : e.Admits a.settings a.now a.request p
  carried : a.request.Carries asked

/-- The log ends with a query that the store refused, at the level of errors, and with the name of
whoever searched. The query is the one at which the search that was asked for ends. -/
structure Logs (a : Arrival) (e : Entity) (p : Principal) (asked : SearchRequest) (q : Query) :
    Prop where
  query : ∃ allowed plan, e.allow asked p = .ok allowed ∧
    (e.compile a.settings allowed.request allowed.required).result = .ok plan ∧
    e.FailsAt a.settings plan q a.session a.served.session
  noted : ∃ before note, note = .queryFailed q.text q.parameters ∧ note.level = .error ∧
    note.logger = "archive_search.search" ∧
    a.served.session.notices = before ++ [note, .searchFailed e.area (p.claim "sub")]

variable {a : Arrival} {e : Entity} {p : Principal} {asked : SearchRequest}

theorem Asks.route_eq (h : a.Asks e p asked) :
    route a.settings a.now a.request a.session
      = answerSearch a.settings e asked p a.session := by
  rw [route_search e h.path h.method, h.admitted.serveSearch_eq h.carried]

theorem Asks.replies_served (h : a.Asks e p asked) :
    a.served.session.replies
      = ((e.search a.settings asked p).run.run a.session).2.replies := by
  rw [served, serve, h.route_eq, ← replies_answerSearch]
  split <;> rfl

/-- A search that the store refuses a query of is answered alike, whatever the query. -/
theorem Asks.answer_of_refuses (h : a.Asks e p asked)
    (hrefuses : a.session.Refuses a.served.session) :
    a.served.answer = (HttpAnswer.detail 500 "Search failed").withHeaders a.headers ∧
      ∃ q, a.Logs e p asked q := by
  have hsearch : a.session.Refuses ((e.search a.settings asked p).run.run a.session).2 := by
    obtain ⟨used, connecting, fault, hsplit, hused⟩ := hrefuses
    rw [h.replies_served] at hsplit
    exact ⟨used, connecting, fault, hsplit, hused⟩
  obtain ⟨allowed, plan, q, fault, before, hallowed, hplan, hresult, hnoted, es, connecting, fault',
    hpasses, htalk, hlast⟩ := e.search_failsAt a.settings asked p hsearch
  have hserved : a.served
      = ⟨(HttpAnswer.detail 500 "Search failed").withHeaders a.headers, none, 1,
          { ((e.search a.settings asked p).run.run a.session).2 with
            notices := ((e.search a.settings asked p).run.run a.session).2.notices ++
              [.searchFailed e.area (p.claim "sub")] }⟩ := by
    rw [served, serve, h.route_eq, answerSearch_of_execution hresult]
    rfl
  rw [hserved]
  refine ⟨rfl, q, ⟨allowed, plan, hallowed, hplan, ?_⟩, before, _, rfl, rfl, rfl, ?_⟩
  · rw [hserved]
    exact ⟨es, connecting, fault', ⟨hpasses.reply, hpasses.rest, hpasses.calls⟩, htalk, hlast⟩
  · rw [hserved, hnoted, List.append_assoc]
    rfl

end Arrival

/-- Failures of the store look alike. Two people are let in and search, for the same or for
something else, and in each search the store refuses some query, with any kind of refusal and any
words. Both get the same answer, but for the headers that come of their requests, and each log ends
with the query and its parameters. -/
theorem serve_opaque {a a' : Arrival} {e e' : Entity} {p p' : Principal}
    {asked asked' : SearchRequest} (h : a.Asks e p asked) (h' : a'.Asks e' p' asked')
    (hrefuses : a.session.Refuses a.served.session)
    (hrefuses' : a'.session.Refuses a'.served.session) :
    (∀ b ∈ [a, a'],
      b.served.answer.status = 500 ∧
        b.served.answer.content = .json (.object [("detail", .text "Search failed")]) ∧
        b.served.answer = (HttpAnswer.detail 500 "Search failed").withHeaders b.headers) ∧
      (∃ q, a.Logs e p asked q) ∧ ∃ q, a'.Logs e' p' asked' q := by
  obtain ⟨hanswer, hlogs⟩ := h.answer_of_refuses hrefuses
  obtain ⟨hanswer', hlogs'⟩ := h'.answer_of_refuses hrefuses'
  refine ⟨?_, hlogs, hlogs'⟩
  intro b hb
  have hblank : b.served.answer = (HttpAnswer.detail 500 "Search failed").withHeaders b.headers := by
    simp only [List.mem_cons, List.not_mem_nil, or_false] at hb
    obtain hb | hb := hb
    · rw [hb, hanswer]
    · rw [hb, hanswer']
  rw [hblank]
  exact ⟨rfl, rfl, rfl⟩

def regularSearch (e : Entity) (replies : List Reply) : Arrival where
  settings := signedSettings
  now := 1700000000
  fresh := "0"
  request :=
    { method := "POST"
      path := (Route.search e).path
      headers :=
        [("content-type", "application/json"), ("authorization", "bearer " ++ regularToken)]
      body := [0x7b, 0x7d] }
  session := { replies := replies }

def unreachable : List Reply := [.fault true ⟨.database, "unable to open database file"⟩]

/-- A store that lists a document and then cannot take its number. -/
def overflowing : List Reply :=
  [.rows [[("total", .int 1)]], .rows [[("archive_document_id", .int (2 ^ 80))]],
    .fault false ⟨.overflow, "Python int too large to convert to SQLite INTEGER"⟩]

theorem exists_read_regularToken :
    ∃ p : Principal, Token.read signedSettings.secret 1700000000 regularToken = .ok p ∧
      p.HasSubject ∧ p.claim "role" = .text Principal.regularRole := by
  have hclaims : (match Token.read signedSettings.secret 1700000000 regularToken with
      | .ok p =>
        (Principal.claim p "sub").isTruthy &&
          Principal.isOneOf [Principal.regularRole] (Principal.claim p "role")
      | .error _ => false) = true := by decide +kernel
  cases hread : Token.read signedSettings.secret 1700000000 regularToken with
  | error error =>
    rw [hread] at hclaims
    cases hclaims
  | ok p =>
    rw [hread, Bool.and_eq_true, Principal.isOneOf_iff] at hclaims
    obtain ⟨hsub, role, hregular, hrole⟩ := hclaims
    rw [List.mem_singleton.1 hregular] at hrole
    exact ⟨p, rfl, (isTruthy_sub_iff hread).1 hsub, hrole⟩

theorem asks_regularSearch {e : Entity} (he : e ≠ .logs) (replies : List Reply) :
    ∃ p, (regularSearch e replies).Asks e p {} := by
  obtain ⟨p, hread, hsubject, hrole⟩ := exists_read_regularToken
  have hbearer : (regularSearch e replies).request.bearerToken? = some regularToken := by
    change HttpRequest.bearerToken? ⟨"POST", "", [("content-type", "application/json"),
      ("authorization", "bearer " ++ regularToken)], []⟩ = some regularToken
    decide +kernel
  exact ⟨p, rfl, rfl, ⟨⟨_, hbearer, hread⟩, hsubject, .inr ⟨he, hrole⟩⟩, _, rfl, rfl⟩

theorem refuses_regularSearch {e : Entity} {replies : List Reply} {p : Principal}
    (h : (regularSearch e replies).Asks e p {}) {connecting : Bool} {fault : StoreFault}
    (hfault : .fault connecting fault ∈ replies) (hrefusal : fault.kind.isRefusal = true)
    (hnone : ((e.search signedSettings {} p).run.run { replies := replies }).2.replies = []) :
    (regularSearch e replies).session.Refuses (regularSearch e replies).served.session := by
  refine ⟨replies, connecting, fault, ?_, hfault, hrefusal⟩
  have hrest : (regularSearch e replies).served.session.replies = [] :=
    h.replies_served.trans hnone
  rw [hrest]
  exact (List.append_nil replies).symm

theorem replies_elements_unreachable (p : Principal) :
    ((Entity.elements.search signedSettings {} p).run.run { replies := unreachable }).2.replies
      = [] := by
  have hallowed : Entity.elements.allow {} p = .ok ⟨{}, [], []⟩ := rfl
  rw [← List.length_eq_zero_iff, Entity.search_eq_runPage hallowed]
  decide +kernel

theorem replies_documents_overflowing (p : Principal) :
    ((Entity.documents.search signedSettings {} p).run.run { replies := overflowing }).2.replies
      = [] := by
  have hallowed : Entity.documents.allow {} p = .ok ⟨{}, [activeOnly], []⟩ := rfl
  rw [← List.length_eq_zero_iff, Entity.search_eq_runPage hallowed]
  decide +kernel

/-- The elements cannot be searched because the store is not there, and the documents because it
cannot take the number of one of them. -/
theorem serve_opaque_regular :
    ∃ p p', (regularSearch .elements unreachable).Asks .elements p {} ∧
      (regularSearch .documents overflowing).Asks .documents p' {} ∧
      (regularSearch .elements unreachable).session.Refuses
        (regularSearch .elements unreachable).served.session ∧
      (regularSearch .documents overflowing).session.Refuses
        (regularSearch .documents overflowing).served.session ∧
      (regularSearch .elements unreachable).served.answer.content
        = (regularSearch .documents overflowing).served.answer.content := by
  obtain ⟨p, h⟩ := asks_regularSearch (e := .elements) (by decide) unreachable
  obtain ⟨p', h'⟩ := asks_regularSearch (e := .documents) (by decide) overflowing
  have hrefuses := refuses_regularSearch h List.mem_cons_self rfl (replies_elements_unreachable p)
  have hrefuses' := refuses_regularSearch h'
    (List.mem_cons_of_mem _ (List.mem_cons_of_mem _ List.mem_cons_self)) rfl
    (replies_documents_overflowing p')
  obtain ⟨hblank, -, -⟩ := serve_opaque h h' hrefuses hrefuses'
  have hcontent := (hblank _ List.mem_cons_self).2.1
  have hcontent' := (hblank _ (List.mem_cons_of_mem _ List.mem_cons_self)).2.1
  exact ⟨p, p', h, h', hrefuses, hrefuses', hcontent.trans hcontent'.symm⟩

end CatalogSearch
