import CatalogSearch.Entity.Search
import CatalogSearch.Proofs.Pairing

/-!
# What the store answers

A search and the store talk in exchanges: a query and the reply to it. `Run.Converses` says which
exchanges a computation has and what it comes to by them, for every list of replies that the store
may hold ready. It counts the queries that never reach the store because connecting fails, which the
store keeps no record of. One law for each way to put computations together gives the exchanges of a
whole from those of its parts.

`FetchTalk` lists the conversations that two queries for a page can come to, and
`SearchPlan.PageTalk` those of the two queries of a plan.
-/

namespace CatalogSearch

structure Exchange where
  query : Query
  reply : Reply

namespace Exchange

/-- The query, unless connecting failed and the store never saw it. -/
def recorded? : Exchange → Option Query
  | ⟨_, .fault true _⟩ => none
  | ⟨q, _⟩ => some q

end Exchange

def StoreFault.failure (f : StoreFault) (q : Query) : Failure :=
  if f.kind.isRefusal then .execution q f else .store f

namespace Session

/-- The reply to the query of a number. A store that has no more answers without rows. -/
def reply (s : Session) (i : Nat) : Reply := s.replies[i]?.getD (.rows [])

/-- One session goes over into another by some exchanges: the replies to come are taken up in order,
and the queries that reach the store are recorded. -/
structure Passes (s : Session) (es : List Exchange) (s' : Session) : Prop where
  reply : ∀ i e, es[i]? = some e → e.reply = s.reply i
  rest : s'.replies = s.replies.drop es.length
  calls : s'.calls = s.calls ++ es.filterMap Exchange.recorded?

namespace Passes

theorem refl (s : Session) (notices : List Notice) : s.Passes [] { s with notices := notices } where
  reply := by simp
  rest := rfl
  calls := (List.append_nil s.calls).symm

theorem trans {s s' s'' : Session} {es more : List Exchange} (h : s.Passes es s')
    (h' : s'.Passes more s'') : s.Passes (es ++ more) s'' where
  reply := by
    intro i e he
    rcases Nat.lt_or_ge i es.length with hi | hi
    · rw [List.getElem?_append_left hi] at he
      exact h.reply i e he
    · rw [List.getElem?_append_right hi] at he
      rw [h'.reply _ e he, Session.reply, Session.reply, h.rest, List.getElem?_drop,
        Nat.add_sub_cancel' hi]
  rest := by rw [h'.rest, h.rest, List.drop_drop, List.length_append]
  calls := by rw [h'.calls, h.calls, List.filterMap_append, List.append_assoc]

theorem single {s s' : Session} (q : Query) (hrest : s'.replies = s.replies.drop 1)
    (hcalls : s'.calls = s.calls ++ (Exchange.recorded? ⟨q, s.reply 0⟩).toList) :
    s.Passes [⟨q, s.reply 0⟩] s' where
  reply := by
    intro i e he
    cases i with
    | zero =>
      cases he
      rfl
    | succ i => simp at he
  rest := hrest
  calls := by
    rw [hcalls]
    cases h : Exchange.recorded? ⟨q, s.reply 0⟩ <;> simp [h]

end Passes

end Session

namespace Run

variable {α β : Type}

theorem run_bind (m : Run α) (f : α → Run β) (s : Session) :
    (m >>= f).run.run s = match m.run.run s with
      | (.ok a, s') => (f a).run.run s'
      | (.error e, s') => (.error e, s') := by
  rw [ExceptT.run_bind, StateT.run_bind]
  rcases m.run.run s with ⟨_ | _, s'⟩ <;> rfl

theorem ofExcept_ok_bind (a : α) (f : α → Run β) : Run.ofExcept (.ok a) >>= f = f a := rfl

/-- What a computation comes to and the exchanges that it has meet a condition, whatever the store
answers. -/
def Converses (m : Run α) (post : Except Failure α → List Exchange → Prop) : Prop :=
  ∀ s : Session, ∃ es, s.Passes es (m.run.run s).2 ∧ post (m.run.run s).1 es

namespace Converses

variable {m : Run α} {f : α → Run β} {mid : Except Failure α → List Exchange → Prop}
  {post : Except Failure β → List Exchange → Prop}

theorem mono {weaker : Except Failure α → List Exchange → Prop} (h : m.Converses mid)
    (himp : ∀ r es, mid r es → weaker r es) : m.Converses weaker := by
  intro s
  obtain ⟨es, hpasses, hmid⟩ := h s
  exact ⟨es, hpasses, himp _ _ hmid⟩

theorem pure {a : α} (h : mid (.ok a) []) : (Pure.pure a : Run α).Converses mid :=
  fun s => ⟨[], .refl s s.notices, h⟩

theorem bind_throw {e : Failure} (h : post (.error e) []) :
    ((MonadExcept.throw e : Run α) >>= f).Converses post :=
  fun s => ⟨[], .refl s s.notices, h⟩

theorem ofExcept {x : Except Failure α} (h : mid x []) : (Run.ofExcept x).Converses mid := by
  intro s
  cases x with
  | ok a => exact ⟨[], .refl s s.notices, h⟩
  | error e => exact ⟨[], .refl s s.notices, h⟩

theorem report (notices : List Notice) {mid : Except Failure Unit → List Exchange → Prop}
    (h : mid (.ok ()) []) : (Run.report notices).Converses mid :=
  fun s => ⟨[], .refl s (s.notices ++ notices), h⟩

/-- Two computations in a row have the exchanges of the first and then those of the second. -/
theorem bind (hm : m.Converses mid)
    (hok : ∀ a es, mid (.ok a) es → (f a).Converses fun r more => post r (es ++ more))
    (herror : ∀ e es, mid (.error e) es → post (.error e) es) : (m >>= f).Converses post := by
  intro s
  obtain ⟨es, hpasses, hmid⟩ := hm s
  rw [run_bind]
  rcases hrun : m.run.run s with ⟨e | a, s'⟩
  · rw [hrun] at hpasses hmid
    exact ⟨es, hpasses, herror e es hmid⟩
  · rw [hrun] at hpasses hmid
    obtain ⟨more, hmore, hpost⟩ := hok a es hmid s'
    exact ⟨es ++ more, hpasses.trans hmore, hpost⟩

theorem bind_ofExcept {x : Except Failure α} (hok : ∀ a, x = .ok a → (f a).Converses post)
    (herror : ∀ e, x = .error e → post (.error e) []) : (Run.ofExcept x >>= f).Converses post := by
  have hfirst : (Run.ofExcept x).Converses fun r es => r = x ∧ es = [] := ofExcept ⟨rfl, rfl⟩
  refine bind hfirst ?_ ?_
  · rintro a es ⟨hx, rfl⟩
    exact hok a hx.symm
  · rintro e es ⟨hx, rfl⟩
    exact herror e hx.symm

theorem bind_mapError {ε : Type} {x : Except ε α} {g : ε → Failure}
    (hok : ∀ a, x = .ok a → (f a).Converses post)
    (herror : ∀ e, x = .error e → post (.error (g e)) []) :
    (Run.ofExcept (x.mapError g) >>= f).Converses post := by
  cases x with
  | error e =>
    refine bind_ofExcept nofun ?_
    intro e' he
    cases he
    exact herror e rfl
  | ok a =>
    refine bind_ofExcept ?_ nofun
    intro a' ha
    cases ha
    exact hok a rfl

theorem bind_report {notices : List Notice} {f : Unit → Run β} (h : (f ()).Converses post) :
    (Run.report notices >>= f).Converses post := by
  have hfirst : (Run.report notices).Converses fun r es => r = .ok () ∧ es = [] :=
    report notices ⟨rfl, rfl⟩
  refine bind hfirst ?_ ?_
  · rintro a es ⟨-, rfl⟩
    exact h
  · rintro e es ⟨hr, -⟩
    cases hr

theorem run_refuse (q : Query) (fault : StoreFault) (s : Session) :
    (refuse q fault : Run α).run.run s
      = (.error (fault.failure q),
          { s with notices := s.notices ++
              if fault.kind.isRefusal then [.queryFailed q.text q.parameters] else [] }) := by
  rw [refuse, StoreFault.failure]
  split
  · rfl
  · rw [List.append_nil]
    rfl

theorem ask {q : Query} {mid : Except Failure (List Row) → List Exchange → Prop}
    (hrows : ∀ rows, mid (.ok rows) [⟨q, .rows rows⟩])
    (hfault : ∀ connecting fault,
      mid (.error (fault.failure q)) [⟨q, .fault connecting fault⟩]) :
    (Run.ask q).Converses mid := by
  rintro ⟨replies, calls, notices⟩
  cases replies with
  | nil => exact ⟨_, .single q rfl rfl, hrows []⟩
  | cons reply rest =>
    cases reply with
    | rows rows => exact ⟨_, .single q rfl rfl, hrows rows⟩
    | fault connecting fault =>
      have hrun : (Run.ask q).run.run ⟨.fault connecting fault :: rest, calls, notices⟩
          = (refuse q fault : Run (List Row)).run.run
              ⟨rest, if connecting then calls else calls ++ [q], notices⟩ := rfl
      rw [hrun, run_refuse]
      -- without a connection the store keeps no record of the query
      refine ⟨_, .single q rfl ?_, hfault connecting fault⟩
      cases connecting with
      | true => exact (List.append_nil calls).symm
      | false => rfl

theorem bind_ask {q : Query} {f : List Row → Run β}
    (hrows : ∀ rows, (f rows).Converses fun r more => post r (⟨q, .rows rows⟩ :: more))
    (hfault : ∀ connecting fault,
      post (.error (fault.failure q)) [⟨q, .fault connecting fault⟩]) :
    (Run.ask q >>= f).Converses post := by
  have hfirst : (Run.ask q).Converses fun r es =>
      (∃ rows, r = .ok rows ∧ es = [⟨q, .rows rows⟩]) ∨
        ∃ connecting fault, r = .error (fault.failure q) ∧ es = [⟨q, .fault connecting fault⟩] :=
    ask (fun rows => Or.inl ⟨rows, rfl, rfl⟩)
      fun connecting fault => Or.inr ⟨connecting, fault, rfl, rfl⟩
  refine bind hfirst ?_ ?_
  · rintro rows es (⟨_, hr, rfl⟩ | ⟨_, _, hr, -⟩)
    · cases hr
      exact hrows rows
    · cases hr
  · rintro e es (⟨_, hr, -⟩ | ⟨connecting, fault, hr, rfl⟩)
    · cases hr
    · cases hr
      exact hfault connecting fault

end Converses

end Run

/-! ### A page -/

/-- A data query as it is sent, with the default size in the place of one that is not positive. -/
def Window.correct (w : Window) (settings : Settings) (data : Query) : Query :=
  if w.size ≤ 0 then ⟨data.text, w.filters ++ [.int settings.defaultPageSize, w.offsetValue]⟩
  else data

def fetchPage (data count : Query) (size offset : Int) : Run SearchPage := do
  let total ← Run.ofExcept (countOf (← Run.ask count))
  let rows ← if offset < total then Run.ask data else pure []
  if size = 0 then throw .zeroPageSize
  let pages ← Run.ofExcept (pageCount total size)
  return ⟨rows, offset.fdiv size + 1, size, total, pages⟩

/-- A page is fetched with the query and the size that its window stands for, after a notice if they
were corrected. -/
theorem runPage_eq (settings : Settings) (data count : Query) :
    runPage settings data count = Run.ofExcept (data.window.mapError .defect) >>= fun w =>
      if w.size ≤ 0 then
        Run.report [.pageSizeCorrected w.sizeValue settings.defaultPageSize] >>= fun _ =>
          fetchPage (w.correct settings data) count settings.defaultPageSize w.offset
      else fetchPage (w.correct settings data) count w.size w.offset := by
  rw [runPage]
  congr 1
  funext w
  by_cases hsize : w.size ≤ 0
  · simp only [hsize, Window.correct, if_true]
    rfl
  · simp only [hsize, Window.correct, if_false]
    rfl

theorem runSubmitted_of_check {data count : Submission} {fetching counting : Query}
    (hdata : data.check .data = .ok fetching) (hcount : count.check .count = .ok counting)
    (settings : Settings) :
    runSubmitted settings data count = runPage settings fetching counting := by
  rw [runSubmitted, hdata, hcount]
  rfl

/-- The size of the pages that are served when a size is asked for. -/
def Settings.servedSize (settings : Settings) (size : Int) : Int :=
  if size ≤ 0 then settings.defaultPageSize else size

theorem Settings.one_le_servedSize {settings : Settings} (h : 1 ≤ settings.defaultPageSize)
    (size : Int) : 1 ≤ settings.servedSize size := by
  rw [servedSize]
  split
  · exact h
  · omega

/-- The page that is made of a total and of the rows that were fetched. -/
def fetchedPage (size offset total : Int) (rows : List Row) : Except Failure SearchPage :=
  if size = 0 then .error .zeroPageSize
  else (pageCount total size).map fun pages =>
    ⟨rows, offset.fdiv size + 1, size, total, pages⟩

theorem fetchedPage_eq {size total pages : Int} (hsize : size ≠ 0)
    (hpages : pageCount total size = .ok pages) (offset : Int) (rows : List Row) :
    fetchedPage size offset total rows = .ok ⟨rows, offset.fdiv size + 1, size, total, pages⟩ := by
  rw [fetchedPage, if_neg hsize, hpages]
  rfl

theorem rows_of_fetchedPage {size offset total : Int} {rows : List Row} {page : SearchPage}
    (h : fetchedPage size offset total rows = .ok page) : page.rows = rows := by
  rw [fetchedPage] at h
  split at h
  case isTrue => cases h
  case isFalse =>
    cases hpages : pageCount total size with
    | error failure =>
      rw [hpages] at h
      cases h
    | ok pages =>
      rw [hpages] at h
      cases h
      rfl

/-- What fetching a page comes to, by the replies to its two queries. -/
inductive FetchTalk (data count : Query) (size offset : Int) :
    Except Failure SearchPage → List Exchange → Prop where
  | countFault (connecting : Bool) (fault : StoreFault) :
    FetchTalk data count size offset (.error (fault.failure count))
      [⟨count, .fault connecting fault⟩]
  | miscount {counted : List Row} {e : Failure} (h : countOf counted = .error e) :
    FetchTalk data count size offset (.error e) [⟨count, .rows counted⟩]
  | pastEnd {counted : List Row} {total : Int} (h : countOf counted = .ok total)
      (hend : total ≤ offset) :
    FetchTalk data count size offset (fetchedPage size offset total [])
      [⟨count, .rows counted⟩]
  | dataFault {counted : List Row} {total : Int} (h : countOf counted = .ok total)
      (hmore : offset < total) (connecting : Bool) (fault : StoreFault) :
    FetchTalk data count size offset (.error (fault.failure data))
      [⟨count, .rows counted⟩, ⟨data, .fault connecting fault⟩]
  | fetched {counted rows : List Row} {total : Int} (h : countOf counted = .ok total)
      (hmore : offset < total) :
    FetchTalk data count size offset (fetchedPage size offset total rows)
      [⟨count, .rows counted⟩, ⟨data, .rows rows⟩]

/-- Fetching a page comes to one of five conversations. -/
theorem fetchPage_talks (data count : Query) (size offset : Int) :
    (fetchPage data count size offset).Converses (FetchTalk data count size offset) := by
  refine .bind_ask ?_ .countFault
  intro counted
  refine .bind_ofExcept ?_ fun e he => .miscount he
  intro total htotal
  extract_lets finish
  -- what is left has no more exchanges and makes the page
  have hfinish : ∀ rows, (finish rows).Converses fun r es =>
      r = fetchedPage size offset total rows ∧ es = [] := by
    intro rows
    dsimp only [finish]
    rw [fetchedPage]
    split
    case isTrue => exact .bind_throw ⟨rfl, rfl⟩
    case isFalse =>
      refine .bind_ofExcept (fun pages hpages => .pure ⟨?_, rfl⟩) fun e he => ⟨?_, rfl⟩
      · rw [hpages]
        rfl
      · rw [he]
        rfl
  split
  case isTrue hmore =>
    refine .bind_ask ?_ fun connecting fault => .dataFault htotal hmore connecting fault
    intro rows
    refine (hfinish rows).mono ?_
    intro r es h
    obtain ⟨rfl, rfl⟩ := h
    exact .fetched htotal hmore
  case isFalse hend =>
    refine (hfinish []).mono ?_
    intro r es h
    obtain ⟨rfl, rfl⟩ := h
    exact .pastEnd htotal (by omega)

theorem runPage_talks (settings : Settings) {data count : Query} {w : Window}
    (hw : data.window = .ok w) :
    (runPage settings data count).Converses
      (FetchTalk (w.correct settings data) count (settings.servedSize w.size) w.offset) := by
  rw [runPage_eq, hw, Settings.servedSize]
  refine .bind_mapError ?_ nofun
  intro w' hw'
  cases hw'
  split
  · exact .bind_report (fetchPage_talks _ _ _ _)
  · exact fetchPage_talks _ _ _ _

theorem trim_isEmpty_eq_false {s : String} {c : Char} (hc : c ∈ s.toList)
    (hblank : Text.isBlank c = false) : (Text.trim s).isEmpty = false := by
  have hcount : (Text.trim s).toList.count c = s.toList.count c := by
    rw [Text.trim, String.toList_ofList, Text.stripChars, List.count_reverse,
      count_dropWhile hblank, List.count_reverse, count_dropWhile hblank]
  have hpos : 0 < (Text.trim s).toList.count c := by
    rw [hcount]
    exact List.count_pos_iff.2 hc
  rw [← Bool.not_eq_true, String.isEmpty_iff]
  intro hempty
  rw [hempty] at hpos
  simp at hpos

/-- A query with some text and a parameter for each mark passes the checks. -/
theorem Submission.check_ofQuery (q : Query) {c : Char} (hc : c ∈ q.text.toList)
    (hblank : Text.isBlank c = false) (hmarks : Query.marks q.text = q.parameters.length)
    (role : QueryRole) : (Submission.ofQuery q).check role = .ok q := by
  rw [Submission.ofQuery, Submission.check, trim_isEmpty_eq_false hc hblank, if_neg (by simp)]
  simp only [hmarks, if_true]

theorem Submission.eq_of_check_ofQuery {q q' : Query} {role : QueryRole}
    (h : (Submission.ofQuery q).check role = .ok q') : q' = q := by
  rw [ofQuery, check] at h
  split at h
  case isTrue => cases h
  case isFalse =>
    split at h
    case isTrue =>
      cases h
      rfl
    case isFalse => cases h

theorem Query.window_append (text : String) (filters : List Value) {limit skip : Value}
    {size offset : Int} (hlimit : limit.asInteger? = some size)
    (hskip : skip.asInteger? = some offset) :
    Query.window ⟨text, filters ++ [limit, skip]⟩
      = .ok ⟨filters, limit, if 0 < offset then skip else .int 0, size, max 0 offset⟩ := by
  rw [window, List.reverse_append]
  simp only [List.reverse_cons, List.reverse_nil, List.nil_append, List.cons_append, hlimit, hskip,
    List.reverse_reverse]

namespace SearchPlan

def window (plan : SearchPlan) : Window where
  filters := plan.filterParameters
  sizeValue := .int plan.pageSize
  offsetValue := .int (max 0 plan.offset)
  size := plan.pageSize
  offset := max 0 plan.offset

theorem window_dataQuery (plan : SearchPlan) : plan.dataQuery.window = .ok plan.window := by
  have hleast : (if 0 < plan.offset then Value.int plan.offset else .int 0)
      = .int (max 0 plan.offset) := by
    split
    · rw [Int.max_eq_right (by omega)]
    · rw [Int.max_eq_left (by omega)]
  have hsize : (Value.int plan.pageSize).asInteger? = some plan.pageSize := rfl
  have hoffset : (Value.int plan.offset).asInteger? = some plan.offset := rfl
  have hw := Query.window_append plan.dataQuery.text plan.filterParameters hsize hoffset
  rw [hleast] at hw
  exact hw

def sentQuery (plan : SearchPlan) (settings : Settings) : Query :=
  plan.window.correct settings plan.dataQuery

theorem sentQuery_eq (plan : SearchPlan) (settings : Settings) :
    (plan.sentQuery settings).text = plan.dataQuery.text ∧ ∃ size offset : Int,
      (plan.sentQuery settings).parameters = plan.filterParameters ++ [.int size, .int offset] := by
  rw [sentQuery, Window.correct]
  split
  · exact ⟨rfl, _, _, rfl⟩
  · exact ⟨rfl, _, _, rfl⟩

def servedSize (plan : SearchPlan) (settings : Settings) : Int :=
  settings.servedSize plan.pageSize

/-- What the two queries of a plan come to: fetching its page, the data query as it is sent. -/
def PageTalk (plan : SearchPlan) (settings : Settings) :
    Except Failure SearchPage → List Exchange → Prop :=
  FetchTalk (plan.sentQuery settings) plan.countQuery (plan.servedSize settings) plan.window.offset

theorem Paired.check_data {plan : SearchPlan} (h : plan.Paired) :
    (Submission.ofQuery plan.dataQuery).check .data = .ok plan.dataQuery := by
  have hselect : 'S' ∈ "SELECT DISTINCT ".toList := by decide
  have hs : 'S' ∈ plan.dataQuery.text.toList := by
    rw [dataQuery_text]
    unfold dataHead
    simp only [String.toList_append, List.mem_append]
    exact Or.inl (Or.inl (Or.inl (Or.inl hselect)))
  exact Submission.check_ofQuery plan.dataQuery hs (by decide) h.aligned_data.marks .data

theorem Paired.check_count {plan : SearchPlan} (h : plan.Paired) :
    (Submission.ofQuery plan.countQuery).check .count = .ok plan.countQuery := by
  have hselect : 'S' ∈ "SELECT COUNT(DISTINCT ".toList := by decide
  have hs : 'S' ∈ plan.countQuery.text.toList := by
    rw [countQuery_text]
    unfold countHead
    simp only [String.toList_append, List.mem_append]
    exact Or.inl (Or.inl (Or.inl (Or.inl (Or.inl hselect))))
  exact Submission.check_ofQuery plan.countQuery hs (by decide) h.aligned_count.marks .count

theorem Paired.run_eq {plan : SearchPlan} (h : plan.Paired) (settings : Settings) :
    plan.run settings = runPage settings plan.dataQuery plan.countQuery :=
  runSubmitted_of_check h.check_data h.check_count settings

/-- Running a plan fetches its page. -/
theorem Paired.run_talks {plan : SearchPlan} (h : plan.Paired) (settings : Settings) :
    (plan.run settings).Converses (plan.PageTalk settings) := by
  rw [h.run_eq]
  exact runPage_talks settings plan.window_dataQuery

end SearchPlan

end CatalogSearch
