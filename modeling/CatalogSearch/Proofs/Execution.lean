import CatalogSearch.Proofs.Conversation

/-!
# The window that is executed

A data query ends with its window: the size of the page and the offset of its first row. Both are
corrected before they are used. A size that is not positive gives way to the default size, and an
offset below zero counts as zero. Only the first correction writes the query anew, with the offset
that counts, so an offset below zero is sent as it is when the size needs no correction.

`Executes` says how a run goes by a window, and every submission that passes the checks is run by
one (`runSubmitted_executes`). The page that comes back tells that window. It is also the window that
was sent unless the size is positive and the offset below zero (`tellsWindow_iff`).
-/

namespace CatalogSearch

theorem countOf_of_int {counted : List Row} {total : Int} (h : firstScalar counted = .int total) :
    countOf counted = .ok total := by
  rw [countOf, h]
  by_cases hzero : total = 0
  · simp [hzero, Value.isTruthy]
  · simp [hzero, Value.isTruthy, Value.toInteger, Except.mapError]

namespace FetchTalk

variable {data count : Query} {size offset : Int} {r : Except Failure SearchPage}
  {es : List Exchange}

/-- What comes of a count query that tells a total: the page is empty and complete, or the data query
is sent. -/
theorem of_total {s : Session} (h : FetchTalk data count size offset r es)
    (hreply : ∀ i x, es[i]? = some x → x.reply = s.reply i) {counted : List Row} {total : Int}
    (h0 : s.reply 0 = .rows counted) (htotal : countOf counted = .ok total) :
    (total ≤ offset ∧ es = [⟨count, s.reply 0⟩] ∧ r = fetchedPage size offset total []) ∨
      offset < total ∧ es = [⟨count, s.reply 0⟩, ⟨data, s.reply 1⟩] ∧
        (∀ rows, s.reply 1 = .rows rows → r = fetchedPage size offset total rows) ∧
        ∀ connecting fault, s.reply 1 = .fault connecting fault →
          r = .error (fault.failure data) := by
  cases h with
  | countFault => cases h0.symm.trans (hreply 0 _ rfl).symm
  | miscount h' =>
    cases h0.symm.trans (hreply 0 _ rfl).symm
    cases htotal.symm.trans h'
  | pastEnd h' hend =>
    rw [← hreply 0 _ rfl]
    cases h0.symm.trans (hreply 0 _ rfl).symm
    cases htotal.symm.trans h'
    exact Or.inl ⟨hend, rfl, rfl⟩
  | dataFault h' hmore =>
    rw [← hreply 0 _ rfl, ← hreply 1 _ rfl]
    cases h0.symm.trans (hreply 0 _ rfl).symm
    cases htotal.symm.trans h'
    refine Or.inr ⟨hmore, rfl, by simp, ?_⟩
    intro connecting fault h1
    cases h1
    rfl
  | fetched h' hmore =>
    rw [← hreply 0 _ rfl, ← hreply 1 _ rfl]
    cases h0.symm.trans (hreply 0 _ rfl).symm
    cases htotal.symm.trans h'
    refine Or.inr ⟨hmore, rfl, ?_, by simp⟩
    intro rows h1
    cases h1
    rfl

theorem of_sent (h : FetchTalk data count size offset r es) {x : Exchange}
    (hx : es[1]? = some x) : x.query = data ∧ ∃ counted total,
      es[0]? = some ⟨count, .rows counted⟩ ∧ countOf counted = .ok total ∧ offset < total := by
  cases h with
  | countFault => simp at hx
  | miscount => simp at hx
  | pastEnd => simp at hx
  | dataFault h hmore =>
    cases hx
    exact ⟨rfl, _, _, rfl, h, hmore⟩
  | fetched h hmore =>
    cases hx
    exact ⟨rfl, _, _, rfl, h, hmore⟩

end FetchTalk

/-! ### Going by a window -/

/-- A run goes by a window of some size at some offset. The count query comes first, and the data
query follows exactly if the total is beyond the offset. The page is made of the rows, the total and
the window, unless the quotient of total and size is too large to be rounded. -/
structure Executes (m : Run SearchPage) (count data : Query) (size offset : Int) : Prop where
  within : ∀ {s : Session} {counted : List Row} {total : Int}, s.reply 0 = .rows counted →
    countOf counted = .ok total → offset < total →
      s.Passes [⟨count, s.reply 0⟩, ⟨data, s.reply 1⟩] (m.run.run s).2 ∧
        (∀ rows, s.reply 1 = .rows rows → (m.run.run s).1 = (pageCount total size).map fun pages =>
          ⟨rows, offset.fdiv size + 1, size, total, pages⟩) ∧
        ∀ connecting fault, s.reply 1 = .fault connecting fault →
          (m.run.run s).1 = .error (fault.failure data)
  beyond : ∀ {s : Session} {counted : List Row} {total : Int}, s.reply 0 = .rows counted →
    countOf counted = .ok total → total ≤ offset →
      s.Passes [⟨count, s.reply 0⟩] (m.run.run s).2 ∧
        (m.run.run s).1 = (pageCount total size).map fun pages =>
          ⟨[], offset.fdiv size + 1, size, total, pages⟩

theorem Run.Converses.executes {m : Run SearchPage} {count data : Query} {size offset : Int}
    (h : m.Converses (FetchTalk data count size offset)) (hsize : size ≠ 0) :
    Executes m count data size offset where
  within := by
    intro s counted total h0 htotal hmore
    obtain ⟨es, hpasses, htalk⟩ := h s
    obtain ⟨hend, -⟩ | ⟨-, rfl, hrows, hfault⟩ := htalk.of_total hpasses.reply h0 htotal
    · omega
    · refine ⟨hpasses, ?_, hfault⟩
      intro rows h1
      rw [hrows rows h1, fetchedPage, if_neg hsize]
  beyond := by
    intro s counted total h0 htotal hend
    obtain ⟨es, hpasses, htalk⟩ := h s
    obtain ⟨-, rfl, hr⟩ | ⟨hmore, -⟩ := htalk.of_total hpasses.reply h0 htotal
    · rw [hr, fetchedPage, if_neg hsize]
      exact ⟨hpasses, rfl⟩
    · omega

/-- A page comes back exactly if the data query, where it is sent, is answered with rows. -/
theorem Executes.eq_ok_iff {m : Run SearchPage} {count data : Query} {size offset total pages : Int}
    (h : Executes m count data size offset) {s : Session} {counted : List Row}
    (h0 : s.reply 0 = .rows counted) (htotal : countOf counted = .ok total)
    (hpages : pageCount total size = .ok pages) (page : SearchPage) :
    (m.run.run s).1 = .ok page ↔
      ∃ rows, (if offset < total then s.reply 1 = .rows rows else rows = []) ∧
        page = ⟨rows, offset.fdiv size + 1, size, total, pages⟩ := by
  by_cases hmore : offset < total
  · obtain ⟨-, hrows, hfault⟩ := h.within h0 htotal hmore
    cases h1 : s.reply 1 with
    | rows rows =>
      rw [hrows rows h1, hpages]
      simp [Except.map, hmore, eq_comm]
    | fault connecting fault =>
      rw [hfault connecting fault h1]
      simp [hmore]
  · obtain ⟨-, hr⟩ := h.beyond h0 htotal (by omega)
    rw [hr, hpages]
    simp [Except.map, hmore, eq_comm]

theorem SearchPlan.Paired.executes {plan : SearchPlan} (h : plan.Paired) {settings : Settings}
    (hsize : plan.servedSize settings ≠ 0) :
    Executes (plan.run settings) plan.countQuery (plan.sentQuery settings)
      (plan.servedSize settings) plan.window.offset :=
  (h.run_talks settings).executes hsize

def countingStore (total : Int) : Session := { replies := [.rows [[("total", .int total)]]] }

theorem Executes.data_eq {m : Run SearchPage} {count data data' : Query}
    {size offset size' offset' : Int} (h : Executes m count data size offset)
    (h' : Executes m count data' size' offset') : data = data' := by
  -- a total beyond both offsets makes the run send the query that it has
  have hcount : countOf [[(Text.ofString "total", Value.int (max offset offset' + 1))]]
      = .ok (max offset offset' + 1) := countOf_of_int rfl
  obtain ⟨hpasses, -⟩ :=
    h.within (s := countingStore (max offset offset' + 1)) rfl hcount (by omega)
  obtain ⟨hpasses', -⟩ :=
    h'.within (s := countingStore (max offset offset' + 1)) rfl hcount (by omega)
  have hcalls := hpasses.calls.symm.trans hpasses'.calls
  have hdata : [count, data] = [count, data'] := List.append_cancel_left hcalls
  simpa using hdata

/-! ### Submissions -/

theorem runSubmitted_talks (settings : Settings) (data count : Submission) :
    (runSubmitted settings data count).Converses fun r es =>
      (∃ defect, r = .error (.defect defect) ∧ es = []) ∨
        ∃ fetching counting w, data.check .data = .ok fetching ∧
          count.check .count = .ok counting ∧ fetching.window = .ok w ∧
          FetchTalk (w.correct settings fetching) counting (settings.servedSize w.size) w.offset
            r es := by
  rw [runSubmitted]
  refine .bind_mapError ?_ fun defect _ => Or.inl ⟨defect, rfl, rfl⟩
  intro fetching hdata
  refine .bind_mapError ?_ fun defect _ => Or.inl ⟨defect, rfl, rfl⟩
  intro counting hcount
  cases hw : fetching.window with
  | error defect =>
    rw [runPage_eq, hw]
    refine .bind_mapError ?_ fun _ _ => Or.inl ⟨_, rfl, rfl⟩
    intro w h
    cases h
  | ok w =>
    refine (runPage_talks settings hw).mono ?_
    intro r es htalk
    exact Or.inr ⟨fetching, counting, w, hdata, hcount, hw, htalk⟩

section

variable {settings : Settings} {data count : Submission} {text : String} {filters : List Value}
  {limit skip : Value} {counting : Query} {size offset : Int}

/-- A submission that passes the checks is run by its corrected window. -/
theorem runSubmitted_executes
    (hdata : data.check .data = .ok ⟨text, filters ++ [limit, skip]⟩)
    (hcount : count.check .count = .ok counting) (hlimit : limit.asInteger? = some size)
    (hskip : skip.asInteger? = some offset) (hserved : settings.servedSize size ≠ 0) :
    Executes (runSubmitted settings data count) counting
      (if size ≤ 0 then
        ⟨text, filters ++ [.int settings.defaultPageSize, if 0 < offset then skip else .int 0]⟩
      else ⟨text, filters ++ [limit, skip]⟩)
      (settings.servedSize size) (max 0 offset) := by
  rw [runSubmitted_of_check hdata hcount]
  exact (runPage_talks settings (Query.window_append text filters hlimit hskip)).executes hserved

/-! ### Telling the window -/

/-- A run tells the window that it executes: the data query is as it was handed in up to its last
two parameters, and these are the size and the offset that the run goes by. -/
def TellsWindow (m : Run SearchPage) (counting : Query) (text : String) (filters : List Value) :
    Prop :=
  ∃ limit skip : Value, ∃ size offset : Int, limit.asInteger? = some size ∧
    skip.asInteger? = some offset ∧ 1 ≤ size ∧ 0 ≤ offset ∧
      Executes m counting ⟨text, filters ++ [limit, skip]⟩ size offset

/-- A run that sends an offset below zero goes by another one. -/
theorem Executes.not_tellsWindow {m : Run SearchPage} {size' offset' : Int}
    (h : Executes m counting ⟨text, filters ++ [limit, skip]⟩ size' offset')
    (hskip : skip.asInteger? = some offset) (hbelow : offset < 0) :
    ¬TellsWindow m counting text filters := by
  intro htells
  obtain ⟨limit', skip', size'', offset'', -, hskip', -, hoffset, h'⟩ := htells
  have hparameters : filters ++ [limit, skip] = filters ++ [limit', skip'] :=
    congrArg Query.parameters (h.data_eq h')
  have hlast : [limit, skip] = [limit', skip'] := List.append_cancel_left hparameters
  obtain ⟨rfl, rfl⟩ : limit = limit' ∧ skip = skip' := by simpa using hlast
  obtain rfl : offset = offset'' := Option.some.inj (hskip.symm.trans hskip')
  omega

/-- The page describes the window that was executed, unless the size is positive and the offset
below zero. Whatever the text and the other parameters are, and whatever total the store tells, the
last two parameters of the data query that is sent are then the size and the offset of the page, and
the query is sent exactly if the total is beyond that offset. -/
theorem tellsWindow_iff (hdefault : 1 ≤ settings.defaultPageSize)
    (hdata : data.check .data = .ok ⟨text, filters ++ [limit, skip]⟩)
    (hcount : count.check .count = .ok counting) (hlimit : limit.asInteger? = some size)
    (hskip : skip.asInteger? = some offset) :
    TellsWindow (runSubmitted settings data count) counting text filters ↔
      size ≤ 0 ∨ 0 ≤ offset := by
  have hserved := Settings.one_le_servedSize hdefault size
  have hne : settings.servedSize size ≠ 0 := by omega
  have hexecutes := runSubmitted_executes hdata hcount hlimit hskip hne
  by_cases hsize : size ≤ 0
  · -- the query is written anew, with the offset that counts
    rw [if_pos hsize] at hexecutes
    have hleast : (if 0 < offset then skip else .int 0).asInteger? = some (max 0 offset) := by
      split
      · rw [hskip, Int.max_eq_right (by omega)]
      · rw [Int.max_eq_left (by omega)]
        rfl
    refine iff_of_true ⟨_, _, _, _, ?_, hleast, hserved, by omega, hexecutes⟩ (Or.inl hsize)
    rw [Settings.servedSize, if_pos hsize]
    rfl
  · rw [if_neg hsize] at hexecutes
    by_cases hoffset : 0 ≤ offset
    · refine iff_of_true ⟨_, _, _, _, ?_, ?_, hserved, by omega, hexecutes⟩ (Or.inr hoffset)
      · rw [hlimit, Settings.servedSize, if_neg hsize]
      · rw [hskip, Int.max_eq_right hoffset]
    · exact iff_of_false (hexecutes.not_tellsWindow hskip (by omega)) (by omega)

end

def ownedText : String := "SELECT * FROM notes WHERE owner_user_id = ? LIMIT ? OFFSET ?"

def ownedCount : Query := ⟨"SELECT COUNT(*) FROM notes WHERE owner_user_id = ?", [.int 7]⟩

theorem check_ownedCount : (Submission.ofQuery ownedCount).check .count = .ok ownedCount := by
  have hs : 'S' ∈ ownedCount.text.toList := by decide
  have hmarks : Query.marks ownedCount.text = 1 := by decide
  exact Submission.check_ofQuery ownedCount hs (by decide) hmarks .count

theorem check_ownedText (limit skip : Value) :
    (Submission.ofQuery ⟨ownedText, [.int 7, limit, skip]⟩).check .data
      = .ok ⟨ownedText, [.int 7] ++ [limit, skip]⟩ := by
  have hs : 'S' ∈ ownedText.toList := by decide
  have hmarks : Query.marks ownedText = 3 := by decide
  exact Submission.check_ofQuery ⟨ownedText, [.int 7, limit, skip]⟩ hs (by decide) hmarks .data

theorem tellsWindow_unsized :
    1 ≤ Settings.defaultPageSize {} ∧
      (Submission.ofQuery ⟨ownedText, [.int 7, .int 0, .int (-5)]⟩).check .data
        = .ok ⟨ownedText, [.int 7] ++ [.int 0, .int (-5)]⟩ ∧
      (Submission.ofQuery ownedCount).check .count = .ok ownedCount ∧
      (Value.int 0).asInteger? = some 0 ∧ (Value.int (-5)).asInteger? = some (-5) ∧
      (TellsWindow (runSubmitted {} (.ofQuery ⟨ownedText, [.int 7, .int 0, .int (-5)]⟩)
          (.ofQuery ownedCount)) ownedCount ownedText [.int 7] ↔ (0 : Int) ≤ 0 ∨ (0 : Int) ≤ -5) := by
  have hdefault : 1 ≤ Settings.defaultPageSize {} := by decide
  have hdata := check_ownedText (.int 0) (.int (-5))
  exact ⟨hdefault, hdata, check_ownedCount, rfl, rfl,
    tellsWindow_iff hdefault hdata check_ownedCount rfl rfl⟩

/-- The page of ten notes at an offset below zero is said to start at the first note, but that is
not the offset that is sent. -/
theorem offset_below_zero_sent :
    1 ≤ Settings.defaultPageSize {} ∧
      (Submission.ofQuery ⟨ownedText, [.int 7, .int 10, .int (-5)]⟩).check .data
        = .ok ⟨ownedText, [.int 7] ++ [.int 10, .int (-5)]⟩ ∧
      (Submission.ofQuery ownedCount).check .count = .ok ownedCount ∧
      ¬TellsWindow (runSubmitted {} (.ofQuery ⟨ownedText, [.int 7, .int 10, .int (-5)]⟩)
        (.ofQuery ownedCount)) ownedCount ownedText [.int 7] := by
  have hdata := check_ownedText (.int 10) (.int (-5))
  have hserved : Settings.servedSize {} 10 ≠ 0 := by decide
  have hexecutes := runSubmitted_executes hdata check_ownedCount rfl rfl hserved
  rw [if_neg (by decide)] at hexecutes
  exact ⟨by decide, hdata, check_ownedCount, hexecutes.not_tellsWindow rfl (by decide)⟩

end CatalogSearch
