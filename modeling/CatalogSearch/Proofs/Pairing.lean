import CatalogSearch.Entity.Visibility
import CatalogSearch.Proofs.Marks

/-!
# Placeholders and their values

SQL text and values are written apart, and the store pairs them by position alone: one mark too many
anywhere shifts every later value, those of the visibility predicates included. The invariant is
`SearchPlan.Paired`: each predicate has as many marks as values, and no other part of a query has
any. Every plan of a registered target has it, restricting keeps it, and it makes both queries
`Query.Aligned`: their marks stand for their values, predicate by predicate.
-/

namespace CatalogSearch

open Query

/-- Each predicate has as many marks as values, and nothing else in the plan has marks. -/
structure SearchPlan.Paired (plan : SearchPlan) : Prop where
  predicates : ∀ p ∈ plan.predicates, marks p.sql = p.parameters.length
  joins : ∀ j ∈ plan.joins, marks j = 0
  columns : ∀ c ∈ plan.extraColumns, marks c = 0
  table : marks plan.table = 0
  order : marks (plan.tableAlias ++ "." ++ plan.primaryKey) = 0

/-- The values of a query are those of some predicates and then some more, there is a mark for each
value, and the marks of each predicate are those that its own values belong to: as many marks stand
before it as there are values before its own. -/
structure Query.Aligned (q : Query) (predicates : List Predicate) (rest : List Value) : Prop where
  parameters : q.parameters = predicates.flatMap (·.parameters) ++ rest
  marks : Query.marks q.text = q.parameters.length
  place : ∀ earlier p later, predicates = earlier ++ p :: later →
    ∃ before after, q.text = before ++ p.enclosed ++ after ∧
      Query.marks before = (earlier.flatMap (·.parameters)).length ∧
      Query.marks p.enclosed = p.parameters.length

/-! ### Joins -/

theorem mem_of_mem_foldl_addJoin {clauses joins : List String} {j : String}
    (h : j ∈ clauses.foldl addJoin joins) : j ∈ joins ∨ j ∈ clauses := by
  induction clauses generalizing joins with
  | nil => exact Or.inl h
  | cons c cs ih =>
    rcases ih h with hj | hj
    · rw [addJoin] at hj
      split at hj
      · exact Or.inl hj
      · rcases List.mem_append.1 hj with hj | hj
        · exact Or.inl hj
        · exact Or.inr (by simp [List.mem_singleton.1 hj])
    · exact Or.inr (List.mem_cons_of_mem _ hj)

/-! ### The invariant -/

theorem Predicate.paired_trimmed {c : Condition} (h : c.Paired) :
    marks (trimmed c).sql = (trimmed c).parameters.length := by
  rw [trimmed, marks_trim, List.length_map, h]

theorem Predicate.paired_ofCondition {c : Condition} (h : c.Paired) :
    marks (ofCondition c).sql = (ofCondition c).parameters.length := by
  rw [ofCondition, List.length_map, h]

namespace SearchPlan

variable {plan : SearchPlan}

theorem Paired.restrict (h : plan.Paired) {f : Fragment} (hf : f.Paired) :
    (plan.restrict f).Paired where
  predicates := by
    intro p hp
    rcases List.mem_append.1 hp with hp | hp
    · exact h.predicates p hp
    · rw [List.mem_singleton.1 hp]
      exact Predicate.paired_ofCondition hf.condition
  joins := by
    intro j hj
    rcases mem_of_mem_foldl_addJoin hj with hj | hj
    · exact h.joins j hj
    · exact hf.join j (Option.mem_toList.1 hj)
  columns := h.columns
  table := h.table
  order := h.order

theorem Paired.foldl_restrict (h : plan.Paired) {fs : List Fragment} (hfs : ∀ f ∈ fs, f.Paired) :
    (fs.foldl SearchPlan.restrict plan).Paired := by
  induction fs generalizing plan with
  | nil => exact h
  | cons f fs ih =>
    exact ih (h.restrict (hfs f List.mem_cons_self)) fun g hg => hfs g (List.mem_cons_of_mem _ hg)

/-! ### The two queries -/

def tables (plan : SearchPlan) : String :=
  String.intercalate " " (("FROM " ++ plan.table ++ " AS " ++ plan.tableAlias) :: plan.joins)

def filter (plan : SearchPlan) : String :=
  String.intercalate " AND " (plan.predicates.map Predicate.enclosed)

/-- What a count query says before the text that both queries share. -/
def countHead (plan : SearchPlan) : String :=
  "SELECT COUNT(DISTINCT " ++ plan.tableAlias ++ "." ++ plan.primaryKey ++ ") AS total "

def dataHead (plan : SearchPlan) : String :=
  "SELECT DISTINCT " ++
    String.intercalate ", " ((plan.tableAlias ++ ".*") :: plan.extraColumns) ++ " "

def dataTail (plan : SearchPlan) : String :=
  " ORDER BY " ++ (plan.tableAlias ++ "." ++ plan.primaryKey) ++ " DESC LIMIT ? OFFSET ?"

theorem countQuery_text (plan : SearchPlan) :
    plan.countQuery.text = plan.countHead ++ plan.source := rfl

theorem dataQuery_text (plan : SearchPlan) :
    plan.dataQuery.text = plan.dataHead ++ plan.source ++ plan.dataTail := by
  unfold dataQuery dataHead dataTail
  simp only [String.append_assoc]

theorem source_of_nil (h : plan.predicates = []) : plan.source = plan.tables := by
  rw [source, whereClause, if_pos (by simpa using h), List.append_nil, tables]

theorem source_of_ne_nil (h : plan.predicates ≠ []) :
    plan.source = plan.tables ++ " " ++ ("WHERE " ++ plan.filter) := by
  rw [source, whereClause, if_neg (by simpa using h), tables,
    String.intercalate_append_of_ne_nil (by simp) (by simp), String.intercalate_singleton, filter]

theorem Paired.marks_tables (h : plan.Paired) : marks plan.tables = 0 := by
  have halias := h.order
  rw [marks_append, marks_append] at halias
  have hfrom : marks ("FROM " ++ plan.table ++ " AS " ++ plan.tableAlias) = 0 := by
    rw [marks_append, marks_append, marks_append, h.table, show marks plan.tableAlias = 0 by omega]
    rfl
  rw [tables, marks_intercalate (by rfl), List.map_cons, List.sum_cons, hfrom, Nat.zero_add,
    List.sum_eq_zero_iff_forall_eq_nat]
  intro n hn
  obtain ⟨j, hj, rfl⟩ := List.mem_map.1 hn
  exact h.joins j hj

end SearchPlan

theorem Predicate.marks_enclosed (p : Predicate) : marks p.enclosed = marks p.sql := by
  rw [enclosed, marks_append, marks_append, show marks "(" = 0 from rfl,
    show marks ")" = 0 from rfl, Nat.zero_add, Nat.add_zero]

theorem sum_marks_enclosed {ps : List Predicate} (h : ∀ p ∈ ps, marks p.sql = p.parameters.length) :
    ((ps.map Predicate.enclosed).map marks).sum = (ps.flatMap (·.parameters)).length := by
  induction ps with
  | nil => rfl
  | cons p ps ih =>
    rw [List.map_cons, List.map_cons, List.sum_cons, Predicate.marks_enclosed, List.flatMap_cons,
      List.length_append, h p List.mem_cons_self, ih fun q hq => h q (List.mem_cons_of_mem _ hq)]

/-- What stands before an item of a list with separators has the marks of the items before it. -/
theorem exists_intercalate_append_cons {sep : String} (hsep : marks sep = 0) (xs : List String)
    (y : String) (zs : List String) :
    ∃ before after, String.intercalate sep (xs ++ y :: zs) = before ++ y ++ after ∧
      marks before = (xs.map marks).sum := by
  induction xs with
  | nil =>
    cases zs with
    | nil => exact ⟨"", "", by simp, rfl⟩
    | cons z zs =>
      refine ⟨"", sep ++ String.intercalate sep (z :: zs), ?_, rfl⟩
      rw [List.nil_append, String.intercalate_cons_cons, String.append_assoc, String.empty_append]
  | cons x xs ih =>
    obtain ⟨before, after, heq, hbefore⟩ := ih
    refine ⟨x ++ sep ++ before, after, ?_, ?_⟩
    · rw [List.cons_append, String.intercalate_cons_of_ne_nil (by simp), heq]
      simp only [String.append_assoc]
    · rw [marks_append, marks_append, hsep, hbefore, List.map_cons, List.sum_cons, Nat.add_zero]

namespace SearchPlan

variable {plan : SearchPlan}

theorem Paired.marks_filter (h : plan.Paired) : marks plan.filter = plan.filterParameters.length := by
  rw [filter, marks_intercalate (by rfl), sum_marks_enclosed h.predicates, filterParameters]

theorem Paired.marks_source (h : plan.Paired) : marks plan.source = plan.filterParameters.length := by
  by_cases hnil : plan.predicates = []
  · rw [source_of_nil hnil, h.marks_tables, filterParameters, hnil]
    rfl
  · rw [source_of_ne_nil hnil, marks_append, marks_append, marks_append, h.marks_tables,
      h.marks_filter, show marks " " = 0 from rfl, show marks "WHERE " = 0 by decide]
    omega

theorem Paired.place_source (h : plan.Paired) {earlier later : List Predicate} {p : Predicate}
    (hsplit : plan.predicates = earlier ++ p :: later) :
    ∃ before after, plan.source = before ++ p.enclosed ++ after ∧
      marks before = (earlier.flatMap (·.parameters)).length := by
  obtain ⟨before, after, heq, hbefore⟩ := exists_intercalate_append_cons
    (show marks " AND " = 0 by decide) (earlier.map Predicate.enclosed) p.enclosed
    (later.map Predicate.enclosed)
  have hearlier : ∀ q ∈ earlier, marks q.sql = q.parameters.length := by
    intro q hq
    exact h.predicates q (by simp [hsplit, hq])
  rw [sum_marks_enclosed hearlier] at hbefore
  refine ⟨plan.tables ++ " " ++ "WHERE " ++ before, after, ?_, ?_⟩
  · rw [source_of_ne_nil (by simp [hsplit]), filter, hsplit, List.map_append, List.map_cons, heq]
    simp only [String.append_assoc]
  · rw [marks_append, marks_append, marks_append, h.marks_tables, hbefore,
      show marks " " = 0 from rfl, show marks "WHERE " = 0 by decide]
    omega

theorem Paired.aligned (h : plan.Paired) {start : String} (finish : String) (rest : List Value)
    (hstart : marks start = 0) (hfinish : marks finish = rest.length) :
    Query.Aligned ⟨start ++ plan.source ++ finish, plan.filterParameters ++ rest⟩
      plan.predicates rest where
  parameters := rfl
  marks := by
    rw [marks_append, marks_append, hstart, h.marks_source, hfinish, List.length_append]
    omega
  place := by
    intro earlier p later hsplit
    obtain ⟨before, after, heq, hbefore⟩ := h.place_source hsplit
    refine ⟨start ++ before, after ++ finish, ?_, ?_, ?_⟩
    · rw [heq]
      simp only [String.append_assoc]
    · rw [marks_append, hstart, hbefore, Nat.zero_add]
    · rw [p.marks_enclosed, h.predicates p (by simp [hsplit])]

theorem Paired.marks_countHead (h : plan.Paired) : marks plan.countHead = 0 := by
  have horder := h.order
  rw [marks_append, marks_append] at horder
  unfold countHead
  rw [marks_append, marks_append, marks_append, marks_append,
    show marks "SELECT COUNT(DISTINCT " = 0 by decide, show marks ") AS total " = 0 by decide]
  omega

theorem Paired.marks_dataHead (h : plan.Paired) : marks plan.dataHead = 0 := by
  have horder := h.order
  rw [marks_append, marks_append] at horder
  have hstar : marks (plan.tableAlias ++ ".*") = 0 := by
    rw [marks_append, show marks ".*" = 0 from rfl]
    omega
  have hcolumns : (plan.extraColumns.map marks).sum = 0 := by
    rw [List.sum_eq_zero_iff_forall_eq_nat]
    intro n hn
    obtain ⟨c, hc, rfl⟩ := List.mem_map.1 hn
    exact h.columns c hc
  unfold dataHead
  rw [marks_append, marks_append, marks_intercalate (by rfl), List.map_cons, List.sum_cons, hstar,
    hcolumns]
  rfl

theorem Paired.marks_dataTail (h : plan.Paired) : marks plan.dataTail = 2 := by
  unfold dataTail
  rw [marks_append, marks_append, h.order]
  rfl

theorem Paired.aligned_count (h : plan.Paired) : plan.countQuery.Aligned plan.predicates [] := by
  have haligned := h.aligned "" [] h.marks_countHead rfl
  rw [String.append_empty, List.append_nil] at haligned
  exact haligned

theorem Paired.aligned_data (h : plan.Paired) :
    plan.dataQuery.Aligned plan.predicates [.int plan.pageSize, .int plan.offset] := by
  have haligned := h.aligned plan.dataTail [.int plan.pageSize, .int plan.offset] h.marks_dataHead
    h.marks_dataTail
  rw [← dataQuery_text] at haligned
  exact haligned

end SearchPlan

/-! ### Plans of registered targets -/

namespace SearchTarget

variable {t : SearchTarget} {r : Registry}

theorem plan_paired (hr : t.Registers r) (hmarks : t.Unmarked r) (window : Int × Int)
    {fragments : List Fragment} (hfragments : ∀ f ∈ fragments, f.Paired) :
    (t.plan window (t.extraJoins.map (Template.expand · t.tableAlias)) fragments
      (t.extraColumns.map (Template.expand · t.tableAlias))).Paired where
  predicates := by
    intro p hp
    obtain ⟨f, hf, rfl⟩ := List.mem_map.1 hp
    exact Predicate.paired_trimmed (hfragments f hf).condition
  joins := by
    intro j hj
    rcases mem_of_mem_foldl_addJoin hj with hj | hj
    · cases hj
    · rcases List.mem_append.1 hj with hj | hj
      · obtain ⟨template, htemplate, rfl⟩ := List.mem_map.1 hj
        exact marks_expand (hmarks.joins _ htemplate) (marks_tableAlias hr)
      · obtain ⟨f, hf, hj⟩ := List.mem_flatMap.1 hj
        exact (hfragments f hf).join j (Option.mem_toList.1 hj)
  columns := by
    intro c hc
    obtain ⟨template, htemplate, rfl⟩ := List.mem_map.1 hc
    exact marks_expand (hmarks.columns _ htemplate) (marks_tableAlias hr)
  table := marks_of_isIdentifier hr.table
  order := by
    show marks (t.tableAlias ++ "." ++ t.keyColumn) = 0
    rw [marks_append, marks_append, marks_tableAlias hr, marks_keyColumn hr hmarks]
    rfl

theorem compile_paired (hr : t.Registers r) (hmarks : t.Unmarked r) (settings : Settings)
    (request : SearchRequest) {required : List (String → Fragment)}
    (hrequired : ∀ build ∈ required, (build t.tableAlias).Paired) :
    ∃ plan, (t.compile settings request required).result = .ok plan ∧ plan.Paired := by
  refine ⟨_, compile_registered hr settings request required, plan_paired hr hmarks _ ?_⟩
  intro f hf
  rcases List.mem_append.1 hf with hf | hf
  · obtain ⟨clause, -, hclause⟩ := List.mem_filterMap.1 hf
    obtain ⟨field, -, hemits⟩ := clauseFragment_emits hr hclause
    exact hemits.paired hr hmarks
  · obtain ⟨build, hbuild, rfl⟩ := List.mem_map.1 hf
    exact hrequired build hbuild

/-- Placeholders and values are paired. A target whose handlers are of the four kinds and whose
texts have no marks compiles every request, and however the plan is restricted afterwards, each
predicate has as many marks as values, no other part of a query has any but the window's, and the
marks of both queries stand for their values in order. -/
theorem compile_restrict_aligned (hr : t.Registers r) (hmarks : t.Unmarked r) (settings : Settings)
    (request : SearchRequest) (required : List (String → Fragment))
    (hrequired : ∀ build ∈ required, (build t.tableAlias).Paired) (restrictions : List Fragment)
    (hrestrictions : ∀ f ∈ restrictions, f.Paired) :
    ∃ compiled, (t.compile settings request required).result = .ok compiled ∧
      ∃ plan, plan = restrictions.foldl SearchPlan.restrict compiled ∧ plan.Paired ∧
        plan.countQuery.Aligned plan.predicates [] ∧
        plan.dataQuery.Aligned plan.predicates [.int plan.pageSize, .int plan.offset] := by
  obtain ⟨compiled, hcompiled, hpaired⟩ := compile_paired hr hmarks settings request hrequired
  have hplan := hpaired.foldl_restrict hrestrictions
  exact ⟨compiled, hcompiled, _, rfl, hplan, hplan.aligned_count, hplan.aligned_data⟩

end SearchTarget

/-! ### The four entities -/

theorem Entity.marks_noteOwnerJoin : marks noteOwnerJoin = 0 := by decide

theorem Entity.marks_elementComponentJoin : marks elementComponentJoin = 0 := by
  have hfirst : marks "LEFT JOIN signature_components AS element_component " = 0 := by decide
  unfold elementComponentJoin
  rw [marks_append, hfirst]
  decide

theorem Entity.target_unmarked (e : Entity) : e.target.Unmarked e.registry where
  primaryKey := by cases e <;> decide
  joins := by
    cases e with
    | documents => simp [target, documentsTarget]
    | notes => simpa [target, notesTarget] using marks_noteOwnerJoin
    | elements => simpa [target, elementsTarget] using marks_elementComponentJoin
    | logs => simp [target, logsTarget]
  columns := by
    have hcolumns : (e.target.extraColumns.all (marks · == 0)) = true := by cases e <;> decide
    intro c hc
    exact eq_of_beq (List.all_eq_true.1 hcolumns c hc)
  handlers := by
    have hhandlers : (e.registry.all fun entry => entry.2.texts.all (marks · == 0)) = true := by
      cases e with
      | documents => decide
      | notes =>
        simp only [registry, List.all_cons, HandlerKind.texts, marks_noteOwnerJoin]
        decide
      | elements =>
        simp only [registry, List.all_cons, HandlerKind.texts, marks_elementComponentJoin]
        decide
      | logs => rfl
    intro entry hentry s hs
    exact eq_of_beq (List.all_eq_true.1 (List.all_eq_true.1 hhandlers entry hentry) s hs)

/-- A search for notes with a part of the title and without two tags, seen by the user 7, and then
restricted to notes that are not archived. -/
theorem compile_restrict_aligned_notes :
    ∃ compiled, (Entity.notesTarget.compile {}
        { criteria :=
            [{ field := "title", condition := "FRAGMENT", value := .text "a?b" },
              { field := "tags", condition := "any_of",
                value := .list [.int 4, .int (-1), .int 9], negate := true }] }
        [ownedOrShared (some 7)]).result = .ok compiled ∧
      ∃ plan, plan = [(⟨.given "archived = ?" [.bool false], none⟩ : Fragment)].foldl
          SearchPlan.restrict compiled ∧ plan.Paired ∧
        plan.countQuery.Aligned plan.predicates [] ∧
        plan.dataQuery.Aligned plan.predicates [.int plan.pageSize, .int plan.offset] := by
  refine SearchTarget.compile_restrict_aligned (Entity.target_registers .notes)
    (Entity.target_unmarked .notes) _ _ _ ?_ _ ?_
  · intro build hbuild
    rw [List.mem_singleton.1 hbuild]
    exact ⟨show marks _ = _ by decide, by simp [ownedOrShared]⟩
  · intro f hf
    rw [List.mem_singleton.1 hf]
    exact ⟨show marks _ = _ by decide, by simp⟩

end CatalogSearch
