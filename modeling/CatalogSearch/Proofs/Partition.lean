import CatalogSearch.Proofs.Completion
import Mathlib.Data.List.Perm.Basic
import Mathlib.Data.List.TakeWhile

/-!
# The groups of a reply

The rows of a reply are taken up one by one, and each joins the group of its owner or begins one. So
the groups are at every moment a partition of the rows taken up so far: `Groups.Partition` is the
invariant of that loop, `Groups.Partition.add` what one row does to it, and `exists_ofRows` what is
left at the end. Owners that nobody asked for, that come again or that are spelled in several ways
make no difference. With the query that was sent this is all there is to know about fetching related
rows (`loadRelated_partition`).
-/

namespace CatalogSearch

/-! ### The name of a column -/

theorem bareColumn_eq {column name : String} (hname : '.' ∉ name.toList)
    (hcolumn : column = name ∨ ∃ table, column = table ++ "." ++ name) :
    bareColumn column = name := by
  have hinside : ∀ c ∈ name.toList.reverse, (c != '.') = true := by
    intro c hc
    rw [bne_iff_ne]
    rintro rfl
    exact hname (List.mem_reverse.1 hc)
  have htake : column.toList.reverse.takeWhile (· != '.') = name.toList.reverse := by
    obtain rfl | ⟨table, rfl⟩ := hcolumn
    · exact List.takeWhile_eq_self_iff.2 hinside
    · have hpoint : ".".toList = ['.'] := rfl
      rw [String.toList_append, String.toList_append, hpoint, List.reverse_append,
        List.reverse_append, List.takeWhile_append_of_pos hinside, List.reverse_singleton,
        List.singleton_append, List.takeWhile_cons_of_neg (by simp), List.append_nil]
  rw [bareColumn, htake, List.reverse_reverse, String.ofList_toList]

/-! ### Owners -/

/-- An owner is a key that is equal to itself: an array, an object and what is not a number are
none. -/
def Value.IsOwner (v : Value) : Prop := v.isKey = true ∧ v ≠ .float .nan

/-- Every row names its owner in a column. -/
def Owned (column : Text) (rows : List Row) : Prop :=
  ∀ row ∈ rows, ∃ owner, row.get? column = some owner ∧ owner.IsOwner

def ownersOf (column : Text) (rows : List Row) : List Value := rows.filterMap (·.get? column)

section

variable {column : Text} {rows : List Row} {row : Row} {owner : Value}

theorem ownersOf_concat (hget : row.get? column = some owner) (rows : List Row) :
    ownersOf column (rows ++ [row]) = ownersOf column rows ++ [owner] := by
  simp [ownersOf, hget]

theorem Owned.isOwner (h : Owned column rows) : ∀ v ∈ ownersOf column rows, v.IsOwner := by
  intro v hv
  obtain ⟨row, hrow, hget⟩ := List.mem_filterMap.1 hv
  obtain ⟨owner, howner, hself⟩ := h row hrow
  cases hget.symm.trans howner
  exact hself

theorem ownedBy_concat (hget : row.get? column = some owner) (key : Value) (rows : List Row) :
    ownedBy column key (rows ++ [row])
      = ownedBy column key rows ++ if key.same owner then [row.erase column] else [] := by
  rw [ownedBy, List.filter_append, List.map_append, ← ownedBy, List.filter_cons, hget,
    Option.any_some]
  split <;> rfl

/-- No row belongs to a key that is the same as no owner. -/
theorem ownedBy_eq_nil {key : Value} (h : ∀ v ∈ ownersOf column rows, key.same v = false) :
    ownedBy column key rows = [] := by
  rw [ownedBy, List.map_eq_nil_iff, List.filter_eq_nil_iff]
  intro row hrow hany
  obtain ⟨v, hget, hsame⟩ := (Option.any_eq_true _ _).1 hany
  rw [h v (List.mem_filterMap.2 ⟨row, hrow, hget⟩)] at hsame
  cases hsame

end

/-! ### The groups -/

namespace Groups

structure Partition (column : Text) (rows : List Row) (groups : Groups) : Prop where
  /-- The groups stand in the order in which their owners were met, as these were spelled then. -/
  owners : groups.map (·.1) = Value.firstSeen (ownersOf column rows)
  /-- A group has the rows of its owner in their order, without the column that names it. -/
  members : ∀ g ∈ groups, g.2 = ownedBy column g.1 rows
  nonempty : ∀ g ∈ groups, g.2 ≠ []
  once : (groups.flatMap (·.2)).Perm (rows.map (·.erase column))

section

variable {groups : Groups} {column : Text} {rows : List Row} {row : Row} {owner : Value}

theorem any_groups (groups : Groups) (owner : Value) :
    groups.any (fun g => owner.same g.1) = (groups.map (·.1)).any (owner.same ·) := by
  rw [List.any_map]
  rfl

theorem owners_add (groups : Groups) (owner : Value) (row : Row) :
    (groups.add owner row).map (·.1)
      = if groups.any (fun g => owner.same g.1) then groups.map (·.1)
        else groups.map (·.1) ++ [owner] := by
  rw [add]
  split
  case isTrue =>
    rw [List.map_map]
    refine List.map_congr_left fun g _ => ?_
    rw [Function.comp_apply]
    split <;> rfl
  case isFalse => rw [List.map_append, List.map_cons, List.map_nil]

theorem map_join_of_not_any (h : groups.any (fun g => owner.same g.1) = false) (row : Row) :
    (groups.map fun g => if owner.same g.1 then (g.1, g.2 ++ [row]) else g) = groups := by
  conv_rhs => rw [← List.map_id groups]
  refine List.map_congr_left fun g hg => ?_
  rw [if_neg, id]
  intro hsame
  rw [List.any_eq_true.2 ⟨g, hg, hsame⟩] at h
  cases h

/-- Of groups whose owners are apart one at most has the owner. -/
theorem not_any_of_apart {g : Value × List Row} (howner : owner.isKey = true)
    (hkeys : ∀ h ∈ g :: groups, h.1.isKey = true)
    (hapart : ∀ h ∈ groups, h.1.same g.1 = false) (hsame : owner.same g.1 = true) :
    groups.any (fun h => owner.same h.1) = false := by
  rw [Bool.eq_false_iff]
  intro hany
  obtain ⟨h, hh, hother⟩ := List.any_eq_true.1 hany
  have hg := hkeys g List.mem_cons_self
  have hh' := hkeys h (List.mem_cons_of_mem _ hh)
  rw [Value.same_comm howner hh'] at hother
  rw [Value.same_comm howner hg] at hsame
  have hboth := Value.same_of_same hh' hg hother hsame
  rw [hapart h hh] at hboth
  cases hboth

/-- Among groups whose owners are apart, a row joins one and no other. -/
theorem perm_join (howner : owner.isKey = true) (hkeys : ∀ g ∈ groups, g.1.isKey = true)
    (hapart : groups.Pairwise fun g h => h.1.same g.1 = false)
    (hany : groups.any (fun g => owner.same g.1) = true) (row : Row) :
    ((groups.map fun g => if owner.same g.1 then (g.1, g.2 ++ [row]) else g).flatMap (·.2)).Perm
      (groups.flatMap (·.2) ++ [row]) := by
  induction groups with
  | nil => cases hany
  | cons g groups ih =>
    obtain ⟨hfirst, hrest⟩ := List.pairwise_cons.1 hapart
    rw [List.map_cons, List.flatMap_cons, List.flatMap_cons, List.append_assoc]
    by_cases hsame : owner.same g.1 = true
    · have hnone := not_any_of_apart howner hkeys hfirst hsame
      rw [if_pos hsame, map_join_of_not_any hnone, List.append_assoc]
      exact List.perm_append_comm.append_left g.2
    · rw [List.any_cons, Bool.or_eq_true] at hany
      rw [if_neg hsame]
      exact (ih (fun h hh => hkeys h (List.mem_cons_of_mem _ hh)) hrest
        (hany.resolve_left hsame)).append_left g.2

namespace Partition

theorem nil (column : Text) : Partition column [] [] where
  owners := rfl
  members := nofun
  nonempty := nofun
  once := .refl []

theorem any_eq (h : Partition column rows groups) (owner : Value) :
    groups.any (fun g => owner.same g.1)
      = (Value.firstSeen (ownersOf column rows)).any (owner.same ·) := by
  rw [any_groups, h.owners]

theorem isOwner (h : Partition column rows groups) (howned : Owned column rows) :
    ∀ g ∈ groups, g.1.IsOwner := by
  intro g hg
  have hmem : g.1 ∈ groups.map (·.1) := List.mem_map_of_mem hg
  rw [h.owners] at hmem
  exact howned.isOwner _ (Value.mem_of_mem_firstSeen hmem)

theorem apart (h : Partition column rows groups) :
    groups.Pairwise fun g g' => g'.1.same g.1 = false := by
  have hpairwise := Value.pairwise_firstSeen (ownersOf column rows)
  rw [← h.owners] at hpairwise
  exact List.pairwise_map.1 hpairwise

theorem ownedBy_eq_nil (h : Partition column rows groups) (howned : Owned column rows)
    (howner : owner.IsOwner) (hnew : groups.any (fun g => owner.same g.1) = false) :
    ownedBy column owner rows = [] := by
  refine CatalogSearch.ownedBy_eq_nil fun v hv => ?_
  rw [Bool.eq_false_iff]
  intro hsame
  -- the owner of that row has a group, so the same owner would have one
  obtain ⟨w, hw, hvw⟩ := List.any_eq_true.1 (Value.any_firstSeen howned.isOwner hv)
  have hfound := Value.same_trans howner.1 (howned.isOwner v hv).1 hsame hvw
  rw [h.any_eq, List.any_eq_true.2 ⟨w, hw, hfound⟩] at hnew
  cases hnew

/-- One more row. It is the last of the group of its owner, which is a new one if its owner was
not met before, and nothing else changes. -/
theorem add (h : Partition column rows groups) (howned : Owned column rows)
    (hget : row.get? column = some owner) (howner : owner.IsOwner) :
    Partition column (rows ++ [row]) (groups.add owner (row.erase column)) := by
  have hkeys : ∀ v ∈ ownersOf column rows, v.isKey = true := fun v hv => (howned.isOwner v hv).1
  have howners : (groups.add owner (row.erase column)).map (·.1)
      = Value.firstSeen (ownersOf column (rows ++ [row])) := by
    rw [owners_add, h.any_eq, h.owners, ownersOf_concat hget,
      Value.firstSeen_concat hkeys howner.1]
  have hrows : (rows ++ [row]).map (·.erase column)
      = rows.map (·.erase column) ++ [row.erase column] := by
    rw [List.map_append, List.map_cons, List.map_nil]
  cases hany : groups.any (fun g => owner.same g.1) with
  | true =>
    rw [Groups.add, if_pos hany] at howners ⊢
    refine ⟨howners, ?_, ?_, ?_⟩
    · intro g' hg'
      obtain ⟨g, hg, rfl⟩ := List.mem_map.1 hg'
      have hcomm := Value.same_comm howner.1 (h.isOwner howned g hg).1
      split
      case isTrue hsame => rw [ownedBy_concat hget, ← hcomm, if_pos hsame, ← h.members g hg]
      case isFalse hsame =>
        rw [ownedBy_concat hget, ← hcomm, if_neg hsame, ← h.members g hg, List.append_nil]
    · intro g' hg'
      obtain ⟨g, hg, rfl⟩ := List.mem_map.1 hg'
      split
      case isTrue => exact List.append_ne_nil_of_right_ne_nil g.2 (List.cons_ne_nil _ _)
      case isFalse => exact h.nonempty g hg
    · rw [hrows]
      have hgroups : ∀ g ∈ groups, g.1.isKey = true := fun g hg => (h.isOwner howned g hg).1
      exact (perm_join howner.1 hgroups h.apart hany _).trans (h.once.append_right _)
  | false =>
    rw [Groups.add, if_neg (by simp [hany])] at howners ⊢
    refine ⟨howners, ?_, ?_, ?_⟩
    · intro g hg
      rcases List.mem_append.1 hg with hg | hg
      · have hother : g.1.same owner = false := by
          rw [← Value.same_comm howner.1 (h.isOwner howned g hg).1, Bool.eq_false_iff]
          intro hsame
          rw [List.any_eq_true.2 ⟨g, hg, hsame⟩] at hany
          cases hany
        rw [ownedBy_concat hget, hother, if_neg Bool.false_ne_true, List.append_nil,
          h.members g hg]
      · rw [List.mem_singleton.1 hg, ownedBy_concat hget, h.ownedBy_eq_nil howned howner hany,
          if_pos (Value.same_self howner.1 howner.2), List.nil_append]
    · intro g hg
      rcases List.mem_append.1 hg with hg | hg
      · exact h.nonempty g hg
      · rw [List.mem_singleton.1 hg]
        exact List.cons_ne_nil _ _
    · rw [hrows, List.flatMap_append, List.flatMap_cons, List.flatMap_nil, List.append_nil]
      exact h.once.append_right _

end Partition

end

/-- The whole reply. Rows that are taken up behind others that were grouped. -/
theorem Partition.exists_foldlM {column : String} {before rows : List Row} {groups : Groups}
    (h : Partition column before groups) (howned : Owned column (before ++ rows)) :
    ∃ grouped, rows.foldlM (place column) groups = .ok grouped ∧
      Partition column (before ++ rows) grouped := by
  -- on the rows still to come: the groups so far are those of the rows before them
  induction rows generalizing before groups with
  | nil => exact ⟨groups, rfl, by rwa [List.append_nil]⟩
  | cons row rows ih =>
    obtain ⟨owner, hget, howner⟩ := howned row (by simp)
    have hbefore : Owned column before := fun r hr => howned r (List.mem_append_left _ hr)
    have hsplit : before ++ row :: rows = before ++ [row] ++ rows := by
      rw [List.append_assoc, List.singleton_append]
    rw [hsplit] at howned ⊢
    have hplace : place column groups row = .ok (groups.add owner (row.erase column)) := by
      rw [place, hget]
      dsimp only
      rw [asKey, if_pos howner.1]
      rfl
    obtain ⟨grouped, hrun, hpartition⟩ := ih (h.add hbefore hget howner) howned
    refine ⟨grouped, ?_, hpartition⟩
    rw [List.foldlM_cons, hplace]
    exact hrun

theorem exists_ofRows {column : String} {rows : List Row} (howned : Owned column rows) :
    ∃ groups, ofRows column rows = .ok groups ∧ Partition column rows groups := by
  rw [ofRows_eq_foldlM]
  exact (Partition.nil column).exists_foldlM howned

end Groups

/-! ### The query and the groups -/

theorem Run.run_ask_of_rows {s : Session} {rows : List Row} (h : s.reply 0 = .rows rows)
    (q : Query) :
    (Run.ask q).run.run s
      = (.ok rows, { s with replies := s.replies.drop 1, calls := s.calls ++ [q] }) := by
  obtain ⟨replies, calls, notices⟩ := s
  cases replies with
  | nil =>
    cases h
    rfl
  | cons reply rest =>
    cases reply with
    | rows rows' =>
      cases h
      rfl
    | fault connecting fault => cases h

theorem loadRelated_nil (select column : String) (s : Session) :
    (loadRelated select column []).run.run s = (.ok [], s) := rfl

theorem run_loadRelated {owners : List Value} (hne : owners ≠ [])
    (howners : ∀ v ∈ owners, v.isKey = true) {s : Session} {rows : List Row}
    (h : s.reply 0 = .rows rows) (select column : String) :
    (loadRelated select column owners).run.run s
      = (Groups.ofRows (bareColumn column) rows,
          { s with
            replies := s.replies.drop 1
            calls := s.calls ++ [relatedQuery select column (Value.firstSeen owners)] }) := by
  rw [loadRelated, mapM_asKey_eq howners, Run.ofExcept_ok_bind,
    Value.distinctKeys_eq_firstSeen howners]
  split
  case h_1 hnil => exact absurd (Value.firstSeen_eq_nil.1 hnil) hne
  case h_2 =>
    rw [Run.run_bind, Run.run_ask_of_rows h]
    dsimp only
    cases Groups.ofRows (bareColumn column) rows <;> rfl

/-- Related rows are grouped without loss. Without owners nothing is asked. For some owners one
query is sent, with each of them once and a mark for each, and the groups are a partition of the rows
of the reply. -/
theorem loadRelated_partition (select : String) {column name : String}
    (hname : '.' ∉ name.toList)
    (hcolumn : column = name ∨ ∃ table, column = table ++ "." ++ name) {owners : List Value}
    (howners : ∀ v ∈ owners, v.IsOwner) (s : Session) :
    (owners = [] → (loadRelated select column owners).run.run s = (.ok [], s)) ∧
    (owners ≠ [] → ∀ rows, s.reply 0 = .rows rows → Owned name rows →
      ∃ ids marks groups, ids = Value.firstSeen owners ∧ Query.marks marks = ids.length ∧
        marks = String.intercalate ", " (List.replicate ids.length "?") ∧
        (loadRelated select column owners).run.run s
          = (.ok groups,
              { s with
                replies := s.replies.drop 1
                calls := s.calls ++
                  [⟨select ++ " WHERE " ++ column ++ " IN (" ++ marks ++ ")", ids⟩] }) ∧
        groups.Partition name rows) := by
  constructor
  · rintro rfl
    exact loadRelated_nil select column s
  · intro hne rows hreply howned
    have hbare := bareColumn_eq hname hcolumn
    obtain ⟨groups, hgroups, hpartition⟩ := Groups.exists_ofRows howned
    have hrun := run_loadRelated hne (fun v hv => (howners v hv).1) hreply select column
    rw [hbare, hgroups] at hrun
    exact ⟨_, _, groups, rfl, Query.marks_placeholders _, rfl, hrun, hpartition⟩

/-- The tags of three notes, of which one is named in two spellings and one nobody asked for. -/
def tagRows : List Row :=
  [[("note_id", .int 1), ("tag_id", .int 2)], [("note_id", .int 9), ("tag_id", .int 5)],
    [("note_id", .bool true), ("tag_id", .int 3)], [("note_id", .text "a"), ("tag_id", .int 2)]]

/-- Two notes are asked for. Three groups come back, the first with the rows of both spellings. -/
theorem loadRelated_partition_tags :
    ('.' ∉ "note_id".toList ∧
      ("nt.note_id" = "note_id" ∨ ∃ table, "nt.note_id" = table ++ "." ++ "note_id") ∧
      (∀ v ∈ [Value.int 1, .text "a", .bool true], v.IsOwner) ∧ Owned "note_id" tagRows) ∧
    ∃ groups s', (loadRelated "SELECT * FROM note_tags nt" "nt.note_id"
        [.int 1, .text "a", .bool true]).run.run { replies := [.rows tagRows] }
        = (.ok groups, s') ∧
      s'.calls.map (·.text) = ["SELECT * FROM note_tags nt WHERE nt.note_id IN (?, ?)"] ∧
      groups.Partition "note_id" tagRows ∧ groups.map (·.2.length) = [2, 1, 1] := by
  have hname : '.' ∉ "note_id".toList := by decide
  have hcolumn : "nt.note_id" = "note_id" ∨ ∃ table, "nt.note_id" = table ++ "." ++ "note_id" :=
    .inr ⟨"nt", by decide⟩
  have howners : ∀ v ∈ [Value.int 1, .text "a", .bool true], v.IsOwner := by
    simp [Value.IsOwner, Value.isKey, Value.isScalar]
  have howned : Owned "note_id" tagRows := by
    intro row hrow
    simp only [tagRows, List.mem_cons, List.not_mem_nil, or_false] at hrow
    obtain rfl | rfl | rfl | rfl := hrow <;> exact ⟨_, rfl, rfl, nofun⟩
  obtain ⟨ids, marks, groups, hids, -, hmarks, hrun, hpartition⟩ :=
    (loadRelated_partition "SELECT * FROM note_tags nt" hname hcolumn howners
      { replies := [.rows tagRows] }).2 nofun tagRows rfl howned
  refine ⟨⟨hname, hcolumn, howners, howned⟩, groups, _, hrun, ?_, hpartition, ?_⟩
  · rw [hmarks, hids]
    decide +kernel
  · have hgroups := congrArg (·.1.toOption.map (List.map fun g => g.2.length)) hrun
    refine Option.some.inj (hgroups.symm.trans ?_)
    decide +kernel

end CatalogSearch
