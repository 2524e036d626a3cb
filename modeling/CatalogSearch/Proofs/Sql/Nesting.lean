import CatalogSearch.Search.Plan

/-!
# Parentheses and separators in SQL text

Which `AND` of a query joins its conditions is a question of parentheses: one inside a subquery
does not. `splitTop` takes a text apart at a separator wherever it stands outside all parentheses.
A text in parentheses whose own parentheses are balanced is never split, whatever else it holds, and
that is all that the results at the end need: a list of such texts, put together with the separator,
comes apart into the same list.
-/

namespace CatalogSearch.Sql

/-- The depth of parentheses behind one character. -/
def stepDepth (d : Nat) (c : Char) : Nat :=
  if c = '(' then d + 1 else if c = ')' then d - 1 else d

/-- The depth of parentheses behind a text that begins at depth `d`; none if a parenthesis is closed
that was not opened. -/
def depthAfter : Nat → List Char → Option Nat
  | d, [] => some d
  | d, c :: cs => if c = ')' ∧ d = 0 then none else depthAfter (stepDepth d c) cs

/-- A text that closes what it opens and nothing else. -/
def Balanced (s : String) : Prop := depthAfter 0 s.toList = some 0

/-- Splits a text at every separator that stands at depth zero. `skip` counts the characters of a
separator that are still to be passed over. -/
def splitTop (sep : List Char) : Nat → Nat → List Char → List (List Char)
  | _, _, [] => [[]]
  | d, skip + 1, _ :: cs => splitTop sep d skip cs
  | d, 0, c :: cs =>
    if d = 0 ∧ sep.isPrefixOf (c :: cs) then [] :: splitTop sep 0 (sep.length - 1) cs
    else (splitTop sep (stepDepth d c) 0 cs).modifyHead (c :: ·)

/-- What stands behind the first place where a word is found. -/
def afterFirst (word : List Char) : List Char → Option (List Char)
  | [] => none
  | c :: cs =>
    if word.isPrefixOf (c :: cs) then some ((c :: cs).drop word.length) else afterFirst word cs

/-! ### Depth -/

theorem depthAfter_append (d : Nat) (xs ys : List Char) :
    depthAfter d (xs ++ ys) = (depthAfter d xs).bind (depthAfter · ys) := by
  induction xs generalizing d with
  | nil => rfl
  | cons x xs ih =>
    rw [List.cons_append, depthAfter, depthAfter]
    split
    · rfl
    · exact ih (stepDepth d x)

theorem depthAfter_of_forall {xs : List Char} (h : ∀ c ∈ xs, c ≠ '(' ∧ c ≠ ')') (d : Nat) :
    depthAfter d xs = some d := by
  induction xs with
  | nil => rfl
  | cons x xs ih =>
    obtain ⟨hopen, hclose⟩ := h x List.mem_cons_self
    rw [depthAfter, if_neg (fun hx => hclose hx.1), stepDepth, if_neg hopen, if_neg hclose]
    exact ih fun c hc => h c (List.mem_cons_of_mem _ hc)

theorem stepDepth_succ {d : Nat} {c : Char} (h : ¬(c = ')' ∧ d = 0)) :
    stepDepth (d + 1) c = stepDepth d c + 1 := by
  rw [stepDepth, stepDepth]
  split
  · rfl
  · split
    · have hd : d ≠ 0 := fun hd => h ⟨by assumption, hd⟩
      omega
    · rfl

/-- A text that never goes below the depth at which it begins can begin anywhere. -/
theorem depthAfter_succ {xs : List Char} {d e : Nat} (h : depthAfter d xs = some e) :
    depthAfter (d + 1) xs = some (e + 1) := by
  induction xs generalizing d with
  | nil =>
    cases h
    rfl
  | cons x xs ih =>
    rw [depthAfter] at h
    split at h
    case isTrue => cases h
    case isFalse hx =>
      rw [depthAfter, if_neg (by simp), stepDepth_succ hx]
      exact ih h

theorem Balanced.depthAfter {s : String} (h : Balanced s) (d : Nat) :
    Sql.depthAfter d s.toList = some d := by
  induction d with
  | zero => exact h
  | succ d ih => exact depthAfter_succ ih

/-! ### Splitting -/

theorem modifyHead_cons_append (x : Char) (xs : List Char) (parts : List (List Char)) :
    (parts.modifyHead (xs ++ ·)).modifyHead (x :: ·) = parts.modifyHead (x :: xs ++ ·) := by
  cases parts <;> rfl

/-- Inside parentheses nothing is split. -/
theorem splitTop_inside (sep rest : List Char) {xs : List Char} {d e : Nat}
    (h : depthAfter d xs = some e) :
    splitTop sep (d + 1) 0 (xs ++ rest) = (splitTop sep (e + 1) 0 rest).modifyHead (xs ++ ·) := by
  induction xs generalizing d with
  | nil =>
    cases h
    rw [List.nil_append]
    cases splitTop sep (e + 1) 0 rest <;> rfl
  | cons x xs ih =>
    rw [depthAfter] at h
    split at h
    case isTrue => cases h
    case isFalse hx =>
      rw [List.cons_append, splitTop, if_neg (by simp), stepDepth_succ hx, ih h]
      exact modifyHead_cons_append x xs _

/-- A text in parentheses goes to the part in which it begins. -/
theorem splitTop_enclosed {sep : List Char} (hsep : sep.head? = some ' ') {s : String}
    (hs : Balanced s) (rest : List Char) :
    splitTop sep 0 0 ('(' :: (s.toList ++ ')' :: rest))
      = (splitTop sep 0 0 rest).modifyHead ('(' :: (s.toList ++ [')']) ++ ·) := by
  obtain ⟨tail, rfl⟩ : ∃ tail, sep = ' ' :: tail := by
    cases sep with
    | nil => cases hsep
    | cons c tail =>
      cases hsep
      exact ⟨tail, rfl⟩
  rw [splitTop, if_neg (by simp), show stepDepth 0 '(' = 0 + 1 from rfl,
    splitTop_inside _ _ hs, splitTop, if_neg (by simp), show stepDepth (0 + 1) ')' = 0 from rfl]
  cases splitTop (' ' :: tail) 0 0 rest <;> simp

theorem splitTop_skip (sep : List Char) (d : Nat) (xs rest : List Char) :
    splitTop sep d xs.length (xs ++ rest) = splitTop sep d 0 rest := by
  induction xs with
  | nil => rfl
  | cons x xs ih => exact ih

theorem splitTop_sep {sep : List Char} (hsep : sep ≠ []) (rest : List Char) :
    splitTop sep 0 0 (sep ++ rest) = [] :: splitTop sep 0 0 rest := by
  cases sep with
  | nil => exact absurd rfl hsep
  | cons c tail =>
    have hfound : (c :: tail).isPrefixOf (c :: (tail ++ rest)) = true :=
      List.isPrefixOf_iff_prefix.2 (List.prefix_append (c :: tail) rest)
    rw [List.cons_append, splitTop, if_pos ⟨rfl, hfound⟩]
    exact congrArg _ (splitTop_skip (c :: tail) 0 tail rest)

/-! ### Conjunctions -/

def enclose (s : String) : String := "(" ++ s ++ ")"

def conjunction (parts : List String) : String :=
  String.intercalate " AND " (parts.map enclose)

theorem toList_enclose_append (s : String) (rest : List Char) :
    (enclose s).toList ++ rest = '(' :: (s.toList ++ ')' :: rest) := by
  simp [enclose]

theorem conjunction_singleton (s : String) : conjunction [s] = enclose s := by
  rw [conjunction, List.map_singleton, String.intercalate_singleton]

theorem conjunction_cons_cons (s t : String) (parts : List String) :
    conjunction (s :: t :: parts) = enclose s ++ " AND " ++ conjunction (t :: parts) := by
  rw [conjunction, List.map_cons, List.map_cons, String.intercalate_cons_cons, conjunction,
    List.map_cons]

theorem exists_toList_conjunction (s : String) (parts : List String) :
    ∃ rest, (conjunction (s :: parts)).toList = '(' :: rest := by
  cases parts with
  | nil => exact ⟨s.toList ++ [')'], by rw [conjunction_singleton]; simp [enclose]⟩
  | cons t parts =>
    refine ⟨s.toList ++ ')' :: (" AND " ++ conjunction (t :: parts)).toList, ?_⟩
    rw [conjunction_cons_cons, String.append_assoc, String.toList_append, toList_enclose_append]

/-- A conjunction comes apart into its parts, whatever `AND` the parts hold themselves. -/
theorem splitTop_conjunction {s : String} {parts : List String}
    (h : ∀ p ∈ s :: parts, Balanced p) :
    splitTop " AND ".toList 0 0 (conjunction (s :: parts)).toList
      = (s :: parts).map fun p => (enclose p).toList := by
  induction parts generalizing s with
  | nil =>
    rw [conjunction_singleton, ← List.append_nil (enclose s).toList, toList_enclose_append,
      splitTop_enclosed rfl (h s List.mem_cons_self)]
    simp [splitTop, enclose]
  | cons t parts ih =>
    have htail := ih fun p hp => h p (List.mem_cons_of_mem _ hp)
    rw [conjunction_cons_cons, String.append_assoc, String.toList_append, String.toList_append,
      toList_enclose_append, splitTop_enclosed rfl (h s List.mem_cons_self),
      splitTop_sep (by decide), htail]
    simp [enclose]

/-- An `AND` between two texts in parentheses is no `ORDER BY`. -/
theorem splitTop_orderBy_and (rest : List Char) :
    splitTop " ORDER BY ".toList 0 0 (" AND ".toList ++ '(' :: rest)
      = (splitTop " ORDER BY ".toList 0 0 ('(' :: rest)).modifyHead (" AND ".toList ++ ·) := by
  have horder : " ORDER BY ".toList = [' ', 'O', 'R', 'D', 'E', 'R', ' ', 'B', 'Y', ' '] := rfl
  have hand : " AND ".toList = [' ', 'A', 'N', 'D', ' '] := rfl
  rw [horder, hand]
  simp only [List.cons_append, List.nil_append]
  have hblank : stepDepth 0 ' ' = 0 := rfl
  have hA : stepDepth 0 'A' = 0 := rfl
  have hN : stepDepth 0 'N' = 0 := rfl
  have hD : stepDepth 0 'D' = 0 := rfl
  -- no character of the `AND` begins an `ORDER BY`, and none of them is a parenthesis
  rw [splitTop, if_neg (by simp), hblank, splitTop, if_neg (by simp), hA, splitTop,
    if_neg (by simp), hN, splitTop, if_neg (by simp), hD, splitTop, if_neg (by simp), hblank]
  cases splitTop [' ', 'O', 'R', 'D', 'E', 'R', ' ', 'B', 'Y', ' '] 0 0 ('(' :: rest) <;> rfl

theorem splitTop_orderBy {s : String} {parts : List String} (h : ∀ p ∈ s :: parts, Balanced p)
    (rest : List Char) :
    splitTop " ORDER BY ".toList 0 0
        ((conjunction (s :: parts)).toList ++ (" ORDER BY ".toList ++ rest))
      = (conjunction (s :: parts)).toList :: splitTop " ORDER BY ".toList 0 0 rest := by
  induction parts generalizing s with
  | nil =>
    rw [conjunction_singleton, toList_enclose_append,
      splitTop_enclosed rfl (h s List.mem_cons_self), splitTop_sep (by decide)]
    simp [enclose]
  | cons t parts ih =>
    have htail := ih fun p hp => h p (List.mem_cons_of_mem _ hp)
    obtain ⟨back, hback⟩ := exists_toList_conjunction t parts
    rw [conjunction_cons_cons, String.append_assoc, String.toList_append, String.toList_append,
      List.append_assoc, toList_enclose_append, splitTop_enclosed rfl (h s List.mem_cons_self)]
    rw [hback] at htail ⊢
    rw [List.cons_append] at htail
    rw [List.append_assoc, List.cons_append, splitTop_orderBy_and, htail]
    simp [enclose]

/-! ### The first place of a word -/

theorem afterFirst_append {word : List Char} {c : Char} (hword : word.head? = some c)
    {front : List Char} (hfront : c ∉ front) (rest : List Char) :
    afterFirst word (front ++ (word ++ rest)) = some rest := by
  induction front with
  | nil =>
    cases word with
    | nil => cases hword
    | cons d word =>
      have hfound : (d :: word).isPrefixOf (d :: (word ++ rest)) = true :=
        List.isPrefixOf_iff_prefix.2 (List.prefix_append (d :: word) rest)
      rw [List.nil_append, List.cons_append, afterFirst, if_pos hfound]
      simp
  | cons x front ih =>
    have hx : ¬word.isPrefixOf (x :: (front ++ (word ++ rest))) = true := by
      cases word with
      | nil => cases hword
      | cons d word =>
        cases hword
        have hne : c ≠ x := fun hcx => hfront (by simp [hcx])
        simp [List.isPrefixOf, hne]
    rw [List.cons_append, afterFirst, if_neg hx]
    exact ih fun hmem => hfront (List.mem_cons_of_mem _ hmem)

theorem afterFirst_eq_none {word : List Char} {c : Char} (hword : word.head? = some c)
    {text : List Char} (htext : c ∉ text) : afterFirst word text = none := by
  induction text with
  | nil => rfl
  | cons x text ih =>
    have hx : ¬word.isPrefixOf (x :: text) = true := by
      cases word with
      | nil => cases hword
      | cons d word =>
        cases hword
        have hne : c ≠ x := fun hcx => htext (by simp [hcx])
        simp [List.isPrefixOf, hne]
    rw [afterFirst, if_neg hx]
    exact ih fun hmem => htext (List.mem_cons_of_mem _ hmem)

end CatalogSearch.Sql
