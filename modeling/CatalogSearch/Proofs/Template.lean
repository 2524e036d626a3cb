import CatalogSearch.Search.Target

/-!
# Templates that use only the alias

Filling a template can fail in many ways, and none of them is open to a template whose braces all
belong to `{alias}` or are doubled. Such a template is filled by replacing: `expand` says with what,
and `fill_eq_expand` is the only fact about `Template.fill` that the rest of the proofs needs.
-/

namespace CatalogSearch

namespace Template

/-- Whether every brace of a text belongs to `{alias}` or is doubled. -/
def usesOnlyAlias : List Char → Bool
  | '\x7b' :: 'a' :: 'l' :: 'i' :: 'a' :: 's' :: '\x7d' :: cs => usesOnlyAlias cs
  | '\x7b' :: '\x7b' :: cs => usesOnlyAlias cs
  | '\x7d' :: '\x7d' :: cs => usesOnlyAlias cs
  | c :: cs => c != '\x7b' && c != '\x7d' && usesOnlyAlias cs
  | [] => true

/-- The text with the alias in the place of `{alias}` and one brace in the place of two. -/
def expandChars (tableAlias : List Char) : List Char → List Char
  | '\x7b' :: 'a' :: 'l' :: 'i' :: 'a' :: 's' :: '\x7d' :: cs =>
    tableAlias ++ expandChars tableAlias cs
  | '\x7b' :: '\x7b' :: cs => '\x7b' :: expandChars tableAlias cs
  | '\x7d' :: '\x7d' :: cs => '\x7d' :: expandChars tableAlias cs
  | c :: cs => c :: expandChars tableAlias cs
  | [] => []

/-- A template that uses only the alias. -/
def Plain (template : String) : Prop := usesOnlyAlias template.toList = true

instance (template : String) : Decidable (Plain template) :=
  inferInstanceAs (Decidable (usesOnlyAlias template.toList = true))

def expand (template tableAlias : String) : String :=
  String.ofList (expandChars tableAlias.toList template.toList)

theorem fillFrom_alias (tableAlias : String) (depth fuel : Nat) (cs : List Char) :
    fillFrom tableAlias (depth + 1) (fuel + 1)
        ('\x7b' :: 'a' :: 'l' :: 'i' :: 'a' :: 's' :: '\x7d' :: cs)
      = (fillFrom tableAlias (depth + 1) fuel cs).map (tableAlias.toList ++ ·) := by
  have hstep : fillFrom tableAlias (depth + 1) (fuel + 1)
        ('\x7b' :: 'a' :: 'l' :: 'i' :: 'a' :: 's' :: '\x7d' :: cs)
      = (do return tableAlias.toList ++ (← fillFrom tableAlias (depth + 1) fuel cs)) := by
    rw [fillFrom.eq_def]
    rfl
  rw [hstep]
  cases fillFrom tableAlias (depth + 1) fuel cs <;> rfl

theorem fillFrom_char (tableAlias : String) (depth fuel : Nat) {c : Char} (cs : List Char)
    (hopen : c ≠ '\x7b') (hclose : c ≠ '\x7d') :
    fillFrom tableAlias (depth + 1) (fuel + 1) (c :: cs)
      = (fillFrom tableAlias (depth + 1) fuel cs).map (c :: ·) := by
  rw [fillFrom.eq_def]
  split <;> simp_all

theorem fillFrom_eq_expandChars (tableAlias : String) (depth : Nat) {cs : List Char}
    (h : usesOnlyAlias cs = true) (fuel : Nat) (hfuel : cs.length < fuel) :
    fillFrom tableAlias (depth + 1) fuel cs = .ok (expandChars tableAlias.toList cs) := by
  obtain ⟨fuel, rfl⟩ : ∃ n, fuel = n + 1 := ⟨fuel - 1, by omega⟩
  induction cs using usesOnlyAlias.induct generalizing fuel with
  | case1 cs ih =>
    simp only [List.length_cons] at hfuel
    obtain ⟨n, rfl⟩ : ∃ n, fuel = n + 1 := ⟨fuel - 1, by omega⟩
    rw [fillFrom_alias, ih h n (by omega)]
    rfl
  | case2 cs ih =>
    simp only [List.length_cons] at hfuel
    obtain ⟨n, rfl⟩ : ∃ n, fuel = n + 1 := ⟨fuel - 1, by omega⟩
    rw [fillFrom, ih h n (by omega)]
    rfl
  | case3 cs ih =>
    simp only [List.length_cons] at hfuel
    obtain ⟨n, rfl⟩ : ∃ n, fuel = n + 1 := ⟨fuel - 1, by omega⟩
    rw [fillFrom, ih h n (by omega)]
    rfl
  | case4 c cs h1 h2 h3 ih =>
    simp only [List.length_cons] at hfuel
    obtain ⟨n, rfl⟩ : ∃ n, fuel = n + 1 := ⟨fuel - 1, by omega⟩
    rw [usesOnlyAlias.eq_4 c cs h1 h2 h3] at h
    simp only [Bool.and_eq_true, bne_iff_ne] at h
    rw [fillFrom_char _ _ _ _ h.1.1 h.1.2, ih h.2 n (by omega), expandChars.eq_4 _ c cs h1 h2 h3]
    rfl
  | case5 => rfl

/-- A plain template is filled by replacing. -/
theorem fill_eq_expand {template : String} (h : Plain template) (tableAlias : String) :
    fill template tableAlias = .ok (expand template tableAlias) := by
  rw [fill, fillFrom_eq_expandChars tableAlias 1 h _ (Nat.lt_succ_self _)]
  rfl

theorem mem_expandChars {tableAlias cs : List Char} {c : Char}
    (h : c ∈ expandChars tableAlias cs) : c ∈ tableAlias ∨ c ∈ cs := by
  induction cs using expandChars.induct with
  | case1 cs ih =>
    rw [expandChars, List.mem_append] at h
    rcases h with h | h
    · exact Or.inl h
    · exact (ih h).imp_right fun h => by simp [h]
  | case2 cs ih =>
    rw [expandChars, List.mem_cons] at h
    rcases h with rfl | h
    · exact Or.inr (by simp)
    · exact (ih h).imp_right fun h => by simp [h]
  | case3 cs ih =>
    rw [expandChars, List.mem_cons] at h
    rcases h with rfl | h
    · exact Or.inr (by simp)
    · exact (ih h).imp_right fun h => by simp [h]
  | case4 d cs h1 h2 h3 ih =>
    rw [expandChars.eq_4 _ d cs h1 h2 h3, List.mem_cons] at h
    rcases h with rfl | h
    · exact Or.inr (by simp)
    · exact (ih h).imp_right fun h => by simp [h]
  | case5 => simp [expandChars] at h

end Template

theorem fillTemplates_eq {templates : List String} (h : ∀ t ∈ templates, Template.Plain t)
    (tableAlias : String) :
    fillTemplates templates tableAlias = .ok (templates.map (Template.expand · tableAlias)) := by
  induction templates with
  | nil => rfl
  | cons t ts ih =>
    have htail := ih fun u hu => h u (List.mem_cons_of_mem _ hu)
    rw [fillTemplates] at htail ⊢
    rw [List.mapM_cons, htail, Template.fill_eq_expand (h t List.mem_cons_self)]
    rfl

end CatalogSearch
