import CatalogSearch.Condition
import CatalogSearch.Proofs.Sql.Like
import CatalogSearch.Value.Order

/-!
# Expressions of SQL

The expressions that the predicates of a search are written in, and what they say of a row. SQL has
three truth values: a comparison with a missing value is neither true nor false, and a row is
selected only if its predicate is true. `NOT`, `AND` and `OR` go by the tables of Kleene, and `IN`
and `NOT IN` are read as SQL defines them, as some equality and as only inequalities.

What a store makes of its columns is left open as far as it can be: a column may convert what it is
compared with to its own type, a number may be spelled in any way before it is matched against a
pattern, and the tables may hold anything.
-/

namespace CatalogSearch.Sql

/-! ### Truth values -/

inductive Truth where
  | yes
  | no
  | unknown
  deriving DecidableEq, Repr

namespace Truth

def ofBool (b : Bool) : Truth := if b then yes else no

def not : Truth → Truth
  | yes => no
  | no => yes
  | unknown => unknown

def negateIf (negate : Bool) (t : Truth) : Truth := if negate then t.not else t

def and : Truth → Truth → Truth
  | no, _ => no
  | _, no => no
  | yes, yes => yes
  | _, _ => unknown

def or : Truth → Truth → Truth
  | yes, _ => yes
  | _, yes => yes
  | no, no => no
  | _, _ => unknown

def any (ts : List Truth) : Truth := ts.foldr or no

def all (ts : List Truth) : Truth := ts.foldr and yes

@[simp] theorem not_not (t : Truth) : t.not.not = t := by cases t <;> rfl

theorem not_or (s t : Truth) : (s.or t).not = s.not.and t.not := by cases s <;> cases t <;> rfl

theorem not_eq_yes_iff {t : Truth} : t.not = yes ↔ t = no := by cases t <;> simp [not]

theorem ofBool_eq_yes_iff {b : Bool} : ofBool b = yes ↔ b = true := by cases b <;> simp [ofBool]

theorem ofBool_eq_no_iff {b : Bool} : ofBool b = no ↔ b = false := by cases b <;> simp [ofBool]

theorem or_eq_yes_iff {s t : Truth} : s.or t = yes ↔ s = yes ∨ t = yes := by
  cases s <;> cases t <;> simp [or]

theorem and_eq_yes_iff {s t : Truth} : s.and t = yes ↔ s = yes ∧ t = yes := by
  cases s <;> cases t <;> simp [and]

theorem not_any (ts : List Truth) : (any ts).not = all (ts.map not) := by
  induction ts with
  | nil => rfl
  | cons t ts ih =>
    rw [List.map_cons, all, List.foldr_cons, ← all, ← ih, any, List.foldr_cons, ← any, not_or]

theorem any_eq_yes_iff {ts : List Truth} : any ts = yes ↔ yes ∈ ts := by
  induction ts with
  | nil => simp [any]
  | cons t ts ih => rw [any, List.foldr_cons, ← any, or_eq_yes_iff, ih, List.mem_cons, eq_comm]

theorem all_eq_yes_iff {ts : List Truth} : all ts = yes ↔ ∀ t ∈ ts, t = yes := by
  induction ts with
  | nil => simp [all]
  | cons t ts ih =>
    rw [all, List.foldr_cons, ← all, and_eq_yes_iff, ih, List.forall_mem_cons]

end Truth

/-! ### Rows and stores -/

/-- A value as it stands in a comparison. What a column holds comes with the type of the column. -/
structure Cell where
  value : Value
  type : Option String := none

abbrev Record := String → Cell

/-- What the truth of an expression depends on beside the row. -/
structure Database where
  /-- What becomes of a value that is compared with another one, where one of the two has a type. -/
  convert : Cell → Cell → Value
  /-- How a value that is no text is spelled. -/
  spelling : Value → Text
  /-- The rows of a table. -/
  rows : String → List Record
  /-- The items of a JSON list that a column holds. -/
  items : Value → List Value

/-- A store without tables, whose columns convert nothing. -/
def Database.bare : Database where
  convert a _ := a.value
  spelling _ := ""
  rows _ := []
  items _ := []

/-- Whether a value is missing. A number that is none is stored as a missing value. -/
def isMissing : Value → Bool
  | .null => true
  | .float .nan => true
  | _ => false

/-- The order of values: numbers by their places, then texts by their code points. -/
def order (v w : Value) : Ordering :=
  match v, w with
  | .text s, .text t => if s = t then .eq else if s.less t then .lt else .gt
  | v, w =>
    match v.place?, w.place? with
    | some p, some q => if p.same q then .eq else if p.less q then .lt else .gt
    | some _, none => .lt
    | none, some _ => .gt
    | none, none => .eq

def accepts : Comparison → Ordering → Bool
  | .equal, o => o == .eq
  | .greaterThan, o => o == .gt
  | .greaterOrEqual, o => o != .lt
  | .lessThan, o => o == .lt
  | .lessOrEqual, o => o != .gt

namespace Database

variable (db : Database)

/-- What a value counts as beside another one. -/
def counted (a b : Cell) : Value :=
  if a.type = none ∧ b.type = none then a.value else db.convert a b

def compare (comparison : Comparison) (a b : Cell) : Truth :=
  if isMissing a.value || isMissing b.value then .unknown
  else .ofBool (accepts comparison (order (db.counted a b) (db.counted b a)))

theorem compare_untyped (comparison : Comparison) {v w : Value} (hv : isMissing v = false)
    (hw : isMissing w = false) :
    db.compare comparison ⟨v, none⟩ ⟨w, none⟩ = .ofBool (accepts comparison (order v w)) := by
  rw [compare, hv, hw, if_neg (by decide : ¬(false || false) = true), counted, counted,
    if_pos ⟨rfl, rfl⟩, if_pos ⟨rfl, rfl⟩]

def textOf : Value → Text
  | .text t => t
  | v => db.spelling v

def like (a pattern : Cell) : Truth :=
  if isMissing a.value || isMissing pattern.value then .unknown
  else .ofBool (Sql.like (db.textOf a.value) (db.textOf pattern.value))

end Database

/-! ### Expressions -/

inductive Operand where
  | name (s : String)
  | value (v : Value)

/-- Where a subquery looks: in a table, or in the JSON list that a column holds. -/
inductive Source where
  | table (s : String)
  | items (column : String)

inductive Expr where
  | compare (a : Operand) (comparison : Comparison) (b : Operand)
  | isNull (a : Operand)
  | like (a pattern : Operand)
  | member (a : Operand) (bs : List Operand)
  | noMember (a : Operand) (bs : List Operand)
  /-- Some row of a source, under a name for the row, satisfies a condition. -/
  | exists_ (source : Source) (rowName : String) (e : Expr)
  | not (e : Expr)
  | and (e f : Expr)
  | or (e f : Expr)

def Operand.cell (row : Record) : Operand → Cell
  | name s => row s
  | value v => ⟨v, none⟩

/-- A row inside a subquery: columns that are qualified with the name of the inner row are those of
the inner row. -/
def Record.within (row : Record) (rowName : String) (inner : Record) : Record := fun column =>
  match column.toList.dropPrefix? (rowName ++ ".").toList with
  | some rest => inner (String.ofList rest)
  | none => row column

/-- The rows of a source. An item of a list is a row with one column, `value`. -/
def Source.records (db : Database) (row : Record) : Source → List Record
  | table s => db.rows s
  | items column =>
    (db.items (row column).value).map fun v s => if s = "value" then ⟨v, none⟩ else ⟨.null, none⟩

def Expr.truth (db : Database) : Expr → Record → Truth
  | compare a comparison b, row => db.compare comparison (a.cell row) (b.cell row)
  | isNull a, row => .ofBool (isMissing (a.cell row).value)
  | like a pattern, row => db.like (a.cell row) (pattern.cell row)
  | member a bs, row => .any (bs.map fun b => db.compare .equal (a.cell row) (b.cell row))
  | noMember a bs, row => .all (bs.map fun b => (db.compare .equal (a.cell row) (b.cell row)).not)
  | exists_ source rowName e, row =>
    .ofBool ((source.records db row).any fun inner => e.truth db (row.within rowName inner) == .yes)
  | not e, row => (e.truth db row).not
  | and e f, row => (e.truth db row).and (f.truth db row)
  | or e f, row => (e.truth db row).or (f.truth db row)

def Expr.negateIf (negate : Bool) (e : Expr) : Expr := if negate then not e else e

theorem Expr.truth_negateIf (db : Database) (row : Record) (negate : Bool) (e : Expr) :
    (e.negateIf negate).truth db row = (e.truth db row).negateIf negate := by
  cases negate <;> rfl

/-- `NOT IN` is the negation of `IN`, also where values are missing. -/
theorem Expr.truth_noMember (db : Database) (row : Record) (a : Operand) (bs : List Operand) :
    (noMember a bs).truth db row = ((member a bs).truth db row).not := by
  rw [truth, truth, Truth.not_any, List.map_map]
  rfl

end CatalogSearch.Sql
