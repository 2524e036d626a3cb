import CatalogSearch.Sort.Merge

/-!
# Sorting with a comparison that may fail

A stable merge sort that makes use of the runs that are there already. A run that is too short is
filled up by insertion. Which runs are merged when follows from where their border lies: the power of
a border is the number of halvings of the whole list after which the middles of the two runs are
apart, and borders of higher power are merged first.

Of an order it gives the sorted list. Of a comparison that is no order, or that fails, what comes out
depends on the comparisons that are made, and those are part of what is defined here.
-/

namespace CatalogSearch.Sort

variable {α ε : Type}

/-- A run on its way to be merged, with the place where it begins and the power of the border behind
it. -/
structure Pending (α : Type) where
  start : Nat
  items : List α
  power : Nat

/-- The power of a border, given twice the middles of the two runs beside it. -/
def power (length : Nat) : Nat → Nat → Nat → Nat
  | 0, _, _ => 0
  | fuel + 1, a, b =>
    if length ≤ a then power length fuel (2 * (a - length)) (2 * (b - length)) + 1
    else if length ≤ b then 1
    else power length fuel (2 * a) (2 * b) + 1

/-- Puts a run behind another. Borders of higher power than the one between them are merged
first. -/
def settle (less : α → α → Except ε Bool) (power : Nat) :
    Pending α → List (Pending α) → Merging ε (List (Pending α))
  | last, [] => return [{ last with power }]
  | last, before :: stack =>
    if power < before.power then do
      settle less power ⟨before.start, ← merge less before.items last.items, 0⟩ stack
    else return { last with power } :: before :: stack

/-- Adds a run to the runs before it, the last of which comes first. -/
def push (less : α → α → Except ε Bool) (length : Nat) (run : Pending α) :
    List (Pending α) → Merging ε (List (Pending α))
  | [] => return [run]
  | last :: stack => do
    let a := 2 * last.start + last.items.length
    let b := a + last.items.length + run.items.length
    return run :: (← settle less (power length (length + 2) a b) last stack)

/-- Merges all runs, the last of which comes first. -/
def mergeAll (less : α → α → Except ε Bool) : Nat → List (Pending α) → Merging ε (List α)
  | _, [] => return []
  | _, [run] => return run.items
  | _, [b, a] => merge less a.items b.items
  | 0, stack => return stack.reverse.flatMap (·.items)
  | fuel + 1, c :: b :: a :: stack => do
    if a.items.length < c.items.length then
      mergeAll less fuel (c :: { a with items := ← merge less a.items b.items } :: stack)
    else mergeAll less fuel ({ b with items := ← merge less b.items c.items } :: a :: stack)

/-- The least length of a run: the length of the list if that is below 64, else between 32 and 64,
such that the runs are about as many as a power of 2. -/
def leastRun (length rest : Nat) : Nat :=
  if length < 64 then length + rest else leastRun (length / 2) (max rest (length % 2))

def insert (less : α → α → Except ε Bool) (run : List α) (x : α) : Except ε (List α) := do
  let i ← narrow false (fun y => return !(← less x y)) run (run.length + 1) 0 run.length
  return run.take i ++ x :: run.drop i

/-- Splits off the items of a run behind its first one, `last`, in which each is below the one before
it (`falling`) or none is. -/
def splitRun (less : α → α → Except ε Bool) (falling : Bool) :
    α → List α → Except ε (List α × List α)
  | _, [] => .ok ([], [])
  | last, x :: xs => do
    if (← less x last) == falling then
      let (run, rest) ← splitRun less falling x xs
      return (x :: run, rest)
    else return ([], x :: xs)

/-- Splits off the first run, in ascending order. -/
def firstRun (less : α → α → Except ε Bool) : List α → Except ε (List α × List α)
  | x :: y :: xs => do
    let falling ← less y x
    let (run, rest) ← splitRun less falling y xs
    return (if falling then (x :: y :: run).reverse else x :: y :: run, rest)
  | xs => .ok (xs, [])

/-- Splits off run after run and merges them. -/
def sortRuns (less : α → α → Except ε Bool) (length : Nat) :
    Nat → List α → List (Pending α) → Merging ε (List α)
  | fuel + 1, x :: xs, stack => do
    let (found, rest) ← firstRun less (x :: xs)
    let missing := min (leastRun length 0) (xs.length + 1) - found.length
    let run ← StateT.lift ((rest.take missing).foldlM (insert less) found)
    let stack ← push less length ⟨length - (xs.length + 1), run, 0⟩ stack
    sortRuns less length fuel (rest.drop missing) stack
  | _, _, stack => mergeAll less stack.length stack

/-- The items in ascending order, equal ones in the order given. -/
def adaptive (less : α → α → Except ε Bool) (xs : List α) : Except ε (List α) :=
  (sortRuns less xs.length xs.length xs []).run' patience

end CatalogSearch.Sort
