/-!
# Merging with a comparison that may fail

Two sorted runs become one. As long as both runs give items in turn, each item is compared on its
own; once one of them gives many in a row, a gallop finds how many more it gives: by steps of growing
width, and then by halving.

The comparison need not be an order, and it may fail. So it matters which items are compared, and in
which sequence, and both are fixed here: the merge goes from the front if the first run is not the
longer one, and else from the back.
-/

namespace CatalogSearch.Sort

variable {α ε : Type}

/-- How often a run has to win in a row before a gallop, as the state of a computation. -/
abbrev Merging (ε : Type) := StateT Nat (Except ε)

/-- How often a run has to win in a row before the first gallop, and how far a gallop has to go to be
worth another one. -/
def patience : Nat := 7

/-- The place from which on the items of a list fail a test, if it lies between `low` and `high`,
found by halving. Of two items in the middle, `back` takes the first. -/
def narrow (back : Bool) (test : α → Except ε Bool) (xs : List α) :
    Nat → Nat → Nat → Except ε Nat
  | 0, low, _ => .ok low
  | fuel + 1, low, high =>
    if low < high then
      let middle := low + (high - low - if back then 1 else 0) / 2
      match xs[middle]? with
      | none => .ok low
      | some x => do
        if ← test x then narrow back test xs fuel (middle + 1) high
        else narrow back test xs fuel low middle
    else .ok low

/-- Leaps over a list as long as the items pass a test. Gives the last place where one passed and a
later one where one failed or the list ends. -/
def leap (test : α → Except ε Bool) (xs : List α) : Nat → Nat → Nat → Except ε (Nat × Nat)
  | 0, low, high => .ok (low, high)
  | fuel + 1, low, high =>
    match xs[high]? with
    | none => .ok (low, xs.length)
    | some x => do
      if ← test x then leap test xs fuel high (2 * high + 1) else return (low, high)

/-- How many items at the front of a list pass a test, if all items that pass it stand there. -/
def gallop (back : Bool) (test : α → Except ε Bool) : List α → Except ε Nat
  | [] => .ok 0
  | x :: xs => do
    if ← test x then
      let (low, high) ← leap test (x :: xs) (xs.length + 1) 0 1
      narrow back test (x :: xs) (xs.length + 1) (low + 1) high
    else return 0

/-- What is left of two runs, merged, when that needs no comparison: one run is at its end, or the
shorter one is at its last item, which is known to go behind everything. -/
def settled? (back : Bool) (a b : List α) : Option (List α) :=
  if b.isEmpty then some a
  else if a.isEmpty then some b
  else if !back && a.length == 1 then some (b ++ a)
  else if back && b.length == 1 then some (a ++ b)
  else none

/-- What comes next in a merge. -/
inductive Turn where
  /-- Comparing two items, after some wins in a row of the first and of the second run. -/
  | single (first second : Nat)
  /-- Galloping through the first run and then through the second. -/
  | gallop

/-- Merges what is left of two runs. With `back` both runs are given, and the result too, from their
ends on. -/
def interleave (less : α → α → Except ε Bool) (back : Bool) :
    Nat → Turn → List α → List α → Merging ε (List α)
  | 0, _, a, b => return a ++ b
  | fuel + 1, turn, a, b =>
    match settled? back a b, turn, a, b with
    | some rest, _, _, _ => return rest
    | none, .single first second, x :: xs, y :: ys => do
      if (← less y x) != back then
        let next := if second + 1 < (← get) then .single 0 (second + 1) else .gallop
        return y :: (← interleave less back fuel next (x :: xs) ys)
      else
        let next := if first + 1 < (← get) then .single (first + 1) 0 else .gallop
        return x :: (← interleave less back fuel next xs (y :: ys))
    | none, .gallop, a, y :: ys => do
      let k ← Sort.gallop back (fun x => return (← less y x) == back) a
      let winners := a.take k
      let a := a.drop k
      if let some rest := settled? back a (y :: ys) then return winners ++ rest
      if let some rest := settled? back a ys then return winners ++ y :: rest
      match a with
      | [] => return winners ++ y :: ys
      | x :: xs =>
        let m ← Sort.gallop back (fun y => return (← less y x) != back) ys
        let more := ys.take m
        let b := ys.drop m
        if let some rest := settled? back (x :: xs) b then return winners ++ y :: more ++ rest
        if let some rest := settled? back xs b then return winners ++ y :: more ++ x :: rest
        let goesOn := k ≥ patience || m ≥ patience
        modify fun n => if goesOn then max 1 (n - 1) else n + 1
        let next := if goesOn then .gallop else .single 0 0
        return winners ++ y :: more ++ x :: (← interleave less back fuel next xs b)
    | none, _, a, b => return a ++ b

/-- Merges two runs, the second of which has an item below the last one of the first. -/
def blend (less : α → α → Except ε Bool) (a b : List α) : Merging ε (List α) :=
  let fuel := a.length + b.length + 1
  if a.length ≤ b.length then
    match b with
    | [] => return a
    | y :: b => return y :: (← interleave less false fuel (.single 0 0) a b)
  else
    match a.reverse with
    | [] => return b
    | x :: a => return (x :: (← interleave less true fuel (.single 0 0) a b.reverse)).reverse

/-- Merges two runs. Items that are in their place already are left there. -/
def merge (less : α → α → Except ε Bool) (a b : List α) : Merging ε (List α) :=
  match b with
  | [] => return a
  | y :: _ => do
    let k ← gallop false (fun x => return !(← less y x)) a
    match (a.drop k).getLast? with
    | none => return a ++ b
    | some last =>
      let m ← gallop true (fun y => return !(← less y last)) b.reverse
      let moved := b.take (b.length - m)
      if moved.isEmpty then return a ++ b
      return a.take k ++ (← blend less (a.drop k) moved) ++ b.drop (b.length - m)

end CatalogSearch.Sort
