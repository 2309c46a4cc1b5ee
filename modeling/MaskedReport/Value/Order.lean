import MaskedReport.Value.Basic

/-!
# Order of values

Numbers, texts, bytes, dates, times, lists and sets are ordered among their own kind; asking for the
order of other values fails. `sortBy` sorts with an order that may fail: a stable sort by insertion,
which fails at its first comparison that does.
-/

set_option autoImplicit false

namespace MaskedReport

namespace Value

/-- Whether the first bytes come before the second. -/
def bytesBefore (a b : List UInt8) : Bool :=
  compare (a.map UInt8.toNat) (b.map UInt8.toNat) == .lt

mutual

/-- Whether the first value comes before the second. -/
def before : Value → Value → Except Failure Bool
  | text s, text t => .ok (s.before t)
  | bytes a, bytes b => .ok (bytesBefore a b)
  | date a, date b => .ok (a.compare b == .lt)
  | instant a, instant b =>
    match a.compare? b with
    | some o => .ok (o == .lt)
    | none => .error .zoneMismatch
  | date _, instant _ => .error .dateAgainstTime
  | instant _, date _ => .error .dateAgainstTime
  | list xs, list ys => itemsBefore xs ys
  | tuple xs, tuple ys => itemsBefore xs ys
  | set xs, set ys => .ok (xs.length < ys.length && allAmong xs ys)
  | v, w =>
    match v.quantity?, w.quantity? with
    | some x, some y => .ok (x.compare? y == some .lt)
    | _, _ => .error (.unordered v.fullKind w.fullKind)

/-- Whether the first list comes before the second: at the first items that differ, or by
length. -/
def itemsBefore : List Value → List Value → Except Failure Bool
  | [], ys => .ok !ys.isEmpty
  | _ :: _, [] => .ok false
  | x :: xs, y :: ys => if same x y then itemsBefore xs ys else before x y

end

end Value

namespace Sorting

variable {α : Type}

/-- How many items after `last` go on falling. -/
def falling (lt : α → α → Except Failure Bool) : α → List α → Except Failure Nat
  | _, [] => .ok 0
  | last, x :: rest => do
    if ← lt x last then return (← falling lt x rest) + 1 else return 0

/-- How many items after `last` do not fall. -/
def rising (lt : α → α → Except Failure Bool) : α → List α → Except Failure Nat
  | _, [] => .ok 0
  | last, x :: rest => do
    if ← lt x last then return 0 else return (← rising lt x rest) + 1

/-- The place of an item among sorted ones, after those that it does not come before; `fuel` bounds
the halvings. -/
def place (lt : α → α → Except Failure Bool) (sorted : List α) (x : α) :
    Nat → (low high : Nat) → Except Failure Nat
  | 0, low, _ => .ok low
  | fuel + 1, low, high => do
    if high ≤ low then return low
    let middle := low + (high - low) / 2
    match sorted[middle]? with
    | none => return low
    | some y =>
      if ← lt x y then place lt sorted x fuel low middle
      else place lt sorted x fuel (middle + 1) high

/-- Puts items one after the other in their places. -/
def insertAll (lt : α → α → Except Failure Bool) : List α → List α → Except Failure (List α)
  | sorted, [] => .ok sorted
  | sorted, x :: rest => do
    let n ← place lt sorted x (sorted.length + 1) 0 sorted.length
    insertAll lt (sorted.take n ++ x :: sorted.drop n) rest

/-- Sorts stably with an order that may fail. The run at the head that is in order, or falls
throughout, is taken first; then each item is put in its place by halving. -/
def sortBy (lt : α → α → Except Failure Bool) : List α → Except Failure (List α)
  | [] => .ok []
  | [x] => .ok [x]
  | x :: y :: rest => do
    if ← lt y x then
      let n ← falling lt y rest
      insertAll lt ((x :: y :: rest.take n).reverse) (rest.drop n)
    else
      let n ← rising lt y rest
      insertAll lt (x :: y :: rest.take n) (rest.drop n)

end Sorting

end MaskedReport
