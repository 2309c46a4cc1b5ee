import MaskedReport.Failure
import MaskedReport.Pattern

/-!
# Values

The values that sources hold and settings give. Two values are the same if they compare equal:
numbers by what they count, so that `1`, `1.0` and true are the same; a NaN is not even the same as
itself. A mapping keeps its entries in the order in which their keys came first.
-/

set_option autoImplicit false

namespace MaskedReport

/-- A value. -/
inductive Value where
  | null
  | bool (b : Bool)
  | int (i : Int)
  | real (x : Binary64)
  | text (s : Text)
  | bytes (bs : List UInt8)
  | date (d : Date)
  | instant (t : DateTime)
  | list (items : List Value)
  | tuple (items : List Value)
  | set (items : List Value)
  | map (entries : List (Value × Value))
  | pattern (p : Pattern)
  /-- A pattern over bytes, with its text. -/
  | bytePattern (source : List UInt8)
  /-- A list or mapping within itself. -/
  | loop (ofMap : Bool)
  deriving Inhabited

/-- Entries of a mapping in order. -/
abbrev Entries := List (Value × Value)

namespace Value

/-- The name of a kind of value. -/
def kind : Value → String
  | null => "NoneType"
  | bool _ => "bool"
  | int _ => "int"
  | real _ => "float"
  | text _ => "str"
  | bytes _ => "bytes"
  | date _ => "date"
  | instant _ => "datetime"
  | list _ => "list"
  | tuple _ => "tuple"
  | set _ => "set"
  | map _ => "dict"
  | pattern _ => "Pattern"
  | bytePattern _ => "Pattern"
  | loop ofMap => if ofMap then "dict" else "list"

/-- The name of a kind of value with its family. -/
def fullKind : Value → String
  | date _ => "datetime.date"
  | instant _ => "datetime.datetime"
  | pattern _ => "re.Pattern"
  | bytePattern _ => "re.Pattern"
  | v => v.kind

/-- Whether a value counts as true: nothing, zero and whatever is empty do not. -/
def truthy : Value → Bool
  | null => false
  | bool b => b
  | int i => i != 0
  | real x => !x.isZero
  | text s => !s.isEmpty
  | bytes bs => !bs.isEmpty
  | list items => !items.isEmpty
  | tuple items => !items.isEmpty
  | set items => !items.isEmpty
  | map entries => !entries.isEmpty
  | _ => true

/-- A number: whole or a double. -/
inductive Quantity where
  | whole (i : Int)
  | double (x : Binary64)

/-- The number that a value is. Truth values count as one and zero. -/
def quantity? : Value → Option Quantity
  | bool b => some (.whole (if b then 1 else 0))
  | int i => some (.whole i)
  | real x => some (.double x)
  | _ => none

/-- How two numbers compare, exactly. -/
def Quantity.compare? : Quantity → Quantity → Option Ordering
  | .whole i, .whole j => some (compare i j)
  | .whole i, .double y => (y.compareInt? i).map Ordering.swap
  | .double x, .whole j => x.compareInt? j
  | .double x, .double y => x.compare? y

mutual

/-- Whether two values are the same. -/
def same : Value → Value → Bool
  | null, null => true
  | text s, text t => s == t
  | bytes a, bytes b => a == b
  | date a, date b => a == b
  | instant a, instant b => a.compare? b == some .eq
  | list xs, list ys => sameItems xs ys
  | tuple xs, tuple ys => sameItems xs ys
  | set xs, set ys => xs.length == ys.length && allAmong xs ys
  | map a, map b => a.length == b.length && allEntriesAmong a b
  | pattern p, pattern q => p == q
  | bytePattern p, bytePattern q => p == q
  | v, w =>
    match v.quantity?, w.quantity? with
    | some x, some y => x.compare? y == some .eq
    | _, _ => false

/-- Whether two lists hold the same values in the same order. -/
def sameItems : List Value → List Value → Bool
  | [], [] => true
  | x :: xs, y :: ys => same x y && sameItems xs ys
  | _, _ => false

/-- Whether each value is the same as one of the others. -/
def allAmong : List Value → List Value → Bool
  | [], _ => true
  | x :: xs, ys => ys.any (same x) && allAmong xs ys

/-- Whether each entry is the same as one of the others. -/
def allEntriesAmong : List (Value × Value) → List (Value × Value) → Bool
  | [], _ => true
  | (k, v) :: rest, ys => (ys.any fun e => same k e.1 && same v e.2) && allEntriesAmong rest ys

end

mutual

/-- The kind of the part of a value that keeps it from being a key. -/
def unhashable? : Value → Option String
  | list _ => some "list"
  | set _ => some "set"
  | map _ => some "dict"
  | loop ofMap => some (if ofMap then "dict" else "list")
  | tuple items => unhashableIn? items
  | _ => none

/-- The kind of the first part of the values that keeps them from being keys. -/
def unhashableIn? : List Value → Option String
  | [] => none
  | v :: rest => (unhashable? v).or (unhashableIn? rest)

end

/-- The value, if it can be a key. -/
def asKey (v : Value) : Except Failure Value :=
  match v.unhashable? with
  | some kind => .error (.unhashable kind)
  | none => .ok v

/-- The items that a value yields one after the other: a text its letters, bytes their numbers, a
mapping its keys. -/
def items : Value → Except Failure (List Value)
  | text s => .ok (s.toList.map fun c => text (.ofList [c]))
  | bytes bs => .ok (bs.map fun b => int b.toNat)
  | list items => .ok items
  | tuple items => .ok items
  | set items => .ok items
  | map entries => .ok (entries.map Prod.fst)
  | v => .error (.notIterable v.fullKind)

end Value

namespace Entries

/-- The keys in order. -/
def keys (es : Entries) : List Value := es.map Prod.fst

/-- Gives a key a value. A key that is there keeps its form and place. -/
def assign (key value : Value) : Entries → Entries
  | [] => [(key, value)]
  | (k, v) :: rest => if k.same key then (k, value) :: rest else (k, v) :: assign key value rest

/-- Gives keys their values one after the other. -/
def update (es news : Entries) : Entries := news.foldl (fun acc e => assign e.1 e.2 acc) es

/-- The entries that come of giving keys their values one after the other. -/
def ofPairs (pairs : List (Value × Value)) : Entries := update [] pairs

/-- The value of a key. -/
def get? (key : Value) (es : Entries) : Option Value :=
  (es.find? fun e => e.1.same key).map Prod.snd

/-- The value of a text key. -/
def named? (name : String) (es : Entries) : Option Value := es.get? (.text name)

end Entries

namespace Value

/-- An element of a list of pairs as key and value. -/
def asPair (index : Nat) (v : Value) : Except Failure (Value × Value) :=
  match v.items with
  | .error _ => .error (.notAPair index)
  | .ok [k, x] => do return (← k.asKey, x)
  | .ok items => .error (.pairLength index items.length)

/-- Elements as pairs, counted from `index`, given to the entries so far. -/
def assignPairs : Nat → List Value → Entries → Except Failure Entries
  | _, [], es => .ok es
  | index, v :: rest, es => do
    let (k, x) ← v.asPair index
    assignPairs (index + 1) rest (es.assign k x)

/-- The entries of a mapping, or of a list of pairs. -/
def toEntries : Value → Except Failure Entries
  | map entries => .ok entries
  | v => do assignPairs 0 (← v.items) []

end Value

end MaskedReport
