import RelPipe.Document.Value

/-!
The order of values. Values of different kinds are ordered by kind; numbers are compared across
their types, as integers if both are integers and as doubles otherwise. Documents and arrays are
compared entry by entry.
-/

namespace RelPipe.Value

set_option autoImplicit false

def rank : Value → Nat
  | .undefined => 0
  | .null => 1
  | .int32 _ | .int64 _ | .double _ | .decimal _ => 2
  | .string _ | .symbol _ => 3
  | .document _ => 4
  | .array _ => 5
  | .binary _ _ => 6
  | .objectId _ => 7
  | .boolean _ => 8
  | .date _ => 9
  | .timestamp _ _ => 10
  | .regex _ _ => 11
  | .minKey | .maxKey | .code _ | .scopedCode _ _ | .pointer _ _ => 12

def integer? : Value → Option Int
  | .int32 n => some n.toInt
  | .int64 n => some n.toInt
  | _ => none

def compareNumbers (a b : Value) : Ordering :=
  match a.integer?, b.integer? with
  | some m, some n => Ord.compare m n
  | _, _ => (a.toBinary64?.getD .nan).compare (b.toBinary64?.getD .nan)

/-- Compares two values of one kind that hold no other values. Kinds without an order of their own,
and symbols, are all equal. -/
def compareScalars : Value → Value → Ordering
  | .string s, .string t => Text.compare s t
  | .binary i x, .binary j y =>
    (Ord.compare x.length y.length).then <|
      (Ord.compare i.toNat j.toNat).then <|
        Text.lexCompare (fun a b => Ord.compare a.toNat b.toNat) x y
  | .objectId x, .objectId y => Ord.compare x.value.toNat y.value.toNat
  | .boolean x, .boolean y => Ord.compare x.toNat y.toNat
  | .date x, .date y => Ord.compare x.toInt y.toInt
  | .timestamp t i, .timestamp u j =>
    (Ord.compare t.toNat u.toNat).then (Ord.compare i.toNat j.toNat)
  | a, b => if a.isNumeric then compareNumbers a b else .eq

mutual

def compare (a b : Value) : Ordering :=
  match Ord.compare a.rank b.rank with
  | .lt => .lt
  | .gt => .gt
  | .eq =>
    match a, b with
    | .document x, .document y => compareFields x y
    | .array x, .array y => compareItems x y
    | a, b => compareScalars a b
termination_by structural a

def compareItems : List Value → List Value → Ordering
  | [], [] => .eq
  | [], _ :: _ => .lt
  | _ :: _, [] => .gt
  | a :: as, b :: bs => (compare a b).then (compareItems as bs)
termination_by structural as => as

/-- Entries are compared by value first and by name second. -/
def compareFields : List (String × Value) → List (String × Value) → Ordering
  | [], [] => .eq
  | [], _ :: _ => .lt
  | _ :: _, [] => .gt
  | (k, a) :: as, (l, b) :: bs =>
    (compare a b).then ((Text.compare k l).then (compareFields as bs))
termination_by structural as => as

end

def equivalent (a b : Value) : Bool := compare a b == .eq

end RelPipe.Value
