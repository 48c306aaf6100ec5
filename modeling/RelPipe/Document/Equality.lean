import RelPipe.Document.Value

/-!
Equality of values is decidable.
-/

namespace RelPipe.Value

set_option autoImplicit false

mutual

def same : Value → Value → Bool
  | .null, .null | .undefined, .undefined | .minKey, .minKey | .maxKey, .maxKey => true
  | .boolean a, .boolean b => decide (a = b)
  | .int32 a, .int32 b => decide (a = b)
  | .int64 a, .int64 b => decide (a = b)
  | .double a, .double b => decide (a = b)
  | .decimal a, .decimal b => decide (a = b)
  | .string a, .string b => decide (a = b)
  | .symbol a, .symbol b => decide (a = b)
  | .code a, .code b => decide (a = b)
  | .scopedCode a s, .scopedCode b t => decide (a = b) && sameFields s t
  | .date a, .date b => decide (a = b)
  | .timestamp a i, .timestamp b j => decide (a = b) && decide (i = j)
  | .objectId a, .objectId b => decide (a = b)
  | .pointer a x, .pointer b y => decide (a = b) && decide (x = y)
  | .binary a x, .binary b y => decide (a = b) && decide (x = y)
  | .regex a x, .regex b y => decide (a = b) && decide (x = y)
  | .array a, .array b => sameItems a b
  | .document a, .document b => sameFields a b
  | _, _ => false
termination_by structural a => a

def sameItems : List Value → List Value → Bool
  | [], [] => true
  | a :: as, b :: bs => same a b && sameItems as bs
  | _, _ => false
termination_by structural as => as

def sameFields : List (String × Value) → List (String × Value) → Bool
  | [], [] => true
  | (k, a) :: as, (l, b) :: bs => decide (k = l) && same a b && sameFields as bs
  | _, _ => false
termination_by structural as => as

end

mutual

theorem same_iff : (a b : Value) → (same a b = true ↔ a = b)
  | .null, b => by cases b <;> simp [same]
  | .undefined, b => by cases b <;> simp [same]
  | .minKey, b => by cases b <;> simp [same]
  | .maxKey, b => by cases b <;> simp [same]
  | .boolean _, b => by cases b <;> simp [same]
  | .int32 _, b => by cases b <;> simp [same]
  | .int64 _, b => by cases b <;> simp [same]
  | .double _, b => by cases b <;> simp [same]
  | .decimal _, b => by cases b <;> simp [same]
  | .string _, b => by cases b <;> simp [same]
  | .symbol _, b => by cases b <;> simp [same]
  | .code _, b => by cases b <;> simp [same]
  | .scopedCode _ s, b => by cases b <;> simp [same, sameFields_iff s]
  | .date _, b => by cases b <;> simp [same]
  | .timestamp _ _, b => by cases b <;> simp [same]
  | .objectId _, b => by cases b <;> simp [same]
  | .pointer _ _, b => by cases b <;> simp [same]
  | .binary _ _, b => by cases b <;> simp [same]
  | .regex _ _, b => by cases b <;> simp [same]
  | .array items, b => by cases b <;> simp [same, sameItems_iff items]
  | .document fields, b => by cases b <;> simp [same, sameFields_iff fields]
termination_by structural a => a

theorem sameItems_iff : (as bs : List Value) → (sameItems as bs = true ↔ as = bs)
  | [], bs => by cases bs <;> simp [sameItems]
  | a :: as, bs => by cases bs <;> simp [sameItems, same_iff a, sameItems_iff as]
termination_by structural as => as

theorem sameFields_iff :
    (as bs : List (String × Value)) → (sameFields as bs = true ↔ as = bs)
  | [], bs => by cases bs <;> simp [sameFields]
  | (k, a) :: as, bs => by
    cases bs with
    | nil => simp [sameFields]
    | cons e bs => simp [sameFields, same_iff a, sameFields_iff as, Prod.ext_iff]
termination_by structural as => as

end

instance : DecidableEq Value := fun a b => decidable_of_iff _ (same_iff a b)

end RelPipe.Value
