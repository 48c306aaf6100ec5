/-!
Fields: named values in the order in which the names were first written. Writing to a present name
replaces its value in place.
-/

namespace RelPipe

set_option autoImplicit false

abbrev Fields (α : Type) := List (String × α)

namespace Fields

variable {α : Type}

def get? (fields : Fields α) (name : String) : Option α := List.lookup name fields

def contains (fields : Fields α) (name : String) : Bool := (fields.get? name).isSome

def insert : Fields α → String → α → Fields α
  | [], name, value => [(name, value)]
  | (key, old) :: rest, name, value =>
    if key = name then (key, value) :: rest else (key, old) :: insert rest name value

def erase : Fields α → String → Fields α
  | [], _ => []
  | (key, value) :: rest, name => if key = name then rest else (key, value) :: erase rest name

def insertAll (fields : Fields α) (pairs : List (String × α)) : Fields α :=
  pairs.foldl (fun fields e => insert fields e.1 e.2) fields

def ofPairs (pairs : List (String × α)) : Fields α := insertAll [] pairs

@[simp] theorem get?_nil (name : String) : get? ([] : Fields α) name = none := rfl

theorem get?_cons (key name : String) (value : α) (rest : Fields α) :
    get? ((key, value) :: rest) name = if key = name then some value else get? rest name := by
  by_cases h : key = name
  · subst h
    simp [get?]
  · have h' : ¬name = key := fun e => h e.symm
    simp [get?, List.lookup_cons, h, beq_eq_false_iff_ne.2 h']

@[simp] theorem get?_insert_self (fields : Fields α) (name : String) (value : α) :
    get? (insert fields name value) name = some value := by
  induction fields with
  | nil => simp [insert, get?_cons]
  | cons e rest ih =>
    obtain ⟨key, old⟩ := e
    by_cases h : key = name <;> simp [insert, h, get?_cons, ih]

theorem get?_insert_of_ne (fields : Fields α) {name other : String} (h : name ≠ other) (value : α) :
    get? (insert fields name value) other = get? fields other := by
  induction fields with
  | nil => simp [insert, get?_cons, h]
  | cons e rest ih =>
    obtain ⟨key, old⟩ := e
    by_cases hk : key = name
    · subst hk
      simp [insert, get?_cons, h]
    · simp [insert, hk, get?_cons, ih]

end Fields

end RelPipe
