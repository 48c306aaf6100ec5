import RelPipe.Text.Case

/-!
Maps from names to values in which names that differ only in letter case are the same. Entries keep
the order and the spelling of their first insertion; writing to a present name replaces its value
in place.
-/

namespace RelPipe

set_option autoImplicit false

structure CaselessMap (α : Type) where
  entries : List (String × α)

namespace CaselessMap

variable {α : Type}

def empty : CaselessMap α := ⟨[]⟩

/-- Whether two spellings name the same entry. -/
def sameName (a b : String) : Bool := Text.lower a == Text.lower b

def get? (m : CaselessMap α) (name : String) : Option α :=
  (m.entries.find? fun e => sameName e.1 name).map Prod.snd

def contains (m : CaselessMap α) (name : String) : Bool := m.entries.any fun e => sameName e.1 name

def keys (m : CaselessMap α) : List String := m.entries.map Prod.fst

def size (m : CaselessMap α) : Nat := m.entries.length

def isEmpty (m : CaselessMap α) : Bool := m.entries.isEmpty

/-- Writes a value under a name; a present entry keeps its place and spelling. -/
def insert (m : CaselessMap α) (name : String) (value : α) : CaselessMap α :=
  if m.contains name then
    ⟨m.entries.map fun e => if sameName e.1 name then (e.1, value) else e⟩
  else
    ⟨m.entries ++ [(name, value)]⟩

def exchange (m : CaselessMap α) (name : String) (value : α) : Option α × CaselessMap α :=
  match m.entries.find? fun e => sameName e.1 name with
  | some (_, old) =>
    (some old, ⟨m.entries.map fun e => if sameName e.1 name then (e.1, value) else e⟩)
  | none => (none, ⟨m.entries ++ [(name, value)]⟩)

/-- Adds an entry under a name that is not present; otherwise there is no result. -/
def insertNew? (m : CaselessMap α) (name : String) (value : α) : Option (CaselessMap α) :=
  if m.contains name then none else some (m.insert name value)

def erase (m : CaselessMap α) (name : String) : CaselessMap α :=
  ⟨m.entries.filter fun e => !sameName e.1 name⟩

def insertAll (m : CaselessMap α) (pairs : List (String × α)) : CaselessMap α :=
  pairs.foldl (fun m e => m.insert e.1 e.2) m

def ofList (pairs : List (String × α)) : CaselessMap α := empty.insertAll pairs

def duplicateMessage (name : String) : String := "duplicate key found: " ++ name

@[simp] theorem sameName_self (a : String) : sameName a a = true := by simp [sameName]

theorem sameName_iff {a b : String} : sameName a b = true ↔ Text.lower a = Text.lower b := by
  simp [sameName]

@[simp] theorem get?_empty (name : String) : (empty : CaselessMap α).get? name = none := rfl

theorem contains_eq_isSome (m : CaselessMap α) (name : String) :
    m.contains name = (m.get? name).isSome := by
  rw [Bool.eq_iff_iff]
  simp [contains, get?]

end CaselessMap

end RelPipe
