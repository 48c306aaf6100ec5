import RelPipe.Json.Decode
import RelPipe.Proofs.Json.Tokens

/-!
Values that are written as JSON and read back. Reading takes fuel for the depth of what it reads, so
what is said of a value is said for every fuel above the depth of its JSON. No value is read from
JSON that has been cut off at a lesser depth.
-/

namespace RelPipe.Json

set_option autoImplicit false

theorem mapM_of_forall {α β : Type} {write : α → β} {read : β → Option α} {as : List α}
    (h : ∀ a ∈ as, read (write a) = some a) : (as.map write).mapM read = some as := by
  induction as with
  | nil => rfl
  | cons a as ih =>
    have hHead := h a (.head _)
    have hTail := ih fun b hb => h b (.tail _ hb)
    simp [hHead, hTail]

theorem integer_isExact {n : Int} (h : -0x8000000000000000 ≤ n ∧ n < 0x10000000000000000) :
    (Json.integer n).isExact = true := by
  simpa [isExact] using h

theorem areExact_of_forall {items : List Json} (h : ∀ j ∈ items, j.isExact = true) :
    areExact items = true := by
  induction items with
  | nil => rfl
  | cons j items ih =>
    rw [areExact, h j (.head _), ih fun k hk => h k (.tail _ hk)]
    rfl

mutual

/-- The value with everything in it unreadable that is nested deeper than `limit`. -/
def within : Json → (limit : Nat) → Json
  | .array _, 0 => .unreadable
  | .array items, limit + 1 => .array (itemsWithin items limit)
  | .object _, 0 => .unreadable
  | .object members, limit + 1 => .object (membersWithin members limit)
  | j, _ => j
termination_by structural j => j

def itemsWithin : List Json → (limit : Nat) → List Json
  | [], _ => []
  | j :: rest, limit => j.within limit :: itemsWithin rest limit
termination_by structural items => items

def membersWithin : List (String × Json) → (limit : Nat) → List (String × Json)
  | [], _ => []
  | (name, j) :: rest, limit => (name, j.within limit) :: membersWithin rest limit
termination_by structural members => members

end

mutual

theorem within_of_depth_le : (j : Json) → {limit : Nat} → j.depth ≤ limit → j.within limit = j
  | .null, _, _ | .bool _, _, _ | .integer _, _, _ | .float _, _, _ | .string _, _, _
  | .unreadable, _, _ => rfl
  | .array items, _ + 1, h =>
    congrArg array (itemsWithin_of_depth_le items (Nat.le_of_succ_le_succ h))
  | .object members, _ + 1, h =>
    congrArg object (membersWithin_of_depth_le members (Nat.le_of_succ_le_succ h))
termination_by structural j => j

theorem itemsWithin_of_depth_le : (items : List Json) → {limit : Nat} →
    depthOfItems items ≤ limit → itemsWithin items limit = items
  | [], _, _ => rfl
  | j :: rest, limit, h => by
    obtain ⟨hItem, hRest⟩ := Nat.max_le.mp h
    rw [itemsWithin, within_of_depth_le j hItem, itemsWithin_of_depth_le rest hRest]
termination_by structural items => items

theorem membersWithin_of_depth_le : (members : List (String × Json)) → {limit : Nat} →
    depthOfMembers members ≤ limit → membersWithin members limit = members
  | [], _, _ => rfl
  | (name, j) :: rest, limit, h => by
    obtain ⟨hMember, hRest⟩ := Nat.max_le.mp h
    rw [membersWithin, within_of_depth_le j hMember, membersWithin_of_depth_le rest hRest]
termination_by structural members => members

end

@[simp] theorem depth_string (s : String) : (Json.string s).depth = 0 := rfl

theorem depth_lt_of_mem {members : List (String × Json)} {n : Nat}
    (h : depthOfMembers members < n) : ∀ m ∈ members, m.2.depth < n := by
  induction members with
  | nil =>
    intro m hm
    cases hm
  | cons m members ih =>
    rw [depthOfMembers] at h
    exact List.forall_mem_cons.mpr ⟨by omega, ih (by omega)⟩

theorem exists_mem_of_lt_depth {members : List (String × Json)} {n : Nat}
    (h : n < depthOfMembers members) : ∃ m ∈ members, n < m.2.depth := by
  induction members with
  | nil => cases h
  | cons m members ih =>
    obtain hFirst | hRest : n < m.2.depth ∨ n < depthOfMembers members := by
      rw [depthOfMembers] at h
      omega
    · exact ⟨m, .head _, hFirst⟩
    · obtain ⟨m, hMem, hDeep⟩ := ih hRest
      exact ⟨m, .tail _ hMem, hDeep⟩

theorem integerIn?_integer {low high n : Int} (h : low ≤ n ∧ n ≤ high) :
    integerIn? low high (.integer n) = some n := if_pos h

theorem find?_name {α : Type} {name : α → String} {all : List α} (hNames : (all.map name).Nodup)
    {a : α} (h : a ∈ all) : all.find? (fun b => name b == name a) = some a := by
  induction all with
  | nil => cases h
  | cons b rest ih =>
    obtain ⟨hFirst, hRest⟩ := List.nodup_cons.mp hNames
    rcases List.mem_cons.mp h with rfl | hMem
    · simp
    · have hOther : name b ≠ name a := fun hEq => hFirst (hEq ▸ List.mem_map_of_mem hMem)
      rw [List.find?_cons_of_neg (by simpa using hOther), ih hRest hMem]

section

variable {α : Type} {read : Nat → Json → Option α}

/-- A value is read from JSON, and nothing is read from JSON that is cut off at a lesser depth. -/
structure Reads (read : Nat → Json → Option α) (j : Json) (a : α) : Prop where
  value (fuel : Nat) : j.depth < fuel → read fuel j = some a
  refused (limit fuel : Nat) : limit < j.depth → read fuel (j.within limit) = none

/-- What is read from an object with fuel to spare is read from the members. -/
theorem Reads.of_members {members : List (String × Json)} {a : α}
    (hExhausted : ∀ j, read 0 j = none) (hUnreadable : ∀ fuel, read (fuel + 1) .unreadable = none)
    (hValue : ∀ fuel, depthOfMembers members < fuel → read (fuel + 1) (.object members) = some a)
    (hRefused : ∀ limit fuel, limit < depthOfMembers members →
      read (fuel + 1) (.object (membersWithin members limit)) = none) :
    Reads read (.object members) a where
  value fuel hFuel := by
    obtain ⟨fuel, rfl⟩ := Nat.exists_eq_succ_of_ne_zero (Nat.ne_zero_of_lt hFuel)
    exact hValue fuel (Nat.lt_of_succ_lt_succ hFuel)
  refused limit fuel hLimit := by
    cases fuel with
    | zero => exact hExhausted _
    | succ fuel =>
      cases limit with
      | zero => exact hUnreadable fuel
      | succ limit => exact hRefused limit fuel (Nat.lt_of_succ_lt_succ hLimit)

/-- A value is written as an object, in full, and is read back from it. -/
def RoundTrips (written : Option Json) (read : Nat → Json → Option α) (a : α) : Prop :=
  ∃ members, written = some (.object members) ∧ membersAreExact members = true ∧
    Reads read (.object members) a

def RoundTripAll (written : Option (List Json)) (read : Nat → Json → Option α) (as : List α) :
    Prop :=
  ∃ items, written = some items ∧ areExact items = true ∧
    Reads (fun fuel => list? (read fuel)) (.array items) as

def OptionRoundTrips (written : Option Json) (read : Nat → Json → Option α) (a : Option α) :
    Prop :=
  ∃ j, written = some j ∧ j.isExact = true ∧ Reads (fun fuel => nullable? (read fuel)) j a

theorem RoundTripAll.nil : RoundTripAll (some []) read [] := by
  refine ⟨[], rfl, rfl, fun _ _ => rfl, fun limit _ hLimit => ?_⟩
  obtain rfl : limit = 0 := Nat.lt_one_iff.mp hLimit
  rfl

theorem RoundTripAll.cons {written : Option Json} {others : Option (List Json)} {a : α}
    {as : List α} (h : RoundTrips written read a) (hRest : RoundTripAll others read as) :
    RoundTripAll (written.bind fun j => others.bind fun js => some (j :: js)) read (a :: as) := by
  obtain ⟨members, rfl, hExact, hFirst⟩ := h
  obtain ⟨items, rfl, hAllExact, hAll⟩ := hRest
  refine ⟨.object members :: items, rfl, by rw [areExact, isExact, hExact, hAllExact]; rfl, ?_, ?_⟩
  · intro fuel hFuel
    simp only [depth, depthOfItems] at hFuel
    have hRead : items.mapM (read fuel) = some as := hAll.value fuel (by rw [depth]; omega)
    rw [list?, List.mapM_cons, hFirst.value fuel (by rw [depth]; omega), hRead]
    rfl
  · intro limit fuel hLimit
    cases limit with
    | zero => rfl
    | succ limit =>
      obtain hDeep | hDeep : limit < (object members).depth ∨ limit < depthOfItems items := by
        simp only [depth, depthOfItems] at hLimit ⊢
        omega
      · rw [within, itemsWithin, list?, List.mapM_cons, hFirst.refused limit fuel hDeep]
        rfl
      · have hNone : (itemsWithin items limit).mapM (read fuel) = none :=
          hAll.refused (limit + 1) fuel (Nat.succ_lt_succ hDeep)
        rw [within, itemsWithin, list?, List.mapM_cons, hNone]
        exact Option.bind_fun_none _

theorem OptionRoundTrips.none : OptionRoundTrips (some .null) read none :=
  ⟨.null, rfl, rfl, fun _ _ => rfl, fun _ _ hLimit => absurd hLimit (Nat.not_lt_zero _)⟩

theorem RoundTrips.some {written : Option Json} {a : α} (h : RoundTrips written read a) :
    OptionRoundTrips written read (some a) := by
  obtain ⟨members, hWritten, hExact, hReads⟩ := h
  refine ⟨.object members, hWritten, hExact, fun fuel hFuel => ?_, fun limit fuel hLimit => ?_⟩
  · rw [nullable?, hReads.value fuel hFuel]
    · rfl
    · intro h
      cases h
  · have hNone := hReads.refused limit fuel hLimit
    cases limit <;> exact congrArg (Option.map Option.some) hNone

end

end RelPipe.Json
