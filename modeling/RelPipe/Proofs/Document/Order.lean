import RelPipe.Document.Order

/-!
The order of values reads the same from both sides: exchanging two values turns their order around.
Values of different kinds never compare equal, and exactly the values that are there come after
null.
-/

namespace RelPipe

set_option autoImplicit false

theorem Text.lexCompare_swap {α : Type} {order : α → α → Ordering}
    (h : ∀ a b, (order a b).swap = order b a) (as bs : List α) :
    (Text.lexCompare order as bs).swap = Text.lexCompare order bs as := by
  induction as generalizing bs with
  | nil => cases bs <;> rfl
  | cons a as ih =>
    cases bs with
    | nil => rfl
    | cons b bs => rw [Text.lexCompare, Text.lexCompare, Ordering.swap_then, h, ih]

theorem Text.compare_swap (a b : String) : (Text.compare a b).swap = Text.compare b a :=
  Text.lexCompare_swap (fun _ _ => Nat.compare_swap _ _) _ _

theorem Text.lexCompare_self {α : Type} {order : α → α → Ordering} (h : ∀ a, order a a = .eq)
    (as : List α) : Text.lexCompare order as as = .eq := by
  induction as with
  | nil => rfl
  | cons a as ih => rw [Text.lexCompare, h, ih, Ordering.eq_then]

theorem Text.compare_self (a : String) : Text.compare a a = .eq :=
  Text.lexCompare_self (fun c : Char => Nat.compare_eq_eq.mpr (rfl : c.toNat = c.toNat)) a.toList

theorem Number.Binary64.compare_swap (x y : Number.Binary64) :
    (x.compare y).swap = y.compare x := by
  unfold Number.Binary64.compare
  cases x.isNaN <;> cases y.isNaN <;> simp [Int.compare_swap]

namespace Value

theorem compareNumbers_swap (a b : Value) : (compareNumbers a b).swap = compareNumbers b a := by
  unfold compareNumbers
  cases a.integer? <;> cases b.integer? <;>
    simp [Int.compare_swap, Number.Binary64.compare_swap]

theorem isNumeric_iff_rank (a : Value) : a.isNumeric = true ↔ a.rank = 2 := by
  cases a <;> simp [isNumeric, rank]

theorem compareScalars_swap {a b : Value} (h : a.rank = b.rank) :
    (compareScalars a b).swap = compareScalars b a := by
  have hNumeric : a.isNumeric = b.isNumeric := by
    rw [Bool.eq_iff_iff, isNumeric_iff_rank, isNumeric_iff_rank, h]
  have bytes := Text.lexCompare_swap fun x y : UInt8 => Nat.compare_swap x.toNat y.toNat
  rw [compareScalars.eq_def a b]
  split
  case h_7 hString hBinary hId hBoolean hDate hTimestamp =>
    have hOther : compareScalars b a = if b.isNumeric then compareNumbers b a else .eq := by
      unfold compareScalars
      split
      · exact (hString _ _ rfl rfl).elim
      · exact (hBinary _ _ _ _ rfl rfl).elim
      · exact (hId _ _ rfl rfl).elim
      · exact (hBoolean _ _ rfl rfl).elim
      · exact (hDate _ _ rfl rfl).elim
      · exact (hTimestamp _ _ _ _ rfl rfl).elim
      · rfl
    rw [hOther, hNumeric]
    split
    · exact compareNumbers_swap a b
    · rfl
  all_goals
    simp only [compareScalars, Ordering.swap_then, Text.compare_swap, Nat.compare_swap,
      Int.compare_swap, bytes]

theorem compare_of_rank_lt {a b : Value} (h : a.rank < b.rank) : compare a b = .lt := by
  rw [compare.eq_def, Nat.compare_eq_lt.mpr h]

theorem compare_of_rank_gt {a b : Value} (h : b.rank < a.rank) : compare a b = .gt := by
  rw [compare.eq_def, Nat.compare_eq_gt.mpr h]

theorem compare_of_rank_eq {a b : Value} (h : a.rank = b.rank) (hDocument : a.rank ≠ 4)
    (hArray : a.rank ≠ 5) : compare a b = compareScalars a b := by
  rw [compare]
  · rw [Nat.compare_eq_eq.mpr h]
  · rintro x y rfl -
    exact hDocument rfl
  · rintro x y rfl -
    exact hArray rfl

theorem eq_document_of_rank {a : Value} (h : a.rank = 4) : ∃ fields, a = .document fields := by
  cases a with
  | document fields => exact ⟨fields, rfl⟩
  | _ => cases h

theorem eq_array_of_rank {a : Value} (h : a.rank = 5) : ∃ items, a = .array items := by
  cases a with
  | array items => exact ⟨items, rfl⟩
  | _ => cases h

theorem compare_documents (x y : List (String × Value)) :
    compare (.document x) (.document y) = compareFields x y := by
  rw [compare]
  rfl

theorem compare_arrays (x y : List Value) : compare (.array x) (.array y) = compareItems x y := by
  rw [compare]
  rfl

theorem compare_swap_of_scalars {a b : Value} (h : a.rank = b.rank) (hDocument : a.rank ≠ 4)
    (hArray : a.rank ≠ 5) : (compare a b).swap = compare b a := by
  rw [compare_of_rank_eq h hDocument hArray,
    compare_of_rank_eq h.symm (h ▸ hDocument) (h ▸ hArray), compareScalars_swap h]

mutual

theorem compare_swap (a b : Value) : (compare a b).swap = compare b a := by
  rcases Nat.lt_trichotomy a.rank b.rank with hRank | hRank | hRank
  · rw [compare_of_rank_lt hRank, compare_of_rank_gt hRank, Ordering.swap_lt]
  · cases a with
    | document x =>
      obtain ⟨y, rfl⟩ := eq_document_of_rank hRank.symm
      rw [compare_documents, compare_documents, compareFields_swap x y]
    | array x =>
      obtain ⟨y, rfl⟩ := eq_array_of_rank hRank.symm
      rw [compare_arrays, compare_arrays, compareItems_swap x y]
    | _ => exact compare_swap_of_scalars hRank nofun nofun
  · rw [compare_of_rank_gt hRank, compare_of_rank_lt hRank, Ordering.swap_gt]
termination_by structural a

theorem compareItems_swap (as bs : List Value) :
    (compareItems as bs).swap = compareItems bs as := by
  match as, bs with
  | [], [] | [], _ :: _ | _ :: _, [] => rfl
  | a :: as, b :: bs =>
    rw [compareItems, compareItems, Ordering.swap_then, compare_swap a b, compareItems_swap as bs]
termination_by structural as

theorem compareFields_swap (as bs : List (String × Value)) :
    (compareFields as bs).swap = compareFields bs as := by
  match as, bs with
  | [], [] | [], _ :: _ | _ :: _, [] => rfl
  | (k, a) :: as, (l, b) :: bs =>
    rw [compareFields, compareFields, Ordering.swap_then, Ordering.swap_then, compare_swap a b,
      Text.compare_swap, compareFields_swap as bs]
termination_by structural as

end

theorem compareFields_eq_iff {ι : Type} (items : List ι) (name : ι → String)
    (f f' : ι → Value) :
    compareFields (items.map fun i => (name i, f i)) (items.map fun i => (name i, f' i)) = .eq ↔
      ∀ i ∈ items, (f i).compare (f' i) = .eq := by
  induction items with
  | nil => simp [compareFields]
  | cons i items ih =>
    rw [List.map_cons, List.map_cons, compareFields, Text.compare_self, Ordering.eq_then,
      Ordering.then_eq_eq, ih, List.forall_mem_cons]

theorem equivalent_comm (a b : Value) : a.equivalent b = b.equivalent a := by
  rw [equivalent, equivalent, ← compare_swap a b, Bool.eq_iff_iff]
  simp

theorem isAbsent_iff_rank (a : Value) : a.isAbsent = true ↔ a.rank ≤ 1 := by
  cases a <;> simp [isAbsent, rank]

/-- Exactly the values that are there come after null. -/
theorem compare_null (a : Value) : (compare a .null == .gt) = !a.isAbsent := by
  cases a <;> rfl

end Value

end RelPipe
