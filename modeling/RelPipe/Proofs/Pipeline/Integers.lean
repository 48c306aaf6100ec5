import RelPipe.Pipeline.Operator

/-!
Integers as operands. The sum and the difference of two integers are exact, or they do not fit 64
bits and there is none.
-/

namespace RelPipe

set_option autoImplicit false

namespace Value

variable {v : Value} {n : Int}

theorem bounds_of_integer? (h : v.integer? = some n) :
    -0x8000000000000000 ≤ n ∧ n < 0x8000000000000000 := by
  cases v with
  | int32 k =>
    obtain rfl := Option.some.inj h
    have hLow := k.le_toInt
    have hHigh := k.toInt_lt
    omega
  | int64 k =>
    obtain rfl := Option.some.inj h
    exact ⟨k.le_toInt, k.toInt_lt⟩
  | _ => cases h

theorem exists_toInt64? (h : v.integer? = some n) : ∃ k, v.toInt64? = some k ∧ k.toInt = n := by
  cases v with
  | int32 k => exact ⟨k.toInt64, rfl, k.toInt_toInt64.trans (Option.some.inj h)⟩
  | int64 k => exact ⟨k, rfl, Option.some.inj h⟩
  | _ => cases h

theorem index?_of_integer? (h : v.integer? = some n) :
    v.index? = if n < 0 then none else some n.toNat := by
  obtain ⟨k, hk, rfl⟩ := exists_toInt64? h
  rw [index?, hk]
  rfl

theorem kind_of_integer? (h : v.integer? = some n) :
    v.isIntegral = true ∧ v.isNumeric = true ∧ v.isAbsent = false := by
  cases v with
  | int32 | int64 => exact ⟨rfl, rfl, rfl⟩
  | _ => cases h

end Value

namespace Pipeline.ArithmeticOp

abbrev Fits (n : Int) : Prop := -0x8000000000000000 ≤ n ∧ n < 0x8000000000000000

theorem checked?_eq (n : Int) : checked? n = if Fits n then some n else none := by
  simp [checked?, Fits]

theorem integer?_narrowed (narrow : Bool) {n : Int} (h : Fits n) :
    (narrowed narrow n).integer? = some n := by
  unfold narrowed
  split
  · rename_i hNarrow
    simp only [Bool.and_eq_true, decide_eq_true_eq] at hNarrow
    rw [Value.integer?, Int32.toInt_ofInt_of_le (by omega) (by omega)]
  · rw [Value.integer?, Int64.toInt_ofInt_of_le (by omega) (by omega)]

section

variable {x y : Value} {m n : Int}

theorem apply_integers {op : ArithmeticOp} (hop : op ≠ .divide) (hx : x.integer? = some m)
    (hy : y.integer? = some n) :
    op.apply [x, y] = (op.onIntegers [m, n]).map (narrowed (x.isInt32 && y.isInt32)) := by
  obtain ⟨j, hj, rfl⟩ := Value.exists_toInt64? hx
  obtain ⟨k, hk, rfl⟩ := Value.exists_toInt64? hy
  obtain ⟨hxIntegral, hxNumeric, hxAbsent⟩ := Value.kind_of_integer? hx
  obtain ⟨hyIntegral, hyNumeric, hyAbsent⟩ := Value.kind_of_integer? hy
  simp [apply, hj, hk, hxIntegral, hxNumeric, hxAbsent, hyIntegral, hyNumeric, hyAbsent, hop]

theorem apply_add (hx : x.integer? = some m) (hy : y.integer? = some n) :
    add.apply [x, y] =
      if Fits (m + n) then .ok (narrowed (x.isInt32 && y.isInt32) (m + n))
      else .error .overflow := by
  have hFirst : checked? (0 + m) = some m := by
    rw [checked?_eq, Int.zero_add, if_pos (Value.bounds_of_integer? hx)]
  rw [apply_integers (by decide) hx hy, onIntegers, foldChecked?, hFirst, Option.bind_some,
    foldChecked?, checked?_eq]
  split <;> rfl

theorem apply_subtract (hx : x.integer? = some m) (hy : y.integer? = some n) :
    subtract.apply [x, y] =
      if Fits (m - n) then .ok (narrowed (x.isInt32 && y.isInt32) (m - n))
      else .error .overflow := by
  rw [apply_integers (by decide) hx hy, onIntegers, checked?_eq]
  split <;> rfl

end

end Pipeline.ArithmeticOp

end RelPipe
