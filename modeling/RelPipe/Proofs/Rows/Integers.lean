import Mathlib.Algebra.Group.Int.Defs
import RelPipe.Proofs.Number.Decimal128
import RelPipe.Proofs.Number.Shortest
import RelPipe.Proofs.Pipeline.Integers
import RelPipe.Rows.Convert

/-!
Integers as cells. Columns of integers hold what lies in their range, and those of 64 bits without a
sign and of decimals what the nearest double shows.
-/

namespace RelPipe

set_option autoImplicit false

open Number

def Number.DecimalNumber.Is (d : DecimalNumber) (n : Int) : Prop :=
  ∃ (negative : Bool) (c : Nat) (e : Int), d = .finite negative c e ∧
    n * 10 ^ (-e).toNat = (if negative then -(c : Int) else c) * 10 ^ e.toNat

theorem Number.DecimalNumber.Is.unique {d : DecimalNumber} {m n : Int} (hm : d.Is m)
    (hn : d.Is n) : m = n := by
  obtain ⟨negative, c, e, rfl, hm⟩ := hm
  obtain ⟨_, _, _, hSame, hn⟩ := hn
  cases hSame
  exact Int.eq_of_mul_eq_mul_right (Int.pow_ne_zero (by decide)) (hm.trans hn.symm)

/-- A cell of a type that holds an integer exactly. -/
inductive Cell.Holds : Cell → ColumnType → Int → Prop
  | byte (k : UInt8) : Holds (.byte k) .byte k.toNat
  | sbyte (k : Int8) : Holds (.sbyte k) .sbyte k.toInt
  | int16 (k : Int16) : Holds (.int16 k) .int16 k.toInt
  | uint16 (k : UInt16) : Holds (.uint16 k) .uint16 k.toNat
  | int32 (k : Int32) : Holds (.int32 k) .int32 k.toInt
  | uint32 (k : UInt32) : Holds (.uint32 k) .uint32 k.toNat
  | int64 (k : Int64) : Holds (.int64 k) .int64 k.toInt
  | uint64 (k : UInt64) : Holds (.uint64 k) .uint64 k.toNat
  | decimal {d : Decimal128} {n : Int} : d.number.Is n → Holds (.decimal d) .decimal n

theorem Cell.Holds.unique {cell : Cell} {type : ColumnType} {m n : Int} (hm : cell.Holds type m)
    (hn : cell.Holds type n) : m = n := by
  cases hm with
  | decimal hm =>
    cases hn with
    | decimal hn => exact hm.unique hn
  | _ =>
    cases hn
    rfl

namespace ColumnType

/-- The least and the greatest integer of a type of integers. Decimals have 34 digits. -/
def range? : ColumnType → Option (Int × Int)
  | byte => some (0, 0xff)
  | sbyte => some (-0x80, 0x7f)
  | int16 => some (-0x8000, 0x7fff)
  | uint16 => some (0, 0xffff)
  | int32 => some (-0x80000000, 0x7fffffff)
  | uint32 => some (0, 0xffffffff)
  | int64 => some (-0x8000000000000000, 0x7fffffffffffffff)
  | uint64 => some (0, 0xffffffffffffffff)
  | decimal => some (1 - 10 ^ 34, 10 ^ 34 - 1)
  | _ => none

def Admits (type : ColumnType) (n : Int) : Prop :=
  ∃ range, type.range? = some range ∧ range.1 ≤ n ∧ n ≤ range.2

/-- The integer that a cell holds for an integer in the range of its type. -/
def shown (type : ColumnType) (n : Int) : Int :=
  match type with
  | uint64 => rounded n.natAbs
  | decimal => if n < 0 then -(shortest n.natAbs) else shortest n.natAbs
  | _ => n

end ColumnType

namespace Value

variable {v : Value} {n : Int} {type : ColumnType}

theorem convert_of_integer? (hv : v.integer? = some n) :
    v.convert type = (v.toCellOf? type).getD v.toCell := by
  rw [convert, (kind_of_integer? hv).2.2]
  rfl

theorem exists_asInt64? (hv : v.integer? = some n) :
    ∃ k, v.asInt64? = some k ∧ v.asInt32? = some k.toInt32 ∧ k.toInt = n := by
  cases v with
  | int32 k => exact ⟨k.toInt64, rfl, rfl, k.toInt_toInt64.trans (Option.some.inj hv)⟩
  | int64 k => exact ⟨k, rfl, rfl, Option.some.inj hv⟩
  | _ => cases hv

theorem asDouble?_of_integer? (hv : v.integer? = some n) : v.asDouble? = some (.ofInt n) := by
  cases v with
  | int32 | int64 =>
    obtain rfl := Option.some.inj hv
    rfl
  | _ => cases hv

theorem exists_asDecimal? (hv : v.integer? = some n) :
    ∃ d, v.asDecimal? = some d ∧ d.number.Is (ColumnType.decimal.shown n) := by
  have hBounds := bounds_of_integer? hv
  have hBits : n.natAbs < 2 ^ 64 := by omega
  obtain ⟨ds, hText, hDigits, hValue⟩ := Binary64.exists_text_ofInt hBits
  have hRounded : rounded n.natAbs ≤ 2 ^ 64 := rounded_le hBits
  have hSmall : Text.Numeral.value ds < 10 ^ 34 := by
    have := Shortest.shortest_le hBits
    omega
  have hSign : (if n < 0 then ['-'] else []) = if decide (n < 0) then ['-'] else [] := by
    simp only [decide_eq_true_eq]
  have hRead : v.asDecimal? = (v.asDouble?.bind fun x => Decimal128.ofText? x.text.toList) := by
    cases v with
    | int32 | int64 => rfl
    | _ => cases hv
  refine ⟨_, ?_, decide (n < 0), _, 0,
    Decimal128.number_ofNumber_finite hSmall (by decide) (by decide), ?_⟩
  · rw [hRead, asDouble?_of_integer? hv, Option.bind_some, hText, hSign,
      Decimal128.ofText?_digits _ hDigits hSmall]
  · rw [hValue]
    simp [ColumnType.shown]

/-- The cell holds what its type shows of the integer. -/
theorem holds_convert (hv : v.integer? = some n) (hRange : type.Admits n) :
    (v.convert type).Holds type (type.shown n) := by
  obtain ⟨⟨low, high⟩, hBounds, hLow, hHigh⟩ := hRange
  obtain ⟨k, hWide, hNarrow, hk⟩ := exists_asInt64? hv
  rw [convert_of_integer? hv]
  cases type <;> cases hBounds <;> dsimp only at hLow hHigh
  case byte =>
    have hHeld : ((UInt8.ofInt k.toInt).toNat : Int) = n := by
      rw [UInt8.ofInt, UInt8.toNat_ofNat', hk]
      omega
    rw [toCellOf?, hWide]
    exact hHeld ▸ .byte _
  case sbyte =>
    have hHeld : k.toInt8.toInt = n := by
      rw [Int64.toInt_toInt8, hk]
      exact Int.bmod_eq_of_le hLow (by omega)
    rw [toCellOf?, hWide]
    exact hHeld ▸ .sbyte _
  case int16 =>
    have hHeld : k.toInt16.toInt = n := by
      rw [Int64.toInt_toInt16, hk]
      exact Int.bmod_eq_of_le hLow (by omega)
    rw [toCellOf?, hWide]
    exact hHeld ▸ .int16 _
  case uint16 =>
    have hHeld : ((UInt16.ofInt k.toInt).toNat : Int) = n := by
      rw [UInt16.ofInt, UInt16.toNat_ofNat', hk]
      omega
    rw [toCellOf?, hWide]
    exact hHeld ▸ .uint16 _
  case int32 =>
    have hHeld : k.toInt32.toInt = n := by
      rw [Int64.toInt_toInt32, hk]
      exact Int.bmod_eq_of_le hLow (by omega)
    rw [toCellOf?, hNarrow]
    exact hHeld ▸ .int32 _
  case uint32 =>
    have hHeld : ((UInt32.ofInt k.toInt).toNat : Int) = n := by
      rw [UInt32.ofInt, UInt32.toNat_ofNat', hk]
      omega
    rw [toCellOf?, hWide]
    exact hHeld ▸ .uint32 _
  case int64 =>
    rw [toCellOf?, hWide]
    exact hk ▸ .int64 k
  case uint64 =>
    have hHeld : ((Binary64.ofInt n).toUInt64.toNat : Int) = ColumnType.uint64.shown n :=
      congrArg Nat.cast (Binary64.toNat_toUInt64_ofInt hLow (bounds_of_integer? hv).2)
    rw [toCellOf?, asDouble?_of_integer? hv]
    exact hHeld ▸ .uint64 _
  case decimal =>
    obtain ⟨d, hDecimal, hHeld⟩ := exists_asDecimal? hv
    rw [toCellOf?, hDecimal]
    exact .decimal hHeld

theorem ofInt_shown_decimal (hBits : n.natAbs < 2 ^ 64) :
    Binary64.ofInt (ColumnType.decimal.shown n) = .ofInt n := by
  have hNearest := Shortest.nearest_shortest hBits
  have hSign : decide (ColumnType.decimal.shown n < 0) = decide (n < 0) := by
    rw [decide_eq_decide, ColumnType.shown]
    split
    · rename_i hNegative
      have := Shortest.shortest_ne_zero (by omega) hBits
      omega
    · omega
  have hMagnitude : (ColumnType.decimal.shown n).natAbs = shortest n.natAbs := by
    rw [ColumnType.shown]
    split <;> omega
  rw [Binary64.ofInt, hSign, hMagnitude, Binary64.ofQuotient, Binary64.format, hNearest]
  rfl

/-- What a cell holds for an integer in the range of its type. Only unsigned integers of 64 bits and
decimals may hold another, beyond 2 ^ 53: the former hold the integer rounded to 53 bits, the latter
one that has the same double. -/
theorem convert_holds_iff (hv : v.integer? = some n) (hRange : type.Admits n) :
    (∀ m, (v.convert type).Holds type m ↔ m = type.shown n) ∧
      (type.shown n = n ∨ type = .uint64 ∨ type = .decimal) ∧
      (n.natAbs ≤ 2 ^ 53 → type.shown n = n) ∧
      (type = .uint64 → (type.shown n = n ↔ 2 ^ (n.natAbs.log2 - 52) ∣ n.natAbs)) ∧
      (type = .decimal → Binary64.ofInt (type.shown n) = .ofInt n) := by
  have hBounds := bounds_of_integer? hv
  have hHolds := holds_convert hv hRange
  refine ⟨fun m => ⟨fun hm => hm.unique hHolds, fun hm => hm ▸ hHolds⟩, ?_, ?_, ?_, ?_⟩
  · cases type <;> simp [ColumnType.shown]
  · intro hSmall
    obtain ⟨range, hTypeRange, hLow, -⟩ := hRange
    cases type with
    | uint64 =>
      cases hTypeRange
      rw [ColumnType.shown, rounded_of_le hSmall]
      omega
    | decimal =>
      rw [ColumnType.shown, Shortest.shortest_of_le hSmall]
      split <;> omega
    | _ => rfl
  · rintro rfl
    obtain ⟨range, hTypeRange, hLow, -⟩ := hRange
    cases hTypeRange
    rw [← rounded_eq_iff, ColumnType.shown]
    omega
  · rintro rfl
    exact ofInt_shown_decimal (by omega)

theorem convert_holds_iff_limits :
    (convert (.int64 9007199254740992) .uint64).Holds .uint64 9007199254740992 ∧
      (convert (.int64 (-9007199254740992)) .decimal).Holds .decimal (-9007199254740992) ∧
      (convert (.int32 (-128)) .sbyte).Holds .sbyte (-128) := by
  obtain ⟨hUnsigned, -, hSmall, -⟩ :=
    @convert_holds_iff (.int64 9007199254740992) 9007199254740992 .uint64 rfl
      ⟨_, rfl, by decide, by decide⟩
  obtain ⟨hDecimal, -, hNegative, -⟩ :=
    @convert_holds_iff (.int64 (-9007199254740992)) (-9007199254740992) .decimal rfl
      ⟨_, rfl, by decide, by decide⟩
  obtain ⟨hByte, -, hLimit, -⟩ :=
    @convert_holds_iff (.int32 (-128)) (-128) .sbyte rfl ⟨_, rfl, by decide, by decide⟩
  exact ⟨(hUnsigned _).mpr (hSmall (by decide)).symm, (hDecimal _).mpr (hNegative (by decide)).symm,
    (hByte _).mpr (hLimit (by decide)).symm⟩

/-- The first integer that is not its own double. -/
theorem not_convert_holds_large :
    ColumnType.uint64.Admits 9007199254740993 ∧ ColumnType.decimal.Admits 9007199254740993 ∧
      (convert (.int64 9007199254740993) .uint64).Holds .uint64 9007199254740992 ∧
      ¬ (convert (.int64 9007199254740993) .uint64).Holds .uint64 9007199254740993 ∧
      (convert (.int64 9007199254740993) .decimal).Holds .decimal 9007199254740992 ∧
      ¬ (convert (.int64 9007199254740993) .decimal).Holds .decimal 9007199254740993 := by
  have hUnsignedRange : ColumnType.uint64.Admits 9007199254740993 :=
    ⟨_, rfl, by decide, by decide⟩
  have hDecimalRange : ColumnType.decimal.Admits 9007199254740993 :=
    ⟨_, rfl, by decide, by decide⟩
  have hUnsigned : (convert (.int64 9007199254740993) .uint64).Holds .uint64 9007199254740992 :=
    holds_convert rfl hUnsignedRange
  have hDecimal : (convert (.int64 9007199254740993) .decimal).Holds .decimal 9007199254740992 := by
    have hShown : ColumnType.decimal.shown 9007199254740993 = 9007199254740992 := by
      decide +kernel
    exact hShown ▸ holds_convert rfl hDecimalRange
  exact ⟨hUnsignedRange, hDecimalRange, hUnsigned,
    fun h => absurd (h.unique hUnsigned) (by decide), hDecimal,
    fun h => absurd (h.unique hDecimal) (by decide)⟩

end Value

end RelPipe
