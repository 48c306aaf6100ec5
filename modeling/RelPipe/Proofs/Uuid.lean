import RelPipe.Proofs.Text.Numeral
import RelPipe.Uuid

/-!
An identifier is read as it was written, as text or as bytes.
-/

namespace RelPipe.Uuid

set_option autoImplicit false

theorem hyphenated?_groups {a b c d e : List Char} (ha : a.length = 8) (hb : b.length = 4)
    (hc : c.length = 4) (hd : d.length = 4) (he : e.length = 12) :
    hyphenated? (a ++ '-' :: b ++ '-' :: c ++ '-' :: d ++ '-' :: e) =
      simple? (a ++ b ++ c ++ d ++ e) := by
  have hLength : (a ++ '-' :: b ++ '-' :: c ++ '-' :: d ++ '-' :: e).length = 36 := by
    simp [ha, hb, hc, hd, he]
  have hHyphens : [8, 13, 18, 23].all (fun i =>
      (a ++ '-' :: b ++ '-' :: c ++ '-' :: d ++ '-' :: e)[i]? == some '-') = true := by
    simp [List.getElem?_append, ha, hb, hc, hd]
  rw [hyphenated?, if_pos ⟨hLength, hHyphens⟩]
  simp (disch := omega) [List.drop_append, List.drop_of_length_le, ha, hb, hc, hd]

theorem simple?_digits (u : Uuid) : simple? u.digits = some u := by
  have hValue : u.value.toNat < 16 ^ 32 := u.value.isLt
  rw [simple?, digits, if_pos (Text.Hex.length_padded 32 _), Text.Hex.natural?_padded hValue,
    Option.map_some, BitVec.ofNat_toNat, BitVec.setWidth_eq]

theorem groups_digits (ds : List Char) :
    ds.take 8 ++ (ds.drop 8).take 4 ++ (ds.drop 12).take 4 ++ (ds.drop 16).take 4 ++ ds.drop 20 =
      ds := by
  rw [← List.take_add, ← List.take_add, ← List.take_add, List.take_append_drop]

theorem ofText?_text (u : Uuid) : ofText? u.text.toList = some u := by
  have hDigits : u.digits.length = 32 := Text.Hex.length_padded 32 _
  have hGroups := hyphenated?_groups (a := u.digits.take 8) (b := (u.digits.drop 8).take 4)
    (c := (u.digits.drop 12).take 4) (d := (u.digits.drop 16).take 4) (e := u.digits.drop 20)
    (by simp [hDigits]) (by simp [hDigits]) (by simp [hDigits]) (by simp [hDigits])
    (by simp [hDigits])
  rw [groups_digits, simple?_digits] at hGroups
  rw [text, String.toList_ofList, ofText?, if_neg, if_neg, if_neg, hGroups]
  · simp [hDigits]
  · simp [hDigits]
  · simp [hDigits]

/-! Bytes -/

theorem length_littleEndian (count n : Nat) : (Text.Hex.littleEndian count n).length = count := by
  induction count generalizing n with
  | zero => rfl
  | succ count ih => rw [Text.Hex.littleEndian, List.length_cons, ih]

theorem foldr_littleEndian (count n : Nat) :
    (Text.Hex.littleEndian count n).foldr (fun b rest => 256 * rest + b.toNat) 0 =
      n % 256 ^ count := by
  induction count generalizing n with
  | zero => rw [Text.Hex.littleEndian, List.foldr_nil, Nat.pow_zero, Nat.mod_one]
  | succ count ih =>
    have hByte : (UInt8.ofNat n).toNat = n % 256 := UInt8.toNat_ofNat'
    rw [Text.Hex.littleEndian, List.foldr_cons, ih, hByte, Nat.pow_succ', Nat.mod_mul, Nat.add_comm]

theorem ofBytes?_bytes (u : Uuid) : ofBytes? u.bytes = some u := by
  have hValue : u.value.toNat < 256 ^ 16 := u.value.isLt
  have hLength : u.bytes.length = 16 := by rw [bytes, List.length_reverse, length_littleEndian]
  rw [ofBytes?, if_pos hLength, bytes, List.foldl_reverse, foldr_littleEndian,
    Nat.mod_eq_of_lt hValue, BitVec.ofNat_toNat, BitVec.setWidth_eq]

end RelPipe.Uuid
