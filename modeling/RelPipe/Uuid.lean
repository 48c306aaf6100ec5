import RelPipe.Text.Hex

/-!
Universally unique identifiers: 128 bits, written as five groups of hexadecimal digits.
-/

namespace RelPipe

set_option autoImplicit false

structure Uuid where
  value : BitVec 128
deriving DecidableEq

namespace Uuid

def simple? (cs : List Char) : Option Uuid :=
  if cs.length = 32 then (Text.Hex.natural? cs).map fun n => ⟨BitVec.ofNat 128 n⟩ else none

def hyphenated? (cs : List Char) : Option Uuid :=
  if cs.length = 36 ∧ [8, 13, 18, 23].all (fun i => cs[i]? == some '-') then
    simple? (cs.take 8 ++ (cs.drop 9).take 4 ++ (cs.drop 14).take 4 ++ (cs.drop 19).take 4
      ++ cs.drop 24)
  else
    none

/-- Reads the digits alone, or the groups alone, in braces or as a name of the `uuid` namespace. -/
def ofText? (cs : List Char) : Option Uuid :=
  if cs.length = 32 then
    simple? cs
  else if cs.length = 38 ∧ cs.head? = some '\x7b' ∧ cs.getLast? = some '\x7d' then
    hyphenated? (cs.tail.take 36)
  else if cs.length = 45 ∧ (cs.take 9).map Char.toLower = "urn:uuid:".toList then
    hyphenated? (cs.drop 9)
  else
    hyphenated? cs

def digits (u : Uuid) : List Char := Text.Hex.padded 32 u.value.toNat

def text (u : Uuid) : String :=
  let ds := u.digits
  String.ofList (ds.take 8 ++ '-' :: (ds.drop 8).take 4 ++ '-' :: (ds.drop 12).take 4
    ++ '-' :: (ds.drop 16).take 4 ++ '-' :: ds.drop 20)

def bytes (u : Uuid) : List UInt8 := (Text.Hex.littleEndian 16 u.value.toNat).reverse

def ofBytes? (bytes : List UInt8) : Option Uuid :=
  if bytes.length = 16 then
    some ⟨BitVec.ofNat 128 (bytes.foldl (fun n b => 256 * n + b.toNat) 0)⟩
  else
    none

end Uuid

end RelPipe
