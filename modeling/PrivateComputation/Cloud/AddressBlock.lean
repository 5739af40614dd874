import PrivateComputation.Text.Decimal
import PrivateComputation.Text.Split

/-!
Blocks of IPv4 addresses: an address and the length of the network part of it. An address is the
number that its four bytes spell.
-/

namespace PrivateComputation

/-- A block keeps the address it was written with; addresses that agree with it on the network part
are in the block. -/
structure AddressBlock where
  address : Nat
  length : Nat
  address_lt : address < UInt32.size
  length_le : length ≤ 32
  deriving DecidableEq

namespace AddressBlock

def size (block : AddressBlock) : Nat := Nat.pow 2 (32 - block.length)

def contains (block : AddressBlock) (address : Nat) : Bool :=
  address / block.size == block.address / block.size

def network (block : AddressBlock) : Nat := block.address / block.size * block.size

def broadcast (block : AddressBlock) : Nat := block.network + (block.size - 1)

/-- The range from the written address of a block to its last address lies in the range of another
block from its own written address on. -/
def isWithin (inner outer : AddressBlock) : Bool :=
  outer.address ≤ inner.address && inner.broadcast ≤ outer.broadcast

def overlaps (left right : AddressBlock) : Bool :=
  right.contains left.address || right.contains left.broadcast ||
    left.contains right.address || left.contains right.broadcast

end AddressBlock

def addressOfBytes (first second third fourth : Nat) : Nat :=
  ((first * 256 + second) * 256 + third) * 256 + fourth

/-- Addresses set aside for private networks: 10.0.0.0/8, 172.16.0.0/12 and 192.168.0.0/16. -/
def isPrivateAddress (address : Nat) : Bool :=
  address / addressOfBytes 1 0 0 0 == 10 ||
    address / addressOfBytes 0 16 0 0 == 172 * 16 + 1 ||
    address / addressOfBytes 0 1 0 0 == 192 * 256 + 168

/-! ## Reading -/

inductive AddressFault where
  | repeatedSlash (text : String)
  | address (text : String)
  | length
  deriving DecidableEq

def AddressFault.message : AddressFault → String
  | .repeatedSlash text => "invalid cidr format: CIDR must contain a single '/': " ++ text
  | .address text => "invalid address: " ++ text
  | .length => "invalid prefix"

def readByte (digits : List Char) : Option Nat :=
  if 3 < digits.length || (1 < digits.length && digits.head? == some '0') then none
  else (readDecimal digits).filter (· < 256)

def readAddress (text : List Char) : Option Nat :=
  match splitOn '.' text with
  | [first, second, third, fourth] => do
      let first ← readByte first
      let second ← readByte second
      let third ← readByte third
      let fourth ← readByte fourth
      some (addressOfBytes first second third fourth)
  | _ => none

def lengthOfMask (mask : Nat) : Option Nat :=
  (List.range 33).find? (fun length => mask == UInt32.size - Nat.pow 2 (32 - length))

/-- A length in decimal, perhaps with a plus sign, or as a mask in dotted notation. -/
def readLength (text : List Char) : Option Nat :=
  match readAddress text with
  | some mask => lengthOfMask mask
  | none =>
      let digits := if text.head? = some '+' then text.drop 1 else text
      (readDecimal digits).filter (· ≤ 32)

/-- A block as written: an address and, behind a slash, a length. An address alone is a block of
its own. -/
def AddressBlock.ofText (text : String) : Except AddressFault AddressBlock := do
  let parts := splitOn '/' text.toList
  if 2 < parts.length then .error (.repeatedSlash text)
  else
    let written := (parts.head?).getD []
    let address ← (readAddress written).elim (.error (.address (String.ofList written))) .ok
    let length ←
      match parts[1]? with
      | none => .ok 32
      | some part => (readLength part).elim (.error .length) .ok
    if valid : address < UInt32.size ∧ length ≤ 32 then .ok ⟨address, length, valid.1, valid.2⟩
    else .error .length

end PrivateComputation
