/-!
Where bytes fail to encode a text.
-/

namespace PrivateComputation

structure EncodingFault where
  /-- How many bytes are in front of them. -/
  index : Nat
  /-- How many they are; `none` for a character that the last byte leaves unfinished. -/
  count : Option Nat
  deriving DecidableEq

def EncodingFault.message (fault : EncodingFault) : String :=
  match fault.count with
  | some count =>
      "invalid utf-8 sequence of " ++ toString count ++ " bytes from index " ++
        toString fault.index
  | none => "incomplete utf-8 byte sequence from index " ++ toString fault.index

/-- The bounds of the bytes that follow the first byte of a character; `none` for a byte that is the
first of no character. -/
def followerBounds? (first : UInt8) : Option (List (UInt8 × UInt8)) :=
  let any : UInt8 × UInt8 := (0x80, 0xbf)
  if first < 0x80 then some []
  else if first < 0xc2 then none
  else if first < 0xe0 then some [any]
  else if first = 0xe0 then some [(0xa0, 0xbf), any]
  else if first = 0xed then some [(0x80, 0x9f), any]
  else if first < 0xf0 then some [any, any]
  else if first = 0xf0 then some [(0x90, 0xbf), any, any]
  else if first < 0xf4 then some [any, any, any]
  else if first = 0xf4 then some [(0x80, 0x8f), any, any]
  else none

/-- The first fault from within a character, given where the character starts, how many of its bytes
have been taken and the bounds of the others. -/
def EncodingFault.search (start taken : Nat) (bounds : List (UInt8 × UInt8)) :
    List UInt8 → EncodingFault
  | [] => ⟨start, none⟩
  | byte :: bytes =>
      match bounds with
      | (low, high) :: bounds =>
          if low ≤ byte && byte ≤ high then EncodingFault.search start (taken + 1) bounds bytes
          else ⟨start, some taken⟩
      | [] =>
          match followerBounds? byte with
          | some bounds => EncodingFault.search (start + taken) 1 bounds bytes
          | none => ⟨start + taken, some 1⟩

def EncodingFault.ofBytes (bytes : List UInt8) : EncodingFault := .search 0 0 [] bytes

end PrivateComputation
