import PrivateComputation.Cloud.AddressBlock

/-!
Writing address blocks: a block that is written in dotted notation, with its length behind a slash,
is read back.
-/

namespace PrivateComputation

/-! ## Cutting at a separator -/

theorem splitOn_of_absent {separator : Char} {part : List Char} (absent : separator ∉ part) :
    splitOn separator part = [part] := by
  induction part with
  | nil => rfl
  | cons c rest ih =>
      obtain ⟨different, later⟩ := List.ne_and_not_mem_of_not_mem_cons absent
      rw [splitOn, if_neg (Ne.symm different), ih later]

theorem splitOn_append {separator : Char} {part : List Char} (absent : separator ∉ part)
    (rest : List Char) :
    splitOn separator (part ++ separator :: rest) = part :: splitOn separator rest := by
  induction part with
  | nil => rw [List.nil_append, splitOn, if_pos rfl]
  | cons c part ih =>
      obtain ⟨different, later⟩ := List.ne_and_not_mem_of_not_mem_cons absent
      rw [List.cons_append, splitOn, if_neg (Ne.symm different), ih later]

/-! ## Numbers -/

def decimal (number : Nat) : List Char := (toString number).toList

theorem readByte_decimal : ∀ byte < 256, readByte (decimal byte) = some byte := by
  decide +kernel

theorem not_mem_decimal {separator : Char} (other : separator.isDigit = false) (number : Nat) :
    separator ∉ decimal number := by
  intro member
  rw [decimal, Nat.toString_eq_repr, Nat.toList_repr] at member
  have digit := Nat.isDigit_of_mem_toDigits (by omega) (by omega) member
  exact absurd (other.symm.trans digit) (by decide)

theorem readLength_decimal : ∀ length < 33, readLength (decimal length) = some length := by
  decide +kernel

/-! ## Blocks -/

def byteOf (address place : Nat) : Nat := address / Nat.pow 256 place % 256

def addressText (address : Nat) : List Char :=
  decimal (byteOf address 3) ++ '.' :: (decimal (byteOf address 2) ++ '.' ::
    (decimal (byteOf address 1) ++ '.' :: decimal (byteOf address 0)))

def AddressBlock.text (block : AddressBlock) : String :=
  String.ofList (addressText block.address ++ '/' :: decimal block.length)

theorem byteOf_lt (address place : Nat) : byteOf address place < 256 :=
  Nat.mod_lt _ (by decide)

theorem addressOfBytes_byteOf {address : Nat} (bound : address < UInt32.size) :
    addressOfBytes (byteOf address 3) (byteOf address 2) (byteOf address 1) (byteOf address 0) =
      address := by
  simp only [addressOfBytes, byteOf, Nat.pow_eq, UInt32.size] at *
  omega

theorem readAddress_addressText {address : Nat} (bound : address < UInt32.size) :
    readAddress (addressText address) = some address := by
  have dotless (place : Nat) : '.' ∉ decimal (byteOf address place) := not_mem_decimal rfl _
  have parts : splitOn '.' (addressText address) =
      [decimal (byteOf address 3), decimal (byteOf address 2), decimal (byteOf address 1),
        decimal (byteOf address 0)] := by
    rw [addressText, splitOn_append (dotless 3), splitOn_append (dotless 2),
      splitOn_append (dotless 1), splitOn_of_absent (dotless 0)]
  simp only [readAddress, parts, readByte_decimal _ (byteOf_lt _ _), Option.bind_eq_bind,
    Option.bind_some, addressOfBytes_byteOf bound]

theorem slash_not_mem_addressText (address : Nat) : '/' ∉ addressText address := by
  have slashless (place : Nat) : '/' ∉ decimal (byteOf address place) := not_mem_decimal rfl _
  simp [addressText, slashless]

theorem AddressBlock.ofText_text (block : AddressBlock) : ofText block.text = .ok block := by
  have parts : splitOn '/' block.text.toList =
      [addressText block.address, decimal block.length] := by
    rw [text, String.toList_ofList, splitOn_append (slash_not_mem_addressText _),
      splitOn_of_absent (not_mem_decimal rfl _)]
  have address := readAddress_addressText block.address_lt
  have length := readLength_decimal _ (Nat.lt_succ_of_le block.length_le)
  have valid := And.intro block.address_lt block.length_le
  simp [ofText, parts, address, length, valid, bind, Except.bind]

end PrivateComputation
