import PrivateComputation.Text.Hex

/-!
Random ids of 128 bits.
-/

namespace PrivateComputation

/-- The id that sixteen random bytes make; six of their bits tell that they are random. -/
def uuidOf (bytes : List UInt8) : String :=
  let marked := bytes.zipIdx.map (fun (byte, position) =>
    if position = 6 then byte % 16 + 64
    else if position = 8 then byte % 64 + 128
    else byte)
  let digits := hexEncode (marked.take 16)
  let part (first count : Nat) : String := String.ofList ((digits.drop first).take count)
  "-".intercalate [part 0 8, part 8 4, part 12 4, part 16 4, part 20 12]

end PrivateComputation
