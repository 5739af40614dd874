/-!
Numbers in decimal digits.
-/

namespace PrivateComputation

/-- The number that decimal digits spell; there has to be at least one. -/
def readDecimal (digits : List Char) : Option Nat :=
  if digits.isEmpty || !digits.all Char.isDigit then none
  else some (digits.foldl (fun number digit => number * 10 + (digit.toNat - '0'.toNat)) 0)

def readInteger : List Char → Option Int
  | '-' :: digits => (readDecimal digits).map (fun number => -number)
  | '+' :: digits => (readDecimal digits).map Int.ofNat
  | digits => (readDecimal digits).map Int.ofNat

end PrivateComputation
