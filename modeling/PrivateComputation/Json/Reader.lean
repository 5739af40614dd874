import PrivateComputation.Json.Tree
import PrivateComputation.Text.Hex

/-!
Reading a JSON text into a tree.
-/

namespace PrivateComputation

def isJsonBlank (c : Char) : Bool := c == ' ' || c == '\n' || c == '\t' || c == '\r'

def skipJsonBlanks (text : List Char) : List Char := text.dropWhile isJsonBlank

/-! ## Strings -/

inductive StringPiece where
  | plain (c : Char)
  | highHalf (code : Nat)
  | lowHalf (code : Nat)
  deriving DecidableEq

def StringPiece.ofCode (code : Nat) : StringPiece :=
  if 0xd800 ≤ code && code ≤ 0xdbff then .highHalf code
  else if 0xdc00 ≤ code && code ≤ 0xdfff then .lowHalf code
  else .plain (Char.ofNat code)

/-- Four hexadecimal digits; fewer than four bytes left count as a text that ends too early. -/
def readHexCode : List Char → Except TextFault (Nat × List Char)
  | a :: b :: c :: d :: rest =>
      match hexValue? a, hexValue? b, hexValue? c, hexValue? d with
      | some a, some b, some c, some d => .ok (((a * 16 + b) * 16 + c) * 16 + d, rest)
      | _, _, _, _ => .error .malformed
  | short =>
      let size := short.foldl (fun size c => size + c.utf8Size) 0
      if size < 4 then .error .truncated else .error .malformed

def readEscape : List Char → Except TextFault (StringPiece × List Char)
  | [] => .error .truncated
  | c :: rest =>
      if c = '"' || c = '\\' || c = '/' then .ok (.plain c, rest)
      else if c = 'b' then .ok (.plain (Char.ofNat 8), rest)
      else if c = 'f' then .ok (.plain (Char.ofNat 12), rest)
      else if c = 'n' then .ok (.plain '\n', rest)
      else if c = 'r' then .ok (.plain '\r', rest)
      else if c = 't' then .ok (.plain '\t', rest)
      else if c = 'u' then
        match readHexCode rest with
        | .ok (code, rest) => .ok (.ofCode code, rest)
        | .error fault => .error fault
      else .error .malformed

/-- The elements up to the closing quote, and the text behind it or how the literal breaks off. -/
def readPieces : Nat → List Char → List StringPiece × Except TextFault (List Char)
  | 0, _ => ([], .error .truncated)
  | _, [] => ([], .error .truncated)
  | fuel + 1, c :: rest =>
      if c = '"' then ([], .ok rest)
      else if c = '\\' then
        match readEscape rest with
        | .ok (piece, rest) =>
            let (pieces, outcome) := readPieces fuel rest
            (piece :: pieces, outcome)
        | .error fault => ([], .error fault)
      else if c.toNat < 32 then ([], .error .malformed)
      else
        let (pieces, outcome) := readPieces fuel rest
        (.plain c :: pieces, outcome)

def joinPieces : List StringPiece → Option (List Char)
  | [] => some []
  | .plain c :: rest => (joinPieces rest).map (c :: ·)
  | .highHalf high :: .lowHalf low :: rest =>
      (joinPieces rest).map
        (Char.ofNat (0x10000 + (high - 0xd800) * 0x400 + (low - 0xdc00)) :: ·)
  | _ => none

/-- No half of a surrogate pair stands alone so far; the last element may still find its other half
behind it. -/
def joinable : List StringPiece → Bool
  | [] => true
  | .plain _ :: rest => joinable rest
  | [.highHalf _] => true
  | .highHalf _ :: .lowHalf _ :: rest => joinable rest
  | _ => false

inductive StringToken where
  | complete (value : Option String) (rest : List Char)
  | incomplete (kept skipped : TextFault)

def readString (fuel : Nat) (text : List Char) : StringToken :=
  match readPieces fuel text with
  | (pieces, .ok rest) => .complete ((joinPieces pieces).map String.ofList) rest
  | (pieces, .error fault) => .incomplete (if joinable pieces then fault else .malformed) fault

/-! ## Numbers -/

def digitsValue (digits : List Char) : Nat :=
  digits.foldl (fun value digit => value * 10 + (digit.toNat - 48)) 0

/-- Appends digits to a significand while it stays below `2 ^ 64`; the result also counts the digits
taken. -/
def extendSignificand : Nat → Nat → List Char → Nat × Nat
  | significand, taken, [] => (significand, taken)
  | significand, taken, digit :: digits =>
      let extended := significand * 10 + (digit.toNat - 48)
      if UInt64.size ≤ extended then (significand, taken)
      else extendSignificand extended (taken + 1) digits

/-- Scales a significand by a power of ten, each factor and the result rounded. Steps of `10 ^ 308`
reach the smallest exponents. -/
def scaleByTen : Nat → Binary64 → Int → Option Binary64
  | 0, number, _ => some number
  | fuel + 1, number, exponent =>
      if exponent.natAbs ≤ 308 then do
        let power ← Binary64.ofRatio? false (Nat.pow 10 exponent.natAbs) 1
        if 0 ≤ exponent then number.mul? power else number.div? power
      else if number.isZero then some number
      else if 0 ≤ exponent then none
      else do
        let power ← Binary64.ofRatio? false (Nat.pow 10 308) 1
        let smaller ← number.div? power
        scaleByTen fuel smaller (exponent + 308)

def clampExponent (exponent : Int) : Int := max (-2147483648) (min exponent 2147483647)

def numberValue (negative : Bool) (whole : List Char) (fraction : Option (List Char))
    (power : Option (Bool × List Char)) : Option Number :=
  let (significand, taken) := extendSignificand 0 0 whole
  let dropped := whole.length - taken
  match fraction, power with
  | none, none =>
      if dropped = 0 && negative && 0 < significand && significand ≤ 9223372036854775808 then
        some (.integer (-(significand : Int)))
      else if dropped = 0 && !negative then some (.integer significand)
      else do
        let magnitude ← Binary64.ofRatio? false significand 1
        let scaled ← scaleByTen 4 magnitude dropped
        some (.float { scaled with negative })
  | _, _ =>
      let (significand, taken) := extendSignificand significand 0 (fraction.getD [])
      let exponent : Int := (dropped : Int) - (taken : Int)
      let zero : Number := .float (.zero negative)
      let finish (exponent : Int) : Option Number := do
        let magnitude ← Binary64.ofRatio? false significand 1
        let scaled ← scaleByTen 4 magnitude exponent
        some (.float { scaled with negative })
      match power with
      | none => finish exponent
      | some (negativePower, digits) =>
          let size := digitsValue digits
          if 2147483647 < size then
            if significand ≠ 0 && !negativePower then none else some zero
          else if negativePower then finish (clampExponent (exponent - size))
          else finish (clampExponent (exponent + size))

def readDigits (text : List Char) : Except TextFault (List Char × List Char) :=
  match text.takeWhile Char.isDigit with
  | [] => if text.isEmpty then .error .truncated else .error .malformed
  | digits => .ok (digits, text.dropWhile Char.isDigit)

def readFraction : List Char → Except TextFault (Option (List Char) × List Char)
  | '.' :: rest => do
      let (digits, rest) ← readDigits rest
      .ok (some digits, rest)
  | text => .ok (none, text)

def readPower : List Char → Except TextFault (Option (Bool × List Char) × List Char)
  | c :: rest =>
      if c = 'e' || c = 'E' then do
        let (negative, rest) :=
          match rest with
          | '+' :: digits => (false, digits)
          | '-' :: digits => (true, digits)
          | digits => (false, digits)
        let (digits, rest) ← readDigits rest
        .ok (some (negative, digits), rest)
      else .ok (none, c :: rest)
  | [] => .ok (none, [])

def readMagnitude (negative : Bool) (text : List Char) :
    Except TextFault (Option Number × List Char) := do
  let (whole, rest) ← readDigits text
  if whole.head? = some '0' && whole.length ≠ 1 then .error .malformed
  else
    let (fraction, rest) ← readFraction rest
    let (power, rest) ← readPower rest
    .ok (numberValue negative whole fraction power, rest)

def readNumber : List Char → Except TextFault (Option Number × List Char)
  | '-' :: rest => readMagnitude true rest
  | text => readMagnitude false text

/-! ## Values -/

def readWord : List Char → List Char → Except TextFault (List Char)
  | [], text => .ok text
  | _ :: _, [] => .error .truncated
  | expected :: word, c :: rest => if c = expected then readWord word rest else .error .malformed

def startsNumber (c : Char) : Bool := c == '-' || c.isDigit

def readWordTree (letters : List Char) (tree : Tree) (rest : List Char) :
    Tree × Option (List Char) :=
  match readWord letters rest with
  | .ok rest => (tree, some rest)
  | .error fault => (.cut fault fault .malformed, none)

mutual

/-- A value and the text behind it, which is `none` when the value breaks off. -/
def readTree : Nat → List Char → Tree × Option (List Char)
  | 0, _ => (.absent .truncated, none)
  | fuel + 1, text =>
      match skipJsonBlanks text with
      | [] => (.absent .truncated, none)
      | c :: rest =>
          if c = 'n' then readWordTree ['u', 'l', 'l'] .null rest
          else if c = 't' then readWordTree ['r', 'u', 'e'] (.bool true) rest
          else if c = 'f' then readWordTree ['a', 'l', 's', 'e'] (.bool false) rest
          else if c = '"' then
            match readString fuel rest with
            | .complete value rest => (.string value, some rest)
            | .incomplete kept skipped => (.cut kept skipped kept, none)
          else if c = '[' then
            match skipJsonBlanks rest with
            | [] => (.array [] (.broken .truncated), none)
            | d :: behind =>
                if d = ']' then (.array [] .closed, some behind)
                else
                  let (items, stop, rest) := readItems fuel (d :: behind)
                  (.array items stop, rest)
          else if c = '{' then
            match skipJsonBlanks rest with
            | [] => (.object [] (.broken .truncated), none)
            | d :: behind =>
                if d = '}' then (.object [] .closed, some behind)
                else if d = '"' then
                  let (members, stop, rest) := readMembers fuel behind
                  (.object members stop, rest)
                else (.object [] (.broken .malformed), none)
          else if startsNumber c then
            match readNumber (c :: rest) with
            | .ok (value, rest) => (.number value, some rest)
            | .error fault => (.cut fault .malformed .malformed, none)
          else (.absent .malformed, none)

def readItems : Nat → List Char → List Tree × Stop × Option (List Char)
  | 0, _ => ([], .broken .truncated, none)
  | fuel + 1, text =>
      match readTree fuel text with
      | (item, none) => ([item], .broken .malformed, none)
      | (item, some rest) =>
          match skipJsonBlanks rest with
          | [] => ([item], .broken .truncated, none)
          | c :: behind =>
              if c = ']' then ([item], .closed, some behind)
              else if c = ',' then
                let (items, stop, rest) := readItems fuel behind
                (item :: items, stop, rest)
              else ([item], .broken .malformed, none)

def readMembers : Nat → List Char → List (MemberName × Tree) × Stop × Option (List Char)
  | 0, _ => ([], .broken .truncated, none)
  | fuel + 1, text =>
      match readString fuel text with
      | .incomplete kept skipped =>
          ([(.unreadable kept skipped, .absent kept)], .broken kept, none)
      | .complete value rest =>
          let name := (value.map MemberName.text).getD .halved
          match skipJsonBlanks rest with
          | [] => ([(name, .absent .truncated)], .broken .truncated, none)
          | c :: behind =>
              if c ≠ ':' then ([(name, .absent .malformed)], .broken .malformed, none)
              else
                match readTree fuel behind with
                | (member, none) => ([(name, member)], .broken .malformed, none)
                | (member, some rest) =>
                    match skipJsonBlanks rest with
                    | [] => ([(name, member)], .broken .truncated, none)
                    | c :: behind =>
                        if c = '}' then ([(name, member)], .closed, some behind)
                        else if c = ',' then
                          match skipJsonBlanks behind with
                          | [] =>
                              ([(name, member),
                                  (.unreadable .truncated .truncated, .absent .truncated)],
                                .broken .truncated, none)
                          | d :: behind =>
                              if d = '"' then
                                let (members, stop, rest) := readMembers fuel behind
                                ((name, member) :: members, stop, rest)
                              else
                                ([(name, member),
                                    (.unreadable .malformed .malformed, .absent .malformed)],
                                  .broken .malformed, none)
                        else ([(name, member)], .broken .malformed, none)

end

structure Document where
  tree : Tree
  trailing : Bool

def Document.ofText (text : String) : Document :=
  let chars := text.toList
  match readTree (2 * chars.length + 2) chars with
  | (tree, some rest) => ⟨tree, !(skipJsonBlanks rest).isEmpty⟩
  | (tree, none) => ⟨tree, false⟩

end PrivateComputation
