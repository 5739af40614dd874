import PrivateComputation.Text.Hex

/-!
The integer expressions that a shell works out in words.
-/

namespace PrivateComputation.Shell.Arithmetic

inductive Token where
  | number (value : Int)
  | name (name : String)
  | mark (text : String)
  | wrong
  deriving DecidableEq

inductive Reading where
  | none
  | number (digits : List Char)
  | name (characters : List Char)
  | mark (first : Char)

def numberIn? (base : Nat) (digits : List Char) : Option Int :=
  digits.foldlM
    (fun value digit => do
      let digit ← hexValue? digit
      if digit < base then some (value * base + (digit : Int)) else none)
    0

/-- The number that digits stand for: a zero in front makes them octal, or hexadecimal if a letter
for that follows. -/
def numberOf? (digits : List Char) : Option Int :=
  match digits with
  | '0' :: 'x' :: digits | '0' :: 'X' :: digits =>
      if digits.isEmpty then none else numberIn? 16 digits
  | '0' :: digits => numberIn? 8 digits
  | digits => numberIn? 10 digits

def Reading.finish : Reading → List Token
  | .none => []
  | .number digits => [((numberOf? digits.reverse).map Token.number).getD .wrong]
  | .name characters => [.name (String.ofList characters.reverse)]
  | .mark first => [.mark (String.singleton first)]

def longMarks : List (List Char) :=
  ["&&", "||", "==", "!=", "<=", ">=", "<<", ">>"].map String.toList

def start (c : Char) : Reading :=
  if c.isDigit then .number [c]
  else if c.isAlpha || c == '_' then .name [c]
  else if c == ' ' || c == '\t' || c == '\n' || c == '$' then .none
  else .mark c

def step (reading : Reading) (c : Char) : List Token × Reading :=
  match reading with
  | .number digits =>
      if c.isAlphanum then ([], .number (c :: digits)) else (reading.finish, start c)
  | .name characters =>
      if c.isAlphanum || c == '_' then ([], .name (c :: characters))
      else (reading.finish, start c)
  | .mark first =>
      if longMarks.contains [first, c] then ([.mark (String.ofList [first, c])], .none)
      else (reading.finish, start c)
  | .none => ([], start c)

def tokensFrom : Reading → List Char → List Token
  | reading, [] => reading.finish
  | reading, c :: rest =>
      let (tokens, next) := step reading c
      tokens ++ tokensFrom next rest

/-- The marks between two operands, those that bind loosest first. -/
def levels : List (List String) :=
  [["||"], ["&&"], ["|"], ["^"], ["&"], ["==", "!="], ["<", "<=", ">", ">="], ["<<", ">>"],
    ["+", "-"], ["*", "/", "%"]]

def truth (holds : Bool) : Int := if holds then 1 else 0

def combine? (mark : String) (left right : Int) : Option Int :=
  match mark with
  | "+" => some (left + right)
  | "-" => some (left - right)
  | "*" => some (left * right)
  | "/" => if right = 0 then none else some (left.tdiv right)
  | "%" => if right = 0 then none else some (left.tmod right)
  | "==" => some (truth (left == right))
  | "!=" => some (truth (left != right))
  | "<" => some (truth (decide (left < right)))
  | "<=" => some (truth (decide (left ≤ right)))
  | ">" => some (truth (decide (right < left)))
  | ">=" => some (truth (decide (right ≤ left)))
  | "&&" => some (truth (left != 0 && right != 0))
  | "||" => some (truth (left != 0 || right != 0))
  | "<<" => some (left * (Nat.pow 2 right.toNat : Nat))
  | ">>" => some (left / (Nat.pow 2 right.toNat : Nat))
  | "&" => some (Int.ofNat (left.toNat &&& right.toNat))
  | "|" => some (Int.ofNat (left.toNat ||| right.toNat))
  | "^" => some (Int.ofNat (left.toNat ^^^ right.toNat))
  | _ => none

mutual

def operands (valueOf : String → Int) : Nat → List (List String) → List Token →
    Option (Int × List Token)
  | 0, _, _ => none
  | depth + 1, [], tokens => operand valueOf depth tokens
  | depth + 1, marks :: tighter, tokens => do
      let (left, rest) ← operands valueOf depth tighter tokens
      following valueOf depth marks tighter left rest

def following (valueOf : String → Int) : Nat → List String → List (List String) → Int →
    List Token → Option (Int × List Token)
  | 0, _, _, _, _ => none
  | depth + 1, marks, tighter, left, tokens =>
      match tokens with
      | .mark mark :: rest =>
          if marks.contains mark then do
            let (right, rest) ← operands valueOf depth tighter rest
            let value ← combine? mark left right
            following valueOf depth marks tighter value rest
          else some (left, tokens)
      | tokens => some (left, tokens)

def operand (valueOf : String → Int) : Nat → List Token → Option (Int × List Token)
  | 0, _ => none
  | depth + 1, tokens =>
      match tokens with
      | .number value :: rest => some (value, rest)
      | .name name :: rest => some (valueOf name, rest)
      | .mark "-" :: rest => do
          let (value, rest) ← operand valueOf depth rest
          some (-value, rest)
      | .mark "+" :: rest => operand valueOf depth rest
      | .mark "!" :: rest => do
          let (value, rest) ← operand valueOf depth rest
          some (truth (value == 0), rest)
      | .mark "(" :: rest => do
          let (value, rest) ← operands valueOf depth levels rest
          match rest with
          | .mark ")" :: rest => some (value, rest)
          | _ => none
      | _ => none

end

def value? (valueOf : String → Int) (text : String) : Option Int := do
  let tokens := tokensFrom .none text.toList
  if tokens.isEmpty then some 0
  else
    let (value, rest) ← operands valueOf (16 * tokens.length + 16) levels tokens
    if rest.isEmpty then some value else none

end PrivateComputation.Shell.Arithmetic
