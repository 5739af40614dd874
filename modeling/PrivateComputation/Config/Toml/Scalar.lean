import PrivateComputation.Config.Toml.Value
import PrivateComputation.Text.Hex

/-!
Reading TOML strings, numbers and dates. A reader takes a text to what it found at the front of it
and the rest.
-/

namespace PrivateComputation.TomlText

abbrev Reader (α : Type) := List Char → Option (α × List Char)

def expect (wanted : Char) : List Char → Option (List Char)
  | c :: rest => if c = wanted then some rest else none
  | [] => none

def expectAll : List Char → List Char → Option (List Char)
  | [], text => some text
  | wanted :: others, text => do
      let rest ← expect wanted text
      expectAll others rest

def isSpace (c : Char) : Bool := c = ' ' || c = '\t'

def skipSpaces (text : List Char) : List Char := text.dropWhile isSpace

def lineEnd? : List Char → Option (List Char)
  | '\n' :: rest => some rest
  | '\r' :: '\n' :: rest => some rest
  | _ => none

def isPlain (c : Char) : Bool :=
  c = '\t' || (0x20 ≤ c.toNat && c.toNat ≤ 0x7e) || 0x80 ≤ c.toNat

/-! ## Strings -/

def isBasic (c : Char) : Bool := isPlain c && c ≠ '"' && c ≠ '\\'

def isLiteral (c : Char) : Bool := isPlain c && c.toNat ≠ 39

def codePoint (digits : List Char) : Option Char := do
  let values ← digits.mapM hexValue?
  let code := values.foldl (fun code digit => code * 16 + digit) 0
  if code < 0xd800 ∨ (0xdfff < code ∧ code < 0x110000) then some (Char.ofNat code) else none

def simpleEscape : Char → Option Char
  | 'b' => some (Char.ofNat 8)
  | 'f' => some (Char.ofNat 12)
  | 'n' => some '\n'
  | 'r' => some '\r'
  | 't' => some '\t'
  | '\\' => some '\\'
  | '"' => some '"'
  | _ => none

def prepend (c : Char) : Option (List Char × List Char) → Option (List Char × List Char)
  | some (found, rest) => some (c :: found, rest)
  | none => none

def basicBody : Reader (List Char)
  | '"' :: rest => some ([], rest)
  | '\\' :: 'u' :: a :: b :: c :: d :: rest => do
      prepend (← codePoint [a, b, c, d]) (basicBody rest)
  | '\\' :: 'U' :: a :: b :: c :: d :: e :: f :: g :: h :: rest => do
      prepend (← codePoint [a, b, c, d, e, f, g, h]) (basicBody rest)
  | '\\' :: letter :: rest => do
      prepend (← simpleEscape letter) (basicBody rest)
  | c :: rest => if isBasic c then prepend c (basicBody rest) else none
  | [] => none

def literalBody : Reader (List Char)
  | c :: rest =>
      if c.toNat = 39 then some ([], rest)
      else if isLiteral c then prepend c (literalBody rest)
      else none
  | [] => none

def joinsLines (text : List Char) : Bool := (lineEnd? (skipSpaces text)).isSome

/-- The rest of a string in three double quotes; while `joining`, blanks and line ends are passed
over. Up to two quotes may stand before the three that close it. -/
def longBasicBody (joining : Bool) : Reader (List Char)
  | '"' :: '"' :: '"' :: '"' :: '"' :: rest => some (['"', '"'], rest)
  | '"' :: '"' :: '"' :: '"' :: rest => some (['"'], rest)
  | '"' :: '"' :: '"' :: rest => some ([], rest)
  | '"' :: rest => prepend '"' (longBasicBody false rest)
  | '\\' :: 'u' :: a :: b :: c :: d :: rest => do
      prepend (← codePoint [a, b, c, d]) (longBasicBody false rest)
  | '\\' :: 'U' :: a :: b :: c :: d :: e :: f :: g :: h :: rest => do
      prepend (← codePoint [a, b, c, d, e, f, g, h]) (longBasicBody false rest)
  | '\\' :: letter :: rest =>
      if joinsLines (letter :: rest) then
        longBasicBody true (letter :: rest)
      else do
        prepend (← simpleEscape letter) (longBasicBody false rest)
  | '\r' :: '\n' :: rest =>
      if joining then longBasicBody true rest else prepend '\n' (longBasicBody false rest)
  | c :: rest =>
      if joining && (isSpace c || c = '\n') then longBasicBody true rest
      else if isBasic c || c = '\n' then prepend c (longBasicBody false rest)
      else none
  | [] => none

def quote : Char := Char.ofNat 39

def longLiteralBody : Reader (List Char)
  | '\r' :: '\n' :: rest => prepend '\n' (longLiteralBody rest)
  | c :: rest =>
      if c = quote then
        match rest with
        | d :: e :: f :: g :: rest' =>
            if d = quote ∧ e = quote then
              if f = quote then
                if g = quote then some ([quote, quote], rest') else some ([quote], g :: rest')
              else some ([], f :: g :: rest')
            else prepend c (longLiteralBody rest)
        | [d, e, f] =>
            if d = quote ∧ e = quote then
              if f = quote then some ([quote], []) else some ([], [f])
            else prepend c (longLiteralBody rest)
        | [d, e] => if d = quote ∧ e = quote then some ([], []) else none
        | _ => none
      else if isLiteral c || c = '\n' then prepend c (longLiteralBody rest)
      else none
  | [] => none

/-- A line end right after the opening quotes is not part of the string. -/
def skipFirstLineEnd (text : List Char) : List Char := (lineEnd? text).getD text

def string (text : List Char) : Option (String × List Char) :=
  let found : Option (List Char × List Char) :=
    match text with
    | '"' :: '"' :: '"' :: rest => longBasicBody false (skipFirstLineEnd rest)
    | '"' :: rest => basicBody rest
    | a :: b :: c :: rest =>
        if a = quote ∧ b = quote ∧ c = quote then longLiteralBody (skipFirstLineEnd rest)
        else if a = quote then literalBody (b :: c :: rest)
        else none
    | a :: rest => if a = quote then literalBody rest else none
    | [] => none
  found.map (fun (content, rest) => (String.ofList content, rest))

/-! ## Numbers -/

/-- Digits, between which single underscores may stand. -/
def digitsAfter (isDigit : Char → Bool) : List Char → List Char × List Char
  | '_' :: c :: rest =>
      if isDigit c then
        let (digits, rest) := digitsAfter isDigit rest
        (c :: digits, rest)
      else ([], '_' :: c :: rest)
  | c :: rest =>
      if isDigit c then
        let (digits, rest) := digitsAfter isDigit rest
        (c :: digits, rest)
      else ([], c :: rest)
  | [] => ([], [])

def digits (isDigit : Char → Bool) : Reader (List Char)
  | c :: rest =>
      if isDigit c then
        let (others, rest) := digitsAfter isDigit rest
        some (c :: others, rest)
      else none
  | [] => none

def sign : List Char → Bool × List Char
  | '+' :: rest => (false, rest)
  | '-' :: rest => (true, rest)
  | text => (false, text)

def decimalDigits : Reader (List Char)
  | '0' :: rest => some (['0'], rest)
  | text => digits Char.isDigit text

def valueOf (base : Nat) (digits : List Char) : Nat :=
  digits.foldl (fun value digit => value * base + (hexValue? digit).getD 0) 0

def bounded (value : Int) : Option Int :=
  if -9223372036854775808 ≤ value ∧ value < 9223372036854775808 then some value else none

def isHexDigit (c : Char) : Bool := (hexValue? c).isSome

def isOctalDigit (c : Char) : Bool := '0' ≤ c && c ≤ '7'

def isBinaryDigit (c : Char) : Bool := c = '0' || c = '1'

def basedInteger (base : Nat) (isDigit : Char → Bool) (text : List Char) :
    Option (Int × List Char) := do
  let (found, rest) ← digits isDigit text
  let value ← bounded (valueOf base found)
  some (value, rest)

def integer : Reader Int
  | '0' :: 'x' :: rest => basedInteger 16 isHexDigit rest
  | '0' :: 'o' :: rest => basedInteger 8 isOctalDigit rest
  | '0' :: 'b' :: rest => basedInteger 2 isBinaryDigit rest
  | text => do
      let (negative, rest) := sign text
      let (found, rest) ← decimalDigits rest
      let magnitude : Int := valueOf 10 found
      let value ← bounded (if negative then -magnitude else magnitude)
      some (value, rest)

def fraction : Reader (List Char)
  | '.' :: rest => digits Char.isDigit rest
  | _ => none

def exponent : Reader Int
  | c :: rest =>
      if c = 'e' ∨ c = 'E' then do
        let (negative, rest) := sign rest
        let (found, rest) ← digits Char.isDigit rest
        let magnitude : Int := valueOf 10 found
        some (if negative then -magnitude else magnitude, rest)
      else none
  | [] => none

def specialFloat (text : List Char) : Option (TomlFloat × List Char) :=
  let (negative, rest) := sign text
  match rest with
  | 'i' :: 'n' :: 'f' :: rest => some (.infinite negative, rest)
  | 'n' :: 'a' :: 'n' :: rest => some (.nan, rest)
  | _ => none

/-- The float of a decimal. One too large is no float, one too small is minus infinity. -/
def decimalFloat (negative : Bool) (significand : Nat) (exponent : Int) : Option TomlFloat :=
  match Binary64.ofDecimal? negative significand exponent with
  | some value => some (.finite value)
  | none => if negative then some (.infinite true) else none

def decimal (text : List Char) : Option (TomlFloat × List Char) := do
  let (negative, rest) := sign text
  let (whole, rest) ← decimalDigits rest
  match fraction rest with
  | some (places, rest) =>
      let (power, rest) := (exponent rest).getD (0, rest)
      let value ← decimalFloat negative (valueOf 10 (whole ++ places)) (power - places.length)
      some (value, rest)
  | none =>
      let (power, rest) ← exponent rest
      let value ← decimalFloat negative (valueOf 10 whole) power
      some (value, rest)

def float (text : List Char) : Option (TomlFloat × List Char) :=
  (decimal text).or (specialFloat text)

/-! ## Dates and times -/

def fixedDigits (count low high : Nat) (text : List Char) : Option (Nat × List Char) :=
  let found := text.take count
  let value := valueOf 10 found
  if found.length = count ∧ found.all Char.isDigit ∧ low ≤ value ∧ value ≤ high then
    some (value, text.drop count)
  else none

def daysInMonth (year month : Nat) : Nat :=
  if month = 2 then
    if year % 4 = 0 ∧ (year % 100 ≠ 0 ∨ year % 400 = 0) then 29 else 28
  else if month = 4 ∨ month = 6 ∨ month = 9 ∨ month = 11 then 30
  else 31

def date (text : List Char) : Option (TomlDate × List Char) := do
  let (year, rest) ← fixedDigits 4 0 9999 text
  let rest ← expect '-' rest
  let (month, rest) ← fixedDigits 2 1 12 rest
  let rest ← expect '-' rest
  let (day, rest) ← fixedDigits 2 1 (daysInMonth year month) rest
  some (⟨year, month, day⟩, rest)

/-- A fraction of a second in nanoseconds; digits after the ninth are dropped. -/
def nanoseconds : List Char → Option (Nat × List Char)
  | '.' :: rest =>
      let found := rest.takeWhile Char.isDigit
      if found.isEmpty then none
      else
        let kept := found.take 9
        some (valueOf 10 kept * Nat.pow 10 (9 - kept.length), rest.dropWhile Char.isDigit)
  | _ => none

def time (text : List Char) : Option (TomlTime × List Char) := do
  let (hour, rest) ← fixedDigits 2 0 23 text
  let rest ← expect ':' rest
  let (minute, rest) ← fixedDigits 2 0 59 rest
  let rest ← expect ':' rest
  let (second, rest) ← fixedDigits 2 0 60 rest
  let (nanosecond, rest) := (nanoseconds rest).getD (0, rest)
  some (⟨hour, minute, second, nanosecond⟩, rest)

def offset : List Char → Option (TomlOffset × List Char)
  | 'Z' :: rest => some (.zulu, rest)
  | 'z' :: rest => some (.zulu, rest)
  | c :: rest =>
      if c = '+' ∨ c = '-' then do
        let (hours, rest) ← fixedDigits 2 0 23 rest
        let rest ← expect ':' rest
        let (minutes, rest) ← fixedDigits 2 0 59 rest
        let magnitude : Int := hours * 60 + minutes
        some (.minutes (if c = '-' then -magnitude else magnitude), rest)
      else none
  | [] => none

def timeAfterDate : List Char → Option (TomlTime × List Char)
  | c :: rest => if c = 'T' ∨ c = 't' ∨ c = ' ' then time rest else none
  | [] => none

def dateTime (text : List Char) : Option (TomlDateTime × List Char) :=
  match date text with
  | some (date, rest) =>
      match timeAfterDate rest with
      | some (time, rest) =>
          match offset rest with
          | some (offset, rest) => some (.full date time (some offset), rest)
          | none => some (.full date time none, rest)
      | none => some (.date date, rest)
  | none => (time text).map (fun (time, rest) => (.time time, rest))

end PrivateComputation.TomlText
