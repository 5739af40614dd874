import PrivateComputation.Text.Decimal

/-!
The texts that `echo` and `printf` write.
-/

namespace PrivateComputation.Shell

/-! ## Escapes -/

def octalDigit? (c : Char) : Option Nat :=
  if '0' ≤ c ∧ c ≤ '7' then some (c.toNat - 48) else none

def escapeOf? (c : Char) : Option Char :=
  match c with
  | 'a' => some (Char.ofNat 7)
  | 'b' => some (Char.ofNat 8)
  | 'e' => some (Char.ofNat 27)
  | 'f' => some (Char.ofNat 12)
  | 'n' => some '\n'
  | 'r' => some '\r'
  | 't' => some '\t'
  | 'v' => some (Char.ofNat 11)
  | '\\' => some '\\'
  | _ => none

inductive Unescaping where
  | text
  | backslash
  | octal (left value : Nat)

/-- Reads the escapes of a text. The second part tells whether `\c` ended it early. Numbers may
start with a zero that does not count as a digit. -/
def unescapeFrom (leadingZero : Bool) : Unescaping → List Char → List Char × Bool
  | .text, [] => ([], false)
  | .backslash, [] => (['\\'], false)
  | .octal _ value, [] => ([Char.ofNat (value % 256)], false)
  | state, c :: rest =>
      let plain : List Char × Bool :=
        if c = '\\' then unescapeFrom leadingZero .backslash rest
        else
          let (others, ended) := unescapeFrom leadingZero .text rest
          (c :: others, ended)
      match state with
      | .text => plain
      | .backslash =>
          if c = 'c' then ([], true)
          else match octalDigit? c, escapeOf? c with
            | some digit, _ =>
                unescapeFrom leadingZero
                  (.octal (if leadingZero ∧ digit = 0 then 3 else 2) digit) rest
            | none, some escaped =>
                let (others, ended) := unescapeFrom leadingZero .text rest
                (escaped :: others, ended)
            | none, none =>
                let (others, ended) := unescapeFrom leadingZero .text rest
                ('\\' :: c :: others, ended)
      | .octal left value =>
          match left, octalDigit? c with
          | left + 1, some digit =>
              unescapeFrom leadingZero (.octal left (8 * value + digit)) rest
          | _, _ =>
              let (others, ended) := plain
              (Char.ofNat (value % 256) :: others, ended)

def unescape (text : String) : String × Bool :=
  let (characters, ended) := unescapeFrom true .text text.toList
  (String.ofList characters, ended)

def echoText (escapes : Bool) (arguments : List String) : String :=
  let (line, arguments) := match arguments with
    | "-n" :: arguments => ("", arguments)
    | arguments => ("\n", arguments)
  let text := " ".intercalate arguments
  if escapes then
    let (text, ended) := unescape text
    if ended then text else text ++ line
  else text ++ line

/-! ## Formats -/

structure Conversion where
  left : Bool
  zeros : Bool
  width : Nat
  precision : Option Nat

def Conversion.plain : Conversion := ⟨false, false, 0, none⟩

inductive FormatPart where
  | text (c : Char)
  | value (kind : Char) (conversion : Conversion)

def formatParts : Option Conversion → List Char → List FormatPart
  | _, [] => []
  | none, c :: rest =>
      if c = '%' then formatParts (some .plain) rest else .text c :: formatParts none rest
  | some conversion, c :: rest =>
      if c = '%' then .text '%' :: formatParts none rest
      else if c = '-' then formatParts (some { conversion with left := true }) rest
      else if c = '.' then formatParts (some { conversion with precision := some 0 }) rest
      else if c.isDigit then
        let digit := c.toNat - 48
        match conversion.precision with
        | some precision =>
            formatParts (some { conversion with precision := some (10 * precision + digit) }) rest
        | none =>
            if c = '0' ∧ conversion.width = 0 then
              formatParts (some { conversion with zeros := true }) rest
            else formatParts (some { conversion with width := 10 * conversion.width + digit }) rest
      else .value c conversion :: formatParts none rest

def Conversion.pad (conversion : Conversion) (numeric : Bool) (text : String) : String :=
  let missing := conversion.width - text.length
  if conversion.left then text ++ "".pushn ' ' missing
  else if numeric && conversion.zeros then
    if text.startsWith "-" then "-" ++ ("".pushn '0' missing ++ text.drop 1)
    else "".pushn '0' missing ++ text
  else "".pushn ' ' missing ++ text

/-- What was written, with the arguments that are left, the arguments that are no numbers, and
whether the output has ended. -/
structure Printed where
  text : String
  arguments : List String
  notNumbers : List String
  ended : Bool

def Printed.write (printed : Printed) (text : String) : Printed :=
  { printed with text := printed.text ++ text }

/-- Takes the next argument; there is always one more that is empty. -/
def Printed.take (printed : Printed) : String × Printed :=
  match printed.arguments with
  | [] => ("", printed)
  | argument :: arguments => (argument, { printed with arguments })

def digitsOf (kind : Char) (value : Int) : String :=
  match kind with
  | 'x' => String.ofList (Nat.toDigits 16 value.toNat)
  | 'X' => (String.ofList (Nat.toDigits 16 value.toNat)).toUpper
  | 'o' => String.ofList (Nat.toDigits 8 value.toNat)
  | _ => toString value

/-- The number that an argument stands for; nothing stands for zero. -/
def argumentNumber? (text : String) : Option Int :=
  if text = "" then some 0 else readInteger text.toList

def Printed.part (printed : Printed) (part : FormatPart) : Printed :=
  if printed.ended then printed
  else match part with
    | .text c => printed.write (String.singleton c)
    | .value kind conversion =>
        let (argument, printed) := printed.take
        let cut (text : String) : String :=
          match conversion.precision with
          | some precision => String.ofList (text.toList.take precision)
          | none => text
        match kind with
        | 's' => printed.write (conversion.pad false (cut argument))
        | 'b' =>
            let (text, ended) := unescape argument
            { printed.write (conversion.pad false (cut text)) with ended }
        | 'c' => printed.write (conversion.pad false (String.ofList (argument.toList.take 1)))
        | kind =>
            match argumentNumber? argument with
            | some value => printed.write (conversion.pad true (digitsOf kind value))
            | none =>
                { printed.write (conversion.pad true "0") with
                  notNumbers := printed.notNumbers ++ [argument] }

def printRounds (parts : List FormatPart) : Nat → Printed → Printed
  | 0, printed => printed
  | rounds + 1, printed =>
      let after := parts.foldl Printed.part printed
      if after.ended || after.arguments.isEmpty ||
          after.arguments.length == printed.arguments.length then after
      else printRounds parts rounds after

def printFormat (format : String) (arguments : List String) : Printed :=
  let (characters, ended) := unescapeFrom false .text format.toList
  let printed :=
    printRounds (formatParts none characters) (arguments.length + 1) ⟨"", arguments, [], false⟩
  { printed with ended := printed.ended || ended }

end PrivateComputation.Shell
