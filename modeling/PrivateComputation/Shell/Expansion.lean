import PrivateComputation.Shell.Machine
import PrivateComputation.Shell.Pattern
import PrivateComputation.Text.Decimal

/-!
Expanding words: parameters take their values, and what is not quoted falls apart at blanks.
-/

namespace PrivateComputation.Shell

/-- The fields that a word has given so far, latest first, and the one that is still open. -/
structure Fields where
  closed : List String
  current : Option String

namespace Fields

def none : Fields := ⟨[], .none⟩

def add (fields : Fields) (text : String) : Fields :=
  { fields with current := some (fields.current.getD "" ++ text) }

def close (fields : Fields) : Fields :=
  match fields.current with
  | some field => ⟨field :: fields.closed, .none⟩
  | .none => fields

def isSeparator (c : Char) : Bool := c == ' ' || c == '\t' || c == '\n'

def addSplit (fields : Fields) (text : String) : Fields :=
  text.toList.foldl
    (fun fields c => if isSeparator c then fields.close else fields.add (String.singleton c))
    fields

def addValue (fields : Fields) (quoted : Bool) (text : String) : Fields :=
  if quoted then fields.add text else fields.addSplit text

def addEach (fields : Fields) : List String → Fields
  | [] => fields
  | [text] => fields.add text
  | text :: texts => ((fields.add text).close).addEach texts

def toList (fields : Fields) : List String := fields.close.closed.reverse

end Fields

namespace Machine

def parameter? (machine : Machine) (name : String) : Option String :=
  match name with
  | "?" => some (toString machine.status)
  | "$" => some (toString machine.process)
  | "#" => some (toString machine.arguments.length)
  | "@" | "*" => some (" ".intercalate machine.arguments)
  | "-" => some ""
  | "0" => some machine.dialect.name
  | "!" => machine.latestJob.map toString
  | "PPID" => machine.above.head?.map toString
  | name =>
      match readDecimal name.toList with
      | some (position + 1) => machine.arguments[position]?
      | _ => machine.bindings.get? name

def integer (machine : Machine) (name : String) : Int :=
  ((machine.parameter? name).bind (fun value => readInteger value.toList)).getD 0

end Machine

inductive ParameterUse where
  | plain
  | length
  /-- Takes a word instead of a value that is missing, or also of an empty one. -/
  | instead (orEmpty : Bool)
  | assign (orEmpty : Bool)
  /-- Takes a word instead of a value that is there. -/
  | replace (orEmpty : Bool)
  /-- Ends the shell where there is no value. -/
  | demand (orEmpty : Bool)
  /-- Cuts off what a pattern is like, at the front or the end, as little or as much as can be. -/
  | cut (front long : Bool)
  | unknown
  deriving DecidableEq

def parameterUse : List Char → ParameterUse × List Char
  | [] => (.plain, [])
  | ':' :: '-' :: word => (.instead true, word)
  | ':' :: '=' :: word => (.assign true, word)
  | ':' :: '+' :: word => (.replace true, word)
  | ':' :: '?' :: word => (.demand true, word)
  | '-' :: word => (.instead false, word)
  | '=' :: word => (.assign false, word)
  | '+' :: word => (.replace false, word)
  | '?' :: word => (.demand false, word)
  | '#' :: '#' :: word => (.cut true true, word)
  | '#' :: word => (.cut true false, word)
  | '%' :: '%' :: word => (.cut false true, word)
  | '%' :: word => (.cut false false, word)
  | word => (.unknown, word)

def parameterParts (text : String) : String × ParameterUse × List Char :=
  match text.toList with
  | ['#'] => ("#", .plain, [])
  | '#' :: c :: rest =>
      if isNameChar c || (rest.isEmpty && isSpecialParameter c) then
        (String.ofList (c :: rest), .length, [])
      else
        let (use, word) := parameterUse (c :: rest)
        ("#", use, word)
  | characters =>
      let name := match characters.takeWhile isNameChar with
        | [] => characters.take 1
        | name => name
      let (use, word) := parameterUse (characters.drop name.length)
      (String.ofList name, use, word)

/-- What is left of a text when a part at its front or its end that a pattern is like is cut off. -/
def cutOff (pattern : Pattern) (front long : Bool) (text : List Char) : List Char :=
  let sizes := List.range (text.length + 1)
  let isLike (size : Nat) : Bool :=
    pattern.accepts (if front then text.take size else text.drop (text.length - size))
  match (if long then sizes.reverse else sizes).find? isLike with
  | some size => if front then text.drop size else text.take (text.length - size)
  | none => text

def hasCommand (word : Word) : Bool :=
  word.any (fun symbol =>
    match symbol with
    | .command _ _ => true
    | _ => false)

def expression? (script : String) : Option String :=
  match script.toList with
  | '(' :: rest =>
      if rest.getLast? = some ')' then some (String.ofList rest.dropLast) else none
  | _ => none

def comparedWords? : List Word → Option (Word × Bool × Word)
  | [opening, subject, operator, pattern, closing] =>
      let is (word : Word) (text : String) : Bool := Word.plainText? word = some text.toList
      if is opening "[[" && is closing "]]" then
        if is operator "==" || is operator "=" then some (subject, true, pattern)
        else if is operator "!=" then some (subject, false, pattern)
        else none
      else none
  | _ => none

def Machine.compared? (machine : Machine) (words : List Word) : Option (Word × Bool × Word) :=
  if machine.dialect.extended then comparedWords? words else none

def assignment? (word : Word) : Option (String × Word) :=
  let isPart (symbol : Symbol) : Bool :=
    match symbol with
    | .plain c => isNameChar c
    | _ => false
  let name := word.takeWhile isPart
  match Word.plainText? name, word.dropWhile isPart with
  | some (first :: others), .plain '=' :: value =>
      if isNameStart first then some (String.ofList (first :: others), value) else none
  | _, _ => none

def assignments : List Word → List (String × Word) × List Word
  | [] => ([], [])
  | word :: words =>
      match assignment? word with
      | some assigned =>
          let (others, words) := assignments words
          (assigned :: others, words)
      | none => ([], word :: words)

end PrivateComputation.Shell
