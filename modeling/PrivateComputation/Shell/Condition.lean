import PrivateComputation.Files.Tree
import PrivateComputation.Text.Decimal

/-!
The conditions that `test` and brackets check.
-/

namespace PrivateComputation.Shell

def unaryCondition? (look : String → Option DirectoryEntry) (isProgram : String → Bool)
    (operator operand : String) : Option Bool :=
  match operator with
  | "-n" => some (operand ≠ "")
  | "-z" => some (operand = "")
  | "-e" | "-r" | "-w" => some (look operand).isSome
  | "-f" =>
      some (match look operand with
        | some (.file _) => true
        | _ => false)
  | "-x" =>
      some (isProgram operand || match look operand with
        | some .folder => true
        | _ => false)
  | "-d" =>
      some (match look operand with
        | some .folder => true
        | _ => false)
  | "-s" =>
      some (match look operand with
        | some (.file content) => 0 < content.size
        | some .folder => true
        | none => false)
  | "-t" | "-L" | "-h" => some false
  | _ => none

def comparison? (operator : String) : Option (Int → Int → Bool) :=
  match operator with
  | "-eq" => some (fun left right => left == right)
  | "-ne" => some (fun left right => left != right)
  | "-lt" => some (fun left right => decide (left < right))
  | "-le" => some (fun left right => decide (left ≤ right))
  | "-gt" => some (fun left right => decide (right < left))
  | "-ge" => some (fun left right => decide (right ≤ left))
  | _ => none

/-- A condition on two operands; an error if an operand is no number. -/
def binaryCondition? (extended : Bool) (left operator right : String) :
    Option (Except String Bool) :=
  if operator = "-a" then some (.ok (left ≠ "" ∧ right ≠ ""))
  else if operator = "-o" then some (.ok (left ≠ "" ∨ right ≠ ""))
  else if operator = "=" ∨ (operator = "==" ∧ extended) then some (.ok (left = right))
  else if operator = "!=" then some (.ok (left ≠ right))
  else (comparison? operator).map (fun compare =>
    match readInteger left.toList, readInteger right.toList with
    | some left, some right => .ok (compare left right)
    | none, _ => .error ("Illegal number: " ++ left)
    | _, none => .error ("Illegal number: " ++ right))

def splitAtWord (separator : String) : List String → List (List String)
  | [] => [[]]
  | word :: words =>
      if word = separator then [] :: splitAtWord separator words
      else match splitAtWord separator words with
        | [] => [[word]]
        | part :: parts => (word :: part) :: parts

def plainCondition (extended : Bool) (look : String → Option DirectoryEntry)
    (isProgram : String → Bool) : List String → Except String Bool
  | [] => .ok false
  | [text] => .ok (text ≠ "")
  | [operator, operand] =>
      if operator = "!" then .ok (operand = "")
      else match unaryCondition? look isProgram operator operand with
        | some holds => .ok holds
        | none => .error (operator ++ ": unexpected operator")
  | [left, operator, right] =>
      match binaryCondition? extended left operator right with
      | some result => result
      | none =>
          if left = "!" then (plainCondition extended look isProgram [operator, right]).map not
          else .error (operator ++ ": unexpected operator")
  | first :: rest =>
      if first = "!" then (plainCondition extended look isProgram rest).map not
      else .error (first ++ ": unexpected operator")

def condition (extended : Bool) (look : String → Option DirectoryEntry)
    (isProgram : String → Bool) (words : List String) : Except String Bool :=
  if words.length ≤ 4 then plainCondition extended look isProgram words
  else do
    let alternatives ← (splitAtWord "-o" words).mapM (fun words => do
      let parts ← (splitAtWord "-a" words).mapM (plainCondition extended look isProgram)
      pure (parts.all id))
    pure (alternatives.any id)

end PrivateComputation.Shell
