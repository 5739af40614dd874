import PrivateComputation.Json.Reader

/-!
Finding the place in a text that a path through its values leads to.
-/

namespace PrivateComputation

/-- A place in a text: its line, counted from one, and the bytes of that line in front of it. -/
structure TextPlace where
  line : Nat
  column : Nat
  deriving DecidableEq

def TextPlace.behind (front : List Char) : TextPlace :=
  ⟨front.count '\n' + 1,
    (front.reverse.takeWhile (· ≠ '\n')).foldl (fun size c => size + c.utf8Size) 0⟩

def TextPlace.describe (place : TextPlace) : String :=
  " at line " ++ toString place.line ++ " column " ++ toString place.column

inductive PathStep where
  | item (index : Nat)
  | name (index : Nat)
  | member (index : Nat)
  deriving DecidableEq

/-- How many names and values stand in front, behind the opening bracket. -/
def PathStep.before : PathStep → Nat
  | .item index => index
  | .name index => 2 * index
  | .member index => 2 * index + 1

def behindValue (text : List Char) : List Char :=
  (readTree (2 * text.length + 2) text).2.getD []

def skipValues : Nat → List Char → List Char
  | 0, text => skipJsonBlanks text
  | count + 1, text => skipValues count ((skipJsonBlanks (behindValue text)).drop 1)

def followPath : List PathStep → List Char → List Char
  | [], text => skipJsonBlanks text
  | step :: path, text => followPath path (skipValues step.before ((skipJsonBlanks text).drop 1))

end PrivateComputation
