/-!
Patterns that texts are compared with.
-/

namespace PrivateComputation.Shell

inductive PatternPart where
  | exactly (c : Char)
  | any
  | many
  /-- A character within one of the ranges, or within none of them. -/
  | within (negated : Bool) (ranges : List (Char × Char))
  deriving DecidableEq

abbrev Pattern := List PatternPart

/-- A character of a pattern, and whether it can have a special meaning. -/
abbrev PatternChar := Char × Bool

def bracketContent : List PatternChar → Option (List Char × List PatternChar)
  | [] => none
  | (c, special) :: rest =>
      if c = ']' && special then some ([], rest)
      else (bracketContent rest).map (fun (content, behind) => (c :: content, behind))

def bracketRanges : List Char → List (Char × Char)
  | [] => []
  | low :: '-' :: high :: rest => (low, high) :: bracketRanges rest
  | c :: rest => (c, c) :: bracketRanges rest

/-- What an opening bracket begins, and what is behind that. A closing bracket right behind it
stands for itself. -/
def patternBracket (text : List PatternChar) : Option (PatternPart × List PatternChar) :=
  let negated := text.head? = some ('!', true)
  let (first, others) := match if negated then text.tail else text with
    | (']', _) :: others => ([']'], others)
    | others => ([], others)
  (bracketContent others).map (fun (content, behind) =>
    (.within negated (bracketRanges (first ++ content)), behind))

def patternFrom : Nat → List PatternChar → Pattern
  | 0, _ | _, [] => []
  | size + 1, (c, special) :: rest =>
      if !special then .exactly c :: patternFrom size rest
      else if c = '?' then .any :: patternFrom size rest
      else if c = '*' then .many :: patternFrom size rest
      else if c = '[' then
        match patternBracket rest with
        | some (part, rest) => part :: patternFrom size rest
        | none => .exactly c :: patternFrom size rest
      else .exactly c :: patternFrom size rest

def Pattern.ofChars (text : List PatternChar) : Pattern := patternFrom text.length text

def PatternPart.accepts (part : PatternPart) (c : Char) : Bool :=
  match part with
  | .exactly expected => c == expected
  | .any | .many => true
  | .within negated ranges =>
      (ranges.any (fun (low, high) => low ≤ c && c ≤ high)) != negated

def Pattern.accepts : Pattern → List Char → Bool
  | [], text => text.isEmpty
  | .many :: parts, text =>
      (List.range (text.length + 1)).any (fun count => Pattern.accepts parts (text.drop count))
  | _ :: _, [] => false
  | part :: parts, c :: text => part.accepts c && Pattern.accepts parts text

end PrivateComputation.Shell
