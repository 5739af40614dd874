import PrivateComputation.Shell.Symbol

/-!
The words and operators of a command text.
-/

namespace PrivateComputation.Shell

abbrev Word := List Symbol

inductive Operator where
  | semicolon
  | ampersand
  | both
  | either
  | bar
  | openParenthesis
  | closeParenthesis
  | newline
  | branchEnd
  deriving DecidableEq

def Operator.text : Operator → String
  | .semicolon => ";"
  | .ampersand => "&"
  | .both => "&&"
  | .either => "||"
  | .bar => "|"
  | .openParenthesis => "("
  | .closeParenthesis => ")"
  | .newline => "newline"
  | .branchEnd => ";;"

inductive RedirectionKind where
  | read
  | write
  | append
  | duplicate
  deriving DecidableEq

inductive Token where
  | word (word : Word)
  | operator (operator : Operator)
  | redirect (descriptor : Nat) (kind : RedirectionKind)
  | fault (fault : CommandFault)
  deriving DecidableEq

def Token.text : Token → String
  | .word _ => "word"
  | .operator .newline => "newline"
  | .operator mark => "\"" ++ mark.text ++ "\""
  | .redirect _ _ => "redirection"
  | .fault _ => "end of file"

def endWord (word : List Symbol) (tokens : List Token) : List Token :=
  if word.isEmpty then tokens else .word word.reverse :: tokens

/-- A redirection after what was read of a word: one digit is the descriptor. -/
def redirectAfter (word : List Symbol) (kind : RedirectionKind) (default : Nat)
    (tokens : List Token) : List Token :=
  match word with
  | [.plain digit] =>
      if digit.isDigit then .redirect (digit.toNat - 48) kind :: tokens
      else endWord word (.redirect default kind :: tokens)
  | word => endWord word (.redirect default kind :: tokens)

def operatorOf? (c : Char) : Option Operator :=
  match c with
  | ';' => some .semicolon
  | '&' => some .ampersand
  | '|' => some .bar
  | '(' => some .openParenthesis
  | ')' => some .closeParenthesis
  | '\n' => some .newline
  | _ => none

def tokensFrom (word : List Symbol) : List Symbol → List Token
  | [] => endWord word []
  | .plain ';' :: .plain ';' :: rest => endWord word (.operator .branchEnd :: tokensFrom [] rest)
  | .plain '&' :: .plain '&' :: rest => endWord word (.operator .both :: tokensFrom [] rest)
  | .plain '|' :: .plain '|' :: rest => endWord word (.operator .either :: tokensFrom [] rest)
  | .plain '>' :: .plain '>' :: rest => redirectAfter word .append 1 (tokensFrom [] rest)
  | .plain '>' :: .plain '&' :: rest => redirectAfter word .duplicate 1 (tokensFrom [] rest)
  | .plain '>' :: .plain '|' :: rest => redirectAfter word .write 1 (tokensFrom [] rest)
  | .plain '<' :: .plain '&' :: rest => redirectAfter word .duplicate 0 (tokensFrom [] rest)
  | .plain '>' :: rest => redirectAfter word .write 1 (tokensFrom [] rest)
  | .plain '<' :: rest => redirectAfter word .read 0 (tokensFrom [] rest)
  | .plain c :: rest =>
      if isBlankChar c then endWord word (tokensFrom [] rest)
      else match operatorOf? c with
        | some operator => endWord word (.operator operator :: tokensFrom [] rest)
        | none => tokensFrom (.plain c :: word) rest
  | symbol :: rest => tokensFrom (symbol :: word) rest

def tokens (text : List Char) : List Token :=
  let (symbols, fault) := symbols text
  tokensFrom [] symbols ++ (fault.map Token.fault).toList

def Word.plainText? : Word → Option (List Char)
  | [] => some []
  | .plain c :: rest => (Word.plainText? rest).map (c :: ·)
  | _ :: _ => none

end PrivateComputation.Shell
