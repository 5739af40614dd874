import PrivateComputation.Shell.Token

/-!
The structure of commands, and reading it from tokens.
-/

namespace PrivateComputation.Shell

structure Redirection where
  descriptor : Nat
  kind : RedirectionKind
  target : Word

inductive Command where
  | nothing
  | simple (words : List Word) (redirections : List Redirection)
  | redirected (body : Command) (redirections : List Redirection)
  | subshell (body : Command)
  | negate (body : Command)
  | pipe (left right : Command)
  | both (left right : Command)
  | either (left right : Command)
  | sequence (first second : Command)
  | background (body : Command)
  | conditional (test body otherwise : Command)
  /-- Runs its body as long as the test succeeds, or as long as it fails. -/
  | loop (onSuccess : Bool) (test body : Command)
  /-- Runs its body for every word; without words, for every argument. -/
  | each (name : String) (words : Option (List Word)) (body : Command)
  | choose (subject : Word) (branches : List (List Word × Command))
  | define (name : String) (body : Command)

namespace Command

abbrev Taken (α : Type) := α × List Token

def reservedWords : List String :=
  ["!", "\x7b", "\x7d", "if", "then", "elif", "else", "fi", "while", "until", "do", "done", "for",
    "case", "esac"]

def reserved? : List Token → Option String
  | .word word :: _ =>
      (Word.plainText? word).bind (fun text =>
        let text := String.ofList text
        if reservedWords.contains text then some text else none)
  | _ => none

def closingWords : List String := ["\x7d", "then", "elif", "else", "fi", "do", "done", "esac"]

def atEnd (tokens : List Token) : Bool :=
  match tokens with
  | [] => true
  | .operator .closeParenthesis :: _ | .operator .branchEnd :: _ => true
  | tokens => (reserved? tokens).any closingWords.contains

def describe (tokens : List Token) : String :=
  match tokens, reserved? tokens with
  | _, some text => "\"" ++ text ++ "\""
  | [], none => "end of file"
  | token :: _, none => token.text

def unexpected (tokens : List Token) : CommandFault :=
  match tokens with
  | .fault fault :: _ => fault
  | tokens => .unexpected (describe tokens)

def missing (wanted : String) (tokens : List Token) : CommandFault :=
  match tokens with
  | .fault fault :: _ => fault
  | tokens => .expected wanted (describe tokens)

def skipNewlines : List Token → List Token
  | .operator .newline :: rest => skipNewlines rest
  | tokens => tokens

def expectWord (text : String) (tokens : List Token) : Except CommandFault (List Token) :=
  if reserved? tokens = some text then .ok tokens.tail
  else .error (missing text tokens)

def redirections : List Token → Except CommandFault (Taken (List Redirection))
  | .redirect descriptor kind :: .word target :: rest => do
      let (others, rest) ← redirections rest
      .ok (⟨descriptor, kind, target⟩ :: others, rest)
  | .redirect _ _ :: rest => .error (unexpected rest)
  | tokens => .ok ([], tokens)

def simpleParts : List Token → Except CommandFault (Taken (List Word × List Redirection))
  | .word word :: rest => do
      let ((words, redirections), rest) ← simpleParts rest
      .ok ((word :: words, redirections), rest)
  | .redirect descriptor kind :: .word target :: rest => do
      let ((words, redirections), rest) ← simpleParts rest
      .ok ((words, ⟨descriptor, kind, target⟩ :: redirections), rest)
  | .redirect _ _ :: rest => .error (unexpected rest)
  | tokens => .ok (([], []), tokens)

def lineWords : List Token → List Word × List Token
  | .word word :: rest =>
      let (words, rest) := lineWords rest
      (word :: words, rest)
  | .operator .semicolon :: rest => ([], rest)
  | tokens => ([], tokens)

def eachHead : List Token → Except CommandFault (Taken (String × Option (List Word)))
  | .word name :: rest =>
      match Word.plainText? name, skipNewlines rest with
      | some name, .word word :: rest =>
          if Word.plainText? word = some "in".toList then
            let (words, rest) := lineWords rest
            .ok ((String.ofList name, some words), rest)
          else .ok ((String.ofList name, none), .word word :: rest)
      | some name, .operator .semicolon :: rest => .ok ((String.ofList name, none), rest)
      | _, rest => .error (unexpected rest)
  | tokens => .error (unexpected tokens)

def patterns : List Token → Except CommandFault (Taken (List Word))
  | .word word :: .operator .closeParenthesis :: rest => .ok ([word], rest)
  | .word word :: .operator .bar :: rest => do
      let (words, rest) ← patterns rest
      .ok (word :: words, rest)
  | .word _ :: rest => .error (missing ")" rest)
  | tokens => .error (unexpected tokens)

def chooseHead : List Token → Except CommandFault (Taken Word)
  | .word subject :: rest =>
      match skipNewlines rest with
      | .word word :: rest =>
          if Word.plainText? word = some "in".toList then .ok (subject, rest)
          else .error (missing "in" (.word word :: rest))
      | rest => .error (missing "in" rest)
  | tokens => .error (unexpected tokens)

def definition? : List Token → Option (Taken String)
  | .word name :: .operator .openParenthesis :: .operator .closeParenthesis :: rest =>
      (Word.plainText? name).map (fun name => (String.ofList name, skipNewlines rest))
  | _ => none

def withRedirections (body : Command) (tokens : List Token) :
    Except CommandFault (Taken Command) := do
  let (redirections, rest) ← redirections tokens
  .ok (if redirections.isEmpty then body else .redirected body redirections, rest)

mutual

def list : Nat → List Token → Except CommandFault (Taken Command)
  | 0, tokens => .error (unexpected tokens)
  | depth + 1, tokens => do
      let (first, rest) ← line depth (skipNewlines tokens)
      match rest with
      | .operator .newline :: rest => do
          let (second, rest) ← list depth rest
          .ok (.sequence first second, rest)
      | rest => .ok (first, rest)

def line : Nat → List Token → Except CommandFault (Taken Command)
  | 0, tokens => .error (unexpected tokens)
  | depth + 1, tokens =>
      match atEnd tokens, tokens with
      | true, tokens => .ok (.nothing, tokens)
      | false, .operator .newline :: rest => .ok (.nothing, .operator .newline :: rest)
      | false, tokens => do
          let (first, rest) ← andOr depth tokens
          match rest with
          | .operator .ampersand :: rest => do
              let (second, rest) ← line depth rest
              .ok (.sequence (.background first) second, rest)
          | .operator .semicolon :: rest => do
              let (second, rest) ← line depth rest
              .ok (.sequence first second, rest)
          | rest => .ok (first, rest)

def andOr : Nat → List Token → Except CommandFault (Taken Command)
  | 0, tokens => .error (unexpected tokens)
  | depth + 1, tokens => do
      let (first, rest) ← pipeline depth tokens
      andOrRest depth first rest

/-- Goes on after a pipeline; `&&` and `||` group to the left. -/
def andOrRest : Nat → Command → List Token → Except CommandFault (Taken Command)
  | 0, _, tokens => .error (unexpected tokens)
  | depth + 1, left, tokens =>
      match tokens with
      | .operator .both :: rest => do
          let (right, rest) ← pipeline depth (skipNewlines rest)
          andOrRest depth (.both left right) rest
      | .operator .either :: rest => do
          let (right, rest) ← pipeline depth (skipNewlines rest)
          andOrRest depth (.either left right) rest
      | tokens => .ok (left, tokens)

def pipeline : Nat → List Token → Except CommandFault (Taken Command)
  | 0, tokens => .error (unexpected tokens)
  | depth + 1, tokens =>
      if reserved? tokens = some "!" then do
        let (body, rest) ← pipeline depth tokens.tail
        .ok (.negate body, rest)
      else do
        let (first, rest) ← single depth tokens
        match rest with
        | .operator .bar :: rest => do
            let (others, rest) ← pipeline depth (skipNewlines rest)
            .ok (.pipe first others, rest)
        | rest => .ok (first, rest)

def single : Nat → List Token → Except CommandFault (Taken Command)
  | 0, tokens => .error (unexpected tokens)
  | depth + 1, tokens =>
      match tokens, reserved? tokens with
      | .operator .openParenthesis :: rest, _ => do
          if atEnd (skipNewlines rest) then .error (unexpected (skipNewlines rest))
          else
            let (body, rest) ← list depth rest
            match rest with
            | .operator .closeParenthesis :: rest => withRedirections (.subshell body) rest
            | rest => .error (missing ")" rest)
      | _, some "\x7b" => do
          let (body, rest) ← list depth tokens.tail
          withRedirections body (← expectWord "\x7d" rest)
      | _, some "if" => do
          let (body, rest) ← branches depth tokens.tail
          withRedirections body (← expectWord "fi" rest)
      | _, some "while" => loopFrom depth true tokens.tail
      | _, some "until" => loopFrom depth false tokens.tail
      | _, some "for" => do
          let ((name, words), rest) ← eachHead tokens.tail
          let (body, rest) ← list depth (← expectWord "do" (skipNewlines rest))
          withRedirections (.each name words body) (← expectWord "done" rest)
      | _, some "case" => do
          let (subject, rest) ← chooseHead tokens.tail
          let (branches, rest) ← choiceBranches depth rest
          withRedirections (.choose subject branches) rest
      | tokens, some _ => .error (unexpected tokens)
      | tokens, none =>
          match definition? tokens with
          | some (name, rest) => do
              let (body, rest) ← single depth rest
              .ok (.define name body, rest)
          | none => do
              let ((words, redirections), rest) ← simpleParts tokens
              if words.isEmpty && redirections.isEmpty then .error (unexpected tokens)
              else .ok (.simple words redirections, rest)

def choiceBranches :
    Nat → List Token → Except CommandFault (Taken (List (List Word × Command)))
  | 0, tokens => .error (unexpected tokens)
  | depth + 1, tokens => do
      let tokens := skipNewlines tokens
      if reserved? tokens = some "esac" then .ok ([], tokens.tail)
      else
        let (words, rest) ← patterns (match tokens with
          | .operator .openParenthesis :: rest => rest
          | tokens => tokens)
        let (body, rest) ← list depth rest
        match rest with
        | .operator .branchEnd :: rest => do
            let (branches, rest) ← choiceBranches depth rest
            .ok ((words, body) :: branches, rest)
        | rest => .ok ([(words, body)], ← expectWord "esac" rest)

def branches : Nat → List Token → Except CommandFault (Taken Command)
  | 0, tokens => .error (unexpected tokens)
  | depth + 1, tokens => do
      let (test, rest) ← list depth tokens
      let (body, rest) ← list depth (← expectWord "then" rest)
      if reserved? rest = some "elif" then do
        let (otherwise, rest) ← branches depth rest.tail
        .ok (.conditional test body otherwise, rest)
      else if reserved? rest = some "else" then do
        let (otherwise, rest) ← list depth rest.tail
        .ok (.conditional test body otherwise, rest)
      else .ok (.conditional test body .nothing, rest)

def loopFrom : Nat → Bool → List Token → Except CommandFault (Taken Command)
  | 0, _, tokens => .error (unexpected tokens)
  | depth + 1, onSuccess, tokens => do
      let (test, rest) ← list depth tokens
      let (body, rest) ← list depth (← expectWord "do" rest)
      withRedirections (.loop onSuccess test body) (← expectWord "done" rest)

end

def firstLine (tokens : List Token) : Except CommandFault (Taken Command) := do
  let (command, rest) ← line (8 * tokens.length + 8) tokens
  match rest with
  | [] => .ok (command, [])
  | .operator .newline :: rest => .ok (command, rest)
  | rest => .error (unexpected rest)

end Command

end PrivateComputation.Shell
