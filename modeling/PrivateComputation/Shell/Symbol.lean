/-!
Reading the quotes of a command text one character at a time. What comes out says of every
character whether it still has a special meaning.
-/

namespace PrivateComputation.Shell

inductive CommandFault where
  | openQuote
  | openBackquote
  | openBrace
  | openParenthesis
  | unexpected (token : String)
  /-- Something else has to stand where the token stands. -/
  | expected (wanted token : String)
  deriving DecidableEq

def CommandFault.message : CommandFault → String
  | .openQuote => "Unterminated quoted string"
  | .openBackquote => "EOF in backquote substitution"
  | .openBrace => "Missing '\x7d'"
  | .openParenthesis => "end of file unexpected (expecting \")\")"
  | .unexpected token => token ++ " unexpected"
  | .expected wanted token => token ++ " unexpected (expecting \"" ++ wanted ++ "\")"

inductive Symbol where
  | plain (c : Char)
  | literal (c : Char)
  /-- The place where a quote opens; there is a word here even if nothing is in it. -/
  | quote
  | parameter (name : String) (quoted : Bool)
  | command (script : String) (quoted : Bool)
  deriving DecidableEq

def backquote : Char := Char.ofNat 96

def singleQuote : Char := Char.ofNat 39

def isBlankChar (c : Char) : Bool := c == ' ' || c == '\t'

def endsWord (c : Char) : Bool := isBlankChar c || "\n;&|()<>".toList.contains c

def isNameStart (c : Char) : Bool := c.isAlpha || c == '_'

def isNameChar (c : Char) : Bool := c.isAlphanum || c == '_'

def isSpecialParameter (c : Char) : Bool := c.isDigit || "@*#?-$!".toList.contains c

def isProtected (c : Char) : Bool := c == '"' || c == '\\' || c == '$' || c == backquote

/-- Where in a command text the reader is. Characters are collected latest first. -/
inductive Reading where
  | plain (wordStart : Bool)
  | escape (wordStart : Bool)
  | comment
  | single
  | double
  | doubleEscape
  | dollar (quoted : Bool)
  | name (quoted : Bool) (collected : List Char)
  /-- In the braces around a parameter, with the number of braces open in it. -/
  | braces (quoted : Bool) (opened : Nat) (collected : List Char)
  /-- In a command that is put between parentheses, with the closing characters that are to come,
  the innermost first. -/
  | script (quoted : Bool) (closers : List Char) (escaped : Bool) (collected : List Char)
  | backquoted (quoted : Bool) (escaped : Bool) (collected : List Char)
  deriving DecidableEq

abbrev Step := List Symbol × Reading

def stepPlain (wordStart : Bool) (c : Char) : Step :=
  if c = '\\' then ([], .escape wordStart)
  else if c = '"' then ([.quote], .double)
  else if c = singleQuote then ([.quote], .single)
  else if c = '$' then ([], .dollar false)
  else if c = backquote then ([], .backquoted false false [])
  else if c = '#' ∧ wordStart then ([], .comment)
  else ([.plain c], .plain (endsWord c))

def stepDouble (c : Char) : Step :=
  if c = '\\' then ([], .doubleEscape)
  else if c = '"' then ([], .plain false)
  else if c = '$' then ([], .dollar true)
  else if c = backquote then ([], .backquoted true false [])
  else ([.literal c], .double)

def stepBase (quoted : Bool) (c : Char) : Step :=
  if quoted then stepDouble c else stepPlain false c

def afterExpansion (quoted : Bool) : Reading := if quoted then .double else .plain false

def verbatim (quoted : Bool) (c : Char) : Symbol := if quoted then .literal c else .plain c

def stepDollar (quoted : Bool) (c : Char) : Step :=
  if c = '(' then ([], .script quoted [')'] false [])
  else if c = '{' then ([], .braces quoted 0 [])
  else if isNameStart c then ([], .name quoted [c])
  else if isSpecialParameter c then
    ([.parameter (String.singleton c) quoted], afterExpansion quoted)
  else
    let (symbols, reading) := stepBase quoted c
    (verbatim quoted '$' :: symbols, reading)

def stepScript (quoted : Bool) (closers : List Char) (escaped : Bool) (collected : List Char)
    (c : Char) : Step :=
  let keep (closers : List Char) (escaped : Bool) : Step :=
    ([], .script quoted closers escaped (c :: collected))
  match closers with
  | [] => keep [] false
  | closer :: outer =>
      if escaped then keep closers false
      else if c = '\\' ∧ closer ≠ singleQuote then keep closers true
      else if c = closer then
        if outer.isEmpty then
          ([.command (String.ofList collected.reverse) quoted], afterExpansion quoted)
        else keep outer false
      else if closer = singleQuote then keep closers false
      else if c = '(' ∧ (closer = ')' ∨ collected.head? = some '$') then
        keep (')' :: closers) false
      else if closer = ')' ∧ (c = '"' ∨ c = singleQuote) then keep (c :: closers) false
      else keep closers false

def stepBackquoted (quoted escaped : Bool) (collected : List Char) (c : Char) : Step :=
  if escaped then
    ([], .backquoted quoted false
      (if isProtected c ∧ (c ≠ '"' ∨ quoted) then c :: collected else c :: '\\' :: collected))
  else if c = '\\' then ([], .backquoted quoted true collected)
  else if c = backquote then
    ([.command (String.ofList collected.reverse) quoted], afterExpansion quoted)
  else ([], .backquoted quoted false (c :: collected))

def step : Reading → Char → Step
  | .plain wordStart, c => stepPlain wordStart c
  | .escape wordStart, c =>
      if c = '\n' then ([], .plain wordStart) else ([.literal c], .plain false)
  | .comment, c => if c = '\n' then ([.plain c], .plain true) else ([], .comment)
  | .single, c => if c = singleQuote then ([], .plain false) else ([.literal c], .single)
  | .double, c => stepDouble c
  | .doubleEscape, c =>
      if c = '\n' then ([], .double)
      else if isProtected c then ([.literal c], .double)
      else ([.literal '\\', .literal c], .double)
  | .dollar quoted, c => stepDollar quoted c
  | .name quoted collected, c =>
      if isNameChar c then ([], .name quoted (c :: collected))
      else
        let (symbols, reading) := stepBase quoted c
        (.parameter (String.ofList collected.reverse) quoted :: symbols, reading)
  | .braces quoted opened collected, c =>
      if c = '}' then
        match opened with
        | 0 => ([.parameter (String.ofList collected.reverse) quoted], afterExpansion quoted)
        | opened + 1 => ([], .braces quoted opened (c :: collected))
      else if c = '{' && collected.head? = some '$' then
        ([], .braces quoted (opened + 1) (c :: collected))
      else ([], .braces quoted opened (c :: collected))
  | .script quoted closers escaped collected, c => stepScript quoted closers escaped collected c
  | .backquoted quoted escaped collected, c => stepBackquoted quoted escaped collected c

def finish : Reading → List Symbol × Option CommandFault
  | .plain _ | .comment => ([], none)
  | .escape _ => ([.literal '\\'], none)
  | .single | .double | .doubleEscape => ([], some .openQuote)
  | .dollar quoted => if quoted then ([], some .openQuote) else ([.plain '$'], none)
  | .name quoted collected =>
      if quoted then ([], some .openQuote)
      else ([.parameter (String.ofList collected.reverse) false], none)
  | .braces _ _ _ => ([], some .openBrace)
  | .script _ _ _ _ => ([], some .openParenthesis)
  | .backquoted _ _ _ => ([], some .openBackquote)

def symbolsFrom : Reading → List Char → List Symbol × Option CommandFault
  | reading, [] => finish reading
  | reading, c :: rest =>
      let (symbols, next) := step reading c
      let (others, fault) := symbolsFrom next rest
      (symbols ++ others, fault)

def symbols (text : List Char) : List Symbol × Option CommandFault :=
  symbolsFrom (.plain true) text

def quotedSymbols (text : List Char) : List Symbol :=
  (symbolsFrom .double (text ++ ['"'])).1

end PrivateComputation.Shell
