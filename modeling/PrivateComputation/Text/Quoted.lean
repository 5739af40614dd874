import PrivateComputation.Text.Hex
import PrivateComputation.Text.Printable

/-!
Texts in double quotes, as messages show them: quotes, backslashes and whatever cannot be printed
are escaped.
-/

namespace PrivateComputation

def escapeShown (c : Char) : List Char :=
  if c = '"' then ['\\', '"']
  else if c = '\\' then ['\\', '\\']
  else if c = '\n' then ['\\', 'n']
  else if c = '\r' then ['\\', 'r']
  else if c = '\t' then ['\\', 't']
  else if c.toNat = 0 then ['\\', '0']
  else if isPrintable c then [c]
  else ['\\', 'u', '{'] ++ hexDigits c.toNat ++ ['}']

def quoted (text : String) : String :=
  String.ofList ('"' :: text.toList.flatMap escapeShown ++ ['"'])

end PrivateComputation
