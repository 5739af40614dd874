import PrivateComputation.Config.Toml.Scalar
import PrivateComputation.Config.Toml.Section

/-!
Reading TOML documents.
-/

namespace PrivateComputation.TomlText

/-! ## Keys -/

def isBareKey (c : Char) : Bool := c.isAlphanum || c = '_' || c = '-'

def keyPart (text : List Char) : Option (String × List Char) :=
  match text with
  | '"' :: rest => (basicBody rest).map (fun (content, rest) => (String.ofList content, rest))
  | c :: rest =>
      if c = quote then
        (literalBody rest).map (fun (content, rest) => (String.ofList content, rest))
      else if isBareKey c then
        some (String.ofList (c :: rest.takeWhile isBareKey), rest.dropWhile isBareKey)
      else none
  | [] => none

def keyParts : Nat → List Char → Option (List String × List Char)
  | 0, _ => none
  | parts + 1, text => do
      let (part, rest) ← keyPart (skipSpaces text)
      match skipSpaces rest with
      | '.' :: rest => do
          let (others, rest) ← keyParts parts rest
          some (part :: others, rest)
      | rest => some ([part], rest)

/-- A dotted key: the path to a table and the key in it. Keys have fewer than 80 parts. -/
def key (text : List Char) : Option ((List String × String) × List Char) := do
  let (parts, rest) ← keyParts 79 text
  let last ← parts.getLast?
  some ((parts.dropLast, last), rest)

/-! ## Values -/

def comment (text : List Char) : List Char := text.dropWhile isPlain

def skipLines : Nat → List Char → Option (List Char)
  | 0, text => some text
  | lines + 1, text =>
      match skipSpaces text with
      | '#' :: rest => do
          let rest ← lineEnd? (comment rest)
          skipLines lines rest
      | rest =>
          match lineEnd? rest with
          | some rest => skipLines lines rest
          | none => some rest

def skipFiller (text : List Char) : Option (List Char) := skipLines (text.length + 1) text

/-- The items of an array up to its closing bracket, at most some number of them. A comma may
follow the last item. -/
def arrayItems (value : Reader Toml) : Nat → Reader (List Toml)
  | 0, _ => none
  | count + 1, text => do
      match ← skipFiller text with
      | ']' :: rest => some ([], rest)
      | rest => do
          let (item, rest) ← value rest
          match ← skipFiller rest with
          | ',' :: rest => do
              let (items, rest) ← arrayItems value count rest
              some (item :: items, rest)
          | ']' :: rest => some ([item], rest)
          | _ => none

def inlineEntry (value : Reader Toml) (text : List Char) :
    Option ((List String × String) × Toml × List Char) := do
  let (found, rest) ← key text
  let rest ← expect '=' rest
  let (bound, rest) ← value (skipSpaces rest)
  some (found, bound, skipSpaces rest)

def inlineEntries (value : Reader Toml) : Nat → TomlSection → List Char →
    Option (TomlSection × List Char)
  | 0, _, _ => none
  | count + 1, table, text => do
      let ((path, key), bound, rest) ← inlineEntry value text
      let table ← table.bind path key bound
      match rest with
      | ',' :: rest => inlineEntries value count table rest
      | '}' :: rest => some (table, rest)
      | _ => none

def inlineTable (value : Reader Toml) (text : List Char) : Option (Toml × List Char) :=
  match skipSpaces text with
  | '}' :: rest => some (.table [], rest)
  | rest => do
      let (table, rest) ← inlineEntries value (rest.length + 1) .empty rest
      some (.table table.finish, rest)

def number (text : List Char) : Option (Toml × List Char) :=
  match dateTime text with
  | some (value, rest) => some (.dateTime value, rest)
  | none =>
      match float text with
      | some (value, rest) => some (.float value, rest)
      | none => (integer text).map (fun (value, rest) => (.integer value, rest))

def value : Nat → Reader Toml
  | depth, '[' :: rest =>
      match depth with
      | 0 => none
      | depth + 1 => do
          let (items, rest) ← arrayItems (value depth) (rest.length + 1) rest
          some (.array items, rest)
  | depth, '{' :: rest =>
      match depth with
      | 0 => none
      | depth + 1 => inlineTable (value depth) rest
  | _, text =>
      match text with
      | 't' :: rest => (expectAll ['r', 'u', 'e'] rest).map (fun rest => (.boolean true, rest))
      | 'f' :: rest =>
          (expectAll ['a', 'l', 's', 'e'] rest).map (fun rest => (.boolean false, rest))
      | 'i' :: _ => (specialFloat text).map (fun (value, rest) => (.float value, rest))
      | 'n' :: _ => (specialFloat text).map (fun (value, rest) => (.float value, rest))
      | c :: _ =>
          if c = '"' ∨ c = quote then
            (string text).map (fun (content, rest) => (.string content, rest))
          else if c = '+' ∨ c = '-' ∨ c.isDigit then number text
          else none
      | [] => none

/-! ## Documents -/

def finishLine (text : List Char) : Option (List Char) :=
  let rest := match skipSpaces text with
    | '#' :: rest => comment rest
    | rest => rest
  if rest.isEmpty then some [] else lineEnd? rest

def bindLine (draft : TomlDraft) (text : List Char) : Option (TomlDraft × List Char) := do
  let ((path, key), rest) ← key text
  let rest ← expect '=' rest
  let (bound, rest) ← value 79 (skipSpaces rest)
  let rest ← finishLine rest
  let draft ← draft.bind path key bound
  some (draft, rest)

def headerLine (draft : TomlDraft) : List Char → Option (TomlDraft × List Char)
  | '[' :: text => do
      let ((path, key), rest) ← key text
      let rest ← expectAll [']', ']'] rest
      let rest ← finishLine rest
      let draft ← draft.openArray path key
      some (draft, rest)
  | text => do
      let ((path, key), rest) ← key text
      let rest ← expect ']' rest
      let rest ← finishLine rest
      let draft ← draft.openTable path key
      some (draft, rest)

def readLines : Nat → TomlDraft → List Char → Option TomlDraft
  | 0, draft, text => if text.isEmpty then some draft else none
  | count + 1, draft, text =>
      match skipSpaces text with
      | [] => some draft
      | '[' :: rest => do
          let (draft, rest) ← headerLine draft rest
          readLines count draft rest
      | '#' :: rest => do
          let rest ← finishLine ('#' :: rest)
          readLines count draft rest
      | rest =>
          match lineEnd? rest with
          | some rest => readLines count draft rest
          | none => do
              let (draft, rest) ← bindLine draft rest
              readLines count draft rest

def skipMark (text : List Char) : List Char :=
  match text with
  | c :: rest => if c.toNat = 0xfeff then rest else text
  | [] => []

end PrivateComputation.TomlText

namespace PrivateComputation

def Toml.ofText (text : String) : Option Toml := do
  let text := TomlText.skipMark text.toList
  let draft ← TomlText.readLines (text.length + 1) .empty text
  let table ← draft.close
  some (.table table.finish)

end PrivateComputation
