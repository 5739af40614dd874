/-!
Reading the arguments of a command: its options, which may stand anywhere, its plain arguments, and
where a command below it starts.
-/

namespace PrivateComputation

inductive OptionKind where
  | flag
  | text
  | path
  deriving DecidableEq

structure CommandOption where
  name : String
  letter : Option Char
  kind : OptionKind
  repeatable : Bool
  deriving DecidableEq

structure CommandShape where
  options : List CommandOption
  plainArguments : Nat
  commands : List String
  showsVersion : Bool

inductive UsageStop where
  | help
  | version
  | wrong
  deriving DecidableEq

structure ReadArguments where
  /-- The options in the order in which they were given; flags have an empty value. -/
  options : List (String × String)
  plain : List String
  command : Option (String × List String)

namespace ReadArguments

def none : ReadArguments := ⟨[], [], .none⟩

def value? (read : ReadArguments) (name : String) : Option String := read.options.lookup name

def values (read : ReadArguments) (name : String) : List String :=
  (read.options.filter (fun option => option.1 == name)).map Prod.snd

def has (read : ReadArguments) (name : String) : Bool := (read.value? name).isSome

/-- Adds an option; one that may not be repeated is not given twice, and a path is not empty. -/
def add (read : ReadArguments) (option : CommandOption) (value : String) :
    Except UsageStop ReadArguments :=
  if read.has option.name && !option.repeatable then .error .wrong
  else if option.kind = .path ∧ value = "" then .error .wrong
  else .ok { read with options := read.options ++ [(option.name, value)] }

def addPlain (read : ReadArguments) (shape : CommandShape) (argument : String) :
    Except UsageStop ReadArguments :=
  if read.plain.length < shape.plainArguments then
    .ok { read with plain := read.plain ++ [argument] }
  else .error .wrong

def addAllPlain (read : ReadArguments) (shape : CommandShape) (arguments : List String) :
    Except UsageStop ReadArguments :=
  arguments.foldlM (fun read argument => read.addPlain shape argument) read

end ReadArguments

namespace CommandShape

def unlisted (shape : CommandShape) (name : String) : UsageStop :=
  if name = "help" then .help
  else if name = "version" ∧ shape.showsVersion then .version
  else .wrong

/-- An argument that is not a value: it starts with a hyphen and goes on. -/
def isOptionLike (argument : String) : Bool :=
  argument.startsWith "-" && 1 < argument.length

def named? (shape : CommandShape) (argument : List Char) :
    Except UsageStop (CommandOption × Option String) :=
  match argument with
  | '-' :: '-' :: long =>
      let name := String.ofList (long.takeWhile (· ≠ '='))
      let value := match long.drop name.length with
        | _ :: value => some (String.ofList value)
        | [] => none
      match shape.options.find? (fun option => option.name == name) with
      | some option => .ok (option, value)
      | none => .error (if value.isNone then shape.unlisted name else .wrong)
  | '-' :: letter :: rest =>
      match shape.options.find? (fun option => option.letter == some letter) with
      | some option =>
          .ok (option,
            match rest with
            | [] => none
            | '=' :: value => some (String.ofList value)
            | value => some (String.ofList value))
      | none =>
          .error (match letter with
            | 'h' => shape.unlisted "help"
            | 'V' => shape.unlisted "version"
            | _ => .wrong)
  | _ => .error .wrong

def readFrom (shape : CommandShape) (read : ReadArguments) (waiting : Option CommandOption) :
    List String → Except UsageStop ReadArguments
  | [] => if waiting.isSome then .error .wrong else .ok read
  | argument :: rest =>
      match waiting with
      | some option =>
          if isOptionLike argument then .error .wrong
          else do
            let read ← read.add option argument
            readFrom shape read none rest
      | none =>
          if argument = "--" then read.addAllPlain shape rest
          else if isOptionLike argument then do
            let (option, value) ← shape.named? argument.toList
            match option.kind, value with
            | .flag, none => do
                let read ← read.add option ""
                readFrom shape read none rest
            | .flag, some _ => .error .wrong
            | .text, some value | .path, some value => do
                let read ← read.add option value
                readFrom shape read none rest
            | .text, none | .path, none =>
                if read.has option.name && !option.repeatable then .error .wrong
                else readFrom shape read (some option) rest
          else if shape.commands.contains argument then
            .ok { read with command := some (argument, rest) }
          else do
            let read ← read.addPlain shape argument
            readFrom shape read none rest

def read (shape : CommandShape) (arguments : List String) : Except UsageStop ReadArguments :=
  shape.readFrom .none none arguments

end CommandShape

end PrivateComputation
