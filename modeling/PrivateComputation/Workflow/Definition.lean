import PrivateComputation.Json.Decoder
import PrivateComputation.Json.Printer

/-!
Workflow definitions: named states, each of which launches containers and names the state after it.
-/

namespace PrivateComputation

structure StateDefinition where
  kind : String
  containerDefinition : String
  packageName : String
  arguments : List String
  /-- Seconds after which a container is stopped. -/
  timeout : Option UInt32
  next : Option String
  isEnd : Bool
  version : Option String
  retryCount : UInt32
  deriving DecidableEq

namespace StateDefinition

/-- The state that follows; an end state has none, whatever it names. -/
def successor (state : StateDefinition) : Option String :=
  if state.isEnd then none else state.next

def decoder : Decoder StateDefinition :=
  .record "OwdlState"
    [.required "Type" .string, .required "ContainerDefinition" .string,
      .required "PackageName" .string, .required "CmdArgsList" (.list .string),
      .optional "Timeout" .uint32, .optional "Next" .string, .withDefault "End" .bool false,
      .optional "Version" .string, .withDefault "RetryCount" .uint32 0]
    (fun (kind, definition, package, arguments, timeout, next, isEnd, version, retryCount, ()) =>
      ⟨kind, definition, package, arguments, timeout, next, isEnd, version, retryCount⟩)

def toJson (state : StateDefinition) : Json :=
  .object
    ([("Type", .string state.kind), ("ContainerDefinition", .string state.containerDefinition),
        ("PackageName", .string state.packageName), ("CmdArgsList", .strings state.arguments)] ++
      Json.optionalMember "Timeout" (state.timeout.map (fun seconds => .ofNat seconds.toNat)) ++
      Json.optionalMember "Next" (state.next.map .string) ++
      ("End", .bool state.isEnd) ::
      Json.optionalMember "Version" (state.version.map .string) ++
      [("RetryCount", .ofNat state.retryCount.toNat)])

end StateDefinition

structure Workflow where
  startsAt : String
  states : SortedMap StateDefinition
  version : Option String
  deriving DecidableEq

inductive DefinitionFault where
  | json (fault : JsonFault)
  | noStates
  | unknownStart (name : String)
  | unknownNext (state next : String)
  | dangling (state : String)
  | noArguments (state : String)
  | invalidName (state : String)
  deriving DecidableEq

def DefinitionFault.message : DefinitionFault → String
  | .json fault => "Workflow JSON is malformed: " ++ fault.message
  | .noStates => "Workflow has no states"
  | .unknownStart name => "StartsAt references unknown state '" ++ name ++ "'"
  | .unknownNext state next =>
      "State '" ++ state ++ "' has Next '" ++ next ++ "' which is not defined"
  | .dangling state => "State '" ++ state ++ "' neither sets End nor names a Next state"
  | .noArguments state => "State '" ++ state ++ "' has an empty CmdArgsList"
  | .invalidName state => "Invalid state name '" ++ state ++ "'"

/-- Names of states consist of ASCII letters and digits, underscores, dots and hyphens. -/
def isStateName (name : String) : Bool :=
  !name.toList.isEmpty &&
    name.toList.all (fun c => c.isAlphanum || c == '_' || c == '.' || c == '-')

namespace Workflow

def state? (workflow : Workflow) (name : String) : Option StateDefinition :=
  workflow.states.get? name

def stateFault? (workflow : Workflow) (name : String) (state : StateDefinition) :
    Option DefinitionFault :=
  if !isStateName name then some (.invalidName name)
  else if state.arguments.isEmpty then some (.noArguments name)
  else if state.isEnd then none
  else match state.next with
    | none => some (.dangling name)
    | some next => if workflow.states.contains next then none else some (.unknownNext name next)

/-- What is wrong with a workflow; states are looked at in the order of their names. -/
def fault? (workflow : Workflow) : Option DefinitionFault :=
  if workflow.states.isEmpty then some .noStates
  else if !workflow.states.contains workflow.startsAt then some (.unknownStart workflow.startsAt)
  else workflow.states.entries.findSome? (fun entry => workflow.stateFault? entry.1 entry.2)

def decoder : Decoder Workflow :=
  .record "OwdlWorkflow"
    [.required "StartsAt" .string, .required "States" (.sortedMap StateDefinition.decoder),
      .optional "Version" .string]
    (fun (startsAt, states, version, ()) => ⟨startsAt, states, version⟩)

def toJson (workflow : Workflow) : Json :=
  .object
    ([("StartsAt", .string workflow.startsAt),
        ("States",
          .object (workflow.states.entries.map (fun entry => (entry.1, entry.2.toJson))))] ++
      Json.optionalMember "Version" (workflow.version.map .string))

def ofText (text : String) : Except DefinitionFault Workflow :=
  match decoder.ofText text with
  | .error fault => .error (.json fault)
  | .ok workflow =>
      match workflow.fault? with
      | some fault => .error fault
      | none => .ok workflow

def toText (workflow : Workflow) : String := workflow.toJson.pretty

end Workflow

end PrivateComputation
