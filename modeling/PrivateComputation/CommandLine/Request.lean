import PrivateComputation.CommandLine.Options

/-!
The commands of the program and the requests that arguments stand for.
-/

namespace PrivateComputation

structure ValidateRequest where
  environmentId : String
  inventory : String
  role : Option String
  region : Option String
  skippedSteps : List String
  asJson : Bool
  deriving DecidableEq

structure DuplicatesRequest where
  environmentId : String
  inventory : String
  asJson : Bool
  deriving DecidableEq

structure RunRequest where
  definition : String
  runId : Option String
  environmentId : String
  deriving DecidableEq

inductive Request where
  | validate (request : ValidateRequest)
  | checkDuplicates (request : DuplicatesRequest)
  | runWorkflow (request : RunRequest)
  | workflowStatus (runId : String)
  | showConfig
  deriving DecidableEq

structure Invocation where
  config : Option String
  request : Request
  deriving DecidableEq

namespace Invocation

def globalOptions : List CommandOption :=
  [⟨"config", some 'c', .path, false⟩, ⟨"log-json", none, .flag, false⟩]

def inventoryOptions : List CommandOption :=
  [⟨"pce-id", none, .text, false⟩, ⟨"inventory", some 'i', .path, false⟩,
    ⟨"json", none, .flag, false⟩]

def programShape : CommandShape :=
  ⟨globalOptions, 0, ["validate", "check-duplicates", "workflow", "config", "help"], true⟩

def validateShape : CommandShape :=
  ⟨globalOptions ++ inventoryOptions ++
    [⟨"role", none, .text, false⟩, ⟨"region", none, .text, false⟩,
      ⟨"skip-step", none, .text, true⟩], 0, [], false⟩

def duplicatesShape : CommandShape := ⟨globalOptions ++ inventoryOptions, 0, [], false⟩

def workflowShape : CommandShape := ⟨globalOptions, 0, ["run", "status", "help"], false⟩

def runShape : CommandShape :=
  ⟨globalOptions ++
    [⟨"definition", some 'd', .path, false⟩, ⟨"instance-id", none, .text, false⟩,
      ⟨"pce-id", none, .text, false⟩], 0, [], false⟩

def statusShape : CommandShape := ⟨globalOptions, 1, [], false⟩

def configShape : CommandShape := ⟨globalOptions, 0, [], false⟩

def commandsBelow : List String → Option (List String)
  | [] => some programShape.commands
  | ["workflow"] => some workflowShape.commands
  | ["validate"] | ["check-duplicates"] | ["config"] | ["help"] | ["workflow", "run"]
  | ["workflow", "status"] | ["workflow", "help"] => some []
  | _ => none

def helpOn (path names : List String) : UsageStop :=
  if (commandsBelow (path ++ names)).isSome then .help else .wrong

def required (read : ReadArguments) (name : String) : Except UsageStop String :=
  match read.value? name with
  | some value => .ok value
  | none => .error .wrong

/-- The configuration that the innermost command names wins. -/
def innermost (levels : List ReadArguments) : Option String :=
  (levels.filterMap (·.value? "config")).getLast?

def readValidate (outer : List ReadArguments) (arguments : List String) :
    Except UsageStop Invocation := do
  let read ← validateShape.read arguments
  let environmentId ← required read "pce-id"
  let inventory ← required read "inventory"
  .ok ⟨innermost (outer ++ [read]),
    .validate ⟨environmentId, inventory, read.value? "role", read.value? "region",
      read.values "skip-step", read.has "json"⟩⟩

def readDuplicates (outer : List ReadArguments) (arguments : List String) :
    Except UsageStop Invocation := do
  let read ← duplicatesShape.read arguments
  let environmentId ← required read "pce-id"
  let inventory ← required read "inventory"
  .ok ⟨innermost (outer ++ [read]),
    .checkDuplicates ⟨environmentId, inventory, read.has "json"⟩⟩

def readRun (outer : List ReadArguments) (arguments : List String) :
    Except UsageStop Invocation := do
  let read ← runShape.read arguments
  let definition ← required read "definition"
  .ok ⟨innermost (outer ++ [read]),
    .runWorkflow
      ⟨definition, read.value? "instance-id", (read.value? "pce-id").getD "local"⟩⟩

def readStatus (outer : List ReadArguments) (arguments : List String) :
    Except UsageStop Invocation := do
  let read ← statusShape.read arguments
  match read.plain with
  | [runId] => .ok ⟨innermost (outer ++ [read]), .workflowStatus runId⟩
  | _ => .error .wrong

def readWorkflow (outer : List ReadArguments) (arguments : List String) :
    Except UsageStop Invocation := do
  let read ← workflowShape.read arguments
  let levels := outer ++ [read]
  match read.command with
  | some ("run", arguments) => readRun levels arguments
  | some ("status", arguments) => readStatus levels arguments
  | some ("help", names) => .error (helpOn ["workflow"] names)
  | _ => .error .wrong

def readConfig (outer : List ReadArguments) (arguments : List String) :
    Except UsageStop Invocation := do
  let read ← configShape.read arguments
  .ok ⟨innermost (outer ++ [read]), .showConfig⟩

def ofArguments (arguments : List String) : Except UsageStop Invocation := do
  let read ← programShape.read arguments
  match read.command with
  | some ("validate", arguments) => readValidate [read] arguments
  | some ("check-duplicates", arguments) => readDuplicates [read] arguments
  | some ("workflow", arguments) => readWorkflow [read] arguments
  | some ("config", arguments) => readConfig [read] arguments
  | some ("help", names) => .error (helpOn [] names)
  | _ => .error .wrong

end Invocation

end PrivateComputation
