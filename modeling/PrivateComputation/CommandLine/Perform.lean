import PrivateComputation.Cloud.Format
import PrivateComputation.CommandLine.Request
import PrivateComputation.Config.Effective
import PrivateComputation.Containers.Local
import PrivateComputation.Json.Printer
import PrivateComputation.Repository.Directory
import PrivateComputation.Shell.Host
import PrivateComputation.Validation.Report
import PrivateComputation.Workflow.Interrupts
import PrivateComputation.Workflow.Session

/-!
Carrying out requests: what is written, the exit code, and the files that are left.
-/

namespace PrivateComputation

structure Workplace where
  files : FileTree
  hostConfig : Option String
  now : Instant
  runId : String
  containerIds : Nat → String

structure Outcome where
  exitCode : Nat
  output : String
  errors : String
  files : FileTree

namespace Workplace

/-! ## Parts -/

def projectConfig : String := ".pce/toolkit.toml"

def configFile? (place : Workplace) (path : String) : Option ConfigFile :=
  (place.files.entry? path).map (fun _ => ⟨path, place.files.read path⟩)

def effectiveConfig (place : Workplace) (config : Option String) (overrides : Option SortedJson) :
    Except ConfigFault EffectiveConfig :=
  EffectiveConfig.build place.now (place.hostConfig.bind place.configFile?)
    (place.configFile? (config.getD projectConfig)) overrides

def settings (place : Workplace) (config : Option String) (overrides : Option SortedJson) :
    Except ConfigFault Settings := do
  (← place.effectiveConfig config overrides).settings

def outcome (place : Workplace) (exitCode : Nat) (output errors : String) : Outcome :=
  ⟨exitCode, output, errors, place.files⟩

def say (place : Workplace) (exitCode : Nat) (lines : List String) : Outcome :=
  place.outcome exitCode (String.join (lines.map (· ++ "\n"))) ""

def fail (place : Workplace) (subject message : String) : Outcome :=
  place.outcome 1 "" (subject ++ message ++ "\n")

def failConfig (place : Workplace) (message : String) : Outcome :=
  place.fail "Configuration error: " message

def gateways (place : Workplace) (path : String) : GatewayResult Gateways :=
  match place.files.readText path with
  | .error .missing => .error (.notFound path)
  | .error fault => .error (.unreadable fault.message)
  | .ok text => (CloudInventory.ofText text).map (fun inventory => inventory.gateways [])

def failInventory (place : Workplace) (path : String) (fault : GatewayFault) : Outcome :=
  place.fail ("Error loading inventory " ++ path ++ ": ") fault.message

/-! ## Validation -/

def overrides (request : ValidateRequest) : SortedJson :=
  let text (value : Option String) : SortedJson := (value.map SortedJson.string).getD .null
  .object (.ofList
    [("role", text request.role), ("region", text request.region),
      ("skip_steps",
        if request.skippedSteps.isEmpty then .null else .strings request.skippedSteps)])

def reportLines (report : ValidationReport) (asJson : Bool) : List String :=
  if asJson then [report.toJson.pretty]
  else if report.duplicates.isEmpty then [Finding.summary report.findings]
  else report.duplicates.map DuplicateResource.text

def reportOn (place : Workplace) (settings : Settings) (gateways : Gateways) (id : String)
    (asJson : Bool) (duplicates : List DuplicateResource) : Outcome :=
  let finish (findings : List Finding) : Outcome :=
    let report : ValidationReport :=
      ⟨place.now, id, settings.region, settings.role, duplicates, settings.skipped, findings⟩
    place.say report.exitCode (reportLines report asJson)
  if duplicates.isEmpty then
    match ValidationSuite.withStandards settings.role settings.standards gateways with
    | .error fault => place.failConfig fault.message
    | .ok suite =>
        match suite.findings id settings.region settings.skipped with
        | .error fault => place.fail "Validation failed: " fault.message
        | .ok findings => finish findings
  else finish []

/-- The validation of an environment, once there are settings and cloud interfaces to ask. -/
def validateWith (place : Workplace) (settings : Settings) (gateways : Gateways) (id : String)
    (asJson : Bool) : Outcome :=
  match findDuplicates gateways id with
  | .error fault => place.fail "Duplicate check failed: " fault.message
  | .ok duplicates => place.reportOn settings gateways id asJson duplicates

def validate (place : Workplace) (config : Option String) (request : ValidateRequest) : Outcome :=
  match place.settings config (some (overrides request)) with
  | .error fault => place.failConfig fault.message
  | .ok settings =>
      match place.gateways request.inventory with
      | .error fault => place.failInventory request.inventory fault
      | .ok gateways =>
          place.validateWith settings gateways request.environmentId request.asJson

def duplicateLines (id : String) (asJson : Bool) (duplicates : List DuplicateResource) :
    List String :=
  if asJson then [(Json.array (duplicates.map DuplicateResource.toJson)).pretty]
  else if duplicates.isEmpty then ["No duplicate resources for PCE " ++ id]
  else duplicates.map DuplicateResource.text

def checkDuplicates (place : Workplace) (request : DuplicatesRequest) : Outcome :=
  match place.gateways request.inventory with
  | .error fault => place.failInventory request.inventory fault
  | .ok gateways =>
      match findDuplicates gateways request.environmentId with
      | .error fault => place.fail "Duplicate check failed: " fault.message
      | .ok duplicates =>
          place.say (if duplicates.isEmpty then 0 else 1)
            (duplicateLines request.environmentId request.asJson duplicates)

/-! ## Workflows -/

abbrev LocalSession := Session (LocalContainers Shell.Host) DirectoryRepository

inductive DriveEnd where
  | status (status : WorkflowStatus)
  /-- A second interrupt, or another signal that ends the program. -/
  | left (exitCode : Nat)
  | fault (fault : SessionFault)

def interrupts (service : LocalContainers Shell.Host) : Interrupts :=
  (service.host.signals.filter (· == Shell.interruptSignal)).foldl
    (fun interrupts _ => interrupts.receive.2) .none

def leavesWith? (service : LocalContainers Shell.Host) : Option Nat :=
  match service.host.signals.find? (· != Shell.interruptSignal) with
  | some signal => some (128 + signal)
  | none => if (interrupts service).exitRequested then some 130 else none

def isCancelRequested (_ : Nat) (service : LocalContainers Shell.Host) :
    Bool × LocalContainers Shell.Host :=
  ((interrupts service).cancelRequested, service)

def maxRounds : Nat := 1000000

def drive : Nat → LocalSession → DriveEnd × LocalSession
  | 0, session => (.left 1, session)
  | count + 1, session =>
      match leavesWith? session.service with
      | some exitCode => (.left exitCode, session)
      | none =>
          match (Session.rounds isCancelRequested 1).perform session with
          | (.ok (some status), session) => (.status status, session)
          | (.ok none, session) => drive count session
          | (.error fault, session) => (.fault fault, session)

def runToEnd (session : LocalSession) : DriveEnd × LocalSession :=
  match Session.start.perform session with
  | (.error fault, session) => (.fault fault, session)
  | (.ok (), session) => drive maxRounds session

def statusCode (status : WorkflowStatus) : Nat :=
  match status with
  | .completed => 0
  | .cancelled => 80
  | _ => 1

/-- The outcome of a run that was driven: what its containers wrote comes first. -/
def runOutcome (settings : Settings) (ending : DriveEnd) (session : LocalSession) : Outcome :=
  let host := session.service.close
  let files := host.files.withDirectory settings.workflow.stateDirectory
    session.repository.directory
  match ending with
  | .status status =>
      ⟨statusCode status, host.output ++ session.run.id ++ " " ++ status.name ++ "\n", host.errors,
        files⟩
  | .left exitCode => ⟨exitCode, host.output, host.errors, files⟩
  | .fault fault =>
      ⟨1, host.output, host.errors ++ "Workflow error: " ++ fault.message ++ "\n", files⟩

def loadWorkflow (place : Workplace) (path : String) : Except String Workflow := do
  let text ← (place.files.readText path).mapError FileFault.message
  (Workflow.ofText text).mapError DefinitionFault.message

def runWorkflow (place : Workplace) (settings : Settings) (request : RunRequest) : Outcome :=
  match place.loadWorkflow request.definition with
  | .error message =>
      place.fail ("Error loading workflow " ++ request.definition ++ ": ") message
  | .ok workflow =>
      let host := Shell.Host.fresh place.files (settings.workflow.pollInterval.toNat * 1000)
        place.containerIds
      let surroundings : Surroundings (LocalContainers Shell.Host) DirectoryRepository :=
        ⟨.fresh "sh" host, ⟨place.files.directory settings.workflow.stateDirectory⟩, place.now⟩
      match Session.begin (request.runId.getD place.runId) request.environmentId workflow
          settings.workflow.runner surroundings with
      | (.error fault, surroundings) =>
          let files := place.files.withDirectory settings.workflow.stateDirectory
            surroundings.repository.directory
          { place.fail "Error creating workflow instance: " fault.message with files }
      | (.ok session, _) =>
          let (ending, session) := runToEnd session
          runOutcome settings ending session

def workflowStatus (place : Workplace) (settings : Settings) (runId : String) : Outcome :=
  let repository : DirectoryRepository :=
    ⟨place.files.directory settings.workflow.stateDirectory⟩
  match repository.read runId with
  | .ok run => place.say 0 [run.toText]
  | .error fault => place.fail "" fault.message

/-! ## Requests -/

def withSettings (place : Workplace) (config : Option String) (go : Settings → Outcome) : Outcome :=
  match place.settings config none with
  | .error fault => place.failConfig fault.message
  | .ok settings => go settings

def showConfig (place : Workplace) (config : Option String) : Outcome :=
  match place.effectiveConfig config none with
  | .error fault => place.failConfig fault.message
  | .ok effective => place.say 0 [effective.toJson.pretty]

def perform (place : Workplace) (invocation : Invocation) : Outcome :=
  let config := invocation.config
  match invocation.request with
  | .validate request => place.validate config request
  | .checkDuplicates request => place.checkDuplicates request
  | .runWorkflow request => place.withSettings config (place.runWorkflow · request)
  | .workflowStatus runId => place.withSettings config (place.workflowStatus · runId)
  | .showConfig => place.showConfig config

def usage : String :=
  "Usage: pce-toolkit [OPTIONS] <validate|check-duplicates|workflow|config>\n"

def stopped (files : FileTree) (stop : UsageStop) : Outcome :=
  match stop with
  | .help => ⟨0, usage, "", files⟩
  | .version => ⟨0, "pce-toolkit 0.1.0\n", "", files⟩
  | .wrong => ⟨2, "", usage, files⟩

def performArguments (place : Workplace) (arguments : List String) : Outcome :=
  match Invocation.ofArguments arguments with
  | .ok invocation => place.perform invocation
  | .error stop => stopped place.files stop

end Workplace

end PrivateComputation
