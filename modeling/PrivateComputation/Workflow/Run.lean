import PrivateComputation.Cloud.Format
import PrivateComputation.Workflow.Command

/-!
Runs of workflows: the history of state runs, each with its containers, and the status of the whole.
-/

namespace PrivateComputation

inductive WorkflowStatus where
  | created
  | started
  | failed
  | completed
  | cancelled
  deriving DecidableEq, Inhabited

namespace WorkflowStatus

def isTerminal : WorkflowStatus → Bool
  | .created => false
  | .started => false
  | .failed => true
  | .completed => true
  | .cancelled => true

def name : WorkflowStatus → String
  | .created => "CREATED"
  | .started => "STARTED"
  | .failed => "FAILED"
  | .completed => "COMPLETED"
  | .cancelled => "CANCELLED"

/-- The status of a state run with given containers: one failed container fails it, an unresolved
one keeps it going. Without containers it never ran. -/
def ofContainers (containers : List ContainerInstance) : WorkflowStatus :=
  if containers.isEmpty then .failed
  else if containers.any (fun container => container.status == .failed) then .failed
  else if containers.any (fun container => !container.status.isTerminal) then .started
  else .completed

theorem ofContainers_cases (containers : List ContainerInstance) :
    ofContainers containers = .failed ∨ ofContainers containers = .started ∨
      ofContainers containers = .completed := by
  unfold ofContainers
  split
  · exact .inl rfl
  · split
    · exact .inl rfl
    · split
      · exact .inr (.inl rfl)
      · exact .inr (.inr rfl)

theorem ofContainers_ne_cancelled (containers : List ContainerInstance) :
    ofContainers containers ≠ .cancelled := by
  rcases ofContainers_cases containers with failed | started | completed
  · simp [failed]
  · simp [started]
  · simp [completed]

section OfContainers

variable {containers : List ContainerInstance}

theorem ofContainers_ne_started
    (settled : ∀ container ∈ containers, container.status.isTerminal = true) :
    ofContainers containers ≠ .started := by
  have resolved : containers.any (fun container => !container.status.isTerminal) = false := by
    simpa using settled
  unfold ofContainers
  rw [resolved]
  split
  · simp
  · split <;> simp

theorem ofContainers_ne_failed (present : containers ≠ [])
    (unfailed : ∀ container ∈ containers, container.status ≠ .failed) :
    ofContainers containers ≠ .failed := by
  have none : containers.any (fun container => container.status == .failed) = false := by
    simpa using unfailed
  unfold ofContainers
  rw [if_neg (by simpa using present), none]
  split
  · contradiction
  · split <;> simp

theorem ofContainers_of_completed (present : containers ≠ [])
    (done : ∀ container ∈ containers, container.status = .completed) :
    ofContainers containers = .completed := by
  rcases ofContainers_cases containers with failed | started | completed
  · refine absurd failed (ofContainers_ne_failed present ?_)
    intro container member
    simp [done container member]
  · refine absurd started (ofContainers_ne_started ?_)
    intro container member
    rw [done container member]
    rfl
  · exact completed

end OfContainers

def decoder : Decoder WorkflowStatus :=
  .variant
    ⟨[("CREATED", .created), ("STARTED", .started), ("FAILED", .failed),
      ("COMPLETED", .completed), ("CANCELLED", .cancelled)], none⟩

end WorkflowStatus

structure StateRun where
  stateName : String
  definition : StateDefinition
  containers : List ContainerInstance
  status : WorkflowStatus
  /-- Zero for a first run, one more for every retry. -/
  retryNumber : UInt32
  startedAt : Instant
  deriving DecidableEq

namespace StateRun

def launched (stateName : String) (definition : StateDefinition)
    (containers : List ContainerInstance) (retryNumber : UInt32) (startedAt : Instant) :
    StateRun :=
  ⟨stateName, definition, containers, .ofContainers containers, retryNumber, startedAt⟩

def containerIds (run : StateRun) : List String := run.containers.map ContainerInstance.id

/-- The status follows the containers while the run is going on. -/
def refreshed (run : StateRun) : StateRun :=
  if run.status = .started then { run with status := .ofContainers run.containers } else run

def retriesExhausted (run : StateRun) : Bool :=
  run.status == .failed && run.definition.retryCount ≤ run.retryNumber

def decoder : Decoder StateRun :=
  .record "OwdlStateInstance"
    [.required "state_name" .string, .required "owdl_state" StateDefinition.decoder,
      .required "containers" (.list ContainerInstance.decoder),
      .required "status" WorkflowStatus.decoder, .required "retry_num" .uint32,
      .required "started_at" .instant]
    (fun (stateName, definition, containers, status, retryNumber, startedAt, ()) =>
      ⟨stateName, definition, containers, status, retryNumber, startedAt⟩)

def toJson (run : StateRun) : Json :=
  .object
    [("state_name", .string run.stateName), ("owdl_state", run.definition.toJson),
      ("containers", .array (run.containers.map ContainerInstance.toJson)),
      ("status", .string run.status.name), ("retry_num", .ofNat run.retryNumber.toNat),
      ("started_at", .string (toString run.startedAt))]

end StateRun

structure WorkflowRun where
  schemaVersion : UInt32
  schemaId : String
  id : String
  environmentId : String
  workflow : Workflow
  /-- All state runs, the current one last. -/
  history : List StateRun
  status : WorkflowStatus
  createdAt : Instant
  updatedAt : Instant
  deriving DecidableEq

namespace WorkflowRun

def fresh (id environmentId : String) (workflow : Workflow) (now : Instant) : WorkflowRun where
  schemaVersion := 1
  schemaId := "pce-toolkit/owdl_workflow_instance@1"
  id := id
  environmentId := environmentId
  workflow := workflow
  history := []
  status := .created
  createdAt := now
  updatedAt := now

def current? (run : WorkflowRun) : Option StateRun := run.history.getLast?

def withCurrent (run : WorkflowRun) (current : StateRun) : WorkflowRun :=
  { run with history := run.history.dropLast ++ [current] }

def decoder : Decoder WorkflowRun :=
  .record "OwdlWorkflowInstance"
    [.required "schema_version" .uint32, .required "schema_id" .string,
      .required "instance_id" .string, .required "pce_id" .string,
      .required "owdl_workflow" Workflow.decoder,
      .required "state_instances" (.list StateRun.decoder),
      .required "status" WorkflowStatus.decoder, .required "created_at" .instant,
      .required "updated_at" .instant]
    (fun (schemaVersion, schemaId, id, environmentId, workflow, history, status, createdAt,
        updatedAt, ()) =>
      ⟨schemaVersion, schemaId, id, environmentId, workflow, history, status, createdAt,
        updatedAt⟩)

def toJson (run : WorkflowRun) : Json :=
  .object
    [("schema_version", .ofNat run.schemaVersion.toNat), ("schema_id", .string run.schemaId),
      ("instance_id", .string run.id), ("pce_id", .string run.environmentId),
      ("owdl_workflow", run.workflow.toJson),
      ("state_instances", .array (run.history.map StateRun.toJson)),
      ("status", .string run.status.name), ("created_at", .string (toString run.createdAt)),
      ("updated_at", .string (toString run.updatedAt))]

def ofText (text : String) : Except JsonFault WorkflowRun := decoder.ofText text

def toText (run : WorkflowRun) : String := run.toJson.pretty

end WorkflowRun

end PrivateComputation
