import PrivateComputation.Proofs.Json.Decoding
import PrivateComputation.Proofs.Time.Reading
import PrivateComputation.Workflow.Run

/-!
Every run of a workflow is read back from the text that it is written as.
-/

namespace PrivateComputation

namespace Decoder

theorem inverts_instant : instant.Inverts (fun value => .string (toString value)) 0 := by
  intro context value room
  simp only [Tree.ofJson, instant, Instant.ofText_toString]

end Decoder

/-! ## Values without fractions -/

namespace Json

theorem Exact.uint32 (value : UInt32) : Exact (.ofNat value.toNat) := by
  have bound := value.toNat_lt
  exact .integer (exactInteger_natCast (by omega))

theorem Exact.int32 (value : Int32) : Exact (.ofInt value.toInt) := by
  have low := value.le_toInt
  have high := value.toInt_lt
  exact .integer ⟨by omega, by omega⟩

theorem Exact.map {α : Type} {write : α → Json} (exacts : ∀ value, Exact (write value))
    (values : List α) : Exact (.array (values.map write)) := by
  refine .array ?_
  intro item member
  obtain ⟨value, _, rfl⟩ := List.mem_map.mp member
  exact exacts value

theorem Exact.optionalMember {α : Type} {write : α → Json} (exacts : ∀ value, Exact (write value))
    (name : String) (value : Option α) :
    ∀ member ∈ Json.optionalMember name (value.map write), Exact member.2 := by
  cases value with
  | none => simp [Json.optionalMember]
  | some value => simpa [Json.optionalMember] using exacts value

end Json

/-! ## Containers -/

namespace ContainerInstance

theorem decoder_inverts : decoder.Inverts toJson 1 := by
  have status : ContainerStatus.decoder.Inverts (fun status => .string status.name) 0 := by
    refine Decoder.inverts_variant ?_
    intro status
    cases status <;> rfl
  refine Decoder.inverts_record (fun container =>
    (container.id, container.address, container.status, container.exitCode, ())) ?_ ?_ ?_
  · decide
  · intro container
    rfl
  · intro container
    refine .required Decoder.inverts_string (by omega) ?_
    refine .optional Decoder.inverts_string (by omega) (fun _ => rfl) ?_
    refine .required status (by omega) ?_
    exact .optionalLast Decoder.inverts_int32 (by omega) (fun _ => rfl)

theorem toJson_exact (container : ContainerInstance) : container.toJson.Exact := by
  refine .object ?_
  intro member found
  rcases List.mem_append.mp found with front | back
  · rcases List.mem_cons.mp front with rfl | address
    · exact .string _
    · exact Json.Exact.optionalMember .string _ _ member address
  · rcases List.mem_cons.mp back with rfl | exitCode
    · exact .string _
    · exact Json.Exact.optionalMember .int32 _ _ member exitCode

end ContainerInstance

/-! ## Definitions -/

namespace StateDefinition

theorem decoder_inverts : decoder.Inverts toJson 2 := by
  refine Decoder.inverts_record (fun state =>
    (state.kind, state.containerDefinition, state.packageName, state.arguments, state.timeout,
      state.next, state.isEnd, state.version, state.retryCount, ())) ?_ ?_ ?_
  · decide
  · intro state
    rfl
  · intro state
    simp only [List.append_assoc, List.cons_append, List.nil_append]
    refine .required Decoder.inverts_string (by omega) ?_
    refine .required Decoder.inverts_string (by omega) ?_
    refine .required Decoder.inverts_string (by omega) ?_
    refine .required (Decoder.inverts_list Decoder.inverts_string) (by omega) ?_
    refine .optional Decoder.inverts_uint32 (by omega) (fun _ => rfl) ?_
    refine .optional Decoder.inverts_string (by omega) (fun _ => rfl) ?_
    refine .withDefault Decoder.inverts_bool (by omega) ?_
    refine .optional Decoder.inverts_string (by omega) (fun _ => rfl) ?_
    exact .withDefault Decoder.inverts_uint32 (by omega) .nil

theorem toJson_exact (state : StateDefinition) : state.toJson.Exact := by
  have arguments : (Json.strings state.arguments).Exact := .map .string state.arguments
  have timeout := Json.Exact.optionalMember Json.Exact.uint32 "Timeout" state.timeout
  have next := Json.Exact.optionalMember Json.Exact.string "Next" state.next
  have version := Json.Exact.optionalMember Json.Exact.string "Version" state.version
  refine .object ?_
  intro member found
  simp only [List.mem_append, List.mem_cons, List.not_mem_nil, or_false] at found
  rcases found with ((((rfl | rfl | rfl | rfl) | found) | found) | rfl | found) | rfl
  · exact .string _
  · exact .string _
  · exact .string _
  · exact arguments
  · exact timeout member found
  · exact next member found
  · exact .bool _
  · exact version member found
  · exact .uint32 _

end StateDefinition

namespace Workflow

theorem decoder_inverts : decoder.Inverts toJson 4 := by
  refine Decoder.inverts_record (fun workflow =>
    (workflow.startsAt, workflow.states, workflow.version, ())) ?_ ?_ ?_
  · decide
  · intro workflow
    rfl
  · intro workflow
    refine .required Decoder.inverts_string (by omega) ?_
    refine .required (Decoder.inverts_sortedMap StateDefinition.decoder_inverts) (by omega) ?_
    exact .optionalLast Decoder.inverts_string (by omega) (fun _ => rfl)

theorem toJson_exact (workflow : Workflow) : workflow.toJson.Exact := by
  have states : (Json.object (workflow.states.entries.map
      (fun entry => (entry.1, entry.2.toJson)))).Exact := by
    refine .object ?_
    intro member found
    obtain ⟨entry, _, rfl⟩ := List.mem_map.mp found
    exact entry.2.toJson_exact
  have version := Json.Exact.optionalMember Json.Exact.string "Version" workflow.version
  refine .object ?_
  intro member found
  simp only [List.mem_append, List.mem_cons, List.not_mem_nil, or_false] at found
  rcases found with (rfl | rfl) | found
  · exact .string _
  · exact states
  · exact version member found

theorem read_toText (workflow : Workflow) : decoder.ofText workflow.toText = .ok workflow :=
  decoder_inverts.ofText_pretty (by omega) workflow.toJson_exact

/-- A workflow is accepted from its text if nothing is wrong with it. -/
theorem ofText_toText {workflow : Workflow} (sound : workflow.fault? = none) :
    ofText workflow.toText = .ok workflow := by
  simp only [ofText, read_toText, sound]

end Workflow

/-! ## Runs -/

theorem WorkflowStatus.decoder_inverts :
    WorkflowStatus.decoder.Inverts (fun status => .string status.name) 0 := by
  refine Decoder.inverts_variant ?_
  intro status
  cases status <;> rfl

namespace StateRun

theorem decoder_inverts : decoder.Inverts toJson 3 := by
  refine Decoder.inverts_record (fun run =>
    (run.stateName, run.definition, run.containers, run.status, run.retryNumber, run.startedAt,
      ())) ?_ ?_ ?_
  · decide
  · intro run
    rfl
  · intro run
    refine .required Decoder.inverts_string (by omega) ?_
    refine .required StateDefinition.decoder_inverts (by omega) ?_
    refine .required (Decoder.inverts_list ContainerInstance.decoder_inverts) (by omega) ?_
    refine .required WorkflowStatus.decoder_inverts (by omega) ?_
    refine .required Decoder.inverts_uint32 (by omega) ?_
    exact .required Decoder.inverts_instant (by omega) .nil

theorem toJson_exact (run : StateRun) : run.toJson.Exact := by
  have containers := Json.Exact.map ContainerInstance.toJson_exact run.containers
  refine .object ?_
  intro member found
  simp only [List.mem_cons, List.not_mem_nil, or_false] at found
  rcases found with rfl | rfl | rfl | rfl | rfl | rfl
  · exact .string _
  · exact run.definition.toJson_exact
  · exact containers
  · exact .string _
  · exact .uint32 _
  · exact .string _

end StateRun

namespace WorkflowRun

theorem decoder_inverts : decoder.Inverts toJson 5 := by
  refine Decoder.inverts_record (fun run =>
    (run.schemaVersion, run.schemaId, run.id, run.environmentId, run.workflow, run.history,
      run.status, run.createdAt, run.updatedAt, ())) ?_ ?_ ?_
  · decide
  · intro run
    rfl
  · intro run
    refine .required Decoder.inverts_uint32 (by omega) ?_
    refine .required Decoder.inverts_string (by omega) ?_
    refine .required Decoder.inverts_string (by omega) ?_
    refine .required Decoder.inverts_string (by omega) ?_
    refine .required Workflow.decoder_inverts (by omega) ?_
    refine .required (Decoder.inverts_list StateRun.decoder_inverts) (by omega) ?_
    refine .required WorkflowStatus.decoder_inverts (by omega) ?_
    refine .required Decoder.inverts_instant (by omega) ?_
    exact .required Decoder.inverts_instant (by omega) .nil

theorem toJson_exact (run : WorkflowRun) : run.toJson.Exact := by
  have history := Json.Exact.map StateRun.toJson_exact run.history
  refine .object ?_
  intro member found
  simp only [List.mem_cons, List.not_mem_nil, or_false] at found
  rcases found with rfl | rfl | rfl | rfl | rfl | rfl | rfl | rfl | rfl
  · exact .uint32 _
  · exact .string _
  · exact .string _
  · exact .string _
  · exact run.workflow.toJson_exact
  · exact history
  · exact .string _
  · exact .string _
  · exact .string _

/-- Every run is read back from its text. -/
theorem ofText_toText (run : WorkflowRun) : ofText run.toText = .ok run :=
  decoder_inverts.ofText_pretty (by omega) run.toJson_exact

end WorkflowRun

/-- The text of a run gives the whole run back, whatever its workflow, its history and its strings
are, so no two runs have one text. -/
theorem persisted_run_recovered (run : WorkflowRun) :
    WorkflowRun.ofText run.toText = .ok run ∧
      ∀ other : WorkflowRun, other.toText = run.toText → other = run := by
  refine ⟨WorkflowRun.ofText_toText run, ?_⟩
  intro other same
  have back := WorkflowRun.ofText_toText other
  rw [same, WorkflowRun.ofText_toText run] at back
  exact (Except.ok.inj back).symm

end PrivateComputation
