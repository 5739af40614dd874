import PrivateComputation.Digest.Sha256
import PrivateComputation.Json.Printer
import PrivateComputation.Time.Instant
import PrivateComputation.Validation.Selection
import PrivateComputation.Validation.Suite

/-!
The report of a validation, and the whole validation of one environment.
-/

namespace PrivateComputation

structure ValidationReport where
  createdAt : Instant
  environmentId : String
  region : String
  role : ComputationRole
  duplicates : List DuplicateResource
  skipped : List ValidationStep
  findings : List Finding
  deriving DecidableEq

namespace ValidationReport

def schemaVersion : Nat := 1

def schemaId : String := "pce-toolkit/validation_report@1"

def digest (report : ValidationReport) : String :=
  Sha256.hexDigest (Json.array (report.findings.map Finding.toJson)).canonical.toUTF8.toList

/-- There are no duplicates and no finding is an error. -/
def passed (report : ValidationReport) : Bool :=
  report.duplicates.isEmpty && !report.findings.any Finding.isError

def exitCode (report : ValidationReport) : Nat := if report.passed then 0 else 1

def toJson (report : ValidationReport) : Json :=
  let skipped := report.skipped.map ValidationStep.name
  .object
    ([("schema_version", .ofNat schemaVersion), ("schema_id", .string schemaId),
        ("created_at", .string (toString report.createdAt)),
        ("pce_id", .string report.environmentId), ("region", .string report.region),
        ("role", .string report.role.name),
        ("duplicates", .array (report.duplicates.map DuplicateResource.toJson))] ++
      Json.optionalMember "skipped_steps"
        (if skipped.isEmpty then none else some (.strings skipped)) ++
      [("results", .array (report.findings.map Finding.toJson)),
        ("results_digest", .string report.digest), ("passed", .bool report.passed)])

end ValidationReport

namespace ValidationSuite

def findings (suite : ValidationSuite) (id region : String) (skipped : List ValidationStep) :
    GatewayResult (List Finding) := do
  let environment ← loadEnvironment suite.gateways id region
  suite.run environment skipped

/-- The report of an environment: its duplicates, or else the findings. -/
def report (suite : ValidationSuite) (createdAt : Instant) (id region : String)
    (skipped : List ValidationStep) : GatewayResult ValidationReport := do
  let duplicates ← findDuplicates suite.gateways id
  let findings ← if duplicates.isEmpty then suite.findings id region skipped else .ok []
  .ok ⟨createdAt, id, region, suite.role, duplicates, skipped, findings⟩

end ValidationSuite

end PrivateComputation
