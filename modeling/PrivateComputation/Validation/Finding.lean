import PrivateComputation.Validation.Problem
import PrivateComputation.Validation.Step

/-!
What a validation step comes to: a verdict with the problems and remedies themselves, and the
finding that is reported of it, in words.
-/

namespace PrivateComputation

inductive Verdict where
  | passed
  | warned (problems : List Problem) (remedies : List Remedy)
  | failed (problems : List Problem) (remedies : List Remedy)
  deriving DecidableEq

inductive FindingCode where
  | success
  | error
  | warning
  deriving DecidableEq

def FindingCode.name : FindingCode → String
  | .success => "SUCCESS"
  | .error => "ERROR"
  | .warning => "WARNING"

def FindingCode.decoder : Decoder FindingCode :=
  .variant ⟨[("SUCCESS", .success), ("ERROR", .error), ("WARNING", .warning)], none⟩

structure Finding where
  code : FindingCode
  step : Option String
  description : Option String
  hint : Option String
  deriving DecidableEq

namespace Finding

def isSuccess (finding : Finding) : Bool := finding.code == .success

def isError (finding : Finding) : Bool := finding.code == .error

def isWarning (finding : Finding) : Bool := finding.code == .warning

def line (finding : Finding) : String :=
  let around (before after : String) (text : Option String) : String :=
    match text with
    | some text => before ++ text ++ after
    | none => ""
  finding.code.name ++ around " [" "]" finding.step ++ around ": " "" finding.description ++
    around " (hint: " ")" finding.hint

def same (left right : Finding) : Bool := left.line == right.line

def decoder : Decoder Finding :=
  .record "ValidationResult"
    [.required "code" FindingCode.decoder, .optional "step_name" .string,
      .optional "description" .string, .optional "solution_hint" .string]
    (fun (code, step, description, hint, ()) => ⟨code, step, description, hint⟩)

def toJson (finding : Finding) : Json :=
  .object
    (("code", .string finding.code.name) ::
      Json.optionalMember "step_name" (finding.step.map .string) ++
      Json.optionalMember "description" (finding.description.map .string) ++
      Json.optionalMember "solution_hint" (finding.hint.map .string))

def summary (findings : List Finding) : String :=
  let errors := findings.countP isError
  let warnings := findings.countP isWarning
  if errors = 0 ∧ warnings = 0 then "Validation passed: no issues found"
  else
    let heading :=
      "Validation found " ++ toString errors ++ " error(s) and " ++ toString warnings ++
        " warning(s):"
    let lines := (findings.filter (!·.isSuccess)).flatMap (fun finding =>
      let step := finding.step.getD "unknown"
      let description := finding.description.getD ""
      ("  " ++ finding.code.name ++ " [" ++ step ++ "]: " ++ description) ::
        (finding.hint.map (fun hint => "      hint: " ++ hint)).toList)
    "\n".intercalate (heading :: lines)

end Finding

def ValidationStep.separator : ValidationStep → String
  | .clusterDefinition => ","
  | _ => ";"

namespace Verdict

def code : Verdict → FindingCode
  | .passed => .success
  | .warned _ _ => .warning
  | .failed _ _ => .error

def problems : Verdict → List Problem
  | .passed => []
  | .warned problems _ => problems
  | .failed problems _ => problems

def remedies : Verdict → List Remedy
  | .passed => []
  | .warned _ remedies => remedies
  | .failed _ remedies => remedies

def joined (separator : String) (texts : List String) : Option String :=
  if texts.isEmpty then none else some (separator.intercalate texts)

def finding (verdict : Verdict) (step : ValidationStep) : Finding where
  code := verdict.code
  step := some step.name
  description := joined step.separator (verdict.problems.map Problem.text)
  hint := joined step.separator (verdict.remedies.map Remedy.text)

def ofProblems (failings : List Problem) (remedies : List Remedy) (warnings : List Problem) :
    Verdict :=
  if !failings.isEmpty then .failed failings remedies
  else if !warnings.isEmpty then .warned warnings []
  else .passed

end Verdict

end PrivateComputation
