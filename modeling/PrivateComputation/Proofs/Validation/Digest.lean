import Mathlib.Data.List.Forall2
import Mathlib.Data.Option.Basic
import PrivateComputation.Proofs.Json.Canonical
import PrivateComputation.Validation.Report

/-!
The digest of a report against the equality of its findings. The digested text tells findings apart
by their fields, the line of a finding only as long as no field holds the marks between the fields.
-/

namespace PrivateComputation

/-! ## The digested text -/

namespace Finding

theorem textual_toJson (finding : Finding) : finding.toJson.Textual := by
  obtain ⟨code, step, description, hint⟩ := finding
  refine .object ?_
  cases step <;> cases description <;> cases hint <;>
    simp [Json.optionalMember, Json.Textual.string]

theorem get?_toJson (finding : Finding) :
    finding.toJson.get? "code" = some (.string finding.code.name) ∧
      finding.toJson.get? "step_name" = finding.step.map .string ∧
      finding.toJson.get? "description" = finding.description.map .string ∧
      finding.toJson.get? "solution_hint" = finding.hint.map .string := by
  obtain ⟨code, step, description, hint⟩ := finding
  cases step <;> cases description <;> cases hint <;> exact ⟨rfl, rfl, rfl, rfl⟩

end Finding

theorem FindingCode.name_injective : Function.Injective FindingCode.name := by
  intro left right same
  cases left <;> cases right <;> first | rfl | exact absurd same (by decide)

theorem Json.map_string_injective : Function.Injective (Option.map Json.string) :=
  Option.map_injective (fun _ _ same => Json.string.inj same)

namespace Finding

theorem sortMembers_toJson_injective :
    Function.Injective (fun finding : Finding => finding.toJson.sortMembers) := by
  intro left right same
  have reads : ∀ name, (left.toJson.get? name).map Json.sortMembers =
      (right.toJson.get? name).map Json.sortMembers := by
    intro name
    rw [← Json.get?_sortMembers, ← Json.get?_sortMembers]
    exact congrArg (Json.get? name) same
  have strings : ∀ text : Option String,
      (text.map Json.string).map Json.sortMembers = text.map Json.string := by
    intro text
    cases text <;> rfl
  obtain ⟨code, step, description, hint⟩ := left.get?_toJson
  obtain ⟨code', step', description', hint'⟩ := right.get?_toJson
  have codes := reads "code"
  have steps := reads "step_name"
  have descriptions := reads "description"
  have hints := reads "solution_hint"
  rw [code, code'] at codes
  rw [step, step', strings, strings] at steps
  rw [description, description', strings, strings] at descriptions
  rw [hint, hint', strings, strings] at hints
  obtain ⟨_, _, _, _⟩ := left
  obtain ⟨_, _, _, _⟩ := right
  cases FindingCode.name_injective (Json.string.inj (Option.some.inj codes))
  cases Json.map_string_injective steps
  cases Json.map_string_injective descriptions
  cases Json.map_string_injective hints
  rfl

theorem canonical_findings_inj (left right : List Finding) :
    (Json.array (left.map toJson)).canonical = (Json.array (right.map toJson)).canonical ↔
      left = right := by
  have textual : ∀ findings : List Finding, (Json.array (findings.map toJson)).Textual := by
    intro findings
    refine .array (fun item listed => ?_)
    obtain ⟨finding, _, rfl⟩ := List.mem_map.mp listed
    exact finding.textual_toJson
  rw [(textual left).canonical_inj (textual right)]
  simp only [Json.sortMembers, Json.sortItems_eq, List.map_map, Json.array.injEq]
  exact sortMembers_toJson_injective.list_map.eq_iff

end Finding

/-! ## The line of a finding -/

/-- A mark behind a text is the first occurrence of the mark. -/
def MarksEnd (mark text : List Char) : Prop := ¬mark <:+: text ++ mark.dropLast

instance (mark text : List Char) : Decidable (MarksEnd mark text) :=
  inferInstanceAs (Decidable (¬mark <:+: text ++ mark.dropLast))

theorem MarksEnd.not_within {mark text : List Char} (ends : MarksEnd mark text) :
    ¬mark <:+: text :=
  fun inside => ends (inside.trans (List.prefix_append _ _).isInfix)

theorem MarksEnd.eq_nil {mark text more rest others : List Char}
    (ends : MarksEnd mark (text ++ more)) (same : mark ++ rest = more ++ (mark ++ others)) :
    more = [] := by
  by_contra going
  refine ends ?_
  have within : mark <+: more ++ mark.dropLast := by
    have whole : more ++ mark.dropLast <+: more ++ (mark ++ others) := by
      rw [List.prefix_append_right_inj]
      exact (List.dropLast_prefix mark).trans (List.prefix_append _ _)
    refine List.prefix_of_prefix_length_le (same ▸ List.prefix_append _ _) whole ?_
    have long := List.length_pos_iff.mpr going
    rw [List.length_append, List.length_dropLast]
    omega
  rw [List.append_assoc]
  exact within.isInfix.trans (List.suffix_append _ _).isInfix

theorem cancels_mark {mark left right rest others : List Char} (leftEnds : MarksEnd mark left)
    (rightEnds : MarksEnd mark right)
    (same : left ++ (mark ++ rest) = right ++ (mark ++ others)) : left = right ∧ rest = others := by
  rcases List.append_eq_append_iff.mp same with ⟨more, rfl, behind⟩ | ⟨more, rfl, behind⟩
  · cases rightEnds.eq_nil behind
    simpa using same
  · cases leftEnds.eq_nil behind
    simpa using same

namespace Finding

def around (before after : String) (text : Option String) : List Char :=
  match text with
  | some text => before.toList ++ text.toList ++ after.toList
  | none => []

theorem toList_line (finding : Finding) :
    finding.line.toList = finding.code.name.toList ++ (around " [" "]" finding.step ++
      (around ": " "" finding.description ++ around " (hint: " ")" finding.hint)) := by
  obtain ⟨code, step, description, hint⟩ := finding
  cases step <;> cases description <;> cases hint <;> simp [line, around]

/-- The marks behind the step and behind the description of a finding cannot be found earlier. -/
structure Unambiguous (finding : Finding) : Prop where
  step : ∀ text, finding.step = some text → MarksEnd "]".toList text.toList
  description : ∀ text, finding.description = some text →
    MarksEnd " (hint: ".toList text.toList

theorem cancels_codeName {left right : FindingCode} {rest others : List Char}
    (same : left.name.toList ++ rest = right.name.toList ++ others) :
    left = right ∧ rest = others := by
  cases left <;> cases right <;> simp_all [FindingCode.name]

theorem cancels_step {left right : Option String} {rest others : List Char}
    (leftEnds : ∀ text, left = some text → MarksEnd "]".toList text.toList)
    (rightEnds : ∀ text, right = some text → MarksEnd "]".toList text.toList)
    (restOpens : ¬" [".toList <+: rest) (othersOpen : ¬" [".toList <+: others)
    (same : around " [" "]" left ++ rest = around " [" "]" right ++ others) :
    left = right ∧ rest = others := by
  cases left with
  | none =>
      cases right with
      | none => exact ⟨rfl, same⟩
      | some text =>
          refine absurd ?_ restOpens
          simp only [around, List.nil_append, List.append_assoc] at same
          rw [same]
          exact List.prefix_append _ _
  | some text =>
      cases right with
      | none =>
          refine absurd ?_ othersOpen
          simp only [around, List.nil_append, List.append_assoc] at same
          rw [← same]
          exact List.prefix_append _ _
      | some other =>
          simp only [around, List.append_assoc, List.append_cancel_left_eq] at same
          obtain ⟨texts, final⟩ := cancels_mark (leftEnds text rfl) (rightEnds other rfl) same
          rw [String.toList_inj.mp texts]
          exact ⟨rfl, final⟩

def remark (description hint : Option String) : List Char :=
  around ": " "" description ++ around " (hint: " ")" hint

theorem remark_opens (description hint : Option String) :
    ¬" [".toList <+: remark description hint := by
  cases description <;> cases hint <;> simp [remark, around]

theorem hint_inj {left right : Option String}
    (same : around " (hint: " ")" left = around " (hint: " ")" right) : left = right := by
  cases left with
  | none =>
      cases right with
      | none => rfl
      | some other => simp [around] at same
  | some text =>
      cases right with
      | none => simp [around] at same
      | some other =>
          simp only [around, List.append_assoc, List.append_cancel_left_eq,
            List.append_cancel_right_eq] at same
          rw [String.toList_inj.mp same]

theorem remark_inj {description other hint otherHint : Option String}
    (ends : ∀ text, description = some text → MarksEnd " (hint: ".toList text.toList)
    (otherEnds : ∀ text, other = some text → MarksEnd " (hint: ".toList text.toList)
    (same : remark description hint = remark other otherHint) :
    description = other ∧ hint = otherHint := by
  cases description with
  | none =>
      cases other with
      | none => exact ⟨rfl, hint_inj same⟩
      | some other => cases hint <;> simp [remark, around] at same
  | some text =>
      cases other with
      | none => cases otherHint <;> simp [remark, around] at same
      | some other =>
          have bodies : text.toList ++ around " (hint: " ")" hint =
              other.toList ++ around " (hint: " ")" otherHint := by
            simpa [remark, around] using same
          cases hint with
          | none =>
              cases otherHint with
              | none => exact ⟨congrArg some (String.toList_inj.mp (by simpa [around] using bodies)), rfl⟩
              | some marked =>
                  refine absurd ?_ (ends text rfl).not_within
                  exact ⟨other.toList, marked.toList ++ ")".toList, by simpa [around] using bodies.symm⟩
          | some hint =>
              cases otherHint with
              | none =>
                  refine absurd ?_ (otherEnds other rfl).not_within
                  exact ⟨text.toList, hint.toList ++ ")".toList, by simpa [around] using bodies⟩
              | some marked =>
                  simp only [around, List.append_assoc] at bodies
                  obtain ⟨texts, hints⟩ := cancels_mark (ends text rfl) (otherEnds other rfl) bodies
                  have same := List.append_cancel_right hints
                  exact ⟨congrArg some (String.toList_inj.mp texts),
                    congrArg some (String.toList_inj.mp same)⟩

theorem eq_of_same {left right : Finding} (leftClear : left.Unambiguous)
    (rightClear : right.Unambiguous) (same : left.same right = true) : left = right := by
  have lines := congrArg String.toList (beq_iff_eq.mp same)
  rw [toList_line, toList_line] at lines
  obtain ⟨codes, behindCode⟩ := cancels_codeName lines
  obtain ⟨steps, remarks⟩ := cancels_step leftClear.step rightClear.step
    (remark_opens _ _) (remark_opens _ _) behindCode
  obtain ⟨descriptions, hints⟩ :=
    remark_inj leftClear.description rightClear.description remarks
  cases left
  cases right
  simp_all

theorem eq_of_forall₂_same {left right : List Finding}
    (alike : List.Forall₂ (fun one other => one.same other = true) left right)
    (clear : ∀ finding ∈ left ++ right, finding.Unambiguous) : left = right := by
  induction alike with
  | nil => rfl
  | @cons one other left right same _ ih =>
      have first : one = other :=
        eq_of_same (clear one (by simp)) (clear other (by simp)) same
      have rest : left = right := by
        refine ih (fun finding listed => clear finding ?_)
        rcases List.mem_append.mp listed with before | behind
        · exact List.mem_append_left _ (List.mem_cons_of_mem _ before)
        · exact List.mem_append_right _ (List.mem_cons_of_mem _ behind)
      rw [first, rest]

end Finding

/-- Findings are digested from the same text iff they are the same field by field, whatever else
stands in the reports. Findings with the same lines therefore have the same digest where the marks
between the fields of a line stand nowhere inside the fields. -/
theorem digest_of_same_lines (left right : ValidationReport) :
    ((Json.array (left.findings.map Finding.toJson)).canonical =
        (Json.array (right.findings.map Finding.toJson)).canonical ↔
      left.findings = right.findings) ∧
    (List.Forall₂ (fun one other => one.same other = true) left.findings right.findings →
      (∀ finding ∈ left.findings ++ right.findings, finding.Unambiguous) →
        left.findings = right.findings ∧ left.digest = right.digest) := by
  refine ⟨Finding.canonical_findings_inj left.findings right.findings, ?_⟩
  intro alike clear
  have equal := Finding.eq_of_forall₂_same alike clear
  exact ⟨equal, by rw [ValidationReport.digest, equal, ValidationReport.digest]⟩

def Finding.nearlyMarked : Finding :=
  ⟨.error, some "firewall", some "closed (hint", some "open it (hint: soon)"⟩

theorem digest_of_same_lines_of_nearly_marked :
    let left : ValidationReport :=
      ⟨.epoch, "left", "us-west-2", .partner, [], [.subnets], [.nearlyMarked]⟩
    let right : ValidationReport := ⟨.epoch, "right", "us-east-1", .publisher, [], [], [.nearlyMarked]⟩
    List.Forall₂ (fun one other => one.same other = true) left.findings right.findings ∧
      (∀ finding ∈ left.findings ++ right.findings, finding.Unambiguous) ∧
      left.digest = right.digest := by
  intro left right
  have alike : List.Forall₂ (fun one other => one.same other = true) left.findings
      right.findings := .cons (by decide +kernel) .nil
  have clear : Finding.nearlyMarked.Unambiguous := by
    refine ⟨?_, ?_⟩
    · rintro _ ⟨⟩
      decide +kernel
    · rintro _ ⟨⟩
      decide +kernel
  have allClear : ∀ finding ∈ left.findings ++ right.findings, finding.Unambiguous := by
    simp [left, right, clear]
  exact ⟨alike, allClear, ((digest_of_same_lines left right).2 alike allClear).2⟩

/-- A hint inside the description and the same hint beside it: the lines are the same, and the
digests are not. -/
theorem digest_differs_of_same_line :
    let inside : Finding := ⟨.error, some "firewall", some "closed (hint: open)", none⟩
    let beside : Finding := ⟨.error, some "firewall", some "closed", some "open"⟩
    let report (finding : Finding) : ValidationReport :=
      ⟨.epoch, "pce-1", "us-west-2", .partner, [], [], [finding]⟩
    inside.same beside = true ∧ (report inside).digest ≠ (report beside).digest := by
  decide +kernel

end PrivateComputation
