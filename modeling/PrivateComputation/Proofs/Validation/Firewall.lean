import PrivateComputation.Proofs.Cloud.AddressBlock
import PrivateComputation.Proofs.Places
import PrivateComputation.Proofs.Validation.Questions

/-!
What is found out about a firewall: which code it comes to, and which problems and remedies are
reported, each at the place of the route, the ruleset and the rule that it comes from.
-/

namespace PrivateComputation

/-! ## Routes and rules -/

def Route.LeadsToPeer (route : Route) : Prop := route.target.kind = .vpcPeering

namespace FirewallRule

/-- A rule meets a route if both are readable and share an address. -/
def Meets (rule : FirewallRule) (route : Route) : Prop :=
  ∃ peer admitted, AddressBlock.ofText route.destination = .ok peer ∧
    AddressBlock.ofText rule.cidr = .ok admitted ∧ ∃ address, address ∈ peer ∧ address ∈ admitted

def BlocksBand (standards : Standards) (rule : FirewallRule) : Prop :=
  standards.firewallFromPort < rule.fromPort ∨ rule.toPort < standards.firewallToPort

def ExceedsBand (standards : Standards) (rule : FirewallRule) : Prop :=
  rule.fromPort < standards.firewallFromPort ∨ standards.firewallToPort < rule.toPort

end FirewallRule

def ingressRules (rulesets : List FirewallRuleset) : List FirewallRule :=
  rulesets.flatMap FirewallRuleset.ingress

section Checks

variable {standards : Standards} {rulesets : List FirewallRuleset} {ruleset : FirewallRuleset}
  {rule : FirewallRule} {route : Route}

theorem Route.isPeering_iff : route.isPeering = true ↔ route.LeadsToPeer := by
  rw [isPeering, beq_iff_eq, LeadsToPeer]

theorem ruleMeetsRoute_iff : ruleMeetsRoute rule route = true ↔ rule.Meets route := by
  rw [ruleMeetsRoute, FirewallRule.Meets]
  cases AddressBlock.ofText route.destination with
  | error fault => simp
  | ok peer =>
      cases AddressBlock.ofText rule.cidr with
      | error fault => simp
      | ok admitted => simp [AddressBlock.overlaps_iff]

theorem isTooNarrow_portRange_iff :
    (portRange standards ruleset rule).isTooNarrow = true ↔ rule.BlocksBand standards := by
  simp only [PortRange.isTooNarrow, Bool.or_eq_true, decide_eq_true_eq]
  rfl

theorem isTooWide_portRange_iff :
    (portRange standards ruleset rule).isTooWide = true ↔ rule.ExceedsBand standards := by
  simp only [PortRange.isTooWide, Bool.or_eq_true, decide_eq_true_eq]
  rfl

theorem isEmpty_meetingRanges_iff :
    (meetingRanges standards rulesets route).isEmpty = true ↔
      ∀ rule ∈ ingressRules rulesets, ¬ rule.Meets route := by
  simp only [List.isEmpty_iff, meetingRanges, List.flatMap_eq_nil_iff, List.map_eq_nil_iff,
    List.filter_eq_nil_iff, ruleMeetsRoute_iff, ingressRules, List.mem_flatMap]
  constructor
  · rintro unmet rule ⟨ruleset, inRulesets, inRuleset⟩
    exact unmet ruleset inRulesets rule inRuleset
  · intro unmet ruleset inRulesets rule inRuleset
    exact unmet rule ⟨ruleset, inRulesets, inRuleset⟩

end Checks

/-! ## Reasons at their places -/

section Places

variable (standards : Standards) (vpc : Vpc) (routes : List Route)
  (rulesets : List FirewallRuleset)

/-- A route to a peer and a rule of a ruleset that meets it. The place is that of the route, of the
ruleset and of the rule in it. -/
inductive Encounter : List Nat → Route → FirewallRuleset → FirewallRule → Prop
  | intro {i j k : Nat} {route : Route} {ruleset : FirewallRuleset} {rule : FirewallRule}
      (routeAt : routes[i]? = some route) (toPeer : route.LeadsToPeer)
      (rulesetAt : rulesets[j]? = some ruleset) (ruleAt : ruleset.ingress[k]? = some rule)
      (meets : rule.Meets route) : Encounter [i, j, k] route ruleset rule

/-- Why a firewall fails, and what can be done about it. That no rule meets a route is found out
behind the last ruleset. -/
inductive Failing : List Nat → Problem × Remedy → Prop
  | blocked {place : List Nat} {route : Route} {ruleset : FirewallRuleset} {rule : FirewallRule}
      (met : Encounter routes rulesets place route ruleset rule)
      (blocks : rule.BlocksBand standards) :
      Failing place (.portsTooNarrow (portRange standards ruleset rule),
        .setPorts (portRange standards ruleset rule))
  | unmet {i : Nat} {route : Route} (routeAt : routes[i]? = some route)
      (toPeer : route.LeadsToPeer)
      (none : ∀ rule ∈ ingressRules rulesets, ¬ rule.Meets route) :
      Failing [i, rulesets.length] (.peerNotAdmitted route.destination vpc.id,
        .addIngress route.destination standards.firewallFromPort standards.firewallToPort)

inductive Warning : List Nat → Problem → Prop
  | exceeded {place : List Nat} {route : Route} {ruleset : FirewallRuleset} {rule : FirewallRule}
      (met : Encounter routes rulesets place route ruleset rule)
      (isOpen : ¬ rule.BlocksBand standards) (exceeds : rule.ExceedsBand standards) :
      Warning place (.portsTooWide (portRange standards ruleset rule))

end Places

section Gathering

variable {standards : Standards} {vpc : Vpc} {routes : List Route}
  {rulesets : List FirewallRuleset}

theorem map_filter_eq_flatMap {α β : Type} (selects : α → Bool) (change : α → β) (items : List α) :
    (items.filter selects).map change =
      items.flatMap (fun item => if selects item = true then [change item] else []) := by
  induction items with
  | nil => rfl
  | cons item rest ih =>
      rw [List.flatMap_cons, ← ih, List.filter_cons]
      split <;> rfl

theorem flatMap_filter_eq {α β : Type} (selects : α → Bool) (gather : α → List β)
    (items : List α) :
    (items.filter selects).flatMap gather =
      items.flatMap (fun item => if selects item = true then gather item else []) := by
  induction items with
  | nil => rfl
  | cons item rest ih =>
      rw [List.flatMap_cons, ← ih, List.filter_cons]
      split <;> rfl

theorem gathered_meetingRanges {α : Type} (standards : Standards) (rulesets : List FirewallRuleset)
    (selects : PortRange → Bool) (change : PortRange → α) (route : Route) :
    Gathered
      (fun place item => ∃ j ruleset k rule, place = [j, k] ∧ rulesets[j]? = some ruleset ∧
        ruleset.ingress[k]? = some rule ∧ rule.Meets route ∧
        selects (portRange standards ruleset rule) = true ∧
        item = change (portRange standards ruleset rule))
      (((meetingRanges standards rulesets route).filter selects).map change) := by
  -- Both filters go inside, so that each rule of each ruleset says something or nothing.
  have nested : ((meetingRanges standards rulesets route).filter selects).map change =
      rulesets.flatMap (fun ruleset => ruleset.ingress.flatMap (fun rule =>
        if (ruleMeetsRoute rule route && selects (portRange standards ruleset rule)) = true then
          [change (portRange standards ruleset rule)] else [])) := by
    simp only [meetingRanges, List.filter_flatMap, List.map_flatMap, List.filter_map,
      List.filter_filter, List.map_map, ← map_filter_eq_flatMap, Bool.and_comm]
    rfl
  rw [nested]
  have each := fun ruleset : FirewallRuleset => Gathered.flatMap
    (fun rule => (Gathered.singleton [] (change (portRange standards ruleset rule))).guarded
      ((ruleMeetsRoute rule route && selects (portRange standards ruleset rule)) = true))
    ruleset.ingress
  refine (Gathered.flatMap each rulesets).congr ?_
  intro place item
  simp only [Bool.and_eq_true, ruleMeetsRoute_iff]
  constructor
  · rintro ⟨j, ruleset, _, rfl, rulesetAt, k, rule, _, rfl, ruleAt, ⟨meets, selected⟩, rfl, rfl⟩
    exact ⟨j, ruleset, k, rule, rfl, rulesetAt, ruleAt, meets, selected, rfl⟩
  · rintro ⟨j, ruleset, k, rule, rfl, rulesetAt, ruleAt, meets, selected, rfl⟩
    exact ⟨j, ruleset, [k], rfl, rulesetAt, k, rule, [], rfl, ruleAt, ⟨meets, selected⟩, rfl, rfl⟩

theorem gathered_failings :
    Gathered (Failing standards vpc routes rulesets)
      ((routes.filter Route.isPeering).flatMap (routeFailings standards vpc rulesets)) := by
  rw [flatMap_filter_eq]
  have each : ∀ route : Route, Gathered
      (fun place item =>
        (∃ j ruleset k rule, place = [j, k] ∧ rulesets[j]? = some ruleset ∧
          ruleset.ingress[k]? = some rule ∧ rule.Meets route ∧
          (portRange standards ruleset rule).isTooNarrow = true ∧
          item = (.portsTooNarrow (portRange standards ruleset rule),
            .setPorts (portRange standards ruleset rule))) ∨
        (meetingRanges standards rulesets route).isEmpty = true ∧ place = [rulesets.length] ∧
          item = (.peerNotAdmitted route.destination vpc.id,
            .addIngress route.destination standards.firewallFromPort standards.firewallToPort))
      (routeFailings standards vpc rulesets route) := by
    intro route
    refine (gathered_meetingRanges standards rulesets _ _ route).append
      ((Gathered.singleton [rulesets.length] _).guarded _) ?_
    rintro _ _ _ _ ⟨j, ruleset, k, rule, rfl, rulesetAt, -⟩ ⟨-, rfl, -⟩
    obtain ⟨bound, -⟩ := List.getElem?_eq_some_iff.mp rulesetAt
    exact List.cons_lt_cons_iff.mpr (.inl bound)
  refine (Gathered.flatMap (fun route => (each route).guarded (route.isPeering = true))
    routes).congr ?_
  intro place item
  simp only [Route.isPeering_iff, isEmpty_meetingRanges_iff, isTooNarrow_portRange_iff]
  constructor
  · rintro ⟨i, route, _, rfl, routeAt, toPeer, reason⟩
    rcases reason with ⟨j, ruleset, k, rule, rfl, rulesetAt, ruleAt, meets, blocks, rfl⟩ |
      ⟨none, rfl, rfl⟩
    · exact .blocked (.intro routeAt toPeer rulesetAt ruleAt meets) blocks
    · exact .unmet routeAt toPeer none
  · rintro (⟨⟨routeAt, toPeer, rulesetAt, ruleAt, meets⟩, blocks⟩ | ⟨routeAt, toPeer, none⟩)
    · exact ⟨_, _, _, rfl, routeAt, toPeer,
        .inl ⟨_, _, _, _, rfl, rulesetAt, ruleAt, meets, blocks, rfl⟩⟩
    · exact ⟨_, _, _, rfl, routeAt, toPeer, .inr ⟨none, rfl, rfl⟩⟩

theorem gathered_warnings :
    Gathered (Warning standards routes rulesets)
      ((routes.filter Route.isPeering).flatMap (routeWarnings standards rulesets)) := by
  rw [flatMap_filter_eq]
  have each := fun route : Route =>
    (gathered_meetingRanges standards rulesets
      (fun range => !range.isTooNarrow && range.isTooWide) Problem.portsTooWide route).guarded
        (route.isPeering = true)
  refine (Gathered.flatMap each routes).congr ?_
  intro place item
  simp only [Route.isPeering_iff, Bool.and_eq_true, Bool.not_eq_true', ← Bool.not_eq_true,
    isTooNarrow_portRange_iff, isTooWide_portRange_iff]
  constructor
  · rintro ⟨i, route, _, rfl, routeAt, toPeer, j, ruleset, k, rule, rfl, rulesetAt, ruleAt, meets,
      ⟨isOpen, exceeds⟩, rfl⟩
    exact .exceeded (.intro routeAt toPeer rulesetAt ruleAt meets) isOpen exceeds
  · rintro ⟨⟨routeAt, toPeer, rulesetAt, ruleAt, meets⟩, isOpen, exceeds⟩
    exact ⟨_, _, _, rfl, routeAt, toPeer, _, _, _, _, rfl, rulesetAt, ruleAt, meets,
      ⟨isOpen, exceeds⟩, rfl⟩

end Gathering

/-! ## Codes -/

section Codes

variable (standards : Standards) (routes : List Route) (rulesets : List FirewallRuleset)

/-- A route to a peer is met by no rule, or by one that does not open the band of ports. -/
def PeerBlocked : Prop :=
  ∃ route ∈ routes, route.LeadsToPeer ∧
    ((∀ rule ∈ ingressRules rulesets, ¬ rule.Meets route) ∨
      ∃ rule ∈ ingressRules rulesets, rule.Meets route ∧ rule.BlocksBand standards)

def BandExceeded : Prop :=
  ∃ route ∈ routes, route.LeadsToPeer ∧
    ∃ rule ∈ ingressRules rulesets, rule.Meets route ∧ rule.ExceedsBand standards

variable {standards routes rulesets} {vpc : Vpc}

theorem Encounter.exists_of_mem {route : Route} {ruleset : FirewallRuleset} {rule : FirewallRule}
    (inRoutes : route ∈ routes) (toPeer : route.LeadsToPeer) (inRulesets : ruleset ∈ rulesets)
    (inRuleset : rule ∈ ruleset.ingress) (meets : rule.Meets route) :
    ∃ place, Encounter routes rulesets place route ruleset rule := by
  obtain ⟨i, routeAt⟩ := List.mem_iff_getElem?.mp inRoutes
  obtain ⟨j, rulesetAt⟩ := List.mem_iff_getElem?.mp inRulesets
  obtain ⟨k, ruleAt⟩ := List.mem_iff_getElem?.mp inRuleset
  exact ⟨[i, j, k], .intro routeAt toPeer rulesetAt ruleAt meets⟩

theorem exists_encounter_iff {route : Route} {rule : FirewallRule} :
    (∃ place ruleset, Encounter routes rulesets place route ruleset rule) ↔
      route ∈ routes ∧ route.LeadsToPeer ∧ rule ∈ ingressRules rulesets ∧ rule.Meets route := by
  constructor
  · rintro ⟨_, ruleset, routeAt, toPeer, rulesetAt, ruleAt, meets⟩
    exact ⟨List.mem_of_getElem? routeAt, toPeer,
      List.mem_flatMap.mpr ⟨ruleset, List.mem_of_getElem? rulesetAt, List.mem_of_getElem? ruleAt⟩,
      meets⟩
  · rintro ⟨inRoutes, toPeer, inRules, meets⟩
    obtain ⟨ruleset, inRulesets, inRuleset⟩ := List.mem_flatMap.mp inRules
    obtain ⟨place, met⟩ := Encounter.exists_of_mem inRoutes toPeer inRulesets inRuleset meets
    exact ⟨place, ruleset, met⟩

theorem exists_failing_iff :
    (∃ place reason, Failing standards vpc routes rulesets place reason) ↔
      PeerBlocked standards routes rulesets := by
  constructor
  · rintro ⟨_, _, (⟨met, blocks⟩ | ⟨routeAt, toPeer, none⟩)⟩
    · obtain ⟨inRoutes, toPeer, inRules, meets⟩ := exists_encounter_iff.mp ⟨_, _, met⟩
      exact ⟨_, inRoutes, toPeer, .inr ⟨_, inRules, meets, blocks⟩⟩
    · exact ⟨_, List.mem_of_getElem? routeAt, toPeer, .inl none⟩
  · rintro ⟨route, inRoutes, toPeer, none | ⟨rule, inRules, meets, blocks⟩⟩
    · obtain ⟨i, routeAt⟩ := List.mem_iff_getElem?.mp inRoutes
      exact ⟨_, _, .unmet routeAt toPeer none⟩
    · obtain ⟨place, ruleset, met⟩ := exists_encounter_iff.mpr ⟨inRoutes, toPeer, inRules, meets⟩
      exact ⟨_, _, .blocked met blocks⟩

theorem exists_warning_iff (isOpen : ¬ PeerBlocked standards routes rulesets) :
    (∃ place problem, Warning standards routes rulesets place problem) ↔
      BandExceeded standards routes rulesets := by
  constructor
  · rintro ⟨_, _, met, -, exceeds⟩
    obtain ⟨inRoutes, toPeer, inRules, meets⟩ := exists_encounter_iff.mp ⟨_, _, met⟩
    exact ⟨_, inRoutes, toPeer, _, inRules, meets, exceeds⟩
  · rintro ⟨route, inRoutes, toPeer, rule, inRules, meets, exceeds⟩
    obtain ⟨place, ruleset, met⟩ := exists_encounter_iff.mpr ⟨inRoutes, toPeer, inRules, meets⟩
    have admits : ¬ rule.BlocksBand standards :=
      fun blocks => isOpen ⟨route, inRoutes, toPeer, .inr ⟨rule, inRules, meets, blocks⟩⟩
    exact ⟨_, _, .exceeded met admits exceeds⟩

end Codes

/-! ## The step -/

structure Environment.HasFirewall (environment : Environment) (vpc : Vpc) (table : RouteTable) :
    Prop where
  present : environment.network.vpc = some vpc
  cidr : vpc.cidr ≠ ""
  rulesets : environment.network.firewallRulesets ≠ []
  routeTable : environment.network.routeTable = some table

structure FirewallReport (standards : Standards) (vpc : Vpc) (routes : List Route)
    (rulesets : List FirewallRuleset) (finding : Finding) : Prop where
  error_iff : finding.code = .error ↔ PeerBlocked standards routes rulesets
  warning_iff : finding.code = .warning ↔
    ¬ PeerBlocked standards routes rulesets ∧ BandExceeded standards routes rulesets
  errors : finding.code = .error → ∃ reasons,
    Gathered (Failing standards vpc routes rulesets) reasons ∧
    finding.description = some (";".intercalate (reasons.map (fun reason => reason.1.text))) ∧
    finding.hint = some (";".intercalate (reasons.map (fun reason => reason.2.text)))
  warnings : finding.code = .warning → ∃ problems,
    Gathered (Warning standards routes rulesets) problems ∧
    finding.description = some (";".intercalate (problems.map Problem.text)) ∧
    finding.hint = none
  success : finding.code = .success → finding.description = none ∧ finding.hint = none

namespace Verdict

theorem joined_of_ne_nil {texts : List String} (any : texts ≠ []) (separator : String) :
    joined separator texts = some (separator.intercalate texts) := by
  rw [joined, if_neg (by simpa using any)]

theorem ofProblems_of_failings {failings : List Problem} (any : failings ≠ [])
    (remedies : List Remedy) (warnings : List Problem) :
    ofProblems failings remedies warnings = .failed failings remedies := by
  rw [ofProblems, if_pos (by simpa using any)]

theorem ofProblems_of_warnings {warnings : List Problem} (any : warnings ≠ [])
    (remedies : List Remedy) : ofProblems [] remedies warnings = .warned warnings [] := by
  rw [ofProblems, if_neg (by simp), if_pos (by simpa using any)]

end Verdict

section Step

variable {standards : Standards} {environment : Environment} {vpc : Vpc} {table : RouteTable}

theorem checkFirewall_of_hasFirewall (ready : environment.HasFirewall vpc table) :
    ∃ failings warnings,
      Gathered (Failing standards vpc table.routes environment.network.firewallRulesets) failings ∧
      Gathered (Warning standards table.routes environment.network.firewallRulesets) warnings ∧
      checkFirewall standards environment =
        .ofProblems (failings.map Prod.fst) (failings.map Prod.snd) warnings := by
  refine ⟨_, _, gathered_failings, gathered_warnings, ?_⟩
  have rulesets : environment.network.firewallRulesets.isEmpty = false := by
    simpa using ready.rulesets
  simp only [checkFirewall, ready.present, rulesets, ready.routeTable, Bool.false_eq_true, if_false]
  exact if_neg ready.cidr

theorem firewallReport (ready : environment.HasFirewall vpc table) :
    FirewallReport standards vpc table.routes environment.network.firewallRulesets
      ((checkFirewall standards environment).finding .firewall) := by
  obtain ⟨failings, warnings, failing, warning, judged⟩ := checkFirewall_of_hasFirewall ready
  rw [judged]
  have failing_iff := failing.ne_nil_iff.trans exists_failing_iff
  by_cases fails : failings = []
  · subst fails
    have isOpen : ¬ PeerBlocked standards table.routes environment.network.firewallRulesets :=
      fun blocked => failing_iff.mpr blocked rfl
    have warning_iff := warning.ne_nil_iff.trans (exists_warning_iff isOpen)
    by_cases warns : warnings = []
    · subst warns
      have within : ¬ BandExceeded standards table.routes environment.network.firewallRulesets :=
        fun exceeded => warning_iff.mpr exceeded rfl
      exact
        { error_iff := iff_of_false (by decide) isOpen
          warning_iff := iff_of_false (by decide) (fun both => within both.2)
          errors := fun code => absurd code (by decide)
          warnings := fun code => absurd code (by decide)
          success := fun _ => ⟨rfl, rfl⟩ }
    · rw [List.map_nil, Verdict.ofProblems_of_warnings warns]
      exact
        { error_iff := iff_of_false (by simp [Verdict.finding, Verdict.code]) isOpen
          warning_iff := iff_of_true rfl ⟨isOpen, warning_iff.mp warns⟩
          errors := fun code => by simp [Verdict.finding, Verdict.code] at code
          warnings := fun _ => ⟨warnings, warning, Verdict.joined_of_ne_nil (by simpa) _, rfl⟩
          success := fun code => by simp [Verdict.finding, Verdict.code] at code }
  · rw [Verdict.ofProblems_of_failings (by simpa)]
    have blocked := failing_iff.mp fails
    refine
      { error_iff := iff_of_true rfl blocked
        warning_iff := iff_of_false (by simp [Verdict.finding, Verdict.code])
          (fun both => both.1 blocked)
        errors := fun _ => ⟨failings, failing, ?_, ?_⟩
        warnings := fun code => by simp [Verdict.finding, Verdict.code] at code
        success := fun code => by simp [Verdict.finding, Verdict.code] at code }
    · change Verdict.joined ";" ((failings.map Prod.fst).map Problem.text) = _
      rw [List.map_map, Verdict.joined_of_ne_nil (by simpa)]
      rfl
    · change Verdict.joined ";" ((failings.map Prod.snd).map Remedy.text) = _
      rw [List.map_map, Verdict.joined_of_ne_nil (by simpa)]
      rfl

end Step

/-! ## Other orders -/

/-- The same network, where routes, rulesets and the ingress rules of each ruleset may be listed in
another order. -/
structure Environment.FirewallReordered (one other : Environment) : Prop where
  vpc : one.network.vpc = other.network.vpc
  routes : ∃ table otherTable, one.network.routeTable = some table ∧
    other.network.routeTable = some otherTable ∧ table.routes.Perm otherTable.routes
  rulesets : ∃ rulesets, one.network.firewallRulesets.Perm rulesets ∧
    List.Forall₂ (fun ruleset otherRuleset => ruleset.id = otherRuleset.id ∧
      ruleset.ingress.Perm otherRuleset.ingress) rulesets other.network.firewallRulesets

section Reordering

variable {standards : Standards} {routes otherRoutes : List Route}
  {rulesets otherRulesets : List FirewallRuleset}

theorem ingressRules_perm
    (same : List.Forall₂ (fun ruleset otherRuleset => ruleset.id = otherRuleset.id ∧
      ruleset.ingress.Perm otherRuleset.ingress) rulesets otherRulesets) :
    (ingressRules rulesets).Perm (ingressRules otherRulesets) := by
  induction same with
  | nil => exact .nil
  | cons alike _ ih =>
      rw [ingressRules, ingressRules, List.flatMap_cons, List.flatMap_cons]
      exact alike.2.append ih

theorem peerBlocked_congr (standards : Standards) (sameRoutes : routes.Perm otherRoutes)
    (sameRules : (ingressRules rulesets).Perm (ingressRules otherRulesets)) :
    PeerBlocked standards routes rulesets ↔ PeerBlocked standards otherRoutes otherRulesets := by
  simp only [PeerBlocked, sameRoutes.mem_iff, sameRules.mem_iff]

theorem bandExceeded_congr (standards : Standards) (sameRoutes : routes.Perm otherRoutes)
    (sameRules : (ingressRules rulesets).Perm (ingressRules otherRulesets)) :
    BandExceeded standards routes rulesets ↔ BandExceeded standards otherRoutes otherRulesets := by
  simp only [BandExceeded, sameRoutes.mem_iff, sameRules.mem_iff]

theorem FindingCode.eq_of_iff {code otherCode : FindingCode}
    (error : code = .error ↔ otherCode = .error)
    (warning : code = .warning ↔ otherCode = .warning) : code = otherCode := by
  cases code <;> cases otherCode <;> simp_all

theorem FirewallReport.code_eq {vpc otherVpc : Vpc} {finding otherFinding : Finding}
    (report : FirewallReport standards vpc routes rulesets finding)
    (otherReport : FirewallReport standards otherVpc otherRoutes otherRulesets otherFinding)
    (sameRoutes : routes.Perm otherRoutes)
    (sameRules : (ingressRules rulesets).Perm (ingressRules otherRulesets)) :
    finding.code = otherFinding.code := by
  have blocked := peerBlocked_congr standards sameRoutes sameRules
  have exceeded := bandExceeded_congr standards sameRoutes sameRules
  apply FindingCode.eq_of_iff
  · rw [report.error_iff, otherReport.error_iff]
    exact blocked
  · rw [report.warning_iff, otherReport.warning_iff]
    exact and_congr (not_congr blocked) exceeded

end Reordering

theorem Environment.FirewallReordered.hasFirewall {one other : Environment} {vpc : Vpc}
    {table : RouteTable} (reordered : one.FirewallReordered other)
    (ready : one.HasFirewall vpc table) :
    ∃ otherTable, other.HasFirewall vpc otherTable ∧ table.routes.Perm otherTable.routes ∧
      (ingressRules one.network.firewallRulesets).Perm
        (ingressRules other.network.firewallRulesets) := by
  obtain ⟨routesOf, otherTable, here, there, sameRoutes⟩ := reordered.routes
  obtain rfl : routesOf = table := Option.some.inj (here.symm.trans ready.routeTable)
  obtain ⟨rulesets, sameRulesets, alike⟩ := reordered.rulesets
  refine ⟨otherTable, ⟨reordered.vpc ▸ ready.present, ready.cidr, ?_, there⟩, sameRoutes,
    (sameRulesets.flatMap_right _).trans (ingressRules_perm alike)⟩
  intro none
  rw [none] at alike
  cases alike
  exact ready.rulesets sameRulesets.eq_nil

/-- A firewall comes to an error if a route to a peer is blocked, else to a warning if too many
ports are open, else to success, in whichever order routes, rulesets and rules are listed. What is
said of it are the reasons of that code, in order, and for an error a remedy for each of them. -/
theorem firewall_reported (suite : ValidationSuite) (environment : Environment) (vpc : Vpc)
    (table : RouteTable) (ready : environment.HasFirewall vpc table) :
    ∃ finding, suite.check environment .firewall = .ok finding ∧
      FirewallReport suite.standards vpc table.routes environment.network.firewallRulesets finding ∧
      ∀ other, environment.FirewallReordered other →
        ∃ otherFinding, suite.check other .firewall = .ok otherFinding ∧
          finding.code = otherFinding.code := by
  refine ⟨_, ValidationSuite.check_of_verdict rfl, firewallReport ready, ?_⟩
  intro other reordered
  obtain ⟨otherTable, otherReady, sameRoutes, sameRules⟩ := reordered.hasFirewall ready
  exact ⟨_, ValidationSuite.check_of_verdict rfl,
    (firewallReport ready).code_eq (firewallReport otherReady) sameRoutes sameRules⟩

def Environment.guarded : Environment :=
  let routes : List Route :=
    [⟨"10.0.0.0/16", ⟨"pcx-1", .vpcPeering⟩, .active⟩, ⟨"0.0.0.0/0", ⟨"igw-1", .internet⟩, .active⟩,
      ⟨"12.4.1.7/24", ⟨"pcx-2", .vpcPeering⟩, .blackhole⟩,
      ⟨"13.5.0.0/16", ⟨"pcx-3", .vpcPeering⟩, .active⟩]
  let rulesets : List FirewallRuleset :=
    [⟨"sg-1", "vpc-1", [⟨5001, 15500, "tcp", "12.4.0.0/16"⟩, ⟨1, 2, "tcp", "anyone"⟩], [], ∅⟩,
      ⟨"sg-2", "vpc-1", [⟨4999, 15500, "tcp", "10.0.3.0/24"⟩, ⟨5000, 15499, "tcp", "12.0.0.0/8"⟩],
        [], ∅⟩]
  { Environment.empty "environment" "us-west-2" with
    network := ⟨some ⟨"vpc-1", "10.1.0.0/16", ∅⟩, [], some ⟨"rtb-1", "vpc-1", routes, ∅⟩, none,
      rulesets⟩ }

theorem firewall_reported_of_guarded :
    let suite := ValidationSuite.standard .partner (CloudInventory.empty.gateways [])
    let environment := Environment.guarded
    ∃ vpc table finding reasons, environment.HasFirewall vpc table ∧
      suite.check environment .firewall = .ok finding ∧
      PeerBlocked suite.standards table.routes environment.network.firewallRulesets ∧
      Gathered (Failing suite.standards vpc table.routes environment.network.firewallRulesets)
        reasons ∧
      finding.hint = some (";".intercalate (reasons.map (fun reason => reason.2.text))) ∧
      finding.hint = some (";".intercalate
        ["Set the port range of ingress rule 12.4.0.0/16 in sg-1 to 5000-15500",
          "Set the port range of ingress rule 12.0.0.0/8 in sg-2 to 5000-15500",
          "Add an ingress rule for 13.5.0.0/16 on ports 5000-15500"]) := by
  intro suite environment
  have ready : environment.HasFirewall ⟨"vpc-1", "10.1.0.0/16", ∅⟩
      (environment.network.routeTable.get rfl) :=
    ⟨rfl, by decide, by decide, rfl⟩
  obtain ⟨finding, checked, report, -⟩ := firewall_reported suite environment _ _ ready
  obtain rfl := Except.ok.inj checked
  have code : ((checkFirewall suite.standards environment).finding .firewall).code = .error := by
    decide +kernel
  obtain ⟨reasons, gathered, -, hint⟩ := report.errors code
  exact ⟨_, _, _, reasons, ready, checked, report.error_iff.mp code, gathered, hint,
    by decide +kernel⟩

end PrivateComputation
