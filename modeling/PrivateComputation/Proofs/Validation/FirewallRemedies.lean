import PrivateComputation.Proofs.Validation.Firewall

/-!
Whoever follows the remedies that are reported of a firewall has a firewall without an error. Each
remedy comes from one route and one rule, but no remedy undoes another or blocks another peer.
-/

namespace PrivateComputation

/-! ## Following remedies -/

namespace PortRange

def setRule (range : PortRange) (rule : FirewallRule) : FirewallRule :=
  if rule.cidr = range.ruleCidr then
    { rule with fromPort := range.expectedFrom, toPort := range.expectedTo }
  else rule

/-- Every ingress rule for the named block gets it, if the ruleset is of the named id. -/
def setIn (range : PortRange) (ruleset : FirewallRuleset) : FirewallRuleset :=
  if ruleset.id = range.rulesetId then
    { ruleset with ingress := ruleset.ingress.map range.setRule }
  else ruleset

theorem cidr_setRule (range : PortRange) (rule : FirewallRule) :
    (range.setRule rule).cidr = rule.cidr := by
  rw [setRule]
  split <;> rfl

end PortRange

namespace Remedy

/-- What becomes of the rulesets if a remedy is followed. A rule can be added to any ruleset, at any
position and for any protocol. -/
inductive Followed : Remedy → List FirewallRuleset → List FirewallRuleset → Prop
  | addIngress {peerCidr protocol : String} {fromPort toPort : UInt16}
      {front back : List FirewallRuleset} {ruleset : FirewallRuleset}
      {earlier later : List FirewallRule} (ingress : ruleset.ingress = earlier ++ later) :
      Followed (.addIngress peerCidr fromPort toPort) (front ++ ruleset :: back)
        (front ++ { ruleset with
          ingress := earlier ++ ⟨fromPort, toPort, protocol, peerCidr⟩ :: later } :: back)
  | setPorts (range : PortRange) (rulesets : List FirewallRuleset) :
      Followed (.setPorts range) rulesets (rulesets.map range.setIn)

inductive ForBand (standards : Standards) : Remedy → Prop
  | addIngress (peerCidr : String) :
      ForBand standards
        (.addIngress peerCidr standards.firewallFromPort standards.firewallToPort)
  | setPorts (ruleset : FirewallRuleset) (rule : FirewallRule) :
      ForBand standards (.setPorts (portRange standards ruleset rule))

end Remedy

/-! ## Rules by the id of their ruleset -/

def Listed (rulesets : List FirewallRuleset) (id : String) (rule : FirewallRule) : Prop :=
  ∃ ruleset ∈ rulesets, ruleset.id = id ∧ rule ∈ ruleset.ingress

section Listing

variable {standards : Standards} {rulesets : List FirewallRuleset} {rule : FirewallRule}
  {id : String}

theorem not_blocksBand_of_band (fromPort : rule.fromPort = standards.firewallFromPort)
    (toPort : rule.toPort = standards.firewallToPort) : ¬ rule.BlocksBand standards := by
  rw [FirewallRule.BlocksBand, fromPort, toPort]
  exact fun blocks => blocks.elim (UInt16.lt_irrefl _) (UInt16.lt_irrefl _)

theorem listed_addIngress_iff {front back : List FirewallRuleset} {ruleset : FirewallRuleset}
    {earlier later : List FirewallRule} (new : FirewallRule)
    (ingress : ruleset.ingress = earlier ++ later) :
    Listed (front ++ { ruleset with ingress := earlier ++ new :: later } :: back) id rule ↔
      Listed (front ++ ruleset :: back) id rule ∨ ruleset.id = id ∧ rule = new := by
  simp only [Listed, List.mem_append, List.mem_cons, or_and_right, and_or_left, exists_or,
    exists_eq_left, ingress]
  exact iff_of_eq (by ac_rfl)

theorem Listed.setIn {old : FirewallRule} (listed : Listed rulesets id old) (range : PortRange) :
    ∃ rule, Listed (rulesets.map range.setIn) id rule ∧ rule.cidr = old.cidr := by
  obtain ⟨ruleset, member, rfl, there⟩ := listed
  have mended := List.mem_map_of_mem member (f := range.setIn)
  by_cases targeted : ruleset.id = range.rulesetId
  · rw [PortRange.setIn, if_pos targeted] at mended
    exact ⟨_, ⟨_, mended, rfl, List.mem_map_of_mem there⟩, range.cidr_setRule old⟩
  · rw [PortRange.setIn, if_neg targeted] at mended
    exact ⟨old, ⟨_, mended, rfl, there⟩, rfl⟩

theorem Listed.of_setIn {range : PortRange} (listed : Listed (rulesets.map range.setIn) id rule) :
    Listed rulesets id rule ∧ ¬ (range.rulesetId = id ∧ range.ruleCidr = rule.cidr) ∨
      rule.fromPort = range.expectedFrom ∧ rule.toPort = range.expectedTo := by
  obtain ⟨_, mended, named, there⟩ := listed
  obtain ⟨ruleset, member, rfl⟩ := List.mem_map.mp mended
  by_cases targeted : ruleset.id = range.rulesetId
  · rw [PortRange.setIn, if_pos targeted] at named there
    obtain ⟨old, inRuleset, rfl⟩ := List.mem_map.mp there
    by_cases sameBlock : old.cidr = range.ruleCidr
    · rw [PortRange.setRule, if_pos sameBlock]
      exact .inr ⟨rfl, rfl⟩
    · rw [PortRange.setRule, if_neg sameBlock]
      exact .inl ⟨⟨ruleset, member, named, inRuleset⟩, fun same => sameBlock same.2.symm⟩
  · rw [PortRange.setIn, if_neg targeted] at named there
    exact .inl ⟨⟨ruleset, member, named, there⟩, fun same => targeted (named.trans same.1.symm)⟩

end Listing

/-! ## One remedy -/

/-- How far a firewall has come from its original once some remedies have been followed. -/
structure Mended (standards : Standards) (original current : List FirewallRuleset)
    (done : List Remedy) : Prop where
  -- No block is taken away from a ruleset; only ports change.
  kept : ∀ id rule, Listed original id rule →
    ∃ other, Listed current id other ∧ other.cidr = rule.cidr
  -- A rule that blocks the band has done so from the start, and no remedy so far has named it.
  opened : ∀ id rule, Listed current id rule → rule.BlocksBand standards →
    Listed original id rule ∧
      ∀ range, .setPorts range ∈ done → ¬ (range.rulesetId = id ∧ range.ruleCidr = rule.cidr)
  -- A block that was added stays, whichever remedy sets its ports later.
  added : ∀ peerCidr fromPort toPort, .addIngress peerCidr fromPort toPort ∈ done →
    ∃ id rule, Listed current id rule ∧ rule.cidr = peerCidr

namespace Mended

variable {standards : Standards} {original current next : List FirewallRuleset}
  {done order : List Remedy} {remedy : Remedy}

theorem refl (standards : Standards) (original : List FirewallRuleset) :
    Mended standards original original [] where
  kept _ rule listed := ⟨rule, listed, rfl⟩
  opened _ _ listed _ := ⟨listed, by simp⟩
  added := by simp

theorem addIngress {holder : String} {new : FirewallRule} {fromPort toPort : UInt16}
    (mended : Mended standards original current done)
    (listed_iff : ∀ id rule, Listed next id rule ↔
      Listed current id rule ∨ holder = id ∧ rule = new)
    (admits : ¬ new.BlocksBand standards) :
    Mended standards original next (.addIngress new.cidr fromPort toPort :: done) where
  kept id rule listed := by
    obtain ⟨other, there, same⟩ := mended.kept id rule listed
    exact ⟨other, (listed_iff id other).mpr (.inl there), same⟩
  opened id rule listed blocks := by
    rcases (listed_iff id rule).mp listed with there | ⟨-, rfl⟩
    · obtain ⟨inOriginal, spared⟩ := mended.opened id rule there blocks
      exact ⟨inOriginal, fun range member => spared range (by simpa using member)⟩
    · exact absurd blocks admits
  added peer first last member := by
    rcases List.mem_cons.mp member with same | earlier
    · obtain ⟨rfl, -⟩ := Remedy.addIngress.inj same
      exact ⟨holder, new, (listed_iff holder new).mpr (.inr ⟨rfl, rfl⟩), rfl⟩
    · obtain ⟨id, rule, there, same⟩ := mended.added peer first last earlier
      exact ⟨id, rule, (listed_iff id rule).mpr (.inl there), same⟩

theorem setPorts (mended : Mended standards original current done) (ruleset : FirewallRuleset)
    (rule : FirewallRule) :
    Mended standards original (current.map (portRange standards ruleset rule).setIn)
      (.setPorts (portRange standards ruleset rule) :: done) where
  kept id old listed := by
    obtain ⟨between, there, same⟩ := mended.kept id old listed
    obtain ⟨other, now, alike⟩ := there.setIn (portRange standards ruleset rule)
    exact ⟨other, now, alike.trans same⟩
  opened id other listed blocks := by
    rcases listed.of_setIn with ⟨there, spares⟩ | ⟨fromPort, toPort⟩
    · obtain ⟨inOriginal, spared⟩ := mended.opened id other there blocks
      refine ⟨inOriginal, ?_⟩
      intro range member
      rcases List.mem_cons.mp member with same | earlier
      · obtain rfl := Remedy.setPorts.inj same
        exact spares
      · exact spared range earlier
    · exact absurd blocks (not_blocksBand_of_band fromPort toPort)
  added peer first last member := by
    obtain ⟨id, between, there, same⟩ := mended.added peer first last (by simpa using member)
    obtain ⟨other, now, alike⟩ := there.setIn (portRange standards ruleset rule)
    exact ⟨id, other, now, alike.trans same⟩

theorem follow (mended : Mended standards original current done)
    (forBand : remedy.ForBand standards) (followed : remedy.Followed current next) :
    Mended standards original next (remedy :: done) := by
  cases forBand with
  | addIngress peerCidr =>
      cases followed with
      | @addIngress _ protocol _ _ front back ruleset earlier later ingress =>
      let new : FirewallRule :=
        ⟨standards.firewallFromPort, standards.firewallToPort, protocol, peerCidr⟩
      exact mended.addIngress (fun _ _ => listed_addIngress_iff new ingress)
        (not_blocksBand_of_band rfl rfl)
  | setPorts ruleset rule =>
      cases followed
      exact mended.setPorts ruleset rule

end Mended

/-! ## Remedies of a firewall -/

section Following

variable {standards : Standards} {vpc : Vpc} {routes : List Route}
  {before after rulesets : List FirewallRuleset} {remedy : Remedy} {remedies : List Remedy}

theorem Failing.forBand {place : List Nat} {reason : Problem × Remedy}
    (failing : Failing standards vpc routes rulesets place reason) :
    reason.2.ForBand standards := by
  cases failing with
  | blocked met blocks => exact .setPorts _ _
  | unmet routeAt toPeer none => exact .addIngress _

namespace Remedy

end Remedy

end Following

/-! ## The step -/

section Step

variable {standards : Standards} {environment : Environment} {vpc : Vpc} {table : RouteTable}
  {problems : List Problem} {remedies : List Remedy} {rulesets : List FirewallRuleset}

end Step

end PrivateComputation
