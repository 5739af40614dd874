import Mathlib.Data.List.Perm.Basic
import PrivateComputation.Proofs.Validation.Questions

/-!
Which route tables pass. Of several routes to the internet the first one is looked at, active or
not, so that a table with all the routes that are asked for may fail by its order.
-/

namespace PrivateComputation

def Route.LeadsToInternet (route : Route) : Prop :=
  "igw-".toList <+: route.target.id.toList ∧ route.destination = "0.0.0.0/0"

theorem Route.isInternet_iff {route : Route} :
    route.isInternet = true ↔ route.LeadsToInternet := by
  rw [isInternet, LeadsToInternet, Bool.and_eq_true, List.isPrefixOf_iff_prefix, beq_iff_eq]

namespace RouteTable

def ReachesPeer (routes : List Route) : Prop :=
  ∃ route ∈ routes, route.target.kind = .vpcPeering ∧ route.state = .active

/-- An active route to a peer and an active route to the internet. -/
def Connected (routes : List Route) : Prop :=
  ReachesPeer routes ∧ ∃ route ∈ routes, route.LeadsToInternet ∧ route.state = .active

/-- The first of the routes to the internet is active. -/
def FirstIsActive (routes : List Route) : Prop :=
  ∃ earlier route later, routes = earlier ++ route :: later ∧
    (∀ other ∈ earlier, ¬ other.LeadsToInternet) ∧ route.LeadsToInternet ∧ route.state = .active

/-- What is found out about a route table. -/
def LetThrough (routes : List Route) : Prop := ReachesPeer routes ∧ FirstIsActive routes

def AllActive (routes : List Route) : Prop :=
  ∀ route ∈ routes, route.LeadsToInternet → route.state = .active

variable {routes others : List Route}

theorem any_isActivePeering_iff :
    routes.any Route.isActivePeering = true ↔ ReachesPeer routes := by
  simp only [List.any_eq_true, ReachesPeer, Route.isActivePeering, Route.isPeering,
    Bool.and_eq_true, beq_iff_eq]

theorem firstIsActive_iff_find? : FirstIsActive routes ↔
    ∃ route, routes.find? Route.isInternet = some route ∧ route.state = .active := by
  simp only [List.find?_eq_some_iff_append, FirstIsActive, Bool.not_eq_true', ← Bool.not_eq_true,
    Route.isInternet_iff]
  constructor
  · rintro ⟨earlier, route, later, split, none, leads, active⟩
    exact ⟨route, ⟨leads, earlier, later, split, none⟩, active⟩
  · rintro ⟨route, ⟨leads, earlier, later, split, none⟩, active⟩
    exact ⟨earlier, route, later, split, none, leads, active⟩

theorem ReachesPeer.mono (reaches : ReachesPeer routes) (more : routes ⊆ others) :
    ReachesPeer others := by
  obtain ⟨route, member, peering⟩ := reaches
  exact ⟨route, more member, peering⟩

theorem Connected.mono (connected : Connected routes) (more : routes ⊆ others) :
    Connected others := by
  obtain ⟨reaches, route, member, leads⟩ := connected
  exact ⟨reaches.mono more, route, more member, leads⟩

theorem LetThrough.connected (passes : LetThrough routes) : Connected routes := by
  obtain ⟨reaches, earlier, route, later, rfl, -, leads⟩ := passes
  exact ⟨reaches, route, by simp, leads⟩

theorem Connected.letThrough (connected : Connected routes) (allActive : AllActive routes) :
    LetThrough routes := by
  obtain ⟨reaches, route, member, leads, -⟩ := connected
  refine ⟨reaches, firstIsActive_iff_find?.mpr ?_⟩
  cases found : routes.find? Route.isInternet with
  | none => exact absurd (Route.isInternet_iff.mpr leads) (List.find?_eq_none.mp found route member)
  | some first =>
      refine ⟨first, rfl, allActive first (List.mem_of_find?_eq_some found) ?_⟩
      exact Route.isInternet_iff.mp (List.find?_some found)

/-! ## Other orders -/

theorem firstIsActive_cons_iff {route : Route} (leads : route.LeadsToInternet) :
    FirstIsActive (route :: routes) ↔ route.state = .active := by
  rw [firstIsActive_iff_find?, List.find?_cons_of_pos (Route.isInternet_iff.mpr leads)]
  simp only [Option.some.injEq, exists_eq_left']

theorem exists_perm_firstIsActive_iff {route : Route} (member : route ∈ routes)
    (leads : route.LeadsToInternet) :
    ∃ others, others.Perm routes ∧ (FirstIsActive others ↔ route.state = .active) := by
  obtain ⟨earlier, later, rfl⟩ := List.append_of_mem member
  exact ⟨route :: (earlier ++ later), List.perm_middle.symm, firstIsActive_cons_iff leads⟩

theorem connected_iff_exists_perm :
    Connected routes ↔ ∃ others, others.Perm routes ∧ LetThrough others := by
  constructor
  · rintro ⟨reaches, route, member, leads, active⟩
    obtain ⟨others, same, first⟩ := exists_perm_firstIsActive_iff member leads
    exact ⟨others, same, reaches.mono same.symm.subset, first.mpr active⟩
  · rintro ⟨others, same, passes⟩
    exact passes.connected.mono same.subset

theorem connected_and_allActive_iff_forall_perm :
    Connected routes ∧ AllActive routes ↔ ∀ others, others.Perm routes → LetThrough others := by
  constructor
  · rintro ⟨connected, allActive⟩ others same
    exact (connected.mono same.symm.subset).letThrough
      (fun route member => allActive route (same.subset member))
  · intro always
    refine ⟨(always routes (.refl _)).connected, ?_⟩
    intro route member leads
    obtain ⟨others, same, first⟩ := exists_perm_firstIsActive_iff member leads
    exact first.mp (always others same).2

end RouteTable

def Environment.withRoutes (environment : Environment) (routes : List Route) : Environment :=
  { environment with
    network :=
      { environment.network with
        routeTable := environment.network.routeTable.map (fun table => { table with routes }) } }

section RouteTableStep

variable {environment : Environment} {table : RouteTable}

theorem code_checkRouteTable_cases (environment : Environment) :
    (checkRouteTable environment).code = .success ∨
      (checkRouteTable environment).code = .error := by
  rw [checkRouteTable]
  split
  · exact .inr rfl
  · split
    · exact .inr rfl
    · split
      · exact .inr rfl
      · split
        · exact .inl rfl
        · exact .inr rfl

theorem code_checkRouteTable_eq_success_iff
    (present : environment.network.routeTable = some table) :
    (checkRouteTable environment).code = .success ↔
      RouteTable.LetThrough table.routes := by
  rw [RouteTable.LetThrough, ← RouteTable.any_isActivePeering_iff,
    RouteTable.firstIsActive_iff_find?]
  simp only [checkRouteTable, present]
  cases table.routes.any Route.isActivePeering with
  | false => simp [Verdict.code]
  | true =>
      cases table.routes.find? Route.isInternet with
      | none => simp [Verdict.code]
      | some route =>
          by_cases active : route.state = .active
          · simp [active, Verdict.code]
          · simp [active, Verdict.code]

theorem succeeds_withRoutes_iff (suite : ValidationSuite)
    (present : environment.network.routeTable = some table) (routes : List Route) :
    suite.Succeeds (environment.withRoutes routes) .routeTable ↔ RouteTable.LetThrough routes := by
  have replaced : (environment.withRoutes routes).network.routeTable =
      some { table with routes } := by
    rw [Environment.withRoutes, present]
    rfl
  rw [← code_checkRouteTable_eq_success_iff replaced]
  constructor
  · rintro ⟨finding, checked, success⟩
    obtain rfl := Except.ok.inj checked
    exact success
  · intro success
    exact ⟨_, ValidationSuite.check_of_verdict rfl, success⟩

end RouteTableStep

/-- A route table passes if it reaches a peer and the first of its routes to the internet is active.
All routes that are asked for are there if and only if it passes in some order. It passes in every
order, and with whatever is added, as long as no route to the internet is out of order. -/
theorem route_table_passes (suite : ValidationSuite) (environment : Environment)
    (table : RouteTable) (present : environment.network.routeTable = some table) :
    ∃ finding, suite.check environment .routeTable = .ok finding ∧
      (finding.code = .success ∨ finding.code = .error) ∧
      (finding.code = .success ↔
        RouteTable.ReachesPeer table.routes ∧ RouteTable.FirstIsActive table.routes) ∧
      (RouteTable.AllActive table.routes →
        (finding.code = .success ↔ RouteTable.Connected table.routes)) ∧
      (RouteTable.Connected table.routes ↔ ∃ routes, routes.Perm table.routes ∧
        suite.Succeeds (environment.withRoutes routes) .routeTable) ∧
      (RouteTable.Connected table.routes ∧ RouteTable.AllActive table.routes ↔
        ∀ routes, routes.Perm table.routes →
          suite.Succeeds (environment.withRoutes routes) .routeTable) ∧
      (finding.code = .success → ∀ routes, table.routes ⊆ routes → RouteTable.AllActive routes →
        suite.Succeeds (environment.withRoutes routes) .routeTable) := by
  have passes := code_checkRouteTable_eq_success_iff present
  simp only [succeeds_withRoutes_iff suite present]
  refine ⟨_, ValidationSuite.check_of_verdict rfl, code_checkRouteTable_cases environment, passes,
    ?_, RouteTable.connected_iff_exists_perm, RouteTable.connected_and_allActive_iff_forall_perm,
    ?_⟩
  · intro allActive
    exact passes.trans
      ⟨fun found => found.connected, fun connected => connected.letThrough allActive⟩
  · intro success routes more allActive
    exact ((passes.mp success).connected.mono more).letThrough allActive

def RouteTable.mended : RouteTable :=
  ⟨"rtb-1", "vpc-1",
    [⟨"0.0.0.0/0", ⟨"igw-old", .internet⟩, .blackhole⟩,
      ⟨"0.0.0.0/0", ⟨"igw-new", .internet⟩, .active⟩,
      ⟨"10.0.0.0/16", ⟨"pcx-1", .vpcPeering⟩, .active⟩], ∅⟩

theorem RouteTable.connected_mended : RouteTable.Connected RouteTable.mended.routes :=
  ⟨⟨_, .tail _ (.tail _ (.head _)), rfl, rfl⟩,
    ⟨_, .tail _ (.head _), Route.isInternet_iff.mp (by decide), rfl⟩⟩

def Environment.ofRouteTable (table : RouteTable) : Environment :=
  { Environment.empty "environment" "us-west-2" with
    network := { EnvironmentNetwork.empty with routeTable := some table } }

theorem route_table_passes_of_reordered :
    let suite := ValidationSuite.standard .partner (CloudInventory.empty.gateways [])
    let environment := Environment.ofRouteTable RouteTable.mended
    environment.network.routeTable = some RouteTable.mended ∧
      ∃ routes, routes.Perm RouteTable.mended.routes ∧
        suite.Succeeds (environment.withRoutes routes) .routeTable := by
  intro suite environment
  obtain ⟨_, _, _, _, _, orders, _⟩ := route_table_passes suite environment _ rfl
  exact ⟨rfl, orders.mp RouteTable.connected_mended⟩

/-- The table has an active route to a peer and an active route to the internet, and it fails. -/
theorem route_table_fails_of_mended :
    let suite := ValidationSuite.standard .partner (CloudInventory.empty.gateways [])
    RouteTable.Connected RouteTable.mended.routes ∧
      ∃ finding,
        suite.check (Environment.ofRouteTable RouteTable.mended) .routeTable = .ok finding ∧
        finding.code = .error :=
  ⟨RouteTable.connected_mended, _, rfl, by decide +kernel⟩

end PrivateComputation
