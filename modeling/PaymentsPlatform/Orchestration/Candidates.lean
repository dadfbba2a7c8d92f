/- layer: model of application/payment/candidates.go, of domain/gateway (descriptor.go, and what
     routing reads of connection.go and health.go) and of what is read of domain/tenant/tenant.go;
     results
   digest: The routing candidates of one payment, which of them a plan holds, and what each
     lacks. -/

import PaymentsPlatform.Routing.Engine

namespace PaymentsPlatform.Gateways

open Pkg (Currency Money)

inductive RegistryStatus where
  | active | deprecated | disabled
  deriving DecidableEq

def RegistryStatus.acceptsNewTraffic (s : RegistryStatus) : Bool :=
  s == .active || s == .deprecated

structure Capabilities where
  countries : List Country
  currencies : List Currency
  methods : List PaymentMethod
  operations : List Operation
  supports3DS2 : Bool
  minAmount : List (Currency × Money)
  maxAmount : List (Currency × Money)

def Capabilities.supportsOperation (c : Capabilities) (op : Operation) : Bool :=
  c.operations.contains op

def anyMethod : PaymentMethod := .other ""

structure CostRate where
  currency : Currency
  method : PaymentMethod
  fixedFee : Money
  basisPoints : Int64

structure CostModel where
  rates : List CostRate

/-- The loop over the rates: the exact method ends it, the first wildcard is kept meanwhile. -/
def findRate (currency : Currency) (method : PaymentMethod) :
    Option CostRate → List CostRate → Option CostRate
  | kept, [] => kept
  | kept, r :: rest =>
    if r.currency ≠ currency then findRate currency method kept rest
    else if r.method = method then some r
    else if r.method = anyMethod ∧ kept = none then findRate currency method (some r) rest
    else findRate currency method kept rest

/-- The fee expected for a transaction.  A missing rate is an error and not a zero. -/
def CostModel.estimateCost (m : CostModel) (amount : Money) (method : PaymentMethod) :
    Except GoError Money :=
  if ¬ amount.isValid then
    .error (new .amountInvalid "cannot estimate cost for an amount with an unsupported currency")
  else
    match findRate amount.currency method none m.rates with
    | none =>
      .error (newWithDetail .gatewayNotConfigured
        ("no cost rate is configured for " ++ amount.currency ++ "/" ++ text method)
        { field := "costModel", code := "RATE_NOT_CONFIGURED",
          message := "add a rate for this currency, or a currency-wide fallback rate",
          ruleID := "L4.GATEWAY_COST_MODEL_COVERS_ROUTE" })
    | some rate =>
      match amount.mulBasisPoints rate.basisPoints with
      | .error e => .error (wrap e .internalError "cost estimate overflowed")
      | .ok proportional =>
        match proportional.add rate.fixedFee with
        | .error e => .error (wrap e .internalError "cost estimate overflowed")
        | .ok total => .ok total

structure Gateway where
  id : GatewayID
  capabilities : Capabilities
  status : RegistryStatus
  costModel : CostModel

def Gateway.estimateCost (g : Gateway) (amount : Money) (method : PaymentMethod) :
    Except GoError Money :=
  g.costModel.estimateCost amount method

inductive HealthState where
  | healthy | degraded | unhealthy | probing
  deriving DecidableEq

def HealthState.allowsDispatch (s : HealthState) : Bool := s != .unhealthy

structure Health where
  state : HealthState
  score : Float
  p99LatencyMS : Int64

inductive ConnectionStatus where
  | unprovisioned | provisioning | provisioningFailed | provisioned | certifying
  | certificationFailed | certified | degraded | revoked
  deriving DecidableEq

end PaymentsPlatform.Gateways

namespace PaymentsPlatform.Tenants

inductive Status where
  | active | suspended | terminated
  deriving DecidableEq

inductive ResidencyRegion where
  | global | eu | uk | us | apac
  | other (raw : String)
  deriving DecidableEq

def residencyPermitted : ResidencyRegion → List String
  | .eu => ["eu", "eea", "eu-west", "eu-central"]
  | .uk => ["uk", "gb", "eu-west-2"]
  | .us => ["us", "us-east", "us-west"]
  | .apac => ["apac", "ap", "ap-southeast", "ap-northeast"]
  | .global | .other _ => []

def ResidencyRegion.permitsGatewayRegion (r : ResidencyRegion) (region : String) : Bool :=
  r == .global || (residencyPermitted r).contains (trimSpace region).toLower

structure Tenant where
  id : TenantID
  status : Status
  residency : ResidencyRegion
  enabledGateways : List GatewayID

def Tenant.isOperational (t : Tenant) : Bool := t.status == .active

end PaymentsPlatform.Tenants

namespace PaymentsPlatform.Orchestration

open Gateways (ConnectionStatus Gateway Health)
open Pkg (Currency)
open Routing (Candidate Policy)
open Tenants (Tenant)

section Model

structure ConnectionSnapshot where
  status : ConnectionStatus
  certified : Bool

def ConnectionSnapshot.usableForPayments (c : ConnectionSnapshot) : Bool :=
  c.status == .certified || c.status == .degraded

structure MerchantRoutes where
  country : Country
  routing : Policy
  connections : List (GatewayID × ConnectionSnapshot)

structure SuccessSample where
  successes : Int64
  samples : Int64
  prior : Float

/-- The five sources of the assembler, by what they answer. -/
structure CandidateAssembler where
  gateways : GatewayID → Except GoError (Option Gateway)
  health : GatewayID → Operation → Except GoError (Option Health)
  tenants : TenantID → Except GoError (Option Tenant)
  rates : Option (GatewayID → PaymentMethod → Currency → Country → Except GoError SuccessSample)
  breakers : Option (String → Int)
  processingRegionOf : Option (GatewayID → String)

variable (b : CandidateAssembler) (id : GatewayID)

def CandidateAssembler.region : String :=
  match b.processingRegionOf with
  | none => ""
  | some of => of id

def circuitOpen : Int := 1

def breakerKey (op : Operation) : String := id ++ ":" ++ text op

/-- The gateway is licensed for the corridor, as the source decides it. -/
def supportsCorridor (countries : List Country) (payer merchantCountry : Country) : Bool :=
  if merchantCountry ≠ "" ∧ ¬ countries.contains merchantCountry then false
  else if payer = "" then true
  else countries.contains payer || merchantCountry != ""

def bareCandidate : Candidate where
  gatewayID := id
  tenantEntitled := false
  residencyCompliant := false
  merchantConfigured := false
  certified := false
  circuitOpen := false
  healthy := false
  supportsCurrency := false
  supportsMethod := false
  supportsCountry := false
  supportsOperation := false
  supportsThreeDS := false
  minAmountMinorUnits := 0
  maxAmountMinorUnits := 0
  healthScore := 0
  successRate := 0
  costMinorUnits := 0
  latencyP99MS := 0

variable (req : Routing.RequestContext) (m : MerchantRoutes)

def CandidateAssembler.entitled (tn : Option Tenant) : Candidate :=
  let conn := m.connections.lookup id
  { bareCandidate id with
    tenantEntitled := tn.any fun t => t.enabledGateways.contains id && t.isOperational
    residencyCompliant := tn.any fun t => t.residency.permitsGatewayRegion (b.region id)
    merchantConfigured := conn.any (·.usableForPayments)
    certified := conn.any fun c => c.certified && c.usableForPayments }

def capable (g : Gateway) (req : Routing.RequestContext) (m : MerchantRoutes) (c : Candidate) :
    Candidate :=
  let caps := g.capabilities
  let accepting := g.status.acceptsNewTraffic
  { c with
    supportsCurrency := accepting && caps.currencies.contains req.currency
    supportsMethod := accepting && caps.methods.contains req.paymentMethod
    supportsCountry := accepting && supportsCorridor caps.countries req.payerCountry m.country
    supportsOperation := accepting && caps.supportsOperation req.operation
    supportsThreeDS := caps.supports3DS2
    minAmountMinorUnits := ((caps.minAmount.lookup req.currency).map (·.amount)).getD 0
    maxAmountMinorUnits := ((caps.maxAmount.lookup req.currency).map (·.amount)).getD 0 }

def CandidateAssembler.available (op : Operation) (c : Candidate) : Candidate :=
  let tripped := b.breakers.any fun state => state (breakerKey id op) == circuitOpen
  match b.health id op with
  | .ok (some h) =>
    { c with
      healthy := h.state.allowsDispatch && !tripped
      circuitOpen := tripped || h.state == .unhealthy
      healthScore := h.score
      latencyP99MS := h.p99LatencyMS }
  -- no record is no evidence either way: the candidate is usable and scores neutral
  | _ => { c with circuitOpen := tripped, healthy := !tripped, healthScore := 0.5 }

def CandidateAssembler.observedRate : Float :=
  match b.rates with
  | none => 0.90
  | some rates =>
    match rates id req.paymentMethod req.currency m.country with
    | .error _ => 0.90
    | .ok s =>
      Routing.smoothSuccessRate s.successes s.samples (if s.prior <= 0 then 0.90 else s.prior)

def CandidateAssembler.candidate (tn : Option Tenant) : Candidate :=
  let c := b.entitled id m tn
  match b.gateways id with
  | .ok (some g) =>
    let c := capable g req m c
    match g.estimateCost req.amount req.paymentMethod with
    -- no price: dropped as a capability mismatch
    | .error _ => { c with supportsOperation := false, healthy := !c.circuitOpen }
    | .ok cost =>
      { b.available id req.operation { c with costMinorUnits := cost.amount } with
        successRate := b.observedRate id req m }
  -- a descriptor that cannot be read leaves every capability false
  | _ => c

def MerchantRoutes.universe : List GatewayID :=
  (m.connections.map Prod.fst ++ m.routing.referencedGateways).dedup

def CandidateAssembler.build : Except GoError (List Candidate) :=
  match b.tenants req.tenantID with
  | .error err => .error err
  | .ok tn => .ok (m.universe.map fun id => b.candidate id req m tn)

end Model

open Gateways (Capabilities)
open Pkg (Money)
open Routing (RequestContext amountOutOfBounds hardFilter hardFilter_none_iff mem_plan_decide)

section Routes

variable {a : CandidateAssembler} {req : RequestContext} {m : MerchantRoutes} {policy : Policy}
  {id : GatewayID}

/-! What a gateway of the plan should satisfy. -/

/-- The breaker of this process is open, or the shared health record says so. -/
def CandidateAssembler.isOpen (a : CandidateAssembler) (id : GatewayID) (op : Operation) : Bool :=
  (a.breakers.any fun state => state (breakerKey id op) == circuitOpen) ||
    match a.health id op with
    | .ok (some h) => h.state == .unhealthy
    | _ => false

structure Answers where
  tenant : Tenant
  connection : ConnectionSnapshot
  gateway : Gateway

structure Answers.Given (s : Answers) (a : CandidateAssembler) (req : RequestContext)
    (m : MerchantRoutes) (id : GatewayID) : Prop where
  tenant : a.tenants req.tenantID = .ok (some s.tenant)
  connection : m.connections.lookup id = some s.connection
  gateway : a.gateways id = .ok (some s.gateway)

structure Qualified (a : CandidateAssembler) (req : RequestContext) (m : MerchantRoutes)
    (id : GatewayID) (s : Answers) : Prop where
  enabled : id ∈ s.tenant.enabledGateways
  operational : s.tenant.isOperational = true
  resident : s.tenant.residency.permitsGatewayRegion (a.region id) = true
  usable : s.connection.usableForPayments = true
  certified : s.connection.certified = true
  accepting : s.gateway.status.acceptsNewTraffic = true
  currency : req.currency ∈ s.gateway.capabilities.currencies
  method : req.paymentMethod ∈ s.gateway.capabilities.methods
  operation : req.operation ∈ s.gateway.capabilities.operations
  merchantLicensed : m.country ≠ "" → m.country ∈ s.gateway.capabilities.countries
  priced : ∃ cost, s.gateway.estimateCost req.amount req.paymentMethod = .ok cost
  closed : a.isOpen id req.operation = false

def PayerLicensed (req : RequestContext) (g : Gateway) : Prop :=
  req.payerCountry ≠ "" → req.payerCountry ∈ g.capabilities.countries

def Eligible (a : CandidateAssembler) (req : RequestContext) (m : MerchantRoutes)
    (id : GatewayID) : Prop :=
  ∃ s : Answers, s.Given a req m id ∧ Qualified a req m id s ∧ PayerLicensed req s.gateway

def RoutesEligibly (a : CandidateAssembler) (req : RequestContext) (m : MerchantRoutes)
    (policy : Policy) : Prop :=
  ∀ candidates, a.build req m = .ok candidates → ∀ (planID : PlanID) (now : Time),
    ∀ s ∈ (policy.decide req candidates planID now).1.plan.selections, Eligible a req m s.gatewayID

def withinBounds (caps : Capabilities) (amount : Money) : Bool :=
  let least : Int64 := ((caps.minAmount.lookup amount.currency).map (·.amount)).getD 0
  let most : Int64 := ((caps.maxAmount.lookup amount.currency).map (·.amount)).getD 0
  !(decide (least > 0) && decide (amount.amount < least)) &&
    !(decide (most > 0) && decide (amount.amount > most))

/-- The pin, the authentication, the bounds, and the gateways already tried. -/
structure Admissible (req : RequestContext) (policy : Policy) (id : GatewayID) (g : Gateway) :
    Prop where
  pinned : policy.strategy = .pinned → id = (policy.resolveFor req).1.primary
  threeDS : req.threeDSRequired = true → g.capabilities.supports3DS2 = true
  bounded : withinBounds g.capabilities req.amount = true
  fresh : id ∉ req.attemptedGateways

/-- Wherever a gateway passes everything else and the merchant's country is known, the gateway is
licensed for the payer's country. -/
def LicensedWhereReached (a : CandidateAssembler) (req : RequestContext) (m : MerchantRoutes)
    (policy : Policy) : Prop :=
  m.country ≠ "" → ∀ id (s : Answers), s.Given a req m id → Qualified a req m id s →
    Admissible req policy id s.gateway → PayerLicensed req s.gateway

theorem supportsCorridor_iff {countries : List Country} {payer merchantCountry : Country} :
    supportsCorridor countries payer merchantCountry = true ↔
      (merchantCountry ≠ "" → merchantCountry ∈ countries) ∧
        (payer = "" ∨ payer ∈ countries ∨ merchantCountry ≠ "") := by
  unfold supportsCorridor
  by_cases known : merchantCountry = "" <;> by_cases licensed : merchantCountry ∈ countries <;>
    by_cases unknown : payer = "" <;> simp [known, licensed, unknown]

variable {g : Gateway}

theorem amountOutOfBounds_capable_iff {c : Routing.Candidate} (least : c.minAmountMinorUnits =
      ((g.capabilities.minAmount.lookup req.currency).map (·.amount)).getD 0)
    (most : c.maxAmountMinorUnits =
      ((g.capabilities.maxAmount.lookup req.currency).map (·.amount)).getD 0) :
    amountOutOfBounds c req = none ↔ withinBounds g.capabilities req.amount = true := by
  unfold amountOutOfBounds withinBounds
  rw [Routing.guard_none, Routing.guard_none, least, most]
  simp [RequestContext.currency, or_iff_not_imp_left]

variable {tn : Option Tenant}

theorem entitled_iff :
    (a.entitled id m tn).tenantEntitled = true ∧ (a.entitled id m tn).residencyCompliant = true ∧
        (a.entitled id m tn).merchantConfigured = true ∧ (a.entitled id m tn).certified = true ↔
      ∃ t conn, tn = some t ∧ m.connections.lookup id = some conn ∧ id ∈ t.enabledGateways ∧
        t.isOperational = true ∧ t.residency.permitsGatewayRegion (a.region id) = true ∧
        conn.usableForPayments = true ∧ conn.certified = true := by
  unfold CandidateAssembler.entitled
  cases tn with
  | none => simp
  | some =>
    cases m.connections.lookup id with
    | none => simp
    | some =>
      simp
      tauto

theorem available_eq (c : Routing.Candidate) (op : Operation) :
    ∃ score latency, a.available id op c =
      { c with healthy := !a.isOpen id op, circuitOpen := a.isOpen id op, healthScore := score,
               latencyP99MS := latency } := by
  cases found : a.health id op with
  | error =>
    exact ⟨0.5, c.latencyP99MS, by
      simp [CandidateAssembler.available, CandidateAssembler.isOpen, found]⟩
  | ok record =>
    cases record with
    | none =>
      exact ⟨0.5, c.latencyP99MS, by
        simp [CandidateAssembler.available, CandidateAssembler.isOpen, found]⟩
    | some h =>
      exact ⟨h.score, h.p99LatencyMS, by
        simp [CandidateAssembler.available, CandidateAssembler.isOpen, found,
          Gateways.HealthState.allowsDispatch, Bool.and_comm, bne]⟩

theorem candidate_priced {cost : Money} (found : a.gateways id = .ok (some g))
    (price : g.estimateCost req.amount req.paymentMethod = .ok cost) :
    ∃ score latency, a.candidate id req m tn =
      { capable g req m (a.entitled id m tn) with
        costMinorUnits := cost.amount
        healthy := !a.isOpen id req.operation
        circuitOpen := a.isOpen id req.operation
        healthScore := score
        latencyP99MS := latency
        successRate := a.observedRate id req m } := by
  obtain ⟨score, latency, same⟩ : ∃ score latency, a.available id req.operation _ = _ :=
    available_eq { capable g req m (a.entitled id m tn) with costMinorUnits := cost.amount }
      req.operation
  refine ⟨score, latency, ?_⟩
  simp only [CandidateAssembler.candidate, found, price, same]

theorem gatewayID_candidate : (a.candidate id req m tn).gatewayID = id := by
  cases found : a.gateways id with
  | error => simp [CandidateAssembler.candidate, found, CandidateAssembler.entitled, bareCandidate]
  | ok answer =>
    cases answer with
    | none => simp [CandidateAssembler.candidate, found, CandidateAssembler.entitled, bareCandidate]
    | some g =>
      cases price : g.estimateCost req.amount req.paymentMethod with
      | error =>
        simp [CandidateAssembler.candidate, found, price, capable,
          CandidateAssembler.entitled, bareCandidate]
      | ok =>
        obtain ⟨score, latency, same⟩ := candidate_priced found price
        rw [same]
        rfl

theorem mem_universe {conn : ConnectionSnapshot} (connected : m.connections.lookup id = some conn) :
    id ∈ m.universe := by
  have listed : ∃ entry ∈ m.connections, entry.1 = id := by
    obtain ⟨l₁, l₂, split, -⟩ := List.lookup_eq_some_iff.mp connected
    exact ⟨(id, conn), by simp [split], rfl⟩
  exact List.mem_dedup.mpr (List.mem_append_left _ (List.mem_map.mpr listed))

theorem hardFilter_priced_iff {cost : Money} (found : a.gateways id = .ok (some g))
    (price : g.estimateCost req.amount req.paymentMethod = .ok cost) :
    hardFilter (a.candidate id req m tn) req policy (policy.resolveFor req).1 = none ↔
      ∃ t conn, tn = some t ∧ m.connections.lookup id = some conn ∧
        Qualified a req m id ⟨t, conn, g⟩ ∧ Admissible req policy id g ∧
        (req.payerCountry = "" ∨ req.payerCountry ∈ g.capabilities.countries ∨
          m.country ≠ "") := by
  obtain ⟨score, latency, same⟩ := candidate_priced found price
  rw [hardFilter_none_iff, same, amountOutOfBounds_capable_iff rfl rfl]
  constructor
  · rintro ⟨pinned, tenant, residency, connected, certified, closed, -, currency, method, country,
      operation, threeDS, bounded, fresh⟩
    obtain ⟨t, conn, rfl, listed, enabled, operational, resident, usable, proven⟩ :=
      entitled_iff.mp ⟨tenant, residency, connected, certified⟩
    obtain ⟨accepting, currency⟩ := Bool.and_eq_true_iff.mp currency
    obtain ⟨-, method⟩ := Bool.and_eq_true_iff.mp method
    obtain ⟨-, country⟩ := Bool.and_eq_true_iff.mp country
    obtain ⟨-, operation⟩ := Bool.and_eq_true_iff.mp operation
    obtain ⟨licensed, payer⟩ := supportsCorridor_iff.mp country
    refine ⟨t, conn, rfl, listed, ⟨enabled, operational, resident, usable, proven, accepting,
      List.contains_iff_mem.mp currency, List.contains_iff_mem.mp method,
      List.contains_iff_mem.mp operation, licensed, ⟨cost, price⟩, closed⟩,
      ⟨pinned, threeDS, bounded, ?_⟩, payer⟩
    intro tried
    rw [RequestContext.hasAttempted] at fresh
    exact Bool.false_ne_true (fresh.symm.trans (List.contains_iff_mem.mpr tried))
  · rintro ⟨t, conn, rfl, listed, qualified, admissible, payer⟩
    obtain ⟨tenant, residency, connected, certified⟩ := entitled_iff.mpr
      ⟨t, conn, rfl, listed, qualified.enabled, qualified.operational, qualified.resident,
        qualified.usable, qualified.certified⟩
    have accepting := qualified.accepting
    refine ⟨admissible.pinned, tenant, residency, connected, certified, qualified.closed, ?_, ?_, ?_,
      ?_, ?_, admissible.threeDS, admissible.bounded, ?_⟩
    · simp [qualified.closed]
    · exact Bool.and_eq_true_iff.mpr ⟨accepting, List.contains_iff_mem.mpr qualified.currency⟩
    · exact Bool.and_eq_true_iff.mpr ⟨accepting, List.contains_iff_mem.mpr qualified.method⟩
    · exact Bool.and_eq_true_iff.mpr
        ⟨accepting, supportsCorridor_iff.mpr ⟨qualified.merchantLicensed, payer⟩⟩
    · exact Bool.and_eq_true_iff.mpr ⟨accepting, List.contains_iff_mem.mpr qualified.operation⟩
    · exact Bool.eq_false_iff.mpr fun tried =>
        admissible.fresh (List.contains_iff_mem.mp tried)

theorem hardFilter_candidate_iff :
    hardFilter (a.candidate id req m tn) req policy (policy.resolveFor req).1 = none ↔
      ∃ s : Answers, tn = some s.tenant ∧ m.connections.lookup id = some s.connection ∧
        a.gateways id = .ok (some s.gateway) ∧ Qualified a req m id s ∧
        Admissible req policy id s.gateway ∧
        (req.payerCountry = "" ∨ req.payerCountry ∈ s.gateway.capabilities.countries ∨
          m.country ≠ "") := by
  cases found : a.gateways id with
  | error =>
    rw [hardFilter_none_iff]
    simp [CandidateAssembler.candidate, found, CandidateAssembler.entitled, bareCandidate]
  | ok answer =>
    cases answer with
    | none =>
      rw [hardFilter_none_iff]
      simp [CandidateAssembler.candidate, found, CandidateAssembler.entitled, bareCandidate]
    | some g =>
      cases price : g.estimateCost req.amount req.paymentMethod with
      | error =>
        rw [hardFilter_none_iff]
        simp only [CandidateAssembler.candidate, found, price]
        constructor
        · rintro ⟨-, -, -, -, -, -, -, -, -, -, operation, -⟩
          cases operation
        · rintro ⟨⟨t, conn, g'⟩, -, -, same, qualified, -⟩
          cases same
          obtain ⟨cost, priced⟩ := qualified.priced
          rw [price] at priced
          cases priced
      | ok =>
        rw [hardFilter_priced_iff found price]
        constructor
        · rintro ⟨t, conn, tenant, listed, rest⟩
          exact ⟨⟨t, conn, g⟩, tenant, listed, rfl, rest⟩
        · rintro ⟨⟨t, conn, g'⟩, tenant, listed, same, rest⟩
          cases same
          exact ⟨t, conn, tenant, listed, rest⟩

theorem mem_plan_iff {candidates : List Routing.Candidate} {planID : PlanID} {now : Time}
    (built : a.build req m = .ok candidates) :
    (∃ sel ∈ (policy.decide req candidates planID now).1.plan.selections, sel.gatewayID = id) ↔
      ∃ s : Answers, s.Given a req m id ∧ Qualified a req m id s ∧
        Admissible req policy id s.gateway ∧
        (req.payerCountry = "" ∨ req.payerCountry ∈ s.gateway.capabilities.countries ∨
          m.country ≠ "") := by
  unfold CandidateAssembler.build at built
  cases asked : a.tenants req.tenantID with
  | error => simp [asked] at built
  | ok tn =>
    simp only [asked, Except.ok.injEq] at built
    subst built
    rw [mem_plan_decide]
    constructor
    · rintro ⟨c, mem, named, passed⟩
      obtain ⟨g, -, rfl⟩ := List.mem_map.mp mem
      rw [gatewayID_candidate] at named
      subst named
      obtain ⟨s, tenant, connection, gateway, rest⟩ := hardFilter_candidate_iff.mp passed
      exact ⟨s, ⟨by rw [asked, tenant], connection, gateway⟩, rest⟩
    · rintro ⟨s, given, rest⟩
      have tenant : tn = some s.tenant := by
        have same := given.tenant
        rw [asked] at same
        exact Except.ok.inj same
      refine ⟨a.candidate id req m tn, List.mem_map_of_mem (mem_universe given.connection),
        gatewayID_candidate, hardFilter_candidate_iff.mpr
          ⟨s, tenant, given.connection, given.gateway, rest⟩⟩

/-- Every gateway of the plan is eligible exactly where the reachable ones are licensed for the
payer, whose country is not looked at if the merchant's is known. -/
theorem routesEligibly_iff (a : CandidateAssembler) (req : RequestContext) (m : MerchantRoutes)
    (policy : Policy) : RoutesEligibly a req m policy ↔ LicensedWhereReached a req m policy := by
  constructor
  · intro routes known id s given qualified admissible
    obtain ⟨candidates, built⟩ : ∃ candidates, a.build req m = .ok candidates := by
      unfold CandidateAssembler.build
      rw [given.tenant]
      exact ⟨_, rfl⟩
    obtain ⟨sel, mem, rfl⟩ :
        ∃ sel ∈ (policy.decide req candidates "" 0).1.plan.selections, sel.gatewayID = id :=
      (mem_plan_iff built).mpr ⟨s, given, qualified, admissible, .inr (.inr known)⟩
    obtain ⟨s', given', -, licensed⟩ := routes candidates built "" 0 sel mem
    have same : s'.gateway = s.gateway := by
      have both := given'.gateway
      rw [given.gateway] at both
      exact (Option.some.inj (Except.ok.inj both)).symm
    rwa [same] at licensed
  · intro licensed candidates built planID now sel mem
    obtain ⟨s, given, qualified, admissible, payer⟩ := (mem_plan_iff built).mp ⟨sel, mem, rfl⟩
    refine ⟨s, given, qualified, ?_⟩
    rcases payer with unknown | listed | known
    · exact fun named => absurd unknown named
    · exact fun _ => listed
    · exact licensed known _ s given qualified admissible

end Routes

/-! A payer in a country the gateway has no licence for. -/

/-- A gateway that is licensed in the United States and nowhere else. -/
def domesticGateway : Gateway where
  id := "stripe"
  capabilities :=
    { countries := ["US"], currencies := ["USD"], methods := [.card], operations := [.authorize],
      supports3DS2 := true, minAmount := [], maxAmount := [] }
  status := .active
  costModel :=
    { rates := [{ currency := "USD", method := .card, fixedFee := ⟨30, "USD"⟩, basisPoints := 290 }] }

def operatingTenant : Tenant where
  id := "ten_1"
  status := .active
  residency := .global
  enabledGateways := ["stripe"]

def oneGateway : CandidateAssembler where
  gateways := fun _ => .ok (some domesticGateway)
  health := fun _ _ => .ok none
  tenants := fun _ => .ok (some operatingTenant)
  rates := none
  breakers := none
  processingRegionOf := none

def domesticMerchant : MerchantRoutes where
  country := "US"
  routing :=
    { strategy := .pinned, primary := "stripe", fallbacks := [], rules := [],
      weights := Routing.defaultWeights }
  connections := [("stripe", { status := .certified, certified := true })]

def foreignPayer : RequestContext :=
  { Routing.tenDollars with tenantID := "ten_1", payerCountry := "BR" }

/-- The gateway is in the plan, and it has no licence for the payer's country. -/
theorem not_routesEligibly_foreignPayer :
    ¬ RoutesEligibly oneGateway foreignPayer domesticMerchant domesticMerchant.routing := by
  intro routes
  have given : Answers.Given
      ⟨operatingTenant, { status := .certified, certified := true }, domesticGateway⟩
      oneGateway foreignPayer domesticMerchant "stripe" := ⟨rfl, rfl, rfl⟩
  have qualified : Qualified oneGateway foreignPayer domesticMerchant "stripe"
      ⟨operatingTenant, { status := .certified, certified := true }, domesticGateway⟩ :=
    { enabled := by decide
      operational := by decide
      resident := by decide
      usable := by decide
      certified := by decide
      accepting := by decide
      currency := by decide
      method := by decide
      operation := by decide
      merchantLicensed := fun _ => by decide
      priced := ⟨⟨59, "USD"⟩, by decide +kernel⟩
      closed := by decide }
  have admissible : Admissible foreignPayer domesticMerchant.routing "stripe" domesticGateway :=
    { pinned := fun _ => rfl
      threeDS := fun _ => rfl
      bounded := by decide
      fresh := by decide }
  obtain ⟨sel, mem, named⟩ : ∃ sel ∈ (domesticMerchant.routing.decide foreignPayer
      (domesticMerchant.universe.map fun id => oneGateway.candidate id foreignPayer domesticMerchant
        (some operatingTenant)) "plan_1" 0).1.plan.selections, sel.gatewayID = "stripe" :=
    (mem_plan_iff rfl).mpr ⟨_, given, qualified, admissible, .inr (.inr (by decide))⟩
  obtain ⟨s, given', -, licensed⟩ := routes _ rfl "plan_1" 0 sel mem
  have same : s.gateway = domesticGateway :=
    (Option.some.inj (Except.ok.inj given'.gateway)).symm
  rw [same] at licensed
  exact absurd (licensed (by decide)) (by decide)

end PaymentsPlatform.Orchestration
