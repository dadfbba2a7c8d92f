/- layer: model of domain/routing (plan.go, policy.go, engine.go); results
   digest: Hard filters, scores, the strategy's order and the tie-break, and what they make of the
     order of the candidates. -/

import Mathlib.Data.List.Dedup
import Mathlib.Data.Prod.Lex
import Mathlib.Tactic.Common
import PaymentsPlatform.Pkg.Money
import PaymentsPlatform.Shared.Types

namespace PaymentsPlatform.Routing

section Model

/-- One gateway of the plan.  Rank 1 is dispatched, the others are the failover order. -/
structure Selection where
  gatewayID : GatewayID
  rank : Nat
  reason : String

structure Plan where
  id : PlanID
  selections : List Selection

/-- The first selection whose gateway is not excluded.  The plan keeps no cursor: the
caller knows which gateways were attempted. -/
def Plan.next (p : Plan) (excluding : List GatewayID) : Option Selection :=
  p.selections.find? fun s => !excluding.contains s.gatewayID

open Pkg (Currency Money)

inductive Strategy where
  | priorityWithFallback | weightedScore | leastCost | pinned
  | other (raw : String)
  deriving DecidableEq

inductive RiskBand where
  | low | medium | high
  | other (raw : String)
  deriving DecidableEq

/-- The numbers of the scores: float64 in the program, and exact ones to run it on. -/
class Scores (F : Type) extends Add F, Sub F, Mul F, Div F, Neg F, LT F, BEq F, OfScientific F where
  ofInt64 : Int64 → F
  less (a b : F) : Decidable (a < b)

instance Scores.decLt {F : Type} [Scores F] (a b : F) : Decidable (a < b) := Scores.less a b

instance : Scores Float where
  ofInt64 := Int64.toFloat
  less _ _ := inferInstance

instance : Scores ℚ where
  ofInt64 n := n.toInt
  less _ _ := inferInstance

variable {F : Type} [Scores F]

/-- The relative importance of the four scoring dimensions. -/
structure Weights (F : Type := Float) where
  health : F
  successRate : F
  cost : F
  latency : F

def defaultWeights : Weights F := ⟨0.4, 0.3, 0.2, 0.1⟩

def Weights.isZero (w : Weights F) : Bool :=
  w.health == 0.0 && w.successRate == 0.0 && w.cost == 0.0 && w.latency == 0.0

/-- Everything a routing decision depends on. -/
structure RequestContext where
  tenantID : TenantID
  merchantID : MerchantID
  paymentID : PaymentID
  amount : Money
  paymentMethod : PaymentMethod
  payerCountry : Country
  merchantCountry : Country
  riskBand : RiskBand
  threeDSRequired : Bool
  isRetry : Bool
  attemptedGateways : List GatewayID
  operation : Operation

def RequestContext.hasAttempted (r : RequestContext) (g : GatewayID) : Bool :=
  r.attemptedGateways.contains g

def RequestContext.currency (r : RequestContext) : Currency := r.amount.currency

/-- The when-clause of a rule.  An empty field matches anything. -/
structure Condition where
  currency : Currency
  paymentMethod : PaymentMethod
  country : Country
  amountAbove : Option Money
  amountBelow : Option Money
  riskBand : RiskBand

def boundMet (req : RequestContext) (compare : Money → Money → Except Pkg.ApiError.GoError Bool) :
    Option Money → Bool
  | none => true
  | some bound =>
    bound.currency == req.amount.currency &&
      match compare req.amount bound with
      | .ok met => met
      | .error _ => false

def Condition.matchesRequest (c : Condition) (req : RequestContext) : Bool :=
  (c.currency == "" || c.currency == req.amount.currency) &&
    (c.paymentMethod == .other "" || c.paymentMethod == req.paymentMethod) &&
    (c.country == "" || c.country == req.payerCountry) &&
    (c.riskBand == .other "" || c.riskBand == req.riskBand) &&
    boundMet req Money.greaterThan c.amountAbove &&
    boundMet req Money.lessThan c.amountBelow

structure Action where
  primary : GatewayID
  fallbacks : List GatewayID

def Action.chain (a : Action) : List GatewayID :=
  (if a.primary = "" then [] else [a.primary]) ++ a.fallbacks

structure Rule where
  id : String
  condition : Condition
  action : Action

structure Policy (F : Type := Float) where
  strategy : Strategy
  primary : GatewayID
  fallbacks : List GatewayID
  rules : List Rule
  weights : Weights F

/-- The action of the first rule that matches, with that rule's identifier. -/
def Policy.resolveFor (p : Policy F) (req : RequestContext) : Action × String :=
  match p.rules.find? (·.condition.matchesRequest req) with
  | some r => (r.action, r.id)
  | none => (⟨p.primary, p.fallbacks⟩, "")

def Policy.effectiveWeights (p : Policy F) : Weights F :=
  if p.weights.isZero then defaultWeights else p.weights

def Policy.referencedGateways (p : Policy F) : List GatewayID :=
  let named (a : Action) : List GatewayID := (a.primary :: a.fallbacks).filter (· ≠ "")
  ((named ⟨p.primary, p.fallbacks⟩ ++ p.rules.flatMap fun r => named r.action).dedup).mergeSort
    fun a b => !decide (b < a)

open Scores (ofInt64)

variable {F : Type}

/-- One gateway offered to the engine, with every question already answered. -/
structure Candidate (F : Type := Float) where
  gatewayID : GatewayID
  tenantEntitled : Bool
  residencyCompliant : Bool
  merchantConfigured : Bool
  certified : Bool
  circuitOpen : Bool
  healthy : Bool
  supportsCurrency : Bool
  supportsMethod : Bool
  supportsCountry : Bool
  supportsOperation : Bool
  supportsThreeDS : Bool
  minAmountMinorUnits : Int64
  maxAmountMinorUnits : Int64
  healthScore : F
  successRate : F
  costMinorUnits : Int64
  latencyP99MS : Int64

inductive RejectionReason where
  | capabilityMismatch | currencyUnsupported | methodUnsupported | countryUnsupported
  | amountOutOfBounds | circuitOpen | unhealthy | notCertified | residencyViolation
  | tenantNotEntitled | merchantNotConfigured | alreadyAttempted | threeDSUnsupported
  | pinnedElsewhere
  deriving DecidableEq

instance : StringType RejectionReason where
  text
    | .capabilityMismatch => "CAPABILITY_MISMATCH"
    | .currencyUnsupported => "CURRENCY_UNSUPPORTED"
    | .methodUnsupported => "METHOD_UNSUPPORTED"
    | .countryUnsupported => "COUNTRY_UNSUPPORTED"
    | .amountOutOfBounds => "AMOUNT_OUT_OF_BOUNDS"
    | .circuitOpen => "CIRCUIT_OPEN"
    | .unhealthy => "UNHEALTHY"
    | .notCertified => "NOT_CERTIFIED"
    | .residencyViolation => "RESIDENCY_VIOLATION"
    | .tenantNotEntitled => "TENANT_NOT_ENTITLED"
    | .merchantNotConfigured => "MERCHANT_NOT_CONFIGURED"
    | .alreadyAttempted => "ALREADY_ATTEMPTED"
    | .threeDSUnsupported => "THREE_DS_UNSUPPORTED"
    | .pinnedElsewhere => "PINNED_ELSEWHERE"

structure Rejection where
  gatewayID : GatewayID
  reason : RejectionReason
  detail : String

structure ScoreBreakdown (F : Type := Float) where
  health : F
  successRate : F
  cost : F
  latency : F
  weighted : F

structure Ranked (F : Type := Float) extends Selection where
  score : F
  scoreBreakdown : ScoreBreakdown F

structure Decision (F : Type := Float) where
  id : PlanID
  paymentID : PaymentID
  createdAt : Time
  strategy : Strategy
  weights : Weights F
  matchedRuleID : String
  tieBreak : String
  selections : List (Ranked F)
  rejections : List Rejection

def Decision.plan (d : Decision F) : Plan where
  id := d.id
  selections := d.selections.map Ranked.toSelection

def amountOutOfBounds (c : Candidate F) (req : RequestContext) : Option String :=
  if c.minAmountMinorUnits > 0 ∧ req.amount.amount < c.minAmountMinorUnits then
    some ("amount " ++ req.amount.string ++
      " is below the gateway minimum for this method and currency")
  else if c.maxAmountMinorUnits > 0 ∧ req.amount.amount > c.maxAmountMinorUnits then
    some ("amount " ++ req.amount.string ++
      " is above the gateway maximum for this method and currency")
  else none

def boundsAndHistory (c : Candidate F) (req : RequestContext) : Option (RejectionReason × String) :=
  match amountOutOfBounds c req with
  | some detail => some (.amountOutOfBounds, detail)
  | none =>
    if req.hasAttempted c.gatewayID then
      some (.alreadyAttempted, "this payment already has an attempt on " ++ c.gatewayID)
    else none

def hardFilter (c : Candidate F) (req : RequestContext) (policy : Policy F) (action : Action) :
    Option (RejectionReason × String) :=
  if policy.strategy = .pinned ∧ c.gatewayID ≠ action.primary then
    some (.pinnedElsewhere, "merchant policy is PINNED to " ++ action.primary)
  else if ¬ c.tenantEntitled then
    some (.tenantNotEntitled, "the tenant's gateway allowlist does not include " ++ c.gatewayID)
  else if ¬ c.residencyCompliant then
    some (.residencyViolation,
      "gateway processes or stores outside the tenant's data residency policy")
  else if ¬ c.merchantConfigured then
    some (.merchantNotConfigured,
      "the merchant has no configured connection to " ++ c.gatewayID)
  else if ¬ c.certified then
    some (.notCertified,
      "no CERTIFIED connection for " ++ text req.paymentMethod ++ "/" ++ req.currency)
  else if c.circuitOpen then
    some (.circuitOpen,
      "circuit breaker is open for (" ++ c.gatewayID ++ ", " ++ text req.operation ++ ")")
  else if ¬ c.healthy then
    some (.unhealthy, "connection health does not permit live traffic")
  else if ¬ c.supportsCurrency then
    some (.currencyUnsupported, "gateway does not settle " ++ req.currency ++ " on this connection")
  else if ¬ c.supportsMethod then
    some (.methodUnsupported,
      "gateway does not offer " ++ text req.paymentMethod ++ " on this connection")
  else if ¬ c.supportsCountry then
    some (.countryUnsupported, "gateway is not licensed for payer country " ++ req.payerCountry)
  else if ¬ c.supportsOperation then
    some (.capabilityMismatch,
      "gateway descriptor lacks the capability required for " ++ text req.operation)
  else if req.threeDSRequired ∧ ¬ c.supportsThreeDS then
    some (.threeDSUnsupported, "payment requires strong customer authentication and this gateway " ++
      "cannot perform it for this corridor")
  else boundsAndHistory c req

section Scoring

variable [Scores F]

def clamp01 (v : F) : F :=
  if v != v then 0.0 else if v < 0.0 then 0.0 else if v > 1.0 then 1.0 else v

def smoothSuccessRate (successes samples : Int64) (prior : F) : F :=
  if samples < 0 ∨ successes < 0 then clamp01 prior
  else clamp01 ((ofInt64 successes + 50.0 * prior) / (ofInt64 samples + 50.0))

def normalizeSuccessRate (s : F) : F := clamp01 ((s - 0.85) / (0.98 - 0.85))

def normalizeCost (cost minCost maxCost : Int64) : F :=
  if maxCost = minCost then 1.0
  else clamp01 (1.0 - ofInt64 (cost - minCost) / ofInt64 (maxCost - minCost))

def normalizeLatency (ms : Int64) : F :=
  if ms < 0 then 1.0 else 1.0 - clamp01 (ofInt64 ms / 3000.0)

def scoreBreakdown (w : Weights F) (minCost maxCost : Int64) (c : Candidate F) : ScoreBreakdown F :=
  let health := clamp01 c.healthScore
  let successRate := normalizeSuccessRate c.successRate
  let cost := normalizeCost c.costMinorUnits minCost maxCost
  let latency := normalizeLatency c.latencyP99MS
  { health := health, successRate := successRate, cost := cost, latency := latency
    weighted := w.health * health + w.successRate * successRate + w.cost * cost +
      w.latency * latency }

/-- The scores of the survivors, the cost relative to the cheapest and the dearest. -/
def score (survivors : List (Candidate F)) (w : Weights F) : List (ScoreBreakdown F) :=
  match survivors with
  | [] => []
  | first :: rest =>
    let least := rest.foldl (fun m c => if c.costMinorUnits < m then c.costMinorUnits else m)
      first.costMinorUnits
    let most := rest.foldl (fun m c => if c.costMinorUnits > m then c.costMinorUnits else m)
      first.costMinorUnits
    survivors.map (scoreBreakdown w least most)

variable (policy : Policy F) (action : Action)

def positionOf (g : GatewayID) : Nat :=
  (action.chain.idxOf? g).getD (action.chain.dedup.length + 1)

def costOf (survivors : List (Candidate F)) (g : GatewayID) : Int64 :=
  ((survivors.reverse.find? (·.gatewayID == g)).map Candidate.costMinorUnits).getD 0

def healthOf (survivors : List (Candidate F)) (g : GatewayID) : F :=
  ((survivors.reverse.find? (·.gatewayID == g)).map Candidate.healthScore).getD 0.0

def sortStable (less : Ranked F → Ranked F → Bool) (l : List (Ranked F)) : List (Ranked F) :=
  l.mergeSort fun a b => !less b a

def lessByCost (survivors : List (Candidate F)) (a b : Ranked F) : Bool :=
  let ca := costOf survivors a.gatewayID
  let cb := costOf survivors b.gatewayID
  let ha := healthOf survivors a.gatewayID
  let hb := healthOf survivors b.gatewayID
  if ca ≠ cb then decide (ca < cb)
  else if ha != hb then decide (ha > hb)
  else decide (a.gatewayID < b.gatewayID)

def lessByPosition (a b : Ranked F) : Bool :=
  let pa := positionOf action a.gatewayID
  let pb := positionOf action b.gatewayID
  if pa ≠ pb then decide (pa < pb)
  else if a.score != b.score then decide (a.score > b.score)
  else decide (a.gatewayID < b.gatewayID)

def lessByScore (survivors : List (Candidate F)) (a b : Ranked F) : Bool :=
  let ca := costOf survivors a.gatewayID
  let cb := costOf survivors b.gatewayID
  if a.score != b.score then decide (a.score > b.score)
  else if ca ≠ cb then decide (ca < cb)
  else decide (a.gatewayID < b.gatewayID)

def Ranked.because (reason : String) (s : Ranked F) : Ranked F := { s with reason := reason }

def explain (first others : String) : List (Ranked F) → List (Ranked F)
  | [] => []
  | s :: rest => s.because first :: rest.map (Ranked.because others)

def positionReason (g : GatewayID) : String :=
  let p := positionOf action g
  if p = 0 then "merchant-declared primary"
  else if p < action.chain.dedup.length then "merchant-declared fallback rank " ++ toString p
  else "eligible gateway outside the declared chain, ordered by score"

def selectionOf (c : Candidate F) (b : ScoreBreakdown F) : Ranked F where
  gatewayID := c.gatewayID
  rank := 0
  reason := ""
  score := b.weighted
  scoreBreakdown := b

def orderByStrategy (s : Strategy) (survivors : List (Candidate F)) (breakdowns : List (ScoreBreakdown F))
    (action : Action) : List (Ranked F) :=
  let sel := List.zipWith selectionOf survivors breakdowns
  match s with
  | .pinned => sel.map (Ranked.because "pinned by merchant policy")
  | .leastCost =>
    explain "cheapest eligible gateway for this amount" "lowest effective cost for this amount"
      (sortStable (lessByCost survivors) sel)
  | .priorityWithFallback =>
    (sortStable (lessByPosition action) sel).map fun r =>
      r.because (positionReason action r.gatewayID)
  | .weightedScore | .other _ =>
    explain "highest weighted score" "ranked by weighted score"
      (sortStable (lessByScore survivors) sel)

/-- The near-tie rule, on the first two selections only. -/
def breakTopTie (sel : List (Ranked F)) (action : Action) : List (Ranked F) × String :=
  match sel with
  | a :: b :: rest =>
    let diff := a.score - b.score
    let gap := if diff < 0.0 then -diff else diff
    if gap > 0.02 then (sel, "")
    else if b.gatewayID = action.primary ∧ a.gatewayID ≠ action.primary then
      (b :: a :: rest, "merchant-declared primary")
    else if a.gatewayID = action.primary ∧ b.gatewayID ≠ action.primary then
      (sel, "merchant-declared primary")
    else if a.score != b.score then (sel, "higher score within the tie tolerance")
    else if b.gatewayID < a.gatewayID then
      (b :: a :: rest, "deterministic gateway-ID ordering")
    else (sel, "deterministic gateway-ID ordering")
  | _ => (sel, "")

def noEligibleGateway (rejections : List Rejection) : GoError :=
  .api { newError .noEligibleGateway "" with
    details := rejections.map fun r =>
      { field := "gateway." ++ r.gatewayID, code := text r.reason, message := r.detail,
        ruleID := "L5.METHOD_CURRENCY_PAIR_ROUTABLE" } }

def byGateway (candidates : List (Candidate F)) : List (Candidate F) :=
  candidates.mergeSort fun a b => !Decidable.decide (b.gatewayID < a.gatewayID)

def survivors (req : RequestContext) (candidates : List (Candidate F)) : List (Candidate F) :=
  candidates.filter fun c => (hardFilter c req policy (policy.resolveFor req).1).isNone

def rejections (req : RequestContext) (candidates : List (Candidate F)) : List Rejection :=
  candidates.filterMap fun c =>
    (hardFilter c req policy (policy.resolveFor req).1).map fun dropped =>
      { gatewayID := c.gatewayID, reason := dropped.1, detail := dropped.2 }

def rankFrom (n : Nat) : List (Ranked F) → List (Ranked F)
  | [] => []
  | s :: rest => { s with rank := n } :: rankFrom (n + 1) rest

/-- `Decide`.  The decision comes back also where nothing is eligible, next to the error. -/
def Policy.decide (req : RequestContext) (candidates : List (Candidate F))
    (planID : PlanID) (now : Time) : Decision F × Option GoError :=
  let action := (policy.resolveFor req).1
  let weights := policy.effectiveWeights
  let ordered := byGateway candidates
  let left := survivors policy req ordered
  let tied := breakTopTie (orderByStrategy policy.strategy left (score left weights) action) action
  let decision : Decision F :=
    { id := planID
      paymentID := req.paymentID
      createdAt := now
      strategy := policy.strategy
      weights := weights
      matchedRuleID := (policy.resolveFor req).2
      tieBreak := if left = [] then "" else tied.2
      selections := if left = [] then [] else rankFrom 1 tied.1
      rejections := rejections policy req ordered }
  (decision,
    if decision.selections = [] then some (noEligibleGateway decision.rejections) else none)

end Scoring

theorem guard_none {α : Type} {cond : Prop} [Decidable cond] {a : α} {rest : Option α} :
    (if cond then some a else rest) = none ↔ ¬ cond ∧ rest = none := by
  by_cases refused : cond <;> simp [refused]

variable {req : RequestContext}

theorem boundsAndHistory_none_iff {c : Candidate F} : boundsAndHistory c req = none ↔
      amountOutOfBounds c req = none ∧ req.hasAttempted c.gatewayID = false := by
  unfold boundsAndHistory
  cases amountOutOfBounds c req <;> simp

theorem hardFilter_none_iff {c : Candidate F} {policy : Policy F} {action : Action} :
    hardFilter c req policy action = none ↔
      (policy.strategy = .pinned → c.gatewayID = action.primary) ∧ c.tenantEntitled = true ∧
        c.residencyCompliant = true ∧ c.merchantConfigured = true ∧ c.certified = true ∧
        c.circuitOpen = false ∧ c.healthy = true ∧ c.supportsCurrency = true ∧
        c.supportsMethod = true ∧ c.supportsCountry = true ∧ c.supportsOperation = true ∧
        (req.threeDSRequired = true → c.supportsThreeDS = true) ∧
        amountOutOfBounds c req = none ∧ req.hasAttempted c.gatewayID = false := by
  unfold hardFilter
  simp only [guard_none, boundsAndHistory_none_iff, not_and, not_not, Bool.not_eq_true,
    Bool.not_eq_false]

/-- What the order of a plan is about. -/
def Ranked.place (r : Ranked F) : GatewayID × F := (r.gatewayID, r.score)

theorem map_place_explain (first others : String) (l : List (Ranked F)) :
    (explain first others l).map Ranked.place = l.map Ranked.place := by
  cases l with
  | nil => rfl
  | cons =>
    simp only [explain, List.map_cons, List.map_map]
    rfl

theorem map_place_rankFrom (n : Nat) (l : List (Ranked F)) :
    (rankFrom n l).map Ranked.place = l.map Ranked.place := by
  induction l generalizing n with
  | nil => rfl
  | cons r rest ih =>
    rw [rankFrom, List.map_cons, List.map_cons, ih]
    rfl

theorem map_gatewayID_of_place {l m : List (Ranked F)} (same : l.map Ranked.place = m.map Ranked.place) :
    l.map (·.gatewayID) = m.map (·.gatewayID) := by
  simpa [Ranked.place, Function.comp_def] using congrArg (List.map Prod.fst) same

theorem map_gatewayID_zipWith (survivors : List (Candidate F)) (breakdowns : List (ScoreBreakdown F))
    (same : breakdowns.length = survivors.length) :
    (List.zipWith selectionOf survivors breakdowns).map (·.gatewayID) =
      survivors.map Candidate.gatewayID := by
  induction survivors generalizing breakdowns with
  | nil => rfl
  | cons c rest ih =>
    cases breakdowns with
    | nil => cases same
    | cons b others =>
      have fewer : others.length = rest.length := by simpa using same
      simp [ih others fewer, selectionOf]

variable [Scores F]

theorem length_score (survivors : List (Candidate F)) (w : Weights F) :
    (score survivors w).length = survivors.length := by
  cases survivors <;> simp [score]

theorem perm_breakTopTie (sel : List (Ranked F)) (action : Action) :
    (breakTopTie sel action).1.Perm sel := by
  unfold breakTopTie
  split
  · dsimp only
    split_ifs
    all_goals first | exact List.Perm.refl _ | exact List.Perm.swap _ _ _
  · exact List.Perm.refl _

/-- The comparator that a strategy sorts by. -/
def Strategy.less (s : Strategy) (left : List (Candidate F)) (action : Action) :
    Ranked F → Ranked F → Bool :=
  match s with
  | .pinned => fun _ _ => false
  | .leastCost => lessByCost left
  | .priorityWithFallback => lessByPosition action
  | .weightedScore | .other _ => lessByScore left

theorem map_place_orderByStrategy (s : Strategy) (left : List (Candidate F)) (action : Action)
    (breakdowns : List (ScoreBreakdown F)) :
    (orderByStrategy s left breakdowns action).map Ranked.place =
      (sortStable (s.less left action) (List.zipWith selectionOf left breakdowns)).map
        Ranked.place := by
  cases s with
  | pinned =>
    have kept (l : List (Ranked F)) : sortStable (fun _ _ => false) l = l :=
      List.mergeSort_of_pairwise (List.pairwise_of_forall fun _ _ => rfl)
    rw [orderByStrategy, Strategy.less, kept, List.map_map]
    rfl
  | priorityWithFallback =>
    rw [orderByStrategy, List.map_map]
    rfl
  | leastCost | weightedScore | other => exact map_place_explain ..

theorem perm_orderByStrategy (s : Strategy) (survivors : List (Candidate F)) (w : Weights F)
    (action : Action) :
    ((orderByStrategy s survivors (score survivors w) action).map (·.gatewayID)).Perm
      (survivors.map Candidate.gatewayID) := by
  rw [map_gatewayID_of_place (map_place_orderByStrategy ..)]
  exact ((List.mergeSort_perm _ _).map _).trans
    (.of_eq (map_gatewayID_zipWith survivors _ (length_score survivors w)))

theorem selections_decide (policy : Policy F) (candidates : List (Candidate F)) (planID : PlanID)
    (now : Time) :
    (policy.decide req candidates planID now).1.selections =
      let left := survivors policy req (byGateway candidates)
      let action := (policy.resolveFor req).1
      rankFrom 1 (breakTopTie (orderByStrategy policy.strategy left
        (score left policy.effectiveWeights) action) action).1 := by
  by_cases none : survivors policy req (byGateway candidates) = []
  · simp only [Policy.decide, none, if_true]
    cases policy.strategy <;> simp [orderByStrategy, sortStable, explain, breakTopTie, rankFrom]
  · exact if_neg none

theorem perm_selections (policy : Policy F) (candidates : List (Candidate F)) (planID : PlanID)
    (now : Time) :
    ((policy.decide req candidates planID now).1.selections.map (·.gatewayID)).Perm
      ((survivors policy req (byGateway candidates)).map Candidate.gatewayID) := by
  rw [selections_decide, map_gatewayID_of_place (map_place_rankFrom ..)]
  exact ((perm_breakTopTie _ _).map _).trans (perm_orderByStrategy ..)

/-- The plan holds exactly the gateways of the candidates that no filter removes: no score
brings one back, and no order loses one. -/
theorem mem_plan_decide {policy : Policy F} {candidates : List (Candidate F)}
    {planID : PlanID} {now : Time} {g : GatewayID} :
    (∃ s ∈ (policy.decide req candidates planID now).1.plan.selections, s.gatewayID = g) ↔
      ∃ c ∈ candidates, c.gatewayID = g ∧
        hardFilter c req policy (policy.resolveFor req).1 = none := by
  have selected : (∃ s ∈ (policy.decide req candidates planID now).1.plan.selections,
      s.gatewayID = g) ↔
        g ∈ (policy.decide req candidates planID now).1.selections.map (·.gatewayID) := by
    simp [Decision.plan]
  rw [selected, (perm_selections policy candidates planID now).mem_iff]
  simp only [survivors, byGateway, List.mem_map, List.mem_filter, List.mem_mergeSort,
    Option.isNone_iff_eq_none]
  exact exists_congr fun c => by tauto

end Model

variable {F : Type} {policy : Policy F} {req : RequestContext}
  {candidates others : List (Candidate F)}

/-- Sorting candidates of distinct gateways forgets the order they came in. -/
theorem byGateway_eq_of_perm (distinct : (candidates.map Candidate.gatewayID).Nodup)
    (same : others.Perm candidates) : byGateway others = byGateway candidates := by
  have sorted (l : List (Candidate F)) :
      (byGateway l).Pairwise fun a b => (!decide (b.gatewayID < a.gatewayID)) = true := by
    refine List.pairwise_mergeSort (fun a b c ab bc => ?_) (fun a b => ?_) l
    · simp only [Bool.not_eq_true', decide_eq_false_iff_not, not_lt] at ab bc ⊢
      exact ab.trans bc
    · simp only [Bool.or_eq_true, Bool.not_eq_true', decide_eq_false_iff_not, not_lt]
      exact le_total _ _
  have perm : (byGateway others).Perm (byGateway candidates) :=
    (List.mergeSort_perm others _).trans (same.trans (List.mergeSort_perm candidates _).symm)
  refine perm.eq_of_pairwise (fun a b ha hb ab ba => ?_) (sorted others) (sorted candidates)
  simp only [Bool.not_eq_true', decide_eq_false_iff_not, not_lt] at ab ba
  have mem {c : Candidate F} (mem : c ∈ byGateway candidates) : c ∈ candidates :=
    List.mem_mergeSort.mp mem
  exact List.inj_on_of_nodup_map distinct (mem (perm.mem_iff.mp ha)) (mem hb) (ab.antisymm ba)

theorem map_rank_rankFrom (n : Nat) (l : List (Ranked F)) :
    (rankFrom n l).map (·.rank) = List.range' n (rankFrom n l).length := by
  induction l generalizing n with
  | nil => rfl
  | cons s rest ih => simp [rankFrom, ih, List.range'_succ]

theorem map_gatewayID_rejections :
    (rejections policy req candidates).map Rejection.gatewayID =
      (candidates.filter fun c =>
        !(hardFilter c req policy (policy.resolveFor req).1).isNone).map Candidate.gatewayID := by
  unfold rejections
  induction candidates with
  | nil => rfl
  | cons c rest ih =>
    cases dropped : hardFilter c req policy (policy.resolveFor req).1 with
    | none | some why => simp [dropped, ih]

variable [Scores F]

theorem perm_selections_rejections (planID : PlanID) (now : Time) :
    ((policy.decide req candidates planID now).1.selections.map (·.gatewayID) ++
      (policy.decide req candidates planID now).1.rejections.map (·.gatewayID)).Perm
        (candidates.map Candidate.gatewayID) := by
  have rejected : (policy.decide req candidates planID now).1.rejections =
      rejections policy req (byGateway candidates) := rfl
  rw [rejected, map_gatewayID_rejections]
  refine ((perm_selections policy candidates planID now).append_right _).trans ?_
  rw [survivors, ← List.map_append]
  exact ((List.filter_append_perm _ _).trans (List.mergeSort_perm candidates _)).map _

theorem decide_order_free (planID : PlanID) (now : Time)
    (distinct : (candidates.map Candidate.gatewayID).Nodup) (same : others.Perm candidates) :
    policy.decide req others planID now = policy.decide req candidates planID now ∧
      ((policy.decide req candidates planID now).1.selections.map (·.gatewayID) ++
        (policy.decide req candidates planID now).1.rejections.map (·.gatewayID)).Perm
          (candidates.map Candidate.gatewayID) ∧
      (∀ c ∈ candidates, hardFilter c req policy (policy.resolveFor req).1 ≠ none →
        c.gatewayID ∉ (policy.decide req candidates planID now).1.selections.map (·.gatewayID)) ∧
      (policy.decide req candidates planID now).1.selections.map (·.rank) =
        List.range' 1 (policy.decide req candidates planID now).1.selections.length := by
  refine ⟨?_, perm_selections_rejections planID now, ?_, ?_⟩
  · simp only [Policy.decide, byGateway_eq_of_perm distinct same]
  · intro c mem dropped selected
    rw [(perm_selections policy candidates planID now).mem_iff] at selected
    obtain ⟨d, left, is⟩ := List.mem_map.mp selected
    obtain ⟨offered, kept⟩ := List.mem_filter.mp left
    have : d = c := List.inj_on_of_nodup_map distinct (List.mem_mergeSort.mp offered) mem is
    rw [this] at kept
    exact dropped (Option.isNone_iff_eq_none.mp kept)
  · rw [selections_decide]
    exact map_rank_rankFrom 1 _

/-! The strategy's order, for numbers that compare as those of IEEE 754 do. -/

/-- What `<` and `==` obey among numbers; only NaN is not equal to itself. -/
class LawfulScores (F : Type) [Scores F] : Prop where
  asymm {a b : F} : a < b → ¬ b < a
  cotrans {a b c : F} : (b == b) = true → a < c → a < b ∨ b < c
  beq_iff {a b : F} : (a == a) = true → (b == b) = true → ((a == b) = true ↔ ¬ a < b ∧ ¬ b < a)

instance : LawfulScores ℚ where
  asymm := lt_asymm
  cotrans {a b c} _ less := (lt_or_ge a b).imp_right (·.trans_lt less)
  beq_iff _ _ := by rw [beq_iff_eq, not_lt, not_lt, le_antisymm_iff, and_comm]

section Order

variable {action : Action} {left : List (Candidate F)} {sel : List (Ranked F)} (s : Strategy)

/-- A strategy orders the plan by the cost, the place in the configured chain, or the score. -/
def Strategy.Precedes (left : List (Candidate F)) (action : Action) (a b : GatewayID × F) : Prop :=
  match s with
  | .pinned => True
  | .leastCost => costOf left a.1 ≤ costOf left b.1
  | .priorityWithFallback => positionOf action a.1 ≤ positionOf action b.1
  | .weightedScore | .other _ => ¬ a.2 < b.2

def InOrder (left : List (Candidate F)) (action : Action) (l : List (Ranked F)) : Prop :=
  (l.map Ranked.place).Pairwise (s.Precedes left action)

/-- The near-tie rule puts the second of two selections first. -/
def Overtakes (primary : GatewayID) (a b : GatewayID × F) : Prop :=
  ¬ (if a.2 - b.2 < 0.0 then -(a.2 - b.2) else a.2 - b.2) > 0.02 ∧
    (b.1 = primary ∧ a.1 ≠ primary ∨
      (b.1 = primary ↔ a.1 = primary) ∧ (a.2 == b.2) = true ∧ b.1 < a.1)

theorem breakTopTie_cons_cons (a b : Ranked F) (rest : List (Ranked F)) (action : Action) :
    (breakTopTie (a :: b :: rest) action).1 = b :: a :: rest ∧
        Overtakes action.primary a.place b.place ∨
      (breakTopTie (a :: b :: rest) action).1 = a :: b :: rest ∧
        ¬ Overtakes action.primary a.place b.place := by
  dsimp only [breakTopTie, Overtakes, Ranked.place]
  generalize (if a.score - b.score < 0.0 then -(a.score - b.score) else a.score - b.score) = gap
  split_ifs with far promoted kept differ lower
  · exact .inr ⟨rfl, fun h => h.1 far⟩
  · exact .inl ⟨rfl, far, .inl promoted⟩
  · refine .inr ⟨rfl, ?_⟩
    rintro ⟨-, h | ⟨h, -⟩⟩
    · exact promoted h
    · exact kept.2 (h.mpr kept.1)
  · refine .inr ⟨rfl, ?_⟩
    rintro ⟨-, h | ⟨-, h, -⟩⟩
    · exact promoted h
    · simp [bne, h] at differ
  · exact .inl ⟨rfl, far, .inr ⟨by tauto, by simpa [bne] using differ, lower⟩⟩
  · refine .inr ⟨rfl, ?_⟩
    rintro ⟨-, h | ⟨-, -, h⟩⟩
    · exact promoted h
    · exact lower h

/-- Only the near-tie rule takes a plan out of its strategy's order, where the two it swaps may not
stand the other way round. -/
theorem breakTopTie_inOrder_iff {s : Strategy} (sorted : InOrder s left action sel) :
    InOrder s left action (breakTopTie sel action).1 ↔
      ∀ a b rest, sel.map Ranked.place = a :: b :: rest → Overtakes action.primary a b →
        s.Precedes left action b a := by
  match sel with
  | [] | [_] => simpa [breakTopTie] using sorted
  | a :: b :: rest =>
    simp only [List.map_cons, List.cons.injEq]
    rcases breakTopTie_cons_cons a b rest action with ⟨swapped, overtakes⟩ | ⟨kept, stays⟩
    · rw [swapped]
      simp only [InOrder, List.map_cons, List.pairwise_cons, List.mem_cons,
        forall_eq_or_imp] at sorted ⊢
      constructor
      · rintro h _ _ _ ⟨rfl, rfl, -⟩ -
        exact h.1.1
      · intro h
        exact ⟨⟨h _ _ _ ⟨rfl, rfl, rfl⟩ overtakes, sorted.2.1⟩, sorted.1.2, sorted.2.2⟩
    · rw [kept]
      refine ⟨?_, fun _ => sorted⟩
      rintro - _ _ _ ⟨rfl, rfl, -⟩ overtakes
      exact absurd overtakes stays

variable [LawfulScores F]

/-- No number that the comparators read of the selection is NaN. -/
def Numbers (left : List (Candidate F)) (r : Ranked F) : Prop :=
  (r.score == r.score) = true ∧
    (healthOf left r.gatewayID == healthOf left r.gatewayID) = true

section Comparator

variable {a b c : Ranked F} (na : Numbers left a) (nb : Numbers left b) (nc : Numbers left c)

include na nb nc in
theorem less_trans (ba : s.less left action b a = false) (cb : s.less left action c b = false) :
    s.less left action c a = false := by
  cases s <;> simp only [Strategy.less, lessByCost, lessByPosition, lessByScore, Numbers, bne] at * <;>
    grind [LawfulScores.asymm, LawfulScores.cotrans, LawfulScores.beq_iff]

include na nb in
theorem less_asymm (ab : s.less left action a b = true) : s.less left action b a = false := by
  cases s <;> simp only [Strategy.less, lessByCost, lessByPosition, lessByScore, Numbers, bne] at * <;>
    grind [LawfulScores.asymm, LawfulScores.beq_iff]

include na nb in
theorem precedes_of_less (ba : s.less left action b a = false) :
    s.Precedes left action a.place b.place := by
  cases s <;>
    simp only [Strategy.less, lessByCost, lessByPosition, lessByScore, Numbers, Strategy.Precedes,
      Ranked.place, bne] at * <;>
    grind [LawfulScores.asymm, LawfulScores.beq_iff]

include na nb in
theorem gatewayID_eq_of_ties (moves : s ≠ .pinned) (ab : s.less left action a b = false)
    (ba : s.less left action b a = false) : a.gatewayID = b.gatewayID := by
  cases s <;> simp only [Strategy.less, lessByCost, lessByPosition, lessByScore, Numbers, bne] at * <;>
    grind [LawfulScores.beq_iff]

end Comparator

variable {l : List (Ranked F)} (numbers : ∀ r ∈ l, Numbers left r)

include numbers in
theorem sortStable_pairwise :
    (sortStable (s.less left action) l).Pairwise fun a b => s.less left action b a = false := by
  obtain ⟨l, rfl⟩ : ∃ l' : List { r // Numbers left r }, l'.map Subtype.val = l :=
    ⟨l.attachWith _ numbers, List.attachWith_map_subtype_val _⟩
  rw [sortStable, ← List.map_mergeSort (r := fun a b => !s.less left action b.1 a.1)
    (fun _ _ _ _ => rfl), List.pairwise_map]
  refine (List.pairwise_mergeSort (fun a b c ab bc => ?_) (fun a b => ?_) l).imp
    (Bool.not_eq_true' _).mp
  · rw [Bool.not_eq_true'] at *
    exact less_trans s a.2 b.2 c.2 ab bc
  · cases ba : s.less left action b.1 a.1 with
    | false => rfl
    | true => simp [less_asymm s b.2 a.2 ba]

include numbers in
theorem sortStable_inOrder : InOrder s left action (sortStable (s.less left action) l) := by
  refine List.pairwise_map.mpr ((sortStable_pairwise s numbers).imp_of_mem fun ha hb before => ?_)
  exact precedes_of_less s (numbers _ (List.mem_mergeSort.mp ha))
    (numbers _ (List.mem_mergeSort.mp hb)) before

include numbers in
/-- The comparator leaves no choice but the order of the sort. -/
theorem sortStable_eq_of_perm (distinct : (l.map (·.gatewayID)).Nodup) (moves : s ≠ .pinned)
    {m : List (Ranked F)} (same : m.Perm l)
    (sorted : m.Pairwise fun a b => s.less left action b a = false) :
    sortStable (s.less left action) l = m := by
  have perm : (sortStable (s.less left action) l).Perm l := List.mergeSort_perm _ _
  refine (perm.trans same.symm).eq_of_pairwise (fun a b ha hb ab ba => ?_)
    (sortStable_pairwise s numbers) sorted
  have ha := perm.mem_iff.mp ha
  have hb := same.mem_iff.mp hb
  exact List.inj_on_of_nodup_map distinct ha hb
    (gatewayID_eq_of_ties s (numbers a ha) (numbers b hb) moves ba ab)

end Order

/-- The survivors with their scores, before they are sorted. -/
def scored (policy : Policy F) (req : RequestContext) (candidates : List (Candidate F)) :
    List (Ranked F) :=
  let left := survivors policy req (byGateway candidates)
  List.zipWith selectionOf left (score left policy.effectiveWeights)

def atCost (g : GatewayID) (cost : Int64) : Candidate ℚ :=
  { gatewayID := g, tenantEntitled := true, residencyCompliant := true, merchantConfigured := true
    certified := true, circuitOpen := false, healthy := true, supportsCurrency := true
    supportsMethod := true, supportsCountry := true, supportsOperation := true
    supportsThreeDS := true, minAmountMinorUnits := 0, maxAmountMinorUnits := 0, healthScore := 1
    successRate := 1, costMinorUnits := cost, latencyP99MS := 100 }

def tenDollars : RequestContext :=
  { tenantID := "tnt_1", merchantID := "mer_1", paymentID := "pay_1", amount := ⟨1000, "USD"⟩
    paymentMethod := .card, payerCountry := "US", merchantCountry := "US", riskBand := .low
    threeDSRequired := false, isRetry := false, attemptedGateways := [], operation := .authorize }

def cheapest : Policy ℚ := ⟨.leastCost, "stripe", ["adyen"], [], ⟨1, 0, 0, 0⟩⟩

def chained : Policy ℚ :=
  ⟨.priorityWithFallback, "paypal", ["stripe", "adyen"], [], defaultWeights⟩

theorem decide_order_free_pair :
    cheapest.decide tenDollars [atCost "stripe" 90, atCost "adyen" 20] "rp_1" 0 =
      cheapest.decide tenDollars [atCost "adyen" 20, atCost "stripe" 90] "rp_1" 0 :=
  (decide_order_free "rp_1" 0 (by decide) (.swap _ _ _)).1

theorem mergeSort_pair {α : Type} (le : α → α → Bool) (a b : α) :
    [a, b].mergeSort le = if le a b then [a, b] else [b, a] := by
  simp [List.mergeSort, List.merge, List.MergeSort.Internal.splitInTwo]

theorem byGateway_pair {c d : Candidate ℚ} (sorted : ¬ d.gatewayID < c.gatewayID) :
    byGateway [c, d] = [c, d] := by
  rw [byGateway, mergeSort_pair, if_pos]
  rw [Bool.not_eq_true', decide_eq_false_iff_not]
  exact sorted

end PaymentsPlatform.Routing
