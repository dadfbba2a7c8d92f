/- layer: model of validation/engine (rule.go, set.go, report.go, mode.go), of ruledef, of the
     velocity rules and of l6response in validation/rules
   digest: Rule tables and their evaluation, and what is asserted of a gateway's answer. -/

import PaymentsPlatform.Payments.Payment

namespace PaymentsPlatform.Validation

open Pkg.ApiError

inductive Severity where
  | warning | error
  deriving DecidableEq

inductive Stage where
  | shadow | warn | enforce
  deriving DecidableEq

inductive Mode where
  | collectAll | shortCircuit
  deriving DecidableEq

structure Outcome where
  rule : String
  passed : Bool
  severity : Severity
  code : Option Code
  field : String
  message : String
  remediation : String
  stage : Stage

namespace Outcome

def pass (id : String) : Outcome where
  rule := id
  passed := true
  severity := .warning
  code := none
  field := ""
  message := ""
  remediation := ""
  stage := .enforce

def isBlocking (o : Outcome) : Bool := !o.passed && o.severity == .error && o.stage != .shadow

def detail (o : Outcome) : Detail where
  field := o.field
  code := (o.code.map Code.text).getD ""
  message :=
    if o.remediation = "" then o.message
    else if o.message = "" then o.remediation
    else o.message ++ " " ++ o.remediation
  ruleID := o.rule

end Outcome

/-- One row of a rule table.  A rule without a precondition applies to every subject. -/
structure Def (σ : Type) where
  id : String
  severity : Severity
  code : Option Code
  field : String
  remediation : String
  applies : σ → Bool := fun _ => true
  check : σ → String

variable {σ : Type}

namespace Def

def evaluate (d : Def σ) (subject : σ) : Outcome :=
  if d.check subject = "" then .pass d.id
  else
    { rule := d.id, passed := false, severity := d.severity, code := d.code, field := d.field,
      message := d.check subject, remediation := d.remediation, stage := .enforce }

/-- What `Evaluate` of a rule set makes of the outcome: the stage is stamped on it, and a rule
in its Warn stage does not reject. -/
def staged (d : Def σ) (stage : Stage) (subject : σ) : Outcome :=
  let out := d.evaluate subject
  { out with
    rule := d.id
    stage := stage
    severity :=
      if out.passed then d.severity
      else if stage = .warn ∧ out.severity = .error then .warning
      else out.severity }

/-- The subject satisfies the rule, or the rule has nothing to say about it. -/
def Holds (d : Def σ) (subject : σ) : Prop :=
  d.severity = .error → d.applies subject = true → d.check subject = ""

end Def

structure Report where
  outcomes : List Outcome
  skipped : List String
  shadowed : List Outcome

namespace Report

def failures (r : Report) : List Outcome := r.outcomes.filter fun o => !o.passed

def errors (r : Report) : List Outcome :=
  r.outcomes.filter fun o => !o.passed && o.severity == .error

def asError (r : Report) : Option GoError :=
  match r.errors with
  | [] => none
  | head :: rest =>
    let message :=
      if rest = [] then head.message
      else toString (rest.length + 1) ++ " validation rules were not satisfied; see details " ++
        "for the rule that produced each failure and how to fix it"
    some (.api { newError (head.code.getD .validationFailed) message with
                 details := r.failures.map Outcome.detail })

end Report

structure RuleSet (σ : Type) where
  mode : Mode
  rules : List (Def σ)
  stages : String → Stage

/-- The loop of `Evaluate`, over the rules that are left. -/
def evaluateFrom (mode : Mode) (stages : String → Stage) (subject : σ) (rep : Report) :
    List (Def σ) → Report
  | [] => rep
  | d :: rest =>
    if ¬ d.applies subject then
      evaluateFrom mode stages subject { rep with skipped := rep.skipped ++ [d.id] } rest
    else
      let out := d.staged (stages d.id) subject
      if stages d.id = .shadow then
        evaluateFrom mode stages subject { rep with shadowed := rep.shadowed ++ [out] } rest
      else
        let rep := { rep with outcomes := rep.outcomes ++ [out] }
        if mode = .shortCircuit ∧ out.isBlocking then rep
        else evaluateFrom mode stages subject rep rest

def RuleSet.evaluate (rs : RuleSet σ) (subject : σ) : Report :=
  evaluateFrom rs.mode rs.stages subject { outcomes := [], skipped := [], shadowed := [] } rs.rules

theorem Report.asError_eq_none (r : Report) : r.asError = none ↔ r.errors = [] := by
  unfold asError
  cases r.errors with
  | nil | cons => simp

theorem Report.errors_append (rep : Report) (out : Outcome) :
    ({ rep with outcomes := rep.outcomes ++ [out] } : Report).errors =
      rep.errors ++ [out].filter fun o => !o.passed && o.severity == .error :=
  List.filter_append ..

theorem Def.staged_error {d : Def σ} {subject : σ} (applies : d.applies subject = true) :
    [d.staged .enforce subject].filter (fun o => !o.passed && o.severity == .error) = [] ↔
      d.Holds subject := by
  unfold Holds staged evaluate
  by_cases passes : d.check subject = ""
  · simp [passes, Outcome.pass]
  · simp [passes, applies]

theorem evaluateFrom_errors {mode : Mode} {stages : String → Stage} {subject : σ}
    {rules : List (Def σ)} (enforced : ∀ d ∈ rules, stages d.id = .enforce) (rep : Report) :
    (evaluateFrom mode stages subject rep rules).errors = [] ↔
      rep.errors = [] ∧ ∀ d ∈ rules, d.Holds subject := by
  induction rules generalizing rep with
  | nil => simp [evaluateFrom]
  | cons d rest ih =>
    have later : ∀ x ∈ rest, stages x.id = .enforce := fun x mem =>
      enforced x (List.mem_cons_of_mem _ mem)
    have stage : stages d.id = .enforce := enforced d List.mem_cons_self
    simp only [evaluateFrom, stage, List.forall_mem_cons, reduceCtorEq, if_false]
    by_cases applies : d.applies subject = true
    · rw [if_neg (not_not.mpr applies)]
      by_cases stops : mode = .shortCircuit ∧ (d.staged .enforce subject).isBlocking = true
      · -- the loop stops at a rule that does not hold
        rw [if_pos stops]
        have failing : ¬ d.Holds subject := by
          intro holds
          have none := (Def.staged_error applies).mpr holds
          simp only [Outcome.isBlocking, Bool.and_eq_true] at stops
          simp [stops.2.1.1, stops.2.1.2] at none
        have blocked := mt (Def.staged_error applies).mp failing
        rw [Report.errors_append, List.append_eq_nil_iff]
        exact ⟨fun h => absurd h.2 blocked, fun h => absurd h.2.1 failing⟩
      · rw [if_neg stops, ih later, Report.errors_append, List.append_eq_nil_iff, Def.staged_error applies]
        exact and_assoc
    · have holds : d.Holds subject := fun _ h => absurd h applies
      rw [if_pos applies, ih later]
      exact ⟨fun h => ⟨h.1, holds, h.2⟩, fun h => ⟨h.1, h.2.2⟩⟩

theorem RuleSet.accepts_iff (rs : RuleSet σ) (enforced : ∀ d ∈ rs.rules, rs.stages d.id = .enforce)
    (subject : σ) : (rs.evaluate subject).asError = none ↔ ∀ d ∈ rs.rules, d.Holds subject := by
  rw [Report.asError_eq_none, RuleSet.evaluate, evaluateFrom_errors enforced]
  exact and_iff_right rfl

namespace L5Payment

open Pkg (Money)

inductive Operation where
  | create | capture | refund | void
  deriving DecidableEq

structure ConfigSnapshot where
  dailyVolumeLimit : Money
  maxPaymentsPerMinute : Int
  maxPerCardPerHour : Int
  maxPerCustomerPerDay : Int
  maxDistinctCards : Int

structure VelocityCounters where
  countLastMinute : Int
  todayVolume : Money
  countForFingerprintLastHour : Int
  countForCustomerToday : Int
  distinctFingerprintsLastHour : Int
  attemptsLast15Min : Int
  declinesLast15Min : Int

structure Request where
  amount : Money
  fingerprint : String
  customerRef : String

/-- What the rules evaluate.  `rest` is what only the other rules of the level read. -/
structure Subject (ρ : Type) where
  op : Operation
  request : Request
  config : ConfigSnapshot
  velocity : VelocityCounters
  rest : ρ

structure Deps where
  customerDailyLimit : Int
  distinctCardsPerCustomerHour : Int
  declineRatioMinAttempts : Int
  declineRatioPercent : Int

def defaultDeps : Deps where
  customerDailyLimit := 20
  distinctCardsPerCustomerHour := 3
  declineRatioMinAttempts := 20
  declineRatioPercent := 60

def defaultInt (v fallback : Int) : Int := if v = 0 then fallback else v

section Rules

variable {ρ : Type}

def dailyVolumeWithinLimit : Def (Subject ρ) where
  id := "L5.DAILY_VOLUME_WITHIN_LIMIT"
  severity := .error
  code := some .amountExceedsLimit
  field := "/amount"
  remediation := "This payment would exceed your daily volume limit. Contact your platform " ++
    "administrator to raise it."
  applies s := s.op == .create && !s.config.dailyVolumeLimit.isZero
  check s :=
    match s.velocity.todayVolume.add s.request.amount with
    | .error _ =>
      "today's volume is tracked in " ++ s.velocity.todayVolume.currency ++
        ", which does not match this payment's currency"
    | .ok total =>
      match total.greaterThan s.config.dailyVolumeLimit with
      | .error _ =>
        "the daily volume limit is denominated in a different currency to this payment"
      | .ok true =>
        "this payment would take today's volume to " ++ total.string ++
          ", above your daily limit of " ++ s.config.dailyVolumeLimit.string
      | .ok false => ""

def velocityPaymentsPerMinute : Def (Subject ρ) where
  id := "L5.VELOCITY_PAYMENTS_PER_MINUTE"
  severity := .error
  code := some .velocityLimitExceeded
  field := "/merchantId"
  remediation := "Payment rate limit reached. Retry shortly."
  applies s := s.op == .create && s.config.maxPaymentsPerMinute > 0
  check s :=
    if s.velocity.countLastMinute < s.config.maxPaymentsPerMinute then ""
    else
      "this merchant has reached its limit of " ++ toString s.config.maxPaymentsPerMinute ++
        " payments per minute"

def velocityPerCardPerHour : Def (Subject ρ) where
  id := "L5.VELOCITY_PER_CARD_PER_HOUR"
  severity := .error
  code := some .velocityLimitExceeded
  field := "/paymentMethodToken"
  remediation := "This payment method has been used too many times in the last hour."
  applies s := s.request.fingerprint != "" && s.config.maxPerCardPerHour > 0
  check s :=
    if s.velocity.countForFingerprintLastHour < s.config.maxPerCardPerHour then ""
    else
      "this payment method has been used " ++ toString s.velocity.countForFingerprintLastHour ++
        " times in the last hour"

/-- Without a limit of the merchant's own, the platform's applies. -/
def velocityPerCustomerPerDay (d : Deps) : Def (Subject ρ) where
  id := "L5.VELOCITY_PER_CUSTOMER_PER_DAY"
  severity := .error
  code := some .velocityLimitExceeded
  field := "/customer/reference"
  remediation := "This customer has reached the daily payment limit."
  applies s := s.request.customerRef != ""
  check s :=
    let limit := defaultInt s.config.maxPerCustomerPerDay (defaultInt d.customerDailyLimit 20)
    if s.velocity.countForCustomerToday < limit then ""
    else
      "this customer has made " ++ toString s.velocity.countForCustomerToday ++
        " payments today; the limit is " ++ toString limit

def velocityDistinctCardsPerCustomer (d : Deps) : Def (Subject ρ) where
  id := "L5.VELOCITY_DISTINCT_CARDS_PER_CUSTOMER"
  severity := .error
  code := some .riskDeclined
  field := "/customer/reference"
  remediation := "Too many payment methods have been attempted for this customer."
  applies s := s.request.customerRef != ""
  check s :=
    let limit := defaultInt s.config.maxDistinctCards (defaultInt d.distinctCardsPerCustomerHour 3)
    if s.velocity.distinctFingerprintsLastHour ≤ limit then ""
    else
      "this customer has attempted " ++ toString s.velocity.distinctFingerprintsLastHour ++
        " distinct payment methods in the last hour"

def velocityDeclineRatio (d : Deps) : Def (Subject ρ) where
  id := "L5.VELOCITY_DECLINE_RATIO"
  severity := .error
  code := some .riskDeclined
  field := "/merchantId"
  remediation := "An elevated decline rate was detected; payments are temporarily paused."
  applies s := s.velocity.attemptsLast15Min ≥ defaultInt d.declineRatioMinAttempts 20
  check s :=
    let pct := defaultInt d.declineRatioPercent 60
    if s.velocity.declinesLast15Min * 100 ≤ s.velocity.attemptsLast15Min * pct then ""
    else "the recent decline ratio is above " ++ toString pct ++ "%"

def velocityDefs (d : Deps) : List (Def (Subject ρ)) :=
  [dailyVolumeWithinLimit, velocityPaymentsPerMinute, velocityPerCardPerHour,
    velocityPerCustomerPerDay d, velocityDistinctCardsPerCustomer d, velocityDeclineRatio d]

/-- `Rules`: the velocity rules among the others of the level. -/
def rules (d : Deps) (before after : List (Def (Subject ρ))) : RuleSet (Subject ρ) where
  mode := .collectAll
  rules := before ++ velocityDefs d ++ after
  stages := fun _ => .enforce

end Rules

section Passing

variable {ρ : Type} {s : Subject ρ}

theorem passed {cond : Prop} [Decidable cond] {message : String} (message_ne : message ≠ "")
    (passes : (if cond then "" else message) = "") : cond := by
  by_contra failed
  rw [if_neg failed] at passes
  exact message_ne passes

theorem dailyVolume_room (holds : dailyVolumeWithinLimit.Holds s) (create : s.op = .create)
    (limited : s.config.dailyVolumeLimit.isZero = false) :
    s.request.amount.currency = s.config.dailyVolumeLimit.currency ∧
      s.velocity.todayVolume.minor + s.request.amount.minor ≤ s.config.dailyVolumeLimit.minor := by
  have passes := holds rfl (by simp [dailyVolumeWithinLimit, create, limited])
  simp only [dailyVolumeWithinLimit] at passes
  cases added : s.velocity.todayVolume.add s.request.amount with
  | error => simp [added] at passes
  | ok total =>
    obtain ⟨same, kept, sum⟩ := Money.add_ok added
    simp only [added] at passes
    by_cases currency : s.config.dailyVolumeLimit.currency = total.currency
    · rw [Money.greaterThan_of_currency_eq currency] at passes
      by_cases above : s.config.dailyVolumeLimit.minor < total.minor
      · simp [above] at passes
      · exact ⟨same.trans (kept.symm.trans currency.symm), by omega⟩
    · have foreign : total.greaterThan s.config.dailyVolumeLimit =
          .error (Money.mismatch total s.config.dailyVolumeLimit " vs ") := by
        rw [Money.greaterThan, Money.cmp, if_pos (Ne.symm currency)]
        rfl
      simp [foreign] at passes

theorem perMinute_room (holds : velocityPaymentsPerMinute.Holds s) (create : s.op = .create)
    (limited : 0 < s.config.maxPaymentsPerMinute) :
    s.velocity.countLastMinute < s.config.maxPaymentsPerMinute :=
  passed (by simp) (holds rfl (by simp [velocityPaymentsPerMinute, create, limited]))

theorem perCard_room (holds : velocityPerCardPerHour.Holds s) (card : s.request.fingerprint ≠ "")
    (limited : 0 < s.config.maxPerCardPerHour) :
    s.velocity.countForFingerprintLastHour < s.config.maxPerCardPerHour :=
  passed (by simp) (holds rfl (by simp [velocityPerCardPerHour, card, limited]))

theorem perCustomer_room {d : Deps} (holds : (velocityPerCustomerPerDay d).Holds s)
    (customer : s.request.customerRef ≠ "") (limited : 0 < s.config.maxPerCustomerPerDay) :
    s.velocity.countForCustomerToday < s.config.maxPerCustomerPerDay := by
  have below := passed (by simp) (holds rfl (by simp [velocityPerCustomerPerDay, customer]))
  rwa [defaultInt, if_neg limited.ne'] at below

end Passing

end L5Payment

namespace L6Response

open Payments (State DeclineReason machine)
open Pkg (Money Currency)

/-! The subject.  Fields left out of a record have Go's zero value. -/

inductive EventKind where
  | response | settlement | dispute
  deriving DecidableEq

/-- The adapter's classification of the gateway's answer. -/
inductive Outcome where
  | unknown | success | declined | requiresAction | pending | hardError
  deriving DecidableEq

instance : StringType Outcome where
  text
    | .unknown => ""
    | .success => "SUCCESS"
    | .declined => "DECLINED"
    | .requiresAction => "REQUIRES_ACTION"
    | .pending => "PENDING"
    | .hardError => "ERROR"

structure SettlementFields where
  settlementDate : Option Time := none
  netAmount : Money := ⟨0, ""⟩
  fee : Money := ⟨0, ""⟩
  payoutReference : String := ""

structure DisputeFields where
  disputeID : String := ""
  reasonCode : String := ""
  amount : Money := ⟨0, ""⟩
  evidenceDeadline : Option Time := none

structure Normalized where
  parsed : Bool := false
  schemaComplete : Bool := false
  missingFields : List String := []
  apiVersion : String := ""
  gatewayStatus : String := ""
  statusMappable : Bool := false
  outcome : Outcome := .unknown
  transactionID : String := ""
  echoedIdempotencyKey : String := ""
  echoedAmount : Money := ⟨0, ""⟩
  echoedCurrency : Currency := ""
  capturedTotal : Money := ⟨0, ""⟩
  refundedTotal : Money := ⟨0, ""⟩
  declineReasonRaw : String := ""
  declineReason : DeclineReason := .unset
  /-- The empty state stands for none. -/
  mappedState : Option State := none
  redirectURL : String := ""
  challengePayload : String := ""
  resumeReference : String := ""
  settlement : SettlementFields := {}
  dispute : DisputeFields := {}

structure Attempt where
  operation : Operation
  dispatchedAmount : Money
  gatewayIdempotencyKey : String := ""
  wasRetried : Bool := false
  previousTransactionID : String := ""
  gatewayEchoesIdempotencyKey : Bool := false

structure PaymentState where
  present : Bool
  current : State
  authorizedAmount : Money
  capturedTotal : Money

structure Signature where
  inboundWebhook : Bool := false
  headerPresent : Bool := false
  verified : Bool := false
  timestamp : Option Time := none
  eventID : String := ""
  nonceSeen : Bool := false

structure Subject where
  kind : EventKind
  attempt : Attempt
  payment : PaymentState
  /-- The raw body is not empty and is valid JSON. -/
  rawIsJSON : Bool := false
  normalized : Normalized
  pinnedAPIVersion : String := ""
  gatewayEchoesAPIVersion : Bool := false
  signature : Signature := {}
  now : Time

structure Deps where
  signatureSkew : Time
  allowedOutcomes : List (Operation × List Outcome)
  knownDeclineReasons : List DeclineReason

/-- One second, in the nanoseconds of a clock reading. -/
def second : Time := 1000000000

def defaultDeps : Deps where
  signatureSkew := 5 * 60 * second
  allowedOutcomes :=
    [(.authorize, [.success, .declined, .requiresAction, .pending, .hardError]),
      (.capture, [.success, .declined, .pending, .hardError]),
      (.refund, [.success, .declined, .pending, .hardError]),
      (.void, [.success, .declined, .hardError]),
      (.lookup, [.success, .declined, .pending, .requiresAction, .hardError])]
  knownDeclineReasons :=
    [.issuerUnavailable, .tryAgainLater, .processingError, .doNotHonorSoft, .insufficientFunds,
      .cardExpired, .incorrectNumber, .incorrectCVC, .stolenCard, .lostCard, .fraudulent,
      .restrictedCard, .invalidAccount, .currencyNotSupp, .authRequired, .blockedByRisk]

def quote (s : String) : String := if s = "" then "(empty)" else "`" ++ s ++ "`"

/-- The least int64 is its own negation, and its digits are never written. -/
def itoa64 (n : Int64) : String := if n = Int64.minValue then "-" else toString n.toInt

def success (s : Subject) : Bool := s.normalized.outcome == .success

def declined (s : Subject) : Bool := s.normalized.outcome == .declined

def signatureDefs (d : Deps) : List (Def Subject) :=
  [{ id := "L6.SIGNATURE_PRESENT", severity := .error, code := some .webhookSignatureInvalid
     field := "signature"
     remediation := "Reject with 401 and raise a security event; verify the endpoint's registered secret."
     applies := fun s => s.signature.inboundWebhook
     check := fun s =>
       if s.signature.headerPresent then "" else "the inbound webhook carries no signature header" },
   { id := "L6.SIGNATURE_VERIFIES", severity := .error, code := some .webhookSignatureInvalid
     field := "signature"
     remediation := "Reject with 401, raise a security event, and do not parse the body further."
     applies := fun s => s.signature.inboundWebhook && s.signature.headerPresent
     check := fun s =>
       if s.signature.verified then "" else "the webhook signature did not verify over the raw body" },
   { id := "L6.SIGNATURE_TIMESTAMP_WITHIN_SKEW", severity := .error
     code := some .webhookReplayDetected
     field := "signature"
     remediation := "Reject with 401. If this spikes, check NTP on the ingress hosts."
     applies := fun s => s.signature.inboundWebhook && s.signature.timestamp.isSome
     check := fun s =>
       let skew := if d.signatureSkew = 0 then defaultDeps.signatureSkew else d.signatureSkew
       let delta : Int := (s.now - s.signature.timestamp.getD 0).natAbs
       if delta ≤ skew then ""
       else "the signed timestamp is " ++ toString (delta / second) ++
         "s from now; the tolerance is " ++ toString (skew.tdiv second) ++ "s" },
   { id := "L6.SIGNATURE_NONCE_NOT_REPLAYED", severity := .warning
     code := some .webhookReplayDetected
     field := "signature"
     remediation := "Drop the duplicate silently and increment the duplicate-webhook counter; this is not an error."
     applies := fun s => s.signature.inboundWebhook && s.signature.eventID != ""
     check := fun s =>
       if !s.signature.nonceSeen then "" else "this webhook event has already been processed" }]

def shapeDefs : List (Def Subject) :=
  [{ id := "L6.RESPONSE_IS_WELL_FORMED", severity := .error, code := some .gatewayContractViolation
     field := "body"
     remediation := "Classify the attempt as ERROR and retry it; raise an adapter defect if this is sustained."
     check := fun s =>
       if s.normalized.parsed then ""
       else if s.rawIsJSON then
         "the adapter could not interpret a syntactically valid response body"
       else "the gateway response body did not parse" },
   { id := "L6.RESPONSE_MATCHES_ADAPTER_SCHEMA", severity := .error
     code := some .gatewayContractViolation
     field := "body"
     remediation := "Classify the attempt as ERROR and alert: the gateway has changed its contract."
     applies := fun s => s.normalized.parsed
     check := fun s =>
       if s.normalized.schemaComplete && s.normalized.missingFields.isEmpty then ""
       else if !s.normalized.missingFields.isEmpty then
         "the response is missing: " ++ ", ".intercalate s.normalized.missingFields
       else "the response does not match the adapter's schema for this operation" },
   { id := "L6.RESPONSE_API_VERSION_MATCHES_PINNED", severity := .warning, code := none
     field := "headers"
     remediation := "Record the discrepancy: a silent gateway version change is an incident precursor."
     applies := fun s => s.gatewayEchoesAPIVersion && s.pinnedAPIVersion != ""
     check := fun s =>
       if s.normalized.apiVersion = s.pinnedAPIVersion then ""
       else "the gateway answered with API version " ++ quote s.normalized.apiVersion ++
         " against a pinned " ++ quote s.pinnedAPIVersion },
   { id := "L6.RESPONSE_HAS_TRANSACTION_ID", severity := .error
     code := some .gatewayContractViolation
     field := "/transactionId"
     remediation := "Classify the attempt as TIMEOUT_UNKNOWN: without an identifier the outcome cannot be looked up later."
     applies := fun s => s.normalized.parsed && s.normalized.outcome != .hardError
     check := fun s =>
       if s.normalized.transactionID ≠ "" then "" else "the gateway returned no transaction reference" },
   { id := "L6.TRANSACTION_ID_STABLE_ACROSS_RETRIES", severity := .error
     code := some .gatewayContractViolation
     field := "/transactionId"
     remediation := "Two authorizations may exist. Emit payment.reconciliation_required.v1 and page: gateway idempotency did not hold."
     applies := fun s => s.attempt.wasRetried && s.attempt.previousTransactionID != "" &&
       s.normalized.transactionID != ""
     check := fun s =>
       if s.normalized.transactionID = s.attempt.previousTransactionID then ""
       else "the retry returned a different transaction reference from the original call" },
   { id := "L6.RESPONSE_CORRELATES_TO_ATTEMPT", severity := .error
     code := some .gatewayContractViolation
     field := "/idempotencyKey"
     remediation := "Discard the response, classify TIMEOUT_UNKNOWN and reconcile: a mismatch means a crossed response."
     applies := fun s =>
       s.attempt.gatewayEchoesIdempotencyKey && s.attempt.gatewayIdempotencyKey != ""
     check := fun s =>
       if s.normalized.echoedIdempotencyKey = s.attempt.gatewayIdempotencyKey then ""
       else "the response echoes a different idempotency key from the one dispatched" }]

/-- A total the gateway reports against the one it must stay within. -/
def withinTotal (reported limit : Money) (foreign above : String) : String :=
  match reported.greaterThan limit with
  | .error _ => foreign
  | .ok true => above
  | .ok false => ""

def echoDefs : List (Def Subject) :=
  [{ id := "L6.AMOUNT_ECHO_MATCHES", severity := .error, code := some .gatewayContractViolation
     field := "/amount"
     remediation := "Do not transition the payment. Emit payment.reconciliation_required.v1 and page."
     applies := success
     check := fun s =>
       if s.normalized.echoedAmount.amount = s.attempt.dispatchedAmount.amount then ""
       else "the gateway echoed " ++ itoa64 s.normalized.echoedAmount.amount ++
         " minor units against a dispatched " ++ itoa64 s.attempt.dispatchedAmount.amount },
   { id := "L6.CURRENCY_ECHO_MATCHES", severity := .error, code := some .gatewayContractViolation
     field := "/currency"
     remediation := "Do not transition the payment. Emit payment.reconciliation_required.v1 and page; a currency mismatch is never recoverable automatically."
     applies := success
     check := fun s =>
       if s.normalized.echoedCurrency = s.attempt.dispatchedAmount.currency then ""
       else "the gateway echoed " ++ quote s.normalized.echoedCurrency ++
         " against a dispatched " ++ quote s.attempt.dispatchedAmount.currency },
   { id := "L6.CAPTURED_NOT_ABOVE_AUTHORIZED", severity := .error
     code := some .gatewayContractViolation
     field := "/capturedTotal"
     remediation := "Do not transition. Open a reconciliation exception at CRITICAL severity."
     applies := fun s => s.attempt.operation == .capture && s.payment.present
     check := fun s =>
       withinTotal s.normalized.capturedTotal s.payment.authorizedAmount
         "the echoed captured total is in a different currency from the authorization"
         "the gateway reports a captured total above the authorized amount" },
   { id := "L6.REFUNDED_NOT_ABOVE_CAPTURED", severity := .error
     code := some .gatewayContractViolation
     field := "/refundedTotal"
     remediation := "Do not transition. Open a reconciliation exception at CRITICAL severity."
     applies := fun s => s.attempt.operation == .refund && s.payment.present
     check := fun s =>
       withinTotal s.normalized.refundedTotal s.payment.capturedTotal
         "the echoed refunded total is in a different currency from the capture"
         "the gateway reports a refunded total above the captured total" }]

def statusDefs (d : Deps) : List (Def Subject) :=
  [{ id := "L6.STATUS_IS_MAPPABLE", severity := .error, code := some .gatewayContractViolation
     field := "/status"
     remediation := "Classify the attempt as TIMEOUT_UNKNOWN; never guess. Add the mapping and re-drive from the raw record."
     applies := fun s => s.normalized.parsed
     check := fun s =>
       if !s.normalized.statusMappable || s.normalized.outcome == .unknown then
         "gateway status " ++ quote s.normalized.gatewayStatus ++ " does not map to a domain outcome"
       else
         match d.allowedOutcomes.lookup s.attempt.operation with
         | none => ""
         | some allowed =>
           if allowed.contains s.normalized.outcome then ""
           else text s.normalized.outcome ++ " is not an outcome the adapter may return for " ++
             text s.attempt.operation },
   { id := "L6.DECLINE_REASON_IS_MAPPABLE", severity := .warning, code := some .gatewayDeclined
     field := "/declineReason"
     remediation := "Map to UNKNOWN_DECLINE, treat it as a hard decline, and alert: never fail over on an unmapped reason."
     applies := declined
     check := fun s =>
       if s.normalized.declineReason ≠ .unset ∧ s.normalized.declineReason ≠ .unknown then ""
       else "decline reason " ++ quote s.normalized.declineReasonRaw ++
         " does not map to a normalized reason" },
   { id := "L6.DECLINE_CLASS_IS_KNOWN", severity := .error, code := some .gatewayDeclined
     field := "/declineReason"
     remediation := "Treat an unclassified decline as HARD: failing over on one is card-testing behaviour."
     applies := declined
     check := fun s =>
       if d.knownDeclineReasons.contains s.normalized.declineReason then ""
       else "decline reason " ++ quote (text s.normalized.declineReason) ++
         " carries no hard/soft classification" },
   { id := "L6.THREE_DS_ACTION_HAS_PAYLOAD", severity := .error
     code := some .gatewayContractViolation
     field := "/nextAction"
     remediation := "Classify the attempt as ERROR: the customer cannot complete authentication without it."
     applies := fun s => s.normalized.outcome == .requiresAction
     check := fun s =>
       if s.normalized.redirectURL = "" ∧ s.normalized.challengePayload = "" then
         "the gateway requires customer action but returned no redirect or challenge"
       else if s.normalized.resumeReference = "" then
         "the gateway returned a challenge with no resume reference"
       else "" },
   { id := "L6.STATE_IS_REACHABLE_FROM_CURRENT", severity := .error
     code := some .invalidStateTransition
     field := "/status"
     remediation := "Do not apply the response. Park it in the exception queue: this is usually a late or out-of-order webhook."
     applies := fun s => s.payment.present && s.normalized.mappedState.isSome &&
       s.normalized.mappedState != some s.payment.current
     check := fun s =>
       match s.normalized.mappedState with
       | none => ""
       | some mapped =>
         if machine.canTransition s.payment.current mapped then ""
         else "the response maps to " ++ text mapped ++ ", which is not reachable from " ++
           text s.payment.current },
   { id := "L6.NO_SUCCESS_AFTER_TERMINAL_FAILURE", severity := .error
     code := some .invalidStateTransition
     field := "/status"
     remediation := "Money may have moved on a payment the client was told had failed. Open a CRITICAL reconciliation exception and page."
     applies := fun s => s.payment.present && s.payment.current.isTerminal &&
       !s.payment.current.isSuccessful
     check := fun s =>
       if s.normalized.outcome ≠ .success then ""
       else "the gateway reports success on a payment that is terminal in state " ++
         text s.payment.current }]

def recordDefs : List (Def Subject) :=
  [{ id := "L6.SETTLEMENT_FIELDS_PRESENT", severity := .error
     code := some .gatewayContractViolation
     field := "/settlement"
     remediation := "Park the settlement record: the ledger cannot be balanced without the fee."
     applies := fun s => s.kind == .settlement
     check := fun s =>
       let f := s.normalized.settlement
       if f.settlementDate.isNone then "the settlement record carries no settlement date"
       else if f.netAmount.isZero ∧ f.netAmount.currency = "" then
         "the settlement record carries no net amount"
       else if f.fee.currency = "" then "the settlement record carries no fee"
       else if f.payoutReference = "" then "the settlement record carries no payout reference"
       else "" },
   { id := "L6.DISPUTE_FIELDS_PRESENT", severity := .error, code := some .gatewayContractViolation
     field := "/dispute"
     remediation := "Park the dispute record: a dispute without a deadline cannot be worked."
     applies := fun s => s.kind == .dispute
     check := fun s =>
       let f := s.normalized.dispute
       if f.disputeID = "" then "the dispute record carries no dispute identifier"
       else if f.reasonCode = "" then "the dispute record carries no reason code"
       else if f.amount.currency = "" then "the dispute record carries no amount"
       else if f.evidenceDeadline.isNone then "the dispute record carries no evidence deadline"
       else "" }]

def defs (d : Deps) : List (Def Subject) :=
  signatureDefs d ++ shapeDefs ++ echoDefs ++ statusDefs d ++ recordDefs

def rules (d : Deps) : RuleSet Subject where
  mode := .shortCircuit
  rules := defs d
  stages := fun _ => .enforce

end L6Response

end PaymentsPlatform.Validation
