/- layer: model of domain/payment (state.go, attempt.go, refund.go, payment.go, events.go)
   digest: The payment aggregate with its attempts and refunds, and as a transition system. -/

import Mathlib.Tactic.Common
import PaymentsPlatform.Lib.TransitionSystem
import PaymentsPlatform.Pkg.Money
import PaymentsPlatform.Shared.Types

namespace PaymentsPlatform.Payments

section Parts

/-- A payment state.  `other` is a text that names none of them, which only a
stored row can carry. -/
inductive State where
  | created | requiresAction | processing | pending | authorized | captured | settled
  | partiallyRefunded | refunded | voided | failed | canceled | expired | disputed
  | other (raw : String)
  deriving DecidableEq

instance : StringType State where
  text
    | .created => "CREATED"
    | .requiresAction => "REQUIRES_ACTION"
    | .processing => "PROCESSING"
    | .pending => "PENDING"
    | .authorized => "AUTHORIZED"
    | .captured => "CAPTURED"
    | .settled => "SETTLED"
    | .partiallyRefunded => "PARTIALLY_REFUNDED"
    | .refunded => "REFUNDED"
    | .voided => "VOIDED"
    | .failed => "FAILED"
    | .canceled => "CANCELED"
    | .expired => "EXPIRED"
    | .disputed => "DISPUTED"
    | .other raw => raw

def allStates : List State :=
  [.created, .requiresAction, .processing, .pending, .authorized, .captured, .settled,
    .partiallyRefunded, .refunded, .voided, .failed, .canceled, .expired, .disputed]

def terminalStates : List State := [.failed, .canceled, .voided, .expired]

def machine : StateMachine State where
  name := "payment"
  initial := .created
  all := allStates
  terminal := terminalStates
  transitions :=
    [(.created, .processing), (.created, .requiresAction), (.created, .failed),
      (.created, .canceled),
      (.requiresAction, .processing), (.requiresAction, .failed), (.requiresAction, .canceled),
      (.requiresAction, .expired),
      (.processing, .authorized), (.processing, .captured), (.processing, .pending),
      (.processing, .failed), (.processing, .requiresAction),
      (.pending, .authorized), (.pending, .captured), (.pending, .failed), (.pending, .expired),
      (.authorized, .captured), (.authorized, .voided), (.authorized, .expired),
      (.authorized, .failed),
      (.captured, .settled), (.captured, .partiallyRefunded), (.captured, .refunded),
      (.captured, .disputed),
      (.settled, .partiallyRefunded), (.settled, .refunded), (.settled, .disputed),
      (.partiallyRefunded, .partiallyRefunded), (.partiallyRefunded, .refunded),
      (.partiallyRefunded, .disputed),
      -- a dispute can be filed against money already returned in full
      (.refunded, .disputed),
      (.disputed, .refunded), (.disputed, .captured), (.disputed, .settled)]
  initial_mem := by decide
  terminal_sub := by decide
  ends_mem := by decide
  terminal_final := by decide

namespace State

def isTerminal (s : State) : Bool := machine.isTerminal s

def isKnown (s : State) : Bool := machine.isKnown s

/-- Money has moved or is held in the merchant's favour. -/
def isSuccessful : State → Bool
  | .authorized | .captured | .settled | .partiallyRefunded => true
  | _ => false

def isInFlight (s : State) : Bool := s == .processing || s == .pending || s == .requiresAction

def allowsRefund : State → Bool
  | .captured | .settled | .partiallyRefunded => true
  | _ => false

end State

/-- An attempt outcome; `other` as for `State`, and as an argument of `Reconcile`. -/
inductive AttemptOutcome where
  | pending | dispatched | success | declined | error | timeoutUnknown
  | other (raw : String)
  deriving DecidableEq

instance : StringType AttemptOutcome where
  text
    | .pending => "PENDING"
    | .dispatched => "DISPATCHED"
    | .success => "SUCCESS"
    | .declined => "DECLINED"
    | .error => "ERROR"
    | .timeoutUnknown => "TIMEOUT_UNKNOWN"
    | .other raw => raw

def allAttemptOutcomes : List AttemptOutcome :=
  [.pending, .dispatched, .success, .declined, .error, .timeoutUnknown]

def attemptMachine : StateMachine AttemptOutcome where
  name := "payment_attempt"
  initial := .pending
  all := allAttemptOutcomes
  terminal := [.success, .declined, .error]
  transitions :=
    [(.pending, .dispatched), (.pending, .error),
      (.dispatched, .success), (.dispatched, .declined), (.dispatched, .error),
      (.dispatched, .timeoutUnknown),
      (.timeoutUnknown, .success), (.timeoutUnknown, .declined), (.timeoutUnknown, .error)]
  initial_mem := by decide
  terminal_sub := by decide
  ends_mem := by decide
  terminal_final := by decide

def AttemptOutcome.requiresReconciliation (o : AttemptOutcome) : Bool := o == .timeoutUnknown

inductive DeclineReason where
  | unset
  | issuerUnavailable | tryAgainLater | processingError | doNotHonorSoft
  | insufficientFunds | cardExpired | incorrectNumber | incorrectCVC | stolenCard | lostCard
  | fraudulent | restrictedCard | invalidAccount | currencyNotSupp | authRequired | blockedByRisk
  | unknown
  | other (raw : String)
  deriving DecidableEq

instance : StringType DeclineReason where
  text
    | .unset => ""
    | .issuerUnavailable => "ISSUER_UNAVAILABLE"
    | .tryAgainLater => "TRY_AGAIN_LATER"
    | .processingError => "PROCESSING_ERROR"
    | .doNotHonorSoft => "DO_NOT_HONOR"
    | .insufficientFunds => "INSUFFICIENT_FUNDS"
    | .cardExpired => "CARD_EXPIRED"
    | .incorrectNumber => "INCORRECT_NUMBER"
    | .incorrectCVC => "INCORRECT_CVC"
    | .stolenCard => "STOLEN_CARD"
    | .lostCard => "LOST_CARD"
    | .fraudulent => "FRAUDULENT"
    | .restrictedCard => "RESTRICTED_CARD"
    | .invalidAccount => "INVALID_ACCOUNT"
    | .currencyNotSupp => "CURRENCY_NOT_SUPPORTED"
    | .authRequired => "AUTHENTICATION_REQUIRED"
    | .blockedByRisk => "BLOCKED_BY_GATEWAY_RISK"
    | .unknown => "UNKNOWN"
    | .other raw => raw

/-- The soft declines: another gateway may answer differently. -/
def DeclineReason.permitsFailover : DeclineReason → Bool
  | .issuerUnavailable | .tryAgainLater | .processingError | .doNotHonorSoft => true
  | _ => false

def DeclineReason.orUnknown : DeclineReason → DeclineReason
  | .unset => .unknown
  | reason => reason

inductive CaptureMethod where
  | unset | automatic | manual
  | other (raw : String)
  deriving DecidableEq

instance : StringType CaptureMethod where
  text
    | .unset => ""
    | .automatic => "AUTOMATIC"
    | .manual => "MANUAL"
    | .other raw => raw

def CaptureMethod.isValid (c : CaptureMethod) : Bool := c == .automatic || c == .manual

open Pkg (Money)
open Pkg.ApiError (Code)

structure Attempt where
  id : AttemptID
  paymentID : PaymentID
  tenantID : TenantID
  gatewayID : GatewayID
  connectionID : ConnectionID
  operation : Operation
  sequence : Nat
  amount : Money
  outcome : AttemptOutcome
  gatewayRef : String
  idempotencyKey : String
  declineReason : DeclineReason
  errorCode : String
  errorMessage : String
  rawStatus : String
  networkAdviceNoRetry : Bool
  dispatchedAt : Option Time
  resolvedAt : Option Time
  latency : Int
  createdAt : Time
  updatedAt : Time
  deriving DecidableEq

/-- What `newAttempt` draws: a new identifier, and the gateway idempotency key derived from it and
the operation by HMAC. -/
structure AttemptSeed where
  id : AttemptID
  idempotencyKey : String
  deriving DecidableEq

def newAttempt (paymentID : PaymentID) (tenantID : TenantID) (gatewayID : GatewayID)
    (op : Operation) (sequence : Nat) (amount : Money) (seed : AttemptSeed) (now : Time) :
    Attempt where
  id := seed.id
  paymentID := paymentID
  tenantID := tenantID
  gatewayID := gatewayID
  connectionID := ""
  operation := op
  sequence := sequence
  amount := amount
  outcome := .pending
  gatewayRef := ""
  idempotencyKey := seed.idempotencyKey
  declineReason := .unset
  errorCode := ""
  errorMessage := ""
  rawStatus := ""
  networkAdviceNoRetry := false
  dispatchedAt := none
  resolvedAt := none
  latency := 0
  createdAt := now
  updatedAt := now

namespace Attempt

variable (a : Attempt)

/-- The latency written when an attempt ends; it stays as it is on an attempt that
was never dispatched. -/
def latencyAt (now : Time) : Int :=
  match a.dispatchedAt with
  | some sent => now - sent
  | none => a.latency

def resolve (now : Time) : Attempt :=
  { a with resolvedAt := some now, updatedAt := now, latency := a.latencyAt now }

def bindConnection (id : ConnectionID) : Except GoError Attempt :=
  if id = "" then
    .error (new .validationFailed
      "a connection reference is required to bind an attempt to its connection")
  else if a.connectionID = id then .ok a
  else if a.connectionID ≠ "" then
    .error (new .invalidStateTransition ("attempt " ++ a.id ++
      " is already bound to a connection and may not be re-bound; " ++
      "a failover creates a new attempt rather than editing this one"))
  else if a.outcome ≠ .pending then
    .error (new .invalidStateTransition ("attempt " ++ a.id ++
      " has already been dispatched (" ++ text a.outcome ++
      "); its connection can no longer be recorded"))
  else .ok { a with connectionID := id }

def dispatch (now : Time) : Except GoError Attempt :=
  (attemptMachine.transition a.outcome .dispatched).map fun _ =>
    { a with outcome := .dispatched, dispatchedAt := some now, updatedAt := now }

def succeed (gatewayRef rawStatus : String) (now : Time) : Except GoError Attempt :=
  (attemptMachine.transition a.outcome .success).map fun _ =>
    { a with outcome := .success, gatewayRef := gatewayRef, rawStatus := rawStatus }.resolve now

def decline (reason : DeclineReason) (gatewayRef rawStatus : String)
    (networkAdviceNoRetry : Bool) (now : Time) : Except GoError Attempt :=
  (attemptMachine.transition a.outcome .declined).map fun _ =>
    { a with
      outcome := .declined
      declineReason := reason.orUnknown
      gatewayRef := gatewayRef
      rawStatus := rawStatus
      networkAdviceNoRetry := networkAdviceNoRetry }.resolve now

def fail (code message : String) (now : Time) : Except GoError Attempt :=
  (attemptMachine.transition a.outcome .error).map fun _ =>
    { a with outcome := .error, errorCode := code, errorMessage := message }.resolve now

/-- A timed-out attempt is not resolved: it keeps no resolution time. -/
def timeOut (message : String) (now : Time) : Except GoError Attempt :=
  (attemptMachine.transition a.outcome .timeoutUnknown).map fun _ =>
    { a with
      outcome := .timeoutUnknown
      errorCode := Code.gatewayTimeout.text
      errorMessage := message
      updatedAt := now
      latency := a.latencyAt now }

def reconcile (outcome : AttemptOutcome) (gatewayRef rawStatus : String)
    (reason : DeclineReason) (now : Time) : Except GoError Attempt :=
  if a.outcome ≠ .timeoutUnknown then
    .error (new .invalidStateTransition ("attempt " ++ a.id ++ " is in outcome " ++
      text a.outcome ++ ", not TIMEOUT_UNKNOWN, and does not need reconciliation"))
  else
    (attemptMachine.transition a.outcome outcome).map fun _ =>
      { a with
        outcome := outcome
        gatewayRef := if gatewayRef ≠ "" then gatewayRef else a.gatewayRef
        rawStatus := if rawStatus ≠ "" then rawStatus else a.rawStatus
        declineReason :=
          if outcome = AttemptOutcome.declined then reason.orUnknown else a.declineReason }.resolve now

/-- Whether another gateway may be tried after this attempt.  A scheme's explicit
advice against retrying outranks the outcome. -/
def permitsFailover (a : Attempt) : Bool :=
  if a.networkAdviceNoRetry then false
  else
    match a.outcome with
    | .error => true
    | .declined => a.declineReason.permitsFailover
    | _ => false

end Attempt

/-- The exported mutating methods of an attempt, with their arguments. -/
inductive AttemptCall where
  | bindConnection (id : ConnectionID)
  | dispatch (now : Time)
  | succeed (gatewayRef rawStatus : String) (now : Time)
  | decline (reason : DeclineReason) (gatewayRef rawStatus : String)
      (networkAdviceNoRetry : Bool) (now : Time)
  | fail (code message : String) (now : Time)
  | timeOut (message : String) (now : Time)
  | reconcile (outcome : AttemptOutcome) (gatewayRef rawStatus : String)
      (reason : DeclineReason) (now : Time)
  deriving DecidableEq

def AttemptCall.apply (a : Attempt) : AttemptCall → Except GoError Attempt
  | .bindConnection id => a.bindConnection id
  | .dispatch now => a.dispatch now
  | .succeed gatewayRef rawStatus now => a.succeed gatewayRef rawStatus now
  | .decline reason gatewayRef rawStatus noRetry now =>
    a.decline reason gatewayRef rawStatus noRetry now
  | .fail code message now => a.fail code message now
  | .timeOut message now => a.timeOut message now
  | .reconcile outcome gatewayRef rawStatus reason now =>
    a.reconcile outcome gatewayRef rawStatus reason now

def AttemptCall.target : AttemptCall → Option AttemptOutcome
  | .bindConnection _ => none
  | .dispatch _ => some .dispatched
  | .succeed .. => some .success
  | .decline .. => some .declined
  | .fail .. => some .error
  | .timeOut .. => some .timeoutUnknown
  | .reconcile outcome _ _ _ _ => some outcome

/-- An accepted call moves the outcome along the attempt lifecycle to its target, if it has
one.  Only `Dispatch` reaches DISPATCHED. -/
theorem AttemptCall.outcome_of_apply {a a' : Attempt} {c : AttemptCall}
    (h : c.apply a = .ok a') :
    (c.target = none ∧ a'.outcome = a.outcome) ∨
      ∃ o, c.target = some o ∧ a'.outcome = o ∧
        attemptMachine.canTransition a.outcome o = true ∧
        (o = .dispatched → ∃ now, c = .dispatch now) := by
  cases c with
  | bindConnection =>
    refine .inl ⟨rfl, ?_⟩
    simp only [apply, Attempt.bindConnection] at h
    split_ifs at h <;> cases h <;> rfl
  | reconcile outcome =>
    refine .inr ⟨outcome, rfl, ?_⟩
    by_cases resolved : a.outcome ≠ .timeoutUnknown
    · simp only [apply, Attempt.reconcile, if_pos resolved] at h
      cases h
    · simp only [apply, Attempt.reconcile, if_neg resolved] at h
      obtain ⟨edge, rfl⟩ := attemptMachine.map_transition_ok h
      refine ⟨rfl, edge, ?_⟩
      rintro rfl
      rw [not_not.mp resolved] at edge
      exact absurd edge (by decide)
  | dispatch now =>
    obtain ⟨edge, rfl⟩ := attemptMachine.map_transition_ok h
    exact .inr ⟨_, rfl, rfl, edge, fun _ => ⟨now, rfl⟩⟩
  | succeed gatewayRef rawStatus now | decline reason gatewayRef rawStatus noRetry now
  | fail code message now | timeOut message now =>
    obtain ⟨edge, rfl⟩ := attemptMachine.map_transition_ok h
    exact .inr ⟨_, rfl, rfl, edge, fun same => nomatch same⟩

theorem AttemptCall.identity_of_apply {a a' : Attempt} {c : AttemptCall} (h : c.apply a = .ok a') :
    a'.id = a.id ∧ a'.sequence = a.sequence ∧ a'.operation = a.operation ∧
      a'.idempotencyKey = a.idempotencyKey := by
  cases c with
  | bindConnection =>
    simp only [apply, Attempt.bindConnection] at h
    split_ifs at h <;> cases h <;> exact ⟨rfl, rfl, rfl, rfl⟩
  | reconcile =>
    by_cases resolved : a.outcome ≠ .timeoutUnknown
    · simp only [apply, Attempt.reconcile, if_pos resolved] at h
      cases h
    · simp only [apply, Attempt.reconcile, if_neg resolved] at h
      obtain ⟨-, rfl⟩ := attemptMachine.map_transition_ok h
      exact ⟨rfl, rfl, rfl, rfl⟩
  | dispatch now | succeed gatewayRef rawStatus now
  | decline reason gatewayRef rawStatus noRetry now | fail code message now
  | timeOut =>
    obtain ⟨-, rfl⟩ := attemptMachine.map_transition_ok h
    exact ⟨rfl, rfl, rfl, rfl⟩

open Shared (StateMachine)

inductive RefundStatus where
  | pending | submitted | succeeded | failed | canceled
  | other (raw : String)
  deriving DecidableEq

instance : StringType RefundStatus where
  text
    | .pending => "PENDING"
    | .submitted => "SUBMITTED"
    | .succeeded => "SUCCEEDED"
    | .failed => "FAILED"
    | .canceled => "CANCELED"
    | .other raw => raw

def allRefundStatuses : List RefundStatus := [.pending, .submitted, .succeeded, .failed, .canceled]

def refundMachine : StateMachine RefundStatus where
  name := "refund"
  initial := .pending
  all := allRefundStatuses
  terminal := [.succeeded, .failed, .canceled]
  transitions :=
    [(.pending, .submitted), (.pending, .canceled), (.pending, .failed),
      (.submitted, .succeeded), (.submitted, .failed)]
  initial_mem := by decide
  terminal_sub := by decide
  ends_mem := by decide
  terminal_final := by decide

inductive RefundReason where
  | requestedByCustomer | duplicate | fraudulent | productUnavailable | serviceNotProvided
  | pricingError | disputeConceded | other
  | unrecognised (raw : String)
  deriving DecidableEq

def RefundReason.isValid : RefundReason → Bool
  | .unrecognised _ => false
  | _ => true

structure Refund where
  id : RefundID
  paymentID : PaymentID
  tenantID : TenantID
  amount : Money
  reason : RefundReason
  status : RefundStatus
  gatewayRef : String
  idempotencyKey : String
  failureCode : String
  failureMessage : String
  createdAt : Time
  updatedAt : Time
  submittedAt : Option Time
  settledAt : Option Time
  deriving DecidableEq

/-- The identifier is generated; it arrives as an argument, and nothing here
assumes it is fresh. -/
def newRefund (id : RefundID) (paymentID : PaymentID) (tenantID : TenantID) (amount : Money)
    (reason : RefundReason) (idempotencyKey : String) (now : Time) : Refund where
  id := id
  paymentID := paymentID
  tenantID := tenantID
  amount := amount
  reason := if ¬ reason.isValid then .other else reason
  status := .pending
  gatewayRef := ""
  idempotencyKey := idempotencyKey
  failureCode := ""
  failureMessage := ""
  createdAt := now
  updatedAt := now
  submittedAt := none
  settledAt := none

namespace Refund

def markSubmitted (r : Refund) (gatewayRef : String) (now : Time) : Except GoError Refund :=
  (refundMachine.transition r.status .submitted).map fun _ =>
    { r with
      status := .submitted
      gatewayRef := gatewayRef
      submittedAt := some now
      updatedAt := now }

/-- Unexported in the source: only `ConfirmRefund` calls it. -/
def markSucceeded (r : Refund) (gatewayRef : String) (now : Time) : Except GoError Refund :=
  (refundMachine.transition r.status .succeeded).map fun _ =>
    { r with
      status := .succeeded
      gatewayRef := if gatewayRef ≠ "" then gatewayRef else r.gatewayRef
      settledAt := some now
      updatedAt := now }

def markFailed (r : Refund) (code message : String) (now : Time) : Except GoError Refund :=
  (refundMachine.transition r.status .failed).map fun _ =>
    { r with status := .failed, failureCode := code, failureMessage := message, updatedAt := now }

def cancel (r : Refund) (now : Time) : Except GoError Refund :=
  (refundMachine.transition r.status .canceled).map fun _ =>
    { r with status := .canceled, updatedAt := now }

/-- A refund whose money is promised but not yet returned. -/
def inFlight (r : Refund) : Bool := r.status == .pending || r.status == .submitted

def isSucceeded (r : Refund) : Bool := r.status == .succeeded

/-- A refund that returns no money and reserves none. -/
def released (r : Refund) : Bool := r.status == .failed || r.status == .canceled

end Refund

/-- The exported mutating methods of a refund, with their arguments. -/
inductive RefundCall where
  | markSubmitted (gatewayRef : String) (now : Time)
  | markFailed (code message : String) (now : Time)
  | cancel (now : Time)
  deriving DecidableEq

def RefundCall.apply (r : Refund) : RefundCall → Except GoError Refund
  | .markSubmitted gatewayRef now => r.markSubmitted gatewayRef now
  | .markFailed code message now => r.markFailed code message now
  | .cancel now => r.cancel now

def RefundCall.target : RefundCall → RefundStatus
  | .markSubmitted .. => .submitted
  | .markFailed .. => .failed
  | .cancel _ => .canceled

private theorem canTransition_succeeded (s : RefundStatus) :
    refundMachine.canTransition s .succeeded = true ↔ s = .submitted := by
  cases s <;> simp [StateMachine.canTransition, refundMachine]

variable {r r' : Refund}

theorem Refund.markSucceeded_ok {gatewayRef : String} {now : Time}
    (h : r.markSucceeded gatewayRef now = .ok r') :
    r.status = .submitted ∧ r'.status = .succeeded ∧ r'.amount = r.amount ∧ r'.id = r.id := by
  obtain ⟨edge, rfl⟩ := refundMachine.map_transition_ok h
  exact ⟨(canTransition_succeeded _).mp edge, rfl, rfl, rfl⟩

theorem Refund.markSucceeded_error {gatewayRef : String} {now : Time} {e : GoError}
    (h : r.markSucceeded gatewayRef now = .error e) : r.status ≠ .submitted := by
  intro submitted
  have edge := (canTransition_succeeded r.status).mpr submitted
  rw [Refund.markSucceeded, (refundMachine.transition_ok_iff _ _).mpr edge] at h
  cases h

theorem RefundCall.apply_ok {c : RefundCall} (h : c.apply r = .ok r') :
    r'.status = c.target ∧ r'.amount = r.amount ∧ r'.id = r.id ∧
      refundMachine.canTransition r.status c.target = true := by
  cases c with
  | markSubmitted gatewayRef now | markFailed code message now | cancel now =>
    obtain ⟨edge, rfl⟩ := refundMachine.map_transition_ok h
    exact ⟨rfl, rfl, rfl, edge⟩

theorem RefundCall.inFlight_before {c : RefundCall} (h : c.apply r = .ok r') :
    r.inFlight = true ∧ r'.status ≠ .succeeded := by
  obtain ⟨status, _, _, edge⟩ := c.apply_ok h
  rw [status]
  cases c <;> cases before : r.status <;>
    simp_all [StateMachine.canTransition, refundMachine, RefundCall.target, Refund.inFlight]

end Parts

open Pkg

inductive EventType where
  | created | attempted | requiresAction | authorized | captured | failed | voided | canceled
  | expired | refunded | settled | disputed | disputeResolved | reconciliationRequired
  deriving DecidableEq

/-- The values the aggregate puts into event payloads. -/
inductive PayloadValue where
  | str (s : String)
  | int (n : Int)
  | bool (b : Bool)
  | money (m : Money)
  | time (t : Time)
  deriving DecidableEq

abbrev Payload := List (String × PayloadValue)

structure Event where
  type : EventType
  paymentID : PaymentID
  tenantID : TenantID
  merchantID : MerchantID
  occurredAt : Time
  version : Version
  payload : Payload
  correlation : String
  deriving DecidableEq

structure PaymentMethodReference where
  token : String
  brand : String
  last4 : String
  expMonth : Int
  expYear : Int
  country : Country
  networkToken : Bool
  deriving DecidableEq

structure CustomerReference where
  merchantCustomerID : String
  emailHash : String
  ipAddress : String
  country : Country
  deriving DecidableEq

structure Payment where
  id : PaymentID
  tenantID : TenantID
  merchantID : MerchantID
  amount : Money
  captureMethod : CaptureMethod
  paymentMethod : PaymentMethod
  methodRef : PaymentMethodReference
  state : State
  version : Version
  baseVersion : Version
  authorizedAmount : Money
  capturedAmount : Money
  refundedAmount : Money
  attempts : List Attempt
  refunds : List Refund
  selectedGateway : GatewayID
  routingPlanID : PlanID
  description : String
  statementRef : String
  metadata : List (String × String)
  customer : CustomerReference
  idempotencyKey : String
  correlationID : String
  createdAt : Time
  updatedAt : Time
  authorizedAt : Option Time
  capturedAt : Option Time
  authExpiresAt : Option Time
  events : List Event
  deriving DecidableEq

structure NewPaymentParams where
  tenantID : TenantID
  merchantID : MerchantID
  amount : Money
  paymentMethod : PaymentMethod
  methodRef : PaymentMethodReference
  captureMethod : CaptureMethod
  description : String
  statementRef : String
  metadata : List (String × String)
  customer : CustomerReference
  idempotencyKey : String
  correlationID : String
  deriving DecidableEq

namespace Payment

variable (p : Payment) (now : Time)

def touch : Payment :=
  { p with updatedAt := now, version := p.version + 1 }

/-- Events carry the version after the change that raised them. -/
def raise (t : EventType) (at_ : Time) (payload : Payload) : Payment :=
  { p with
    events := p.events ++ [{
      type := t
      paymentID := p.id
      tenantID := p.tenantID
      merchantID := p.merchantID
      occurredAt := at_
      version := p.version
      payload := payload
      correlation := p.correlationID }] }

/-- The fields `New` fills before it raises the creation event. -/
def fresh (params : NewPaymentParams) (cm : CaptureMethod) (id : PaymentID) (now : Time) :
    Payment where
  id := id
  tenantID := params.tenantID
  merchantID := params.merchantID
  amount := params.amount
  captureMethod := cm
  paymentMethod := params.paymentMethod
  methodRef := params.methodRef
  state := .created
  version := 1
  baseVersion := 0
  authorizedAmount := Money.zero params.amount.currency
  capturedAmount := Money.zero params.amount.currency
  refundedAmount := Money.zero params.amount.currency
  attempts := []
  refunds := []
  selectedGateway := ""
  routingPlanID := ""
  description := params.description
  statementRef := params.statementRef
  metadata := params.metadata
  customer := params.customer
  idempotencyKey := params.idempotencyKey
  correlationID := params.correlationID
  createdAt := now
  updatedAt := now
  authorizedAt := none
  capturedAt := none
  authExpiresAt := none
  events := []

def new (params : NewPaymentParams) (id : PaymentID) (now : Time) : Except GoError Payment :=
  if params.tenantID = "" then
    .error (ApiError.new .missingTenantContext "payment requires a tenant")
  else if params.merchantID = "" then
    .error (ApiError.new .validationFailed "payment requires a merchant")
  else if ¬ params.amount.isValid then
    .error (ApiError.new .amountInvalid "payment requires a valid currency")
  else if ¬ params.amount.isPositive then
    .error (newWithDetail .amountInvalid "payment amount must be greater than zero"
      { field := "amount", code := "NOT_POSITIVE",
        message := "amount must be a positive integer in the currency's minor units",
        ruleID := "L5.AMOUNT_IS_POSITIVE" })
  else if ¬ params.paymentMethod.isValid then
    .error (ApiError.new .paymentMethodNotSupported
      ("unsupported payment method \"" ++ text params.paymentMethod ++ "\""))
  else if params.methodRef.token = "" then
    .error (newWithDetail .validationFailed "a tokenized payment method reference is required"
      { field := "paymentMethod.token", code := "MISSING_TOKEN",
        message := "card data must be tokenized at the gateway edge; " ++
          "this API accepts only a token reference",
        ruleID := "L5.PAYMENT_METHOD_TOKENIZED" })
  else
    let cm := if params.captureMethod = .unset then .automatic else params.captureMethod
    if ¬ cm.isValid then
      .error (ApiError.new .validationFailed
        ("invalid capture method \"" ++ text params.captureMethod ++ "\""))
    else if cm = .manual ∧ ¬ params.paymentMethod.supportsSeparateCapture then
      .error (newWithDetail .validationFailed
        ("payment method " ++ text params.paymentMethod ++ " does not support manual capture")
        { field := "captureMethod", code := "UNSUPPORTED_FOR_METHOD",
          message := "this payment method settles in a single step; use AUTOMATIC",
          ruleID := "L5.CAPTURE_METHOD_SUPPORTED" })
    else if params.idempotencyKey = "" then
      .error (ApiError.new .idempotencyKeyRequired "")
    else
      .ok ((fresh params cm id now).raise .created now
        [("amount", .money params.amount), ("paymentMethod", .str (text params.paymentMethod)),
          ("captureMethod", .str (text cm))])

/-- What a mutating method leaves: the aggregate after the call, also when the call
returns an error, and the value or error it returns. -/
abbrev Result (α : Type) := Payment × Except GoError α

def successfulAttempt : Option Attempt := p.attempts.find? (·.outcome == .success)

def hasUnresolvedAttempt : Bool :=
  p.attempts.any (·.outcome.requiresReconciliation)

def startAttempt (gatewayID : GatewayID) (planID : PlanID) (op : Operation)
    (seed : AttemptSeed) (now : Time) : Result Attempt :=
  if p.state.isTerminal then
    (p, .error (ApiError.new .invalidStateTransition
      ("cannot start an attempt: payment is in terminal state " ++ text p.state)))
  else if p.successfulAttempt.isSome ∧ op = .authorize then
    (p, .error (ApiError.new .paymentAlreadyProcessed
      "this payment already has a successful authorization attempt"))
  else if p.hasUnresolvedAttempt then
    (p, .error (newWithDetail .paymentAlreadyProcessed
      ("this payment has an attempt with an unknown outcome and is awaiting reconciliation; " ++
        "retrying now risks a duplicate charge")
      { field := "status", code := "AWAITING_RECONCILIATION",
        message := "an earlier attempt timed out and its outcome is not yet known",
        ruleID := "L7.NO_RETRY_WHILE_UNRESOLVED" }))
  else
    let att := newAttempt p.id p.tenantID gatewayID op (p.attempts.length + 1) p.amount seed now
    let started :=
      { p with
        attempts := p.attempts ++ [att]
        selectedGateway := gatewayID
        routingPlanID := planID }
    ((started.touch now).raise .attempted now
      [("attemptId", .str att.id), ("gatewayId", .str gatewayID), ("operation", .str (text op)),
        ("sequence", .int att.sequence)],
      .ok att)

/-- The shared tail of the plain state changes: the transition is checked first, so
a refused one writes nothing. -/
def transition (p : Payment) (dst : State) (evt : Option (EventType × Payload)) (now : Time) :
    Result Unit :=
  match machine.transition p.state dst with
  | .error e => (p, .error e)
  | .ok () =>
    let moved := { p with state := dst }.touch now
    match evt with
    | none => (moved, .ok ())
    | some (t, payload) => (moved.raise t now payload, .ok ())

def markProcessing : Result Unit := p.transition .processing none now

inductive NextActionType where
  | redirect | threeDSChallenge | displayQR | awaitTransfer
  | other (raw : String)
  deriving DecidableEq

instance : Shared.StringType NextActionType where
  text
    | .redirect => "REDIRECT"
    | .threeDSChallenge => "THREE_DS_CHALLENGE"
    | .displayQR => "DISPLAY_QR_CODE"
    | .awaitTransfer => "AWAIT_BANK_TRANSFER"
    | .other raw => raw

structure NextAction where
  type : NextActionType
  redirectURL : String
  expiresAt : Option Time
  deriving DecidableEq

def requireAction (action : NextAction) (now : Time) : Result Unit :=
  p.transition .requiresAction
    (some (.requiresAction,
      [("actionType", .str (text action.type)), ("redirectUrl", .str action.redirectURL)])) now

def markPending : Result Unit := p.transition .pending none now

def markAuthorized (authorized : Money) (expiresAt : Option Time) (now : Time) : Result Unit :=
  if authorized.currency ≠ p.amount.currency then
    (p, .error (ApiError.new .gatewayContractViolation
      ("gateway authorized in " ++ authorized.currency ++ " but the payment is in " ++
        p.amount.currency)))
  else if ¬ authorized.isPositive then
    (p, .error (ApiError.new .gatewayContractViolation "authorized amount must be positive"))
  else
    match authorized.greaterThan p.amount with
    | .error cmpErr =>
      (p, .error (wrap cmpErr .internalError
        "authorized amount could not be compared with the payment amount"))
    | .ok true =>
      (p, .error (ApiError.new .gatewayContractViolation
        ("gateway authorized " ++ authorized.string ++ " which exceeds the requested " ++
          p.amount.string)))
    | .ok false =>
      match machine.transition p.state .authorized with
      | .error e => (p, .error e)
      | .ok () =>
        let moved :=
          { p with
            state := .authorized
            authorizedAmount := authorized
            authorizedAt := some now
            authExpiresAt := expiresAt }
        ((moved.touch now).raise .authorized now
          [("authorizedAmount", .money authorized), ("gatewayId", .str p.selectedGateway)],
          .ok ())

def captureCeiling : Money :=
  if p.authorizedAmount.isZero then p.amount else p.authorizedAmount

def markCaptured (captured : Money) (now : Time) : Result Unit :=
  if captured.currency ≠ p.amount.currency then
    (p, .error (ApiError.new .gatewayContractViolation
      ("capture currency " ++ captured.currency ++ " does not match payment currency " ++
        p.amount.currency)))
  else if ¬ captured.isPositive then
    (p, .error (ApiError.new .amountInvalid "capture amount must be positive"))
  else
    match p.capturedAmount.add captured with
    | .error err => (p, .error (wrap err .internalError "capture total overflow"))
    | .ok newTotal =>
      match newTotal.greaterThan p.captureCeiling with
      | .error cmpErr =>
        (p, .error (wrap cmpErr .internalError
          "cumulative captures could not be compared with the authorized amount"))
      | .ok true =>
        (p, .error (newWithDetail .captureExceedsAuthorized
          ("capturing " ++ captured.string ++ " would bring the total to " ++
            newTotal.string ++ ", exceeding the authorized " ++ p.captureCeiling.string)
          { field := "amount", code := "EXCEEDS_AUTHORIZED",
            message := "cumulative captures may not exceed the authorized amount",
            ruleID := "L7.I2_CAPTURE_WITHIN_AUTHORIZATION" }))
      | .ok false =>
        match machine.transition p.state .captured with
        | .error e => (p, .error e)
        | .ok () =>
          let moved :=
            { p with
              state := .captured
              capturedAmount := newTotal
              capturedAt := p.capturedAt.or (some now) }
          ((moved.touch now).raise .captured now
            [("capturedAmount", .money captured), ("capturedTotal", .money newTotal),
              ("gatewayId", .str p.selectedGateway)],
            .ok ())

def markFailed (reason : DeclineReason) (detail : String) (now : Time) : Result Unit :=
  if p.hasUnresolvedAttempt then
    (p, .error (newWithDetail .invalidStateTransition
      ("cannot fail a payment with an unresolved attempt; " ++
        "the outcome must be reconciled first")
      { field := "status", code := "AWAITING_RECONCILIATION",
        message := "an attempt timed out and its outcome is unknown",
        ruleID := "L7.NO_FAIL_WHILE_UNRESOLVED" }))
  else
    p.transition .failed
      (some (.failed, [("declineReason", .str (text reason)), ("detail", .str detail),
        ("gatewayId", .str p.selectedGateway)])) now

def void (p : Payment) (now : Time) : Result Unit :=
  if ¬ p.capturedAmount.isZero then
    (p, .error (newWithDetail .invalidStateTransition
      "cannot void a payment that has been captured; issue a refund instead"
      { field := "status", code := "ALREADY_CAPTURED",
        message := "voiding releases an authorization; captured funds are returned by refund",
        ruleID := "L7.VOID_REQUIRES_UNCAPTURED" }))
  else p.transition .voided (some (.voided, [("gatewayId", .str p.selectedGateway)])) now

def cancel (reason : String) (now : Time) : Result Unit :=
  p.transition .canceled (some (.canceled, [("reason", .str reason)])) now

def expire : Result Unit :=
  p.transition .expired (some (.expired, [])) now

def markSettled (settledAt : Time) (settlementRef : String) (now : Time) : Result Unit :=
  p.transition .settled
    (some (.settled, [("settledAt", .time settledAt), ("settlementRef", .str settlementRef)])) now

/-- The loop of `AddRefund`: the refunded total plus every refund still in flight. -/
def committedRefunds (committed : Money) : List Refund → Except GoError Money
  | [] => .ok committed
  | r :: rest =>
    if r.inFlight then
      match committed.add r.amount with
      | .error err => .error err
      | .ok more => committedRefunds more rest
    else committedRefunds committed rest

def addRefund (amount : Money) (reason : RefundReason) (idempotencyKey : String)
    (id : RefundID) (now : Time) : Result Refund :=
  if ¬ p.state.allowsRefund then
    (p, .error (ApiError.new .invalidStateTransition
      ("a payment in state " ++ text p.state ++ " cannot be refunded")))
  else if amount.currency ≠ p.amount.currency then
    (p, .error (ApiError.new .validationFailed
      ("refund currency " ++ amount.currency ++ " does not match payment currency " ++
        p.amount.currency)))
  else if ¬ amount.isPositive then
    (p, .error (ApiError.new .amountInvalid "refund amount must be positive"))
  else
    match committedRefunds p.refundedAmount p.refunds with
    | .error err => (p, .error (wrap err .internalError "refund total overflow"))
    | .ok committed =>
      match committed.add amount with
      | .error err => (p, .error (wrap err .internalError "refund total overflow"))
      | .ok prospective =>
        match prospective.greaterThan p.capturedAmount with
        | .error cmpErr =>
          (p, .error (wrap cmpErr .internalError
            "cumulative refunds could not be compared with the captured amount"))
        | .ok true =>
          (p, .error (newWithDetail .refundExceedsCaptured
            ("refunding " ++ amount.string ++ " would bring the total to " ++
              prospective.string ++ ", exceeding the captured " ++ p.capturedAmount.string)
            { field := "amount", code := "EXCEEDS_CAPTURED",
              message := "cumulative refunds, including any in flight, " ++
                "may not exceed the captured amount",
              ruleID := "L7.I1_REFUND_WITHIN_CAPTURE" }))
        | .ok false =>
          let r := newRefund id p.id p.tenantID amount reason idempotencyKey now
          ({ p with refunds := p.refunds ++ [r] }.touch now, .ok r)

def refundedState (order : Ordering) : State :=
  if order = .lt then .partiallyRefunded else .refunded

/-- The first refund with the identifier, with its place in the list: the place is
what the source's pointer stands for. -/
def findRefund (refunds : List Refund) (refundID : RefundID) : Option (Refund × Nat) :=
  refunds.zipIdx.find? (·.1.id == refundID)

/-- `ConfirmRefund` writes the refund through its pointer before the total and the state are
checked, so later refusals leave it SUCCEEDED. -/
def confirmRefund (refundID : RefundID) (gatewayRef : String) (now : Time) : Result Unit :=
  match findRefund p.refunds refundID with
  | none =>
    (p, .error (ApiError.new .validationFailed
      ("refund " ++ refundID ++ " does not belong to payment " ++ p.id)))
  | some (target, i) =>
    match target.markSucceeded gatewayRef now with
    | .error e => (p, .error e)
    | .ok confirmed =>
      let marked := { p with refunds := p.refunds.set i confirmed }
      match marked.refundedAmount.add confirmed.amount with
      | .error err => (marked, .error (wrap err .internalError "refund total overflow"))
      | .ok newTotal =>
        match newTotal.cmp marked.capturedAmount with
        | .error cmpErr =>
          (marked, .error (wrap cmpErr .internalError
            "cumulative refunds could not be compared with the captured amount"))
        | .ok order =>
          match machine.transition marked.state (refundedState order) with
          | .error e => (marked, .error e)
          | .ok () =>
            let moved :=
              { marked with
                state := refundedState order
                refundedAmount := newTotal }
            ((moved.touch now).raise .refunded now
              [("refundId", .str refundID), ("refundAmount", .money confirmed.amount),
                ("refundedTotal", .money newTotal),
                ("fullyRefunded", .bool (refundedState order == .refunded))],
              .ok ())

def markDisputed (disputeRef reasonCode : String) (now : Time) : Result Unit :=
  p.transition .disputed
    (some (.disputed, [("disputeRef", .str disputeRef), ("reasonCode", .str reasonCode)])) now

/-- Whether a settlement event is still in the undrained buffer. -/
def settledLike : Bool := p.events.any (·.type == .settled)

def resolveDispute (won : Bool) (now : Time) : Result Unit :=
  if p.state ≠ .disputed then
    (p, .error (ApiError.new .invalidStateTransition
      ("payment is in state " ++ text p.state ++ ", not DISPUTED")))
  else
    let next :=
      if won then
        if p.capturedAt.isSome ∧ p.settledLike then State.settled else State.captured
      else State.refunded
    p.transition next (some (.disputeResolved, [("won", .bool won)])) now

/-- `RequireReconciliation` cannot fail: it only records that a human or the sweep
has to look. -/
def requireReconciliation (attemptID : AttemptID) (reason : String) (now : Time) : Payment :=
  (p.touch now).raise .reconciliationRequired now
    [("attemptId", .str attemptID), ("reason", .str reason), ("gatewayId", .str p.selectedGateway)]

def markPersisted : Payment := { p with baseVersion := p.version }

/-- `DrainEvents` hands the buffered events over and empties the buffer. -/
def drainEvents : Payment × List Event := ({ p with events := [] }, p.events)

/-- `Rehydrate`, on the stored fields.  The stored version becomes the base version, and no event is
pending. -/
def rehydrate (stored : Payment) : Except GoError Payment :=
  if ¬ stored.state.isKnown then
    .error (ApiError.new .internalError
      ("payment " ++ stored.id ++ " has unknown state \"" ++ text stored.state ++
        "\"; this row may have been written by a newer version of the service"))
  else .ok { stored with baseVersion := stored.version, events := [] }

end Payment

open Pkg Lib.TransitionSystem
open Payment (Result NextAction)

/-- The exported mutating methods of `Payment`, with their arguments, the clock
readings they take and the identifiers they generate. -/
inductive PaymentCall where
  | startAttempt (gatewayID : GatewayID) (planID : PlanID) (op : Operation) (seed : AttemptSeed)
      (now : Time)
  | markProcessing (now : Time)
  | requireAction (action : NextAction) (now : Time)
  | markPending (now : Time)
  | markAuthorized (authorized : Money) (expiresAt : Option Time) (now : Time)
  | markCaptured (captured : Money) (now : Time)
  | markFailed (reason : DeclineReason) (detail : String) (now : Time)
  | void (now : Time)
  | cancel (reason : String) (now : Time)
  | expire (now : Time)
  | markSettled (settledAt : Time) (settlementRef : String) (now : Time)
  | addRefund (amount : Money) (reason : RefundReason) (idempotencyKey : String) (id : RefundID)
      (now : Time)
  | confirmRefund (refundID : RefundID) (gatewayRef : String) (now : Time)
  | markDisputed (disputeRef reasonCode : String) (now : Time)
  | resolveDispute (won : Bool) (now : Time)
  | requireReconciliation (attemptID : AttemptID) (reason : String) (now : Time)
  | markPersisted
  | drainEvents
  deriving DecidableEq

/-- Drop the value a method hands back: an attempt or refund is reached again through
the aggregate. -/
def Payment.Result.discard {α : Type} (r : Result α) : Result Unit := (r.1, r.2.map fun _ => ())

def PaymentCall.apply (p : Payment) : PaymentCall → Result Unit
  | .startAttempt gatewayID planID op seed now =>
    Result.discard (p.startAttempt gatewayID planID op seed now)
  | .markProcessing now => p.markProcessing now
  | .requireAction action now => p.requireAction action now
  | .markPending now => p.markPending now
  | .markAuthorized authorized expiresAt now => p.markAuthorized authorized expiresAt now
  | .markCaptured captured now => p.markCaptured captured now
  | .markFailed reason detail now => p.markFailed reason detail now
  | .void now => p.void now
  | .cancel reason now => p.cancel reason now
  | .expire now => p.expire now
  | .markSettled settledAt settlementRef now => p.markSettled settledAt settlementRef now
  | .addRefund amount reason idempotencyKey id now =>
    Result.discard (p.addRefund amount reason idempotencyKey id now)
  | .confirmRefund refundID gatewayRef now => p.confirmRefund refundID gatewayRef now
  | .markDisputed disputeRef reasonCode now => p.markDisputed disputeRef reasonCode now
  | .resolveDispute won now => p.resolveDispute won now
  | .requireReconciliation attemptID reason now =>
    (p.requireReconciliation attemptID reason now, .ok ())
  | .markPersisted => (p.markPersisted, .ok ())
  | .drainEvents => (p.drainEvents.1, .ok ())

/-- A call on the payment, or on one of its attempts or refunds, whose pointers in the source a
position in the list stands for. -/
inductive Call where
  | payment (c : PaymentCall)
  | attempt (i : Nat) (c : AttemptCall)
  | refund (i : Nat) (c : RefundCall)
  deriving DecidableEq

def Call.apply (p : Payment) : Call → Result Unit
  | .payment c => c.apply p
  | .attempt i c =>
    match p.attempts[i]? with
    | none => (p, .ok ())
    | some a =>
      match c.apply a with
      | .error e => (p, .error e)
      | .ok a' => ({ p with attempts := p.attempts.set i a' }, .ok ())
  | .refund i c =>
    match p.refunds[i]? with
    | none => (p, .ok ())
    | some r =>
      match c.apply r with
      | .error e => (p, .error e)
      | .ok r' => ({ p with refunds := p.refunds.set i r' }, .ok ())

/-- Payments under arbitrary sequences of calls, refused ones included. -/
def paymentSystem : System Payment Call where
  init p := ∃ params id now, Payment.new params id now = .ok p
  step p c := (c.apply p).1

theorem Payment.new_ok {params : NewPaymentParams} {id : PaymentID} {now : Time} {p : Payment}
    (h : Payment.new params id now = .ok p) :
    0 < params.amount.minor ∧
      ∃ cm payload, p = (Payment.fresh params cm id now).raise .created now payload := by
  unfold Payment.new at h
  obtain ⟨_, h⟩ := guard_ok h
  obtain ⟨_, h⟩ := guard_ok h
  obtain ⟨_, h⟩ := guard_ok h
  obtain ⟨positive, h⟩ := guard_ok h
  obtain ⟨_, h⟩ := guard_ok h
  obtain ⟨_, h⟩ := guard_ok h
  obtain ⟨_, h⟩ := guard_ok h
  obtain ⟨_, h⟩ := guard_ok h
  obtain ⟨_, h⟩ := guard_ok h
  cases h
  exact ⟨params.amount.isPositive_iff.mp (not_not.mp positive), _, _, rfl⟩

/-- A card payment of ten dollars, on which the definitions are evaluated. -/
def sampleParams : NewPaymentParams where
  tenantID := "ten_1"
  merchantID := "mer_1"
  amount := ⟨1000, "USD"⟩
  paymentMethod := .card
  methodRef :=
    { token := "tok_1", brand := "visa", last4 := "4242", expMonth := 1, expYear := 2030,
      country := "US", networkToken := false }
  captureMethod := .unset
  description := ""
  statementRef := ""
  metadata := []
  customer := { merchantCustomerID := "", emailHash := "", ipAddress := "", country := "US" }
  idempotencyKey := "key_1"
  correlationID := "req_1"

def samplePayment : Payment :=
  (Payment.fresh sampleParams .automatic "pay_1" 0).raise .created 0
    [("amount", .money ⟨1000, "USD"⟩), ("paymentMethod", .str "CARD"),
      ("captureMethod", .str "AUTOMATIC")]

theorem new_samplePayment : Payment.new sampleParams "pay_1" 0 = .ok samplePayment := by
  decide +kernel

def sampleRun (calls : List Call) : Payment := paymentSystem.run samplePayment calls

theorem init_samplePayment : paymentSystem.init samplePayment :=
  ⟨sampleParams, "pay_1", 0, new_samplePayment⟩

theorem reachable_sampleRun (calls : List Call) : paymentSystem.Reachable (sampleRun calls) :=
  System.reachable_run (.init init_samplePayment) calls

/-- Taken straight to CAPTURED for the whole amount. -/
def captureCalls : List Call :=
  [.payment (.markProcessing 1), .payment (.markCaptured ⟨1000, "USD"⟩ 2)]

/-- A refund of four dollars, handed to the gateway. -/
def refundCalls : List Call :=
  [.payment (.addRefund ⟨400, "USD"⟩ .requestedByCustomer "key_2" "re_1" 3),
    .refund 0 (.markSubmitted "gw_re_1" 4)]

def authorizeCalls : List Call :=
  [.payment (.startAttempt "stripe" "plan_1" .authorize ⟨"att_1", "gk_1"⟩ 1),
    .payment (.markProcessing 1), .attempt 0 (.dispatch 2), .attempt 0 (.succeed "pi_1" "ok" 3),
    .payment (.markAuthorized ⟨1000, "USD"⟩ (some 100) 3),
    .payment (.startAttempt "stripe" "plan_1" .capture ⟨"att_2", "gk_2"⟩ 4)]

end PaymentsPlatform.Payments
