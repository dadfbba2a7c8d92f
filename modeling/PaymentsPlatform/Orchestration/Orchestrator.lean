/- layer: model of application/payment (orchestrator.go, reconciler.go, Create of service.go)
   digest: The dispatch loop, the operations on a payment that a gateway holds, the reconciling
     sweep, and the create pipeline. -/

import PaymentsPlatform.Gateways.Spi
import PaymentsPlatform.Lib.Procedure
import PaymentsPlatform.Risk.Engine
import PaymentsPlatform.Routing.Engine
import PaymentsPlatform.Storage.PaymentRepo

namespace PaymentsPlatform.Orchestration

open Gateways Lib.Procedure Payments
open Pkg (Money)
open Lib (Procedure)
open Payments.Payment (NextAction)
open Routing (Plan)
open Storage (Tx AuditEntry)

section Runs

section Dispatch

/-- What a run does outside its own memory, in order.  An effect inside a transaction
counts only once the transaction has committed.  An Authorize call names its attempt by
the position in the payment. -/
inductive Effect where
  | permit (key : String)
  | record (key : String) (success counted : Bool)
  | acquire (gateway : GatewayID)
  | release (gateway : GatewayID)
  | stored (row : Row)
  | audited (entry : AuditEntry)
  | authorize (gateway : GatewayID) (index : Nat) (request : AuthorizeRequest) (answer : Answer)
  | capture (gateway : GatewayID) (request : CaptureRequest) (answer : Answer)
  | void (gateway : GatewayID) (request : VoidRequest) (answer : Answer)
  | refund (gateway : GatewayID) (request : RefundRequest) (answer : Answer)
  | lookup (gateway : GatewayID) (request : LookupRequest) (answer : Answer)
  | exception (payment : PaymentID) (attempt : AttemptID) (kind detail : String)

/-- The payment a use case holds in memory, its row, and the effects so far. -/
structure World where
  pay : Payment
  row : Row
  log : List Effect

abbrev Proc (α : Type) := Procedure World GoError α

def World.emit (e : Effect) (w : World) : World := { w with log := w.log ++ [e] }

def emit (e : Effect) : Proc Unit := modify (World.emit e)

theorem bind_emit {α : Type} {e : Effect} {k : Unit → Proc α} {w : World} :
    (emit e >>= k) w = k () (w.emit e) := rfl

/-- A method call on the payment in memory, or through the pointer to one of its
attempts. -/
def invoke (c : Call) : Proc Unit := fun w => ({ w with pay := (c.apply w.pay).1 }, (c.apply w.pay).2)

/-- `UnitOfWork.Within`.  A rollback takes back the row and the effects of the
transaction; what the callback did to the payment in memory stays. -/
def within {α : Type} (tx : Tx) (fn : Proc α) : Proc α := fun w =>
  match tx.beginErr with
  | some e => (w, .error e)
  | none =>
    let opened := { w with row := tx.others w.row }
    match fn opened with
    | (done, .error e) => ({ opened with pay := done.pay }, .error e)
    | (done, .ok a) =>
      match tx.commitEnd with
      | .acknowledged => (done, .ok a)
      | .unacknowledged e => (done, .error e)
      | .failed e => ({ opened with pay := done.pay }, .error e)

variable (tx : Tx) (i : Nat)

def savePayment : Proc Unit := fun w =>
  match Storage.save tx w.pay w.row with
  | (pay, .error e) => ({ w with pay := pay }, .error e)
  | (pay, .ok row) => ({ w with pay := pay, row := row, log := w.log ++ [.stored row] }, .ok ())

def saveAttempt : Proc Unit := do
  orFail tx.saveAttemptErr
  modify fun w =>
    match w.pay.attempts[i]? with
    | none => w
    | some att => { w with row := w.row.upsertAttempt att }

def recordAudit (entry : AuditEntry) : Proc Unit := do
  orFail (tx.auditErr entry)
  emit (.audited entry)

/-- `Payments.Get` in a unit of work of its own. -/
def reload : Proc Payment := within tx do
  orFail tx.readErr
  let row ← read World.row
  ofExcept row.payment.rehydrate

def attemptDetail (p : Payment) (i : Nat) : List (String × String) :=
  match p.attempts[i]? with
  | none => []
  | some att =>
    [("attemptId", att.id), ("gatewayId", att.gatewayID), ("outcome", text att.outcome),
      ("state", text p.state)]

def recordOutcome (action : String) : Proc Unit := do
  saveAttempt tx i
  savePayment tx
  let pay ← read World.pay
  recordAudit tx
    { action := action, resourceType := "payment", resourceID := pay.id, outcome := "SUCCESS",
      detail := attemptDetail pay i }

def commit (action : String) : Proc Unit :=
  within tx (recordOutcome tx i action)

structure Settings where
  maxAttempts : Nat
  authorizationValidity : Int
  enableFailover : Bool

structure GatewayResponse where
  status : Spi.Status
  gatewayRef : String
  authorizedAmount : Option Money
  capturedAmount : Option Money
  declineReason : DeclineReason
  rawStatus : String
  rawCode : String

structure ExpectedResponse where
  amount : Money
  currency : Pkg.Currency
  operation : Operation
  gatewayID : GatewayID
  paymentID : PaymentID
  attemptID : AttemptID
  currentState : State
  authorizedAmount : Money
  capturedTotal : Money

/-- The orchestrator's settings and its response validator, which answers an error for a
response it refuses. -/
structure Orchestrator where
  settings : Settings
  validateGatewayResponse : GatewayResponse → ExpectedResponse → Option GoError

/-- What one attempt meets: the answers of its collaborators, its clock readings, the
identifiers drawn for it and its transactions. -/
structure AttemptEnv where
  allowErr : Option GoError
  acquireErr : Option GoError
  resolve : Except GoError String
  seed : AttemptSeed
  startedAt : Time
  processingAt : Time
  intentTx : Tx
  dispatchedAt : Time
  answer : Answer
  now : Time
  mutatedAt : Time
  outcomeTx : Tx
  reloadTx : Tx

structure DispatchResult where
  payment : Payment
  plan : Plan
  nextAction : Option NextAction

structure AttemptResult where
  terminal : Bool
  result : Option DispatchResult
  err : Option GoError

def isTimeout : Option GoError → Bool
  | none => false
  | some err => err.isSentinel deadlineExceeded || codeOf err == .gatewayTimeout

def safeMessage : Option GoError → String
  | none => ""
  | some err => (fromError err).message

/-- The state machine refusing a transition, which `attemptOnce` takes to mean that the
payment is already processing. -/
def isSameState (err : GoError) : Bool := codeOf err == .invalidStateTransition

def declineError (reason : DeclineReason) : GoError :=
  new .gatewayDeclined ("the payment was declined (" ++ text reason ++ ")")

structure SettleInput where
  plan : Plan
  gateway : GatewayID
  operation : Operation
  breakerKey : String
  attemptID : AttemptID
  /-- The position of the attempt in the payment, for the source's pointer to it. -/
  index : Nat

variable (o : Orchestrator) (env : AttemptEnv) (sin : SettleInput) (resp : Spi.Result)

def SettleInput.permitsFailover (w : World) : Bool :=
  (w.pay.attempts[sin.index]?).any (·.permitsFailover)

def reloadResult (tx : Tx) (plan : Plan) (nextAction : Option NextAction) : Proc AttemptResult := do
  let p ← reload tx
  pure { terminal := true, result := some { payment := p, plan, nextAction }, err := none }

/-- The four arms of `settle` that do not know what the gateway did. -/
def settleUnknown (message reason : String) : Proc AttemptResult := do
  emit (.record sin.breakerKey false true)
  invoke (.attempt sin.index (.timeOut message env.now))
  invoke (.payment (.requireReconciliation sin.attemptID reason env.mutatedAt))
  commit env.outcomeTx sin.index "payment.attempt_unknown"
  reloadResult env.reloadTx sin.plan none

def settleError (callErr : GoError) : Proc AttemptResult := do
  emit (.record sin.breakerKey false true)
  invoke (.attempt sin.index (.fail (codeOf callErr).text (safeMessage (some callErr)) env.now))
  commit env.outcomeTx sin.index "payment.attempt_failed"
  let permits ← read sin.permitsFailover
  pure { terminal := !permits, result := none, err := some callErr }

def settleAuthorized : Proc AttemptResult := do
  emit (.record sin.breakerKey true true)
  invoke (.attempt sin.index (.succeed resp.gatewayRef resp.rawStatus env.now))
  let pay ← read World.pay
  let amt := resp.authorizedAmount.getD pay.amount
  let expires := resp.authExpiresAt.getD (env.now + o.settings.authorizationValidity)
  invoke (.payment (.markAuthorized amt (some expires) env.mutatedAt))
  commit env.outcomeTx sin.index "payment.authorized"
  reloadResult env.reloadTx sin.plan none

def settleCaptured : Proc AttemptResult := do
  emit (.record sin.breakerKey true true)
  invoke (.attempt sin.index (.succeed resp.gatewayRef resp.rawStatus env.now))
  let pay ← read World.pay
  let amt := resp.capturedAmount.getD pay.amount
  invoke (.payment (.markCaptured amt env.mutatedAt))
  commit env.outcomeTx sin.index "payment.captured"
  reloadResult env.reloadTx sin.plan none

def nextActionOf : NextAction :=
  match resp.nextAction with
  | none => { type := .threeDSChallenge, redirectURL := "", expiresAt := none }
  | some a => { type := a.type, redirectURL := a.redirectURL, expiresAt := a.expiresAt }

/-- The two arms of `settle` in which the gateway has accepted the payment and its answer
is still to come.  The attempt stays DISPATCHED. -/
def settleLater (mark : PaymentCall) (action : String)
    (nextAction : Option NextAction) : Proc AttemptResult := do
  emit (.record sin.breakerKey true true)
  invoke (.payment mark)
  commit env.outcomeTx sin.index action
  reloadResult env.reloadTx sin.plan nextAction

def settleRequiresAction : Proc AttemptResult :=
  settleLater env sin (.requireAction (nextActionOf resp) env.mutatedAt) "payment.requires_action"
    (some (nextActionOf resp))

def settlePending : Proc AttemptResult :=
  settleLater env sin (.markPending env.mutatedAt) "payment.pending" none

def settleDeclined : Proc AttemptResult := do
  emit (.record sin.breakerKey false false)
  invoke (.attempt sin.index (.decline resp.declineReason resp.gatewayRef resp.rawStatus
    resp.networkAdviceNoRetry env.now))
  let permits ← read sin.permitsFailover
  let canFailover := permits && o.settings.enableFailover
  if canFailover then
    commit env.outcomeTx sin.index "payment.declined"
    pure { terminal := false, result := none, err := some (declineError resp.declineReason) }
  else
    invoke (.payment (.markFailed resp.declineReason resp.rawMessage env.mutatedAt))
    commit env.outcomeTx sin.index "payment.declined"
    reloadResult env.reloadTx sin.plan none

def settleStatus : Proc AttemptResult :=
  match resp.status with
  | .authorized => settleAuthorized o env sin resp
  | .captured => settleCaptured env sin resp
  | .requiresAction => settleRequiresAction env sin resp
  | .pending => settlePending env sin
  | .declined => settleDeclined o env sin resp
  | status =>
    settleUnknown env sin ("unrecognised gateway status: " ++ text status)
      "unrecognised gateway status"

def responseOf : GatewayResponse where
  status := resp.status
  gatewayRef := resp.gatewayRef
  authorizedAmount := resp.authorizedAmount
  capturedAmount := resp.capturedAmount
  declineReason := resp.declineReason
  rawStatus := resp.rawStatus
  rawCode := resp.rawCode

def expectedOf (p : Payment) (sin : SettleInput) : ExpectedResponse where
  amount := p.amount
  currency := p.amount.currency
  operation := sin.operation
  gatewayID := sin.gateway
  paymentID := p.id
  attemptID := sin.attemptID
  currentState := p.state
  authorizedAmount := p.authorizedAmount
  capturedTotal := p.capturedAmount

/-- `settle`: a call whose outcome is unknown is parked, a failed one is recorded as an
error, and a result is applied once the validator has accepted it. -/
def settle : Proc AttemptResult :=
  if isOutcomeUnknown env.answer.callErr
      || (env.answer.resp.isNone && isTimeout env.answer.callErr) then
    settleUnknown env sin (safeMessage env.answer.callErr) "gateway outcome unknown"
  else
    match env.answer.callErr, env.answer.resp with
    | some callErr, _ => settleError env sin callErr
    | none, none =>
      settleUnknown env sin "adapter returned no result"
        "adapter returned neither a result nor an error"
    | none, some resp => do
        let pay ← read World.pay
        match o.validateGatewayResponse (responseOf resp) (expectedOf pay sin) with
        | some err =>
          settleUnknown env sin ("gateway response failed validation: " ++ err.error)
            "gateway response failed L6 validation"
        | none => settleStatus o env sin resp

/-! One attempt, and the loop over the plan. -/

/-- One authorization run, apart from its payment, with the fields of the merchant snapshot and the
risk decision that are read. -/
structure DispatchInput where
  plan : Plan
  connections : List (GatewayID × ConnectionID)
  require3DS : Bool
  exemptionApplied : String
  operation : Operation
  returnURL : String

/-- `StartAttempt`, handing back the attempt it appended. -/
def startAttempt (din : DispatchInput) (env : AttemptEnv) (gw : GatewayID) : Proc Attempt := fun w =>
  let r := w.pay.startAttempt gw din.plan.id din.operation env.seed env.startedAt
  ({ w with pay := r.1 }, r.2)

/-- The connection reference is descriptive, so a refusal to bind it is swallowed. -/
def bindConnection (din : DispatchInput) (gw : GatewayID) (i : Nat) : Proc Unit :=
  match din.connections.lookup gw with
  | none => pure ()
  | some conn =>
    if conn = "" then pure ()
    else ignoring (fun _ => true) (invoke (.attempt i (.bindConnection conn)))

variable (din : DispatchInput)

def authorizeRequest (externalAccountID : String) (att : Attempt)
    (p : Payment) : AuthorizeRequest where
  idempotencyKey := att.idempotencyKey
  externalAccountID := externalAccountID
  paymentID := p.id
  attemptID := att.id
  amount := p.amount
  method := p.paymentMethod
  methodRef := p.methodRef
  capture := p.captureMethod = .automatic
  descriptor := p.description
  statementRef := p.statementRef
  threeDS := { requested := din.require3DS, exemptionType := din.exemptionApplied }
  customer :=
    { id := p.customer.merchantCustomerID, emailHash := p.customer.emailHash,
      ipAddress := p.customer.ipAddress, country := p.customer.country }
  returnURL := din.returnURL
  metadata := p.metadata

/-- A step before the gateway call: when it fails, the breaker is told that nothing was
sent. -/
def beforeCall {α : Type} (key : String) (c : Proc α) : Proc α :=
  onFailure (World.emit (.record key false false)) c

/-- `attemptOnce` once the bulkhead slot is held.  The intent is stored before the
gateway hears of the payment. -/
def dispatchHolding (env : AttemptEnv) (gw : GatewayID) (key : String) : Proc AttemptResult := do
  let externalAccountID ← beforeCall key (ofExcept env.resolve)
  let att ← beforeCall key (startAttempt din env gw)
  let i := att.sequence - 1
  bindConnection din gw i
  beforeCall key (ignoring isSameState (invoke (.payment (.markProcessing env.processingAt))))
  beforeCall key (within env.intentTx (savePayment env.intentTx))
  beforeCall key (invoke (.attempt i (.dispatch env.dispatchedAt)))
  let pay ← read World.pay
  emit (.authorize gw i (authorizeRequest din externalAccountID att pay) env.answer)
  settle o env
    { plan := din.plan, gateway := gw, operation := din.operation, breakerKey := key,
      attemptID := att.id, index := i }

def attemptOnce (env : AttemptEnv) (gw : GatewayID) : Proc AttemptResult := do
  let key := gw ++ ":" ++ text din.operation
  orFail (env.allowErr.map fun e =>
    wrap e .gatewayCircuitOpen ("gateway " ++ gw ++ " is not accepting traffic"))
  emit (.permit key)
  beforeCall key (orFail env.acquireErr)
  emit (.acquire gw)
  deferring (World.emit (.release gw)) (dispatchHolding o din env gw key)

inductive LoopEnd where
  | returned (result : Option DispatchResult)
  | ended (lastErr : Option GoError)

/-- The loop of `Dispatch` from its `n`-th iteration on, with the given number of
iterations left. -/
def tryPlan (o : Orchestrator) (din : DispatchInput) (env : Nat → AttemptEnv) :
    Nat → Nat → List GatewayID → Option GoError → Proc LoopEnd
  | 0, _, _, lastErr => pure (.ended lastErr)
  | left + 1, n, tried, lastErr =>
    match din.plan.next tried with
    | none => pure (.ended lastErr)
    | some sel => do
        match ← attempt (attemptOnce o din (env n) sel.gatewayID) with
        | .error err =>
          if o.settings.enableFailover then
            tryPlan o din env left (n + 1) (tried ++ [sel.gatewayID]) (some err)
          else pure (.ended (some err))
        | .ok res =>
          if res.terminal then pure (.returned res.result)
          else if o.settings.enableFailover then
            tryPlan o din env left (n + 1) (tried ++ [sel.gatewayID]) res.err
          else pure (.ended lastErr)

/-- Everything a run meets. -/
structure DispatchEnv where
  attempts : Nat → AttemptEnv
  finalTx : Tx

def dispatch (env : DispatchEnv) : Proc (Option DispatchResult) := do
  match ← tryPlan o din env.attempts o.settings.maxAttempts 0 [] none with
  | .returned result => pure result
  | .ended lastErr => do
      let final ← reload env.finalTx
      if final.state.isInFlight then
        pure (some { payment := final, plan := din.plan, nextAction := none })
      else
        match lastErr with
        | some err => fail err
        | none => pure (some { payment := final, plan := din.plan, nextAction := none })

/-! A run on two gateways, on which the definitions are evaluated. -/

def sampleOrchestrator : Orchestrator where
  settings := { maxAttempts := 2, authorizationValidity := 0, enableFailover := true }
  validateGatewayResponse := fun _ _ => none

def sampleInput : DispatchInput where
  plan :=
    { id := "rpl_1"
      selections := [⟨"stripe", 1, "highest weighted score"⟩, ⟨"adyen", 2, "failover"⟩] }
  connections := []
  require3DS := false
  exemptionApplied := ""
  operation := .authorize
  returnURL := ""

def bareResult (status : Spi.Status) : Spi.Result where
  status := status
  gatewayRef := "ref_1"
  authorizedAmount := none
  capturedAmount := none
  declineReason := .unset
  networkAdviceNoRetry := false
  nextAction := none
  authExpiresAt := none
  rawStatus := ""
  rawCode := ""
  rawMessage := ""

def sampleAnswer (status : Spi.Status) (reason : DeclineReason) : Answer where
  resp := some { bareResult status with declineReason := reason }
  callErr := none

def samplePending : Answer := sampleAnswer .pending .unset

def sampleDecline : Answer := sampleAnswer .declined .issuerUnavailable

/-- An attempt in which only the gateway's answer is left open. -/
def sampleAttempt (n : Nat) (answer : Answer) : AttemptEnv where
  allowErr := none
  acquireErr := none
  resolve := .ok ""
  seed := { id := if n = 0 then "att_1" else "att_2", idempotencyKey := "key" }
  startedAt := 1
  processingAt := 1
  intentTx := Tx.undisturbed
  dispatchedAt := 2
  answer := answer
  now := 3
  mutatedAt := 3
  outcomeTx := Tx.undisturbed
  reloadTx := Tx.undisturbed

/-- The payment as `Create` leaves it: stored, with its events handed over. -/
def samplePersisted : Payment := samplePayment.markPersisted.drainEvents.1

def sampleWorld : World := { pay := samplePersisted, row := Storage.Row.of samplePersisted, log := [] }

end Dispatch

/-- What requests on one payment share: its row, and everything done outside. -/
structure Store where
  row : Row
  log : List Effect

/-- The two operations that `followUp` runs, with their arguments. -/
inductive FollowUp where
  | capture (amount : Money) (final : Bool)
  | void

namespace FollowUp

def operation : FollowUp → Operation
  | .capture .. => .capture
  | .void => .void

def missing : FollowUp → String
  | .capture .. => "this payment has no successful authorization to capture"
  | .void => "this payment has no authorization to void"

/-- The `call` argument of `followUp`: the gateway is asked about the reference of the
successful attempt, under the key of the new one. -/
def call (fu : FollowUp) (gw : GatewayID) (externalAccountID : String) (p : Payment)
    (att success : Attempt) (answer : Answer) : Effect :=
  match fu with
  | .capture amount final =>
    .capture gw
      { idempotencyKey := att.idempotencyKey, externalAccountID, paymentID := p.id,
        attemptID := att.id, gatewayRef := success.gatewayRef, amount, final, metadata := [] }
      answer
  | .void =>
    .void gw
      { idempotencyKey := att.idempotencyKey, externalAccountID, paymentID := p.id,
        gatewayRef := success.gatewayRef, metadata := [] }
      answer

/-- The `apply` argument of `followUp`.  Neither reads the status of the result. -/
def apply (fu : FollowUp) (res : Spi.Result) (now : Time) : PaymentCall :=
  match fu with
  | .capture amount _ => .markCaptured (res.capturedAmount.getD amount) now
  | .void => .void now

/-- What `StartAttempt` and `bindConnection` read.  A follow-up has no plan of its own and
keeps the identifier of the payment's. -/
def input (fu : FollowUp) (connections : List (GatewayID × ConnectionID)) (p : Payment) :
    DispatchInput where
  plan := { id := p.routingPlanID, selections := [] }
  connections := connections
  require3DS := false
  exemptionApplied := ""
  operation := fu.operation
  returnURL := ""

end FollowUp

variable (o : Orchestrator) (fu : FollowUp) (env : AttemptEnv)
  (connections : List (GatewayID × ConnectionID))

/-- Before the call: the attempt is stored on its own, without the payment. -/
def openFollowUp (env : AttemptEnv) (gw : GatewayID) (key : String) : Proc (String × Attempt) := do
  let externalAccountID ← beforeCall key (ofExcept env.resolve)
  let pay ← read World.pay
  let att ← beforeCall key (startAttempt (fu.input connections pay) env gw)
  let i := att.sequence - 1
  bindConnection (fu.input connections pay) gw i
  beforeCall key (within env.intentTx (saveAttempt env.intentTx i))
  beforeCall key (invoke (.attempt i (.dispatch env.dispatchedAt)))
  pure (externalAccountID, att)

def sendFollowUp (success : Attempt) (opened : String × Attempt) : Proc Unit := do
  let pay ← read World.pay
  emit (fu.call success.gatewayID opened.1 pay opened.2 success env.answer)

/-- An answer that leaves open whether the gateway acted. -/
def parkFollowUp (sin : SettleInput) (message reason : String) : Proc Unit := do
  emit (.record sin.breakerKey false true)
  invoke (.attempt sin.index (.timeOut message env.now))
  invoke (.payment (.requireReconciliation sin.attemptID reason env.mutatedAt))

def followUpResponse (resp : Spi.Result) : GatewayResponse :=
  { responseOf resp with declineReason := .unset }

/-- The switch of `followUp` over the answer. -/
def settleFollowUp (sin : SettleInput) : Proc Unit :=
  match env.answer.callErr, env.answer.resp with
  | none, none => parkFollowUp env sin (safeMessage none) (text fu.operation ++ " outcome unknown")
  | some callErr, _ =>
    if isOutcomeUnknown (some callErr) || isTimeout (some callErr) then
      parkFollowUp env sin (safeMessage (some callErr)) (text fu.operation ++ " outcome unknown")
    else do
      emit (.record sin.breakerKey false true)
      invoke (.attempt sin.index
        (.fail (codeOf callErr).text (safeMessage (some callErr)) env.now))
  | none, some resp => do
      let pay ← read World.pay
      match o.validateGatewayResponse (followUpResponse resp) (expectedOf pay sin) with
      | some err =>
        parkFollowUp env sin ("response failed validation: " ++ err.error)
          "gateway response failed L6 validation"
      | none => do
          emit (.record sin.breakerKey true true)
          invoke (.attempt sin.index (.succeed resp.gatewayRef resp.rawStatus env.now))
          invoke (.payment (fu.apply resp env.mutatedAt))

/-- After the call: the answer is applied to the payment in memory and committed. -/
def closeFollowUp (sin : SettleInput) : Proc Unit := do
  settleFollowUp o fu env sin
  commit env.outcomeTx sin.index ("payment." ++ text fu.operation)

def followUpSettle (gw : GatewayID) (key : String) (p : Payment) (att : Attempt) : SettleInput where
  plan := (fu.input [] p).plan
  gateway := gw
  operation := fu.operation
  breakerKey := key
  attemptID := att.id
  index := att.sequence - 1

/-- `followUp` once the bulkhead slot is held. -/
def followUpHolding (env : AttemptEnv) (success : Attempt) (key : String) : Proc Payment := do
  let opened ← openFollowUp fu connections env success.gatewayID key
  sendFollowUp fu env success opened
  let pay ← read World.pay
  closeFollowUp o fu env (followUpSettle fu success.gatewayID key pay opened.2)
  reload env.reloadTx

def FollowUp.breakerKey (success : Attempt) : String :=
  success.gatewayID ++ ":" ++ text fu.operation

/-- The breaker and the bulkhead let the call through. -/
def admitFollowUp (gw : GatewayID) (key : String) : Proc Unit := do
  orFail (env.allowErr.map fun e =>
    wrap e .gatewayCircuitOpen ("gateway " ++ gw ++ " is not accepting traffic"))
  emit (.permit key)
  beforeCall key (orFail env.acquireErr)
  emit (.acquire gw)

def followUp (env : AttemptEnv) (success : Attempt) : Proc Payment := do
  let gw := success.gatewayID
  let key := fu.breakerKey success
  admitFollowUp env gw key
  deferring (World.emit (.release gw)) (followUpHolding o fu connections env success key)

/-- The common shape of `CaptureExisting` and `VoidExisting`. -/
def onExisting (env : AttemptEnv) : Proc Payment := do
  let pay ← read World.pay
  match pay.successfulAttempt with
  | none => fail (new .invalidStateTransition fu.missing)
  | some success => followUp o fu connections env success

def captureExisting (amount : Money) (final : Bool) (env : AttemptEnv) : Proc Payment :=
  onExisting o (.capture amount final) connections env

def voidExisting (env : AttemptEnv) : Proc Payment :=
  onExisting o .void connections env

structure RefundInput where
  amount : Money
  reason : RefundReason
  idemKey : String

/-- What one refund meets: the identifier drawn for it, its clock readings, the answers of
its collaborators and its transactions. -/
structure RefundEnv where
  refundID : RefundID
  addedAt : Time
  intentTx : Tx
  resolve : Except GoError String
  answer : Answer
  now : Time
  mutatedAt : Time
  outcomeTx : Tx
  reloadTx : Tx

/-- `AddRefund`, handing back the refund it appended. -/
def addRefund (rin : RefundInput) (env : RefundEnv) : Proc Refund := fun w =>
  let r := w.pay.addRefund rin.amount rin.reason rin.idemKey env.refundID env.addedAt
  ({ w with pay := r.1 }, r.2)

variable (rin : RefundInput)

/-- Before the call: the refund is stored with the payment.  The position of the refund
stands for the source's pointer to it. -/
def openRefund (env : RefundEnv) : Proc Nat := do
  let _ ← addRefund rin env
  let pay ← read World.pay
  within env.intentTx (savePayment env.intentTx)
  pure (pay.refunds.length - 1)

def refundRequest (env : RefundEnv) (externalAccountID : String)
    (success : Attempt) (p : Payment) : Spi.RefundRequest where
  idempotencyKey := rin.idemKey
  externalAccountID := externalAccountID
  paymentID := p.id
  refundID := env.refundID
  gatewayRef := success.gatewayRef
  amount := rin.amount
  reason := rin.reason
  metadata := []

def sendRefund (env : RefundEnv) (success : Attempt) : Proc Unit := do
  let externalAccountID ← ofExcept env.resolve
  let pay ← read World.pay
  emit (.refund success.gatewayID (refundRequest rin env externalAccountID success pay) env.answer)

def settleRefundStatus (env : RefundEnv) (i : Nat) (res : Spi.Result) : Proc Unit :=
  match res.status with
  | .refundAccepted | .pending => invoke (.refund i (.markSubmitted res.gatewayRef env.now))
  | .refunded => do
      invoke (.refund i (.markSubmitted res.gatewayRef env.now))
      invoke (.payment (.confirmRefund env.refundID res.gatewayRef env.mutatedAt))
  | _ => invoke (.refund i (.markFailed res.rawCode res.rawMessage env.now))

/-- The switch of `RefundExisting` over the answer. -/
def settleRefund (env : RefundEnv) (success : Attempt) (i : Nat) : Proc Unit :=
  match env.answer.callErr, env.answer.resp with
  | some callErr, _ =>
    if isOutcomeUnknown (some callErr) || isTimeout (some callErr) then
      invoke (.payment
        (.requireReconciliation success.id "refund outcome unknown" env.mutatedAt))
    else
      invoke (.refund i
        (.markFailed (codeOf callErr).text (safeMessage (some callErr)) env.now))
  | none, none =>
    invoke (.payment
      (.requireReconciliation success.id "refund adapter returned no result" env.mutatedAt))
  | none, some res => settleRefundStatus env i res

def refundDetail (p : Payment) (i : Nat) : List (String × String) :=
  match p.refunds[i]? with
  | none => []
  | some ref =>
    [("refundId", ref.id), ("amount", toString rin.amount.minor),
      ("currency", rin.amount.currency), ("status", text ref.status)]

def commitRefund (tx : Tx) (i : Nat) : Proc Unit := within tx do
  savePayment tx
  let pay ← read World.pay
  recordAudit tx
    { action := "payment.refunded", resourceType := "payment", resourceID := pay.id,
      outcome := "SUCCESS", detail := refundDetail rin pay i }

/-- After the call: the answer is applied to the payment in memory and committed. -/
def closeRefund (env : RefundEnv) (success : Attempt) (i : Nat) : Proc Unit := do
  settleRefund env success i
  commitRefund rin env.outcomeTx i

def refundExisting (env : RefundEnv) : Proc Payment := do
  let pay ← read World.pay
  match pay.successfulAttempt with
  | none => fail (new .invalidStateTransition "this payment has no captured funds to refund")
  | some success => do
      let i ← openRefund rin env
      sendRefund rin env success
      closeRefund rin env success i
      reload env.reloadTx

open Storage (Row findUnresolved)

/-- The settings of the sweep, and the derivation of a gateway idempotency key from an
attempt. -/
structure Reconciler where
  minAge : Int
  batchSize : Int
  deriveKey : AttemptID → Operation → String

/-- What resolving one payment meets. -/
structure ReconcileEnv where
  resolve : Except GoError String
  answer : Answer
  now : Time
  mutatedAt : Time
  outcomeTx : Tx
  exceptionTx : Tx

def unresolvedAttempt (p : Payment) : Option (Nat × Attempt) :=
  (p.attempts.findIdx? (·.outcome.requiresReconciliation)).bind fun i =>
    (p.attempts[i]?).map fun a => (i, a)

/-- What a looked-up status resolves an attempt to.  Anything not listed resolves
nothing. -/
def resolution : Spi.Status → Option AttemptOutcome
  | .authorized | .captured | .refunded | .voided | .refundAccepted => some .success
  | .declined => some .declined
  | .notFound => some .error
  | _ => none

def openException (tx : Tx) (att : Attempt) (kind detail : String) : Proc Unit := within tx do
  orFail tx.updateErr
  let pay ← read World.pay
  emit (.exception pay.id att.id kind detail)

/-- Seven days, for a gateway that reports no expiry. -/
def defaultHold : Int := 7 * 24 * 3600 * 1000000000

variable (r : Reconciler) (env : ReconcileEnv)

/-- `advance`: the payment follows its resolved attempt, and a refused transition is
tolerated. -/
def advance (i : Nat) (resp : Spi.Result) : Proc Unit := do
  let pay ← read World.pay
  match pay.attempts[i]? with
  | none => pure ()
  | some att =>
    if att.outcome = .success ∧ resp.status = .authorized then
      ignoring (fun _ => true) (invoke (.payment (.markAuthorized
        (resp.authorizedAmount.getD pay.amount)
        (some (resp.authExpiresAt.getD (env.now + defaultHold))) env.mutatedAt)))
    else if att.outcome = .success ∧ resp.status = .captured then
      ignoring (fun _ => true) (invoke (.payment (.markCaptured
        (resp.capturedAmount.getD pay.amount) env.mutatedAt)))
    else if att.outcome = .declined ∧ ¬ att.permitsFailover then
      ignoring (fun _ => true) (invoke (.payment (.markFailed att.declineReason resp.rawMessage
        env.mutatedAt)))
    else pure ()

def resolveOne : Proc Bool := do
  let pay ← read World.pay
  match unresolvedAttempt pay with
  | none => pure false
  | some (i, att) => do
      let externalAccountID ← ofExcept env.resolve
      emit (.lookup att.gatewayID
        { externalAccountID := externalAccountID, gatewayRef := att.gatewayRef,
          idempotencyKey := r.deriveKey att.id att.operation, operation := att.operation }
        env.answer)
      match env.answer.callErr, env.answer.resp with
      | none, some resp =>
        match resolution resp.status with
        | none => do
            openException env.exceptionTx att "GATEWAY_STILL_UNKNOWN"
              ("the gateway reported " ++ text resp.status ++
                ", which does not resolve the outcome")
            pure false
        | some outcome => do
            -- only a decline carries a reason
            let reason := if resp.status = .declined then resp.declineReason else .unset
            invoke (.attempt i (.reconcile outcome resp.gatewayRef resp.rawStatus reason env.now))
            advance env i resp
            commit env.outcomeTx i "payment.reconciled"
            pure true
      | _, _ => do
          openException env.exceptionTx att "LOOKUP_FAILED"
            "the gateway could not say what happened to this attempt"
          pure false

structure SweepResult where
  examined : Nat
  resolved : Nat
  exceptions : Nat

def SweepResult.count (out : SweepResult) : Except GoError Bool → SweepResult
  | .ok true => { out with examined := out.examined + 1, resolved := out.resolved + 1 }
  | _ => { out with examined := out.examined + 1, exceptions := out.exceptions + 1 }

/-- `ResolveUnknown` over the rows of the table: each payment found is resolved on its
own, and a failure does not abandon the batch. -/
def resolveUnknown (tenant : TenantID) (rows : List Row) (now : Time)
    (env : PaymentID → ReconcileEnv) : SweepResult × List Effect :=
  (findUnresolved tenant rows now r.minAge r.batchSize).foldl (fun (out, log) p =>
    let ran := resolveOne r (env p.id) { pay := p, row := Row.of p, log := log }
    (out.count ran.2, ran.1.log)) ({ examined := 0, resolved := 0, exceptions := 0 }, [])

theorem resolveOne_of_resolved {w : World}
    (h : ∀ a ∈ w.pay.attempts, a.outcome ≠ .timeoutUnknown) :
    resolveOne r env w = (w, .ok false) := by
  have nothing : unresolvedAttempt w.pay = none := by
    have absent : w.pay.attempts.findIdx? (·.outcome.requiresReconciliation) = none := by
      rw [List.findIdx?_eq_none_iff]
      intro a member
      simpa [AttemptOutcome.requiresReconciliation] using h a member
    rw [unresolvedAttempt, absent]
    rfl
  unfold resolveOne
  rw [bind_read, nothing]
  rfl

end Runs

open Risk (Decision)
open Storage (Row)

inductive MerchantStatus where
  | created | validating | validationFailed | kycPending | kycApproved | kycFailed | bankValidated
  | bankValidationFailed | gatewayProvisioning | provisioningFailed | configuring
  | configurationFailed | sandboxValidation | certification | certificationFailed
  | complianceRejected | approved | productionReady | active | suspended | terminated
  | unset
  deriving DecidableEq

instance : StringType MerchantStatus where
  text
    | .created => "CREATED"
    | .validating => "VALIDATING"
    | .validationFailed => "VALIDATION_FAILED"
    | .kycPending => "KYC_PENDING"
    | .kycApproved => "KYC_APPROVED"
    | .kycFailed => "KYC_FAILED"
    | .bankValidated => "BANK_VALIDATED"
    | .bankValidationFailed => "BANK_VALIDATION_FAILED"
    | .gatewayProvisioning => "GATEWAY_PROVISIONING"
    | .provisioningFailed => "PROVISIONING_FAILED"
    | .configuring => "CONFIGURING"
    | .configurationFailed => "CONFIGURATION_FAILED"
    | .sandboxValidation => "SANDBOX_VALIDATION"
    | .certification => "CERTIFICATION"
    | .certificationFailed => "CERTIFICATION_FAILED"
    | .complianceRejected => "COMPLIANCE_REJECTED"
    | .approved => "APPROVED"
    | .productionReady => "PRODUCTION_READY"
    | .active => "ACTIVE"
    | .suspended => "SUSPENDED"
    | .terminated => "TERMINATED"
    | .unset => ""

def MerchantStatus.canAcceptPayments (s : MerchantStatus) : Bool := s == .active

structure MerchantSnapshot where
  merchantID : MerchantID
  tenantID : TenantID
  country : Country
  riskRating : String
  status : MerchantStatus
  risk : Risk.Policy
  connections : List (GatewayID × ConnectionID)
  snapshotAge : Int

structure CreateCommand where
  tenantID : TenantID
  merchantID : MerchantID
  amount : Money
  method : PaymentMethod
  methodRef : PaymentMethodReference
  captureMethod : CaptureMethod
  description : String
  statementRef : String
  metadata : List (String × String)
  customer : CustomerReference
  returnURL : String
  idempotencyKey : String
  correlationID : String

structure RiskInput where
  policy : Risk.Policy
  tenantID : TenantID
  merchantID : MerchantID
  paymentID : PaymentID
  amount : Money
  method : PaymentMethod
  methodRef : PaymentMethodReference
  customer : CustomerReference
  merchant : MerchantSnapshot
  now : Time

/-- The collaborators of `Create`.  `route` is building the candidates and deciding among
them. -/
structure Service where
  orchestrator : Orchestrator
  load : MerchantID → Except GoError MerchantSnapshot
  validateCreate : CreateCommand → MerchantSnapshot → Option GoError
  evaluateRisk : RiskInput → Except GoError Decision
  route : Routing.RequestContext → MerchantSnapshot → Except GoError Plan

/-- What one request meets besides: its identifier and clock readings, its transaction and
what happens during the dispatch. -/
structure CreateEnv where
  paymentID : PaymentID
  createdAt : Time
  assessedAt : Time
  intentTx : Tx
  dispatch : DispatchEnv

def assertTenant (want got : TenantID) : Except GoError Unit :=
  if want = "" then
    .error (new .missingTenantContext "the request carries no tenant context")
  else if got = "" ∨ want = got then .ok ()
  else .error (new .paymentNotFound "the resource does not exist under your tenant")

/-- `merchantStatusError` with no suspension reason. -/
def merchantStatusError : MerchantStatus → GoError
  | .suspended => new .merchantSuspended "merchant is suspended ()"
  | .terminated => new .merchantNotActive "merchant is terminated"
  | st =>
    new .merchantNotActive ("merchant is in state " ++ text st ++ " and cannot accept payments")

def assertCanTransact (m : MerchantSnapshot) : Except GoError Unit :=
  if m.status ≠ .unset ∧ ¬ m.status.canAcceptPayments then .error (merchantStatusError m.status)
  else if m.connections = [] then
    .error (new .gatewayNotConfigured "the merchant has no certified gateway connection")
  else .ok ()

def riskBand (d : Decision) : Routing.RiskBand :=
  if d.score ≥ 70 ∨ d.outcome = .review then .high
  else if d.score ≥ 35 ∨ d.require3DS then .medium
  else .low

def riskDeclineError (d : Decision) : GoError :=
  .api { newError .riskDeclined "the payment was declined" with
    details := (d.reasons.filter (·.severity == .critical)).map fun r =>
      { field := "", code := text r.check, message := "declined by risk policy",
        ruleID := text r.check } }

def CreateCommand.params (cmd : CreateCommand) : NewPaymentParams where
  tenantID := cmd.tenantID
  merchantID := cmd.merchantID
  amount := cmd.amount
  paymentMethod := cmd.method
  methodRef := cmd.methodRef
  captureMethod := cmd.captureMethod
  description := cmd.description
  statementRef := cmd.statementRef
  metadata := cmd.metadata
  customer := cmd.customer
  idempotencyKey := cmd.idempotencyKey
  correlationID := cmd.correlationID

def riskInput (cmd : CreateCommand) (m : MerchantSnapshot) (pay : Payment) (now : Time) :
    RiskInput where
  policy := m.risk
  tenantID := cmd.tenantID
  merchantID := cmd.merchantID
  paymentID := pay.id
  amount := cmd.amount
  method := cmd.method
  methodRef := cmd.methodRef
  customer := cmd.customer
  merchant := m
  now := now

def requestContext (cmd : CreateCommand) (m : MerchantSnapshot) (pay : Payment) (d : Decision) :
    Routing.RequestContext where
  tenantID := cmd.tenantID
  merchantID := cmd.merchantID
  paymentID := pay.id
  amount := cmd.amount
  paymentMethod := cmd.method
  payerCountry := cmd.customer.country
  merchantCountry := m.country
  riskBand := riskBand d
  threeDSRequired := d.require3DS
  isRetry := false
  attemptedGateways := []
  operation := .authorize

structure Admitted where
  merchant : MerchantSnapshot
  pay : Payment
  decision : Decision
  plan : Plan

variable (svc : Service) (cmd : CreateCommand)

/-- `Create` up to the point where the intent is stored. -/
def prepare (env : CreateEnv) : Except GoError Admitted := do
  assertTenant cmd.tenantID cmd.tenantID
  let m ← svc.load cmd.merchantID
  assertTenant cmd.tenantID m.tenantID
  assertCanTransact m
  match svc.validateCreate cmd m with
  | some err => .error err
  | none => do
      let pay ← Payment.new cmd.params env.paymentID env.createdAt
      match svc.evaluateRisk (riskInput cmd m pay env.assessedAt) with
      | .error err => .error (wrap err .dependencyFailure "risk evaluation failed")
      | .ok decision =>
        if decision.outcome = .decline then .error (riskDeclineError decision)
        else do
          let plan ← svc.route (requestContext cmd m pay decision) m
          pure { merchant := m, pay, decision, plan }

/-- `Payments.Create`: the row, the base version and the events. -/
def insertPayment (tx : Tx) : Proc Unit := fun w =>
  match tx.updateErr with
  | some e => (w, .error e)
  | none =>
    let drained := w.pay.markPersisted.drainEvents.1
    match tx.drainErr with
    | some e => ({ w with pay := drained }, .error e)
    | none =>
      ({ pay := drained, row := Row.of w.pay, log := w.log ++ [.stored (Row.of w.pay)] }, .ok ())

def storeIntent (tx : Tx) (a : Admitted) : Proc Unit := within tx do
  insertPayment tx
  recordAudit tx
    { action := "payment.created", resourceType := "payment", resourceID := a.pay.id,
      outcome := "SUCCESS",
      detail :=
        [("amount", toString a.pay.amount.minor), ("currency", a.pay.amount.currency),
          ("routingPlan", a.plan.id), ("riskOutcome", text a.decision.outcome)] }

def dispatchInput (a : Admitted) : DispatchInput where
  plan := a.plan
  connections := a.merchant.connections
  require3DS := a.decision.require3DS
  exemptionApplied := (a.decision.exemptionApplied.map text).getD ""
  operation := .authorize
  returnURL := cmd.returnURL

structure CreateResult where
  result : DispatchResult
  risk : Decision
  degraded : Bool

def dispatchAdmitted (env : CreateEnv) (a : Admitted) : Proc (Option CreateResult) := do
  storeIntent env.intentTx a
  let res ← dispatch svc.orchestrator (dispatchInput cmd a) env.dispatch
  pure (res.map fun r =>
    { result := r, risk := a.decision,
      degraded := a.decision.degraded || a.merchant.snapshotAge > 0 })

/-- `Create`: what it did, and what it returns.  Nothing is done before the intent is stored.
It would dereference a nil result, for which `none` stands. -/
def create (env : CreateEnv) : List Effect × Except GoError (Option CreateResult) :=
  match prepare svc cmd env with
  | .error err => ([], .error err)
  | .ok a =>
    let ended := dispatchAdmitted svc cmd env a { pay := a.pay, row := Row.of a.pay, log := [] }
    (ended.1.log, ended.2)

end PaymentsPlatform.Orchestration
