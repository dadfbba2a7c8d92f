/- layer: model of application/payment/validator.go (ValidateGatewayResponse); results
   digest: Exactly which gateway answers pass, and when one is recorded as what its status says. -/

import PaymentsPlatform.Orchestration.Failover
import PaymentsPlatform.Validation.Rules

namespace PaymentsPlatform.Orchestration

open Gateways Validation
open Payments (State machine)
open Pkg (Money Currency)
open Validation.L6Response (Subject Normalized defaultDeps)

section Model

def normalizeOutcome : Spi.Status → L6Response.Outcome
  | .authorized | .captured | .voided | .refunded | .refundAccepted => .success
  | .declined => .declined
  | .requiresAction => .requiresAction
  | .pending => .pending
  | .failed => .hardError
  | _ => .unknown

/-- The payment state the answer implies, where it implies one. -/
def mappedState : Spi.Status → Option State
  | .authorized => some .authorized
  | .captured => some .captured
  | .voided => some .voided
  | .refunded => some .refunded
  | .requiresAction => some .requiresAction
  | .pending => some .pending
  | .declined => some .failed
  | _ => none

variable (r : GatewayResponse) (e : ExpectedResponse)

/-- The amount the answer is held to: for a capture the captured one, otherwise the authorized one,
and where none is named the one asked for. -/
def echoed : Money × Currency :=
  let authorized := r.authorizedAmount.elim (e.amount, e.currency) fun m => (m, m.currency)
  r.capturedAmount.elim authorized fun m =>
    if e.operation = .capture then (m, m.currency) else authorized

def normalizedOf : Normalized where
  parsed := true
  schemaComplete := true
  gatewayStatus := r.rawStatus
  statusMappable := normalizeOutcome r.status != .unknown
  outcome := normalizeOutcome r.status
  transactionID := r.gatewayRef
  echoedAmount := (echoed r e).1
  echoedCurrency := (echoed r e).2
  capturedTotal := r.capturedAmount.getD ⟨0, ""⟩
  declineReason := r.declineReason
  mappedState := mappedState r.status

def ExpectedResponse.present : Bool := text e.currentState != ""

def subjectOf (now : Time) : Subject where
  kind := .response
  attempt := { operation := e.operation, dispatchedAmount := e.amount }
  payment :=
    { present := e.present, current := e.currentState, authorizedAmount := e.authorizedAmount,
      capturedTotal := e.capturedTotal }
  normalized := normalizedOf r e
  now := now

def validateGatewayResponse (now : Time) (r : GatewayResponse) (e : ExpectedResponse) :
    Option GoError :=
  ((L6Response.rules defaultDeps).evaluate (subjectOf r e now)).asError

/-- The answer as the rules see it passes every one of them. -/
structure Accepts (r : GatewayResponse) (e : ExpectedResponse) : Prop where
  reference : normalizeOutcome r.status ≠ .hardError → r.gatewayRef ≠ ""
  amount : normalizeOutcome r.status = .success → (echoed r e).1.amount = e.amount.amount
  currency : normalizeOutcome r.status = .success → (echoed r e).2 = e.amount.currency
  captured : e.operation = .capture → e.present = true →
    (r.capturedAmount.getD ⟨0, ""⟩).greaterThan e.authorizedAmount = .ok false
  refunded : e.operation = .refund → e.present = true →
    Money.greaterThan ⟨0, ""⟩ e.capturedTotal = .ok false
  mapped : normalizeOutcome r.status ≠ .unknown
  allowed : ∀ outcomes, defaultDeps.allowedOutcomes.lookup e.operation = some outcomes →
    normalizeOutcome r.status ∈ outcomes
  reason : normalizeOutcome r.status = .declined → r.declineReason ∈ defaultDeps.knownDeclineReasons
  /-- The validator hands over neither redirect nor challenge. -/
  payload : normalizeOutcome r.status ≠ .requiresAction
  reachable : e.present = true → ∀ mapped, mappedState r.status = some mapped →
    mapped ≠ e.currentState → machine.canTransition e.currentState mapped = true
  alive : e.present = true → e.currentState.isTerminal = true →
    e.currentState.isSuccessful = false → normalizeOutcome r.status ≠ .success

section Rules

variable (now : Time) (r : GatewayResponse) (e : ExpectedResponse)

theorem signature_holds (d : L6Response.Deps) :
    ∀ x ∈ L6Response.signatureDefs d, x.Holds (subjectOf r e now) := by
  simp [L6Response.signatureDefs, Def.Holds, subjectOf]

theorem record_holds : ∀ x ∈ L6Response.recordDefs, x.Holds (subjectOf r e now) := by
  simp [L6Response.recordDefs, Def.Holds, subjectOf]

theorem shape_holds_iff :
    (∀ x ∈ L6Response.shapeDefs, x.Holds (subjectOf r e now)) ↔
      (normalizeOutcome r.status ≠ .hardError → r.gatewayRef ≠ "") := by
  simp [L6Response.shapeDefs, Def.Holds, subjectOf, normalizedOf]

theorem withinTotal_iff (reported limit : Money) {foreign above : String} (h : foreign ≠ "")
    (h' : above ≠ "") :
    L6Response.withinTotal reported limit foreign above = "" ↔
      reported.greaterThan limit = .ok false := by
  unfold L6Response.withinTotal
  cases reported.greaterThan limit with
  | error => simp [h]
  | ok greater => cases greater <;> simp [h']

theorem echo_holds_iff :
    (∀ x ∈ L6Response.echoDefs, x.Holds (subjectOf r e now)) ↔
      (normalizeOutcome r.status = .success → (echoed r e).1.amount = e.amount.amount) ∧
      (normalizeOutcome r.status = .success → (echoed r e).2 = e.amount.currency) ∧
      (e.operation = .capture → e.present = true →
        (r.capturedAmount.getD ⟨0, ""⟩).greaterThan e.authorizedAmount = .ok false) ∧
      (e.operation = .refund → e.present = true →
        Money.greaterThan ⟨0, ""⟩ e.capturedTotal = .ok false) := by
  simp [L6Response.echoDefs, Def.Holds, L6Response.success, subjectOf, normalizedOf,
    withinTotal_iff]

theorem status_holds_iff :
    (∀ x ∈ L6Response.statusDefs defaultDeps, x.Holds (subjectOf r e now)) ↔
      normalizeOutcome r.status ≠ .unknown ∧
      (∀ outcomes, defaultDeps.allowedOutcomes.lookup e.operation = some outcomes →
        normalizeOutcome r.status ∈ outcomes) ∧
      (normalizeOutcome r.status = .declined →
        r.declineReason ∈ defaultDeps.knownDeclineReasons) ∧
      normalizeOutcome r.status ≠ .requiresAction ∧
      (e.present = true → ∀ mapped, mappedState r.status = some mapped →
        mapped ≠ e.currentState → machine.canTransition e.currentState mapped = true) ∧
      (e.present = true → e.currentState.isTerminal = true →
        e.currentState.isSuccessful = false → normalizeOutcome r.status ≠ .success) := by
  simp only [L6Response.statusDefs, Def.Holds, L6Response.declined, subjectOf, normalizedOf,
    List.forall_mem_cons]
  cases defaultDeps.allowedOutcomes.lookup e.operation with
  | none => cases mappedState r.status <;> simp
  | some outcomes =>
    by_cases unmapped : normalizeOutcome r.status = .unknown
    · cases mappedState r.status <;> simp [unmapped]
    · by_cases listed : normalizeOutcome r.status ∈ outcomes
      · cases mappedState r.status <;> simp [unmapped, listed]
      · cases mappedState r.status <;> simp [unmapped, listed]

end Rules

theorem validateGatewayResponse_iff (now : Time) (r : GatewayResponse) (e : ExpectedResponse) :
    validateGatewayResponse now r e = none ↔ Accepts r e := by
  unfold validateGatewayResponse
  rw [RuleSet.accepts_iff _ (fun _ _ => rfl)]
  show (∀ d ∈ L6Response.defs defaultDeps, d.Holds (subjectOf r e now)) ↔ _
  simp only [L6Response.defs, List.forall_mem_append, shape_holds_iff, echo_holds_iff,
    status_holds_iff]
  constructor
  · rintro ⟨⟨⟨⟨-, reference⟩, amount, currency, captured, refunded⟩, mapped, allowed, reason,
      payload, reachable, alive⟩, -⟩
    exact ⟨reference, amount, currency, captured, refunded, mapped, allowed, reason, payload,
      reachable, alive⟩
  · intro h
    exact ⟨⟨⟨⟨signature_holds now r e _, h.reference⟩, h.amount, h.currency, h.captured,
      h.refunded⟩, h.mapped, h.allowed, h.reason, h.payload, h.reachable, h.alive⟩,
      record_holds now r e⟩

end Model

open Lib.Procedure Payments

def parkAnswer (env : AttemptEnv) (sin : SettleInput) (message reason : String) :
    Proc (Proc AttemptResult) := do
  parkFollowUp env sin message reason
  pure (reloadResult env.reloadTx sin.plan none)

/-- The arms of `settle` for a result the validator has accepted, up to their commit, with what is
done after it. -/
def applyStatus (o : Orchestrator) (env : AttemptEnv) (sin : SettleInput) (resp : Spi.Result) :
    Proc (Proc AttemptResult) :=
  match resp.status with
  | .authorized => do
      emit (.record sin.breakerKey true true)
      invoke (.attempt sin.index (.succeed resp.gatewayRef resp.rawStatus env.now))
      let pay ← read World.pay
      invoke (.payment (.markAuthorized (resp.authorizedAmount.getD pay.amount)
        (some (resp.authExpiresAt.getD (env.now + o.settings.authorizationValidity)))
        env.mutatedAt))
      pure (reloadResult env.reloadTx sin.plan none)
  | .captured => do
      emit (.record sin.breakerKey true true)
      invoke (.attempt sin.index (.succeed resp.gatewayRef resp.rawStatus env.now))
      let pay ← read World.pay
      invoke (.payment (.markCaptured (resp.capturedAmount.getD pay.amount) env.mutatedAt))
      pure (reloadResult env.reloadTx sin.plan none)
  | .requiresAction => do
      emit (.record sin.breakerKey true true)
      invoke (.payment (.requireAction (nextActionOf resp) env.mutatedAt))
      pure (reloadResult env.reloadTx sin.plan (some (nextActionOf resp)))
  | .pending => do
      emit (.record sin.breakerKey true true)
      invoke (.payment (.markPending env.mutatedAt))
      pure (reloadResult env.reloadTx sin.plan none)
  | .declined => do
      emit (.record sin.breakerKey false false)
      invoke (.attempt sin.index (.decline resp.declineReason resp.gatewayRef resp.rawStatus
        resp.networkAdviceNoRetry env.now))
      let permits ← read sin.permitsFailover
      if permits && o.settings.enableFailover then
        pure (pure { terminal := false, result := none, err := some (declineError resp.declineReason) })
      else
        invoke (.payment (.markFailed resp.declineReason resp.rawMessage env.mutatedAt))
        pure (reloadResult env.reloadTx sin.plan none)
  | status =>
      parkAnswer env sin ("unrecognised gateway status: " ++ text status)
        "unrecognised gateway status"

def applyResult (o : Orchestrator) (env : AttemptEnv) (sin : SettleInput) (resp : Spi.Result) :
    Proc (Proc AttemptResult) := do
  let pay ← read World.pay
  match o.validateGatewayResponse (responseOf resp) (expectedOf pay sin) with
  | some err =>
      parkAnswer env sin ("gateway response failed validation: " ++ err.error)
        "gateway response failed L6 validation"
  | none => applyStatus o env sin resp

def statusAction : Spi.Status → String
  | .authorized => "payment.authorized"
  | .captured => "payment.captured"
  | .requiresAction => "payment.requires_action"
  | .pending => "payment.pending"
  | .declined => "payment.declined"
  | _ => "payment.attempt_unknown"

/-- The action `settle` passes for an answer. -/
def settledAction (o : Orchestrator) (sin : SettleInput) (pay : Payment) (answer : Answer) :
    String :=
  if isOutcomeUnknown answer.callErr || (answer.resp.isNone && isTimeout answer.callErr) then
    "payment.attempt_unknown"
  else
    match answer.callErr, answer.resp with
    | some _, _ => "payment.attempt_failed"
    | none, none => "payment.attempt_unknown"
    | none, some resp =>
      match o.validateGatewayResponse (responseOf resp) (expectedOf pay sin) with
      | some _ => "payment.attempt_unknown"
      | none => statusAction resp.status

/-- `settle` is its calls on the payment, the commit under the action of the answer, and what it
returns. -/
theorem settle_of_result {o : Orchestrator} {env : AttemptEnv} (sin : SettleInput) {resp : Spi.Result}
    (answered : env.answer = ⟨some resp, none⟩) (w : World) :
    settle o env sin w = (do
      let next ← applyResult o env sin resp
      commit env.outcomeTx sin.index (settledAction o sin w.pay env.answer)
      next : Proc AttemptResult) w := by
  have parked : ∀ message reason, settleUnknown env sin message reason = (do
      let next ← parkAnswer env sin message reason
      commit env.outcomeTx sin.index "payment.attempt_unknown"
      next) := by
    intro message reason
    simp only [settleUnknown, parkAnswer, parkFollowUp, bind_assoc, pure_bind]
  have action : settledAction o sin w.pay env.answer =
      match o.validateGatewayResponse (responseOf resp) (expectedOf w.pay sin) with
      | some _ => "payment.attempt_unknown"
      | none => statusAction resp.status := by
    rw [answered]
    rfl
  unfold settle applyResult
  rw [action, answered, bind_assoc, bind_read]
  show (do let pay ← read World.pay; _ : Proc AttemptResult) w = _
  rw [bind_read]
  cases o.validateGatewayResponse (responseOf resp) (expectedOf w.pay sin) with
  | some err => simp only [parked]
  | none =>
    unfold settleStatus applyStatus statusAction
    cases resp.status with
    | authorized => simp only [settleAuthorized, bind_assoc, pure_bind]
    | captured => simp only [settleCaptured, bind_assoc, pure_bind]
    | requiresAction => simp only [settleRequiresAction, settleLater, bind_assoc, pure_bind]
    | pending => simp only [settlePending, settleLater, bind_assoc, pure_bind]
    | declined =>
      simp only [settleDeclined, bind_assoc]
      refine congrFun (bind_congr fun _ => bind_congr fun _ => bind_congr fun permits => ?_) w
      cases permits && o.settings.enableFailover <;>
        simp only [Bool.false_eq_true, if_false, if_true, bind_assoc, pure_bind]
    | _ => simp only [parked]

theorem settle_of_error (o : Orchestrator) {env : AttemptEnv} (sin : SettleInput) (pay : Payment)
    {err : GoError} (failed : env.answer.callErr = some err) :
    settle o env sin = settleError env sin err ∧
        settledAction o sin pay env.answer = "payment.attempt_failed" ∨
      settle o env sin = settleUnknown env sin (safeMessage (some err)) "gateway outcome unknown" ∧
        settledAction o sin pay env.answer = "payment.attempt_unknown" := by
  unfold settle settledAction
  rw [failed]
  split <;> simp

/-- A call whose result is to be recorded: the operation, with everything its recording
reads but the result. -/
inductive SentCall where
  | authorize (env : AttemptEnv) (sin : SettleInput) (op : sin.operation = .authorize)
  | followUp (fu : FollowUp) (env : AttemptEnv) (sin : SettleInput) (op : sin.operation = fu.operation)
  | refund (env : RefundEnv) (success : Attempt) (i : Nat)

inductive Verdict where
  | effective | failed | unresolved
  deriving DecidableEq

def attemptVerdict (before after : Payment) (i : Nat) : Verdict :=
  match (after.attempts[i]?).map Attempt.outcome with
  | some .success => .effective
  | some .declined | some .error => .failed
  | _ =>
    if after.state = before.state then .unresolved
    else
      match after.state with
      | .authorized | .captured | .voided => .effective
      | .failed => .failed
      | _ => .unresolved

def refundVerdict (after : Payment) (i : Nat) : Verdict :=
  match (after.refunds[i]?).map Refund.status with
  | some .succeeded => .effective
  | some .failed | some .canceled => .failed
  | _ => .unresolved

def raisedSince (before after : Payment) : Bool :=
  (after.events.drop before.events.length).any (·.type == .reconciliationRequired)

/-- The status says that the operation took effect.  An authorization may come back captured. -/
def tookEffect : Operation → Spi.Status → Bool
  | .authorize, .authorized | .authorize, .captured => true
  | .capture, .captured => true
  | .void, .voided => true
  | .refund, .refunded => true
  | _, _ => false

def refused : Spi.Status → Bool
  | .declined | .failed => true
  | _ => false

namespace SentCall

def operation : SentCall → Operation
  | .authorize .. => .authorize
  | .followUp fu .. => fu.operation
  | .refund .. => .refund

def answering (res : Spi.Result) : Spi.Answer := { resp := some res, callErr := none }

/-- The calls on the payment that the result leads to, up to the commit. -/
def apply (o : Orchestrator) (x : SentCall) (res : Spi.Result) : Proc Unit :=
  match x with
  | .authorize env sin _ => do
      let _ ← applyResult o env sin res
  | .followUp fu env sin _ => settleFollowUp o fu { env with answer := answering res } sin
  | .refund env success i => settleRefund { env with answer := answering res } success i

def verdict (before after : Payment) : SentCall → Verdict
  | .authorize _ sin _ | .followUp _ _ sin _ => attemptVerdict before after sin.index
  | .refund _ _ i => refundVerdict after i

def Outstanding (p : Payment) : SentCall → Prop
  | .authorize _ sin _ | .followUp _ _ sin _ =>
    ∃ a, p.attempts[sin.index]? = some a ∧ a.outcome = .dispatched
  | .refund _ _ i => ∃ r, p.refunds[i]? = some r ∧ r.status = .pending

end SentCall

/-- A result is recorded as effective only if its status says so, as failed only if it is a
decline or a failure, and for every other status the operation stays unresolved and
reconciliation is asked for. -/
structure RecordedFaithfully (o : Orchestrator) (x : SentCall) (res : Spi.Result) (w : World) :
    Prop where
  effective : ∀ w', x.apply o res w = (w', .ok ()) → x.verdict w.pay w'.pay = .effective →
    tookEffect x.operation res.status = true
  failed : ∀ w', x.apply o res w = (w', .ok ()) → x.verdict w.pay w'.pay = .failed →
    refused res.status = true
  unresolved : tookEffect x.operation res.status = false → refused res.status = false →
    ∃ w', x.apply o res w = (w', .ok ()) ∧ x.verdict w.pay w'.pay = .unresolved ∧
      raisedSince w.pay w'.pay = true

def FollowUp.admits (fu : FollowUp) (p : Payment) (res : Spi.Result) : Bool :=
  match fu with
  | .capture amount _ => p.admitsCapture (res.capturedAmount.getD amount)
  | .void => p.admitsVoid

/-- When a result is recorded as its status says.  A PENDING authorization must not pass the
validator; nor must, for a capture or a void, any status that does not say it took effect,
unless it is FAILED and the payment itself refuses to move; and a refund must come back
REFUNDED, DECLINED or FAILED. -/
def SentCall.ReadsStatus (x : SentCall) (p : Payment) (res : Spi.Result) : Prop :=
  match x with
  | .authorize _ sin _ => ¬ (res.status = .pending ∧ Accepts (responseOf res) (expectedOf p sin))
  | .followUp fu _ sin _ =>
    tookEffect fu.operation res.status = true ∨
      ¬ Accepts (followUpResponse res) (expectedOf p sin) ∨
      (res.status = .failed ∧ fu.admits p res = false)
  | .refund .. => res.status = .refunded ∨ refused res.status = true

section Judging

variable {o : Orchestrator} {x : SentCall} {res : Spi.Result} {w w' : World}

theorem recordedFaithfully_of_ok (ran : x.apply o res w = (w', .ok ())) :
    RecordedFaithfully o x res w ↔
      (x.verdict w.pay w'.pay = .effective → tookEffect x.operation res.status = true) ∧
      (x.verdict w.pay w'.pay = .failed → refused res.status = true) ∧
      (tookEffect x.operation res.status = false → refused res.status = false →
        x.verdict w.pay w'.pay = .unresolved ∧ raisedSince w.pay w'.pay = true) := by
  have only : ∀ v, x.apply o res w = (v, .ok ()) → v = w' := by
    intro v same
    rw [ran] at same
    cases same
    rfl
  constructor
  · intro h
    refine ⟨h.effective w' ran, h.failed w' ran, fun silent open_ => ?_⟩
    obtain ⟨v, same, unresolved, raised⟩ := h.unresolved silent open_
    rw [only v same] at unresolved raised
    exact ⟨unresolved, raised⟩
  · rintro ⟨effective, failed, unresolved⟩
    refine ⟨fun v same => ?_, fun v same => ?_, fun silent open_ => ⟨w', ran, unresolved silent open_⟩⟩
    · rw [only v same]
      exact effective
    · rw [only v same]
      exact failed

theorem recordedFaithfully_of_error {e : GoError} (ran : x.apply o res w = (w', .error e)) :
    RecordedFaithfully o x res w ↔
      tookEffect x.operation res.status = true ∨ refused res.status = true := by
  have never : ∀ v, x.apply o res w ≠ (v, .ok ()) := by
    intro v same
    rw [ran] at same
    cases same
  constructor
  · intro h
    by_contra neither
    simp only [not_or, Bool.not_eq_true] at neither
    obtain ⟨v, same, -⟩ := h.unresolved neither.1 neither.2
    exact never v same
  · intro h
    refine ⟨fun v same => absurd same (never v), fun v same => absurd same (never v), ?_⟩
    intro silent open_
    simp [silent, open_] at h

theorem recordedFaithfully_of_parked (ran : x.apply o res w = (w', .ok ()))
    (unresolved : x.verdict w.pay w'.pay = .unresolved)
    (raised : raisedSince w.pay w'.pay = true) : RecordedFaithfully o x res w := by
  rw [recordedFaithfully_of_ok ran, unresolved]
  simp [raised]

end Judging

section Attempts

variable {w : World} {i : Nat} {a a' : Attempt}

def World.setAttempt (w : World) (i : Nat) (a : Attempt) : World :=
  { w with pay.attempts := w.pay.attempts.set i a }

theorem invoke_attempt {c : AttemptCall} (found : w.pay.attempts[i]? = some a)
    (applied : c.apply a = .ok a') : invoke (.attempt i c) w = (w.setAttempt i a', .ok ()) := by
  simp only [invoke, Call.apply, found, applied]
  rfl

theorem outcome_setAttempt {after : Payment} (found : w.pay.attempts[i]? = some a)
    (attempts : after.attempts = (w.setAttempt i a').pay.attempts) :
    (after.attempts[i]?).map Attempt.outcome = some a'.outcome := by
  have bound : i < w.pay.attempts.length := (List.getElem?_eq_some_iff.mp found).1
  rw [attempts]
  show ((w.pay.attempts.set i a')[i]?).map Attempt.outcome = _
  rw [List.getElem?_set_self bound]
  rfl

theorem timeOut_dispatched (sent : a.outcome = .dispatched) (message : String) (now : Time) :
    ∃ a', AttemptCall.apply a (.timeOut message now) = .ok a' ∧ a'.outcome = .timeoutUnknown := by
  simp only [AttemptCall.apply, Attempt.timeOut, sent]
  exact ⟨_, rfl, rfl⟩

theorem succeed_dispatched (sent : a.outcome = .dispatched) (ref raw : String) (now : Time) :
    ∃ a', AttemptCall.apply a (.succeed ref raw now) = .ok a' ∧ a'.outcome = .success := by
  simp only [AttemptCall.apply, Attempt.succeed, sent]
  exact ⟨_, rfl, rfl⟩

theorem decline_dispatched (sent : a.outcome = .dispatched) (reason : DeclineReason)
    (ref raw : String) (noRetry : Bool) (now : Time) :
    ∃ a', AttemptCall.apply a (.decline reason ref raw noRetry now) = .ok a' ∧
      a'.outcome = .declined := by
  simp only [AttemptCall.apply, Attempt.decline, sent]
  exact ⟨_, rfl, rfl⟩

theorem parkFollowUp_parks (env : AttemptEnv) {sin : SettleInput} (message reason : String)
    (found : w.pay.attempts[sin.index]? = some a) (sent : a.outcome = .dispatched) :
    ∃ w', parkFollowUp env sin message reason w = (w', .ok ()) ∧
      attemptVerdict w.pay w'.pay sin.index = .unresolved ∧ raisedSince w.pay w'.pay = true := by
  obtain ⟨a', timed, unknown⟩ := timeOut_dispatched sent message env.now
  let v := (w.emit (.record sin.breakerKey false true)).setAttempt sin.index a'
  let w' := { v with pay := v.pay.requireReconciliation sin.attemptID reason env.mutatedAt }
  have outcome : (w'.pay.attempts[sin.index]?).map Attempt.outcome = some a'.outcome :=
    outcome_setAttempt (w := w.emit (.record sin.breakerKey false true)) found rfl
  refine ⟨w', ?_, ?_, ?_⟩
  · unfold parkFollowUp
    rw [bind_emit,
      bind_of_ok (invoke_attempt (w := w.emit (.record sin.breakerKey false true)) found timed)]
    rfl
  · unfold attemptVerdict
    rw [outcome, unknown]
    exact if_pos rfl
  · show (List.drop w.pay.events.length (w.pay.events ++ [_])).any _ = true
    rw [List.drop_left]
    rfl

theorem mark_then {c : AttemptCall} (e : Effect) (found : w.pay.attempts[i]? = some a)
    (applied : c.apply a = .ok a') (next : Proc Unit) :
    (do emit e; invoke (.attempt i c); next : Proc Unit) w = next ((w.emit e).setAttempt i a') := by
  rw [bind_emit, bind_of_ok (invoke_attempt (w := w.emit e) found applied)]

variable (a') in
theorem outcome_moved {c : PaymentCall} (e : Effect) (found : w.pay.attempts[i]? = some a)
    (settling : Call.settling i (.payment c) = true) :
    let v := (w.emit e).setAttempt i a'
    (((c.apply v.pay).1.attempts)[i]?).map Attempt.outcome = some a'.outcome :=
  outcome_setAttempt (w := w.emit e) found (attempts_of_settling settling _)

end Attempts

/-- The orchestrator with the production validator.  Its clock is read but decides nothing. -/
def validating (settings : Settings) (now : Time) : Orchestrator where
  settings := settings
  validateGatewayResponse := validateGatewayResponse now

section Verdicts

variable {o : Orchestrator} {x : SentCall} {res : Spi.Result} {w w' : World} {i : Nat}

theorem attemptVerdict_success {before after : Payment}
    (h : (after.attempts[i]?).map Attempt.outcome = some .success) :
    attemptVerdict before after i = .effective := by
  unfold attemptVerdict
  rw [h]

theorem attemptVerdict_declined {before after : Payment}
    (h : (after.attempts[i]?).map Attempt.outcome = some .declined) :
    attemptVerdict before after i = .failed := by
  unfold attemptVerdict
  rw [h]

theorem recordedFaithfully_of_effective {r : Except GoError Unit}
    (ran : x.apply o res w = (w', r)) (recorded : x.verdict w.pay w'.pay = .effective)
    (told : tookEffect x.operation res.status = true) : RecordedFaithfully o x res w := by
  cases r with
  | error => exact (recordedFaithfully_of_error ran).mpr (.inl told)
  | ok =>
    rw [recordedFaithfully_of_ok ran, recorded]
    simp [told]

theorem recordedFaithfully_of_refused {r : Except GoError Unit}
    (ran : x.apply o res w = (w', r)) (recorded : x.verdict w.pay w'.pay = .failed)
    (told : refused res.status = true) : RecordedFaithfully o x res w := by
  cases r with
  | error => exact (recordedFaithfully_of_error ran).mpr (.inr told)
  | ok =>
    rw [recordedFaithfully_of_ok ran, recorded]
    simp [told]

end Verdicts

section Authorize

variable {settings : Settings} {now : Time} {env : AttemptEnv} {sin : SettleInput}
  {op : sin.operation = .authorize} {res : Spi.Result} {w : World} {a : Attempt}

variable (settings now) in
theorem validating_rejects {r : GatewayResponse} {e : ExpectedResponse} (rejected : ¬ Accepts r e) :
    ∃ err, (validating settings now).validateGatewayResponse r e = some err := by
  refine Option.ne_none_iff_exists'.mp fun accepted => rejected ?_
  exact (validateGatewayResponse_iff now r e).mp accepted

theorem validating_accepts {r : GatewayResponse} {e : ExpectedResponse} (accepted : Accepts r e) :
    (validating settings now).validateGatewayResponse r e = none :=
  (validateGatewayResponse_iff now r e).mpr accepted

theorem authorize_apply_rejected
    (rejected : ¬ Accepts (responseOf res) (expectedOf w.pay sin)) :
    ∃ message reason, (SentCall.authorize env sin op).apply (validating settings now) res w =
      parkFollowUp env sin message reason w := by
  obtain ⟨err, refused⟩ := validating_rejects settings now rejected
  refine ⟨"gateway response failed validation: " ++ err.error,
    "gateway response failed L6 validation", ?_⟩
  simp only [SentCall.apply, applyResult, bind_assoc]
  rw [bind_read]
  simp only [refused, parkAnswer, bind_assoc, pure_bind, bind_pure_unit]

variable (settings now env op) in
theorem authorize_apply_accepted (accepted : Accepts (responseOf res) (expectedOf w.pay sin)) :
    (SentCall.authorize env sin op).apply (validating settings now) res w =
      (do let _ ← applyStatus (validating settings now) env sin res : Proc Unit) w := by
  simp only [SentCall.apply, applyResult, bind_assoc]
  rw [bind_read]
  simp only [validating_accepts accepted]

theorem authorize_parked (message reason : String)
    (found : w.pay.attempts[sin.index]? = some a) (sent : a.outcome = .dispatched)
    (parks : (SentCall.authorize env sin op).apply (validating settings now) res w =
      parkFollowUp env sin message reason w) :
    RecordedFaithfully (validating settings now) (.authorize env sin op) res w := by
  obtain ⟨w', parked, unresolved, raised⟩ := parkFollowUp_parks env message reason found sent
  exact recordedFaithfully_of_parked (parks.trans parked) unresolved raised

theorem authorize_effective {c : AttemptCall} {a' : Attempt} (move : Payment → PaymentCall)
    (found : w.pay.attempts[sin.index]? = some a)
    (applied : c.apply a = .ok a') (success : a'.outcome = .success)
    (settling : ∀ p, Call.settling sin.index (.payment (move p)) = true)
    (told : tookEffect .authorize res.status = true)
    (ran : (SentCall.authorize env sin op).apply (validating settings now) res w = (do
      emit (.record sin.breakerKey true true)
      invoke (.attempt sin.index c)
      let pay ← read World.pay
      invoke (.payment (move pay)) : Proc Unit) w) :
    RecordedFaithfully (validating settings now) (.authorize env sin op) res w := by
  let v := (w.emit (.record sin.breakerKey true true)).setAttempt sin.index a'
  have outcome := outcome_moved a' (.record sin.breakerKey true true) found (settling v.pay)
  rw [success] at outcome
  rw [mark_then _ found applied] at ran
  exact recordedFaithfully_of_effective ran (attemptVerdict_success outcome) told

theorem authorize_declined (found : w.pay.attempts[sin.index]? = some a)
    (sent : a.outcome = .dispatched)
    (accepted : Accepts (responseOf res) (expectedOf w.pay sin)) (status : res.status = .declined) :
    RecordedFaithfully (validating settings now) (.authorize env sin op) res w := by
  obtain ⟨a', applied, declined⟩ := decline_dispatched sent res.declineReason res.gatewayRef
    res.rawStatus res.networkAdviceNoRetry env.now
  let e := Effect.record sin.breakerKey false false
  let v := (w.emit e).setAttempt sin.index a'
  have marked : invoke (.attempt sin.index (.decline res.declineReason res.gatewayRef
      res.rawStatus res.networkAdviceNoRetry env.now)) (w.emit e) = (v, .ok ()) :=
    invoke_attempt (w := w.emit e) found applied
  have ran : ∃ w' r, (SentCall.authorize env sin op).apply (validating settings now) res w =
      (w', r) ∧ w'.pay.attempts = v.pay.attempts := by
    rw [authorize_apply_accepted settings now env op accepted]
    simp only [applyStatus, status, bind_assoc]
    rw [bind_emit, bind_of_ok marked, bind_read]
    cases sin.permitsFailover v && (validating settings now).settings.enableFailover with
    | true =>
      exact ⟨v, .ok (), rfl, rfl⟩
    | false =>
      simp only [Bool.false_eq_true, if_false, bind_assoc, pure_bind, bind_pure_unit]
      exact ⟨_, _, rfl, attempts_of_settling (i := sin.index)
        (c := .markFailed res.declineReason res.rawMessage env.mutatedAt) rfl v.pay⟩
  obtain ⟨w', r, ran, attempts⟩ := ran
  have outcome := outcome_setAttempt (w := w.emit e) found attempts
  rw [declined] at outcome
  exact recordedFaithfully_of_refused ran (attemptVerdict_declined outcome) (by simp [status, refused])

theorem authorize_pending (accepted : Accepts (responseOf res) (expectedOf w.pay sin))
    (status : res.status = .pending) :
    ¬ RecordedFaithfully (validating settings now) (.authorize env sin op) res w := by
  intro faithful
  let w₁ := w.emit (.record sin.breakerKey true true)
  have ran : (SentCall.authorize env sin op).apply (validating settings now) res w =
      ({ w₁ with pay := (w.pay.markPending env.mutatedAt).1 },
        (w.pay.markPending env.mutatedAt).2) := by
    rw [authorize_apply_accepted settings now env op accepted]
    simp only [applyStatus, status, bind_assoc, pure_bind, bind_pure_unit]
    rfl
  obtain ⟨w', same, -, raised⟩ := faithful.unresolved (by simp [status, tookEffect])
    (by simp [status, refused])
  have events : w'.pay.events = w.pay.events := by
    have after := (Prod.mk.inj (ran.symm.trans same)).1
    rw [← after]
    exact Payment.transition_silent w.pay .pending env.mutatedAt
  rw [raisedSince, events, List.drop_length] at raised
  cases raised

theorem authorize_faithful_iff (found : w.pay.attempts[sin.index]? = some a)
    (sent : a.outcome = .dispatched) :
    RecordedFaithfully (validating settings now) (.authorize env sin op) res w ↔
      (SentCall.authorize env sin op).ReadsStatus w.pay res := by
  by_cases accepted : Accepts (responseOf res) (expectedOf w.pay sin)
  case neg =>
    obtain ⟨message, reason, parks⟩ := authorize_apply_rejected accepted
    exact iff_of_true (authorize_parked message reason found sent parks) fun both => accepted both.2
  case pos =>
  by_cases pending : res.status = .pending
  · exact iff_of_false (authorize_pending accepted pending) fun reads => reads ⟨pending, accepted⟩
  refine iff_of_true ?_ fun both => pending both.1
  have ran := authorize_apply_accepted settings now env op accepted
  obtain ⟨a', succeeded, success⟩ := succeed_dispatched sent res.gatewayRef res.rawStatus env.now
  cases status : res.status with
  | authorized =>
    refine authorize_effective
      (fun pay => .markAuthorized (res.authorizedAmount.getD pay.amount)
        (some (res.authExpiresAt.getD (env.now + settings.authorizationValidity))) env.mutatedAt)
      found succeeded success (fun p => rfl) (by simp [status, tookEffect]) ?_
    rw [ran]
    simp only [applyStatus, status, bind_assoc, pure_bind, bind_pure_unit]
    rfl
  | captured =>
    refine authorize_effective
      (fun pay => .markCaptured (res.capturedAmount.getD pay.amount) env.mutatedAt)
      found succeeded success (fun p => rfl) (by simp [status, tookEffect]) ?_
    rw [ran]
    simp only [applyStatus, status, bind_assoc, pure_bind, bind_pure_unit]
  | declined => exact authorize_declined found sent accepted status
  | pending => exact absurd status pending
  | requiresAction =>
    refine absurd ?_ accepted.payload
    simp [responseOf, status, normalizeOutcome]
  | refundAccepted | refunded | voided | failed | notFound | other =>
    refine authorize_parked ("unrecognised gateway status: " ++ text res.status)
      "unrecognised gateway status" found sent (ran.trans ?_)
    simp only [applyStatus, status, parkAnswer, bind_assoc, pure_bind, bind_pure_unit]

end Authorize

section FollowUp

variable {settings : Settings} {now : Time} {fu : FollowUp} {env : AttemptEnv}
  {sin : SettleInput} {op : sin.operation = fu.operation} {res : Spi.Result} {w : World}
  {a : Attempt}

theorem not_declined_of_accepts (accepted : Accepts (followUpResponse res) (expectedOf w.pay sin)) :
    res.status ≠ .declined := by
  intro status
  have reason := accepted.reason (by simp [followUpResponse, responseOf, status, normalizeOutcome])
  exact absurd reason (show DeclineReason.unset ∉ _ by decide)

variable (found : w.pay.attempts[sin.index]? = some a) (sent : a.outcome = .dispatched)
include found sent

theorem followUp_rejected
    (rejected : ¬ Accepts (followUpResponse res) (expectedOf w.pay sin)) :
    RecordedFaithfully (validating settings now) (.followUp fu env sin op) res w := by
  obtain ⟨err, refused⟩ := validating_rejects settings now rejected
  obtain ⟨w', parked, unresolved, raised⟩ :=
    parkFollowUp_parks { env with answer := SentCall.answering res }
      ("response failed validation: " ++ err.error) "gateway response failed L6 validation"
      found sent
  refine recordedFaithfully_of_parked (Eq.trans ?_ parked) unresolved raised
  simp only [SentCall.apply, settleFollowUp, SentCall.answering]
  rw [bind_read]
  simp only [refused]

variable (settings now env op) in
theorem followUp_accepted (accepted : Accepts (followUpResponse res) (expectedOf w.pay sin)) :
    ∃ w' r, (SentCall.followUp fu env sin op).apply (validating settings now) res w = (w', r) ∧
      attemptVerdict w.pay w'.pay sin.index = .effective ∧
      (r = .ok () ↔ fu.admits w.pay res = true) := by
  obtain ⟨a', succeeded, success⟩ := succeed_dispatched sent res.gatewayRef res.rawStatus env.now
  let v := (w.emit (.record sin.breakerKey true true)).setAttempt sin.index a'
  let c := fu.apply res env.mutatedAt
  refine ⟨{ v with pay := (c.apply v.pay).1 }, (c.apply v.pay).2, ?_, ?_, ?_⟩
  · simp only [SentCall.apply, settleFollowUp, SentCall.answering]
    rw [bind_read]
    simp only [validating_accepts accepted]
    exact mark_then (.record sin.breakerKey true true) found succeeded _
  · have settling : Call.settling sin.index (.payment c) = true := by cases fu <;> rfl
    have outcome := outcome_moved a' (.record sin.breakerKey true true) found settling
    rw [success] at outcome
    exact attemptVerdict_success outcome
  · cases fu with
    | capture => exact Payment.markCaptured_ok_iff v.pay _ _
    | void => exact Payment.void_ok_iff v.pay _

theorem followUp_faithful_iff :
    RecordedFaithfully (validating settings now) (.followUp fu env sin op) res w ↔
      (SentCall.followUp fu env sin op).ReadsStatus w.pay res := by
  by_cases accepted : Accepts (followUpResponse res) (expectedOf w.pay sin)
  case neg => exact iff_of_true (followUp_rejected found sent accepted) (.inr (.inl accepted))
  case pos =>
  obtain ⟨w', r, ran, effective, admitted⟩ :=
    followUp_accepted settings now env op found sent accepted
  have undeclined := not_declined_of_accepts accepted
  simp only [SentCall.ReadsStatus, accepted, not_true_eq_false, false_or]
  cases r with
  | ok =>
    have admits : fu.admits w.pay res = true := admitted.mp rfl
    rw [recordedFaithfully_of_ok ran]
    simp only [SentCall.verdict, SentCall.operation, effective, admits]
    cases tookEffect fu.operation res.status <;> simp
  | error =>
    have stays : fu.admits w.pay res = false := by
      rw [← Bool.not_eq_true, ← admitted]
      exact fun accepts => by cases accepts
    rw [recordedFaithfully_of_error ran]
    simp only [SentCall.operation, stays, and_true]
    refine or_congr_right ?_
    cases status : res.status <;> simp_all [refused]

end FollowUp

section Refund

variable {o : Orchestrator} {env : RefundEnv} {success : Attempt} {i : Nat} {res : Spi.Result}
  {w : World} {r : Refund}

theorem invoke_refund {c : RefundCall} {r' : Refund} (found : w.pay.refunds[i]? = some r)
    (applied : c.apply r = .ok r') :
    invoke (.refund i c) w = ({ w with pay.refunds := w.pay.refunds.set i r' }, .ok ()) := by
  simp only [invoke, Call.apply, found, applied]

theorem status_set {refunds : List Refund} {r' : Refund} (found : refunds[i]? = some r) :
    ((refunds.set i r')[i]?).map Refund.status = some r'.status := by
  rw [List.getElem?_set_self (List.getElem?_eq_some_iff.mp found).1]
  rfl

theorem markSubmitted_pending (pending : r.status = .pending) (ref : String) (now : Time) :
    ∃ r', RefundCall.apply r (.markSubmitted ref now) = .ok r' ∧ r'.status = .submitted := by
  simp only [RefundCall.apply, Refund.markSubmitted, pending]
  exact ⟨_, rfl, rfl⟩

theorem markFailed_pending (pending : r.status = .pending) (code message : String) (now : Time) :
    ∃ r', RefundCall.apply r (.markFailed code message now) = .ok r' ∧ r'.status = .failed := by
  simp only [RefundCall.apply, Refund.markFailed, pending]
  exact ⟨_, rfl, rfl⟩

theorem refundVerdict_confirm (p : Payment) (id : RefundID) (ref : String) (now : Time)
    (found : p.refunds[i]? = some r) (submitted : r.status = .submitted) :
    refundVerdict (p.confirmRefund id ref now).1 i ≠ .failed := by
  have effect := Call.effect p (.payment (.confirmRefund id ref now))
  generalize after : ((Call.payment (.confirmRefund id ref now)).apply p).1.core = k at effect
  have refunds : (p.confirmRefund id ref now).1.refunds = k.refunds := congrArg Core.refunds after
  have unchanged : (p.refunds[i]?).map Refund.status = some .submitted := by
    rw [found, ← submitted]
    rfl
  have marked : ∀ j (r' : Refund), r'.status = .succeeded →
      ((p.refunds.set j r')[i]?).map Refund.status = some .submitted ∨
        ((p.refunds.set j r')[i]?).map Refund.status = some .succeeded := by
    intro j r' succeeded
    by_cases same : j = i
    · subst same
      exact .inr ((status_set found).trans (congrArg some succeeded))
    · exact .inl (by rw [List.getElem?_set_ne same, unchanged])
  have kept : (k.refunds[i]?).map Refund.status = some .submitted ∨
      (k.refunds[i]?).map Refund.status = some .succeeded := by
    cases effect with
    | keep | move => exact .inl unchanged
    | confirm _ _ succeeded => exact marked _ _ succeeded
    | confirmRefused _ _ succeeded => exact marked _ _ succeeded
  unfold refundVerdict
  rw [refunds]
  rcases kept with status | status <;> rw [status] <;> decide

variable (found : w.pay.refunds[i]? = some r) (pending : r.status = .pending)
include found pending

theorem refund_submitted (silent : tookEffect .refund res.status = false) (open_ : refused res.status = false)
    (ran : (SentCall.refund env success i).apply o res w =
      invoke (.refund i (.markSubmitted res.gatewayRef env.now)) w) :
    ¬ RecordedFaithfully o (.refund env success i) res w := by
  intro faithful
  obtain ⟨r', applied, -⟩ := markSubmitted_pending pending res.gatewayRef env.now
  rw [invoke_refund found applied] at ran
  obtain ⟨w', same, -, raised⟩ := faithful.unresolved silent open_
  have after := (Prod.mk.inj (ran.symm.trans same)).1
  rw [← after, raisedSince] at raised
  simp at raised

theorem refund_refunded (status : res.status = .refunded) :
    RecordedFaithfully o (.refund env success i) res w := by
  obtain ⟨r', applied, submitted⟩ := markSubmitted_pending pending res.gatewayRef env.now
  let v : World := { w with pay.refunds := w.pay.refunds.set i r' }
  have stored : v.pay.refunds[i]? = some r' :=
    List.getElem?_set_self (List.getElem?_eq_some_iff.mp found).1
  have unfailed := refundVerdict_confirm v.pay env.refundID res.gatewayRef env.mutatedAt stored
    submitted
  have ran : (SentCall.refund env success i).apply o res w =
      invoke (.payment (.confirmRefund env.refundID res.gatewayRef env.mutatedAt)) v := by
    simp only [SentCall.apply, settleRefund, settleRefundStatus, SentCall.answering, status]
    rw [bind_of_ok (invoke_refund found applied)]
  have told : tookEffect .refund res.status = true := by rw [status]; rfl
  refine ⟨fun w' _ _ => told, fun w' same failed => absurd failed ?_, fun silent => ?_⟩
  · have after := (Prod.mk.inj (ran.symm.trans same)).1
    rw [← after]
    exact unfailed
  · rw [SentCall.operation, told] at silent
    cases silent

theorem refund_failed (ran : (SentCall.refund env success i).apply o res w =
      invoke (.refund i (.markFailed res.rawCode res.rawMessage env.now)) w) :
    RecordedFaithfully o (.refund env success i) res w ↔ refused res.status = true := by
  obtain ⟨r', applied, failed⟩ := markFailed_pending pending res.rawCode res.rawMessage env.now
  rw [invoke_refund found applied] at ran
  have recorded : refundVerdict { w.pay with refunds := w.pay.refunds.set i r' } i = .failed := by
    unfold refundVerdict
    rw [status_set found, failed]
  constructor
  · intro faithful
    exact faithful.failed _ ran recorded
  · intro told
    exact recordedFaithfully_of_refused ran recorded told

theorem refund_faithful_iff :
    RecordedFaithfully o (.refund env success i) res w ↔
      (SentCall.refund env success i).ReadsStatus w.pay res := by
  simp only [SentCall.ReadsStatus]
  cases status : res.status with
  | refunded => exact iff_of_true (refund_refunded found pending status) (.inl rfl)
  | refundAccepted | pending =>
    refine iff_of_false (refund_submitted found pending ?_ ?_ ?_) ?_
    · simp [status, tookEffect]
    · simp [status, refused]
    · simp [SentCall.apply, settleRefund, settleRefundStatus, SentCall.answering, status]
    · simp [refused]
  | authorized | captured | requiresAction | declined | voided | failed | notFound | other =>
    rw [refund_failed found pending
      (by simp [SentCall.apply, settleRefund, settleRefundStatus, SentCall.answering, status])]
    simp [status, refused]

end Refund

/-- A result is recorded as what its status says exactly when `ReadsStatus` holds of it. -/
theorem recordedFaithfully_iff (settings : Settings) (now : Time) (x : SentCall)
    (res : Spi.Result) (w : World) (outstanding : x.Outstanding w.pay) :
    RecordedFaithfully (validating settings now) x res w ↔ x.ReadsStatus w.pay res := by
  cases x with
  | authorize =>
    obtain ⟨a, found, sent⟩ := outstanding
    exact authorize_faithful_iff found sent
  | followUp =>
    obtain ⟨a, found, sent⟩ := outstanding
    exact followUp_faithful_iff found sent
  | refund =>
    obtain ⟨r, found, pending⟩ := outstanding
    exact refund_faithful_iff found pending

def voidSent : Payment :=
  sampleRun (authorizeCalls.dropLast ++
    [.payment (.startAttempt "paypal" "plan_1" .void ⟨"att_2", "gk_2"⟩ 4), .attempt 1 (.dispatch 5)])

def voidWorld : World where
  pay := voidSent
  row := Storage.Row.of voidSent
  log := []

def sampleVoid : SentCall :=
  .followUp .void (sampleAttempt 1 samplePending)
    { plan := sampleInput.plan, gateway := "paypal", operation := .void,
      breakerKey := "paypal:void", attemptID := "att_2", index := 1 } rfl

theorem recordedFaithfully_voided :
    RecordedFaithfully (validating sampleOrchestrator.settings 0) sampleVoid (bareResult .voided)
      voidWorld :=
  (recordedFaithfully_iff sampleOrchestrator.settings 0 sampleVoid (bareResult .voided)
    voidWorld ⟨_, rfl, by decide +kernel⟩).mpr (.inl rfl)

/-- The Void of an authorization that has expired comes back FAILED, and the payment is
VOIDED by it. -/
theorem not_recordedFaithfully_expired :
    paymentSystem.Reachable voidSent ∧ sampleVoid.Outstanding voidWorld.pay ∧
      (sampleVoid.apply (validating sampleOrchestrator.settings 0) (bareResult .failed)
        voidWorld).1.pay.state = .voided ∧
      ¬ RecordedFaithfully (validating sampleOrchestrator.settings 0) sampleVoid
        (bareResult .failed) voidWorld := by
  have accepted : (sampleVoid.apply (validating sampleOrchestrator.settings 0)
      (bareResult .failed) voidWorld).2 = .ok () := by
    decide +kernel
  refine ⟨reachable_sampleRun _, ⟨_, rfl, by decide +kernel⟩, by decide +kernel, ?_⟩
  intro faithful
  have told := faithful.effective _ (Prod.ext rfl accepted) (by decide +kernel)
  cases told

end PaymentsPlatform.Orchestration
