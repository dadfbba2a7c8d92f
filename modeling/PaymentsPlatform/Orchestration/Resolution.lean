/- layer: results about the reconciler
   digest: What it makes of the row a crash leaves behind and of a looked-up status, and the key a lookup
     asks for. -/

import PaymentsPlatform.Lib.Sha256
import PaymentsPlatform.Orchestration.Answers
import PaymentsPlatform.Orchestration.BreakerProbes

namespace PaymentsPlatform.Orchestration

open Gateways Lib.Procedure Payments
open Storage (Row Tx findUnresolved)

section Crash

variable (row : Row) (log : List Effect)

def Effect.leaves : Effect → Row
  | .stored r => r
  | _ => row

/-- The row in storage once the effects so far have happened. -/
def storedAfter : Row := log.foldl Effect.leaves row

theorem storedAfter_concat_stored (r : Row) (log : List Effect) :
    storedAfter row (log ++ [.stored r]) = r := by
  simp [storedAfter, Effect.leaves]

theorem storedAfter_unsaved (more : List Effect) (h : ∀ e ∈ more, ∀ r, e ≠ .stored r) :
    storedAfter row (log ++ more) = storedAfter row log := by
  induction more generalizing log with
  | nil => rw [List.append_nil]
  | cons e rest ih =>
    have rest_unsaved := ih (log ++ [e]) fun f member => h f (List.mem_cons_of_mem _ member)
    rw [List.append_assoc, List.singleton_append] at rest_unsaved
    rw [rest_unsaved, storedAfter, List.foldl_append]
    cases e with
    | stored r => exact absurd rfl (h _ List.mem_cons_self r)
    | permit | record | acquire | release | audited | authorize | capture | void | refund
    | lookup | exception => rfl

/-- The row holds an attempt that is only an intent, and nothing in it that a sweep would
look for. -/
structure Unasked (gw : GatewayID) (attempt : AttemptID) (r : Row) : Prop where
  intent : ∃ a ∈ r.payment.attempts, a.id = attempt ∧ a.gatewayID = gw ∧ a.outcome = .pending
  resolved : ∀ a ∈ r.payment.attempts, a.outcome ≠ .timeoutUnknown
  unflagged : r.reconciliationRequired = false

/-- Every Authorize call comes right after the save of its intent. -/
def IntentStored : Prop :=
  ∀ before gw i request answer after,
    log = before ++ Effect.authorize gw i request answer :: after →
      ∃ earlier r, before = earlier ++ [.stored r] ∧ Unasked gw request.attemptID r

theorem IntentStored.append {log suffix : List Effect} (h : IntentStored log)
    (silent : ∀ e ∈ suffix, e.called = none) : IntentStored (log ++ suffix) := by
  intro before gw i request answer after same
  rcases List.append_eq_append_iff.mp same with ⟨more, -, inSuffix⟩ | ⟨more, inLog, tail⟩
  · have called := silent (.authorize gw i request answer) (by simp [inSuffix])
    cases called
  · cases more with
    | nil =>
      have called := silent (.authorize gw i request answer)
        (by rw [← List.nil_append suffix, ← tail]; exact List.mem_cons_self)
      cases called
    | cons e more =>
      obtain ⟨rfl, -⟩ := List.cons.inj tail
      exact h before gw i request answer more inLog

theorem IntentStored.call {log : List Effect} {r : Row} (h : IntentStored (log ++ [.stored r]))
    {gw : GatewayID} (i : Nat) {request : AuthorizeRequest} (answer : Answer)
    (unasked : Unasked gw request.attemptID r) :
    IntentStored (log ++ [.stored r] ++ [.authorize gw i request answer]) := by
  intro before gw' i' request' answer' after same
  rcases List.append_eq_append_iff.mp same with ⟨more, prior, last⟩ | ⟨more, inLog, tail⟩
  · cases more with
    | nil =>
      cases last
      exact ⟨log, r, by rw [prior, List.append_nil], unasked⟩
    | cons e more =>
      have impossible := (List.cons.inj last).2
      cases more with
      | nil | cons => cases impossible
  · cases more with
    | nil =>
      cases tail
      exact ⟨log, r, by rw [inLog, List.append_nil], unasked⟩
    | cons e more =>
      obtain ⟨rfl, -⟩ := List.cons.inj tail
      exact h before gw' i' request' answer' more inLog

def Logged (w : World) : Prop := IntentStored w.log

theorem Logged.noCall (w w' : World) (h : Logged w) (moved : NoCall w w') : Logged w' := by
  obtain ⟨suffix, grown, silent⟩ := moved
  unfold Logged
  rw [grown]
  exact IntentStored.append h silent

theorem keeps_logged {α : Type} {c : Proc α} (moves : Moves NoCall c) : Keeps Logged c :=
  Keeps.iff_state.mpr fun w logged => logged.noCall w _ (moves w)

theorem beforeCall_logged {α : Type} {key : String} {c : Proc α} {P : World → Prop}
    {Q : α → World → Prop} (h : Triple P c Q (fun _ => Logged)) :
    Triple P (beforeCall key c) Q (fun _ => Logged) :=
  Triple.onFailure (h.weaken (fun _ pre => pre) (fun _ _ post => post)
    fun _ w logged => logged.noCall w _ (noCall_emit w rfl))

/-- The newest attempt is the intent about to be sent. -/
def Intended (gw : GatewayID) (attempt : AttemptID) (a : Attempt) : Prop :=
  a.id = attempt ∧ a.gatewayID = gw ∧ a.outcome = .pending

def Poised (gw : GatewayID) (attempt : AttemptID) (w : World) : Prop :=
  Logged w ∧ ∃ log r, w.log = log ++ [.stored r] ∧ Unasked gw attempt r

section Attempting

variable {gw : GatewayID} {attempt : AttemptID} {earlier : List Attempt}

theorem startAttempt_intended (din : DispatchInput) (env : AttemptEnv) (gw : GatewayID) :
    Triple Logged (startAttempt din env gw)
      (fun att w => ∃ earlier, (att.sequence - 1 = earlier.length ∧
        ∀ a ∈ earlier, a.outcome ≠ .timeoutUnknown) ∧
          (Logged w ∧ Shows (Newest earlier (Intended gw att.id) fun _ => True) w))
      (fun _ => Logged) := by
  intro w logged
  unfold startAttempt
  rcases w.pay.startAttempt_cases gw din.plan.id din.operation env.seed env.startedAt with
    ⟨e, same⟩ | ⟨p', att, same, rfl, core, -, -, -, resolved⟩
  · rw [same]
    exact logged
  · rw [same]
    exact ⟨w.pay.attempts, ⟨rfl, resolved⟩, logged,
      ⟨_, congrArg Core.attempts core, rfl, rfl, rfl⟩, trivial⟩

theorem bindConnection_intended (din : DispatchInput) {E : GoError → World → Prop} :
    Triple (fun w => Logged w ∧ Shows (Newest earlier (Intended gw attempt) fun _ => True) w)
      (bindConnection din gw earlier.length)
      (fun _ w => Logged w ∧ Shows (Newest earlier (Intended gw attempt) fun _ => True) w) E := by
  rintro w ⟨logged, ⟨a, same, intended⟩, -⟩
  obtain ⟨conn, ran⟩ := bindConnection_ok same din gw
  rw [ran]
  exact ⟨logged, ⟨_, rfl, intended⟩, trivial⟩

theorem markProcessing_intended (now : Time) :
    Triple (fun w => Logged w ∧ Shows (Newest earlier (Intended gw attempt) fun _ => True) w)
      (ignoring isSameState (invoke (.payment (.markProcessing now))))
      (fun _ w => Logged w ∧ Shows (Newest earlier (Intended gw attempt) fun _ => True) w)
      (fun _ => Logged) := by
  have moved : Keeps (Shows (Newest earlier (Intended gw attempt) fun _ => True))
      (invoke (.payment (.markProcessing now))) := triple_invoke_payment fun _ _ _ _ _ => nofun
  refine Triple.ignoring ((moved.alongside (moves_invoke _) Logged.noCall).weaken (fun _ h => h)
    (fun _ _ h => h) ?_)
  intro e w h
  split_ifs
  · exact h
  · exact h.1

theorem saveIntent_poised (tx : Tx) (resolved : ∀ a ∈ earlier, a.outcome ≠ .timeoutUnknown) :
    Triple (fun w => Logged w ∧ Shows (Newest earlier (Intended gw attempt) fun _ => True) w)
      (within tx (savePayment tx)) (fun _ => Poised gw attempt) (fun _ => Logged) := by
  rintro w ⟨logged, ⟨a, same, intended⟩, -⟩
  have after := logged.noCall w _ (moves_within tx (moves_savePayment tx) w)
  have same' : w.pay.attempts = earlier ++ [a] := same
  have all_resolved : ∀ b ∈ w.pay.attempts, b.outcome ≠ .timeoutUnknown := by
    intro b member
    rw [same'] at member
    rcases List.mem_append.mp member with before | newest
    · exact resolved b before
    · rw [List.mem_singleton.mp newest, intended.2.2]
      decide
  rcases done : within tx (savePayment tx) w with ⟨w', e | u⟩
  · rw [done] at after
    exact after
  · rw [done] at after
    obtain ⟨-, rfl⟩ := within_savePayment_ok done
    refine ⟨after, w.log, Row.of w.pay, rfl, ⟨a, ?_, intended⟩, all_resolved, ?_⟩
    · show a ∈ w.pay.attempts
      simp [same']
    · exact w.pay.hasUnresolvedAttempt_eq_false.mpr all_resolved

theorem invoke_poised (c : Call) :
    Triple (Poised gw attempt) (invoke c) (fun _ => Poised gw attempt) (fun _ => Logged) := by
  rintro w poised
  unfold invoke
  rcases (c.apply w.pay).2 with e | u
  · exact poised.1
  · exact poised

theorem dispatchHolding_logged (o : Orchestrator) (din : DispatchInput) (env : AttemptEnv)
    (gw : GatewayID) (key : String) : Keeps Logged (dispatchHolding o din env gw key) := by
  unfold dispatchHolding
  refine Triple.bind (R := fun _ => Logged)
    (beforeCall_logged (Triple.ofExcept (fun _ _ _ h => h) fun _ _ h => h)) fun account => ?_
  refine Triple.bind (beforeCall_logged (startAttempt_intended din env gw)) fun att => ?_
  refine Triple.of_exists fun earlier => Triple.of_fact fun ⟨at_, resolved⟩ => ?_
  dsimp only
  rw [at_]
  refine Triple.bind (bindConnection_intended din) fun _ => ?_
  refine Triple.bind (beforeCall_logged (markProcessing_intended _)) fun _ => ?_
  refine Triple.bind (beforeCall_logged (saveIntent_poised _ resolved)) fun _ => ?_
  refine Triple.bind (beforeCall_logged (invoke_poised _)) fun _ => ?_
  refine Triple.bind Triple.reading fun pay => ?_
  refine Triple.bind (R := fun _ => Logged) ?_ fun _ => keeps_logged (moves_settle _ _ _)
  refine Triple.modify fun w poised => ?_
  obtain ⟨logged, log, r, same, unasked⟩ := poised
  show IntentStored (w.log ++ [_])
  rw [same]
  exact IntentStored.call (same ▸ logged) _ _ unasked

theorem attemptOnce_logged (o : Orchestrator) (din : DispatchInput) (env : AttemptEnv)
    (gw : GatewayID) : Keeps Logged (attemptOnce o din env gw) := by
  have emitting : ∀ e : Effect, e.called = none → Keeps Logged (emit e) :=
    fun e silent => keeps_logged (moves_emit silent)
  unfold attemptOnce
  refine Keeps.orFail.bind fun _ => (emitting _ rfl).bind fun _ => ?_
  refine Keeps.bind (beforeCall_logged Keeps.orFail) fun _ => (emitting _ rfl).bind fun _ => ?_
  refine Triple.deferring ((dispatchHolding_logged o din env gw _).weaken (fun _ h => h) ?_ ?_)
  · exact fun _ w logged => logged.noCall w _ (noCall_emit w rfl)
  · exact fun _ w logged => logged.noCall w _ (noCall_emit w rfl)

end Attempting

variable (o : Orchestrator) (din : DispatchInput) (env : DispatchEnv)

theorem dispatch_logged : Keeps Logged (dispatch o din env) :=
  keeps_dispatch (fun n gw => attemptOnce_logged o din (env.attempts n) gw)
    (keeps_logged (moves_reload _))

theorem intentStored_dispatch (pay : Payment) (row : Row) :
    IntentStored (dispatch o din env { pay := pay, row := row, log := [] }).1.log := by
  have start : Logged { pay := pay, row := row, log := [] } := by
    intro before gw i request answer after same
    cases before with
    | nil | cons => cases same
  exact Keeps.iff_state.mp (dispatch_logged o din env) _ start

/-- A crash after an Authorize call and before the next committed save: the attempt is stored as an
intent, and no query of the reconciler returns its payment. -/
theorem crashed_call_never_asked_about (pay : Payment) (row : Row) {before mid after : List Effect}
    {gw : GatewayID} {i : Nat} {request : AuthorizeRequest} {answer : Answer}
    (ran : (dispatch o din env { pay := pay, row := row, log := [] }).1.log =
      before ++ .authorize gw i request answer :: (mid ++ after))
    (unrecorded : ∀ e ∈ mid, ∀ r, e ≠ .stored r) :
    let left := storedAfter row (before ++ .authorize gw i request answer :: mid)
    (∃ a ∈ left.payment.attempts,
      a.id = request.attemptID ∧ a.gatewayID = gw ∧ a.outcome = .pending) ∧
    (∀ (tenant : TenantID) (others : List Row) (now minAge limit : Int),
      (∀ r ∈ others, r.payment.id ≠ left.payment.id) →
        ∀ p ∈ findUnresolved tenant (left :: others) now minAge limit,
          p.id ≠ left.payment.id) ∧
    ∀ (r : Reconciler) (renv : ReconcileEnv),
      resolveOne r renv { pay := left.payment, row := left, log := [] } =
        ({ pay := left.payment, row := left, log := [] }, .ok false) := by
  obtain ⟨earlier, r, rfl, unasked⟩ := intentStored_dispatch o din env pay row _ _ _ _ _ _ ran
  have unsaved : ∀ e ∈ Effect.authorize gw i request answer :: mid, ∀ r, e ≠ .stored r := by
    intro e member
    rcases List.mem_cons.mp member with rfl | later
    · exact fun _ => nofun
    · exact unrecorded e later
  intro left
  have left_eq : left = r := by
    show storedAfter row (earlier ++ [.stored r] ++ .authorize gw i request answer :: mid) = r
    rw [storedAfter_unsaved row _ _ unsaved, storedAfter_concat_stored]
  rw [left_eq]
  refine ⟨unasked.intent, ?_, fun rec renv => resolveOne_of_resolved rec renv unasked.resolved⟩
  intro tenant others now minAge limit distinct p found
  obtain ⟨row', listed, rfl, flagged⟩ := Storage.flagged_of_mem_findUnresolved found
  rcases List.mem_cons.mp listed with rfl | other
  · rw [unasked.unflagged] at flagged
    cases flagged
  · exact distinct row' other

/-- The run on the first gateway, which answers later. -/
def pendingRun : World :=
  (dispatch sampleOrchestrator sampleInput
    { attempts := fun n => sampleAttempt n samplePending, finalTx := Tx.undisturbed } sampleWorld).1

def sampleRequest : AuthorizeRequest :=
  authorizeRequest sampleInput ""
    (newAttempt "pay_1" "ten_1" "stripe" .authorize 1 ⟨1000, "USD"⟩ ⟨"att_1", "key"⟩ 1)
    samplePersisted

theorem crashed_call_never_asked_about_pendingRun :
    pendingRun.log = pendingRun.log.take 3 ++
      .authorize "stripe" 0 sampleRequest samplePending ::
        ([.record "stripe:authorize" true true] ++ pendingRun.log.drop 5) ∧
    ∀ (r : Reconciler) (renv : ReconcileEnv),
      let left := storedAfter (Row.of samplePersisted) (pendingRun.log.take 3 ++
        [.authorize "stripe" 0 sampleRequest samplePending, .record "stripe:authorize" true true])
      resolveOne r renv { pay := left.payment, row := left, log := [] } =
        ({ pay := left.payment, row := left, log := [] }, .ok false) := by
  have ran : pendingRun.log = pendingRun.log.take 3 ++
      .authorize "stripe" 0 sampleRequest samplePending ::
        ([.record "stripe:authorize" true true] ++ pendingRun.log.drop 5) := rfl
  refine ⟨ran, ?_⟩
  exact (crashed_call_never_asked_about sampleOrchestrator sampleInput _ samplePersisted
    (Row.of samplePersisted) ran (by simp)).2.2

/-- The process dies with the call outstanding: an hour later the sweep finds nothing. -/
theorem outstanding_call_not_found :
    let left := storedAfter (Row.of samplePersisted) (pendingRun.log.take 4)
    pendingRun.log[3]? = some (.authorize "stripe" 0 sampleRequest samplePending) ∧
      left.payment.attempts.map (·.id) = ["att_1"] ∧
      findUnresolved "ten_1" [left] 3600000000000 30000000000 100 = [] ∧
      unresolvedAttempt left.payment = none :=
  ⟨rfl, rfl, rfl, rfl⟩

end Crash

open Pkg (Money)

section Lookup

def Reflects (loaded stored : Payment) : Operation → Prop
  | .authorize => stored.state = .authorized ∨ stored.state = .captured
  | .capture => loaded.capturedAmount.minor < stored.capturedAmount.minor
  | .void => stored.state = .voided
  | .refund => loaded.refundedAmount.minor < stored.refundedAmount.minor
  | .lookup | .provision | .webhookRegister => True

def sweepOne (r : Reconciler) (env : ReconcileEnv) (p : Payment) : World :=
  (resolveOne r env { pay := (Row.of p).payment, row := Row.of p, log := [] }).1

variable (env : ReconcileEnv) (p : Payment) (resp : Spi.Result)

/-- Whatever its transactions meet: a row the sweep commits with the attempt it asked about
as a success comes from an answer that says so of that attempt's own operation, and shows
the operation. -/
def ResolvesSoundly (answer : Answer) : Prop :=
  ∀ (r : Reconciler) (env : ReconcileEnv), env.answer = answer →
    ∀ i att, unresolvedAttempt p = some (i, att) →
      ∀ row, Effect.stored row ∈ (sweepOne r env p).log →
        ∀ a, row.payment.attempts[i]? = some a → a.outcome = .success →
          (∃ resp, answer.resp = some resp ∧ tookEffect att.operation resp.status = true) ∧
            Reflects p row.payment att.operation

/-- The statuses the reconciler takes for a success, whatever was asked. -/
def successStatuses : List Spi.Status := [.authorized, .captured, .refunded, .voided, .refundAccepted]

theorem resolution_success_iff (status : Spi.Status) :
    resolution status = some .success ↔ status ∈ successStatuses := by
  cases status <;> simp [resolution, successStatuses]

/-- A success can be recorded: the status is one of the attempt's own operation, and the payment is
already there or can follow. -/
def Followable : Operation → Prop
  | .authorize =>
    (resp.status = .authorized ∧
      (p.state = .authorized ∨ p.state = .captured ∨
        p.admitsAuthorization (resp.authorizedAmount.getD p.amount) = true)) ∨
    (resp.status = .captured ∧
      (p.state = .authorized ∨ p.state = .captured ∨
        p.admitsCapture (resp.capturedAmount.getD p.amount) = true))
  | .capture =>
    resp.status = .captured ∧ p.admitsCapture (resp.capturedAmount.getD p.amount) = true
  | .void => resp.status = .voided ∧ p.state = .voided
  | .refund | .lookup | .provision | .webhookRegister => False

/-- An answer taken for a success reports the operation of the payment's unresolved attempt, and the
payment can follow. -/
def Resolvable (answer : Answer) : Prop :=
  ∀ i att resp, unresolvedAttempt p = some (i, att) → answer.callErr = none →
    answer.resp = some resp → resp.status ∈ successStatuses → Followable p resp att.operation

variable {att : Attempt} {i : Nat}

theorem unresolvedAttempt_some {p : Payment}
    (h : unresolvedAttempt p = some (i, att)) :
    p.attempts[i]? = some att ∧ att.outcome = .timeoutUnknown := by
  unfold unresolvedAttempt at h
  cases found : p.attempts.findIdx? (·.outcome.requiresReconciliation) with
  | none =>
    rw [found] at h
    cases h
  | some =>
    rw [found] at h
    obtain ⟨bound, waiting, -⟩ := List.findIdx?_eq_some_iff_getElem.mp found
    simp only [Option.bind_some, List.getElem?_eq_getElem bound, Option.map_some,
      Option.some.injEq, Prod.mk.injEq] at h
    obtain ⟨rfl, rfl⟩ := h
    exact ⟨List.getElem?_eq_getElem bound,
      by simpa [AttemptOutcome.requiresReconciliation] using waiting⟩

theorem ignoring_invoke (c : Call) (w : World) :
    ignoring (fun _ => true) (invoke c) w = ({ w with pay := (c.apply w.pay).1 }, .ok ()) := by
  unfold ignoring invoke
  cases (c.apply w.pay).2 with
  | error | ok => rfl

def resolvedTo (i : Nat) (att : Attempt) : Payment :=
  { p with attempts := p.attempts.set i att }

def followed (p : Payment) : Payment :=
  if resp.status = .authorized then
    (p.markAuthorized (resp.authorizedAmount.getD p.amount)
      (some (resp.authExpiresAt.getD (env.now + defaultHold))) env.mutatedAt).1
  else if resp.status = .captured then
    (p.markCaptured (resp.capturedAmount.getD p.amount) env.mutatedAt).1
  else p

theorem advance_ok {w : World} (found : w.pay.attempts[i]? = some att) :
    ∃ q, advance env i resp w = ({ w with pay := q }, .ok ()) ∧ q.attempts = w.pay.attempts ∧
      (att.outcome = .success → q = followed env resp w.pay) := by
  have kept : ∀ c : PaymentCall, Call.settling i (.payment c) = true →
      (c.apply w.pay).1.attempts = w.pay.attempts :=
    fun c settling => attempts_of_settling settling w.pay
  unfold advance followed
  rw [bind_read, found]
  dsimp only
  by_cases authorized : att.outcome = .success ∧ resp.status = .authorized
  · rw [if_pos authorized, ignoring_invoke]
    refine ⟨_, rfl, kept _ rfl, fun _ => ?_⟩
    rw [if_pos authorized.2]
    rfl
  rw [if_neg authorized]
  by_cases captured : att.outcome = .success ∧ resp.status = .captured
  · rw [if_pos captured, ignoring_invoke]
    refine ⟨_, rfl, kept _ rfl, fun _ => ?_⟩
    rw [if_neg (by rw [captured.2]; decide), if_pos captured.2]
    rfl
  rw [if_neg captured]
  by_cases failed : att.outcome = .declined ∧ ¬ att.permitsFailover
  · rw [if_pos failed, ignoring_invoke]
    refine ⟨_, rfl, kept _ rfl, fun success => ?_⟩
    rw [failed.1] at success
    cases success
  rw [if_neg failed]
  refine ⟨w.pay, rfl, rfl, fun success => ?_⟩
  rw [if_neg fun status => authorized ⟨success, status⟩,
    if_neg fun status => captured ⟨success, status⟩]

theorem reconcile_of_unknown (unknown : att.outcome = .timeoutUnknown)
    {outcome : AttemptOutcome} {status : Spi.Status} (resolves : resolution status = some outcome)
    (gatewayRef rawStatus : String) (reason : DeclineReason) (now : Shared.Time) :
    ∃ att', att.reconcile outcome gatewayRef rawStatus reason now = .ok att' ∧
      att'.outcome = outcome := by
  have edge : attemptMachine.transition att.outcome outcome = .ok () := by
    rw [attemptMachine.transition_ok_iff, unknown]
    cases status <;> simp only [resolution, reduceCtorEq, Option.some.injEq] at resolves <;>
      (subst resolves; decide)
  rw [Attempt.reconcile, if_neg (not_not.mpr unknown), edge]
  exact ⟨_, rfl, rfl⟩

theorem resolveOne_resolving (r : Reconciler) (env : ReconcileEnv) {w : World}
    (asks : unresolvedAttempt w.pay = some (i, att)) {account : String}
    (resolve : env.resolve = .ok account) (callErr : env.answer.callErr = none)
    {resp : Spi.Result} (answered : env.answer.resp = some resp) {outcome : AttemptOutcome}
    (resolves : resolution resp.status = some outcome) :
    ∃ att' q e, att'.outcome = outcome ∧ q.attempts = w.pay.attempts.set i att' ∧
      (outcome = .success → q = followed env resp (resolvedTo w.pay i att')) ∧
      e.isStored = false ∧
      (resolveOne r env w).1 =
        (commit env.outcomeTx i "payment.reconciled" { w with pay := q, log := w.log ++ [e] }).1 := by
  obtain ⟨found, unknown⟩ := unresolvedAttempt_some asks
  obtain ⟨att', reconciled, marked⟩ := reconcile_of_unknown unknown resolves resp.gatewayRef
    resp.rawStatus (if resp.status = .declined then resp.declineReason else .unset) env.now
  let e : Effect := .lookup att.gatewayID
    { externalAccountID := account, gatewayRef := att.gatewayRef,
      idempotencyKey := r.deriveKey att.id att.operation, operation := att.operation } env.answer
  let marking : World :=
    { w with pay.attempts := w.pay.attempts.set i att', log := w.log ++ [e] }
  have bound : i < w.pay.attempts.length := (List.getElem?_eq_some_iff.mp found).1
  have found' : marking.pay.attempts[i]? = some att' := List.getElem?_set_self bound
  have invoked : invoke (.attempt i (.reconcile outcome resp.gatewayRef resp.rawStatus
      (if resp.status = .declined then resp.declineReason else .unset) env.now)) (w.emit e) =
      (marking, .ok ()) := by
    simp only [invoke, Call.apply, World.emit, found, AttemptCall.apply, reconciled, marking]
  obtain ⟨q, advanced, attempts, follows⟩ := advance_ok env resp found'
  refine ⟨att', q, e, marked, attempts, fun success => follows (marked.trans success), rfl, ?_⟩
  unfold resolveOne
  rw [bind_read, asks]
  dsimp only
  rw [bind_of_ok (show ofExcept env.resolve w = (w, .ok account) by rw [resolve]; rfl),
    bind_emit, callErr, answered]
  dsimp only
  rw [resolves]
  dsimp only
  rw [bind_of_ok invoked, bind_of_ok advanced]
  rcases done : commit env.outcomeTx i "payment.reconciled" { marking with pay := q } with ⟨w', x | u⟩
  · rw [bind_of_error done]
  · rw [bind_of_ok done]
    rfl

/-- Nothing is committed of the payment: others may have written its row. -/
structure Untouched (tx : Tx) (w w' : World) : Prop where
  pay : w'.pay = w.pay
  row : w'.row = w.row ∨ w'.row = tx.others w.row
  log : ∃ more, w'.log = w.log ++ more ∧ ∀ e ∈ more, e.isStored = false

theorem Untouched.refl (tx : Tx) (w : World) : Untouched tx w w :=
  ⟨rfl, .inl rfl, [], by simp, by simp⟩

theorem untouched_openException (tx : Tx) (att : Attempt) (kind detail : String) (w : World) :
    Untouched tx w (openException tx att kind detail w).1 := by
  let opened : World := { w with row := tx.others w.row }
  let body : Proc Unit := do
    orFail tx.updateErr
    let pay ← read World.pay
    emit (.exception pay.id att.id kind detail)
  have ran : (∃ e, body opened = (opened, .error e)) ∨
      body opened = (opened.emit (.exception w.pay.id att.id kind detail), .ok ()) := by
    rcases update : tx.updateErr with _ | e
    · exact .inr (bind_of_ok (show orFail tx.updateErr opened = (opened, .ok ()) by rw [update]; rfl))
    · exact .inl ⟨e, bind_of_error
        (show orFail tx.updateErr opened = (opened, .error e) by rw [update]; rfl)⟩
  have pay : (body opened).1.pay = w.pay := by
    rcases ran with ⟨e, ran⟩ | ran
    · rw [ran]
    · rw [ran]
      rfl
  rcases within_leaves tx body w with same | same | ⟨w', u, done, same⟩
  · rw [openException, same]
    exact Untouched.refl tx w
  · rw [openException, same]
    exact ⟨pay, .inr rfl, [], by simp, by simp⟩
  · rw [openException, same]
    rcases ran with ⟨e, ran⟩ | ran
    · cases ran.symm.trans done
    · obtain rfl := congrArg Prod.fst (ran.symm.trans done)
      exact ⟨rfl, .inr rfl, [_], rfl, by simp [Effect.isStored]⟩

theorem resolveOne_cases (r : Reconciler) (env : ReconcileEnv) (w : World) :
    Untouched env.exceptionTx w (resolveOne r env w).1 ∨
      ∃ i att account resp outcome, unresolvedAttempt w.pay = some (i, att) ∧
        env.resolve = .ok account ∧ env.answer.callErr = none ∧ env.answer.resp = some resp ∧
        resolution resp.status = some outcome := by
  rcases asks : unresolvedAttempt w.pay with _ | ⟨i, att⟩
  · refine .inl ?_
    unfold resolveOne
    rw [bind_read, asks]
    exact .refl _ w
  rcases resolve : env.resolve with e | account
  · refine .inl ?_
    unfold resolveOne
    rw [bind_read, asks]
    dsimp only
    rw [bind_of_error (show ofExcept env.resolve w = (w, .error e) by rw [resolve]; rfl)]
    exact .refl _ w
  have excepted : ∀ (kind detail : String) (e : Effect), e.isStored = false →
      Untouched env.exceptionTx w ((do
        openException env.exceptionTx att kind detail
        pure false : Proc Bool) (w.emit e)).1 := by
    intro kind detail e unsaved
    have left : ((do
        openException env.exceptionTx att kind detail
        pure false : Proc Bool) (w.emit e)).1 =
          (openException env.exceptionTx att kind detail (w.emit e)).1 := by
      rcases done : openException env.exceptionTx att kind detail (w.emit e) with ⟨w', x | u⟩
      · rw [bind_of_error done]
      · rw [bind_of_ok done]
        rfl
    obtain ⟨pay, row, more, log, quiet⟩ :=
      untouched_openException env.exceptionTx att kind detail (w.emit e)
    rw [left]
    refine ⟨pay, row, e :: more, by rw [log]; simp [World.emit], ?_⟩
    intro f member
    rcases List.mem_cons.mp member with rfl | later
    · exact unsaved
    · exact quiet f later
  unfold resolveOne
  rw [bind_read, asks]
  dsimp only
  rw [bind_of_ok (show ofExcept env.resolve w = (w, .ok account) by rw [resolve]; rfl), bind_emit]
  rcases callErr : env.answer.callErr with _ | e
  · rcases answered : env.answer.resp with _ | resp
    · exact .inl (excepted _ _ _ rfl)
    · rcases resolves : resolution resp.status with _ | outcome
      · dsimp only
        rw [resolves]
        exact .inl (excepted _ _ _ rfl)
      · exact .inr ⟨i, att, account, resp, outcome, rfl, rfl, rfl, rfl, resolves⟩
  · exact .inl (excepted _ _ _ rfl)

theorem stored_sweepOne {r : Reconciler} {env : ReconcileEnv} {p : Payment}
    (asks : unresolvedAttempt p = some (i, att)) {row : Row}
    (stored : Effect.stored row ∈ (sweepOne r env p).log) :
    ∃ resp outcome att' q, env.answer.callErr = none ∧ env.answer.resp = some resp ∧
      resolution resp.status = some outcome ∧ att'.outcome = outcome ∧
      q.attempts = p.attempts.set i att' ∧
      (outcome = .success → q = followed env resp (resolvedTo (Row.of p).payment i att')) ∧
      row = Row.of q := by
  have asks' : unresolvedAttempt (Row.of p).payment = some (i, att) := asks
  rcases resolveOne_cases r env { pay := (Row.of p).payment, row := Row.of p, log := [] } with
    ⟨-, -, more, log, quiet⟩ | ⟨i', att₁, account, resp, outcome, same, resolve, callErr, answered,
      resolves⟩
  · rw [sweepOne, log] at stored
    have quiet' := quiet (.stored row) (by simpa using stored)
    cases quiet'
  · obtain ⟨rfl, rfl⟩ : i' = i ∧ att₁ = att := by
      have pairs := asks'.symm.trans same
      simp only [Option.some.injEq, Prod.mk.injEq] at pairs
      exact ⟨pairs.1.symm, pairs.2.symm⟩
    obtain ⟨att', q, e, marked, attempts, follows, unsaved, left⟩ :=
      resolveOne_resolving r env same resolve callErr answered resolves
    refine ⟨resp, outcome, att', q, callErr, answered, resolves, marked, attempts, follows, ?_⟩
    rw [sweepOne, left] at stored
    obtain ⟨-, ⟨-, log⟩ | ⟨-, -, notes, log, quiet⟩⟩ := saved_commit env.outcomeTx i'
      "payment.reconciled" { pay := q, row := Row.of p, log := [] ++ [e] }
    · rw [log] at stored
      obtain rfl := List.mem_singleton.mp stored
      cases unsaved
    · rw [log] at stored
      rcases List.mem_append.mp stored with before | here
      · obtain rfl := List.mem_singleton.mp before
        cases unsaved
      · rcases List.mem_cons.mp here with same | note
        · cases same
          rfl
        · have quiet' := quiet _ note
          cases quiet'

theorem followed_authorized {resp : Spi.Result} (status : resp.status = .authorized) :
    (p.admitsAuthorization (resp.authorizedAmount.getD p.amount) = false ∧
        followed env resp p = p) ∨
      (p.admitsAuthorization (resp.authorizedAmount.getD p.amount) = true ∧
        (followed env resp p).core = { p.core with
          state := .authorized, authorized := resp.authorizedAmount.getD p.amount }) := by
  rw [followed, if_pos status]
  rcases p.markAuthorized_cases (resp.authorizedAmount.getD p.amount)
      (some (resp.authExpiresAt.getD (env.now + defaultHold))) env.mutatedAt with
    ⟨refused, e, same⟩ | ⟨admits, -, core⟩
  · exact .inl ⟨refused, by rw [same]⟩
  · exact .inr ⟨admits, core⟩

theorem followed_captured {resp : Spi.Result} (status : resp.status = .captured) :
    (p.admitsCapture (resp.capturedAmount.getD p.amount) = false ∧ followed env resp p = p) ∨
      (p.admitsCapture (resp.capturedAmount.getD p.amount) = true ∧
        ∃ total, p.capturedAmount.minor < total.minor ∧
          (followed env resp p).core = { p.core with
            state := .captured, captured := total,
            capturedAt := p.capturedAt.or (some env.mutatedAt) }) := by
  rw [followed, if_neg (by rw [status]; decide), if_pos status]
  rcases p.markCaptured_cases (resp.capturedAmount.getD p.amount) env.mutatedAt with
    ⟨refused, e, same⟩ | ⟨admits, -, total, summed, core⟩
  · exact .inl ⟨refused, by rw [same]⟩
  · obtain ⟨-, -, sum⟩ := Money.add_ok summed
    have positive := (Payment.admitsCapture_of admits).2.1
    exact .inr ⟨admits, total, by omega, core⟩

theorem followed_other (unauthorized : resp.status ≠ .authorized)
    (uncaptured : resp.status ≠ .captured) :
    followed env resp p = p := by
  rw [followed, if_neg unauthorized, if_neg uncaptured]

theorem reflects_followed_iff {resp : Spi.Result}
    (success : resp.status ∈ successStatuses) (i : Nat) (att : Attempt) (op : Operation) :
    (tookEffect op resp.status = true ∧
      Reflects p (Row.of (followed env resp (resolvedTo (Row.of p).payment i att))).payment op) ↔
      Followable p resp op := by
  generalize loaded : resolvedTo (Row.of p).payment i att = p'
  have state : p'.state = p.state := by rw [← loaded]; rfl
  have captured : p'.capturedAmount = p.capturedAmount := by rw [← loaded]; rfl
  have refunded : p'.refundedAmount = p.refundedAmount := by rw [← loaded]; rfl
  have authorizes : p'.admitsAuthorization (resp.authorizedAmount.getD p'.amount) =
      p.admitsAuthorization (resp.authorizedAmount.getD p.amount) := by rw [← loaded]; rfl
  have captures : p'.admitsCapture (resp.capturedAmount.getD p'.amount) =
      p.admitsCapture (resp.capturedAmount.getD p.amount) := by rw [← loaded]; rfl
  -- every reading of the stored row is a reading of the payment that follows
  suffices shown : (tookEffect op resp.status = true ∧ Reflects p (followed env resp p') op) ↔
      Followable p resp op by
    cases op <;> exact shown
  simp only [successStatuses, List.mem_cons, List.not_mem_nil, or_false] at success
  rcases success with status | status | status | status | status
  · rcases followed_authorized env p' status with ⟨refuses, same⟩ | ⟨admits, core⟩
    · rw [authorizes] at refuses
      cases op <;> simp [tookEffect, Reflects, Followable, status, same, state, refuses]
    · have moved : (followed env resp p').state = .authorized := congrArg Core.state core
      rw [authorizes] at admits
      cases op <;> simp [tookEffect, Reflects, Followable, status, moved, admits]
  · rcases followed_captured env p' status with ⟨refuses, same⟩ | ⟨admits, total, more, core⟩
    · rw [captures] at refuses
      cases op <;> simp [tookEffect, Reflects, Followable, status, same, state, captured, refuses]
    · have moved : (followed env resp p').state = .captured := congrArg Core.state core
      have raised : (followed env resp p').capturedAmount = total := congrArg Core.captured core
      rw [captures] at admits
      rw [captured] at more
      cases op <;> simp [tookEffect, Reflects, Followable, status, moved, raised, more, admits]
  all_goals
    have same := followed_other env p' resp (by rw [status]; decide)
      (by rw [status]; decide)
    cases op <;> simp [tookEffect, Reflects, Followable, status, same, state, refunded]

/-- The units of work of this sweep all commit. -/
def committing (answer : Answer) : ReconcileEnv where
  resolve := .ok ""
  answer := answer
  now := 0
  mutatedAt := 0
  outcomeTx := Tx.undisturbed
  exceptionTx := Tx.undisturbed

def sampleReconciler : Reconciler where
  minAge := 0
  batchSize := 100
  deriveKey := fun id op => id ++ Shared.text op

theorem followed_keeps (p : Payment) : (followed env resp p).baseVersion = p.baseVersion ∧
      (followed env resp p).attempts = p.attempts := by
  unfold followed Payment.markAuthorized Payment.markCaptured
  repeat' split
  all_goals exact ⟨rfl, rfl⟩

theorem sweepOne_commits {p : Payment}
    (asks : unresolvedAttempt p = some (i, att)) {answer : Answer}
    (callErr : answer.callErr = none) {resp : Spi.Result} (answered : answer.resp = some resp)
    (success : resp.status ∈ successStatuses) :
    ∃ att', att'.outcome = .success ∧
      Effect.stored (Row.of (followed (committing answer) resp (resolvedTo (Row.of p).payment i att'))) ∈
        (sweepOne sampleReconciler (committing answer) p).log := by
  obtain ⟨att', q, e, marked, -, follows, -, left⟩ :=
    resolveOne_resolving sampleReconciler (committing answer)
      (w := { pay := (Row.of p).payment, row := Row.of p, log := [] }) asks rfl callErr answered
      ((resolution_success_iff _).mpr success)
  obtain rfl := follows rfl
  dsimp only at left
  refine ⟨att', marked, ?_⟩
  have current : p.version =
      (followed (committing answer) resp (resolvedTo (Row.of p).payment i att')).baseVersion := by
    rw [(followed_keeps _ _ _).1]
    rfl
  obtain ⟨w', ran, -, -⟩ := commit_commits commits_undisturbed
    (w := { pay := followed (committing answer) resp (resolvedTo (Row.of p).payment i att'),
            row := Row.of p, log := [] ++ [e] }) i "payment.reconciled" current
  obtain ⟨-, -, notes, log, -⟩ := commit_stored ran
  rw [sweepOne, left]
  show _ ∈ (commit Tx.undisturbed i "payment.reconciled" _).1.log
  rw [ran, log]
  simp

theorem resolvable_of_resolvesSoundly {p : Payment} {answer : Answer}
    (sound : ResolvesSoundly p answer) : Resolvable p answer := by
  intro i att resp asks callErr answered success
  obtain ⟨att', marked, stored⟩ := sweepOne_commits asks callErr answered success
  have bound : i < p.attempts.length :=
    (List.getElem?_eq_some_iff.mp (unresolvedAttempt_some asks).1).1
  have asked : (followed (committing answer) resp (resolvedTo (Row.of p).payment i att')).attempts[i]? =
      some att' := by
    rw [(followed_keeps _ _ _).2]
    exact List.getElem?_set_self bound
  obtain ⟨⟨resp', answered', reports⟩, reflects⟩ :=
    sound _ _ rfl i att asks _ stored att' asked marked
  cases answered.symm.trans answered'
  exact (reflects_followed_iff _ p success i att' _).mp ⟨reports, reflects⟩

/-- The reconciler meets its contract exactly where an answer taken for a success reports the
attempt's own operation, and the payment shows the operation already or can follow it. -/
theorem resolvesSoundly_iff (answer : Answer) : ResolvesSoundly p answer ↔ Resolvable p answer := by
  constructor
  · exact resolvable_of_resolvesSoundly
  · rintro resolvable r env rfl i att asks row stored a found success
    obtain ⟨resp, outcome, att', q, callErr, answered, resolves, marked, attempts, follows, rfl⟩ :=
      stored_sweepOne asks stored
    have bound : i < p.attempts.length :=
      (List.getElem?_eq_some_iff.mp (unresolvedAttempt_some asks).1).1
    have asked : q.attempts[i]? = some att' := by
      rw [attempts]
      exact List.getElem?_set_self bound
    obtain rfl : att' = a := Option.some.inj (asked.symm.trans found)
    obtain rfl := marked.symm.trans success
    obtain rfl := follows rfl
    have status := (resolution_success_iff _).mp resolves
    obtain ⟨reports, reflects⟩ := (reflects_followed_iff env p status i att' _).mpr
      (resolvable i att resp asks callErr answered status)
    exact ⟨⟨resp, answered, reports⟩, reflects⟩

def unknownAnswer : Answer where
  resp := none
  callErr := some (.sentinel Spi.errOutcomeUnknown)

theorem sampleInput_authorizes : sampleInput.operation = .authorize := rfl

def unknownAuthorization : Payment :=
  ((flowSystem sampleOrchestrator).run manualWorld
    [.dispatch sampleInput
      { attempts := fun n => sampleAttempt n unknownAnswer, finalTx := Tx.undisturbed }
      sampleInput_authorizes ⟨fun _ => ⟨rfl, rfl, rfl⟩, rfl⟩]).row.payment

def unknownVoid : Payment :=
  ((flowSystem sampleOrchestrator).run manualWorld
    [authorizeFlow, .void [] (sampleAttempt 1 unknownAnswer) ⟨rfl, rfl, rfl⟩]).row.payment

/-- A hold given up passes for a successful authorization of a payment that stays PROCESSING, and a
hold that still stands for a successful void of it. -/
theorem not_resolvesSoundly_unknown :
    ¬ ResolvesSoundly unknownAuthorization (sampleAnswer .voided .unset) ∧
      ¬ ResolvesSoundly unknownVoid (sampleAnswer .authorized .unset) := by
  constructor
  · intro sound
    obtain ⟨⟨i, att⟩, asks⟩ := Option.isSome_iff_exists.mp
      (show (unresolvedAttempt unknownAuthorization).isSome = true by decide +kernel)
    have op : (unresolvedAttempt unknownAuthorization).map (·.2.operation) = some .authorize := by
      decide +kernel
    rw [asks, Option.map_some, Option.some.injEq] at op
    have follows := resolvable_of_resolvesSoundly sound i att _ asks rfl rfl (by decide)
    rw [op] at follows
    rcases follows with ⟨status, -⟩ | ⟨status, -⟩
    · cases status
    · cases status
  · intro sound
    obtain ⟨⟨i, att⟩, asks⟩ := Option.isSome_iff_exists.mp
      (show (unresolvedAttempt unknownVoid).isSome = true by decide +kernel)
    have op : (unresolvedAttempt unknownVoid).map (·.2.operation) = some .void := by
      decide +kernel
    rw [asks, Option.map_some, Option.some.injEq] at op
    have follows := resolvable_of_resolvesSoundly sound i att _ asks rfl rfl (by decide)
    rw [op] at follows
    cases follows.1

end Lookup

open Lib.TransitionSystem

def defaultKeySalt : String := "payments-platform/gateway-idempotency/v1"

def keyMAC (lib : Library) (attemptID : AttemptID) (op : Operation) (salt : String) : Bytes :=
  lib.hmacSHA256 (bytesOf salt) (bytesOf attemptID ++ [0] ++ bytesOf (text op))

/-- The first 160 bits of a MAC, which are what a key shows of it. -/
def leading (sum : Bytes) : Nat :=
  sum.foldl (fun n b => n * 256 + b.toNat) 0 >>> (8 * sum.length - 160) % 2 ^ 160

/-- The encoding in base 32, without padding and in lower case. -/
def symbols (n : Nat) : String :=
  String.ofList ((List.range 32).map fun k =>
    "abcdefghijklmnopqrstuvwxyz234567".toList.getD (n >>> (155 - 5 * k) % 2 ^ 5) ' ')

/-- `DeriveGatewayIdempotencyKey`: the first 32 symbols of the MAC. -/
def deriveGatewayIdempotencyKey (lib : Library) (attemptID : AttemptID) (op : Operation)
    (salt : String) : String :=
  symbols (leading (keyMAC lib attemptID op salt))

theorem symbols_inj {m n : Nat} (hm : m < 2 ^ 160) (hn : n < 2 ^ 160) (same : symbols m = symbols n) :
    m = n := by
  have apart : ∀ i < 32, ∀ j < 32, "abcdefghijklmnopqrstuvwxyz234567".toList.getD i ' ' =
      "abcdefghijklmnopqrstuvwxyz234567".toList.getD j ' ' → i = j := by decide +kernel
  refine Nat.eq_of_testBit_eq fun i => ?_
  by_cases inside : i < 160
  · -- bit `i` is in the symbol at place `31 - i / 5`
    have digit := List.map_inj_left.mp (String.ofList_injective same) (31 - i / 5)
      (List.mem_range.mpr (by omega))
    have bit : Nat.testBit (m >>> _ % 2 ^ 5) (i % 5) = Nat.testBit (n >>> _ % 2 ^ 5) (i % 5) :=
      congrArg (Nat.testBit · (i % 5))
        (apart _ (Nat.mod_lt _ (by decide)) _ (Nat.mod_lt _ (by decide)) digit)
    have place : 155 - 5 * (31 - i / 5) + i % 5 = i := by omega
    simpa only [Nat.testBit_mod_two_pow, Nat.testBit_shiftRight, place,
      Nat.mod_lt i (show 0 < 5 by decide), decide_true, Bool.true_and] using bit
  · have far : 2 ^ 160 ≤ 2 ^ i := Nat.pow_le_pow_right (by decide) (by omega)
    rw [Nat.testBit_lt_two_pow (hm.trans_le far), Nat.testBit_lt_two_pow (hn.trans_le far)]

/-- `DefaultReconcilerConfig`, which leaves the salt empty. -/
def defaultReconciler (lib : Library) : Reconciler where
  minAge := 30 * 1000000000
  batchSize := 100
  deriveKey := fun id op => deriveGatewayIdempotencyKey lib id op ""

/-- What `ids.New` mints for an attempt. -/
def IsAttemptID (id : AttemptID) : Prop :=
  ∃ ulid : List Char, ulid.length = 26 ∧
    ulid.all (fun c => "0123456789ABCDEFGHJKMNPQRSTVWXYZ".toList.contains c) = true ∧
    id = "att_" ++ String.ofList ulid

/-- The law that is asked of the MAC: for none of the identifiers do the two salts give the same
160 bits. -/
def SaltsApart (lib : Library) : Prop :=
  ∀ id op, IsAttemptID id → leading (keyMAC lib id op defaultKeySalt) ≠ leading (keyMAC lib id op "")

/-- An attempt has an identifier of its kind and the key that `newAttempt` derives. -/
def KeyedBy (lib : Library) (id : AttemptID) (op : Operation) (key : String) : Prop :=
  IsAttemptID id ∧ key = deriveGatewayIdempotencyKey lib id op defaultKeySalt

def Minted (lib : Library) (_ : Payment) : Call → Prop
  | .payment (.startAttempt _ _ op seed _) => KeyedBy lib seed.id op seed.idempotencyKey
  | _ => True

def Keyed (lib : Library) (attempts : List Attempt) : Prop :=
  ∀ a ∈ attempts, KeyedBy lib a.id a.operation a.idempotencyKey

def Effect.requestKey : Effect → Option String
  | .authorize _ _ request _ => some request.idempotencyKey
  | .capture _ request _ => some request.idempotencyKey
  | .void _ request _ => some request.idempotencyKey
  | _ => none

/-- The calls by which the orchestrator sends an attempt to its gateway. -/
inductive Sends (att : Attempt) : Effect → Prop
  | authorize (din : DispatchInput) (gw : GatewayID) (i : Nat) (account : String) (p : Payment)
      (answer : Answer) : Sends att (.authorize gw i (authorizeRequest din account att p) answer)
  | followUp (fu : FollowUp) (gw : GatewayID) (account : String) (p : Payment) (success : Attempt)
      (answer : Answer) : Sends att (fu.call gw account p att success answer)

variable {lib : Library}

theorem Sends.requestKey {att : Attempt} {e : Effect} (sends : Sends att e) :
    e.requestKey = some att.idempotencyKey := by
  cases sends with
  | authorize => rfl
  | followUp fu => cases fu <;> rfl

theorem Keyed.apply {p : Payment} (keyed : Keyed lib p.attempts) {c : Call} (minted : Minted lib p c) :
    Keyed lib (c.apply p).1.attempts := by
  cases c with
  | refund =>
    simp only [Call.apply]
    repeat' split
    all_goals exact keyed
  | attempt i c =>
    cases found : p.attempts[i]? with
    | none =>
      simp only [Call.apply, found]
      exact keyed
    | some a =>
      cases applied : c.apply a with
      | error =>
        simp only [Call.apply, found, applied]
        exact keyed
      | ok a' =>
        simp only [Call.apply, found, applied]
        obtain ⟨id, -, operation, key⟩ := AttemptCall.identity_of_apply applied
        intro x mem
        rcases List.mem_or_eq_of_mem_set mem with old | rfl
        · exact keyed x old
        · rw [id, operation, key]
          exact keyed a (List.mem_of_getElem? found)
  | payment c =>
    by_cases settling : Call.settling 0 (.payment c) = true
    · show Keyed lib (c.apply p).1.attempts
      rwa [attempts_of_settling settling]
    · cases c with
      | startAttempt gatewayID planID op seed now =>
        show Keyed lib (p.startAttempt gatewayID planID op seed now).1.attempts
        rcases p.startAttempt_cases gatewayID planID op seed now with
          ⟨e, same⟩ | ⟨p', att, same, rfl, core, -⟩
        · rwa [same]
        · rw [same, show p'.attempts = _ from congrArg Core.attempts core]
          exact List.forall_mem_append.mpr ⟨keyed, List.forall_mem_singleton.mpr minted⟩
      | _ => exact absurd rfl settling

theorem keyed_of_run {p : Payment} (run : paymentSystem.ReachableUnder (Minted lib) p) :
    Keyed lib p.attempts := by
  refine run.invariant (P := fun p : Payment => Keyed lib p.attempts) ?_
    fun p c _ keyed minted => keyed.apply minted
  rintro p ⟨params, id, now, created⟩
  obtain ⟨-, cm, payload, rfl⟩ := Payment.new_ok created
  simp [Keyed, Payment.raise, Payment.fresh]

section Lookup

variable (env : ReconcileEnv)

theorem moves_advance (i : Nat) (resp : Spi.Result) : Moves NoCall (advance env i resp) := by
  have tolerated : ∀ c : Call, Moves NoCall (ignoring (fun _ => true) (invoke c)) :=
    fun c => (moves_invoke c).ignoring
  unfold advance
  refine Moves.read.bind fun pay => ?_
  split
  · exact Moves.pure
  split_ifs
  · exact tolerated _
  · exact tolerated _
  · exact tolerated _
  · exact Moves.pure

theorem moves_openException (tx : Tx) (att : Attempt) (kind detail : String) :
    Moves NoCall (openException tx att kind detail) :=
  moves_within tx (Moves.orFail.bind fun _ => Moves.read.bind fun _ => moves_emit rfl)

/-- Resolving a payment asks the gateway first, whatever comes of it. -/
theorem resolveOne_asks (r : Reconciler) {w : World} {account : String}
    (resolved : env.resolve = .ok account) {i : Nat} {att : Attempt}
    (asks : unresolvedAttempt w.pay = some (i, att)) :
    ∃ request later, request.idempotencyKey = r.deriveKey att.id att.operation ∧
      (resolveOne r env w).1.log = w.log ++ .lookup att.gatewayID request env.answer :: later := by
  have excepted : ∀ kind detail, Moves NoCall (do
      openException env.exceptionTx att kind detail
      pure false : Proc Bool) := fun kind detail =>
    (moves_openException _ _ _ _).bind fun _ => Moves.pure
  suffices grown : NoCall (w.emit (.lookup att.gatewayID ⟨account, att.gatewayRef,
      r.deriveKey att.id att.operation, att.operation⟩ env.answer)) (resolveOne r env w).1 by
    obtain ⟨later, log, -⟩ := grown
    exact ⟨_, later, rfl, log.trans (List.append_assoc ..)⟩
  unfold resolveOne
  rw [bind_read, asks, resolved]
  refine (?_ : Moves NoCall _) (w.emit _)
  split
  · split
    · exact excepted _ _
    · exact (moves_invoke _).bind fun _ => (moves_advance env _ _).bind fun _ =>
        (moves_commit _ _ _).bind fun _ => Moves.pure
  · exact excepted _ _

end Lookup

theorem deriveGatewayIdempotencyKey_ne {id : AttemptID} {op : Operation} {salt salt' : String}
    (apart : leading (keyMAC lib id op salt) ≠ leading (keyMAC lib id op salt')) :
    deriveGatewayIdempotencyKey lib id op salt ≠ deriveGatewayIdempotencyKey lib id op salt' :=
  fun same => apart (symbols_inj (Nat.mod_lt _ (by decide)) (Nat.mod_lt _ (by decide)) same)

/-- With the default configuration, no attempt is ever looked up by the key it was sent under. -/
theorem lookup_key_never (lib : Library) (apart : SaltsApart lib) (p : Payment)
    (earlier : paymentSystem.ReachableUnder (Minted lib) p) (dispatched : Attempt)
    (mem : dispatched ∈ p.attempts) (sent : Effect) (sends : Sends dispatched sent)
    (w : World) (i : Nat) (att : Attempt) (asks : unresolvedAttempt w.pay = some (i, att))
    (id : att.id = dispatched.id) (operation : att.operation = dispatched.operation)
    (env : ReconcileEnv) (account : String) (resolved : env.resolve = .ok account) :
    ∃ request later, (resolveOne (defaultReconciler lib) env w).1.log =
        w.log ++ .lookup att.gatewayID request env.answer :: later ∧
      sent.requestKey ≠ some request.idempotencyKey := by
  obtain ⟨request, later, key, log⟩ := resolveOne_asks env (defaultReconciler lib) resolved asks
  obtain ⟨form, minted⟩ := keyed_of_run earlier _ mem
  refine ⟨request, later, log, ?_⟩
  rw [sends.requestKey, minted, key, id, operation, Ne, Option.some_inj]
  exact deriveGatewayIdempotencyKey_ne (apart _ _ form)

def sampleAttemptID : AttemptID := "att_01ARZ3NDEKTSV4RRFFQ69G5FAV"

section Unanswered

variable (lib : Library)

/-- An authorization was sent and timed out. -/
def unanswered : Payment := sampleRun
  [.payment (.startAttempt "stripe" "plan_1" .authorize ⟨sampleAttemptID,
      deriveGatewayIdempotencyKey lib sampleAttemptID .authorize defaultKeySalt⟩ 1),
    .payment (.markProcessing 1), .attempt 0 (.dispatch 2), .attempt 0 (.timeOut "timeout" 3)]

theorem unanswered_reachable : paymentSystem.ReachableUnder (Minted lib) (unanswered lib) := by
  have form : IsAttemptID sampleAttemptID :=
    ⟨"01ARZ3NDEKTSV4RRFFQ69G5FAV".toList, by decide +kernel, by decide +kernel, by decide⟩
  exact System.reachableUnder_run (.init init_samplePayment) _
    ⟨⟨form, rfl⟩, trivial, trivial, trivial, trivial⟩

/-- What the reconciler finds. -/
def unansweredWorld : World := ⟨unanswered lib, Row.of (unanswered lib), []⟩

/-- What it has done when it has asked. -/
def lookedUp : World :=
  (resolveOne (defaultReconciler lib) (committing samplePending) (unansweredWorld lib)).1

end Unanswered

/-- A library whose MAC tells no more than whether its key is empty. -/
def tellingLibrary : Library :=
  { sampleLibrary with hmacSHA256 := fun key _ => List.replicate 32 (if key = [] then 0 else 1) }

theorem lookup_key_unanswered : ∃ att request later,
    (lookedUp tellingLibrary).log = .lookup att.gatewayID request samplePending :: later ∧
      (Effect.authorize "stripe" 0 (authorizeRequest sampleInput "" att (unanswered tellingLibrary))
        samplePending).requestKey ≠ some request.idempotencyKey := by
  obtain ⟨⟨i, att⟩, asks⟩ := Option.isSome_iff_exists.mp
    (show (unresolvedAttempt (unansweredWorld tellingLibrary).pay).isSome = true by decide +kernel)
  have apart : SaltsApart tellingLibrary := fun id op _ => by
    have mac (salt : String) : keyMAC tellingLibrary id op salt =
      List.replicate 32 (if bytesOf salt = [] then 0 else 1) := rfl
    rw [mac, mac]
    decide +kernel
  exact ⟨att, lookup_key_never tellingLibrary apart _ (unanswered_reachable _) att
    (List.mem_of_getElem? (unresolvedAttempt_some asks).1) _ (.authorize ..)
    (unansweredWorld tellingLibrary) i att asks rfl rfl (committing samplePending) "" rfl⟩

/-- The library with the real MAC. -/
def hmacLibrary : Library :=
  { sampleLibrary with hmacSHA256 := Lib.Sha256.hmac, sha256 := Lib.Sha256.sha256 }

/-- The key looked up is not the one the authorization was sent under. -/
theorem lookup_key_differs : paymentSystem.ReachableUnder (Minted hmacLibrary) (unanswered hmacLibrary) ∧
    ∃ att request later,
      (lookedUp hmacLibrary).log = .lookup att.gatewayID request samplePending :: later ∧
      att.id = sampleAttemptID ∧ att ∈ (unanswered hmacLibrary).attempts ∧
      (authorizeRequest sampleInput "" att (unanswered hmacLibrary)).idempotencyKey ≠
        request.idempotencyKey := by
  obtain ⟨⟨i, att⟩, asks⟩ := Option.isSome_iff_exists.mp
    (show (unresolvedAttempt (unansweredWorld hmacLibrary).pay).isSome = true by decide +kernel)
  have own : (unresolvedAttempt (unansweredWorld hmacLibrary).pay).map (fun x => (x.2.id, x.2.operation)) =
      some (sampleAttemptID, .authorize) := by decide +kernel
  rw [asks, Option.map_some, Option.some.injEq, Prod.mk.injEq] at own
  have mem := List.mem_of_getElem? (unresolvedAttempt_some asks).1
  have keyed := (keyed_of_run (unanswered_reachable hmacLibrary) att mem).2
  obtain ⟨request, later, key, log⟩ := resolveOne_asks (committing samplePending)
    (defaultReconciler hmacLibrary) rfl asks
  refine ⟨unanswered_reachable _, att, request, later, log, own.1, mem, ?_⟩
  rw [key, show (authorizeRequest _ _ att _).idempotencyKey = _ from keyed, own.1, own.2]
  exact deriveGatewayIdempotencyKey_ne (by decide +kernel)

end PaymentsPlatform.Orchestration
