/- layer: results about the orchestrator
   digest: What a payment shows once every gateway of its plan has said no. -/

import PaymentsPlatform.Orchestration.Failover

namespace PaymentsPlatform.Orchestration

open Gateways Lib.Procedure Payments
open Lib (Procedure)
open Routing (Plan)
open Storage (Row Tx)

/-! Runs in which every commit succeeds. -/

/-- Other writers leave the payment itself alone.  Moving it would count its version up, and
the next commit would be stale. -/
def Quiet (tx : Tx) : Prop :=
  ∀ row, (tx.others row).payment.version = row.payment.version ∧
    (tx.others row).payment.state = row.payment.state

/-- A unit of work in which nothing fails. -/
structure Commits (tx : Tx) : Prop where
  begins : tx.beginErr = none
  quiet : Quiet tx
  attempts : tx.saveAttemptErr = none
  updates : tx.updateErr = none
  children : tx.childrenErr = none
  drains : tx.drainErr = none
  audits : ∀ entry, tx.auditErr entry = none
  ends : tx.commitEnd = .acknowledged

/-- Every commit of the run succeeds.  Reading the payment back is no commit and may fail. -/
structure EveryCommitSucceeds (env : DispatchEnv) : Prop where
  intents : ∀ n, Commits (env.attempts n).intentTx
  outcomes : ∀ n, Commits (env.attempts n).outcomeTx
  reloads : ∀ n, Quiet (env.attempts n).reloadTx
  final : Quiet env.finalTx

theorem commits_undisturbed : Commits Tx.undisturbed :=
  ⟨rfl, fun _ => ⟨rfl, rfl⟩, rfl, rfl, rfl, rfl, fun _ => rfl, rfl⟩

/-! The question, and the inputs that decide it. -/

/-- An attempt that ended without success and has nothing left to resolve. -/
def endedInVain (a : Attempt) : Bool := a.outcome == .declined || a.outcome == .error

/-- A run all of whose attempts ended in vain leaves a stored payment that is not in
flight. -/
def VisiblyEnded (w : World) : Prop :=
  (∀ a ∈ w.pay.attempts, endedInVain a = true) → w.row.payment.state.isInFlight = false

instance (w : World) : Decidable (VisiblyEnded w) := by
  unfold VisiblyEnded
  infer_instance

/-- The breaker, the bulkhead and the resolver let the attempt through to its gateway. -/
def AttemptEnv.reaches (env : AttemptEnv) : Bool :=
  env.allowErr.isNone && env.acquireErr.isNone && env.resolve.isOk

variable (o : Orchestrator) (p : Payment) (din : DispatchInput)

def expectation (gw : GatewayID) (env : AttemptEnv) : ExpectedResponse where
  amount := p.amount
  currency := p.amount.currency
  operation := din.operation
  gatewayID := gw
  paymentID := p.id
  attemptID := env.seed.id
  currentState := .processing
  authorizedAmount := p.authorizedAmount
  capturedTotal := p.capturedAmount

/-- A plain error, or a decline after which the next gateway may be tried. -/
def softNo (gw : GatewayID) (env : AttemptEnv) : Bool :=
  if isOutcomeUnknown env.answer.callErr
      || (env.answer.resp.isNone && isTimeout env.answer.callErr) then false
  else
    match env.answer.callErr, env.answer.resp with
    | some _, _ => true
    | none, none => false
    | none, some resp =>
      (o.validateGatewayResponse (responseOf resp) (expectation p din gw env)).isNone &&
        resp.status == .declined && o.settings.enableFailover && !resp.networkAdviceNoRetry &&
        resp.declineReason.orUnknown.permitsFailover

/-- The gateways the loop would walk through with a budget, if it were never stopped. -/
def candidates (plan : Plan) : Nat → List GatewayID → List GatewayID
  | 0, _ => []
  | left + 1, tried =>
    match plan.next tried with
    | none => []
    | some sel => sel.gatewayID :: candidates plan left (tried ++ [sel.gatewayID])

/-- Without failover the loop ends after its first gateway. -/
def budget (left : Nat) : Nat :=
  if o.settings.enableFailover then left else min 1 left

/-- The gateways a run may get to, each with the number of its iteration. -/
def contacts : List (GatewayID × Nat) :=
  (candidates din.plan (budget o o.settings.maxAttempts) []).zipIdx

def DecidedByAnswer (env : Nat → AttemptEnv) : Prop :=
  (∀ c ∈ contacts o din, (env c.2).reaches = false) ∨
    ∃ c ∈ contacts o din, (env c.2).reaches = true ∧ softNo o p din c.1 (env c.2) = false

instance (o : Orchestrator) (p : Payment) (din : DispatchInput) (env : Nat → AttemptEnv) :
    Decidable (DecidedByAnswer o p din env) := by
  unfold DecidedByAnswer
  infer_instance

structure StoresPayment (tx : Tx) (p : Payment) (row : Row) : Prop where
  begins : tx.beginErr = none
  updates : tx.updateErr = none
  current : (tx.others row).payment.version = p.baseVersion
  children : tx.childrenErr = none
  drains : tx.drainErr = none
  ends : tx.commitEnd = .acknowledged

variable {tx : Tx}

theorem savePayment_stores {w : World} (updates : tx.updateErr = none)
    (children : tx.childrenErr = none) (drains : tx.drainErr = none)
    (current : w.row.payment.version = w.pay.baseVersion) :
    savePayment tx w =
      ({ pay := w.pay.markPersisted.drainEvents.1, row := Row.of w.pay,
         log := w.log ++ [.stored (Row.of w.pay)] }, .ok ()) := by
  have saved : Storage.save tx w.pay w.row =
      (w.pay.markPersisted.drainEvents.1, .ok (Row.of w.pay)) := by
    unfold Storage.save
    rw [updates]
    dsimp only
    rw [if_neg (not_not.mpr current), children, drains]
  unfold savePayment
  rw [saved]

variable {α : Type}

theorem within_of_ok (begins : tx.beginErr = none)
    (ends : tx.commitEnd = .acknowledged) {fn : Proc α} {w w' : World} {a : α}
    (ran : fn { w with row := tx.others w.row } = (w', .ok a)) :
    within tx fn w = (w', .ok a) := by
  unfold within
  rw [begins]
  dsimp only
  rw [ran, ends]

theorem saveIntent_stores {w : World} (stores : StoresPayment tx w.pay w.row) :
    within tx (savePayment tx) w =
      ({ pay := w.pay.markPersisted.drainEvents.1, row := Row.of w.pay,
         log := w.log ++ [.stored (Row.of w.pay)] }, .ok ()) :=
  within_of_ok stores.begins stores.ends
    (savePayment_stores stores.updates stores.children stores.drains stores.current)

theorem Commits.storesPayment (commits : Commits tx) {p : Payment} {row : Row}
    (current : row.payment.version = p.baseVersion) : StoresPayment tx p row :=
  ⟨commits.begins, commits.updates, (commits.quiet row).1.trans current, commits.children,
    commits.drains, commits.ends⟩

theorem commit_commits (commits : Commits tx) {w : World} (i : Nat) (action : String)
    (current : w.row.payment.version = w.pay.baseVersion) :
    ∃ w', commit tx i action w = (w', .ok ()) ∧
      w'.pay = w.pay.markPersisted.drainEvents.1 ∧ w'.row = Row.of w.pay := by
  let opened : World := { w with row := tx.others w.row }
  have attempted : ∃ v, saveAttempt tx i opened = (v, .ok ()) ∧ v.pay = w.pay ∧
      v.row.payment.version = w.pay.baseVersion := by
    have version : opened.row.payment.version = w.pay.baseVersion :=
      (commits.quiet w.row).1.trans current
    unfold saveAttempt
    rw [commits.attempts, bind_orFail_none]
    refine ⟨_, rfl, ?_, ?_⟩
    · dsimp only
      split
      · rfl
      · rfl
    · dsimp only
      split
      · exact version
      · exact version
  obtain ⟨v, saved, pay, version⟩ := attempted
  have stored := savePayment_stores commits.updates commits.children commits.drains (w := v)
    (version.trans (by rw [pay]))
  rw [pay] at stored
  have recorded : ∃ w', recordOutcome tx i action opened = (w', .ok ()) ∧
      w'.pay = w.pay.markPersisted.drainEvents.1 ∧ w'.row = Row.of w.pay := by
    unfold recordOutcome
    rw [bind_of_ok saved, bind_of_ok stored, bind_read, recordAudit, commits.audits]
    exact ⟨_, rfl, rfl, rfl⟩
  obtain ⟨w', ran, memory, row⟩ := recorded
  exact ⟨w', within_of_ok commits.begins commits.ends ran, memory, row⟩

/-! Attempts made earlier stay as they are. -/

theorem settles_newest (earlier : List Attempt) :
    Settles (fun _ => True) earlier.length
      (Shows (Newest earlier (fun _ => True) fun _ => True)) := by
  refine settles_of_steps (fun e _ => triple_emit e) ?_ keeps_savePayment (fun tx => keeps_saveAttempt tx _)
    fun tx _ h => keeps_within tx h
  intro c settling
  cases c with
  | refund => cases settling
  | payment =>
    refine triple_invoke_payment fun gw plan op seed now starts => ?_
    rw [starts] at settling
    cases settling
  | attempt i c =>
    have at_ : i = earlier.length := by simpa [Call.settling] using settling
    subst at_
    rintro w ⟨⟨a, same, -⟩, -⟩
    rcases invoke_last same c with ⟨e, -, ran⟩ | ⟨a', -, ran⟩
    · rw [ran]
      exact ⟨⟨a, same, trivial⟩, trivial⟩
    · rw [ran]
      exact ⟨⟨a', rfl, trivial⟩, trivial⟩

theorem attemptOnce_retains (a : Attempt) (o : Orchestrator) (din : DispatchInput)
    (env : AttemptEnv) (gw : GatewayID) :
    Keeps (Shows (a ∈ ·.attempts)) (attemptOnce o din env gw) := by
  let J (earlier : List Attempt) (w : World) : Prop :=
    a ∈ earlier ∧ Shows (Newest earlier (fun _ => True) fun _ => True) w
  refine Attempting.attemptOnce (T := fun _ => True) (J := J) (K := J) ?_ o
  refine ⟨⟨trivial, trivial, trivial⟩, fun e _ => triple_emit e, fun _ e _ => Triple.modify fun _ h => h, ?_, ?_, ?_⟩
  · intro w present
    unfold startAttempt
    rcases w.pay.startAttempt_cases gw din.plan.id din.operation env.seed env.startedAt with
      ⟨e, same⟩ | ⟨p', att, same, rfl, core, -⟩
    · rw [same]
      exact present
    · rw [same]
      exact ⟨w.pay.attempts, rfl, present, ⟨_, congrArg Core.attempts core, trivial⟩, trivial⟩
  · exact fun earlier => (settles_newest earlier).and_fact.via
  · rintro earlier w ⟨present, ⟨b, same, -⟩, -⟩
    show a ∈ w.pay.core.attempts
    rw [same]
    exact List.mem_append_left _ present

theorem attemptOnce_closed (start : World) (closed : start.pay.state.isTerminal = true)
    (o : Orchestrator) (din : DispatchInput) (env : AttemptEnv) (gw : GatewayID) :
    Keeps (fun w => w.pay = start.pay ∧ w.row = start.row) (attemptOnce o din env gw) := by
  refine Attempting.attemptOnce (T := fun _ => True) (J := fun _ _ => False)
    (K := fun _ _ => False) ?_ o
  refine ⟨⟨trivial, trivial, trivial⟩, fun e _ => Triple.modify fun _ h => h, fun _ e _ => Triple.modify fun _ h => h, ?_,
    fun _ => Settles.false.via, fun _ _ impossible => impossible.elim⟩
  rintro w ⟨pay, row⟩
  unfold startAttempt
  rcases w.pay.startAttempt_cases gw din.plan.id din.operation env.seed env.startedAt with
    ⟨e, same⟩ | ⟨p', att, same, -, -, -, alive, -⟩
  · rw [same]
    exact ⟨pay, row⟩
  · rw [pay, closed] at alive
    cases alive

/-- What an answer is checked against; it does not change while gateways are tried. -/
structure SameTerms (p q : Payment) : Prop where
  id : q.id = p.id
  amount : q.amount = p.amount
  authorized : q.authorizedAmount = p.authorizedAmount
  captured : q.capturedAmount = p.capturedAmount

structure Trying (p : Payment) (w : World) : Prop where
  vain : ∀ a ∈ w.pay.attempts, endedInVain a = true
  state : w.pay.state = if w.pay.attempts.isEmpty then .created else .processing
  stored : w.row.payment.state = w.pay.state
  current : w.row.payment.version = w.pay.baseVersion
  terms : SameTerms p w.pay

structure AtGateway (p : Payment) (earlier : List Attempt) (w : World) : Prop where
  newest : Shows (Newest earlier Awaiting (· = .processing)) w
  current : w.row.payment.version = w.pay.baseVersion
  terms : SameTerms p w.pay

def Decided (w : World) : Prop :=
  (w.pay.state = .failed ∧ w.row.payment.state = .failed) ∨
    ∃ a ∈ w.pay.attempts, endedInVain a = false

theorem Decided.visiblyEnded {w : World} (h : Decided w) : VisiblyEnded w := by
  intro vain
  rcases h with ⟨-, failed⟩ | ⟨a, mem, open_⟩
  · rw [failed]
    decide
  · rw [vain a mem] at open_
    cases open_

theorem SameTerms.step {p q q' : Payment} (h : SameTerms p q) (id : q'.id = q.id)
    (amount : q'.core.amount = q.core.amount)
    (authorized : q'.core.authorized = q.core.authorized)
    (captured : q'.core.captured = q.core.captured) : SameTerms p q' :=
  ⟨id.trans h.id, amount.trans h.amount, authorized.trans h.authorized,
    captured.trans h.captured⟩

variable {key account : String}

theorem beforeCall_of_ok {c : Proc α} {w w' : World} {a : α}
    (h : c w = (w', .ok a)) : beforeCall key c w = (w', .ok a) := by
  unfold beforeCall onFailure
  rw [h]

theorem beforeCall_of_error {c : Proc α} {w w' : World} {e : GoError}
    (h : c w = (w', .error e)) :
    beforeCall key c w = (w'.emit (.record key false false), .error e) := by
  unfold beforeCall onFailure
  rw [h]

theorem markProcessing_known {w : World} (now : Time) (known : w.pay.state.isKnown = true) :
    ignoring isSameState (invoke (.payment (.markProcessing now))) w =
      ({ w with pay := (w.pay.transition .processing none now).1 }, .ok ()) := by
  have ran : invoke (.payment (.markProcessing now)) w =
      ({ w with pay := (w.pay.transition .processing none now).1 },
        (w.pay.transition .processing none now).2) := rfl
  unfold ignoring
  rw [ran, Payment.transition]
  cases moved : machine.transition w.pay.state .processing with
  | ok => rfl
  | error e =>
    have benign : isSameState e = true := by
      rw [isSameState, machine.codeOf_transition_error moved known (by decide)]
      rfl
    dsimp only
    rw [if_pos benign]

theorem markProcessing_ok {w : World} (now : Time)
    (starting : w.pay.state = .created ∨ w.pay.state = .processing) :
    ∃ p', ignoring isSameState (invoke (.payment (.markProcessing now))) w =
        ({ w with pay := p' }, .ok ()) ∧
      p'.core = { w.pay.core with state := .processing } ∧ p'.id = w.pay.id ∧
      p'.baseVersion = w.pay.baseVersion := by
  have known : w.pay.state.isKnown = true := by
    rcases starting with state | state <;> rw [state] <;> decide
  refine ⟨_, markProcessing_known now known, ?_⟩
  unfold Payment.transition
  rcases starting with new | already
  · rw [new, (machine.transition_ok_iff .created .processing).mpr (by decide)]
    exact ⟨rfl, rfl, rfl⟩
  · rw [already]
    cases refused : machine.transition .processing .processing with
    | ok =>
      have edge := canTransition_of_transition_ok refused
      exact absurd edge (by decide)
    | error =>
      refine ⟨?_, rfl, rfl⟩
      rw [← already]
      rfl

theorem attemptOnce_unreached {env : AttemptEnv} (unreached : env.reaches = false)
    (o : Orchestrator) (din : DispatchInput) (gw : GatewayID) (w : World) :
    ∃ w' e, attemptOnce o din env gw w = (w', .error e) ∧ w'.pay = w.pay ∧ w'.row = w.row := by
  unfold attemptOnce
  cases allowed : env.allowErr with
  | some => exact ⟨w, _, bind_of_error rfl, rfl, rfl⟩
  | none =>
    rw [Option.map_none, bind_orFail_none, bind_emit]
    cases acquired : env.acquireErr with
    | some e => exact ⟨_, e, bind_of_error (beforeCall_of_error rfl), rfl, rfl⟩
    | none =>
      rw [bind_of_ok (beforeCall_of_ok rfl), bind_emit]
      cases resolved : env.resolve with
      | ok => simp [AttemptEnv.reaches, allowed, acquired, resolved, Except.isOk,
          Except.toBool] at unreached
      | error e =>
        unfold deferring dispatchHolding
        rw [resolved, bind_of_error (beforeCall_of_error rfl)]
        exact ⟨_, e, rfl, rfl, rfl⟩

theorem endedInVain_iff (a : Attempt) :
    endedInVain a = true ↔ a.outcome = .declined ∨ a.outcome = .error := by
  simp [endedInVain]

theorem dispatchHolding_of_ok (o : Orchestrator) {din : DispatchInput} {env : AttemptEnv}
    {gw : GatewayID} (key : String) {w started bound marked stored sending : World}
    {att : Attempt} (resolved : env.resolve = .ok account)
    (starts : startAttempt din env gw w = (started, .ok att))
    (binds : bindConnection din gw (att.sequence - 1) started = (bound, .ok ()))
    (marks : ignoring isSameState (invoke (.payment (.markProcessing env.processingAt))) bound =
      (marked, .ok ()))
    (stores : within env.intentTx (savePayment env.intentTx) marked = (stored, .ok ()))
    (dispatches : invoke (.attempt (att.sequence - 1) (.dispatch env.dispatchedAt)) stored =
      (sending, .ok ())) :
    dispatchHolding o din env gw key w =
      settle o env
        { plan := din.plan, gateway := gw, operation := din.operation, breakerKey := key,
          attemptID := att.id, index := att.sequence - 1 }
        (sending.emit (.authorize gw (att.sequence - 1)
          (authorizeRequest din account att sending.pay) env.answer)) := by
  unfold dispatchHolding
  rw [bind_of_ok (beforeCall_of_ok (show ofExcept env.resolve w = (w, .ok account) by
      rw [resolved]; rfl)),
    bind_of_ok (beforeCall_of_ok starts), bind_of_ok binds,
    bind_of_ok (beforeCall_of_ok marks), bind_of_ok (beforeCall_of_ok stores),
    bind_of_ok (beforeCall_of_ok dispatches), bind_read, bind_emit]

theorem dispatchHolding_sends {p : Payment} {w : World} (trying : Trying p w)
    (o : Orchestrator) (din : DispatchInput) {env : AttemptEnv} (gw : GatewayID) (key : String)
    (resolved : env.resolve = .ok account) (commits : Commits env.intentTx) :
    ∃ sent, AtGateway p w.pay.attempts sent ∧
      (∃ request, .authorize gw w.pay.attempts.length request env.answer ∈ sent.log) ∧
      dispatchHolding o din env gw key w =
        settle o env
          { plan := din.plan, gateway := gw, operation := din.operation, breakerKey := key,
            attemptID := env.seed.id, index := w.pay.attempts.length } sent := by
  have starting : w.pay.state = .created ∨ w.pay.state = .processing := by
    rw [trying.state]
    split_ifs
    · exact .inl rfl
    · exact .inr rfl
  have alive : w.pay.state.isTerminal = false := by
    rcases starting with state | state <;> rw [state] <;> decide
  have vain : ∀ a ∈ w.pay.attempts, a.outcome = .declined ∨ a.outcome = .error :=
    fun a mem => (endedInVain_iff a).mp (trying.vain a mem)
  have unsuccessful : ∀ a ∈ w.pay.attempts, a.outcome ≠ .success := by
    intro a mem
    rcases vain a mem with outcome | outcome <;> rw [outcome] <;> decide
  have nothingUnknown : ∀ a ∈ w.pay.attempts, a.outcome ≠ .timeoutUnknown := by
    intro a mem
    rcases vain a mem with outcome | outcome <;> rw [outcome] <;> decide
  obtain ⟨p₁, accepts, core₁, id₁, base₁⟩ := Payment.startAttempt_accepts gw din.plan.id
    din.operation env.seed env.startedAt alive (fun _ => unsuccessful) nothingUnknown
  let att := newAttempt w.pay.id w.pay.tenantID gw din.operation (w.pay.attempts.length + 1)
    w.pay.amount env.seed env.startedAt
  have starts : startAttempt din env gw w = ({ w with pay := p₁ }, .ok att) := by
    unfold startAttempt
    rw [accepts]
  have attempts₁ : p₁.attempts = w.pay.attempts ++ [att] := congrArg Core.attempts core₁
  have terms₁ : SameTerms p p₁ :=
    trying.terms.step id₁ (by rw [core₁]) (by rw [core₁]) (by rw [core₁])
  obtain ⟨conn, binds⟩ := bindConnection_ok (w := { w with pay := p₁ }) attempts₁ din gw
  let bound : World := { w with pay :=
    { p₁ with attempts := w.pay.attempts ++ [{ att with connectionID := conn }] } }
  have state₁ : bound.pay.state = w.pay.state := congrArg Core.state core₁
  obtain ⟨p₂, marks, core₂, id₂, base₂⟩ :=
    markProcessing_ok (w := bound) env.processingAt (by rw [state₁]; exact starting)
  have current₂ : w.row.payment.version = p₂.baseVersion :=
    trying.current.trans (base₁.symm.trans base₂.symm)
  let stored : World :=
    { pay := p₂.markPersisted.drainEvents.1, row := Row.of p₂, log := w.log ++ [.stored (Row.of p₂)] }
  have stores : within env.intentTx (savePayment env.intentTx) { bound with pay := p₂ } =
      (stored, .ok ()) := saveIntent_stores (commits.storesPayment current₂)
  have attempts₂ : stored.pay.attempts = w.pay.attempts ++ [{ att with connectionID := conn }] :=
    congrArg Core.attempts core₂
  obtain ⟨a', awaiting, dispatches⟩ :=
    dispatch_newest attempts₂ ⟨rfl, rfl⟩ env.dispatchedAt
  refine ⟨World.emit (.authorize gw w.pay.attempts.length
    (authorizeRequest din account att { stored.pay with attempts := w.pay.attempts ++ [a'] })
    env.answer) { stored with pay := { stored.pay with attempts := w.pay.attempts ++ [a'] } },
    ⟨⟨⟨a', rfl, awaiting⟩, congrArg Core.state core₂⟩, rfl, ?_⟩,
    ⟨_, List.mem_append_right _ (List.mem_singleton_self _)⟩, ?_⟩
  · have terms₂ : SameTerms p p₂ :=
      terms₁.step id₂ (by rw [core₂]; rfl) (by rw [core₂]; rfl) (by rw [core₂]; rfl)
    exact { terms₂ with }
  · exact dispatchHolding_of_ok o key resolved starts binds marks stores dispatches

/-- The answer has been written to the newest attempt, and to nothing else yet. -/
structure Marked (p : Payment) (earlier : List Attempt) (a : Attempt) (w : World) : Prop where
  attempts : w.pay.attempts = earlier ++ [a]
  processing : w.pay.state = .processing
  current : w.row.payment.version = w.pay.baseVersion
  terms : SameTerms p w.pay

section Settled

variable {p : Payment} {earlier : List Attempt} {w : World}

theorem AtGateway.emit (sent : AtGateway p earlier w) (e : Effect) : AtGateway p earlier (w.emit e) :=
  ⟨sent.newest, sent.current, sent.terms⟩

theorem AtGateway.mark (sent : AtGateway p earlier w) {c : AttemptCall} {B : Attempt → Prop}
    (accepts : ∀ a, Awaiting a → ∃ a', c.apply a = .ok a' ∧ B a') :
    ∃ w' a', invoke (.attempt earlier.length c) w = (w', .ok ()) ∧ B a' ∧ Marked p earlier a' w' := by
  obtain ⟨⟨a, same, awaiting⟩, processing⟩ := sent.newest
  obtain ⟨a', applied, holds⟩ := accepts a awaiting
  rcases invoke_last same c with ⟨e, refused, -⟩ | ⟨b, ok, ran⟩
  · rw [applied] at refused
    cases refused
  · rw [applied] at ok
    cases ok
    exact ⟨_, a', ran, holds, rfl, processing, sent.current, { sent.terms with }⟩

theorem vain_concat {a : Attempt} (vain : ∀ b ∈ earlier, endedInVain b = true)
    (ended : endedInVain a = true) : ∀ b ∈ earlier ++ [a], endedInVain b = true := by
  intro b mem
  rcases List.mem_append.mp mem with old | new
  · exact vain b old
  · rw [List.mem_singleton.mp new]
    exact ended

variable {tx : Tx}

theorem Marked.record {a : Attempt} (marked : Marked p earlier a w)
    (vain : ∀ b ∈ earlier, endedInVain b = true) (ended : endedInVain a = true)
    (commits : Commits tx) (i : Nat) (action : String) :
    ∃ w', commit tx i action w = (w', .ok ()) ∧ Trying p w' ∧ w'.pay.attempts = earlier ++ [a] := by
  obtain ⟨w', ran, memory, row⟩ := commit_commits commits i action marked.current
  have attempts : w'.pay.attempts = earlier ++ [a] := by
    rw [memory]
    exact marked.attempts
  have state : w'.pay.state = .processing := by
    rw [memory]
    exact marked.processing
  refine ⟨w', ran, ⟨?_, ?_, ?_, ?_, ?_⟩, attempts⟩
  · rw [attempts]
    exact vain_concat vain ended
  · rw [attempts, state]
    simp
  · rw [row, state]
    exact marked.processing
  · rw [row, memory]
    rfl
  · rw [memory]
    exact { marked.terms with }

theorem decline_marks (env : AttemptEnv) (resp : Spi.Result) (a : Attempt) (waiting : Awaiting a) :
    ∃ a', (AttemptCall.decline resp.declineReason resp.gatewayRef resp.rawStatus
        resp.networkAdviceNoRetry env.now).apply a = .ok a' ∧
      a'.outcome = .declined ∧
      a'.permitsFailover =
        (!resp.networkAdviceNoRetry && resp.declineReason.orUnknown.permitsFailover) := by
  refine ⟨_, accepted _ (awaiting_edge waiting (by simp)), rfl, ?_⟩
  cases advice : resp.networkAdviceNoRetry <;>
    simp [Attempt.permitsFailover, Attempt.resolve]

theorem keeps_decided_reload (quiet : Quiet tx) : Keeps Decided (reload tx) := by
  refine Keeps.iff_state.mpr fun w decided => ?_
  obtain ⟨row, left, same | other⟩ := reload_leaves tx w
  · rw [left, same]
    exact decided
  · rw [left, other]
    exact decided.imp_left fun closed => ⟨closed.1, (quiet w.row).2.trans closed.2⟩

theorem Decided.reloadResult (decided : Decided w) (quiet : Quiet tx) (plan : Plan)
    (next : Option Payment.NextAction) : Decided (Orchestration.reloadResult tx plan next w).1 :=
  Keeps.iff_state.mp ((keeps_decided_reload quiet).bind fun _ => Keeps.pure) w decided

theorem decided_of_newest {A : Attempt → Prop} {S : State → Prop}
    (h : Shows (Newest earlier A S) w) (open_ : ∀ a, A a → endedInVain a = false) : Decided w := by
  obtain ⟨⟨a, same, holds⟩, -⟩ := h
  refine .inr ⟨a, ?_, open_ a holds⟩
  rw [show w.pay.attempts = earlier ++ [a] from same]
  exact List.mem_append_right _ List.mem_cons_self

theorem decided_of_triple {α : Type} {c : Proc α} {P : World → Prop} {A : Attempt → Prop}
    {S : State → Prop} (ran : Triple P c (fun _ => Shows (Newest earlier A S))
      (fun _ => Shows (Newest earlier A S))) (pre : P w)
    (open_ : ∀ a, A a → endedInVain a = false) : Decided (c w).1 :=
  decided_of_newest (Triple.iff_state.mp ran w pre) open_

theorem settleLater_awaits (env : AttemptEnv) (sin : SettleInput) {mark : PaymentCall}
    (plain : ∀ gw plan op seed now, mark ≠ .startAttempt gw plan op seed now) (action : String)
    (next : Option Payment.NextAction) :
    Triple (Shows (Newest earlier Awaiting fun _ => True)) (settleLater env sin mark action next)
      (fun _ => Shows (Newest earlier Awaiting fun _ => True))
      (fun _ => Shows (Newest earlier Awaiting fun _ => True)) :=
  Triple.bind (triple_emit _) fun _ => Triple.bind (triple_invoke_payment plain) fun _ =>
    (keeps_commit _ _ _).bind fun _ => keeps_reloadResult _ _ _

variable {resp : Spi.Result} {o : Orchestrator} {din : DispatchInput} {gw : GatewayID}
  {env : AttemptEnv} {sin : SettleInput}

/-- The command decides the payment from `w` on, also when it fails. -/
def LeavesDecided (w : World) (c : Proc AttemptResult) : Prop := Decided (c w).1

theorem settleUnknown_decides (sent : AtGateway p earlier w) (at_ : sin.index = earlier.length)
    (message reason : String) : LeavesDecided w (settleUnknown env sin message reason) :=
  decided_of_triple (settleUnknown_blocks env at_ message reason) sent.newest
    fun a outcome => by simp [endedInVain, outcome]

variable (sent : AtGateway p earlier w) (vain : ∀ b ∈ earlier, endedInVain b = true)
  (commits : Commits env.outcomeTx) (at_ : sin.index = earlier.length)

include sent vain commits at_

theorem settleError_trying (callErr : GoError) :
    ∃ w' r, settleError env sin callErr w = (w', .ok r) ∧ r.terminal = false ∧ Trying p w' ∧
      w'.pay.attempts ≠ [] := by
  obtain ⟨marked, a, ran, ⟨ended, permits⟩, holds⟩ := (sent.emit (.record sin.breakerKey false true)).mark
    (c := .fail (Pkg.ApiError.codeOf callErr).text (safeMessage (some callErr)) env.now)
    (B := fun a => endedInVain a = true ∧ a.permitsFailover = true) fun a waiting =>
      ⟨_, accepted _ (awaiting_edge waiting (by simp)), by
        simp [endedInVain, Attempt.permitsFailover, Attempt.resolve, waiting.2]⟩
  obtain ⟨w', recorded, trying, attempts⟩ :=
    holds.record vain ended commits sin.index "payment.attempt_failed"
  rw [← at_] at ran
  have permitted : sin.permitsFailover w' = true := by
    rw [SettleInput.permitsFailover, attempts, at_]
    simpa using permits
  unfold settleError
  rw [bind_emit, bind_of_ok ran, bind_of_ok recorded, bind_read, permitted]
  exact ⟨w', _, rfl, rfl, trying, by rw [attempts]; simp⟩

theorem settleDeclined_trying (enabled : o.settings.enableFailover = true)
    (soft : (!resp.networkAdviceNoRetry && resp.declineReason.orUnknown.permitsFailover) = true) :
    ∃ w' r, settleDeclined o env sin resp w = (w', .ok r) ∧ r.terminal = false ∧ Trying p w' ∧
      w'.pay.attempts ≠ [] := by
  obtain ⟨marked, a, ran, ⟨declined, permits⟩, holds⟩ :=
    (sent.emit (.record sin.breakerKey false false)).mark (decline_marks env resp)
  have ended : endedInVain a = true := (endedInVain_iff a).mpr (.inl declined)
  obtain ⟨w', recorded, trying, attempts⟩ :=
    holds.record vain ended commits sin.index "payment.declined"
  rw [← at_] at ran
  have permitted : sin.permitsFailover marked = true := by
    rw [SettleInput.permitsFailover, holds.attempts, at_]
    simpa using permits.trans soft
  unfold settleDeclined
  rw [bind_emit, bind_of_ok ran, bind_read, permitted,
    enabled, if_pos (by decide), bind_of_ok recorded]
  exact ⟨w', _, rfl, rfl, trying, by rw [attempts]; simp⟩

theorem settle_trying (expects : expectedOf w.pay sin = expectation p din gw env)
    (soft : softNo o p din gw env = true) :
    ∃ w' r, settle o env sin w = (w', .ok r) ∧ r.terminal = false ∧ Trying p w' ∧
      w'.pay.attempts ≠ [] := by
  unfold softNo at soft
  unfold settle
  by_cases unknown : (isOutcomeUnknown env.answer.callErr
      || (env.answer.resp.isNone && isTimeout env.answer.callErr)) = true
  · rw [if_pos unknown] at soft
    cases soft
  rw [if_neg unknown] at soft ⊢
  rcases called : env.answer.callErr with _ | callErr
  · rcases answered : env.answer.resp with _ | resp
    · simp only [called, answered] at soft
      cases soft
    · simp only [called, answered, Bool.and_eq_true, Option.isNone_iff_eq_none, beq_iff_eq] at soft
      obtain ⟨⟨⟨⟨valid, declined⟩, enabled⟩, advice⟩, reason⟩ := soft
      dsimp only
      rw [bind_read, expects, valid]
      dsimp only
      rw [settleStatus, declined]
      exact settleDeclined_trying sent vain commits at_ enabled (by simp [advice, reason])
  · exact settleError_trying sent vain commits at_ callErr

theorem settleDeclined_decided (quiet : Quiet env.reloadTx)
    (hard : (!resp.networkAdviceNoRetry && resp.declineReason.orUnknown.permitsFailover &&
      o.settings.enableFailover) = false) :
    Decided (settleDeclined o env sin resp w).1 := by
  obtain ⟨marked, a, ran, ⟨declined, permits⟩, holds⟩ :=
    (sent.emit (.record sin.breakerKey false false)).mark (decline_marks env resp)
  have ended : endedInVain a = true := (endedInVain_iff a).mpr (.inl declined)
  rw [← at_] at ran
  have permitted : sin.permitsFailover marked =
      (!resp.networkAdviceNoRetry && resp.declineReason.orUnknown.permitsFailover) := by
    rw [SettleInput.permitsFailover, holds.attempts, at_]
    simpa using permits
  have nothingUnknown : marked.pay.hasUnresolvedAttempt = false := by
    refine marked.pay.hasUnresolvedAttempt_eq_false.mpr fun b mem => ?_
    rw [holds.attempts] at mem
    rcases (endedInVain_iff b).mp (vain_concat vain ended b mem) with outcome | outcome <;>
      rw [outcome] <;> decide
  have edge : machine.canTransition marked.pay.state .failed = true := by
    rw [holds.processing]
    decide
  have fails : ∃ failed, marked.pay.markFailed resp.declineReason resp.rawMessage env.mutatedAt =
      (failed, .ok ()) ∧ failed.state = .failed ∧ failed.baseVersion = marked.pay.baseVersion := by
    rw [Payment.markFailed, if_neg (by simp [nothingUnknown]), Payment.transition_of_edge edge]
    exact ⟨_, rfl, rfl, rfl⟩
  obtain ⟨failed, fails, state, base⟩ := fails
  have invokes : invoke (.payment (.markFailed resp.declineReason resp.rawMessage env.mutatedAt))
      marked = ({ marked with pay := failed }, .ok ()) := by
    have ran : invoke (.payment (.markFailed resp.declineReason resp.rawMessage env.mutatedAt))
        marked = ({ marked with
          pay := (marked.pay.markFailed resp.declineReason resp.rawMessage env.mutatedAt).1 },
          (marked.pay.markFailed resp.declineReason resp.rawMessage env.mutatedAt).2) := rfl
    rw [ran, fails]
  obtain ⟨w', recorded, memory, row⟩ := commit_commits (w := { marked with pay := failed }) commits
    sin.index "payment.declined" (holds.current.trans base.symm)
  have decided : Decided w' := by
    refine .inl ⟨?_, ?_⟩
    · rw [memory]
      exact state
    · rw [row]
      exact state
  unfold settleDeclined
  rw [bind_emit, bind_of_ok ran, bind_read, permitted,
    hard, if_neg (by decide), bind_of_ok invokes, bind_of_ok recorded]
  exact decided.reloadResult quiet sin.plan none

theorem settleStatus_decides (quiet : Quiet env.reloadTx)
    (hard : resp.status = .declined → (!resp.networkAdviceNoRetry &&
      resp.declineReason.orUnknown.permitsFailover && o.settings.enableFailover) = false) :
    LeavesDecided w (settleStatus o env sin resp) := by
  have waiting : Shows (Newest earlier Awaiting fun _ => True) w := ⟨sent.newest.1, trivial⟩
  unfold settleStatus
  split
  · exact decided_of_triple (settleSuccess_blocks env at_ _ _ _ _
      (fun p => .markAuthorized _ _ _) fun _ _ _ _ _ _ => nofun) waiting
      fun a outcome => by simp [endedInVain, outcome]
  · exact decided_of_triple (settleSuccess_blocks env at_ _ _ _ _
      (fun p => .markCaptured _ _) fun _ _ _ _ _ _ => nofun) waiting
      fun a outcome => by simp [endedInVain, outcome]
  · refine decided_of_triple (settleLater_awaits env sin ?_ _ _) waiting fun a outcome => ?_
    · exact fun _ _ _ _ _ => nofun
    · simp [endedInVain, outcome.1]
  · refine decided_of_triple (settleLater_awaits env sin ?_ _ _) waiting fun a outcome => ?_
    · exact fun _ _ _ _ _ => nofun
    · simp [endedInVain, outcome.1]
  · rename_i declined
    exact settleDeclined_decided sent vain commits at_ quiet (hard declined)
  · exact settleUnknown_decides sent at_ _ _

theorem settle_decides (quiet : Quiet env.reloadTx)
    (expects : expectedOf w.pay sin = expectation p din gw env)
    (hard : softNo o p din gw env = false) : LeavesDecided w (settle o env sin) := by
  unfold softNo at hard
  unfold settle
  by_cases unknown : (isOutcomeUnknown env.answer.callErr
      || (env.answer.resp.isNone && isTimeout env.answer.callErr)) = true
  · rw [if_pos unknown]
    exact settleUnknown_decides sent at_ _ _
  rw [if_neg unknown] at hard ⊢
  rcases called : env.answer.callErr with _ | callErr
  · rcases answered : env.answer.resp with _ | resp
    · exact settleUnknown_decides sent at_ _ _
    · simp only [called, answered] at hard
      unfold LeavesDecided
      dsimp only
      rw [bind_read, expects]
      rcases checked : o.validateGatewayResponse (responseOf resp) (expectation p din gw env) with
        _ | err
      · refine settleStatus_decides sent vain commits at_ quiet fun declined => ?_
        simpa [checked, declined, Bool.and_comm, Bool.and_left_comm] using hard
      · exact settleUnknown_decides sent at_ _ _
  · simp only [called] at hard
    cases hard

end Settled

/-- What settling the answer to the `i`-th attempt is told. -/
def settleInput (din : DispatchInput) (env : AttemptEnv) (gw : GatewayID) (i : Nat) : SettleInput where
  plan := din.plan
  gateway := gw
  operation := din.operation
  breakerKey := gw ++ ":" ++ text din.operation
  attemptID := env.seed.id
  index := i

theorem attemptOnce_holding (o : Orchestrator) (din : DispatchInput) (env : AttemptEnv)
    (gw : GatewayID) (w : World) (allowed : env.allowErr = none) (room : env.acquireErr = none) :
    ∃ key, key = gw ++ ":" ++ text din.operation ∧ attemptOnce o din env gw w =
      deferring (World.emit (.release gw)) (dispatchHolding o din env gw key)
        ((w.emit (.permit key)).emit (.acquire gw)) := by
  refine ⟨_, rfl, ?_⟩
  unfold attemptOnce
  rw [allowed, Option.map_none, bind_orFail_none, bind_emit, room,
    bind_of_ok (beforeCall_of_ok rfl), bind_emit]

theorem attemptOnce_reaches {p : Payment} {w : World} (trying : Trying p w) (o : Orchestrator)
    (din : DispatchInput) {env : AttemptEnv} (gw : GatewayID) (reached : env.reaches = true)
    (intent : Commits env.intentTx) :
    ∃ sent, AtGateway p w.pay.attempts sent ∧
      (∃ request, .authorize gw w.pay.attempts.length request env.answer ∈ sent.log) ∧
      attemptOnce o din env gw w =
        deferring (World.emit (.release gw))
          (settle o env (settleInput din env gw w.pay.attempts.length)) sent := by
  simp only [AttemptEnv.reaches, Bool.and_eq_true, Option.isNone_iff_eq_none] at reached
  obtain ⟨⟨allowed, acquired⟩, resolved⟩ := reached
  obtain ⟨account, resolves⟩ : ∃ account, env.resolve = .ok account := by
    rcases resolving : env.resolve with e | account
    · rw [resolving] at resolved
      cases resolved
    · exact ⟨account, rfl⟩
  obtain ⟨key, named, start⟩ := attemptOnce_holding o din env gw w allowed acquired
  have trying' : Trying p ((w.emit (.permit key)).emit (.acquire gw)) := { trying with }
  obtain ⟨sent, isSent, called, sends⟩ := dispatchHolding_sends trying' o din gw key resolves intent
  refine ⟨sent, isSent, called, ?_⟩
  rw [start]
  unfold deferring
  rw [sends, named]
  rfl

theorem attemptOnce_reached {p : Payment} {w : World} (trying : Trying p w) (o : Orchestrator)
    (din : DispatchInput) {env : AttemptEnv} (gw : GatewayID) (reached : env.reaches = true)
    (intent : Commits env.intentTx) (outcome : Commits env.outcomeTx) (quiet : Quiet env.reloadTx) :
    (softNo o p din gw env = true → ∃ w' r, attemptOnce o din env gw w = (w', .ok r) ∧
      r.terminal = false ∧ Trying p w' ∧ w'.pay.attempts ≠ []) ∧
    (softNo o p din gw env = false → Decided (attemptOnce o din env gw w).1) := by
  obtain ⟨sent, isSent, -, sends⟩ := attemptOnce_reaches trying o din gw reached intent
  have expects : expectedOf sent.pay (settleInput din env gw w.pay.attempts.length) =
      expectation p din gw env := by
    have terms := isSent.terms
    have processing : sent.pay.state = .processing := isSent.newest.2
    simp only [expectedOf, settleInput, expectation, terms.id, terms.amount, terms.authorized, terms.captured,
      processing]
  rw [sends, deferring]
  refine ⟨fun soft => ?_, fun hard => ?_⟩
  · obtain ⟨w', r, ran, going, after, nonempty⟩ :=
      settle_trying isSent trying.vain outcome rfl expects soft
    rw [ran]
    exact ⟨_, r, rfl, going, { after with }, nonempty⟩
  · exact settle_decides isSent trying.vain outcome rfl quiet expects hard

theorem attemptOnce_decided (o : Orchestrator) (din : DispatchInput) (env : AttemptEnv)
    (gw : GatewayID) : Keeps Decided (attemptOnce o din env gw) := by
  refine Keeps.iff_state.mpr ?_
  rintro w (⟨failed, stored⟩ | ⟨a, mem, open_⟩)
  · have kept := Keeps.iff_state.mp
      (attemptOnce_closed w (by rw [failed]; decide) o din env gw) w ⟨rfl, rfl⟩
    exact .inl ⟨by rw [kept.1]; exact failed, by rw [kept.2]; exact stored⟩
  · exact .inr ⟨a, Keeps.iff_state.mp (attemptOnce_retains a o din env gw) w mem, open_⟩

/-- How a stretch of the loop ends: some answer decided the payment, or every gateway reached said
no softly and the payment is still being tried. -/
def WalkEnds (o : Orchestrator) (din : DispatchInput) (env : Nat → AttemptEnv) (p : Payment)
    (tape : List (GatewayID × Nat)) (w w' : World) : Prop :=
  ((∃ c ∈ tape, (env c.2).reaches = true ∧ softNo o p din c.1 (env c.2) = false) ∧ Decided w') ∨
    ((∀ c ∈ tape, (env c.2).reaches = true → softNo o p din c.1 (env c.2) = true) ∧ Trying p w' ∧
      (w'.pay.attempts = [] ↔ w.pay.attempts = [] ∧ ∀ c ∈ tape, (env c.2).reaches = false))

namespace WalkEnds

variable {o : Orchestrator} {din : DispatchInput} {env : Nat → AttemptEnv} {p : Payment}
  {tape : List (GatewayID × Nat)} {c : GatewayID × Nat} {w w' : World}

theorem here (trying : Trying p w) : WalkEnds o din env p [] w w :=
  .inr ⟨by simp, trying, by simp⟩

theorem decided (reached : (env c.2).reaches = true)
    (hard : softNo o p din c.1 (env c.2) = false) (h : Decided w') :
    WalkEnds o din env p (c :: tape) w w' :=
  .inl ⟨⟨c, List.mem_cons_self, reached, hard⟩, h⟩

theorem cons (w₁ : World) (soft : (env c.2).reaches = true → softNo o p din c.1 (env c.2) = true)
    (kept : w₁.pay.attempts = [] ↔ w.pay.attempts = [] ∧ (env c.2).reaches = false)
    (rest : WalkEnds o din env p tape w₁ w') : WalkEnds o din env p (c :: tape) w w' := by
  rcases rest with ⟨⟨d, mem, hard⟩, decided⟩ | ⟨later, trying, made⟩
  · exact .inl ⟨⟨d, List.mem_cons_of_mem _ mem, hard⟩, decided⟩
  · refine .inr ⟨List.forall_mem_cons.mpr ⟨soft, later⟩, trying, ?_⟩
    rw [made, kept, List.forall_mem_cons, and_assoc]

end WalkEnds

variable (o : Orchestrator) (din : DispatchInput)

theorem candidates_budget_succ {plan : Plan} {tried : List GatewayID}
    {sel : Routing.Selection} (next : plan.next tried = some sel) (left : Nat) :
    candidates plan (budget o (left + 1)) tried =
      sel.gatewayID :: if o.settings.enableFailover
        then candidates plan (budget o left) (tried ++ [sel.gatewayID]) else [] := by
  cases enabled : o.settings.enableFailover with
  | true | false => simp [budget, enabled, candidates, next]

theorem tryPlan_ends {p : Payment} {env : Nat → AttemptEnv}
    (intents : ∀ n, Commits (env n).intentTx)
    (outcomes : ∀ n, Commits (env n).outcomeTx) (reloads : ∀ n, Quiet (env n).reloadTx) :
    ∀ (left n : Nat) (tried : List GatewayID) (lastErr : Option GoError) {w : World},
      Trying p w →
      WalkEnds o din env p ((candidates din.plan (budget o left) tried).zipIdx n) w
        (tryPlan o din env left n tried lastErr w).1 := by
  intro left
  induction left with
  | zero =>
    intro n tried lastErr w trying
    have nobody : candidates din.plan (budget o 0) tried = [] := by
      simp [budget, candidates]
    rw [nobody]
    exact .here trying
  | succ left ih =>
    intro n tried lastErr w trying
    unfold tryPlan
    cases next : din.plan.next tried with
    | none =>
      have nobody : ∀ k, candidates din.plan k tried = [] := by
        intro k
        cases k <;> simp [candidates, next]
      rw [nobody]
      exact .here trying
    | some sel =>
      rw [candidates_budget_succ o next, List.zipIdx_cons]
      dsimp only
      cases reached : (env n).reaches with
      | false =>
        obtain ⟨w₁, e, ran, pay, row⟩ :=
          attemptOnce_unreached reached o din sel.gatewayID w
        have trying₁ : Trying p w₁ := by
          refine ⟨?_, ?_, ?_, ?_, ?_⟩
          all_goals first | rw [row] | skip
          all_goals rw [pay]
          exacts [trying.vain, trying.state, trying.stored, trying.current, trying.terms]
        refine .cons w₁ (by simp [reached]) (by simp [reached, pay]) ?_
        rw [bind_of_ok (show attempt _ w = (w₁, .ok (.error e)) by rw [attempt, ran])]
        dsimp only
        cases enabled : o.settings.enableFailover with
        | true => exact ih _ _ _ trying₁
        | false => exact .here trying₁
      | true =>
        obtain ⟨going, ending⟩ := attemptOnce_reached trying o din sel.gatewayID reached
          (intents n) (outcomes n) (reloads n)
        cases no : softNo o p din sel.gatewayID (env n) with
        | false =>
          have over_ := Triple.iff_state.mp (triple_iteration (P := (· = w)) next
            (Triple.iff_state.mpr fun v same => same ▸ ending no)
            (keeps_tryPlan (fun n => attemptOnce_decided o din (env n)) left) lastErr) w rfl
          unfold tryPlan at over_
          rw [next] at over_
          exact .decided reached no over_
        | true =>
          obtain ⟨w₁, r, ran, open_, trying₁, nonempty⟩ := going no
          refine .cons w₁ (fun _ => no) (by simp [reached, nonempty]) ?_
          rw [bind_of_ok (show attempt _ w = (w₁, .ok (.ok r)) by rw [attempt, ran])]
          dsimp only
          rw [open_]
          cases enabled : o.settings.enableFailover with
          | true => exact ih _ _ _ trying₁
          | false => exact .here trying₁

theorem dispatch_leaves {env : DispatchEnv} (w : World) (quiet : Quiet env.finalTx) :
    ∃ row, (dispatch o din env w).1 =
        { (tryPlan o din env.attempts o.settings.maxAttempts 0 [] none w).1 with row := row } ∧
      row.payment.state =
        (tryPlan o din env.attempts o.settings.maxAttempts 0 [] none w).1.row.payment.state := by
  let I (tried v : World) : Prop := ∃ row, v = { tried with row := row } ∧
    row.payment.state = tried.row.payment.state
  refine Triple.iff_state.mp (triple_dispatch (P := (· = w)) (I := I _)
    (Triple.iff_state.mpr ?_) (Keeps.iff_state.mpr ?_)) w rfl
  · rintro _ rfl
    exact ⟨_, rfl, rfl⟩
  · rintro v ⟨row, same, state⟩
    obtain ⟨row', left, kept | other⟩ := reload_leaves env.finalTx v
    · exact ⟨row', by rw [left, same], by rw [kept, same]; exact state⟩
    · exact ⟨row', by rw [left, same], by rw [other, same]; exact (quiet row).2.trans state⟩

/-- With every commit of a run successful, if all attempts of a new payment end in vain, it is not
left in flight exactly if the run reached no gateway, or one answered something other than a soft
no. -/
theorem dispatch_visiblyEnded_iff (env : DispatchEnv)
    (pay : Payment) (row : Row) (created : pay.state = .created) (unattempted : pay.attempts = [])
    (stored : row.payment.state = .created) (current : row.payment.version = pay.baseVersion)
    (commits : EveryCommitSucceeds env) :
    VisiblyEnded (dispatch o din env { pay := pay, row := row, log := [] }).1 ↔
      DecidedByAnswer o pay din env.attempts := by
  let w : World := { pay := pay, row := row, log := [] }
  have trying : Trying pay w := by
    refine ⟨?_, ?_, stored.trans created.symm, current, rfl, rfl, rfl, rfl⟩
    · rw [show w.pay.attempts = [] from unattempted]
      exact fun a mem => absurd mem List.not_mem_nil
    · rw [show w.pay.attempts = [] from unattempted]
      exact created
  have ends := tryPlan_ends o din commits.intents commits.outcomes commits.reloads
    o.settings.maxAttempts 0 [] none trying
  obtain ⟨last, leaves, state⟩ := dispatch_leaves o din w commits.final
  rw [leaves]
  rcases ends with ⟨hard, decided⟩ | ⟨soft, after, made⟩
  · refine iff_of_true (Decided.visiblyEnded ?_) (.inr hard)
    exact decided.imp_left fun closed => ⟨closed.1, state.trans closed.2⟩
  · have shown : last.payment.state.isInFlight = false ↔
        (tryPlan o din env.attempts o.settings.maxAttempts 0 [] none w).1.pay.attempts = [] := by
      rw [state, after.stored, after.state]
      cases (tryPlan o din env.attempts o.settings.maxAttempts 0 [] none w).1.pay.attempts with
      | nil => decide
      | cons =>
        exact iff_of_false (show ¬ State.processing.isInFlight = false by decide) (by simp)
    have unreached : (tryPlan o din env.attempts o.settings.maxAttempts 0 [] none w).1.pay.attempts =
        [] ↔ ∀ c ∈ contacts o din, (env.attempts c.2).reaches = false := by
      rw [made]
      exact and_iff_right unattempted
    constructor
    · intro visible
      exact .inl (unreached.mp (shown.mp (visible after.vain)))
    · rintro (nobody | ⟨c, mem, reached, hard⟩) vain
      · exact shown.mpr (unreached.mpr nobody)
      · rw [soft c mem reached] at hard
        cases hard

/-- The first gateway says no softly, the second one for good. -/
def softThenHard (n : Nat) : AttemptEnv :=
  sampleAttempt n (if n = 0 then sampleDecline else sampleAnswer .declined .stolenCard)

theorem dispatch_visiblyEnded_softThenHard :
    let final := (dispatch sampleOrchestrator sampleInput
      { attempts := softThenHard, finalTx := Tx.undisturbed } sampleWorld).1
    (∀ a ∈ final.pay.attempts, endedInVain a = true) ∧ final.row.payment.state = .failed ∧
      VisiblyEnded final := by
  intro final
  have commits : EveryCommitSucceeds { attempts := softThenHard, finalTx := Tx.undisturbed } :=
    ⟨fun _ => commits_undisturbed, fun _ => commits_undisturbed,
      fun _ => commits_undisturbed.quiet, commits_undisturbed.quiet⟩
  refine ⟨by decide +kernel, by decide +kernel, ?_⟩
  exact (dispatch_visiblyEnded_iff sampleOrchestrator sampleInput _ samplePersisted
    (Row.of samplePersisted) (by decide) (by decide) (by decide) (by decide) commits).mpr
    (by decide +kernel)

def softlyDeclined (n : Nat) : AttemptEnv := sampleAttempt n sampleDecline

theorem dispatch_not_visiblyEnded :
    let final := (dispatch sampleOrchestrator sampleInput
      { attempts := softlyDeclined, finalTx := Tx.undisturbed } sampleWorld).1
    EveryCommitSucceeds { attempts := softlyDeclined, finalTx := Tx.undisturbed } ∧
      final.pay.attempts.map (·.outcome) = [.declined, .declined] ∧
      final.row.payment.state = .processing ∧ ¬ VisiblyEnded final := by
  refine ⟨⟨fun _ => commits_undisturbed, fun _ => commits_undisturbed,
    fun _ => commits_undisturbed.quiet, commits_undisturbed.quiet⟩, ?_⟩
  decide +kernel

end PaymentsPlatform.Orchestration
