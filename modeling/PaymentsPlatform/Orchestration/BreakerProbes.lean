/- layer: the breaker and the attempts that ask it
   digest: What closes a half-open breaker when attempts run beside each other, and that every
     permit is reported on and every slot given back. -/

import PaymentsPlatform.Orchestration.Exhaustion
import PaymentsPlatform.Resilience.CircuitBreaker

namespace PaymentsPlatform.Orchestration

open Gateways Lib.Interleaving Lib.Procedure Lib.TransitionSystem Payments
open Resilience
  (Breaker BreakerConfig Permit defaultBreakerConfig newBreaker second)
open Storage (Row)

section Probes

/-- The gateway has said something about the payment. -/
def answered (a : Answer) : Bool := a.resp.isSome && a.callErr.isNone

/-- What is handed to the recorder, and the answer of the gateway call before it, if there
was one. -/
structure BreakerVerdict where
  sent : Option Answer
  success : Bool
  counted : Bool

/-- The first report in a list of effects; `sent` is the last call so far. -/
def verdictAfter (sent : Option Answer) : List Effect → Option BreakerVerdict
  | [] => none
  | .record _ success counted :: _ => some ⟨sent, success, counted⟩
  | .authorize _ _ _ answer :: rest | .capture _ _ answer :: rest | .void _ _ answer :: rest =>
    verdictAfter (some answer) rest
  | _ :: rest => verdictAfter sent rest

def BreakerVerdict.passes (v : BreakerVerdict) : Bool := v.success || !v.counted

def Truthful (answer : Answer) (success counted : Bool) : Prop :=
  (success || !counted) = true → answered answer = true

def Reports (key : String) (answer : Answer) (w w' : World) : Prop :=
  ∃ success counted later, w'.log = w.log ++ .record key success counted :: later ∧
    Truthful answer success counted

theorem truthful_failure (answer : Answer) : Truthful answer false true :=
  fun passes => absurd passes (by decide)

/-- What stays in the database. -/
def Written : Effect → Prop
  | .stored _ | .audited _ => True
  | _ => False

/-- The breaker is told once, and what follows is only written to the database. -/
def Tells (key : String) (answer : Answer) (w w' : World) : Prop :=
  ∃ success counted, Truthful answer success counted ∧
    Appends Written (w.emit (.record key success counted)) w'

theorem Tells.reports {key : String} {answer : Answer} {w w' : World} (h : Tells key answer w w') :
    Reports key answer w w' := by
  obtain ⟨success, counted, truthful, later, grown, -⟩ := h
  refine ⟨success, counted, later, ?_, truthful⟩
  rw [grown, World.emit, List.append_assoc, List.singleton_append]

theorem tells_emit {α : Type} {key : String} {answer : Answer} {success counted : Bool}
    {rest : Proc α} (writes : Moves (Appends Written) rest)
    (truthful : Truthful answer success counted) :
    Moves (Tells key answer) (do emit (.record key success counted); rest : Proc α) :=
  fun w => ⟨success, counted, truthful, writes (w.emit _)⟩

theorem tells_bind {α β : Type} {key : String} {answer : Answer} {c : Proc β} {f : β → Proc α}
    (first : Moves (Tells key answer) c) (rest : ∀ b, Moves (Appends Written) (f b)) :
    Moves (Tells key answer) (c >>= f) := by
  intro w
  have told := first w
  rcases done : c w with ⟨w', e | b⟩
  · rw [bind_of_error done]
    rw [done] at told
    exact told
  · rw [bind_of_ok done]
    rw [done] at told
    obtain ⟨success, counted, truthful, written⟩ := told
    exact ⟨success, counted, truthful, IsTrans.trans _ w' _ written (rest b w')⟩

theorem writes_commit (tx : Tx) (i : Nat) (action : String) :
    Moves (Appends Written) (commit tx i action) :=
  appends_within tx ((appends_saveAttempt tx i).bind fun _ =>
    (appends_savePayment tx fun _ => trivial).bind fun _ => Moves.read.bind fun _ =>
      Moves.orFail.bind fun _ => appends_emit trivial)

theorem writes_reload (tx : Tx) : Moves (Appends Written) (reload tx) :=
  appends_within tx (Moves.orFail.bind fun _ => Moves.read.bind fun _ => fun w => Std.Refl.refl w)

theorem writes_reloadResult (tx : Tx) (plan : Routing.Plan) (next : Option Payment.NextAction) :
    Moves (Appends Written) (reloadResult tx plan next) :=
  (writes_reload tx).bind fun _ => Moves.pure

theorem writes_committed (env : AttemptEnv) (sin : SettleInput) (action : String)
    (next : Option Payment.NextAction) :
    Moves (Appends Written) (do
      commit env.outcomeTx sin.index action
      reloadResult env.reloadTx sin.plan next) :=
  (writes_commit _ _ _).bind fun _ => writes_reloadResult _ _ _

section Settling

variable (o : Orchestrator) (env : AttemptEnv) (sin : SettleInput)

theorem settleUnknown_tells (message reason : String) :
    Moves (Tells sin.breakerKey env.answer) (settleUnknown env sin message reason) :=
  tells_emit ((appends_invoke _).bind fun _ => (appends_invoke _).bind fun _ =>
    writes_committed env sin _ _) (truthful_failure _)

theorem settleStatus_tells (resp : Spi.Result) (gave : answered env.answer = true) :
    Moves (Tells sin.breakerKey env.answer) (settleStatus o env sin resp) := by
  have truthful : ∀ success counted, Truthful env.answer success counted := fun _ _ _ => gave
  unfold settleStatus
  split
  · exact tells_emit ((appends_invoke _).bind fun _ => Moves.read.bind fun _ =>
      (appends_invoke _).bind fun _ => writes_committed env sin _ _) (truthful _ _)
  · exact tells_emit ((appends_invoke _).bind fun _ => Moves.read.bind fun _ =>
      (appends_invoke _).bind fun _ => writes_committed env sin _ _) (truthful _ _)
  · exact tells_emit ((appends_invoke _).bind fun _ => writes_committed env sin _ _)
      (truthful _ _)
  · exact tells_emit ((appends_invoke _).bind fun _ => writes_committed env sin _ _)
      (truthful _ _)
  · refine tells_emit ((appends_invoke _).bind fun _ => Moves.read.bind fun permits => ?_)
      (truthful _ _)
    dsimp only
    split
    · exact (writes_commit _ _ _).bind fun _ => Moves.pure
    · exact (appends_invoke _).bind fun _ => writes_committed env sin _ _
  · exact settleUnknown_tells env sin _ _

theorem settle_tells : Moves (Tells sin.breakerKey env.answer) (settle o env sin) := by
  unfold settle
  split
  · exact settleUnknown_tells env sin _ _
  split
  · exact tells_emit ((appends_invoke _).bind fun _ => (writes_commit _ _ _).bind fun _ =>
      Moves.read.bind fun _ => Moves.pure) (truthful_failure _)
  · exact settleUnknown_tells env sin _ _
  · rename_i resp unfailed result
    have gave : answered env.answer = true := by simp [answered, unfailed, result]
    intro w
    rw [bind_read]
    cases o.validateGatewayResponse (responseOf resp) (expectedOf w.pay sin) with
    | some => exact settleUnknown_tells env sin _ _ w
    | none => exact settleStatus_tells o env sin resp gave w

theorem parkFollowUp_tells (message reason : String) :
    Moves (Tells sin.breakerKey env.answer) (parkFollowUp env sin message reason) :=
  tells_emit ((appends_invoke _).bind fun _ => appends_invoke _) (truthful_failure _)

theorem settleFollowUp_tells (fu : FollowUp) :
    Moves (Tells sin.breakerKey env.answer) (settleFollowUp o fu env sin) := by
  unfold settleFollowUp
  split
  · exact parkFollowUp_tells env sin _ _
  · split
    · exact parkFollowUp_tells env sin _ _
    · exact tells_emit (appends_invoke _) (truthful_failure _)
  · rename_i resp unfailed result
    have gave : answered env.answer = true := by simp [answered, unfailed, result]
    intro w
    rw [bind_read]
    cases o.validateGatewayResponse (followUpResponse resp) (expectedOf w.pay sin) with
    | some => exact parkFollowUp_tells env sin _ _ w
    | none =>
      exact tells_emit ((appends_invoke _).bind fun _ => appends_invoke _) (fun _ => gave) w

theorem closeFollowUp_tells (fu : FollowUp) :
    Moves (Tells sin.breakerKey env.answer) (closeFollowUp o fu env sin) :=
  tells_bind (settleFollowUp_tells o env sin fu) fun _ => writes_commit _ _ _

end Settling

/-! One attempt on a gateway, and when it reaches it. -/

inductive Request where
  | authorization (din : DispatchInput) (gw : GatewayID)
  | followUp (fu : FollowUp) (connections : List (GatewayID × ConnectionID)) (success : Attempt)

def Request.operation : Request → Operation
  | .authorization din _ => din.operation
  | .followUp fu _ _ => fu.operation

structure Job where
  o : Orchestrator
  request : Request
  env : AttemptEnv
  pay : Payment
  row : Row

def Job.effects (j : Job) : List Effect :=
  let env := { j.env with allowErr := none }
  let w : World := { pay := j.pay, row := j.row, log := [] }
  match j.request with
  | .authorization din gw => (attemptOnce j.o din env gw w).1.log
  | .followUp fu connections success => (Orchestration.followUp j.o fu connections env success w).1.log

def Job.verdict (j : Job) : Option BreakerVerdict := verdictAfter none j.effects

def TakesAttempt (op : Operation) (p : Payment) : Prop :=
  p.state.isTerminal = false ∧ ¬ (p.successfulAttempt.isSome ∧ op = .authorize) ∧
    p.hasUnresolvedAttempt = false

structure StoresAttempt (tx : Tx) : Prop where
  begins : tx.beginErr = none
  saves : tx.saveAttemptErr = none
  ends : tx.commitEnd = .acknowledged

def Job.Stores (j : Job) : Prop :=
  match j.request with
  | .authorization .. => j.pay.state.isKnown = true ∧ StoresPayment j.env.intentTx j.pay j.row
  | .followUp .. => StoresAttempt j.env.intentTx

/-- Nothing stops the attempt before its gateway call: the bulkhead, the credentials, the payment
and the storing of the intent let it pass. -/
structure Job.Reaches (j : Job) : Prop where
  room : j.env.acquireErr = none
  resolves : ∃ account, j.env.resolve = .ok account
  takes : TakesAttempt j.request.operation j.pay
  stores : j.Stores

/-- An attempt has been started and bound behind the others, and nothing else has happened. -/
structure AttemptOpened (w w' : World) (att : Attempt) : Prop where
  last : att.sequence - 1 = w.pay.attempts.length
  newest : ∃ a, w'.pay.attempts = w.pay.attempts ++ [a] ∧ Fresh a
  state : w'.pay.state = w.pay.state
  base : w'.pay.baseVersion = w.pay.baseVersion
  row : w'.row = w.row
  log : w'.log = w.log

variable {w : World}

theorem startAttempt_takes (din : DispatchInput)
    (takes : TakesAttempt din.operation w.pay) (env : AttemptEnv) (gw : GatewayID) :
    ∃ started bound att, startAttempt din env gw w = (started, .ok att) ∧
      bindConnection din gw (att.sequence - 1) started = (bound, .ok ()) ∧ AttemptOpened w bound att := by
  obtain ⟨alive, unsuccessful, resolved⟩ := takes
  obtain ⟨p', accepts, core, -, base⟩ := Payment.startAttempt_accepts gw din.plan.id din.operation
    env.seed env.startedAt alive
    (fun authorizing a mem success =>
      unsuccessful ⟨w.pay.successfulAttempt_isSome.mpr ⟨a, mem, success⟩, authorizing⟩)
    (w.pay.hasUnresolvedAttempt_eq_false.mp resolved)
  let att := newAttempt w.pay.id w.pay.tenantID gw din.operation (w.pay.attempts.length + 1)
    w.pay.amount env.seed env.startedAt
  have starts : startAttempt din env gw w = ({ w with pay := p' }, .ok att) := by
    unfold startAttempt
    rw [accepts]
  obtain ⟨conn, binds⟩ := bindConnection_ok (w := { w with pay := p' })
    (congrArg Core.attempts core) din gw
  exact ⟨_, _, att, starts, binds, rfl, ⟨_, rfl, rfl, rfl⟩, congrArg Core.state core, base, rfl, rfl⟩

theorem markProcessing_passes (now : Time) (known : w.pay.state.isKnown = true) :
    ∃ p', ignoring isSameState (invoke (.payment (.markProcessing now))) w =
        ({ w with pay := p' }, .ok ()) ∧
      p'.attempts = w.pay.attempts ∧ p'.baseVersion = w.pay.baseVersion := by
  refine ⟨_, markProcessing_known now known, ?_⟩
  unfold Payment.transition
  split
  · exact ⟨rfl, rfl⟩
  · exact ⟨rfl, rfl⟩

theorem dispatch_passes {earlier : List Attempt} {a : Attempt} {i : Nat}
    (at_ : i = earlier.length) (same : w.pay.attempts = earlier ++ [a]) (fresh : Fresh a)
    (now : Time) :
    ∃ sending, invoke (.attempt i (.dispatch now)) w = (sending, .ok ()) ∧
      sending.log = w.log := by
  obtain ⟨a', -, ran⟩ := dispatch_newest same fresh now
  rw [at_]
  exact ⟨_, ran, rfl⟩

variable {account : String}

theorem dispatchHolding_reaching (o : Orchestrator) {din : DispatchInput} (env : AttemptEnv)
    (gw : GatewayID) (key : String)
    (resolved : env.resolve = .ok account) (takes : TakesAttempt din.operation w.pay)
    (known : w.pay.state.isKnown = true) (stores : StoresPayment env.intentTx w.pay w.row) :
    ∃ row i request success counted later,
      (dispatchHolding o din env gw key w).1.log =
        w.log ++ .stored row :: .authorize gw i request env.answer ::
          .record key success counted :: later ∧ Truthful env.answer success counted := by
  obtain ⟨started, bound, att, starts, binds, open_⟩ := startAttempt_takes din takes env gw
  obtain ⟨a, attempts, fresh⟩ := open_.newest
  obtain ⟨p, marks, same, base⟩ :=
    markProcessing_passes (w := bound) env.processingAt (by rw [open_.state]; exact known)
  have current : StoresPayment env.intentTx p bound.row :=
    { stores with current := by rw [open_.row, stores.current, base, open_.base] }
  have stored := saveIntent_stores (w := { bound with pay := p }) current
  obtain ⟨sending, dispatches, log⟩ := dispatch_passes
    (w := { pay := p.markPersisted.drainEvents.1, row := Row.of p,
            log := bound.log ++ [.stored (Row.of p)] })
    open_.last (same.trans attempts) fresh env.dispatchedAt
  have sends := dispatchHolding_of_ok o key resolved starts binds marks stored dispatches
  obtain ⟨success, counted, later, grown, truthful⟩ := (settle_tells o env
    { plan := din.plan, gateway := gw, operation := din.operation, breakerKey := key,
      attemptID := att.id, index := att.sequence - 1 }
    (sending.emit (.authorize gw (att.sequence - 1) (authorizeRequest din account att sending.pay)
      env.answer))).reports
  refine ⟨Row.of p, att.sequence - 1, authorizeRequest din account att sending.pay, success, counted,
    later, ?_, truthful⟩
  rw [sends, grown, World.emit, log, open_.log]
  simp only [List.append_assoc, List.cons_append, List.nil_append]

theorem saveAttempt_stores {tx : Tx} (stores : StoresAttempt tx) {i : Nat} {a : Attempt}
    (found : w.pay.attempts[i]? = some a) :
    within tx (saveAttempt tx i) w =
      ({ w with row := (tx.others w.row).upsertAttempt a }, .ok ()) := by
  refine within_of_ok stores.begins stores.ends ?_
  unfold saveAttempt
  rw [stores.saves, bind_orFail_none]
  unfold Lib.Procedure.modify
  dsimp only
  rw [found]

theorem openFollowUp_reaching (fu : FollowUp) (connections : List (GatewayID × ConnectionID))
    {env : AttemptEnv} (gw : GatewayID) (key : String)
    (resolved : env.resolve = .ok account) (takes : TakesAttempt fu.operation w.pay)
    (stores : StoresAttempt env.intentTx) :
    ∃ opened att, openFollowUp fu connections env gw key w = (opened, .ok (account, att)) ∧
      opened.log = w.log := by
  obtain ⟨started, bound, att, starts, binds, open_⟩ :=
    startAttempt_takes (fu.input connections w.pay) takes env gw
  obtain ⟨a, attempts, fresh⟩ := open_.newest
  have saves := saveAttempt_stores stores (w := bound) (i := att.sequence - 1) (a := a)
    (by rw [open_.last, attempts]; simp)
  obtain ⟨sending, dispatches, log⟩ := dispatch_passes
    (w := { bound with row := (env.intentTx.others bound.row).upsertAttempt a })
    open_.last attempts fresh env.dispatchedAt
  refine ⟨sending, att, ?_, log.trans open_.log⟩
  unfold openFollowUp
  rw [bind_of_ok (beforeCall_of_ok (show ofExcept env.resolve w = (w, .ok account) by
      rw [resolved]; rfl)), bind_read,
    bind_of_ok (beforeCall_of_ok starts), bind_of_ok binds, bind_of_ok (beforeCall_of_ok saves),
    bind_of_ok (beforeCall_of_ok dispatches)]
  rfl

theorem followUpHolding_reaching (o : Orchestrator) (fu : FollowUp)
    (connections : List (GatewayID × ConnectionID)) (env : AttemptEnv) (success : Attempt)
    (key : String) (resolved : env.resolve = .ok account)
    (takes : TakesAttempt fu.operation w.pay) (stores : StoresAttempt env.intentTx) :
    ∃ p att passed counted later,
      (followUpHolding o fu connections env success key w).1.log =
        w.log ++ fu.call success.gatewayID account p att success env.answer ::
          .record key passed counted :: later ∧ Truthful env.answer passed counted := by
  obtain ⟨opened, att, opens, log⟩ :=
    openFollowUp_reaching fu connections success.gatewayID key resolved takes stores
  have sends : sendFollowUp fu env success (account, att) opened =
      (opened.emit (fu.call success.gatewayID account opened.pay att success env.answer), .ok ()) :=
    rfl
  obtain ⟨passed, counted, later, grown, truthful⟩ :=
    (tells_bind (closeFollowUp_tells o env
      (followUpSettle fu success.gatewayID key opened.pay att) fu)
      (fun _ => writes_reload env.reloadTx)
      (opened.emit (fu.call success.gatewayID account opened.pay att success env.answer))).reports
  refine ⟨opened.pay, att, passed, counted, later, ?_, truthful⟩
  unfold followUpHolding
  rw [bind_of_ok opens, bind_of_ok sends, bind_read]
  refine grown.trans ?_
  rw [World.emit, log, List.append_assoc, List.singleton_append]
  rfl

/-! What the verdict of a job that reaches its gateway is. -/

theorem verdictAfter_call (fu : FollowUp) (gw : GatewayID) (account : String) (p : Payment)
    (att success : Attempt) (answer : Answer) (sent : Option Answer) (rest : List Effect) :
    verdictAfter sent (fu.call gw account p att success answer :: rest) =
      verdictAfter (some answer) rest := by
  cases fu <;> rfl

theorem followUp_admitted (o : Orchestrator) (fu : FollowUp)
    (connections : List (GatewayID × ConnectionID)) (env : AttemptEnv) (success : Attempt) (w : World)
    (allowed : env.allowErr = none) (room : env.acquireErr = none) :
    ∃ key, (followUp o fu connections env success w).1.log =
      (followUpHolding o fu connections env success key
        ((w.emit (.permit key)).emit (.acquire success.gatewayID))).1.log ++
        [.release success.gatewayID] := by
  refine ⟨fu.breakerKey success, ?_⟩
  have admits : admitFollowUp env success.gatewayID (fu.breakerKey success) w =
      ((w.emit (.permit (fu.breakerKey success))).emit (.acquire success.gatewayID), .ok ()) := by
    unfold admitFollowUp
    rw [allowed, Option.map_none, bind_orFail_none, bind_emit, room,
      bind_of_ok (beforeCall_of_ok rfl)]
    rfl
  unfold followUp
  rw [bind_of_ok admits]
  rfl

theorem Job.verdict_of_reaches {j : Job} (reaches : j.Reaches) :
    ∃ v, j.verdict = some v ∧ v.sent = some j.env.answer ∧
      (v.passes = true → answered j.env.answer = true) := by
  obtain ⟨o, request, env, pay, row⟩ := j
  obtain ⟨room, ⟨account, resolved⟩, takes, stores⟩ := reaches
  unfold Job.verdict Job.effects
  cases request with
  | authorization din gw =>
    obtain ⟨key, -, start⟩ := attemptOnce_holding o din { env with allowErr := none } gw
      { pay := pay, row := row, log := [] } rfl room
    obtain ⟨stored, i, asked, success, counted, later, log, truthful⟩ :=
      dispatchHolding_reaching o { env with allowErr := none } gw key
        (w := { pay := pay, row := row, log := [.permit key, .acquire gw] }) resolved takes
        stores.1 stores.2
    refine ⟨⟨some env.answer, success, counted⟩, ?_, rfl, truthful⟩
    have effects := (congrArg (·.1.log) start).trans (congrArg (· ++ [Effect.release gw]) log)
    dsimp only
    rw [effects]
    rfl
  | followUp fu connections success =>
    obtain ⟨key, admitted⟩ := followUp_admitted o fu connections
      { env with allowErr := none } success { pay := pay, row := row, log := [] } rfl room
    obtain ⟨p, att, passed, counted, later, log, truthful⟩ :=
      followUpHolding_reaching o fu connections { env with allowErr := none } success key
        (w := { pay := pay, row := row, log := [.permit key, .acquire success.gatewayID] })
        resolved takes stores
    refine ⟨⟨some env.answer, passed, counted⟩, ?_, rfl, truthful⟩
    have effects := admitted.trans (congrArg (· ++ [Effect.release success.gatewayID]) log)
    dsimp only
    rw [effects]
    exact verdictAfter_call fu _ _ _ _ _ _ _ _

/-! Attempts beside each other on one breaker. -/

/-- The breaker, the last reading of the clock, and every report so far with the generation
of its permit. -/
structure Gate where
  breaker : Breaker
  clock : Time
  reports : List (Nat × BreakerVerdict)

/-- What a caller does next: ask for a permit, report, or look at the state. -/
inductive Action where
  | ask (job : Job) (now : Time)
  | finish (now : Time)
  | observe (now : Time)

def Action.now : Action → Time
  | .ask _ now | .finish now | .observe now => now

variable (g : Gate)

def Gate.finish (permit : Permit) (v : BreakerVerdict) (now : Time) : Gate where
  breaker := g.breaker.record permit v.success v.counted now
  clock := now
  reports := g.reports ++ [(permit.gen, v)]

def Gate.act (held : Option (Permit × Job)) (action : Action) : Gate × Option (Permit × Job) :=
  match action, held with
  | .ask job now, none =>
    ({ g with breaker := (g.breaker.allow now).1, clock := now },
      (g.breaker.allow now).2.toOption.map fun permit => (permit, job))
  | .finish now, some (permit, job) =>
    match job.verdict with
    | none => (g, none)
    | some v => (g.finish permit v now, none)
  | .observe now, _ => ({ g with breaker := (g.breaker.currentState now).1, clock := now }, held)
  | .ask .., some _ | .finish _, none => (g, held)

/-- A breaker and any number of callers, none of which holds a permit at first. -/
def probing (cfg : BreakerConfig) : System (Config Gate Nat (Option (Permit × Job))) (Nat × Action) :=
  interleaving Gate.act fun s =>
    s.shared.breaker = newBreaker cfg ∧ s.shared.reports = [] ∧ ∀ i, s.own i = none

def Forward (_ : Option (Permit × Job)) (action : Action) : Prop := g.clock ≤ action.now

instance (g : Gate) (held : Option (Permit × Job)) (action : Action) :
    Decidable (Forward g held action) :=
  inferInstanceAs (Decidable (g.clock ≤ action.now))

/-- An attempt that reports to the half-open period it was let in by had reached its
gateway. -/
def ProbesReach (held : Option (Permit × Job)) (action : Action) : Prop :=
  ∀ now permit job, action = .finish now → held = some (permit, job) →
    g.breaker.state = .halfOpen → permit.gen = g.breaker.generation → job.Reaches

def BreakerVerdict.answers (v : BreakerVerdict) : Bool := v.sent.any answered

def Gate.answeredIn (gen : Nat) : Nat :=
  g.reports.countP fun r => r.1 == gen && r.2.answers

/-- A half-open breaker closes only after enough calls of that period were sent and answered,
and a report without a call counts for nothing. -/
structure CountsProbes (g g' : Gate) : Prop where
  closes : g.breaker.state = .halfOpen → g'.breaker.state = .closed →
    g.breaker.cfg.probeSuccessesToClose ≤ g'.answeredIn g.breaker.generation
  abandoned : ∀ r, g'.reports = g.reports ++ [r] → r.2.sent = none →
    g'.breaker.consecutiveSuccesses ≤ g.breaker.consecutiveSuccesses ∧
      (g.breaker.state = .halfOpen → g'.breaker.state ≠ .closed)

def ProbesCounted : Prop :=
  g.breaker.state = .halfOpen →
    g.breaker.consecutiveSuccesses ≤ g.answeredIn g.breaker.generation

theorem Gate.act_cases (held : Option (Permit × Job)) (action : Action) :
    ((g.act held action).1.reports = g.reports ∧
      (g.breaker.SameAccount (g.act held action).1.breaker ∨
        (g.breaker.state = .opened ∧ g.breaker.Moved .halfOpen (g.act held action).1.breaker))) ∨
    ∃ now permit job v, action = .finish now ∧ held = some (permit, job) ∧ job.verdict = some v ∧
      (g.act held action).1 = g.finish permit v now := by
  have idle : g.reports = g.reports ∧ (g.breaker.SameAccount g.breaker ∨
      (g.breaker.state = .opened ∧ g.breaker.Moved .halfOpen g.breaker)) :=
    ⟨rfl, .inl (.refl _)⟩
  cases action with
  | ask job now =>
    cases held with
    | some => exact .inl idle
    | none => exact .inl ⟨rfl, g.breaker.allow_cases now⟩
  | observe now =>
    refine .inl ⟨rfl, (g.breaker.maybeHalfOpen_cases now).imp (fun same => ?_) id⟩
    show g.breaker.SameAccount (g.breaker.maybeHalfOpen now)
    rw [same]
    exact .refl _
  | finish now =>
    cases held with
    | none => exact .inl idle
    | some h =>
      obtain ⟨permit, job⟩ := h
      cases verdict : job.verdict with
      | none =>
        have same : (g.act (some (permit, job)) (.finish now)).1 = g := by
          simp only [Gate.act, verdict]
        rw [same]
        exact .inl idle
      | some v =>
        exact .inr ⟨now, permit, job, v, rfl, rfl, verdict, by simp only [Gate.act, verdict]⟩

theorem Gate.answeredIn_finish (permit : Permit) (v : BreakerVerdict) (now : Time) (gen : Nat) :
    (g.finish permit v now).answeredIn gen =
      g.answeredIn gen + if permit.gen = gen ∧ v.answers then 1 else 0 := by
  simp [Gate.answeredIn, Gate.finish, List.countP_append, List.countP_singleton]

theorem record_eq (b : Breaker) (permit : Permit) (v : BreakerVerdict) (now : Time) :
    b.record permit v.success v.counted now =
      b.report permit (if v.passes then .success else .failure) now := by
  unfold Breaker.record BreakerVerdict.passes
  cases v.counted <;> cases v.success <;> rfl

section Counting

variable {g g' : Gate}

theorem counts_of_same (counted : ProbesCounted g) (same : g.breaker.SameAccount g'.breaker)
    (more : ∀ gen, g.answeredIn gen ≤ g'.answeredIn gen) : ProbesCounted g' ∧ CountsProbes g g' := by
  have unclosed : g.breaker.state = .halfOpen → g'.breaker.state ≠ .closed := by
    intro half
    rw [same.state, half]
    decide
  refine ⟨fun half => ?_, fun half closed => absurd closed (unclosed half),
    fun r _ _ => ⟨same.successes.le, unclosed⟩⟩
  rw [same.generation, same.successes]
  exact (counted (same.state.symm.trans half)).trans (more _)

theorem counts_of_moved {state : Resilience.State} (moved : g.breaker.Moved state g'.breaker)
    (apart : state ≠ .closed) : ProbesCounted g' ∧ CountsProbes g g' := by
  have unclosed : g'.breaker.state ≠ .closed := by
    rw [moved.state]
    exact apart
  have fresh : ∀ n, g'.breaker.consecutiveSuccesses ≤ n := by
    intro n
    rw [moved.successes]
    exact Nat.zero_le n
  exact ⟨fun _ => fresh _, fun _ closed => absurd closed unclosed,
    fun _ _ _ => ⟨fresh _, fun _ => unclosed⟩⟩

theorem finish_counts {permit : Permit} {v : BreakerVerdict} (now : Time) (counted : ProbesCounted g)
    (honest : g.breaker.state = .halfOpen → permit.gen = g.breaker.generation →
      v.sent ≠ none ∧ (v.passes = true → v.answers = true)) :
    ProbesCounted (g.finish permit v now) ∧ CountsProbes g (g.finish permit v now) := by
  have breaker : (g.finish permit v now).breaker =
      g.breaker.report permit (if v.passes then .success else .failure) now :=
    record_eq g.breaker permit v now
  have account := g.breaker.report_cases permit (if v.passes then .success else .failure) now
  rw [← breaker] at account
  rcases account with same | opened | ⟨half, current, passes, outcome⟩
  · refine counts_of_same counted same fun gen => ?_
    rw [g.answeredIn_finish]
    exact Nat.le_add_right _ _
  · exact counts_of_moved opened (by decide)
  · obtain ⟨sent, answers⟩ := honest half current
    have passed : v.passes = true := by
      by_contra fails
      rw [if_neg fails] at passes
      cases passes
    have one : (g.finish permit v now).answeredIn g.breaker.generation =
        g.answeredIn g.breaker.generation + 1 := by
      rw [g.answeredIn_finish, if_pos ⟨current, answers passed⟩]
    have before := counted half
    -- the one report of this step was sent
    have unsent : ∀ r, (g.finish permit v now).reports = g.reports ++ [r] → r.2.sent ≠ none := by
      intro r appended
      cases List.singleton_injective (List.append_cancel_left appended)
      exact sent
    rcases outcome with counts | ⟨enough, closed⟩
    · have still : (g.finish permit v now).breaker.state = .halfOpen := counts.state.trans half
      refine ⟨fun _ => ?_, fun _ closed => ?_, fun r appended none => absurd none (unsent r appended)⟩
      · rw [counts.generation, counts.successes, one]
        exact Nat.succ_le_succ before
      · rw [still] at closed
        cases closed
    · refine ⟨fun still => ?_, fun _ _ => ?_, fun r appended none => absurd none (unsent r appended)⟩
      · rw [closed.state] at still
        cases still
      · rw [one]
        omega

end Counting

variable {held : Option (Permit × Job)}

theorem act_counts {g : Gate} {action : Action} (counted : ProbesCounted g)
    (reach : ProbesReach g held action) :
    ProbesCounted (g.act held action).1 ∧ CountsProbes g (g.act held action).1 := by
  rcases g.act_cases held action with ⟨unreported, same | ⟨-, moved⟩⟩ |
      ⟨now, permit, job, v, rfl, rfl, verdict, done⟩
  · refine counts_of_same counted same fun gen => ?_
    rw [Gate.answeredIn, Gate.answeredIn, unreported]
  · exact counts_of_moved moved (by decide)
  · rw [done]
    refine finish_counts now counted fun half current => ?_
    obtain ⟨v', reports, sent, answers⟩ :=
      Job.verdict_of_reaches (reach now permit job rfl rfl half current)
    cases verdict.symm.trans reports
    refine ⟨by rw [sent]; exact Option.some_ne_none _, fun passes => ?_⟩
    rw [BreakerVerdict.answers, sent]
    exact answers passes

/-- In every run in which each attempt that reports to the half-open period it was let in by
reaches its gateway first, the breaker counts answers only. -/
theorem closes_on_answers (cfg : BreakerConfig) {s : Config Gate Nat (Option (Permit × Job))}
    (reached : (probing cfg).ReachableUnder (onAction ProbesReach) s) {label : Nat × Action}
    (reach : onAction ProbesReach s label) :
    CountsProbes s.shared ((probing cfg).step s label).shared := by
  have counted : ProbesCounted s.shared := by
    refine reached.invariant (P := fun s => ProbesCounted s.shared) ?_ ?_
    · rintro s ⟨fresh, -, -⟩ half
      rw [fresh] at half
      cases half
    · exact fun s label _ counted reach => (act_counts counted reach).1
  exact (act_counts counted reach).2

def sampleJob (env : AttemptEnv) : Job where
  o := sampleOrchestrator
  request := .authorization sampleInput "stripe"
  env := env
  pay := samplePersisted
  row := Row.of samplePersisted

def timedOut : Answer := { resp := none, callErr := some (new .gatewayTimeout "no answer in time") }

def sampleGate : Config Gate Nat (Option (Permit × Job)) where
  shared := { breaker := newBreaker (defaultBreakerConfig "stripe:authorize"), clock := 0, reports := [] }
  own := fun _ => none

def inTurn (job : Job) (now : Time) : List (Nat × Action) := [(0, .ask job now), (0, .finish now)]

/-- Twenty calls time out, which trips the breaker; after the cool-down come three attempts, of
which the last has still to report. -/
def recovering (probe : Job) : List (Nat × Action) :=
  (List.replicate 20 (inTurn (sampleJob (sampleAttempt 0 timedOut)) 1)).flatten ++
    inTurn probe (1 + 30 * second) ++ inTurn probe (1 + 30 * second) ++
      [(0, .ask probe (1 + 30 * second))]

def lastReport : Nat × Action := (0, .finish (1 + 30 * second))

def crowdedOut : Job :=
  sampleJob { sampleAttempt 0 samplePending with
    acquireErr := some (new .concurrencyLimitExceeded "bulkhead \"stripe\" is full (50 in flight, 100 queued)") }

/-- Three attempts that found no room in the bulkhead close the breaker: no call was sent since
it had opened. -/
theorem not_closes_on_answers :
    ¬ ∀ s label, (probing (defaultBreakerConfig "stripe:authorize")).ReachableUnder
        (onAction Forward) s → onAction Forward s label →
      CountsProbes s.shared
        ((probing (defaultBreakerConfig "stripe:authorize")).step s label).shared := by
  intro counts
  have start : (probing (defaultBreakerConfig "stripe:authorize")).ReachableUnder
      (onAction Forward) sampleGate := .init ⟨rfl, rfl, fun _ => rfl⟩
  have probed := System.reachableUnder_run start (recovering crowdedOut) (by decide +kernel)
  have closes := (counts _ lastReport probed (by decide +kernel)).closes (by decide +kernel)
    (by decide +kernel)
  exact absurd closes (by decide +kernel)

theorem Gate.act_holds {g : Gate} {action : Action} {permit : Permit}
    {job : Job} (holds : (g.act held action).2 = some (permit, job)) :
    held = some (permit, job) ∨ ∃ now, action = .ask job now := by
  cases action with
  | ask asked now =>
    cases held with
    | some => exact .inl holds
    | none =>
      obtain ⟨given, -, same⟩ := Option.map_eq_some_iff.mp holds
      cases same
      exact .inr ⟨now, rfl⟩
  | observe => exact .inl holds
  | finish =>
    cases held with
    | none => exact .inl holds
    | some =>
      simp only [Gate.act] at holds
      split at holds
      · cases holds
      · cases holds

/-- An attempt that asks for a permit will reach its gateway. -/
def Action.Reaching : Action → Prop
  | .ask job _ => job.Reaches
  | .finish _ | .observe _ => True

theorem meets_probesReach (cfg : BreakerConfig) {labels : List (Nat × Action)}
    (asked : ∀ label ∈ labels, label.2.Reaching)
    {s : Config Gate Nat (Option (Permit × Job))}
    (holding : ∀ i permit job, s.own i = some (permit, job) → job.Reaches) :
    (probing cfg).Meets (onAction ProbesReach) s labels := by
  induction labels generalizing s with
  | nil => trivial
  | cons label rest ih =>
    obtain ⟨i, action⟩ := label
    refine ⟨fun now permit job _ held _ _ => holding i permit job held, ih ?_ ?_⟩
    · exact fun label mem => asked label (List.mem_cons_of_mem _ mem)
    · intro j permit job held
      have held' : Function.update s.own i (s.shared.act (s.own i) action).2 j =
          some (permit, job) := held
      by_cases same : j = i
      · rw [same, Function.update_self] at held'
        rcases Gate.act_holds held' with before | ⟨now, rfl⟩
        · exact holding i permit job before
        · exact asked _ List.mem_cons_self
      · rw [Function.update_of_ne same] at held'
        exact holding j permit job held'

theorem sampleJob_reaches (answer : Answer) : (sampleJob (sampleAttempt 0 answer)).Reaches := by
  have takes : TakesAttempt .authorize samplePersisted := ⟨by decide, by decide, by decide⟩
  have known : samplePersisted.state.isKnown = true := by decide
  exact ⟨rfl, ⟨"", rfl⟩, takes, known, rfl, rfl, rfl, rfl, rfl, rfl⟩

theorem recovering_reaching {probe : Job} (reaches : probe.Reaches) :
    ∀ label ∈ recovering probe, label.2.Reaching := by
  have turn : ∀ {job : Job} {now : Time}, job.Reaches →
      ∀ label ∈ inTurn job now, label.2.Reaching := by
    intro job now reaching
    simp [inTurn, Action.Reaching, reaching]
  intro label mem
  rcases List.mem_append.mp mem with earlier | last
  · rcases List.mem_append.mp earlier with earliest | second
    · rcases List.mem_append.mp earliest with tripping | first
      · obtain ⟨attempt, among, mem⟩ := List.mem_flatten.mp tripping
        rw [List.eq_of_mem_replicate among] at mem
        exact turn (sampleJob_reaches timedOut) label mem
      · exact turn reaches label first
    · exact turn reaches label second
  · rw [List.mem_singleton.mp last]
    exact reaches

/-- The state in which the third answer has still to be reported. -/
def answeredTwice : Config Gate Nat (Option (Permit × Job)) :=
  (probing (defaultBreakerConfig "stripe:authorize")).run sampleGate
    (recovering (sampleJob (sampleAttempt 0 samplePending)))

/-- After three calls that were sent and answered the breaker closes. -/
theorem closes_on_answers_pending :
    answeredTwice.shared.breaker.state = .halfOpen ∧
      ((probing (defaultBreakerConfig "stripe:authorize")).step answeredTwice
        lastReport).shared.breaker.state = .closed ∧
      CountsProbes answeredTwice.shared
        ((probing (defaultBreakerConfig "stripe:authorize")).step answeredTwice lastReport).shared := by
  have start : (probing (defaultBreakerConfig "stripe:authorize")).ReachableUnder
      (onAction ProbesReach) sampleGate := .init ⟨rfl, rfl, fun _ => rfl⟩
  have meets : (probing (defaultBreakerConfig "stripe:authorize")).Meets (onAction ProbesReach)
      sampleGate (recovering (sampleJob (sampleAttempt 0 samplePending)) ++ [lastReport]) := by
    have idle : ∀ i permit job, sampleGate.own i = some (permit, job) → job.Reaches := by
      intro i permit job held
      have nothing : none = some (permit, job) := held
      cases nothing
    refine meets_probesReach _ (fun label mem => ?_) idle
    rcases List.mem_append.mp mem with before | last
    · exact recovering_reaching (sampleJob_reaches samplePending) label before
    · rw [List.mem_singleton.mp last]
      trivial
  obtain ⟨before, last, -⟩ := (System.meets_append _ _).mp meets
  have probed : (probing (defaultBreakerConfig "stripe:authorize")).ReachableUnder
      (onAction ProbesReach) answeredTwice := System.reachableUnder_run start _ before
  exact ⟨by decide +kernel, by decide +kernel, closes_on_answers _ probed last⟩

end Probes

/-- The permit and the slot that a run has taken and not given back. -/
structure Holding where
  permit : Option String
  slot : Option GatewayID

/-- What is held after an effect: there is no answer for a permit or slot on top of another, or a
report or release without its own. -/
def Holding.after (h : Holding) : Effect → Option Holding
  | .permit key => if h.permit = none then some { h with permit := some key } else none
  | .record key _ _ => if h.permit = some key then some { h with permit := none } else none
  | .acquire gw => if h.slot = none then some { h with slot := some gw } else none
  | .release gw => if h.slot = some gw then some { h with slot := none } else none
  | _ => some h

/-- A run from `start` to `w` that held nothing at first has still to give back what `h` says. -/
def Owes (start : World) (h : Holding) (w : World) : Prop :=
  ∃ effects, w.log = start.log ++ effects ∧ effects.foldlM Holding.after ⟨none, none⟩ = some h

variable {start : World} {α : Type} {c : Proc α}

section Rules

variable {h g : Holding} {E : GoError → World → Prop} {w v : World}

theorem Owes.step (held : Owes start h w) {e : Effect} (next : h.after e = some g)
    (log : v.log = w.log ++ [e]) : Owes start g v := by
  obtain ⟨effects, grown, folded⟩ := held
  refine ⟨effects ++ [e], by rw [log, grown, List.append_assoc], ?_⟩
  rw [List.foldlM_append, folded]
  exact (bind_pure _).trans next

theorem Owes.written (held : Owes start h w) (more : Appends Written w v) : Owes start h v := by
  obtain ⟨suffix, log, written⟩ := more
  induction suffix generalizing w with
  | nil =>
    obtain ⟨effects, grown, folded⟩ := held
    exact ⟨effects, by rw [log, grown, List.append_nil], folded⟩
  | cons e rest ih =>
    have neutral : h.after e = some h := by
      have kind := written e List.mem_cons_self
      cases e <;> first | rfl | exact kind.elim
    exact ih (held.step neutral (v := w.emit e) rfl) (by rw [log]; simp [World.emit])
      fun x mem => written x (List.mem_cons_of_mem _ mem)

theorem keeps_of_writes (writes : Moves (Appends Written) c) : Keeps (Owes start h) c :=
  Keeps.iff_state.mpr fun w held => held.written (writes w)

theorem triple_step {e : Effect} (next : h.after e = some g) :
    Triple (Owes start h) (emit e) (fun _ => Owes start g) E :=
  fun _ held => held.step next rfl

end Rules

variable {key : String} {slot : Option GatewayID}

theorem after_record (success counted : Bool) :
    (Holding.mk (some key) slot).after (.record key success counted) = some ⟨none, slot⟩ :=
  if_pos rfl

/-- The permit is reported on if the command fails, and only then. -/
def Guarded (start : World) (key : String) (slot : Option GatewayID) (c : Proc α) : Prop :=
  Triple (Owes start ⟨some key, slot⟩) c (fun _ => Owes start ⟨some key, slot⟩)
    (fun _ => Owes start ⟨none, slot⟩)

/-- The permit is reported on however the command ends. -/
def Returns (start : World) (key : String) (slot : Option GatewayID) (c : Proc α) : Prop :=
  Triple (Owes start ⟨some key, slot⟩) c (fun _ => Owes start ⟨none, slot⟩)
    (fun _ => Owes start ⟨none, slot⟩)

theorem guarded_beforeCall (writes : Moves (Appends Written) c) :
    Guarded start key slot (beforeCall key c) :=
  Triple.onFailure ((keeps_of_writes writes).weaken (fun _ held => held) (fun _ _ held => held)
    fun _ _ held => held.step (after_record false false) rfl)

theorem guarded_bindConnection {din : DispatchInput} {gw : GatewayID} {i : Nat} :
    Guarded start key slot (bindConnection din gw i) :=
  triple_bindConnection fun _ => keeps_of_writes (appends_invoke _)

theorem returns_of_tells {answer : Answer} (tells : Moves (Tells key answer) c) :
    Returns start key slot c := by
  refine Triple.iff_state.mpr fun w held => ?_
  obtain ⟨success, counted, -, written⟩ := tells w
  exact (held.step (v := w.emit _) (after_record success counted) rfl).written written

theorem writes_ofExcept (r : Except GoError α) : Moves (Appends Written) (ofExcept r : Proc α) :=
  fun w => Std.Refl.refl w

variable (o : Orchestrator) (env : AttemptEnv)

theorem writes_startAttempt (din : DispatchInput) (gw : GatewayID) :
    Moves (Appends Written) (startAttempt din env gw) := fun _ => .of_log_eq rfl

theorem dispatchHolding_returns (din : DispatchInput) (gw : GatewayID) :
    Returns start key slot (dispatchHolding o din env gw key) :=
  (guarded_beforeCall (writes_ofExcept _)).bind fun _ =>
  (guarded_beforeCall (writes_startAttempt env din gw)).bind fun _ =>
  guarded_bindConnection.bind fun _ =>
  (guarded_beforeCall (appends_invoke _).ignoring).bind fun _ =>
  (guarded_beforeCall (appends_within _ (appends_savePayment _ fun _ => trivial))).bind fun _ =>
  (guarded_beforeCall (appends_invoke _)).bind fun _ =>
  Triple.reading.bind fun _ =>
  (triple_step rfl).bind fun _ => returns_of_tells (settle_tells o env _)

theorem openFollowUp_guarded (fu : FollowUp) (connections : List (GatewayID × ConnectionID))
    (gw : GatewayID) : Guarded start key slot (openFollowUp fu connections env gw key) :=
  (guarded_beforeCall (writes_ofExcept _)).bind fun _ =>
  Triple.reading.bind fun _ =>
  (guarded_beforeCall (writes_startAttempt env _ gw)).bind fun _ =>
  guarded_bindConnection.bind fun _ =>
  (guarded_beforeCall (appends_within _ (appends_saveAttempt _ _))).bind fun _ =>
  (guarded_beforeCall (appends_invoke _)).bind fun _ => Triple.pure fun _ held => held

theorem followUpHolding_returns (fu : FollowUp) (connections : List (GatewayID × ConnectionID))
    (success : Attempt) :
    Returns start key slot (followUpHolding o fu connections env success key) :=
  (openFollowUp_guarded env fu connections _).bind fun _ =>
  (Triple.reading.bind fun _ => triple_step (by cases fu <;> rfl)).bind fun _ =>
  Triple.reading.bind fun _ =>
  returns_of_tells (tells_bind (closeFollowUp_tells o env _ fu) fun _ => writes_reload _)

/-- Around the call: the permit, the slot, and the release on the way out. -/
theorem keeps_admitted {gw : GatewayID} (refusal : Option GoError)
    (returns : Returns start key (some gw) c) :
    Keeps (Owes start ⟨none, none⟩) (do
      orFail refusal
      emit (.permit key)
      beforeCall key (orFail env.acquireErr)
      emit (.acquire gw)
      deferring (World.emit (.release gw)) c) := by
  have released : (Holding.mk none (some gw)).after (.release gw) = some ⟨none, none⟩ := if_pos rfl
  exact Keeps.orFail.bind fun _ =>
    (triple_step (g := ⟨some key, none⟩) rfl).bind fun _ =>
    (guarded_beforeCall Moves.orFail).bind fun _ =>
    (triple_step (g := ⟨some key, some gw⟩) rfl).bind fun _ =>
    Triple.deferring (returns.weaken (fun _ held => held) (fun _ _ held => held.step released rfl)
      fun _ _ held => held.step released rfl)

theorem keeps_onExisting (fu : FollowUp) (connections : List (GatewayID × ConnectionID)) :
    Keeps (Owes start ⟨none, none⟩) (onExisting o fu connections env) := by
  refine Keeps.read.bind fun pay => ?_
  split
  · exact Keeps.fail
  · unfold followUp admitFollowUp
    simp only [bind_assoc]
    exact keeps_admitted env _ (followUpHolding_returns o env fu connections _)

/-- In every run each permit is followed by one report on it before another is asked for, and each
slot by one release, so that nothing is held at its end. -/
theorem permits_and_slots_returned (w : World) :
    (∀ din env, Owes w ⟨none, none⟩ (dispatch o din env w).1) ∧
      (∀ connections amount final env,
        Owes w ⟨none, none⟩ (captureExisting o connections amount final env w).1) ∧
      ∀ connections env, Owes w ⟨none, none⟩ (voidExisting o connections env w).1 := by
  have begun : Owes w ⟨none, none⟩ w := ⟨[], (List.append_nil _).symm, rfl⟩
  refine ⟨fun din env => ?_, fun connections amount final env => ?_, fun connections env => ?_⟩
  · have attempts : ∀ n gw, Keeps (Owes w ⟨none, none⟩) (attemptOnce o din (env.attempts n) gw) :=
      fun n gw => keeps_admitted _ _ (dispatchHolding_returns o _ din gw)
    exact Keeps.iff_state.mp (keeps_dispatch attempts (keeps_of_writes (writes_reload _))) w begun
  · exact Keeps.iff_state.mp (keeps_onExisting o env _ connections) w begun
  · exact Keeps.iff_state.mp (keeps_onExisting o env _ connections) w begun

end PaymentsPlatform.Orchestration
