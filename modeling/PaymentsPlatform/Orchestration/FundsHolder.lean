/- layer: results about everything that writes a payment
   digest: Whether a stored payment that holds or has taken funds has an attempt that succeeded. -/

import PaymentsPlatform.Orchestration.Resolution
import PaymentsPlatform.Webhook.Transitions

namespace PaymentsPlatform.Orchestration

open Gateways Lib.Procedure Payments
open Shared (StateMachine)
open Storage (Row Tx)
open Webhook (InboundWebhook ProcessEnv Processor Moved accepts loaded undisturbed)

inductive DispatchEnv.Uses (env : DispatchEnv) : Tx → Prop
  | intent (n : Nat) : env.Uses (env.attempts n).intentTx
  | outcome (n : Nat) : env.Uses (env.attempts n).outcomeTx
  | reload (n : Nat) : env.Uses (env.attempts n).reloadTx
  | final : env.Uses env.finalTx

/-- The rows that creating a payment, dispatching it, admitted notifications about it and the sweep
persist, in whatever order and however they overlap: a transaction may find any persisted row in
place of the one it was begun on. -/
inductive Persisted (admitted : Payment → WebhookEvent → Prop) : Row → Prop
  | created {params : NewPaymentParams} {id : PaymentID} {now : Time} {p : Payment}
      (new : Payment.new params id now = .ok p) : Persisted admitted (Row.of p)
  | dispatched {o : Orchestrator} {din : DispatchInput} {env : DispatchEnv} {row row' : Row}
      {p : Payment} (start : Persisted admitted row) (read : row.payment.rehydrate = .ok p)
      (found : ∀ tx, env.Uses tx → ∀ r, tx.others r ≠ r → Persisted admitted (tx.others r))
      (stored : .stored row' ∈ (dispatch o din env { pay := p, row := row, log := [] }).1.log) :
      Persisted admitted row'
  | notified {p : Processor} {env : ProcessEnv} {w : InboundWebhook} {s : Webhook.Store}
      {id : PaymentID} {row row' : Row} (start : Persisted admitted row)
      (here : s.payments id = some row)
      (comes : ∀ e, p.reverify w = .ok e → e.paymentID = id → admitted row.payment e)
      (stored : (p.finish env w s).1.payments id = some row') : Persisted admitted row'
  | swept {r : Reconciler} {env : ReconcileEnv} {row row' : Row} {p : Payment}
      (start : Persisted admitted row) (read : row.payment.rehydrate = .ok p)
      (found : ∀ tx, tx = env.outcomeTx ∨ tx = env.exceptionTx → ∀ r, tx.others r ≠ r →
        Persisted admitted (tx.others r))
      (stored : .stored row' ∈ (resolveOne r env { pay := p, row := row, log := [] }).1.log) :
      Persisted admitted row'

/-- A notification that would authorize or capture the payment finds an attempt that
succeeded. -/
def Backed (pay : Payment) (e : WebhookEvent) : Prop :=
  e.kind = .authorizationSucceeded ∨ e.kind = .captureSucceeded → accepts pay e = true →
    pay.successfulAttempt.isSome = true

def holdsFunds : State → Bool
  | .authorized | .captured | .settled | .partiallyRefunded | .refunded | .disputed => true
  | _ => false

def Succeeded (attempts : List Attempt) : Prop := ∃ a ∈ attempts, a.outcome = .success

def Funded (k : Core) : Prop := holdsFunds k.state = true → Succeeded k.attempts

theorem successfulAttempt_isSome_iff (p : Payment) :
    p.successfulAttempt.isSome = true ↔ Succeeded p.attempts := by
  simp [Payment.successfulAttempt, Succeeded, List.find?_isSome]

theorem holdsFunds_of_edge {src dst : State} (edge : machine.canTransition src dst = true)
    (holds : holdsFunds dst = true) (later : dst ≠ .authorized ∧ dst ≠ .captured) :
    holdsFunds src = true := by
  cases src <;> cases dst <;> simp_all [holdsFunds, StateMachine.canTransition, machine]

theorem Succeeded.set {attempts : List Attempt} {i : Nat} {a a' : Attempt} {c : AttemptCall}
    (h : Succeeded attempts) (found : attempts[i]? = some a) (applied : c.apply a = .ok a') :
    Succeeded (attempts.set i a') := by
  obtain ⟨b, mem, success⟩ := h
  obtain ⟨bound, here⟩ := List.getElem?_eq_some_iff.mp found
  obtain ⟨j, bound', there⟩ := List.mem_iff_getElem.mp mem
  by_cases same : i = j
  · subst same
    have outcome : a.outcome = .success := by rw [← here, there, success]
    exact ⟨a', List.mem_set bound a', success_stays applied outcome⟩
  · refine ⟨b, ?_, success⟩
    refine List.mem_iff_getElem.mpr ⟨j, by simpa using bound', ?_⟩
    rw [List.getElem_set_ne same, there]

theorem Funded.effect {k k' : Core} {c : Call} (h : Payments.Effect k c k') (funded : Funded k)
    (plain : Call.grants c = false) : Funded k' := by
  cases h with
  | keep => exact funded
  | start =>
    intro holds
    obtain ⟨a, mem, success⟩ := funded holds
    exact ⟨a, List.mem_append_left _ mem, success⟩
  | move named edge =>
    rename_i c dst
    have later : dst ≠ .authorized ∧ dst ≠ .captured := by
      cases c <;> simp_all [PaymentCall.targets]
    exact fun holds => funded (holdsFunds_of_edge edge holds later)
  | resolve named disputed => exact fun _ => funded (by rw [disputed]; rfl)
  | fail => exact fun holds => by cases holds
  | authorize | capture => cases plain
  | openRefund | confirmRefused | refund => exact funded
  | confirm found submitted succeeded amount sum currency comparable edge =>
    refine fun holds => funded (holdsFunds_of_edge edge holds ?_)
    unfold Payment.refundedState
    split <;> exact ⟨by decide, by decide⟩
  | attempt found applied => exact fun holds => (funded holds).set found applied

/-- What the other writers leave has its successful attempt. -/
def Sound (tx : Tx) : Prop := ∀ r : Row, tx.others r ≠ r → Funded (tx.others r).payment.core

variable {tx : Tx}

theorem Sound.others (sound : Sound tx) {r : Row} (h : Funded r.payment.core) :
    Funded (tx.others r).payment.core := by
  by_cases same : tx.others r = r
  · rw [same]
    exact h
  · exact sound r same

structure Funding (w : World) : Prop where
  held : Funded w.pay.core
  row : Funded w.row.payment.core
  saved : ∀ row, Effect.stored row ∈ w.log → Funded row.payment.core

variable {w : World}

theorem Funding.emit (h : Funding w) {e : Effect} (unsaved : e.isStored = false) :
    Funding (w.emit e) := by
  refine ⟨h.held, h.row, fun row mem => ?_⟩
  rcases List.mem_append.mp mem with before | new
  · exact h.saved row before
  · rw [← List.mem_singleton.mp new] at unsaved
    cases unsaved

theorem Funding.saving {w w' : World} (h : Funding w) (sound : Sound tx)
    (saved : Saved tx w w') : Funding w' := by
  obtain ⟨core, ⟨row, log⟩ | ⟨-, row, notes, log, silent⟩⟩ := saved
  · refine ⟨core ▸ h.held, ?_, log ▸ h.saved⟩
    rcases row with row | row
    · rw [row]
      exact h.row
    · rw [row]
      exact sound.others h.row
  · have stored : Funded (Row.of w.pay).payment.core := h.held
    refine ⟨core ▸ h.held, row ▸ stored, fun row' mem => ?_⟩
    rw [log] at mem
    rcases List.mem_append.mp mem with before | here
    · exact h.saved row' before
    · rcases List.mem_cons.mp here with same | note
      · cases same
        exact stored
      · cases silent _ note

theorem Funding.reload (h : Funding w) (sound : Sound tx) : Funding (reload tx w).1 := by
  obtain ⟨row, left, same⟩ := reload_leaves tx w
  rw [left]
  refine ⟨h.held, ?_, h.saved⟩
  rcases same with rfl | rfl
  · exact h.row
  · exact sound.others h.row

def FundingAfter (earlier : List Attempt) (w : World) : Prop :=
  (∃ a, w.pay.attempts = earlier ++ [a]) ∧ Funding w

def FundingFrom (earlier : List Attempt) (w : World) : Prop :=
  (∃ a, w.pay.attempts = earlier ++ [a] ∧ a.outcome = .success) ∧ Funding w

theorem Funding.invoke (h : Funding w) (c : Call)
    (after : Funded (c.apply w.pay).1.core) : Funding (invoke c w).1 := ⟨after, h.row, h.saved⟩

theorem succeed_ok {a a' : Attempt} {gatewayRef rawStatus : String} {now : Time}
    (h : (AttemptCall.succeed gatewayRef rawStatus now).apply a = .ok a') : a'.outcome = .success := by
  rcases AttemptCall.outcome_of_apply h with ⟨target, -⟩ | ⟨o, target, outcome, -⟩
  · cases target
  · cases target
    exact outcome

theorem settlesVia_funding (earlier : List Attempt) :
    SettlesVia Sound earlier.length (FundingAfter earlier) (FundingFrom earlier) := by
  have saving : ∀ {tx : Tx} {c : Proc Unit}, Sound tx → (∀ w, Saved tx w (c w).1) →
      Keeps (FundingAfter earlier) c := by
    refine fun sound saves => Keeps.iff_state.mpr ?_
    rintro w ⟨⟨a, newest⟩, funding⟩
    have saved := saves w
    exact ⟨⟨a, (congrArg Core.attempts saved.1).trans newest⟩, funding.saving sound saved⟩
  refine ⟨?_, ?_, ?_, ?_, fun sound => saving sound (saved_store _),
    fun sound action => saving sound (saved_commit _ _ action), ?_⟩
  · intro e note
    refine Triple.modify fun w ⟨newest, funding⟩ => ⟨newest, funding.emit ?_⟩
    cases e <;> first | rfl | cases note
  · intro c settling plain
    refine Keeps.iff_state.mpr ?_
    rintro w ⟨⟨a, newest⟩, funding⟩
    have after := funding.invoke c (Funded.effect (c.effect w.pay) funding.held plain)
    refine ⟨?_, after⟩
    cases c with
    | refund => cases settling
    | payment => exact ⟨a, (attempts_of_settling settling w.pay).trans newest⟩
    | attempt i c =>
      obtain rfl : i = earlier.length := by simpa [Call.settling] using settling
      rcases invoke_last newest c with ⟨e, -, ran⟩ | ⟨a', -, ran⟩
      · rw [ran]
        exact ⟨a, newest⟩
      · rw [ran]
        exact ⟨a', rfl⟩
  · rintro gatewayRef rawStatus now w ⟨⟨a, newest⟩, funding⟩
    have after := funding.invoke (.attempt earlier.length (.succeed gatewayRef rawStatus now))
      (Funded.effect (Call.effect w.pay _) funding.held rfl)
    rcases invoke_last newest (.succeed gatewayRef rawStatus now) with
      ⟨e, -, ran⟩ | ⟨a', applied, ran⟩
    · rw [ran]
      exact ⟨⟨a, newest⟩, funding⟩
    · rw [ran] at after ⊢
      exact ⟨⟨a', rfl, succeed_ok applied⟩, after⟩
  · intro c grants
    refine Triple.iff_state.mpr ?_
    rintro w ⟨⟨a, newest, success⟩, funding⟩
    have settling : Call.settling earlier.length (.payment c) = true := by
      cases c <;> first | rfl | cases grants
    have attempts : (c.apply w.pay).1.attempts = earlier ++ [a] :=
      (attempts_of_settling settling w.pay).trans newest
    refine ⟨⟨a, attempts⟩, funding.invoke (.payment c) fun _ => ⟨a, ?_, success⟩⟩
    show a ∈ (c.apply w.pay).1.attempts
    rw [attempts]
    simp
  · intro tx sound
    refine Keeps.iff_state.mpr ?_
    rintro w ⟨newest, funding⟩
    obtain ⟨row, left, -⟩ := reload_leaves tx w
    refine ⟨?_, funding.reload sound⟩
    rw [left]
    exact newest

theorem attemptingVia_funding {din : DispatchInput} {env : AttemptEnv} (gw : GatewayID)
    (sound : env.All Sound) :
    Attempting Sound din env gw Funding FundingAfter FundingFrom where
  kinds := sound
  emit _ unsaved := Triple.modify fun _ funding => funding.emit unsaved
  emitDuring _ _ unsaved := Triple.modify fun _ ⟨newest, funding⟩ => ⟨newest, funding.emit unsaved⟩
  start := by
    intro w funding
    unfold startAttempt
    rcases w.pay.startAttempt_cases gw din.plan.id din.operation env.seed env.startedAt with
      ⟨e, same⟩ | ⟨p', att, same, rfl, core, -⟩
    · rw [same]
      exact funding
    · rw [same]
      refine ⟨w.pay.attempts, rfl, ⟨_, congrArg Core.attempts core⟩, ?_, funding.row, funding.saved⟩
      show Funded p'.core
      rw [core]
      intro holds
      obtain ⟨a, mem, success⟩ := funding.held holds
      exact ⟨a, List.mem_append_left _ mem, success⟩
  settles := settlesVia_funding
  finish _ _ h := h.2

theorem dispatch_funding (o : Orchestrator) (din : DispatchInput) {env : DispatchEnv}
    (sound : ∀ tx, env.Uses tx → Sound tx) : Keeps Funding (dispatch o din env) := by
  refine keeps_dispatch (fun n gw => (attemptingVia_funding gw ?_).attemptOnce o)
    (Keeps.iff_state.mpr fun w funding => funding.reload (sound _ .final))
  exact ⟨sound _ (.intent n), sound _ (.outcome n), sound _ (.reload n)⟩

/-! What a notification and the sweep keep. -/

theorem Funded.moved {pay : Payment} {e : WebhookEvent} {k : Core} (h : Moved pay e k)
    (accepted : accepts pay e = true) (backed : Backed pay e) (funded : Funded pay.core) :
    Funded k := by
  cases h with
  | idle => exact funded
  | authorize kind => exact fun _ => (successfulAttempt_isSome_iff pay).mp (backed (.inl kind) accepted)
  | capture kind => exact fun _ => (successfulAttempt_isSome_iff pay).mp (backed (.inr kind) accepted)
  | fail => exact fun holds => by cases holds
  | confirm kind found submitted succeeded amount same sum edge =>
    refine fun holds => funded (holdsFunds_of_edge edge holds ?_)
    unfold Payment.refundedState
    split <;> exact ⟨by decide, by decide⟩
  | move kind edge =>
    refine fun holds => funded (holdsFunds_of_edge edge holds ?_)
    rcases kind with ⟨-, rfl⟩ | ⟨-, rfl⟩ | ⟨-, rfl⟩ <;> exact ⟨by decide, by decide⟩
  | resolve kind disputed => exact fun _ => funded (by rw [Payment.core, disputed]; rfl)

theorem finish_funded {p : Processor} {env : ProcessEnv} {w : InboundWebhook} {s : Webhook.Store}
    {id : PaymentID} {row row' : Row} (funded : Funded row.payment.core)
    (here : s.payments id = some row)
    (backed : ∀ e, p.reverify w = .ok e → e.paymentID = id → Backed row.payment e)
    (stored : (p.finish env w s).1.payments id = some row') : Funded row'.payment.core := by
  have unmoved : s.payments id = some row' → Funded row'.payment.core := by
    intro same
    cases here.symm.trans same
    exact funded
  rcases p.finish_cases env w s with ⟨⟨payments, -⟩, -⟩ | ⟨e, left, verified, applied, ⟨payments, -⟩⟩
  · exact unmoved (payments ▸ stored)
  · rw [payments] at stored
    cases applied with
    | ignored | parked | refused | unmoved => exact unmoved stored
    | recorded named read accepted =>
      rename_i pay moved books
      dsimp only at stored
      by_cases other : e.paymentID = id
      · subst other
        rw [Function.update_self] at stored
        cases stored
        obtain ⟨source, found, -, rfl⟩ := Webhook.getForUpdate_some read
        cases here.symm.trans found
        obtain ⟨-, p', err, refused⟩ | ⟨admits, p', ended, after⟩ :=
          Webhook.transition_spec env (loaded row) e
        · cases accepted.symm.trans refused
        cases accepted.symm.trans ended
        exact Funded.moved after admits (backed e verified rfl) funded
      · rw [Function.update_of_ne (Ne.symm other)] at stored
        exact unmoved stored

theorem advance_funded (env : ReconcileEnv) (i : Nat) (resp : Spi.Result)
    (funding : Funding w) : Funding (advance env i resp w).1 := by
  have plain : ∀ c : PaymentCall, PaymentCall.grants c = false →
      Funding (ignoring (fun _ => true) (invoke (.payment c)) w).1 := by
    intro c plain
    rw [ignoring_invoke]
    exact funding.invoke (.payment c) (Funded.effect (Call.effect w.pay _) funding.held plain)
  have granted : ∀ (c : PaymentCall) (a : Attempt), PaymentCall.grants c = true →
      w.pay.attempts[i]? = some a → a.outcome = .success →
      Funding (ignoring (fun _ => true) (invoke (.payment c)) w).1 := by
    intro c a grants found success
    rw [ignoring_invoke]
    refine funding.invoke (.payment c) fun _ => ⟨a, ?_, success⟩
    have settling : Call.settling 0 (.payment c) = true := by
      cases c <;> first | rfl | cases grants
    show a ∈ (c.apply w.pay).1.attempts
    rw [attempts_of_settling settling w.pay]
    exact List.mem_of_getElem? found
  unfold advance
  rw [bind_read]
  cases found : w.pay.attempts[i]? with
  | none => exact funding
  | some a =>
    dsimp only
    split
    · rename_i success
      exact granted _ a rfl found success.1
    split
    · rename_i success
      exact granted _ a rfl found success.1
    split
    · exact plain _ rfl
    · exact funding

theorem openException_funding (sound : Sound tx) (att : Attempt) (kind detail : String)
    (funding : Funding w) : Funding (openException tx att kind detail w).1 := by
  obtain ⟨pay, row, more, log, quiet⟩ := untouched_openException tx att kind detail w
  refine ⟨pay ▸ funding.held, ?_, fun row' mem => ?_⟩
  · rcases row with row | row
    · rw [row]
      exact funding.row
    · rw [row]
      exact sound.others funding.row
  · rw [log] at mem
    rcases List.mem_append.mp mem with before | new
    · exact funding.saved row' before
    · cases quiet _ new

theorem resolveOne_funding (r : Reconciler) {env : ReconcileEnv} (sound : Sound env.outcomeTx)
    (sound' : Sound env.exceptionTx) : Keeps Funding (resolveOne r env) := by
  have excepted : ∀ att kind detail, Keeps Funding (do
      openException env.exceptionTx att kind detail
      pure false : Proc Bool) := fun att kind detail =>
    Keeps.bind (Keeps.iff_state.mpr fun w => openException_funding sound' att kind detail)
      fun _ => Keeps.pure
  unfold resolveOne
  refine Keeps.read.bind fun pay => ?_
  split
  · exact Keeps.pure
  refine Keeps.bind (Triple.ofExcept (fun _ _ _ h => h) fun _ _ h => h) fun account => ?_
  refine Keeps.bind (Triple.modify fun w funding => funding.emit rfl) fun _ => ?_
  split
  · split
    · exact excepted _ _ _
    · refine Keeps.bind (Keeps.iff_state.mpr fun w funding =>
        funding.invoke _ (Funded.effect (Call.effect w.pay _) funding.held rfl)) fun _ => ?_
      refine Keeps.bind (Keeps.iff_state.mpr fun w => advance_funded env _ _) fun _ => ?_
      exact Keeps.bind (Keeps.iff_state.mpr fun w funding =>
        funding.saving sound (saved_commit _ _ _ w)) fun _ => Keeps.pure
  · exact excepted _ _ _

theorem Funding.start {row : Row} {p : Payment} (funded : Funded row.payment.core)
    (read : row.payment.rehydrate = .ok p) : Funding { pay := p, row := row, log := [] } := by
  have same : p.core = row.payment.core := by
    unfold Payment.rehydrate at read
    split_ifs at read
    cases read
    rfl
  exact ⟨same ▸ funded, funded, fun row' mem => by cases mem⟩

theorem Persisted.funded {row : Row} (h : Persisted Backed row) : Funded row.payment.core := by
  induction h with
  | created new =>
    obtain ⟨-, cm, payload, same⟩ := Payment.new_ok new
    intro holds
    rw [same] at holds
    cases holds
  | dispatched start read found stored funded sound =>
    exact (Keeps.iff_state.mp (dispatch_funding _ _ fun tx uses r => sound tx uses r) _
      (Funding.start funded read)).saved _ stored
  | notified start here comes stored funded => exact finish_funded funded here comes stored
  | swept start read found stored funded sound =>
    exact (Keeps.iff_state.mp (resolveOne_funding _ (fun r => sound _ (.inl rfl) r)
      fun r => sound _ (.inr rfl) r) _ (Funding.start funded read)).saved _ stored

/-- Where notifications authorize or capture only payments that have a successful attempt, every
persisted payment that is AUTHORIZED, CAPTURED or SETTLED has one. -/
theorem successfulAttempt_of_persisted {row : Row} (h : Persisted Backed row)
    (state : row.payment.state ∈ [State.authorized, .captured, .settled]) :
    row.payment.successfulAttempt.isSome = true := by
  refine (successfulAttempt_isSome_iff _).mpr (h.funded ?_)
  simp only [List.mem_cons, List.not_mem_nil, or_false] at state
  show holdsFunds row.payment.state = true
  rcases state with state | state | state <;> rw [state] <;> rfl

/-- Dispatched once, with the gateway's answer, and nobody else writing. -/
def answeredWith (answer : Spi.Answer) : World :=
  (dispatch sampleOrchestrator sampleInput
    { attempts := fun n => sampleAttempt n answer, finalTx := Tx.undisturbed }
    { pay := (Row.of manualPayment).payment, row := Row.of manualPayment, log := [] }).1

theorem persisted_answeredWith (admitted : Payment → WebhookEvent → Prop) {answer : Spi.Answer}
    (stored : .stored (answeredWith answer).row ∈ (answeredWith answer).log) :
    Persisted admitted (answeredWith answer).row := by
  have created : Persisted admitted (Row.of manualPayment) :=
    .created (show Payment.new manualParams "pay_1" 0 = .ok manualPayment by decide +kernel)
  refine .dispatched created (show (Row.of manualPayment).payment.rehydrate = .ok _ from rfl) ?_ stored
  intro tx uses r written
  cases uses <;> exact absurd rfl written

def lateAuthorization : WebhookEvent :=
  { Webhook.lateFailure with
    kind := .authorizationSucceeded, status := .authorized, amount := some ⟨1000, "USD"⟩ }

/-- The gateway's answer, followed by a notification. -/
def reported (answer : Spi.Answer) (e : WebhookEvent) : Option Row :=
  ((Webhook.reading e).finish (undisturbed fun _ => Ledger.sampleDraws) (Webhook.received "stripe")
    (Webhook.holding "pay_1" (answeredWith answer).row (Webhook.received "stripe"))).1.payments "pay_1"

theorem successfulAttempt_captured :
    ∃ row, Persisted Backed row ∧ row.payment.state = .captured ∧
      row.payment.successfulAttempt.isSome = true := by
  have authorized := persisted_answeredWith Backed
    (show .stored (answeredWith (sampleAnswer .authorized .unset)).row ∈
      (answeredWith (sampleAnswer .authorized .unset)).log from
        List.mem_of_getElem? (i := 5) rfl)
  have shown : ((reported (sampleAnswer .authorized .unset) { lateAuthorization with
      kind := .captureSucceeded, status := .captured }).any
        fun row => row.payment.state == .captured) = true := by
    decide +kernel
  obtain ⟨row, stored, state⟩ := (Option.any_eq_true _ _).mp shown
  have persisted : Persisted Backed row := .notified authorized (Webhook.payments_holding _ _ _)
    (fun _ _ _ _ _ => by decide +kernel) stored
  rw [beq_iff_eq] at state
  exact ⟨row, persisted, state, successfulAttempt_of_persisted persisted (by rw [state]; decide)⟩

/-- An authorization that times out and is then reported by the gateway leaves an AUTHORIZED
payment that nothing can capture or void. -/
theorem not_successfulAttempt_authorizedLate :
    ∃ row, Persisted (fun _ _ => True) row ∧ row.payment.state = .authorized ∧
      row.payment.successfulAttempt = none := by
  have unknown := persisted_answeredWith (fun _ _ => True)
    (show .stored (answeredWith unknownAnswer).row ∈ (answeredWith unknownAnswer).log from
      List.mem_of_getElem? (i := 5) rfl)
  have shown : ((reported unknownAnswer lateAuthorization).any fun row =>
      row.payment.state == .authorized && row.payment.successfulAttempt.isNone) = true := by
    decide +kernel
  obtain ⟨row, stored, wrong⟩ := (Option.any_eq_true _ _).mp shown
  simp only [Bool.and_eq_true, beq_iff_eq, Option.isNone_iff_eq_none] at wrong
  exact ⟨row, .notified unknown (Webhook.payments_holding _ _ _) (fun _ _ _ => trivial) stored, wrong⟩

end PaymentsPlatform.Orchestration
