/- layer: safety of the dispatch loop
   digest: When a second gateway may be asked to authorize a payment, and what the repository is handed
     against the unique index on successful attempts. -/

import PaymentsPlatform.Orchestration.Rules

namespace PaymentsPlatform.Orchestration

open Gateways Lib.Procedure Payments
open Lib (Procedure)
open Storage (Row Tx)

def definiteNo (a : Attempt) : Bool :=
  (a.outcome == .declined || a.outcome == .error) && a.permitsFailover

def answeredNo (attempts : List Attempt) (i : Nat) : Bool := (attempts[i]?).any definiteNo

/-- Whenever an Authorize call follows another, the earlier one was answered with a
definite no. -/
def FailsOverAfterNo (w : World) : Prop :=
  w.calls.Pairwise fun earlier _ => answeredNo w.pay.attempts earlier = true

instance (w : World) : Decidable (FailsOverAfterNo w) := by
  unfold FailsOverAfterNo
  infer_instance

/-- The gateway has accepted the payment and will say later what became of it. -/
def AttemptEnv.answersLater (env : AttemptEnv) : Prop :=
  env.answer.callErr = none ∧
    ∃ resp, env.answer.resp = some resp ∧
      (resp.status = .pending ∨ resp.status = .requiresAction)

/-- The recording transaction reaches the row with nobody else writing, its commit is not
left in doubt, and the payment can be read back. -/
structure AttemptEnv.Records (env : AttemptEnv) : Prop where
  begins : env.outcomeTx.beginErr = none
  alone : env.outcomeTx.others = id
  attempt : env.outcomeTx.saveAttemptErr = none
  updates : env.outcomeTx.updateErr = none
  certain : ∀ e, env.outcomeTx.commitEnd ≠ .unacknowledged e
  readBegins : env.reloadTx.beginErr = none
  readAlone : env.reloadTx.others = id
  reads : env.reloadTx.readErr = none
  readEnds : env.reloadTx.commitEnd = .acknowledged

/-- Every answer that is still to come is recorded, and from then on nobody else writes
the payment before the run stores its next intent. -/
def LateAnswersRecorded (env : Nat → AttemptEnv) : Prop :=
  ∀ n, (env n).answersLater →
    (env n).Records ∧ ∀ m, n < m → (env m).intentTx.others = id

/-! What keeps a payment from being attempted again. -/

/-- `StartAttempt` refuses an authorization on such a payment. -/
def Blocked (k : Core) : Prop :=
  k.state.isTerminal = true ∨
    ∃ a ∈ k.attempts, a.outcome = .success ∨ a.outcome = .timeoutUnknown

/-- The payment in memory believes in a version the row never reached, so no intent can
be stored from the `n`-th attempt on. -/
def Stuck (env : Nat → AttemptEnv) (n : Nat) (w : World) : Prop :=
  w.row.payment.version < w.pay.baseVersion ∧ ∀ m, n ≤ m → (env m).intentTx.others = id

/-- The newest attempt satisfies `A`, the earlier ones are as given, and the state
satisfies `S`. -/
def Newest (earlier : List Attempt) (A : Attempt → Prop) (S : State → Prop) (k : Core) : Prop :=
  (∃ a, k.attempts = earlier ++ [a] ∧ A a) ∧ S k.state

def Awaiting (a : Attempt) : Prop := a.outcome = .dispatched ∧ a.networkAdviceNoRetry = false

theorem answeredNo_append {attempts : List Attempt} {i : Nat} (h : answeredNo attempts i = true)
    (more : List Attempt) : answeredNo (attempts ++ more) i = true := by
  unfold answeredNo at h ⊢
  cases found : attempts[i]? with
  | none => simp [found] at h
  | some =>
    have inside : i < attempts.length := by
      by_contra outside
      rw [List.getElem?_eq_none (by omega)] at found
      cases found
    rw [List.getElem?_append_left inside]
    exact h

theorem blocked_of_newest {earlier : List Attempt} {A : Attempt → Prop} {S : State → Prop}
    {k : Core} (h : Newest earlier A S k)
    (moved : ∀ a, A a → a.outcome = .success ∨ a.outcome = .timeoutUnknown) : Blocked k := by
  obtain ⟨⟨a, same, holds⟩, -⟩ := h
  exact .inr ⟨a, by simp [same], moved a holds⟩

section Settling

variable {earlier : List Attempt} {A B : Attempt → Prop} {S : State → Prop}

theorem triple_invoke_newest {c : AttemptCall} {E : GoError → World → Prop}
    (h : ∀ a, A a → ∃ a', c.apply a = .ok a' ∧ B a') :
    Triple (Shows (Newest earlier A S)) (invoke (.attempt earlier.length c))
      (fun _ => Shows (Newest earlier B S)) E := by
  rintro w ⟨⟨a, same, holds⟩, state⟩
  obtain ⟨a', applied, holds'⟩ := h a holds
  rcases invoke_last same c with ⟨e, refused, -⟩ | ⟨b, accepted, ran⟩
  · rw [applied] at refused
    cases refused
  · rw [applied] at accepted
    cases accepted
    rw [ran]
    exact ⟨⟨a', rfl, holds'⟩, state⟩

theorem triple_invoke_payment {c : PaymentCall}
    (h : ∀ gw plan op seed now, c ≠ .startAttempt gw plan op seed now) :
    Triple (Shows (Newest earlier A S)) (invoke (.payment c))
      (fun _ => Shows (Newest earlier A fun _ => True))
      (fun _ => Shows (Newest earlier A fun _ => True)) := by
  refine triple_invoke fun k k' holds effect => ?_
  cases effect with
  | start => exact absurd rfl (h _ _ _ _ _)
  | keep | move | resolve | fail | authorize | capture | openRefund | confirm | confirmRefused =>
    exact ⟨holds.1, trivial⟩

theorem accepted {a : Attempt} {o : AttemptOutcome} (f : Attempt)
    (edge : attemptMachine.canTransition a.outcome o = true) :
    ((attemptMachine.transition a.outcome o).map fun _ => f) = .ok f := by
  rw [(attemptMachine.transition_ok_iff _ _).mpr edge]
  rfl

theorem awaiting_edge {a : Attempt} (h : Awaiting a) {o : AttemptOutcome}
    (resolved : o = .success ∨ o = .declined ∨ o = .error ∨ o = .timeoutUnknown) :
    attemptMachine.canTransition a.outcome o = true := by
  rw [h.1]
  rcases resolved with rfl | rfl | rfl | rfl
  · decide
  · decide
  · decide
  · decide

variable {sin : SettleInput}

theorem settleUnknown_blocks (env : AttemptEnv)
    (at_ : sin.index = earlier.length) (message reason : String) :
    Triple (Shows (Newest earlier Awaiting S)) (settleUnknown env sin message reason)
      (fun _ => Shows (Newest earlier (·.outcome = .timeoutUnknown) fun _ => True))
      (fun _ => Shows (Newest earlier (·.outcome = .timeoutUnknown) fun _ => True)) := by
  unfold settleUnknown
  rw [at_]
  refine Triple.bind (triple_emit _) fun _ => ?_
  refine Triple.bind (triple_invoke_newest (B := (·.outcome = .timeoutUnknown)) fun a waiting => ?_) fun _ => ?_
  · exact ⟨_, accepted _ (awaiting_edge waiting (by simp)), rfl⟩
  refine Triple.bind (triple_invoke_payment (fun _ _ _ _ _ => nofun)) fun _ => ?_
  exact (keeps_commit _ _ _).bind fun _ => keeps_reloadResult _ _ _

theorem settleSuccess_blocks (env : AttemptEnv)
    (at_ : sin.index = earlier.length) (key gatewayRef rawStatus action : String)
    (mark : Payment → PaymentCall)
    (starts : ∀ p gw plan op seed now, mark p ≠ .startAttempt gw plan op seed now) :
    Triple (Shows (Newest earlier Awaiting S))
      (do
        emit (.record key true true)
        invoke (.attempt sin.index (.succeed gatewayRef rawStatus env.now))
        let pay ← read World.pay
        invoke (.payment (mark pay))
        commit env.outcomeTx sin.index action
        reloadResult env.reloadTx sin.plan none)
      (fun _ => Shows (Newest earlier (·.outcome = .success) fun _ => True))
      (fun _ => Shows (Newest earlier (·.outcome = .success) fun _ => True)) := by
  rw [at_]
  refine Triple.bind (triple_emit _) fun _ => ?_
  refine Triple.bind (triple_invoke_newest (B := (·.outcome = .success)) fun a waiting => ?_) fun _ => ?_
  · exact ⟨_, accepted _ (awaiting_edge waiting (by simp)), rfl⟩
  refine Triple.bind Triple.reading fun pay => ?_
  refine Triple.bind (triple_invoke_payment (starts pay)) fun _ => ?_
  exact (keeps_commit _ _ _).bind fun _ => keeps_reloadResult _ _ _

theorem settleError_definite (env : AttemptEnv)
    (at_ : sin.index = earlier.length) (callErr : GoError) :
    Triple (Shows (Newest earlier Awaiting S)) (settleError env sin callErr)
      (fun _ => Shows (Newest earlier (definiteNo · = true) S))
      (fun _ => Shows (Newest earlier (definiteNo · = true) S)) := by
  unfold settleError
  rw [at_]
  refine Triple.bind (triple_emit _) fun _ => ?_
  refine Triple.bind (triple_invoke_newest (B := (definiteNo · = true)) fun a waiting => ?_) fun _ => ?_
  · refine ⟨_, accepted _ (awaiting_edge waiting (by simp)), ?_⟩
    simp [definiteNo, Attempt.permitsFailover, Attempt.resolve, waiting.2]
  exact (keeps_commit _ _ _).bind fun _ => Keeps.read.bind fun _ => Keeps.pure

/-- The newest attempt has ended in a definite no, or the payment is closed to further
authorizations. -/
def Answered (earlier : List Attempt) (k : Core) : Prop :=
  Newest earlier (definiteNo · = true) (· = .processing) k ∨
    ((∃ a, k.attempts = earlier ++ [a]) ∧ Blocked k)

theorem answered_of_newest {k : Core} (h : Newest earlier A S k)
    (moved : ∀ a, A a → a.outcome = .success ∨ a.outcome = .timeoutUnknown) :
    Answered earlier k :=
  .inr ⟨h.1.imp fun _ found => found.1, blocked_of_newest h moved⟩

theorem triple_markFailed (reason : DeclineReason) (detail : String) (now : Time) :
    Triple (Shows (Newest earlier A (· = .processing)))
      (invoke (.payment (.markFailed reason detail now)))
      (fun _ => Shows (Answered earlier)) (fun _ => Shows (Answered earlier)) := by
  rintro w ⟨⟨a, same, -⟩, processing⟩
  have edge : machine.canTransition w.pay.state .failed = true := by
    rw [show w.pay.state = .processing from processing]
    decide
  have ran : invoke (.payment (.markFailed reason detail now)) w =
      ({ w with pay := (w.pay.markFailed reason detail now).1 },
        (w.pay.markFailed reason detail now).2) := rfl
  rw [ran]
  unfold Payment.markFailed
  by_cases waiting : w.pay.hasUnresolvedAttempt
  · rw [if_pos waiting]
    refine .inr ⟨⟨a, same⟩, .inr ?_⟩
    by_contra resolved
    push Not at resolved
    have none_waiting := w.pay.hasUnresolvedAttempt_eq_false.mpr fun b member =>
      (resolved b member).2
    rw [none_waiting] at waiting
    cases waiting
  · rw [if_neg waiting, Payment.transition_of_edge edge]
    exact .inr ⟨⟨a, same⟩, .inl (show State.failed.isTerminal = true by decide)⟩

theorem settleDeclined_answered (o : Orchestrator) (env : AttemptEnv)
    (at_ : sin.index = earlier.length) (resp : Spi.Result) :
    Triple (Shows (Newest earlier Awaiting (· = .processing))) (settleDeclined o env sin resp)
      (fun _ => Shows (Answered earlier)) (fun _ => Shows (Answered earlier)) := by
  unfold settleDeclined
  rw [at_]
  refine Triple.bind (triple_emit _) fun _ => ?_
  refine Triple.bind (triple_invoke_newest (B := (·.outcome = .declined)) fun a waiting => ?_)
    fun _ => ?_
  · exact ⟨_, accepted _ (awaiting_edge waiting (by simp)), rfl⟩
  refine Triple.bind
    (R := fun permits => Shows (Newest earlier
      (fun a => a.outcome = .declined ∧ a.permitsFailover = permits) (· = .processing)))
    (Triple.read ?_) fun permits => ?_
  · rintro w ⟨⟨a, same, declined⟩, state⟩
    refine ⟨⟨a, same, declined, ?_⟩, state⟩
    have newest : w.pay.attempts[sin.index]? = some a := by
      rw [show w.pay.attempts = earlier ++ [a] from same, at_]
      simp
    simp [SettleInput.permitsFailover, newest]
  dsimp only
  split_ifs with canFailover
  · have permitted : permits = true := by
      revert canFailover
      cases permits
      · exact fun h => h
      · exact fun _ => rfl
    subst permitted
    refine ((keeps_commit _ _ _).bind fun _ => Keeps.pure).weaken (fun _ h => h) ?_ ?_
    · intro _ w h
      refine .inl ⟨h.1.imp fun a found => ⟨found.1, ?_⟩, h.2⟩
      simp [definiteNo, found.2.1, found.2.2]
    · intro _ w h
      refine .inl ⟨h.1.imp fun a found => ⟨found.1, ?_⟩, h.2⟩
      simp [definiteNo, found.2.1, found.2.2]
  · refine Triple.bind (triple_markFailed _ _ _) fun _ => ?_
    exact (keeps_commit _ _ _).bind fun _ => keeps_reloadResult _ _ _

theorem commit_recorded {tx : Tx} {w : World} (i : Nat) (action : String)
    (begins : tx.beginErr = none) (alone : tx.others = id) (attempt : tx.saveAttemptErr = none)
    (updates : tx.updateErr = none) (certain : ∀ e, tx.commitEnd ≠ .unacknowledged e)
    (current : w.row.payment.version = w.pay.baseVersion) :
    (∃ w', commit tx i action w = (w', .ok ()) ∧ w'.row = Row.of w.pay) ∨
      ∃ w' e, commit tx i action w = (w', .error e) ∧ w'.row = w.row ∧
        w'.pay.baseVersion = w.pay.version := by
  have body : Triple (fun v => v.pay = w.pay ∧ v.row.payment.version = w.pay.baseVersion)
      (recordOutcome tx i action)
      (fun _ v => v.row = Row.of w.pay ∧ v.pay.baseVersion = w.pay.version)
      (fun _ v => v.pay.baseVersion = w.pay.version) := by
    refine Triple.bind (R := fun _ v => v.pay = w.pay ∧ v.row.payment.version = w.pay.baseVersion)
      ?_ fun _ => ?_
    · unfold saveAttempt
      rw [attempt]
      refine Triple.modify fun v h => ?_
      cases v.pay.attempts[i]? with
      | none | some => exact h
    refine Triple.bind (R := fun _ v => v.row = Row.of w.pay ∧ v.pay.baseVersion = w.pay.version)
      ?_ fun _ => ?_
    · rintro v ⟨same, found⟩
      have moved := Storage.save_current updates found
      unfold savePayment
      rw [same]
      rcases done : Storage.save tx w.pay v.row with ⟨pay, e | row⟩
      · rw [done] at moved
        exact moved
      · rw [done] at moved
        exact ⟨(Storage.save_ok done).2.2, moved⟩
    refine Triple.bind Triple.reading fun pay => ?_
    refine Triple.bind
      (R := fun _ v => v.row = Row.of w.pay ∧ v.pay.baseVersion = w.pay.version)
      (Triple.orFail (fun _ _ h => h) fun _ _ h => h.2) fun _ => ?_
    exact Triple.modify fun _ h => h
  have ran := body w ⟨rfl, current⟩
  unfold commit within
  rw [begins, alone]
  dsimp only [id]
  rcases done : recordOutcome tx i action w with ⟨v, e | u⟩
  · rw [done] at ran
    exact .inr ⟨_, e, rfl, rfl, ran⟩
  · rw [done] at ran
    cases ended : tx.commitEnd with
    | acknowledged => exact .inl ⟨v, rfl, ran.1⟩
    | unacknowledged e => exact absurd ended (certain e)
    | failed e => exact .inr ⟨_, e, rfl, rfl, ran.2⟩

def InStep (w : World) : Prop :=
  w.row.payment.version = w.pay.baseVersion ∧ w.pay.baseVersion = w.pay.version

/-- A recorded late answer ends the run, or leaves it unable to store another intent. -/
theorem settleLater_ends {env : Nat → AttemptEnv} {n : Nat}
    (records : (env n).Records) (quiet : ∀ m, n < m → (env m).intentTx.others = id)
    {mark : PaymentCall} (dst : State) (evt : Option (EventType × Payload)) (now : Time)
    (marks : ∀ p, mark.apply p = p.transition dst evt now)
    (edge : machine.canTransition .processing dst = true) (known : dst.isKnown = true)
    (action : String) (next : Option Payment.NextAction) :
    Triple (fun w => Shows (Newest earlier A (· = .processing)) w ∧ InStep w)
      (settleLater (env n) sin mark action next)
      (fun r w => r.terminal = true ∧ ∃ a, w.pay.attempts = earlier ++ [a])
      (fun _ w => (∃ a, w.pay.attempts = earlier ++ [a]) ∧ Stuck env (n + 1) w) := by
  rintro w ⟨⟨⟨a, same, -⟩, processing⟩, current, level⟩
  have open_edge : machine.canTransition w.pay.state dst = true := by
    rw [show w.pay.state = .processing from processing]
    exact edge
  obtain ⟨p', moved, core, version, base⟩ := Payment.transition_moves open_edge evt now
  have attempts : p'.core.attempts = earlier ++ [a] := by rw [core]; exact same
  have state : p'.state = dst := congrArg Core.state core
  let marked : World := { w.emit (.record sin.breakerKey true true) with pay := p' }
  have marking : invoke (.payment mark) (w.emit (.record sin.breakerKey true true)) =
      (marked, .ok ()) := by
    show (({ w.emit (.record sin.breakerKey true true) with pay := (mark.apply w.pay).1 } : World),
      (mark.apply w.pay).2) = (marked, .ok ())
    rw [marks, moved]
  have held : Shows (fun k => k.attempts = earlier ++ [a]) marked := attempts
  have start : settleLater (env n) sin mark action next w =
      (do
        commit (env n).outcomeTx sin.index action
        reloadResult (env n).reloadTx sin.plan next) marked := by
    unfold settleLater
    rw [bind_emit, bind_of_ok marking]
  rw [start]
  have kept := keeps_commit (env n).outcomeTx sin.index action marked held
  rcases commit_recorded (w := marked) sin.index action records.begins records.alone records.attempt
    records.updates records.certain (base.symm ▸ current) with ⟨w', done, row⟩ | ⟨w', e, done, row, ahead⟩
  · rw [bind_of_ok done]
    rw [done] at kept
    obtain ⟨p, read⟩ := reload_of_known (w := w') records.readBegins records.readAlone records.reads
      records.readEnds (by rw [row]; exact state.symm ▸ known)
    rw [reloadResult, bind_of_ok read]
    exact ⟨rfl, a, kept⟩
  · rw [bind_of_error done]
    rw [done] at kept
    refine ⟨⟨a, kept⟩, ?_, fun m later => quiet m (by omega)⟩
    have behind : w'.row.payment.version = w.pay.version := by
      rw [row]
      exact current.trans level
    have one_up : w'.pay.baseVersion = w.pay.version + 1 := ahead.trans version
    rw [behind, one_up]
    exact Nat.lt_succ_self _

/-- How an answer leaves the payment: the run may end, the newest attempt may have ended in
a definite no, or no further Authorize call is possible. -/
def SettledBy (env : Nat → AttemptEnv) (n : Nat) (earlier : List Attempt) (w : World) : Prop :=
  Answered earlier w.pay.core ∨
    ((∃ a, w.pay.attempts = earlier ++ [a]) ∧ Stuck env (n + 1) w)

theorem settle_settled (o : Orchestrator) {env : Nat → AttemptEnv} (n : Nat)
    (at_ : sin.index = earlier.length) (recorded : LateAnswersRecorded env) :
    Triple (fun w => Shows (Newest earlier Awaiting (· = .processing)) w ∧ InStep w)
      (settle o (env n) sin)
      (fun r w => (r.terminal = true ∧ ∃ a, w.pay.attempts = earlier ++ [a]) ∨
        SettledBy env n earlier w)
      (fun _ w => SettledBy env n earlier w) := by
  have unknown : ∀ message reason,
      Triple (fun w => Shows (Newest earlier Awaiting (· = .processing)) w ∧ InStep w)
        (settleUnknown (env n) sin message reason)
        (fun r w => (r.terminal = true ∧ ∃ a, w.pay.attempts = earlier ++ [a]) ∨
          SettledBy env n earlier w)
        (fun _ w => SettledBy env n earlier w) := fun message reason =>
    (settleUnknown_blocks (env n) at_ message reason).weaken (fun _ h => h.1)
      (fun _ _ h => .inr (.inl (answered_of_newest h fun _ => .inr)))
      (fun _ _ h => .inl (answered_of_newest h fun _ => .inr))
  unfold settle
  split
  · exact unknown _ _
  · split
    · exact (settleError_definite (env n) at_ _).weaken (fun _ h => h.1)
        (fun _ _ h => .inr (.inl (.inl h))) (fun _ _ h => .inl (.inl h))
    · exact unknown _ _
    · rename_i resp noErr isResp
      refine Triple.bind Triple.reading fun pay => ?_
      split
      · exact unknown _ _
      · unfold settleStatus
        split
        · exact (settleSuccess_blocks (env n) at_ _ _ _ _ (fun p => .markAuthorized _ _ _)
            fun _ _ _ _ _ _ => nofun).weaken (fun _ h => h.1)
            (fun _ _ h => .inr (.inl (answered_of_newest h fun _ => .inl)))
            (fun _ _ h => .inl (answered_of_newest h fun _ => .inl))
        · exact (settleSuccess_blocks (env n) at_ _ _ _ _ (fun p => .markCaptured _ _)
            fun _ _ _ _ _ _ => nofun).weaken (fun _ h => h.1)
            (fun _ _ h => .inr (.inl (answered_of_newest h fun _ => .inl)))
            (fun _ _ h => .inl (answered_of_newest h fun _ => .inl))
        · rename_i status
          obtain ⟨records, quiet⟩ := recorded n ⟨noErr, resp, isResp, .inr status⟩
          exact (settleLater_ends records quiet .requiresAction
            (some (.requiresAction, [("actionType", .str (text (nextActionOf resp).type)),
              ("redirectUrl", .str (nextActionOf resp).redirectURL)]))
            (env n).mutatedAt (fun _ => rfl) (by decide) (by decide) _ _).weaken (fun _ h => h) (fun _ _ h => .inl h) (fun _ _ h => .inr h)
        · rename_i status
          obtain ⟨records, quiet⟩ := recorded n ⟨noErr, resp, isResp, .inl status⟩
          exact (settleLater_ends records quiet .pending none (env n).mutatedAt (fun _ => rfl)
            (by decide) (by decide) _ _).weaken (fun _ h => h) (fun _ _ h => .inl h) (fun _ _ h => .inr h)
        · exact (settleDeclined_answered o (env n) at_ resp).weaken (fun _ h => h.1)
            (fun _ _ h => .inr (.inl h)) (fun _ _ h => .inl h)
        · exact unknown _ _

end Settling

/-- The states in which a payment is about to be authorized. -/
def ready (s : State) : Bool := s == .created || s == .processing || s == .requiresAction

/-- Between two attempts: the calls follow the rule, and all were answered with a definite no or no
further one is possible. -/
def Between (env : Nat → AttemptEnv) (n : Nat) (w : World) : Prop :=
  FailsOverAfterNo w ∧
    ((ready w.pay.state = true ∧ ∀ j ∈ w.calls, answeredNo w.pay.attempts j = true) ∨
      Blocked w.pay.core ∨ Stuck env n w)

def Fresh (a : Attempt) : Prop := a.outcome = .pending ∧ a.networkAdviceNoRetry = false

/-- After `StartAttempt`, before anything was sent for the new attempt. -/
structure Started (env : Nat → AttemptEnv) (n : Nat) (earlier : List Attempt) (w : World) :
    Prop where
  newest : ∃ a, w.pay.attempts = earlier ++ [a] ∧ Fresh a
  past : w.calls.Pairwise fun j _ => answeredNo earlier j = true
  course : (ready w.pay.state = true ∧ ∀ j ∈ w.calls, answeredNo earlier j = true) ∨ Stuck env n w

/-- Once the intent is stored: the payment is processing and in step with its row, and
every call so far was answered with a definite no. -/
structure Cleared (earlier : List Attempt) (A : Attempt → Prop) (w : World) : Prop where
  newest : Shows (Newest earlier A (· = .processing)) w
  answered : ∀ j ∈ w.calls, answeredNo earlier j = true
  level : InStep w

section Attempting

variable {env : Nat → AttemptEnv} {n : Nat} {earlier : List Attempt} {w w' : World}

theorem Stuck.succ (h : Stuck env n w) : Stuck env (n + 1) w :=
  ⟨h.1, fun m later => h.2 m (by omega)⟩

theorem Between.succ (h : Between env n w) : Between env (n + 1) w :=
  ⟨h.1, h.2.imp_right fun shut => shut.imp_right Stuck.succ⟩

theorem calls_emit {e : Effect} (silent : e.called = none) : (w.emit e).calls = w.calls :=
  (noCall_emit w silent).calls

theorem Between.emit {e : Effect} (h : Between env n w) (silent : e.called = none) :
    Between env n (w.emit e) := by
  unfold Between FailsOverAfterNo
  rw [calls_emit silent]
  exact h

theorem Started.between (h : Started env n earlier w) : Between env (n + 1) w := by
  obtain ⟨a, same, -⟩ := h.newest
  refine ⟨?_, ?_⟩
  · unfold FailsOverAfterNo
    rw [same]
    exact h.past.imp fun answered => answeredNo_append answered [a]
  · rcases h.course with ⟨isReady, answered⟩ | stuck
    · refine .inl ⟨isReady, fun j called => ?_⟩
      rw [same]
      exact answeredNo_append (answered j called) [a]
    · exact .inr (.inr stuck.succ)

theorem startAttempt_started (din : DispatchInput) (authorizing : din.operation = .authorize)
    (gw : GatewayID) :
    Triple (Between env n) (startAttempt din (env n) gw)
      (fun att w => ∃ earlier, att.sequence - 1 = earlier.length ∧ Started env n earlier w)
      (fun _ => Between env (n + 1)) := by
  rintro w ⟨past, course⟩
  unfold startAttempt
  rcases w.pay.startAttempt_cases gw din.plan.id din.operation (env n).seed (env n).startedAt with
    ⟨e, same⟩ | ⟨p', att, same, rfl, core, base, alive, first, resolved⟩
  · rw [same]
    exact Between.succ ⟨past, course⟩
  · rw [same]
    have attempts := congrArg Core.attempts core
    have state : p'.state = w.pay.state := congrArg Core.state core
    refine ⟨w.pay.attempts, rfl, ⟨_, attempts, rfl, rfl⟩, past, ?_⟩
    rcases course with ⟨isReady, answered⟩ | blocked | stuck
    · exact .inl ⟨by rw [show _ = w.pay.state from state]; exact isReady, answered⟩
    · exfalso
      rcases blocked with terminal | ⟨a, member, success | unknown⟩
      · rw [show w.pay.core.state.isTerminal = w.pay.state.isTerminal from rfl, alive] at terminal
        cases terminal
      · exact first authorizing a member success
      · exact resolved a member unknown
    · exact .inr ⟨by rw [show _ = w.pay.baseVersion from base]; exact stuck.1, stuck.2⟩

variable {E : GoError → World → Prop}

theorem bindConnection_started (din : DispatchInput) (gw : GatewayID)
    :
    Triple (Started env n earlier) (bindConnection din gw earlier.length)
      (fun _ => Started env n earlier) E := by
  intro w started
  obtain ⟨a, same, fresh⟩ := started.newest
  obtain ⟨conn, ran⟩ := bindConnection_ok same din gw
  rw [ran]
  exact ⟨⟨_, rfl, fresh⟩, started.past, started.course⟩

private theorem processing_of_refused {s : State} (isReady : ready s = true)
    (refused : machine.canTransition s .processing = false) : s = .processing := by
  simp only [ready, Bool.or_eq_true, beq_iff_eq] at isReady
  rcases isReady with (rfl | rfl) | rfl
  · exact absurd refused (by decide)
  · rfl
  · exact absurd refused (by decide)

theorem markProcessing_started (now : Time) :
    Triple (Started env n earlier)
      (ignoring isSameState (invoke (.payment (.markProcessing now))))
      (fun _ w => Started env n earlier w ∧ (w.pay.state = .processing ∨ Stuck env n w))
      (fun _ => Started env n earlier) := by
  refine Triple.ignoring fun w started => ?_
  have ran : invoke (.payment (.markProcessing now)) w =
      ({ w with pay := (w.pay.transition .processing none now).1 },
        (w.pay.transition .processing none now).2) := rfl
  rw [ran]
  cases edge : machine.canTransition w.pay.state .processing with
  | true =>
    obtain ⟨p', moved, core, -, base⟩ := Payment.transition_moves edge none now
    rw [moved]
    have attempts : p'.attempts = w.pay.attempts := congrArg Core.attempts core
    have state : p'.state = .processing := congrArg Core.state core
    refine ⟨⟨?_, started.past, ?_⟩, .inl state⟩
    · rw [show _ = w.pay.attempts from attempts]
      exact started.newest
    · rcases started.course with ⟨-, answered⟩ | stuck
      · exact .inl ⟨by rw [show _ = State.processing from state]; decide, answered⟩
      · exact .inr ⟨by rw [show _ = w.pay.baseVersion from base]; exact stuck.1, stuck.2⟩
  | false =>
    have refused : ∃ e, w.pay.transition .processing none now = (w.pay, .error e) := by
      rcases w.pay.transition_cases .processing none now with ⟨-, refused⟩ | ⟨open_edge, -⟩
      · exact refused
      · rw [edge] at open_edge
        cases open_edge
    obtain ⟨e, same⟩ := refused
    rw [same]
    show if isSameState e = true then _ else _
    split_ifs
    · exact ⟨started, started.course.imp (fun h => processing_of_refused h.1 edge) fun h => h⟩
    · exact started

theorem Started.of_core (started : Started env n earlier w)
    (answered : ready w.pay.state = true ∧ ∀ j ∈ w.calls, answeredNo earlier j = true)
    (core : w'.pay.core = w.pay.core) (calls : w'.calls = w.calls) : Started env n earlier w' := by
  have attempts : w'.pay.attempts = w.pay.attempts := congrArg Core.attempts core
  have state : w'.pay.state = w.pay.state := congrArg Core.state core
  refine ⟨?_, ?_, .inl ?_⟩
  · rw [attempts]
    exact started.newest
  · rw [calls]
    exact started.past
  · rw [state, calls]
    exact answered

theorem saveIntent_cleared (tx : Tx) (intent : tx = (env n).intentTx) :
    Triple (fun w => Started env n earlier w ∧ (w.pay.state = .processing ∨ Stuck env n w))
      (within tx (savePayment tx)) (fun _ => Cleared earlier Fresh)
      (fun _ => Started env n earlier) := by
  rintro w ⟨started, course⟩
  have stuck_fails : Stuck env n w → ∃ e, within tx (savePayment tx) w = (w, .error e) :=
    fun stuck => within_savePayment_stale (intent ▸ stuck.2 n le_rfl) (ne_of_lt stuck.1)
  by_cases stuck : Stuck env n w
  · obtain ⟨e, same⟩ := stuck_fails stuck
    rw [same]
    exact started
  · have answered := started.course.resolve_right stuck
    have processing := course.resolve_right stuck
    have core := keeps_within (J := (· = w.pay.core)) tx (keeps_savePayment tx) w rfl
    have calls := (moves_within tx (moves_savePayment tx) w).calls
    rcases done : within tx (savePayment tx) w with ⟨w', e | u⟩
    · rw [done] at core calls
      exact started.of_core answered core calls
    · rw [done] at calls
      obtain ⟨-, rfl⟩ := within_savePayment_ok done
      exact ⟨⟨started.newest, processing⟩, by rw [calls]; exact answered.2, rfl, rfl⟩

theorem dispatch_newest {w : World} {earlier : List Attempt} {a : Attempt}
    (same : w.pay.attempts = earlier ++ [a]) (fresh : Fresh a) (now : Time) :
    ∃ a', Awaiting a' ∧ invoke (.attempt earlier.length (.dispatch now)) w =
      ({ w with pay := { w.pay with attempts := earlier ++ [a'] } }, .ok ()) := by
  have sent : (AttemptCall.dispatch now).apply a =
      .ok { a with outcome := .dispatched, dispatchedAt := some now, updatedAt := now } :=
    accepted _ (by rw [fresh.1]; decide)
  rcases invoke_last same (.dispatch now) with ⟨e, refused, -⟩ | ⟨a', ok, ran⟩
  · rw [sent] at refused
    cases refused
  · rw [sent] at ok
    cases ok
    refine ⟨_, ?_, ran⟩
    exact ⟨rfl, fresh.2⟩

theorem dispatchAttempt_awaiting (now : Time) :
    Triple (Cleared earlier Fresh) (invoke (.attempt earlier.length (.dispatch now)))
      (fun _ => Cleared earlier Awaiting) E := by
  rintro w ⟨⟨⟨a, same, fresh⟩, processing⟩, answered, level⟩
  obtain ⟨a', awaiting, ran⟩ := dispatch_newest same fresh now
  rw [ran]
  exact ⟨⟨⟨a', rfl, awaiting⟩, processing⟩, answered, level⟩

private theorem pairwise_concat {R : Nat → Prop} {calls : List Nat} (h : ∀ j ∈ calls, R j)
    (last : Nat) : (calls ++ [last]).Pairwise fun j _ => R j := by
  refine List.pairwise_append.mpr ⟨?_, List.pairwise_singleton _ _, fun j called _ _ => h j called⟩
  exact List.Pairwise.imp_of_mem (fun member _ _ => h _ member)
    (List.pairwise_of_forall fun _ _ => trivial)

theorem between_of_settled {calls : List Nat} (answered : ∀ j ∈ calls, answeredNo earlier j = true)
    (called : w.calls = calls ++ [earlier.length]) (settled : SettledBy env n earlier w) :
    Between env (n + 1) w := by
  have follows : ∀ a, w.pay.attempts = earlier ++ [a] → FailsOverAfterNo w := by
    intro a same
    unfold FailsOverAfterNo
    rw [called, same]
    exact pairwise_concat (fun j member => answeredNo_append (answered j member) [a]) _
  rcases settled with (⟨⟨a, same, no⟩, processing⟩ | ⟨⟨a, same⟩, blocked⟩) | ⟨⟨a, same⟩, stuck⟩
  · refine ⟨follows a same, .inl ⟨?_, ?_⟩⟩
    · rw [show w.pay.state = .processing from processing]
      decide
    · intro j member
      rw [called] at member
      rw [show w.pay.attempts = earlier ++ [a] from same]
      rcases List.mem_append.mp member with before | now
      · exact answeredNo_append (answered j before) [a]
      · rw [List.mem_singleton.mp now]
        simpa [answeredNo] using no
  · exact ⟨follows a same, .inr (.inl blocked)⟩
  · exact ⟨follows a same, .inr (.inr stuck)⟩

theorem authorize_settled (o : Orchestrator) (recorded : LateAnswersRecorded env)
    (request : Payment → Spi.AuthorizeRequest) (sin : SettleInput)
    (at_ : sin.index = earlier.length) :
    Triple (Cleared earlier Awaiting)
      (do
        let pay ← read World.pay
        emit (.authorize sin.gateway sin.index (request pay) (env n).answer)
        settle o (env n) sin)
      (fun r w => FailsOverAfterNo w ∧ (r.terminal = true ∨ Between env (n + 1) w))
      (fun _ => Between env (n + 1)) := by
  intro w cleared
  let sent := w.emit (.authorize sin.gateway sin.index (request w.pay) (env n).answer)
  have start : (do
        let pay ← read World.pay
        emit (.authorize sin.gateway sin.index (request pay) (env n).answer)
        settle o (env n) sin) w = settle o (env n) sin sent := by
    rw [bind_read, bind_emit]
  have called : sent.calls = w.calls ++ [earlier.length] := by
    show (w.log ++ [_]).filterMap Effect.called = _
    rw [List.filterMap_append, ← at_]
    rfl
  rw [start]
  have settled := settle_settled o n at_ recorded sent ⟨cleared.newest, cleared.level⟩
  have quiet := (moves_settle o (env n) sin sent).calls
  rcases done : settle o (env n) sin sent with ⟨w', e | r⟩
  · rw [done] at settled quiet
    exact between_of_settled cleared.answered (quiet.trans called) settled
  · rw [done] at settled quiet
    rcases settled with ⟨terminal, a, same⟩ | over_
    · refine ⟨?_, .inl terminal⟩
      unfold FailsOverAfterNo
      rw [quiet.trans called, same]
      exact pairwise_concat
        (fun j member => answeredNo_append (cleared.answered j member) [a]) _
    · have between := between_of_settled cleared.answered (quiet.trans called) over_
      exact ⟨between.1, .inr between⟩

theorem beforeCall_between {α : Type} {key : String} {c : Proc α} {P : World → Prop}
    {Q : α → World → Prop} (h : Triple P c Q (fun _ => Between env (n + 1))) :
    Triple P (beforeCall key c) Q (fun _ => Between env (n + 1)) :=
  Triple.onFailure (h.weaken (fun _ pre => pre) (fun _ _ post => post)
    fun _ _ between => between.emit rfl)

theorem dispatchHolding_between (o : Orchestrator) {din : DispatchInput}
    (authorizing : din.operation = .authorize) (recorded : LateAnswersRecorded env)
    (gw : GatewayID) (key : String) :
    Triple (Between env n) (dispatchHolding o din (env n) gw key)
      (fun r w => FailsOverAfterNo w ∧ (r.terminal = true ∨ Between env (n + 1) w))
      (fun _ => Between env (n + 1)) := by
  unfold dispatchHolding
  refine Triple.bind (R := fun _ => Between env n)
    (beforeCall_between (Triple.ofExcept (fun _ _ _ h => h) fun _ _ h => h.succ)) fun account => ?_
  refine Triple.bind (beforeCall_between (startAttempt_started din authorizing gw)) fun att => ?_
  refine Triple.of_exists fun earlier => Triple.of_fact fun at_ => ?_
  dsimp only
  rw [at_]
  refine Triple.bind (bindConnection_started din gw) fun _ => ?_
  refine Triple.bind (beforeCall_between ((markProcessing_started _).weaken (fun _ h => h)
    (fun _ _ h => h) fun _ _ h => h.between)) fun _ => ?_
  refine Triple.bind (beforeCall_between ((saveIntent_cleared _ rfl).weaken (fun _ h => h)
    (fun _ _ h => h) fun _ _ h => h.between)) fun _ => ?_
  refine Triple.bind (beforeCall_between (dispatchAttempt_awaiting _)) fun _ => ?_
  exact authorize_settled o recorded (authorizeRequest din account att)
    { plan := din.plan, gateway := gw, operation := din.operation, breakerKey := key,
      attemptID := att.id, index := earlier.length } rfl

theorem attemptOnce_between (o : Orchestrator) {din : DispatchInput}
    (authorizing : din.operation = .authorize) (recorded : LateAnswersRecorded env)
    (gw : GatewayID) :
    Triple (Between env n) (attemptOnce o din (env n) gw)
      (fun r w => FailsOverAfterNo w ∧ (r.terminal = true ∨ Between env (n + 1) w))
      (fun _ => Between env (n + 1)) := by
  have silent : ∀ (e : Effect) {E : GoError → World → Prop}, e.called = none →
      Triple (Between env n) (emit e) (fun _ => Between env n) E :=
    fun e _ quiet => Triple.modify fun _ h => h.emit quiet
  unfold attemptOnce
  refine Triple.bind (R := fun _ => Between env n)
    (Triple.orFail (fun _ _ h => h) fun _ _ h => h.succ) fun _ => ?_
  refine Triple.bind (silent _ rfl) fun _ => ?_
  refine Triple.bind (R := fun _ => Between env n)
    (beforeCall_between (Triple.orFail (fun _ _ h => h) fun _ _ h => h.succ)) fun _ => ?_
  refine Triple.bind (silent _ rfl) fun _ => ?_
  refine Triple.deferring ((dispatchHolding_between o authorizing recorded gw _).weaken
    (fun _ h => h) ?_ fun _ _ h => h.emit rfl)
  rintro r w ⟨follows, ended⟩
  refine ⟨?_, ended.imp_right fun h => h.emit rfl⟩
  unfold FailsOverAfterNo
  rw [calls_emit rfl]
  exact follows

end Attempting

theorem tryPlan_follows (o : Orchestrator) {din : DispatchInput} {env : Nat → AttemptEnv}
    (authorizing : din.operation = .authorize) (recorded : LateAnswersRecorded env) (left : Nat) :
    ∀ n tried lastErr, Triple (Between env n) (tryPlan o din env left n tried lastErr)
      (fun _ => FailsOverAfterNo) (fun _ => FailsOverAfterNo) := by
  induction left with
  | zero => exact fun n tried lastErr => Triple.pure fun _ h => h.1
  | succ left ih =>
    intro n tried lastErr
    unfold tryPlan
    split
    · exact Triple.pure fun _ h => h.1
    · refine Triple.bind (Triple.attempt (R := fun result w =>
        match result with
        | .ok r => FailsOverAfterNo w ∧ (r.terminal = true ∨ Between env (n + 1) w)
        | .error _ => Between env (n + 1) w)
        (attemptOnce_between o authorizing recorded _)) fun result => ?_
      cases result with
      | error =>
        dsimp only
        split_ifs
        · exact ih _ _ _
        · exact Triple.pure fun _ h => h.1
      | ok =>
        dsimp only
        split_ifs with terminal
        · exact Triple.pure fun _ h => h.1
        · exact (ih _ _ _).weaken (fun _ h => h.2.resolve_left terminal) (fun _ _ h => h)
            fun _ _ h => h
        · exact Triple.pure fun _ h => h.1

theorem keeps_follows_reload (tx : Tx) : Keeps FailsOverAfterNo (reload tx) := by
  refine Keeps.iff_state.mpr fun w follows => ?_
  have core := Keeps.iff_state.mp (keeps_reload (J := (· = w.pay.core)) tx) w rfl
  unfold FailsOverAfterNo
  rw [(moves_reload tx w).calls, show (reload tx w).1.pay.attempts = w.pay.attempts from
    congrArg Core.attempts core]
  exact follows

/-- A run in which every answer still to come is recorded: an Authorize call follows another only
after a definite no. -/
theorem dispatch_fails_over_after_no (o : Orchestrator) (din : DispatchInput) (env : DispatchEnv)
    (pay : Payment) (row : Row) (authorizing : din.operation = .authorize)
    (isReady : ready pay.state = true) (recorded : LateAnswersRecorded env.attempts) :
    FailsOverAfterNo (dispatch o din env { pay := pay, row := row, log := [] }).1 := by
  have start : Between env.attempts 0 { pay := pay, row := row, log := [] } :=
    ⟨List.Pairwise.nil, .inl ⟨isReady, fun _ called => nomatch called⟩⟩
  exact Triple.iff_state.mp (triple_dispatch (tryPlan_follows o authorizing recorded _ 0 [] none)
    (keeps_follows_reload env.finalTx)) _ start

/-- The first gateway declines softly, the second one answers later. -/
def declinedThenPending (n : Nat) : AttemptEnv :=
  sampleAttempt n (if n = 0 then sampleDecline else samplePending)

theorem dispatch_fails_over_after_no_declinedThenPending :
    ready samplePersisted.state = true ∧ LateAnswersRecorded declinedThenPending ∧
      FailsOverAfterNo (dispatch sampleOrchestrator sampleInput
        { attempts := declinedThenPending, finalTx := Tx.undisturbed } sampleWorld).1 ∧
      (dispatch sampleOrchestrator sampleInput
        { attempts := declinedThenPending, finalTx := Tx.undisturbed }
        sampleWorld).1.calls = [0, 1] := by
  have recorded : LateAnswersRecorded declinedThenPending := fun n _ =>
    ⟨⟨rfl, rfl, rfl, rfl, (fun _ => nofun), rfl, rfl, rfl, rfl⟩, fun _ _ => rfl⟩
  refine ⟨by decide, recorded, ?_, by decide +kernel⟩
  exact dispatch_fails_over_after_no _ _ _ _ _ rfl (by decide) recorded

/-- Both gateways accept the payment and answer later, and the transaction recording the
first answer cannot be opened. -/
def pendingUnrecorded (n : Nat) : AttemptEnv :=
  { sampleAttempt n samplePending with
    outcomeTx := { Tx.undisturbed with
      beginErr := some (Pkg.ApiError.new .serviceUnavailable "postgres: begin") } }

theorem second_authorize_after_pending :
    let final := (dispatch sampleOrchestrator sampleInput
      { attempts := pendingUnrecorded, finalTx := Tx.undisturbed } sampleWorld).1
    final.calls = [0, 1] ∧ ¬ FailsOverAfterNo final := by
  decide +kernel

open Lib.Procedure Lib.TransitionSystem Payments
open Pkg (Money)
open Shared (StateMachine)

/-- `uq_attempt_success`: at most one attempt of a payment has succeeded. -/
def Indexable (p : Payment) : Prop := p.attempts.countP (·.outcome == .success) ≤ 1

instance (p : Payment) : Decidable (Indexable p) := by
  unfold Indexable
  infer_instance

/-- Every payment the runs have saved satisfies the index, and so does the one the last run held, of
which a failed save got some attempts. -/
def HandedIndexable (w : World) : Prop :=
  Indexable w.pay ∧ ∀ e ∈ w.log, ∀ row, e = .stored row → Indexable row.payment

/-- No other writer commits anything before the transaction. -/
def Alone (tx : Tx) : Prop := tx.others = id

/-- One run on the payment, with everything it meets.  `Create` dispatches an
authorization, and the runs follow one another. -/
inductive Flow where
  | dispatch (din : DispatchInput) (env : DispatchEnv) (authorizing : din.operation = .authorize)
      (alone : (∀ n, (env.attempts n).All Alone) ∧ Alone env.finalTx)
  | capture (connections : List (GatewayID × ConnectionID)) (amount : Money) (final : Bool)
      (env : AttemptEnv) (alone : env.All Alone)
  | void (connections : List (GatewayID × ConnectionID)) (env : AttemptEnv) (alone : env.All Alone)

def runFlow (o : Orchestrator) (w : World) (f : Flow) : World :=
  match w.row.payment.rehydrate with
  | .error _ => w
  | .ok p =>
    match f with
    | .dispatch din env _ _ => (dispatch o din env { w with pay := p }).1
    | .capture connections amount final env _ =>
      (captureExisting o connections amount final env { w with pay := p }).1
    | .void connections env _ => (voidExisting o connections env { w with pay := p }).1

def flowSystem (o : Orchestrator) : System World Flow where
  init w := ∃ params id now, Payment.new params id now = .ok w.pay ∧ w.row = Row.of w.pay ∧ w.log = []
  step := runFlow o

/-- A capture or a void is asked for only while no attempt has succeeded. -/
def Flow.beforeSuccess (w : World) : Flow → Bool
  | .dispatch .. => true
  | .capture .. | .void .. => w.row.payment.successfulAttempt.isNone

/-- Between attempts: an attempt that has succeeded in the row has succeeded in memory. -/
structure OneSuccess (w : World) : Prop where
  held : Indexable w.pay
  stored : Indexable w.row.payment
  saved : ∀ e ∈ w.log, ∀ row, e = .stored row → Indexable row.payment
  agree : (∃ b ∈ w.row.payment.attempts, b.outcome = .success) →
    ∃ a ∈ w.pay.attempts, a.outcome = .success

def OneSuccessAfter (earlier : List Attempt) (w : World) : Prop :=
  (∀ b ∈ earlier, b.outcome ≠ .success) ∧ (∃ a, w.pay.attempts = earlier ++ [a]) ∧ OneSuccess w

variable {p : Payment}

theorem indexable_of_newest {earlier : List Attempt} {a : Attempt}
    (none : ∀ b ∈ earlier, b.outcome ≠ .success) (h : p.attempts = earlier ++ [a]) :
    Indexable p := by
  have before : earlier.countP (·.outcome == .success) = 0 :=
    List.countP_eq_zero.mpr fun b mem => by simpa using none b mem
  unfold Indexable
  rw [h, List.countP_append, before, Nat.zero_add]
  exact List.countP_le_length

theorem indexable_of_none (h : ∀ b ∈ p.attempts, b.outcome ≠ .success) : Indexable p := by
  have none : p.attempts.countP (·.outcome == .success) = 0 :=
    List.countP_eq_zero.mpr fun b mem => by simpa using h b mem
  unfold Indexable
  omega

variable {w : World}

theorem OneSuccess.emit (h : OneSuccess w) {e : Effect} (unsaved : e.isStored = false) :
    OneSuccess (w.emit e) := by
  refine ⟨h.held, h.stored, ?_, h.agree⟩
  intro f mem row saves
  rcases List.mem_append.mp mem with before | new
  · exact h.saved f before row saves
  · rw [List.mem_singleton.mp new] at saves
    rw [saves] at unsaved
    cases unsaved

theorem OneSuccess.of_attempts {w' : World} (h : OneSuccess w)
    (attempts : w'.pay.attempts = w.pay.attempts) (row : w'.row = w.row) (log : w'.log = w.log) :
    OneSuccess w' := by
  refine ⟨?_, row ▸ h.stored, log ▸ h.saved, ?_⟩
  · unfold Indexable
    rw [attempts]
    exact h.held
  · rw [row, attempts]
    exact h.agree

theorem OneSuccess.saving {w' : World} {tx : Tx} (h : OneSuccess w) (alone : Alone tx)
    (saved : Saved tx w w') : OneSuccess w' := by
  obtain ⟨core, ⟨row, log⟩ | ⟨-, row, notes, log, silent⟩⟩ := saved
  · have unmoved : w'.row = w.row := by
      rcases row with row | row
      · exact row
      · rw [row, alone]
        rfl
    exact h.of_attempts (congrArg Core.attempts core) unmoved log
  · have attempts : w'.pay.attempts = w.pay.attempts := congrArg Core.attempts core
    refine ⟨?_, ?_, ?_, ?_⟩
    · unfold Indexable
      rw [attempts]
      exact h.held
    · rw [row]
      exact h.held
    · intro e mem r saves
      rw [log] at mem
      rcases List.mem_append.mp mem with before | here
      · exact h.saved e before r saves
      · rcases List.mem_cons.mp here with rfl | note
        · cases saves
          exact h.held
        · have quiet := silent e note
          rw [saves] at quiet
          cases quiet
    · rw [row, attempts]
      exact fun success => success

theorem success_stays {a a' : Attempt} {c : AttemptCall} (h : c.apply a = .ok a')
    (success : a.outcome = .success) : a'.outcome = .success := by
  rcases AttemptCall.outcome_of_apply h with ⟨-, same⟩ | ⟨o, -, -, edge, -⟩
  · rw [same]
    exact success
  · rw [success] at edge
    cases o <;> simp [StateMachine.canTransition, attemptMachine] at edge

theorem attempts_of_settling {i : Nat} {c : PaymentCall} (settling : Call.settling i (.payment c) = true)
    (p : Payment) : (c.apply p).1.attempts = p.attempts := by
  have effect := Call.effect p (.payment c)
  generalize after : ((Call.payment c).apply p).1.core = k at effect
  have attempts : k.attempts = p.attempts := by
    cases effect with
    | start => cases settling
    | keep | move | resolve | fail | authorize | capture | openRefund | confirm | confirmRefused =>
      rfl
  exact (congrArg Core.attempts after).trans attempts

theorem settles_oneSuccess (earlier : List Attempt) :
    Settles Alone earlier.length (OneSuccessAfter earlier) := by
  have saving : ∀ {tx : Tx} {c : Proc Unit}, Alone tx → (∀ w, Saved tx w (c w).1) →
      Keeps (OneSuccessAfter earlier) c := by
    refine fun alone saves => Keeps.iff_state.mpr ?_
    rintro w ⟨unsuccessful, ⟨a, same⟩, held⟩
    have saved := saves w
    exact ⟨unsuccessful, ⟨a, (congrArg Core.attempts saved.1).trans same⟩, held.saving alone saved⟩
  refine ⟨?_, ?_, fun alone => saving alone (saved_store _),
    fun alone action => saving alone (saved_commit _ _ action), ?_⟩
  · intro e note
    refine Triple.modify fun w ⟨unsuccessful, newest, held⟩ =>
      ⟨unsuccessful, newest, held.emit ?_⟩
    cases e <;> first | rfl | cases note
  · intro c settling
    refine Keeps.iff_state.mpr ?_
    rintro w ⟨unsuccessful, ⟨a, same⟩, held⟩
    cases c with
    | refund => cases settling
    | payment =>
      have attempts := attempts_of_settling settling w.pay
      exact ⟨unsuccessful, ⟨a, attempts.trans same⟩, held.of_attempts attempts rfl rfl⟩
    | attempt i c =>
      have at_ : i = earlier.length := by simpa [Call.settling] using settling
      subst at_
      rcases invoke_last same c with ⟨e, -, ran⟩ | ⟨a', applied, ran⟩
      · rw [ran]
        exact ⟨unsuccessful, ⟨a, same⟩, held⟩
      · rw [ran]
        refine ⟨unsuccessful, ⟨a', rfl⟩, indexable_of_newest unsuccessful rfl, held.stored,
          held.saved, fun stored => ⟨a', by simp, ?_⟩⟩
        obtain ⟨b, mem, success⟩ := held.agree stored
        rw [same] at mem
        rcases List.mem_append.mp mem with before | newest
        · exact absurd success (unsuccessful b before)
        · rw [List.mem_singleton.mp newest] at success
          exact success_stays applied success
  · exact fun alone => Keeps.iff_state.mpr fun w held => (reload_alone alone w).symm ▸ held

theorem attempting_oneSuccess {din : DispatchInput} {env : AttemptEnv} (gw : GatewayID)
    (authorizing : din.operation = .authorize) (alone : env.All Alone) :
    Attempting Alone din env gw OneSuccess OneSuccessAfter OneSuccessAfter where
  kinds := alone
  emit _ unsaved := Triple.modify fun _ held => held.emit unsaved
  emitDuring _ _ unsaved := Triple.modify fun _ ⟨unsuccessful, newest, held⟩ =>
    ⟨unsuccessful, newest, held.emit unsaved⟩
  start := by
    intro w held
    unfold startAttempt
    rcases w.pay.startAttempt_cases gw din.plan.id din.operation env.seed env.startedAt with
      ⟨e, same⟩ | ⟨p', att, same, rfl, core, -, -, first, -⟩
    · rw [same]
      exact held
    · rw [same]
      have unsuccessful := first authorizing
      have attempts := congrArg Core.attempts core
      refine ⟨w.pay.attempts, rfl, unsuccessful, ⟨_, attempts⟩,
        indexable_of_newest unsuccessful attempts, held.stored, held.saved, fun stored => ?_⟩
      obtain ⟨a, mem, success⟩ := held.agree stored
      exact absurd success (unsuccessful a mem)
  settles earlier := (settles_oneSuccess earlier).via
  finish _ _ h := h.2.2

theorem dispatch_oneSuccess (o : Orchestrator) {din : DispatchInput} {env : DispatchEnv}
    (authorizing : din.operation = .authorize)
    (alone : (∀ n, (env.attempts n).All Alone) ∧ Alone env.finalTx) :
    Keeps OneSuccess (dispatch o din env) :=
  keeps_dispatch
    (fun n gw => (attempting_oneSuccess gw authorizing (alone.1 n)).attemptOnce o)
    (Keeps.iff_state.mpr fun w held => (reload_alone alone.2 w).symm ▸ held)

theorem onExisting_of_none {o : Orchestrator} {fu : FollowUp}
    {connections : List (GatewayID × ConnectionID)} {env : AttemptEnv}
    (h : w.pay.successfulAttempt.isNone = true) : (onExisting o fu connections env w).1 = w := by
  have unsuccessful : w.pay.successfulAttempt = none := Option.isNone_iff_eq_none.mp h
  unfold onExisting
  rw [bind_read, unsuccessful]
  rfl

theorem oneSuccess_load (loaded : w.row.payment.rehydrate = .ok p)
    (stored : Indexable w.row.payment)
    (saved : ∀ e ∈ w.log, ∀ row, e = .stored row → Indexable row.payment) :
    p.attempts = w.row.payment.attempts ∧ OneSuccess { w with pay := p } := by
  have attempts : p.attempts = w.row.payment.attempts := by
    unfold Payment.rehydrate at loaded
    split_ifs at loaded
    cases loaded
    rfl
  refine ⟨attempts, ?_, stored, saved, ?_⟩
  · unfold Indexable
    rw [attempts]
    exact stored
  · rw [attempts]
    exact fun success => success

/-- As long as no capture and no void is asked for after an authorization has succeeded,
every payment handed to the repository satisfies the index. -/
theorem handedIndexable_of_reachable (o : Orchestrator) {w : World}
    (h : (flowSystem o).ReachableUnder (fun w f => f.beforeSuccess w = true) w) :
    HandedIndexable w := by
  suffices holds : HandedIndexable w ∧ Indexable w.row.payment from holds.1
  refine System.ReachableUnder.invariant
    (P := fun w => HandedIndexable w ∧ Indexable w.row.payment) ?_ ?_ h
  · rintro w ⟨params, id, now, created, row, log⟩
    have fresh : w.pay.attempts = [] := by
      obtain ⟨-, cm, payload, same⟩ := Payment.new_ok created
      rw [same]
      rfl
    have indexable : Indexable w.pay := indexable_of_none (by simp [fresh])
    refine ⟨⟨indexable, by simp [log]⟩, ?_⟩
    rw [row]
    exact indexable
  · rintro w f - ⟨⟨held, saved⟩, stored⟩ before
    show HandedIndexable (runFlow o w f) ∧ Indexable (runFlow o w f).row.payment
    unfold runFlow
    rcases loaded : w.row.payment.rehydrate with e | p
    · exact ⟨⟨held, saved⟩, stored⟩
    · obtain ⟨attempts, starts⟩ := oneSuccess_load loaded stored saved
      have ended : ∀ w', OneSuccess w' → HandedIndexable w' ∧ Indexable w'.row.payment :=
        fun w' h => ⟨⟨h.held, h.saved⟩, h.stored⟩
      have refused : ∀ fu connections env, w.row.payment.successfulAttempt.isNone = true →
          OneSuccess (onExisting o fu connections env { w with pay := p }).1 := by
        intro fu connections env unsuccessful
        rw [onExisting_of_none (by unfold Payment.successfulAttempt; rw [attempts]; exact unsuccessful)]
        exact starts
      cases f with
      | dispatch din env authorizing alone =>
        exact ended _ (Keeps.iff_state.mp (dispatch_oneSuccess o authorizing alone) _ starts)
      | capture | void => exact ended _ (refused _ _ _ before)

/-- A payment to be captured separately, as `Create` stores it. -/
def manualParams : NewPaymentParams := { sampleParams with captureMethod := .manual }

def manualPayment : Payment :=
  (Payment.fresh manualParams .manual "pay_1" 0).raise .created 0
    [("amount", .money ⟨1000, "USD"⟩), ("paymentMethod", .str "CARD"),
      ("captureMethod", .str "MANUAL")]

def manualWorld : World := { pay := manualPayment, row := Row.of manualPayment, log := [] }

theorem init_manualWorld (o : Orchestrator) : (flowSystem o).init manualWorld :=
  ⟨manualParams, "pay_1", 0, by decide +kernel, rfl, rfl⟩

def authorizeFlow : Flow :=
  .dispatch sampleInput
    { attempts := fun n => sampleAttempt n (sampleAnswer .authorized .unset),
      finalTx := Tx.undisturbed }
    rfl ⟨fun _ => ⟨rfl, rfl, rfl⟩, rfl⟩

def capturedAnswer : Gateways.Spi.Answer where
  resp := (sampleAnswer .captured .unset).resp.map fun res =>
    { res with capturedAmount := some ⟨1000, "USD"⟩ }
  callErr := none

def captureFlow : Flow :=
  .capture [] ⟨1000, "USD"⟩ true (sampleAttempt 1 capturedAnswer) ⟨rfl, rfl, rfl⟩

theorem handedIndexable_authorize :
    (flowSystem sampleOrchestrator).Meets (fun w f => f.beforeSuccess w = true) manualWorld
        [captureFlow, authorizeFlow] ∧
      HandedIndexable ((flowSystem sampleOrchestrator).run manualWorld [captureFlow, authorizeFlow]) := by
  have meets : (flowSystem sampleOrchestrator).Meets (fun w f => f.beforeSuccess w = true) manualWorld
      [captureFlow, authorizeFlow] := by decide +kernel
  exact ⟨meets, handedIndexable_of_reachable sampleOrchestrator
    (System.reachableUnder_run (.init (init_manualWorld _)) _ meets)⟩

/-- An authorization and its capture are two successful attempts of one payment. -/
theorem not_handedIndexable_capture :
    (flowSystem sampleOrchestrator).init manualWorld ∧
      ¬ HandedIndexable
        ((flowSystem sampleOrchestrator).run manualWorld [authorizeFlow, captureFlow]) :=
  ⟨init_manualWorld _, fun h => absurd h.1 (by decide +kernel)⟩

end PaymentsPlatform.Orchestration
