/- layer: rules for the orchestrator's commands
   digest: What the building blocks of a run append, and what of the payment they may touch. -/

import PaymentsPlatform.Orchestration.Orchestrator
import PaymentsPlatform.Payments.Effects

namespace PaymentsPlatform.Orchestration

open Gateways Lib.Procedure Payments
open Lib (Procedure)
open Storage (Row AuditEntry)

def Effect.called : Effect → Option Nat
  | .authorize _ index _ _ => some index
  | _ => none

/-- Effects that only tell something, to the breaker or to the audit trail. -/
def Effect.isNote : Effect → Bool
  | .record .. | .audited _ => true
  | _ => false

def Effect.isStored : Effect → Bool
  | .stored _ => true
  | _ => false

theorem Effect.called_of_isNote {e : Effect} (h : e.isNote = true) : e.called = none := by
  cases e <;> first | rfl | cases h

/-- The attempts for which a run has called Authorize, in order. -/
def World.calls (w : World) : List Nat := w.log.filterMap Effect.called

/-- Only effects of one kind have been added. -/
def Appends (kind : Effect → Prop) (w w' : World) : Prop :=
  ∃ suffix, w'.log = w.log ++ suffix ∧ ∀ e ∈ suffix, kind e

section Appends

variable {kind : Effect → Prop}

instance : Std.Refl (Appends kind) := ⟨fun w => ⟨[], by simp, by simp⟩⟩

instance : IsTrans World (Appends kind) where
  trans a b c := by
    rintro ⟨s, hs, silent⟩ ⟨t, ht, silent'⟩
    refine ⟨s ++ t, by rw [ht, hs, List.append_assoc], ?_⟩
    intro e member
    rcases List.mem_append.mp member with left | right
    · exact silent e left
    · exact silent' e right

theorem Appends.of_log_eq {w w' : World} (h : w'.log = w.log) : Appends kind w w' :=
  ⟨[], by rw [h, List.append_nil], by simp⟩

theorem Appends.of_log {start w w' : World} (h : Appends kind start w) (same : w'.log = w.log) :
    Appends kind start w' :=
  IsTrans.trans start w w' h (.of_log_eq same)

theorem appends_emit {e : Effect} (h : kind e) : Moves (Appends kind) (emit e) :=
  fun _ => ⟨[e], rfl, by simpa using h⟩

theorem appends_invoke (c : Call) : Moves (Appends kind) (invoke c) := fun _ => .of_log_eq rfl

theorem appends_savePayment (tx : Tx) (stored : ∀ row, kind (.stored row)) :
    Moves (Appends kind) (savePayment tx) := by
  intro w
  unfold savePayment
  rcases Storage.save tx w.pay w.row with ⟨pay, e | row⟩
  · exact .of_log_eq rfl
  · exact ⟨[.stored row], rfl, by simpa using stored row⟩

theorem appends_saveAttempt (tx : Tx) (i : Nat) : Moves (Appends kind) (saveAttempt tx i) := by
  refine Moves.orFail.bind fun _ w => .of_log_eq ?_
  dsimp only [Procedure.modify]
  split
  · rfl
  · rfl

end Appends

def NoCall (w w' : World) : Prop :=
  ∃ suffix, w'.log = w.log ++ suffix ∧ ∀ e ∈ suffix, e.called = none

instance : Std.Refl NoCall := inferInstanceAs (Std.Refl (Appends (·.called = none)))

instance : IsTrans World NoCall := inferInstanceAs (IsTrans World (Appends (·.called = none)))

theorem NoCall.calls {w w' : World} (h : NoCall w w') : w'.calls = w.calls := by
  obtain ⟨suffix, grown, silent⟩ := h
  have none_called : suffix.filterMap Effect.called = [] :=
    List.filterMap_eq_nil_iff.mpr silent
  rw [World.calls, grown, List.filterMap_append, none_called, List.append_nil]
  rfl

theorem moves_emit {e : Effect} (h : e.called = none) : Moves NoCall (emit e) := appends_emit h

theorem noCall_emit {e : Effect} (w : World) (h : e.called = none) : NoCall w (w.emit e) :=
  moves_emit h w

theorem moves_invoke (c : Call) : Moves NoCall (invoke c) := appends_invoke c

theorem moves_savePayment (tx : Tx) : Moves NoCall (savePayment tx) :=
  appends_savePayment tx fun _ => rfl

variable {α : Type} {fn : Proc α}

/-- A unit of work keeps what its callback keeps, if others' writes and a rollback of the row and
the effects do not disturb it. -/
theorem keeps_within_of {I : World → Prop} (tx : Tx) (h : Keeps I fn)
    (others : ∀ w, I w → I { w with row := tx.others w.row })
    (rollback : ∀ opened done, I opened → I done → I { opened with pay := done.pay }) :
    Keeps I (within tx fn) := by
  intro w holds
  unfold within
  cases tx.beginErr with
  | some => exact holds
  | none =>
    dsimp only
    have opened := others w holds
    have ran := h _ opened
    rcases done : fn { w with row := tx.others w.row } with ⟨w', e | a⟩
    · rw [done] at ran
      exact rollback _ _ opened ran
    · rw [done] at ran
      cases tx.commitEnd with
      | acknowledged | unacknowledged => exact ran
      | failed => exact rollback _ _ opened ran

theorem appends_within {kind : Effect → Prop} (tx : Tx) (h : Moves (Appends kind) fn) :
    Moves (Appends kind) (within tx fn) :=
  .of_keeps fun start => keeps_within_of tx (h.keeps start) (fun _ held => held.of_log rfl)
    fun _ _ held _ => held.of_log rfl

variable {P : World → Prop} {E : GoError → World → Prop}

/-- Binding a connection never fails. -/
theorem triple_bindConnection {din : DispatchInput} {gw : GatewayID} {i : Nat}
    (kept : ∀ conn, Keeps P (invoke (.attempt i (.bindConnection conn)))) :
    Triple P (bindConnection din gw i) (fun _ => P) E := by
  unfold bindConnection
  split
  · exact Triple.pure fun _ h => h
  · rename_i conn _
    split_ifs
    · exact Triple.pure fun _ h => h
    · exact Triple.ignoring ((kept conn).weaken (fun _ h => h) (fun _ _ h => h)
        fun _ _ h => by simpa using h)

/-- A unit of work nobody writes beside: it may end before its callback, roll it back but for the
payment in memory, or keep it. -/
theorem triple_within {tx : Tx} (alone : tx.others = id)
    {Q : α → World → Prop}
    (refused : ∀ e w, P w → E e w)
    (body : ∀ w, P w → Triple (· = w) fn Q (fun e v => E e { w with pay := v.pay }))
    (rollback : ∀ a e w v, P w → Q a v → E e { w with pay := v.pay })
    (lost : ∀ a e v, Q a v → E e v) : Triple P (within tx fn) Q E := by
  intro w pre
  have ran := body w pre w rfl
  unfold within
  rw [alone]
  cases tx.beginErr with
  | some e => exact refused e w pre
  | none =>
    dsimp only [id]
    rcases done : fn w with ⟨v, e | a⟩
    · rw [done] at ran
      exact ran
    · rw [done] at ran
      cases tx.commitEnd with
      | acknowledged => exact ran
      | unacknowledged e => exact lost a e v ran
      | failed e => exact rollback a e w v pre ran

def Call.settling (i : Nat) : Call → Bool
  | .payment (.startAttempt ..) => false
  | .payment _ => true
  | .attempt j _ => j == i
  | .refund .. => false

def AttemptEnv.All (T : Tx → Prop) (env : AttemptEnv) : Prop :=
  T env.intentTx ∧ T env.outcomeTx ∧ T env.reloadTx

/-- An assertion that everything done to settle the answer of the `i`-th attempt keeps, in
transactions of some kind. -/
structure Settles (T : Tx → Prop) (i : Nat) (I : World → Prop) : Prop where
  emit : ∀ e : Effect, e.isNote = true → Keeps I (emit e)
  invoke : ∀ c : Call, Call.settling i c = true → Keeps I (invoke c)
  store : ∀ {tx}, T tx → Keeps I (within tx (savePayment tx))
  commit : ∀ {tx}, T tx → ∀ action, Keeps I (commit tx i action)
  reload : ∀ {tx}, T tx → Keeps I (reload tx)

/-- What every statement of a transaction keeps, and every transaction around them, is kept
by the transactions of an attempt. -/
theorem settles_of_steps {i : Nat} {I : World → Prop}
    (emit : ∀ e : Effect, e.isNote = true → Keeps I (emit e))
    (invoke : ∀ c : Call, Call.settling i c = true → Keeps I (invoke c))
    (savePayment : ∀ tx, Keeps I (savePayment tx)) (saveAttempt : ∀ tx, Keeps I (saveAttempt tx i))
    (within : ∀ {α : Type} (tx : Tx) {fn : Proc α}, Keeps I fn → Keeps I (within tx fn)) :
    Settles (fun _ => True) i I where
  emit := emit
  invoke := invoke
  store _ := within _ (savePayment _)
  commit _ _ := within _ ((saveAttempt _).bind fun _ => (savePayment _).bind fun _ =>
    Keeps.read.bind fun _ => Keeps.orFail.bind fun _ => emit _ rfl)
  reload _ := within _ (Keeps.orFail.bind fun _ => Keeps.read.bind fun _ =>
    Triple.ofExcept (fun _ _ _ h => h) fun _ _ h => h)

/-- The calls that move the payment because its attempt has succeeded. -/
def PaymentCall.grants : PaymentCall → Bool
  | .markAuthorized .. | .markCaptured .. => true
  | _ => false

def Call.grants : Call → Bool
  | .payment c => PaymentCall.grants c
  | _ => false

/-- As `Settles`, for an assertion that the calls on the success of the attempt keep only once
the attempt has succeeded: `K` holds from then on. -/
structure SettlesVia (T : Tx → Prop) (i : Nat) (I K : World → Prop) : Prop where
  emit : ∀ e : Effect, e.isNote = true → Keeps I (emit e)
  invoke : ∀ c : Call, Call.settling i c = true → Call.grants c = false → Keeps I (invoke c)
  succeed : ∀ gatewayRef rawStatus now, Triple I
    (Orchestration.invoke (.attempt i (.succeed gatewayRef rawStatus now))) (fun _ => K) (fun _ => I)
  grant : ∀ c : PaymentCall, PaymentCall.grants c = true →
    Triple K (Orchestration.invoke (.payment c)) (fun _ => I) (fun _ => I)
  store : ∀ {tx}, T tx → Keeps I (within tx (savePayment tx))
  commit : ∀ {tx}, T tx → ∀ action, Keeps I (commit tx i action)
  reload : ∀ {tx}, T tx → Keeps I (reload tx)

theorem Settles.via {T : Tx → Prop} {i : Nat} {I : World → Prop} (kept : Settles T i I) :
    SettlesVia T i I I where
  emit := kept.emit
  invoke c own _ := kept.invoke c own
  succeed _ _ _ := kept.invoke _ (beq_self_eq_true i)
  grant c grants := kept.invoke _ (by cases c <;> first | rfl | cases grants)
  store := kept.store
  commit := kept.commit
  reload := kept.reload

namespace SettlesVia

variable {T : Tx → Prop} {i : Nat} {I K : World → Prop} (kept : SettlesVia T i I K)
include kept

theorem reloadResult {tx : Tx} (kind : T tx) (plan : Routing.Plan)
    (next : Option Payment.NextAction) : Keeps I (reloadResult tx plan next) :=
  (kept.reload kind).bind fun _ => Keeps.pure

theorem bindConnection (din : DispatchInput) (gw : GatewayID) : Keeps I (bindConnection din gw i) :=
  triple_bindConnection fun _ => kept.invoke _ (beq_self_eq_true i) rfl

variable {env : AttemptEnv} (kinds : env.All T)
include kinds

theorem committed (action : String) (plan : Routing.Plan) (next : Option Payment.NextAction) :
    Keeps I (do
      Orchestration.commit env.outcomeTx i action
      Orchestration.reloadResult env.reloadTx plan next) :=
  (kept.commit kinds.2.1 action).bind fun _ => kept.reloadResult kinds.2.2 plan next

variable {sin : SettleInput}

theorem settleUnknown (at_ : sin.index = i) (message reason : String) :
    Keeps I (settleUnknown env sin message reason) := by
  subst at_
  exact (kept.emit _ rfl).bind fun _ => (kept.invoke _ (beq_self_eq_true _) rfl).bind fun _ =>
    (kept.invoke _ rfl rfl).bind fun _ => kept.committed kinds _ _ _

theorem settleStatus (o : Orchestrator) (at_ : sin.index = i)
    (resp : Spi.Result) : Keeps I (settleStatus o env sin resp) := by
  subst at_
  have later : ∀ mark action next, Call.settling sin.index (.payment mark) = true →
      PaymentCall.grants mark = false → Keeps I (settleLater env sin mark action next) :=
    fun mark action next plain granting => (kept.emit _ rfl).bind fun _ =>
      (kept.invoke _ plain granting).bind fun _ => kept.committed kinds _ _ _
  unfold Orchestration.settleStatus
  split
  · exact (kept.emit _ rfl).bind fun _ => (kept.succeed _ _ _).bind fun _ =>
      Triple.reading.bind fun _ => (kept.grant _ rfl).bind fun _ => kept.committed kinds _ _ _
  · exact (kept.emit _ rfl).bind fun _ => (kept.succeed _ _ _).bind fun _ =>
      Triple.reading.bind fun _ => (kept.grant _ rfl).bind fun _ => kept.committed kinds _ _ _
  · exact later _ _ _ rfl rfl
  · exact later _ _ _ rfl rfl
  · refine (kept.emit _ rfl).bind fun _ => (kept.invoke _ (beq_self_eq_true _) rfl).bind fun _ =>
      Keeps.read.bind fun permits => ?_
    dsimp only
    split
    · exact (kept.commit kinds.2.1 _).bind fun _ => Keeps.pure
    · exact (kept.invoke _ rfl rfl).bind fun _ => kept.committed kinds _ _ _
  · exact kept.settleUnknown kinds rfl _ _

theorem settle (o : Orchestrator) (at_ : sin.index = i) : Keeps I (settle o env sin) := by
  unfold Orchestration.settle
  split
  · exact kept.settleUnknown kinds at_ _ _
  · split
    · subst at_
      exact (kept.emit _ rfl).bind fun _ => (kept.invoke _ (beq_self_eq_true _) rfl).bind fun _ =>
        (kept.commit kinds.2.1 _).bind fun _ => Keeps.read.bind fun _ => Keeps.pure
    · exact kept.settleUnknown kinds at_ _ _
    · refine Keeps.read.bind fun pay => ?_
      split
      · exact kept.settleUnknown kinds at_ _ _
      · exact kept.settleStatus kinds o at_ _

end SettlesVia

namespace Settles

variable {T : Tx → Prop} {i : Nat} {I : World → Prop} (kept : Settles T i I)
include kept

theorem settle {env : AttemptEnv} (kinds : env.All T) (o : Orchestrator) {sin : SettleInput}
    (at_ : sin.index = i) : Keeps I (settle o env sin) := kept.via.settle kinds o at_

theorem and_fact {p : Prop} : Settles T i (fun w => p ∧ I w) := by
  have along : ∀ {α : Type} {c : Proc α}, Keeps I c → Keeps (fun w => p ∧ I w) c :=
    fun h => Triple.of_fact fun fact => h.weaken (fun _ holds => holds)
      (fun _ _ holds => ⟨fact, holds⟩) fun _ _ holds => ⟨fact, holds⟩
  exact ⟨fun e note => along (kept.emit e note), fun c own => along (kept.invoke c own),
    fun kind => along (kept.store kind), fun kind action => along (kept.commit kind action),
    fun kind => along (kept.reload kind)⟩

end Settles

theorem Settles.false {T : Tx → Prop} {i : Nat} : Settles T i (fun _ => False) :=
  ⟨fun _ _ _ h => h.elim, fun _ _ _ h => h.elim, fun _ _ h => h.elim, fun _ _ _ h => h.elim,
    fun _ _ h => h.elim⟩

theorem moves_within (tx : Tx) (h : Moves NoCall fn) : Moves NoCall (within tx fn) :=
  appends_within tx h

theorem settles_noCall (i : Nat) (start : World) : Settles (fun _ => True) i (NoCall start) :=
  settles_of_steps (fun _ note => (moves_emit (Effect.called_of_isNote note)).keeps start)
    (fun c _ => (moves_invoke c).keeps start) (fun tx => (moves_savePayment tx).keeps start)
    (fun tx => (appends_saveAttempt tx i).keeps start)
    fun tx _ kept => keeps_within_of tx kept (fun _ h => Appends.of_log h rfl)
      fun _ _ h _ => Appends.of_log h rfl

theorem moves_reload (tx : Tx) : Moves NoCall (reload tx) :=
  .of_keeps fun w => (settles_noCall 0 w).reload trivial

theorem moves_commit (tx : Tx) (i : Nat) (action : String) : Moves NoCall (commit tx i action) :=
  .of_keeps fun w => (settles_noCall i w).commit trivial action

theorem moves_settle (o : Orchestrator) (env : AttemptEnv) (sin : SettleInput) :
    Moves NoCall (settle o env sin) :=
  .of_keeps fun w => (settles_noCall sin.index w).settle ⟨trivial, trivial, trivial⟩ o rfl

/-! One attempt, and the loop over the plan. -/

/-- What an attempt keeps: `I` holds whenever no attempt is under way, `J earlier` from the moment
one has been started behind the attempts `earlier`, and `K earlier` where it has succeeded. -/
structure Attempting (T : Tx → Prop) (din : DispatchInput) (env : AttemptEnv) (gw : GatewayID)
    (I : World → Prop) (J K : List Attempt → World → Prop) : Prop where
  kinds : env.All T
  emit : ∀ e : Effect, e.isStored = false → Keeps I (emit e)
  emitDuring : ∀ earlier (e : Effect), e.isStored = false → Keeps (J earlier) (Orchestration.emit e)
  start : Triple I (startAttempt din env gw)
    (fun att w => ∃ earlier, att.sequence - 1 = earlier.length ∧ J earlier w) (fun _ => I)
  settles : ∀ earlier, SettlesVia T earlier.length (J earlier) (K earlier)
  finish : ∀ earlier w, J earlier w → I w

namespace Attempting

variable {T : Tx → Prop} {din : DispatchInput} {env : AttemptEnv} {gw : GatewayID}
  {I : World → Prop} {J K : List Attempt → World → Prop} (kept : Attempting T din env gw I J K)
include kept

theorem beforeCall {α : Type} {key : String} {c : Proc α} {P : World → Prop}
    {Q : α → World → Prop} (h : Triple P c Q (fun _ => I)) :
    Triple P (beforeCall key c) Q (fun _ => I) :=
  Triple.onFailure (h.weaken (fun _ pre => pre) (fun _ _ post => post)
    fun _ w holds => kept.emit _ rfl w holds)

theorem during {α : Type} {earlier : List Attempt} {c : Proc α} (h : Keeps (J earlier) c) :
    Triple (J earlier) c (fun _ => J earlier) (fun _ => I) :=
  h.weaken (fun _ pre => pre) (fun _ _ post => post) fun _ w post => kept.finish earlier w post

theorem dispatchHolding (o : Orchestrator) (key : String) :
    Keeps I (dispatchHolding o din env gw key) := by
  unfold Orchestration.dispatchHolding
  refine Triple.bind (R := fun _ => I)
    (kept.beforeCall (Triple.ofExcept (fun _ _ _ h => h) fun _ _ h => h)) fun account => ?_
  refine Triple.bind (kept.beforeCall kept.start) fun att => ?_
  refine Triple.of_exists fun earlier => Triple.of_fact fun at_ => ?_
  dsimp only
  rw [at_]
  have settles := kept.settles earlier
  refine Triple.bind (kept.during (settles.bindConnection din gw)) fun _ => ?_
  refine Triple.bind (kept.beforeCall (kept.during (Triple.ignoring ((settles.invoke _ rfl rfl).weaken
    (fun _ h => h) (fun _ _ h => h) fun _ _ h => by split_ifs <;> exact h)))) fun _ => ?_
  refine Triple.bind (kept.beforeCall (kept.during (settles.store kept.kinds.1))) fun _ => ?_
  refine Triple.bind (kept.beforeCall (kept.during (settles.invoke _ (beq_self_eq_true _) rfl)))
    fun _ => ?_
  refine Triple.bind (kept.during Keeps.read) fun pay => ?_
  refine Triple.bind (kept.during (kept.emitDuring earlier _ rfl)) fun _ => ?_
  exact (settles.settle kept.kinds o rfl).weaken (fun _ h => h) (fun _ => kept.finish earlier)
    fun _ => kept.finish earlier

theorem attemptOnce (o : Orchestrator) : Keeps I (attemptOnce o din env gw) := by
  unfold Orchestration.attemptOnce
  refine Keeps.bind Keeps.orFail fun _ => Keeps.bind (kept.emit _ rfl) fun _ => ?_
  refine Keeps.bind (kept.beforeCall Keeps.orFail) fun _ => Keeps.bind (kept.emit _ rfl) fun _ => ?_
  exact Triple.deferring ((kept.dispatchHolding o _).weaken (fun _ h => h)
    (fun _ w holds => kept.emit _ rfl w holds) fun _ w holds => kept.emit _ rfl w holds)

end Attempting

variable {din : DispatchInput} {o : Orchestrator}

theorem triple_iteration {I : World → Prop}
    {env : Nat → AttemptEnv} {left n : Nat} {tried : List GatewayID} {sel : Routing.Selection}
    (next : din.plan.next tried = some sel)
    (attempted : Triple P (attemptOnce o din (env n) sel.gatewayID) (fun _ => I) (fun _ => I))
    (later : ∀ n tried lastErr, Keeps I (tryPlan o din env left n tried lastErr))
    (lastErr : Option GoError) :
    Triple P (tryPlan o din env (left + 1) n tried lastErr) (fun _ => I) (fun _ => I) := by
  unfold tryPlan
  rw [next]
  refine Triple.bind (R := fun _ => I) (Triple.attempt attempted) fun result => ?_
  cases result with
  | error =>
    dsimp only
    split_ifs
    · exact later _ _ _
    · exact Keeps.pure
  | ok =>
    dsimp only
    split_ifs
    · exact Keeps.pure
    · exact later _ _ _
    · exact Keeps.pure

theorem keeps_tryPlan {I : World → Prop}
    {env : Nat → AttemptEnv} (h : ∀ n gw, Keeps I (attemptOnce o din (env n) gw)) (left : Nat) :
    ∀ n tried lastErr, Keeps I (tryPlan o din env left n tried lastErr) := by
  induction left with
  | zero => exact fun n tried lastErr => Keeps.pure
  | succ left ih =>
    intro n tried lastErr
    cases next : din.plan.next tried with
    | none =>
      unfold tryPlan
      rw [next]
      exact Keeps.pure
    | some => exact triple_iteration next (h n _) ih lastErr

theorem triple_dispatch {I : World → Prop} {env : DispatchEnv}
    (loop : Triple P (tryPlan o din env.attempts o.settings.maxAttempts 0 [] none) (fun _ => I)
      (fun _ => I))
    (reloads : Keeps I (reload env.finalTx)) :
    Triple P (dispatch o din env) (fun _ => I) (fun _ => I) := by
  unfold dispatch
  refine Triple.bind (R := fun _ => I) loop fun ended => ?_
  cases ended with
  | returned => exact Keeps.pure
  | ended lastErr =>
    refine Keeps.bind reloads fun final => ?_
    split_ifs
    · exact Keeps.pure
    · cases lastErr with
      | none => exact Keeps.pure
      | some => exact Keeps.fail

theorem keeps_dispatch {I : World → Prop}
    {env : DispatchEnv} (h : ∀ n gw, Keeps I (attemptOnce o din (env.attempts n) gw))
    (reloads : Keeps I (reload env.finalTx)) : Keeps I (dispatch o din env) :=
  triple_dispatch (keeps_tryPlan h _ 0 [] none) reloads

/-- An assertion about the core of the payment in memory. -/
def Shows (J : Core → Prop) (w : World) : Prop := J w.pay.core

variable {J : Core → Prop}

theorem triple_emit (e : Effect) : Triple (Shows J) (emit e) (fun _ => Shows J) E :=
  Triple.modify fun _ h => h

variable (tx : Tx) (w : World)

theorem core_save (p : Payment) (row : Row) : (Storage.save tx p row).1.core = p.core := by
  obtain ⟨base, events, same⟩ := Storage.save_cases tx p row
  rw [same]
  rfl

theorem keeps_savePayment : Keeps (Shows J) (savePayment tx) := by
  intro w holds
  have core := core_save tx w.pay w.row
  unfold savePayment
  rcases done : Storage.save tx w.pay w.row with ⟨pay, e | row⟩
  · rw [done] at core
    show J pay.core
    exact core.symm ▸ holds
  · rw [done] at core
    show J pay.core
    exact core.symm ▸ holds

theorem keeps_saveAttempt (i : Nat) : Keeps (Shows J) (saveAttempt tx i) := by
  refine Keeps.orFail.bind fun _ => Keeps.modify fun w holds => ?_
  cases w.pay.attempts[i]? with
  | none | some => exact holds

theorem keeps_within (h : Keeps (Shows J) fn) : Keeps (Shows J) (within tx fn) :=
  keeps_within_of tx h (fun _ holds => holds) fun _ _ _ done => done

theorem keeps_commit (i : Nat) (action : String) : Keeps (Shows J) (commit tx i action) :=
  keeps_within tx ((keeps_saveAttempt tx i).bind fun _ => (keeps_savePayment tx).bind fun _ =>
    Keeps.read.bind fun _ => Keeps.orFail.bind fun _ => triple_emit _)

theorem keeps_reload : Keeps (Shows J) (reload tx) :=
  keeps_within tx (Keeps.orFail.bind fun _ => Keeps.read.bind fun _ =>
    Triple.ofExcept (fun _ _ _ h => h) fun _ _ h => h)

theorem keeps_reloadResult (plan : Routing.Plan) (next : Option Payment.NextAction) :
    Keeps (Shows J) (reloadResult tx plan next) :=
  (keeps_reload tx).bind fun _ => Keeps.pure

theorem triple_invoke {c : Call} {J' : Core → Prop}
    (h : ∀ k k', J k → Payments.Effect k c k' → J' k') :
    Triple (Shows J) (invoke c) (fun _ => Shows J') (fun _ => Shows J') := by
  intro w holds
  have after : Shows J' { w with pay := (c.apply w.pay).1 } := h _ _ holds (c.effect w.pay)
  unfold invoke
  rcases (c.apply w.pay).2 with e | u
  · exact after
  · exact after

theorem invoke_last {w : World} {earlier : List Attempt} {a : Attempt}
    (h : w.pay.attempts = earlier ++ [a]) (c : AttemptCall) :
    (∃ e, c.apply a = .error e ∧ invoke (.attempt earlier.length c) w = (w, .error e)) ∨
      ∃ a', c.apply a = .ok a' ∧
        invoke (.attempt earlier.length c) w =
          ({ w with pay := { w.pay with attempts := earlier ++ [a'] } }, .ok ()) := by
  have found : w.pay.attempts[earlier.length]? = some a := by simp [h]
  unfold invoke
  simp only [Call.apply, found]
  cases applied : c.apply a with
  | error e => exact .inl ⟨e, rfl, rfl⟩
  | ok a' =>
    refine .inr ⟨a', rfl, ?_⟩
    simp [h]

/-- Binding a connection sets that field of the newest attempt or leaves it, and never
fails. -/
theorem bindConnection_ok {w : World} {earlier : List Attempt} {a : Attempt}
    (h : w.pay.attempts = earlier ++ [a]) (din : DispatchInput) (gw : GatewayID) :
    ∃ conn, bindConnection din gw earlier.length w =
      ({ w with pay := { w.pay with attempts := earlier ++ [{ a with connectionID := conn }] } },
        .ok ()) := by
  have unbound : ∃ conn, ((w, .ok ()) : World × Except GoError Unit) =
      ({ w with pay := { w.pay with attempts := earlier ++ [{ a with connectionID := conn }] } },
        .ok ()) := ⟨a.connectionID, by rw [← h]⟩
  unfold bindConnection
  cases din.connections.lookup gw with
  | none => exact unbound
  | some conn =>
    dsimp only
    by_cases empty : conn = ""
    · rw [if_pos empty]
      exact unbound
    rw [if_neg empty]
    unfold ignoring
    rcases invoke_last h (.bindConnection conn) with ⟨e, -, ran⟩ | ⟨a', bound, ran⟩
    · rw [ran]
      exact unbound
    · rw [ran]
      simp only [AttemptCall.apply, Attempt.bindConnection] at bound
      split_ifs at bound
      · cases bound
        exact ⟨a.connectionID, rfl⟩
      · cases bound
        exact ⟨conn, rfl⟩

theorem within_ok {tx : Tx} {w w' : World} {a : α}
    (h : within tx fn w = (w', .ok a)) : fn { w with row := tx.others w.row } = (w', .ok a) := by
  unfold within at h
  split at h
  · cases h
  · dsimp only at h
    split at h
    · cases h
    · rename_i done b ran
      split at h
      · exact ran.trans h
      · cases h
      · cases h

theorem savePayment_ok {tx : Tx} {w w' : World} (h : savePayment tx w = (w', .ok ())) :
    w.row.payment.version = w.pay.baseVersion ∧
      w' = { pay := { w.pay with baseVersion := w.pay.version, events := [] },
             row := Row.of w.pay, log := w.log ++ [.stored (Row.of w.pay)] } := by
  unfold savePayment at h
  rcases done : Storage.save tx w.pay w.row with ⟨pay, e | row⟩
  · rw [done] at h
    cases h
  · rw [done] at h
    obtain ⟨current, rfl, rfl⟩ := Storage.save_ok done
    cases h
    exact ⟨current, rfl⟩

theorem within_savePayment_ok {tx : Tx} {w w' : World}
    (h : within tx (savePayment tx) w = (w', .ok ())) :
    (tx.others w.row).payment.version = w.pay.baseVersion ∧
      w' = { pay := { w.pay with baseVersion := w.pay.version, events := [] },
             row := Row.of w.pay, log := w.log ++ [.stored (Row.of w.pay)] } :=
  savePayment_ok (within_ok h)

/-- A unit of work ends before its callback, takes back all of it but the payment in
memory, or keeps it. -/
theorem within_leaves (fn : Proc α) (w : World) : (within tx fn w).1 = w ∨
      (within tx fn w).1 = { w with row := tx.others w.row,
                                    pay := (fn { w with row := tx.others w.row }).1.pay } ∨
      ∃ w' a, fn { w with row := tx.others w.row } = (w', .ok a) ∧ (within tx fn w).1 = w' := by
  unfold within
  cases tx.beginErr with
  | some => exact .inl rfl
  | none =>
    dsimp only
    rcases done : fn { w with row := tx.others w.row } with ⟨w', e | a⟩
    · exact .inr (.inl rfl)
    · cases tx.commitEnd with
      | acknowledged | unacknowledged => exact .inr (.inr ⟨w', a, rfl, rfl⟩)
      | failed => exact .inr (.inl rfl)

def Stored (before : Row) (w w' : World) : Prop :=
  before.payment.version = w.pay.baseVersion ∧ w'.row = Row.of w.pay ∧
    ∃ notes, w'.log = w.log ++ .stored (Row.of w.pay) :: notes ∧ ∀ e ∈ notes, e.isNote = true

/-- What a transaction around a save leaves: the payment up to its base version and event buffer,
and the row others left or the payment's own. -/
def Saved (w' : World) : Prop :=
  w'.pay.core = w.pay.core ∧
    ((w'.row = w.row ∨ w'.row = tx.others w.row) ∧ w'.log = w.log ∨ Stored (tx.others w.row) w w')

theorem saved_within {tx : Tx} {fn : Proc Unit} (keeps : ∀ {J : Core → Prop}, Keeps (Shows J) fn)
    (saves : ∀ w', fn { w with row := tx.others w.row } = (w', .ok ()) →
      Stored (tx.others w.row) w w') :
    Saved tx w (within tx fn w).1 := by
  have core : (within tx fn w).1.pay.core = w.pay.core :=
    Keeps.iff_state.mp (keeps_within (J := (· = w.pay.core)) tx keeps) w rfl
  refine ⟨core, ?_⟩
  rcases within_leaves tx fn w with same | same | ⟨w', u, ran, same⟩
  · rw [same]
    exact .inl ⟨.inl rfl, rfl⟩
  · rw [same]
    exact .inl ⟨.inr rfl, rfl⟩
  · rw [same]
    exact .inr (saves w' ran)

theorem triple_saveNoting (before : Row) (tx : Tx) (entry : Payment → AuditEntry) :
    Triple (fun v => v.pay = w.pay ∧ v.log = w.log ∧
        v.row.payment.version = before.payment.version)
      (do
        savePayment tx
        let pay ← read World.pay
        recordAudit tx (entry pay))
      (fun _ => Stored before w) (fun _ _ => True) := by
  refine Triple.bind (R := fun _ u => before.payment.version = w.pay.baseVersion ∧
    u.row = Row.of w.pay ∧ u.log = w.log ++ [.stored (Row.of w.pay)]) ?_ fun _ => ?_
  · rintro u ⟨pay, log, version⟩
    rcases done : savePayment tx u with ⟨u', e | x⟩
    · exact trivial
    · obtain ⟨current, rfl⟩ := savePayment_ok done
      rw [pay] at current
      rw [pay, log]
      exact ⟨version.symm.trans current, rfl, rfl⟩
  · refine Triple.bind Triple.reading fun p => Triple.bind (R := fun _ u =>
      before.payment.version = w.pay.baseVersion ∧ u.row = Row.of w.pay ∧
        u.log = w.log ++ [.stored (Row.of w.pay)])
      (Triple.orFail (fun _ _ h => h) fun _ _ _ => trivial) fun _ => Triple.modify ?_
    rintro u ⟨current, row, log⟩
    have grown : ∀ e : Effect, (u.emit e).log = w.log ++ .stored (Row.of w.pay) :: [e] := by
      intro e
      rw [World.emit, log, List.append_assoc]
      rfl
    exact ⟨current, row, _, grown _, by simp [Effect.isNote]⟩

theorem saved_store : Saved tx w (within tx (savePayment tx) w).1 := by
  refine saved_within w (keeps_savePayment tx) fun w' ran => ?_
  obtain ⟨current, rfl⟩ := savePayment_ok ran
  exact ⟨current, rfl, [], rfl, by simp⟩

theorem recordOutcome_stored {tx : Tx} {i : Nat} {action : String} {w w' : World} {before : Row}
    (ran : recordOutcome tx i action { w with row := before } = (w', .ok ())) :
    Stored before w w' := by
  have attempted : Triple (fun u : World => u.pay = w.pay ∧ u.log = w.log ∧
      u.row.payment.version = before.payment.version) (saveAttempt tx i)
      (fun _ u => u.pay = w.pay ∧ u.log = w.log ∧
        u.row.payment.version = before.payment.version) (fun _ _ => True) := by
    refine Triple.bind (R := fun _ u => u.pay = w.pay ∧ u.log = w.log ∧
        u.row.payment.version = before.payment.version)
      (Triple.orFail (fun _ _ h => h) fun _ _ _ => trivial) fun _ => Triple.modify fun u h => ?_
    split
    · exact h
    · exact h
  have recorded := Triple.bind attempted fun _ => triple_saveNoting w _ tx fun pay =>
    { action := action, resourceType := "payment", resourceID := pay.id, outcome := "SUCCESS",
      detail := attemptDetail pay i }
  have done := recorded { w with row := before } ⟨rfl, rfl, rfl⟩
  unfold recordOutcome at ran
  rw [ran] at done
  exact done

theorem commit_stored {tx : Tx} {i : Nat} {action : String} {w w' : World}
    (ran : commit tx i action w = (w', .ok ())) : Stored (tx.others w.row) w w' :=
  recordOutcome_stored (within_ok ran)

theorem saved_commit (i : Nat) (action : String) (w : World) :
    Saved tx w (commit tx i action w).1 :=
  saved_within w ((keeps_saveAttempt tx i).bind fun _ => (keeps_savePayment tx).bind fun _ =>
    Keeps.read.bind fun _ => Keeps.orFail.bind fun _ => triple_emit _) fun _ ran =>
      recordOutcome_stored ran

theorem reload_leaves :
    ∃ row, (reload tx w).1 = { w with row := row } ∧ (row = w.row ∨ row = tx.others w.row) := by
  have body : ∀ v : World, ∃ r : Except GoError Payment, (do
      orFail tx.readErr
      let row ← read World.row
      ofExcept row.payment.rehydrate : Proc Payment) v = (v, r) := by
    intro v
    cases tx.readErr with
    | some e => exact ⟨.error e, rfl⟩
    | none => exact ⟨v.row.payment.rehydrate, rfl⟩
  unfold reload within
  cases tx.beginErr with
  | some => exact ⟨w.row, rfl, .inl rfl⟩
  | none =>
    dsimp only
    obtain ⟨r, ran⟩ := body { w with row := tx.others w.row }
    rw [ran]
    refine ⟨tx.others w.row, ?_, .inr rfl⟩
    cases r with
    | error => rfl
    | ok => cases tx.commitEnd <;> rfl

theorem reload_alone {tx : Tx} (alone : tx.others = id) (w : World) : (reload tx w).1 = w := by
  obtain ⟨row, left, same | other⟩ := reload_leaves tx w
  · rw [left, same]
  · rw [left, other, alone]
    rfl

theorem reload_of_known {tx : Tx} {w : World} (begins : tx.beginErr = none) (alone : tx.others = id)
    (reads : tx.readErr = none) (ends : tx.commitEnd = .acknowledged)
    (known : w.row.payment.state.isKnown = true) : ∃ p, reload tx w = (w, .ok p) := by
  refine ⟨{ w.row.payment with baseVersion := w.row.payment.version, events := [] }, ?_⟩
  have found : w.row.payment.rehydrate =
      .ok { w.row.payment with baseVersion := w.row.payment.version, events := [] } := by
    rw [Payment.rehydrate, if_neg (by simp [known])]
  have body : (do
      orFail tx.readErr
      let row ← read World.row
      ofExcept row.payment.rehydrate : Proc Payment) w =
        (w, .ok { w.row.payment with baseVersion := w.row.payment.version, events := [] }) := by
    rw [reads, ← found]
    rfl
  unfold reload within
  rw [begins, alone]
  dsimp only [id]
  rw [body, ends]

theorem within_savePayment_stale {tx : Tx} {w : World} (alone : tx.others = id)
    (stale : w.row.payment.version ≠ w.pay.baseVersion) :
    ∃ e, within tx (savePayment tx) w = (w, .error e) := by
  obtain ⟨e, refused⟩ := Storage.save_stale tx stale
  have saving : savePayment tx { w with row := tx.others w.row } = (w, .error e) := by
    rw [alone]
    show savePayment tx w = (w, .error e)
    rw [savePayment, refused]
  unfold within
  cases tx.beginErr with
  | some e => exact ⟨e, rfl⟩
  | none =>
    refine ⟨e, ?_⟩
    dsimp only
    rw [saving, alone]
    rfl

end PaymentsPlatform.Orchestration
