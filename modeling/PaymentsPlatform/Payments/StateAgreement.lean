/- layer: invariants of the payment aggregate
   digest: The state against the attempts and the totals, and where a won dispute returns a payment.
     -/

import PaymentsPlatform.Payments.Totals

namespace PaymentsPlatform.Payments

open Lib.TransitionSystem
open Shared (StateMachine)
open Payment (refundedState)

section Closed

def noMoneyMoved : List State := [.failed, .canceled, .voided, .expired]

/-- An attempt that may have moved money without the platform knowing. -/
def Attempt.mayHaveMoved (a : Attempt) : Bool :=
  a.outcome == .timeoutUnknown || a.outcome == .dispatched

def ClosedCleanly (p : Payment) : Prop :=
  p.state ∈ noMoneyMoved → ∀ a ∈ p.attempts, a.mayHaveMoved = false

/-- A call that closes the payment over an attempt still out, or sends an attempt out
on a payment already closed. -/
def Call.leavesAttemptOut (p : Payment) : Call → Bool
  | .payment (.markFailed ..) =>
    !p.hasUnresolvedAttempt && machine.canTransition p.state .failed &&
      p.attempts.any (·.outcome == .dispatched)
  | .payment (.void _) =>
    machine.canTransition p.state .voided && p.attempts.any Attempt.mayHaveMoved
  | .payment (.cancel ..) =>
    machine.canTransition p.state .canceled && p.attempts.any Attempt.mayHaveMoved
  | .payment (.expire _) =>
    machine.canTransition p.state .expired && p.attempts.any Attempt.mayHaveMoved
  | .attempt i (.dispatch _) =>
    p.state.isTerminal && p.attempts[i]?.any (·.outcome == .pending)
  | _ => false

private theorem isTerminal_iff (s : State) : s.isTerminal = true ↔ s ∈ noMoneyMoved := by
  simp [State.isTerminal, StateMachine.isTerminal, machine, terminalStates, noMoneyMoved]

private theorem Attempt.mayHaveMoved_iff (a : Attempt) :
    a.mayHaveMoved = true ↔ a.outcome = .timeoutUnknown ∨ a.outcome = .dispatched := by
  simp [Attempt.mayHaveMoved]

private theorem AttemptCall.mayHaveMoved_before {a a' : Attempt} {c : AttemptCall}
    (h : c.apply a = .ok a') (out : a'.mayHaveMoved = true) :
    a.mayHaveMoved = true ∨ (a.outcome = .pending ∧ ∃ now, c = .dispatch now) := by
  rw [a'.mayHaveMoved_iff] at out
  rw [a.mayHaveMoved_iff]
  rcases AttemptCall.outcome_of_apply h with ⟨_, same⟩ | ⟨o, _, reached, edge, sent⟩
  · rw [same] at out
    exact .inl out
  · rw [reached] at out
    rcases out with rfl | rfl
    · exact .inl (.inr (attemptMachine.edge_rule
        (P := fun src dst => dst = .timeoutUnknown → src = .dispatched) (by decide) edge rfl))
    · exact .inr ⟨attemptMachine.edge_rule
        (P := fun src dst => dst = .dispatched → src = .pending) (by decide) edge rfl, sent rfl⟩

private theorem Effect.closedCleanly {p : Payment} {c : Call} {k' : Core}
    (h : Effect p.core c k') (careful : c.leavesAttemptOut p = false) (clean : ClosedCleanly p)
    (closed : k'.state ∈ noMoneyMoved) : ∀ a ∈ k'.attempts, a.mayHaveMoved = false := by
  cases h with
  | keep | openRefund | confirmRefused | refund => exact clean closed
  | start alive first resolved fresh what =>
    have final := (isTerminal_iff _).mpr closed
    exact absurd (alive.symm.trans final) (by decide)
  | resolve named disputed =>
    rename_i won _ dst
    change dst ∈ _ at closed
    cases won <;> simp [resolutions] at named
    · subst named
      exact absurd closed (by decide)
    · rcases named with rfl | rfl <;> exact absurd closed (by decide)
  | authorize | capture => exact absurd closed (by simp [noMoneyMoved])
  | confirm found submitted succeeded amount sum currency comparable edge =>
    unfold refundedState at closed
    dsimp only at closed
    split_ifs at closed <;> exact absurd closed (by decide)
  | fail resolved edge =>
    have settled := p.hasUnresolvedAttempt_eq_false.mpr resolved
    have allowed : machine.canTransition p.state .failed = true := edge
    simp only [Call.leavesAttemptOut, settled, allowed, Bool.not_false, Bool.true_and,
      List.any_eq_false, beq_iff_eq] at careful
    intro a mem
    rw [← Bool.not_eq_true, a.mayHaveMoved_iff]
    rintro (unknown | sent)
    · exact resolved a mem unknown
    · exact careful a mem sent
  | move named edge =>
    rename_i c dst
    change dst ∈ noMoneyMoved at closed
    have allowed : machine.canTransition p.state dst = true := edge
    cases c <;> simp only [PaymentCall.targets, List.mem_singleton, List.not_mem_nil] at named
      <;> subst named
    case void | cancel | expire =>
      simp only [Call.leavesAttemptOut, allowed, Bool.true_and, List.any_eq_false] at careful
      exact fun a mem => eq_false_of_ne_true (careful a mem)
    all_goals exact absurd closed (by decide)
  | attempt found applied =>
    rename_i i c a a'
    have present : a ∈ p.attempts := List.mem_of_getElem? found
    intro x mem
    rcases List.mem_or_eq_of_mem_set mem with old | rfl
    · exact clean closed x old
    · by_contra out
      rcases AttemptCall.mayHaveMoved_before applied (by simpa using out) with
        before | ⟨pending, now, rfl⟩
      · exact absurd (before.symm.trans (clean closed a present)) (by decide)
      · have final : p.state.isTerminal = true := (isTerminal_iff _).mpr closed
        have here : p.attempts[i]? = some a := found
        simp [Call.leavesAttemptOut, final, here, pending] at careful

/-- As long as no call closes the payment over an attempt still out, or sends one out
on a closed payment, a payment that asserts no money moved has no attempt that may
have moved some. -/
theorem closedCleanly_of_reachable (p : Payment)
    (h : paymentSystem.ReachableUnder (fun q c => c.leavesAttemptOut q = false) p) :
    ClosedCleanly p := by
  refine System.ReachableUnder.invariant (P := ClosedCleanly) ?_ ?_ h
  · rintro p ⟨params, id, now, built⟩ closed
    obtain ⟨_, cm, payload, rfl⟩ := Payment.new_ok built
    exact absurd closed (by simp [noMoneyMoved, Payment.raise, Payment.fresh])
  · intro p c _ clean careful closed
    exact (c.effect p).closedCleanly careful clean closed

/-- The capture attempt is answered, and the authorization then expires. -/
def expireCalls : List Call :=
  authorizeCalls ++
    [.attempt 1 (.dispatch 5), .attempt 1 (.fail "GATEWAY_UNAVAILABLE" "" 6),
      .payment (.expire 100)]

theorem closedCleanly_expired :
    paymentSystem.ReachableUnder (fun q c => c.leavesAttemptOut q = false)
        (sampleRun expireCalls) ∧
      (sampleRun expireCalls).state = .expired ∧ ClosedCleanly (sampleRun expireCalls) := by
  have reached := System.reachableUnder_run
    (G := fun q c => c.leavesAttemptOut q = false) (.init init_samplePayment)
    expireCalls (by decide +kernel)
  exact ⟨reached, by decide +kernel, closedCleanly_of_reachable _ reached⟩

/-- The capture attempt times out, and the authorization then expires: EXPIRED, with a
capture that may have gone through. -/
def expireUnresolvedCalls : List Call :=
  authorizeCalls ++
    [.attempt 1 (.dispatch 5), .attempt 1 (.timeOut "no answer" 6), .payment (.expire 100)]

theorem not_closedCleanly_expired :
    paymentSystem.Reachable (sampleRun expireUnresolvedCalls) ∧
      ¬ ClosedCleanly (sampleRun expireUnresolvedCalls) := by
  refine ⟨reachable_sampleRun _, fun clean => ?_⟩
  have closed : (sampleRun expireUnresolvedCalls).state ∈ noMoneyMoved := by decide +kernel
  have unresolved : (sampleRun expireUnresolvedCalls).attempts.any Attempt.mayHaveMoved = true := by
    decide +kernel
  obtain ⟨a, mem, out⟩ := List.any_eq_true.mp unresolved
  exact absurd (out.symm.trans (clean closed a mem)) (by decide)

def Attempt.isAuthorization (a : Attempt) : Bool := a.operation == .authorize

def Attempt.succeededAuthorization (a : Attempt) : Bool :=
  a.isAuthorization && a.outcome == .success

/-- An authorize attempt that has been started and not answered in any way. -/
def Attempt.unansweredAuthorization (a : Attempt) : Bool :=
  a.isAuthorization && (a.outcome == .pending || a.outcome == .dispatched)

def Attempt.maySucceedAuthorization (a : Attempt) : Bool :=
  a.isAuthorization && !(a.outcome == .declined || a.outcome == .error)

def SingleAuthorization (p : Payment) : Prop :=
  p.attempts.countP Attempt.succeededAuthorization ≤ 1

/-- `StartAttempt` accepting an authorization while an earlier one has no answer yet: the
source looks for SUCCESS and TIMEOUT_UNKNOWN only. -/
def Call.startsBeside (p : Payment) : Call → Bool
  | .payment (.startAttempt _ _ op _ _) =>
    op == .authorize && !p.state.isTerminal && !p.successfulAttempt.isSome &&
      !p.hasUnresolvedAttempt && p.attempts.any Attempt.unansweredAuthorization
  | _ => false

private theorem AttemptCall.maySucceed_before {a a' : Attempt} {c : AttemptCall}
    (h : c.apply a = .ok a') (may : a'.maySucceedAuthorization = true) :
    a.maySucceedAuthorization = true := by
  have operation := (AttemptCall.identity_of_apply h).2.2.1
  simp only [Attempt.maySucceedAuthorization, Attempt.isAuthorization, operation,
    Bool.and_eq_true] at may ⊢
  refine ⟨may.1, ?_⟩
  rcases AttemptCall.outcome_of_apply h with ⟨_, same⟩ | ⟨o, _, _, edge, _⟩
  · rw [← same]
    exact may.2
  · have left : a.outcome ≠ .declined ∧ a.outcome ≠ .error :=
      attemptMachine.edge_rule (P := fun src _ => src ≠ .declined ∧ src ≠ .error) (by decide) edge
    simp [left.1, left.2]

private theorem countP_set_le {α : Type} {f : α → Bool} {l : List α} {i : Nat} {a a' : α}
    (found : l[i]? = some a) (kept : f a' = true → f a = true) :
    (l.set i a').countP f ≤ l.countP f := by
  obtain ⟨bound, rfl⟩ := List.getElem?_eq_some_iff.mp found
  rw [List.countP_set bound]
  by_cases after : f a' = true
  · have present : 0 < l.countP f :=
      List.countP_pos_iff.mpr ⟨l[i], List.getElem_mem bound, kept after⟩
    simp only [after, kept after, if_true]
    omega
  · simp only [if_neg after]
    omega

variable {p : Payment}

/-- An authorize attempt may succeed only because it has no answer yet, is unknown, or has
succeeded; `StartAttempt` and the guard between them exclude all three. -/
private theorem no_rival (unresolved : ∀ a ∈ p.attempts, a.outcome ≠ .timeoutUnknown)
    (unsuccessful : ∀ a ∈ p.attempts, a.outcome ≠ .success)
    (answered : p.attempts.any Attempt.unansweredAuthorization = false)
    (known : ∀ a ∈ p.attempts, a.outcome ∈ allAttemptOutcomes) :
    p.attempts.countP Attempt.maySucceedAuthorization = 0 := by
  rw [List.countP_eq_zero]
  intro a mem may
  have quiet := List.any_eq_false.mp answered a mem
  have named := known a mem
  have noTimeout := unresolved a mem
  have noSuccess := unsuccessful a mem
  simp only [Attempt.maySucceedAuthorization, Attempt.unansweredAuthorization,
    Bool.and_eq_true, Bool.or_eq_true, Bool.not_eq_true', Bool.or_eq_false_iff,
    beq_iff_eq, beq_eq_false_iff_ne] at may quiet
  simp only [allAttemptOutcomes, List.mem_cons, List.not_mem_nil, or_false] at named
  tauto

structure Solitary (attempts : List Attempt) : Prop where
  known : ∀ a ∈ attempts, a.outcome ∈ allAttemptOutcomes
  rivals : attempts.countP Attempt.maySucceedAuthorization ≤ 1

private theorem Effect.solitary {c : Call} {k' : Core} (h : Effect p.core c k')
    (apart : c.startsBeside p = false) (before : Solitary p.attempts) :
    Solitary k'.attempts := by
  cases h with
  | keep | move | resolve | fail | authorize | capture | openRefund | confirm | confirmRefused
  | refund => exact before
  | start alive first resolved fresh what =>
    rename_i op _ _ att
    refine ⟨?_, ?_⟩
    · intro a mem
      rcases List.mem_append.mp mem with old | new
      · exact before.known a old
      · rw [List.mem_singleton.mp new, fresh]
        decide
    · show (p.attempts ++ [att]).countP Attempt.maySucceedAuthorization ≤ 1
      rw [List.countP_append]
      by_cases authorizing : op = .authorize
      · -- the guard is used here only: nothing else keeps a second authorization out
        have unsuccessful := first authorizing
        have alone : p.attempts.any Attempt.unansweredAuthorization = false := by
          have noSuccess : p.successfulAttempt.isSome = false := by
            rw [← Bool.not_eq_true, p.successfulAttempt_isSome]
            rintro ⟨a, mem, success⟩
            exact unsuccessful a mem success
          have noTimeout := p.hasUnresolvedAttempt_eq_false.mpr resolved
          have live : p.state.isTerminal = false := alive
          simpa [Call.startsBeside, authorizing, live, noSuccess, noTimeout] using apart
        have none := no_rival resolved unsuccessful alone before.known
        have one : [att].countP Attempt.maySucceedAuthorization ≤ 1 :=
          List.countP_le_length
        omega
      · have other : [att].countP Attempt.maySucceedAuthorization = 0 := by
          simp [Attempt.maySucceedAuthorization, Attempt.isAuthorization, what, authorizing]
        have rivals := before.rivals
        omega
  | attempt found applied =>
    rename_i i c a a'
    have here : p.attempts[i]? = some a := found
    refine ⟨?_, ?_⟩
    · intro x mem
      rcases List.mem_or_eq_of_mem_set mem with old | rfl
      · exact before.known x old
      · rcases AttemptCall.outcome_of_apply applied with ⟨_, same⟩ | ⟨o, _, reached, edge, _⟩
        · rw [same]
          exact before.known a (List.mem_of_getElem? here)
        · rw [reached]
          exact attemptMachine.edge_rule (P := fun _ dst => dst ∈ allAttemptOutcomes)
            (by decide) edge
    · exact (countP_set_le here (AttemptCall.maySucceed_before applied)).trans before.rivals

theorem Solitary.single (h : Solitary p.attempts) : SingleAuthorization p := by
  refine (List.countP_mono_left ?_).trans h.rivals
  intro a _ succeeded
  simp only [Attempt.succeededAuthorization, Bool.and_eq_true, beq_iff_eq] at succeeded
  simp [Attempt.maySucceedAuthorization, succeeded]

/-- As long as no authorization is started beside one that has no answer yet, one
authorize attempt at most ends in SUCCESS. -/
theorem singleAuthorization_of_reachable (p : Payment)
    (h : paymentSystem.ReachableUnder (fun q c => c.startsBeside q = false) p) :
    SingleAuthorization p := by
  refine Solitary.single (System.ReachableUnder.invariant (P := fun q => Solitary q.attempts)
    ?_ ?_ h)
  · rintro p ⟨params, id, now, built⟩
    obtain ⟨_, cm, payload, rfl⟩ := Payment.new_ok built
    exact ⟨fun a mem => absurd mem List.not_mem_nil, Nat.zero_le 1⟩
  · intro p c _ before apart
    exact (c.effect p).solitary apart before

/-- The first gateway declines, and the second one authorizes. -/
def failoverCalls : List Call :=
  [.payment (.startAttempt "stripe" "plan_1" .authorize ⟨"att_1", "gk_1"⟩ 1),
    .payment (.markProcessing 1), .attempt 0 (.dispatch 2),
    .attempt 0 (.decline .issuerUnavailable "pi_1" "declined" false 3),
    .payment (.startAttempt "adyen" "plan_1" .authorize ⟨"att_2", "gk_2"⟩ 4),
    .attempt 1 (.dispatch 5), .attempt 1 (.succeed "pi_2" "ok" 6)]

theorem singleAuthorization_failover :
    paymentSystem.ReachableUnder (fun q c => c.startsBeside q = false)
        (sampleRun failoverCalls) ∧
      (sampleRun failoverCalls).attempts.countP Attempt.succeededAuthorization = 1 ∧
      SingleAuthorization (sampleRun failoverCalls) := by
  have reached := System.reachableUnder_run
    (G := fun q c => c.startsBeside q = false) (.init init_samplePayment)
    failoverCalls (by decide +kernel)
  exact ⟨reached, by decide +kernel, singleAuthorization_of_reachable _ reached⟩

/-- Two authorizations are started and sent before either is answered, and both are
accepted. -/
def rivalCalls : List Call :=
  [.payment (.startAttempt "stripe" "plan_1" .authorize ⟨"att_1", "gk_1"⟩ 1),
    .attempt 0 (.dispatch 2),
    .payment (.startAttempt "adyen" "plan_1" .authorize ⟨"att_2", "gk_2"⟩ 3),
    .attempt 1 (.dispatch 4), .attempt 0 (.succeed "pi_1" "ok" 5),
    .attempt 1 (.succeed "psp_2" "ok" 6)]

theorem not_singleAuthorization_rivals :
    paymentSystem.Reachable (sampleRun rivalCalls) ∧
      ¬ SingleAuthorization (sampleRun rivalCalls) := by
  refine ⟨reachable_sampleRun _, ?_⟩
  have two : (sampleRun rivalCalls).attempts.countP Attempt.succeededAuthorization = 2 := by
    decide +kernel
  intro single
  have bound : (sampleRun rivalCalls).attempts.countP Attempt.succeededAuthorization ≤ 1 := single
  omega

end Closed

open Pkg

/-- The history last entered REFUNDED by losing a dispute: since that call the
payment has stayed there. -/
def LostLastDispute (p₀ : Payment) (calls : List Call) : Prop :=
  ∃ before now after, calls = before ++ .payment (.resolveDispute false now) :: after ∧
    (paymentSystem.run p₀ before).state = .disputed ∧
    ∀ part, part <+: after →
      (paymentSystem.run p₀ (before ++ .payment (.resolveDispute false now) :: part)).state =
        .refunded

/-- At some point of the history the payment was disputed with money already
returned. -/
def DisputedAfterRefund (p₀ : Payment) (calls : List Call) : Prop :=
  ∃ before, before <+: calls ∧ (paymentSystem.run p₀ before).state = .disputed ∧
    0 < (paymentSystem.run p₀ before).refundedAmount.minor

/-- The agreement of state and totals at the end of a history. -/
structure StateAgrees (p₀ : Payment) (calls : List Call) : Prop where
  partiallyRefunded : (paymentSystem.run p₀ calls).state = .partiallyRefunded →
    0 < (paymentSystem.run p₀ calls).refundedAmount.minor ∧
      (paymentSystem.run p₀ calls).refundedAmount.minor <
        (paymentSystem.run p₀ calls).capturedAmount.minor
  refunded : (paymentSystem.run p₀ calls).state = .refunded →
    (paymentSystem.run p₀ calls).refundedAmount.minor =
        (paymentSystem.run p₀ calls).capturedAmount.minor ∨
      LostLastDispute p₀ calls
  captured : (paymentSystem.run p₀ calls).state = .captured ∨
      (paymentSystem.run p₀ calls).state = .settled →
    (paymentSystem.run p₀ calls).refundedAmount.minor = 0 ∨ DisputedAfterRefund p₀ calls

variable {c : Call}

theorem LostLastDispute.concat {p₀ : Payment} {calls : List Call}
    (h : LostLastDispute p₀ calls)
    (stays : (paymentSystem.run p₀ (calls ++ [c])).state = .refunded) :
    LostLastDispute p₀ (calls ++ [c]) := by
  obtain ⟨before, now, after, rfl, disputed, kept⟩ := h
  refine ⟨before, now, after ++ [c], by simp, disputed, ?_⟩
  intro part short
  rcases List.prefix_concat_iff.mp short with rfl | old
  · simpa using stays
  · exact kept part old

theorem DisputedAfterRefund.concat {p₀ : Payment} {calls : List Call} (c : Call)
    (h : DisputedAfterRefund p₀ calls) : DisputedAfterRefund p₀ (calls ++ [c]) := by
  obtain ⟨before, short, disputed, returned⟩ := h
  exact ⟨before, short.trans (List.prefix_append _ _), disputed, returned⟩

private theorem refundedState_partially (a b : Int) :
    refundedState (compare a b) = .partiallyRefunded ↔ a < b := by
  unfold refundedState
  rw [← compare_lt_iff_lt]
  split_ifs with less <;> simp [less]

private theorem refundedState_refunded (a b : Int) :
    refundedState (compare a b) = .refunded ↔ b ≤ a := by
  unfold refundedState
  rw [← not_lt, ← compare_lt_iff_lt]
  split_ifs with less <;> simp [less]

private theorem refundedState_ne (order : Ordering) :
    refundedState order ≠ .captured ∧ refundedState order ≠ .settled := by
  unfold refundedState
  split_ifs <;> decide

variable {k k' : Core}

private theorem Effect.partially (h : Effect k c k') (s : Sound k)
    (agreed : k.state = .partiallyRefunded →
      0 < k.refunded.minor ∧ k.refunded.minor < k.captured.minor)
    (now : k'.state = .partiallyRefunded) :
    0 < k'.refunded.minor ∧ k'.refunded.minor < k'.captured.minor := by
  cases h with
  | keep | start | attempt | openRefund | confirmRefused | refund => exact agreed now
  | move named edge =>
    rename_i c dst
    change dst = _ at now
    subst now
    cases c <;> simp [PaymentCall.targets] at named
  | resolve named disputed =>
    rename_i won _ dst
    change dst = _ at now
    subst now
    cases won <;> simp [resolutions] at named
  | fail | authorize | capture => cases now
  | confirm found submitted succeeded amount sum currency comparable edge =>
    have positive := s.refundPositive _ (List.mem_of_getElem? (findRefund_some found))
    have nonneg := s.refundedNonneg
    refine ⟨?_, (refundedState_partially _ _).mp now⟩
    dsimp only
    omega

private theorem Effect.fully (h : Effect k c k') (s' : Sound k')
    (now : k'.state = .refunded) :
    (k.state = .refunded ∧ k'.refunded = k.refunded ∧ k'.captured = k.captured) ∨
      k'.refunded.minor = k'.captured.minor ∨
      (k.state = .disputed ∧ ∃ at_, c = .payment (.resolveDispute false at_)) := by
  cases h with
  | keep | start | attempt | openRefund | confirmRefused | refund => exact .inl ⟨now, rfl, rfl⟩
  | move named edge =>
    rename_i c dst
    change dst = _ at now
    subst now
    cases c <;> simp [PaymentCall.targets] at named
  | resolve named disputed =>
    rename_i won _ dst
    change dst = _ at now
    subst now
    cases won with
    | false => exact .inr (.inr ⟨disputed, _, rfl⟩)
    | true => simp [resolutions] at named
  | fail | authorize | capture => cases now
  | confirm found submitted succeeded amount sum currency comparable edge =>
    exact .inr (.inl (Int.le_antisymm s'.refunded_le ((refundedState_refunded _ _).mp now)))

private theorem Effect.unreturned (h : Effect k c k') (s : Sound k)
    (now : k'.state = .captured ∨ k'.state = .settled) :
    k'.refunded = k.refunded ∧
      ((k.state = .captured ∨ k.state = .settled) ∨ k.state = .disputed ∨
        k.refunded.minor = 0) := by
  cases h with
  | keep | start | attempt | openRefund | confirmRefused | refund => exact ⟨rfl, .inl now⟩
  | move named edge =>
    refine ⟨rfl, ?_⟩
    rename_i c dst
    have settled : dst = .settled := by
      rcases now with h | h
      · change dst = _ at h
        subst h
        cases c <;> simp [PaymentCall.targets] at named
      · exact h
    rw [settled] at edge
    rcases machine.edge_rule (P := fun src dst => dst = .settled →
      src = .captured ∨ src = .disputed) (by decide) edge rfl with h | h
    · exact .inl (.inl h)
    · exact .inr (.inl h)
  | resolve named disputed => exact ⟨rfl, .inr (.inl disputed)⟩
  | fail | authorize => rcases now with h | h <;> cases h
  | capture positive sum currency within edge =>
    refine ⟨rfl, .inr ?_⟩
    rcases machine.edge_rule (P := fun src dst => dst = .captured →
      src.drawn = false ∨ src = .disputed) (by decide) edge rfl with dry | h
    · have empty := s.undrawn dry
      have most := s.refunded_le
      have nonneg := s.refundedNonneg
      exact .inr (by omega)
    · exact .inl h
  | confirm found submitted succeeded amount sum currency comparable edge =>
    rcases now with h | h
    · exact absurd h (refundedState_ne _).1
    · exact absurd h (refundedState_ne _).2

/-- In every history of a new payment the state agrees with the totals: a partial refund is one, a
full one is one unless it stands for a lost dispute, and a captured or settled payment has returned
nothing unless it was disputed after returning something. -/
theorem state_agrees_with_totals (p₀ : Payment) (created : paymentSystem.init p₀)
    (calls : List Call) : StateAgrees p₀ calls := by
  induction calls using List.reverseRecOn with
  | nil =>
    obtain ⟨params, id, now, built⟩ := created
    obtain ⟨_, cm, payload, rfl⟩ := Payment.new_ok built
    refine ⟨(fun h => nomatch h), (fun h => nomatch h), fun h => ?_⟩
    rcases h with h | h <;> cases h
  | append_singleton calls c ih =>
    have reached : paymentSystem.Reachable (paymentSystem.run p₀ calls) :=
      System.reachable_run (.init created) calls
    have s := sound_of_reachable reached
    have s' := sound_of_reachable (.step c reached trivial)
    have effect := c.effect (paymentSystem.run p₀ calls)
    have last : paymentSystem.run p₀ (calls ++ [c]) = (c.apply (paymentSystem.run p₀ calls)).1 :=
      paymentSystem.run_concat p₀ calls c
    refine ⟨fun h => ?_, fun h => ?_, fun h => ?_⟩
    · rw [last] at h ⊢
      exact effect.partially s ih.partiallyRefunded h
    · have stays := h
      rw [last] at h ⊢
      rcases effect.fully s' h with ⟨before, refunded, captured⟩ | equal | ⟨disputed, now, rfl⟩
      · rcases ih.refunded before with equal | lost
        · exact .inl ((congrArg Money.minor refunded).trans
            (equal.trans (congrArg Money.minor captured).symm))
        · exact .inr (lost.concat stays)
      · exact .inl equal
      · refine .inr ⟨calls, now, [], rfl, disputed, ?_⟩
        intro part short
        rw [List.prefix_nil.mp short]
        exact stays
    · rw [last] at h ⊢
      obtain ⟨same, source⟩ := effect.unreturned s h
      have kept := congrArg Money.minor same
      have nonneg : 0 ≤ (paymentSystem.run p₀ calls).refundedAmount.minor := s.refundedNonneg
      rcases source with before | disputed | empty
      · rcases ih.captured before with empty | earlier
        · exact .inl (kept.trans empty)
        · exact .inr (earlier.concat c)
      · rcases nonneg.eq_or_lt with empty | returned
        · exact .inl (kept.trans empty.symm)
        · exact .inr ⟨calls, List.prefix_append _ _, disputed, returned⟩
      · exact .inl (kept.trans empty)

/-- A captured payment, refunded in part. -/
theorem state_agrees_with_totals_samplePayment :
    paymentSystem.init samplePayment ∧
      StateAgrees samplePayment
        (captureCalls ++ refundCalls ++ [.payment (.confirmRefund "re_1" "" 5)]) :=
  ⟨init_samplePayment, state_agrees_with_totals _ init_samplePayment _⟩

def AllAccepted (p₀ : Payment) (calls : List Call) : Prop :=
  paymentSystem.Meets (fun p c => (c.apply p).2.isOk = true) p₀ calls

/-- A dispute over ten captured dollars, lost: REFUNDED with nothing refunded. -/
theorem refunded_without_refund :
    paymentSystem.init samplePayment ∧
      AllAccepted samplePayment (captureCalls ++
        [.payment (.markDisputed "dp_1" "fraudulent" 5), .payment (.resolveDispute false 6)]) ∧
      (sampleRun (captureCalls ++ [.payment (.markDisputed "dp_1" "fraudulent" 5),
        .payment (.resolveDispute false 6)])).state = .refunded ∧
      (sampleRun (captureCalls ++ [.payment (.markDisputed "dp_1" "fraudulent" 5),
        .payment (.resolveDispute false 6)])).refundedAmount.minor = 0 ∧
      (sampleRun (captureCalls ++ [.payment (.markDisputed "dp_1" "fraudulent" 5),
        .payment (.resolveDispute false 6)])).capturedAmount.minor = 1000 := by
  refine ⟨init_samplePayment, ?_, ?_, ?_, ?_⟩
  · unfold AllAccepted
    decide +kernel
  · decide +kernel
  · decide +kernel
  · decide +kernel

open Lib.TransitionSystem

/-- What may happen to a payment in memory between two calls: its events are drained,
or it is saved and later read back. -/
inductive Interlude where
  | drain
  | reload
  deriving DecidableEq

def Interlude.apply (p : Payment) : Interlude → Except GoError Payment
  | .drain => .ok p.drainEvents.1
  | .reload => p.rehydrate

def interludes (p : Payment) : List Interlude → Except GoError Payment
  | [] => .ok p
  | i :: rest =>
    match i.apply p with
    | .error e => .error e
    | .ok q => interludes q rest

/-- A step of a payment's life: a call, or an interlude.  A row that cannot be read
back leaves the payment where it was. -/
inductive LifeStep where
  | call (c : Call)
  | interlude (i : Interlude)
  deriving DecidableEq

def LifeStep.apply (p : Payment) : LifeStep → Payment
  | .call c => (c.apply p).1
  | .interlude i =>
    match i.apply p with
    | .error _ => p
    | .ok q => q

/-- Payments under calls, drains and reloads in any order. -/
def paymentLife : System Payment LifeStep where
  init := paymentSystem.init
  step := LifeStep.apply

theorem Interlude.apply_ok {p q : Payment} {i : Interlude} (h : i.apply p = .ok q) :
    q.core = p.core ∧ q.events = [] := by
  cases i with
  | drain =>
    cases h
    exact ⟨rfl, rfl⟩
  | reload =>
    simp only [Interlude.apply, Payment.rehydrate] at h
    split_ifs at h
    cases h
    exact ⟨rfl, rfl⟩

theorem interludes_ok (p : Payment) (known : p.state.isKnown = true) (pauses : List Interlude) :
    ∃ q, interludes p pauses = .ok q ∧ q.core = p.core ∧
      q.events = if pauses = [] then p.events else [] := by
  induction pauses generalizing p with
  | nil => exact ⟨p, rfl, rfl, rfl⟩
  | cons i rest ih =>
    have readable : ∃ r, i.apply p = .ok r := by
      cases i with
      | drain => exact ⟨_, rfl⟩
      | reload => exact ⟨_, if_neg (not_not.mpr known)⟩
    obtain ⟨r, applied⟩ := readable
    obtain ⟨sameCore, empty⟩ := i.apply_ok applied
    have state : r.state = p.state := congrArg Core.state sameCore
    obtain ⟨q, run, core, events⟩ := ih r (by rw [state]; exact known)
    refine ⟨q, by simp [interludes, applied, run], core.trans sameCore, ?_⟩
    rw [events, empty]
    simp

def CaptureDated (k : Core) : Prop := k.state.drawn = true → k.capturedAt.isSome = true

private theorem Effect.captureDated {k k' : Core} {c : Call} (h : Effect k c k')
    (dated : CaptureDated k) : CaptureDated k' := by
  cases h with
  | keep | start | attempt | openRefund | confirmRefused | refund => exact dated
  | move named edge =>
    rename_i c dst
    intro drawn
    refine dated ((drawn_of_edge edge ?_).symm.trans drawn)
    rintro rfl
    cases c <;> simp [PaymentCall.targets] at named
  | resolve named disputed => exact fun _ => dated (by rw [disputed]; rfl)
  | fail | authorize => exact fun drawn => absurd drawn Bool.false_ne_true
  | capture => exact fun _ => by simp
  | confirm found submitted succeeded amount sum currency comparable edge =>
    intro drawn
    refine dated ((drawn_of_edge edge ?_).symm.trans drawn)
    unfold refundedState
    split_ifs <;> decide

variable {p : Payment}

private theorem captureDated_of_reachable (h : paymentLife.Reachable p) : CaptureDated p.core := by
  refine System.Reachable.invariant (P := fun p : Payment => CaptureDated p.core) ?_ ?_ h
  · rintro p ⟨params, id, now, built⟩
    obtain ⟨_, cm, payload, rfl⟩ := Payment.new_ok built
    exact fun drawn => nomatch drawn
  · intro p step dated
    cases step with
    | call c => exact (c.effect p).captureDated dated
    | interlude i =>
      change CaptureDated (match i.apply p with | .error _ => p | .ok q => q).core
      cases applied : i.apply p with
      | error => exact dated
      | ok =>
        have same := (i.apply_ok applied).1
        exact same ▸ dated

def winDispute (p : Payment) (disputeRef reasonCode : String) (opened : Time)
    (pauses : List Interlude) (resolved : Time) : Except GoError Payment :=
  match p.markDisputed disputeRef reasonCode opened with
  | (_, .error e) => .error e
  | (disputed, .ok ()) =>
    match interludes disputed pauses with
    | .error e => .error e
    | .ok later =>
      match later.resolveDispute true resolved with
      | (_, .error e) => .error e
      | (won, .ok ()) => .ok won

/-- The states a dispute is opened from. -/
def disputable : List State := [.captured, .settled, .partiallyRefunded]

private theorem resolveDispute_won (disputed : p.state = .disputed)
    (dated : p.capturedAt.isSome = true) (now : Time) :
    ∃ q, p.resolveDispute true now = (q, .ok ()) ∧
      q.state = if p.settledLike then .settled else .captured := by
  unfold Payment.resolveDispute
  rw [if_neg (not_not.mpr disputed)]
  cases settled : p.settledLike with
  | false =>
    have edge : machine.canTransition p.state .captured = true := by
      rw [disputed]
      decide
    exact ⟨_, by simpa using Payment.transition_of_edge edge _ _ now, rfl⟩
  | true =>
    have edge : machine.canTransition p.state .settled = true := by
      rw [disputed]
      decide
    exact ⟨_, by simpa [dated] using Payment.transition_of_edge edge _ _ now, rfl⟩

/-- A won dispute always goes through, to SETTLED if a settlement event is still in the event buffer
and to CAPTURED otherwise. -/
theorem winDispute_state (h : paymentLife.Reachable p) (from_ : p.state ∈ disputable)
    (disputeRef reasonCode : String) (opened : Time) (pauses : List Interlude)
    (resolved : Time) :
    ∃ q, winDispute p disputeRef reasonCode opened pauses resolved = .ok q ∧
      q.state = if pauses = [] ∧ p.settledLike then .settled else .captured := by
  have edge : machine.canTransition p.state .disputed = true := by
    simp only [disputable, List.mem_cons, List.not_mem_nil, or_false] at from_
    rcases from_ with h | h | h <;> rw [h] <;> decide
  have drawn : p.state.drawn = true := (drawn_of_edge edge (by decide)).symm
  have dated : p.capturedAt.isSome = true := captureDated_of_reachable h drawn
  unfold winDispute
  rw [Payment.markDisputed, Payment.transition_of_edge edge]
  dsimp only
  generalize disputedAt : ({ p with state := State.disputed }.touch opened).raise _ _ _ = disputed
  have state : disputed.state = .disputed := by rw [← disputedAt]; rfl
  obtain ⟨later, run, core, events⟩ := interludes_ok disputed (by rw [state]; decide) pauses
  rw [run]
  dsimp only
  have laterState : later.state = .disputed := (congrArg Core.state core).trans state
  have laterDated : later.capturedAt.isSome = true := by
    rw [show later.capturedAt = disputed.capturedAt from congrArg Core.capturedAt core,
      ← disputedAt]
    exact dated
  obtain ⟨won, resolvedTo, wonState⟩ := resolveDispute_won laterState laterDated resolved
  rw [resolvedTo]
  refine ⟨won, rfl, ?_⟩
  have buffer : later.settledLike = true ↔ pauses = [] ∧ p.settledLike = true := by
    unfold Payment.settledLike
    rw [events, ← disputedAt]
    by_cases none : pauses = [] <;> simp [none, Payment.raise, Payment.touch]
  rw [wonState]
  simp only [buffer]

/-- Exactly when winning a dispute returns the payment to the state it was disputed in: never if
partially refunded; if settled, while its settlement event is undrained; if captured, unless an
earlier settlement event is. -/
theorem winDispute_returns_iff (p : Payment) (h : paymentLife.Reachable p)
    (from_ : p.state ∈ disputable) (disputeRef reasonCode : String) (opened : Time)
    (pauses : List Interlude) (resolved : Time) :
    ∃ q, winDispute p disputeRef reasonCode opened pauses resolved = .ok q ∧
      (q.state = p.state ↔
        (p.state = .captured ∧ ¬ (pauses = [] ∧ p.settledLike = true)) ∨
          (p.state = .settled ∧ pauses = [] ∧ p.settledLike = true)) := by
  obtain ⟨q, won, state⟩ := winDispute_state h from_ disputeRef reasonCode opened pauses resolved
  refine ⟨q, won, ?_⟩
  rw [state]
  simp only [disputable, List.mem_cons, List.not_mem_nil, or_false] at from_
  by_cases buffered : pauses = [] ∧ p.settledLike = true
  · rw [if_pos buffered]
    rcases from_ with h | h | h <;> simp [h, buffered]
  · rw [if_neg buffered]
    rcases from_ with h | h | h <;> simp [h, buffered]

theorem life_of_reachable (h : paymentSystem.Reachable p) : paymentLife.Reachable p := by
  induction h with
  | init created => exact .init created
  | step c _ _ ih => exact .step (.call c) ih trivial

/-- A captured payment, disputed, stored and read back, and won. -/
theorem winDispute_returns_captured :
    paymentLife.Reachable (sampleRun captureCalls) ∧
      (sampleRun captureCalls).state ∈ disputable ∧
      ∃ q, winDispute (sampleRun captureCalls) "dp_1" "fraudulent" 5 [.reload] 6 = .ok q ∧
        q.state = (sampleRun captureCalls).state := by
  have reached := life_of_reachable (reachable_sampleRun captureCalls)
  have from_ : (sampleRun captureCalls).state ∈ disputable := by decide +kernel
  refine ⟨reached, from_, ?_⟩
  obtain ⟨q, won, returns⟩ :=
    winDispute_returns_iff _ reached from_ "dp_1" "fraudulent" 5 [.reload] 6
  refine ⟨q, won, returns.mpr (.inl ⟨by decide +kernel, ?_⟩)⟩
  rintro ⟨none, _⟩
  cases none

/-- Settled, then saved: the settlement event is in the outbox, not in the buffer. -/
def settledAndDrained : Payment :=
  sampleRun (captureCalls ++
    [.payment (.markSettled 3 "st_1" 3), .payment .markPersisted, .payment .drainEvents])

/-- Winning a dispute over it leaves it CAPTURED. -/
theorem winDispute_loses_settlement :
    paymentLife.Reachable settledAndDrained ∧ settledAndDrained.state = .settled ∧
      (winDispute settledAndDrained "dp_1" "fraudulent" 5 [] 6).map (·.state) =
        .ok .captured :=
  ⟨life_of_reachable (reachable_sampleRun _), by decide +kernel, by decide +kernel⟩

end PaymentsPlatform.Payments
