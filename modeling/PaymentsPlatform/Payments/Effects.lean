/- layer: the payment aggregate as a transition system
   digest: What one call can do to a payment's money, state, attempts and refunds. -/

import Mathlib.Algebra.BigOperators.Group.List.Basic
import PaymentsPlatform.Payments.Payment

namespace PaymentsPlatform.Payments

open Pkg Lib.TransitionSystem
open Payment (refundedState committedRefunds findRefund)

/-- The part of a payment the invariants speak about, which bookkeeping does not move. -/
structure Core where
  state : State
  amount : Money
  authorized : Money
  captured : Money
  refunded : Money
  capturedAt : Option Time
  attempts : List Attempt
  refunds : List Refund

def Payment.core (p : Payment) : Core where
  state := p.state
  amount := p.amount
  authorized := p.authorizedAmount
  captured := p.capturedAmount
  refunded := p.refundedAmount
  capturedAt := p.capturedAt
  attempts := p.attempts
  refunds := p.refunds

/-- The sum of the refunds selected by `sel`, as integers. -/
def refundSum (sel : Refund → Bool) (rs : List Refund) : Int :=
  (rs.map fun r => if sel r then r.amount.minor else 0).sum

theorem map_set_of_eq {α β : Type} (f : α → β) {l : List α} {i : Nat} {a a' : α}
    (found : l[i]? = some a) (same : f a' = f a) : (l.set i a').map f = l.map f := by
  obtain ⟨bound, rfl⟩ := List.getElem?_eq_some_iff.mp found
  rw [List.map_set, same, ← List.map_set, List.set_getElem_self]

def Core.ceiling (k : Core) : Money := if k.authorized.isZero then k.amount else k.authorized

/-- The states a plain state change may lead to. -/
def PaymentCall.targets : PaymentCall → List State
  | .markProcessing _ => [.processing]
  | .requireAction .. => [.requiresAction]
  | .markPending _ => [.pending]
  | .void _ => [.voided]
  | .cancel .. => [.canceled]
  | .expire _ => [.expired]
  | .markSettled .. => [.settled]
  | .markDisputed .. => [.disputed]
  | _ => []

def resolutions (won : Bool) : List State := if won then [.captured, .settled] else [.refunded]

/-- What one call can do.  Any call may leave the core as it is, either because it
only does bookkeeping or because it is refused. -/
inductive Effect (k : Core) : Call → Core → Prop
  | keep (c : Call) : Effect k c k
  | start {gatewayID : GatewayID} {planID : PlanID} {op : Operation} {seed : AttemptSeed}
      {now : Time} {att : Attempt}
      (alive : k.state.isTerminal = false)
      (first : op = .authorize → ∀ a ∈ k.attempts, a.outcome ≠ .success)
      (resolved : ∀ a ∈ k.attempts, a.outcome ≠ .timeoutUnknown)
      (fresh : att.outcome = .pending) (what : att.operation = op) :
      Effect k (.payment (.startAttempt gatewayID planID op seed now))
        { k with attempts := k.attempts ++ [att] }
  | move {c : PaymentCall} {dst : State} (named : dst ∈ c.targets)
      (edge : machine.canTransition k.state dst = true) :
      Effect k (.payment c) { k with state := dst }
  | resolve {won : Bool} {now : Time} {dst : State} (named : dst ∈ resolutions won)
      (disputed : k.state = .disputed) :
      Effect k (.payment (.resolveDispute won now)) { k with state := dst }
  | fail {reason : DeclineReason} {detail : String} {now : Time}
      (resolved : ∀ a ∈ k.attempts, a.outcome ≠ .timeoutUnknown)
      (edge : machine.canTransition k.state .failed = true) :
      Effect k (.payment (.markFailed reason detail now)) { k with state := .failed }
  | authorize {m : Money} {expiresAt : Option Time} {now : Time}
      (currency : m.currency = k.amount.currency) (positive : 0 < m.minor)
      (within : m.minor ≤ k.amount.minor)
      (edge : machine.canTransition k.state .authorized = true) :
      Effect k (.payment (.markAuthorized m expiresAt now))
        { k with state := .authorized, authorized := m }
  | capture {m total : Money} {now : Time}
      (positive : 0 < m.minor) (sum : total.minor = k.captured.minor + m.minor)
      (currency : total.currency = k.captured.currency)
      (within : total.minor ≤ k.ceiling.minor)
      (edge : machine.canTransition k.state .captured = true) :
      Effect k (.payment (.markCaptured m now))
        { k with state := .captured, captured := total, capturedAt := k.capturedAt.or (some now) }
  | openRefund {m : Money} {reason : RefundReason} {key : String} {id : RefundID} {now : Time}
      {r : Refund} (allowed : k.state.allowsRefund = true) (pending : r.status = .pending)
      (amount : r.amount = m) (currency : m.currency = k.amount.currency) (positive : 0 < m.minor)
      (within : k.refunded.minor + refundSum Refund.inFlight k.refunds + m.minor ≤
        k.captured.minor) :
      Effect k (.payment (.addRefund m reason key id now)) { k with refunds := k.refunds ++ [r] }
  | confirm {refundID : RefundID} {gatewayRef : String} {now : Time} {i : Nat} {r r' : Refund}
      {total : Money} (found : findRefund k.refunds refundID = some (r, i))
      (submitted : r.status = .submitted)
      (succeeded : r'.status = .succeeded) (amount : r'.amount = r.amount)
      (sum : total.minor = k.refunded.minor + r.amount.minor)
      (currency : total.currency = k.refunded.currency)
      (comparable : k.captured.currency = total.currency)
      (edge : machine.canTransition k.state
        (refundedState (compare total.minor k.captured.minor)) = true) (same : r'.id = r.id) :
      Effect k (.payment (.confirmRefund refundID gatewayRef now))
        { k with
          state := refundedState (compare total.minor k.captured.minor)
          refunded := total
          refunds := k.refunds.set i r' }
  /-- The refund is marked, and the total or the state then refuses. -/
  | confirmRefused {refundID : RefundID} {gatewayRef : String} {now : Time} {i : Nat}
      {r r' : Refund} (found : findRefund k.refunds refundID = some (r, i))
      (submitted : r.status = .submitted)
      (succeeded : r'.status = .succeeded) (amount : r'.amount = r.amount)
      (refused : ∀ total, k.refunded.add r.amount = .ok total →
        k.captured.currency = total.currency →
        machine.canTransition k.state (refundedState (compare total.minor k.captured.minor)) =
          false) (same : r'.id = r.id) :
      Effect k (.payment (.confirmRefund refundID gatewayRef now))
        { k with refunds := k.refunds.set i r' }
  | attempt {i : Nat} {c : AttemptCall} {a a' : Attempt} (found : k.attempts[i]? = some a)
      (applied : c.apply a = .ok a') :
      Effect k (.attempt i c) { k with attempts := k.attempts.set i a' }
  | refund {i : Nat} {c : RefundCall} {r r' : Refund} (found : k.refunds[i]? = some r)
      (applied : c.apply r = .ok r') :
      Effect k (.refund i c) { k with refunds := k.refunds.set i r' }

variable {dst : State}

theorem canTransition_of_transition_ok {src : State} {u : Unit}
    (h : machine.transition src dst = .ok u) : machine.canTransition src dst = true :=
  (machine.transition_ok_iff src dst).mp h

theorem canTransition_of_transition_error {src : State} {e : GoError}
    (h : machine.transition src dst = .error e) : machine.canTransition src dst = false := by
  by_contra edge
  rw [Bool.not_eq_false] at edge
  rw [(machine.transition_ok_iff src dst).mpr edge] at h
  cases h

variable (p : Payment)

/-- A plain state change is refused untouched, or moves the state along an edge and
changes nothing else of the core. -/
theorem Payment.transition_cases (dst : State)
    (evt : Option (EventType × Payload)) (now : Time) :
    (machine.canTransition p.state dst = false ∧
        ∃ e, p.transition dst evt now = (p, .error e)) ∨
      (machine.canTransition p.state dst = true ∧ (p.transition dst evt now).2 = .ok () ∧
        (p.transition dst evt now).1.core = { p.core with state := dst }) := by
  unfold Payment.transition
  cases moved : machine.transition p.state dst with
  | error e => exact .inl ⟨canTransition_of_transition_error moved, e, rfl⟩
  | ok =>
    refine .inr ⟨canTransition_of_transition_ok moved, ?_⟩
    cases evt with
    | none | some => exact ⟨rfl, rfl⟩

theorem Payment.transition_silent (dst : State) (now : Time) :
    (p.transition dst none now).1.events = p.events := by
  unfold Payment.transition
  cases machine.transition p.state dst with
  | error | ok => rfl

theorem Payment.transition_moves {p : Payment}
    (edge : machine.canTransition p.state dst = true) (evt : Option (EventType × Payload))
    (now : Time) :
    ∃ p', p.transition dst evt now = (p', .ok ()) ∧ p'.core = { p.core with state := dst } ∧
      p'.version = p.version + 1 ∧ p'.baseVersion = p.baseVersion := by
  rw [Payment.transition, (machine.transition_ok_iff _ _).mpr edge]
  cases evt with
  | none | some => exact ⟨_, rfl, rfl, rfl, rfl⟩

theorem Payment.transition_of_edge {p : Payment}
    (edge : machine.canTransition p.state dst = true) (t : EventType) (load : Payload)
    (now : Time) :
    p.transition dst (some (t, load)) now =
      (({ p with state := dst }.touch now).raise t now load, .ok ()) := by
  rw [Payment.transition, (machine.transition_ok_iff _ _).mpr edge]

private theorem effect_transition {p : Payment} {c : PaymentCall}
    (named : dst ∈ c.targets) (evt : Option (EventType × Payload)) (now : Time) :
    Effect p.core (.payment c) (p.transition dst evt now).1.core := by
  rcases p.transition_cases dst evt now with ⟨_, e, same⟩ | ⟨edge, _, moved⟩
  · rw [same]
    exact .keep _
  · rw [moved]
    exact .move named edge

theorem Payment.hasUnresolvedAttempt_eq_false :
    p.hasUnresolvedAttempt = false ↔ ∀ a ∈ p.attempts, a.outcome ≠ .timeoutUnknown := by
  simp [Payment.hasUnresolvedAttempt, AttemptOutcome.requiresReconciliation]

theorem Payment.successfulAttempt_isSome :
    p.successfulAttempt.isSome = true ↔ ∃ a ∈ p.attempts, a.outcome = .success := by
  simp [Payment.successfulAttempt]

variable (gatewayID : GatewayID) (planID : PlanID)

/-- `StartAttempt` is refused untouched, or appends a fresh attempt to a live payment with nothing
unresolved and, for an authorization, nothing successful. -/
theorem Payment.startAttempt_cases (op : Operation) (seed : AttemptSeed) (now : Time) :
    (∃ e, p.startAttempt gatewayID planID op seed now = (p, .error e)) ∨
      ∃ p' att, p.startAttempt gatewayID planID op seed now = (p', .ok att) ∧
        att = newAttempt p.id p.tenantID gatewayID op (p.attempts.length + 1) p.amount seed now ∧
        p'.core = { p.core with attempts := p.attempts ++ [att] } ∧
        p'.baseVersion = p.baseVersion ∧
        p.state.isTerminal = false ∧
        (op = .authorize → ∀ a ∈ p.attempts, a.outcome ≠ .success) ∧
        ∀ a ∈ p.attempts, a.outcome ≠ .timeoutUnknown := by
  unfold Payment.startAttempt
  by_cases dead : p.state.isTerminal
  · rw [if_pos dead]
    exact .inl ⟨_, rfl⟩
  rw [if_neg dead]
  by_cases done : p.successfulAttempt.isSome ∧ op = .authorize
  · rw [if_pos done]
    exact .inl ⟨_, rfl⟩
  rw [if_neg done]
  by_cases waiting : p.hasUnresolvedAttempt
  · rw [if_pos waiting]
    exact .inl ⟨_, rfl⟩
  rw [if_neg waiting]
  refine .inr ⟨_, _, rfl, rfl, rfl, rfl, by simpa using dead, ?_, ?_⟩
  · intro authorizing
    have unsuccessful : ¬ p.successfulAttempt.isSome := fun found => done ⟨found, authorizing⟩
    rw [Payment.successfulAttempt_isSome] at unsuccessful
    simpa using unsuccessful
  · exact p.hasUnresolvedAttempt_eq_false.mp (by simpa using waiting)

theorem Payment.startAttempt_accepts {p : Payment} (op : Operation) (seed : AttemptSeed)
    (now : Time) (alive : p.state.isTerminal = false)
    (first : op = .authorize → ∀ a ∈ p.attempts, a.outcome ≠ .success)
    (resolved : ∀ a ∈ p.attempts, a.outcome ≠ .timeoutUnknown) :
    ∃ p', p.startAttempt gatewayID planID op seed now =
        (p', .ok (newAttempt p.id p.tenantID gatewayID op (p.attempts.length + 1) p.amount seed now)) ∧
      p'.core = { p.core with attempts := p.attempts ++
        [newAttempt p.id p.tenantID gatewayID op (p.attempts.length + 1) p.amount seed now] } ∧
      p'.id = p.id ∧ p'.baseVersion = p.baseVersion := by
  have unsuccessful : ¬ (p.successfulAttempt.isSome ∧ op = .authorize) := by
    rintro ⟨found, authorizing⟩
    obtain ⟨a, mem, success⟩ := p.successfulAttempt_isSome.mp found
    exact first authorizing a mem success
  rw [Payment.startAttempt, if_neg (by simp [alive]), if_neg unsuccessful,
    if_neg (by simp [p.hasUnresolvedAttempt_eq_false.mpr resolved])]
  exact ⟨_, rfl, rfl, rfl, rfl⟩

private theorem effect_startAttempt (op : Operation) (seed : AttemptSeed) (now : Time) :
    Effect p.core (.payment (.startAttempt gatewayID planID op seed now))
      (p.startAttempt gatewayID planID op seed now).1.core := by
  rcases p.startAttempt_cases gatewayID planID op seed now with
    ⟨e, same⟩ | ⟨p', att, same, rfl, core, -, alive, first, resolved⟩
  · rw [same]
    exact .keep _
  · rw [same, core]
    exact .start alive first resolved rfl rfl

def Payment.admitsAuthorization (authorized : Money) : Bool :=
  authorized.currency == p.amount.currency && authorized.isPositive &&
    (authorized.greaterThan p.amount == .ok false) && machine.canTransition p.state .authorized

def Payment.admitsCapture (captured : Money) : Bool :=
  captured.currency == p.amount.currency && captured.isPositive &&
    (match p.capturedAmount.add captured with
      | .error _ => false
      | .ok total => total.greaterThan p.captureCeiling == .ok false) &&
    machine.canTransition p.state .captured

theorem Payment.markAuthorized_cases (m : Money) (expiresAt : Option Time) (now : Time) :
    (p.admitsAuthorization m = false ∧ ∃ e, p.markAuthorized m expiresAt now = (p, .error e)) ∨
      (p.admitsAuthorization m = true ∧ (p.markAuthorized m expiresAt now).2 = .ok () ∧
        (p.markAuthorized m expiresAt now).1.core =
          { p.core with state := .authorized, authorized := m }) := by
  unfold Payment.markAuthorized Payment.admitsAuthorization
  by_cases foreign : m.currency ≠ p.amount.currency
  · exact .inl ⟨by simp [foreign], _, if_pos foreign⟩
  rw [if_neg foreign]
  by_cases nonpositive : ¬ m.isPositive
  · exact .inl ⟨by simp [nonpositive], _, if_pos nonpositive⟩
  rw [if_neg nonpositive]
  simp only [not_not] at foreign nonpositive
  cases compared : m.greaterThan p.amount with
  | error => exact .inl ⟨by simp, _, rfl⟩
  | ok exceeds =>
    cases exceeds with
    | true => exact .inl ⟨by simp, _, rfl⟩
    | false =>
      dsimp only
      cases moved : machine.transition p.state .authorized with
      | error e => exact .inl ⟨by simp [canTransition_of_transition_error moved], e, rfl⟩
      | ok =>
        exact .inr ⟨by simp [foreign, nonpositive, canTransition_of_transition_ok moved],
          rfl, rfl⟩

theorem Payment.markCaptured_cases (m : Money) (now : Time) :
    (p.admitsCapture m = false ∧ ∃ e, p.markCaptured m now = (p, .error e)) ∨
      (p.admitsCapture m = true ∧ (p.markCaptured m now).2 = .ok () ∧
        ∃ total, p.capturedAmount.add m = .ok total ∧
          (p.markCaptured m now).1.core = { p.core with
            state := .captured, captured := total, capturedAt := p.capturedAt.or (some now) }) := by
  unfold Payment.markCaptured Payment.admitsCapture
  by_cases foreign : m.currency ≠ p.amount.currency
  · exact .inl ⟨by simp [foreign], _, if_pos foreign⟩
  rw [if_neg foreign]
  by_cases nonpositive : ¬ m.isPositive
  · exact .inl ⟨by simp [nonpositive], _, if_pos nonpositive⟩
  rw [if_neg nonpositive]
  simp only [not_not] at foreign nonpositive
  cases summed : p.capturedAmount.add m with
  | error => exact .inl ⟨by simp, _, rfl⟩
  | ok total =>
    dsimp only
    cases compared : total.greaterThan p.captureCeiling with
    | error => exact .inl ⟨by simp, _, rfl⟩
    | ok exceeds =>
      cases exceeds with
      | true => exact .inl ⟨by simp, _, rfl⟩
      | false =>
        dsimp only
        cases moved : machine.transition p.state .captured with
        | error e => exact .inl ⟨by simp [canTransition_of_transition_error moved], e, rfl⟩
        | ok =>
          exact .inr ⟨by simp [foreign, nonpositive, canTransition_of_transition_ok moved],
            rfl, total, rfl, rfl⟩

variable {m : Money}

private theorem greaterThan_ok_false {other : Money} (h : m.greaterThan other = .ok false) :
    other.currency = m.currency ∧ m.minor ≤ other.minor := by
  by_cases same : other.currency = m.currency
  · rw [Money.greaterThan_of_currency_eq same] at h
    exact ⟨same, Int.not_lt.mp (by simpa using h)⟩
  · simp [Money.greaterThan, Money.cmp, Ne.symm same, Except.map] at h

variable (p : Payment)

theorem Payment.admitsAuthorization_iff (m : Money) : p.admitsAuthorization m = true ↔
      m.currency = p.amount.currency ∧ 0 < m.minor ∧ m.minor ≤ p.amount.minor ∧
        machine.canTransition p.state .authorized = true := by
  simp only [Payment.admitsAuthorization, Bool.and_eq_true, beq_iff_eq, Money.isPositive_iff,
    and_assoc]
  refine and_congr_right fun same => and_congr_right fun _ => and_congr_left fun _ => ?_
  rw [Money.greaterThan_of_currency_eq same.symm]
  simp

theorem Payment.admitsCapture_of {p : Payment} (h : p.admitsCapture m = true) :
    m.currency = p.amount.currency ∧ 0 < m.minor ∧
      (∀ total, p.capturedAmount.add m = .ok total → total.minor ≤ p.captureCeiling.minor) ∧
      machine.canTransition p.state .captured = true := by
  simp only [Payment.admitsCapture, Bool.and_eq_true, beq_iff_eq, Money.isPositive_iff,
    and_assoc] at h
  obtain ⟨same, positive, fits, edge⟩ := h
  refine ⟨same, positive, fun total summed => ?_, edge⟩
  rw [summed] at fits
  exact (greaterThan_ok_false (by simpa using fits)).2

private theorem effect_markAuthorized (m : Money) (expiresAt : Option Time) (now : Time) :
    Effect p.core (.payment (.markAuthorized m expiresAt now))
      (p.markAuthorized m expiresAt now).1.core := by
  rcases p.markAuthorized_cases m expiresAt now with ⟨-, e, same⟩ | ⟨admits, -, moved⟩
  · rw [same]
    exact .keep _
  · obtain ⟨same, positive, within, edge⟩ := (p.admitsAuthorization_iff m).mp admits
    rw [moved]
    exact .authorize same positive within edge

private theorem effect_markCaptured (m : Money) (now : Time) :
    Effect p.core (.payment (.markCaptured m now)) (p.markCaptured m now).1.core := by
  rcases p.markCaptured_cases m now with ⟨-, e, same⟩ | ⟨admits, -, total, summed, moved⟩
  · rw [same]
    exact .keep _
  · obtain ⟨-, positive, within, edge⟩ := Payment.admitsCapture_of admits
    obtain ⟨-, currency, sum⟩ := Money.add_ok summed
    rw [moved]
    exact .capture positive sum currency (within total summed) edge

def Payment.admitsFailure : Bool :=
  !p.hasUnresolvedAttempt && machine.canTransition p.state .failed

theorem Payment.markFailed_cases (reason : DeclineReason) (detail : String) (now : Time) :
    (p.admitsFailure = false ∧ ∃ e, p.markFailed reason detail now = (p, .error e)) ∨
      (p.admitsFailure = true ∧ (p.markFailed reason detail now).2 = .ok () ∧
        (p.markFailed reason detail now).1.core = { p.core with state := .failed }) := by
  unfold Payment.markFailed Payment.admitsFailure
  by_cases unresolved : p.hasUnresolvedAttempt = true
  · rw [if_pos unresolved]
    exact .inl ⟨by simp [unresolved], _, rfl⟩
  rw [if_neg unresolved]
  generalize some _ = evt
  rcases p.transition_cases .failed evt now with ⟨closed, e, same⟩ | ⟨edge, ok, moved⟩
  · exact .inl ⟨by simp [closed], e, same⟩
  · exact .inr ⟨by simp [unresolved, edge], ok, moved⟩

private theorem effect_markFailed (reason : DeclineReason) (detail : String) (now : Time) :
    Effect p.core (.payment (.markFailed reason detail now))
      (p.markFailed reason detail now).1.core := by
  rcases p.markFailed_cases reason detail now with ⟨-, e, same⟩ | ⟨admits, -, moved⟩
  · rw [same]
    exact .keep _
  · simp only [Payment.admitsFailure, Bool.and_eq_true, Bool.not_eq_true'] at admits
    rw [moved]
    exact .fail (p.hasUnresolvedAttempt_eq_false.mp admits.1) admits.2

theorem committedRefunds_ok {start total : Money} {rs : List Refund}
    (h : committedRefunds start rs = .ok total) :
    total.minor = start.minor + refundSum Refund.inFlight rs := by
  induction rs generalizing start with
  | nil =>
    cases h
    simp [refundSum]
  | cons r rest ih =>
    unfold committedRefunds at h
    by_cases flying : r.inFlight = true
    · rw [if_pos flying] at h
      cases summed : start.add r.amount with
      | error =>
        rw [summed] at h
        cases h
      | ok =>
        rw [summed] at h
        have tail := ih h
        have head := (Money.add_ok summed).2.2
        simp only [refundSum, List.map_cons, List.sum_cons, if_pos flying] at tail ⊢
        omega
    · rw [if_neg flying] at h
      have tail := ih h
      simp only [refundSum, List.map_cons, List.sum_cons, if_neg flying] at tail ⊢
      omega

theorem Payment.addRefund_cases (m : Money) (reason : RefundReason) (key : String)
    (id : RefundID) (now : Time) :
    (∃ e, p.addRefund m reason key id now = (p, .error e)) ∨
      (p.state.allowsRefund = true ∧ m.currency = p.amount.currency ∧ 0 < m.minor ∧
        p.refundedAmount.minor + refundSum Refund.inFlight p.refunds + m.minor ≤
          p.capturedAmount.minor ∧
        p.addRefund m reason key id now =
          ({ p with refunds := p.refunds ++ [newRefund id p.id p.tenantID m reason key now] }.touch now,
            .ok (newRefund id p.id p.tenantID m reason key now))) := by
  unfold Payment.addRefund
  by_cases closed : ¬ p.state.allowsRefund
  · rw [if_pos closed]
    exact .inl ⟨_, rfl⟩
  rw [if_neg closed]
  by_cases foreign : m.currency ≠ p.amount.currency
  · rw [if_pos foreign]
    exact .inl ⟨_, rfl⟩
  rw [if_neg foreign]
  by_cases nonpositive : ¬ m.isPositive
  · rw [if_pos nonpositive]
    exact .inl ⟨_, rfl⟩
  rw [if_neg nonpositive]
  cases looped : committedRefunds p.refundedAmount p.refunds with
  | error => exact .inl ⟨_, rfl⟩
  | ok committed =>
    dsimp only
    cases summed : committed.add m with
    | error => exact .inl ⟨_, rfl⟩
    | ok prospective =>
      dsimp only
      cases compared : prospective.greaterThan p.capturedAmount with
      | error => exact .inl ⟨_, rfl⟩
      | ok exceeds =>
        cases exceeds with
        | true => exact .inl ⟨_, rfl⟩
        | false =>
          have positive := m.isPositive_iff.mp (not_not.mp nonpositive)
          have inFlight := committedRefunds_ok looped
          have total := (Money.add_ok summed).2.2
          have within := (greaterThan_ok_false compared).2
          exact .inr ⟨not_not.mp closed, not_not.mp foreign, positive, by omega, rfl⟩

private theorem effect_addRefund (m : Money) (reason : RefundReason) (key : String)
    (id : RefundID) (now : Time) :
    Effect p.core (.payment (.addRefund m reason key id now))
      (p.addRefund m reason key id now).1.core := by
  rcases p.addRefund_cases m reason key id now with
    ⟨e, same⟩ | ⟨allowed, currency, positive, within, same⟩
  · rw [same]
    exact .keep _
  · rw [same]
    exact .openRefund allowed rfl rfl currency positive within

theorem findRefund_some {refunds : List Refund} {refundID : RefundID} {r : Refund} {i : Nat}
    (h : findRefund refunds refundID = some (r, i)) : refunds[i]? = some r :=
  List.mem_zipIdx_iff_getElem?.mp (List.mem_of_find?_eq_some h)

variable (won : Bool) (refundID : RefundID) (now : Time)

def Payment.admitsConfirmation : Bool :=
  match findRefund p.refunds refundID with
  | none => false
  | some (r, _) =>
    r.status == .submitted &&
      match p.refundedAmount.add r.amount with
      | .error _ => false
      | .ok total =>
        total.currency == p.capturedAmount.currency &&
          machine.canTransition p.state
            (refundedState (compare total.minor p.capturedAmount.minor))

private theorem codeOf_wrap_add {other : Money} {err : GoError} (h : m.add other = .error err)
    (message : String) : codeOf (wrap err .internalError message) = .internalError := by
  unfold Money.add at h
  split at h
  · cases h
    rfl
  · dsimp only at h
    split at h
    · cases h
      rfl
    · cases h

/-- `ConfirmRefund` is refused, untouched or with the refund already marked, or it marks the refund,
adds it up and moves the payment.  Only a missing edge makes the second an invalid transition. -/
theorem Payment.confirmRefund_cases (gatewayRef : String) (now : Time) :
    (p.admitsConfirmation refundID = false ∧
        (∀ r i, findRefund p.refunds refundID = some (r, i) → r.status ≠ .submitted) ∧
        ∃ err, p.confirmRefund refundID gatewayRef now = (p, .error err)) ∨
      ∃ r i r', findRefund p.refunds refundID = some (r, i) ∧ r.status = .submitted ∧
        r'.status = .succeeded ∧ r'.amount = r.amount ∧ r'.id = r.id ∧
        ((p.admitsConfirmation refundID = false ∧
            (∃ err, p.confirmRefund refundID gatewayRef now =
                ({ p with refunds := p.refunds.set i r' }, .error err) ∧
              (codeOf err = .invalidStateTransition → ∃ total,
                p.refundedAmount.add r.amount = .ok total ∧
                  p.capturedAmount.currency = total.currency)) ∧
            ∀ total, p.refundedAmount.add r.amount = .ok total →
              p.capturedAmount.currency = total.currency →
              machine.canTransition p.state
                (refundedState (compare total.minor p.capturedAmount.minor)) = false) ∨
          (p.admitsConfirmation refundID = true ∧
            (p.confirmRefund refundID gatewayRef now).2 = .ok () ∧
            ∃ total, p.refundedAmount.add r.amount = .ok total ∧
              p.capturedAmount.currency = total.currency ∧
              machine.canTransition p.state
                (refundedState (compare total.minor p.capturedAmount.minor)) = true ∧
              (p.confirmRefund refundID gatewayRef now).1.core = { p.core with
                state := refundedState (compare total.minor p.capturedAmount.minor)
                refunded := total
                refunds := p.refunds.set i r' })) := by
  unfold Payment.confirmRefund Payment.admitsConfirmation
  cases found : findRefund p.refunds refundID with
  | none => exact .inl ⟨rfl, by simp, _, rfl⟩
  | some hit =>
    obtain ⟨target, i⟩ := hit
    dsimp only
    cases marked : target.markSucceeded gatewayRef now with
    | error e =>
      have elsewhere := Refund.markSucceeded_error marked
      refine .inl ⟨by simp [elsewhere], ?_, e, rfl⟩
      rintro r j hit
      cases hit
      exact elsewhere
    | ok confirmed =>
      obtain ⟨submitted, succeeded, amount, same⟩ := Refund.markSucceeded_ok marked
      refine .inr ⟨target, i, confirmed, rfl, submitted, succeeded, amount, same, ?_⟩
      dsimp only
      rw [amount]
      cases summed : p.refundedAmount.add target.amount with
      | error =>
        have code := codeOf_wrap_add summed "refund total overflow"
        refine .inl ⟨by simp, ⟨_, rfl, fun invalid => ?_⟩, ?_⟩
        · cases code.symm.trans invalid
        · intro total ok
          cases ok
      | ok total =>
        dsimp only
        by_cases comparable : p.capturedAmount.currency = total.currency
        · rw [Money.cmp_of_currency_eq comparable]
          dsimp only
          cases moved : machine.transition p.state
              (refundedState (compare total.minor p.capturedAmount.minor)) with
          | error e =>
            have closed := canTransition_of_transition_error moved
            refine .inl ⟨by simp [closed], ⟨_, rfl, fun _ => ⟨total, rfl, comparable⟩⟩, ?_⟩
            intro total' ok _
            cases ok
            exact closed
          | ok u =>
            have edge := canTransition_of_transition_ok moved
            exact .inr ⟨by simp [submitted, comparable, edge], rfl, total, rfl, comparable,
              edge, rfl⟩
        · have differ : total.cmp p.capturedAmount =
              .error (total.mismatch p.capturedAmount " vs ") := by
            simp [Money.cmp, Ne.symm comparable]
          rw [differ]
          refine .inl ⟨by simp [Ne.symm comparable], ⟨_, rfl, fun invalid => ?_⟩, ?_⟩
          · cases invalid
          · intro total' ok same'
            cases ok
            exact absurd same' comparable

private theorem effect_confirmRefund (gatewayRef : String) (now : Time) :
    Effect p.core (.payment (.confirmRefund refundID gatewayRef now))
      (p.confirmRefund refundID gatewayRef now).1.core := by
  rcases p.confirmRefund_cases refundID gatewayRef now with
    ⟨-, -, err, same⟩ | ⟨r, i, r', found, submitted, succeeded, amount, id, outcome⟩
  · rw [same]
    exact .keep _
  · rcases outcome with ⟨-, ⟨err, same, -⟩, refused⟩ | ⟨-, -, total, summed, comparable, edge, moved⟩
    · rw [same]
      exact .confirmRefused found submitted succeeded amount refused id
    · obtain ⟨-, currency, sum⟩ := Money.add_ok summed
      rw [moved]
      exact .confirm found submitted succeeded amount sum currency comparable edge id

private theorem resolution_mem :
    (if won then if p.capturedAt.isSome ∧ p.settledLike then State.settled else State.captured
      else State.refunded) ∈ resolutions won := by
  cases won with
  | false => simp [resolutions]
  | true => by_cases settled : p.capturedAt.isSome ∧ p.settledLike <;> simp [resolutions, settled]

theorem Payment.resolveDispute_cases :
    (p.state ≠ .disputed ∧ ∃ e, p.resolveDispute won now = (p, .error e)) ∨
      (p.state = .disputed ∧ (p.resolveDispute won now).2 = .ok () ∧
        ∃ dst ∈ resolutions won,
          (p.resolveDispute won now).1.core = { p.core with state := dst }) := by
  unfold Payment.resolveDispute
  by_cases elsewhere : p.state ≠ .disputed
  · rw [if_pos elsewhere]
    exact .inl ⟨elsewhere, _, rfl⟩
  rw [if_neg elsewhere]
  have named := resolution_mem p won
  generalize (if won then if p.capturedAt.isSome ∧ p.settledLike then State.settled
    else State.captured else State.refunded) = dst at named ⊢
  have disputed := not_not.mp elsewhere
  have edge : machine.canTransition p.state dst = true := by
    rw [disputed]
    cases won <;> simp only [resolutions, if_true, Bool.false_eq_true, if_false, List.mem_cons,
      List.not_mem_nil, or_false] at named
    · subst named
      decide
    · rcases named with rfl | rfl <;> decide
  rcases p.transition_cases dst (some (.disputeResolved, [("won", .bool won)])) now with
    ⟨closed, -⟩ | ⟨-, ok, moved⟩
  · rw [edge] at closed
    cases closed
  · exact .inr ⟨disputed, ok, dst, named, moved⟩

private theorem effect_resolveDispute :
    Effect p.core (.payment (.resolveDispute won now)) (p.resolveDispute won now).1.core := by
  rcases p.resolveDispute_cases won now with ⟨-, e, same⟩ | ⟨disputed, -, dst, named, moved⟩
  · rw [same]
    exact .keep _
  · rw [moved]
    exact .resolve named disputed

def Payment.admitsVoid : Bool :=
  p.capturedAmount.isZero && machine.canTransition p.state .voided

theorem Payment.void_cases : (p.admitsVoid = false ∧ ∃ e, p.void now = (p, .error e)) ∨
      (p.admitsVoid = true ∧ (p.void now).2 = .ok () ∧
        (p.void now).1.core = { p.core with state := .voided }) := by
  unfold Payment.void Payment.admitsVoid
  by_cases drawn : ¬ p.capturedAmount.isZero
  · rw [if_pos drawn]
    exact .inl ⟨by simp [drawn], _, rfl⟩
  rw [if_neg drawn]
  simp only [not_not] at drawn
  generalize some _ = evt
  rcases p.transition_cases .voided evt now with ⟨closed, e, same⟩ | ⟨edge, ok, moved⟩
  · exact .inl ⟨by simp [closed], e, same⟩
  · exact .inr ⟨by simp [drawn, edge], ok, moved⟩

private theorem effect_void : Effect p.core (.payment (.void now)) (p.void now).1.core := by
  rcases p.void_cases now with ⟨-, e, same⟩ | ⟨admits, -, moved⟩
  · rw [same]
    exact .keep _
  · simp only [Payment.admitsVoid, Bool.and_eq_true] at admits
    rw [moved]
    exact .move (List.mem_singleton.mpr rfl) admits.2

private theorem PaymentCall.effect (c : PaymentCall) :
    Effect p.core (.payment c) (c.apply p).1.core := by
  cases c with
  | startAttempt gatewayID planID op seed now =>
    exact effect_startAttempt p gatewayID planID op seed now
  | markAuthorized m expiresAt now => exact effect_markAuthorized p m expiresAt now
  | markCaptured m now => exact effect_markCaptured p m now
  | markFailed reason detail now => exact effect_markFailed p reason detail now
  | void now => exact effect_void p now
  | addRefund m reason key id now => exact effect_addRefund p m reason key id now
  | confirmRefund refundID gatewayRef now => exact effect_confirmRefund p refundID gatewayRef now
  | resolveDispute won now => exact effect_resolveDispute p won now
  | requireReconciliation | markPersisted | drainEvents => exact .keep _
  | markProcessing now | requireAction action now | markPending now | cancel reason now
  | expire now | markSettled settledAt settlementRef now
  | markDisputed =>
    exact effect_transition (by simp [PaymentCall.targets]) _ _

theorem Call.effect (p : Payment) (c : Call) : Effect p.core c (c.apply p).1.core := by
  cases c with
  | payment c => exact c.effect p
  | attempt i c =>
    simp only [Call.apply]
    cases found : p.attempts[i]? with
    | none => exact .keep _
    | some a =>
      dsimp only
      cases applied : c.apply a with
      | error => exact .keep _
      | ok => exact .attempt found applied
  | refund i c =>
    simp only [Call.apply]
    cases found : p.refunds[i]? with
    | none => exact .keep _
    | some r =>
      dsimp only
      cases applied : c.apply r with
      | error => exact .keep _
      | ok => exact .refund found applied

/-! When two of the calls are accepted. -/

theorem Payment.markCaptured_ok_iff (m : Money) (now : Time) :
    (p.markCaptured m now).2 = .ok () ↔ p.admitsCapture m = true := by
  rcases p.markCaptured_cases m now with ⟨refused, e, same⟩ | ⟨admits, accepted, -⟩
  · simp [refused, same]
  · simp [admits, accepted]

theorem Payment.void_ok_iff : (p.void now).2 = .ok () ↔ p.admitsVoid = true := by
  rcases p.void_cases now with ⟨refused, e, same⟩ | ⟨admits, accepted, -⟩
  · simp [refused, same]
  · simp [admits, accepted]

end PaymentsPlatform.Payments
