/- layer: invariants of the payment aggregate
   digest: The totals over every run, when they are the sum of the refunds, and which refused calls
     leave the payment as it was. -/

import PaymentsPlatform.Payments.Effects

namespace PaymentsPlatform.Payments

open Pkg Lib.TransitionSystem
open Payment (refundedState)

section Order

def State.drawn : State → Bool
  | .captured | .settled | .partiallyRefunded | .refunded | .disputed => true
  | _ => false

theorem State.drawn_iff (s : State) :
    s.drawn = true ↔ s = .captured ∨ s = .settled ∨ s = .partiallyRefunded ∨ s = .refunded ∨
      s = .disputed := by
  cases s <;> simp [State.drawn]

variable {dst : State}

theorem drawn_of_edge {src : State} (edge : machine.canTransition src dst = true)
    (other : dst ≠ .captured) : dst.drawn = src.drawn :=
  machine.edge_rule (P := fun src dst => dst ≠ .captured → dst.drawn = src.drawn)
    (by decide) edge other

theorem refundSum_append (sel : Refund → Bool) (rs : List Refund) (r : Refund) :
    refundSum sel (rs ++ [r]) = refundSum sel rs + if sel r then r.amount.minor else 0 := by
  simp [refundSum]

variable {i : Nat}

theorem refundSum_set (sel : Refund → Bool) {rs : List Refund} {r : Refund}
    (found : rs[i]? = some r) (r' : Refund) :
    refundSum sel (rs.set i r') = refundSum sel rs -
      (if sel r then r.amount.minor else 0) + if sel r' then r'.amount.minor else 0 := by
  obtain ⟨bound, here⟩ := List.getElem?_eq_some_iff.mp found
  unfold refundSum
  rw [List.map_set, List.sum_set', dif_pos (by simpa using bound), List.getElem_map, here]
  ring

theorem le_refundSum {sel : Refund → Bool} {rs : List Refund}
    (positive : ∀ r ∈ rs, 0 < r.amount.minor) {r : Refund} (mem : r ∈ rs) (chosen : sel r = true) :
    r.amount.minor ≤ refundSum sel rs := by
  refine List.single_le_sum ?_ _ (List.mem_map.mpr ⟨r, mem, if_pos chosen⟩)
  intro share memShare
  obtain ⟨x, memX, rfl⟩ := List.mem_map.mp memShare
  split_ifs
  · exact (positive x memX).le
  · exact Int.le_refl 0

/-- The inductive invariant behind the order of the totals: refunds are positive and exist only once
money was drawn, and nothing is captured before that. -/
structure Sound (k : Core) : Prop where
  authorizedCurrency : k.authorized.currency = k.amount.currency
  capturedCurrency : k.captured.currency = k.amount.currency
  refundedCurrency : k.refunded.currency = k.amount.currency
  refundCurrency : ∀ r ∈ k.refunds, r.amount.currency = k.amount.currency
  refundPositive : ∀ r ∈ k.refunds, 0 < r.amount.minor
  authorizedNonneg : 0 ≤ k.authorized.minor
  authorizedWithin : k.authorized.minor ≤ k.amount.minor
  capturedWithin : k.captured.minor ≤ k.ceiling.minor
  refundedNonneg : 0 ≤ k.refunded.minor
  committedWithin : k.refunded.minor + refundSum Refund.inFlight k.refunds ≤ k.captured.minor
  undrawn : k.state.drawn = false → k.captured.minor = 0
  refundsDrawn : k.refunds ≠ [] → k.state.drawn = true

variable {k : Core}

theorem Sound.refunded_le (s : Sound k) : k.refunded.minor ≤ k.captured.minor := by
  have nonneg : 0 ≤ refundSum Refund.inFlight k.refunds := by
    refine List.sum_nonneg ?_
    intro share memShare
    obtain ⟨r, mem, rfl⟩ := List.mem_map.mp memShare
    split_ifs
    · exact (s.refundPositive r mem).le
    · exact Int.le_refl 0
  have committed := s.committedWithin
  omega

private theorem sound_new {params : NewPaymentParams} {id : PaymentID} {now : Time} {p : Payment}
    (h : Payment.new params id now = .ok p) : Sound p.core := by
  obtain ⟨positive, cm, payload, rfl⟩ := Payment.new_ok h
  refine
    { authorizedCurrency := rfl, capturedCurrency := rfl, refundedCurrency := rfl
      refundCurrency := ?_, refundPositive := ?_, authorizedNonneg := ?_, authorizedWithin := ?_
      capturedWithin := ?_, refundedNonneg := ?_, committedWithin := ?_
      undrawn := fun _ => rfl, refundsDrawn := fun some => absurd rfl some }
  · intro r mem
    cases mem
  · intro r mem
    cases mem
  · exact Int.le_refl 0
  · exact positive.le
  · exact positive.le
  · exact Int.le_refl 0
  · exact Int.le_refl 0

theorem Sound.withAttempts (s : Sound k) (attempts : List Attempt) :
    Sound { k with attempts := attempts } :=
  { s with }

private theorem Sound.withState (s : Sound k)
    (side : dst.drawn = k.state.drawn) : Sound { k with state := dst } :=
  { s with
    undrawn := fun dry => s.undrawn (side ▸ dry)
    refundsDrawn := fun some => side ▸ s.refundsDrawn some }

private theorem Sound.withRefund (s : Sound k) {r r' : Refund} {total : Money}
    (found : k.refunds[i]? = some r) (amount : r'.amount = r.amount)
    (currency : total.currency = k.refunded.currency) (nonneg : 0 ≤ total.minor)
    (within : total.minor + (if r'.inFlight then r.amount.minor else 0) ≤
      k.refunded.minor + if r.inFlight then r.amount.minor else 0)
    (drawn : dst.drawn = true) :
    Sound { k with state := dst, refunded := total, refunds := k.refunds.set i r' } := by
  have original : r ∈ k.refunds := List.mem_of_getElem? found
  have amounts : ∀ x ∈ k.refunds.set i r', ∃ y ∈ k.refunds, x.amount = y.amount := by
    intro x mem
    rcases List.mem_or_eq_of_mem_set mem with old | rfl
    · exact ⟨x, old, rfl⟩
    · exact ⟨r, original, amount⟩
  refine
    { s with
      refundedCurrency := currency.trans s.refundedCurrency
      refundCurrency := ?_, refundPositive := ?_, refundedNonneg := nonneg
      committedWithin := ?_, undrawn := fun dry => ?_, refundsDrawn := fun _ => drawn }
  · intro x mem
    obtain ⟨y, old, same⟩ := amounts x mem
    exact same ▸ s.refundCurrency y old
  · intro x mem
    obtain ⟨y, old, same⟩ := amounts x mem
    exact same ▸ s.refundPositive y old
  · change total.minor + refundSum Refund.inFlight (k.refunds.set i r') ≤ k.captured.minor
    have committed := s.committedWithin
    rw [refundSum_set _ found, amount]
    omega
  · exact absurd (drawn.symm.trans dry) (by decide)

private theorem Sound.state_drawn (s : Sound k) {r : Refund}
    (found : k.refunds[i]? = some r) : k.state.drawn = true :=
  s.refundsDrawn (List.ne_nil_of_mem (List.mem_of_getElem? found))

theorem Effect.sound {k' : Core} {c : Call} (h : Effect k c k') (s : Sound k) : Sound k' := by
  cases h with
  | keep => exact s
  | start | attempt => exact s.withAttempts _
  | move named edge =>
    refine s.withState (drawn_of_edge edge ?_)
    rintro rfl
    cases ‹PaymentCall› <;> simp [PaymentCall.targets] at named
  | resolve named disputed =>
    refine s.withState ?_
    rw [disputed]
    rename_i won _ dst
    cases won <;> simp [resolutions] at named
    · rw [named]; rfl
    · rcases named with rfl | rfl <;> rfl
  | fail resolved edge => exact s.withState (drawn_of_edge edge (by decide))
  | authorize currency positive within edge =>
    have dry : k.state.drawn = false := (drawn_of_edge edge (by decide)).symm
    have empty : k.captured.minor = 0 := s.undrawn dry
    exact
      { s with
        authorizedCurrency := currency, authorizedNonneg := positive.le
        authorizedWithin := within
        capturedWithin := by
          have authorized : Money.isZero ‹Money› = false := by
            rw [← Bool.not_eq_true, Money.isZero_iff]
            omega
          simp only [Core.ceiling, authorized]
          simpa [empty] using positive.le
        undrawn := fun _ => empty
        refundsDrawn := fun some => absurd (s.refundsDrawn some) (by simp [dry]) }
  | capture positive sum currency within =>
    have committed := s.committedWithin
    exact
      { s with
        capturedCurrency := currency.trans s.capturedCurrency, capturedWithin := within
        committedWithin := by
          simp only
          omega
        undrawn := fun dry => absurd dry (by simp [State.drawn])
        refundsDrawn := fun _ => rfl }
  | openRefund allowed pending amount currency positive within =>
    have drawn : k.state.drawn = true := by
      cases state : k.state <;> rw [state] at allowed <;>
        first | rfl | exact absurd allowed (by simp [State.allowsRefund])
    refine
      { s with
        refundCurrency := ?_, refundPositive := ?_, committedWithin := ?_
        refundsDrawn := fun _ => drawn }
    · intro x mem
      rcases List.mem_append.mp mem with old | new
      · exact s.refundCurrency x old
      · rw [List.mem_singleton.mp new, amount]
        exact currency
    · intro x mem
      rcases List.mem_append.mp mem with old | new
      · exact s.refundPositive x old
      · rw [List.mem_singleton.mp new, amount]
        exact positive
    · simp only [refundSum_append, Refund.inFlight, pending, amount]
      simpa [Refund.inFlight, add_assoc] using within
  | confirm found submitted succeeded amount sum currency =>
    have placed := findRefund_some found
    have positive := s.refundPositive _ (List.mem_of_getElem? placed)
    have nonneg := s.refundedNonneg
    refine s.withRefund placed amount currency (by omega) ?_ ?_
    · simp only [Refund.inFlight, submitted, succeeded]
      simp [sum]
    · unfold refundedState
      split_ifs <;> rfl
  | confirmRefused found submitted succeeded amount =>
    have placed := findRefund_some found
    have positive := s.refundPositive _ (List.mem_of_getElem? placed)
    refine s.withRefund placed amount rfl s.refundedNonneg ?_ (s.state_drawn placed)
    simp only [Refund.inFlight, submitted, succeeded]
    simpa using positive.le
  | refund found applied =>
    obtain ⟨_, amount, _, _⟩ := RefundCall.apply_ok applied
    obtain ⟨flying, _⟩ := RefundCall.inFlight_before applied
    have positive := s.refundPositive _ (List.mem_of_getElem? found)
    refine s.withRefund found amount rfl s.refundedNonneg ?_ (s.state_drawn found)
    rw [if_pos flying]
    split_ifs <;> omega

theorem sound_of_reachable {p : Payment} (h : paymentSystem.Reachable p) : Sound p.core := by
  refine System.Reachable.invariant (P := fun p : Payment => Sound p.core) ?_ ?_ h
  · rintro p ⟨params, id, now, built⟩
    exact sound_new built
  · intro p c s
    exact (c.effect p).sound s

/-- The order the aggregate's documentation states: one currency, and refunded (refunds in flight
included) within captured within authorized within the amount. -/
structure TotalsOrdered (p : Payment) : Prop where
  authorizedCurrency : p.authorizedAmount.currency = p.amount.currency
  capturedCurrency : p.capturedAmount.currency = p.amount.currency
  refundedCurrency : p.refundedAmount.currency = p.amount.currency
  refundedNonneg : 0 ≤ p.refundedAmount.minor
  committedWithin : p.refundedAmount.minor + refundSum Refund.inFlight p.refunds ≤
    p.capturedAmount.minor
  capturedWithin : p.capturedAmount.minor ≤
    if p.authorizedAmount.minor = 0 then p.amount.minor else p.authorizedAmount.minor
  authorizedWithin : p.authorizedAmount.minor ≤ p.amount.minor

/-- The totals are ordered in every payment that any sequence of calls reaches. -/
theorem totalsOrdered_of_reachable (p : Payment) (h : paymentSystem.Reachable p) :
    TotalsOrdered p := by
  have s := sound_of_reachable h
  refine
    { authorizedCurrency := s.authorizedCurrency, capturedCurrency := s.capturedCurrency
      refundedCurrency := s.refundedCurrency, refundedNonneg := s.refundedNonneg
      committedWithin := s.committedWithin, capturedWithin := ?_
      authorizedWithin := s.authorizedWithin }
  have within : p.capturedAmount.minor ≤
      (if p.authorizedAmount.isZero = true then p.amount else p.authorizedAmount).minor :=
    s.capturedWithin
  split_ifs with none
  · rwa [if_pos (Money.isZero_iff _ |>.mpr none)] at within
  · rwa [if_neg (mt (Money.isZero_iff _).mp none)] at within

theorem totalsOrdered_sampleRun :
    paymentSystem.Reachable (sampleRun (captureCalls ++ refundCalls)) ∧
      refundSum Refund.inFlight (sampleRun (captureCalls ++ refundCalls)).refunds = 400 ∧
      TotalsOrdered (sampleRun (captureCalls ++ refundCalls)) :=
  ⟨reachable_sampleRun _, by decide +kernel,
    totalsOrdered_of_reachable _ (reachable_sampleRun _)⟩

def Refund.named (r : Refund) : RefundID × Money := (r.id, r.amount)

/-- What no call takes back. -/
structure Grows (k k' : Core) : Prop where
  amount : k'.amount = k.amount
  captured : k.captured.minor ≤ k'.captured.minor
  refunded : k.refunded.minor ≤ k'.refunded.minor
  refunds : k.refunds.map Refund.named <+: k'.refunds.map Refund.named
  final : k.state.isTerminal = true → k'.state = k.state

theorem Grows.refl (k : Core) : Grows k k :=
  ⟨rfl, le_rfl, le_rfl, List.prefix_refl _, fun _ => rfl⟩

theorem Grows.trans {k l m : Core} (first : Grows k l) (second : Grows l m) : Grows k m :=
  ⟨second.amount.trans first.amount, first.captured.trans second.captured,
    first.refunded.trans second.refunded, first.refunds.trans second.refunds,
    fun h => (second.final (by rw [first.final h]; exact h)).trans (first.final h)⟩

theorem Effect.grows {k k' : Core} {c : Call} (effect : Effect k c k') (s : Sound k) :
    Grows k k' := by
  have same := Grows.refl k
  have stays {dst : State} (edge : machine.canTransition k.state dst = true)
      (final : k.state.isTerminal = true) : dst = k.state := by
    generalize k.state = src at *
    cases src <;> cases final <;> cases edge
  have kept {i : Nat} {r r' : Refund} (found : k.refunds[i]? = some r)
      (amount : r'.amount = r.amount) (id : r'.id = r.id) :
      k.refunds.map Refund.named <+: (k.refunds.set i r').map Refund.named := by
    rw [map_set_of_eq _ found (by rw [Refund.named, id, amount]; rfl)]
  cases effect with
  | keep => exact same
  | start | attempt => exact { same with }
  | move _ edge | fail _ edge | authorize _ _ _ edge => exact { same with final := stays edge }
  | resolve _ disputed =>
    refine { same with final := fun final => ?_ }
    rw [disputed] at final
    cases final
  | capture positive sum _ _ edge =>
    exact { same with captured := by dsimp only; omega, final := stays edge }
  | openRefund =>
    exact { same with refunds := by rw [List.map_append]; exact List.prefix_append _ _ }
  | confirm found _ _ amount sum _ _ edge id =>
    have placed := findRefund_some found
    have positive := s.refundPositive _ (List.mem_of_getElem? placed)
    exact ⟨rfl, le_rfl, by dsimp only; omega, kept placed amount id, stays edge⟩
  | confirmRefused found _ _ amount _ id =>
    exact { same with refunds := kept (findRefund_some found) amount id }
  | refund found applied =>
    obtain ⟨-, amount, id, -⟩ := RefundCall.apply_ok applied
    exact { same with refunds := kept found amount id }

/-- Whatever calls follow, refused ones included: the amount stays, the captured and refunded
totals never fall, every refund keeps its place, id and amount, and a terminal state is final. -/
theorem grows_of_run {p : Payment} (h : paymentSystem.Reachable p) (calls : List Call) :
    Grows p.core (paymentSystem.run p calls).core :=
  System.run_rel (I := paymentSystem.Reachable) (R := fun p q => Grows p.core q.core)
    (fun _ c reached => .step c reached trivial) (fun p => .refl p.core) (fun _ _ _ => .trans)
    (fun p c reached => (c.effect p).grows (sound_of_reachable reached)) h calls

/-- The first refund is confirmed, and a second one takes the rest. -/
def fullRefundCalls : List Call :=
  [.payment (.confirmRefund "re_1" "" 5),
    .payment (.addRefund ⟨600, "USD"⟩ .requestedByCustomer "key_3" "re_2" 6),
    .refund 1 (.markSubmitted "gw_re_2" 7), .payment (.confirmRefund "re_2" "" 8)]

theorem grows_of_refunding :
    let p := sampleRun (captureCalls ++ refundCalls)
    let q := paymentSystem.run p fullRefundCalls
    p.refunds.map (·.id) = ["re_1"] ∧ q.refunds.map (·.id) = ["re_1", "re_2"] ∧
      q.state = .refunded ∧ Grows p.core q.core ∧
      Grows q.core (paymentSystem.run q captureCalls).core :=
  have reached := reachable_sampleRun (captureCalls ++ refundCalls)
  ⟨by decide +kernel, by decide +kernel, by decide +kernel, grows_of_run reached fullRefundCalls,
    grows_of_run (System.reachable_run reached _) captureCalls⟩

end Order

open Shared (StateMachine)
open Payment (findRefund)

/-- A confirmation refused after the refund has been marked: the refund is with the gateway, and the
payment fully refunded already, or disputed with captured money left over. -/
def Payment.refusesConfirmation (p : Payment) (refundID : RefundID) : Bool :=
  match findRefund p.refunds refundID with
  | none => false
  | some (r, _) =>
    r.status == .submitted &&
      (p.state == .refunded ||
        (p.state == .disputed &&
          decide (p.refundedAmount.minor + r.amount.minor < p.capturedAmount.minor)))

def Call.refusedConfirmation (p : Payment) : Call → Bool
  | .payment (.confirmRefund refundID _ _) => p.refusesConfirmation refundID
  | _ => false

variable {i : Nat} {k k' : Core}

/-- In a sound payment the new refunded total is always in range and comparable, so
the total never refuses a confirmation. -/
private theorem Sound.add_refund (s : Sound k) {r : Refund}
    (found : k.refunds[i]? = some r) (flying : r.inFlight = true) :
    ∃ total, k.refunded.add r.amount = .ok total ∧
      total.minor = k.refunded.minor + r.amount.minor ∧ k.captured.currency = total.currency := by
  have mem : r ∈ k.refunds := List.mem_of_getElem? found
  have share := le_refundSum s.refundPositive mem flying
  have positive := s.refundPositive r mem
  have nonneg := s.refundedNonneg
  have committed := s.committedWithin
  have bound := k.captured.minor_bounds
  have same : r.amount.currency = k.refunded.currency :=
    (s.refundCurrency r mem).trans s.refundedCurrency.symm
  rcases Money.add_of_currency_eq same with ⟨_, _, ok, exact⟩ | ⟨range, _⟩
  · exact ⟨_, ok, exact, s.capturedCurrency.trans s.refundedCurrency.symm⟩
  · omega

private theorem Sound.refused_iff (s : Sound k) {r : Refund} {total : Money}
    (found : k.refunds[i]? = some r) (sum : total.minor = k.refunded.minor + r.amount.minor) :
    machine.canTransition k.state (refundedState (compare total.minor k.captured.minor)) = false ↔
      k.state = .refunded ∨
        (k.state = .disputed ∧ k.refunded.minor + r.amount.minor < k.captured.minor) := by
  have drawn := s.refundsDrawn (List.ne_nil_of_mem (List.mem_of_getElem? found))
  have compared : refundedState (compare total.minor k.captured.minor) =
      if k.refunded.minor + r.amount.minor < k.captured.minor then .partiallyRefunded
      else .refunded := by
    unfold refundedState
    simp only [compare_lt_iff_lt, sum]
  rw [compared]
  by_cases left : k.refunded.minor + r.amount.minor < k.captured.minor
  · rw [if_pos left]
    rcases k.state.drawn_iff.mp drawn with h | h | h | h | h <;>
      simp [h, left, StateMachine.canTransition, machine]
  · rw [if_neg left]
    rcases k.state.drawn_iff.mp drawn with h | h | h | h | h <;>
      simp [h, left, StateMachine.canTransition, machine]

variable {p : Payment}

private theorem Payment.refusesConfirmation_iff {refundID : RefundID} {r : Refund}
    (found : findRefund p.refunds refundID = some (r, i)) :
    p.refusesConfirmation refundID = true ↔
      r.status = .submitted ∧ (p.state = .refunded ∨
        (p.state = .disputed ∧
          p.refundedAmount.minor + r.amount.minor < p.capturedAmount.minor)) := by
  simp [Payment.refusesConfirmation, found]

theorem Sound.confirmRefund_cases (s : Sound p.core) (refundID : RefundID)
    (gatewayRef : String) (now : Time) :
    (p.refusesConfirmation refundID = false ∧
        ∃ e, p.confirmRefund refundID gatewayRef now = (p, .error e)) ∨
      (p.refusesConfirmation refundID = true ∧
        ∃ i r r' e, p.refunds[i]? = some r ∧ r.status = .submitted ∧ r'.status = .succeeded ∧
          p.confirmRefund refundID gatewayRef now =
            ({ p with refunds := p.refunds.set i r' }, .error e)) ∨
      (p.refusesConfirmation refundID = false ∧
        (p.confirmRefund refundID gatewayRef now).2 = .ok ()) := by
  rcases p.confirmRefund_cases refundID gatewayRef now with
    ⟨-, elsewhere, e, same⟩ | ⟨r, i, r', found, submitted, succeeded, -, -, outcome⟩
  · refine .inl ⟨?_, e, same⟩
    unfold Payment.refusesConfirmation
    cases found : findRefund p.refunds refundID with
    | none => rfl
    | some hit => simp [elsewhere hit.1 hit.2 found]
  · have placed := findRefund_some found
    have late := Payment.refusesConfirmation_iff found
    have flying : r.inFlight = true := by simp [Refund.inFlight, submitted]
    obtain ⟨total, summed, sum, comparable⟩ := s.add_refund placed flying
    have refused := s.refused_iff placed sum
    rcases outcome with ⟨-, ⟨e, same, -⟩, closed⟩ | ⟨-, ok, total', summed', -, edge, -⟩
    · have blocked := refused.mp (closed total summed comparable)
      exact .inr (.inl ⟨late.mpr ⟨submitted, blocked⟩, i, r, r', e, placed, submitted, succeeded,
        same⟩)
    · refine .inr (.inr ⟨?_, ok⟩)
      cases summed.symm.trans summed'
      rw [← Bool.not_eq_true, late]
      intro h
      exact absurd (edge.symm.trans (refused.mpr h.2)) (by decide)

variable {c : Call}

theorem Effect.succeededSum (h : Effect p.core c k')
    (s : Sound p.core) (accepted : c.refusedConfirmation p = false)
    (agrees : p.core.refunded.minor = refundSum Refund.isSucceeded p.core.refunds) :
    k'.refunded.minor = refundSum Refund.isSucceeded k'.refunds := by
  cases h with
  | keep | start | attempt | move | resolve | fail | authorize | capture => exact agrees
  | openRefund allowed pending =>
    simp only [refundSum_append, Refund.isSucceeded, pending]
    simpa using agrees
  | confirm found submitted succeeded amount sum =>
    simp only [refundSum_set _ (findRefund_some found), Refund.isSucceeded, submitted, succeeded,
      amount, sum]
    simpa using agrees
  | refund found applied =>
    obtain ⟨flying, notSucceeded⟩ := RefundCall.inFlight_before applied
    rename_i i c r r'
    have before : r.isSucceeded = false := by
      simp only [Refund.inFlight, Bool.or_eq_true, beq_iff_eq] at flying
      rcases flying with h | h <;> simp [Refund.isSucceeded, h]
    have after : r'.isSucceeded = false := by simpa [Refund.isSucceeded] using notSucceeded
    simp only [refundSum_set _ found, before, after]
    simpa using agrees
  | confirmRefused found submitted succeeded amount refused same =>
    rename_i refundID gatewayRef now i r r'
    have flying : r.inFlight = true := by simp [Refund.inFlight, submitted]
    have placed := findRefund_some found
    obtain ⟨total, summed, sum, comparable⟩ := s.add_refund placed flying
    have blocked := (s.refused_iff placed sum).mp (refused total summed comparable)
    have late := (Payment.refusesConfirmation_iff found).mpr ⟨submitted, blocked⟩
    exact absurd (late.symm.trans accepted) (by decide)

/-- As long as no confirmation arrives that the payment's state refuses, the refunded
total is the sum of the refunds that succeeded. -/
theorem refunded_eq_succeeded_sum (p : Payment)
    (h : paymentSystem.ReachableUnder (fun q c => c.refusedConfirmation q = false) p) :
    p.refundedAmount.minor = refundSum Refund.isSucceeded p.refunds := by
  refine System.ReachableUnder.invariant
    (P := fun p : Payment => p.refundedAmount.minor = refundSum Refund.isSucceeded p.refunds)
    ?_ ?_ h
  · rintro p ⟨params, id, now, built⟩
    obtain ⟨_, cm, payload, rfl⟩ := Payment.new_ok built
    rfl
  · intro p c reached agrees accepted
    exact (c.effect p).succeededSum (sound_of_reachable reached.reachable) accepted agrees

theorem Call.accepted_of_ok (s : Sound p.core)
    (ok : (c.apply p).2 = .ok ()) : c.refusedConfirmation p = false := by
  cases c with
  | attempt i c | refund i c => rfl
  | payment c =>
    cases c with
    | confirmRefund refundID gatewayRef now =>
      rcases s.confirmRefund_cases refundID gatewayRef now with
        ⟨accepted, -⟩ | ⟨-, i, r, r', e, -, -, -, ended⟩ | ⟨accepted, -⟩
      · exact accepted
      · have refused : (p.confirmRefund refundID gatewayRef now).2 = .error e := by rw [ended]
        exact absurd (ok.symm.trans refused) (by simp)
      · exact accepted
    | _ => rfl

structure Accounted (k : Core) : Prop where
  sound : Sound k
  succeeded : k.refunded.minor = refundSum Refund.isSucceeded k.refunds
  known : ∀ r ∈ k.refunds, r.inFlight = true ∨ r.isSucceeded = true ∨ r.released = true

theorem Refund.exclusive (r : Refund)
    (known : r.inFlight = true ∨ r.isSucceeded = true ∨ r.released = true) :
    (r.inFlight = true ∧ r.isSucceeded = false ∧ r.released = false) ∨
      (r.inFlight = false ∧ r.isSucceeded = true ∧ r.released = false) ∨
      (r.inFlight = false ∧ r.isSucceeded = false ∧ r.released = true) := by
  simp only [Refund.inFlight, Refund.isSucceeded, Refund.released] at known ⊢
  cases status : r.status <;> simp [status] at known ⊢

theorem Accounted.active_le (h : Accounted k) :
    refundSum (fun r => !r.released) k.refunds ≤ k.captured.minor := by
  have split : ∀ rs : List Refund,
      (∀ r ∈ rs, r.inFlight = true ∨ r.isSucceeded = true ∨ r.released = true) →
      refundSum (fun r => !r.released) rs =
        refundSum Refund.inFlight rs + refundSum Refund.isSucceeded rs := by
    intro rs
    induction rs with
    | nil => simp [refundSum]
    | cons r rest ih =>
      intro known
      have tail := ih fun x mem => known x (List.mem_cons_of_mem _ mem)
      have head := known r List.mem_cons_self
      have share : (if (!r.released) = true then r.amount.minor else 0) =
          (if r.inFlight = true then r.amount.minor else 0) +
            if r.isSucceeded = true then r.amount.minor else 0 := by
        rcases r.exclusive head with ⟨a, b, c⟩ | ⟨a, b, c⟩ | ⟨a, b, c⟩ <;> simp [a, b, c]
      simp only [refundSum, List.map_cons, List.sum_cons] at tail ⊢
      rw [share, tail]
      ring
  have committed := h.sound.committedWithin
  have succeeded := h.succeeded
  rw [split _ h.known]
  omega

theorem Effect.accounted (h : Effect p.core c k')
    (accepted : c.refusedConfirmation p = false) (a : Accounted p.core) : Accounted k' := by
  refine ⟨h.sound a.sound, h.succeededSum a.sound accepted a.succeeded, ?_⟩
  have replaced : ∀ {i : Nat} {r' : Refund},
      (r'.inFlight = true ∨ r'.isSucceeded = true ∨ r'.released = true) →
      ∀ r ∈ p.core.refunds.set i r',
        r.inFlight = true ∨ r.isSucceeded = true ∨ r.released = true := by
    intro i r' known r mem
    rcases List.mem_or_eq_of_mem_set mem with old | rfl
    · exact a.known r old
    · exact known
  cases h with
  | keep | start | attempt | move | resolve | fail | authorize | capture => exact a.known
  | openRefund allowed pending =>
    intro r mem
    rcases List.mem_append.mp mem with old | new
    · exact a.known r old
    · rw [List.mem_singleton.mp new]
      exact .inl (by simp [Refund.inFlight, pending])
  | confirm found submitted succeeded =>
    exact replaced (.inr (.inl (by simp [Refund.isSucceeded, succeeded])))
  | confirmRefused found submitted succeeded =>
    exact replaced (.inr (.inl (by simp [Refund.isSucceeded, succeeded])))
  | refund found applied =>
    obtain ⟨status, -⟩ := RefundCall.apply_ok applied
    refine replaced ?_
    rename_i i c r r'
    cases c <;> simp [Refund.inFlight, Refund.released, status, RefundCall.target]

theorem accounted_of_reachable
    (h : paymentSystem.ReachableUnder (fun q c => c.refusedConfirmation q = false) p) :
    Accounted p.core := by
  refine System.ReachableUnder.invariant (P := fun p : Payment => Accounted p.core) ?_ ?_ h
  · rintro p ⟨params, id, now, built⟩
    have sound := sound_of_reachable (.init ⟨params, id, now, built⟩)
    obtain ⟨_, cm, payload, rfl⟩ := Payment.new_ok built
    exact ⟨sound, rfl, fun r mem => absurd mem List.not_mem_nil⟩
  · intro p c _ accounted accepted
    exact (c.effect p).accounted accepted accounted

/-- A captured payment whose submitted refund of four dollars is confirmed. -/
theorem refunded_eq_succeeded_sum_sampleRun :
    paymentSystem.ReachableUnder (fun q c => c.refusedConfirmation q = false)
        (sampleRun (captureCalls ++ refundCalls ++ [.payment (.confirmRefund "re_1" "" 5)])) ∧
      (sampleRun (captureCalls ++ refundCalls ++
        [.payment (.confirmRefund "re_1" "" 5)])).refundedAmount.minor =
        refundSum Refund.isSucceeded (sampleRun (captureCalls ++ refundCalls ++
          [.payment (.confirmRefund "re_1" "" 5)])).refunds := by
  have reached := System.reachableUnder_run
    (G := fun q c => c.refusedConfirmation q = false) (.init init_samplePayment)
    (captureCalls ++ refundCalls ++ [.payment (.confirmRefund "re_1" "" 5)]) (by decide +kernel)
  exact ⟨reached, refunded_eq_succeeded_sum _ reached⟩

/-- A refund submitted before a dispute and confirmed during it: the refund reads
SUCCEEDED, the total does not move. -/
def disputedConfirmCalls : List Call :=
  captureCalls ++ refundCalls ++
    [.payment (.markDisputed "dp_1" "fraudulent" 5), .payment (.confirmRefund "re_1" "" 6)]

theorem refunded_ne_succeeded_sum_disputed :
    paymentSystem.Reachable (sampleRun disputedConfirmCalls) ∧
      (sampleRun disputedConfirmCalls).refundedAmount.minor = 0 ∧
      refundSum Refund.isSucceeded (sampleRun disputedConfirmCalls).refunds = 400 :=
  ⟨reachable_sampleRun _, by decide +kernel, by decide +kernel⟩

open Payment (Result)

/-- Two payments agree on everything a caller can observe of a mutation: state,
totals, attempts, refunds, version and undrained events. -/
structure SameRecord (p q : Payment) : Prop where
  state : q.state = p.state
  authorizedAmount : q.authorizedAmount = p.authorizedAmount
  capturedAmount : q.capturedAmount = p.capturedAmount
  refundedAmount : q.refundedAmount = p.refundedAmount
  attempts : q.attempts = p.attempts
  refunds : q.refunds = p.refunds
  version : q.version = p.version
  events : q.events = p.events

/-- The call is all or nothing on `p`: an error leaves the record as it was. -/
def Atomic (p : Payment) (c : PaymentCall) : Prop :=
  ∀ e, (c.apply p).2 = .error e → SameRecord p (c.apply p).1

private def RefusesUntouched {α : Type} (p : Payment) (r : Result α) : Prop :=
  ∀ e, r.2 = .error e → r.1 = p

variable {α : Type}

private theorem RefusesUntouched.error (p : Payment) (e : GoError) :
    RefusesUntouched p ((p, .error e) : Result α) := fun _ _ => rfl

private theorem RefusesUntouched.ok (p q : Payment) (a : α) :
    RefusesUntouched p ((q, .ok a) : Result α) := fun _ h => nomatch h

variable {p : Payment}

private theorem untouched_transition (p : Payment) (dst : State)
    (evt : Option (EventType × Payload)) (now : Time) :
    RefusesUntouched p (p.transition dst evt now) := by
  rcases p.transition_cases dst evt now with ⟨_, e, same⟩ | ⟨_, ok, _⟩
  · rw [same]
    exact .error p e
  · intro e refused
    cases ok.symm.trans refused

private theorem PaymentCall.untouched (p : Payment) (c : PaymentCall)
    (other : ∀ refundID gatewayRef now, c ≠ .confirmRefund refundID gatewayRef now) :
    RefusesUntouched p (c.apply p) := by
  cases c with
  | confirmRefund refundID gatewayRef now => exact absurd rfl (other refundID gatewayRef now)
  | requireReconciliation | markPersisted | drainEvents => exact .ok p _ _
  | markProcessing now | requireAction action now | markPending now | cancel reason now
  | expire now | markSettled settledAt settlementRef now
  | markDisputed => exact untouched_transition p _ _ _
  -- these write nothing before their last check
  | startAttempt | markAuthorized | markCaptured | markFailed | void | addRefund
  | resolveDispute =>
    simp only [PaymentCall.apply, Payment.Result.discard, Payment.startAttempt,
      Payment.markAuthorized, Payment.markCaptured, Payment.markFailed, Payment.void,
      Payment.addRefund, Payment.resolveDispute]
    repeat' split
    all_goals first | exact .error p _ | exact .ok p _ _ | exact untouched_transition p _ _ _

private theorem RefusesUntouched.atomic {c : PaymentCall}
    (h : RefusesUntouched p (c.apply p)) : Atomic p c := by
  intro e refused
  rw [h e refused]
  exact ⟨rfl, rfl, rfl, rfl, rfl, rfl, rfl, rfl⟩

private theorem not_atomic_of_marked {c : PaymentCall} {i : Nat} {r r' : Refund}
    {e : GoError} (found : p.refunds[i]? = some r) (submitted : r.status = .submitted)
    (succeeded : r'.status = .succeeded)
    (result : c.apply p = ({ p with refunds := p.refunds.set i r' }, .error e)) :
    ¬ Atomic p c := by
  intro atomic
  have same := (atomic e (by rw [result])).refunds
  rw [result] at same
  have bound := (List.getElem?_eq_some_iff.mp found).1
  have kept : (p.refunds.set i r')[i]? = some r := by
    rw [show p.refunds.set i r' = p.refunds from same]
    exact found
  rw [List.getElem?_set_self bound] at kept
  cases kept
  cases submitted.symm.trans succeeded

/-- Exactly which calls on a reachable payment are all or nothing: all but a confirmation that
reaches a submitted refund of a payment whose state refuses it. -/
theorem atomic_iff (p : Payment) (h : paymentSystem.Reachable p) (c : PaymentCall) :
    Atomic p c ↔ (Call.payment c).refusedConfirmation p = false := by
  by_cases confirm : ∃ refundID gatewayRef now, c = .confirmRefund refundID gatewayRef now
  · obtain ⟨refundID, gatewayRef, now, rfl⟩ := confirm
    change _ ↔ p.refusesConfirmation refundID = false
    rcases (sound_of_reachable h).confirmRefund_cases refundID gatewayRef now with
      ⟨accepts, e, same⟩ | ⟨refuses, i, r, r', e, found, submitted, succeeded, result⟩ |
      ⟨accepts, done⟩
    · refine iff_of_true (RefusesUntouched.atomic ?_) accepts
      change RefusesUntouched p (p.confirmRefund refundID gatewayRef now)
      rw [same]
      exact .error p e
    · exact iff_of_false (not_atomic_of_marked found submitted succeeded result) (by simp [refuses])
    · refine iff_of_true ?_ accepts
      intro e refused
      cases done.symm.trans refused
  · have untouched := c.untouched p fun refundID gatewayRef now same =>
      confirm ⟨refundID, gatewayRef, now, same⟩
    refine iff_of_true untouched.atomic ?_
    cases c <;> first | rfl | exact absurd ⟨_, _, _, rfl⟩ confirm

/-- A confirmation of an unknown refund is refused whole. -/
theorem atomic_unknownRefund :
    paymentSystem.Reachable (sampleRun (captureCalls ++ refundCalls)) ∧
      Atomic (sampleRun (captureCalls ++ refundCalls)) (.confirmRefund "re_2" "" 5) :=
  ⟨reachable_sampleRun _, (atomic_iff _ (reachable_sampleRun _) _).mpr (by decide +kernel)⟩

def disputedWithRefund : Payment :=
  sampleRun (captureCalls ++ refundCalls ++ [.payment (.markDisputed "dp_1" "fraudulent" 5)])

/-- A confirmation during a dispute returns an error and still marks the refund. -/
theorem not_atomic_disputedWithRefund :
    paymentSystem.Reachable disputedWithRefund ∧
      ¬ Atomic disputedWithRefund (.confirmRefund "re_1" "" 6) := by
  refine ⟨reachable_sampleRun _, fun atomic => ?_⟩
  have marked : (disputedWithRefund.confirmRefund "re_1" "" 6).1.refunds ≠
      disputedWithRefund.refunds := by decide +kernel
  have refused : (disputedWithRefund.confirmRefund "re_1" "" 6).2.isOk = false := by
    decide +kernel
  cases returned : (disputedWithRefund.confirmRefund "re_1" "" 6).2 with
  | ok =>
    rw [returned] at refused
    cases refused
  | error e => exact marked (atomic e returned).refunds

end PaymentsPlatform.Payments
