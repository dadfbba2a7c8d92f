/- layer: results about the webhook processor
   digest: The reports of refunds, and the postings of notifications, against the stored totals. -/

import PaymentsPlatform.Payments.Totals
import PaymentsPlatform.Webhook.Transitions

namespace PaymentsPlatform.Webhook

open Lib.TransitionSystem Payments
open Payments.Payment (findRefund refundedState)
open Pkg (Money)
open Storage (Row)

/-- What the gateway reports of each refund, `true` for a success.  Everything it sends about
the payment is one of these reports. -/
structure Reports where
  id : PaymentID
  named : id ≠ ""
  outcome : RefundID → Bool

namespace Reports

variable (g : Reports)

def kind (refundID : RefundID) : WebhookKind :=
  if g.outcome refundID then .refundSucceeded else .refundFailed

/-- The notification is about another payment, or reports a refund of this one as it came out. -/
def Sends (e : WebhookEvent) : Prop := e.paymentID = g.id → e.kind = g.kind e.refundID

/-- A refund of the payment is with the gateway, or has come out as it will be reported. -/
def Fits (r : Refund) : Prop :=
  r.status = .submitted ∨ (r.isSucceeded = true ∧ g.outcome r.id = true) ∨
    (r.released = true ∧ g.outcome r.id = false)

/-- Refunds, each under an identifier of its own, that are with the gateway or done, and accounted
for if done. -/
def Opens (s : Store) : Prop :=
  ∃ row, s.payments g.id = some row ∧ (row.payment.refunds.map (·.id)).Nodup ∧
    (∀ r ∈ row.payment.refunds, g.Fits r) ∧
    row.payment.refundedAmount.minor = refundSum Refund.isSucceeded row.payment.refunds

/-- Once every refund has been reported and processed without an error, the stored total is the sum
of the reported successes, and no other is in flight. -/
def Settled (h : History) : Prop :=
  ∀ row, h.store.payments g.id = some row →
    (∀ r ∈ row.payment.refunds, ∃ e ∈ h.processed, e.paymentID = g.id ∧ e.refundID = r.id) →
    row.payment.refundedAmount.minor =
        refundSum (fun r => g.outcome r.id) row.payment.refunds ∧
      ∀ r ∈ row.payment.refunds, g.outcome r.id = false → r.inFlight = false

/-- The report of a refund still with the gateway is a success that moves the payment: it is
CAPTURED or SETTLED, or PARTIALLY_REFUNDED or DISPUTED with nothing left over. -/
def moving (pay : Payment) (e : WebhookEvent) : Bool :=
  match findRefund pay.refunds e.refundID with
  | none => true
  | some (r, _) =>
    r.status != .submitted ||
      (g.outcome e.refundID &&
        (pay.state == .captured || pay.state == .settled ||
          ((pay.state == .partiallyRefunded || pay.state == .disputed) &&
            decide (pay.capturedAmount.minor ≤ pay.refundedAmount.minor + r.amount.minor))))

/-- A delivery the processor gets right: the payment can be read, and the report moves it. -/
def Telling (p : Processor) (h : History) (d : Delivery) : Prop :=
  ∀ e, d.event p h.store = some e → e.paymentID = g.id →
    ∀ row, h.store.payments g.id = some row →
      d.env.tx.readErr = none ∧ row.payment.state.isKnown = true ∧ g.moving row.payment e = true

def Delivers (p : Processor) (h : History) (d : Delivery) : Prop :=
  ∀ e, d.event p h.store = some e → g.Sends e

structure Fine (pay : Payment) (processed : List WebhookEvent) : Prop where
  distinct : (pay.refunds.map (·.id)).Nodup
  fits : ∀ r ∈ pay.refunds, g.Fits r
  summed : pay.refundedAmount.minor = refundSum Refund.isSucceeded pay.refunds
  reported : ∀ e ∈ processed, e.paymentID = g.id → ∀ r ∈ pay.refunds, r.id = e.refundID →
    r.status ≠ .submitted

def Kept (h : History) : Prop :=
  ∃ row, h.store.payments g.id = some row ∧ g.Fine row.payment h.processed

variable {g} {pay pay' : Payment} {processed : List WebhookEvent}

theorem Fine.mono {fewer : List WebhookEvent}
    (fine : g.Fine pay processed) (among : fewer ⊆ processed) : g.Fine pay fewer :=
  ⟨fine.distinct, fine.fits, fine.summed, fun e mem => fine.reported e (among mem)⟩

variable {e : WebhookEvent}

theorem Fine.report (fine : g.Fine pay processed)
    (settled : e.paymentID = g.id → ∀ r ∈ pay.refunds, r.id = e.refundID → r.status ≠ .submitted) :
    g.Fine pay (processed ++ [e]) := by
  refine ⟨fine.distinct, fine.fits, fine.summed, fun e' mem => ?_⟩
  rcases List.mem_append.mp mem with earlier | now
  · exact fine.reported e' earlier
  · obtain rfl := List.mem_singleton.mp now
    exact settled

theorem Fine.congr (fine : g.Fine pay processed) (refunds : pay'.refunds = pay.refunds)
    (total : pay'.refundedAmount = pay.refundedAmount) : g.Fine pay' processed := by
  refine ⟨?_, ?_, ?_, ?_⟩
  · rw [refunds]
    exact fine.distinct
  · rw [refunds]
    exact fine.fits
  · rw [refunds, total]
    exact fine.summed
  · rw [refunds]
    exact fine.reported

theorem findRefund_id {refunds : List Refund} {refundID : RefundID} {r : Refund} {i : Nat}
    (found : findRefund refunds refundID = some (r, i)) : r.id = refundID := by
  simpa using List.find?_some found

theorem findRefund_of_mem {refunds : List Refund} (distinct : (refunds.map (·.id)).Nodup)
    {r : Refund} (mem : r ∈ refunds) : ∃ i, findRefund refunds r.id = some (r, i) := by
  cases found : findRefund refunds r.id with
  | none =>
    obtain ⟨i, placed⟩ := List.getElem?_of_mem mem
    have seen := List.find?_eq_none.mp found (r, i) (List.mem_zipIdx_iff_getElem?.mpr placed)
    simp at seen
  | some hit =>
    obtain ⟨r', i⟩ := hit
    have mem' : r' ∈ refunds := List.mem_of_getElem? (findRefund_some found)
    have same := List.inj_on_of_nodup_map distinct mem' mem (findRefund_id found)
    exact ⟨i, by rw [same]⟩

theorem Fine.confirm (fine : g.Fine pay processed) {r r' : Refund} {i : Nat} {total : Money}
    (found : findRefund pay.refunds e.refundID = some (r, i)) (submitted : r.status = .submitted)
    (succeeded : r'.status = .succeeded) (amount : r'.amount = r.amount) (same : r'.id = r.id)
    (sum : total.minor = pay.refundedAmount.minor + r.amount.minor)
    (outcome : g.outcome e.refundID = true)
    (refunds : pay'.refunds = pay.refunds.set i r') (refunded : pay'.refundedAmount = total) :
    g.Fine pay' (processed ++ [e]) := by
  have placed := findRefund_some found
  have named := findRefund_id found
  have members : ∀ x ∈ pay.refunds.set i r', x = r' ∨ x ∈ pay.refunds := fun x mem =>
    (List.mem_or_eq_of_mem_set mem).symm
  refine ⟨?_, ?_, ?_, ?_⟩
  · rw [refunds, map_set_of_eq (·.id) placed same]
    exact fine.distinct
  · rw [refunds]
    intro x mem
    rcases members x mem with rfl | old
    · refine .inr (.inl ⟨by simp [Refund.isSucceeded, succeeded], ?_⟩)
      rw [same, named, outcome]
    · exact fine.fits x old
  · rw [refunds, refunded, refundSum_set _ placed, sum, fine.summed]
    simp [Refund.isSucceeded, submitted, succeeded, amount]
  · rw [refunds]
    intro e' mem payment x inside refund
    rcases members x inside with rfl | old
    · simp [succeeded]
    · rcases List.mem_append.mp mem with earlier | now
      · exact fine.reported e' earlier payment x old refund
      · obtain rfl := List.mem_singleton.mp now
        -- the refund under this identifier is the one that was replaced
        intro unsettled
        have shared : x.id = r'.id := by rw [refund, same, named]
        have distinct : ((pay.refunds.set i r').map (·.id)).Nodup := by
          rw [map_set_of_eq (·.id) placed same]
          exact fine.distinct
        have bound : i < pay.refunds.length := (List.getElem?_eq_some_iff.mp placed).1
        have here : r' ∈ pay.refunds.set i r' := List.mem_set bound r'
        have equal := List.inj_on_of_nodup_map distinct inside here shared
        rw [equal, succeeded] at unsettled
        cases unsettled

theorem Kept.settled {h : History} (kept : g.Kept h) : g.Settled h := by
  obtain ⟨row, stored, fine⟩ := kept
  intro row' stored' all
  cases stored.symm.trans stored'
  have done : ∀ r ∈ row.payment.refunds, (r.isSucceeded = true ∧ g.outcome r.id = true) ∨
      (r.released = true ∧ g.outcome r.id = false) := by
    intro r mem
    obtain ⟨e, processed, payment, refund⟩ := all r mem
    rcases fine.fits r mem with submitted | done
    · exact absurd submitted (fine.reported e processed payment r mem refund.symm)
    · exact done
  refine ⟨?_, fun r mem failed => ?_⟩
  · rw [fine.summed]
    unfold refundSum
    refine congrArg List.sum (List.map_congr_left fun r mem => ?_)
    rcases done r mem with ⟨succeeded, outcome⟩ | ⟨released, outcome⟩
    · simp only [succeeded, outcome]
    · have unsuccessful : r.isSucceeded = false := by
        revert released
        cases status : r.status <;> simp [Refund.released, Refund.isSucceeded, status]
      simp only [unsuccessful, outcome]
  · rcases done r mem with ⟨-, outcome⟩ | ⟨released, -⟩
    · cases outcome.symm.trans failed
    · revert released
      cases status : r.status <;> simp [Refund.released, Refund.inFlight, status]

theorem moving_edge {r : Refund} {i : Nat} {total : Money}
    (found : findRefund pay.refunds e.refundID = some (r, i)) (submitted : r.status = .submitted)
    (moving : g.moving pay e = true)
    (sum : total.minor = pay.refundedAmount.minor + r.amount.minor) :
    machine.canTransition pay.state
        (refundedState (compare total.minor pay.capturedAmount.minor)) = true ∧
      refundedState (compare total.minor pay.capturedAmount.minor) ≠ pay.state := by
  simp only [Reports.moving, found, submitted, bne_self_eq_false, Bool.false_or, Bool.and_eq_true,
    Bool.or_eq_true, beq_iff_eq, decide_eq_true_eq] at moving
  rw [refundedState_compare, sum]
  rcases moving.2 with (captured | settled) | ⟨partially | disputed, nothing⟩
  · rw [captured]
    split <;> decide
  · rw [settled]
    split <;> decide
  · rw [partially, if_neg (by omega)]
    decide
  · rw [disputed, if_neg (by omega)]
    decide

theorem settled_of_failed (fine : g.Fine pay processed) (moving : g.moving pay e = true)
    (failed : g.outcome e.refundID = false) :
    ∀ r ∈ pay.refunds, r.id = e.refundID → r.status ≠ .submitted := by
  intro r mem named
  obtain ⟨i, found⟩ := findRefund_of_mem fine.distinct mem
  rw [named] at found
  simpa [Reports.moving, found, failed] using moving

theorem settled_of_refused {p' : Payment} (fine : g.Fine pay processed) {env : ProcessEnv}
    {err : GoError}
    (moving : g.moving pay e = true) (kind : e.kind = .refundSucceeded)
    (refused : transition env pay e = (p', .error err))
    (code : codeOf err = .invalidStateTransition) :
    ∀ r ∈ pay.refunds, r.id = e.refundID → r.status ≠ .submitted := by
  unfold transition at refused
  rw [kind] at refused
  dsimp only at refused
  split at refused
  · cases refused
    cases code
  intro r mem named submitted
  obtain ⟨j, here⟩ := findRefund_of_mem fine.distinct mem
  rw [named] at here
  rcases pay.confirmRefund_cases e.refundID e.gatewayRef env.mutatedAt with
    ⟨-, elsewhere, -⟩ | ⟨r₁, i, r', found, -, -, -, -, outcome⟩
  · exact elsewhere r j here submitted
  · cases here.symm.trans found
    rcases outcome with ⟨-, ⟨err', same, invalid⟩, closed⟩ | ⟨-, ok, -⟩
    · cases refused.symm.trans same
      obtain ⟨total, summed, comparable⟩ := invalid code
      obtain ⟨edge, -⟩ := moving_edge here submitted moving (Money.add_ok summed).2.2
      exact absurd (edge.symm.trans (closed total summed comparable)) (by decide)
    · rw [refused] at ok
      cases ok

theorem moved_refundSucceeded {k : Core} (h : Moved pay e k)
    (kind : e.kind = .refundSucceeded) :
    ∃ r r' i total, findRefund pay.refunds e.refundID = some (r, i) ∧ r.status = .submitted ∧
      r'.status = .succeeded ∧ r'.amount = r.amount ∧ r'.id = r.id ∧
      total.minor = pay.refundedAmount.minor + r.amount.minor ∧
      k = { pay.core with
        state := refundedState (compare total.minor pay.capturedAmount.minor)
        refunded := total
        refunds := pay.refunds.set i r' } := by
  cases h with
  | confirm _ found submitted succeeded amount same sum edge =>
    exact ⟨_, _, _, _, found, submitted, succeeded, amount, same, (Money.add_ok sum).2.2, rfl⟩
  | idle other | authorize other | fail other | capture other | move other | resolve other =>
    simp [kind] at other

theorem moved_refundFailed {k : Core} (h : Moved pay e k)
    (kind : e.kind = .refundFailed) : k = pay.core := by
  cases h with
  | idle _ => rfl
  | confirm other | authorize other | fail other | capture other | move other | resolve other =>
    simp [kind] at other

theorem Fine.applied {p : Processor} {env : ProcessEnv} {s : Store}
    {left : Store × Bool × String} (h : Applied p env e s left) {row : Row}
    (stored : s.payments g.id = some row)
    (fine : g.Fine row.payment processed) (here : e.paymentID = g.id)
    (kind : e.kind = g.kind e.refundID) (readable : env.tx.readErr = none)
    (known : row.payment.state.isKnown = true) (moving : g.moving row.payment e = true) :
    ∃ row', left.1.payments g.id = some row' ∧ g.Fine row'.payment (processed ++ [e]) := by
  have read : getForUpdate env e.paymentID s = some (loaded row) := by
    simp [getForUpdate, readable, here, stored, Payment.rehydrate, known, Except.toOption, loaded]
  have fine' : g.Fine (loaded row) processed := fine.congr rfl rfl
  have moving' : g.moving (loaded row) e = true := moving
  have unknown : e.kind ≠ .ignored := by
    rw [kind, Reports.kind]
    split <;> simp
  have settled (succeeds : e.kind = .refundSucceeded →
      ∀ r ∈ row.payment.refunds, r.id = e.refundID → r.status ≠ .submitted) :
      ∀ r ∈ row.payment.refunds, r.id = e.refundID → r.status ≠ .submitted := by
    cases outcome : g.outcome e.refundID with
    | false => exact settled_of_failed fine moving outcome
    | true => exact succeeds (by rw [kind, Reports.kind, if_pos outcome])
  cases h with
  | ignored ignored => exact absurd ignored unknown
  | parked unread =>
    rcases unread with unnamed | unread
    · exact absurd (here.symm.trans unnamed) g.named
    · cases read.symm.trans unread
  | refused read' refuses code =>
    cases read.symm.trans read'
    refine ⟨row, stored, fine.report fun _ => settled fun succeeded => ?_⟩
    have refused := settled_of_refused fine' moving' succeeded refuses code
    exact refused
  | unmoved read' accepted same undisputed =>
    cases read.symm.trans read'
    refine ⟨row, stored, fine.report fun _ => settled fun succeeded => ?_⟩
    obtain ⟨-, p', err, refused⟩ | ⟨-, p', ended, moved⟩ := transition_spec env (loaded row) e
    · cases accepted.symm.trans refused
    cases accepted.symm.trans ended
    obtain ⟨r, r', i, total, found, submitted, -, -, -, sum, core⟩ :=
      moved_refundSucceeded moved succeeded
    exact absurd ((congrArg Core.state core).symm.trans same)
      (moving_edge found submitted moving' sum).2
  | recorded named read' accepted changed posted =>
    rename_i pay moved books
    cases read.symm.trans read'
    obtain ⟨-, p', err, refused⟩ | ⟨-, p', ended, after⟩ := transition_spec env (loaded row) e
    · cases accepted.symm.trans refused
    cases accepted.symm.trans ended
    refine ⟨Row.of moved, ?_, ?_⟩
    · dsimp only
      rw [here, Function.update_self]
    cases outcome : g.outcome e.refundID with
    | false =>
      have failed : e.kind = .refundFailed := by
        rw [kind, Reports.kind, if_neg (by simp [outcome])]
      have core := moved_refundFailed after failed
      have refunds : moved.refunds = row.payment.refunds := congrArg Core.refunds core
      have total : moved.refundedAmount = row.payment.refundedAmount := congrArg Core.refunded core
      exact (fine.report fun _ => settled_of_failed fine moving outcome).congr refunds total
    | true =>
      have succeeded : e.kind = .refundSucceeded := by rw [kind, Reports.kind, if_pos outcome]
      obtain ⟨r, r', i, total, found, submitted, marked, amount, same, sum, core⟩ :=
        moved_refundSucceeded after succeeded
      have refunds : moved.refunds = row.payment.refunds.set i r' := congrArg Core.refunds core
      have refunded : moved.refundedAmount = total := congrArg Core.refunded core
      exact fine.confirm found submitted marked amount same sum outcome refunds refunded

theorem Kept.deliver {p : Processor} {h : History} {d : Delivery} (kept : g.Kept h)
    (sends : g.Delivers p h d) (telling : g.Telling p h d) : g.Kept (deliver p h d) := by
  obtain ⟨row, stored, fine⟩ := kept
  rcases deliver_cases p h d with ⟨⟨payments, -⟩, processed⟩ | ⟨e, left, event, applied, ⟨payments, -⟩, processed⟩
  · refine ⟨row, ?_, ?_⟩
    · rw [payments, stored]
    · rw [processed]
      exact fine
  · have told : ∃ row', left.1.payments g.id = some row' ∧
        g.Fine row'.payment (h.processed ++ [e]) := by
      by_cases here : e.paymentID = g.id
      · obtain ⟨readable, known, moving⟩ := telling e event here row stored
        exact Fine.applied applied stored fine here (sends e event here) readable known moving
      · refine ⟨row, ?_, fine.report fun same => absurd same here⟩
        cases applied with
        | ignored | parked | refused | unmoved => exact stored
        | recorded =>
          dsimp only
          rw [Function.update_of_ne (Ne.symm here), stored]
    obtain ⟨row', stored', fine'⟩ := told
    refine ⟨row', by rw [payments, stored'], ?_⟩
    rcases processed with same | more
    · rw [same]
      exact fine'.mono (List.subset_append_left _ _)
    · rw [more]
      exact fine'

/-- In every run of deliveries of the gateway's reports in which each is told, the refunds are
settled as reported. -/
theorem settled_of_reachable (g : Reports) (p : Processor) {h : History}
    (reached : (deliveries p g.Opens).ReachableUnder
      (fun h d => g.Delivers p h d ∧ g.Telling p h d) h) : g.Settled h := by
  have kept : g.Kept h := by
    refine System.ReachableUnder.invariant ?_ ?_ reached
    · rintro h ⟨⟨row, stored, distinct, fits, summed⟩, none⟩
      refine ⟨row, stored, distinct, fits, summed, ?_⟩
      rw [none]
      intro e mem
      cases mem
    · intro h d _ kept guard
      exact kept.deliver guard.1 guard.2
  exact kept.settled

instance (p : Processor) (h : History) (d : Delivery) : Decidable (g.Delivers p h d) :=
  decidable_of_iff
    ((d.event p h.store).all fun e => e.paymentID != g.id || e.kind == g.kind e.refundID) <| by
    simp only [Option.all_eq_true, Bool.or_eq_true, bne_iff_ne, beq_iff_eq, Reports.Delivers,
      Reports.Sends, imp_iff_not_or]

instance (p : Processor) (h : History) (d : Delivery) : Decidable (g.Telling p h d) :=
  decidable_of_iff
    ((d.event p h.store).all fun e => e.paymentID != g.id ||
      (h.store.payments g.id).all fun row =>
        d.env.tx.readErr.isNone && row.payment.state.isKnown && g.moving row.payment e) <| by
    simp only [Option.all_eq_true, Bool.or_eq_true, bne_iff_ne, Bool.and_eq_true,
      Option.isNone_iff_eq_none, and_assoc, Reports.Telling, imp_iff_not_or]

end Reports

/-! Ten dollars, captured, with refunds at the gateway. -/

def numbered (events : List WebhookEvent) : Processor where
  verifier := fun _ => .ok fun payload _ _ _ => .ok events[(payload.headD 0).toNat]?
  signingSecrets := fun _ => .ok []
  ledger := none

def refundReport (kind : WebhookKind) (refundID : RefundID) : WebhookEvent where
  gatewayEventID := "evt_" ++ refundID
  kind := kind
  gatewayRef := ""
  paymentID := "pay_1"
  refundID := refundID
  status := .refunded
  amount := none
  declineReason := .unset
  occurredAt := 0

/-- Captured in full, with refunds of these amounts submitted. -/
def withRefunds (first second : Int64) : Payment :=
  sampleRun (captureCalls ++
    [.payment (.addRefund ⟨first, "USD"⟩ .requestedByCustomer "key_2" "re_1" 3),
      .refund 0 (.markSubmitted "gw_re_1" 4),
      .payment (.addRefund ⟨second, "USD"⟩ .requestedByCustomer "key_3" "re_2" 5),
      .refund 1 (.markSubmitted "gw_re_2" 6)])

def reporting (pay : Payment) : History where
  store :=
    { payments := fun id => if id = "pay_1" then some (Row.of pay) else none
      webhooks := fun id =>
        [("whk_0", 0), ("whk_1", 1), ("whk_2", 2)].lookup id |>.map fun n =>
          { received "stripe" with id := id, payload := [n] }
      books := ⟨[], []⟩
      exceptions := [] }
  processed := []

def sampleDelivery (id : WebhookID) : Delivery :=
  .process id (undisturbed fun _ => Ledger.sampleDraws)

def bothSucceed : Reports where
  id := "pay_1"
  named := by decide
  outcome := fun _ => true

def secondFails : Reports where
  id := "pay_1"
  named := by decide
  outcome := fun id => id == "re_1"

theorem opens_reporting (g : Reports) (here : g.id = "pay_1") {pay : Payment}
    (distinct : (pay.refunds.map (·.id)).Nodup)
    (submitted : ∀ r ∈ pay.refunds, r.status = .submitted)
    (none : pay.refundedAmount.minor = 0) : g.Opens (reporting pay).store := by
  refine ⟨Row.of pay, by rw [here]; rfl, distinct, fun r mem => .inl (submitted r mem), ?_⟩
  have unsuccessful : refundSum Refund.isSucceeded pay.refunds = 0 := by
    refine List.sum_eq_zero fun share mem => ?_
    obtain ⟨r, inside, rfl⟩ := List.mem_map.mp mem
    simp [Refund.isSucceeded, submitted r inside]
  exact none.trans unsuccessful.symm

def firstTwice : Processor :=
  numbered [refundReport .refundSucceeded "re_1", refundReport .refundSucceeded "re_1",
    refundReport .refundSucceeded "re_2"]

def oneEach (second : WebhookKind) : Processor :=
  numbered [refundReport .refundSucceeded "re_1", refundReport second "re_2"]

/-- Two refunds that return everything. -/
theorem settled_bothSucceed :
    (deliveries firstTwice bothSucceed.Opens).Meets
        (fun h d => bothSucceed.Delivers firstTwice h d ∧ bothSucceed.Telling firstTwice h d)
        (reporting (withRefunds 400 600))
        [sampleDelivery "whk_0", sampleDelivery "whk_1", sampleDelivery "whk_2"] ∧
      bothSucceed.Settled
        ((deliveries firstTwice bothSucceed.Opens).run (reporting (withRefunds 400 600))
          [sampleDelivery "whk_0", sampleDelivery "whk_1", sampleDelivery "whk_2"]) := by
  have meets : (deliveries firstTwice bothSucceed.Opens).Meets
      (fun h d => bothSucceed.Delivers firstTwice h d ∧ bothSucceed.Telling firstTwice h d)
      (reporting (withRefunds 400 600))
      [sampleDelivery "whk_0", sampleDelivery "whk_1", sampleDelivery "whk_2"] := by
    decide +kernel
  have start : (deliveries firstTwice bothSucceed.Opens).init (reporting (withRefunds 400 600)) :=
    ⟨opens_reporting _ rfl (by decide +kernel) (by decide +kernel) (by decide +kernel), rfl⟩
  exact ⟨meets, bothSucceed.settled_of_reachable _
    (System.reachableUnder_run (.init start) _ meets)⟩

def unsettled (g : Reports) (h : History) : Bool :=
  (h.store.payments g.id).any fun row =>
    row.payment.refunds.all (fun r => h.processed.any fun e =>
      e.paymentID == g.id && e.refundID == r.id) &&
    (row.payment.refundedAmount.minor !=
        refundSum (fun r => g.outcome r.id) row.payment.refunds ||
      row.payment.refunds.any fun r => !g.outcome r.id && r.inFlight)

theorem not_settled_of_unsettled {g : Reports} {h : History} (wrong : unsettled g h = true) :
    ¬ g.Settled h := by
  intro settled
  unfold unsettled at wrong
  obtain ⟨row, stored, wrong⟩ := (Option.any_eq_true _ _).mp wrong
  simp only [Bool.and_eq_true, Bool.or_eq_true, List.all_eq_true, List.any_eq_true, beq_iff_eq,
    bne_iff_ne, Bool.not_eq_true'] at wrong
  obtain ⟨total, flying⟩ := settled row stored wrong.1
  rcases wrong.2 with differs | ⟨r, mem, failed, inFlight⟩
  · exact differs total
  · exact absurd (inFlight.symm.trans (flying r mem failed)) (by decide)

/-- A second partial refund that leaves the payment PARTIALLY_REFUNDED is not stored, and a
refund that is reported failed stays in flight. -/
theorem not_settled_twoReports :
    (deliveries (oneEach .refundSucceeded) bothSucceed.Opens).init (reporting (withRefunds 300 300)) ∧
      (deliveries (oneEach .refundSucceeded) bothSucceed.Opens).Meets
        (bothSucceed.Delivers (oneEach .refundSucceeded)) (reporting (withRefunds 300 300))
        [sampleDelivery "whk_0", sampleDelivery "whk_1"] ∧
      ¬ bothSucceed.Settled ((deliveries (oneEach .refundSucceeded) bothSucceed.Opens).run
        (reporting (withRefunds 300 300)) [sampleDelivery "whk_0", sampleDelivery "whk_1"]) ∧
      (deliveries (oneEach .refundFailed) secondFails.Opens).init (reporting (withRefunds 400 600)) ∧
      (deliveries (oneEach .refundFailed) secondFails.Opens).Meets
        (secondFails.Delivers (oneEach .refundFailed)) (reporting (withRefunds 400 600))
        [sampleDelivery "whk_0", sampleDelivery "whk_1"] ∧
      ¬ secondFails.Settled ((deliveries (oneEach .refundFailed) secondFails.Opens).run
        (reporting (withRefunds 400 600)) [sampleDelivery "whk_0", sampleDelivery "whk_1"]) := by
  refine ⟨⟨?_, rfl⟩, by decide +kernel, not_settled_of_unsettled (by decide +kernel), ⟨?_, rfl⟩,
    by decide +kernel, not_settled_of_unsettled (by decide +kernel)⟩
  · exact opens_reporting _ rfl (by decide +kernel) (by decide +kernel) (by decide +kernel)
  · exact opens_reporting _ rfl (by decide +kernel) (by decide +kernel) (by decide +kernel)

open Ledger (Books Entry EntryType Transaction)
open Payments.Payment (findRefund)

/-- The debits among the lines of the groups that `sel` picks. -/
def debited (sel : Entry → Bool) (groups : List Transaction) : Int :=
  ((groups.flatMap (·.entries)).map fun x =>
    if x.side = .debit ∧ sel x then x.amount.minor else 0).sum

def posted (type : EntryType) (id : PaymentID) : List Transaction → Int :=
  debited fun x => x.entryType == type && x.paymentID == id

def postedFor (id : PaymentID) : List Transaction → Int := debited fun x => x.paymentID == id

theorem debited_append (sel : Entry → Bool) (groups more : List Transaction) :
    debited sel (groups ++ more) = debited sel groups + debited sel more := by
  unfold debited
  rw [List.flatMap_append, List.map_append, List.sum_append]

variable {groups : List Transaction}

theorem debited_eq_zero {sel : Entry → Bool}
    (none : ∀ t ∈ groups, ∀ x ∈ t.entries, sel x = false) : debited sel groups = 0 := by
  refine List.sum_eq_zero fun share mem => ?_
  obtain ⟨x, inside, rfl⟩ := List.mem_map.mp mem
  obtain ⟨t, group, line⟩ := List.mem_flatMap.mp inside
  simp [none t group x line]

variable {type : EntryType} {t : Transaction} {amount : Money}

theorem debited_pair {sel : Entry → Bool} {id : PaymentID}
    (pair : t.IsPair type id amount)
    (picked : ∀ x ∈ t.entries, sel x = true) : debited sel [t] = amount.minor := by
  obtain ⟨e, f, lines, debit, credit, own⟩ := pair
  have pick := fun x mem => picked x (lines ▸ mem)
  simp [debited, lines, debit, credit, (own e (by simp)).2.2, pick e (by simp)]

variable (pay : Payment) (id : PaymentID) (s : Store)

def Tallies (groups : List Transaction) (pay : Payment) : Prop :=
  posted .capture id groups = pay.capturedAmount.minor ∧
    posted .refund id groups = pay.refundedAmount.minor

/-- The sums of the ledger are the totals of the stored payment. -/
def Agrees : Prop :=
  ∃ row, s.payments id = some row ∧ Tallies id s.books.groups row.payment

def movement (pay' : Payment) : Int :=
  (pay'.authorizedAmount.minor - pay.authorizedAmount.minor) +
    (pay'.capturedAmount.minor - pay.capturedAmount.minor) +
    (pay'.refundedAmount.minor - pay.refundedAmount.minor)

/-- What is posted for the payment is what its totals changed by, in its own currency, and
nothing is posted for it where they did not change. -/
def PostsExactly (s' : Store) : Prop :=
  ∃ new, s'.books.groups = s.books.groups ++ new ∧
    ∀ row row', s.payments id = some row → s'.payments id = some row' →
      postedFor id new = movement row.payment row'.payment ∧
      (∀ t ∈ new, ∀ x ∈ t.entries, x.paymentID = id →
        x.amount.currency = row.payment.amount.currency) ∧
      (movement row.payment row'.payment = 0 → ∀ t ∈ new, ∀ x ∈ t.entries, x.paymentID ≠ id)

def Keyed : Prop := ∀ id row, s.payments id = some row → row.payment.id = id

def Denominated : Prop :=
  pay.capturedAmount.currency = pay.amount.currency ∧
    pay.refundedAmount.currency = pay.amount.currency

/-- The payment is stored, and what was posted for it so far is right. -/
def Tallied : Prop :=
  Keyed s ∧ ∃ row, s.payments id = some row ∧ Denominated row.payment ∧
    Tallies id s.books.groups row.payment

/-- The ledger is configured and has something to say about the event. -/
def Processor.heeds (p : Processor) (b : Books) (e : WebhookEvent) : Bool :=
  p.ledger.any fun service => service.heeds b e.gatewayEventID

def namesAmount (e : WebhookEvent) : Bool :=
  (findRefund pay.refunds e.refundID).any fun found => found.1.amount == effectAmount pay e

/-- Of an event that moves the payment the ledger hears captures and refunds, the refund's amount
being the event's, and no disputes, settlements and authorizations. -/
def heardRight (p : Processor) (b : Books) (pay : Payment) (e : WebhookEvent) : Bool :=
  match e.kind with
  | .captureSucceeded => p.heeds b e
  | .refundSucceeded => p.heeds b e && namesAmount pay e
  | .payoutSettled | .disputeOpened | .disputeClosed => !p.heeds b e
  | .authorizationSucceeded => false
  | _ => true

def Heard (p : Processor) (h : History) (d : Delivery) : Prop :=
  ∀ e, d.event p h.store = some e → e.paymentID = id →
    ∀ row, h.store.payments id = some row → moves row.payment e = true →
      heardRight p h.store.books row.payment e = true

/-- The groups have nothing for the payment and its totals stay, or they are one movement of the
payment and the total it belongs to grows by it. -/
inductive Entered (id : PaymentID) (pay pay' : Payment) (new : List Transaction) : Prop
  | nothing (foreign : ∀ t ∈ new, ∀ x ∈ t.entries, x.paymentID ≠ id)
      (authorized : pay'.authorizedAmount = pay.authorizedAmount)
      (captured : pay'.capturedAmount = pay.capturedAmount)
      (refunded : pay'.refundedAmount = pay.refundedAmount)
  | capture {t : Transaction} {amount : Money} (one : new = [t])
      (pair : t.IsPair .capture id amount)
      (authorized : pay'.authorizedAmount = pay.authorizedAmount)
      (captured : pay.capturedAmount.add amount = .ok pay'.capturedAmount)
      (refunded : pay'.refundedAmount = pay.refundedAmount)
  | refund {t : Transaction} {amount : Money} (one : new = [t]) (pair : t.IsPair .refund id amount)
      (authorized : pay'.authorizedAmount = pay.authorizedAmount)
      (captured : pay'.capturedAmount = pay.capturedAmount)
      (refunded : pay.refundedAmount.add amount = .ok pay'.refundedAmount)

theorem posted_pair {id : PaymentID}
    (pair : t.IsPair type id amount) (type' : EntryType) :
    posted type' id [t] = if type = type' then amount.minor else 0 := by
  have pair' := pair
  obtain ⟨e, f, lines, debit, credit, own⟩ := pair'
  split
  · rename_i same
    refine debited_pair pair fun x mem => ?_
    obtain ⟨typed, payment, -⟩ := own x (lines ▸ mem)
    simp [typed, payment, same]
  · rename_i other
    refine debited_eq_zero fun t' mem x inside => ?_
    obtain rfl := List.mem_singleton.mp mem
    obtain ⟨typed, -, -⟩ := own x (lines ▸ inside)
    simp [typed, other]

theorem postedFor_pair {id : PaymentID}
    (pair : t.IsPair type id amount) : postedFor id [t] = amount.minor := by
  have pair' := pair
  obtain ⟨e, f, lines, debit, credit, own⟩ := pair'
  refine debited_pair pair fun x mem => ?_
  simp [(own x (lines ▸ mem)).2.1]

section Entered

variable {id : PaymentID} {pay pay' : Payment} {new : List Transaction}

theorem posted_foreign (type : EntryType)
    (foreign : ∀ t ∈ new, ∀ x ∈ t.entries, x.paymentID ≠ id) : posted type id new = 0 :=
  debited_eq_zero fun t mem x inside => by simp [foreign t mem x inside]

theorem Entered.tallies (entered : Entered id pay pay' new)
    (h : Tallies id groups pay) : Tallies id (groups ++ new) pay' := by
  obtain ⟨captures, refunds⟩ := h
  have appended : ∀ type, posted type id (groups ++ new) = posted type id groups + posted type id new :=
    fun type => debited_append _ _ _
  unfold Tallies
  rw [appended, appended, captures, refunds]
  cases entered with
  | nothing foreign authorized captured refunded =>
    rw [posted_foreign _ foreign, posted_foreign _ foreign, captured, refunded]
    simp
  | capture one pair authorized captured refunded =>
    subst one
    rw [posted_pair pair, posted_pair pair, refunded, (Money.add_ok captured).2.2]
    simp
  | refund one pair authorized captured refunded =>
    subst one
    rw [posted_pair pair, posted_pair pair, captured, (Money.add_ok refunded).2.2]
    simp

theorem Entered.denominated (entered : Entered id pay pay' new) (h : Denominated pay)
    (amount : pay'.amount = pay.amount) : Denominated pay' := by
  obtain ⟨captures, refunds⟩ := h
  unfold Denominated
  rw [amount]
  cases entered with
  | nothing foreign authorized captured refunded => exact ⟨captured ▸ captures, refunded ▸ refunds⟩
  | capture one pair authorized captured refunded =>
    exact ⟨(Money.add_ok captured).2.1.trans captures, refunded ▸ refunds⟩
  | refund one pair authorized captured refunded =>
    exact ⟨captured ▸ captures, (Money.add_ok refunded).2.1.trans refunds⟩

theorem pair_lines {type : EntryType}
    (pair : t.IsPair type id amount) :
    0 < amount.minor ∧ ∀ x ∈ t.entries, x.amount = amount := by
  obtain ⟨e, f, lines, -, -, own⟩ := pair
  refine ⟨?_, fun x mem => (own x (lines ▸ mem)).2.2⟩
  rw [← (own e (by simp)).2.2]
  exact e.amount.isPositive_iff.mp e.positive

theorem Entered.exact (entered : Entered id pay pay' new) (h : Denominated pay) :
    postedFor id new = movement pay pay' ∧
      (∀ t ∈ new, ∀ x ∈ t.entries, x.paymentID = id → x.amount.currency = pay.amount.currency) ∧
      (movement pay pay' = 0 → ∀ t ∈ new, ∀ x ∈ t.entries, x.paymentID ≠ id) := by
  unfold movement
  cases entered with
  | nothing foreign authorized captured refunded =>
    refine ⟨?_, fun t mem x inside own => absurd own (foreign t mem x inside), fun _ => foreign⟩
    have none : postedFor id new = 0 :=
      debited_eq_zero fun t mem x inside => by simp [foreign t mem x inside]
    rw [none, authorized, captured, refunded]
    simp
  | capture one pair authorized captured refunded =>
    subst one
    obtain ⟨currency, -, sum⟩ := Money.add_ok captured
    obtain ⟨positive, lines⟩ := pair_lines pair
    rw [postedFor_pair pair, authorized, refunded, sum]
    refine ⟨by omega, fun t' mem x inside _ => ?_, fun none => by omega⟩
    obtain rfl := List.mem_singleton.mp mem
    rw [lines x inside, currency, h.1]
  | refund one pair authorized captured refunded =>
    subst one
    obtain ⟨currency, -, sum⟩ := Money.add_ok refunded
    obtain ⟨positive, lines⟩ := pair_lines pair
    rw [postedFor_pair pair, authorized, captured, sum]
    refine ⟨by omega, fun t' mem x inside _ => ?_, fun none => by omega⟩
    obtain rfl := List.mem_singleton.mp mem
    rw [lines x inside, currency, h.2]

end Entered

variable {env : ProcessEnv} {b b' : Books} {e : WebhookEvent} {p : Processor}

theorem Processor.postEffect_ok {pay : Payment}
    (h : p.postEffect env pay e b = .ok b') :
    (p.heeds b e = false ∧ b'.groups = b.groups) ∨
      (p.heeds b e = true ∧ ∃ txs, Ledger.build (effectOf pay e) env.post.draws = .ok txs ∧
        b'.groups = b.groups ++ txs) := by
  unfold Processor.postEffect at h
  unfold Processor.heeds
  split at h
  · rename_i unconfigured
    cases h
    exact .inl ⟨by rw [unconfigured]; rfl, rfl⟩
  · rename_i service configured
    rw [configured]
    exact Ledger.Service.post_ok h

theorem Processor.postEffect_nothing {pay : Payment}
    (h : p.postEffect env pay e b = .ok b')
    (quiet : e.kind ∉ [.captureSucceeded, .refundSucceeded, .disputeOpened, .disputeClosed,
      .payoutSettled] ∨ p.heeds b e = false) : b'.groups = b.groups := by
  rcases Processor.postEffect_ok h with ⟨-, same⟩ | ⟨heeds, txs, built, appended⟩
  · exact same
  · rcases quiet with kind | deaf
    · rw [appended, Ledger.build_none kind built, List.append_nil]
    · cases heeds.symm.trans deaf

variable {k : Core}

theorem Moved.idle_or_moves {pay : Payment} (h : Moved pay e k)
    (accepted : accepts pay e = true) (changed : k.state ≠ pay.state ∨ pay.state = .disputed) :
    k = pay.core ∧ (e.kind ∈ [.refundFailed, .accountUpdated, .ignored] ∨ ∃ raw, e.kind = .other raw) ∨
      moves pay e = true := by
  by_cases state : k.state = pay.state
  · have disputed := changed.resolve_left (not_not.mpr state)
    refine .inl ?_
    cases h with
    | idle kind => exact ⟨rfl, kind⟩
    | authorize | fail | capture =>
      rw [disputed] at state
      cases state
    | confirm kind found submitted succeeded amount same sum edge =>
      rw [disputed] at state
      dsimp only at state
      rw [refundedState_compare] at state
      split at state <;> cases state
    | move kind edge => exact absurd state (ne_of_edge edge (.inr (by simp [disputed])))
    | resolve kind _ named =>
      rw [disputed] at state
      dsimp only at state
      subst state
      simp at named
  · exact .inr ((h.state_ne_iff accepted).mp state)

theorem Moved.amount_eq {pay : Payment} (h : Moved pay e k) : k.amount = pay.amount := by
  cases h <;> rfl

theorem Moved.entered {pay moved : Payment}
    (h : Moved pay e k) (after : moved.core = k) (own : moved.id = pay.id)
    (recorded : k = pay.core ∧
      (e.kind ∈ [.refundFailed, .accountUpdated, .ignored] ∨ ∃ raw, e.kind = .other raw) ∨
        heardRight p b pay e = true)
    (ran : p.postEffect env moved e b = .ok b') :
    ∃ new, b'.groups = b.groups ++ new ∧ Entered pay.id pay moved new := by
  have amount : effectAmount moved e = effectAmount pay e := by
    have same : moved.amount = pay.amount := (congrArg Core.amount after).trans h.amount_eq
    unfold effectAmount
    rw [same]
  have authorized : moved.authorizedAmount = k.authorized := congrArg Core.authorized after
  have captured : moved.capturedAmount = k.captured := congrArg Core.captured after
  have refunded : moved.refundedAmount = k.refunded := congrArg Core.refunded after
  -- nothing is entered, and the totals are those before
  have still : k.authorized = pay.authorizedAmount → k.captured = pay.capturedAmount →
      k.refunded = pay.refundedAmount →
      (e.kind ∉ [.captureSucceeded, .refundSucceeded, .disputeOpened, .disputeClosed,
        .payoutSettled] ∨ p.heeds b e = false) →
      ∃ new, b'.groups = b.groups ++ new ∧ Entered pay.id pay moved new := by
    intro a c r quiet
    refine ⟨[], ?_, .nothing ?_ (authorized.trans a) (captured.trans c) (refunded.trans r)⟩
    · rw [Processor.postEffect_nothing ran quiet, List.append_nil]
    · intro t mem
      cases mem
  cases h with
  | idle kind =>
    refine still rfl rfl rfl (.inl ?_)
    rcases kind with kind | ⟨raw, kind⟩
    · simp only [List.mem_cons, List.not_mem_nil, or_false] at kind
      rcases kind with kind | kind | kind <;> simp [kind]
    · simp [kind]
  | authorize kind admits => simp [heardRight, kind] at recorded
  | fail kind admits =>
    refine still rfl rfl rfl (.inl ?_)
    rcases kind with kind | kind <;> simp [kind]
  | capture kind admits sum =>
    have heeds : p.heeds b e = true := by simpa [heardRight, kind] using recorded
    rcases Processor.postEffect_ok ran with ⟨deaf, -⟩ | ⟨-, txs, built, appended⟩
    · cases heeds.symm.trans deaf
    obtain ⟨t, rfl, pair⟩ := Ledger.build_capture kind rfl built
    have pair' : t.IsPair .capture pay.id (effectAmount pay e) := own ▸ amount ▸ pair
    exact ⟨[t], appended, .capture rfl pair' authorized (captured ▸ sum) refunded⟩
  | confirm kind found submitted succeeded refund same sum edge =>
    rename_i r r' i total
    have heard : p.heeds b e = true ∧ r.amount = effectAmount pay e := by
      simpa [heardRight, kind, namesAmount, found] using recorded
    rcases Processor.postEffect_ok ran with ⟨deaf, -⟩ | ⟨-, txs, built, appended⟩
    · cases heard.1.symm.trans deaf
    obtain ⟨t, rfl, pair⟩ := Ledger.build_refund kind built
    have pair' : t.IsPair .refund pay.id r.amount := heard.2 ▸ own ▸ amount ▸ pair
    exact ⟨[t], appended, .refund rfl pair' authorized captured (refunded ▸ sum)⟩
  | move kind edge =>
    refine still rfl rfl rfl ?_
    rcases kind with ⟨kind, -⟩ | ⟨kind, -⟩ | ⟨kind, -⟩
    · exact .inl (by simp [kind])
    · exact .inr (by simpa [heardRight, kind] using recorded)
    · exact .inr (by simpa [heardRight, kind] using recorded)
  | resolve kind disputed named =>
    exact still rfl rfl rfl (.inr (by simpa [heardRight, kind] using recorded))

theorem Entered.stored {id : PaymentID} {row : Row} {moved : Payment} {new : List Transaction}
    (h : Entered id (loaded row) moved new) : Entered id row.payment (Row.of moved).payment new := by
  cases h with
  | nothing foreign authorized captured refunded => exact .nothing foreign authorized captured refunded
  | capture one pair authorized captured refunded => exact .capture one pair authorized captured refunded
  | refund one pair authorized captured refunded => exact .refund one pair authorized captured refunded

theorem Applied.entered {s : Store}
    {left : Store × Bool × String} (h : Applied p env e s left) (keyed : Keyed s) {id : PaymentID}
    {row : Row} (stored : s.payments id = some row)
    (heard : e.paymentID = id → Webhook.moves row.payment e = true →
      heardRight p s.books row.payment e = true) :
    Keyed left.1 ∧ ∃ row' new, left.1.payments id = some row' ∧
      row'.payment.amount = row.payment.amount ∧
      left.1.books.groups = s.books.groups ++ new ∧ Entered id row.payment row'.payment new := by
  have nothing : Entered id row.payment row.payment [] :=
    .nothing (fun t mem => by cases mem) rfl rfl rfl
  cases h with
  | ignored | parked | refused | unmoved =>
    exact ⟨keyed, row, [], stored, rfl, (List.append_nil _).symm, nothing⟩
  | recorded named read accepted changed posted =>
    rename_i pay moved books
    obtain ⟨source, found, -, rfl⟩ := getForUpdate_some read
    obtain ⟨-, p', err, refused⟩ | ⟨admits, p', ended, after⟩ := transition_spec env (loaded source) e
    · cases accepted.symm.trans refused
    cases accepted.symm.trans ended
    have kept : moved.id = (loaded source).id := by
      rw [← (transition_keeps env (loaded source) e).1, accepted]
    have own : moved.id = e.paymentID := kept.trans (keyed _ _ found)
    refine ⟨?_, ?_⟩
    · intro id' row' found'
      dsimp only at found'
      by_cases here : id' = e.paymentID
      · subst here
        rw [Function.update_self] at found'
        cases found'
        exact own
      · rw [Function.update_of_ne here] at found'
        exact keyed id' row' found'
    by_cases here : e.paymentID = id
    · subst here
      cases stored.symm.trans found
      have recorded := (after.idle_or_moves admits changed).imp_right fun moving =>
        heard rfl moving
      obtain ⟨new, appended, entered⟩ := after.entered rfl kept recorded posted
      refine ⟨Row.of moved, new, ?_, after.amount_eq, appended, ?_⟩
      · dsimp only
        rw [Function.update_self]
      · rw [← keyed _ _ found]
        exact Entered.stored entered
    · -- what is posted is for the payment the event names
      have lines : ∃ new, books.groups = s.books.groups ++ new ∧
          ∀ t ∈ new, ∀ x ∈ t.entries, x.paymentID ≠ id := by
        rcases Processor.postEffect_ok posted with ⟨-, same⟩ | ⟨-, txs, built, appended⟩
        · exact ⟨[], by rw [same, List.append_nil], fun t mem => by cases mem⟩
        · refine ⟨txs, appended, fun t mem x inside => ?_⟩
          have owned : x.paymentID = moved.id := (Ledger.build_owned built t mem).lines x inside
          rw [owned, own]
          exact here
      obtain ⟨new, appended, foreign⟩ := lines
      refine ⟨row, new, ?_, rfl, appended, .nothing foreign rfl rfl rfl⟩
      dsimp only
      rw [Function.update_of_ne (Ne.symm here), stored]

/-- A delivery that is heard right keeps the sums right and posts exactly what it moves. -/
theorem Tallied.deliver {id : PaymentID} {h : History} {d : Delivery}
    (tallied : Tallied id h.store) (heard : Heard id p h d) :
    Tallied id (deliver p h d).store ∧ PostsExactly id h.store (deliver p h d).store := by
  obtain ⟨keyed, row, stored, denominated, tallies⟩ := tallied
  have known : ∀ {s : Store} {row' : Row} {new : List Transaction}, Keyed s →
      s.payments id = some row' → row'.payment.amount = row.payment.amount →
      s.books.groups = h.store.books.groups ++ new → Entered id row.payment row'.payment new →
      Tallied id s ∧ PostsExactly id h.store s := by
    intro s row' new keyed' stored' amount appended entered
    refine ⟨⟨keyed', row', stored', entered.denominated denominated amount, ?_⟩, new, appended, ?_⟩
    · rw [appended]
      exact entered.tallies tallies
    · intro before after found found'
      cases stored.symm.trans found
      cases stored'.symm.trans found'
      exact entered.exact denominated
  rcases deliver_cases p h d with ⟨⟨payments, books⟩, -⟩ | ⟨e, left, event, applied, ⟨payments, books⟩, -⟩
  · refine known ?_ (payments ▸ stored) rfl (by rw [books, List.append_nil])
      (.nothing (fun t mem => by cases mem) rfl rfl rfl)
    intro id' row' found
    rw [payments] at found
    exact keyed id' row' found
  · obtain ⟨keyed', row', new, stored', amount, appended, entered⟩ :=
      applied.entered keyed stored fun here => heard e event here row stored
    refine known ?_ (payments ▸ stored') amount (by rw [books, appended]) entered
    intro id' row' found
    rw [payments] at found
    exact keyed' id' row' found

/-- In every run of deliveries that are heard right, the ledger's sums are the payment's totals, and
each further one posts what it moves. -/
theorem agrees_of_reachable (id : PaymentID) (p : Processor) {h : History}
    (reached : (deliveries p (Tallied id)).ReachableUnder (Heard id p) h) :
    Agrees id h.store ∧
      ∀ d, Heard id p h d → PostsExactly id h.store (deliver p h d).store := by
  have tallied : Tallied id h.store := by
    refine System.ReachableUnder.invariant (P := fun h => Tallied id h.store) ?_ ?_ reached
    · rintro h ⟨start, -⟩
      exact start
    · intro h d _ tallied heard
      exact (tallied.deliver heard).1
  refine ⟨?_, fun d heard => (tallied.deliver heard).2⟩
  obtain ⟨-, row, stored, -, tallies⟩ := tallied
  exact ⟨row, stored, tallies⟩

instance (id : PaymentID) (s : Store) : Decidable (Agrees id s) :=
  decidable_of_iff
    ((s.payments id).any fun row =>
      posted .capture id s.books.groups == row.payment.capturedAmount.minor &&
        posted .refund id s.books.groups == row.payment.refundedAmount.minor) <| by
    simp only [Option.any_eq_true, Bool.and_eq_true, beq_iff_eq, Agrees, Tallies]

instance (id : PaymentID) (p : Processor) (h : History) (d : Delivery) :
    Decidable (Heard id p h d) :=
  decidable_of_iff
    ((d.event p h.store).all fun e => e.paymentID != id ||
      (h.store.payments id).all fun row =>
        !moves row.payment e || heardRight p h.store.books row.payment e) <| by
    simp only [Option.all_eq_true, Bool.or_eq_true, bne_iff_ne, Bool.not_eq_true', Heard,
      imp_iff_not_or, Bool.not_eq_true]

/-! Ten dollars, captured and posted, with four of them on their way back. -/

def captureGroups : List Transaction :=
  (Ledger.captureTransaction
    { tenantID := "ten_1", merchantID := "mer_1", paymentID := "pay_1", attemptID := "",
      gross := ⟨1000, "USD"⟩, gatewayRef := "ch_1", occurredAt := 0 }
    Ledger.sampleDraws).toOption.toList

def booked (pay : Payment) (groups : List Transaction) : History where
  store := { (reporting pay).store with books := ⟨[], groups⟩ }
  processed := []

def refunding : Payment := sampleRun (captureCalls ++ refundCalls)

def posting (e : WebhookEvent) : Processor := { numbered [e] with ledger := some ⟨true⟩ }

theorem tallied_booked {pay : Payment} (own : pay.id = "pay_1")
    (captured : pay.capturedAmount.currency = pay.amount.currency)
    (refunded : pay.refundedAmount.currency = pay.amount.currency)
    (captures : posted .capture "pay_1" groups = pay.capturedAmount.minor)
    (refunds : posted .refund "pay_1" groups = pay.refundedAmount.minor) :
    Tallied "pay_1" (booked pay groups).store := by
  refine ⟨?_, Row.of pay, rfl, ⟨captured, refunded⟩, captures, refunds⟩
  intro id row found
  simp only [booked, reporting] at found
  split at found
  · rename_i here
    cases found
    rw [here]
    exact own
  · cases found

/-- The refund is reported with its amount. -/
theorem agrees_refunding :
    let p := posting { refundReport .refundSucceeded "re_1" with amount := some ⟨400, "USD"⟩ }
    let h := booked refunding captureGroups
    (deliveries p (Tallied "pay_1")).Meets (Heard "pay_1" p) h [sampleDelivery "whk_0"] ∧
      Agrees "pay_1" ((deliveries p (Tallied "pay_1")).run h [sampleDelivery "whk_0"]).store := by
  intro p h
  have start : (deliveries p (Tallied "pay_1")).init h :=
    ⟨tallied_booked (by decide +kernel) (by decide +kernel) (by decide +kernel) (by decide +kernel)
      (by decide +kernel), rfl⟩
  have meets : (deliveries p (Tallied "pay_1")).Meets (Heard "pay_1" p) h [sampleDelivery "whk_0"] := by
    decide +kernel
  exact ⟨meets, (agrees_of_reachable "pay_1" p (System.reachableUnder_run (.init start) _ meets)).1⟩

def captureReport : WebhookEvent :=
  { refundReport .captureSucceeded "" with gatewayEventID := "evt_1", status := .captured }

/-- A refund of four dollars that is reported without an amount is posted as ten, and without a
ledger, as the consumer is wired, a capture is not posted at all. -/
theorem not_agrees_refunding :
    let p := posting (refundReport .refundSucceeded "re_1")
    let h := booked refunding captureGroups
    let q := numbered [captureReport]
    let k := booked (sampleRun [.payment (.markProcessing 1)]) []
    Tallied "pay_1" h.store ∧
      ¬ Agrees "pay_1" ((deliveries p (Tallied "pay_1")).run h [sampleDelivery "whk_0"]).store ∧
      Tallied "pay_1" k.store ∧
      ¬ Agrees "pay_1" ((deliveries q (Tallied "pay_1")).run k [sampleDelivery "whk_0"]).store := by
  intro p h q k
  refine ⟨?_, by decide +kernel, ?_, by decide +kernel⟩
  · exact tallied_booked (by decide +kernel) (by decide +kernel) (by decide +kernel)
      (by decide +kernel) (by decide +kernel)
  · exact tallied_booked (by decide +kernel) (by decide +kernel) (by decide +kernel)
      (by decide +kernel) (by decide +kernel)

end PaymentsPlatform.Webhook
