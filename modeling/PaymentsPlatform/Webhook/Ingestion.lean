/- layer: results about the webhook verifiers, the accept path and the processor
   digest: What a delivery makes the processor do, and what becomes of one that was accepted. -/

import PaymentsPlatform.Gateways.AdyenWebhook
import PaymentsPlatform.Gateways.Stripe
import PaymentsPlatform.Webhook.Transitions

namespace PaymentsPlatform.Webhook

open Payments
open Gateways
open Gateways.Spi (Status)
open Payments.Payment (findRefund)
open Pkg (Money)
open Storage (Row)

section Reports

/-! The two verifiers, as the processor calls them. -/

def stripeVerify (lib : Library) (dec : Stripe.WebhookDecoder) (tolerance : Int) : Verify :=
  fun raw headers secrets now =>
    (Stripe.verify lib dec tolerance raw headers secrets now).map fun n =>
      some n.toWebhookEvent

def adyenVerify (lib : Library) (dec : Adyen.WebhookDecoder) (tolerance : Int) : Verify :=
  fun raw headers secrets now =>
    (Adyen.verify lib dec tolerance raw headers secrets now).map fun n =>
      n.map Notification.toWebhookEvent

/-- What a body says: a Stripe event with its data object, or the item of an Adyen batch that is
processed, which is the first. -/
inductive Report where
  | stripe (ev : Stripe.Event) (obj : Stripe.EventObject)
  | adyen (item : Adyen.Item)

inductive Carries : Verify → Bytes → Report → Prop
  | stripe {lib : Library} {dec : Stripe.WebhookDecoder} {tolerance : Int} {raw : Bytes}
      {ev : Stripe.Event} {obj : Stripe.EventObject}
      (envelope : dec.event raw = .ok ev) (carried : ev.object ≠ [])
      (object : dec.object ev.object = .ok obj) :
      Carries (stripeVerify lib dec tolerance) raw (.stripe ev obj)
  | adyen {lib : Library} {dec : Adyen.WebhookDecoder} {tolerance : Int} {raw : Bytes}
      {item : Adyen.Item} {rest : List (Option Adyen.Item)}
      (items : dec.notification raw = .ok (some item :: rest)) :
      Carries (adyenVerify lib dec tolerance) raw (.adyen item)

/-- Some delivery of the body is accepted. -/
def Authentic (verify : Verify) (raw : Bytes) : Prop :=
  ∃ headers secrets now e, verify raw headers secrets now = .ok (some e)

namespace Report

def metadata : Report → List (String × String)
  | .stripe _ obj => obj.metadata
  | .adyen item => item.additionalData

def paymentID (r : Report) : PaymentID := valueOf r.metadata metaPaymentID

def refundID (r : Report) : String := valueOf r.metadata metaRefundID

def amount : Report → Option Money
  | .stripe _ obj => obj.reported
  | .adyen item => item.reported

def kind : Report → WebhookKind
  | .stripe ev _ => Stripe.webhookKind ev.type
  | .adyen item => item.kind

def status : Report → Status
  | .stripe ev obj => (Stripe.describe obj (Stripe.bareNotification ev [])).status
  | .adyen item => Adyen.statusOf item.kind

structure Describes (r : Report) (e : WebhookEvent) : Prop where
  kind : e.kind = r.kind
  paymentID : e.paymentID = r.paymentID
  refundID : e.refundID = r.refundID
  amount : e.amount = r.amount
  status : e.status = r.status

end Report

variable {e : WebhookEvent} {verify : Verify} {r : Report} {raw : Bytes}
  {headers : List (String × String)}

theorem Carries.describes (h : Carries verify raw r)
    {secrets : List String} {now : Time}
    (accepted : verify raw headers secrets now = .ok (some e)) : r.Describes e := by
  cases h with
  | stripe envelope carried object =>
    obtain ⟨n, verified, same⟩ := Ledger.map_ok accepted
    cases same
    rw [Stripe.parseEvent_ok envelope carried object
      (Stripe.parseEvent_of_verify verified)]
    exact ⟨rfl, rfl, rfl, rfl, rfl⟩
  | adyen items =>
    obtain ⟨first, verified, same⟩ := Ledger.map_ok accepted
    obtain ⟨events, all, head⟩ := Ledger.map_ok verified
    obtain ⟨entries, decoded, -, matched⟩ := Adyen.verifyAll_ok all
    cases items.symm.trans decoded
    cases matched with
    | cons entry =>
      obtain ⟨item, occurred, here, -, normalized⟩ := entry
      cases here
      cases head
      cases same
      rw [normalized]
      exact ⟨rfl, rfl, rfl, rfl, rfl⟩

theorem Carries.describes_of_reverify
    (h : Carries verify raw r) {p : Processor} {w : InboundWebhook}
    (adapter : p.verifier w.gatewayID = .ok verify) (body : w.payload = raw)
    (verified : p.reverify w = .ok e) : r.Describes e := by
  obtain ⟨verify', secrets, adapter', -, accepted⟩ := Processor.reverify_iff.mp verified
  cases adapter.symm.trans adapter'
  rw [body] at accepted
  exact h.describes accepted

/-- The operation the body is about did not succeed. -/
def Report.Failed : Report → Prop
  | .stripe _ obj => obj.object = "refund" ∧ (obj.status = "failed" ∨ obj.status = "canceled")
  | .adyen item => item.succeeded = false

structure NoNewSuccess (row row' : Row) : Prop where
  state : row'.payment.state ∈ [State.authorized, .captured, .voided] →
    row'.payment.state = row.payment.state
  refunds : ∀ (i : Nat) (r' : Refund), row'.payment.refunds[i]? = some r' → r'.status = .succeeded →
    ∃ r, row.payment.refunds[i]? = some r ∧ r.status = .succeeded

/-- Processing a stored delivery of the body records no success of the payment. -/
def RecordsNoSuccess (id : PaymentID) (row : Row) (verify : Verify) (raw : Bytes) : Prop :=
  ∀ (p : Processor) (env : ProcessEnv) (s : Store) (webhookID : WebhookID) (w : InboundWebhook)
    (row' : Row),
    s.payments id = some row → s.webhooks webhookID = some w → p.verifier w.gatewayID = .ok verify →
    w.payload = raw → (p.process env webhookID s).1.payments id = some row' → NoNewSuccess row row'

def Report.amountFor (r : Report) (pay : Payment) : Money := (r.amount.filter (·.isValid)).getD pay.amount

/-- Confirming the refund would leave captured money over. -/
def leavesOver (pay : Payment) (refundID : String) : Bool :=
  match findRefund pay.refunds refundID with
  | none => false
  | some (r, _) => decide (pay.refundedAmount.minor + r.amount.minor < pay.capturedAmount.minor)

/-- The body is of a type that stands for a success whatever it says of the operation, and the
payment's own checks let that success through. -/
def Report.mistaken (pay : Payment) : Report → Bool
  | .stripe ev obj =>
    let r := Report.stripe ev obj
    match ev.type with
    | "payment_intent.succeeded" | "payment_intent.amount_capturable_updated" =>
      pay.admitsAuthorization (r.amountFor pay)
    | "charge.captured" | "charge.succeeded" => pay.admitsCapture (r.amountFor pay)
    | "charge.refunded" | "refund.created" | "charge.refund.updated" =>
      r.refundID != "" && pay.admitsConfirmation r.refundID &&
        !(pay.state == .partiallyRefunded && leavesOver pay r.refundID)
    | "payment_intent.canceled" => pay.admitsVoid
    | _ => false
  | .adyen item => item.eventCode == "CANCELLATION" && pay.admitsVoid

def successKinds : List WebhookKind :=
  [.authorizationSucceeded, .captureSucceeded, .refundSucceeded, .voidSucceeded]

theorem effectAmount_eq (same : e.amount = r.amount) (pay : Payment) :
    effectAmount pay e = r.amountFor pay := by
  unfold effectAmount Report.amountFor
  rw [same]
  cases r.amount with
  | none => rfl
  | some m => by_cases valid : m.isValid = true <;> simp [valid, Option.filter]

theorem Report.mistaken_iff (said : r.Describes e) (failed : r.Failed)
    (pay : Payment) : r.mistaken pay = true ↔ e.kind ∈ successKinds ∧ moves pay e = true := by
  have kind := said.kind
  have amount := effectAmount_eq said.amount pay
  have refund := said.refundID
  cases r with
  | stripe ev obj =>
    have rest : leavesRest pay e = leavesOver pay e.refundID := rfl
    unfold Report.kind Stripe.webhookKind at kind
    unfold Report.mistaken
    dsimp only at kind ⊢
    split at kind <;>
      simp_all [moves, accepts, successKinds]
  | adyen item =>
    have refused : item.succeeded = false := failed
    unfold Report.kind Adyen.Item.kind Adyen.webhookKind at kind
    unfold Report.mistaken
    dsimp only at kind ⊢
    split at kind <;> simp_all [moves, accepts, successKinds]

theorem Report.Failed.status_ne (failed : r.Failed) (closed : r.kind = .disputeClosed) :
    r.status ≠ .voided := by
  cases r with
  | stripe ev obj =>
    obtain ⟨refund, status⟩ := failed
    have mapped : obj.mappedStatus = .failed := by
      unfold Stripe.EventObject.mappedStatus
      rw [refund]
      rcases status with status | status <;>
        simp [Stripe.mapRefundStatus, Stripe.EventObject.refund, status,
          Except.toOption]
    simp [Report.status, Stripe.describe, mapped]
  | adyen item =>
    have kind : item.kind = .disputeClosed := closed
    simp [Report.status, kind, Adyen.statusOf]

variable {pay : Payment}

theorem no_success_of_transition {env : ProcessEnv} {moved : Payment}
    (accepted : transition env pay e = (moved, .ok ())) (other : e.kind ∉ successKinds)
    (lost : e.kind = .disputeClosed → e.status ≠ .voided) :
    (moved.state ∈ [State.authorized, .captured, .voided] → moved.state = pay.state) ∧
      moved.refunds = pay.refunds := by
  by_cases closed : e.kind = .disputeClosed
  · have won : (e.status == .voided) = false := by simpa using lost closed
    have called : pay.resolveDispute false env.mutatedAt = (moved, .ok ()) := by
      rw [← accepted]
      simp [transition, closed, won]
    rcases pay.resolveDispute_cases false env.mutatedAt with ⟨-, err, refused⟩ | ⟨-, -, dst, to', core⟩
    · rw [refused] at called
      cases called
    · rw [called] at core
      have state : moved.state = dst := congrArg Core.state core
      have refunds : moved.refunds = pay.refunds := congrArg Core.refunds core
      refine ⟨?_, refunds⟩
      simp only [resolutions, Bool.false_eq_true, if_false, List.mem_singleton] at to'
      rw [state, to']
      simp
  · obtain ⟨-, p', err, refused⟩ | ⟨-, p', ended, moved'⟩ := transition_spec env pay e
    · cases accepted.symm.trans refused
    cases accepted.symm.trans ended
    generalize core : moved.core = k at moved'
    have state : moved.state = k.state := congrArg Core.state core
    have refunds : moved.refunds = k.refunds := congrArg Core.refunds core
    rw [state, refunds]
    cases moved' with
    | idle => exact ⟨fun _ => rfl, rfl⟩
    | authorize kind | capture kind | confirm kind => simp [successKinds, kind] at other
    | fail => exact ⟨by simp, rfl⟩
    | move kind =>
      rcases kind with ⟨kind, -⟩ | ⟨-, rfl⟩ | ⟨-, rfl⟩
      · simp [successKinds, kind] at other
      · exact ⟨by simp, rfl⟩
      · exact ⟨by simp, rfl⟩
    | resolve kind => exact absurd kind closed

theorem Moved.new_success {moved : Payment} (h : Moved pay e moved.core)
    (kind : e.kind ∈ successKinds) (changed : moved.state ≠ pay.state) :
    moved.state ∈ [State.authorized, .captured, .voided] ∨
      ∃ (i : Nat) (r r' : Refund), pay.refunds[i]? = some r ∧ r.status = .submitted ∧
        moved.refunds[i]? = some r' ∧ r'.status = .succeeded := by
  generalize core : moved.core = k at h
  have state : moved.state = k.state := congrArg Core.state core
  have refunds : moved.refunds = k.refunds := congrArg Core.refunds core
  rw [state, refunds]
  cases h with
  | idle other =>
    exact absurd state changed
  | authorize | capture => exact .inl (by simp)
  | fail other => rcases other with other | other <;> simp [successKinds, other] at kind
  | confirm confirmed found submitted succeeded amount same sum edge =>
    rename_i r r' i total
    have here := findRefund_some found
    refine .inr ⟨i, r, r', here, submitted, ?_, succeeded⟩
    simp [(List.getElem?_eq_some_iff.mp here).1]
  | move other =>
    rcases other with ⟨-, rfl⟩ | ⟨other, -⟩ | ⟨other, -⟩
    · exact .inl (by simp)
    · simp [successKinds, other] at kind
    · simp [successKinds, other] at kind
  | resolve other => simp [successKinds, other] at kind

theorem Moved.state_ne_disputed {k : Core} (h : Moved pay e k)
    (kind : e.kind ∈ successKinds) : k.state ≠ .disputed := by
  cases h with
  | idle other =>
    rcases other with other | ⟨raw, other⟩
    · simp only [List.mem_cons, List.not_mem_nil, or_false] at other
      rcases other with other | other | other <;> simp [successKinds, other] at kind
    · simp [successKinds, other] at kind
  | authorize | capture | fail => simp
  | confirm confirmed found submitted succeeded amount same sum edge =>
    dsimp only
    rw [refundedState_compare]
    split <;> simp
  | move other =>
    rcases other with ⟨-, rfl⟩ | ⟨-, rfl⟩ | ⟨other, -⟩
    · simp
    · simp
    · simp [successKinds, other] at kind
  | resolve other => simp [successKinds, other] at kind

theorem Applied.noNewSuccess {p : Processor} {env : ProcessEnv} {s : Store}
    {left : Store × Bool × String} (h : Applied p env e s left) {id : PaymentID} {row row' : Row}
    (stored : s.payments id = some row) (stored' : left.1.payments id = some row')
    (lost : e.kind = .disputeClosed → e.status ≠ .voided)
    (other : e.paymentID = id → id ≠ "" → e.kind ∈ successKinds →
      Webhook.moves row.payment e = false) :
    NoNewSuccess row row' := by
  have untouched : row' = row → NoNewSuccess row row' := by
    rintro rfl
    exact ⟨fun _ => rfl, fun i r' here succeeded => ⟨r', here, succeeded⟩⟩
  cases h with
  | ignored | parked | refused | unmoved => exact untouched (Option.some.inj (stored'.symm.trans stored))
  | recorded named read accepted kept posted =>
    rename_i pay moved books
    dsimp only at stored'
    by_cases here : e.paymentID = id
    · subst here
      rw [Function.update_self] at stored'
      cases stored'
      obtain ⟨row₁, stored₁, -, rfl⟩ := getForUpdate_some read
      cases stored.symm.trans stored₁
      by_cases kind : e.kind ∈ successKinds
      · -- a success that is recorded moves the payment, which it does not
        obtain ⟨-, p', err, refused⟩ | ⟨admits, p', ended, moved'⟩ :=
          transition_spec env (loaded row) e
        · cases accepted.symm.trans refused
        cases accepted.symm.trans ended
        have still : ¬ moved.core.state ≠ (loaded row).state := by
          rw [moved'.state_ne_iff admits, moves_loaded, other rfl named kind]
          exact Bool.false_ne_true
        rcases kept with changed | disputed
        · exact absurd changed still
        · exact absurd ((not_not.mp still).trans disputed) (moved'.state_ne_disputed kind)
      · obtain ⟨state, refunds⟩ := no_success_of_transition accepted kind lost
        refine ⟨state, fun i r' placed succeeded => ⟨r', ?_, succeeded⟩⟩
        have same : moved.refunds = row.payment.refunds := refunds
        rw [← same]
        exact placed
    · rw [Function.update_of_ne (Ne.symm here)] at stored'
      exact untouched (Option.some.inj (stored'.symm.trans stored))

def deliveryOf (raw : Bytes) (headers : List (String × String)) (now : Time) : InboundWebhook :=
  { received "gateway" with payload := raw, headers := headers, receivedAt := now }

def adapting (verify : Verify) (secrets : List String) : Processor where
  verifier := fun _ => .ok verify
  signingSecrets := fun _ => .ok secrets
  ledger := none

theorem reverify_adapting
    {secrets : List String} {now : Time}
    (accepted : verify raw headers secrets now = .ok (some e)) :
    (adapting verify secrets).reverify (deliveryOf raw headers now) = .ok e :=
  Processor.reverify_iff.mpr ⟨verify, secrets, rfl, rfl, accepted⟩

theorem RecordsNoSuccess.unmistaken {row : Row}
    (never : RecordsNoSuccess r.paymentID row verify raw) (carries : Carries verify raw r)
    (authentic : Authentic verify raw) (failed : r.Failed) (named : r.paymentID ≠ "") :
    r.mistaken row.payment = false := by
  by_contra mistaken
  obtain ⟨headers, secrets, now, e, accepted⟩ := authentic
  have said := carries.describes accepted
  obtain ⟨kind, moving⟩ := (Report.mistaken_iff said failed row.payment).mp (by simpa using mistaken)
  rw [← said.paymentID] at never named
  obtain ⟨moved, moved', changed, recorded⟩ := (adapting verify secrets).records_of_moves
    (s := holding e.paymentID row (deliveryOf raw headers now)) (fun _ => Ledger.sampleDraws) rfl
    (reverify_adapting accepted) named (payments_holding ..) moving
  obtain ⟨state, refunds⟩ := never (adapting verify secrets)
    (undisturbed fun _ => Ledger.sampleDraws) (holding e.paymentID row (deliveryOf raw headers now))
    (deliveryOf raw headers now).id (deliveryOf raw headers now) (Row.of moved)
    (payments_holding ..) (webhooks_holding ..) rfl rfl
    (by rw [Processor.process_undisturbed _ _ (webhooks_holding ..) rfl, recorded,
      Function.update_self])
  rcases moved'.new_success kind changed with success | ⟨i, before, after, old, submitted, new, done⟩
  · exact changed (state success)
  · obtain ⟨found, here, earlier⟩ := refunds i after new done
    cases here.symm.trans old
    rw [submitted] at earlier
    cases earlier

/-- An authentic report of a failed operation is never recorded as a success of the payment exactly
where it does not name the payment, is not of a type that always stands for a success, or is refused
by the payment's own checks. -/
theorem recordsNoSuccess_iff {verify : Verify} {raw : Bytes} {r : Report} (id : PaymentID) (row : Row)
    (carries : Carries verify raw r) (authentic : Authentic verify raw) (failed : r.Failed) :
    RecordsNoSuccess id row verify raw ↔
      ¬ (r.paymentID = id ∧ id ≠ "" ∧ r.mistaken row.payment = true) := by
  constructor
  · rintro never ⟨rfl, named, mistaken⟩
    cases (never.unmistaken carries authentic failed named).symm.trans mistaken
  · intro unmistaken p env s webhookID w row' stored found adapter body left
    have untouched : s.payments id = some row' → NoNewSuccess row row' := by
      intro same
      cases stored.symm.trans same
      exact ⟨fun _ => rfl, fun i r' here succeeded => ⟨r', here, succeeded⟩⟩
    rcases p.process_cases env webhookID s with ⟨same, -⟩ | ⟨w', found', ran⟩
    · rw [same] at left
      exact untouched left
    cases found.symm.trans found'
    rw [ran] at left
    rcases p.finish_cases env w s with ⟨⟨same, -⟩, -⟩ | ⟨e, tables, verified, applied, same, -⟩
    · rw [same] at left
      exact untouched left
    rw [same] at left
    have said := carries.describes_of_reverify adapter body verified
    refine applied.noNewSuccess stored left ?_ ?_
    · intro closed
      rw [said.status]
      exact failed.status_ne (said.kind ▸ closed)
    · intro here named kind
      by_contra moving
      exact unmistaken ⟨said.paymentID ▸ here, named,
        (Report.mistaken_iff said failed row.payment).mpr ⟨kind, by simpa using moving⟩⟩

/-! Samples: an adapter that decodes every body to the same delivery. -/

def sampleBody : Bytes := [123, 125]

def tolerance : Int := 300 * 1000000000

def stripeSending (ev : Stripe.Event) (obj : Stripe.EventObject) : Verify :=
  stripeVerify sampleLibrary
    { event := fun _ => .ok ev, object := fun _ => .ok obj } tolerance

def adyenSending (item : Adyen.Item) : Verify :=
  adyenVerify sampleLibrary { notification := fun _ => .ok [some item] } tolerance

/-- The signature header of the sample body under the secret `s`. -/
def sampleHeaders : List (String × String) := [("Stripe-Signature", "t=0,v1=302e7b7d73")]

theorem authentic_of_isSome (headers : List (String × String))
    (secrets : List String) (now : Time)
    (h : (verify raw headers secrets now).toOption.join.isSome = true) : Authentic verify raw := by
  cases accepted : verify raw headers secrets now with
  | error err => simp [accepted, Except.toOption] at h
  | ok read =>
    cases read with
    | none => simp [accepted, Except.toOption] at h
    | some e => exact ⟨headers, secrets, now, e, accepted⟩

def refundEvent (type : String) : Stripe.Event where
  id := "evt_1"
  type := type
  created := 0
  object := sampleBody

def failedRefund : Stripe.EventObject where
  id := "gw_re_1"
  object := "refund"
  amount := 400
  currency := "usd"
  status := "failed"
  metadata := [("pp_payment_id", "pay_1"), ("pp_refund_id", "re_1")]
  paymentIntent := "pi_1"
  lastPaymentError := none

def refusedCancellation : Adyen.Item :=
  { Adyen.captureItem "pay_1" "2026-01-01T00:00:00Z" with
    eventCode := "CANCELLATION", success := "false",
    additionalData :=
      [("pp_payment_id", "pay_1"),
        ("hmacSignature", "psp_2:psp_1:acme:key_1:1000:USD:CANCELLATION:falsek")] }

/-- Stripe reports that a refund failed and the refund is recorded as SUCCEEDED; Adyen reports
that a cancellation was refused and the payment is recorded as VOIDED. -/
theorem not_recordsNoSuccess_refused :
    (Authentic (stripeSending (refundEvent "charge.refund.updated") failedRefund) sampleBody ∧
      ¬ RecordsNoSuccess "pay_1" (Row.of (sampleRun (captureCalls ++ refundCalls)))
        (stripeSending (refundEvent "charge.refund.updated") failedRefund) sampleBody) ∧
    (Authentic (adyenSending refusedCancellation) sampleBody ∧
      ¬ RecordsNoSuccess "pay_1" (Row.of (sampleRun authorizeCalls))
        (adyenSending refusedCancellation) sampleBody) := by
  have stripe : Authentic (stripeSending (refundEvent "charge.refund.updated") failedRefund)
      sampleBody := authentic_of_isSome sampleHeaders ["s"] 0 (by decide +kernel)
  have adyen : Authentic (adyenSending refusedCancellation) sampleBody :=
    authentic_of_isSome [] ["6b"] 0 (by decide +kernel)
  refine ⟨⟨stripe, fun never => ?_⟩, adyen, fun never => ?_⟩
  · have unmistaken := RecordsNoSuccess.unmistaken
      (r := .stripe (refundEvent "charge.refund.updated") failedRefund) never
      (.stripe rfl (by decide) rfl) stripe ⟨rfl, .inl rfl⟩ (by decide)
    revert unmistaken
    decide +kernel
  · have unmistaken := RecordsNoSuccess.unmistaken (r := .adyen refusedCancellation) never
      (.adyen rfl) adyen (by decide +kernel : refusedCancellation.succeeded = false) (by decide)
    revert unmistaken
    decide +kernel

/-- A refund that fails under the event type for it is not recorded as a success. -/
theorem recordsNoSuccess_refundFailed :
    Authentic (stripeSending (refundEvent "refund.failed") failedRefund) sampleBody ∧
      RecordsNoSuccess "pay_1" (Row.of (sampleRun (captureCalls ++ refundCalls)))
        (stripeSending (refundEvent "refund.failed") failedRefund) sampleBody := by
  have stripe : Authentic (stripeSending (refundEvent "refund.failed") failedRefund) sampleBody :=
    authentic_of_isSome sampleHeaders ["s"] 0 (by decide +kernel)
  refine ⟨stripe, (recordsNoSuccess_iff (r := .stripe (refundEvent "refund.failed") failedRefund)
    "pay_1" _ (.stripe rfl (by decide) rfl) stripe ⟨rfl, .inl rfl⟩).mpr ?_⟩
  decide +kernel

/-- Whether the merchant won, where the body says that a dispute was closed for or against them. -/
def Report.closes : Report → Option Bool
  | .stripe ev obj =>
    if ev.type = "charge.dispute.closed" ∧ obj.object = "dispute" then
      match obj.status with
      | "won" => some true
      | "lost" => some false
      | _ => none
    else none
  | .adyen item =>
    match item.eventCode with
    | "CHARGEBACK_REVERSED" => some true
    | "SECOND_CHARGEBACK" => some false
    | _ => none

/-- Applying the event to the stored payment is a call of `ResolveDispute` on it. -/
structure CallsResolveDispute (id : PaymentID) (row : Row) (e : WebhookEvent) (won : Bool) : Prop where
  heeded : e.kind ≠ .ignored
  named : e.paymentID ≠ ""
  payment : e.paymentID = id
  call : ∀ env : ProcessEnv,
    transition env (loaded row) e = (loaded row).resolveDispute won env.mutatedAt

/-- Every stored delivery of the body that verifies is applied by that call. -/
def ResolvesDispute (id : PaymentID) (row : Row) (verify : Verify) (raw : Bytes) (won : Bool) : Prop :=
  ∀ (p : Processor) (w : InboundWebhook) (e : WebhookEvent),
    p.verifier w.gatewayID = .ok verify → w.payload = raw → p.reverify w = .ok e →
    CallsResolveDispute id row e won

theorem Report.closes_some {won : Bool} (h : r.closes = some won) :
    r.kind = .disputeClosed ∧ r.status ≠ .voided := by
  cases r with
  | stripe ev obj =>
    unfold Report.closes at h
    dsimp only at h
    split at h
    · rename_i dispute
      have mapped : obj.mappedStatus = .other "" := by
        unfold Stripe.EventObject.mappedStatus
        rw [dispute.2]
        rfl
      have kind : Stripe.webhookKind ev.type = .disputeClosed := by
        rw [dispute.1]
        rfl
      exact ⟨kind, by
        simp [Report.status, Stripe.describe, mapped, Stripe.bareNotification,
          kind]⟩
    · cases h
  | adyen item =>
    have kind : item.kind = .disputeClosed := by
      unfold Report.closes at h
      dsimp only at h
      unfold Adyen.Item.kind
      split at h
      · rename_i code
        rw [code]
        rfl
      · rename_i code
        rw [code]
        rfl
      · cases h
    exact ⟨kind, by simp [Report.status, kind, Adyen.statusOf]⟩

theorem resolveDispute_won_ne (pay : Payment) (disputed : pay.state = .disputed) (now : Time) :
    pay.resolveDispute true now ≠ pay.resolveDispute false now := by
  intro same
  have landed : ∀ won, (pay.resolveDispute won now).1.state ∈ resolutions won := by
    intro won
    rcases pay.resolveDispute_cases won now with ⟨elsewhere, -⟩ | ⟨-, -, dst, named, core⟩
    · exact absurd disputed elsewhere
    · have state : (pay.resolveDispute won now).1.state = dst := congrArg Core.state core
      rw [state]
      exact named
  have won := landed true
  rw [same] at won
  have lost := landed false
  revert won lost
  generalize (pay.resolveDispute false now).1.state = dst
  cases dst <;> simp [resolutions]

theorem Report.Describes.callsResolveDispute (said : r.Describes e)
    {won : Bool} (closes : r.closes = some won) (named : r.paymentID ≠ "") (row : Row) :
    CallsResolveDispute r.paymentID row e false := by
  obtain ⟨kind, status⟩ := Report.closes_some closes
  rw [← said.kind] at kind
  rw [← said.status] at status
  refine ⟨by simp [kind], said.paymentID ▸ named, said.paymentID, fun env => ?_⟩
  have lost : (e.status == .voided) = false := by simpa using status
  simp [transition, kind, lost]

/-- No report that the merchant won a dispute is applied as a dispute that they won. -/
theorem ResolvesDispute.lost {id : PaymentID} {row : Row}
    {won : Bool} (resolves : ResolvesDispute id row verify raw won) (carries : Carries verify raw r)
    (authentic : Authentic verify raw) (closes : r.closes = some won)
    (disputed : row.payment.state = .disputed) : won = false ∧ r.paymentID = id ∧ id ≠ "" := by
  obtain ⟨headers, secrets, now, e, accepted⟩ := authentic
  have said := carries.describes accepted
  have calls := resolves (adapting verify secrets) (deliveryOf raw headers now) e rfl rfl
    (reverify_adapting accepted)
  have named : r.paymentID = id := said.paymentID.symm.trans calls.payment
  refine ⟨?_, named, calls.payment ▸ calls.named⟩
  have lost := (said.callsResolveDispute closes (said.paymentID ▸ calls.named) row).call
    (undisturbed fun _ => Ledger.sampleDraws)
  rw [calls.call] at lost
  cases won with
  | false => rfl
  | true => exact absurd lost (resolveDispute_won_ne (loaded row) disputed _)

/-- An authentic report that a dispute was closed is applied with the outcome it reports exactly
where the merchant lost and the report names the payment. -/
theorem resolvesDispute_iff {verify : Verify} {raw : Bytes} {r : Report} (id : PaymentID) (row : Row)
    {won : Bool} (carries : Carries verify raw r) (authentic : Authentic verify raw)
    (closes : r.closes = some won) (disputed : row.payment.state = .disputed) :
    ResolvesDispute id row verify raw won ↔ won = false ∧ r.paymentID = id ∧ id ≠ "" := by
  constructor
  · intro resolves
    exact resolves.lost carries authentic closes disputed
  · rintro ⟨rfl, rfl, named⟩ p w e adapter body verified
    exact (carries.describes_of_reverify adapter body verified).callsResolveDispute closes named row

def disputedPayment : Payment :=
  sampleRun (captureCalls ++ [.payment (.markDisputed "dp_1" "fraudulent" 5)])

def closedDispute : Stripe.Event := { refundEvent "charge.dispute.closed" with id := "evt_2" }

def wonDispute : Stripe.EventObject :=
  { failedRefund with
    id := "dp_1", object := "dispute", amount := 1000, status := "won",
    metadata := [("pp_payment_id", "pay_1")] }

def chargebackItem (eventCode : String) : Adyen.Item :=
  { refusedCancellation with
    pspReference := "dp_1", eventCode := eventCode, success := "true",
    additionalData :=
      [("pp_payment_id", "pay_1"),
        ("hmacSignature", "dp_1:psp_1:acme:key_1:1000:USD:" ++ eventCode ++ ":truek")] }

/-- A dispute the merchant won is applied as one that they lost, for either vendor. -/
theorem not_resolvesDispute_won :
    (Authentic (stripeSending closedDispute wonDispute) sampleBody ∧
      ¬ ResolvesDispute "pay_1" (Row.of disputedPayment) (stripeSending closedDispute wonDispute)
        sampleBody true) ∧
    (Authentic (adyenSending (chargebackItem "CHARGEBACK_REVERSED")) sampleBody ∧
      ¬ ResolvesDispute "pay_1" (Row.of disputedPayment)
        (adyenSending (chargebackItem "CHARGEBACK_REVERSED")) sampleBody true) := by
  have disputed : (Row.of disputedPayment).payment.state = .disputed := by decide +kernel
  have stripe : Authentic (stripeSending closedDispute wonDispute) sampleBody :=
    authentic_of_isSome sampleHeaders ["s"] 0 (by decide +kernel)
  have adyen : Authentic (adyenSending (chargebackItem "CHARGEBACK_REVERSED")) sampleBody :=
    authentic_of_isSome [] ["6b"] 0 (by decide +kernel)
  refine ⟨⟨stripe, fun resolves => ?_⟩, adyen, fun resolves => ?_⟩
  · have lost := resolves.lost (r := .stripe closedDispute wonDispute) (.stripe rfl (by decide) rfl)
      stripe (by decide) disputed
    exact absurd lost.1 (by decide)
  · have lost := resolves.lost (r := .adyen (chargebackItem "CHARGEBACK_REVERSED")) (.adyen rfl)
      adyen (by decide) disputed
    exact absurd lost.1 (by decide)

/-- A dispute the merchant lost is applied as one that they lost. -/
theorem resolvesDispute_lost :
    Authentic (adyenSending (chargebackItem "SECOND_CHARGEBACK")) sampleBody ∧
      ResolvesDispute "pay_1" (Row.of disputedPayment)
        (adyenSending (chargebackItem "SECOND_CHARGEBACK")) sampleBody false := by
  have disputed : (Row.of disputedPayment).payment.state = .disputed := by decide +kernel
  have adyen : Authentic (adyenSending (chargebackItem "SECOND_CHARGEBACK")) sampleBody :=
    authentic_of_isSome [] ["6b"] 0 (by decide +kernel)
  exact ⟨adyen, (resolvesDispute_iff (r := .adyen (chargebackItem "SECOND_CHARGEBACK")) "pay_1" _
    (.adyen rfl) adyen (by decide) disputed).mpr ⟨rfl, by decide, by decide⟩⟩

end Reports

theorem not_checks_markProcessed {row : InboxRow} (unsigned : row.signatureValid = false)
    (result : String) (now : Time) : (row.markProcessed result now).checks = false := by
  have refused : (row.markProcessed result now).signedWhereProcessed = false := by
    simp [InboxRow.signedWhereProcessed, InboxRow.markProcessed, unsigned]
  simp [InboxRow.checks, refused]

/-- No stored delivery can be marked as processed: its row passes the constraints when it is stored
and violates one of them once it is marked, whatever the outcome. -/
theorem ingested_never_processed {i : Ingester} {lib : Library} {env : IngestEnv}
    {req : InboundRequest} {inbox left : Inbox} {accepted : Accepted}
    (h : i.ingest lib env req inbox = (left, .ok accepted)) (stored : accepted.duplicate = false) :
    ∃ row ∈ left.rows, row.webhookID = accepted.webhookID ∧ row.checks = true ∧
      ∀ (result : String) (now : Time), (row.markProcessed result now).checks = false := by
  obtain ⟨event, -, id, checks, rows⟩ := Ingester.ingest_stored h stored
  refine ⟨_, by rw [rows]; exact List.mem_append_right _ (List.mem_singleton_self _), id.symm, checks,
    ?_⟩
  exact not_checks_markProcessed rfl

def stripeDelivery (lib : Library) (dec : Stripe.WebhookDecoder) (tolerance : Int) :
    VerifyDelivery :=
  fun raw headers secrets now =>
    (Stripe.verify lib dec tolerance raw headers secrets now).map some

def adyenDelivery (lib : Library) (dec : Adyen.WebhookDecoder) (tolerance : Int) : VerifyDelivery :=
  Adyen.verify lib dec tolerance

/-- An accept path in which nothing fails. -/
def acceptingEnv : IngestEnv where
  verifiedAt := 0
  webhookID := "whk_01J00000000000000000000000"
  receivedAt := 0
  record :=
    { now := 0, beginErr := none, claimErr := none, insertErr := none,
      rejected := .text "check violation", commitEnd := .acknowledged }

def acceptingWith (verify : VerifyDelivery) (secrets : List String) : Ingester where
  verifier := fun _ => .ok verify
  signingSecrets := fun _ => .ok secrets
  hasRecorder := true

def sampleRequest (headers : List (String × String)) : InboundRequest where
  gatewayID := "gateway"
  raw := sampleBody
  headers := headers
  tenantID := ""
  merchantID := ""

/-- The accept path with Stripe's verifier, on a delivery about a refund. -/
def acceptedRefund : Inbox × Except GoError Accepted :=
  (acceptingWith
    (stripeDelivery sampleLibrary
      { event := fun _ => .ok (refundEvent "charge.refunded"), object := fun _ => .ok failedRefund }
      tolerance) ["s"]).ingest sampleLibrary acceptingEnv (sampleRequest sampleHeaders)
    ⟨[], []⟩

/-- A signed delivery is accepted and stored, and cannot be marked. -/
theorem acceptedRefund_unmarkable :
    acceptedRefund.2.toOption.map Accepted.duplicate = some false ∧
      acceptedRefund.1.rows.map (fun row => (row.checks, (row.markProcessed "APPLIED" 1).checks)) =
        [(true, false)] := by
  decide +kernel

theorem acceptedRefund_never_processed :
    ∃ row ∈ acceptedRefund.1.rows, row.webhookID = acceptingEnv.webhookID ∧ row.checks = true ∧
      ∀ (result : String) (now : Time), (row.markProcessed result now).checks = false := by
  have stored : acceptedRefund =
      (acceptedRefund.1, .ok ⟨acceptingEnv.webhookID, false, .refundSucceeded⟩) :=
    Prod.ext rfl (by decide +kernel)
  exact ingested_never_processed stored rfl

/-- The events that a run of `Process` on the notification has dealt with, with what was recorded
of each. -/
def dealtWith (p : Processor) (w : InboundWebhook) : Except GoError Result → List (WebhookEvent × String)
  | .error _ => []
  | .ok res =>
    match p.reverify w with
    | .error _ => []
    | .ok e => [(e, res.outcome)]

/-- Where the stored batch is processed without an error, each of its authenticated items has been
applied to the payment it names or recorded as ignored, as changing nothing or as parked. -/
def DealsWithBatch (lib : Library) (dec : Adyen.WebhookDecoder) (tolerance : Int)
    (w : InboundWebhook) : Prop :=
  ∀ (p : Processor) (env : ProcessEnv) (s s' : Store) (res : Result) (secrets : List String)
    (now : Time) (events : List Notification),
    p.verifier w.gatewayID = .ok (adyenVerify lib dec tolerance) → s.webhooks w.id = some w →
    p.process env w.id s = (s', .ok res) →
    Adyen.verifyAll lib dec tolerance w.payload secrets now = .ok events →
    (dealtWith p w (.ok res)).map Prod.fst = events.map Notification.toWebhookEvent ∧
      ∀ d ∈ dealtWith p w (.ok res), d.2 ∈ ["APPLIED", "IGNORED", "NO_OP", "PARKED"]

variable {p : Processor} {env : ProcessEnv} {e : WebhookEvent} {s : Store}

theorem Applied.outcome_mem {left : Store × Bool × String} (h : Applied p env e s left) :
    left.2.2 ∈ ["APPLIED", "IGNORED", "NO_OP", "PARKED"] := by
  cases h <;> simp

variable {w : InboundWebhook}

theorem Processor.finish_ok
    {res : Result} (h : (p.finish env w s).2 = .ok res) :
    ∃ e left, p.reverify w = .ok e ∧ Applied p env e s left ∧ res.outcome = left.2.2 := by
  unfold Processor.finish at h
  cases verified : p.reverify w with
  | error => simp [verified] at h
  | ok e =>
    simp only [verified, Store.within] at h
    cases begun : env.tx.beginErr with
    | some => simp [begun] at h
    | none =>
      cases ran : p.applyAndMark env w e s with
      | error => simp [begun, ran] at h
      | ok =>
        cases ended : env.tx.commitEnd with
        | unacknowledged | failed => simp [begun, ran, ended] at h
        | acknowledged =>
          simp only [begun, ran, ended, Except.ok.injEq] at h
          obtain ⟨left, applied, rest⟩ := call_ok ran
          dsimp only at rest
          split at rest
          · cases rest
          · cases rest
            exact ⟨e, left, rfl, apply_ok applied, h ▸ rfl⟩

theorem Processor.finish_of_process
    {s' : Store} {res : Result} (found : s.webhooks w.id = some w) (fresh : w.processedAt = none)
    (ran : p.process env w.id s = (s', .ok res)) : p.finish env w s = (s', .ok res) := by
  unfold Processor.process at ran
  cases loaded : env.loadErr with
  | some => simp [loaded] at ran
  | none => simpa [loaded, found, fresh] using ran

theorem dealtWith_ok (verified : p.reverify w = .ok e) (res : Result) :
    dealtWith p w (.ok res) = [(e, res.outcome)] := by
  simp [dealtWith, verified]

variable {lib : Library} {dec : Adyen.WebhookDecoder} {secrets : List String}
  {events : List Notification}

theorem verifyAll_unique {tolerance : Int}
    {raw : Bytes} {secrets' : List String} {now now' : Time} {events' : List Notification}
    (h : Adyen.verifyAll lib dec tolerance raw secrets now = .ok events)
    (h' : Adyen.verifyAll lib dec tolerance raw secrets' now' = .ok events') :
    events = events' := by
  obtain ⟨items, decoded, -, matched⟩ := Adyen.verifyAll_ok h
  obtain ⟨items', decoded', -, matched'⟩ := Adyen.verifyAll_ok h'
  cases decoded.symm.trans decoded'
  refine List.right_unique_forall₂' ?_ matched matched'
  rintro entry n n' ⟨item, occurred, rfl, dated, rfl⟩ ⟨item', occurred', same, dated', rfl⟩
  cases same
  cases dated.symm.trans dated'
  rfl

theorem reverify_adyen {tolerance : Int} {now : Time}
    (adapter : p.verifier w.gatewayID = .ok (adyenVerify lib dec tolerance))
    (verified : p.reverify w = .ok e)
    (accepted : Adyen.verifyAll lib dec tolerance w.payload secrets now = .ok events) :
    ∃ n rest, events = n :: rest ∧ e = n.toWebhookEvent := by
  obtain ⟨verify, own, adapter', -, read⟩ := Processor.reverify_iff.mp verified
  cases adapter.symm.trans adapter'
  obtain ⟨first, verify', same⟩ := Ledger.map_ok read
  obtain ⟨events', accepted', head⟩ := Ledger.map_ok verify'
  cases verifyAll_unique accepted accepted'
  cases events with
  | nil =>
    cases head
    cases same
  | cons n rest =>
    cases head
    cases same
    exact ⟨n, rest, rfl, rfl⟩

def storing (w : InboundWebhook) : Store where
  payments := fun _ => none
  webhooks := Function.update (fun _ => none) w.id (some w)
  books := ⟨[], []⟩
  exceptions := []

@[simp] theorem webhooks_storing (w : InboundWebhook) : (storing w).webhooks w.id = some w := by
  simp [storing]

/-- Where nothing fails, a notification for a payment the platform does not know is processed
without an error: it is ignored or parked. -/
theorem process_storing
    (verified : p.reverify w = .ok e) (fresh : w.processedAt = none) (draws : Nat → Ledger.Draws) :
    ∃ s' res, p.process (undisturbed draws) w.id (storing w) = (s', .ok res) := by
  have applied : ∃ left, p.apply (undisturbed draws) w e (storing w) = .ok left := by
    unfold Processor.apply
    split
    · exact ⟨_, rfl⟩
    split
    · exact ⟨_, rfl⟩
    · exact ⟨_, rfl⟩
  obtain ⟨left, applied⟩ := applied
  rw [p.process_undisturbed draws (webhooks_storing w) fresh, Processor.finish, verified]
  dsimp only
  rw [Store.within, show (undisturbed draws).tx.beginErr = none from rfl]
  dsimp only
  rw [Processor.applyAndMark, applied]
  exact ⟨_, _, rfl⟩

theorem DealsWithBatch.single {tolerance : Int}
    (deals : DealsWithBatch lib dec tolerance w) (fresh : w.processedAt = none)
    (verified : Adyen.verifyAll lib dec tolerance w.payload secrets w.receivedAt = .ok events) :
    events.length = 1 := by
  cases events with
  | nil =>
    -- a batch that is accepted is not empty
    obtain ⟨items, -, carried, matched⟩ := Adyen.verifyAll_ok verified
    cases matched
    exact absurd rfl carried
  | cons n =>
    have read : (adapting (adyenVerify lib dec tolerance) secrets).reverify w =
        .ok n.toWebhookEvent := by
      refine Processor.reverify_iff.mpr ⟨_, secrets, rfl, rfl, ?_⟩
      rw [adyenVerify, Adyen.verify, verified]
      rfl
    obtain ⟨s', res, ran⟩ := process_storing read fresh fun _ => Ledger.sampleDraws
    have dealt := (deals _ _ _ s' res secrets w.receivedAt _ rfl (webhooks_storing w) ran
      verified).1
    rw [dealtWith_ok read] at dealt
    simpa using (congrArg List.length dealt).symm

/-- An accepted and stored batch that still verifies is dealt with as a whole exactly where it is a
batch of one item. -/
theorem dealsWithBatch_iff {i : Ingester} {lib : Library} {dec : Adyen.WebhookDecoder}
    {tolerance : Int} {env : IngestEnv} {req : InboundRequest} {inbox left : Inbox}
    {accepted : Accepted} {row : InboxRow} {items : List (Option Adyen.Item)}
    (h : i.ingest lib env req inbox = (left, .ok accepted)) (stored : accepted.duplicate = false)
    (stores : left.rows = inbox.rows ++ [row])
    (authentic : ∃ secrets events,
      Adyen.verifyAll lib dec tolerance req.raw secrets env.receivedAt = .ok events)
    (batch : dec.notification req.raw = .ok items) :
    DealsWithBatch lib dec tolerance row.scanWebhook ↔ items.length = 1 := by
  obtain ⟨event, -, -, -, rows⟩ := Ingester.ingest_stored h stored
  have same : row = rowOf lib (newWebhook env req event) env.record.now := by
    simpa using stores.symm.trans rows
  have body : row.scanWebhook.payload = req.raw := by rw [same]; rfl
  have received : row.scanWebhook.receivedAt = env.receivedAt := by rw [same]; rfl
  have fresh : row.scanWebhook.processedAt = none := by rw [same]; rfl
  obtain ⟨secrets, events, verified⟩ := authentic
  obtain ⟨items', decoded, -, matched⟩ := Adyen.verifyAll_ok verified
  cases batch.symm.trans decoded
  rw [matched.length_eq]
  rw [← body, ← received] at verified
  constructor
  · intro deals
    exact deals.single fresh verified
  · intro single p env' s s' res secrets' now events' adapter found ran verified'
    cases verifyAll_unique verified verified'
    have finished := Processor.finish_of_process found fresh ran
    obtain ⟨e, tables, read, applied, outcome⟩ :=
      Processor.finish_ok (congrArg Prod.snd finished)
    obtain ⟨n, rest, rfl, rfl⟩ := reverify_adyen adapter read verified
    have alone : rest = [] := by simpa using single
    subst alone
    rw [dealtWith_ok read]
    refine ⟨rfl, ?_⟩
    intro d mem
    rw [List.mem_singleton.mp mem, outcome]
    exact applied.outcome_mem

/-- Adyen's verifier on a batch of captures, each of a payment and with a date. -/
def batchDecoder (captures : List (String × String)) : Adyen.WebhookDecoder where
  notification := fun _ => .ok (captures.map fun c => some (Adyen.captureItem c.1 c.2))

def acceptedBatch (captures : List (String × String)) : Inbox × Except GoError Accepted :=
  (acceptingWith (adyenDelivery sampleLibrary (batchDecoder captures) tolerance)
    ["6b"]).ingest sampleLibrary acceptingEnv (sampleRequest []) ⟨[], []⟩

/-- The row of a batch that starts with a capture of the first payment. -/
def batchRow : InboxRow :=
  rowOf sampleLibrary
    (newWebhook acceptingEnv (sampleRequest [])
      (Adyen.normalizeItem sampleLibrary
        (Adyen.captureItem "pay_1" "2026-01-01T00:00:00Z") 0 sampleBody)) 0

def twoCaptures : List (String × String) :=
  [("pay_1", "2026-01-01T00:00:00Z"), ("pay_2", "2026-01-01T00:01:00Z")]

/-- Two authenticated captures are accepted and stored as one row, and the second is dropped. -/
theorem not_dealsWithBatch_twoCaptures :
    acceptedBatch twoCaptures =
        ((acceptedBatch twoCaptures).1, .ok ⟨acceptingEnv.webhookID, false, .captureSucceeded⟩) ∧
      (acceptedBatch twoCaptures).1.rows = [batchRow] ∧
      ¬ DealsWithBatch sampleLibrary (batchDecoder twoCaptures) tolerance
        batchRow.scanWebhook := by
  refine ⟨Prod.ext rfl (by decide +kernel), by decide +kernel, fun deals => ?_⟩
  have verified : Adyen.verifyAll sampleLibrary (batchDecoder twoCaptures) tolerance
      batchRow.scanWebhook.payload ["6b"] batchRow.scanWebhook.receivedAt =
      .ok (twoCaptures.map fun c => Adyen.normalizeItem sampleLibrary
        (Adyen.captureItem c.1 c.2) 0 sampleBody) := by
    decide +kernel
  exact absurd (deals.single rfl verified) (by decide)

/-- A batch of one capture is dealt with. -/
theorem dealsWithBatch_oneCapture :
    DealsWithBatch sampleLibrary (batchDecoder (twoCaptures.take 1)) tolerance
      batchRow.scanWebhook := by
  have accepted : acceptedBatch (twoCaptures.take 1) = ((acceptedBatch (twoCaptures.take 1)).1,
      .ok ⟨acceptingEnv.webhookID, false, .captureSucceeded⟩) := Prod.ext rfl (by decide +kernel)
  have stores : (acceptedBatch (twoCaptures.take 1)).1.rows = [] ++ [batchRow] := by decide +kernel
  have verified : Adyen.verifyAll sampleLibrary (batchDecoder (twoCaptures.take 1))
      tolerance sampleBody ["6b"] 0 =
      .ok ((twoCaptures.take 1).map fun c => Adyen.normalizeItem sampleLibrary
        (Adyen.captureItem c.1 c.2) 0 sampleBody) := by
    decide +kernel
  exact (dealsWithBatch_iff accepted rfl stores ⟨["6b"], _, verified⟩ rfl).mpr rfl

end PaymentsPlatform.Webhook
