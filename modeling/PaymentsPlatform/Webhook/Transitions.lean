/- layer: rules for the webhook processor; results
   digest: What a notification does to the payment it names, and whose notifications move a payment. -/

import PaymentsPlatform.Ledger.Balance
import PaymentsPlatform.Payments.StateAgreement
import PaymentsPlatform.Webhook.Processor

namespace PaymentsPlatform.Webhook

open Payments Lib.TransitionSystem
open Payments.Payment (findRefund refundedState)
open Pkg (Money)
open Storage (Row Tx)

section Rules

/-- The payment's own checks accept what the notification reports. -/
def accepts (pay : Payment) (e : WebhookEvent) : Bool :=
  match e.kind with
  | .authorizationSucceeded => pay.admitsAuthorization (effectAmount pay e)
  | .authorizationFailed | .captureFailed => pay.admitsFailure
  | .captureSucceeded => pay.admitsCapture (effectAmount pay e)
  | .refundSucceeded => e.refundID != "" && pay.admitsConfirmation e.refundID
  | .voidSucceeded => pay.admitsVoid
  | .payoutSettled => machine.canTransition pay.state .settled
  | .disputeOpened => machine.canTransition pay.state .disputed
  | .disputeClosed => pay.state == .disputed
  | .refundFailed | .accountUpdated | .ignored | .other _ => true

inductive Moved (pay : Payment) (e : WebhookEvent) : Core → Prop
  | idle (kind : e.kind ∈ [.refundFailed, .accountUpdated, .ignored] ∨ ∃ raw, e.kind = .other raw) :
      Moved pay e pay.core
  | authorize (kind : e.kind = .authorizationSucceeded)
      (admits : pay.admitsAuthorization (effectAmount pay e) = true) :
      Moved pay e { pay.core with state := .authorized, authorized := effectAmount pay e }
  | fail (kind : e.kind = .authorizationFailed ∨ e.kind = .captureFailed)
      (admits : pay.admitsFailure = true) : Moved pay e { pay.core with state := .failed }
  | capture {total : Money} {capturedAt : Option Time} (kind : e.kind = .captureSucceeded)
      (admits : pay.admitsCapture (effectAmount pay e) = true)
      (sum : pay.capturedAmount.add (effectAmount pay e) = .ok total) :
      Moved pay e
        { pay.core with state := .captured, captured := total, capturedAt := capturedAt }
  | confirm {r r' : Refund} {i : Nat} {total : Money} (kind : e.kind = .refundSucceeded)
      (found : findRefund pay.refunds e.refundID = some (r, i)) (submitted : r.status = .submitted)
      (succeeded : r'.status = .succeeded) (amount : r'.amount = r.amount) (same : r'.id = r.id)
      (sum : pay.refundedAmount.add r.amount = .ok total)
      (edge : machine.canTransition pay.state
        (refundedState (compare total.minor pay.capturedAmount.minor)) = true) :
      Moved pay e
        { pay.core with
          state := refundedState (compare total.minor pay.capturedAmount.minor)
          refunded := total
          refunds := pay.refunds.set i r' }
  | move {dst : State}
      (kind : (e.kind = .voidSucceeded ∧ dst = .voided) ∨ (e.kind = .payoutSettled ∧ dst = .settled) ∨
        (e.kind = .disputeOpened ∧ dst = .disputed))
      (edge : machine.canTransition pay.state dst = true) : Moved pay e { pay.core with state := dst }
  | resolve {dst : State} (kind : e.kind = .disputeClosed) (disputed : pay.state = .disputed)
      (named : dst ∈ [State.captured, .settled, .refunded]) :
      Moved pay e { pay.core with state := dst }

private theorem resolutions_among (won : Bool) :
    ∀ dst ∈ resolutions won, dst ∈ [State.captured, .settled, .refunded] := by
  cases won <;> decide

theorem transition_spec (env : ProcessEnv) (pay : Payment) (e : WebhookEvent) :
    (accepts pay e = false ∧ ∃ p' err, transition env pay e = (p', .error err)) ∨
      (accepts pay e = true ∧ ∃ p', transition env pay e = (p', .ok ()) ∧ Moved pay e p'.core) := by
  have packed : ∀ r : Payment.Result Unit, r.2 = .ok () → ∃ p', r = (p', .ok ()) ∧ p' = r.1 :=
    fun r ok => ⟨r.1, Prod.ext rfl ok, rfl⟩
  have plain : ∀ dst evt, (p : Payment.Result Unit) → p = pay.transition dst evt env.mutatedAt →
      (machine.canTransition pay.state dst = false ∧ ∃ p' err, p = (p', .error err)) ∨
        (machine.canTransition pay.state dst = true ∧
          ∃ p', p = (p', .ok ()) ∧ p'.core = { pay.core with state := dst }) := by
    rintro dst evt p rfl
    rcases pay.transition_cases dst evt env.mutatedAt with ⟨closed, err, same⟩ | ⟨edge, ok, moved⟩
    · exact .inl ⟨closed, pay, err, same⟩
    · obtain ⟨p', eq, rfl⟩ := packed _ ok
      exact .inr ⟨edge, _, eq, moved⟩
  unfold transition accepts
  cases kind : e.kind with
  | authorizationSucceeded =>
    dsimp only
    rcases pay.markAuthorized_cases (effectAmount pay e)
      (some (pay.authExpiresAt.getD (env.expiryFrom + sevenDays))) env.mutatedAt with
      ⟨refused, err, same⟩ | ⟨admits, ok, moved⟩
    · exact .inl ⟨refused, pay, err, same⟩
    · obtain ⟨p', eq, rfl⟩ := packed _ ok
      exact .inr ⟨admits, _, eq, moved ▸ .authorize kind admits⟩
  | authorizationFailed | captureFailed =>
    dsimp only
    rcases pay.markFailed_cases e.declineReason "reported by webhook" env.mutatedAt with
      ⟨refused, err, same⟩ | ⟨admits, ok, moved⟩
    · exact .inl ⟨refused, pay, err, same⟩
    · obtain ⟨p', eq, rfl⟩ := packed _ ok
      exact .inr ⟨admits, _, eq, moved ▸ .fail (by simp [kind]) admits⟩
  | captureSucceeded =>
    dsimp only
    rcases pay.markCaptured_cases (effectAmount pay e) env.mutatedAt with
      ⟨refused, err, same⟩ | ⟨admits, ok, total, sum, moved⟩
    · exact .inl ⟨refused, pay, err, same⟩
    · obtain ⟨p', eq, rfl⟩ := packed _ ok
      exact .inr ⟨admits, _, eq, moved ▸ .capture kind admits sum⟩
  | refundSucceeded =>
    dsimp only
    by_cases unnamed : e.refundID = ""
    · rw [if_pos unnamed]
      exact .inl ⟨by simp [unnamed], pay, _, rfl⟩
    rw [if_neg unnamed]
    rcases pay.confirmRefund_cases e.refundID e.gatewayRef env.mutatedAt with
      ⟨refused, -, err, same⟩ | ⟨r, i, r', found, submitted, succeeded, amount, same, outcome⟩
    · exact .inl ⟨by simp [refused], pay, err, same⟩
    · rcases outcome with ⟨refused, ⟨err, same, -⟩, -⟩ | ⟨admits, ok, total, sum, -, edge, moved⟩
      · exact .inl ⟨by simp [refused], _, err, same⟩
      · obtain ⟨p', eq, rfl⟩ := packed _ ok
        exact .inr ⟨by simp [unnamed, admits], _, eq,
          moved ▸ .confirm kind found submitted succeeded amount same sum edge⟩
  | voidSucceeded =>
    dsimp only
    rcases pay.void_cases env.mutatedAt with ⟨refused, err, same⟩ | ⟨admits, ok, moved⟩
    · exact .inl ⟨refused, pay, err, same⟩
    · obtain ⟨p', eq, rfl⟩ := packed _ ok
      have edge : machine.canTransition pay.state .voided = true := by
        simp only [Payment.admitsVoid, Bool.and_eq_true] at admits
        exact admits.2
      exact .inr ⟨admits, _, eq, moved ▸ .move (by simp [kind]) edge⟩
  | payoutSettled =>
    dsimp only
    rcases plain .settled _ _ rfl with refused | ⟨edge, p', eq, moved⟩
    · exact .inl refused
    · exact .inr ⟨edge, p', eq, moved ▸ .move (by simp [kind]) edge⟩
  | disputeOpened =>
    dsimp only
    rcases plain .disputed _ _ rfl with refused | ⟨edge, p', eq, moved⟩
    · exact .inl refused
    · exact .inr ⟨edge, p', eq, moved ▸ .move (by simp [kind]) edge⟩
  | disputeClosed =>
    dsimp only
    rcases pay.resolveDispute_cases (e.status == .voided) env.mutatedAt with
      ⟨refused, err, same⟩ | ⟨disputed, ok, dst, named, moved⟩
    · exact .inl ⟨by simpa using refused, pay, err, same⟩
    · obtain ⟨p', eq, rfl⟩ := packed _ ok
      exact .inr ⟨by simpa using disputed, _, eq,
        moved ▸ .resolve kind disputed (resolutions_among _ dst named)⟩
  | refundFailed | accountUpdated | ignored =>
    exact .inr ⟨rfl, pay, rfl, .idle (.inl (by simp [kind]))⟩
  | other raw => exact .inr ⟨rfl, pay, rfl, .idle (.inr ⟨raw, kind⟩)⟩

theorem transition_keeps (env : ProcessEnv) (pay : Payment) (e : WebhookEvent) :
    (transition env pay e).1.id = pay.id ∧
      (transition env pay e).1.baseVersion = pay.baseVersion := by
  have plain : ∀ dst evt, (pay.transition dst evt env.mutatedAt).1.id = pay.id ∧
      (pay.transition dst evt env.mutatedAt).1.baseVersion = pay.baseVersion := by
    intro dst evt
    unfold Payment.transition
    split
    · exact ⟨rfl, rfl⟩
    · split <;> exact ⟨rfl, rfl⟩
  unfold transition
  split
  · unfold Payment.markAuthorized
    repeat' split
    all_goals exact ⟨rfl, rfl⟩
  · unfold Payment.markFailed
    split
    · exact ⟨rfl, rfl⟩
    · exact plain _ _
  · unfold Payment.markFailed
    split
    · exact ⟨rfl, rfl⟩
    · exact plain _ _
  · unfold Payment.markCaptured
    repeat' split
    all_goals exact ⟨rfl, rfl⟩
  · split
    · exact ⟨rfl, rfl⟩
    unfold Payment.confirmRefund
    split
    · exact ⟨rfl, rfl⟩
    split
    · exact ⟨rfl, rfl⟩
    dsimp only
    repeat' split
    all_goals exact ⟨rfl, rfl⟩
  · exact ⟨rfl, rfl⟩
  · unfold Payment.void
    split
    · exact ⟨rfl, rfl⟩
    · exact plain _ _
  · exact plain _ _
  · exact plain _ _
  · unfold Payment.resolveDispute
    split
    · exact ⟨rfl, rfl⟩
    · exact plain _ _
  all_goals exact ⟨rfl, rfl⟩

/-- How applying a notification ends, where it ends without an error. -/
inductive Applied (p : Processor) (env : ProcessEnv) (e : WebhookEvent) (s : Store) :
    Store × Bool × String → Prop
  | ignored (kind : e.kind = .ignored) : Applied p env e s (s, false, "IGNORED")
  | parked {opened : List ReconciliationException}
      (unread : e.paymentID = "" ∨ getForUpdate env e.paymentID s = none) :
      Applied p env e s ({ s with exceptions := opened }, false, "PARKED")
  | refused {pay p' : Payment} {err : GoError} (read : getForUpdate env e.paymentID s = some pay)
      (refuses : transition env pay e = (p', .error err))
      (code : codeOf err = .invalidStateTransition) : Applied p env e s (s, false, "NO_OP")
  | unmoved {pay moved : Payment} (read : getForUpdate env e.paymentID s = some pay)
      (accepted : transition env pay e = (moved, .ok ())) (same : moved.state = pay.state)
      (undisputed : pay.state ≠ .disputed) : Applied p env e s (s, false, "NO_OP")
  | recorded {pay moved : Payment} {books : Ledger.Books} (named : e.paymentID ≠ "")
      (read : getForUpdate env e.paymentID s = some pay)
      (accepted : transition env pay e = (moved, .ok ()))
      (changed : moved.state ≠ pay.state ∨ pay.state = .disputed)
      (posted : p.postEffect env moved e s.books = .ok books) :
      Applied p env e s
        ({ s with
          payments := Function.update s.payments e.paymentID (some (Row.of moved))
          books := books }, true, "APPLIED")

variable {left : Store × Bool × String} {e : WebhookEvent}

theorem record_ok {p : Processor} {env : ProcessEnv} {pay : Payment} {row : Option Row}
    {s : Store}
    (h : p.record env pay row e s = .ok left) :
    ∃ books, p.postEffect env pay e s.books = .ok books ∧
      left = ({ s with
        payments := Function.update s.payments e.paymentID (some (Row.of pay))
        books := books }, true, "APPLIED") := by
  cases row with
  | none => cases h
  | some =>
    obtain ⟨saved, stored, rest⟩ := call_ok h
    obtain ⟨books, posted, done⟩ := call_ok rest
    obtain ⟨-, -, rfl⟩ := Storage.save_ok (Prod.ext rfl stored)
    cases done
    exact ⟨books, posted, rfl⟩

variable {w : InboundWebhook}

theorem park_ok {env : ProcessEnv} {kind detail : String}
    {s : Store} (h : park env w e kind detail s = .ok left) :
    ∃ opened, left = ({ s with exceptions := opened }, false, "PARKED") := by
  unfold park at h
  split at h
  · cases h
  · cases h
    exact ⟨_, rfl⟩

theorem apply_ok {p : Processor} {env : ProcessEnv}
    {s : Store} (h : p.apply env w e s = .ok left) :
    Applied p env e s left := by
  unfold Processor.apply at h
  split at h
  · rename_i kind
    cases h
    exact .ignored kind
  split at h
  · rename_i unnamed
    obtain ⟨opened, rfl⟩ := park_ok h
    exact .parked (.inl unnamed)
  rename_i named
  cases read : getForUpdate env e.paymentID s with
  | none =>
    rw [read] at h
    obtain ⟨opened, rfl⟩ := park_ok h
    exact .parked (.inr read)
  | some pay =>
    rw [read] at h
    dsimp only at h
    rcases ended : transition env pay e with ⟨moved, err | ⟨⟩⟩
    · rw [ended] at h
      dsimp only at h
      split at h
      · rename_i code
        cases h
        exact .refused read ended code
      · cases h
    · rw [ended] at h
      dsimp only at h
      split at h
      · rename_i same
        cases h
        exact .unmoved read ended same.1 same.2
      · rename_i changed
        obtain ⟨books, posted, rfl⟩ := record_ok h
        exact .recorded named read ended (by tauto) posted

theorem Processor.reverify_iff {p : Processor} :
    p.reverify w = .ok e ↔ ∃ verify secrets, p.verifier w.gatewayID = .ok verify ∧
      p.signingSecrets w.gatewayID = .ok secrets ∧
      verify w.payload w.headers secrets w.receivedAt = .ok (some e) := by
  constructor
  · intro h
    obtain ⟨verify, adapter, rest⟩ := call_ok h
    split at rest
    · cases rest
    rename_i secrets known
    split at rest
    · cases rest
    · cases rest
    · rename_i event accepted
      cases rest
      exact ⟨verify, secrets, adapter, known, accepted⟩
  · rintro ⟨verify, secrets, adapter, known, accepted⟩
    simp only [Processor.reverify, adapter, known, accepted, bind, Except.bind]

def SameTables (s s' : Store) : Prop := s'.payments = s.payments ∧ s'.books = s.books

/-- A run either fails and leaves payments and books alone, or leaves them as applying the
notification does. -/
theorem Processor.finish_cases (p : Processor) (env : ProcessEnv) (w : InboundWebhook) (s : Store) :
    (SameTables s (p.finish env w s).1 ∧ ∃ err, (p.finish env w s).2 = .error err) ∨
      ∃ e left, p.reverify w = .ok e ∧ Applied p env e s left ∧
        SameTables left.1 (p.finish env w s).1 := by
  unfold Processor.finish
  cases verified : p.reverify w with
  | error err => exact .inl ⟨⟨rfl, rfl⟩, err, rfl⟩
  | ok e =>
    dsimp only
    unfold Store.within
    cases env.tx.beginErr with
    | some err =>
      dsimp only
      cases env.markFailedErr with
      | some | none => exact .inl ⟨⟨rfl, rfl⟩, err, rfl⟩
    | none =>
      dsimp only
      cases ran : p.applyAndMark env w e s with
      | error err =>
        dsimp only
        cases env.markFailedErr with
        | some | none => exact .inl ⟨⟨rfl, rfl⟩, err, rfl⟩
      | ok marked =>
        obtain ⟨left, applied, rest⟩ := call_ok ran
        have tables : SameTables left.1 marked.1 := by
          dsimp only at rest
          split at rest
          · cases rest
          · cases rest
            exact ⟨rfl, rfl⟩
        have ended := apply_ok applied
        dsimp only
        cases env.tx.commitEnd with
        | acknowledged => exact .inr ⟨e, left, rfl, ended, tables⟩
        | unacknowledged =>
          dsimp only
          cases env.markFailedErr with
          | some | none => exact .inr ⟨e, left, rfl, ended, tables⟩
        | failed err =>
          dsimp only
          cases env.markFailedErr with
          | some | none => exact .inl ⟨⟨rfl, rfl⟩, err, rfl⟩

theorem Processor.process_cases (p : Processor) (env : ProcessEnv) (id : WebhookID) (s : Store) :
    SameTables s (p.process env id s).1 ∨
      ∃ w, s.webhooks id = some w ∧ p.process env id s = p.finish env w s := by
  unfold Processor.process
  cases env.loadErr with
  | some => exact .inl ⟨rfl, rfl⟩
  | none =>
    cases found : s.webhooks id with
    | none => exact .inl ⟨rfl, rfl⟩
    | some w =>
      by_cases done : w.processedAt.isSome = true
      · exact .inl (by simp [done, SameTables])
      · exact .inr ⟨w, rfl, by simp [done]⟩

def loaded (row : Row) : Payment :=
  { row.payment with baseVersion := row.payment.version, events := [] }

theorem getForUpdate_some {env : ProcessEnv} {id : PaymentID} {s : Store} {pay : Payment}
    (h : getForUpdate env id s = some pay) :
    ∃ row, s.payments id = some row ∧ row.payment.state.isKnown = true ∧
      pay = loaded row := by
  unfold getForUpdate at h
  split at h
  · cases h
  · split at h
    · cases h
    · rename_i row stored
      refine ⟨row, stored, ?_⟩
      unfold Payment.rehydrate at h
      split at h
      · cases h
      · rename_i known
        cases h
        exact ⟨not_not.mp known, rfl⟩

/-- A processor without a ledger that takes every payload for the one event. -/
def reading (e : WebhookEvent) : Processor where
  verifier := fun _ => .ok fun _ _ _ _ => .ok (some e)
  signingSecrets := fun _ => .ok []
  ledger := none

def undisturbed (draws : Nat → Ledger.Draws) : ProcessEnv where
  loadErr := none
  tx := Tx.undisturbed
  exceptionErr := none
  exceptionID := "rec_1"
  post := { claimErr := none, draws := draws, appendErr := fun _ => none }
  markProcessedErr := none
  markFailedErr := none
  expiryFrom := 0
  mutatedAt := 0
  openedAt := 0
  processedAt := 0
  failedAt := 0

theorem Processor.process_undisturbed (p : Processor) (draws : Nat → Ledger.Draws) {id : WebhookID}
    {s : Store} (found : s.webhooks id = some w) (fresh : w.processedAt = none) :
    p.process (undisturbed draws) id s = p.finish (undisturbed draws) w s := by
  rw [Processor.process, show (undisturbed draws).loadErr = none from rfl]
  dsimp only
  rw [found]
  simp [fresh]

theorem Processor.finish_records (p : Processor) {row : Row} {s : Store}
    (draws : Nat → Ledger.Draws) (unposted : p.ledger = none)
    (verified : p.reverify w = .ok e) (named : e.paymentID ≠ "") (kind : e.kind ≠ .ignored)
    (stored : s.payments e.paymentID = some row) (known : row.payment.state.isKnown = true)
    {moved : Payment}
    (accepted : transition (undisturbed draws) (loaded row) e = (moved, .ok ()))
    (changed : moved.state ≠ row.payment.state)
    (base : moved.baseVersion = row.payment.version) :
    (p.finish (undisturbed draws) w s).1.payments =
      Function.update s.payments e.paymentID (some (Row.of moved)) := by
  have read : getForUpdate (undisturbed draws) e.paymentID s = some (loaded row) := by
    simp [getForUpdate, undisturbed, Tx.undisturbed, stored, Payment.rehydrate, known,
      Except.toOption, loaded]
  have saved : (Storage.save Tx.undisturbed moved row).2 = .ok (Row.of moved) := by
    simp [Storage.save, Tx.undisturbed, base]
  have posted : p.postEffect (undisturbed draws) moved e s.books = .ok s.books := by
    rw [Processor.postEffect, unposted]
  have recorded : p.record (undisturbed draws) moved (some row) e s =
      .ok ({ s with payments := Function.update s.payments e.paymentID (some (Row.of moved)) },
        true, "APPLIED") := by
    unfold Processor.record
    dsimp only
    rw [show (undisturbed draws).tx = Tx.undisturbed from rfl, saved, posted]
    rfl
  have applied : p.apply (undisturbed draws) w e s =
      .ok ({ s with payments := Function.update s.payments e.paymentID (some (Row.of moved)) },
        true, "APPLIED") := by
    rw [Processor.apply, if_neg kind, if_neg named, read]
    dsimp only
    rw [accepted]
    dsimp only
    rw [if_neg (fun same => changed same.1), stored, recorded]
  have ran : p.applyAndMark (undisturbed draws) w e s =
      .ok (({ s with payments := Function.update s.payments e.paymentID (some (Row.of moved)) } :
          Store).markProcessed w.id "APPLIED" 0,
        { webhookID := w.id, kind := some e.kind, applied := true, outcome := "APPLIED" }) := by
    rw [Processor.applyAndMark, applied]
    rfl
  rw [Processor.finish, verified]
  dsimp only
  rw [Store.within, show (undisturbed draws).tx.beginErr = none from rfl]
  dsimp only
  rw [ran]
  rfl

/-- One delivery to a consumer: of a stored notification, or of one that the consumer had read
before another consumer processed it. -/
inductive Delivery where
  | process (id : WebhookID) (env : ProcessEnv)
  | resumed (w : InboundWebhook) (env : ProcessEnv)

namespace Delivery

def env : Delivery → ProcessEnv
  | .process _ env | .resumed _ env => env

def webhook (s : Store) : Delivery → Option InboundWebhook
  | .process id env =>
    if env.loadErr.isSome then none else (s.webhooks id).filter (·.processedAt.isNone)
  | .resumed w _ => some w

def event (p : Processor) (s : Store) (d : Delivery) : Option WebhookEvent :=
  (d.webhook s).bind fun w => (p.reverify w).toOption

end Delivery

/-- The tables, and the events that were processed without an error so far. -/
structure History where
  store : Store
  processed : List WebhookEvent

variable (p : Processor) (h : History)

def deliver (d : Delivery) : History :=
  match d.webhook h.store with
  | none => h
  | some w =>
    { store := (p.finish d.env w h.store).1
      processed :=
        match (p.finish d.env w h.store).2, p.reverify w with
        | .ok _, .ok e => h.processed ++ [e]
        | _, _ => h.processed }

/-- Any deliveries, from the tables that meet `start`. -/
def deliveries (start : Store → Prop) : System History Delivery where
  init h := start h.store ∧ h.processed = []
  step := deliver p

theorem deliver_process (id : WebhookID) (env : ProcessEnv) :
    (deliver p h (.process id env)).store = (p.process env id h.store).1 := by
  cases load : env.loadErr with
  | some => simp [deliver, Delivery.webhook, Processor.process, load]
  | none =>
    cases found : h.store.webhooks id with
    | none => simp [deliver, Delivery.webhook, Processor.process, load, found]
    | some w =>
      by_cases done : w.processedAt.isSome = true
      · have skipped : Delivery.webhook h.store (.process id env) = none := by
          simpa [Delivery.webhook, load, found, Option.filter, Option.isSome_iff_ne_none] using done
        simp [deliver, skipped, Processor.process, load, found, done]
      · have kept : Delivery.webhook h.store (.process id env) = some w := by
          simpa [Delivery.webhook, load, found, Option.filter] using done
        simp [deliver, kept, Processor.process, load, found, done, Delivery.env]

theorem deliver_cases (d : Delivery) :
    (SameTables h.store (deliver p h d).store ∧ (deliver p h d).processed = h.processed) ∨
      ∃ e left, d.event p h.store = some e ∧ Applied p d.env e h.store left ∧
        SameTables left.1 (deliver p h d).store ∧
        ((deliver p h d).processed = h.processed ∨
          (deliver p h d).processed = h.processed ++ [e]) := by
  unfold deliver Delivery.event
  cases d.webhook h.store with
  | none => exact .inl ⟨⟨rfl, rfl⟩, rfl⟩
  | some w =>
    dsimp only
    rcases p.finish_cases d.env w h.store with ⟨same, err, failed⟩ | ⟨e, left, verified, applied, same⟩
    · rw [failed]
      exact .inl ⟨same, rfl⟩
    · refine .inr ⟨e, left, by simp [verified, Except.toOption], applied, same, ?_⟩
      rw [verified]
      cases (p.finish d.env w h.store).2 with
      | error => exact .inl rfl
      | ok => exact .inr rfl

end Rules

open Shared (StateMachine)

def position (row : Row) : State × Money × Money × Money :=
  (row.payment.state, row.payment.authorizedAmount, row.payment.capturedAmount,
    row.payment.refundedAmount)

def Holds (g : GatewayID) (pay : Payment) : Prop :=
  ∃ a ∈ pay.attempts, a.gatewayID = g ∧
    (a.outcome = .success ∨ attemptMachine.isTerminal a.outcome = false)

instance (g : GatewayID) (pay : Payment) : Decidable (Holds g pay) := by
  unfold Holds
  infer_instance

/-- Processing a notification of the gateway that reads as the event changes the payment's state or
totals only if the gateway holds an attempt of it. -/
def MovedOnlyByHolders (id : PaymentID) (row : Row) (g : GatewayID) (e : WebhookEvent) : Prop :=
  ∀ (p : Processor) (env : ProcessEnv) (s : Store) (webhookID : WebhookID) (w : InboundWebhook),
    s.payments id = some row → s.webhooks webhookID = some w → w.gatewayID = g →
    p.reverify w = .ok e →
    ((p.process env webhookID s).1.payments id).map position ≠ some (position row) →
    Holds g row.payment

/-- A confirmation would leave captured money over. -/
def leavesRest (pay : Payment) (e : WebhookEvent) : Bool :=
  match findRefund pay.refunds e.refundID with
  | none => false
  | some (r, _) => decide (pay.refundedAmount.minor + r.amount.minor < pay.capturedAmount.minor)

/-- The payment's own checks let the event move it: they accept its call, which is not one more
partial refund of a payment already partially refunded. -/
def moves (pay : Payment) (e : WebhookEvent) : Bool :=
  accepts pay e &&
    match e.kind with
    | .refundFailed | .accountUpdated | .ignored | .other _ => false
    | .refundSucceeded => !(pay.state == .partiallyRefunded && leavesRest pay e)
    | _ => true

/-! The state after an accepted notification. -/

theorem refundedState_compare (total captured : Int) :
    refundedState (compare total captured) =
      if total < captured then .partiallyRefunded else .refunded := by
  unfold refundedState
  simp only [compare_lt_iff_lt]

theorem ne_of_edge {src dst : State} (edge : machine.canTransition src dst = true)
    (other : dst ≠ .partiallyRefunded ∨ src ≠ .partiallyRefunded) : dst ≠ src := by
  rintro rfl
  cases dst <;> simp_all [StateMachine.canTransition, machine]

variable {pay : Payment} {e : WebhookEvent} {k : Core}

theorem Moved.state_ne_iff (h : Moved pay e k)
    (accepted : accepts pay e = true) : k.state ≠ pay.state ↔ moves pay e = true := by
  cases h with
  | idle kind =>
    rcases kind with kind | ⟨raw, kind⟩
    · simp only [List.mem_cons, List.not_mem_nil, or_false] at kind
      rcases kind with kind | kind | kind <;> simp [moves, kind, Payment.core]
    · simp [moves, kind, Payment.core]
  | authorize kind admits =>
    have edge := ((pay.admitsAuthorization_iff _).mp admits).2.2.2
    simp [moves, accepted, kind, ne_of_edge edge (.inl (by decide))]
  | fail kind admits =>
    simp only [Payment.admitsFailure, Bool.and_eq_true] at admits
    rcases kind with kind | kind <;>
      simp [moves, accepted, kind, ne_of_edge admits.2 (.inl (by decide))]
  | capture kind admits sum =>
    have edge := (Payment.admitsCapture_of admits).2.2.2
    simp [moves, accepted, kind, ne_of_edge edge (.inl (by decide))]
  | confirm kind found submitted succeeded amount same sum edge =>
    rename_i r r' i total
    have minor := (Money.add_ok sum).2.2
    rw [refundedState_compare, minor] at edge ⊢
    simp only [moves, accepted, kind, leavesRest, found, Bool.true_and]
    by_cases rest : pay.refundedAmount.minor + r.amount.minor < pay.capturedAmount.minor
    · simp only [rest, if_true] at edge ⊢
      by_cases part : pay.state = .partiallyRefunded
      · simp [part]
      · simp [part, Ne.symm part]
    · simp only [rest, if_false] at edge ⊢
      simp [ne_of_edge edge (.inl (by decide))]
  | move kind edge =>
    rename_i dst
    rcases kind with ⟨kind, rfl⟩ | ⟨kind, rfl⟩ | ⟨kind, rfl⟩ <;>
      simp [moves, accepted, kind, ne_of_edge edge (.inl (by decide))]
  | resolve kind disputed named =>
    have elsewhere : ∀ dst ∈ [State.captured, .settled, .refunded], dst ≠ State.disputed := by
      decide
    simp [moves, accepted, kind, disputed, elsewhere _ named]

theorem Moved.totals_of_state (h : Moved pay e k)
    (same : k.state = pay.state) (disputed : pay.state = .disputed) :
    k.authorized = pay.authorizedAmount ∧ k.captured = pay.capturedAmount ∧
      k.refunded = pay.refundedAmount := by
  cases h with
  | idle | fail | move | resolve => exact ⟨rfl, rfl, rfl⟩
  | authorize | capture =>
    rw [disputed] at same
    cases same
  | confirm kind found submitted succeeded amount same' sum edge =>
    rw [disputed] at same
    dsimp only at same
    rw [refundedState_compare] at same
    split at same <;> cases same

theorem known_of_edge {src dst : State} (edge : machine.canTransition src dst = true) :
    src.isKnown = true := by
  have declared : (src, dst) ∈ machine.transitions := by
    simpa [StateMachine.canTransition] using edge
  simpa [State.isKnown, StateMachine.isKnown] using (machine.ends_mem _ declared).1

theorem Moved.known (h : Moved pay e k)
    (changed : k.state ≠ pay.state) : pay.state.isKnown = true := by
  cases h with
  | idle => exact absurd rfl changed
  | authorize kind admits => exact known_of_edge ((pay.admitsAuthorization_iff _).mp admits).2.2.2
  | fail kind admits =>
    simp only [Payment.admitsFailure, Bool.and_eq_true] at admits
    exact known_of_edge admits.2
  | capture kind admits sum => exact known_of_edge (Payment.admitsCapture_of admits).2.2.2
  | confirm kind found submitted succeeded amount same sum edge => exact known_of_edge edge
  | move kind edge => exact known_of_edge edge
  | resolve kind disputed named =>
    rw [disputed]
    decide

/-! Whose notifications move a payment. -/

variable (id : PaymentID) (row : Row) (w : InboundWebhook)

theorem moves_loaded (e : WebhookEvent) : moves (loaded row) e = moves row.payment e :=
  rfl

/-- A notification that is applied moves the state and the totals of the payment it names where
the payment's checks let it, and of no other. -/
theorem Applied.moves {p : Processor} {env : ProcessEnv} {s : Store}
    {left : Store × Bool × String} (h : Applied p env e s left) {id : PaymentID} {row : Row}
    (stored : s.payments id = some row)
    (changed : (left.1.payments id).map position ≠ some (position row)) :
    e.paymentID = id ∧ id ≠ "" ∧ moves row.payment e = true := by
  cases h with
  | ignored | parked | refused | unmoved =>
    rw [show _ = some row from stored] at changed
    exact absurd rfl changed
  | recorded named read accepted kept posted =>
    rename_i pay moved books
    by_cases here : e.paymentID = id
    · subst here
      obtain ⟨row', stored', -, rfl⟩ := getForUpdate_some read
      cases stored.symm.trans stored'
      obtain ⟨-, p', err, refused⟩ | ⟨admits, p', ended, moved'⟩ := transition_spec env (loaded row) e
      · cases accepted.symm.trans refused
      cases accepted.symm.trans ended
      refine ⟨rfl, named, ?_⟩
      rw [← moves_loaded, ← moved'.state_ne_iff admits]
      intro same
      rcases kept with differs | disputed
      · exact differs same
      · obtain ⟨authorized, captured, refunded⟩ := moved'.totals_of_state same disputed
        refine changed ?_
        have state : moved.state = row.payment.state := same
        have authorized' : moved.authorizedAmount = row.payment.authorizedAmount := authorized
        have captured' : moved.capturedAmount = row.payment.capturedAmount := captured
        have refunded' : moved.refundedAmount = row.payment.refundedAmount := refunded
        simp [position, Row.of, state, authorized', captured', refunded']
    · refine absurd ?_ changed
      dsimp only
      rw [Function.update_of_ne (Ne.symm here), stored]
      rfl

def received (g : GatewayID) : InboundWebhook where
  id := "whk_1"
  gatewayID := g
  tenantID := "ten_1"
  merchantID := "mer_1"
  payload := []
  headers := []
  receivedAt := 0
  processedAt := none
  attempts := 0
  status := "RECEIVED"
  lastError := ""
  result := ""
  retryAfter := none

def holding : Store where
  payments := Function.update (fun _ => none) id (some row)
  webhooks := Function.update (fun _ => none) w.id (some w)
  books := ⟨[], []⟩
  exceptions := []

@[simp] theorem payments_holding : (holding id row w).payments id = some row := by
  simp [holding]

@[simp] theorem webhooks_holding : (holding id row w).webhooks w.id = some w := by
  simp [holding]

/-- What the payment's checks let through is recorded where nothing fails and nothing is posted. -/
theorem Processor.records_of_moves (p : Processor) {row : Row} {s : Store}
    (draws : Nat → Ledger.Draws) {w : InboundWebhook} (unposted : p.ledger = none)
    (verified : p.reverify w = .ok e) (named : e.paymentID ≠ "")
    (stored : s.payments e.paymentID = some row) (moving : moves row.payment e = true) :
    ∃ moved : Payment, Moved (loaded row) e moved.core ∧ moved.state ≠ row.payment.state ∧
      (p.finish (undisturbed draws) w s).1.payments =
        Function.update s.payments e.paymentID (some (Row.of moved)) := by
  have admits : accepts (loaded row) e = true := by
    rw [← moves_loaded, moves, Bool.and_eq_true] at moving
    exact moving.1
  obtain ⟨refused, -⟩ | ⟨-, moved, accepted, moved'⟩ :=
    transition_spec (undisturbed draws) (loaded row) e
  · cases refused.symm.trans admits
  have changed := (moved'.state_ne_iff admits).mpr ((moves_loaded row e).trans moving)
  have kind : e.kind ≠ .ignored := by
    intro ignored
    simp [moves, ignored] at moving
  have base : moved.baseVersion = row.payment.version := by
    have kept := (transition_keeps (undisturbed draws) (loaded row) e).2
    rw [accepted] at kept
    exact kept
  exact ⟨moved, moved', changed, p.finish_records draws unposted verified named kind stored
    (moved'.known changed) accepted changed base⟩

theorem MovedOnlyByHolders.holds {row : Row} {g : GatewayID}
    (only : MovedOnlyByHolders e.paymentID row g e) (named : e.paymentID ≠ "")
    (moving : moves row.payment e = true) : Holds g row.payment := by
  obtain ⟨moved, -, changed, recorded⟩ :=
    (reading e).records_of_moves (w := received g) (fun _ => Ledger.sampleDraws) rfl rfl named
      (payments_holding e.paymentID row (received g)) moving
  refine only (reading e) (undisturbed fun _ => Ledger.sampleDraws)
    (holding e.paymentID row (received g)) (received g).id (received g) (payments_holding ..)
    (webhooks_holding ..) rfl rfl ?_
  rw [(reading e).process_undisturbed _ (webhooks_holding e.paymentID row (received g)) rfl, recorded,
    Function.update_self]
  intro same
  have state : moved.state = row.payment.state := congrArg Prod.fst (Option.some.inj same)
  exact changed state

/-- The payment is moved only by gateways that hold an attempt of it exactly where its own
checks refuse what another gateway reports. -/
theorem movedOnlyByHolders_iff (g : GatewayID) (e : WebhookEvent) :
    MovedOnlyByHolders id row g e ↔
      (e.paymentID = id ∧ id ≠ "" ∧ moves row.payment e = true → Holds g row.payment) := by
  constructor
  · rintro only ⟨rfl, named, moving⟩
    exact only.holds named moving
  · intro holds p env s webhookID w stored found sender verified changed
    refine holds ?_
    have untouched : ∀ s' : Store, s'.payments = s.payments →
        (s'.payments id).map position = some (position row) := by
      intro s' same
      rw [same, stored]
      rfl
    rcases p.process_cases env webhookID s with ⟨same, -⟩ | ⟨w', found', ran⟩
    · exact absurd (untouched _ same) changed
    cases found.symm.trans found'
    rw [ran] at changed
    rcases p.finish_cases env w s with ⟨⟨same, -⟩, -⟩ | ⟨e', left, verified', applied, same, -⟩
    · exact absurd (untouched _ same) changed
    · cases verified.symm.trans verified'
      rw [same] at changed
      exact applied.moves stored changed

def failedOver : Payment :=
  sampleRun (failoverCalls ++ [.payment (.markAuthorized ⟨1000, "USD"⟩ (some 100) 6)])

def lateFailure : WebhookEvent where
  gatewayEventID := "evt_1"
  kind := .authorizationFailed
  gatewayRef := "pi_1"
  paymentID := "pay_1"
  refundID := ""
  status := .declined
  amount := none
  declineReason := .issuerUnavailable
  occurredAt := 7

/-- The late report of a gateway whose attempt was DECLINED moves a payment that another
gateway has authorized to FAILED. -/
theorem not_movedOnlyByHolders_failedOver :
    failedOver.state = .authorized ∧
      ¬ MovedOnlyByHolders "pay_1" (Row.of failedOver) "stripe" lateFailure ∧
      (((reading lateFailure).process (undisturbed fun _ => Ledger.sampleDraws) "whk_1"
        (holding "pay_1" (Row.of failedOver) (received "stripe"))).1.payments "pay_1").map
          (·.payment.state) = some .failed := by
  refine ⟨by decide +kernel, fun only => ?_, by decide +kernel⟩
  have holds := MovedOnlyByHolders.holds (e := lateFailure) only (by decide) (by decide +kernel)
  revert holds
  decide +kernel

end PaymentsPlatform.Webhook
