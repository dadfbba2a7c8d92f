/- layer: model of application/webhook (process.go, ingest.go), of the statements they run in
     infrastructure/postgres (webhook_repo.go, webhook_ingest.go) and of the table in
     migrations/0009_webhooks.up.sql
   digest: Accepting a delivery, and applying a stored notification. -/

import PaymentsPlatform.Ledger.Transaction
import PaymentsPlatform.Storage.PaymentRepo

namespace PaymentsPlatform.Webhook

open Payments (Payment)
open Pkg (Money)

structure InboundWebhook where
  id : WebhookID
  gatewayID : GatewayID
  tenantID : TenantID
  merchantID : MerchantID
  payload : List UInt8
  headers : List (String × String)
  receivedAt : Time
  processedAt : Option Time
  attempts : Nat
  status : String
  lastError : String
  result : String
  retryAfter : Option Time

structure ReconciliationException where
  id : String
  tenantID : TenantID
  merchantID : MerchantID
  paymentID : PaymentID
  kind : String
  severity : String
  detail : String
  openedAt : Time

/-- The tables the processor reads and writes. -/
structure Store where
  payments : PaymentID → Option Row
  webhooks : WebhookID → Option InboundWebhook
  books : Ledger.Books
  exceptions : List ReconciliationException

/-- `UnitOfWork.Within`: a body that fails leaves the tables as they were. -/
def Store.within {α : Type} (tx : Tx) (body : Store → Except GoError (Store × α)) (s : Store) :
    Store × Except GoError α :=
  match tx.beginErr with
  | some e => (s, .error e)
  | none =>
    match body s with
    | .error e => (s, .error e)
    | .ok (done, a) =>
      match tx.commitEnd with
      | .acknowledged => (done, .ok a)
      | .unacknowledged e => (done, .error e)
      | .failed e => (s, .error e)

def Store.markProcessed (s : Store) (id : WebhookID) (outcome : String) (now : Time) : Store :=
  { s with
    webhooks := Function.update s.webhooks id <| (s.webhooks id).map fun w =>
      { w with
        status := "PROCESSED", processedAt := some now, lastError := "", retryAfter := none,
        result := outcome } }

def Store.markFailed (s : Store) (id : WebhookID) (cause : GoError) (retryAt : Time) : Store :=
  { s with
    webhooks := Function.update s.webhooks id <| (s.webhooks id).map fun w =>
      { w with
        lastError := String.ofList (cause.error.toList.take 500)
        retryAfter := some retryAt
        status := if 8 ≤ w.attempts then "PARKED" else w.status } }

/-- A verifier reads the event out of a payload, given its headers, the signing secrets and
the instant of receipt. -/
abbrev Verify :=
  List UInt8 → List (String × String) → List String → Time → Except GoError (Option WebhookEvent)

structure Processor where
  verifier : GatewayID → Except GoError Verify
  signingSecrets : GatewayID → Except GoError (List String)
  ledger : Option Ledger.Service

/-- What one run of `Process` meets: the answers of its statements, the clock readings, and the
identifiers that are drawn. -/
structure ProcessEnv where
  loadErr : Option GoError
  tx : Tx
  exceptionErr : Option GoError
  exceptionID : String
  post : Ledger.PostEnv
  markProcessedErr : Option GoError
  markFailedErr : Option GoError
  expiryFrom : Time
  mutatedAt : Time
  openedAt : Time
  processedAt : Time
  failedAt : Time

structure Result where
  webhookID : WebhookID
  kind : Option WebhookKind
  applied : Bool
  outcome : String

variable (p : Processor) (env : ProcessEnv) (pay : Payment) (w : InboundWebhook) (e : WebhookEvent)

/-- The amount a notification moved, the payment's own where it reports none. -/
def effectAmount : Money :=
  match e.amount with
  | none => pay.amount
  | some m => if m.isValid then m else pay.amount

def sevenDays : Int := 7 * 24 * 3600 * 1000000000

/-- The mapping of the kinds onto the aggregate's own methods. -/
def transition : Payment.Result Unit :=
  match e.kind with
  | .authorizationSucceeded =>
    let expires := pay.authExpiresAt.getD (env.expiryFrom + sevenDays)
    pay.markAuthorized (effectAmount pay e) (some expires) env.mutatedAt
  | .authorizationFailed | .captureFailed =>
    pay.markFailed e.declineReason "reported by webhook" env.mutatedAt
  | .captureSucceeded => pay.markCaptured (effectAmount pay e) env.mutatedAt
  | .refundSucceeded =>
    if e.refundID = "" then
      (pay, .error (new .webhookUnknownEventType "a refund webhook carries no refund reference"))
    else pay.confirmRefund e.refundID e.gatewayRef env.mutatedAt
  -- a failed refund is left to the refund's own lifecycle
  | .refundFailed => (pay, .ok ())
  | .voidSucceeded => pay.void env.mutatedAt
  | .payoutSettled => pay.markSettled e.occurredAt e.gatewayRef env.mutatedAt
  | .disputeOpened => pay.markDisputed e.gatewayRef (text e.status) env.mutatedAt
  | .disputeClosed => pay.resolveDispute (e.status == .voided) env.mutatedAt
  | .accountUpdated | .ignored | .other _ => (pay, .ok ())

def park (kind detail : String) (s : Store) : Except GoError (Store × Bool × String) :=
  match env.exceptionErr with
  | some err => .error err
  | none =>
    .ok ({ s with
      exceptions := s.exceptions ++
        [{ id := env.exceptionID, tenantID := w.tenantID, merchantID := w.merchantID,
           paymentID := e.paymentID, kind := kind, severity := "CRITICAL",
           detail := detail ++ " (gateway " ++ w.gatewayID ++ ", event " ++ e.gatewayEventID ++ ")",
           openedAt := env.openedAt }] }, false, "PARKED")

/-- `GetForUpdate` on the tables. -/
def getForUpdate (id : PaymentID) (s : Store) : Option Payment :=
  match env.tx.readErr with
  | some _ => none
  | none =>
    match s.payments id with
    | none => none
    | some row => row.payment.rehydrate.toOption

def effectOf : Effect where
  reference := e.gatewayEventID
  kind := e.kind
  tenantID := pay.tenantID
  merchantID := pay.merchantID
  paymentID := pay.id
  attemptID := ""
  refundID := e.refundID
  amount := effectAmount pay e
  fee := ⟨0, ""⟩
  gatewayRef := e.gatewayRef
  occurredAt := e.occurredAt
  disputeWon := e.status == .voided

def Processor.postEffect (b : Ledger.Books) : Except GoError Ledger.Books :=
  match p.ledger with
  | none => .ok b
  | some service => service.post env.post (effectOf pay e) b

def Processor.record (row : Option Row)
    (e : WebhookEvent) (s : Store) : Except GoError (Store × Bool × String) :=
  match row with
  | none => .error (Storage.versionConflict pay)
  | some row => do
      let saved ← (Storage.save env.tx pay row).2
      let books ← p.postEffect env pay e s.books
      pure ({ s with payments := Function.update s.payments e.paymentID (some saved), books := books },
        true, "APPLIED")

def Processor.apply (s : Store) : Except GoError (Store × Bool × String) :=
  if e.kind = .ignored then .ok (s, false, "IGNORED")
  else if e.paymentID = "" then
    park env w e "WEBHOOK_WITHOUT_PAYMENT_REFERENCE"
      "the webhook carries no payment reference the platform can resolve" s
  else
    match getForUpdate env e.paymentID s with
    | none =>
      park env w e "WEBHOOK_FOR_UNKNOWN_PAYMENT"
        "the gateway reported an event for a payment the platform has no record of" s
    | some pay =>
      match transition env pay e with
      | (_, .error err) =>
        -- out of order, or already applied
        if codeOf err = .invalidStateTransition then .ok (s, false, "NO_OP") else .error err
      | (moved, .ok ()) =>
        if moved.state = pay.state ∧ pay.state ≠ .disputed then .ok (s, false, "NO_OP")
        else p.record env moved (s.payments e.paymentID) e s

def Processor.reverify : Except GoError WebhookEvent := do
  let verify ← p.verifier w.gatewayID
  match p.signingSecrets w.gatewayID with
  | .error err =>
    .error (wrap err .dependencyFailure
      ("could not resolve the signing secrets for gateway " ++ w.gatewayID))
  | .ok secrets =>
    -- the stored receipt time: the signature covers a timestamp with a replay window
    match verify w.payload w.headers secrets w.receivedAt with
    | .error err =>
      .error (wrap err .webhookSignatureInvalid "the stored webhook no longer verifies")
    | .ok none =>
      .error (new .webhookSignatureInvalid
        "the verifier returned neither an event nor an error")
    | .ok (some event) => .ok event

/-- The loop of `retryAfter`. -/
def backoff : Nat → Int → Int
  | 0, d => d
  | n + 1, d => if d < 300 * 1000000000 then backoff n (d * 2) else d

def retryAfter (attempts : Nat) : Int := min (backoff attempts 1000000000) (300 * 1000000000)

/-- The second unit of work: the notification is applied and marked in one transaction. -/
def Processor.applyAndMark (s : Store) : Except GoError (Store × Result) := do
  let (done, applied, outcome) ← p.apply env w e s
  match env.markProcessedErr with
  | some err => .error err
  | none =>
    pure (done.markProcessed w.id outcome env.processedAt,
      { webhookID := w.id, kind := some e.kind, applied := applied, outcome := outcome })

/-- The rest of `Process`, once the notification has been read: that it was processed in the
meantime is not looked at again. -/
def Processor.finish (s : Store) : Store × Except GoError Result :=
  match p.reverify w with
  | .error err => (s, .error err)
  | .ok event =>
    match s.within env.tx (p.applyAndMark env w event) with
    | (done, .ok res) => (done, .ok res)
    | (left, .error err) =>
      (match env.markFailedErr with
        | some _ => left
        | none => left.markFailed w.id err (env.failedAt + retryAfter w.attempts),
        .error err)

def Processor.process (id : WebhookID) (s : Store) : Store × Except GoError Result :=
  match env.loadErr with
  | some err => (s, .error err)
  | none =>
    match s.webhooks id with
    | none => (s, .error (new .webhookUnknownEventType ("webhook " ++ id ++ " not found")))
    | some w =>
      if w.processedAt.isSome then
        (s, .ok { webhookID := id, kind := none, applied := false, outcome := "ALREADY_PROCESSED" })
      else p.finish env w s

open Gateways (Bytes Library Notification encodeHex)
open Storage (CommitEnd)

/-- A row of `pp.inbound_webhooks`.  The headers are written from a string map, so that what is
stored of them is always an object. -/
structure InboxRow where
  webhookID : WebhookID
  tenantID : Option TenantID
  merchantID : MerchantID
  gatewayID : GatewayID
  gatewayEventID : String
  eventType : String
  signature : String
  signatureValid : Bool
  signatureScheme : String
  headers : List (String × String)
  rawBody : Bytes
  bodySHA256 : String
  status : String
  resolvedPaymentID : String
  resolvedEventType : String
  attempts : Nat
  lastError : String
  retryAfter : Option Time
  receivedAt : Time
  processedAt : Option Time
  version : Nat
  deriving DecidableEq

/-- `[0-9A-HJKMNP-TV-Z]`. -/
def isCrockford (c : Char) : Bool :=
  ('0' ≤ c && c ≤ '9') || ('A' ≤ c && c ≤ 'H') || c == 'J' || c == 'K' || c == 'M' || c == 'N' ||
    ('P' ≤ c && c ≤ 'T') || ('V' ≤ c && c ≤ 'Z')

def isLowerHex (c : Char) : Bool := ('0' ≤ c && c ≤ '9') || ('a' ≤ c && c ≤ 'f')

def webhookIDShape (s : String) : Bool :=
  match s.toList with
  | 'w' :: 'h' :: 'k' :: '_' :: ulid => ulid.length == 26 && ulid.all isCrockford
  | _ => false

def digestShape (s : String) : Bool := s.toList.length == 64 && s.toList.all isLowerHex

def webhookStatuses : List String :=
  ["RECEIVED", "VERIFIED", "RESOLVED", "PROCESSED", "REJECTED", "DUPLICATE", "PARKED"]

/-- `webhook_processing_requires_signature`. -/
def InboxRow.signedWhereProcessed (row : InboxRow) : Bool :=
  !(["RESOLVED", "PROCESSED"].contains row.status) || row.signatureValid

def InboxRow.checks (row : InboxRow) : Bool :=
  webhookIDShape row.webhookID && row.gatewayEventID != "" && digestShape row.bodySHA256 &&
    webhookStatuses.contains row.status && decide (row.attempts ≤ 8) && row.signedWhereProcessed &&
    decide (row.rawBody.length ≤ 1048576)

def InboxRow.scanWebhook (row : InboxRow) : InboundWebhook where
  id := row.webhookID
  gatewayID := row.gatewayID
  tenantID := row.tenantID.getD ""
  merchantID := row.merchantID
  payload := row.rawBody
  headers := row.headers
  receivedAt := row.receivedAt
  processedAt := row.processedAt
  attempts := row.attempts
  status := row.status
  lastError := row.lastError
  result := row.resolvedEventType
  retryAfter := row.retryAfter

def InboxRow.markProcessed (row : InboxRow) (result : String) (now : Time) : InboxRow :=
  { row with
    status := "PROCESSED", processedAt := some now, lastError := "", retryAfter := none,
    resolvedEventType := result }

/-- A row of `pp.webhook_dedup`. -/
structure DedupClaim where
  gatewayID : GatewayID
  gatewayEventID : String
  webhookID : WebhookID
  firstSeenAt : Time
  expiresAt : Time

structure Inbox where
  rows : List InboxRow
  claims : List DedupClaim

def webhookDedupRetention : Int := 30 * 24 * 3600 * 1000000000

/-- What `Record` is handed.  An absent receipt time is the zero one. -/
structure NewWebhook where
  id : WebhookID
  gatewayID : GatewayID
  tenantID : TenantID
  merchantID : MerchantID
  gatewayEventID : String
  eventType : String
  signature : String
  payload : Bytes
  headers : List (String × String)
  /-- `none` is the zero time. -/
  receivedAt : Option Time
  attempts : Nat
  status : String

/-- The clock and the answers of the database: `rejected` is the error for a row that violates a
constraint. -/
structure RecordEnv where
  now : Time
  beginErr : Option GoError
  claimErr : Option GoError
  insertErr : Option GoError
  rejected : GoError
  commitEnd : CommitEnd

/-- The row that is inserted; the columns that are not named have their defaults. -/
def rowOf (lib : Library) (w : NewWebhook) (now : Time) : InboxRow where
  webhookID := w.id
  tenantID := none
  merchantID := w.merchantID
  gatewayID := w.gatewayID
  gatewayEventID := w.gatewayEventID
  eventType := w.eventType
  signature := w.signature
  signatureValid := w.signature != ""
  signatureScheme := ""
  headers := w.headers
  rawBody := w.payload
  bodySHA256 := encodeHex (lib.sha256 w.payload)
  status := if w.status = "" then "RECEIVED" else w.status
  resolvedPaymentID := ""
  resolvedEventType := ""
  attempts := w.attempts
  lastError := ""
  retryAfter := none
  receivedAt := w.receivedAt.getD now
  processedAt := none
  version := 0

def Inbox.conflicts (inbox : Inbox) (row : InboxRow) : Bool :=
  inbox.rows.any fun other =>
    other.webhookID == row.webhookID ||
      (other.gatewayID == row.gatewayID && other.gatewayEventID == row.gatewayEventID)

def Inbox.claimed (inbox : Inbox) (gatewayID : GatewayID) (eventID : String) : Bool :=
  inbox.claims.any fun c => c.gatewayID == gatewayID && c.gatewayEventID == eventID

/-- `Record`: the claim and the row in one transaction; false for a delivery seen before. -/
def Inbox.record (lib : Library) (env : RecordEnv) (w : NewWebhook) (inbox : Inbox) :
    Inbox × Except GoError Bool :=
  if w.tenantID ≠ "" then
    (inbox, .error (new .tenantMismatch
      ("postgres: a webhook whose tenant is already known must be recorded through the " ++
        "tenanted repository, where row-level security checks the write")))
  else
    match env.beginErr, env.claimErr, env.insertErr with
    | some err, _, _ => (inbox, .error err)
    | none, some err, _ => (inbox, .error err)
    | none, none, insertErr =>
      if inbox.claimed w.gatewayID w.gatewayEventID then (inbox, .ok false)
      else
        match insertErr with
        | some err => (inbox, .error err)
        | none =>
          let row := rowOf lib w env.now
          if ¬ row.checks ∨ inbox.conflicts row then (inbox, .error env.rejected)
          else
            let stored : Inbox :=
              { rows := inbox.rows ++ [row]
                claims := inbox.claims ++
                  [{ gatewayID := w.gatewayID, gatewayEventID := w.gatewayEventID,
                     webhookID := w.id, firstSeenAt := env.now,
                     expiresAt := env.now + webhookDedupRetention }] }
            match env.commitEnd with
            | .acknowledged => (stored, .ok true)
            | .unacknowledged err => (stored, .error err)
            | .failed err => (inbox, .error err)

/-- A verifier as the accept path calls it, with the fields of the event that are only stored. -/
abbrev VerifyDelivery :=
  Bytes → List (String × String) → List String → Time → Except GoError (Option Notification)

structure InboundRequest where
  gatewayID : GatewayID
  raw : Bytes
  headers : List (String × String)
  tenantID : TenantID
  merchantID : MerchantID

structure Accepted where
  webhookID : WebhookID
  duplicate : Bool
  kind : WebhookKind
  deriving DecidableEq

/-- The ingester; its queue is told of a stored delivery and its answer is not looked at. -/
structure Ingester where
  verifier : GatewayID → Except GoError VerifyDelivery
  signingSecrets : GatewayID → Except GoError (List String)
  hasRecorder : Bool

/-- The readings of the clock, the drawn identifier, and what the database answers. -/
structure IngestEnv where
  verifiedAt : Time
  webhookID : WebhookID
  receivedAt : Time
  record : RecordEnv

/-- What is recorded of a verified delivery.  The signature is not among it. -/
def newWebhook (env : IngestEnv) (req : InboundRequest) (event : Notification) : NewWebhook where
  id := env.webhookID
  gatewayID := req.gatewayID
  tenantID := req.tenantID
  merchantID := req.merchantID
  gatewayEventID := event.gatewayEventID
  eventType := event.eventType
  signature := ""
  payload := req.raw
  headers := req.headers
  receivedAt := some env.receivedAt
  attempts := 0
  status := "RECEIVED"

def Ingester.verified (i : Ingester) (env : IngestEnv) (req : InboundRequest) :
    Except GoError Notification := do
  if req.gatewayID = "" then
    .error (new .validationFailed "a webhook must name its gateway")
  else
    let verify ← i.verifier req.gatewayID
    match i.signingSecrets req.gatewayID with
    | .error err =>
      .error (wrap err .dependencyFailure
        ("could not resolve the signing secrets for gateway " ++ req.gatewayID))
    | .ok secrets =>
      match verify req.raw req.headers secrets env.verifiedAt with
      | .error err =>
        .error (wrap err .webhookSignatureInvalid "the webhook signature could not be verified")
      | .ok none =>
        .error (new .webhookSignatureInvalid
          "the verifier returned neither an event nor an error")
      | .ok (some event) =>
        if event.gatewayEventID = "" then
          .error (new .webhookUnknownEventType
            "the webhook carries no gateway event identifier and cannot be deduplicated")
        else if ¬ i.hasRecorder then
          .error (new .internalError
            ("the webhook ingester has no recorder; the delivery would be verified and then " ++
              "dropped"))
        else .ok event

def Ingester.ingest (i : Ingester) (lib : Library) (env : IngestEnv) (req : InboundRequest)
    (inbox : Inbox) : Inbox × Except GoError Accepted :=
  match i.verified env req with
  | .error err => (inbox, .error err)
  | .ok event =>
    match inbox.record lib env.record (newWebhook env req event) with
    | (left, .error err) => (left, .error err)
    | (left, .ok stored) =>
      (left, .ok { webhookID := env.webhookID, duplicate := !stored, kind := event.kind })

theorem Inbox.record_stored {lib : Library} {env : RecordEnv} {w : NewWebhook} {inbox left : Inbox}
    (h : inbox.record lib env w = (left, .ok true)) :
    (rowOf lib w env.now).checks = true ∧ left.rows = inbox.rows ++ [rowOf lib w env.now] := by
  unfold Inbox.record at h
  split at h
  · cases h
  split at h
  · cases h
  · cases h
  split at h
  · cases h
  split at h
  · cases h
  dsimp only at h
  split at h
  · cases h
  rename_i accepted
  rw [not_or, not_not] at accepted
  split at h
  · cases h
    exact ⟨accepted.1, rfl⟩
  · cases h
  · cases h

theorem Ingester.ingest_stored {i : Ingester} {lib : Library} {env : IngestEnv} {req : InboundRequest}
    {inbox left : Inbox} {accepted : Accepted}
    (h : i.ingest lib env req inbox = (left, .ok accepted)) (stored : accepted.duplicate = false) :
    ∃ event, i.verified env req = .ok event ∧ accepted.webhookID = env.webhookID ∧
      (rowOf lib (newWebhook env req event) env.record.now).checks = true ∧
      left.rows = inbox.rows ++ [rowOf lib (newWebhook env req event) env.record.now] := by
  unfold Ingester.ingest at h
  cases verified : i.verified env req with
  | error => simp [verified] at h
  | ok event =>
    rw [verified] at h
    dsimp only at h
    rcases recorded : inbox.record lib env.record (newWebhook env req event) with ⟨next, err | new⟩
    · rw [recorded] at h
      cases h
    · rw [recorded] at h
      cases h
      have fresh : new = true := by simpa using stored
      subst fresh
      obtain ⟨checks, rows⟩ := Inbox.record_stored recorded
      exact ⟨event, rfl, rfl, checks, rows⟩

end PaymentsPlatform.Webhook
