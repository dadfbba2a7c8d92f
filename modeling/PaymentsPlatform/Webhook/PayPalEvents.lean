/- layer: model of adapters/gateway/paypal (webhook.go, webhookKind and mapDecline of mapping.go,
     parseAmount of model.go, the identifiers in the requests of gateway.go); results
   digest: Whether an event about an operation finds its payment. -/

import PaymentsPlatform.Webhook.Transitions

namespace PaymentsPlatform.Gateways.PayPal

open Gateways.Spi (Status)
open Payments (DeclineReason)
open Pkg (Currency Money)

def refOrder : String := "ord"

def refAuthorization : String := "auth"

def refCapture : String := "cap"

def refRefund : String := "ref"

def withKind (kind id : String) : String := if id = "" then "" else kind ++ ":" ++ id

def splitRef (ref : String) : String × String :=
  match cut ':' ref.toList with
  | none => (refOrder, ref)
  | some (kind, rest) =>
    if String.ofList kind ∈ [refOrder, refAuthorization, refCapture, refRefund] then
      (String.ofList kind, String.ofList rest)
    else (refOrder, ref)

/-- The identifiers of the platform that a request carries. -/
structure Identifiers where
  referenceID : Option String
  customID : Option String
  invoiceID : Option String

def requireKey (key : String) : Except GoError Unit :=
  if key = "" then
    .error (new .idempotencyKeyRequired
      "paypal: every mutating gateway call requires an idempotency key")
  else .ok ()

/-- The purchase unit of `Authorize`'s order. -/
def authorizeIdentifiers (req : AuthorizeRequest) : Except GoError Identifiers := do
  requireKey req.idempotencyKey
  if ¬ req.amount.isValid then
    .error (new .amountInvalid "paypal: the amount carries an unsupported currency")
  else
    pure { referenceID := some req.paymentID, customID := some req.attemptID,
           invoiceID := some req.idempotencyKey }

/-- `Capture`: of an authorization with an invoice, of an order with an empty body. -/
def captureIdentifiers (req : CaptureRequest) : Except GoError Identifiers := do
  requireKey req.idempotencyKey
  if req.gatewayRef = "" then
    .error (new .validationFailed "paypal: a capture requires the reference from the authorization")
  else if (splitRef req.gatewayRef).1 = refAuthorization then
    pure { referenceID := none, customID := none, invoiceID := some req.idempotencyKey }
  else pure { referenceID := none, customID := none, invoiceID := none }

def refundIdentifiers (req : RefundRequest) : Except GoError Identifiers := do
  requireKey req.idempotencyKey
  if req.gatewayRef = "" then
    .error (new .validationFailed "paypal: a refund requires the capture reference")
  else
    pure { referenceID := none, customID := some req.refundID, invoiceID := some req.idempotencyKey }

structure AmountValue where
  currencyCode : String
  value : String

structure ProcessorResponse where
  responseCode : String
  paymentAdviceCode : String

/-- The envelope of a delivery, with its resource as it was sent. -/
structure Event where
  id : String
  createTime : String
  resourceType : String
  eventType : String
  resource : Bytes

structure Resource where
  id : String
  amount : Option AmountValue
  customID : String
  invoiceID : String
  processorResponse : Option ProcessorResponse

/-- What `encoding/json` makes of a delivery. -/
structure WebhookDecoder where
  valid : Bytes → Bool
  event : Bytes → Except String Event
  resource : Bytes → Except String Resource

def errUnparseable : String := "paypal: the gateway response could not be parsed"

def unparseable (err : String) : GoError :=
  wrap (.wrapBoth (errUnparseable ++ "\n" ++ err) (.sentinel errUnparseable) (.text err))
    .gatewayContractViolation "paypal: the response body could not be parsed"

def webhookKind (eventType : String) : WebhookKind :=
  match eventType with
  | "PAYMENT.AUTHORIZATION.CREATED" => .authorizationSucceeded
  | "PAYMENT.AUTHORIZATION.VOIDED" => .voidSucceeded
  | "PAYMENT.CAPTURE.COMPLETED" => .captureSucceeded
  | "PAYMENT.CAPTURE.DENIED" | "PAYMENT.CAPTURE.DECLINED" => .captureFailed
  | "PAYMENT.CAPTURE.REFUNDED" | "PAYMENT.CAPTURE.REVERSED" => .refundSucceeded
  | "CHECKOUT.ORDER.APPROVED" | "CHECKOUT.ORDER.COMPLETED" => .authorizationSucceeded
  | "CUSTOMER.DISPUTE.CREATED" => .disputeOpened
  | "CUSTOMER.DISPUTE.RESOLVED" => .disputeClosed
  | "PAYMENT.PAYOUTSBATCH.SUCCESS" => .payoutSettled
  | "MERCHANT.ONBOARDING.COMPLETED" | "MERCHANT.PARTNER-CONSENT.REVOKED" => .accountUpdated
  | _ => .ignored

def declineTable : List (String × DeclineReason) :=
  [("0500", .doNotHonorSoft), ("0530", .doNotHonorSoft), ("0540", .doNotHonorSoft),
    ("0910", .issuerUnavailable), ("0911", .issuerUnavailable), ("0912", .issuerUnavailable),
    ("1000", .processingError), ("7100", .processingError), ("00N7", .incorrectCVC),
    ("1380", .incorrectCVC), ("5110", .incorrectCVC), ("5130", .incorrectCVC),
    ("5650", .authRequired), ("5120", .insufficientFunds), ("5210", .insufficientFunds),
    ("5180", .incorrectNumber), ("5400", .cardExpired), ("5140", .restrictedCard),
    ("5150", .restrictedCard), ("5160", .restrictedCard), ("5700", .restrictedCard),
    ("5900", .restrictedCard), ("5930", .restrictedCard), ("5950", .restrictedCard),
    ("0100", .restrictedCard), ("1330", .invalidAccount), ("5170", .invalidAccount),
    ("6300", .invalidAccount), ("5190", .fraudulent), ("9500", .fraudulent), ("9520", .lostCard),
    ("9540", .fraudulent), ("9600", .fraudulent), ("5200", .blockedByRisk), ("9510", .blockedByRisk)]

def noRetryResponseCodes : List String := ["5190", "9500", "9510", "9520", "9540", "9600", "5200"]

/-- The fallback for a wallet-funded decline, which carries no processor code. -/
def declineFromIssues : List String → DeclineReason
  | [] => .unknown
  | issue :: rest =>
    match issue with
    | "PAYER_ACCOUNT_RESTRICTED" | "PAYEE_ACCOUNT_RESTRICTED" | "PAYER_ACCOUNT_LOCKED_OR_CLOSED" =>
      .restrictedCard
    | "PAYER_CANNOT_PAY" | "TRANSACTION_REFUSED" => .unknown
    | "CARD_EXPIRED" => .cardExpired
    | "CURRENCY_NOT_SUPPORTED" | "CURRENCY_NOT_SUPPORTED_FOR_CARD_TYPE" => .currencyNotSupp
    | "PAYMENT_DENIED" | "TRANSACTION_BLOCKED_BY_PAYEE" => .blockedByRisk
    | "AUTHENTICATION_FAILURE" | "PAYER_ACTION_REQUIRED" => .authRequired
    | _ => declineFromIssues rest

def mapDecline (pr : Option ProcessorResponse) (issues : List String) : DeclineReason × Bool :=
  match pr with
  | none => (declineFromIssues issues, false)
  | some pr =>
    ((declineTable.lookup pr.responseCode).getD (declineFromIssues issues),
      noRetryResponseCodes.contains pr.responseCode ||
        ["01", "02", "03", "21"].contains pr.paymentAdviceCode)

/-- `money.ParseCurrency`, on ASCII. -/
def parseCurrency (s : String) : Option Currency :=
  let c := String.ofList ((trimSpace s).toList.map Char.toUpper)
  if Currency.isSupported c then some c else none

def stripSign (sign : Char) (s : List Char) : List Char :=
  match s with
  | [] => []
  | c :: rest => if c = sign then rest else c :: rest

/-- `money.ParseMinorUnits`. -/
def parseMinorUnits (s : String) (c : Currency) : Option Int64 := do
  let exp := Currency.exponent c
  let trimmed := (trimSpace s).toList
  let negative := trimmed.head? = some '-'
  let digits := stripSign '+' (stripSign '-' trimmed)
  let (intPart, fracPart) := (cut '.' digits).getD (digits, [])
  if exp < fracPart.length then none
  else
    let whole ← parseInt64 (if intPart = [] then ['0'] else intPart)
    let frac ← if 0 < exp then parseInt64 (fracPart ++ List.replicate (exp - fracPart.length) '0')
      else some 0
    let mult : Int64 := 10 ^ exp
    if (Int64.maxValue - frac) / mult < whole then none
    else
      let total := whole * mult + frac
      pure (if negative then -total else total)

def parseAmount (a : AmountValue) : Option Money := do
  let c ← parseCurrency a.currencyCode
  let minor ← parseMinorUnits a.value c
  if minor = Int64.minValue then none else (Money.new minor c).toOption

def referenceKindFor (resourceType : String) : String :=
  match resourceType with
  | "capture" => refCapture
  | "authorization" => refAuthorization
  | "refund" => refRefund
  | _ => refOrder

def statusOf : WebhookKind → Status
  | .authorizationSucceeded => .authorized
  | .captureSucceeded => .captured
  | .refundSucceeded => .refundAccepted
  | .voidSucceeded => .voided
  | .captureFailed => .declined
  | _ => .other ""

def bareNotification (lib : Library) (ev : Event) (occurred : Time) (raw : Bytes) : Notification where
  gatewayEventID := ev.id
  kind := webhookKind ev.eventType
  gatewayRef := ""
  paymentID := ""
  refundID := ""
  status := .other ""
  amount := none
  declineReason := .unset
  occurredAt := (lib.parseRFC3339 ev.createTime).getD occurred
  eventType := ev.eventType
  idempotencyKey := ""
  raw := raw

def describe (ev : Event) (res : Resource) (out : Notification) : Notification :=
  { out with
    gatewayRef := withKind (referenceKindFor ev.resourceType) res.id
    idempotencyKey := res.invoiceID
    refundID := if ev.resourceType = "refund" then res.customID else ""
    amount := res.amount.bind parseAmount
    status := statusOf out.kind
    declineReason :=
      if out.kind = .captureFailed then (mapDecline res.processorResponse []).1 else out.declineReason }

/-- The zero `webhookResource`, which an absent resource leaves. -/
def emptyResource : Resource where
  id := ""
  amount := none
  customID := ""
  invoiceID := ""
  processorResponse := none

def parseEvent (lib : Library) (dec : WebhookDecoder) (raw : Bytes) (occurred : Time) :
    Except GoError Notification :=
  match dec.event raw with
  | .error err =>
    .error (wrap (unparseable err) .gatewayContractViolation
      "paypal: the webhook body is authenticated but is not a parseable event")
  | .ok ev =>
    if ev.id = "" then
      .error (new .gatewayContractViolation "paypal: the webhook body carries no event id")
    else if ev.resource = [] then
      .ok (describe ev emptyResource (bareNotification lib ev occurred raw))
    else
      match dec.resource ev.resource with
      -- the envelope is deliverable, and the deduplication needs it
      | .error _ => .ok (bareNotification lib ev occurred raw)
      | .ok res => .ok (describe ev res (bareNotification lib ev occurred raw))

structure VerifyRequest where
  authAlgo : String
  certURL : String
  transmissionID : String
  transmissionSig : String
  transmissionTime : String
  webhookID : String
  webhookEvent : Bytes

/-- The host is pinned after user information and everything behind it are cut off. -/
def isPayPalCertURL (raw : String) : Bool :=
  let scheme := "https://".toList
  if ¬ scheme.isPrefixOf raw.toList then false
  else
    let authority := (raw.toList.drop scheme.length).takeWhile fun c => c ∉ ['/', '?', '#']
    if '@' ∈ authority then false
    else
      let host := (authority.takeWhile (· ≠ ':')).map Char.toLower
      host == "paypal.com".toList || ".paypal.com".toList.isSuffixOf host

/-- Each configured webhook is asked about in turn; a failed call is remembered. -/
def askAll (ask : VerifyRequest → Except GoError Bool) (request : String → VerifyRequest) :
    List String → Option GoError → Except GoError Unit
  | [], some err => .error err
  | [], none =>
    .error (new .webhookSignatureInvalid
      "paypal: the delivery signature was not accepted for any configured webhook id")
  | webhookID :: rest, lastErr =>
    if trimSpace webhookID = "" then askAll ask request rest lastErr
    else
      match ask (request webhookID) with
      | .error err => askAll ask request rest (some err)
      | .ok true => .ok ()
      | .ok false => askAll ask request rest lastErr

/-- `Verify`; `ask` is the verification call to PayPal. -/
def verify (lib : Library) (dec : WebhookDecoder) (ask : VerifyRequest → Except GoError Bool)
    (tolerance : Int) (raw : Bytes) (headers : List (String × String)) (secrets : List String)
    (now : Time) : Except GoError Notification :=
  let transmissionID := headerValue headers "PayPal-Transmission-Id"
  let transmissionSig := headerValue headers "PayPal-Transmission-Sig"
  let transmissionTime := headerValue headers "PayPal-Transmission-Time"
  let certURL := headerValue headers "PayPal-Cert-Url"
  let authAlgo := headerValue headers "PayPal-Auth-Algo"
  if secrets = [] then
    .error (new .gatewayNotConfigured "paypal: no webhook id is configured for this gateway")
  else if transmissionID = "" ∨ transmissionSig = "" ∨ transmissionTime = "" then
    .error (new .webhookSignatureInvalid
      "paypal: the delivery is missing its PayPal-Transmission-* headers")
  else if certURL ≠ "" ∧ ¬ isPayPalCertURL certURL then
    .error (new .webhookSignatureInvalid "paypal: the certificate URL is not on a PayPal host")
  else
    match lib.parseRFC3339 transmissionTime with
    | none =>
      .error (new .webhookSignatureInvalid
        "paypal: the PayPal-Transmission-Time header is not a valid RFC 3339 timestamp")
    | some occurred =>
      if tolerance < ageOf now occurred then
        .error (new .webhookReplayDetected
          ("paypal: the delivery is " ++
            lib.durationString (ageOf now occurred / 1000000000 * 1000000000) ++ " outside the " ++
            lib.durationString tolerance ++ " tolerance"))
      else if ¬ dec.valid raw then
        .error (new .malformedRequest
          ("paypal: the delivery body is not well-formed JSON and cannot be submitted for " ++
            "verification"))
      else do
        askAll ask
          (fun webhookID =>
            { authAlgo := if authAlgo = "" then "SHA256withRSA" else authAlgo
              certURL := certURL, transmissionID := transmissionID
              transmissionSig := transmissionSig, transmissionTime := transmissionTime
              webhookID := webhookID, webhookEvent := raw })
          secrets none
        parseEvent lib dec raw occurred

variable {lib : Library} {dec : WebhookDecoder} {raw : Bytes} {n : Notification}

theorem parseEvent_of_verify {ask : VerifyRequest → Except GoError Bool} {tolerance : Int}
    {headers : List (String × String)} {secrets : List String} {now : Time}
    (h : verify lib dec ask tolerance raw headers secrets now = .ok n) :
    ∃ occurred, parseEvent lib dec raw occurred = .ok n := by
  unfold verify at h
  obtain ⟨-, h⟩ := guard_ok h
  obtain ⟨-, h⟩ := guard_ok h
  obtain ⟨-, h⟩ := guard_ok h
  split at h
  · cases h
  rename_i occurred dated
  obtain ⟨-, h⟩ := guard_ok h
  obtain ⟨-, h⟩ := guard_ok h
  obtain ⟨-, -, parsed⟩ := call_ok h
  exact ⟨occurred, parsed⟩

theorem paymentID_of_parseEvent {occurred : Time}
    (h : parseEvent lib dec raw occurred = .ok n) : n.paymentID = "" := by
  unfold parseEvent at h
  split at h
  · cases h
  obtain ⟨-, h⟩ := guard_ok h
  split at h
  · cases h
    rfl
  split at h
  · cases h
    rfl
  · cases h
    rfl

theorem parseEvent_ok {occurred : Time}
    {ev : Event} {res : Resource} (envelope : dec.event raw = .ok ev)
    (carried : ev.resource ≠ []) (resource : dec.resource ev.resource = .ok res)
    (h : parseEvent lib dec raw occurred = .ok n) :
    n = describe ev res (bareNotification lib ev occurred raw) := by
  unfold parseEvent at h
  rw [envelope] at h
  obtain ⟨-, rest⟩ := guard_ok h
  rw [if_neg carried, resource] at rest
  cases rest
  rfl

end PaymentsPlatform.Gateways.PayPal

namespace PaymentsPlatform.Webhook

open Gateways
open Gateways.PayPal
  (Identifiers Resource VerifyRequest authorizeIdentifiers captureIdentifiers refundIdentifiers)

/-- An operation on a payment through the PayPal adapter. -/
inductive PayPalOperation where
  | authorize (req : AuthorizeRequest)
  | capture (req : CaptureRequest)
  | refund (req : RefundRequest)

namespace PayPalOperation

def paymentID : PayPalOperation → PaymentID
  | .authorize req => req.paymentID
  | .capture req => req.paymentID
  | .refund req => req.paymentID

/-- What the request of the operation carries, if it is sent. -/
def identifiers : PayPalOperation → Except GoError Identifiers
  | .authorize req => authorizeIdentifiers req
  | .capture req => captureIdentifiers req
  | .refund req => refundIdentifiers req

end PayPalOperation

structure CarriesIdentifiers (ids : Identifiers) (res : Resource) : Prop where
  custom : ∀ c, ids.customID = some c → res.customID = c
  invoice : ∀ c, ids.invoiceID = some c → res.invoiceID = c

/-- The processor looks the event up as one about the payment, and for a refund about the refund. -/
structure ResolvesTo (e : WebhookEvent) (op : PayPalOperation) : Prop where
  heeded : e.kind ≠ .ignored
  named : e.paymentID ≠ ""
  payment : e.paymentID = op.paymentID
  refund : ∀ req, op = .refund req → e.refundID = req.refundID

theorem apply_unnamed {p : Processor} {env : ProcessEnv} {w : InboundWebhook} {e : WebhookEvent}
    {s : Store} {left : Store × Bool × String} (unnamed : e.paymentID = "")
    (h : p.apply env w e s = .ok left) :
    left.1.payments = s.payments ∧ left.2.2 ∈ ["IGNORED", "PARKED"] := by
  by_cases ignored : e.kind = .ignored
  · rw [Processor.apply, if_pos ignored] at h
    cases h
    exact ⟨rfl, by simp⟩
  · rw [Processor.apply, if_neg ignored, if_pos unnamed] at h
    obtain ⟨opened, rfl⟩ := park_ok h
    exact ⟨rfl, by simp⟩

theorem refundIdentifiers_ok {req : RefundRequest} {ids : Identifiers}
    (h : refundIdentifiers req = .ok ids) : ids.customID = some req.refundID := by
  obtain ⟨-, -, rest⟩ := call_ok h
  obtain ⟨-, sent⟩ := guard_ok rest
  cases sent
  rfl

/-- No authentic event about an operation is resolved to the operation's payment, although it
carries the identifiers that were sent: it is ignored or parked, and every payment is left as it is.
-/
theorem paypal_never_resolves {lib : Library} {dec : PayPal.WebhookDecoder}
    {ask : VerifyRequest → Except GoError Bool} {tolerance : Int} {raw : Bytes}
    {headers : List (String × String)} {secrets : List String} {now : Time} {n : Notification}
    {op : PayPalOperation} {ids : Identifiers} {ev : PayPal.Event} {res : Resource}
    (sent : op.identifiers = .ok ids) (envelope : dec.event raw = .ok ev)
    (carried : ev.resource ≠ []) (resource : dec.resource ev.resource = .ok res)
    (identified : CarriesIdentifiers ids res)
    (authentic : PayPal.verify lib dec ask tolerance raw headers secrets now = .ok n) :
    ¬ ResolvesTo n.toWebhookEvent op ∧
      (∀ req, op = .refund req → ev.resourceType = "refund" → n.refundID = req.refundID) ∧
      ∀ (p : Processor) (env : ProcessEnv) (w : InboundWebhook) (s : Store)
        (left : Store × Bool × String), p.apply env w n.toWebhookEvent s = .ok left →
        left.1.payments = s.payments ∧ left.2.2 ∈ ["IGNORED", "PARKED"] := by
  obtain ⟨occurred, parsed⟩ := PayPal.parseEvent_of_verify authentic
  have unnamed : n.paymentID = "" := PayPal.paymentID_of_parseEvent parsed
  refine ⟨fun resolves => resolves.named unnamed, ?_,
    fun p env w s left applied => apply_unnamed unnamed applied⟩
  rintro req rfl type
  rw [PayPal.parseEvent_ok envelope carried resource parsed]
  simp only [PayPal.describe, type, if_true]
  exact identified.custom _ (refundIdentifiers_ok sent)

def sampleRefund : RefundRequest where
  idempotencyKey := "gk_2"
  externalAccountID := "acct_1"
  paymentID := "pay_1"
  refundID := "re_1"
  gatewayRef := "cap:3C1"
  amount := ⟨400, "USD"⟩
  reason := .requestedByCustomer
  metadata := []

def refundedEvent : PayPal.Event where
  id := "WH-1"
  createTime := "2026-01-01T00:00:00Z"
  resourceType := "refund"
  eventType := "PAYMENT.CAPTURE.REFUNDED"
  resource := [123, 125]

def refundedResource : Resource where
  id := "1JU"
  amount := some ⟨"USD", "4.00"⟩
  customID := "re_1"
  invoiceID := "gk_2"
  processorResponse := none

def payPalDecoder : PayPal.WebhookDecoder where
  valid := fun _ => true
  event := fun _ => .ok refundedEvent
  resource := fun _ => .ok refundedResource

def payPalHeaders : List (String × String) :=
  [("PayPal-Transmission-Id", "t1"), ("PayPal-Transmission-Sig", "sig"),
    ("PayPal-Transmission-Time", "2026-01-01T00:00:00Z")]

/-- The event that the adapter makes of the delivery. -/
def refundedNotification : Notification :=
  PayPal.describe refundedEvent refundedResource
    (PayPal.bareNotification sampleLibrary refundedEvent 0 [123, 125])

theorem verify_refundedNotification :
    PayPal.verify sampleLibrary payPalDecoder (fun _ => .ok true) 0 [123, 125]
      payPalHeaders ["WH"] 0 = .ok refundedNotification := by
  decide +kernel

/-- PayPal reports the refund with the identifiers that were sent with it, and the event is parked
as having no payment reference. -/
theorem not_resolvesTo_sampleRefund :
    (∃ ids, PayPalOperation.identifiers (.refund sampleRefund) = .ok ids ∧
      CarriesIdentifiers ids refundedResource) ∧
    PayPal.verify sampleLibrary payPalDecoder (fun _ => .ok true) 0 [123, 125]
      payPalHeaders ["WH"] 0 = .ok refundedNotification ∧
    ¬ ResolvesTo refundedNotification.toWebhookEvent (.refund sampleRefund) ∧
    ((reading refundedNotification.toWebhookEvent).process
      (undisturbed fun _ => Ledger.sampleDraws) "whk_1"
      (holding "pay_1" (Storage.Row.of (Payments.sampleRun
        (Payments.captureCalls ++ Payments.refundCalls))) (received "paypal"))).2.toOption.map
        Result.outcome = some "PARKED" := by
  refine ⟨⟨_, rfl, ⟨by simp [refundedResource, sampleRefund], by simp [refundedResource, sampleRefund]⟩⟩,
    verify_refundedNotification, fun resolves => resolves.named rfl, by decide +kernel⟩

/-- The refund's identifier comes back, the payment's does not. -/
theorem sampleRefund_never_resolves :
    ¬ ResolvesTo refundedNotification.toWebhookEvent (.refund sampleRefund) ∧
      refundedNotification.refundID = "re_1" := by
  have sent : PayPalOperation.identifiers (.refund sampleRefund) =
      .ok ⟨none, some "re_1", some "gk_2"⟩ := rfl
  have envelope : payPalDecoder.event [123, 125] = .ok refundedEvent := rfl
  have resource : payPalDecoder.resource refundedEvent.resource = .ok refundedResource := rfl
  have identified : CarriesIdentifiers ⟨none, some "re_1", some "gk_2"⟩ refundedResource :=
    ⟨by simp [refundedResource], by simp [refundedResource]⟩
  have unresolved := paypal_never_resolves sent envelope (by decide) resource identified
    verify_refundedNotification
  exact ⟨unresolved.1, unresolved.2.1 sampleRefund rfl rfl⟩

end PaymentsPlatform.Webhook
