/- layer: model of adapters/gateway: httpx/httpx.go, and stripe (gateway.go, mapping.go, model.go,
     webhook.go)
   digest: One HTTP exchange, the four money-moving calls, and what is made of a delivery. -/

import PaymentsPlatform.Gateways.Spi

namespace PaymentsPlatform.Gateways.Httpx

/-- What `ctx.Err()` answers once a context is done. -/
inductive ContextError where
  | canceled | deadline
  deriving DecidableEq

def ContextError.err : ContextError → GoError
  | .canceled => .sentinel "context canceled"
  | .deadline => .sentinel deadlineExceeded

/-- How far a failed round trip got. -/
inductive Reach where
  | nameResolution | refused | tlsHandshake
  /-- Connected, and nothing of the request was written. -/
  | unsent
  | written
  deriving DecidableEq

/-- An error of `http.Client.Do`, with what the classification below asks of it. -/
structure TransportError where
  message : String
  /-- The context error of its chain. -/
  cause : Option ContextError
  /-- A `net.Error` of its chain answers `Timeout`. -/
  timeout : Bool
  reach : Reach

def TransportError.err (e : TransportError) : GoError :=
  match e.cause with
  | none => .text e.message
  | some cause => .wrap e.message cause.err

/-- A response body as it comes in: the bytes, and the error after them if the stream breaks. -/
structure Stream where
  arrived : ByteArray
  readErr : Option TransportError

/-- How an exchange ends after the checks of `Do`. -/
inductive Exchange where
  | unbuildable (message : String)
  | failed (e : TransportError)
  | answered (status : Int) (body : Stream)

structure HTTPResponse where
  statusCode : Int
  body : ByteArray
  /-- The request did not complete. -/
  timeout : Bool

/-- `strings.Contains`. -/
def contains (s sub : String) : Bool := decide (sub.toList <:+: s.toList)

def isTimeout (e : TransportError) : Bool :=
  e.err.isSentinel deadlineExceeded || e.timeout ||
    contains e.err.error "Client.Timeout exceeded"

def classifyContext (err : ContextError) : GoError :=
  if err.err.isSentinel deadlineExceeded then
    wrap err.err .gatewayTimeout "httpx: the deadline expired before the request was sent"
  else wrap err.err .serviceUnavailable "httpx: the request was cancelled before it was sent"

structure Client where
  maxRequestBytes : Nat
  maxResponseBytes : Nat

/-- The caps of `New`, which replaces what is not positive by its defaults. -/
def newClient (maxRequestBytes maxResponseBytes : Int) : Client where
  maxRequestBytes := if maxRequestBytes ≤ 0 then 2 ^ 20 else maxRequestBytes.toNat
  maxResponseBytes := if maxResponseBytes ≤ 0 then 8 * 2 ^ 20 else maxResponseBytes.toNat

/-- Why `Do` sends nothing: the context is done, or the body is over its cap. -/
def Client.refusal (c : Client) (ctxErr : Option ContextError) (body : ByteArray) :
    Option GoError :=
  match ctxErr with
  | some err => some (classifyContext err)
  | none =>
    if c.maxRequestBytes < body.size then
      some (new .requestTooLarge ("httpx: request body of " ++ toString body.size ++
        " bytes exceeds the " ++ toString c.maxRequestBytes ++ " byte cap for this gateway"))
    else none

/-- The rest of `Do`.  The reader stops one byte over the cap, so a stream that breaks later counts
as too large. -/
def Client.outcome (c : Client) : Exchange → Except GoError HTTPResponse
  | .unbuildable message =>
    .error (wrap (.text message) .internalError "httpx: request could not be constructed")
  | .failed e =>
    if isTimeout e then .ok { statusCode := 0, body := ByteArray.empty, timeout := true }
    else .error (wrap e.err .gatewayUnavailable "httpx: the gateway could not be reached")
  | .answered status stream =>
    if c.maxResponseBytes < stream.arrived.size then
      .error (new .gatewayContractViolation ("httpx: response body exceeds the " ++
        toString c.maxResponseBytes ++ " byte cap for this gateway"))
    else
      match stream.readErr with
      | some _ => .ok { statusCode := status, body := ByteArray.empty, timeout := true }
      | none => .ok { statusCode := status, body := stream.arrived, timeout := false }

/-- `Do`. -/
def Client.roundTrip (c : Client) (ctxErr : Option ContextError) (body : ByteArray)
    (ex : Exchange) : Except GoError HTTPResponse :=
  match c.refusal ctxErr body with
  | some err => .error err
  | none => c.outcome ex

end PaymentsPlatform.Gateways.Httpx

namespace PaymentsPlatform.Gateways.Stripe

open Pkg (Money Currency)
open Gateways.Httpx (Client ContextError Exchange HTTPResponse)
open Gateways.Spi (NextAction Result Status)
open Payments (DeclineReason)

/-! The wire objects, as far as the adapter reads them. -/

/-- The intent an error object was raised against. -/
structure IntentRef where
  id : String
  status : String

structure StripeError where
  type : String
  code : String
  message : String
  declineCode : String
  networkAdviceCode : String
  networkDeclineCode : String
  charge : String
  paymentIntent : Option IntentRef

structure ChargeOutcome where
  networkAdviceCode : String
  networkDeclineCode : String

structure StripeNextAction where
  type : String
  redirectURL : Option String

structure PaymentIntent where
  id : String
  amount : Int64
  currency : String
  status : String
  amountReceived : Int64
  amountCapturable : Int64
  /-- The outcome of the primary charge. -/
  outcome : Option ChargeOutcome
  nextAction : Option StripeNextAction
  lastPaymentError : Option StripeError

structure Refund where
  id : String
  amount : Int64
  currency : String
  status : String
  failureReason : String

/-- What `encoding/json` makes of a body.  An error envelope can be filled in part before decoding
fails. -/
structure Decoder where
  intent : ByteArray → Except String PaymentIntent
  refund : ByteArray → Except String Refund
  envelope : ByteArray → Option StripeError × Option String

def errUnparseable : String := "stripe: the gateway response could not be parsed"

def unparseable (err : String) : GoError :=
  wrap (.wrapBoth (errUnparseable ++ "\n" ++ err) (.sentinel errUnparseable) (.text err))
    .gatewayContractViolation "stripe: the response body could not be parsed"

/-- `strings.ToUpper(strings.TrimSpace(s))`, on ASCII. -/
def normalizeCurrency (s : String) : Currency :=
  String.ofList ((trimSpace s).toList.map Char.toUpper)

def mapIntentStatus (pi : PaymentIntent) : Except GoError Status :=
  match pi.status with
  | "requires_payment_method" =>
    .ok (if pi.lastPaymentError.isSome then .declined else .failed)
  | "requires_confirmation" => .ok .pending
  | "requires_action" => .ok .requiresAction
  | "processing" => .ok .pending
  | "requires_capture" => .ok .authorized
  | "succeeded" => .ok .captured
  | "canceled" => .ok .voided
  | raw => .error (new .gatewayContractViolation
      ("stripe: unrecognised payment_intent status " ++ quoted raw))

def mapRefundStatus (r : Refund) : Except GoError Status :=
  match r.status with
  | "pending" | "requires_action" | "succeeded" => .ok .refundAccepted
  | "failed" | "canceled" => .ok .failed
  | raw => .error (new .gatewayContractViolation
      ("stripe: unrecognised refund status " ++ quoted raw))

def declineTable : List (String × DeclineReason) :=
  [("do_not_honor", .doNotHonorSoft), ("processing_error", .processingError),
    ("issuer_not_available", .issuerUnavailable), ("try_again_later", .tryAgainLater),
    ("reenter_transaction", .processingError), ("approve_with_id", .processingError),
    ("insufficient_funds", .insufficientFunds),
    ("withdrawal_count_limit_exceeded", .insufficientFunds),
    ("expired_card", .cardExpired), ("incorrect_number", .incorrectNumber),
    ("invalid_number", .incorrectNumber), ("incorrect_cvc", .incorrectCVC),
    ("invalid_cvc", .incorrectCVC), ("invalid_expiry_month", .cardExpired),
    ("invalid_expiry_year", .cardExpired), ("incorrect_pin", .incorrectCVC),
    ("invalid_pin", .incorrectCVC), ("pin_try_exceeded", .restrictedCard),
    ("offline_pin_required", .restrictedCard), ("online_or_offline_pin_required", .restrictedCard),
    ("lost_card", .lostCard), ("stolen_card", .stolenCard), ("pickup_card", .stolenCard),
    ("fraudulent", .fraudulent), ("card_not_supported", .restrictedCard),
    ("restricted_card", .restrictedCard), ("not_permitted", .restrictedCard),
    ("service_not_allowed", .restrictedCard), ("transaction_not_allowed", .restrictedCard),
    ("stop_payment_order", .restrictedCard), ("revocation_of_authorization", .restrictedCard),
    ("revocation_of_all_authorizations", .restrictedCard), ("security_violation", .restrictedCard),
    ("card_velocity_exceeded", .restrictedCard), ("invalid_account", .invalidAccount),
    ("new_account_information_available", .invalidAccount), ("no_action_taken", .invalidAccount),
    ("incorrect_zip", .invalidAccount), ("account_closed", .invalidAccount),
    ("currency_not_supported", .currencyNotSupp), ("authentication_required", .authRequired),
    ("merchant_blacklist", .blockedByRisk), ("highest_risk_level", .blockedByRisk)]

def noRetryDeclineCodes : List String :=
  ["lost_card", "stolen_card", "pickup_card", "fraudulent", "merchant_blacklist",
    "revocation_of_all_authorizations", "stop_payment_order"]

/-- The scheme's own retry guidance: the error object's, or the charge outcome's when the
error object carries no advice code. -/
def networkAdviceNoRetry (e : Option StripeError) (out : Option ChargeOutcome) : Bool :=
  let ofError := match e with
    | some e => (e.networkAdviceCode, e.networkDeclineCode)
    | none => ("", "")
  let codes := match out with
    | some out => if ofError.1 = "" then (out.networkAdviceCode, out.networkDeclineCode) else ofError
    | none => ofError
  ["01", "02", "03", "21"].contains codes.1 ||
    ["04", "07", "41", "43", "57", "62"].contains codes.2 ||
    e.any (fun e => noRetryDeclineCodes.contains e.declineCode)

def mapDecline (e : Option StripeError) (out : Option ChargeOutcome) : DeclineReason × Bool :=
  match e with
  | none => (.unknown, false)
  | some err =>
    (((declineTable.lookup err.declineCode).or (declineTable.lookup err.code)).getD .unknown,
      networkAdviceNoRetry e out)

def mapNextAction : Option StripeNextAction → Option NextAction
  | none => none
  | some na =>
    match na.type with
    | "redirect_to_url" =>
      if na.redirectURL.getD "" = "" then none
      else some ⟨.redirect, na.redirectURL.getD "", "", none⟩
    | "use_stripe_sdk" => some ⟨.threeDSChallenge, "", "", none⟩
    | "display_bank_transfer_instructions" => some ⟨.awaitTransfer, "", "", none⟩
    | _ => some ⟨.redirect, "", "", none⟩

def safeCode : Option StripeError → String
  | none => "unknown"
  | some e => orDefault e.declineCode (orDefault e.code (orDefault e.type "unknown"))

/-- `http.StatusUnauthorized` or `http.StatusForbidden`. -/
def isAuthStatus (status : Int) : Bool := status == 401 || status == 403

def credentialsInvalid (message : String) : GoError :=
  wrap (.sentinel errCredentialsInvalid) .gatewayAuthenticationFailed message

def mapErrorType (status : Int) (e : StripeError) : GoError :=
  match e.type with
  | "authentication_error" => credentialsInvalid "stripe: the API key was rejected"
  | "idempotency_error" =>
    new .idempotencyKeyReused
      "stripe: this idempotency key was already used with different parameters"
  | "rate_limit_error" => new .rateLimited "stripe: rate limit exceeded"
  | "invalid_request_error" =>
    if status = 404 then new .paymentNotFound "stripe: no such resource"
    else if isAuthStatus status then
      credentialsInvalid "stripe: the API key is not permitted to perform this operation"
    else new .gatewayContractViolation
      ("stripe: the request was rejected as invalid (" ++ safeCode (some e) ++ ")")
  | "api_error" => new .gatewayUnavailable "stripe: the gateway reported an internal error"
  | "card_error" =>
    new .gatewayDeclined ("stripe: the card was declined (" ++ safeCode (some e) ++ ")")
  | raw =>
    if isAuthStatus status then credentialsInvalid "stripe: the API key was rejected"
    else new .gatewayContractViolation
      ("stripe: unrecognised error type " ++ quoted raw ++ " at HTTP " ++ toString status)

structure Gateway where
  client : Client
  decoder : Decoder

def fallbackRef (idemKey : String) : String := if idemKey = "" then "" else "idemkey:" ++ idemKey

def verifyEcho (requested : Money) (gotMinor : Int64) (gotCurrency object : String) :
    Except GoError Money :=
  let cur := normalizeCurrency gotCurrency
  if cur ≠ requested.currency then
    .error (newWithDetail .gatewayContractViolation
      ("stripe: the " ++ object ++ " echoed currency " ++ cur ++ " for a request in " ++
        requested.currency)
      { field := "currency", code := "CURRENCY_ECHO_MISMATCH",
        message := "the gateway acted in a different currency from the one requested",
        ruleID := "L6.GATEWAY_ECHOES_CURRENCY" })
  else if requested.amount < gotMinor then
    .error (newWithDetail .gatewayContractViolation
      ("stripe: the " ++ object ++ " echoed " ++ toString gotMinor.toInt ++
        " minor units for a request of " ++ toString requested.amount.toInt)
      { field := "amount", code := "AMOUNT_ECHO_EXCEEDS_REQUEST",
        message := "the gateway acted on a larger amount than was requested",
        ruleID := "L6.GATEWAY_ECHOES_AMOUNT" })
  else
    match Money.new gotMinor cur with
    | .ok m => .ok m
    | .error err => .error (wrap err .gatewayContractViolation
        "stripe: the response carries an amount this platform cannot represent")

variable (g : Gateway) (resp : HTTPResponse)

/-- A non-2xx as a platform error.  A body that does not decode falls back on the status. -/
def Gateway.checkStatus : Except GoError Unit :=
  if 200 ≤ resp.statusCode ∧ resp.statusCode < 300 then .ok ()
  else
    match (g.decoder.envelope resp.body).1 with
    | none =>
      if isAuthStatus resp.statusCode then
        .error (credentialsInvalid "stripe: the API key was rejected")
      else if resp.statusCode = 429 then
        .error (new .rateLimited "stripe: rate limit exceeded")
      else .error (new .gatewayContractViolation
        ("stripe: HTTP " ++ toString resp.statusCode ++ " with an unparseable body"))
    | some e => .error (mapErrorType resp.statusCode e)

def reportedAmount (minor : Int64) (currency : String) : Option Money :=
  (Money.new minor (normalizeCurrency currency)).toOption

def shortfallOf (requested : Money) (pi : PaymentIntent) : Except GoError (Option Money) :=
  if requested.isValid then do
    let echoed ← verifyEcho requested pi.amount pi.currency "payment_intent"
    pure (if echoed.amount ≠ requested.amount then some echoed else none)
  else pure none

def resultFromIntent (pi : PaymentIntent) (declineErr : Option StripeError) (requested : Money)
    (idemKey : String) : Except GoError Result := do
  let status ← mapIntentStatus pi
  let shortfall ← shortfallOf requested pi
  let captured := if pi.amountReceived > 0 then reportedAmount pi.amountReceived pi.currency else none
  let capturable :=
    if pi.amountCapturable > 0 then reportedAmount pi.amountCapturable pi.currency else none
  let declined := status == .declined
  let e := declineErr.or pi.lastPaymentError
  pure {
    status := status
    gatewayRef := orDefault pi.id (fallbackRef idemKey)
    authorizedAmount := shortfall.or capturable
    capturedAmount := captured
    declineReason := if declined then (mapDecline e pi.outcome).1 else .unset
    networkAdviceNoRetry := declined && (mapDecline e pi.outcome).2
    nextAction := if status = .requiresAction then mapNextAction pi.nextAction else none
    authExpiresAt := none
    rawStatus := pi.status
    rawCode := if declined then safeCode e else ""
    rawMessage := if declined then (e.map StripeError.message).getD "" else "" }

def declineResult (e : StripeError) (idemKey : String) : Result where
  status := .declined
  gatewayRef :=
    orDefault (orDefault ((e.paymentIntent.map IntentRef.id).getD "") e.charge) (fallbackRef idemKey)
  authorizedAmount := none
  capturedAmount := none
  declineReason := (mapDecline (some e) none).1
  networkAdviceNoRetry := (mapDecline (some e) none).2
  nextAction := none
  authExpiresAt := none
  rawStatus := (e.paymentIntent.map IntentRef.status).getD "requires_payment_method"
  rawCode := safeCode (some e)
  rawMessage := e.message

def Gateway.intentResult (requested : Money) (idemKey : String) : Except GoError Result :=
  if resp.statusCode = 402 then
    match g.decoder.envelope resp.body with
    | (_, some err) => .error (unparseable err)
    | (none, none) =>
      .error (new .gatewayContractViolation "stripe: HTTP 402 with no error object")
    | (some e, none) => .ok (declineResult e idemKey)
  else do
    g.checkStatus resp
    let pi ← (g.decoder.intent resp.body).mapError unparseable
    if pi.id = "" then
      .error (new .gatewayContractViolation "stripe: the response carries no payment_intent id")
    else resultFromIntent pi none requested idemKey

def resultFromRefund (r : Refund) (requested : Money) (idemKey : String) :
    Except GoError Result := do
  let status ← mapRefundStatus r
  if requested.isValid then
    let _ ← verifyEcho requested r.amount r.currency "refund"
  pure {
    status := status
    gatewayRef := orDefault r.id (fallbackRef idemKey)
    authorizedAmount := none
    capturedAmount := reportedAmount r.amount r.currency
    declineReason := .unset
    networkAdviceNoRetry := false
    nextAction := none
    authExpiresAt := none
    rawStatus := r.status
    rawCode := r.failureReason
    rawMessage := "" }

def Gateway.refundResult (requested : Money) (idemKey : String) : Except GoError Result := do
  g.checkStatus resp
  let r ← (g.decoder.refund resp.body).mapError unparseable
  if r.id = "" then
    .error (new .gatewayContractViolation "stripe: the refund response carries no refund id")
  else resultFromRefund r requested idemKey

/-- What one call meets: its credential, its context at the two places that ask, the encoded form,
and how the exchange ends. -/
structure CallEnv where
  secretKey : Option String
  ctxErr : Option ContextError
  sendCtxErr : Option ContextError
  body : ByteArray
  exchange : Exchange

def contextError (err : ContextError) : GoError :=
  if err.err.isSentinel deadlineExceeded then
    wrap err.err .gatewayTimeout "the deadline expired before the gateway call was made"
  else wrap err.err .serviceUnavailable "the gateway call was cancelled before it was made"

def credentialSecretKey : String := "secret_key"

def credential (value : Option String) (field : String) : Except GoError String :=
  if value.getD "" = "" then
    .error (wrap (.sentinel errCredentialsInvalid) .gatewayNotConfigured
      ("stripe: the credential field " ++ quoted field ++ " is missing"))
  else .ok (value.getD "")

def timeoutOutcome (op : Operation) (vendor : String) : GoError :=
  if op.isMoneyMoving then
    wrap (.sentinel errOutcomeUnknown) .gatewayTimeout
      (vendor ++ ": the request was written and the deadline expired; the outcome is unknown")
  else new .gatewayTimeout (vendor ++ ": the request timed out")

/-- The end of `do`: a response that did not complete, or a 5xx, may have been processed. -/
def classifyResponse (op : Operation) (resp : HTTPResponse) : Except GoError HTTPResponse :=
  if resp.timeout then .error (timeoutOutcome op "stripe")
  else if 500 ≤ resp.statusCode ∧ op.isMoneyMoving then
    .error (wrap (.sentinel errOutcomeUnknown) .gatewayTimeout
      ("stripe: the gateway returned " ++ toString resp.statusCode ++
        " and does not guarantee the request was not processed"))
  else .ok resp

/-- `do`.  The client always answers with a response or an error, so the arm for neither
has no case here. -/
def Gateway.send (op : Operation) (env : CallEnv) : Except GoError HTTPResponse :=
  match env.ctxErr with
  | some err => .error (contextError err)
  | none => do
      let _ ← credential env.secretKey credentialSecretKey
      let resp ← g.client.roundTrip env.sendCtxErr env.body env.exchange
      classifyResponse op resp

def escalateUnparseable (op : Operation) (err : GoError) : GoError :=
  if !op.isMoneyMoving || !err.isSentinel errUnparseable then err
  else wrap (.sentinel errOutcomeUnknown) .gatewayTimeout
    "stripe: the gateway responded but the body could not be parsed; the outcome is unknown"

def requireKey (k : String) : Except GoError Unit :=
  if k = "" then
    .error (new .idempotencyKeyRequired
      "stripe: every mutating gateway call requires an idempotency key")
  else .ok ()

def requireRef (ref message : String) : Except GoError Unit :=
  if ref = "" then .error (new .validationFailed message) else .ok ()

inductive MoneyCall where
  | authorize (req : AuthorizeRequest)
  | capture (req : CaptureRequest)
  | refund (req : RefundRequest)
  | void (req : VoidRequest)

namespace MoneyCall

def op : MoneyCall → Operation
  | .authorize _ => .authorize
  | .capture _ => .capture
  | .refund _ => .refund
  | .void _ => .void

theorem op_isMoneyMoving (call : MoneyCall) : call.op.isMoneyMoving = true := by
  cases call <;> rfl

def check : MoneyCall → Except GoError Unit
  | .authorize req => do
      requireKey req.idempotencyKey
      if !req.amount.isValid then
        .error (new .amountInvalid "stripe: the amount carries an unsupported currency")
      else .ok ()
  | .capture req => do
      requireKey req.idempotencyKey
      requireRef req.gatewayRef
        "stripe: a capture requires the PaymentIntent reference from the authorization"
  | .refund req => do
      requireKey req.idempotencyKey
      requireRef req.gatewayRef
        "stripe: a refund requires the PaymentIntent reference from the capture"
  | .void req => do
      requireKey req.idempotencyKey
      requireRef req.gatewayRef
        "stripe: a void requires the PaymentIntent reference from the authorization"

/-- How a call reads its response.  A void passes the zero Money, which switches the echo
check off. -/
def read (g : Gateway) (resp : HTTPResponse) : MoneyCall → Except GoError Result
  | .authorize req => g.intentResult resp req.amount req.idempotencyKey
  | .capture req => g.intentResult resp req.amount req.idempotencyKey
  | .refund req => g.refundResult resp req.amount req.idempotencyKey
  | .void req => g.intentResult resp (Money.zero "") req.idempotencyKey

end MoneyCall

def Gateway.perform (g : Gateway) (call : MoneyCall) (env : CallEnv) : Except GoError Result := do
  call.check
  let resp ← g.send call.op env
  (call.read g resp).mapError (escalateUnparseable call.op)

def Gateway.authorize (g : Gateway) (req : AuthorizeRequest) (env : CallEnv) :
    Except GoError Result := g.perform (.authorize req) env

def Gateway.capture (g : Gateway) (req : CaptureRequest) (env : CallEnv) :
    Except GoError Result := g.perform (.capture req) env

def Gateway.refund (g : Gateway) (req : RefundRequest) (env : CallEnv) :
    Except GoError Result := g.perform (.refund req) env

def Gateway.void (g : Gateway) (req : VoidRequest) (env : CallEnv) :
    Except GoError Result := g.perform (.void req) env

/-- The envelope of a delivery, with its data object as it was sent. -/
structure Event where
  id : String
  type : String
  created : Int64
  object : Bytes

structure EventObject where
  id : String
  object : String
  amount : Int64
  currency : String
  status : String
  metadata : List (String × String)
  paymentIntent : String
  lastPaymentError : Option StripeError

/-- What `encoding/json` makes of a delivery. -/
structure WebhookDecoder where
  event : Bytes → Except String Event
  object : Bytes → Except String EventObject

def webhookKind (eventType : String) : WebhookKind :=
  match eventType with
  | "payment_intent.succeeded" | "payment_intent.amount_capturable_updated" =>
    .authorizationSucceeded
  | "payment_intent.payment_failed" => .authorizationFailed
  | "charge.captured" | "charge.succeeded" => .captureSucceeded
  | "charge.failed" => .captureFailed
  | "charge.refunded" | "refund.created" | "charge.refund.updated" => .refundSucceeded
  | "refund.failed" => .refundFailed
  | "payment_intent.canceled" => .voidSucceeded
  | "payout.paid" => .payoutSettled
  | "charge.dispute.created" => .disputeOpened
  | "charge.dispute.closed" => .disputeClosed
  | "account.updated" | "account.application.deauthorized" => .accountUpdated
  | _ => .ignored

variable (obj : EventObject)

def EventObject.intent : PaymentIntent where
  id := ""
  amount := 0
  currency := ""
  status := obj.status
  amountReceived := 0
  amountCapturable := 0
  outcome := none
  nextAction := none
  lastPaymentError := obj.lastPaymentError

def EventObject.refund : Refund where
  id := ""
  amount := 0
  currency := ""
  status := obj.status
  failureReason := ""

/-- The status of the data object.  A dispute has none, and neither has a charge. -/
def EventObject.mappedStatus : Status :=
  match obj.object with
  | "payment_intent" => (mapIntentStatus obj.intent).toOption.getD (.other "")
  | "refund" => (mapRefundStatus obj.refund).toOption.getD (.other "")
  | _ => .other ""

def EventObject.gatewayRef : String :=
  if (obj.object = "charge" ∨ obj.object = "refund") ∧ obj.paymentIntent ≠ "" then obj.paymentIntent
  else obj.id

def EventObject.reported : Option Money :=
  if obj.currency ≠ "" ∧ obj.amount ≠ 0 then
    (Money.new obj.amount (normalizeCurrency obj.currency)).toOption
  else none

def bareNotification (ev : Event) (raw : Bytes) : Notification where
  gatewayEventID := ev.id
  kind := webhookKind ev.type
  gatewayRef := ""
  paymentID := ""
  refundID := ""
  status := .other ""
  amount := none
  declineReason := .unset
  occurredAt := ev.created.toInt * 1000000000
  eventType := ev.type
  idempotencyKey := ""
  raw := raw

def describe (out : Notification) : Notification :=
  let status := obj.mappedStatus
  let declined := status = .declined ∨ out.kind = .authorizationFailed
  { out with
    gatewayRef := obj.gatewayRef
    idempotencyKey := valueOf obj.metadata metaIdempotencyKey
    paymentID := valueOf obj.metadata metaPaymentID
    refundID := valueOf obj.metadata metaRefundID
    amount := obj.reported
    -- `mapDecline` always names a reason, so the source's last default never applies
    status := if declined ∧ status = .other "" then .declined else status
    declineReason := if declined then (mapDecline obj.lastPaymentError none).1 else out.declineReason }

/-- The zero `eventObject`, which an absent data object leaves. -/
def emptyObject : EventObject where
  id := ""
  object := ""
  amount := 0
  currency := ""
  status := ""
  metadata := []
  paymentIntent := ""
  lastPaymentError := none

def parseEvent (dec : WebhookDecoder) (raw : Bytes) : Except GoError Notification :=
  match dec.event raw with
  | .error err =>
    .error (wrap (unparseable err) .gatewayContractViolation
      "stripe: the webhook body is authenticated but is not a parseable event")
  | .ok ev =>
    if ev.id = "" then
      .error (new .gatewayContractViolation "stripe: the webhook body carries no event id")
    else if ev.object = [] then .ok (describe emptyObject (bareNotification ev raw))
    else
      match dec.object ev.object with
      -- the envelope is deliverable, and the deduplication needs it
      | .error _ => .ok (bareNotification ev raw)
      | .ok obj => .ok (describe obj (bareNotification ev raw))

/-- One `k=v` part of the signature header. -/
def signaturePart (found : List Char × List Bytes) (part : List Char) : List Char × List Bytes :=
  match cut '=' (trimSpace (String.ofList part)).toList with
  | none => found
  | some (key, value) =>
    if key = ['t'] then (value, found.2)
    else if key = ['v', '1'] then
      match decodeHexChars value with
      | none => found
      | some signature => (found.1, found.2 ++ [signature])
    else found

def parseSignatureHeader (h : String) : Except GoError (List Char × List Bytes) :=
  let found := (h.toList.splitOn ',').foldl signaturePart ([], [])
  if found.1 = [] then
    .error (new .webhookSignatureInvalid "stripe: the Stripe-Signature header carries no timestamp")
  else if found.2 = [] then
    .error (new .webhookSignatureInvalid
      "stripe: the Stripe-Signature header carries no v1 signature")
  else .ok found

def anySecretMatches (lib : Library) (signed : Bytes) (candidates : List Bytes)
    (secrets : List String) : Bool :=
  secrets.any fun s => s ≠ "" && candidates.contains (lib.hmacSHA256 (bytesOf s) signed)

/-- `Verify`: the header, the signature over the raw body, the replay window, and only then the
body. -/
def verify (lib : Library) (dec : WebhookDecoder) (tolerance : Int) (raw : Bytes)
    (headers : List (String × String)) (secrets : List String) (now : Time) :
    Except GoError Notification :=
  if secrets = [] then
    .error (new .gatewayNotConfigured
      "stripe: no webhook signing secret is configured for this gateway")
  else if headerValue headers "Stripe-Signature" = "" then
    .error (new .webhookSignatureInvalid "stripe: the Stripe-Signature header is absent")
  else do
    let (ts, candidates) ← parseSignatureHeader (headerValue headers "Stripe-Signature")
    if ¬ anySecretMatches lib (bytesOf (String.ofList ts ++ ".") ++ raw) candidates secrets then
      .error (new .webhookSignatureInvalid
        "stripe: no configured signing secret produces this signature")
    else
      match parseInt64 ts with
      | none =>
        .error (new .webhookSignatureInvalid
          "stripe: the signature timestamp is not an integer")
      | some secs =>
        let age := ageOf now (secs.toInt * 1000000000)
        if tolerance < age then
          .error (new .webhookReplayDetected
            ("stripe: the webhook timestamp is " ++
              lib.durationString (age / 1000000000 * 1000000000) ++ " outside the " ++
              lib.durationString tolerance ++ " tolerance"))
        else parseEvent dec raw

theorem parseEvent_of_verify {lib : Library} {dec : WebhookDecoder} {tolerance : Int} {raw : Bytes}
    {headers : List (String × String)} {secrets : List String} {now : Time} {n : Notification}
    (h : verify lib dec tolerance raw headers secrets now = .ok n) : parseEvent dec raw = .ok n := by
  unfold verify at h
  split at h
  · cases h
  split at h
  · cases h
  obtain ⟨⟨ts, candidates⟩, -, rest⟩ := call_ok h
  dsimp only at rest
  split at rest
  · cases rest
  split at rest
  · cases rest
  split at rest
  · cases rest
  · exact rest

theorem parseEvent_ok {dec : WebhookDecoder} {raw : Bytes} {ev : Event} {obj : EventObject}
    {n : Notification} (envelope : dec.event raw = .ok ev) (carried : ev.object ≠ [])
    (object : dec.object ev.object = .ok obj) (h : parseEvent dec raw = .ok n) :
    n = describe obj (bareNotification ev raw) := by
  unfold parseEvent at h
  rw [envelope] at h
  obtain ⟨-, rest⟩ := guard_ok h
  rw [if_neg carried, object] at rest
  cases rest
  rfl

end PaymentsPlatform.Gateways.Stripe
