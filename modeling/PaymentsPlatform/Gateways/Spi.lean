/- layer: model of adapters/gateway/spi/spi.go and of what the verifiers share
   digest: What the platform sends to a gateway adapter, what it answers, and normalized
     notifications. -/

import PaymentsPlatform.Payments.Payment

namespace PaymentsPlatform.Gateways.Spi

open Pkg (Money)
open Payments (DeclineReason PaymentMethodReference RefundReason)
open Payments.Payment (NextActionType)

def errOutcomeUnknown : String := "spi: gateway outcome unknown"

def errCredentialsInvalid : String := "spi: gateway credentials rejected"

/-- `errors.Is(err, ErrOutcomeUnknown)`, on an error that may be nil. -/
def isOutcomeUnknown (err : Option GoError) : Bool := err.any (·.isSentinel errOutcomeUnknown)

/-- The normalized statuses an adapter may report, and anything else it sends. -/
inductive Status where
  | authorized | captured | refundAccepted | refunded | voided | requiresAction | pending
  | declined | failed | notFound
  | other (raw : String)
  deriving DecidableEq

instance : Shared.StringType Status where
  text
    | .authorized => "AUTHORIZED"
    | .captured => "CAPTURED"
    | .refundAccepted => "REFUND_ACCEPTED"
    | .refunded => "REFUNDED"
    | .voided => "VOIDED"
    | .requiresAction => "REQUIRES_ACTION"
    | .pending => "PENDING"
    | .declined => "DECLINED"
    | .failed => "FAILED"
    | .notFound => "NOT_FOUND"
    | .other raw => raw

structure NextAction where
  type : NextActionType
  redirectURL : String
  qrCodeData : String
  expiresAt : Option Time

/-- A gateway's answer, normalized by its adapter. -/
structure Result where
  status : Status
  gatewayRef : String
  authorizedAmount : Option Money
  capturedAmount : Option Money
  declineReason : DeclineReason
  networkAdviceNoRetry : Bool
  nextAction : Option NextAction
  authExpiresAt : Option Time
  rawStatus : String
  rawCode : String
  rawMessage : String

structure ThreeDSRequest where
  requested : Bool
  exemptionType : String

structure CustomerData where
  id : String
  emailHash : String
  ipAddress : String
  country : Country

/-- The request of `Authorize`, without the credentials it is signed with. -/
structure AuthorizeRequest where
  idempotencyKey : String
  externalAccountID : String
  paymentID : PaymentID
  attemptID : AttemptID
  amount : Money
  method : PaymentMethod
  methodRef : PaymentMethodReference
  capture : Bool
  descriptor : String
  statementRef : String
  threeDS : ThreeDSRequest
  customer : CustomerData
  returnURL : String
  metadata : List (String × String)

structure CaptureRequest where
  idempotencyKey : String
  externalAccountID : String
  paymentID : PaymentID
  attemptID : AttemptID
  gatewayRef : String
  amount : Money
  final : Bool
  metadata : List (String × String)

structure RefundRequest where
  idempotencyKey : String
  externalAccountID : String
  paymentID : PaymentID
  refundID : RefundID
  gatewayRef : String
  amount : Money
  reason : RefundReason
  metadata : List (String × String)

structure VoidRequest where
  idempotencyKey : String
  externalAccountID : String
  paymentID : PaymentID
  gatewayRef : String
  metadata : List (String × String)

/-- The request of `Lookup`: the recomputed key is what identifies the attempt when no
gateway reference came back. -/
structure LookupRequest where
  externalAccountID : String
  gatewayRef : String
  idempotencyKey : String
  operation : Operation

/-- What a client call returns: a result, an error, both or neither. -/
structure Answer where
  resp : Option Result
  callErr : Option GoError

/-- The normalized classification of an inbound event. -/
inductive WebhookKind where
  | authorizationSucceeded | authorizationFailed | captureSucceeded | captureFailed
  | refundSucceeded | refundFailed | voidSucceeded | payoutSettled | disputeOpened | disputeClosed
  | accountUpdated | ignored
  | other (raw : String)
  deriving DecidableEq

/-- A verified notification, normalized by the gateway's adapter. -/
structure WebhookEvent where
  gatewayEventID : String
  kind : WebhookKind
  gatewayRef : String
  paymentID : PaymentID
  refundID : RefundID
  status : Status
  amount : Option Money
  declineReason : DeclineReason
  occurredAt : Time
  deriving DecidableEq

end PaymentsPlatform.Gateways.Spi

namespace PaymentsPlatform

export Gateways.Spi (WebhookEvent AuthorizeRequest CaptureRequest RefundRequest WebhookKind
  VoidRequest errCredentialsInvalid errOutcomeUnknown Answer LookupRequest isOutcomeUnknown)

end PaymentsPlatform

namespace PaymentsPlatform.Gateways

abbrev Bytes := List UInt8

/-- A normalized event with the fields that are only recorded. -/
structure Notification extends WebhookEvent where
  eventType : String
  idempotencyKey : String
  raw : Bytes
  deriving DecidableEq

/-- Functions of the standard library that are not opened here. -/
structure Library where
  hmacSHA256 : Bytes → Bytes → Bytes
  sha256 : Bytes → Bytes
  decodeBase64 : String → Option Bytes
  parseRFC3339 : String → Option Time
  durationString : Int → String

def bytesOf (s : String) : Bytes := s.toUTF8.toList

def hexValue (c : Char) : Option UInt8 :=
  if '0' ≤ c ∧ c ≤ '9' then some (c.toNat - 48).toUInt8
  else if 'a' ≤ c ∧ c ≤ 'f' then some (c.toNat - 87).toUInt8
  else if 'A' ≤ c ∧ c ≤ 'F' then some (c.toNat - 55).toUInt8
  else none

/-- `hex.DecodeString`. -/
def decodeHexChars : List Char → Option Bytes
  | [] => some []
  | [_] => none
  | hi :: lo :: rest => do
      let h ← hexValue hi
      let l ← hexValue lo
      let bytes ← decodeHexChars rest
      pure ((h * 16 + l) :: bytes)

def decodeHex (s : String) : Option Bytes := decodeHexChars s.toList

/-- `hex.EncodeToString`. -/
def encodeHex (bytes : Bytes) : String :=
  String.ofList (bytes.flatMap fun b => [Nat.digitChar (b.toNat / 16), Nat.digitChar (b.toNat % 16)])

def digitsValue (n : Nat) : List Char → Option Nat
  | [] => some n
  | c :: rest => if c.isDigit then digitsValue (10 * n + (c.toNat - 48)) rest else none

def unsignedValue : List Char → Option Nat
  | [] => none
  | digits => digitsValue 0 digits

/-- `strconv.ParseInt(s, 10, 64)`. -/
def parseInt64 (s : List Char) : Option Int64 :=
  let value : Option Int :=
    match s with
    | '-' :: digits => (unsignedValue digits).map fun n => -(n : Int)
    | '+' :: digits => (unsignedValue digits).map fun n => (n : Int)
    | digits => (unsignedValue digits).map fun n => (n : Int)
  value.bind fun v => if -2 ^ 63 ≤ v ∧ v < 2 ^ 63 then some (Int64.ofInt v) else none

/-- `strings.Cut` at one character. -/
def cut (sep : Char) (s : List Char) : Option (List Char × List Char) :=
  match s.span (· ≠ sep) with
  | (_, []) => none
  | (before, _ :: after) => some (before, after)

/-- `strings.EqualFold`, on ASCII. -/
def equalFold (a b : String) : Bool := a.toList.map Char.toLower == b.toList.map Char.toLower

/-- Reading a string map: an absent key is the empty string. -/
def valueOf (m : List (String × String)) (key : String) : String := (m.lookup key).getD ""

def headerValue (headers : List (String × String)) (name : String) : String :=
  match headers.lookup name with
  | some v => v
  | none => ((headers.find? fun h => equalFold h.1 name).map Prod.snd).getD ""

def ageOf (now occurred : Time) : Int := if now - occurred < 0 then -(now - occurred) else now - occurred

/-- The keys under which the adapters carry the platform's identifiers. -/
def metaPaymentID : String := "pp_payment_id"

def metaRefundID : String := "pp_refund_id"

def metaIdempotencyKey : String := "pp_idempotency_key"

def sampleLibrary : Library where
  hmacSHA256 := fun key message => message ++ key
  sha256 := fun message => (message.reverse ++ List.replicate 32 0).take 32
  decodeBase64 := fun s => some (bytesOf s)
  parseRFC3339 := fun _ => some 0
  durationString := fun _ => ""

end PaymentsPlatform.Gateways
