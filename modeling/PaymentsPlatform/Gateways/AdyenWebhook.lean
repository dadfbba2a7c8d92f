/- layer: model of adapters/gateway/adyen (webhook.go, webhookKind and mapRefusal of mapping.go,
     declineReasonForItem of gateway.go); results
   digest: Authenticating a batch item by item, and what its signature fixes of an item. -/

import Mathlib.Data.List.Forall2
import PaymentsPlatform.Gateways.Spi
import PaymentsPlatform.Lib.Escaping

namespace PaymentsPlatform.Gateways.Adyen

open Gateways.Spi (Status)
open Lib.Escaping
open Payments (DeclineReason)
open Pkg (Money)

structure Amount where
  value : Int64
  currency : String

structure Item where
  pspReference : String
  originalReference : String
  merchantAccount : String
  merchantReference : String
  amount : Option Amount
  eventCode : String
  eventDate : String
  success : String
  additionalData : List (String × String)

/-- What `encoding/json` makes of a delivery: the items, of which each may be absent. -/
structure WebhookDecoder where
  notification : Bytes → Except String (List (Option Item))

def errUnparseable : String := "adyen: the gateway response could not be parsed"

def unparseable (err : String) : GoError :=
  wrap (.wrapBoth (errUnparseable ++ "\n" ++ err) (.sentinel errUnparseable) (.text err))
    .gatewayContractViolation "adyen: the response body could not be parsed"

def escapeField (s : String) : String :=
  String.ofList (s.toList.flatMap fun c => if c = '\\' ∨ c = ':' then ['\\', c] else [c])

def signedPayload (fields : List String) : String := ":".intercalate (fields.map escapeField)

def amountValueString : Option Amount → String
  | none => ""
  | some a => toString a.value.toInt

def amountCurrencyString : Option Amount → String
  | none => ""
  | some a => a.currency

variable (item : Item)

def Item.signedFields : List String :=
  [item.pspReference, item.originalReference, item.merchantAccount, item.merchantReference,
    amountValueString item.amount, amountCurrencyString item.amount, item.eventCode, item.success]

def Item.signed : String := signedPayload item.signedFields

def decodeHMACKeys (secrets : List String) : Except GoError (List Bytes) :=
  let keys := secrets.filterMap fun s => if trimSpace s = "" then none else decodeHex (trimSpace s)
  if keys = [] then
    .error (new .configurationInvalid "adyen: no configured HMAC key is valid hexadecimal")
  else .ok keys

def anyKeyMatches (lib : Library) (signed presented : Bytes) (keys : List Bytes) : Bool :=
  keys.any fun k => lib.hmacSHA256 k signed == presented

def parseEventDate (lib : Library) (s : String) : Except GoError Time :=
  if trimSpace s = "" then
    .error (new .webhookReplayDetected
      "adyen: the notification carries no eventDate, so its freshness cannot be established")
  else
    match lib.parseRFC3339 s with
    | none =>
      .error (new .webhookReplayDetected
        "adyen: the notification eventDate is not a valid RFC 3339 timestamp")
    | some t => .ok t

def webhookKind (eventCode : String) (success : Bool) : WebhookKind :=
  match eventCode with
  | "AUTHORISATION" => if success then .authorizationSucceeded else .authorizationFailed
  | "CAPTURE" => if success then .captureSucceeded else .captureFailed
  | "CAPTURE_FAILED" => .captureFailed
  | "REFUND" => if success then .refundSucceeded else .refundFailed
  | "REFUND_FAILED" | "REFUNDED_REVERSED" => .refundFailed
  -- the flag is not looked at from here on
  | "CANCELLATION" => .voidSucceeded
  | "PAYOUT_THIRDPARTY" | "PAID_OUT" => .payoutSettled
  | "NOTIFICATION_OF_CHARGEBACK" | "CHARGEBACK" | "REQUEST_FOR_INFORMATION" => .disputeOpened
  | "CHARGEBACK_REVERSED" | "SECOND_CHARGEBACK" => .disputeClosed
  | "ACCOUNT_HOLDER_STATUS_CHANGE" | "ACCOUNT_HOLDER_VERIFICATION" | "ACCOUNT_HOLDER_UPDATED" =>
    .accountUpdated
  | _ => .ignored

def refusalTable : List (String × DeclineReason) :=
  [("0", .unknown), ("3", .restrictedCard), ("4", .processingError), ("5", .restrictedCard),
    ("6", .cardExpired), ("7", .unknown), ("8", .incorrectNumber), ("9", .issuerUnavailable),
    ("10", .restrictedCard), ("11", .authRequired), ("12", .insufficientFunds), ("14", .fraudulent),
    ("15", .unknown), ("16", .unknown), ("17", .incorrectCVC), ("18", .restrictedCard),
    ("19", .processingError), ("20", .fraudulent), ("21", .processingError), ("22", .fraudulent),
    ("23", .restrictedCard), ("24", .incorrectCVC), ("25", .restrictedCard), ("26", .restrictedCard),
    ("27", .unknown), ("28", .insufficientFunds), ("29", .restrictedCard), ("31", .fraudulent),
    ("32", .invalidAccount), ("33", .restrictedCard), ("34", .invalidAccount),
    ("35", .invalidAccount), ("36", .authRequired), ("37", .processingError), ("38", .authRequired),
    ("39", .authRequired), ("41", .processingError), ("42", .authRequired), ("43", .restrictedCard),
    ("44", .processingError), ("46", .blockedByRisk)]

def declineReasonForItem : DeclineReason :=
  let code := valueOf item.additionalData "refusalReasonCode"
  if code = "" then .unknown else (refusalTable.lookup code).getD .unknown

def statusOf : WebhookKind → Status
  | .authorizationSucceeded => .authorized
  | .captureSucceeded => .captured
  | .refundSucceeded => .refundAccepted
  | .voidSucceeded => .voided
  | .authorizationFailed => .declined
  | .captureFailed | .refundFailed => .failed
  | _ => .other ""

/-- Adyen sends no event identifier: it is made of the signed fields and the event date. -/
def eventID (lib : Library) (item : Item) : String :=
  "adyen_" ++ encodeHex ((lib.sha256 (bytesOf (item.signed ++ "|" ++ item.eventDate))).take 16)

def Item.succeeded : Bool := equalFold item.success "true"

def Item.kind : WebhookKind := webhookKind item.eventCode item.succeeded

/-- `strings.ToUpper(strings.TrimSpace(s))`, on ASCII. -/
def upperTrim (s : String) : String := String.ofList ((trimSpace s).toList.map Char.toUpper)

def Item.reported : Option Money :=
  item.amount.bind fun a => (Money.new a.value (upperTrim a.currency)).toOption

def normalizeItem (lib : Library) (item : Item) (occurred : Time) (raw : Bytes) : Notification where
  gatewayEventID := eventID lib item
  kind := item.kind
  gatewayRef := item.pspReference
  paymentID := valueOf item.additionalData metaPaymentID
  refundID := valueOf item.additionalData metaRefundID
  status := statusOf item.kind
  amount := item.reported
  declineReason :=
    if item.kind = .authorizationFailed then declineReasonForItem item else .unset
  occurredAt := occurred
  eventType := item.eventCode
  idempotencyKey := valueOf item.additionalData metaIdempotencyKey
  raw := raw

def verifyItem (lib : Library) (tolerance : Int) (raw : Bytes) (keys : List Bytes) (now : Time)
    (i : Nat) : Option Item → Except GoError Notification
  | none =>
    .error (new .malformedRequest ("adyen: notificationItems[" ++ toString i ++
      "] carries no NotificationRequestItem"))
  | some item =>
    let presented := valueOf item.additionalData "hmacSignature"
    if presented = "" then
      .error (new .webhookSignatureInvalid ("adyen: notificationItems[" ++ toString i ++
        "] carries no additionalData.hmacSignature"))
    else
      match lib.decodeBase64 presented with
      | none =>
        .error (new .webhookSignatureInvalid ("adyen: notificationItems[" ++ toString i ++
          "] carries a signature that is not base64"))
      | some signature =>
        if ¬ anyKeyMatches lib (bytesOf item.signed) signature keys then
          .error (new .webhookSignatureInvalid
            ("adyen: no configured HMAC key produces the signature on notificationItems[" ++
              toString i ++ "]"))
        else do
          let occurred ← parseEventDate lib item.eventDate
          let age := ageOf now occurred
          if tolerance < age then
            .error (new .webhookReplayDetected
              ("adyen: the notification eventDate is " ++
                lib.durationString (age / 1000000000 * 1000000000) ++ " outside the " ++
                lib.durationString tolerance ++ " tolerance"))
          else pure (normalizeItem lib item occurred raw)

def verifyItems (lib : Library) (tolerance : Int) (raw : Bytes) (keys : List Bytes) (now : Time) :
    Nat → List (Option Item) → Except GoError (List Notification)
  | _, [] => .ok []
  | i, item :: rest => do
      let n ← verifyItem lib tolerance raw keys now i item
      let others ← verifyItems lib tolerance raw keys now (i + 1) rest
      pure (n :: others)

/-- `VerifyAll`: every item is authenticated, or none is returned. -/
def verifyAll (lib : Library) (dec : WebhookDecoder) (tolerance : Int) (raw : Bytes)
    (secrets : List String) (now : Time) : Except GoError (List Notification) :=
  if secrets = [] then
    .error (new .gatewayNotConfigured "adyen: no webhook HMAC key is configured for this gateway")
  else do
    let keys ← decodeHMACKeys secrets
    match dec.notification raw with
    | .error err =>
      .error (wrap (unparseable err) .malformedRequest
        "adyen: the notification body is not a parseable notification envelope")
    | .ok [] =>
      .error (new .malformedRequest "adyen: the notification body carries no notificationItems")
    | .ok items => verifyItems lib tolerance raw keys now 0 items

/-- `Verify`: every item is authenticated, and the first is returned. -/
def verify (lib : Library) (dec : WebhookDecoder) (tolerance : Int) (raw : Bytes)
    (_headers : List (String × String)) (secrets : List String) (now : Time) :
    Except GoError (Option Notification) :=
  (verifyAll lib dec tolerance raw secrets now).map List.head?

variable {lib : Library} {tolerance : Int} {raw : Bytes} {now : Time}

abbrev Becomes (lib : Library) (raw : Bytes) (entry : Option Item) (n : Notification) : Prop :=
  ∃ item occurred, entry = some item ∧ parseEventDate lib item.eventDate = .ok occurred ∧
    n = normalizeItem lib item occurred raw

theorem verifyItem_ok {keys : List Bytes} {i : Nat} {entry : Option Item} {n : Notification}
    (h : verifyItem lib tolerance raw keys now i entry = .ok n) : Becomes lib raw entry n := by
  cases entry with
  | none => cases h
  | some item =>
    unfold verifyItem at h
    dsimp only at h
    split at h
    · cases h
    split at h
    · cases h
    split at h
    · cases h
    obtain ⟨occurred, dated, rest⟩ := call_ok h
    split at rest
    · cases rest
    · cases rest
      exact ⟨item, occurred, rfl, dated, rfl⟩

theorem verifyItems_ok {keys : List Bytes}
    {items : List (Option Item)} {i : Nat} {events : List Notification}
    (h : verifyItems lib tolerance raw keys now i items = .ok events) :
    List.Forall₂ (Becomes lib raw) items events := by
  induction items generalizing i events with
  | nil =>
    cases h
    exact .nil
  | cons entry rest ih =>
    obtain ⟨n, first, others⟩ := call_ok h
    obtain ⟨tail, verified, last⟩ := call_ok others
    cases last
    exact .cons (verifyItem_ok first) (ih verified)

theorem verifyAll_ok {dec : WebhookDecoder} {secrets : List String} {events : List Notification}
    (h : verifyAll lib dec tolerance raw secrets now = .ok events) :
    ∃ items, dec.notification raw = .ok items ∧ items ≠ [] ∧
      List.Forall₂ (Becomes lib raw) items events := by
  unfold verifyAll at h
  split at h
  · cases h
  obtain ⟨keys, -, rest⟩ := call_ok h
  split at rest
  · cases rest
  · cases rest
  · rename_i items carried decoded
    exact ⟨items, decoded, fun none => carried none, verifyItems_ok rest⟩

/-- The item stands in some body that the verifier accepts, and the event is what becomes of it
there. -/
def Accepts (lib : Library) (dec : WebhookDecoder) (tolerance : Int) (item : Item) (n : Notification) :
    Prop :=
  ∃ raw secrets now items events, ∃ i : Nat, dec.notification raw = .ok items ∧
    verifyAll lib dec tolerance raw secrets now = .ok events ∧ items[i]? = some (some item) ∧
    events[i]? = some n

structure SameSigned (a b : Item) : Prop where
  fields : a.signedFields = b.signedFields
  hmac : valueOf a.additionalData "hmacSignature" = valueOf b.additionalData "hmacSignature"

structure Agree (m n : Notification) : Prop where
  paymentID : m.paymentID = n.paymentID
  refundID : m.refundID = n.refundID
  kind : m.kind = n.kind
  amount : m.amount = n.amount
  gatewayEventID : m.gatewayEventID = n.gatewayEventID

def digest (lib : Library) (item : Item) : Bytes :=
  (lib.sha256 (bytesOf (item.signed ++ "|" ++ item.eventDate))).take 16

/-- What is read of the items outside the signed fields is the same: the identifiers, and the event
date as far as the digest tells. -/
structure SameUnsigned (lib : Library) (a b : Item) : Prop where
  paymentID : valueOf a.additionalData metaPaymentID = valueOf b.additionalData metaPaymentID
  refundID : valueOf a.additionalData metaRefundID = valueOf b.additionalData metaRefundID
  digest : digest lib a = digest lib b

theorem Accepts.normalized {lib : Library} {dec : WebhookDecoder} {tolerance : Int} {item : Item}
    {n : Notification} (h : Accepts lib dec tolerance item n) :
    ∃ occurred raw, n = normalizeItem lib item occurred raw := by
  obtain ⟨raw, secrets, now, items, events, i, decoded, accepted, here, there⟩ := h
  obtain ⟨items', decoded', -, matched⟩ := verifyAll_ok accepted
  cases decoded.symm.trans decoded'
  obtain ⟨inItems, entry⟩ := List.getElem?_eq_some_iff.mp here
  obtain ⟨inEvents, event⟩ := List.getElem?_eq_some_iff.mp there
  obtain ⟨item', occurred, same, -, normalized⟩ :=
    (List.forall₂_iff_get.mp matched).2 i inItems inEvents
  rw [List.get_eq_getElem, entry] at same
  cases same
  rw [List.get_eq_getElem, event] at normalized
  exact ⟨occurred, raw, normalized⟩

/-! The signed fields determine the amount. -/

theorem amountValueString_injective {a b : Option Amount}
    (value : amountValueString a = amountValueString b)
    (currency : amountCurrencyString a = amountCurrencyString b) : a = b := by
  have shown : ∀ v : Int64, (toString v.toInt : String) ≠ "" := by
    intro v
    rw [Int.toString_eq_repr, Int.repr_eq_if]
    split
    · exact Nat.repr_ne_empty
    · intro empty
      simpa using congrArg String.toList empty
  cases a with
  | none =>
    cases b with
    | none => rfl
    | some b => exact absurd value.symm (shown b.value)
  | some a =>
    cases b with
    | none => exact absurd value (shown a.value)
    | some b =>
      have same : a.value.toInt = b.value.toInt := by
        simp only [amountValueString, Int.toString_eq_repr] at value
        exact Int.repr_injective value
      rcases a with ⟨value₁, currency₁⟩
      rcases b with ⟨value₂, currency₂⟩
      cases Int64.toInt_inj.mp same
      cases (show currency₁ = currency₂ from currency)
      rfl

variable {a b : Item}

theorem SameSigned.amount (h : SameSigned a b) : a.amount = b.amount := by
  have fields := h.fields
  simp only [Item.signedFields, List.cons.injEq, and_true] at fields
  obtain ⟨-, -, -, -, value, currency, -, -⟩ := fields
  exact amountValueString_injective value currency

theorem SameSigned.kind (h : SameSigned a b) : a.kind = b.kind := by
  have fields := h.fields
  simp only [Item.signedFields, List.cons.injEq, and_true] at fields
  obtain ⟨-, -, -, -, -, -, code, success⟩ := fields
  rw [Item.kind, Item.kind, Item.succeeded, Item.succeeded, code, success]

/-! The event identifier shows the digest. -/

theorem digitChar_injective {m n : Nat} (hm : m < 16) (hn : n < 16)
    (h : Nat.digitChar m = Nat.digitChar n) : m = n := by
  revert h
  interval_cases m <;> interval_cases n <;> decide

theorem encodeHex_injective {a b : Bytes} (h : encodeHex a = encodeHex b) : a = b := by
  have chars := String.ofList_injective h
  clear h
  induction a generalizing b with
  | nil =>
    cases b with
    | nil => rfl
    | cons => cases chars
  | cons x a ih =>
    cases b with
    | nil => cases chars
    | cons y =>
      simp only [List.flatMap_cons, List.cons_append, List.nil_append, List.cons.injEq] at chars
      obtain ⟨hi, lo, rest⟩ := chars
      have hx := x.toNat_lt
      have hy := y.toNat_lt
      have high := digitChar_injective (by omega) (by omega) hi
      have low := digitChar_injective (by omega) (by omega) lo
      have same : x = y := UInt8.toNat_inj.mp (by omega)
      rw [same, ih rest]

theorem eventID_eq_iff {lib : Library} :
    eventID lib a = eventID lib b ↔ digest lib a = digest lib b := by
  constructor
  · intro same
    have chars := congrArg String.toList same
    simp only [eventID, String.toList_append] at chars
    exact encodeHex_injective (String.toList_inj.mp (List.append_cancel_left chars))
  · intro same
    unfold digest at same
    rw [eventID, eventID, same]

/-- Two accepted items with the same signed fields and HMAC become events that agree exactly where
their identifiers, dates and digest, none of them signed, are the same. -/
theorem agree_iff {lib : Library} {dec : WebhookDecoder} {tolerance : Int} {a b : Item}
    {m n : Notification} (first : Accepts lib dec tolerance a m)
    (second : Accepts lib dec tolerance b n) (same : SameSigned a b) :
    Agree m n ↔ SameUnsigned lib a b := by
  obtain ⟨occurred, raw, rfl⟩ := first.normalized
  obtain ⟨occurred', raw', rfl⟩ := second.normalized
  constructor
  · intro agree
    exact ⟨agree.paymentID, agree.refundID, eventID_eq_iff.mp agree.gatewayEventID⟩
  · intro unsigned
    refine ⟨unsigned.paymentID, unsigned.refundID, same.kind, ?_, eventID_eq_iff.mpr unsigned.digest⟩
    change a.reported = b.reported
    rw [Item.reported, Item.reported, same.amount]

/-- A capture of the first payment, with the identifiers and the date as given. -/
def captureItem (paymentID date : String) : Item where
  pspReference := "psp_2"
  originalReference := "psp_1"
  merchantAccount := "acme"
  merchantReference := "key_1"
  amount := some ⟨1000, "USD"⟩
  eventCode := "CAPTURE"
  eventDate := date
  success := "true"
  additionalData :=
    [("pp_payment_id", paymentID),
      ("hmacSignature", "psp_2:psp_1:acme:key_1:1000:USD:CAPTURE:truek")]

/-- Bodies of one item each: the item as it was sent, and one with another payment and date. -/
def sampleDecoder : WebhookDecoder where
  notification := fun raw =>
    .ok [some (if raw = [] then captureItem "pay_1" "2026-01-01T00:00:00Z"
      else captureItem "pay_2" "2026-01-01T00:01:00Z")]

theorem verifyAll_original : verifyAll sampleLibrary sampleDecoder 0 [] ["6b"] 0 =
    .ok [normalizeItem sampleLibrary (captureItem "pay_1" "2026-01-01T00:00:00Z") 0 []] := by
  decide +kernel

theorem verifyAll_altered : verifyAll sampleLibrary sampleDecoder 0 [0] ["6b"] 0 =
    .ok [normalizeItem sampleLibrary (captureItem "pay_2" "2026-01-01T00:01:00Z") 0 [0]] := by
  decide +kernel

/-- The second body carries the signature of the first, and is accepted for another payment and as
a fresh event. -/
theorem not_agree_captureItem :
    ∃ m n, Accepts sampleLibrary sampleDecoder 0 (captureItem "pay_1" "2026-01-01T00:00:00Z") m ∧
      Accepts sampleLibrary sampleDecoder 0 (captureItem "pay_2" "2026-01-01T00:01:00Z") n ∧
      SameSigned (captureItem "pay_1" "2026-01-01T00:00:00Z")
        (captureItem "pay_2" "2026-01-01T00:01:00Z") ∧
      m.paymentID ≠ n.paymentID ∧ m.gatewayEventID ≠ n.gatewayEventID ∧ ¬ Agree m n := by
  refine ⟨_, _, ⟨[], ["6b"], 0, _, _, 0, rfl, verifyAll_original, rfl, rfl⟩,
    ⟨[0], ["6b"], 0, _, _, 0, rfl, verifyAll_altered, rfl, rfl⟩, ⟨rfl, rfl⟩, ?_, ?_, ?_⟩
  · decide
  · decide +kernel
  · intro agree
    exact absurd agree.paymentID (by decide)

/-- Delivered twice as it was sent, the item becomes the same event. -/
theorem agree_redelivered :
    Accepts sampleLibrary sampleDecoder 0 (captureItem "pay_1" "2026-01-01T00:00:00Z")
        (normalizeItem sampleLibrary (captureItem "pay_1" "2026-01-01T00:00:00Z") 0 []) ∧
      Agree (normalizeItem sampleLibrary (captureItem "pay_1" "2026-01-01T00:00:00Z") 0 [])
        (normalizeItem sampleLibrary (captureItem "pay_1" "2026-01-01T00:00:00Z") 0 []) := by
  have accepted : Accepts sampleLibrary sampleDecoder 0 (captureItem "pay_1" "2026-01-01T00:00:00Z")
      (normalizeItem sampleLibrary (captureItem "pay_1" "2026-01-01T00:00:00Z") 0 []) :=
    ⟨[], ["6b"], 0, _, _, 0, rfl, verifyAll_original, rfl, rfl⟩
  exact ⟨accepted, (agree_iff accepted accepted ⟨rfl, rfl⟩).mpr ⟨rfl, rfl, rfl⟩⟩

/-! The signed payload as bytes. -/

/-- The arguments of `SignedPayload`, which are byte strings of any kind. -/
structure SignedFields where
  pspReference : Bytes
  originalReference : Bytes
  merchantAccountCode : Bytes
  merchantReference : Bytes
  amountValue : Bytes
  amountCurrency : Bytes
  eventCode : Bytes
  success : Bytes

/-- `SignedPayload`, where 92 is the backslash and 58 the colon. -/
def SignedFields.signedPayload (f : SignedFields) : Bytes :=
  join 92 58 [f.pspReference, f.originalReference, f.merchantAccountCode, f.merchantReference,
    f.amountValue, f.amountCurrency, f.eventCode, f.success]

/-- The payload of an item is the same join, of characters. -/
theorem toList_signedPayload (fields : List String) :
    (signedPayload fields).toList = join '\\' ':' (fields.map String.toList) := by
  simp only [signedPayload, String.toList_intercalate, join, List.map_map]
  congr 1
  refine List.map_congr_left fun s _ => ?_
  simp [escapeField, escape]

/-- The signed payload is an injective encoding of its eight fields. -/
theorem signed_payload_injective : Function.Injective SignedFields.signedPayload := by
  rintro ⟨⟩ ⟨⟩ same
  obtain ⟨rfl, rest⟩ := join_inj (by decide) same
  cases rest
  rfl

end PaymentsPlatform.Gateways.Adyen
