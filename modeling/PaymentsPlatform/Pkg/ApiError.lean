/- layer: model of pkg/apierror
   digest: The error vocabulary, its registry, and Go error chains. -/

import Mathlib.Logic.Basic

namespace PaymentsPlatform.Pkg.ApiError

inductive Category where
  | validation | authentication | authorization | notFound | conflict | businessRule
  | rateLimit | gateway | timeout | infrastructure | internal
  deriving DecidableEq

/-- The codes that the modelled functions raise or look for.  The registry's `other` ones, and any
string besides, occur only in errors that come from outside. -/
inductive Code where
  | validationFailed | malformedRequest | requestTooLarge | amountInvalid | idempotencyKeyRequired
  | idempotencyKeyReused | idempotentRequestInProgress | unauthenticated | forbidden
  | insufficientScope | tenantMismatch | missingTenantContext | merchantNotActive
  | merchantSuspended | kycRequired | certificationFailed | paymentNotFound
  | paymentAlreadyProcessed | invalidStateTransition | amountExceedsLimit | refundExceedsCaptured
  | captureExceedsAuthorized | currencyNotSupported | paymentMethodNotSupported
  | noEligibleGateway | riskDeclined | velocityLimitExceeded | gatewayDeclined | gatewayTimeout
  | gatewayUnavailable | gatewayContractViolation | gatewayCircuitOpen
  | gatewayAuthenticationFailed | gatewayNotConfigured | webhookSignatureInvalid
  | webhookReplayDetected | webhookUnknownEventType | configurationInvalid | workflowNotFound
  | workflowNotResumable | rateLimited | concurrencyLimitExceeded | serviceUnavailable
  | dependencyFailure | internalError | other (raw : String)
  deriving DecidableEq

/-- The wire form of a code, as it is stored in error columns. -/
def Code.text : Code → String
  | .validationFailed => "VALIDATION_FAILED"
  | .malformedRequest => "MALFORMED_REQUEST"
  | .requestTooLarge => "REQUEST_TOO_LARGE"
  | .amountInvalid => "AMOUNT_INVALID"
  | .idempotencyKeyRequired => "IDEMPOTENCY_KEY_REQUIRED"
  | .idempotencyKeyReused => "IDEMPOTENCY_KEY_REUSED"
  | .idempotentRequestInProgress => "IDEMPOTENT_REQUEST_IN_PROGRESS"
  | .unauthenticated => "UNAUTHENTICATED"
  | .forbidden => "FORBIDDEN"
  | .insufficientScope => "INSUFFICIENT_SCOPE"
  | .tenantMismatch => "TENANT_MISMATCH"
  | .missingTenantContext => "MISSING_TENANT_CONTEXT"
  | .merchantNotActive => "MERCHANT_NOT_ACTIVE"
  | .merchantSuspended => "MERCHANT_SUSPENDED"
  | .kycRequired => "KYC_REQUIRED"
  | .certificationFailed => "CERTIFICATION_FAILED"
  | .paymentNotFound => "PAYMENT_NOT_FOUND"
  | .paymentAlreadyProcessed => "PAYMENT_ALREADY_PROCESSED"
  | .invalidStateTransition => "INVALID_STATE_TRANSITION"
  | .amountExceedsLimit => "AMOUNT_EXCEEDS_LIMIT"
  | .refundExceedsCaptured => "REFUND_EXCEEDS_CAPTURED"
  | .captureExceedsAuthorized => "CAPTURE_EXCEEDS_AUTHORIZED"
  | .currencyNotSupported => "CURRENCY_NOT_SUPPORTED"
  | .paymentMethodNotSupported => "PAYMENT_METHOD_NOT_SUPPORTED"
  | .noEligibleGateway => "NO_ELIGIBLE_GATEWAY"
  | .riskDeclined => "RISK_DECLINED"
  | .velocityLimitExceeded => "VELOCITY_LIMIT_EXCEEDED"
  | .gatewayDeclined => "GATEWAY_DECLINED"
  | .gatewayTimeout => "GATEWAY_TIMEOUT"
  | .gatewayUnavailable => "GATEWAY_UNAVAILABLE"
  | .gatewayContractViolation => "GATEWAY_CONTRACT_VIOLATION"
  | .gatewayCircuitOpen => "GATEWAY_CIRCUIT_OPEN"
  | .gatewayAuthenticationFailed => "GATEWAY_AUTHENTICATION_FAILED"
  | .gatewayNotConfigured => "GATEWAY_NOT_CONFIGURED"
  | .webhookSignatureInvalid => "WEBHOOK_SIGNATURE_INVALID"
  | .webhookReplayDetected => "WEBHOOK_REPLAY_DETECTED"
  | .webhookUnknownEventType => "WEBHOOK_UNKNOWN_EVENT_TYPE"
  | .configurationInvalid => "CONFIGURATION_INVALID"
  | .workflowNotFound => "WORKFLOW_NOT_FOUND"
  | .workflowNotResumable => "WORKFLOW_NOT_RESUMABLE"
  | .rateLimited => "RATE_LIMITED"
  | .concurrencyLimitExceeded => "CONCURRENCY_LIMIT_EXCEEDED"
  | .serviceUnavailable => "SERVICE_UNAVAILABLE"
  | .dependencyFailure => "DEPENDENCY_FAILURE"
  | .internalError => "INTERNAL_ERROR"
  | .other raw => raw

/-- What the registry says about a code: its category, whether a caller may
retry, and the message used when the raiser gives none. -/
structure Spec where
  category : Category
  retryable : Bool
  message : String

/-- The registry, without the entries that nothing modelled reads. -/
def lookup : Code → Spec
  | .validationFailed => ⟨.validation, false, "the request failed validation"⟩
  | .malformedRequest => ⟨.validation, false, "the request body could not be parsed"⟩
  | .requestTooLarge => ⟨.validation, false, "the request body exceeds the maximum permitted size"⟩
  | .amountInvalid => ⟨.validation, false, "the amount is not valid"⟩
  | .idempotencyKeyRequired =>
    ⟨.validation, false, "this operation requires an Idempotency-Key header"⟩
  | .idempotencyKeyReused =>
    ⟨.validation, false, "this idempotency key was already used with a different request body"⟩
  | .idempotentRequestInProgress =>
    ⟨.conflict, true, "a request with this idempotency key is currently in progress"⟩
  | .unauthenticated => ⟨.authentication, false, "authentication is required"⟩
  | .forbidden => ⟨.authorization, false, "the caller is not permitted to perform this operation"⟩
  | .insufficientScope => ⟨.authorization, false, "the access token lacks a required scope"⟩
  | .tenantMismatch =>
    ⟨.authorization, false, "the requested resource belongs to a different tenant"⟩
  | .missingTenantContext =>
    ⟨.internal, false, "tenant context was not established for this operation"⟩
  | .merchantNotActive =>
    ⟨.businessRule, false, "the merchant is not active and cannot accept payments"⟩
  | .merchantSuspended => ⟨.businessRule, false, "the merchant is suspended"⟩
  | .kycRequired =>
    ⟨.businessRule, false, "know-your-business verification must be completed first"⟩
  | .certificationFailed => ⟨.businessRule, false, "gateway certification did not pass"⟩
  | .paymentNotFound => ⟨.notFound, false, "payment not found"⟩
  | .paymentAlreadyProcessed => ⟨.businessRule, false, "the payment has already been processed"⟩
  | .invalidStateTransition =>
    ⟨.conflict, false, "the requested operation is not valid for the payment's current state"⟩
  | .amountExceedsLimit => ⟨.businessRule, false, "the amount exceeds a configured limit"⟩
  | .refundExceedsCaptured =>
    ⟨.businessRule, false, "the refund amount exceeds the captured amount"⟩
  | .captureExceedsAuthorized =>
    ⟨.businessRule, false, "the capture amount exceeds the authorized amount"⟩
  | .currencyNotSupported => ⟨.businessRule, false, "the currency is not enabled for this merchant"⟩
  | .paymentMethodNotSupported =>
    ⟨.businessRule, false, "the payment method is not enabled for this merchant"⟩
  | .noEligibleGateway =>
    ⟨.infrastructure, true, "no gateway is currently eligible to process this payment"⟩
  | .riskDeclined => ⟨.businessRule, false, "the payment was declined by risk policy"⟩
  | .velocityLimitExceeded => ⟨.businessRule, false, "a velocity limit was exceeded"⟩
  | .gatewayDeclined => ⟨.gateway, false, "the payment was declined by the payment gateway"⟩
  | .gatewayTimeout =>
    ⟨.timeout, false, "the payment gateway did not respond in time; the outcome is unknown " ++
      "and is being reconciled"⟩
  | .gatewayUnavailable => ⟨.gateway, true, "the payment gateway is unavailable"⟩
  | .gatewayContractViolation => ⟨.gateway, false, "the gateway response failed validation"⟩
  | .gatewayCircuitOpen => ⟨.infrastructure, true, "the circuit breaker for this gateway is open"⟩
  | .gatewayAuthenticationFailed =>
    ⟨.gateway, false, "authentication with the payment gateway failed"⟩
  | .gatewayNotConfigured =>
    ⟨.businessRule, false, "the gateway is not configured for this merchant"⟩
  | .webhookSignatureInvalid =>
    ⟨.authentication, false, "the webhook signature could not be verified"⟩
  | .webhookReplayDetected => ⟨.authentication, false, "the webhook appears to be a replay"⟩
  | .webhookUnknownEventType => ⟨.validation, false, "unrecognised webhook event type"⟩
  | .configurationInvalid => ⟨.validation, false, "the configuration is not valid"⟩
  | .workflowNotFound => ⟨.notFound, false, "workflow instance not found"⟩
  | .workflowNotResumable => ⟨.conflict, false, "the workflow instance is not in a resumable state"⟩
  | .rateLimited => ⟨.rateLimit, true, "rate limit exceeded"⟩
  | .concurrencyLimitExceeded => ⟨.rateLimit, true, "too many concurrent requests"⟩
  | .serviceUnavailable => ⟨.infrastructure, true, "the service is temporarily unavailable"⟩
  | .dependencyFailure => ⟨.infrastructure, true, "a downstream dependency failed"⟩
  | .internalError => ⟨.internal, false, "an unexpected internal error occurred"⟩
  | .other _ => ⟨.internal, false, "unclassified error"⟩

structure Detail where
  field : String
  code : String
  message : String
  ruleID : String
  deriving DecidableEq

/-- `apierror.Error` without its cause and without the correlation fields the
transport layer fills in. -/
structure Error where
  code : Code
  category : Category
  message : String
  detail : String
  retryable : Bool
  details : List Detail
  deriving DecidableEq

/-- A Go error chain: sentinels (by their text), errors of other packages, `fmt.Errorf` with one or
two `%w` verbs, and platform errors with or without a cause. -/
inductive GoError where
  | sentinel (text : String)
  | text (message : String)
  | wrap (message : String) (inner : GoError)
  | wrapBoth (message : String) (first second : GoError)
  | api (e : Error)
  | apiCause (e : Error) (cause : GoError)
  deriving DecidableEq

/-- `errors.As` for `*Error`: the first platform error of the chain. -/
def GoError.asError : GoError → Option Error
  | .sentinel _ => none
  | .text _ => none
  | .wrap _ inner => inner.asError
  | .wrapBoth _ first second => first.asError.or second.asError
  | .api e => some e
  | .apiCause e _ => some e

/-- `errors.Is` against a package-level sentinel.  `Error.Is` compares codes and
so never matches a sentinel, but the chain below it is still searched. -/
def GoError.isSentinel (target : String) : GoError → Bool
  | .sentinel name => name == target
  | .text _ => false
  | .wrap _ inner => inner.isSentinel target
  | .wrapBoth _ first second => first.isSentinel target || second.isSentinel target
  | .api _ => false
  | .apiCause _ cause => cause.isSentinel target

/-- The `Error` method.  A `fmt.Errorf` value carries its text already formatted. -/
def GoError.error : GoError → String
  | .sentinel name => name
  | .text message => message
  | .wrap message _ => message
  | .wrapBoth message _ _ => message
  | .api e => e.code.text ++ ": " ++ e.message
  | .apiCause e cause => e.code.text ++ ": " ++ e.message ++ ": " ++ cause.error

/-- `context.DeadlineExceeded`, by its text. -/
def deadlineExceeded : String := "context deadline exceeded"

/-- One character as `%q` prints it.  Go also escapes what Unicode calls unprintable. -/
def quotedChar (c : Char) : String :=
  match c.toNat with
  | 7 => "\\a"
  | 8 => "\\b"
  | 9 => "\\t"
  | 10 => "\\n"
  | 11 => "\\v"
  | 12 => "\\f"
  | 13 => "\\r"
  | 34 => "\\\""
  | 92 => "\\\\"
  | n =>
    if n < 32 ∨ n = 127 then "\\x" ++ String.ofList [Nat.digitChar (n / 16), Nat.digitChar (n % 16)]
    else String.singleton c

def quoted (s : String) : String := "\"" ++ String.join (s.toList.map quotedChar) ++ "\""

def orDefault (s fallback : String) : String := if s = "" then fallback else s

variable (code : Code) (message : String)

/-- `apierror.New` before it is turned into an `error` value. -/
def newError : Error where
  code := code
  category := (lookup code).category
  message := orDefault message (lookup code).message
  detail := ""
  retryable := (lookup code).retryable
  details := []

def new : GoError := .api (newError code message)

/-- `New(code, message).WithDetail(d)`. -/
def newWithDetail (d : Detail) : GoError :=
  .api { newError code message with details := [d] }

/-- `Wrap` keeps the inner classification when the new code is INTERNAL_ERROR and
the cause already carries one. -/
def wrap (cause : GoError) (code : Code) (message : String) : GoError :=
  match cause.asError, code with
  | some existing, .internalError =>
    .apiCause { existing with detail := if message = "" then existing.detail else message } cause
  | _, _ => .apiCause (newError code message) cause

/-- `CodeOf`: an unclassified error reads as INTERNAL_ERROR. -/
def codeOf (e : GoError) : Code := (e.asError.map Error.code).getD .internalError

/-- `From`: the platform error of the chain, or an unclassified one around it. -/
def fromError (e : GoError) : Error :=
  e.asError.getD (newError .internalError "an unexpected internal error occurred")

theorem guard_ok {α : Type} {cond : Prop} [Decidable cond] {e : GoError} {rest : Except GoError α}
    {a : α} (h : (if cond then .error e else rest) = .ok a) : ¬ cond ∧ rest = .ok a := by
  by_cases refused : cond
  · rw [if_pos refused] at h
    cases h
  · exact ⟨refused, by rwa [if_neg refused] at h⟩

theorem call_ok {α β : Type} {call : Except GoError α} {rest : α → Except GoError β} {b : β}
    (h : (call >>= rest) = .ok b) : ∃ a, call = .ok a ∧ rest a = .ok b := by
  rcases call with e | a
  · exact absurd h (fun failed => by cases failed)
  · exact ⟨a, rfl, h⟩

@[simp] theorem codeOf_newWithDetail (d : Detail) : codeOf (newWithDetail code message d) = code := rfl

@[simp] theorem isSentinel_wrap (target : String) (cause : GoError) (code : Code)
    (message : String) : (wrap cause code message).isSentinel target = cause.isSentinel target := by
  unfold wrap
  split <;> rfl

end PaymentsPlatform.Pkg.ApiError

namespace PaymentsPlatform

export Pkg.ApiError (GoError newWithDetail quoted call_ok guard_ok codeOf new wrap Category Code
  Detail deadlineExceeded newError orDefault codeOf_newWithDetail fromError)

end PaymentsPlatform
