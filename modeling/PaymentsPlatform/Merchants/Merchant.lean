/- layer: model of domain/merchant (merchant.go, state.go, events.go, rehydrate.go)
   digest: The merchant aggregate: its lifecycle, its verification, and what activation asks for. -/

import PaymentsPlatform.Orchestration.Orchestrator

namespace PaymentsPlatform.Merchants

open Orchestration (MerchantStatus)
open Pkg

def machine : StateMachine MerchantStatus where
  name := "merchant"
  initial := .created
  all :=
    [.created, .validating, .validationFailed, .kycPending, .kycApproved, .kycFailed, .bankValidated,
      .bankValidationFailed, .gatewayProvisioning, .provisioningFailed, .configuring,
      .configurationFailed, .sandboxValidation, .certification, .certificationFailed,
      .complianceRejected, .approved, .productionReady, .active, .suspended, .terminated]
  terminal := [.terminated]
  transitions :=
    [(.created, .validating), (.created, .terminated),
      (.validating, .kycPending), (.validating, .validationFailed),
      (.validationFailed, .validating), (.validationFailed, .terminated),
      (.kycPending, .kycApproved), (.kycPending, .kycFailed),
      (.kycFailed, .kycPending), (.kycFailed, .terminated),
      (.kycApproved, .bankValidated), (.kycApproved, .bankValidationFailed),
      (.bankValidationFailed, .kycApproved), (.bankValidationFailed, .terminated),
      (.bankValidated, .gatewayProvisioning),
      (.gatewayProvisioning, .configuring), (.gatewayProvisioning, .provisioningFailed),
      (.provisioningFailed, .gatewayProvisioning), (.provisioningFailed, .terminated),
      (.configuring, .sandboxValidation), (.configuring, .configurationFailed),
      (.configurationFailed, .configuring), (.configurationFailed, .terminated),
      (.sandboxValidation, .certification), (.sandboxValidation, .configurationFailed),
      (.certification, .approved), (.certification, .certificationFailed),
      (.certification, .complianceRejected),
      (.certificationFailed, .certification), (.certificationFailed, .configuring),
      (.certificationFailed, .terminated),
      (.complianceRejected, .configuring), (.complianceRejected, .kycPending),
      (.complianceRejected, .terminated),
      (.approved, .productionReady), (.approved, .suspended),
      (.productionReady, .active), (.productionReady, .suspended),
      (.active, .suspended), (.active, .terminated),
      (.suspended, .active), (.suspended, .terminated)]
  initial_mem := by decide
  terminal_sub := by decide
  ends_mem := by decide
  terminal_final := by decide

inductive KYCStatus where
  | notStarted | inProgress | approved | rejected
  deriving DecidableEq

inductive RiskRating where
  | low | standard | elevated | high
  | other (raw : String)
  deriving DecidableEq

instance : StringType RiskRating where
  text
    | .low => "LOW"
    | .standard => "STANDARD"
    | .elevated => "ELEVATED"
    | .high => "HIGH"
    | .other raw => raw

def RiskRating.isValid : RiskRating → Bool
  | .other _ => false
  | _ => true

inductive SuspensionReason where
  | riskBreach | complianceExpiry | kycExpiry | gatewayRevoked | chargebackRate | merchantRequest
  | operatorAction | nonPayment | sanctionsHit
  | other (raw : String)
  deriving DecidableEq

instance : StringType SuspensionReason where
  text
    | .riskBreach => "RISK_THRESHOLD_BREACHED"
    | .complianceExpiry => "COMPLIANCE_DOCUMENT_EXPIRED"
    | .kycExpiry => "KYC_REVERIFICATION_REQUIRED"
    | .gatewayRevoked => "GATEWAY_ACCESS_REVOKED"
    | .chargebackRate => "EXCESSIVE_CHARGEBACK_RATE"
    | .merchantRequest => "REQUESTED_BY_MERCHANT"
    | .operatorAction => "OPERATOR_ACTION"
    | .nonPayment => "NON_PAYMENT_OF_FEES"
    | .sanctionsHit => "SANCTIONS_SCREENING_HIT"
    | .other raw => raw

def SuspensionReason.requiresOperatorReviewToLift : SuspensionReason → Bool
  | .riskBreach | .nonPayment | .merchantRequest => false
  | _ => true

inductive BankAccountStatus where
  | unset | unverified | pendingVerify | verified | verificationFail
  deriving DecidableEq

structure BankAccount where
  id : String
  country : Country
  currency : Currency
  status : BankAccountStatus
  validationRef : String
  validatedAt : Option Time
  isDefault : Bool
  failureReason : String
  deriving DecidableEq

structure Principal where
  id : String
  lastName : String
  ownershipPct : Int
  deriving DecidableEq

structure ComplianceAttestation where
  type : String
  attestedBy : String
  attestedAt : Time
  expiresAt : Time
  deriving DecidableEq

def ComplianceAttestation.isCurrent (a : ComplianceAttestation) (t : Time) : Bool := t < a.expiresAt

inductive EventType where
  | created | validated | validationFailed | kycApproved | kycFailed | bankValidated
  | bankValidationFailed | gatewayProvisioned | provisioningFailed | configurationFailed | certified
  | certificationFailed | complianceRejected | activated | suspended | reinstated | terminated
  deriving DecidableEq

inductive PayloadValue where
  | text (s : String) | int (n : Int) | texts (l : List String) | time (t : Time)

structure Event where
  type : EventType
  merchantID : MerchantID
  tenantID : TenantID
  status : MerchantStatus
  occurredAt : Time
  version : Version
  payload : List (String × PayloadValue)

structure Merchant where
  id : MerchantID
  tenantID : TenantID
  legalName : String
  displayName : String
  externalRef : String
  status : MerchantStatus
  version : Version
  environment : Environment
  country : Country
  mcc : MCC
  bankAccounts : List BankAccount
  principals : List Principal
  kycStatus : KYCStatus
  kycProviderRef : String
  kycCompletedAt : Option Time
  kycExpiresAt : Option Time
  riskRating : RiskRating
  attestations : List ComplianceAttestation
  certificationID : String
  suspensionReason : Option SuspensionReason
  suspendedAt : Option Time
  statusReason : String
  activeConfigVersion : Int
  createdAt : Time
  updatedAt : Time
  activatedAt : Option Time
  events : List Event

structure NewParams where
  tenantID : TenantID
  legalName : String
  displayName : String
  externalRef : String
  environment : Environment
  country : Country
  mcc : MCC

/-- The readings of a clock, in the order in which a call takes them. -/
abbrev Clock := Nat → Time

/-- A call on the aggregate.  One that fails may have changed it all the same. -/
abbrev Result := Merchant × Except GoError Unit

/-- `if err := ...; err != nil { return err }`, and then some assignments. -/
def Result.andThen (r : Result) (assign : Merchant → Merchant) : Result :=
  match r.2 with
  | .ok () => (assign r.1, .ok ())
  | .error e => (r.1, .error e)

namespace Merchant

variable (m : Merchant)

def touch (now : Time) : Merchant :=
  { m with updatedAt := now, version := m.version + 1 }

def raise (t : EventType) (at_ : Time) (payload : List (String × PayloadValue)) : Merchant :=
  { m with events := m.events ++
      [{ type := t, merchantID := m.id, tenantID := m.tenantID, status := m.status,
         occurredAt := at_, version := m.version, payload := payload }] }

def new (p : NewParams) (id : MerchantID) (now : Time) : Except GoError Merchant :=
  let legal := trimSpace p.legalName
  if p.tenantID = "" then .error (ApiError.new .missingTenantContext "merchant requires a tenant")
  else if legal = "" then
    .error (newWithDetail .validationFailed "legal name is required"
      { field := "legalName", code := "REQUIRED",
        message := "the registered legal name of the business", ruleID := "L2.LEGAL_NAME_PRESENT" })
  else if 256 < legal.utf8ByteSize then
    .error (ApiError.new .validationFailed "legal name exceeds 256 characters")
  else if !p.environment.isValid then
    .error (ApiError.new .validationFailed ("invalid environment " ++ quoted (text p.environment)))
  else if !p.country.isValid then
    .error (newWithDetail .validationFailed "a valid business country is required"
      { field := "profile.country", code := "INVALID_COUNTRY",
        message := "must be an ISO 3166-1 alpha-2 code", ruleID := "L2.COUNTRY_IS_VALID_ISO" })
  else
    match p.mcc.isProhibited with
    | some why =>
      .error (newWithDetail .validationFailed
        ("merchant category " ++ p.mcc ++ " cannot be onboarded on this platform")
        { field := "profile.mcc", code := "PROHIBITED_CATEGORY", message := why,
          ruleID := "L2.MCC_NOT_PROHIBITED" })
    | none =>
      let display := trimSpace p.displayName
      let m : Merchant :=
        { id, tenantID := p.tenantID, legalName := legal,
          displayName := if display = "" then legal else display,
          externalRef := trimSpace p.externalRef, status := .created, version := 1,
          environment := p.environment, country := p.country, mcc := p.mcc, bankAccounts := [],
          principals := [], kycStatus := .notStarted, kycProviderRef := "", kycCompletedAt := none,
          kycExpiresAt := none, riskRating := .standard, attestations := [], certificationID := "",
          suspensionReason := none, suspendedAt := none, statusReason := "",
          activeConfigVersion := 0, createdAt := now, updatedAt := now, activatedAt := none,
          events := [] }
      .ok (m.raise .created now
        [("legalName", .text legal), ("country", .text p.country), ("mcc", .text p.mcc),
          ("environment", .text (text p.environment))])

def reasonText : String := (m.suspensionReason.map text).getD ""

def canAcceptPayments (m : Merchant) (now : Time) : Except GoError Unit :=
  if !m.status.canAcceptPayments then
    if m.status = .suspended then
      .error (ApiError.new .merchantSuspended ("merchant is suspended (" ++ m.reasonText ++ ")"))
    else
      .error (ApiError.new .merchantNotActive
        ("merchant is in state " ++ text m.status ++ " and cannot accept payments"))
  else if m.kycExpiresAt.any (· ≤ now) then
    .error (newWithDetail .kycRequired
      "the merchant's verification has expired and must be renewed before processing resumes"
      { field := "kycStatus", code := "EXPIRED", message := "periodic re-verification is overdue",
        ruleID := "L5.MERCHANT_KYC_CURRENT" })
  else .ok ()

def defaultBankAccount : Option BankAccount :=
  (m.bankAccounts.find? fun a => a.isDefault && a.status == .verified).or
    (m.bankAccounts.find? (·.status == .verified))

def transition (m : Merchant) (to_ : MerchantStatus) (reason : String) (now : Time)
    (evt : Option (EventType × List (String × PayloadValue))) : Result :=
  match machine.transition m.status to_ with
  | .error e => (m, .error e)
  | .ok () =>
    let moved := { m with status := to_, statusReason := reason }.touch now
    (match evt with
      | none => moved
      | some (t, payload) => moved.raise t now payload, .ok ())

def approveKYC (providerRef : String) (expiresAt : Time) (rating : RiskRating)
    (clock : Clock) : Result :=
  if providerRef = "" then
    (m, .error (ApiError.new .validationFailed "a KYC provider reference is required"))
  else if expiresAt ≤ clock 0 then
    (m, .error (ApiError.new .validationFailed "KYC expiry must be in the future"))
  else
    let rating := if rating.isValid then rating else .standard
    (m.transition .kycApproved "" (clock 1) (some (.kycApproved,
        [("providerRef", .text providerRef), ("riskRating", .text (text rating)),
          ("expiresAt", .time expiresAt)]))).andThen fun m =>
      { m with
        kycStatus := .approved, kycProviderRef := providerRef, kycCompletedAt := some (clock 0),
        kycExpiresAt := some expiresAt, riskRating := rating }

def addBankAccount (acct : BankAccount) (clock : Clock) : Result :=
  if acct.id = "" then
    (m, .error (ApiError.new .validationFailed "bank account requires an identifier"))
  else if !acct.country.isValid then
    (m, .error (ApiError.new .validationFailed "bank account requires a valid country"))
  else if !acct.currency.isSupported then
    (m, .error (ApiError.new .currencyNotSupported
      ("settlement currency " ++ quoted acct.currency ++ " is not supported")))
  else if m.bankAccounts.any (·.id == acct.id) then
    (m, .error (ApiError.new .validationFailed ("bank account " ++ acct.id ++ " already exists")))
  else
    let acct := { acct with
      isDefault := m.bankAccounts.isEmpty || acct.isDefault
      status := if acct.status = .unset then .unverified else acct.status }
    ({ m with bankAccounts := m.bankAccounts ++ [acct] }.touch (clock 0), .ok ())

/-- The first account with the identifier is changed. -/
def verify (accountID validationRef : String) (now : Time) : List BankAccount → Option (List BankAccount)
  | [] => none
  | a :: rest =>
    if a.id = accountID then
      some ({ a with
        status := .verified, validationRef := validationRef, validatedAt := some now,
        failureReason := "" } :: rest)
    else (verify accountID validationRef now rest).map (a :: ·)

def validateBankAccount (accountID validationRef : String) (clock : Clock) : Result :=
  match verify accountID validationRef (clock 0) m.bankAccounts with
  | none =>
    (m, .error (ApiError.new .validationFailed ("bank account " ++ accountID ++ " not found")))
  | some accounts =>
    let m := { m with bankAccounts := accounts }
    if m.status ≠ .kycApproved ∧ m.status ≠ .bankValidationFailed then
      (m.touch (clock 0), .ok ())
    else
      m.transition .bankValidated "" (clock 1)
        (some (.bankValidated, [("bankAccountId", .text accountID)]))

def failBankValidation (accountID reason : String) (clock : Clock) : Result :=
  let accounts := m.bankAccounts.map fun a : BankAccount =>
    if a.id = accountID then { a with status := .verificationFail, failureReason := reason } else a
  { m with bankAccounts := accounts }.transition .bankValidationFailed reason (clock 0)
    (some (.bankValidationFailed, [("bankAccountId", .text accountID), ("reason", .text reason)]))

def applyConfiguration (version : Int) (clock : Clock) : Result :=
  if version ≤ 0 then
    (m, .error (ApiError.new .configurationInvalid "configuration version must be positive"))
  else
    (m.transition .sandboxValidation "" (clock 0) none).andThen fun m =>
      { m with activeConfigVersion := version }

def setActiveConfigVersion (version : Int) (clock : Clock) : Result :=
  if version ≤ 0 then
    (m, .error (ApiError.new .configurationInvalid "configuration version must be positive"))
  else ({ m with activeConfigVersion := version }.touch (clock 0), .ok ())

def approve (certificationReportID approvedBy : String) (clock : Clock) : Result :=
  if certificationReportID = "" then
    (m, .error (ApiError.new .certificationFailed
      "a passing certification report is required before approval"))
  else
    (m.transition .approved "" (clock 0) (some (.certified,
        [("certificationReportId", .text certificationReportID), ("approvedBy", .text approvedBy)]))).andThen
      fun m => { m with certificationID := certificationReportID }

def rejectForCompliance (reasonCode detail rejectedBy : String) (clock : Clock) : Result :=
  if reasonCode = "" then
    (m, .error (ApiError.new .validationFailed
      "a compliance rejection requires a reason code for the audit trail"))
  else
    m.transition .complianceRejected detail (clock 0) (some (.complianceRejected,
      [("reasonCode", .text reasonCode), ("detail", .text detail), ("rejectedBy", .text rejectedBy)]))

def requiredAttestations : List String := ["PCI_SAQ", "TERMS_ACCEPTANCE"]

def holdsAttestation (want : String) (now : Time) : Bool :=
  m.attestations.any fun a => a.type == want && a.isCurrent now

def hasCurrentAttestations (now : Time) : Except GoError Unit :=
  match requiredAttestations.find? fun want => !m.holdsAttestation want now with
  | none => .ok ()
  | some want =>
    .error (newWithDetail .validationFailed
      ("cannot activate: a current " ++ want ++ " attestation is required")
      { field := "attestations", code := "MISSING_OR_EXPIRED",
        message := want ++ " is missing or expired",
        ruleID := "L2.COMPLIANCE_ATTESTATIONS_CURRENT" })

/-- What `Activate` checks before it moves the merchant. -/
def activationGuard (now : Time) : Except GoError Unit :=
  if m.kycStatus ≠ .approved then
    .error (ApiError.new .kycRequired "cannot activate: verification is not approved")
  else if !m.kycExpiresAt.any (now < ·) then
    .error (ApiError.new .kycRequired "cannot activate: verification has no future expiry")
  else if m.defaultBankAccount.isNone then
    .error (newWithDetail .validationFailed "cannot activate: no verified settlement account"
      { field := "bankAccounts", code := "NONE_VERIFIED",
        message := "at least one settlement account must be verified",
        ruleID := "L2.SETTLEMENT_ACCOUNT_VERIFIED" })
  else if m.certificationID = "" then
    .error (ApiError.new .certificationFailed
      "cannot activate: no passing certification report is on file")
  else if m.activeConfigVersion ≤ 0 then
    .error (ApiError.new .configurationInvalid "cannot activate: no configuration version is in force")
  else m.hasCurrentAttestations now

def activate (clock : Clock) : Result :=
  match m.activationGuard (clock 0) with
  | .error e => (m, .error e)
  | .ok () =>
    (m.transition .active "" (clock 1) (some (.activated,
        [("configVersion", .int m.activeConfigVersion),
          ("certificationId", .text m.certificationID)]))).andThen fun m =>
      { m with activatedAt := some (clock 0), suspensionReason := none, suspendedAt := none }

def addAttestation (a : ComplianceAttestation) (clock : Clock) : Result :=
  if a.type = "" ∨ a.attestedBy = "" then
    (m, .error (ApiError.new .validationFailed
      "an attestation requires a type and an attesting party"))
  else if a.expiresAt ≤ a.attestedAt then
    (m, .error (ApiError.new .validationFailed "an attestation must expire after it was made"))
  else
    let attestations :=
      match m.attestations.findIdx? (·.type == a.type) with
      | some i => m.attestations.set i a
      | none => m.attestations ++ [a]
    ({ m with attestations }.touch (clock 0), .ok ())

def addPrincipal (p : Principal) (clock : Clock) : Result :=
  let total := p.ownershipPct + (m.principals.map (·.ownershipPct)).sum
  if p.id = "" ∨ p.lastName = "" then
    (m, .error (ApiError.new .validationFailed "a principal requires an identifier and a surname"))
  else if p.ownershipPct < 0 ∨ 100 < p.ownershipPct then
    (m, .error (ApiError.new .validationFailed "ownership percentage must be between 0 and 100"))
  else if m.principals.any (·.id == p.id) then
    (m, .error (ApiError.new .validationFailed ("principal " ++ p.id ++ " already exists")))
  else if 100 < total then
    (m, .error (newWithDetail .validationFailed
      ("declared ownership totals " ++ toString total ++ "%, which exceeds 100%")
      { field := "principals", code := "OWNERSHIP_EXCEEDS_100",
        message := "beneficial ownership percentages must not sum above 100",
        ruleID := "L2.OWNERSHIP_SUMS_CORRECTLY" }))
  else ({ m with principals := m.principals ++ [p] }.touch (clock 0), .ok ())

def suspend (reason : SuspensionReason) (detail : String) (clock : Clock) : Result :=
  (m.transition .suspended detail (clock 1) (some (.suspended,
      [("reason", .text (text reason)), ("detail", .text detail)]))).andThen fun m =>
    { m with suspensionReason := some reason, suspendedAt := some (clock 0) }

def reinstate (actorIsOperator : Bool) (clock : Clock) : Result :=
  if m.status ≠ .suspended then
    (m, .error (ApiError.new .invalidStateTransition
      ("merchant is in state " ++ text m.status ++ ", not SUSPENDED")))
  else if m.suspensionReason.all (·.requiresOperatorReviewToLift) && !actorIsOperator then
    (m, .error (newWithDetail .forbidden
      ("a suspension for " ++ m.reasonText ++ " can only be lifted after operator review")
      { field := "suspensionReason", code := "REQUIRES_OPERATOR_REVIEW",
        message := "this suspension reason cannot be cleared automatically",
        ruleID := "L2.SUSPENSION_LIFT_AUTHORITY" }))
  else
    (m.transition .active "" (clock 0) (some (.reinstated,
        [("previousReason", .text m.reasonText)]))).andThen fun m =>
      { m with suspensionReason := none, suspendedAt := none }

def terminate (m : Merchant) (reason : String) (openPayments : Int) (clock : Clock) : Result :=
  if 0 < openPayments then
    (m, .error (newWithDetail .invalidStateTransition
      ("cannot terminate: " ++ toString openPayments ++ " payments are still in a non-terminal state")
      { field := "status", code := "OPEN_PAYMENTS",
        message := "settle, refund or void all open payments before terminating",
        ruleID := "L7.TERMINATION_REQUIRES_NO_OPEN_PAYMENTS" }))
  else m.transition .terminated reason (clock 0) (some (.terminated, [("reason", .text reason)]))

end Merchant

inductive Mutation where
  | startValidation
  | failValidation (reason : String)
  | passValidation
  | approveKYC (providerRef : String) (expiresAt : Time) (rating : RiskRating)
  | rejectKYC (providerRef reason : String)
  | resubmitKYC
  | addBankAccount (acct : BankAccount)
  | validateBankAccount (accountID validationRef : String)
  | failBankValidation (accountID reason : String)
  | startProvisioning
  | completeProvisioning (gatewayIDs : List String)
  | failProvisioning (reason : String)
  | applyConfiguration (version : Int)
  | setActiveConfigVersion (version : Int)
  | failConfiguration (reason : String)
  | startCertification
  | approve (certificationReportID approvedBy : String)
  | failCertification (reason : String)
  | rejectForCompliance (reasonCode detail rejectedBy : String)
  | markProductionReady
  | activate
  | addAttestation (a : ComplianceAttestation)
  | addPrincipal (p : Principal)
  | suspend (reason : SuspensionReason) (detail : String)
  | reinstate (actorIsOperator : Bool)
  | terminate (reason : String) (openPayments : Int)
  deriving DecidableEq

def Mutation.apply (m : Merchant) (clock : Clock) : Mutation → Result
  | .startValidation => m.transition .validating "" (clock 0) none
  | .failValidation reason =>
    m.transition .validationFailed reason (clock 0) (some (.validationFailed, [("reason", .text reason)]))
  | .passValidation =>
    (m.transition .kycPending "" (clock 0) (some (.validated, []))).andThen
      ({ · with kycStatus := .inProgress })
  | .approveKYC providerRef expiresAt rating => m.approveKYC providerRef expiresAt rating clock
  | .rejectKYC providerRef reason =>
    (m.transition .kycFailed reason (clock 0) (some (.kycFailed,
        [("providerRef", .text providerRef), ("reason", .text reason)]))).andThen
      ({ · with kycStatus := .rejected, kycProviderRef := providerRef })
  | .resubmitKYC =>
    (m.transition .kycPending "" (clock 0) none).andThen ({ · with kycStatus := .inProgress })
  | .addBankAccount acct => m.addBankAccount acct clock
  | .validateBankAccount accountID ref => m.validateBankAccount accountID ref clock
  | .failBankValidation accountID reason => m.failBankValidation accountID reason clock
  | .startProvisioning => m.transition .gatewayProvisioning "" (clock 0) none
  | .completeProvisioning gatewayIDs =>
    m.transition .configuring "" (clock 0) (some (.gatewayProvisioned, [("gateways", .texts gatewayIDs)]))
  | .failProvisioning reason =>
    m.transition .provisioningFailed reason (clock 0)
      (some (.provisioningFailed, [("reason", .text reason)]))
  | .applyConfiguration version => m.applyConfiguration version clock
  | .setActiveConfigVersion version => m.setActiveConfigVersion version clock
  | .failConfiguration reason =>
    m.transition .configurationFailed reason (clock 0)
      (some (.configurationFailed, [("reason", .text reason)]))
  | .startCertification => m.transition .certification "" (clock 0) none
  | .approve report by_ => m.approve report by_ clock
  | .failCertification reason =>
    m.transition .certificationFailed reason (clock 0)
      (some (.certificationFailed, [("reason", .text reason)]))
  | .rejectForCompliance reasonCode detail rejectedBy =>
    m.rejectForCompliance reasonCode detail rejectedBy clock
  | .markProductionReady => m.transition .productionReady "" (clock 0) none
  | .activate => m.activate clock
  | .addAttestation a => m.addAttestation a clock
  | .addPrincipal p => m.addPrincipal p clock
  | .suspend reason detail => m.suspend reason detail clock
  | .reinstate actorIsOperator => m.reinstate actorIsOperator clock
  | .terminate reason openPayments => m.terminate reason openPayments clock

end PaymentsPlatform.Merchants
