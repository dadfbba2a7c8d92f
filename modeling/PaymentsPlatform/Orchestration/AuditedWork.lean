/- layer: model of domain/audit/record.go, of platform/runtime/auditor.go and of the audit calls of
     the services; results
   digest: What every audit record must state, and which units of work the auditor lets through. -/

import PaymentsPlatform.Orchestration.Answers

namespace PaymentsPlatform.Audit

abbrev AuditID := String

inductive ActorType where
  | user | service | system
  | other (raw : String)

instance : StringType ActorType where
  text
    | .user => "USER"
    | .service => "SERVICE"
    | .system => "SYSTEM"
    | .other raw => raw

def ActorType.isValid : ActorType → Bool
  | .other _ => false
  | _ => true

structure Actor where
  type : ActorType
  id : String
  name : String

def Actor.validate (a : Actor) : Except GoError Unit :=
  if !a.type.isValid then
    .error (newWithDetail .validationFailed ("unknown actor type " ++ quoted (text a.type))
      { field := "actor.type", code := "UNKNOWN_ACTOR_TYPE",
        message := "must be USER, SERVICE or SYSTEM", ruleID := "L7.AUDIT_ACTOR_IDENTIFIED" })
  else if trimSpace a.id = "" then
    .error (newWithDetail .validationFailed "an audit record requires an identified actor"
      { field := "actor.id", code := "MISSING_ACTOR_ID",
        message := "an unattributed audit record answers none of the questions an audit asks",
        ruleID := "L7.AUDIT_ACTOR_IDENTIFIED" })
  else .ok ()

inductive Outcome where
  | success | failure | denied
  | other (raw : String)

instance : StringType Outcome where
  text
    | .success => "SUCCESS"
    | .failure => "FAILURE"
    | .denied => "DENIED"
    | .other raw => raw

def Outcome.isValid : Outcome → Bool
  | .other _ => false
  | _ => true

inductive Action where
  | merchantCreated | merchantApproved | merchantSuspended | merchantTerminated
  | configurationChanged | routingChanged | credentialRotated
  | paymentCreated | paymentCaptured | paymentRefunded | paymentVoided
  | workflowSignal | manualGateApproved | adminAction
  | login | permissionDenied
  | other (raw : String)

instance : StringType Action where
  text
    | .merchantCreated => "merchant.created"
    | .merchantApproved => "merchant.approved"
    | .merchantSuspended => "merchant.suspended"
    | .merchantTerminated => "merchant.terminated"
    | .configurationChanged => "configuration.changed"
    | .routingChanged => "routing.changed"
    | .credentialRotated => "credential.rotated"
    | .paymentCreated => "payment.created"
    | .paymentCaptured => "payment.captured"
    | .paymentRefunded => "payment.refunded"
    | .paymentVoided => "payment.voided"
    | .workflowSignal => "workflow.signal"
    | .manualGateApproved => "gate.approved"
    | .adminAction => "admin.action"
    | .login => "auth.login"
    | .permissionDenied => "authz.permission_denied"
    | .other raw => raw

def Action.isValid : Action → Bool
  | .other _ => false
  | _ => true

def Action.requiresReason : Action → Bool
  | .merchantApproved | .merchantSuspended | .merchantTerminated | .configurationChanged
  | .routingChanged | .credentialRotated | .manualGateApproved | .adminAction => true
  | _ => false

/-- A snapshot of the audited resource, as the record's canonical encoder sees it. -/
abbrev Snapshot := List (String × String)

/-- An audit entry.  The last three fields are unset until a chain links it. -/
structure Record where
  id : AuditID
  tenantID : TenantID
  actor : Actor
  action : Action
  resourceType : String
  resourceID : String
  outcome : Outcome
  before : Snapshot
  after : Snapshot
  reason : String
  correlationID : String
  traceID : String
  occurredAt : Time
  recordedAt : Time
  sequence : Nat
  prevDigest : String
  digest : String

structure NewRecordParams where
  tenantID : TenantID
  actor : Actor
  action : Action
  resourceType : String
  resourceID : String
  outcome : Outcome
  before : Snapshot
  after : Snapshot
  reason : String
  correlationID : String
  traceID : String
  /-- Absent means now. -/
  occurredAt : Option Time

def newRecord (p : NewRecordParams) (id : AuditID) (now : Time) : Except GoError Record := do
  if p.tenantID = "" then
    .error (new .missingTenantContext "an audit record requires a tenant")
  else do
    p.actor.validate
    if !p.action.isValid then
      .error (newWithDetail .validationFailed ("unknown audit action " ++ quoted (text p.action))
        { field := "action", code := "UNKNOWN_ACTION",
          message := "the auditable action set is closed; add the action to internal/domain/audit",
          ruleID := "L7.AUDIT_ACTION_KNOWN" })
    else if !p.outcome.isValid then
      .error (newWithDetail .validationFailed ("unknown audit outcome " ++ quoted (text p.outcome))
        { field := "outcome", code := "UNKNOWN_OUTCOME",
          message := "must be SUCCESS, FAILURE or DENIED", ruleID := "L7.AUDIT_OUTCOME_KNOWN" })
    else if trimSpace p.resourceType = "" ∨ trimSpace p.resourceID = "" then
      .error (newWithDetail .validationFailed "an audit record requires the resource it acted on"
        { field := "resource", code := "MISSING_RESOURCE",
          message := "\"something was changed\" is not an audit record; name the resource",
          ruleID := "L7.AUDIT_RESOURCE_IDENTIFIED" })
    else if p.action.requiresReason ∧ trimSpace p.reason = "" then
      .error (newWithDetail .validationFailed
        ("action " ++ text p.action ++ " may not be recorded without a reason")
        { field := "reason", code := "REASON_REQUIRED",
          message := "dual-controlled and high-consequence changes require a stated reason and " ++
            "a change reference",
          ruleID := "L7.AUDIT_REASON_REQUIRED" })
    else
      .ok {
        id := id
        tenantID := p.tenantID
        actor := p.actor
        action := p.action
        resourceType := trimSpace p.resourceType
        resourceID := trimSpace p.resourceID
        outcome := p.outcome
        before := p.before
        after := p.after
        reason := p.reason
        correlationID := p.correlationID
        traceID := p.traceID
        occurredAt := p.occurredAt.getD now
        recordedAt := now
        sequence := 0
        prevDigest := ""
        digest := "" }

structure NewRecordParams.Named (p : NewRecordParams) : Prop where
  tenant : p.tenantID ≠ ""
  actor : p.actor.validate = .ok ()
  action : p.action.isValid = true
  outcome : p.outcome.isValid = true
  resourceType : trimSpace p.resourceType ≠ ""
  resourceID : trimSpace p.resourceID ≠ ""

theorem newRecord_isOk_iff {p : NewRecordParams} (named : p.Named) (id : AuditID) (now : Time) :
    (newRecord p id now).isOk = true ↔
      (p.action.requiresReason = true → trimSpace p.reason ≠ "") := by
  have resource : ¬ (trimSpace p.resourceType = "" ∨ trimSpace p.resourceID = "") :=
    not_or.mpr ⟨named.resourceType, named.resourceID⟩
  unfold newRecord
  simp only [if_neg named.tenant, named.actor, named.action, named.outcome, if_neg resource,
    Bool.not_true, Bool.false_eq_true, if_false]
  by_cases missing : p.action.requiresReason = true ∧ trimSpace p.reason = ""
  · rw [if_pos missing]
    exact iff_of_false Bool.false_ne_true fun given => given missing.1 missing.2
  · rw [if_neg missing]
    exact iff_of_true rfl (not_and.mp missing)

open Storage (AuditEntry)

inductive PrincipalType where
  | human | machine | workload
  | other (raw : String)

structure Principal where
  type : PrincipalType
  id : String
  name : String

structure TenantContext where
  tenantID : TenantID
  principal : Principal
  requestID : String

/-- The mapping from the use cases' action strings to the closed set. -/
def defaultAuditActions : List (String × Action) :=
  [("merchant.created", .merchantCreated), ("merchant.updated", .adminAction),
    ("merchant.approved", .merchantApproved), ("merchant.suspended", .merchantSuspended),
    ("merchant.reinstated", .adminAction), ("merchant.terminated", .merchantTerminated),
    ("configuration.changed", .configurationChanged),
    ("configuration.rollback", .configurationChanged), ("routing.changed", .routingChanged),
    ("credential.rotated", .credentialRotated), ("payment.created", .paymentCreated),
    ("payment.captured", .paymentCaptured), ("payment.refunded", .paymentRefunded),
    ("payment.voided", .paymentVoided), ("workflow.signal", .workflowSignal),
    ("workflow.started", .adminAction), ("workflow.cancelled", .adminAction),
    ("workflow.retried", .adminAction), ("gate.approved", .manualGateApproved),
    ("admin.action", .adminAction)]

def actionOf (action : String) : Action := (defaultAuditActions.lookup action).getD .adminAction

def tenantOf : Option TenantContext → Except GoError TenantID
  | none =>
    .error (new .missingTenantContext "tenant context was not established for this operation")
  | some tc => .ok tc.tenantID

def actorOf : Option TenantContext → Actor
  | none => { type := .system, id := "system", name := "system" }
  | some tc =>
    let id := orDefault tc.principal.id "unknown"
    { type := match tc.principal.type with
        | .human => .user
        | .machine => .service
        | .workload => .service
        | .other _ => .service
      id := id
      name := orDefault tc.principal.name id }

def correlationOf (ctx : Option TenantContext) : String := (ctx.map TenantContext.requestID).getD ""

def outcomeOf (s : String) : Outcome :=
  match s with
  | "FAILURE" => .failure
  | "DENIED" => .denied
  | _ => .success

/-- The clock at the resolution the audit table stores. -/
def storageResolution (now : Time) : Time := now - now % 1000

/-- What one call of `Record` reads besides its arguments: the two clock readings and the new
identifier. -/
structure AuditorEnv where
  ctx : Option TenantContext
  occurredAt : Time
  recordedAt : Time
  id : AuditID

/-- What `Record` passes on: the entry's detail becomes the snapshot after the action, and
there is no reason. -/
def paramsFor (env : AuditorEnv) (tenantID : TenantID) (entry : AuditEntry) : NewRecordParams where
  tenantID := tenantID
  actor := actorOf env.ctx
  action := actionOf entry.action
  resourceType := entry.resourceType
  resourceID := entry.resourceID
  outcome := outcomeOf entry.outcome
  before := []
  after := entry.detail
  reason := ""
  correlationID := correlationOf env.ctx
  traceID := ""
  occurredAt := some (storageResolution env.occurredAt)

/-- The first half of `Record`: the record for an entry. -/
def recordFor (env : AuditorEnv) (entry : AuditEntry) : Except GoError Record := do
  let tenantID ← tenantOf env.ctx
  newRecord (paramsFor env tenantID entry) env.id (storageResolution env.recordedAt)

/-- `Record`.  Linking the record to the tenant's chain and inserting it is `append`. -/
def record (append : Record → Option GoError) (env : AuditorEnv) (entry : AuditEntry) :
    Option GoError :=
  match recordFor env entry with
  | .error err => some err
  | .ok rec => append rec

/-- A request of an identified principal inside a tenant. -/
structure Authenticated (ctx : Option TenantContext) : Prop where
  tenant : ∃ tc, ctx = some tc ∧ tc.tenantID ≠ ""
  actor : (actorOf ctx).validate = .ok ()

theorem mem_of_lookup {action : String} {act : Action}
    (found : defaultAuditActions.lookup action = some act) :
    (action, act) ∈ defaultAuditActions := by
  obtain ⟨before, after, split, -⟩ := List.lookup_eq_some_iff.mp found
  rw [split]
  simp

theorem actionOf_isValid (action : String) : (actionOf action).isValid = true := by
  have known : ∀ entry ∈ defaultAuditActions, entry.2.isValid = true := by decide
  unfold actionOf
  cases found : defaultAuditActions.lookup action with
  | none => rfl
  | some act => exact known (action, act) (mem_of_lookup found)

/-- The action strings that are recorded without a reason. -/
def reasonlessActions : List String :=
  ["merchant.created", "payment.created", "payment.captured", "payment.refunded",
    "payment.voided", "workflow.signal"]

theorem requiresReason_actionOf_iff (action : String) :
    (actionOf action).requiresReason = false ↔ action ∈ reasonlessActions := by
  have listed : ∀ entry ∈ defaultAuditActions, entry.2.requiresReason = false →
      entry.1 ∈ reasonlessActions := by decide
  have recorded : ∀ name ∈ reasonlessActions, (actionOf name).requiresReason = false := by decide
  refine ⟨fun optional => ?_, recorded action⟩
  unfold actionOf at optional
  cases found : defaultAuditActions.lookup action with
  | none =>
    rw [found] at optional
    cases optional
  | some act =>
    rw [found] at optional
    exact listed (action, act) (mem_of_lookup found) optional

theorem outcomeOf_isValid (s : String) : (outcomeOf s).isValid = true := by
  unfold outcomeOf
  split <;> rfl

theorem recordFor_isOk_iff {env : AuditorEnv} (authenticated : Authenticated env.ctx)
    {entry : AuditEntry} (type : trimSpace entry.resourceType ≠ "")
    (resource : trimSpace entry.resourceID ≠ "") :
    (recordFor env entry).isOk = true ↔ entry.action ∈ reasonlessActions := by
  rw [← requiresReason_actionOf_iff]
  obtain ⟨tc, established, tenant⟩ := authenticated.tenant
  have built : recordFor env entry =
      newRecord (paramsFor env tc.tenantID entry) env.id (storageResolution env.recordedAt) := by
    rw [recordFor, show tenantOf env.ctx = .ok tc.tenantID by rw [established]; rfl]
    rfl
  have named : (paramsFor env tc.tenantID entry).Named :=
    { tenant := tenant, actor := authenticated.actor, action := actionOf_isValid _,
      outcome := outcomeOf_isValid _, resourceType := type, resourceID := resource }
  rw [built, newRecord_isOk_iff named]
  have blank : trimSpace (paramsFor env tc.tenantID entry).reason = "" := by
    show trimSpace "" = ""
    decide
  rw [blank]
  exact ⟨fun given => Bool.eq_false_iff.mpr fun required => given required rfl,
    fun optional required => absurd required (Bool.eq_false_iff.mp optional)⟩

/-! What the merchant and configuration services ask to be recorded. -/

structure UseCaseActor where
  id : String
  name : String
  reason : String

inductive MerchantUseCase where
  | create | update | suspend | reinstate | terminate | addBankAccount | addPrincipal
  | addAttestation
  deriving DecidableEq

def MerchantUseCase.action : MerchantUseCase → String
  | .create => "merchant.created"
  | .update => "merchant.updated"
  | .suspend => "merchant.suspended"
  | .reinstate => "merchant.reinstated"
  | .terminate => "merchant.terminated"
  | .addBankAccount => "merchant.bank_account_added"
  | .addPrincipal => "merchant.principal_added"
  | .addAttestation => "merchant.attestation_added"

/-- `audit` of the merchant service: the reason goes into the detail. -/
def MerchantUseCase.entry (useCase : MerchantUseCase) (merchant : MerchantID)
    (actor : UseCaseActor) (detail : List (String × String)) : AuditEntry where
  action := useCase.action
  resourceType := "merchant"
  resourceID := merchant
  outcome := "SUCCESS"
  detail := detail ++ [("actorId", actor.id), ("actorName", actor.name)] ++
    if actor.reason = "" then [] else [("reason", actor.reason)]

inductive ConfigUseCase where
  | publish | rollback
  deriving DecidableEq

def ConfigUseCase.action : ConfigUseCase → String
  | .publish => "configuration.published"
  | .rollback => "configuration.rolled_back"

/-- `audit` of the configuration service, whose actor carries no reason: a publication has
its comment in the detail. -/
def ConfigUseCase.entry (useCase : ConfigUseCase) (merchant : MerchantID)
    (actor : UseCaseActor) (detail : List (String × String)) : AuditEntry where
  action := useCase.action
  resourceType := "configuration"
  resourceID := merchant
  outcome := "SUCCESS"
  detail := detail ++ [("actorId", actor.id), ("actorName", actor.name)]

end PaymentsPlatform.Audit

namespace PaymentsPlatform.Orchestration

open Gateways Lib.Procedure Payments
open Audit
  (Authenticated AuditorEnv ConfigUseCase MerchantUseCase UseCaseActor reasonlessActions recordFor)
open Storage (AuditEntry Row Tx)

/-- A use case that records what it did in its own transaction. -/
inductive AuditedUnit where
  | settle (o : Orchestrator) (sin : SettleInput) (pay : Payment) (answer : Answer)
  | followUp (op : Operation) (pay : PaymentID)
  | refund (pay : PaymentID)
  | createPayment (pay : PaymentID)
  | reconcile (pay : PaymentID)
  | expire (pay : PaymentID)
  | settlement (pay : PaymentID)
  | merchant (useCase : MerchantUseCase) (merchant : MerchantID) (actor : UseCaseActor)
  | configuration (useCase : ConfigUseCase) (merchant : MerchantID) (actor : UseCaseActor)

namespace AuditedUnit

def paymentEntry (action : String) (pay : PaymentID) (detail : List (String × String)) :
    AuditEntry where
  action := action
  resourceType := "payment"
  resourceID := pay
  outcome := "SUCCESS"
  detail := detail

def entry (detail : List (String × String)) : AuditedUnit → AuditEntry
  | .settle o sin pay answer => paymentEntry (settledAction o sin pay answer) pay.id detail
  | .followUp op pay => paymentEntry ("payment." ++ text op) pay detail
  | .refund pay => paymentEntry "payment.refunded" pay detail
  | .createPayment pay => paymentEntry "payment.created" pay detail
  | .reconcile pay => paymentEntry "payment.reconciled" pay detail
  | .expire pay => paymentEntry "payment.expired" pay detail
  | .settlement pay => paymentEntry "payment.settled" pay detail
  | .merchant useCase id actor => useCase.entry id actor detail
  | .configuration useCase id actor => useCase.entry id actor detail

def Captured (o : Orchestrator) (sin : SettleInput) (pay : Payment) (answer : Answer) : Prop :=
  answer.callErr = none ∧ ∃ resp, answer.resp = some resp ∧ resp.status = .captured ∧
    o.validateGatewayResponse (responseOf resp) (expectedOf pay sin) = none

/-- The units of work whose record needs no reason. -/
def Recordable : AuditedUnit → Prop
  | .settle o sin pay answer => Captured o sin pay answer
  | .refund _ => True
  | .createPayment _ => True
  | .merchant useCase _ _ => useCase = .create
  | _ => False

end AuditedUnit

theorem statusAction_reasonless_iff (status : Spi.Status) :
    statusAction status ∈ reasonlessActions ↔ status = .captured := by
  cases status <;> simp [statusAction, reasonlessActions]

theorem settledAction_reasonless_iff (o : Orchestrator) (sin : SettleInput) (pay : Payment)
    (answer : Answer) :
    settledAction o sin pay answer ∈ reasonlessActions ↔
      AuditedUnit.Captured o sin pay answer := by
  have unknown : "payment.attempt_unknown" ∉ reasonlessActions := by decide
  have failed : "payment.attempt_failed" ∉ reasonlessActions := by decide
  rcases answer with ⟨resp, _ | err⟩
  · cases resp with
    | none =>
      have settled : settledAction o sin pay ⟨none, none⟩ = "payment.attempt_unknown" := rfl
      rw [settled]
      refine iff_of_false unknown ?_
      rintro ⟨-, _, missing, -⟩
      cases missing
    | some resp =>
      dsimp only [settledAction]
      cases verdict : o.validateGatewayResponse (responseOf resp) (expectedOf pay sin) with
      | some =>
        refine iff_of_false unknown ?_
        rintro ⟨-, _, same, -, valid⟩
        cases same
        rw [verdict] at valid
        cases valid
      | none =>
        refine (statusAction_reasonless_iff resp.status).trans ⟨fun captured => ?_, ?_⟩
        · exact ⟨rfl, resp, rfl, captured, verdict⟩
        · rintro ⟨-, _, same, captured, -⟩
          cases same
          exact captured
  · refine iff_of_false ?_ ?_
    · unfold settledAction
      split
      · exact unknown
      · exact failed
    · rintro ⟨fine, -⟩
      cases fine

theorem AuditedUnit.reasonless_iff (u : AuditedUnit) (detail : List (String × String)) :
    (u.entry detail).action ∈ reasonlessActions ↔ u.Recordable := by
  cases u with
  | settle o sin pay answer => exact settledAction_reasonless_iff o sin pay answer
  | followUp op =>
    cases op <;>
      simp [AuditedUnit.entry, AuditedUnit.paymentEntry, AuditedUnit.Recordable, text,
        Shared.StringType.text, reasonlessActions]
  | merchant useCase =>
    cases useCase <;>
      simp [AuditedUnit.entry, MerchantUseCase.entry, MerchantUseCase.action,
        AuditedUnit.Recordable, reasonlessActions]
  | configuration useCase =>
    cases useCase <;>
      simp [AuditedUnit.entry, ConfigUseCase.entry, ConfigUseCase.action,
        AuditedUnit.Recordable, reasonlessActions]
  | _ =>
    simp [AuditedUnit.entry, AuditedUnit.paymentEntry, AuditedUnit.Recordable, reasonlessActions]

/-- Among the units of work, only these come with a record that is accepted. -/
theorem audited_unit_recorded_iff (env : AuditorEnv) (u : AuditedUnit)
    (detail : List (String × String)) (authenticated : Authenticated env.ctx)
    (identified : trimSpace (u.entry detail).resourceID ≠ "") :
    (recordFor env (u.entry detail)).isOk = true ↔ u.Recordable := by
  have typed : trimSpace (u.entry detail).resourceType ≠ "" := by
    have types : ∀ type ∈ ["payment", "merchant", "configuration"], trimSpace type ≠ "" := by decide
    apply types
    cases u <;> simp [AuditedUnit.entry, AuditedUnit.paymentEntry, MerchantUseCase.entry,
      ConfigUseCase.entry]
  rw [Audit.recordFor_isOk_iff authenticated typed identified, u.reasonless_iff]

/-! A payment of an authenticated client. -/

def sampleAuditor : AuditorEnv where
  ctx := some { tenantID := "ten_1", principal := ⟨.machine, "cli_1", "shop"⟩, requestID := "req_1" }
  occurredAt := 1
  recordedAt := 1
  id := "aud_1"

def sampleSettle : SettleInput where
  plan := sampleInput.plan
  gateway := "stripe"
  operation := .authorize
  breakerKey := "stripe:authorize"
  attemptID := "att_1"
  index := 0

def sampleUnit (status : Spi.Status) : AuditedUnit :=
  .settle sampleOrchestrator sampleSettle samplePersisted (sampleAnswer status .unset)

theorem audited_unit_recorded_captured :
    (recordFor sampleAuditor ((sampleUnit .captured).entry [])).isOk = true :=
  (audited_unit_recorded_iff sampleAuditor (sampleUnit .captured) []
    ⟨⟨_, rfl, by decide⟩, by decide +kernel⟩ (by decide +kernel)).mpr ⟨rfl, _, rfl, rfl, rfl⟩

def auditedAttempt (n : Nat) : AttemptEnv :=
  { sampleAttempt n (sampleAnswer .authorized .unset) with
    outcomeTx := { Tx.undisturbed with auditErr := Audit.record (fun _ => none) sampleAuditor } }

/-- The gateway holds an authorization; the payment's row says that nothing was heard of it. -/
theorem authorization_unrecorded :
    let final := (dispatch sampleOrchestrator sampleInput
      { attempts := auditedAttempt, finalTx := Tx.undisturbed } sampleWorld).1
    (recordFor sampleAuditor ((sampleUnit .authorized).entry [])).isOk = false ∧
      final.calls = [0] ∧ final.row.payment.state = .processing ∧
      final.row.payment.attempts.map (·.outcome) = [.pending] := by
  decide +kernel

end PaymentsPlatform.Orchestration
