/- layer: model of application/payment (velocity.go, risk_evaluator.go, ValidateCreate of
     validator.go) and of infrastructure/redis/velocity.go; results
   digest: When the risk decision and the merchant's limits keep a payment from a gateway. -/

import PaymentsPlatform.Lib.SlidingWindow
import PaymentsPlatform.Orchestration.Exhaustion
import PaymentsPlatform.Validation.Rules

namespace PaymentsPlatform.Orchestration

open Lib.Procedure Payments
open Pkg (Money)
open Risk (Assessment Decision Policy evaluate evaluate_approved_iff
  evaluate_declined_iff verdicts)
open Storage (Row Tx)

def sends (log : List Effect) : Bool := log.any (·.called.isSome)

/-! An Authorize call is not taken back. -/

def SentOff (w : World) : Prop := sends w.log = true

variable {w : World}

theorem SentOff.append {w' : World} (h : SentOff w) (suffix : List Effect)
    (grown : w'.log = w.log ++ suffix) : SentOff w' := by
  have called : w.log.any (·.called.isSome) = true := h
  rw [SentOff, sends, grown, List.any_append, called, Bool.true_or]

theorem keeps_emit_sentOff (e : Effect) : Keeps SentOff (emit e) :=
  Triple.modify fun _ h => h.append [e] rfl

theorem keeps_sent_of_moves {α : Type} {c : Proc α} (h : Moves NoCall c) : Keeps SentOff c :=
  Keeps.iff_state.mpr fun w sent =>
    have ⟨suffix, grown, _⟩ := h w
    sent.append suffix grown

theorem settles_sentOff (i : Nat) : Settles (fun _ => True) i SentOff where
  emit e _ := keeps_emit_sentOff e
  invoke c _ := keeps_sent_of_moves (moves_invoke c)
  store _ := keeps_sent_of_moves (moves_within _ (moves_savePayment _))
  commit _ action :=
    keeps_sent_of_moves (moves_commit _ i action)
  reload _ := keeps_sent_of_moves (moves_reload _)

theorem attemptOnce_sentOff (o : Orchestrator) (din : DispatchInput) (env : AttemptEnv)
    (gw : GatewayID) : Keeps SentOff (attemptOnce o din env gw) := by
  refine Attempting.attemptOnce (T := fun _ => True) (J := fun _ => SentOff)
    (K := fun _ => SentOff) ?_ o
  refine ⟨⟨trivial, trivial, trivial⟩, fun e _ => keeps_emit_sentOff e, fun _ e _ => keeps_emit_sentOff e,
    ?_, fun earlier => (settles_sentOff earlier.length).via, fun _ _ h => h⟩
  intro w sent
  unfold startAttempt
  rcases w.pay.startAttempt_cases gw din.plan.id din.operation env.seed env.startedAt with
    ⟨e, same⟩ | ⟨p', att, same, rfl, -⟩
  · rw [same]
    exact sent
  · rw [same]
    exact ⟨w.pay.attempts, rfl, sent⟩

/-! A payment whose gateway is reached is sent. -/

theorem attemptOnce_sends {p : Payment} (trying : Trying p w) (o : Orchestrator)
    (din : DispatchInput) {env : AttemptEnv} (gw : GatewayID) (reached : env.reaches = true)
    (intent : Commits env.intentTx) : SentOff (attemptOnce o din env gw w).1 := by
  obtain ⟨sent, -, ⟨request, called⟩, ran⟩ := attemptOnce_reaches trying o din gw reached intent
  have isSent : SentOff sent := List.any_eq_true.mpr ⟨_, called, rfl⟩
  have settled := Keeps.iff_state.mp (keeps_sent_of_moves
    (moves_settle o env (settleInput din env gw w.pay.attempts.length))) sent isSent
  rw [ran]
  exact settled.append [.release gw] rfl

theorem dispatch_sends {p : Payment} (trying : Trying p w) {o : Orchestrator}
    (budget : 0 < o.settings.maxAttempts) {din : DispatchInput} {sel : Routing.Selection}
    (next : din.plan.next [] = some sel) {env : DispatchEnv}
    (reached : (env.attempts 0).reaches = true) (intent : Commits (env.attempts 0).intentTx) :
    Triple (· = w) (dispatch o din env) (fun _ => SentOff) (fun _ => SentOff) := by
  obtain ⟨left, budget⟩ := Nat.exists_eq_add_one_of_ne_zero budget.ne'
  refine triple_dispatch ?_ (keeps_sent_of_moves (moves_reload _))
  rw [budget]
  refine triple_iteration next (Triple.iff_state.mpr ?_)
    (keeps_tryPlan (fun n gw => attemptOnce_sentOff o din _ gw) left) none
  rintro w rfl
  exact attemptOnce_sends trying o din sel.gatewayID reached intent

/-! What has been established about a payment that is sent. -/

structure Admission (svc : Service) (cmd : CreateCommand) (env : CreateEnv) (a : Admitted) :
    Prop where
  tenant : assertTenant cmd.tenantID cmd.tenantID = .ok ()
  loaded : svc.load cmd.merchantID = .ok a.merchant
  owned : assertTenant cmd.tenantID a.merchant.tenantID = .ok ()
  transacts : assertCanTransact a.merchant = .ok ()
  validated : svc.validateCreate cmd a.merchant = none
  built : Payment.new cmd.params env.paymentID env.createdAt = .ok a.pay
  assessed : svc.evaluateRisk (riskInput cmd a.merchant a.pay env.assessedAt) = .ok a.decision
  undeclined : a.decision.outcome ≠ .decline
  routed : svc.route (requestContext cmd a.merchant a.pay a.decision) a.merchant = .ok a.plan

section Admission

variable {svc : Service} {cmd : CreateCommand} {env : CreateEnv} {a : Admitted}

theorem admission_of_ok (h : prepare svc cmd env = .ok a) : Admission svc cmd env a := by
  unfold prepare at h
  obtain ⟨⟨⟩, tenant, h⟩ := call_ok h
  obtain ⟨m, loaded, h⟩ := call_ok h
  obtain ⟨⟨⟩, owned, h⟩ := call_ok h
  obtain ⟨⟨⟩, transacts, h⟩ := call_ok h
  cases validated : svc.validateCreate cmd m with
  | some =>
    rw [validated] at h
    cases h
  | none =>
    rw [validated] at h
    obtain ⟨pay, built, h⟩ := call_ok h
    cases assessed : svc.evaluateRisk (riskInput cmd m pay env.assessedAt) with
    | error =>
      rw [assessed] at h
      cases h
    | ok =>
      rw [assessed] at h
      obtain ⟨undeclined, h⟩ := guard_ok h
      obtain ⟨plan, routed, h⟩ := call_ok h
      cases h
      exact ⟨tenant, loaded, owned, transacts, validated, built, assessed, undeclined, routed⟩

theorem Admission.admits (h : Admission svc cmd env a) : prepare svc cmd env = .ok a := by
  unfold prepare
  rw [h.tenant, h.loaded]
  show (assertTenant _ a.merchant.tenantID >>= _) = _
  rw [h.owned, h.transacts, h.validated, h.built]
  simp only [bind, Except.bind, h.assessed, if_neg h.undeclined, h.routed]
  rfl

theorem admission_of_sends (h : sends (create svc cmd env).1 = true) :
    ∃ a, Admission svc cmd env a := by
  cases admitted : prepare svc cmd env with
  | error =>
    simp only [create, admitted] at h
    cases h
  | ok a => exact ⟨a, admission_of_ok admitted⟩

theorem storeIntent_commits (admission : Admission svc cmd env a) (commits : Commits env.intentTx) :
    ∃ w, storeIntent env.intentTx a { pay := a.pay, row := Row.of a.pay, log := [] } = (w, .ok ()) ∧
      Trying a.pay w := by
  obtain ⟨-, cm, payload, fresh⟩ := Payment.new_ok admission.built
  have inserts : ∀ w : World, insertPayment env.intentTx w =
      ({ pay := w.pay.markPersisted.drainEvents.1, row := Row.of w.pay,
         log := w.log ++ [.stored (Row.of w.pay)] }, .ok ()) := by
    intro w
    unfold insertPayment
    rw [commits.updates, commits.drains]
  have stores : ∀ entry, ∀ w : World, w.pay = a.pay → ∃ w', (do
      insertPayment env.intentTx
      recordAudit env.intentTx entry : Proc Unit) w =
        (w', .ok ()) ∧ w'.pay = a.pay.markPersisted.drainEvents.1 ∧ w'.row = Row.of a.pay := by
    intro entry w same
    rw [bind_of_ok (inserts w), recordAudit, commits.audits, same]
    exact ⟨_, rfl, rfl, rfl⟩
  obtain ⟨w', ran, pay, row⟩ := stores _
    { pay := a.pay, row := env.intentTx.others (Row.of a.pay), log := [] } rfl
  refine ⟨w', within_of_ok commits.begins commits.ends ran, ?_⟩
  have attempts : w'.pay.attempts = [] := by
    rw [pay, fresh]
    rfl
  refine ⟨by simp [attempts], ?_, ?_, ?_, ?_⟩
  · rw [attempts, pay, fresh]
    rfl
  · rw [row, pay]
    rfl
  · rw [row, pay]
    rfl
  · rw [pay]
    exact ⟨rfl, rfl, rfl, rfl⟩

theorem create_sends (admitted : prepare svc cmd env = .ok a) (stores : Commits env.intentTx)
    (budget : 0 < svc.orchestrator.settings.maxAttempts) {sel : Routing.Selection}
    (next : a.plan.next [] = some sel) (reached : (env.dispatch.attempts 0).reaches = true)
    (intent : Commits (env.dispatch.attempts 0).intentTx) :
    sends (create svc cmd env).1 = true := by
  obtain ⟨w, stored, trying⟩ := storeIntent_commits (admission_of_ok admitted) stores
  have sent : Triple (· = w) (dispatch svc.orchestrator (dispatchInput cmd a) env.dispatch)
      (fun _ => SentOff) (fun _ => SentOff) := dispatch_sends trying budget next reached intent
  have ran : Triple (· = { pay := a.pay, row := Row.of a.pay, log := [] })
      (dispatchAdmitted svc cmd env a) (fun _ => SentOff) (fun _ => SentOff) := by
    refine Triple.bind (R := fun _ => (· = w)) ?_ fun _ => ?_
    · rintro v rfl
      rw [stored]
    · exact Triple.bind (R := fun _ => SentOff) sent fun _ => Keeps.pure
  unfold create
  rw [admitted]
  exact Triple.iff_state.mp ran _ rfl

end Admission

variable (policy : Policy) (a : Assessment)

/-- Whatever is validated, routed and answered, a payment that is assessed this way reaches a
gateway only if its decision is an approval. -/
def SendsOnlyApproved : Prop :=
  ∀ (svc : Service) (cmd : CreateCommand) (env : CreateEnv) (m : MerchantSnapshot),
    svc.load cmd.merchantID = .ok m → m.risk = policy →
    (∀ rin, svc.evaluateRisk rin = .ok (evaluate rin.policy a)) →
    sends (create svc cmd env).1 = true → (evaluate policy a).approved = true

/-- Some check asks for a review and none refuses. -/
def HeldForReview : Prop :=
  .review ∈ verdicts policy a ∧ .decline ∉ verdicts policy a

theorem heldForReview_iff : HeldForReview policy a ↔
      ¬ (evaluate policy a).approved = true ∧ (evaluate policy a).outcome ≠ .decline := by
  rw [evaluate_approved_iff, Ne, evaluate_declined_iff, HeldForReview]
  refine and_congr_left fun undeclined => ?_
  constructor
  · intro asked lenient
    exact absurd (lenient _ asked) (by decide)
  · intro strict
    push Not at strict
    obtain ⟨v, mem, above⟩ := strict
    cases v with
    | review => exact mem
    | decline => exact absurd mem undeclined
    | approve | require3DS => exact absurd above (by decide)

/-! A merchant whose payments are validated and routed. -/

def sampleCommand : CreateCommand where
  tenantID := "ten_1"
  merchantID := "mer_1"
  amount := ⟨1000, "USD"⟩
  method := .card
  methodRef := sampleParams.methodRef
  captureMethod := .unset
  description := ""
  statementRef := ""
  metadata := []
  customer := sampleParams.customer
  returnURL := ""
  idempotencyKey := "key_1"
  correlationID := "req_1"

def sampleMerchant : MerchantSnapshot where
  merchantID := "mer_1"
  tenantID := "ten_1"
  country := "US"
  riskRating := "STANDARD"
  status := .active
  risk := policy
  connections := [("stripe", "conn_1")]
  snapshotAge := 0

def sampleService : Service where
  orchestrator := sampleOrchestrator
  load := fun _ => .ok (sampleMerchant policy)
  validateCreate := fun _ _ => none
  evaluateRisk := fun rin => .ok (evaluate rin.policy a)
  route := fun _ _ => .ok sampleInput.plan

def sampleCreate : CreateEnv where
  paymentID := "pay_1"
  createdAt := 0
  assessedAt := 0
  intentTx := Tx.undisturbed
  dispatch :=
    { attempts := fun n => sampleAttempt n (sampleAnswer .authorized .unset), finalTx := Tx.undisturbed }

theorem sampleService_sends (undeclined : (evaluate policy a).outcome ≠ .decline) :
    sends (create (sampleService policy a) sampleCommand sampleCreate).1 = true := by
  have admitted : Admission (sampleService policy a) sampleCommand sampleCreate
      { merchant := sampleMerchant policy, pay := samplePayment, decision := evaluate policy a,
        plan := sampleInput.plan } :=
    { tenant := rfl, loaded := rfl, owned := rfl, transacts := rfl, validated := rfl,
      built := new_samplePayment, assessed := rfl, undeclined := undeclined, routed := rfl }
  have budget : 0 < sampleOrchestrator.settings.maxAttempts := by decide
  exact create_sends admitted.admits commits_undisturbed budget rfl rfl commits_undisturbed

/-- `Create` compares the decision with DECLINE only, so that it sends what should be held. -/
theorem sendsOnlyApproved_iff : SendsOnlyApproved policy a ↔ ¬ HeldForReview policy a := by
  rw [heldForReview_iff]
  constructor
  · rintro only ⟨unapproved, undeclined⟩
    exact unapproved (only (sampleService policy a) sampleCommand sampleCreate
      (sampleMerchant policy) rfl rfl (fun _ => rfl) (sampleService_sends policy a undeclined))
  · intro settled svc cmd env m loaded same assesses sent
    obtain ⟨admitted, admission⟩ := admission_of_sends sent
    have merchant : admitted.merchant = m :=
      Except.ok.inj (admission.loaded.symm.trans loaded)
    have decision : admitted.decision = evaluate policy a := by
      have assessed := admission.assessed
      rw [assesses] at assessed
      rw [← Except.ok.inj assessed, riskInput, merchant, same]
    have undeclined := admission.undeclined
    rw [decision] at undeclined
    by_contra unapproved
    exact settled ⟨unapproved, undeclined⟩

/-! The counter store cannot be read, and the merchant asks for a review in that case. -/

def reviewingPolicy : Policy :=
  { Risk.cardPolicy with
    maxTransactionAmount := ⟨100000, "USD"⟩, require3DSAbove := Money.zero "USD",
    dailyVolumeLimit := Money.zero "USD", velocity := ⟨0, 5, 0⟩ }

def uncountedAssessment : Assessment :=
  { Risk.corporatePayment with
    amount := sampleCommand.amount, payerCountry := "US", ipCountry := "US", scaJurisdiction := false,
    counters := ⟨none, none, some 0, some 0, none⟩, corporateCard := false }

/-- The decision is REVIEW and the payment is authorized at the gateway. -/
theorem not_sendsOnlyApproved_uncounted : reviewingPolicy.validate = none ∧
    (evaluate reviewingPolicy uncountedAssessment).outcome = .review ∧
      sends (create (sampleService reviewingPolicy uncountedAssessment) sampleCommand
        sampleCreate).1 = true ∧
      ¬ SendsOnlyApproved reviewingPolicy uncountedAssessment := by
  have outcome : (evaluate reviewingPolicy uncountedAssessment).outcome = .review := by
    decide +kernel
  have sent := sampleService_sends reviewingPolicy uncountedAssessment
    (by rw [outcome]; decide)
  refine ⟨by decide +kernel, outcome, sent, fun only => ?_⟩
  have approved := only (sampleService reviewingPolicy uncountedAssessment) sampleCommand
    sampleCreate (sampleMerchant reviewingPolicy) rfl rfl (fun _ => rfl) sent
  rw [Decision.approved, outcome] at approved
  cases approved

open Pkg (Currency)
open Risk (Counter Counters CustomerHistory MerchantRiskRating Score Volume)
open Validation (Def)
open Validation.L5Payment (ConfigSnapshot Subject VelocityCounters)

def windowPerMinute : Int := 60 * 1000000000

def windowPerHour : Int := 60 * windowPerMinute

def windowPerDay : Int := 24 * windowPerHour

def windowDeclineObs : Int := 15 * windowPerMinute

/-- One member of a sorted set: the event's millisecond and the amount it encodes, if it does. -/
structure Increment where
  key : String
  score : Int
  amount : Option Int

abbrev CounterStore := List Increment

def millis (t : Int) : Int := t / 1000000

/-- `maxWindow` is 24 hours. -/
def boundWindow (window : Int) : Int :=
  if window ≤ 0 then windowPerMinute
  else if window > windowPerDay then windowPerDay
  else window

def CounterStore.members (s : CounterStore) (key : String) (window : Int) (now : Time) :
    List Increment :=
  s.filter fun i => i.key == key && millis now - millis (boundWindow window) < i.score

def CounterStore.total (s : CounterStore) (key : String) (window : Int) (now : Time) : Int :=
  ((s.members key window now).map fun i => i.amount.getD 0).sum

/-- The store as one request meets it: the clock when it is asked, and the keys it cannot
answer for. -/
structure VelocityCounter where
  now : Time
  down : String → Option GoError

namespace VelocityCounter

variable (vc : VelocityCounter) (key : String) (window : Int)

def incrementAndCount (s : CounterStore) : CounterStore × Except GoError Int :=
  match vc.down key with
  | some err => (s, .error err)
  | none =>
    let s' := s ++ [{ key := key, score := millis vc.now, amount := none }]
    (s', .ok (s'.members key window vc.now).length)

def count (s : CounterStore) : Except GoError Int :=
  match vc.down key with
  | some err => .error err
  | none => .ok (s.members key window vc.now).length

/-- Adds the amount unless it is zero.  A sum beyond int64 has no answer. -/
def sumAndAdd (add : Money) (s : CounterStore) : CounterStore × Except GoError Money :=
  match vc.down key with
  | some err => (s, .error err)
  | none =>
    let s' :=
      if add.amount ≠ 0 then s ++ [{ key := key, score := millis vc.now, amount := some add.minor }]
      else s
    let total := s'.total key window vc.now
    if -2 ^ 63 ≤ total ∧ total < 2 ^ 63 then (s', Money.new (Int64.ofInt total) add.currency)
    else (s', .error (.sentinel "redis: value is not an int64"))

end VelocityCounter

structure VelocityKeys where
  tenantID : TenantID
  merchantID : MerchantID
  fingerprint : String
  customerRef : String

def keysFor (t : TenantID) (m : MerchantID) (ref : PaymentMethodReference) (c : CustomerReference) :
    VelocityKeys where
  tenantID := t
  merchantID := m
  fingerprint :=
    if ref.last4 ≠ "" ∧ ref.brand ≠ "" then ref.brand ++ ":" ++ ref.last4 ++ ":" ++ ref.token
    else ref.token
  customerRef := c.merchantCustomerID

namespace VelocityKeys

variable (k : VelocityKeys)

def under (suffix : String) : String := "vel:" ++ k.tenantID ++ ":" ++ k.merchantID ++ suffix

def merchantMinute : String := k.under ":pm"

def merchantVolume : String := k.under ":vol"

def cardHour : String := k.under ":card:" ++ k.fingerprint

def customerDay : String := k.under ":cust:" ++ k.customerRef

def distinctCards : String := k.under ":cards:" ++ k.customerRef

def attempts15 : String := k.under ":att15"

def declines15 : String := k.under ":dec15"

end VelocityKeys

structure Readout where
  perMinute : Counter
  cardHour : Counter
  customerDay : Counter
  distinctCards : Counter
  volumeToday : Volume
  attempts15Min : Counter
  declines15Min : Counter
  anyUnavailable : Bool

def Readout.counters (r : Readout) : Counters where
  paymentsThisMinute := r.perMinute
  cardThisHour := r.cardHour
  customerToday := r.customerDay
  distinctCardsToday := r.distinctCards
  volumeToday := r.volumeToday

/-- `ReadVelocity`.  The volume is read by adding zero to it. -/
def readVelocity (vc : Option VelocityCounter) (k : VelocityKeys) (currency : Currency)
    (s : CounterStore) : CounterStore × Readout :=
  match vc with
  | none =>
    (s, { perMinute := none, cardHour := none, customerDay := none, distinctCards := none,
          volumeToday := none, attempts15Min := none, declines15Min := none,
          anyUnavailable := true })
  | some vc =>
    let count (key : String) (window : Int) : Counter := (vc.count key window s).toOption
    let perMinute := count k.merchantMinute windowPerMinute
    let cardHour := if k.fingerprint ≠ "" then count k.cardHour windowPerHour else some 0
    let customerDay := if k.customerRef ≠ "" then count k.customerDay windowPerDay else some 0
    let distinctCards := if k.customerRef ≠ "" then count k.distinctCards windowPerHour else some 0
    let attempts15Min := count k.attempts15 windowDeclineObs
    let declines15Min := count k.declines15 windowDeclineObs
    let (s', volumeToday) :=
      if Currency.isSupported currency then
        let (s', answer) := vc.sumAndAdd k.merchantVolume windowPerDay (Money.zero currency) s
        (s', answer.toOption)
      else (s, none)
    (s', { perMinute, cardHour, customerDay, distinctCards, volumeToday, attempts15Min,
           declines15Min,
           anyUnavailable :=
             perMinute.isNone || cardHour.isNone || customerDay.isNone || distinctCards.isNone ||
               attempts15Min.isNone || declines15Min.isNone || volumeToday.isNone })

def configSnapshot (m : MerchantSnapshot) : ConfigSnapshot where
  dailyVolumeLimit := m.risk.dailyVolumeLimit
  maxPaymentsPerMinute := m.risk.velocity.maxPaymentsPerMinute
  maxPerCardPerHour := m.risk.velocity.maxPerCardPerHour
  maxPerCustomerPerDay := m.risk.velocity.maxPerCustomerPerDay
  maxDistinctCards := m.risk.maxCardsPerCustomerPerDay

/-- The limits whose counters could not be read are not enforced here. -/
def suppressUnavailable (c : ConfigSnapshot) (r : Readout) : ConfigSnapshot where
  maxPaymentsPerMinute := if r.perMinute.isNone then 0 else c.maxPaymentsPerMinute
  maxPerCardPerHour := if r.cardHour.isNone then 0 else c.maxPerCardPerHour
  maxPerCustomerPerDay := if r.customerDay.isNone then 0 else c.maxPerCustomerPerDay
  maxDistinctCards := if r.distinctCards.isNone then 0 else c.maxDistinctCards
  dailyVolumeLimit := if r.volumeToday.isNone then Money.zero "" else c.dailyVolumeLimit

def l5Counters (r : Readout) (m : MerchantSnapshot) : VelocityCounters where
  countLastMinute := r.perMinute.getD 0
  todayVolume := r.volumeToday.getD (Money.zero m.risk.dailyVolumeLimit.currency)
  countForFingerprintLastHour := r.cardHour.getD 0
  countForCustomerToday := r.customerDay.getD 0
  distinctFingerprintsLastHour := r.distinctCards.getD 0
  attemptsLast15Min := r.attempts15Min.getD 0
  declinesLast15Min := r.declines15Min.getD 0

/-- The validator, with the rules of the level that do not look at the counters. -/
structure Validator (ρ : Type) where
  deps : Validation.L5Payment.Deps
  before : List (Def (Subject ρ))
  after : List (Def (Subject ρ))
  rest : CreateCommand → MerchantSnapshot → ρ

def CreateCommand.keys (cmd : CreateCommand) : VelocityKeys :=
  keysFor cmd.tenantID cmd.merchantID cmd.methodRef cmd.customer

variable {ρ : Type}

def createSubject (v : Validator ρ) (cmd : CreateCommand) (m : MerchantSnapshot) (r : Readout) :
    Subject ρ where
  op := .create
  request :=
    { amount := cmd.amount, fingerprint := cmd.keys.fingerprint,
      customerRef := cmd.customer.merchantCustomerID }
  config := suppressUnavailable (configSnapshot m) r
  velocity := l5Counters r m
  rest := v.rest cmd m

def Validator.validateCreate (v : Validator ρ) (vc : Option VelocityCounter) (cmd : CreateCommand)
    (m : MerchantSnapshot) (s : CounterStore) : CounterStore × Option GoError :=
  let (s', readout) := readVelocity vc cmd.keys cmd.amount.currency s
  (s', ((Validation.L5Payment.rules v.deps v.before v.after).evaluate
    (createSubject v cmd m readout)).asError)

structure BlocklistAnswer where
  available : Bool
  onPlatform : Bool
  onMerchant : Bool
  onMerchantAllowed : Bool

/-- Each lookup is over the input and the payment's keys; an absent one is not configured. -/
structure RiskAssessor where
  blocklists : Option (RiskInput → Except GoError BlocklistAnswer)
  history : Option (RiskInput → Except GoError CustomerHistory)
  scorer : Option (RiskInput → Except GoError Int)
  traScoreCeiling : Int
  lowValueCeiling : Currency → Money
  lowValueCumulativeCeiling : Currency → Money
  clock : Time

def merchantRating (s : String) : MerchantRiskRating :=
  if s = "LOW" then .low
  else if s = "ELEVATED" then .elevated
  else if s = "HIGH" then .high
  else .standard

namespace RiskAssessor

variable (a : RiskAssessor)

def blocked (rin : RiskInput) : BlocklistAnswer :=
  match a.blocklists with
  | none => { available := true, onPlatform := false, onMerchant := false, onMerchantAllowed := false }
  | some lookup =>
    match lookup rin with
    | .error _ =>
      { available := false, onPlatform := false, onMerchant := false, onMerchantAllowed := false }
    | .ok answer => answer

def customerHistory (rin : RiskInput) : CustomerHistory :=
  (a.history.bind fun lookup => (lookup rin).toOption).getD
    { trustedBeneficiary := false, consecutiveExemptSinceLastSCA := 0,
      cumulativeExemptAmount := Money.zero "" }

def externalScore (rin : RiskInput) : Score :=
  if a.traScoreCeiling > 0 then a.scorer.bind fun score => (score rin).toOption else none

def assessment (rin : RiskInput) (r : Readout) : Assessment where
  amount := rin.amount
  paymentMethod := rin.method
  merchantRating := merchantRating rin.merchant.riskRating
  payerCountry := rin.customer.country
  ipCountry := rin.customer.country
  scaJurisdiction := rin.customer.country.isSCAJurisdiction || rin.merchant.country.isSCAJurisdiction
  counters := r.counters
  history := a.customerHistory rin
  onPlatformBlocklist := (a.blocked rin).onPlatform
  onMerchantBlocklist := (a.blocked rin).onMerchant
  onMerchantAllowlist := (a.blocked rin).onMerchantAllowed
  blocklistAvailable := (a.blocked rin).available
  externalScore := a.externalScore rin
  merchantInitiated := false
  networkTransactionRef := ""
  corporateCard := false
  lowValueCeiling := a.lowValueCeiling rin.amount.currency
  lowValueCumulativeCeiling := a.lowValueCumulativeCeiling rin.amount.currency
  traBandCeiling := Money.zero ""
  traBandStale := false
  traScoreCeiling := a.traScoreCeiling
  evaluatedAt := if rin.now = zeroTime then a.clock else rin.now

def evaluate (vc : Option VelocityCounter) (rin : RiskInput) (s : CounterStore) :
    CounterStore × Decision :=
  let keys := keysFor rin.tenantID rin.merchantID rin.methodRef rin.customer
  let (s', readout) := readVelocity vc keys rin.amount.currency s
  (s', Risk.evaluate rin.policy (a.assessment rin readout))

end RiskAssessor

section Reading

variable {vc : VelocityCounter} {k : VelocityKeys} {currency : Currency} {s : CounterStore}

theorem readVelocity_store (vc : Option VelocityCounter) :
    (readVelocity vc k currency s).1 = s := by
  have zero : (Money.zero currency).amount = 0 := rfl
  cases vc with
  | none => rfl
  | some vc =>
    unfold readVelocity VelocityCounter.sumAndAdd
    by_cases supported : Currency.isSupported currency
    · cases answers : vc.down k.merchantVolume with
      | some => simp [supported, answers]
      | none =>
        simp only [supported, if_true, answers, zero, ne_eq, not_true_eq_false, if_false]
        split
        · rfl
        · rfl
    · simp [supported]

theorem VelocityCounter.count_known {key : String} {window : Int}
    (read : (vc.count key window s).toOption.isNone = false) :
    (vc.count key window s).toOption = some ((s.members key window vc.now).length : Int) := by
  unfold count at read ⊢
  cases answers : vc.down key with
  | some => simp [answers, Except.toOption] at read
  | none => rfl

theorem VelocityCounter.sumAndAdd_known {key : String} {window : Int}
    (read : (vc.sumAndAdd key window (Money.zero currency) s).2.toOption.isNone = false) :
    ∃ v, (vc.sumAndAdd key window (Money.zero currency) s).2.toOption = some v ∧
      v.minor = s.total key window vc.now := by
  have zero : (Money.zero currency).amount = 0 := rfl
  unfold sumAndAdd at read ⊢
  cases answers : vc.down key with
  | some => simp [answers, Except.toOption] at read
  | none =>
    simp only [answers, zero, ne_eq, not_true_eq_false, if_false] at read ⊢
    by_cases fits : -2 ^ 63 ≤ s.total key window vc.now ∧ s.total key window vc.now < 2 ^ 63
    · rw [if_pos fits] at read ⊢
      unfold Money.new at read ⊢
      by_cases supported : Currency.isSupported (Money.zero currency).currency
      · simp only [supported, Bool.not_true, Bool.false_eq_true, if_false]
        refine ⟨_, rfl, ?_⟩
        exact Int64.toInt_ofInt_of_le fits.1 fits.2
      · simp [supported, Except.toOption] at read
    · rw [if_neg fits] at read
      simp [Except.toOption] at read

structure Readout.Shows (r : Readout) (k : VelocityKeys) (s : CounterStore) (now : Time) : Prop where
  perMinute : r.perMinute = some ((s.members k.merchantMinute windowPerMinute now).length : Int)
  cardHour : k.fingerprint ≠ "" →
    r.cardHour = some ((s.members k.cardHour windowPerHour now).length : Int)
  customerDay : k.customerRef ≠ "" →
    r.customerDay = some ((s.members k.customerDay windowPerDay now).length : Int)
  volumeToday : ∃ v, r.volumeToday = some v ∧ v.minor = s.total k.merchantVolume windowPerDay now

theorem readVelocity_shows
    (read : (readVelocity (some vc) k currency s).2.anyUnavailable = false) :
    (readVelocity (some vc) k currency s).2.Shows k s vc.now := by
  have available := read
  simp only [readVelocity, Bool.or_eq_false_iff] at available
  obtain ⟨⟨⟨⟨⟨⟨perMinute, cardHour⟩, customerDay⟩, -⟩, -⟩, -⟩, volume⟩ := available
  refine ⟨VelocityCounter.count_known perMinute, fun card => ?_, fun customer => ?_, ?_⟩
  · simp only [readVelocity, if_pos card] at cardHour ⊢
    exact VelocityCounter.count_known cardHour
  · simp only [readVelocity, if_pos customer] at customerDay ⊢
    exact VelocityCounter.count_known customerDay
  · by_cases supported : Currency.isSupported currency
    · simp only [readVelocity, if_pos supported] at volume ⊢
      exact VelocityCounter.sumAndAdd_known volume
    · simp [supported] at volume

end Reading

open Lib.SlidingWindow Lib.TransitionSystem Validation.L5Payment

/-- A payment that was sent to a gateway. -/
structure Dispatched where
  instant : Time
  merchantID : MerchantID
  amount : Money
  fingerprint : String
  customerRef : String

/-- One call of `Create` with the production validator and risk assessor: the counters each of them
meets, and when the payment is sent, if it is. -/
structure CreateCall (ρ : Type) where
  service : Service
  validator : Validator ρ
  assessor : RiskAssessor
  validating : VelocityCounter
  assessing : VelocityCounter
  cmd : CreateCommand
  env : CreateEnv
  sentAt : Time

namespace CreateCall

variable {ρ : Type} (c : CreateCall ρ)

def readout (vc : VelocityCounter) (s : CounterStore) : CounterStore × Readout :=
  readVelocity (some vc) c.cmd.keys c.cmd.amount.currency s

def validated (s : CounterStore) : CounterStore := (c.readout c.validating s).1

def production (s : CounterStore) : Service :=
  { c.service with
    validateCreate := fun cmd m => (c.validator.validateCreate (some c.validating) cmd m s).2
    evaluateRisk := fun rin => .ok (c.assessor.evaluate (some c.assessing) rin (c.validated s)).2 }

def sends (s : CounterStore) : Bool :=
  Orchestration.sends (create (c.production s) c.cmd c.env).1

def dispatched : Dispatched where
  instant := c.sentAt
  merchantID := c.cmd.merchantID
  amount := c.cmd.amount
  fingerprint := c.cmd.keys.fingerprint
  customerRef := c.cmd.keys.customerRef

end CreateCall

inductive VelocityStep (ρ : Type) where
  | create (c : CreateCall ρ)
  | increment (vc : VelocityCounter) (key : String) (window : Int)
  | add (vc : VelocityCounter) (key : String) (window : Int) (amount : Money)

structure VelocityState where
  clock : Time
  store : CounterStore
  dispatched : List Dispatched

def velocitySystem (ρ : Type) : System VelocityState (VelocityStep ρ) where
  init s := s.store = [] ∧ s.dispatched = []
  step s
    | .create c =>
      { clock := c.sentAt
        store := (c.readout c.assessing (c.validated s.store)).1
        dispatched :=
          if c.sends s.store then s.dispatched ++ [c.dispatched] else s.dispatched }
    | .increment vc key window => { s with store := (vc.incrementAndCount key window s.store).1 }
    | .add vc key window amount => { s with store := (vc.sumAndAdd key window amount s.store).1 }

def volumeOf (m : MerchantID) (d : Dispatched) : Int :=
  if d.merchantID = m then d.amount.minor else 0

def countOf (m : MerchantID) (d : Dispatched) : Int := if d.merchantID = m then 1 else 0

def cardCountOf (m : MerchantID) (card : String) (d : Dispatched) : Int :=
  if d.merchantID = m ∧ d.fingerprint = card then 1 else 0

def customerCountOf (m : MerchantID) (customer : String) (d : Dispatched) : Int :=
  if d.merchantID = m ∧ d.customerRef = customer then 1 else 0

structure WithinLimits (policy : Policy) (m : MerchantID) (dispatched : List Dispatched) :
    Prop where
  currency : 0 < policy.dailyVolumeLimit.minor →
    ∀ d ∈ dispatched, d.merchantID = m → d.amount.currency = policy.dailyVolumeLimit.currency
  volume : 0 < policy.dailyVolumeLimit.minor →
    Bounded Dispatched.instant (volumeOf m) dispatched windowPerDay policy.dailyVolumeLimit.minor
  perMinute : 0 < policy.velocity.maxPaymentsPerMinute →
    Bounded Dispatched.instant (countOf m) dispatched windowPerMinute
      policy.velocity.maxPaymentsPerMinute
  perCard : 0 < policy.velocity.maxPerCardPerHour → ∀ card ≠ "",
    Bounded Dispatched.instant (cardCountOf m card) dispatched windowPerHour
      policy.velocity.maxPerCardPerHour
  perCustomer : 0 < policy.velocity.maxPerCustomerPerDay → ∀ customer ≠ "",
    Bounded Dispatched.instant (customerCountOf m customer) dispatched windowPerDay
      policy.velocity.maxPerCustomerPerDay

/-- The calls come one after another, load each merchant with its policy, and read every
counter. -/
def Orderly {ρ : Type} (policyOf : MerchantID → Policy) (s : VelocityState) : VelocityStep ρ → Prop
  | .create c =>
    s.clock ≤ c.validating.now ∧ c.validating.now ≤ c.sentAt ∧
      (∀ m, c.service.load c.cmd.merchantID = .ok m → m.risk = policyOf c.cmd.merchantID) ∧
      (c.readout c.validating s.store).2.anyUnavailable = false ∧
      (c.readout c.assessing (c.validated s.store)).2.anyUnavailable = false
  | _ => True

structure CountersHold (s : VelocityState) (k : VelocityKeys) (now : Time) : Prop where
  volume : load Dispatched.instant (volumeOf k.merchantID) s.dispatched (now - windowPerDay) now ≤
    s.store.total k.merchantVolume windowPerDay now
  perMinute : load Dispatched.instant (countOf k.merchantID) s.dispatched (now - windowPerMinute) now
    ≤ (s.store.members k.merchantMinute windowPerMinute now).length
  perCard : k.fingerprint ≠ "" →
    load Dispatched.instant (cardCountOf k.merchantID k.fingerprint) s.dispatched
      (now - windowPerHour) now ≤ (s.store.members k.cardHour windowPerHour now).length
  perCustomer : k.customerRef ≠ "" →
    load Dispatched.instant (customerCountOf k.merchantID k.customerRef) s.dispatched
      (now - windowPerDay) now ≤ (s.store.members k.customerDay windowPerDay now).length

/-- Before each payment is validated, those dispatched earlier have been counted. -/
def Counted {ρ : Type} (s : VelocityState) : VelocityStep ρ → Prop
  | .create c => CountersHold s c.cmd.keys c.validating.now
  | _ => True

structure HasRoom (policy : Policy) (cmd : CreateCommand) (s : CounterStore) (now : Time) :
    Prop where
  currency : 0 < policy.dailyVolumeLimit.minor →
    cmd.amount.currency = policy.dailyVolumeLimit.currency
  volume : 0 < policy.dailyVolumeLimit.minor →
    s.total cmd.keys.merchantVolume windowPerDay now + cmd.amount.minor ≤
      policy.dailyVolumeLimit.minor
  perMinute : 0 < policy.velocity.maxPaymentsPerMinute →
    (s.members cmd.keys.merchantMinute windowPerMinute now).length <
      policy.velocity.maxPaymentsPerMinute
  perCard : 0 < policy.velocity.maxPerCardPerHour → cmd.keys.fingerprint ≠ "" →
    (s.members cmd.keys.cardHour windowPerHour now).length < policy.velocity.maxPerCardPerHour
  perCustomer : 0 < policy.velocity.maxPerCustomerPerDay → cmd.keys.customerRef ≠ "" →
    (s.members cmd.keys.customerDay windowPerDay now).length < policy.velocity.maxPerCustomerPerDay

section Room

variable {ρ : Type} {v : Validator ρ} {vc : VelocityCounter} {cmd : CreateCommand}
  {m : MerchantSnapshot} {s : CounterStore}

theorem velocityDefs_hold (passed : (v.validateCreate (some vc) cmd m s).2 = none)
    {d : Validation.Def (Subject ρ)} (rule : d ∈ velocityDefs v.deps) :
    d.Holds (createSubject v cmd m
      (readVelocity (some vc) cmd.keys cmd.amount.currency s).2) := by
  refine (Validation.RuleSet.accepts_iff (rules v.deps v.before v.after) (fun _ _ => rfl) _).mp
    passed d ?_
  exact List.mem_append_left _ (List.mem_append_right _ rule)

theorem hasRoom_of_validated
    (read : (readVelocity (some vc) cmd.keys cmd.amount.currency s).2.anyUnavailable = false)
    (passed : (v.validateCreate (some vc) cmd m s).2 = none) :
    HasRoom m.risk cmd s vc.now := by
  have shows := readVelocity_shows read
  have holds {d : Validation.Def (Subject ρ)} := velocityDefs_hold passed (d := d)
  generalize (readVelocity (some vc) cmd.keys cmd.amount.currency s).2 = r at shows holds
  obtain ⟨today, volumeToday, total⟩ := shows.volumeToday
  have room (limited : 0 < m.risk.dailyVolumeLimit.minor) :
      cmd.amount.currency = m.risk.dailyVolumeLimit.currency ∧
        today.minor + cmd.amount.minor ≤ m.risk.dailyVolumeLimit.minor := by
    have limit : (createSubject v cmd m r).config.dailyVolumeLimit = m.risk.dailyVolumeLimit := by
      simp [createSubject, suppressUnavailable, volumeToday, configSnapshot]
    have volume : (createSubject v cmd m r).velocity.todayVolume = today := by
      simp [createSubject, l5Counters, volumeToday]
    have enforced : m.risk.dailyVolumeLimit.isZero = false := by
      rw [Bool.eq_false_iff, Ne, Money.isZero_iff]
      exact limited.ne'
    have left := dailyVolume_room (holds (d := dailyVolumeWithinLimit) (by simp [velocityDefs]))
      rfl (by rw [limit, enforced])
    rwa [limit, volume] at left
  refine ⟨fun limited => (room limited).1, fun limited => ?_, fun limited => ?_,
    fun limited card => ?_, fun limited customer => ?_⟩
  · rw [← total]
    exact (room limited).2
  · have left := perMinute_room (holds (d := velocityPaymentsPerMinute) (by simp [velocityDefs])) rfl
      (by simpa [createSubject, suppressUnavailable, shows.perMinute, configSnapshot] using limited)
    simpa [createSubject, suppressUnavailable, l5Counters, shows.perMinute, configSnapshot]
      using left
  · have shown := shows.cardHour card
    have left := perCard_room (holds (d := velocityPerCardPerHour) (by simp [velocityDefs])) card
      (by simpa [createSubject, suppressUnavailable, shown, configSnapshot] using limited)
    simpa [createSubject, suppressUnavailable, l5Counters, shown, configSnapshot] using left
  · have shown := shows.customerDay customer
    have left := perCustomer_room (holds (d := velocityPerCustomerPerDay v.deps)
      (by simp [velocityDefs])) customer
      (by simpa [createSubject, suppressUnavailable, shown, configSnapshot] using limited)
    simpa [createSubject, suppressUnavailable, l5Counters, shown, configSnapshot] using left

end Room

theorem countOf_nonneg (m : MerchantID) (d : Dispatched) : 0 ≤ countOf m d := by
  unfold countOf
  split <;> decide

theorem cardCountOf_nonneg (m : MerchantID) (card : String) (d : Dispatched) :
    0 ≤ cardCountOf m card d := by
  unfold cardCountOf
  split <;> decide

theorem customerCountOf_nonneg (m : MerchantID) (customer : String) (d : Dispatched) :
    0 ≤ customerCountOf m customer d := by
  unfold customerCountOf
  split <;> decide

section OneMore

variable {ρ : Type} {policy : Policy} {c : CreateCall ρ} {s : VelocityState}

theorem WithinLimits.foreign {m : MerchantID} (h : WithinLimits policy m s.dispatched)
    (other : c.cmd.merchantID ≠ m) : WithinLimits policy m (s.dispatched ++ [c.dispatched]) := by
  have skip : c.dispatched.merchantID ≠ m := other
  refine ⟨fun limited d mem same => ?_, fun limited => (h.volume limited).concat_weightless ?_,
    fun limited => (h.perMinute limited).concat_weightless ?_,
    fun limited card named => (h.perCard limited card named).concat_weightless ?_,
    fun limited customer named => (h.perCustomer limited customer named).concat_weightless ?_⟩
  · rcases List.mem_append.mp mem with earlier | new
    · exact h.currency limited d earlier same
    · rw [List.mem_singleton.mp new] at same
      exact absurd same skip
  · simp [volumeOf, skip]
  · simp [countOf, skip]
  · simp [cardCountOf, skip]
  · simp [customerCountOf, skip]

theorem WithinLimits.own (h : WithinLimits policy c.cmd.merchantID s.dispatched)
    (room : HasRoom policy c.cmd s.store c.validating.now)
    (counted : CountersHold s c.cmd.keys c.validating.now)
    (earlier : ∀ d ∈ s.dispatched, d.instant ≤ c.validating.now)
    (later : c.validating.now ≤ c.sentAt) (paid : ∀ d ∈ s.dispatched, 0 ≤ d.amount.minor) :
    WithinLimits policy c.cmd.merchantID (s.dispatched ++ [c.dispatched]) := by
  refine ⟨fun limited d mem same => ?_, fun limited => ?_, fun limited => ?_,
    fun limited card named => ?_, fun limited customer named => ?_⟩
  · rcases List.mem_append.mp mem with before | new
    · exact h.currency limited d before same
    · rw [List.mem_singleton.mp new]
      exact room.currency limited
  · have weight : volumeOf c.cmd.merchantID c.dispatched = c.cmd.amount.minor := if_pos rfl
    refine (h.volume limited).concat (fun d mem => ?_) earlier later ?_
    · unfold volumeOf
      split
      · exact paid d mem
      · exact le_refl 0
    · rw [weight]
      have left := room.volume limited
      have shown := counted.volume
      exact le_trans (Int.add_le_add_right shown _) left
  · have weight : countOf c.cmd.merchantID c.dispatched = 1 := if_pos rfl
    refine (h.perMinute limited).concat (fun d _ => countOf_nonneg _ d) earlier later ?_
    rw [weight]
    have left := room.perMinute limited
    exact le_trans (Int.add_le_add_right counted.perMinute 1) left
  · by_cases same : c.cmd.keys.fingerprint = card
    · have weight : cardCountOf c.cmd.merchantID card c.dispatched = 1 := if_pos ⟨rfl, same⟩
      subst same
      refine (h.perCard limited _ named).concat (fun d _ => cardCountOf_nonneg _ _ d) earlier later ?_
      rw [weight]
      have left := room.perCard limited named
      exact le_trans (Int.add_le_add_right (counted.perCard named) 1) left
    · exact (h.perCard limited card named).concat_weightless (if_neg fun h => same h.2)
  · by_cases same : c.cmd.keys.customerRef = customer
    · have weight : customerCountOf c.cmd.merchantID customer c.dispatched = 1 := if_pos ⟨rfl, same⟩
      subst same
      refine (h.perCustomer limited _ named).concat (fun d _ => customerCountOf_nonneg _ _ d) earlier
        later ?_
      rw [weight]
      have left := room.perCustomer limited named
      exact le_trans (Int.add_le_add_right (counted.perCustomer named) 1) left
    · exact (h.perCustomer limited customer named).concat_weightless (if_neg fun h => same h.2)

end OneMore

structure Kept (policyOf : MerchantID → Policy) (s : VelocityState) : Prop where
  past : ∀ d ∈ s.dispatched, d.instant ≤ s.clock
  paid : ∀ d ∈ s.dispatched, 0 ≤ d.amount.minor
  within : ∀ m, WithinLimits (policyOf m) m s.dispatched

section Runs

variable {ρ : Type} {policyOf : MerchantID → Policy} {s : VelocityState}

theorem CreateCall.room_of_sends {c : CreateCall ρ}
    (orderly : Orderly policyOf s (.create c)) (sent : c.sends s.store = true) :
    0 < c.cmd.amount.minor ∧
      HasRoom (policyOf c.cmd.merchantID) c.cmd s.store c.validating.now := by
  obtain ⟨-, -, loads, read, -⟩ := orderly
  obtain ⟨a, admission⟩ := admission_of_sends sent
  have positive := (Payment.new_ok admission.built).1
  have room := hasRoom_of_validated read admission.validated
  rw [loads a.merchant admission.loaded] at room
  exact ⟨positive, room⟩

theorem Kept.create {c : CreateCall ρ} (h : Kept policyOf s)
    (orderly : Orderly policyOf s (.create c)) (counted : Counted s (.create c)) :
    Kept policyOf ((velocitySystem ρ).step s (.create c)) := by
  obtain ⟨before, later, -⟩ := id orderly
  have past : ∀ d ∈ s.dispatched, d.instant ≤ c.validating.now := fun d mem =>
    le_trans (h.past d mem) before
  by_cases sent : c.sends s.store = true
  · obtain ⟨positive, room⟩ := CreateCall.room_of_sends orderly sent
    have grown : ((velocitySystem ρ).step s (.create c)).dispatched =
        s.dispatched ++ [c.dispatched] := if_pos sent
    refine ⟨fun d mem => ?_, fun d mem => ?_, fun m => ?_⟩
    · rw [grown] at mem
      rcases List.mem_append.mp mem with earlier | new
      · exact le_trans (past d earlier) later
      · rw [List.mem_singleton.mp new]
        exact le_refl c.sentAt
    · rw [grown] at mem
      rcases List.mem_append.mp mem with earlier | new
      · exact h.paid d earlier
      · rw [List.mem_singleton.mp new]
        exact positive.le
    · rw [grown]
      by_cases own : c.cmd.merchantID = m
      · subst own
        exact (h.within _).own room counted past later h.paid
      · exact (h.within m).foreign own
  · have same : ((velocitySystem ρ).step s (.create c)).dispatched = s.dispatched := if_neg sent
    refine ⟨fun d mem => ?_, fun d mem => ?_, fun m => ?_⟩
    · rw [same] at mem
      exact le_trans (past d mem) later
    · rw [same] at mem
      exact h.paid d mem
    · rw [same]
      exact h.within m

theorem kept_nil (none : s.dispatched = []) : Kept policyOf s := by
  refine ⟨fun d mem => ?_, fun d mem => ?_, fun m => ?_⟩
  · simp [none] at mem
  · simp [none] at mem
  · rw [none]
    exact ⟨fun _ d mem => absurd mem List.not_mem_nil, fun limited => .nil limited.le,
      fun limited => .nil limited.le, fun limited _ _ => .nil limited.le,
      fun limited _ _ => .nil limited.le⟩

/-- Where every payment is counted before the next one is validated, no merchant exceeds a
limit in any window. -/
theorem withinLimits_of_counted {s : VelocityState}
    (h : (velocitySystem ρ).ReachableUnder (fun s l => Orderly policyOf s l ∧ Counted s l) s)
    (m : MerchantID) : WithinLimits (policyOf m) m s.dispatched := by
  have start : ∀ s, (velocitySystem ρ).init s → Kept policyOf s := fun s first => kept_nil first.2
  have kept : Kept policyOf s := by
    refine System.ReachableUnder.invariant (P := Kept policyOf) start ?_ h
    intro s label _ kept guard
    cases label with
    | create => exact kept.create guard.1 guard.2
    | increment | add => exact ⟨kept.past, kept.paid, kept.within⟩
  exact kept.within m

end Runs

/-! Three payments of 400 dollars within a minute, by one customer and with one card. -/

/-- At most 1000 dollars a day, and two payments in each window. -/
def limitedPolicy : Policy :=
  { reviewingPolicy with
    dailyVolumeLimit := ⟨100000, "USD"⟩
    velocity := { maxPaymentsPerMinute := 2, maxPerCardPerHour := 2, maxPerCustomerPerDay := 2 }
    postures := [] }

def sampleCounter (now : Time) : VelocityCounter where
  now := now
  down := fun _ => none

def sampleCall (now : Time) : CreateCall Unit where
  service := sampleService limitedPolicy uncountedAssessment
  validator := { deps := defaultDeps, before := [], after := [], rest := fun _ _ => () }
  assessor :=
    { blocklists := none, history := none, scorer := none, traScoreCeiling := 0,
      lowValueCeiling := fun _ => Money.zero "", lowValueCumulativeCeiling := fun _ => Money.zero "",
      clock := 0 }
  validating := sampleCounter now
  assessing := sampleCounter now
  cmd :=
    { sampleCommand with
      amount := ⟨40000, "USD"⟩
      customer := { sampleCommand.customer with merchantCustomerID := "cus_1" } }
  env := sampleCreate
  sentAt := now

def counting (c : CreateCall Unit) : List (VelocityStep Unit) :=
  [.add c.validating c.cmd.keys.merchantVolume windowPerDay c.cmd.amount,
    .increment c.validating c.cmd.keys.merchantMinute windowPerMinute,
    .increment c.validating c.cmd.keys.cardHour windowPerHour,
    .increment c.validating c.cmd.keys.customerDay windowPerDay]

def velocityStart : VelocityState := { clock := 0, store := [], dispatched := [] }

def countedLabels : List (VelocityStep Unit) :=
  .create (sampleCall 1) :: counting (sampleCall 1) ++ [.create (sampleCall 2)]

theorem orderly_sampleCall {s : VelocityState} {now : Time} (later : s.clock ≤ now)
    (read : ((sampleCall now).readout (sampleCounter now) s.store).2.anyUnavailable = false) :
    Orderly (fun _ => limitedPolicy) s (.create (sampleCall now)) := by
  refine ⟨later, le_refl now, fun m loaded => ?_, read, ?_⟩
  · cases loaded
    rfl
  · have kept : (sampleCall now).validated s.store = s.store := readVelocity_store _
    rw [kept]
    exact read

theorem withinLimits_countedRun :
    WithinLimits limitedPolicy "mer_1"
        ((velocitySystem Unit).run velocityStart countedLabels).dispatched ∧
      ((velocitySystem Unit).run velocityStart countedLabels).dispatched.length = 2 := by
  have start : (velocitySystem Unit).init velocityStart := ⟨rfl, rfl⟩
  have first : CountersHold velocityStart (sampleCall 1).cmd.keys 1 :=
    ⟨by decide +kernel, by decide +kernel, by decide +kernel, by decide +kernel⟩
  have second : CountersHold
      ((velocitySystem Unit).run velocityStart (.create (sampleCall 1) :: counting (sampleCall 1)))
      (sampleCall 1).cmd.keys 2 :=
    ⟨by decide +kernel, by decide +kernel, by decide +kernel, by decide +kernel⟩
  have meets : (velocitySystem Unit).Meets
      (fun s l => Orderly (fun _ => limitedPolicy) s l ∧ Counted s l) velocityStart countedLabels := by
    refine ⟨⟨orderly_sampleCall (by decide) (by decide +kernel), first⟩, ?_⟩
    refine ⟨⟨trivial, trivial⟩, ⟨trivial, trivial⟩, ⟨trivial, trivial⟩, ⟨trivial, trivial⟩, ?_⟩
    exact ⟨⟨orderly_sampleCall (by decide) (by decide +kernel), second⟩, trivial⟩
  refine ⟨?_, by decide +kernel⟩
  exact withinLimits_of_counted (System.reachableUnder_run (.init start) _ meets) "mer_1"

def uncountedRun : VelocityState :=
  (velocitySystem Unit).run velocityStart
    [.create (sampleCall 1), .create (sampleCall 2), .create (sampleCall 3)]

/-- Nobody counts the payments, and all three are sent. -/
theorem not_withinLimits_uncountedRun : limitedPolicy.validate = none ∧
    (velocitySystem Unit).ReachableUnder (Orderly fun _ => limitedPolicy) uncountedRun ∧
      load Dispatched.instant (volumeOf "mer_1") uncountedRun.dispatched 0 windowPerDay = 120000 ∧
      load Dispatched.instant (countOf "mer_1") uncountedRun.dispatched 0 windowPerMinute = 3 ∧
      load Dispatched.instant (cardCountOf "mer_1" "visa:4242:tok_1") uncountedRun.dispatched 0
        windowPerHour = 3 ∧
      load Dispatched.instant (customerCountOf "mer_1" "cus_1") uncountedRun.dispatched 0
        windowPerDay = 3 ∧
      ¬ WithinLimits limitedPolicy "mer_1" uncountedRun.dispatched := by
  have start : (velocitySystem Unit).init velocityStart := ⟨rfl, rfl⟩
  have volume : load Dispatched.instant (volumeOf "mer_1") uncountedRun.dispatched 0 windowPerDay =
      120000 := by decide +kernel
  refine ⟨by decide +kernel, ?_, volume, by decide +kernel, by decide +kernel, by decide +kernel,
    fun within => ?_⟩
  · refine System.reachableUnder_run (.init start) _ ⟨?_, ?_, ?_, trivial⟩
    · exact orderly_sampleCall (by decide) (by decide +kernel)
    · exact orderly_sampleCall (by decide) (by decide +kernel)
    · exact orderly_sampleCall (by decide) (by decide +kernel)
  · have bounded := within.volume (by decide) 0
    rw [Int.zero_add, volume] at bounded
    exact absurd bounded (by decide)

end PaymentsPlatform.Orchestration
