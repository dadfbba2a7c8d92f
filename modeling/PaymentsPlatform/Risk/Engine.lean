/- layer: model of domain/risk (decision.go, policy.go, engine.go); results
   digest: The evaluation of a risk policy as its strictest verdict, and what an approval
     guarantees. -/

import Mathlib.Order.Lattice
import PaymentsPlatform.Pkg.Money
import PaymentsPlatform.Shared.Types

namespace PaymentsPlatform.Risk

open Pkg (Money)

section Model

inductive Outcome where
  | approve | require3DS | review | decline
  deriving DecidableEq

namespace Outcome

def isTerminal (o : Outcome) : Bool := o == .decline

def severity : Outcome → Nat
  | .decline => 3
  | .review => 2
  | .require3DS => 1
  | .approve => 0

theorem severity_injective : Function.Injective severity := by
  intro a b same
  cases a <;> cases b <;> first | rfl | cases same

instance : LinearOrder Outcome := LinearOrder.lift' severity severity_injective

theorem approve_le (o : Outcome) : .approve ≤ o := Nat.zero_le o.severity

theorem le_decline (o : Outcome) : o ≤ .decline := by cases o <;> decide

end Outcome

instance : StringType Outcome where
  text
    | .approve => "APPROVE"
    | .require3DS => "REQUIRE_3DS"
    | .review => "REVIEW"
    | .decline => "DECLINE"

def escalate (a b : Outcome) : Outcome := if b.severity > a.severity then b else a

theorem escalate_eq_max (a b : Outcome) : escalate a b = max a b := by
  cases a <;> cases b <;> rfl

inductive Severity where
  | info | warning | critical
  deriving DecidableEq

inductive CheckID where
  | sanctionedCountry | countrySupported | ipCountrySanctioned | platformBlocklist
  | merchantBlocklist | merchantAllowlist | amountWithinLimit | dailyVolume | velocityPerMinute
  | velocityPerCard | velocityPerCustomer | distinctCards | riskScore | threeDSThreshold
  | scaExemption
  deriving DecidableEq

instance : StringType CheckID where
  text
    | .sanctionedCountry => "L5.CUSTOMER_COUNTRY_NOT_BLOCKED"
    | .countrySupported => "L5.CUSTOMER_COUNTRY_IN_SUPPORTED_SET"
    | .ipCountrySanctioned => "L5.IP_COUNTRY_NOT_SANCTIONED"
    | .platformBlocklist => "L5.NOT_ON_PLATFORM_BLOCKLIST"
    | .merchantBlocklist => "L5.NOT_ON_MERCHANT_BLOCKLIST"
    | .merchantAllowlist => "L5.ON_MERCHANT_ALLOWLIST"
    | .amountWithinLimit => "L5.AMOUNT_WITHIN_MERCHANT_LIMIT"
    | .dailyVolume => "L5.DAILY_VOLUME_WITHIN_LIMIT"
    | .velocityPerMinute => "L5.VELOCITY_PAYMENTS_PER_MINUTE"
    | .velocityPerCard => "L5.VELOCITY_PER_CARD_PER_HOUR"
    | .velocityPerCustomer => "L5.VELOCITY_PER_CUSTOMER_PER_DAY"
    | .distinctCards => "L5.VELOCITY_DISTINCT_CARDS_PER_CUSTOMER"
    | .riskScore => "L5.RISK_SCORE_BELOW_DECLINE_THRESHOLD"
    | .threeDSThreshold => "L5.THREE_DS_REQUIRED_ABOVE_THRESHOLD"
    | .scaExemption => "L5.SCA_EXEMPTION_IS_CLAIMABLE"

structure Reason where
  check : CheckID
  detail : String
  severity : Severity

/-- The exemptions from strong customer authentication that can be claimed. -/
inductive ExemptionType where
  | lowValue | tra | mit | trustedBeneficiary | corporate
  deriving DecidableEq

instance : StringType ExemptionType where
  text
    | .lowValue => "LOW_VALUE"
    | .tra => "TRA"
    | .mit => "MIT"
    | .trustedBeneficiary => "TRUSTED_BENEFICIARY"
    | .corporate => "CORPORATE"

structure Decision where
  outcome : Outcome
  reasons : List Reason
  require3DS : Bool
  exemptionApplied : Option ExemptionType
  score : Int
  degraded : Bool
  evaluatedAt : Time
  policyVersion : Int

/-- The payment may proceed at all, with or without authentication. -/
def Decision.approved (d : Decision) : Bool :=
  d.outcome == .approve || d.outcome == .require3DS

/-- What a check does when the data it needs is unavailable.  A configuration may hold a
posture nobody knows. -/
inductive FailurePosture where
  | failClosed | require3DS | review | failOpen
  | other (raw : String)
  deriving DecidableEq

instance : StringType FailurePosture where
  text
    | .failClosed => "FAIL_CLOSED"
    | .require3DS => "REQUIRE_3DS"
    | .review => "REVIEW"
    | .failOpen => "FAIL_OPEN"
    | .other raw => raw

def FailurePosture.isValid : FailurePosture → Bool
  | .other _ => false
  | _ => true

def FailurePosture.outcome : FailurePosture → Outcome
  | .failClosed => .decline
  | .review => .review
  | .failOpen => .approve
  | _ => .require3DS

def defaultPostures : List (CheckID × FailurePosture) :=
  [(.platformBlocklist, .require3DS), (.merchantBlocklist, .require3DS),
    (.dailyVolume, .failClosed), (.velocityPerMinute, .require3DS),
    (.velocityPerCard, .require3DS), (.velocityPerCustomer, .require3DS),
    (.distinctCards, .require3DS), (.riskScore, .require3DS)]

/-- The count-based limits.  A limit of zero is not enforced. -/
structure Velocity where
  maxPaymentsPerMinute : Int
  maxPerCardPerHour : Int
  maxPerCustomerPerDay : Int

structure Policy where
  maxTransactionAmount : Money
  require3DSAbove : Money
  dailyVolumeLimit : Money
  velocity : Velocity
  blockedCountries : List Country
  allowedCountries : List Country
  maxCardsPerCustomerPerDay : Int
  declineScoreAtOrAbove : Int
  reviewScoreAtOrAbove : Int
  threeDSScoreAtOrAbove : Int
  postures : List (CheckID × FailurePosture)
  version : Int

def defaultDeclineScore : Int := 90

def defaultReviewScore : Int := 75

def defaultThreeDSScore : Int := 50

namespace Policy

def thresholds (p : Policy) : Int × Int × Int :=
  let or (configured fallback : Int) := if configured = 0 then fallback else configured
  if p.declineScoreAtOrAbove = 0 ∧ p.reviewScoreAtOrAbove = 0 ∧ p.threeDSScoreAtOrAbove = 0 then
    (defaultDeclineScore, defaultReviewScore, defaultThreeDSScore)
  else
    (or p.declineScoreAtOrAbove defaultDeclineScore, or p.reviewScoreAtOrAbove defaultReviewScore,
      or p.threeDSScoreAtOrAbove defaultThreeDSScore)

def postureFor (p : Policy) (c : CheckID) : FailurePosture :=
  match p.postures.lookup c with
  | some got => if got.isValid then got else fallback
  | none => fallback
where
  fallback := (defaultPostures.lookup c).getD .require3DS

def isCountryBlocked (p : Policy) (c : Country) : Bool := p.blockedCountries.contains c

def isCountryAllowed (p : Policy) (c : Country) : Bool :=
  p.allowedCountries.isEmpty || p.allowedCountries.contains c

end Policy

/-- `none` where the amounts cannot be compared. -/
def compareAmounts (a b : Money) : Option Ordering :=
  if a.isValid && b.isValid then (a.cmp b).toOption else none

/-! What is known about a payment.  A counter, a volume or a score that could not be read is
`none`, never zero. -/

abbrev Counter := Option Int

abbrev Volume := Option Money

abbrev Score := Option Int

structure Counters where
  paymentsThisMinute : Counter
  cardThisHour : Counter
  customerToday : Counter
  distinctCardsToday : Counter
  volumeToday : Volume

structure CustomerHistory where
  trustedBeneficiary : Bool
  consecutiveExemptSinceLastSCA : Int
  cumulativeExemptAmount : Money

inductive MerchantRiskRating where
  | low | standard | elevated | high
  deriving DecidableEq

structure Assessment where
  amount : Money
  paymentMethod : PaymentMethod
  merchantRating : MerchantRiskRating
  payerCountry : Country
  ipCountry : Country
  scaJurisdiction : Bool
  counters : Counters
  history : CustomerHistory
  onPlatformBlocklist : Bool
  onMerchantBlocklist : Bool
  onMerchantAllowlist : Bool
  blocklistAvailable : Bool
  externalScore : Score
  merchantInitiated : Bool
  networkTransactionRef : String
  corporateCard : Bool
  lowValueCeiling : Money
  lowValueCumulativeCeiling : Money
  traBandCeiling : Money
  traBandStale : Bool
  traScoreCeiling : Int
  evaluatedAt : Time

def exemptionPrecedence : List ExemptionType :=
  [.mit, .corporate, .trustedBeneficiary, .tra, .lowValue]

def maxConsecutiveLowValue : Int := 5

def atMost (amount ceiling : Money) : Bool :=
  match compareAmounts amount ceiling with
  | none | some .gt => false
  | some _ => true

variable (d : Decision) (a : Assessment)

/-- Every branch fails closed: what is missing makes the exemption unclaimable. -/
def ExemptionType.applies : ExemptionType → Bool
  | .mit => a.merchantInitiated && a.networkTransactionRef != ""
  | .corporate => a.corporateCard
  | .trustedBeneficiary => a.history.trustedBeneficiary
  | .tra =>
    if a.traBandStale || !a.traBandCeiling.isValid || !a.traBandCeiling.isPositive then false
    else if !atMost a.amount a.traBandCeiling then false
    else
      match a.externalScore with
      | none => false
      | some s => s < a.traScoreCeiling
  | .lowValue =>
    if !a.lowValueCeiling.isValid || !a.lowValueCeiling.isPositive then false
    else if !atMost a.amount a.lowValueCeiling then false
    else if a.history.consecutiveExemptSinceLastSCA ≥ maxConsecutiveLowValue then false
    else if a.lowValueCumulativeCeiling.isValid && a.lowValueCumulativeCeiling.isPositive then
      match a.history.cumulativeExemptAmount.add a.amount with
      | .error _ => false
      | .ok projected => atMost projected a.lowValueCumulativeCeiling
    else true

def claimableExemption : Option ExemptionType :=
  exemptionPrecedence.find? (ExemptionType.applies a)

def Assessment.scorerWasInvoked : Bool :=
  a.externalScore.isSome || a.traScoreCeiling > 0

/-! The evaluation.  A check hands the decision on, or ends the evaluation with one. -/

abbrev Evaluation := Except Decision Decision

def Decision.because (c : CheckID) (detail : String) (severity : Severity) : Decision :=
  { d with reasons := d.reasons ++ [{ check := c, detail, severity }] }

def decline (d : Decision) (c : CheckID) (detail : String) : Decision :=
  { d with outcome := .decline }.because c detail .critical

def applyPosture (c : CheckID) (posture : FailurePosture) (detail : String) : Decision :=
  let sev : Severity := if posture = .failClosed then .critical else .warning
  { d with degraded := true, outcome := escalate d.outcome posture.outcome }.because c detail sev

/-- `if d.Outcome.IsTerminal() { return d }`. -/
def unlessTerminal : Evaluation := if d.outcome.isTerminal then .error d else .ok d

section Checks

variable (policy : Policy) (a : Assessment)

def Assessment.allowlisted : Bool := a.onMerchantAllowlist && a.blocklistAvailable

variable (d : Decision)

def checkSanctions : Evaluation :=
  if policy.isCountryBlocked a.payerCountry then
    .error (decline d .sanctionedCountry
      ("payer country " ++ a.payerCountry ++ " is on the blocked-country list"))
  else if a.ipCountry ≠ "" ∧ policy.isCountryBlocked a.ipCountry then
    .error (decline d .ipCountrySanctioned
      ("network origin country " ++ a.ipCountry ++ " is on the blocked-country list"))
  else .ok d

/-- An allowlist hit is recorded and escalates nothing. -/
def noteAllowlist : Decision :=
  if a.allowlisted then
    d.because .merchantAllowlist
      ("payer is on the merchant's allowlist; fraud-signal checks skipped, " ++
        "contractual limits still enforced") .info
  else d

def checkCountry : Evaluation :=
  if !policy.isCountryAllowed a.payerCountry then
    .error (decline d .countrySupported
      ("payer country " ++ a.payerCountry ++ " is not in the merchant's supported set"))
  else .ok d

/-- A merchant of high risk is refused while the lists cannot be read. -/
def blocklistPosture : FailurePosture :=
  if a.merchantRating = .high then .failClosed else policy.postureFor .platformBlocklist

def checkBlocklists : Evaluation :=
  if a.allowlisted then .ok d
  else if a.blocklistAvailable then
    if a.onPlatformBlocklist then
      .error (decline d .platformBlocklist "payer matches an entry on the platform blocklist")
    else if a.onMerchantBlocklist then
      .error (decline d .merchantBlocklist "payer matches an entry on the merchant's blocklist")
    else .ok d
  else
    unlessTerminal (applyPosture d .platformBlocklist (blocklistPosture policy a)
      ("blocklist store unavailable; applied posture " ++ text (blocklistPosture policy a)))

def checkAmount : Evaluation :=
  if policy.maxTransactionAmount.isPositive then
    match compareAmounts a.amount policy.maxTransactionAmount with
    | none =>
      .error (decline d .amountWithinLimit
        ("cannot compare " ++ a.amount.string ++ " against the merchant limit " ++
          policy.maxTransactionAmount.string ++ "; the limit cannot be shown to be satisfied"))
    | some .gt =>
      .error (decline d .amountWithinLimit
        (a.amount.string ++ " exceeds the merchant's per-transaction limit of " ++
          policy.maxTransactionAmount.string))
    | some _ => .ok d
  else .ok d

def checkDailyVolume : Evaluation :=
  if policy.dailyVolumeLimit.isPositive then
    match a.counters.volumeToday with
    | none =>
      let posture := policy.postureFor .dailyVolume
      unlessTerminal (applyPosture d .dailyVolume posture
        ("day-to-date volume unavailable from both the counter store and the database " ++
          "fallback; applied posture " ++ text posture))
    | some volume =>
      match volume.add a.amount with
      | .error _ =>
        .error (decline d .dailyVolume
          ("day-to-date volume and payment amount cannot be summed; " ++
            "the daily limit cannot be shown to be satisfied"))
      | .ok projected =>
        if !atMost projected policy.dailyVolumeLimit then
          .error (decline d .dailyVolume
            ("this payment would bring day-to-date volume to " ++ projected.string ++
              ", exceeding the daily limit of " ++ policy.dailyVolumeLimit.string))
        else .ok d
  else .ok d

structure VelocityCheck where
  id : CheckID
  limit : Int
  counter : Counter
  label : String

def velocityChecks : List VelocityCheck :=
  [⟨.velocityPerMinute, policy.velocity.maxPaymentsPerMinute, a.counters.paymentsThisMinute,
      "payments for this merchant in the last minute"⟩,
    ⟨.velocityPerCard, policy.velocity.maxPerCardPerHour, a.counters.cardThisHour,
      "payments on this card in the last hour"⟩,
    ⟨.velocityPerCustomer, policy.velocity.maxPerCustomerPerDay, a.counters.customerToday,
      "payments for this customer today"⟩,
    ⟨.distinctCards, policy.maxCardsPerCustomerPerDay, a.counters.distinctCardsToday,
      "distinct cards presented by this customer today"⟩]

/-- The loop of `evaluateVelocity`.  A limit that is reached does not end it, a posture that
declines does. -/
def velocityLoop (d : Decision) : List VelocityCheck → Decision
  | [] => d
  | c :: rest =>
    if c.limit ≤ 0 then velocityLoop d rest
    else
      match c.counter with
      | none =>
        let posture := policy.postureFor c.id
        let d := applyPosture d c.id posture
          ("velocity counter unavailable (" ++ c.label ++ "); applied posture " ++ text posture)
        if d.outcome.isTerminal then d else velocityLoop d rest
      | some n =>
        if n ≥ c.limit then
          velocityLoop
            ({ d with outcome := escalate d.outcome .decline }.because c.id
              (toString n ++ " " ++ c.label ++ " already, limit " ++ toString c.limit) .critical)
            rest
        else velocityLoop d rest

def evaluateVelocity : Decision := velocityLoop policy d (velocityChecks policy a)

def checkVelocity : Evaluation :=
  if a.allowlisted then .ok d else unlessTerminal (evaluateVelocity policy a d)

def checkScore : Evaluation :=
  if a.allowlisted then .ok d
  else
    match a.externalScore with
    | some s =>
      if s ≥ policy.thresholds.1 then
        .error (decline d .riskScore
          ("risk score " ++ toString s ++ " is at or above the decline threshold of " ++
            toString policy.thresholds.1))
      else if s ≥ policy.thresholds.2.1 then
        .ok ({ d with outcome := escalate d.outcome .review }.because .riskScore
          ("risk score " ++ toString s ++ " is at or above the review threshold of " ++
            toString policy.thresholds.2.1) .warning)
      else .ok d
    | none =>
      if a.scorerWasInvoked then
        let posture := policy.postureFor .riskScore
        unlessTerminal (applyPosture d .riskScore posture
          ("external scorer unavailable; applied posture " ++ text posture))
      else .ok d

/-- Authentication a risk signal asks for, which no exemption waives. -/
def scaByScore : Bool × Decision :=
  let byOutcome := d.outcome == .require3DS
  match a.externalScore with
  | some s =>
    if s ≥ policy.thresholds.2.2 then
      (true, d.because .riskScore
        ("risk score " ++ toString s ++ " is at or above the 3DS threshold of " ++
          toString policy.thresholds.2.2) .warning)
    else (byOutcome, d)
  | none => (byOutcome, d)

def scaByRegulation : Bool × Decision :=
  if policy.require3DSAbove.isPositive &&
      compareAmounts a.amount policy.require3DSAbove == some .gt then
    (true, d.because .threeDSThreshold
      (a.amount.string ++ " exceeds the merchant's 3DS threshold of " ++
        policy.require3DSAbove.string) .info)
  else (a.scaJurisdiction, d)

def claimExemption (regulatory : Bool) (d : Decision) : Bool × Decision :=
  if regulatory then
    match claimableExemption a with
    | some e =>
      (false, { d with exemptionApplied := some e }.because .scaExemption
        ("claimed " ++ text e ++
          " exemption; authentication waived for the regulatory requirement") .info)
    | none => (true, d)
  else (false, d)

def decideSCA : Decision :=
  if !a.paymentMethod.requiresSCAConsideration then d
  else
    let (riskDriven, d) := scaByScore policy a d
    let (regulatory, d) := scaByRegulation policy a d
    let (regulatory, d) := claimExemption a regulatory d
    let d := { d with require3DS := riskDriven || regulatory }
    if d.require3DS ∧ d.outcome = .approve then { d with outcome := .require3DS } else d

/-- The checks in their order, from the decision they start with. -/
def runChecks : Evaluation := do
  let d ← checkSanctions policy a d
  let d ← checkCountry policy a (noteAllowlist a d)
  let d ← checkBlocklists policy a d
  let d ← checkAmount policy a d
  let d ← checkDailyVolume policy a d
  let d ← checkVelocity policy a d
  checkScore policy a d

def undecided : Decision where
  outcome := .approve
  reasons := []
  require3DS := false
  exemptionApplied := none
  score := a.externalScore.getD 0
  degraded := false
  evaluatedAt := a.evaluatedAt
  policyVersion := policy.version

def evaluate : Decision :=
  match runChecks policy a (undecided policy a) with
  | .error d => d
  | .ok d => decideSCA policy a d

end Checks

end Model

/-! The verdicts, from the policy and the assessment alone. -/

def refuseIf (b : Bool) : Outcome := if b then .decline else .approve

section Verdicts

variable (policy : Policy) (a : Assessment)

def sanctionsVerdict : Outcome :=
  refuseIf (policy.isCountryBlocked a.payerCountry ||
    (a.ipCountry != "" && policy.isCountryBlocked a.ipCountry))

def countryVerdict : Outcome := refuseIf (!policy.isCountryAllowed a.payerCountry)

def blocklistVerdict : Outcome :=
  if a.allowlisted then .approve
  else if a.blocklistAvailable then refuseIf (a.onPlatformBlocklist || a.onMerchantBlocklist)
  else (blocklistPosture policy a).outcome

def amountVerdict : Outcome :=
  refuseIf (policy.maxTransactionAmount.isPositive && !atMost a.amount policy.maxTransactionAmount)

def withinDailyLimit (volume : Pkg.Money) : Bool :=
  match volume.add a.amount with
  | .error _ => false
  | .ok projected => atMost projected policy.dailyVolumeLimit

def volumeVerdict : Outcome :=
  if policy.dailyVolumeLimit.isPositive then
    match a.counters.volumeToday with
    | none => (policy.postureFor .dailyVolume).outcome
    | some volume => refuseIf (!withinDailyLimit policy a volume)
  else .approve

def velocityVerdict (c : VelocityCheck) : Outcome :=
  if c.limit ≤ 0 then .approve
  else
    match c.counter with
    | none => (policy.postureFor c.id).outcome
    | some n => refuseIf (n ≥ c.limit)

def scoreVerdict : Outcome :=
  if a.allowlisted then .approve
  else
    match a.externalScore with
    | some s =>
      if s ≥ policy.thresholds.1 then .decline
      else if s ≥ policy.thresholds.2.1 then .review
      else .approve
    | none => if a.scorerWasInvoked then (policy.postureFor .riskScore).outcome else .approve

def velocityVerdicts : List Outcome :=
  if a.allowlisted then [] else (velocityChecks policy a).map (velocityVerdict policy)

def verdicts : List Outcome :=
  [sanctionsVerdict policy a, countryVerdict policy a, blocklistVerdict policy a,
    amountVerdict policy a, volumeVerdict policy a] ++
    velocityVerdicts policy a ++ [scoreVerdict policy a]

end Verdicts

def strictest (vs : List Outcome) : Outcome := vs.foldr max .approve

theorem strictest_append (us vs : List Outcome) :
    strictest (us ++ vs) = max (strictest us) (strictest vs) := by
  induction us with
  | nil => exact (max_eq_right (Outcome.approve_le _)).symm
  | cons u us ih =>
    show max u (strictest (us ++ vs)) = max (max u (strictest us)) (strictest vs)
    rw [ih, max_assoc]

theorem strictest_le_iff {vs : List Outcome} {o : Outcome} :
    strictest vs ≤ o ↔ ∀ v ∈ vs, v ≤ o := by
  induction vs with
  | nil => exact iff_of_true (Outcome.approve_le o) (by simp)
  | cons v vs ih =>
    rw [List.forall_mem_cons, ← ih]
    exact max_le_iff

theorem max_eq_decline_iff (a b : Outcome) : max a b = .decline ↔ a = .decline ∨ b = .decline := by
  cases a <;> cases b <;> decide

theorem strictest_eq_decline_iff {vs : List Outcome} : strictest vs = .decline ↔ .decline ∈ vs := by
  induction vs with
  | nil => exact iff_of_false (by decide) (by simp)
  | cons v vs ih =>
    have joined : strictest (v :: vs) = max v (strictest vs) := rfl
    rw [joined, max_eq_decline_iff, List.mem_cons, ih, eq_comm]

/-- A check raises the outcome to its verdict, and ends the evaluation exactly where the
outcome has become DECLINE. -/
def Judges (check : Decision → Evaluation) (v : Outcome) : Prop :=
  ∀ d, d.outcome ≠ .decline →
    (∃ d', check d = .ok d' ∧ d'.outcome = max d.outcome v ∧ d'.outcome ≠ .decline) ∨
      (∃ d', check d = .error d' ∧ d'.outcome = .decline ∧ v = .decline)

namespace Judges

variable {f g : Decision → Evaluation} {u v : Outcome}

theorem bind (first : Judges f u) (second : Judges g v) :
    Judges (fun d => f d >>= g) (max u v) := by
  intro d alive
  rcases first d alive with ⟨d₁, ran, raised, alive₁⟩ | ⟨d₁, ended, declined, refused⟩
  · rcases second d₁ alive₁ with ⟨d₂, ran₂, raised₂, alive₂⟩ | ⟨d₂, ended₂, declined₂, refused₂⟩
    · refine .inl ⟨d₂, ?_, ?_, alive₂⟩
      · show f d >>= g = .ok d₂
        rw [ran]
        exact ran₂
      · rw [raised₂, raised, max_assoc]
    · refine .inr ⟨d₂, ?_, declined₂, ?_⟩
      · show f d >>= g = .error d₂
        rw [ran]
        exact ended₂
      · rw [refused₂]
        exact max_eq_right (Outcome.le_decline u)
  · refine .inr ⟨d₁, ?_, declined, ?_⟩
    · show f d >>= g = .error d₁
      rw [ended]
      rfl
    · rw [refused]
      exact max_eq_left (Outcome.le_decline v)

theorem silent (h : ∀ d, f d = .ok d) (verdict : v = .approve) : Judges f v := by
  intro d alive
  refine .inl ⟨d, h d, ?_, alive⟩
  rw [verdict]
  exact (max_eq_left (Outcome.approve_le _)).symm

theorem refusing (h : ∀ d, ∃ c detail, f d = .error (decline d c detail))
    (verdict : v = .decline) : Judges f v := by
  intro d _
  obtain ⟨c, detail, ended⟩ := h d
  exact .inr ⟨_, ended, rfl, verdict⟩

theorem raising {step : Decision → Decision} (h : ∀ d, (step d).outcome = max d.outcome v) :
    Judges (fun d => unlessTerminal (step d)) v := by
  intro d alive
  unfold unlessTerminal
  by_cases terminal : (step d).outcome = .decline
  · refine .inr ⟨step d, if_pos (by simp [Outcome.isTerminal, terminal]), terminal, ?_⟩
    have raised : max d.outcome v = .decline := (h d).symm.trans terminal
    exact ((max_eq_decline_iff _ _).mp raised).resolve_left alive
  · exact .inl ⟨step d, if_neg (by simp [Outcome.isTerminal, terminal]), h d, terminal⟩

end Judges

section Checks

variable (policy : Policy) (a : Assessment)

theorem sanctions_judges : Judges (checkSanctions policy a) (sanctionsVerdict policy a) := by
  by_cases payer : policy.isCountryBlocked a.payerCountry = true
  · refine .refusing (fun d => ⟨_, _, if_pos payer⟩) ?_
    simp [sanctionsVerdict, refuseIf, payer]
  by_cases origin : a.ipCountry ≠ "" ∧ policy.isCountryBlocked a.ipCountry = true
  · refine .refusing (fun d => ⟨_, _, (if_neg payer).trans (if_pos origin)⟩) ?_
    simp [sanctionsVerdict, refuseIf, origin]
  · refine .silent (fun d => (if_neg payer).trans (if_neg origin)) ?_
    simp only [sanctionsVerdict, refuseIf]
    simp_all

theorem country_judges :
    Judges (fun d => checkCountry policy a (noteAllowlist a d)) (countryVerdict policy a) := by
  unfold countryVerdict refuseIf checkCountry
  cases policy.isCountryAllowed a.payerCountry with
  | false =>
    intro d _
    exact .inr ⟨_, rfl, rfl, rfl⟩
  | true =>
    intro d alive
    have kept : (noteAllowlist a d).outcome = d.outcome := by
      unfold noteAllowlist
      cases a.allowlisted <;> rfl
    refine .inl ⟨_, rfl, ?_, by rwa [kept]⟩
    rw [kept]
    exact (max_eq_left (Outcome.approve_le _)).symm

theorem applyPosture_outcome (d : Decision) (c : CheckID) (posture : FailurePosture)
    (detail : String) :
    (applyPosture d c posture detail).outcome = max d.outcome posture.outcome :=
  escalate_eq_max _ _

theorem blocklist_judges : Judges (checkBlocklists policy a) (blocklistVerdict policy a) := by
  unfold blocklistVerdict checkBlocklists refuseIf
  cases a.allowlisted with
  | true => exact .silent (fun d => rfl) rfl
  | false =>
    cases a.blocklistAvailable with
    | false => exact .raising fun d => applyPosture_outcome ..
    | true =>
      cases a.onPlatformBlocklist with
      | true => exact .refusing (fun d => ⟨_, _, rfl⟩) rfl
      | false =>
        cases a.onMerchantBlocklist with
        | true => exact .refusing (fun d => ⟨_, _, rfl⟩) rfl
        | false => exact .silent (fun d => rfl) rfl

theorem amount_judges : Judges (checkAmount policy a) (amountVerdict policy a) := by
  unfold amountVerdict checkAmount refuseIf atMost
  cases policy.maxTransactionAmount.isPositive with
  | false => exact .silent (fun d => rfl) rfl
  | true =>
    cases compareAmounts a.amount policy.maxTransactionAmount with
    | none => exact .refusing (fun d => ⟨_, _, rfl⟩) rfl
    | some order =>
      cases order with
      | gt => exact .refusing (fun d => ⟨_, _, rfl⟩) rfl
      | lt | eq => exact .silent (fun d => rfl) rfl

theorem volume_judges : Judges (checkDailyVolume policy a) (volumeVerdict policy a) := by
  unfold volumeVerdict checkDailyVolume
  cases policy.dailyVolumeLimit.isPositive with
  | false => exact .silent (fun d => rfl) rfl
  | true =>
    cases a.counters.volumeToday with
    | none => exact .raising fun d => applyPosture_outcome ..
    | some volume =>
      cases summed : volume.add a.amount with
      | error =>
        refine .refusing (fun d => ?_) ?_
        · simp only [summed, if_true]
          exact ⟨_, _, rfl⟩
        · simp [withinDailyLimit, summed, refuseIf]
      | ok projected =>
        by_cases within : atMost projected policy.dailyVolumeLimit = true
        · exact .silent (by simp [summed, within])
            (by simp [withinDailyLimit, summed, within, refuseIf])
        · refine .refusing (fun d => ?_) ?_
          · simp only [summed, within, if_true]
            exact ⟨_, _, rfl⟩
          · simp [withinDailyLimit, summed, within, refuseIf]

theorem velocityLoop_outcome (checks : List VelocityCheck) (d : Decision) :
    (velocityLoop policy d checks).outcome =
      max d.outcome (strictest (checks.map (velocityVerdict policy))) := by
  induction checks generalizing d with
  | nil => exact (max_eq_left (Outcome.approve_le _)).symm
  | cons c rest ih =>
    have joined : strictest ((c :: rest).map (velocityVerdict policy)) =
        max (velocityVerdict policy c) (strictest (rest.map (velocityVerdict policy))) := rfl
    rw [joined, ← max_assoc, velocityLoop]
    generalize strictest (rest.map (velocityVerdict policy)) = later at ih ⊢
    by_cases unenforced : c.limit ≤ 0
    · have verdict : velocityVerdict policy c = .approve := if_pos unenforced
      rw [if_pos unenforced, ih, verdict, max_eq_left (Outcome.approve_le _)]
    rw [if_neg unenforced]
    cases counter : c.counter with
    | none =>
      have verdict : velocityVerdict policy c = (policy.postureFor c.id).outcome := by
        rw [velocityVerdict, if_neg unenforced, counter]
      dsimp only
      generalize raised : applyPosture d c.id _ _ = d'
      have outcome : d'.outcome = max d.outcome (velocityVerdict policy c) := by
        rw [← raised, verdict]
        exact applyPosture_outcome ..
      rw [← outcome]
      by_cases terminal : d'.outcome = .decline
      · rw [if_pos (by simp [Outcome.isTerminal, terminal]), terminal]
        exact (max_eq_left (Outcome.le_decline later)).symm
      · rw [if_neg (by simp [Outcome.isTerminal, terminal]), ih]
    | some n =>
      have verdict : velocityVerdict policy c = refuseIf (n ≥ c.limit) := by
        rw [velocityVerdict, if_neg unenforced, counter]
      rw [verdict]
      dsimp only
      by_cases reached : n ≥ c.limit
      · rw [if_pos reached, ih]
        simp only [Decision.because, escalate_eq_max, refuseIf, reached, decide_true, if_true]
      · rw [if_neg reached, ih]
        simp only [refuseIf, reached, decide_false, Bool.false_eq_true, if_false,
          max_eq_left (Outcome.approve_le _)]

theorem velocity_judges :
    Judges (checkVelocity policy a) (strictest (velocityVerdicts policy a)) := by
  unfold checkVelocity velocityVerdicts
  cases a.allowlisted with
  | true => exact .silent (fun d => rfl) rfl
  | false => exact .raising fun d => velocityLoop_outcome policy (velocityChecks policy a) d

theorem score_judges : Judges (checkScore policy a) (scoreVerdict policy a) := by
  unfold checkScore scoreVerdict
  cases a.allowlisted with
  | true => exact .silent (fun d => rfl) rfl
  | false =>
    cases a.externalScore with
    | none =>
      cases a.scorerWasInvoked with
      | false => exact .silent (fun d => rfl) rfl
      | true => exact .raising fun d => applyPosture_outcome ..
    | some s =>
      by_cases declines : s ≥ policy.thresholds.1
      · simp only [declines]
        exact .refusing (fun d => ⟨_, _, rfl⟩) rfl
      by_cases reviews : s ≥ policy.thresholds.2.1
      · simp only [declines, reviews]
        intro d alive
        have outcome : escalate d.outcome .review = max d.outcome .review := escalate_eq_max ..
        refine .inl ⟨_, rfl, outcome, ?_⟩
        show escalate d.outcome .review ≠ .decline
        rw [outcome, ne_eq, max_eq_decline_iff]
        simp [alive]
      · simp only [declines, reviews]
        exact .silent (fun d => rfl) rfl

theorem runChecks_judges : Judges (runChecks policy a) (strictest (verdicts policy a)) := by
  have judged := (sanctions_judges policy a).bind <| (country_judges policy a).bind <|
    (blocklist_judges policy a).bind <| (amount_judges policy a).bind <|
    (volume_judges policy a).bind <| (velocity_judges policy a).bind (score_judges policy a)
  have joined : strictest (verdicts policy a) = max (sanctionsVerdict policy a)
      (max (countryVerdict policy a) (max (blocklistVerdict policy a)
        (max (amountVerdict policy a) (max (volumeVerdict policy a)
          (max (strictest (velocityVerdicts policy a)) (scoreVerdict policy a)))))) := by
    simp only [verdicts, strictest_append, max_assoc]
    simp only [strictest, List.foldr, max_eq_left (Outcome.approve_le _), max_assoc]
  rw [joined]
  exact judged

theorem decideSCA_outcome (d : Decision) :
    (decideSCA policy a d).outcome = d.outcome ∨
      (d.outcome = .approve ∧ (decideSCA policy a d).outcome = .require3DS) := by
  have byScore : (scaByScore policy a d).2.outcome = d.outcome := by
    unfold scaByScore
    cases a.externalScore with
    | none => rfl
    | some =>
      dsimp only
      split <;> rfl
  have byRegulation : ∀ d, (scaByRegulation policy a d).2.outcome = d.outcome := by
    intro d
    unfold scaByRegulation
    split <;> rfl
  have claimed : ∀ regulatory d, (claimExemption a regulatory d).2.outcome = d.outcome := by
    intro regulatory d
    unfold claimExemption
    cases regulatory with
    | false => rfl
    | true =>
      cases claimableExemption a with
      | none | some => rfl
  unfold decideSCA
  by_cases inScope : a.paymentMethod.requiresSCAConsideration = true
  · simp only [inScope, Bool.not_true, Bool.false_eq_true, if_false]
    split
    · rename_i asked
      have before := asked.2
      rw [claimed, byRegulation, byScore] at before
      exact .inr ⟨before, rfl⟩
    · left
      show (claimExemption a _ _).2.outcome = _
      rw [claimed, byRegulation, byScore]
  · left
    simp [inScope]

theorem evaluate_outcome :
    (evaluate policy a).outcome = strictest (verdicts policy a) ∨
      (strictest (verdicts policy a) = .approve ∧ (evaluate policy a).outcome = .require3DS) := by
  have start : (undecided policy a).outcome = .approve := rfl
  unfold evaluate
  rcases runChecks_judges policy a (undecided policy a) (by rw [start]; decide) with
    ⟨d, ran, raised, -⟩ | ⟨d, ended, declined, refused⟩
  · rw [start, max_eq_right (Outcome.approve_le _)] at raised
    rw [ran, ← raised]
    exact decideSCA_outcome policy a d
  · rw [ended, refused]
    exact .inl declined

theorem evaluate_declined_iff :
    (evaluate policy a).outcome = .decline ↔ .decline ∈ verdicts policy a := by
  rw [← strictest_eq_decline_iff]
  rcases evaluate_outcome policy a with same | ⟨approves, authenticates⟩
  · rw [same]
  · rw [approves, authenticates]
    exact iff_of_false (by decide) (by decide)

theorem evaluate_approved_iff :
    (evaluate policy a).approved = true ↔ ∀ v ∈ verdicts policy a, v ≤ .require3DS := by
  rw [← strictest_le_iff]
  rcases evaluate_outcome policy a with same | ⟨approves, authenticates⟩
  · rw [Decision.approved, same]
    cases strictest (verdicts policy a) <;> decide
  · rw [Decision.approved, approves, authenticates]
    exact iff_of_true rfl (by decide)

end Checks

open Pkg (Money)
open Shared (Country)

namespace Policy

def flag (wrong : Bool) (detail : Detail) : List Detail := if wrong then [detail] else []

variable (p : Policy)

def limits : List (String × Money) :=
  [("risk.maxTransactionAmount", p.maxTransactionAmount),
    ("risk.require3DSAbove", p.require3DSAbove), ("risk.dailyVolumeLimit", p.dailyVolumeLimit)]

def limitDetails : List Detail :=
  p.limits.flatMap fun (field, value) =>
    if !value.isValid then
      [⟨field, "UNKNOWN_CURRENCY", "must carry a supported ISO 4217 currency code",
        "L4.RISK_LIMIT_CURRENCY_SUPPORTED"⟩]
    else flag value.isNegative
      ⟨field, "NEGATIVE_LIMIT", "a risk limit may not be negative", "L4.MONEY_IS_MINOR_UNITS"⟩

def currencyDetails : List Detail :=
  if p.maxTransactionAmount.isValid then
    p.limits.tail.flatMap fun (field, value) =>
      flag (value.isValid && value.currency != p.maxTransactionAmount.currency)
        ⟨field, "CURRENCY_MISMATCH",
          "every risk limit must be denominated in the same currency as maxTransactionAmount (" ++
            p.maxTransactionAmount.currency ++ ")", "L4.RISK_CURRENCY_CONSISTENT"⟩
  else []

def orderingDetails : List Detail :=
  flag (!p.maxTransactionAmount.isPositive && p.maxTransactionAmount.isValid)
    ⟨"risk.maxTransactionAmount", "NOT_POSITIVE",
      "maxTransactionAmount must be greater than zero; a zero ceiling declines every payment",
      "L4.RISK_LIMIT_ORDERING"⟩ ++
  flag (compareAmounts p.require3DSAbove p.maxTransactionAmount == some .gt &&
      p.require3DSAbove.isPositive)
    ⟨"risk.require3DSAbove", "THRESHOLD_ABOVE_CEILING",
      "require3DSAbove (" ++ p.require3DSAbove.string ++ ") exceeds maxTransactionAmount (" ++
        p.maxTransactionAmount.string ++ "), so the 3DS threshold can never be reached",
      "L4.THREEDS_THRESHOLD_BELOW_MAX_AMOUNT"⟩ ++
  flag (compareAmounts p.dailyVolumeLimit p.maxTransactionAmount == some .lt &&
      p.dailyVolumeLimit.isPositive)
    ⟨"risk.dailyVolumeLimit", "DAILY_LIMIT_BELOW_TRANSACTION_LIMIT",
      "dailyVolumeLimit (" ++ p.dailyVolumeLimit.string ++ ") is below maxTransactionAmount (" ++
        p.maxTransactionAmount.string ++
        "), so a single permitted payment breaches the daily limit",
      "L4.DAILY_LIMIT_AT_LEAST_MAX_TRANSACTION"⟩

def velocityDetails : List Detail :=
  [("risk.velocity.maxPaymentsPerMinute", p.velocity.maxPaymentsPerMinute),
    ("risk.velocity.maxPerCardPerHour", p.velocity.maxPerCardPerHour),
    ("risk.velocity.maxPerCustomerPerDay", p.velocity.maxPerCustomerPerDay),
    ("risk.maxCardsPerCustomerPerDay", p.maxCardsPerCustomerPerDay)].flatMap fun (field, v) =>
    flag (v < 0) ⟨field, "NEGATIVE_LIMIT",
      "a velocity limit may not be negative; omit the field to leave the check unenforced",
      "L4.VELOCITY_LIMITS_POSITIVE"⟩

def unknownCountry (field rule : String) (c : Country) : List Detail :=
  flag (!Country.isValid c)
    ⟨field, "UNKNOWN_COUNTRY", "\"" ++ c ++ "\" is not a valid ISO 3166-1 alpha-2 code", rule⟩

def countryDetails : List Detail :=
  p.blockedCountries.flatMap
    (unknownCountry "risk.blockedCountries" "L4.BLOCKED_COUNTRIES_VALID") ++
  p.allowedCountries.flatMap fun c =>
    unknownCountry "risk.allowedCountries" "L4.COUNTRIES_ARE_ISO3166" c ++
    flag (p.isCountryBlocked c) ⟨"risk.allowedCountries", "COUNTRY_BOTH_ALLOWED_AND_BLOCKED",
      "\"" ++ c ++ "\" appears in both allowedCountries and blockedCountries; " ++
        "the block wins, so the allowlist entry is misleading", "L4.BLOCKED_COUNTRIES_DISJOINT"⟩

/-- A check nobody knows, which the source reports here too, cannot be written down. -/
def postureDetails : List Detail :=
  p.postures.flatMap fun (check, posture) =>
    flag (!posture.isValid) ⟨"risk.failurePosture." ++ text check, "UNKNOWN_POSTURE",
      "must be one of FAIL_CLOSED, REQUIRE_3DS, REVIEW, FAIL_OPEN",
      "L4.RISK_FAILURE_POSTURE_KNOWN"⟩ ++
    flag (check == .sanctionedCountry)
      ⟨"risk.failurePosture." ++ text check, "POSTURE_NOT_APPLICABLE",
        "the sanctions list is compiled in-process and cannot be unavailable; " ++
          "it has no failure posture", "L4.RISK_FAILURE_POSTURE_KNOWN"⟩

def scoreDetails : List Detail :=
  let (decline, review, threeDS) := p.thresholds
  [("risk.declineScoreAtOrAbove", decline), ("risk.reviewScoreAtOrAbove", review),
    ("risk.threeDSScoreAtOrAbove", threeDS)].flatMap (fun (field, value) =>
    flag (value < 0 || value > 100) ⟨field, "SCORE_OUT_OF_RANGE",
      "a risk score threshold must be on 0..100", "L4.RISK_SCORE_THRESHOLDS_ORDERED"⟩) ++
  flag (decline < review || review < threeDS) ⟨"risk", "SCORE_THRESHOLDS_OUT_OF_ORDER",
    "thresholds must satisfy declineScoreAtOrAbove >= reviewScoreAtOrAbove >= " ++
      "threeDSScoreAtOrAbove; out of order, the stricter threshold shadows the looser one " ++
      "and the looser one never fires", "L4.RISK_SCORE_THRESHOLDS_ORDERED"⟩

def details : List Detail :=
  p.limitDetails ++ p.currencyDetails ++ p.orderingDetails ++ p.velocityDetails ++
    p.countryDetails ++ p.postureDetails ++ p.scoreDetails

/-- `Validate`. -/
def validate : Option GoError :=
  if p.details = [] then none
  else some (.api { newError .configurationInvalid "the risk configuration is not valid" with
    details := p.details })

variable {p}

theorem flag_eq_nil_iff {wrong : Bool} {detail : Detail} :
    flag wrong detail = [] ↔ wrong = false := by
  cases wrong <;> simp [flag]

/-- What the evaluation relies on in an accepted policy: it has a ceiling, and an unknown
country is not among the blocked ones. -/
theorem accepted_of_validate (valid : p.validate = none) :
    p.maxTransactionAmount.isPositive = true ∧ p.isCountryBlocked "" = false := by
  have none_found : p.details = [] := by
    by_contra found
    simp [validate, found] at valid
  simp only [details, List.append_eq_nil_iff] at none_found
  obtain ⟨⟨⟨⟨⟨⟨limits, -⟩, ordering⟩, -⟩, countries⟩, -⟩, -⟩ := none_found
  have known : p.maxTransactionAmount.isValid = true := by
    by_contra unknown
    rw [Bool.not_eq_true] at unknown
    simp [limitDetails, Policy.limits, unknown] at limits
  simp only [orderingDetails, List.append_eq_nil_iff, flag_eq_nil_iff, known] at ordering
  refine ⟨by simpa using ordering.1.1, ?_⟩
  simp only [countryDetails, List.append_eq_nil_iff, List.flatMap_eq_nil_iff, unknownCountry,
    flag_eq_nil_iff] at countries
  by_contra listed
  have listed : "" ∈ p.blockedCountries := by simpa [isCountryBlocked] using listed
  exact absurd (countries.1 "" listed) (by decide)

end Policy

section Results

variable (policy : Policy) (a : Assessment)

def scoreAsks : Bool := a.externalScore.any (· ≥ policy.thresholds.2.2)

/-- The jurisdiction or the amount calls for authentication. -/
def needsAuthentication : Bool :=
  (policy.require3DSAbove.isPositive && compareAmounts a.amount policy.require3DSAbove == some .gt)
    || a.scaJurisdiction

variable {policy a}

theorem strictest_mem {vs : List Outcome} (raised : strictest vs ≠ .approve) :
    strictest vs ∈ vs := by
  induction vs with
  | nil => exact absurd rfl raised
  | cons v vs ih =>
    have joined : strictest (v :: vs) = max v (strictest vs) := rfl
    rw [joined] at raised ⊢
    rcases max_choice v (strictest vs) with first | later
    · rw [first]
      exact List.mem_cons_self
    · rw [later] at raised ⊢
      exact List.mem_cons_of_mem v (ih raised)

theorem evaluate_alive (alive : .decline ∉ verdicts policy a) :
    ∃ d, d.outcome = strictest (verdicts policy a) ∧ evaluate policy a = decideSCA policy a d := by
  have start : (undecided policy a).outcome = .approve := rfl
  rcases runChecks_judges policy a (undecided policy a) (by rw [start]; decide) with
    ⟨d, ran, raised, -⟩ | ⟨d, ended, declined, refused⟩
  · rw [start, max_eq_right (Outcome.approve_le _)] at raised
    exact ⟨d, raised, by rw [evaluate, ran]⟩
  · exact absurd (strictest_eq_decline_iff.mp refused) alive

theorem decideSCA_decides (inScope : a.paymentMethod.requiresSCAConsideration = true)
    (d : Decision) :
    (decideSCA policy a d).require3DS = (d.outcome == .require3DS || scoreAsks policy a ||
        (needsAuthentication policy a && (claimableExemption a).isNone)) ∧
      (needsAuthentication policy a = true → ∀ e, claimableExemption a = some e →
        (decideSCA policy a d).exemptionApplied = some e) := by
  have byScore : (scaByScore policy a d).1 = (d.outcome == .require3DS || scoreAsks policy a) := by
    unfold scaByScore scoreAsks
    cases a.externalScore with
    | none => simp
    | some s =>
      dsimp only
      split_ifs with asks <;> simp [asks]
  have byRegulation : ∀ d, (scaByRegulation policy a d).1 = needsAuthentication policy a := by
    intro d
    unfold scaByRegulation needsAuthentication
    split_ifs with above <;> simp [above]
  unfold decideSCA
  simp only [inScope, Bool.not_true, Bool.false_eq_true, if_false]
  rw [byScore, byRegulation]
  cases needsAuthentication policy a with
  | false => constructor <;> simp [claimExemption, apply_ite Decision.require3DS]
  | true =>
    cases claimed : claimableExemption a with
    | none => constructor <;> simp [claimExemption, claimed, apply_ite Decision.require3DS]
    | some e =>
      constructor <;>
        simp [claimExemption, claimed, Decision.because, apply_ite Decision.require3DS,
          apply_ite Decision.exemptionApplied]

variable (policy a)

/-- One check asks for authentication, which only the posture of missing data makes a check do,
another for a review, and nothing else asks for authentication that no exemption waives. -/
def AuthenticationLost : Prop :=
  .require3DS ∈ verdicts policy a ∧ .review ∈ verdicts policy a ∧ .decline ∉ verdicts policy a ∧
    scoreAsks policy a = false ∧
      (needsAuthentication policy a = true → claimableExemption a ≠ none)

theorem risk_authenticated_iff (inScope : a.paymentMethod.requiresSCAConsideration = true) :
    (.require3DS ∈ verdicts policy a ∨ scoreAsks policy a = true →
      (evaluate policy a).outcome ≠ .decline → (evaluate policy a).require3DS = true) ↔
      ¬ AuthenticationLost policy a := by
  constructor
  · rintro holds ⟨asked, reviewed, alive, quiet, waived⟩
    have kept := holds (.inl asked) (fun h => alive ((evaluate_declined_iff policy a).mp h))
    obtain ⟨d, outcome, final⟩ := evaluate_alive alive
    have above : Outcome.review ≤ d.outcome := by
      rw [outcome]
      exact strictest_le_iff.mp le_rfl _ reviewed
    have other : d.outcome ≠ .require3DS := by
      intro same
      rw [same] at above
      exact absurd above (by decide)
    rw [final, (decideSCA_decides inScope d).1, beq_false_of_ne other, quiet] at kept
    simp only [Bool.or_self, Bool.false_or, Bool.and_eq_true, Option.isNone_iff_eq_none] at kept
    exact waived kept.1 kept.2
  · intro kept asked alive
    have alive := fun h => alive ((evaluate_declined_iff policy a).mpr h)
    obtain ⟨d, outcome, final⟩ := evaluate_alive alive
    rw [final, (decideSCA_decides inScope d).1]
    cases quiet : scoreAsks policy a with
    | true => simp
    | false =>
      have asked : .require3DS ∈ verdicts policy a := asked.resolve_right (by simp [quiet])
      have raised : Outcome.require3DS ≤ strictest (verdicts policy a) :=
        strictest_le_iff.mp le_rfl _ asked
      rw [outcome]
      cases reached : strictest (verdicts policy a) with
      | approve => exact absurd (reached ▸ raised) (by decide)
      | require3DS => rfl
      | decline => exact absurd (strictest_eq_decline_iff.mp reached) alive
      | review =>
        have reviewed : .review ∈ verdicts policy a :=
          reached ▸ strictest_mem (by rw [reached]; decide)
        have waived : ¬ (needsAuthentication policy a = true → claimableExemption a ≠ none) :=
          fun w => kept ⟨asked, reviewed, alive, quiet, w⟩
        simp_all

variable {policy a}

theorem le_of_atMost {amount ceiling : Money} (h : atMost amount ceiling = true) :
    amount.currency = ceiling.currency ∧ amount.minor ≤ ceiling.minor := by
  by_cases same : ceiling.currency = amount.currency
  · refine ⟨same.symm, ?_⟩
    by_contra more
    have above : compare amount.minor ceiling.minor = .gt := compare_gt_iff_gt.mpr (by omega)
    simp [atMost, compareAmounts, Money.cmp_of_currency_eq same, above, Except.toOption] at h
    split_ifs at h
  · have apart : amount.cmp ceiling = .error (amount.mismatch ceiling " vs ") :=
      if_pos (Ne.symm same)
    simp [atMost, compareAmounts, apart, Except.toOption] at h

theorem refuseIf_le_iff {b : Bool} : refuseIf b ≤ .require3DS ↔ b = false := by
  cases b <;> decide

variable (policy a)

/-- What an approval guarantees. -/
theorem approved_sound (valid : policy.validate = none)
    (approved : (evaluate policy a).approved = true) :
    (policy.isCountryBlocked a.payerCountry = false ∧ policy.isCountryBlocked a.ipCountry = false) ∧
    (policy.allowedCountries ≠ [] → a.payerCountry ∈ policy.allowedCountries) ∧
    (a.amount.currency = policy.maxTransactionAmount.currency ∧
      a.amount.minor ≤ policy.maxTransactionAmount.minor) ∧
    (policy.dailyVolumeLimit.isPositive = true → ∀ volume, a.counters.volumeToday = some volume →
      volume.currency = policy.dailyVolumeLimit.currency ∧ volume.minor + a.amount.minor ≤ policy.dailyVolumeLimit.minor) ∧
    (a.allowlisted = false →
      (∀ c ∈ velocityChecks policy a, 0 < c.limit → ∀ n, c.counter = some n → n < c.limit) ∧
        ∀ s, a.externalScore = some s → s < policy.thresholds.2.1) ∧
    (a.paymentMethod.requiresSCAConsideration = true → needsAuthentication policy a = true →
      (evaluate policy a).require3DS = false →
        ∃ e, (evaluate policy a).exemptionApplied = some e ∧ e.applies a = true) := by
  obtain ⟨ceiling, named⟩ := Policy.accepted_of_validate valid
  have lenient := (evaluate_approved_iff policy a).mp approved
  have alive : .decline ∉ verdicts policy a := fun h => absurd (lenient _ h) (by decide)
  have sanctions : sanctionsVerdict policy a ≤ .require3DS := lenient _ (by simp [verdicts])
  have country : countryVerdict policy a ≤ .require3DS := lenient _ (by simp [verdicts])
  have amount : amountVerdict policy a ≤ .require3DS := lenient _ (by simp [verdicts])
  have volume : volumeVerdict policy a ≤ .require3DS := lenient _ (by simp [verdicts])
  have score : scoreVerdict policy a ≤ .require3DS := lenient _ (by simp [verdicts])
  refine ⟨?_, ?_, ?_, ?_, fun fraudChecked => ⟨?_, ?_⟩, ?_⟩
  · have open_ := refuseIf_le_iff.mp sanctions
    simp only [Bool.or_eq_false_iff, Bool.and_eq_false_iff, bne_eq_false_iff_eq] at open_
    refine ⟨open_.1, open_.2.elim (fun unknown => ?_) id⟩
    rw [unknown]
    exact named
  · intro declared
    have allowed := refuseIf_le_iff.mp country
    simpa [Policy.isCountryAllowed, declared] using allowed
  · have within := refuseIf_le_iff.mp amount
    exact le_of_atMost (by simpa [ceiling] using within)
  · intro enforced before known
    have within : withinDailyLimit policy a before = true := by
      simpa [volumeVerdict, enforced, known, refuseIf_le_iff] using volume
    unfold withinDailyLimit at within
    cases summed : before.add a.amount with
    | error => simp [summed] at within
    | ok total =>
      rw [summed] at within
      obtain ⟨-, currency, minor⟩ := Money.add_ok summed
      rw [← minor, ← currency]
      exact le_of_atMost within
  · intro c listed enforced n known
    have member : velocityVerdict policy c ∈ verdicts policy a := by
      simp only [verdicts, velocityVerdicts, fraudChecked, List.mem_append]
      exact .inl (.inr (List.mem_map_of_mem listed))
    have below := lenient _ member
    rw [velocityVerdict, if_neg (by omega), known] at below
    simpa using refuseIf_le_iff.mp below
  · intro s known
    by_contra reached
    simp only [scoreVerdict, fraudChecked, known] at score
    split_ifs at score <;> first | exact absurd score (by decide) | omega
  · intro inScope needed free
    obtain ⟨d, -, final⟩ := evaluate_alive alive
    rw [final] at free ⊢
    have decides := @decideSCA_decides policy a inScope d
    cases claimed : claimableExemption a with
    | none =>
      rw [decides.1, needed, claimed] at free
      simp at free
    | some e => exact ⟨e, decides.2 needed e claimed, List.find?_some claimed⟩

def cardPolicy : Policy where
  maxTransactionAmount := ⟨100000, "EUR"⟩
  require3DSAbove := ⟨0, "EUR"⟩
  dailyVolumeLimit := ⟨0, "EUR"⟩
  velocity := ⟨100, 5, 0⟩
  blockedCountries := ["KP"]
  allowedCountries := []
  maxCardsPerCustomerPerDay := 0
  declineScoreAtOrAbove := 0
  reviewScoreAtOrAbove := 0
  threeDSScoreAtOrAbove := 0
  postures := [(.velocityPerCard, .review)]
  version := 1

/-- A corporate card, while the counter of the merchant's payments cannot be read. -/
def corporatePayment : Assessment where
  amount := ⟨5000, "EUR"⟩
  paymentMethod := .card
  merchantRating := .standard
  payerCountry := "DE"
  ipCountry := "DE"
  scaJurisdiction := true
  counters := ⟨none, some 1, none, none, none⟩
  history := ⟨false, 0, ⟨0, "EUR"⟩⟩
  onPlatformBlocklist := false
  onMerchantBlocklist := false
  onMerchantAllowlist := false
  blocklistAvailable := true
  externalScore := none
  merchantInitiated := false
  networkTransactionRef := ""
  corporateCard := true
  lowValueCeiling := ⟨3000, "EUR"⟩
  lowValueCumulativeCeiling := ⟨10000, "EUR"⟩
  traBandCeiling := ⟨0, "EUR"⟩
  traBandStale := false
  traScoreCeiling := 0
  evaluatedAt := 0

theorem risk_authenticated_corporate :
    cardPolicy.validate = none ∧ ¬ AuthenticationLost cardPolicy corporatePayment ∧
      (evaluate cardPolicy corporatePayment).require3DS = true := by
  have valid : cardPolicy.validate = none := by decide +kernel
  have kept : ¬ AuthenticationLost cardPolicy corporatePayment :=
    fun lost => absurd lost.2.1 (by decide +kernel)
  exact ⟨valid, kept, (risk_authenticated_iff _ _ rfl).mpr kept (.inl (by decide +kernel))
    (by decide +kernel)⟩

/-- The counter of the card cannot be read either: its posture asks for a review, and the corporate
exemption waives the other's authentication. -/
theorem authentication_waived_in_review :
    let a := { corporatePayment with
      counters := { corporatePayment.counters with cardThisHour := none } }
    cardPolicy.validate = none ∧ a.paymentMethod.requiresSCAConsideration = true ∧
      .require3DS ∈ verdicts cardPolicy a ∧ (evaluate cardPolicy a).outcome = .review ∧
        (evaluate cardPolicy a).require3DS = false := by
  decide +kernel

theorem approved_sound_corporate :
    cardPolicy.validate = none ∧ (evaluate cardPolicy corporatePayment).approved = true ∧
      corporatePayment.amount.minor ≤ cardPolicy.maxTransactionAmount.minor := by
  have valid : cardPolicy.validate = none := by decide +kernel
  have approved : (evaluate cardPolicy corporatePayment).approved = true := by decide +kernel
  exact ⟨valid, approved, (approved_sound _ _ valid approved).2.2.1.2⟩

end Results

end PaymentsPlatform.Risk
