/- layer: results about the validator of gateway answers
   digest: Which conforming answers it lets through, and which amounts are recorded of them. -/

import PaymentsPlatform.Orchestration.Answers

namespace PaymentsPlatform.Orchestration

open Gateways Lib.Procedure Payments Validation
open Pkg (Money)
open Shared (StateMachine)
open Validation.L6Response (defaultDeps)

inductive Asked where
  | authorize
  | capture (amount : Money) (final : Bool)

namespace Asked

def operation : Asked → Operation
  | .authorize => .authorize
  | .capture .. => .capture

def amount (p : Payment) : Asked → Money
  | .authorize => p.amount
  | .capture amount _ => amount

def handed (res : Spi.Result) : Asked → GatewayResponse
  | .authorize => responseOf res
  | .capture .. => followUpResponse res

/-- What the result does to the payment in memory, up to the commit. -/
def apply (o : Orchestrator) (env : AttemptEnv) (sin : SettleInput) (res : Spi.Result) :
    Asked → Proc Unit
  | .authorize => do
      let _ ← applyResult o env sin res
  | .capture amount final =>
    settleFollowUp o (.capture amount final) { env with answer := SentCall.answering res } sin

end Asked

def normalizedReasons : List DeclineReason :=
  [.issuerUnavailable, .tryAgainLater, .processingError, .doNotHonorSoft, .insufficientFunds,
    .cardExpired, .incorrectNumber, .incorrectCVC, .stolenCard, .lostCard, .fraudulent,
    .restrictedCard, .invalidAccount, .currencyNotSupp, .authRequired, .blockedByRisk, .unknown]

/-- What the gateway contract allows: a result that names the transaction, and is a success that
echoes the amount, a decline with a normalized reason, or a payer's action with its place. -/
inductive Conforms (p : Payment) (x : Asked) (res : Spi.Result) : Prop
  | authorized (asked : x = .authorize) (status : res.status = .authorized)
      (reference : res.gatewayRef ≠ "") (echo : res.authorizedAmount = some p.amount)
  | captured (status : res.status = .captured) (reference : res.gatewayRef ≠ "")
      (echo : res.capturedAmount = some (x.amount p))
      (authorized : x = .authorize → ∀ m, res.authorizedAmount = some m → m = p.amount)
  | declined (status : res.status = .declined) (reference : res.gatewayRef ≠ "")
      (reason : res.declineReason ∈ normalizedReasons)
  | requiresAction (status : res.status = .requiresAction) (reference : res.gatewayRef ≠ "")
      (redirect : ∃ a, res.nextAction = some a ∧ a.redirectURL ≠ "")

def Known (i : Nat) (w : World) : Prop :=
  (w.pay.attempts[i]?).map (·.outcome) ≠ some .timeoutUnknown

/-- If the result conforms, the validator accepts it, and recording it does not turn the
attempt into one with an unknown outcome. -/
def AcceptsConforming (p : Payment) (x : Asked) (res : Spi.Result) : Prop :=
  Conforms p x res →
    (∀ now sin, sin.operation = x.operation →
      validateGatewayResponse now (x.handed res) (expectedOf p sin) = none) ∧
    ∀ settings now env sin w, sin.operation = x.operation → w.pay = p → Known sin.index w →
      Known sin.index (x.apply (validating settings now) env sin res w).1

/-- The state can be entered from where the payment is.  An empty state is not checked. -/
def reaches (src dst : State) : Bool :=
  text src == "" || src == dst || machine.canTransition src dst

/-- The conforming results the validator accepts: a success that the payment's state allows, a
capture being of the whole payment and authorized, and a decline of an authorization for a known
reason. -/
def acceptable (p : Payment) (x : Asked) (res : Spi.Result) : Bool :=
  match x, res.status with
  | _, .authorized => reaches p.state .authorized
  | .authorize, .captured => reaches p.state .captured
  | .capture amount _, .captured =>
    reaches p.state .captured && amount == p.amount &&
      (text p.state == "" || decide (amount.greaterThan p.authorizedAmount = .ok false))
  | .authorize, .declined => reaches p.state .failed && res.declineReason != .unknown
  | _, _ => false

theorem money_eq_iff (m m' : Money) : m = m' ↔ m.amount = m'.amount ∧ m.currency = m'.currency := by
  cases m
  cases m'
  simp

theorem reaches_iff (src dst : State) :
    reaches src dst = true ↔
      (text src ≠ "" → dst ≠ src → machine.canTransition src dst = true) := by
  simp only [reaches, Bool.or_eq_true, beq_iff_eq]
  tauto

variable {src dst : State}

theorem alive_of_reaches (h : reaches src dst = true)
    (success : dst = .authorized ∨ dst = .captured) :
    text src ≠ "" → src.isTerminal = true → src.isSuccessful = false → False := by
  intro present terminal unsuccessful
  have edge := (reaches_iff src dst).mp h present
  rcases success with rfl | rfl <;> cases src <;>
    simp_all [State.isTerminal, State.isSuccessful, StateMachine.isTerminal, StateMachine.canTransition,
      machine, terminalStates]

section Accepted

variable {p : Payment} {x : Asked} {res : Spi.Result} {sin : SettleInput}

theorem present_expectedOf : (expectedOf p sin).present = true ↔ text p.state ≠ "" := by
  simp [ExpectedResponse.present, expectedOf]

variable {r : GatewayResponse}

theorem reachable_iff (maps : mappedState r.status = some dst) :
    ((expectedOf p sin).present = true → ∀ mapped, mappedState r.status = some mapped →
      mapped ≠ (expectedOf p sin).currentState →
      machine.canTransition (expectedOf p sin).currentState mapped = true) ↔
        reaches p.state dst = true := by
  rw [present_expectedOf, reaches_iff, maps]
  simp only [Option.some.injEq, forall_eq']
  rfl

theorem accepts_success_iff
    (op : sin.operation = .authorize ∨ sin.operation = .capture)
    (outcome : normalizeOutcome r.status = .success) (maps : mappedState r.status = some dst)
    (grants : dst = .authorized ∨ dst = .captured) (reference : r.gatewayRef ≠ "") :
    Accepts r (expectedOf p sin) ↔
      ((echoed r (expectedOf p sin)).1.amount = p.amount.amount ∧
        (echoed r (expectedOf p sin)).2 = p.amount.currency) ∧
      (sin.operation = .capture → text p.state ≠ "" →
        (r.capturedAmount.getD ⟨0, ""⟩).greaterThan p.authorizedAmount = .ok false) ∧
      reaches p.state dst = true := by
  constructor
  · intro h
    exact ⟨⟨h.amount outcome, h.currency outcome⟩,
      fun captures present => h.captured captures (present_expectedOf.mpr present),
      (reachable_iff maps).mp h.reachable⟩
  · rintro ⟨⟨amount, currency⟩, within, reach⟩
    refine ⟨fun _ => reference, fun _ => amount, fun _ => currency,
      fun captures present => within captures (present_expectedOf.mp present), ?_, ?_, ?_, ?_, ?_,
      (reachable_iff maps).mpr reach, ?_⟩
    · intro refunds
      rw [show sin.operation = .refund from refunds] at op
      simp at op
    · rw [outcome]
      decide
    · intro outcomes listed
      rw [outcome]
      rw [show (expectedOf p sin).operation = sin.operation from rfl] at listed
      rcases op with op | op <;>
        · rw [op] at listed
          revert outcomes
          decide
    · rw [outcome]
      exact fun other => by cases other
    · rw [outcome]
      decide
    · intro present terminal unsuccessful _
      exact alive_of_reaches reach grants (present_expectedOf.mp present) terminal unsuccessful

theorem accepts_declined_iff (op : sin.operation = .authorize) (status : res.status = .declined)
    (reference : res.gatewayRef ≠ "") :
    Accepts (responseOf res) (expectedOf p sin) ↔
      reaches p.state .failed = true ∧ res.declineReason ∈ defaultDeps.knownDeclineReasons := by
  have outcome : normalizeOutcome (responseOf res).status = .declined := by
    simp [responseOf, status, normalizeOutcome]
  have maps : mappedState (responseOf res).status = some .failed := by
    simp [responseOf, status, mappedState]
  constructor
  · exact fun h => ⟨(reachable_iff maps).mp h.reachable, h.reason outcome⟩
  · rintro ⟨reach, reason⟩
    refine ⟨fun _ => reference, ?_, ?_, ?_, ?_, ?_, ?_, fun _ => reason, ?_,
      (reachable_iff maps).mpr reach, ?_⟩
    · rw [outcome]
      exact fun other => by cases other
    · rw [outcome]
      exact fun other => by cases other
    · exact fun other => by simp [expectedOf, op] at other
    · exact fun other => by simp [expectedOf, op] at other
    · rw [outcome]
      decide
    · intro outcomes listed
      rw [outcome]
      rw [show (expectedOf p sin).operation = .authorize from op] at listed
      revert outcomes
      decide
    · rw [outcome]
      decide
    · rw [outcome]
      exact fun _ _ _ other => by cases other

theorem known_iff {reason : DeclineReason} (h : reason ∈ normalizedReasons) :
    reason ∈ defaultDeps.knownDeclineReasons ↔ reason ≠ .unknown := by
  revert reason
  decide

theorem echoed_authorize (op : sin.operation = .authorize) : echoed r (expectedOf p sin) =
      r.authorizedAmount.elim (p.amount, p.amount.currency) fun m => (m, m.currency) := by
  have other : ¬ (expectedOf p sin).operation = .capture := by simp [expectedOf, op]
  unfold echoed
  cases r.capturedAmount with
  | none => rfl
  | some => exact if_neg other

theorem echoed_capture {m : Money} (op : sin.operation = .capture)
    (reported : r.capturedAmount = some m) :
    echoed r (expectedOf p sin) = (m, m.currency) := by
  unfold echoed
  rw [reported]
  exact if_pos op

theorem accepts_iff_acceptable (h : Conforms p x res) (op : sin.operation = x.operation) :
    Accepts (x.handed res) (expectedOf p sin) ↔ acceptable p x res = true := by
  cases h with
  | authorized asked status reference echo =>
    subst asked
    have outcome : normalizeOutcome (responseOf res).status = .success := by
      simp [responseOf, status, normalizeOutcome]
    have maps : mappedState (responseOf res).status = some .authorized := by
      simp [responseOf, status, mappedState]
    rw [Asked.handed, accepts_success_iff (.inl op) outcome maps (.inl rfl) reference,
      echoed_authorize op]
    simp [responseOf, echo, acceptable, status, op, Asked.operation]
  | captured status reference echo authorized =>
    have outcome : normalizeOutcome (x.handed res).status = .success := by
      cases x <;> simp [Asked.handed, followUpResponse, responseOf, status, normalizeOutcome]
    have maps : mappedState (x.handed res).status = some .captured := by
      cases x <;> simp [Asked.handed, followUpResponse, responseOf, status, mappedState]
    cases x with
    | authorize =>
      rw [accepts_success_iff (.inl op) outcome maps (.inr rfl) (by exact reference),
        echoed_authorize op]
      have echoes : (res.authorizedAmount.elim (p.amount, p.amount.currency) fun m =>
          (m, m.currency)) = (p.amount, p.amount.currency) := by
        cases reported : res.authorizedAmount with
        | none => rfl
        | some m => rw [authorized rfl m reported]; rfl
      simp [Asked.handed, responseOf, echoes, acceptable, status, op, Asked.operation]
    | capture amount =>
      rw [accepts_success_iff (.inr op) outcome maps (.inr rfl) (by exact reference),
        echoed_capture op (show _ = some amount from echo)]
      simp only [Asked.handed, followUpResponse, responseOf, echo, Asked.amount, op,
        Asked.operation, acceptable, status, Option.getD_some, Bool.and_eq_true, beq_iff_eq,
        Bool.or_eq_true, decide_eq_true_eq, money_eq_iff, true_implies]
      tauto
  | declined status reference reason =>
    cases x with
    | authorize =>
      rw [Asked.handed, accepts_declined_iff op status reference, known_iff reason]
      simp [acceptable, status]
    | capture =>
      refine iff_of_false (fun accepted => ?_) (by simp [acceptable, status])
      exact not_declined_of_accepts (w := ⟨p, ⟨p, false⟩, []⟩) accepted status
  | requiresAction status =>
    refine iff_of_false (fun accepted => accepted.payload ?_) ?_
    · cases x <;> simp [Asked.handed, followUpResponse, responseOf, status, normalizeOutcome]
    · cases x <;> simp [acceptable, status]

end Accepted

section Recording

variable {i : Nat}

theorem keeps_known_emit (e : Effect) : Keeps (Known i) (emit e) := Triple.modify fun _ known => known

theorem keeps_known_payment {c : PaymentCall} (settling : Call.settling i (.payment c) = true) :
    Keeps (Known i) (invoke (.payment c)) := by
  refine Keeps.iff_state.mpr fun w known => ?_
  show ((c.apply w.pay).1.attempts[i]?).map (·.outcome) ≠ some .timeoutUnknown
  rw [attempts_of_settling settling w.pay]
  exact known

theorem keeps_known_attempt {c : AttemptCall} (target : c.target ≠ some .timeoutUnknown) :
    Keeps (Known i) (invoke (.attempt i c)) := by
  refine Keeps.iff_state.mpr fun w known => ?_
  cases found : w.pay.attempts[i]? with
  | none =>
    have same : (invoke (.attempt i c) w).1 = w := by simp [invoke, Call.apply, found]
    rw [same]
    exact known
  | some a =>
    cases applied : c.apply a with
    | error =>
      have same : (invoke (.attempt i c) w).1 = w := by simp [invoke, Call.apply, found, applied]
      rw [same]
      exact known
    | ok a' =>
      rw [invoke_attempt found applied]
      have outcome : ((w.setAttempt i a').pay.attempts[i]?).map Attempt.outcome = some a'.outcome :=
        outcome_setAttempt found rfl
      unfold Known at known ⊢
      rw [outcome]
      rw [found, Option.map_some, Ne, Option.some.injEq] at known
      rcases AttemptCall.outcome_of_apply applied with ⟨-, same⟩ | ⟨o, aimed, reached, -⟩
      · rw [same, Ne, Option.some.injEq]
        exact known
      · rw [reached, ← aimed]
        exact target

theorem keeps_known_applyStatus (o : Orchestrator) (env : AttemptEnv) {sin : SettleInput}
    (at_ : sin.index = i) {res : Spi.Result}
    (status : res.status ∈ [Spi.Status.authorized, .captured, .declined]) :
    Keeps (Known i) (applyStatus o env sin res) := by
  subst at_
  simp only [List.mem_cons, List.not_mem_nil, or_false] at status
  unfold applyStatus
  rcases status with status | status | status <;> rw [status]
  · exact (keeps_known_emit _).bind fun _ => (keeps_known_attempt (by simp [AttemptCall.target])).bind
      fun _ => Keeps.read.bind fun _ => (keeps_known_payment rfl).bind fun _ => Keeps.pure
  · exact (keeps_known_emit _).bind fun _ => (keeps_known_attempt (by simp [AttemptCall.target])).bind
      fun _ => Keeps.read.bind fun _ => (keeps_known_payment rfl).bind fun _ => Keeps.pure
  · refine (keeps_known_emit _).bind fun _ =>
      (keeps_known_attempt (by simp [AttemptCall.target])).bind fun _ => Keeps.read.bind fun permits => ?_
    split
    · exact Keeps.pure
    · exact (keeps_known_payment rfl).bind fun _ => Keeps.pure

theorem known_of_accepted {x : Asked} {res : Spi.Result} {sin : SettleInput} {w : World}
    (settings : Settings) (now : Time) (env : AttemptEnv)
    (accepted : Accepts (x.handed res) (expectedOf w.pay sin))
    (status : res.status ∈ [Spi.Status.authorized, .captured, .declined]) (known : Known sin.index w) :
    Known sin.index (x.apply (validating settings now) env sin res w).1 := by
  have passed : (validating settings now).validateGatewayResponse (x.handed res)
      (expectedOf w.pay sin) = none := validating_accepts accepted
  cases x with
  | authorize =>
    simp only [Asked.apply, applyResult, bind_assoc]
    rw [bind_read]
    simp only [show (validating settings now).validateGatewayResponse (responseOf res)
      (expectedOf w.pay sin) = none from passed]
    exact Keeps.iff_state.mp
      ((keeps_known_applyStatus _ env rfl status).bind fun _ => Keeps.pure) w known
  | capture =>
    simp only [Asked.apply, settleFollowUp, SentCall.answering]
    rw [bind_read]
    simp only [show (validating settings now).validateGatewayResponse (followUpResponse res)
      (expectedOf w.pay sin) = none from passed]
    refine Keeps.iff_state.mp ?_ w known
    exact (keeps_known_emit _).bind fun _ =>
      (keeps_known_attempt (by simp [AttemptCall.target])).bind fun _ => keeps_known_payment rfl

end Recording

theorem AcceptsConforming.acceptable {p : Payment} {x : Asked} {res : Spi.Result}
    (accepts : AcceptsConforming p x res) (conforms : Conforms p x res) :
    acceptable p x res = true := by
  let sin : SettleInput :=
    { plan := (FollowUp.input (.capture p.amount true) [] p).plan, gateway := "",
      operation := x.operation, breakerKey := "", attemptID := "", index := 0 }
  have accepted := (accepts conforms).1 0 sin rfl
  exact (accepts_iff_acceptable conforms rfl).mp ((validateGatewayResponse_iff _ _ _).mp accepted)

variable (p : Payment) (x : Asked) (res : Spi.Result)

/-- The validator lets a conforming result through exactly where it is acceptable. -/
theorem acceptsConforming_iff :
    AcceptsConforming p x res ↔ (Conforms p x res → acceptable p x res = true) := by
  constructor
  · exact AcceptsConforming.acceptable
  · intro lets conforms
    have accepted : ∀ sin, sin.operation = x.operation → Accepts (x.handed res) (expectedOf p sin) :=
      fun sin op => (accepts_iff_acceptable conforms op).mpr (lets conforms)
    refine ⟨fun now sin op => (validateGatewayResponse_iff now _ _).mpr (accepted sin op), ?_⟩
    rintro settings now env sin w op rfl known
    refine known_of_accepted settings now env (accepted sin op) ?_ known
    have passed := lets conforms
    cases conforms with
    | authorized asked status => simp [status]
    | captured status => simp [status]
    | declined status => simp [status]
    | requiresAction status =>
      cases x <;> simp [acceptable, status] at passed

def processingPayment : Payment := sampleRun [.payment (.markProcessing 1)]

def fullyAuthorized : Payment :=
  sampleRun [.payment (.markProcessing 1), .payment (.markAuthorized ⟨1000, "USD"⟩ none 2)]

def partialCapture : Spi.Result :=
  { bareResult .captured with capturedAmount := some ⟨400, "USD"⟩ }

def unknownDecline : Spi.Result := { bareResult .declined with declineReason := .unknown }

def redirected : Spi.Result :=
  { bareResult .requiresAction with
    nextAction := some
      { type := .threeDSChallenge, redirectURL := "/acs/1", qrCodeData := "",
        expiresAt := none } }

/-- A capture of four dollars out of ten, a decline the adapter could not map and a redirect
all conform, and none is accepted. -/
theorem not_acceptsConforming_partialCapture :
    ¬ AcceptsConforming fullyAuthorized (.capture ⟨400, "USD"⟩ false) partialCapture ∧
      ¬ AcceptsConforming processingPayment .authorize unknownDecline ∧
      ¬ AcceptsConforming processingPayment .authorize redirected := by
  refine ⟨fun accepts => ?_, fun accepts => ?_, fun accepts => ?_⟩
  · have passed := accepts.acceptable (.captured rfl (by decide) rfl fun other => by cases other)
    exact absurd passed (by decide +kernel)
  · have passed := accepts.acceptable (.declined rfl (by decide) (by decide))
    exact absurd passed (by decide +kernel)
  · have passed := accepts.acceptable (.requiresAction rfl (by decide) ⟨_, rfl, by decide⟩)
    exact absurd passed (by decide +kernel)

/-- A result that is accepted and recorded changes the authorized amount only to the amount in the
request, and raises the captured total only by it, in the payment's currency. -/
def RecordsSent : Prop :=
  ∀ settings now env sin w w' a, sin.operation = x.operation → w.pay = p →
    p.attempts[sin.index]? = some a → a.outcome = .dispatched →
    validateGatewayResponse now (x.handed res) (expectedOf p sin) = none →
    x.apply (validating settings now) env sin res w = (w', .ok ()) →
    (w'.pay.authorizedAmount ≠ p.authorizedAmount → w'.pay.authorizedAmount = x.amount p) ∧
    (w'.pay.capturedAmount ≠ p.capturedAmount →
      p.capturedAmount.add (x.amount p) = .ok w'.pay.capturedAmount ∧
        (x.amount p).currency = p.amount.currency)

/-- An answer to a capture that reports `m` passes the rules: it is within the authorization, and of
the whole payment or of no amount that is looked at. -/
def passesCapture (m : Money) : Bool :=
  decide (m.greaterThan p.authorizedAmount = .ok false) &&
    match res.status with
    | .failed => true
    | .pending => res.gatewayRef != "" && reaches p.state .pending
    | .captured | .refundAccepted => res.gatewayRef != "" && m == p.amount
    | .authorized => res.gatewayRef != "" && m == p.amount && reaches p.state .authorized
    | .voided => res.gatewayRef != "" && m == p.amount && reaches p.state .voided
    | .refunded => res.gatewayRef != "" && m == p.amount && reaches p.state .refunded
    | _ => false

/-- An answer to an authorization that reports `m` as captured passes the rules: of the amounts
only the authorized one is looked at. -/
def passesAuthorize : Bool :=
  res.status == .captured && res.gatewayRef != "" && res.authorizedAmount.all (· == p.amount)

/-- The amount the result reports as captured is the one in the request, or the payment itself
refuses it, or the rules do. -/
def reportsSent : Bool :=
  res.capturedAmount.all fun m =>
    m == x.amount p || !p.admitsCapture m ||
      match x with
      | .authorize => !passesAuthorize p res
      | .capture .. => !passesCapture p res m

/-- A request has been sent and not been answered yet. -/
def Outstanding : Prop := ∃ (i : Nat) (a : Attempt), p.attempts[i]? = some a ∧ a.outcome = .dispatched

section Amounts

variable {p : Payment} {res : Spi.Result} {sin : SettleInput} {m : Money}

theorem present_of_edge (edge : machine.canTransition src dst = true) : text src ≠ "" := by
  cases src <;> simp_all [StateMachine.canTransition, machine] <;> decide

theorem unterminated_of_edge (edge : machine.canTransition src dst = true) :
    src.isTerminal = false := by
  cases src <;> simp_all [StateMachine.canTransition, machine] <;> decide

theorem accepts_of_passesAuthorize (op : sin.operation = .authorize)
    (admits : p.admitsCapture m = true) (passes : passesAuthorize p res = true) :
    Accepts (responseOf res) (expectedOf p sin) := by
  simp only [passesAuthorize, Bool.and_eq_true, beq_iff_eq, bne_iff_ne, Option.all_eq_true] at passes
  obtain ⟨⟨status, reference⟩, echo⟩ := passes
  have edge := (Payment.admitsCapture_of admits).2.2.2
  refine (accepts_success_iff (.inl op) ?_ ?_ (.inr rfl) reference).mpr ⟨?_, ?_, ?_⟩
  · simp [responseOf, status, normalizeOutcome]
  · simp [responseOf, status, mappedState]
  · rw [echoed_authorize op]
    cases reported : res.authorizedAmount with
    | none => simp [responseOf, reported]
    | some a => simp [responseOf, reported, echo a reported]
  · rw [op]
    exact fun other => by cases other
  · exact (reaches_iff _ _).mpr fun _ _ => edge

theorem passesAuthorize_of_accepts (op : sin.operation = .authorize)
    (status : res.status = .captured)
    (accepted : Accepts (responseOf res) (expectedOf p sin)) : passesAuthorize p res = true := by
  have outcome : normalizeOutcome (responseOf res).status = .success := by
    simp [responseOf, status, normalizeOutcome]
  have reference : res.gatewayRef ≠ "" := accepted.reference (by rw [outcome]; decide)
  have amount := accepted.amount outcome
  have currency := accepted.currency outcome
  rw [echoed_authorize op] at amount currency
  simp only [passesAuthorize, status, beq_self_eq_true, Bool.true_and, Bool.and_eq_true, bne_iff_ne]
  refine ⟨reference, ?_⟩
  cases reported : res.authorizedAmount with
  | none => rfl
  | some a =>
    have reported' : (responseOf res).authorizedAmount = some a := reported
    rw [reported'] at amount currency
    simpa [money_eq_iff] using ⟨amount, currency⟩

theorem accepts_capture_iff (op : sin.operation = .capture) (reported : res.capturedAmount = some m)
    (edge : machine.canTransition p.state .captured = true) :
    Accepts (followUpResponse res) (expectedOf p sin) ↔
      (normalizeOutcome res.status ≠ .hardError → res.gatewayRef ≠ "") ∧
      (normalizeOutcome res.status = .success → m = p.amount) ∧
      m.greaterThan p.authorizedAmount = .ok false ∧
      normalizeOutcome res.status ∈ [L6Response.Outcome.success, .pending, .hardError] ∧
      ∀ dst, mappedState res.status = some dst → reaches p.state dst = true := by
  have present : (expectedOf p sin).present = true := present_expectedOf.mpr (present_of_edge edge)
  have listed : defaultDeps.allowedOutcomes.lookup (expectedOf p sin).operation =
      some [.success, .declined, .pending, .hardError] := by
    rw [show (expectedOf p sin).operation = .capture from op]
    decide
  have same : echoed (followUpResponse res) (expectedOf p sin) = (m, m.currency) :=
    echoed_capture op reported
  constructor
  · intro h
    refine ⟨h.reference, fun success => ?_, ?_, ?_, fun dst maps => (reachable_iff maps).mp h.reachable⟩
    · have amount := h.amount success
      have currency := h.currency success
      rw [same] at amount currency
      exact (money_eq_iff _ _).mpr ⟨amount, currency⟩
    · have within := h.captured op present
      rw [show (followUpResponse res).capturedAmount = some m from reported] at within
      exact within
    · have allowed : normalizeOutcome res.status ∈ _ := h.allowed _ listed
      have reason : normalizeOutcome res.status ≠ .declined := fun declined =>
        absurd (h.reason declined) (show DeclineReason.unset ∉ _ by decide)
      simp only [List.mem_cons, List.not_mem_nil, or_false] at allowed ⊢
      tauto
  · rintro ⟨reference, amount, within, allowed, reach⟩
    refine ⟨reference, fun success => ?_, fun success => ?_, fun _ _ => ?_, ?_, ?_, ?_, ?_, ?_, ?_, ?_⟩
    · rw [same, amount success]
      rfl
    · rw [same, amount success]
      rfl
    · rw [show (followUpResponse res).capturedAmount = some m from reported]
      exact within
    · exact fun other => by simp [expectedOf, op] at other
    · intro unknown
      rw [show normalizeOutcome res.status = .unknown from unknown] at allowed
      simp at allowed
    · intro outcomes found
      cases listed.symm.trans found
      simp only [List.mem_cons, List.not_mem_nil, or_false] at allowed ⊢
      rw [show (followUpResponse res).status = res.status from rfl]
      tauto
    · intro declined
      rw [show normalizeOutcome res.status = .declined from declined] at allowed
      simp at allowed
    · intro action
      rw [show normalizeOutcome res.status = .requiresAction from action] at allowed
      simp at allowed
    · intro _ dst maps
      exact (reaches_iff _ _).mp (reach dst maps) (present_of_edge edge)
    · intro _ terminal
      rw [show (expectedOf p sin).currentState = p.state from rfl, unterminated_of_edge edge] at terminal
      cases terminal

theorem accepts_iff_passesCapture (op : sin.operation = .capture)
    (reported : res.capturedAmount = some m) (admits : p.admitsCapture m = true) :
    Accepts (followUpResponse res) (expectedOf p sin) ↔ passesCapture p res m = true := by
  have edge := (Payment.admitsCapture_of admits).2.2.2
  have captures : reaches p.state .captured = true := (reaches_iff _ _).mpr fun _ _ => edge
  rw [accepts_capture_iff op reported edge]
  cases status : res.status <;>
    simp [passesCapture, status, normalizeOutcome, mappedState, captures, and_assoc, and_comm,
      and_left_comm]

end Amounts

section Recorded

variable {p : Payment} {x : Asked} {res : Spi.Result} {sin : SettleInput} {w : World} {a : Attempt}

def succeededThen (c : PaymentCall) (w : World) (e : Effect) (i : Nat) (a' : Attempt) :
    World × Except GoError Unit :=
  ({ (w.emit e).setAttempt i a' with pay := (c.apply ((w.emit e).setAttempt i a').pay).1 },
    (c.apply ((w.emit e).setAttempt i a').pay).2)

variable (settings : Settings) (now : Time) (env : AttemptEnv)

theorem apply_captures (found : w.pay.attempts[sin.index]? = some a)
    (sent : a.outcome = .dispatched)
    (accepted : Accepts (x.handed res) (expectedOf w.pay sin))
    (status : x = .authorize → res.status = .captured) :
    ∃ a', x.apply (validating settings now) env sin res w =
      succeededThen (.markCaptured (res.capturedAmount.getD (x.amount w.pay)) env.mutatedAt) w
        (.record sin.breakerKey true true) sin.index a' := by
  obtain ⟨a', succeeded, -⟩ := succeed_dispatched sent res.gatewayRef res.rawStatus env.now
  have passed : (validating settings now).validateGatewayResponse (x.handed res)
      (expectedOf w.pay sin) = none := validating_accepts accepted
  refine ⟨a', ?_⟩
  cases x with
  | authorize =>
    simp only [Asked.apply, applyResult, bind_assoc]
    rw [bind_read]
    simp only [show (validating settings now).validateGatewayResponse (responseOf res)
      (expectedOf w.pay sin) = none from passed, applyStatus, status rfl, bind_assoc, pure_bind,
      bind_pure_unit]
    exact mark_then (.record sin.breakerKey true true) found succeeded _
  | capture =>
    simp only [Asked.apply, settleFollowUp, SentCall.answering]
    rw [bind_read]
    simp only [show (validating settings now).validateGatewayResponse (followUpResponse res)
      (expectedOf w.pay sin) = none from passed]
    exact mark_then (.record sin.breakerKey true true) found succeeded _

theorem apply_authorizes (found : w.pay.attempts[sin.index]? = some a)
    (sent : a.outcome = .dispatched)
    (accepted : Accepts (responseOf res) (expectedOf w.pay sin)) (status : res.status = .authorized) :
    ∃ a' expires, Asked.authorize.apply (validating settings now) env sin res w =
      succeededThen (.markAuthorized (res.authorizedAmount.getD w.pay.amount) expires env.mutatedAt) w
        (.record sin.breakerKey true true) sin.index a' := by
  obtain ⟨a', succeeded, -⟩ := succeed_dispatched sent res.gatewayRef res.rawStatus env.now
  refine ⟨a', some (res.authExpiresAt.getD (env.now + settings.authorizationValidity)), ?_⟩
  simp only [Asked.apply, applyResult, bind_assoc]
  rw [bind_read]
  simp only [validating_accepts accepted, applyStatus, status, bind_assoc, pure_bind, bind_pure_unit]
  exact mark_then (.record sin.breakerKey true true) found succeeded _

def SameAmounts (p : Payment) (w : World) : Prop :=
  w.pay.authorizedAmount = p.authorizedAmount ∧ w.pay.capturedAmount = p.capturedAmount

theorem keeps_sameAmounts {c : Call} (plain : Call.grants c = false) :
    Keeps (SameAmounts p) (invoke c) := by
  refine Keeps.iff_state.mpr ?_
  rintro w ⟨authorized, captured⟩
  have effect := Call.effect w.pay c
  generalize after : (c.apply w.pay).1.core = k at effect
  have kept : k.authorized = w.pay.authorizedAmount ∧ k.captured = w.pay.capturedAmount := by
    cases effect with
    | authorize | capture => cases plain
    | keep | start | move | resolve | fail | openRefund | confirm | confirmRefused | attempt | refund =>
      exact ⟨rfl, rfl⟩
  exact ⟨(congrArg Core.authorized after).trans (kept.1.trans authorized),
    (congrArg Core.captured after).trans (kept.2.trans captured)⟩

theorem keeps_sameAmounts_applyStatus (o : Orchestrator) (env : AttemptEnv)
    (unauthorized : res.status ≠ .authorized) (uncaptured : res.status ≠ .captured) :
    Keeps (SameAmounts p) (applyStatus o env sin res) := by
  have note : ∀ e, Keeps (SameAmounts p) (emit e) := fun e => Triple.modify fun _ same => same
  have parks : ∀ message reason, Keeps (SameAmounts p) (parkFollowUp env sin message reason) :=
    fun message reason => (note _).bind fun _ => (keeps_sameAmounts rfl).bind fun _ =>
      keeps_sameAmounts rfl
  unfold applyStatus
  split
  · rename_i status
    exact absurd status unauthorized
  · rename_i status
    exact absurd status uncaptured
  · exact (note _).bind fun _ => (keeps_sameAmounts rfl).bind fun _ => Keeps.pure
  · exact (note _).bind fun _ => (keeps_sameAmounts rfl).bind fun _ => Keeps.pure
  · refine (note _).bind fun _ => (keeps_sameAmounts rfl).bind fun _ => Keeps.read.bind fun permits => ?_
    split
    · exact Keeps.pure
    · exact (keeps_sameAmounts rfl).bind fun _ => Keeps.pure
  · exact (parks _ _).bind fun _ => Keeps.pure

theorem sameAmounts_of_accepted (accepted : Accepts (responseOf res) (expectedOf w.pay sin))
    (unauthorized : res.status ≠ .authorized) (uncaptured : res.status ≠ .captured) :
    SameAmounts w.pay (Asked.authorize.apply (validating settings now) env sin res w).1 := by
  simp only [Asked.apply, applyResult, bind_assoc]
  rw [bind_read]
  simp only [validating_accepts accepted]
  exact Keeps.iff_state.mp ((keeps_sameAmounts_applyStatus _ env unauthorized uncaptured).bind
    fun _ => Keeps.pure) w ⟨rfl, rfl⟩

variable {amt : Money}

theorem captured_of_ok {now : Time} {e : Effect} {i : Nat} {a' : Attempt} {w' : World}
    (ran : succeededThen (.markCaptured amt now) w e i a' = (w', .ok ())) :
    w.pay.admitsCapture amt = true ∧ w.pay.capturedAmount.add amt = .ok w'.pay.capturedAmount ∧
      w'.pay.authorizedAmount = w.pay.authorizedAmount := by
  obtain ⟨rfl, ok⟩ := Prod.mk.inj ran
  rcases ((w.emit e).setAttempt i a').pay.markCaptured_cases amt now with
    ⟨-, err, same⟩ | ⟨admits, -, total, sum, core⟩
  · simp only [PaymentCall.apply, same] at ok
    cases ok
  · refine ⟨admits, sum.trans ?_, congrArg Core.authorized core⟩
    exact congrArg Except.ok (congrArg Core.captured core).symm

theorem succeededThen_of_admits (now : Time) (e : Effect) (i : Nat) (a' : Attempt)
    (admits : w.pay.admitsCapture amt = true) :
    ∃ w', succeededThen (.markCaptured amt now) w e i a' = (w', .ok ()) := by
  refine ⟨_, Prod.ext rfl ?_⟩
  rcases ((w.emit e).setAttempt i a').pay.markCaptured_cases amt now with
    ⟨refused, -⟩ | ⟨-, ok, -⟩
  · cases refused.symm.trans admits
  · exact ok

theorem authorized_of_ok {expires : Option Time} {now : Time} {e : Effect} {i : Nat}
    {a' : Attempt} {w' : World}
    (ran : succeededThen (.markAuthorized amt expires now) w e i a' = (w', .ok ())) :
    w'.pay.authorizedAmount = amt ∧ w'.pay.capturedAmount = w.pay.capturedAmount := by
  obtain ⟨rfl, ok⟩ := Prod.mk.inj ran
  rcases ((w.emit e).setAttempt i a').pay.markAuthorized_cases amt expires now with
    ⟨-, err, same⟩ | ⟨-, -, core⟩
  · simp only [PaymentCall.apply, same] at ok
    cases ok
  · exact ⟨congrArg Core.authorized core, congrArg Core.captured core⟩

/-- A captured amount that the payment and the rules let through is recorded. -/
def recordsReported (p : Payment) (x : Asked) (res : Spi.Result) (m : Money) : Bool :=
  p.admitsCapture m &&
    match x with
    | .authorize => passesAuthorize p res
    | .capture .. => passesCapture p res m

theorem reportsSent_iff :
    reportsSent p x res = true ↔
      ∀ m, res.capturedAmount = some m → recordsReported p x res m = true → m = x.amount p := by
  simp only [reportsSent, recordsReported, Option.all_eq_true, Bool.or_eq_true, beq_iff_eq,
    Bool.not_eq_true', Bool.and_eq_true]
  refine forall₂_congr fun m _ => ?_
  cases x <;> simp only [Bool.not_eq_true'] <;> rw [or_assoc, or_iff_not_imp_right, not_or] <;> simp

theorem accepts_of_recordsReported {m : Money} (op : sin.operation = x.operation)
    (reported : res.capturedAmount = some m) (records : recordsReported p x res m = true) :
    Accepts (x.handed res) (expectedOf p sin) ∧ p.admitsCapture m = true ∧
      (x = .authorize → res.status = .captured) := by
  simp only [recordsReported, Bool.and_eq_true] at records
  obtain ⟨admits, passes⟩ := records
  cases x with
  | authorize =>
    refine ⟨accepts_of_passesAuthorize op admits passes, admits, fun _ => ?_⟩
    simp only [passesAuthorize, Bool.and_eq_true, beq_iff_eq] at passes
    exact passes.1.1
  | capture =>
    exact ⟨(accepts_iff_passesCapture op reported admits).mpr passes, admits,
      fun other => by cases other⟩

theorem recordsReported_of_accepts {m : Money} (op : sin.operation = x.operation)
    (reported : res.capturedAmount = some m) (admits : p.admitsCapture m = true)
    (status : x = .authorize → res.status = .captured)
    (accepted : Accepts (x.handed res) (expectedOf p sin)) : recordsReported p x res m = true := by
  simp only [recordsReported, admits, Bool.true_and]
  cases x with
  | authorize => exact passesAuthorize_of_accepts op (status rfl) accepted
  | capture => exact (accepts_iff_passesCapture op reported admits).mp accepted

theorem RecordsSent.reportsSent (records : RecordsSent p x res) (outstanding : Outstanding p) :
    reportsSent p x res = true := by
  obtain ⟨i, a, found, sent⟩ := outstanding
  refine reportsSent_iff.mpr fun m reported recorded => ?_
  let sin : SettleInput :=
    { plan := (FollowUp.input (.capture p.amount true) [] p).plan, gateway := "",
      operation := x.operation, breakerKey := "", attemptID := "", index := i }
  let w : World := { pay := p, row := Storage.Row.of p, log := [] }
  have asked : sin.operation = x.operation := rfl
  have outstanding : w.pay.attempts[sin.index]? = some a := found
  obtain ⟨accepted, admits, status⟩ := accepts_of_recordsReported asked reported recorded
  obtain ⟨a', ran⟩ := apply_captures
    { maxAttempts := 1, authorizationValidity := 0, enableFailover := false } 0
    (sampleAttempt 0 (SentCall.answering res)) outstanding sent accepted status
  rw [reported, Option.getD_some] at ran
  obtain ⟨w', ok⟩ := succeededThen_of_admits (w := w) 3 (.record sin.breakerKey true true) sin.index a'
    admits
  obtain ⟨-, sum, -⟩ := captured_of_ok ok
  have valid := (validateGatewayResponse_iff 0 _ _).mpr accepted
  have positive := (Payment.admitsCapture_of admits).2.1
  obtain ⟨currency, -, total⟩ := Money.add_ok sum
  have changed : w'.pay.capturedAmount ≠ p.capturedAmount := by
    intro same
    rw [same] at total
    change p.capturedAmount.minor = p.capturedAmount.minor + m.minor at total
    omega
  obtain ⟨sum', -⟩ := (records _ 0 _ sin w w' a rfl rfl found sent valid (ran.trans ok)).2 changed
  obtain ⟨currency', -, total'⟩ := Money.add_ok sum'
  refine (money_eq_iff _ _).mpr ⟨Int64.toInt_inj.mp ?_, currency.trans currency'.symm⟩
  change w'.pay.capturedAmount.minor = p.capturedAmount.minor + m.minor at total
  exact Int.add_left_cancel (total.symm.trans total')

/-- What is recorded is what was sent exactly where a captured amount that is reported, and let
through, is the one in the request. -/
theorem recordsSent_iff (p : Payment) (x : Asked) (res : Spi.Result) :
    RecordsSent p x res ↔ (Outstanding p → reportsSent p x res = true) := by
  constructor
  · exact RecordsSent.reportsSent
  · rintro reports settings now env sin w w' a op rfl found sent valid ran
    have accepted := (validateGatewayResponse_iff now _ _).mp valid
    have only := reportsSent_iff.mp (reports ⟨_, a, found, sent⟩)
    by_cases captures : x = .authorize → res.status = .captured
    · obtain ⟨a', recorded⟩ := apply_captures settings now env found sent accepted captures
      obtain ⟨admits, sum, authorized⟩ := captured_of_ok (recorded.symm.trans ran)
      have same : res.capturedAmount.getD (x.amount w.pay) = x.amount w.pay := by
        cases reported : res.capturedAmount with
        | none => rfl
        | some m =>
          rw [reported, Option.getD_some] at admits
          exact only m reported (recordsReported_of_accepts op reported admits captures accepted)
      rw [same] at admits sum
      exact ⟨fun changed => absurd authorized changed,
        fun _ => ⟨sum, (Payment.admitsCapture_of admits).1⟩⟩
    · obtain ⟨rfl, uncaptured⟩ := Classical.not_imp.mp captures
      by_cases authorizes : res.status = .authorized
      · obtain ⟨a', expires, recorded⟩ :=
          apply_authorizes settings now env found sent accepted authorizes
        obtain ⟨amount, captured⟩ := authorized_of_ok (recorded.symm.trans ran)
        have outcome : normalizeOutcome (responseOf res).status = .success := by
          simp [responseOf, authorizes, normalizeOutcome]
        have echo := accepted.amount outcome
        have currency := accepted.currency outcome
        refine ⟨fun _ => amount.trans ?_, fun changed => absurd captured changed⟩
        rw [Asked.handed, echoed_authorize op] at echo currency
        cases reported : res.authorizedAmount with
        | none => rfl
        | some m =>
          rw [show (responseOf res).authorizedAmount = some m from reported] at echo currency
          exact (money_eq_iff _ _).mpr ⟨echo, currency⟩
      · obtain ⟨authorized, captured⟩ :=
          sameAmounts_of_accepted settings now env accepted authorizes uncaptured
        rw [ran] at authorized captured
        exact ⟨fun changed => absurd authorized changed, fun changed => absurd captured changed⟩

def withSent (p : Payment) : Payment :=
  let started := (p.startAttempt "stripe" "" .capture ⟨"att_1", "key_1"⟩ 2).1
  ((Call.attempt 0 (.dispatch 2)).apply started).1

/-- An authorization of ten dollars that comes back as a capture of four is recorded as four,
and a capture of four that comes back as ten is recorded as ten. -/
theorem not_recordsSent_partialCapture :
    ¬ RecordsSent (withSent processingPayment) .authorize partialCapture ∧
      ¬ RecordsSent (withSent fullyAuthorized) (.capture ⟨400, "USD"⟩ false)
        { partialCapture with capturedAmount := some ⟨1000, "USD"⟩ } := by
  have outstanding : ∀ p, (withSent p).attempts.any (·.outcome == .dispatched) = true →
      Outstanding (withSent p) := by
    intro p sent
    obtain ⟨a, mem, dispatched⟩ := List.any_eq_true.mp sent
    obtain ⟨i, found⟩ := List.getElem?_of_mem mem
    exact ⟨i, a, found, by simpa using dispatched⟩
  refine ⟨fun records => ?_, fun records => ?_⟩
  · exact absurd (records.reportsSent (outstanding _ (by decide +kernel))) (by decide +kernel)
  · exact absurd (records.reportsSent (outstanding _ (by decide +kernel))) (by decide +kernel)

end Recorded

end PaymentsPlatform.Orchestration
