/- layer: orchestration results
   digest: When the Stripe adapter reports a failure the gateway may have acted on. -/

import PaymentsPlatform.Gateways.Stripe
import PaymentsPlatform.Orchestration.Orchestrator

namespace PaymentsPlatform.Orchestration

open Gateways.Stripe
open Pkg (Money)
open Pkg.ApiError (GoError)
open Gateways.Httpx (Client Exchange HTTPResponse TransportError)
open Gateways.Spi (Result)

def answerOf : Except GoError Result → Answer
  | .ok resp => { resp := some resp, callErr := none }
  | .error err => { resp := none, callErr := some err }

def plainError (a : Answer) : Bool :=
  a.callErr.isSome && !(isOutcomeUnknown a.callErr || (a.resp.isNone && isTimeout a.callErr))

/-- The request gets past every check made before it is handed to net/http. -/
def Sent (g : Gateway) (call : MoneyCall) (env : CallEnv) : Prop :=
  call.check.isOk = true ∧ env.ctxErr = none ∧ env.secretKey.getD "" ≠ "" ∧
    g.client.refusal env.sendCtxErr env.body = none

/-- The gateway answered that it refused the request before processing it. -/
def isRefusal (status : Int) : Prop := 400 ≤ status ∧ status < 500

/-- Something of the request reached the gateway, and the gateway did not refuse it. -/
def MayHaveActed : Exchange → Prop
  | .unbuildable _ => False
  | .failed e => e.reach = .written
  | .answered status _ => ¬ isRefusal status

def ProvablyIdle (g : Gateway) (call : MoneyCall) (env : CallEnv) : Prop :=
  ¬ (Sent g call env ∧ MayHaveActed env.exchange)

/-- A plain error means that the gateway did nothing, and a call that yields no result
although the gateway may have acted says so. -/
def ReportsHonestly (g : Gateway) (call : MoneyCall) (env : CallEnv) : Prop :=
  let a := answerOf (g.perform call env)
  (plainError a = true → ProvablyIdle g call env) ∧
    (¬ ProvablyIdle g call env → a.resp = none → isOutcomeUnknown a.callErr = true)

/-! What the adapter cannot read in a 2xx. -/

def intentStatuses : List String :=
  ["requires_payment_method", "requires_confirmation", "requires_action", "processing",
    "requires_capture", "succeeded", "canceled"]

def refundStatuses : List String :=
  ["pending", "requires_action", "succeeded", "failed", "canceled"]

def Echoes (requested : Money) (amount : Int64) (currency : String) : Prop :=
  requested.isValid = true →
    normalizeCurrency currency = requested.currency ∧ amount ≤ requested.amount

/-- A body that decodes to an object the adapter does not accept. -/
def Unaccepted (g : Gateway) (body : ByteArray) : MoneyCall → Prop
  | .refund req => ∃ r, g.decoder.refund body = .ok r ∧
      ¬ (r.id ≠ "" ∧ r.status ∈ refundStatuses ∧ Echoes req.amount r.amount r.currency)
  | .authorize req => ∃ pi, g.decoder.intent body = .ok pi ∧
      ¬ (pi.id ≠ "" ∧ pi.status ∈ intentStatuses ∧ Echoes req.amount pi.amount pi.currency)
  | .capture req => ∃ pi, g.decoder.intent body = .ok pi ∧
      ¬ (pi.id ≠ "" ∧ pi.status ∈ intentStatuses ∧ Echoes req.amount pi.amount pi.currency)
  | .void _ => ∃ pi, g.decoder.intent body = .ok pi ∧ ¬ (pi.id ≠ "" ∧ pi.status ∈ intentStatuses)

/-- The ends of an exchange that are reported as a plain error although the gateway may
have acted. -/
def Misreported (g : Gateway) (call : MoneyCall) : Exchange → Prop
  | .unbuildable _ => False
  | .failed e => e.reach = .written ∧ Gateways.Httpx.isTimeout e = false
  | .answered status stream =>
    if g.client.maxResponseBytes < stream.arrived.size then ¬ isRefusal status
    else
      stream.readErr = none ∧
        (status < 200 ∨ (300 ≤ status ∧ status < 400) ∨
          (200 ≤ status ∧ status < 300 ∧ Unaccepted g stream.arrived call))

def Plain {α : Type} (x : Except GoError α) : Prop :=
  ∃ err, x = .error err ∧ err.isSentinel errOutcomeUnknown = false ∧
    err.isSentinel errUnparseable = false

variable {α β : Type}

theorem plain_error {err : GoError}
    (known : ∀ target, target = errOutcomeUnknown ∨ target = errUnparseable →
      err.isSentinel target = false) : Plain (.error err : Except GoError α) :=
  ⟨err, rfl, known _ (.inl rfl), known _ (.inr rfl)⟩

/-- A step that succeeds when `P` holds and is a plain error otherwise. -/
def Decides (P : Prop) {α : Type} (x : Except GoError α) : Prop :=
  (P → ∃ a, x = .ok a) ∧ (¬ P → Plain x)

variable {P : Prop}

theorem Decides.bind {Q : Prop} {x : Except GoError α} {f : α → Except GoError β}
    (first : Decides P x) (next : ∀ a, x = .ok a → Decides Q (f a)) :
    Decides (P ∧ Q) (x >>= f) := by
  by_cases holds : P
  · obtain ⟨a, rfl⟩ := first.1 holds
    refine ⟨fun both => (next a rfl).1 both.2, fun failing => (next a rfl).2 fun second => ?_⟩
    exact failing ⟨holds, second⟩
  · obtain ⟨err, rfl, sentinels⟩ := first.2 holds
    exact ⟨fun both => absurd both.1 holds, fun _ => ⟨err, rfl, sentinels⟩⟩

theorem Decides.then {x : Except GoError α} {f : α → Except GoError β}
    (first : Decides P x) (next : ∀ a, ∃ b, f a = .ok b) : Decides P (x >>= f) := by
  refine ⟨fun holds => ?_, fun failing => ?_⟩
  · obtain ⟨a, rfl⟩ := first.1 holds
    exact next a
  · obtain ⟨err, rfl, sentinels⟩ := first.2 failing
    exact ⟨err, rfl, sentinels⟩

theorem decides_ok {x : Except GoError α} (holds : P) {a : α} (done : x = .ok a) : Decides P x :=
  ⟨fun _ => ⟨a, done⟩, fun failing => absurd holds failing⟩

theorem decides_mapIntentStatus (pi : PaymentIntent) :
    Decides (pi.status ∈ intentStatuses) (mapIntentStatus pi) := by
  unfold mapIntentStatus
  split
  case h_8 raw h1 h2 h3 h4 h5 h6 h7 =>
    refine ⟨fun known => ?_, fun _ => plain_error fun _ _ => rfl⟩
    simp_all [intentStatuses]
  all_goals exact ⟨fun _ => ⟨_, rfl⟩, fun unknown => by simp_all [intentStatuses]⟩

theorem decides_mapRefundStatus (r : Refund) :
    Decides (r.status ∈ refundStatuses) (mapRefundStatus r) := by
  unfold mapRefundStatus
  split
  case h_6 =>
    refine ⟨fun known => ?_, fun _ => plain_error fun _ _ => rfl⟩
    simp_all [refundStatuses]
  all_goals exact ⟨fun _ => ⟨_, rfl⟩, fun unknown => by simp_all [refundStatuses]⟩

theorem decides_verifyEcho {requested : Money} (valid : requested.isValid = true)
    (amount : Int64) (currency object : String) :
    Decides (Echoes requested amount currency) (verifyEcho requested amount currency object) := by
  have supported : Pkg.Currency.isSupported requested.currency = true := valid
  constructor
  · intro echoes
    obtain ⟨same, within⟩ := echoes valid
    exact ⟨⟨amount, requested.currency⟩, by
      simp [verifyEcho, same, Int64.not_lt.mpr within, Money.new, supported]⟩
  · intro strays
    unfold verifyEcho
    dsimp only
    split
    · exact plain_error fun _ _ => rfl
    · split
      · exact plain_error fun _ _ => rfl
      · rename_i same within
        exact absurd (fun _ => ⟨not_not.mp same, Int64.not_lt.mp within⟩) strays

theorem echoes_of_invalid {requested : Money} (invalid : ¬ requested.isValid = true)
    (amount : Int64) (currency : String) : Echoes requested amount currency :=
  fun valid => absurd valid invalid

theorem decides_shortfallOf (requested : Money) (pi : PaymentIntent) :
    Decides (Echoes requested pi.amount pi.currency) (shortfallOf requested pi) := by
  unfold shortfallOf
  by_cases valid : requested.isValid = true
  · rw [if_pos valid]
    exact (decides_verifyEcho valid _ _ _).then fun _ => ⟨_, rfl⟩
  · rw [if_neg valid]
    exact decides_ok (echoes_of_invalid valid _ _) rfl

theorem decides_resultFromIntent (pi : PaymentIntent) (requested : Money) (key : String) :
    Decides (pi.status ∈ intentStatuses ∧ Echoes requested pi.amount pi.currency)
      (resultFromIntent pi none requested key) :=
  (decides_mapIntentStatus pi).bind fun _ _ =>
    (decides_shortfallOf requested pi).then fun _ => ⟨_, rfl⟩

theorem decides_resultFromRefund (r : Refund) (requested : Money) (key : String) :
    Decides (r.status ∈ refundStatuses ∧ Echoes requested r.amount r.currency)
      (resultFromRefund r requested key) := by
  refine (decides_mapRefundStatus r).bind fun _ _ => ?_
  by_cases valid : requested.isValid = true
  · rw [if_pos valid]
    exact (decides_verifyEcho valid _ _ _).then fun _ => ⟨_, rfl⟩
  · rw [if_neg valid]
    exact decides_ok (echoes_of_invalid valid _ _) rfl

theorem isSentinel_credentialsInvalid {target : String}
    (named : target = errOutcomeUnknown ∨ target = errUnparseable) (message : String) :
    (credentialsInvalid message).isSentinel target = false := by
  rw [credentialsInvalid, Pkg.ApiError.isSentinel_wrap]
  rcases named with rfl | rfl <;> decide

theorem plain_mapErrorType (status : Int) (e : StripeError) :
    Plain (.error (mapErrorType status e) : Except GoError α) := by
  refine plain_error fun target named => ?_
  have invalid := isSentinel_credentialsInvalid named
  unfold mapErrorType
  split
  case h_1 => exact invalid _
  case h_4 =>
    split
    · rfl
    · split
      · exact invalid _
      · rfl
  case h_7 =>
    split
    · exact invalid _
    · rfl
  all_goals rfl

theorem decides_checkStatus (g : Gateway) (resp : HTTPResponse) :
    Decides (200 ≤ resp.statusCode ∧ resp.statusCode < 300) (g.checkStatus resp) := by
  unfold Gateway.checkStatus
  by_cases accepted : 200 ≤ resp.statusCode ∧ resp.statusCode < 300
  · rw [if_pos accepted]
    exact decides_ok accepted rfl
  · rw [if_neg accepted]
    refine ⟨fun ok => absurd ok accepted, fun _ => ?_⟩
    split
    · split
      · exact plain_error fun _ named => isSentinel_credentialsInvalid named _
      · split <;> exact plain_error fun _ _ => rfl
    · exact plain_mapErrorType _ _

def Honest (x : Except GoError Result) : Prop :=
  ∀ err, x = .error err → err.isSentinel errOutcomeUnknown = true

theorem honest_ok (r : Result) : Honest (.ok r) := fun _ failed => by cases failed

theorem honest_error {err : GoError} :
    Honest (.error err) ↔ err.isSentinel errOutcomeUnknown = true :=
  ⟨fun honest => honest err rfl, fun unknown _ failed => by cases failed; exact unknown⟩

variable {x : Except GoError Result}

theorem Plain.not_honest (plain : Plain x)
    (op : Shared.Operation) : ¬ Honest (x.mapError (escalateUnparseable op)) := by
  obtain ⟨err, rfl, known, parsed⟩ := plain
  have kept : escalateUnparseable op err = err := by simp [escalateUnparseable, parsed]
  show ¬ Honest (.error (escalateUnparseable op err))
  rw [kept, honest_error, known]
  exact Bool.false_ne_true

theorem honest_decoded_iff {op : Shared.Operation} (moves : op.isMoneyMoving = true)
    (decoded : Except String α) {accept : α → Except GoError Result} {P : α → Prop}
    (decides : ∀ a, Decides (P a) (accept a)) :
    Honest ((decoded.mapError unparseable >>= accept).mapError (escalateUnparseable op)) ↔
      ¬ ∃ a, decoded = .ok a ∧ ¬ P a := by
  cases decoded with
  | error err =>
    refine iff_of_true (honest_error.mpr ?_) (by simp)
    have parsed : (unparseable err).isSentinel errUnparseable = true := rfl
    simp [escalateUnparseable, moves, parsed, GoError.isSentinel]
  | ok a =>
    by_cases accepted : P a
    · obtain ⟨r, done⟩ := (decides a).1 accepted
      refine iff_of_true ?_ (by simp [accepted])
      show Honest ((accept a).mapError _)
      rw [done]
      exact honest_ok r
    · exact iff_of_false (((decides a).2 accepted).not_honest op)
        (not_not_intro ⟨a, rfl, accepted⟩)

variable {resp : HTTPResponse}

theorem decides_identified {id message : String} (decides : Decides P x) :
    Decides (id ≠ "" ∧ P) (if id = "" then
      .error (Pkg.ApiError.new .gatewayContractViolation message) else x) := by
  by_cases anonymous : id = ""
  · rw [if_pos anonymous]
    exact ⟨fun both => absurd anonymous both.1, fun _ => plain_error fun _ _ => rfl⟩
  · rw [if_neg anonymous]
    exact ⟨fun both => decides.1 both.2, fun failing =>
      decides.2 fun holds => failing ⟨anonymous, holds⟩⟩

section Accepted

variable (g : Gateway) (accepted : 200 ≤ resp.statusCode ∧ resp.statusCode < 300)
include accepted

theorem intentResult_of_accepted (requested : Money) (key : String) :
    g.intentResult resp requested key = (g.decoder.intent resp.body).mapError unparseable >>=
      fun pi => if pi.id = "" then
          .error (Pkg.ApiError.new .gatewayContractViolation
            "stripe: the response carries no payment_intent id")
        else resultFromIntent pi none requested key := by
  have paid : ¬ resp.statusCode = 402 := by omega
  unfold Gateway.intentResult
  rw [if_neg paid, Gateway.checkStatus, if_pos accepted]
  rfl

theorem refundResult_of_accepted (requested : Money) (key : String) :
    g.refundResult resp requested key = (g.decoder.refund resp.body).mapError unparseable >>=
      fun r => if r.id = "" then
          .error (Pkg.ApiError.new .gatewayContractViolation
            "stripe: the refund response carries no refund id")
        else resultFromRefund r requested key := by
  unfold Gateway.refundResult
  rw [Gateway.checkStatus, if_pos accepted]
  rfl

theorem honest_intentResult_iff {op : Shared.Operation} (moves : op.isMoneyMoving = true)
    (requested : Money) (key : String) :
    Honest ((g.intentResult resp requested key).mapError (escalateUnparseable op)) ↔
      ¬ ∃ pi, g.decoder.intent resp.body = .ok pi ∧
        ¬ (pi.id ≠ "" ∧ pi.status ∈ intentStatuses ∧
          Echoes requested pi.amount pi.currency) := by
  rw [intentResult_of_accepted g accepted]
  exact honest_decoded_iff moves _ fun pi =>
    decides_identified (decides_resultFromIntent pi requested key)

theorem honest_read_iff (call : MoneyCall) :
    Honest ((call.read g resp).mapError (escalateUnparseable call.op)) ↔
      ¬ Unaccepted g resp.body call := by
  cases call with
  | authorize req => exact honest_intentResult_iff g accepted rfl req.amount req.idempotencyKey
  | capture req => exact honest_intentResult_iff g accepted rfl req.amount req.idempotencyKey
  | refund req =>
    show Honest ((g.refundResult resp _ _).mapError _) ↔ _
    rw [refundResult_of_accepted g accepted]
    exact honest_decoded_iff rfl _ fun r =>
      decides_identified (decides_resultFromRefund r req.amount req.idempotencyKey)
  | void req =>
    have unchecked (amount : Int64) (currency : String) :
        Echoes (Money.zero "") amount currency := echoes_of_invalid (by decide) _ _
    refine (honest_intentResult_iff g accepted rfl _ req.idempotencyKey).trans ?_
    simp only [unchecked, and_true]
    rfl

end Accepted

theorem plain_read (g : Gateway) (call : MoneyCall)
    (strange : resp.statusCode < 200 ∨ (300 ≤ resp.statusCode ∧ resp.statusCode < 400)) :
    Plain (call.read g resp) := by
  have rejected : Plain (g.checkStatus resp) :=
    (decides_checkStatus g resp).2 (by omega)
  have paid : ¬ resp.statusCode = 402 := by omega
  obtain ⟨err, refused, sentinels⟩ := rejected
  cases call
  case refund req => exact ⟨err, by simp [MoneyCall.read, Gateway.refundResult, refused]; rfl, sentinels⟩
  all_goals
    exact ⟨err, by simp [MoneyCall.read, Gateway.intentResult, paid, refused]; rfl, sentinels⟩

def report (g : Gateway) (call : MoneyCall) (resp : HTTPResponse) : Except GoError Result := do
  let resp ← classifyResponse call.op resp
  (call.read g resp).mapError (escalateUnparseable call.op)

variable {g : Gateway} {call : MoneyCall}

theorem perform_of_sent {env : CallEnv} (sent : Sent g call env) :
    g.perform call env = g.client.outcome env.exchange >>= report g call := by
  obtain ⟨checked, live, keyed, sendable⟩ := sent
  have passed : call.check = .ok () := by
    cases h : call.check with
    | ok => rfl
    | error => simp [h, Except.isOk, Except.toBool] at checked
  unfold Gateway.perform Gateway.send credential Client.roundTrip
  rw [passed, live, if_neg keyed, sendable]
  cases g.client.outcome env.exchange <;> rfl

theorem honest_report_timeout (g : Gateway) (call : MoneyCall) (resp : HTTPResponse)
    (timedOut : resp.timeout = true) : Honest (report g call resp) := by
  have stopped : report g call resp = .error (timeoutOutcome call.op "stripe") := by
    rw [report, classifyResponse, if_pos timedOut]
    rfl
  rw [stopped, honest_error, timeoutOutcome, if_pos call.op_isMoneyMoving]
  rfl

theorem honest_report_iff (g : Gateway) (call : MoneyCall) (resp : HTTPResponse)
    (complete : resp.timeout = false) (unrefused : ¬ isRefusal resp.statusCode) :
    Honest (report g call resp) ↔
      ¬ (resp.statusCode < 200 ∨ (300 ≤ resp.statusCode ∧ resp.statusCode < 400) ∨
        (200 ≤ resp.statusCode ∧ resp.statusCode < 300 ∧ Unaccepted g resp.body call)) := by
  have returned : ¬ resp.timeout = true := by rw [complete]; exact Bool.false_ne_true
  unfold isRefusal at unrefused
  by_cases broken : 500 ≤ resp.statusCode
  · refine iff_of_true ?_ (by omega)
    rw [report, classifyResponse, if_neg returned, if_pos ⟨broken, call.op_isMoneyMoving⟩]
    exact honest_error.mpr rfl
  · rw [report, classifyResponse, if_neg returned, if_neg fun failing => broken failing.1]
    show Honest ((call.read g resp).mapError _) ↔ _
    by_cases accepted : 200 ≤ resp.statusCode ∧ resp.statusCode < 300
    · rw [honest_read_iff g accepted]
      refine not_congr ⟨fun unaccepted => .inr (.inr ⟨accepted.1, accepted.2, unaccepted⟩), ?_⟩
      rintro (low | redirected | ⟨-, -, unaccepted⟩)
      · omega
      · omega
      · exact unaccepted
    · have strange : resp.statusCode < 200 ∨ (300 ≤ resp.statusCode ∧ resp.statusCode < 400) := by
        omega
      exact iff_of_false ((plain_read g call strange).not_honest _)
        (not_not_intro (strange.imp_right .inl))

theorem isSentinel_transportError (e : TransportError) (message : String) :
    (Pkg.ApiError.wrap e.err .gatewayUnavailable message).isSentinel errOutcomeUnknown = false := by
  rw [Pkg.ApiError.isSentinel_wrap]
  unfold TransportError.err
  rcases e.cause with _ | _ | _ <;> rfl

theorem honest_outcome_iff (g : Gateway) (call : MoneyCall) {ex : Exchange}
    (acted : MayHaveActed ex) :
    Honest (g.client.outcome ex >>= report g call) ↔ ¬ Misreported g call ex := by
  cases ex with
  | unbuildable => exact absurd acted id
  | failed e =>
    show Honest ((if _ then _ else _) >>= report g call) ↔ ¬ (_ ∧ _)
    cases timedOut : Gateways.Httpx.isTimeout e with
    | true =>
      exact iff_of_true (honest_report_timeout g call ⟨0, ByteArray.empty, true⟩ rfl) (by simp)
    | false =>
      refine iff_of_false (fun honest => ?_) (not_not_intro ⟨acted, rfl⟩)
      have unknown := honest_error.mp honest
      rw [isSentinel_transportError] at unknown
      exact absurd unknown Bool.false_ne_true
  | answered status stream =>
    show Honest ((if _ then _ else _) >>= report g call) ↔ ¬ (if _ then _ else _)
    by_cases large : g.client.maxResponseBytes < stream.arrived.size
    · rw [if_pos large, if_pos large]
      exact iff_of_false (fun honest => Bool.false_ne_true (honest_error.mp honest))
        (not_not_intro acted)
    · rw [if_neg large, if_neg large]
      cases broken : stream.readErr with
      | some =>
        exact iff_of_true (honest_report_timeout g call ⟨status, ByteArray.empty, true⟩ rfl)
          (by simp)
      | none =>
        refine (honest_report_iff g call ⟨status, stream.arrived, false⟩ rfl acted).trans
          (not_congr ?_)
        exact ⟨fun failing => ⟨rfl, failing⟩, fun failing => failing.2⟩

theorem Misreported.mayHaveActed {ex : Exchange}
    (misreported : Misreported g call ex) : MayHaveActed ex := by
  cases ex with
  | unbuildable => exact misreported
  | failed => exact misreported.1
  | answered status stream =>
    change if g.client.maxResponseBytes < stream.arrived.size then _ else _ at misreported
    split at misreported
    · exact misreported
    · exact fun (refused : 400 ≤ status ∧ status < 500) => by omega

theorem isOutcomeUnknown_answerOf (x : Except GoError Result) (none : (answerOf x).resp = none) :
    ∃ err, x = .error err ∧
      isOutcomeUnknown (answerOf x).callErr = err.isSentinel errOutcomeUnknown := by
  cases x with
  | ok => cases none
  | error err => exact ⟨err, rfl, rfl⟩

theorem plainError_of_honest (honest : Honest x) : plainError (answerOf x) = false := by
  cases x with
  | ok => rfl
  | error err => simp [plainError, answerOf, isOutcomeUnknown, honest err rfl]

theorem reportsHonestly_iff_honest {env : CallEnv}
    (active : Sent g call env ∧ MayHaveActed env.exchange) :
    ReportsHonestly g call env ↔ Honest (g.perform call env) := by
  constructor
  · intro reports err failed
    have unknown := reports.2 (not_not_intro active)
    rw [failed] at unknown
    exact unknown rfl
  · intro honest
    refine ⟨fun plain => ?_, fun _ empty => ?_⟩
    · rw [plainError_of_honest honest] at plain
      cases plain
    · obtain ⟨err, failed, unknown⟩ := isOutcomeUnknown_answerOf _ empty
      rw [unknown]
      exact honest err failed

/-- The adapter reports honestly except at the ends of an exchange listed above. -/
theorem stripe_reportsHonestly_iff (g : Gateway) (call : MoneyCall) (env : CallEnv) :
    ReportsHonestly g call env ↔ ¬ (Sent g call env ∧ Misreported g call env.exchange) := by
  by_cases active : Sent g call env ∧ MayHaveActed env.exchange
  · rw [reportsHonestly_iff_honest active, perform_of_sent active.1,
      honest_outcome_iff g call active.2]
    exact not_congr ⟨fun misreported => ⟨active.1, misreported⟩, fun both => both.2⟩
  · exact iff_of_true ⟨fun _ => active, fun busy => absurd active busy⟩
      fun both => active ⟨both.1, both.2.mayHaveActed⟩

/-! A connection that is reset while the adapter waits for the answer. -/

def sampleGateway : Gateway where
  client := Gateways.Httpx.newClient 0 0
  decoder :=
    { intent := fun _ => .error "unexpected end of JSON input"
      refund := fun _ => .error "unexpected end of JSON input"
      envelope := fun _ => (none, some "unexpected end of JSON input") }

def sampleAuthorize : MoneyCall :=
  .authorize
    { idempotencyKey := "key", externalAccountID := "acct", paymentID := "pay",
      attemptID := "att", amount := ⟨1000, "EUR"⟩, method := .card,
      methodRef := ⟨"pm_1", "visa", "4242", 12, 2030, "DE", false⟩, capture := false,
      descriptor := "", statementRef := "", threeDS := ⟨false, ""⟩, customer := ⟨"", "", "", ""⟩,
      returnURL := "", metadata := [] }

def connectionReset : CallEnv where
  secretKey := some "sk_test"
  ctxErr := none
  sendCtxErr := none
  body := ByteArray.empty
  exchange := .failed { message := "read: connection reset by peer", cause := none,
                        timeout := false, reach := .written }

theorem reset_reported_plain : ¬ ReportsHonestly sampleGateway sampleAuthorize connectionReset := by
  intro reports
  have sent : Sent sampleGateway sampleAuthorize connectionReset := by
    refine ⟨rfl, rfl, by decide, rfl⟩
  exact reports.1 (by decide +kernel) ⟨sent, rfl⟩

end PaymentsPlatform.Orchestration
