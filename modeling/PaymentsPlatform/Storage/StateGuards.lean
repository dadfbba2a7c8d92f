/- layer: model of migrations/0013_state_guards.up.sql and of the units of work it guards; results
   digest: Which units of work save a state the database triggers let through. -/

import PaymentsPlatform.Merchants.Lifecycle
import PaymentsPlatform.Payments.Effects

namespace PaymentsPlatform.Storage

open Merchants (Clock Merchant Mutation applyCalls applyCalls_cons)
open Orchestration (MerchantStatus)
open Payments (Call Payment PaymentCall)

def pairs {S : Type} (rows : List (S × List S)) : List (S × S) :=
  rows.flatMap fun row => row.2.map (row.1, ·)

def paymentStateTransitions : List (Payments.State × Payments.State) := pairs
  [(.created, [.processing, .requiresAction, .failed, .canceled]),
    (.requiresAction, [.processing, .failed, .canceled, .expired]),
    (.processing, [.authorized, .captured, .pending, .failed, .requiresAction]),
    (.pending, [.authorized, .captured, .failed, .expired]),
    (.authorized, [.captured, .voided, .expired, .failed]),
    (.captured, [.settled, .partiallyRefunded, .refunded, .disputed]),
    (.settled, [.partiallyRefunded, .refunded, .disputed]),
    (.partiallyRefunded, [.partiallyRefunded, .refunded, .disputed]),
    (.refunded, [.disputed]), (.disputed, [.refunded, .captured, .settled])]

def merchantStatusTransitions : List (MerchantStatus × MerchantStatus) := pairs
  [(.created, [.validating, .terminated]), (.validating, [.kycPending, .validationFailed]),
    (.validationFailed, [.validating, .terminated]), (.kycPending, [.kycApproved, .kycFailed]),
    (.kycFailed, [.kycPending, .terminated]),
    (.kycApproved, [.bankValidated, .bankValidationFailed]),
    (.bankValidationFailed, [.kycApproved, .terminated]), (.bankValidated, [.gatewayProvisioning]),
    (.gatewayProvisioning, [.configuring, .provisioningFailed]),
    (.provisioningFailed, [.gatewayProvisioning, .terminated]),
    (.configuring, [.sandboxValidation, .configurationFailed]),
    (.configurationFailed, [.configuring, .terminated]),
    (.sandboxValidation, [.certification, .configurationFailed]),
    (.certification, [.approved, .certificationFailed, .complianceRejected]),
    (.certificationFailed, [.certification, .configuring, .terminated]),
    (.complianceRejected, [.configuring, .kycPending, .terminated]),
    (.approved, [.productionReady, .suspended]), (.productionReady, [.active, .suspended]),
    (.active, [.suspended, .terminated]), (.suspended, [.active, .terminated])]

/-- The trigger lets an update from one state to another through. -/
def Guarded {S : Type} [DecidableEq S] (table : List (S × S)) (old new : S) : Prop :=
  old = new ∨ (old, new) ∈ table

instance {S : Type} [DecidableEq S] (table : List (S × S)) (old new : S) :
    Decidable (Guarded table old new) :=
  inferInstanceAs (Decidable (_ ∨ _))

/-- What is done to a merchant between its load and its save: one call, mostly, or the approval of
`complianceReview`. -/
inductive MerchantWork where
  | single (call : Mutation)
  | approval (reviewer reference : String) (now expiresAt : Time)

def MerchantWork.calls (m : Merchant) : MerchantWork → List Mutation
  | .single call => [call]
  | .approval reviewer reference now expiresAt =>
    Merchant.requiredAttestations.map (fun kind => .addAttestation ⟨kind, reviewer, now, expiresAt⟩) ++
      (if m.status = .certification then [.approve reference reviewer, .markProductionReady]
        else if m.status = .approved then [.markProductionReady] else [])

/-- What is done to a payment between its load and its save. -/
inductive PaymentWork where
  /-- `attemptOnce` before the call. -/
  | intent (gateway : GatewayID) (plan : PlanID) (op : Operation) (seed : Payments.AttemptSeed)
      (bind : Payments.AttemptCall) (i : Nat) (now : Time)
  /-- `settle`, `followUp` and `resolveOne`: the attempt, and then the payment. -/
  | outcome (i : Nat) (attempt : List Payments.AttemptCall) (mark : Option PaymentCall)
  /-- `RefundExisting` before the call. -/
  | refund (amount : Pkg.Money) (reason : Payments.RefundReason) (key : String) (id : RefundID)
      (now : Time)
  /-- `RefundExisting` after the call. -/
  | refunded (i : Nat) (calls : List Payments.RefundCall) (mark : Option PaymentCall)
  /-- The webhook processor and the sweeps. -/
  | reported (mark : PaymentCall)

def PaymentWork.calls : PaymentWork → List Call
  | .intent gateway plan op seed bind i now =>
    [.payment (.startAttempt gateway plan op seed now), .attempt i bind, .payment (.markProcessing now)]
  | .outcome i attempt mark => attempt.map (.attempt i) ++ mark.toList.map .payment
  | .refund amount reason key id now => [.payment (.addRefund amount reason key id now)]
  | .refunded i calls mark => calls.map (.refund i) ++ mark.toList.map .payment
  | .reported mark => [.payment mark]

def payAll (p : Payment) (calls : List Call) : Payment := calls.foldl (fun p c => (c.apply p).1) p

inductive Work where
  | merchant (m : Merchant) (work : MerchantWork) (clock : Clock)
  | payment (p : Payment) (work : PaymentWork)

/-- Every call on the merchant is accepted.  What is saved of a payment passes whether or not its
calls are. -/
def Work.Succeeds : Work → Prop
  | .merchant m work clock => (applyCalls m ((work.calls m).map (·, clock))).isSome = true
  | .payment .. => True

def Work.Storable : Work → Prop
  | .merchant m work clock =>
    ∀ saved ∈ applyCalls m ((work.calls m).map (·, clock)),
      Guarded merchantStatusTransitions m.status saved.status
  | .payment p work => Guarded paymentStateTransitions p.state (payAll p work.calls).state

def Work.ApprovesCertified : Work → Prop
  | .merchant m (.approval ..) _ => m.status = .certification
  | _ => False

def moving : Call → Bool
  | .payment (.startAttempt ..) | .payment (.addRefund ..) | .attempt .. | .refund .. => false
  | _ => true

theorem call_state (p : Payment) (c : Call) :
    (c.apply p).1.state = p.state ∨
      moving c = true ∧ (p.state, (c.apply p).1.state) ∈ paymentStateTransitions := by
  have listed : ∀ {dst : Payments.State}, Payments.machine.canTransition p.state dst = true →
      (p.state, dst) ∈ paymentStateTransitions := fun edge =>
    Payments.machine.edge_rule (P := fun a b => (a, b) ∈ paymentStateTransitions) (by decide) edge
  have effect := c.effect p
  change (c.apply p).1.core.state = p.state ∨ moving c = true ∧
    (p.state, (c.apply p).1.core.state) ∈ paymentStateTransitions
  generalize (c.apply p).1.core = k at effect
  cases effect with
  | keep | start | openRefund | confirmRefused | attempt | refund => exact .inl rfl
  | move named edge =>
    rename_i c dst
    refine .inr ⟨?_, listed edge⟩
    cases c <;> first | rfl | cases named
  | resolve named disputed =>
    refine .inr ⟨rfl, ?_⟩
    change p.state = .disputed at disputed
    rw [disputed]
    have listed : ∀ won, ∀ dst ∈ Payments.resolutions won,
        (Payments.State.disputed, dst) ∈ paymentStateTransitions := by decide
    exact listed _ _ named
  | fail _ edge => exact .inr ⟨rfl, listed edge⟩
  | authorize _ _ _ edge => exact .inr ⟨rfl, listed edge⟩
  | capture _ _ _ _ edge => exact .inr ⟨rfl, listed edge⟩
  | confirm _ _ _ _ _ _ _ edge => exact .inr ⟨rfl, listed edge⟩

theorem payAll_state {p : Payment} {calls : List Call} (still : ∀ c ∈ calls, moving c = false) :
    (payAll p calls).state = p.state := by
  induction calls generalizing p with
  | nil => rfl
  | cons c rest ih =>
    obtain ⟨first, others⟩ := List.forall_mem_cons.mp still
    refine (ih others).trans ?_
    rcases call_state p c with same | ⟨moves, -⟩
    · exact same
    · exact absurd (first.symm.trans moves) Bool.false_ne_true

theorem payAll_guarded {p : Payment} (calls : List Call) (still : ∀ c ∈ calls, moving c = false)
    (mark : Option PaymentCall) :
    Guarded paymentStateTransitions p.state (payAll p (calls ++ mark.toList.map .payment)).state := by
  have split : payAll p (calls ++ mark.toList.map .payment) =
      payAll (payAll p calls) (mark.toList.map .payment) := List.foldl_append
  rw [split]
  cases mark with
  | none => exact .inl (payAll_state still).symm
  | some mark =>
    rw [← payAll_state (p := p) still]
    exact (call_state (payAll p calls) (.payment mark)).imp Eq.symm And.right

theorem payment_storable (p : Payment) (work : PaymentWork) : (Work.payment p work).Storable := by
  cases work with
  | intent gateway plan op seed bind i now =>
    exact payAll_guarded [.payment (.startAttempt gateway plan op seed now), .attempt i bind]
      (by simp [moving]) (some (.markProcessing now))
  | outcome i calls mark =>
    exact payAll_guarded (calls.map (.attempt i)) (by simp [moving]) mark
  | refund amount reason key id now =>
    exact payAll_guarded [.payment (.addRefund amount reason key id now)]
      (by simp [moving]) none
  | refunded i calls mark =>
    exact payAll_guarded (calls.map (.refund i)) (by simp [moving]) mark
  | reported mark => exact payAll_guarded [] (by simp) (some mark)

theorem listed_of_edge {src dst : MerchantStatus}
    (edge : Merchants.machine.canTransition src dst = true) : (src, dst) ∈ merchantStatusTransitions :=
  Merchants.machine.edge_rule (P := fun a b => (a, b) ∈ merchantStatusTransitions) (by decide) edge

section Merchant

variable {m saved : Merchant} {clock : Clock} {rest : List (Mutation × Clock)}

theorem single_guarded {call : Mutation} (done : applyCalls m [(call, clock)] = some saved) :
    Guarded merchantStatusTransitions m.status saved.status := by
  obtain ⟨moved, rest⟩ := applyCalls_cons done
  obtain rfl := Option.some.inj rest
  rw [moved.status]
  cases asked : call.target m with
  | none => exact .inl rfl
  | some to_ => exact .inr (listed_of_edge (moved.edge to_ asked))

theorem approval_attested {reviewer : String} {now expiresAt : Time}
    (done : applyCalls m ((Merchant.requiredAttestations.map fun kind =>
      (Mutation.addAttestation ⟨kind, reviewer, now, expiresAt⟩, clock)) ++ rest) = some saved) :
    ∃ m', m'.status = m.status ∧ applyCalls m' rest = some saved := by
  obtain ⟨first, done⟩ := applyCalls_cons done
  obtain ⟨second, done⟩ := applyCalls_cons done
  exact ⟨_, second.status.trans first.status, done⟩

end Merchant

/-- A unit of work whose calls are accepted saves what the triggers let through, except for the
approval of a merchant in CERTIFICATION. -/
theorem storable_iff (w : Work) (done : w.Succeeds) : w.Storable ↔ ¬ w.ApprovesCertified := by
  cases w with
  | payment p work => exact iff_of_true (payment_storable p work) fun odd => odd
  | merchant m work clock =>
    cases work with
    | single => exact iff_of_true (fun saved done => single_guarded done) fun odd => odd
    | approval reviewer reference now expiresAt =>
      obtain ⟨saved, done⟩ := Option.isSome_iff_exists.mp done
      have only : (Work.merchant m (.approval reviewer reference now expiresAt) clock).Storable ↔
          Guarded merchantStatusTransitions m.status saved.status := by
        simp only [Work.Storable, done, Option.mem_some_iff, forall_eq']
      rw [only]
      simp only [MerchantWork.calls, List.map_append, List.map_map] at done
      obtain ⟨m', same, done⟩ := approval_attested done
      by_cases certified : m.status = .certification
      · rw [if_pos certified] at done
        obtain ⟨approved, done⟩ := applyCalls_cons done
        obtain ⟨ready, done⟩ := applyCalls_cons done
        obtain rfl := Option.some.inj done
        refine iff_of_false ?_ fun other => other certified
        rw [ready.status, certified]
        exact (by decide : ¬ Guarded merchantStatusTransitions .certification .productionReady)
      · rw [if_neg certified] at done
        refine iff_of_true ?_ certified
        rw [← same]
        split_ifs at done with approved
        · exact single_guarded done
        · exact .inl (congrArg Merchant.status (Option.some.inj done))

open Merchants (lifecycle sampleHistory untilApproved)

def sampleLoaded (calls : Nat) : Merchant :=
  (lifecycle.run sampleHistory (untilApproved.take calls)).merchant

def sampleApproval (calls : Nat) : Work :=
  .merchant (sampleLoaded calls) (.approval "usr_1" "rep_1" 1 9) fun _ => 2

theorem sampleApproval_succeeds : (sampleApproval 9).Succeeds ∧ (sampleApproval 10).Succeeds := by
  unfold sampleApproval Work.Succeeds
  decide +kernel

theorem storable_approved : (sampleApproval 10).Storable :=
  (storable_iff (sampleApproval 10) sampleApproval_succeeds.2).mpr
    (by decide +kernel : (sampleLoaded 10).status ≠ .certification)

theorem not_storable_certified : (sampleApproval 9).Succeeds ∧ ¬ (sampleApproval 9).Storable := by
  refine ⟨sampleApproval_succeeds.1, fun storable => ?_⟩
  have guarded := storable _ (Option.eq_some_of_isSome sampleApproval_succeeds.1)
  revert guarded
  decide +kernel

end PaymentsPlatform.Storage
