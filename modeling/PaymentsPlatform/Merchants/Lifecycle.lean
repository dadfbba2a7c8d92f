/- layer: model of infrastructure/postgres/merchant_repo.go (Create, Save) and of the merchants in
     events/translate.go; results
   digest: Which merchants were activated, which can accept payments again, and what units of work
     publish and when their save is accepted. -/

import PaymentsPlatform.Merchants.Merchant

namespace PaymentsPlatform.Merchants

open Orchestration (MerchantStatus)

section Calls

def Mutation.target (m : Merchant) : Mutation → Option MerchantStatus
  | .startValidation => some .validating
  | .failValidation _ => some .validationFailed
  | .passValidation | .resubmitKYC => some .kycPending
  | .approveKYC .. => some .kycApproved
  | .rejectKYC .. => some .kycFailed
  | .validateBankAccount .. =>
    if m.status ≠ .kycApproved ∧ m.status ≠ .bankValidationFailed then none else some .bankValidated
  | .failBankValidation .. => some .bankValidationFailed
  | .startProvisioning => some .gatewayProvisioning
  | .completeProvisioning _ => some .configuring
  | .failProvisioning _ => some .provisioningFailed
  | .applyConfiguration _ => some .sandboxValidation
  | .failConfiguration _ => some .configurationFailed
  | .startCertification => some .certification
  | .approve .. => some .approved
  | .failCertification _ => some .certificationFailed
  | .rejectForCompliance .. => some .complianceRejected
  | .markProductionReady => some .productionReady
  | .activate | .reinstate _ => some .active
  | .suspend .. => some .suspended
  | .terminate .. => some .terminated
  | .addBankAccount _ | .setActiveConfigVersion _ | .addAttestation _ | .addPrincipal _ => none

def Mutation.event (m : Merchant) : Mutation → Option EventType
  | .failValidation _ => some .validationFailed
  | .passValidation => some .validated
  | .approveKYC .. => some .kycApproved
  | .rejectKYC .. => some .kycFailed
  | .validateBankAccount .. =>
    if m.status ≠ .kycApproved ∧ m.status ≠ .bankValidationFailed then none else some .bankValidated
  | .failBankValidation .. => some .bankValidationFailed
  | .completeProvisioning _ => some .gatewayProvisioned
  | .failProvisioning _ => some .provisioningFailed
  | .failConfiguration _ => some .configurationFailed
  | .approve .. => some .certified
  | .failCertification _ => some .certificationFailed
  | .rejectForCompliance .. => some .complianceRejected
  | .activate => some .activated
  | .suspend .. => some .suspended
  | .reinstate _ => some .reinstated
  | .terminate .. => some .terminated
  | _ => none

def Mutation.expiry (m : Merchant) : Mutation → Option Time
  | .approveKYC _ expiresAt _ => some expiresAt
  | _ => m.kycExpiresAt

/-- The parts of a merchant that only an accepted call changes. -/
structure SameFace (m m' : Merchant) : Prop where
  status : m'.status = m.status
  version : m'.version = m.version
  expiry : m'.kycExpiresAt = m.kycExpiresAt
  events : m'.events = m.events

structure Moved (m : Merchant) (target : Option MerchantStatus) (event : Option EventType)
    (expiry : Option Time) (m' : Merchant) : Prop where
  edge : ∀ to_ ∈ target, machine.canTransition m.status to_ = true
  status : m'.status = target.getD m.status
  version : m'.version = m.version + 1
  expiry : m'.kycExpiresAt = expiry
  events : m'.events.map (·.type) = m.events.map (·.type) ++ event.toList

def Takes (m : Merchant) (target : Option MerchantStatus) (event : Option EventType)
    (expiry : Option Time) (r : Result) : Prop :=
  match r.2 with
  | .ok () => Moved m target event expiry r.1
  | .error _ => SameFace m r.1

section Rules

variable {m m' : Merchant} {target : Option MerchantStatus} {event : Option EventType}
  {expiry : Option Time}

theorem SameFace.rfl : SameFace m m := ⟨Eq.refl _, Eq.refl _, Eq.refl _, Eq.refl _⟩

theorem takes_error (e : GoError) : Takes m target event expiry (m, .error e) := SameFace.rfl

theorem takes_touch (same : SameFace m m') (now : Time) :
    Takes m none none m.kycExpiresAt (m'.touch now, .ok ()) where
  edge := fun _ none => absurd none (Option.not_mem_none _)
  status := same.status
  version := congrArg (· + 1) same.version
  expiry := same.expiry
  events := by
    show m'.events.map _ = _
    rw [same.events, Option.toList_none, List.append_nil]

theorem takes_transition (same : SameFace m m') (to_ : MerchantStatus) (reason : String) (now : Time)
    (evt : Option (EventType × List (String × PayloadValue))) :
    Takes m (some to_) (evt.map Prod.fst) m.kycExpiresAt (m'.transition to_ reason now evt) := by
  unfold Merchant.transition
  cases moved : machine.transition m'.status to_ with
  | error => exact same
  | ok =>
    have edge := (machine.transition_ok_iff _ _).mp moved
    rw [same.status] at edge
    refine ⟨fun t asked => Option.mem_some_iff.mp asked ▸ edge, ?_, ?_, ?_, ?_⟩
    · cases evt <;> exact Eq.refl _
    · cases evt <;> exact congrArg (· + 1) same.version
    · cases evt <;> exact same.expiry
    · cases evt with
      | none =>
        show m'.events.map _ = _
        rw [same.events, Option.map_none, Option.toList_none, List.append_nil]
      | some =>
        show (m'.events ++ [_]).map _ = _
        rw [same.events, List.map_append]
        exact Eq.refl _

theorem Takes.andThen {r : Result} (takes : Takes m target event m.kycExpiresAt r)
    {assign : Merchant → Merchant}
    (keeps : ∀ x, (assign x).status = x.status ∧ (assign x).version = x.version ∧
      (assign x).events = x.events)
    (sets : ∀ x, x.kycExpiresAt = m.kycExpiresAt → (assign x).kycExpiresAt = expiry) :
    Takes m target event expiry (r.andThen assign) := by
  obtain ⟨x, e | u⟩ := r
  · exact takes
  · obtain ⟨edge, status, version, same, events⟩ := takes
    obtain ⟨status', version', events'⟩ := keeps x
    exact ⟨edge, status'.trans status, version'.trans version, sets x same, by
      show (assign x).events.map _ = _
      rw [events']
      exact events⟩

end Rules

theorem apply_takes (m : Merchant) (clock : Clock) (call : Mutation) :
    Takes m (call.target m) (call.event m) (call.expiry m) (call.apply m clock) := by
  have moves := @takes_transition m m SameFace.rfl
  have alike {assign : Merchant → Merchant}
      (same : ∀ x, (assign x).kycExpiresAt = x.kycExpiresAt) (x : Merchant)
      (kept : x.kycExpiresAt = m.kycExpiresAt) : (assign x).kycExpiresAt = m.kycExpiresAt :=
    (same x).trans kept
  cases call with
  | startValidation | failValidation | startProvisioning | completeProvisioning | failProvisioning
  | failConfiguration | startCertification | failCertification | markProductionReady =>
    exact moves ..
  | passValidation | rejectKYC | resubmitKYC | suspend =>
    exact (moves ..).andThen (fun _ => ⟨rfl, rfl, rfl⟩) (alike fun _ => rfl)
  | approveKYC =>
    simp only [Mutation.apply, Merchant.approveKYC]
    split_ifs
    · exact takes_error _
    · exact takes_error _
    · exact (moves ..).andThen (fun _ => ⟨rfl, rfl, rfl⟩) fun _ _ => rfl
    · exact (moves ..).andThen (fun _ => ⟨rfl, rfl, rfl⟩) fun _ _ => rfl
  -- these check first, and then write without a transition
  | addBankAccount | setActiveConfigVersion | addAttestation | addPrincipal =>
    simp only [Mutation.apply, Merchant.addBankAccount, Merchant.setActiveConfigVersion,
      Merchant.addAttestation, Merchant.addPrincipal]
    split_ifs
    all_goals first
      | exact takes_error _
      | exact takes_touch (by constructor <;> rfl) _
  | validateBankAccount =>
    simp only [Mutation.apply, Merchant.validateBankAccount]
    split
    · exact takes_error _
    · simp only [Mutation.target, Mutation.event]
      split_ifs
      · exact takes_touch (by constructor <;> rfl) _
      · exact takes_transition (by constructor <;> rfl) ..
  | failBankValidation => exact takes_transition (by constructor <;> rfl) ..
  -- these check first, and then move
  | applyConfiguration | approve | rejectForCompliance | activate | reinstate | terminate =>
    simp only [Mutation.apply, Merchant.applyConfiguration, Merchant.approve,
      Merchant.rejectForCompliance, Merchant.activate, Merchant.reinstate, Merchant.terminate]
    repeat' split
    all_goals first
      | exact takes_error _
      | exact moves ..
      | exact (moves ..).andThen (fun _ => ⟨rfl, rfl, rfl⟩) (alike fun _ => rfl)

theorem apply_cases (m : Merchant) (clock : Clock) (call : Mutation) :
    (∃ e, (call.apply m clock).2 = .error e ∧ SameFace m (call.apply m clock).1) ∨
      ((call.apply m clock).2 = .ok () ∧
        Moved m (call.target m) (call.event m) (call.expiry m) (call.apply m clock).1) := by
  have takes := apply_takes m clock call
  unfold Takes at takes
  cases said : (call.apply m clock).2 with
  | error e => exact .inl ⟨e, rfl, by simpa only [said] using takes⟩
  | ok => exact .inr ⟨rfl, by simpa only [said] using takes⟩

open Lib.TransitionSystem

/-! A merchant and its first activation. -/

structure History where
  merchant : Merchant
  /-- The merchant as `Activate` last found and accepted it, and when. -/
  activation : Option (Merchant × Time)

variable (m : Merchant) (now : Time) (h : History)

def History.step (call : Mutation × Clock) : History where
  merchant := (call.1.apply h.merchant call.2).1
  activation :=
    if call.1 = .activate ∧ (call.1.apply h.merchant call.2).2.isOk = true then
      some (h.merchant, call.2 0)
    else h.activation

def lifecycle : System History (Mutation × Clock) where
  init h := (∃ p id now, Merchant.new p id now = .ok h.merchant) ∧ h.activation = none
  step := History.step

/-- `Activate` has been accepted, and so found every one of its checks to hold. -/
def History.Activated : Prop :=
  ∃ before now, h.activation = some (before, now) ∧ before.activationGuard now = .ok ()

def SuspendsActive : Mutation × Clock → Prop
  | (.suspend .., _) => h.merchant.status = .active
  | _ => True

instance (h : History) (call : Mutation × Clock) : Decidable (SuspendsActive h call) := by
  unfold SuspendsActive
  split <;> infer_instance

theorem new_face {p : NewParams} {id : MerchantID} {now : Time} {m : Merchant}
    (made : Merchant.new p id now = .ok m) :
    m.status = .created ∧ m.version = 1 ∧ m.events.map (·.type) = [.created] := by
  unfold Merchant.new at made
  dsimp only at made
  cases allowed : p.mcc.isProhibited with
  | some =>
    rw [allowed] at made
    split_ifs at made
  | none =>
    rw [allowed] at made
    split_ifs at made
    all_goals
      cases made
      exact ⟨rfl, rfl, rfl⟩

def Trading (s : MerchantStatus) : Prop := s = .active ∨ s = .suspended

theorem Activated.step {h : History} (call : Mutation × Clock)
    (before : Trading h.merchant.status → h.Activated) (ok : SuspendsActive h call)
    (after : Trading (h.step call).merchant.status) : (h.step call).Activated := by
  obtain ⟨call, clock⟩ := call
  have kept (trading : Trading h.merchant.status)
      (other : ¬ (call = .activate ∧ (call.apply h.merchant clock).2.isOk = true)) :
      (h.step (call, clock)).Activated := by
    obtain ⟨x, now, was, checks⟩ := before trading
    exact ⟨x, now, (if_neg other).trans was, checks⟩
  rcases apply_cases h.merchant clock call with ⟨e, said, same⟩ | ⟨said, moved⟩
  · refine kept (same.status ▸ after) fun done => ?_
    rw [said] at done
    cases done.2
  · have status : Trading ((call.target h.merchant).getD h.merchant.status) := moved.status ▸ after
    have edge := moved.edge
    cases call with
    | activate =>
      refine ⟨h.merchant, clock 0, ?_, ?_⟩
      · exact if_pos ⟨rfl, by rw [said]; rfl⟩
      · change (h.merchant.activate clock).2 = .ok () at said
        unfold Merchant.activate at said
        split at said
        · cases said
        · assumption
    | reinstate operator =>
      have suspended : h.merchant.status = .suspended := by
        change (h.merchant.reinstate operator clock).2 = .ok () at said
        unfold Merchant.reinstate at said
        split_ifs at said with other
        exact not_not.mp other
      exact kept (.inr suspended) (by simp)
    | suspend => exact kept (.inl ok) (by simp)
    | validateBankAccount =>
      refine kept ?_ (by simp)
      simp only [Mutation.target] at status
      split_ifs at status
      · exact status
      · rcases status with odd | odd <;> cases odd
    | addBankAccount | setActiveConfigVersion | addAttestation | addPrincipal =>
      exact kept status (by simp)
    | _ => rcases status with odd | odd <;> cases odd

theorem active_was_activated (run : lifecycle.ReachableUnder SuspendsActive h)
    (active : h.merchant.status = .active) : h.Activated := by
  refine System.ReachableUnder.invariant (P := fun h => Trading h.merchant.status → h.Activated)
    ?_ (fun h call _ before ok => Activated.step call before ok) run (.inl active)
  rintro h ⟨⟨p, id, now, made⟩, -⟩ trading
  rw [(new_face made).1] at trading
  rcases trading with odd | odd <;> cases odd

/-- No sequence of calls brings a terminated merchant back. -/
theorem terminated_for_good (closed : h.merchant.status = .terminated)
    (calls : List (Mutation × Clock)) : (lifecycle.run h calls).merchant.status = .terminated :=
  System.run_rel (I := fun _ => True) (R := fun h h' : History =>
      h.merchant.status = .terminated → h'.merchant.status = .terminated)
    (fun _ _ _ => trivial) (fun _ => id) (fun _ _ _ first second => second ∘ first)
    (fun h call _ closed => by
      rcases apply_cases h.merchant call.2 call.1 with ⟨-, -, same⟩ | ⟨-, moved⟩
      · exact same.status.trans closed
      · refine moved.status.trans ?_
        have edge := moved.edge
        rw [closed] at edge ⊢
        cases target : call.1.target h.merchant with
        | none => rfl
        | some to_ =>
          have leaves := edge to_ target
          cases to_ <;> cases leaves) trivial calls closed

/-! A merchant from its registration on. -/

def sampleParams : NewParams :=
  ⟨"ten_1", "Acme Ltd", "Acme", "", .production, "GB", "5411"⟩

def sampleMerchant : Option Merchant := (Merchant.new sampleParams "mer_1" 0).toOption

def sampleAccount : BankAccount :=
  { id := "ba_1", country := "GB", currency := "GBP", status := .unset, validationRef := "",
    validatedAt := none, isDefault := true, failureReason := "" }

def standing (calls : List Mutation) : List (Mutation × Clock) :=
  calls.map fun call => (call, fun _ => now)

/-- The calls of an onboarding up to its approval, with a verification that expires at 10. -/
def untilApproved : List (Mutation × Clock) := standing 1
  [.startValidation, .passValidation, .approveKYC "kyc_1" 10 .standard, .addBankAccount sampleAccount,
    .validateBankAccount "ba_1" "val_1", .startProvisioning, .completeProvisioning ["stripe"],
    .applyConfiguration 1, .startCertification, .approve "rep_1" "usr_1"]

def untilActivated : List (Mutation × Clock) := untilApproved ++ standing 2
  [.markProductionReady, .addAttestation ⟨"PCI_SAQ", "usr_1", 1, 9⟩,
    .addAttestation ⟨"TERMS_ACCEPTANCE", "usr_1", 1, 9⟩, .activate, .suspend .riskBreach "",
    .reinstate false]

def sampleHistory : History := ⟨sampleMerchant.get (by decide +kernel), none⟩

theorem lifecycle_init : lifecycle.init sampleHistory := by
  refine ⟨⟨sampleParams, "mer_1", 0, ?_⟩, rfl⟩
  rfl

theorem terminated_for_good_onboarding :
    (lifecycle.run (lifecycle.run sampleHistory
      (untilActivated ++ standing 3 [.terminate "fraud" 0])) untilActivated).merchant.status =
        .terminated :=
  terminated_for_good _ (by decide +kernel) _

theorem active_was_activated_onboarded :
    ∃ h : History, h.merchant.status = .active ∧ h.Activated := by
  have meets : lifecycle.Meets SuspendsActive sampleHistory untilActivated := by decide +kernel
  have active : (lifecycle.run sampleHistory untilActivated).merchant.status = .active := by
    decide +kernel
  exact ⟨_, active, active_was_activated _
    (System.reachableUnder_run (.init lifecycle_init) untilActivated meets) active⟩

theorem active_without_activation :
    ∃ h, lifecycle.Reachable h ∧ h.merchant.status = .active ∧ h.activation = none ∧
      h.merchant.attestations = [] ∧ h.merchant.canAcceptPayments 2 = .ok () := by
  refine ⟨_, System.reachable_run (.init lifecycle_init)
    (untilApproved ++ standing 2 [.suspend .merchantRequest "", .reinstate false]), ?_⟩
  decide +kernel

def applyAll (calls : List (Mutation × Clock)) : Merchant :=
  calls.foldl (fun m call => (call.1.apply m call.2).1) m

/-- Some calls from `now` on lead to a merchant that may create payments. -/
def CanRecover : Prop :=
  ∃ (calls : List (Mutation × Clock)) (t : Time), (∀ call ∈ calls, ∀ k, now ≤ call.2 k) ∧ now ≤ t ∧
    (applyAll m calls).canAcceptPayments t = .ok ()

/-- Past the certification, where a verification is no longer renewed. -/
def Vetted (s : MerchantStatus) : Prop :=
  s ∈ [MerchantStatus.approved, .productionReady, .active, .suspended]

instance (s : MerchantStatus) : Decidable (Vetted s) := by
  unfold Vetted
  infer_instance

def Merchant.Unexpired : Prop := ∀ e ∈ m.kycExpiresAt, now < e

structure Stuck (now : Time) (m : Merchant) : Prop where
  late : Vetted m.status ∨ m.status = .terminated
  expired : ∃ e ∈ m.kycExpiresAt, e ≤ now

theorem Stuck.apply {now : Time} {m : Merchant} (stuck : Stuck now m) (clock : Clock)
    (call : Mutation) : Stuck now (call.apply m clock).1 := by
  have closed : ∀ t ∈ machine.transitions,
      Vetted t.1 ∨ t.1 = .terminated → (Vetted t.2 ∨ t.2 = .terminated) ∧ t.2 ≠ .kycApproved := by
    decide
  rcases apply_cases m clock call with ⟨-, -, same⟩ | ⟨-, moved⟩
  · exact ⟨same.status ▸ stuck.late, same.expiry ▸ stuck.expired⟩
  · have edge (to_ : MerchantStatus) (asked : to_ ∈ call.target m) :=
      closed _ (of_decide_eq_true (moved.edge to_ asked)) stuck.late
    refine ⟨?_, ?_⟩
    · rw [moved.status]
      cases asked : call.target m with
      | none => exact stuck.late
      | some to_ => exact (edge to_ asked).1
    · rw [moved.expiry]
      cases call with
      | approveKYC => exact absurd rfl (edge _ rfl).2
      | _ => exact stuck.expired

theorem Stuck.not_canRecover {now : Time} {m : Merchant} (stuck : Stuck now m) :
    ¬ CanRecover m now := by
  rintro ⟨calls, t, -, later, accepted⟩
  have after : Stuck now (applyAll m calls) := by
    clear accepted
    induction calls generalizing m with
    | nil => exact stuck
    | cons call rest ih => exact ih (stuck.apply call.2 call.1)
  obtain ⟨e, expires, past⟩ := after.expired
  unfold Merchant.canAcceptPayments at accepted
  split_ifs at accepted with _ _ current
  refine current ?_
  rw [Option.mem_def.mp expires]
  exact decide_eq_true (past.trans later)

section Recovery

variable {m : Merchant} {now : Time}

theorem transition_accepted {to_ : MerchantStatus}
    (edge : machine.canTransition m.status to_ = true) (reason : String) (now : Time)
    (evt : Option (EventType × List (String × PayloadValue))) :
    (m.transition to_ reason now evt).2 = .ok () := by
  unfold Merchant.transition
  rw [(machine.transition_ok_iff _ _).mpr edge]

theorem andThen_accepted {r : Result} (accepted : r.2 = .ok ()) (assign : Merchant → Merchant) :
    (r.andThen assign).2 = .ok () := by
  unfold Result.andThen
  rw [accepted]

theorem CanRecover.before (call : Mutation) (rest : CanRecover (call.apply m fun _ => now).1 now) :
    CanRecover m now := by
  obtain ⟨calls, t, later, present, accepted⟩ := rest
  exact ⟨(call, fun _ => now) :: calls, t, List.forall_mem_cons.mpr ⟨fun _ => le_rfl, later⟩, present,
    accepted⟩

theorem onward (call : Mutation) {to_ : MerchantStatus} (asks : call.target m = some to_)
    (accepted : (call.apply m fun _ => now).2 = .ok ())
    (rest : ∀ m', m'.status = to_ → m'.kycExpiresAt = call.expiry m → CanRecover m' now) :
    CanRecover m now := by
  refine CanRecover.before call ?_
  rcases apply_cases m (fun _ => now) call with ⟨e, refused, -⟩ | ⟨-, moved⟩
  · cases accepted.symm.trans refused
  · exact rest _ (by rw [moved.status, asks]; rfl) moved.expiry

theorem Merchant.Unexpired.of_eq {m' : Merchant} (current : m.Unexpired now)
    (same : m'.kycExpiresAt = m.kycExpiresAt) : m'.Unexpired now :=
  fun e expires => current e (same ▸ expires)

theorem canRecover_of_vetted (vetted : Vetted m.status) (current : m.Unexpired now) :
    CanRecover m now := by
  have active (m : Merchant) (status : m.status = .active) (current : m.Unexpired now) :
      CanRecover m now := by
    refine ⟨[], now, fun _ none => absurd none List.not_mem_nil, le_rfl, ?_⟩
    show m.canAcceptPayments now = .ok ()
    have fresh : ¬ m.kycExpiresAt.any (fun e => decide (e ≤ now)) = true := by
      cases expires : m.kycExpiresAt with
      | none => exact Bool.false_ne_true
      | some e => exact fun past => absurd (current e expires) (not_lt.mpr (of_decide_eq_true past))
    simp [Merchant.canAcceptPayments, status, MerchantStatus.canAcceptPayments, fresh]
  have suspended (m : Merchant) (status : m.status = .suspended) (current : m.Unexpired now) :
      CanRecover m now := by
    refine onward (.reinstate true) rfl ?_ fun m' there same => active m' there (current.of_eq same)
    show (m.reinstate true _).2 = _
    rw [Merchant.reinstate, if_neg (not_not.mpr status), if_neg (by simp)]
    exact andThen_accepted (transition_accepted (by rw [status]; decide) ..) _
  have other (edge : machine.canTransition m.status .suspended = true) : CanRecover m now :=
    onward (.suspend .operatorAction "") rfl (andThen_accepted (transition_accepted edge ..) _)
      fun m' there same => suspended m' there (current.of_eq same)
  simp only [Vetted, List.mem_cons, List.not_mem_nil, or_false] at vetted
  rcases vetted with status | status | status | status
  · exact other (by rw [status]; decide)
  · exact other (by rw [status]; decide)
  · exact active m status current
  · exact suspended m status current

theorem canRecover_of_verified {expires : Option Time}
    (certification : ∀ m : Merchant, m.status = .certification → m.kycExpiresAt = expires →
      CanRecover m now) (same : m.kycExpiresAt = expires)
    (status : m.status ∈ [MerchantStatus.kycApproved, .bankValidated, .provisioningFailed,
      .gatewayProvisioning, .configurationFailed, .configuring, .sandboxValidation,
      .certificationFailed, .certification]) : CanRecover m now := by
  have certifying (m : Merchant) (edge : machine.canTransition m.status .certification = true)
      (same : m.kycExpiresAt = expires) : CanRecover m now :=
    onward .startCertification rfl (transition_accepted edge ..) fun m' there kept =>
      certification m' there (kept.trans same)
  have configuring (m : Merchant) (there : m.status = .configuring) (same : m.kycExpiresAt = expires) :
      CanRecover m now :=
    onward (.applyConfiguration 1) rfl
      (andThen_accepted (transition_accepted (by rw [there]; decide) ..) _) fun m' there kept =>
        certifying m' (by rw [there]; decide) (kept.trans same)
  have provisioned (m : Merchant) (edge : machine.canTransition m.status .configuring = true)
      (same : m.kycExpiresAt = expires) : CanRecover m now :=
    onward (.completeProvisioning []) rfl (transition_accepted edge ..) fun m' there kept =>
      configuring m' there (kept.trans same)
  have provisioning (m : Merchant)
      (edge : machine.canTransition m.status .gatewayProvisioning = true)
      (same : m.kycExpiresAt = expires) : CanRecover m now :=
    onward .startProvisioning rfl (transition_accepted edge ..) fun m' there kept =>
      provisioned m' (by rw [there]; decide) (kept.trans same)
  have banked (m : Merchant) (there : m.status = .kycApproved) (same : m.kycExpiresAt = expires)
      (account : m.bankAccounts ≠ []) : CanRecover m now := by
    obtain ⟨a, rest, accounts⟩ := List.exists_cons_of_ne_nil account
    have asks : (Mutation.validateBankAccount a.id "").target m = some .bankValidated := by
      simp [Mutation.target, there]
    refine onward _ asks ?_ fun m' there kept =>
      provisioning m' (by rw [there]; decide) (kept.trans same)
    · show (m.validateBankAccount a.id "" _).2 = _
      rw [Merchant.validateBankAccount, accounts, Merchant.verify, if_pos rfl]
      dsimp only
      rw [if_neg (by simp [there])]
      exact transition_accepted (by show machine.canTransition m.status _ = _; rw [there]; decide) ..
  simp only [List.mem_cons, List.not_mem_nil, or_false] at status
  rcases status with there | there | there | there | there | there | there | there | there
  · by_cases account : m.bankAccounts = []
    · -- the first account is added before it is verified
      have added : ((Mutation.addBankAccount sampleAccount).apply m fun _ => now).1 =
          { m with bankAccounts := [{ sampleAccount with status := .unverified }] }.touch now := by
        show (m.addBankAccount sampleAccount _).1 = _
        rw [Merchant.addBankAccount, if_neg (by decide), if_neg (by decide +kernel),
          if_neg (by decide +kernel), if_neg (by rw [account]; decide), account]
        rfl
      refine CanRecover.before (.addBankAccount sampleAccount) ?_
      rw [added]
      exact banked _ there same (List.cons_ne_nil _ _)
    · exact banked m there same account
  · exact provisioning m (by rw [there]; decide) same
  · exact provisioning m (by rw [there]; decide) same
  · exact provisioned m (by rw [there]; decide) same
  · exact provisioned m (by rw [there]; decide) same
  · exact configuring m there same
  · exact certifying m (by rw [there]; decide) same
  · exact certifying m (by rw [there]; decide) same
  · exact certification m there same

theorem canRecover_of_unverified
    (edge : machine.canTransition m.status .kycApproved = true) : CanRecover m now := by
  refine onward (.approveKYC "kyc" (now + 1) .standard) rfl ?_ fun m' there expires =>
    canRecover_of_verified (fun m there (same : m.kycExpiresAt = some (now + 1)) => ?_) expires
      (by rw [there]; decide)
  · show (m.approveKYC "kyc" (now + 1) .standard _).2 = _
    rw [Merchant.approveKYC, if_neg (by decide), if_neg (by simp)]
    exact andThen_accepted (transition_accepted edge ..) _
  · refine onward (.approve "report" "") rfl
      (andThen_accepted (transition_accepted (by rw [there]; decide) ..) _) fun m' there kept =>
        canRecover_of_vetted (by rw [there]; decide) ?_
    intro e expires
    rw [kept, show (Mutation.approve "report" "").expiry m = m.kycExpiresAt from rfl, same] at expires
    obtain rfl := Option.some.inj expires
    exact Int.lt_succ now

theorem canRecover_of_unvetted (known : m.status ∈ machine.all) (early : ¬ Vetted m.status)
    (running : m.status ≠ .terminated) : CanRecover m now := by
  have resubmitted (m : Merchant) (edge : machine.canTransition m.status .kycPending = true) :
      CanRecover m now :=
    onward .resubmitKYC rfl (andThen_accepted (transition_accepted edge ..) _) fun m' there _ =>
      canRecover_of_unverified (by rw [there]; decide)
  have validated (m : Merchant) (edge : machine.canTransition m.status .validating = true) :
      CanRecover m now :=
    onward .startValidation rfl (transition_accepted edge ..) fun m' there _ =>
      resubmitted m' (by rw [there]; decide)
  have rejected (m : Merchant) (there : m.status = .certification) : CanRecover m now := by
    refine onward (.rejectForCompliance "expired" "" "") rfl ?_ fun m' there _ =>
      resubmitted m' (by rw [there]; decide)
    show (m.rejectForCompliance "expired" "" "" _).2 = _
    rw [Merchant.rejectForCompliance, if_neg (by decide)]
    exact transition_accepted (by rw [there]; decide) ..
  -- what was verified before is verified again, after a rejection
  have verified := canRecover_of_verified (m := m) (fun m there _ => rejected m there) rfl
  cases status : m.status with
  | created | validationFailed => exact validated m (by rw [status]; decide)
  | validating | kycFailed | complianceRejected => exact resubmitted m (by rw [status]; decide)
  | kycPending | bankValidationFailed => exact canRecover_of_unverified (by rw [status]; decide)
  | approved | productionReady | active | suspended => exact absurd (status ▸ by decide) early
  | terminated => exact absurd status running
  | unset => exact absurd (status ▸ known) (by decide)
  | _ => exact verified (by rw [status]; decide)

end Recovery

theorem status_known (h : History) (run : lifecycle.Reachable h) : h.merchant.status ∈ machine.all := by
  refine System.Reachable.invariant (P := fun h => h.merchant.status ∈ machine.all) ?_ ?_ run
  · rintro h ⟨⟨p, id, now, made⟩, -⟩
    rw [(new_face made).1]
    decide
  · rintro h ⟨call, clock⟩ known
    show (call.apply h.merchant clock).1.status ∈ _
    rcases apply_cases h.merchant clock call with ⟨-, -, same⟩ | ⟨-, moved⟩
    · rw [same.status]
      exact known
    · rw [moved.status]
      cases asked : call.target h.merchant with
      | none => exact known
      | some to_ => exact (machine.ends_mem _ (of_decide_eq_true (moved.edge to_ asked))).2

/-- A merchant that is not terminated can be brought to accept payments exactly if it is not past
its certification with an expired verification. -/
theorem canRecover_iff (h : History) (run : lifecycle.Reachable h)
    (running : h.merchant.status ≠ .terminated) (now : Time) :
    CanRecover h.merchant now ↔ (Vetted h.merchant.status → h.merchant.Unexpired now) := by
  constructor
  · intro recovers vetted e expires
    by_contra past
    exact Stuck.not_canRecover ⟨.inl vetted, e, expires, not_lt.mp past⟩ recovers
  · intro current
    by_cases vetted : Vetted h.merchant.status
    · exact canRecover_of_vetted vetted (current vetted)
    · exact canRecover_of_unvetted (status_known h run) vetted running

theorem canRecover_activated :
    ∃ h : History, h.merchant.status = .active ∧ CanRecover h.merchant 5 := by
  refine ⟨_, by decide +kernel, (canRecover_iff _ (System.reachable_run (.init lifecycle_init)
    untilActivated) (by decide +kernel) 5).mpr fun _ => ?_⟩
  show ∀ e ∈ _, _
  decide +kernel

theorem not_canRecover_expired :
    ∃ h, lifecycle.Reachable h ∧ h.merchant.status = .active ∧ ¬ CanRecover h.merchant 10 := by
  refine ⟨_, System.reachable_run (.init lifecycle_init) untilActivated, by decide +kernel, ?_⟩
  exact Stuck.not_canRecover ⟨.inl (by decide +kernel), 10, by decide +kernel, le_rfl⟩

/-! A refused call. -/

/-- An error leaves `m`. -/
def Untouched (m : Merchant) (r : Result) : Prop := ∀ e, r.2 = .error e → r.1 = m

/-- The call is all or nothing on `m`. -/
def Atomic (m : Merchant) (clock : Clock) (call : Mutation) : Prop :=
  Untouched m (call.apply m clock)

/-- The account reads as `ValidateBankAccount` leaves it. -/
def BankAccount.VerifiedBy (ref : String) (now : Time) (a : BankAccount) : Prop :=
  a.status = .verified ∧ a.validationRef = ref ∧ a.validatedAt = some now ∧ a.failureReason = ""

/-- A refused call changes no account.  `ValidateBankAccount` and `FailBankValidation` write the
accounts before the transition is checked. -/
def Mutation.MarksNothing (m : Merchant) (clock : Clock) : Mutation → Prop
  | .validateBankAccount accountID ref =>
    m.status = .bankValidationFailed →
      ∀ a ∈ m.bankAccounts.find? (·.id = accountID), a.VerifiedBy ref (clock 0)
  | .failBankValidation accountID reason =>
    machine.canTransition m.status .bankValidationFailed = false →
      ∀ a ∈ m.bankAccounts, a.id = accountID → a.status = .verificationFail ∧ a.failureReason = reason
  | _ => True

section Rules

variable {m : Merchant}

theorem untouched_error (e : GoError) : Untouched m (m, .error e) := fun _ _ => rfl

theorem untouched_ok (m' : Merchant) : Untouched m (m', .ok ()) := fun _ refused => nomatch refused

theorem untouched_transition (to_ : MerchantStatus) (reason : String) (now : Time)
    (evt : Option (EventType × List (String × PayloadValue))) :
    Untouched m (m.transition to_ reason now evt) := by
  unfold Merchant.transition
  cases machine.transition m.status to_ with
  | error e => exact untouched_error e
  | ok => exact untouched_ok _

theorem Untouched.andThen {r : Result} (h : Untouched m r) (assign : Merchant → Merchant) :
    Untouched m (r.andThen assign) := by
  obtain ⟨x, e | u⟩ := r
  · exact h
  · exact untouched_ok _

/-- A transition that is refused after the accounts were written. -/
theorem marked_iff {accounts : List BankAccount} {to_ : MerchantStatus}
    (refused : machine.canTransition m.status to_ = false) (reason : String) (now : Time)
    (evt : Option (EventType × List (String × PayloadValue))) :
    Untouched m ({ m with bankAccounts := accounts }.transition to_ reason now evt) ↔
      accounts = m.bankAccounts := by
  obtain ⟨e, stops⟩ : ∃ e, machine.transition m.status to_ = .error e := by
    cases said : machine.transition m.status to_ with
    | error e => exact ⟨e, rfl⟩
    | ok =>
      rw [(machine.transition_ok_iff _ _).mp said] at refused
      cases refused
  have result : { m with bankAccounts := accounts }.transition to_ reason now evt =
      ({ m with bankAccounts := accounts }, .error e) := by
    simp only [Merchant.transition, stops]
  rw [result]
  constructor
  · intro kept
    exact congrArg Merchant.bankAccounts (kept e rfl)
  · rintro rfl
    exact untouched_error e

theorem find?_of_verify (accountID ref : String) (now : Time) (l : List BankAccount) :
    match Merchant.verify accountID ref now l with
    | none => l.find? (·.id = accountID) = none
    | some l' => l' = l ↔ ∀ a ∈ l.find? (·.id = accountID), a.VerifiedBy ref now := by
  induction l with
  | nil => rfl
  | cons a rest ih =>
    unfold Merchant.verify
    by_cases own : a.id = accountID
    · rw [if_pos own, List.find?_cons_of_pos (by simpa using own)]
      obtain ⟨⟩ := a
      simp only [List.cons.injEq, and_true, true_and, BankAccount.mk.injEq, Option.mem_some_iff,
        forall_eq', BankAccount.VerifiedBy]
      constructor <;> rintro ⟨rfl, rfl, rfl, rfl⟩ <;> exact ⟨rfl, rfl, rfl, rfl⟩
    · rw [if_neg own, List.find?_cons_of_neg (by simpa using own)]
      cases found : Merchant.verify accountID ref now rest with
      | none => simpa [found] using ih
      | some l' => simpa [found] using ih

end Rules

/-- Exactly which calls are all or nothing: those that have marked no bank account when the
transition is refused. -/
theorem atomic_mutation_iff (m : Merchant) (clock : Clock) (call : Mutation) :
    Atomic m clock call ↔ call.MarksNothing m clock := by
  cases call with
  | validateBankAccount accountID ref =>
    show Untouched m (m.validateBankAccount accountID ref clock) ↔ _
    simp only [Merchant.validateBankAccount, Mutation.MarksNothing]
    have marked := find?_of_verify accountID ref (clock 0) m.bankAccounts
    cases found : Merchant.verify accountID ref (clock 0) m.bankAccounts with
    | none =>
      rw [found] at marked
      exact iff_of_true (untouched_error _) (by simp [marked])
    | some accounts =>
      rw [found] at marked
      dsimp only at marked ⊢
      by_cases failed : m.status = .bankValidationFailed
      · rw [if_neg (by simp [failed]), imp_iff_right failed, ← marked]
        exact marked_iff (by rw [failed]; decide) _ _ _
      · refine iff_of_true ?_ (absurd · failed)
        split_ifs with elsewhere
        · exact untouched_ok _
        · have approved : m.status = .kycApproved := by
            by_contra other
            exact elsewhere ⟨other, failed⟩
          have moves : machine.transition m.status .bankValidated = .ok () := by
            rw [approved]
            decide
          simp only [Merchant.transition, moves]
          exact untouched_ok _
  | failBankValidation accountID reason =>
    show Untouched m (m.failBankValidation accountID reason clock) ↔ _
    simp only [Merchant.failBankValidation, Mutation.MarksNothing]
    cases edge : machine.canTransition m.status .bankValidationFailed with
    | true =>
      refine iff_of_true ?_ (absurd · (by decide))
      simp only [Merchant.transition, (machine.transition_ok_iff _ _).mpr edge]
      exact untouched_ok _
    | false =>
      rw [marked_iff edge, imp_iff_right rfl]
      nth_rewrite 2 [← List.map_id m.bankAccounts]
      rw [List.map_inj_left]
      refine forall₂_congr fun a _ => ?_
      obtain ⟨⟩ := a
      grind
  -- the other methods write nothing before their last check
  | _ =>
    refine iff_of_true ?_ trivial
    simp only [Atomic, Mutation.apply, Merchant.approveKYC, Merchant.addBankAccount,
      Merchant.applyConfiguration, Merchant.setActiveConfigVersion, Merchant.approve,
      Merchant.rejectForCompliance, Merchant.activate, Merchant.addAttestation,
      Merchant.addPrincipal, Merchant.reinstate, Merchant.terminate]
    repeat' split
    all_goals first
      | exact untouched_error _
      | exact untouched_ok _
      | exact untouched_transition _ _ _ _
      | exact (untouched_transition _ _ _ _).andThen _

/-- The verification of an account fails while the merchant is still CREATED: the call is
refused, and the account is marked. -/
theorem not_atomic_failBankValidation :
    let h := lifecycle.run sampleHistory (standing 1 [.addBankAccount sampleAccount])
    lifecycle.Reachable h ∧
      (∃ e, (Mutation.apply h.merchant (fun _ => 2)
        (.failBankValidation sampleAccount.id "closed")).2 = .error e) ∧
      ¬ Atomic h.merchant (fun _ => 2) (.failBankValidation sampleAccount.id "closed") := by
  refine ⟨System.reachable_run (.init lifecycle_init) _, ⟨_, rfl⟩, ?_⟩
  intro atomic
  exact absurd (congrArg Merchant.bankAccounts (atomic _ rfl)) (by decide +kernel)

end Calls

open Lib.TransitionSystem

/-- `merchantPublications`: the type an event is published as, if it is. -/
def EventType.publishedType : EventType → Option String
  | .created => some "merchant.created.v1"
  | .validated => some "merchant.validated.v1"
  | .kycApproved => some "merchant.kyc_approved.v1"
  | .kycFailed => some "merchant.kyc_failed.v1"
  | .bankValidated => some "merchant.bank_validated.v1"
  | .gatewayProvisioned => some "merchant.gateway_provisioned.v1"
  | .certified => some "merchant.certified.v1"
  | .activated | .reinstated => some "merchant.activated.v1"
  | .suspended => some "merchant.suspended.v1"
  | .terminated => some "merchant.terminated.v1"
  | .validationFailed | .bankValidationFailed | .provisioningFailed | .configurationFailed
  | .certificationFailed | .complianceRejected => none

structure OutboxMessage where
  type : String
  event : Event

def translateMerchant (ev : Event) : Option OutboxMessage := ev.type.publishedType.map (⟨·, ev⟩)

structure Tables where
  row : Option Merchant
  outbox : List OutboxMessage

variable (t : Tables) (m : Merchant)

def Merchant.stored : Merchant := { m with events := [] }

/-- The `WHERE` of `Save`'s statement. -/
def Merchant.saves (row : Merchant) : Bool := (row.version : Int) == m.version - 1

def Tables.create : Tables := { t with row := some m.stored }

def Tables.save : Option Tables :=
  if t.row.any m.saves then some { t with row := some m.stored } else none

def applyCalls : Merchant → List (Mutation × Clock) → Option Merchant
  | m, [] => some m
  | m, (call, clock) :: rest =>
    match call.apply m clock with
    | (m', .ok ()) => applyCalls m' rest
    | (_, .error _) => none

/-- `Create` of the merchant service, or one of the units of work that load a merchant, change it
and save it. -/
inductive UnitOfWork where
  | register (p : NewParams) (id : MerchantID) (now : Time)
  | change (calls : List (Mutation × Clock))

/-- The merchant is loaded from `t`, and the save meets what was committed since. -/
def UnitOfWork.run (met : Tables) : UnitOfWork → Option (Merchant × Tables)
  | .register p id now => do
    let m ← (Merchant.new p id now).toOption
    pure (m, met.create m)
  | .change calls => do
    let row ← t.row
    let m ← applyCalls row.stored calls
    let t' ← met.save m
    pure (m, t')

/-- Every event that has a translation is among the rows that were appended to the outbox. -/
def Announced (t' : Tables) (m : Merchant) : Prop :=
  ∀ ev ∈ m.events, ∀ msg ∈ translateMerchant ev, msg ∈ t'.outbox.drop t.outbox.length

def Quiet : Merchant → List (Mutation × Clock) → Prop
  | _, [] => True
  | m, (call, clock) :: rest =>
    (∀ type ∈ call.event m, type.publishedType = none) ∧ Quiet (call.apply m clock).1 rest

def UnitOfWork.Silent : UnitOfWork → Prop
  | .register .. => False
  | .change calls => ∀ row ∈ t.row, Quiet row.stored calls

def Unpublished (types : List EventType) : Prop := ∀ type ∈ types, type.publishedType = none

theorem unpublished_append {xs ys : List EventType} :
    Unpublished (xs ++ ys) ↔ Unpublished xs ∧ Unpublished ys :=
  List.forall_mem_append

theorem applyCalls_cons {m saved : Merchant} {call : Mutation} {clock : Clock}
    {rest : List (Mutation × Clock)} (done : applyCalls m ((call, clock) :: rest) = some saved) :
    Moved m (call.target m) (call.event m) (call.expiry m) (call.apply m clock).1 ∧
      applyCalls (call.apply m clock).1 rest = some saved := by
  rcases apply_cases m clock call with ⟨e, said, -⟩ | ⟨said, moved⟩
  · rw [applyCalls, show call.apply m clock = (_, .error e) from Prod.ext rfl said] at done
    cases done
  · rw [applyCalls, show call.apply m clock = (_, .ok ()) from Prod.ext rfl said] at done
    exact ⟨moved, done⟩

theorem applyCalls_unpublished {m m' : Merchant} {calls : List (Mutation × Clock)}
    (done : applyCalls m calls = some m') :
    Unpublished (m'.events.map (·.type)) ↔ Unpublished (m.events.map (·.type)) ∧ Quiet m calls := by
  induction calls generalizing m with
  | nil =>
    cases done
    exact (and_iff_left trivial).symm
  | cons head rest ih =>
    obtain ⟨moved, done⟩ := applyCalls_cons done
    rw [ih done, moved.events, unpublished_append, and_assoc, Quiet]
    simp only [Unpublished, Option.mem_toList, Option.mem_def]

theorem announced_iff_unpublished {t t' : Tables} {m : Merchant} (same : t'.outbox = t.outbox) :
    Announced t t' m ↔ Unpublished (m.events.map (·.type)) := by
  unfold Announced Unpublished
  rw [same, List.drop_length, List.forall_mem_map]
  refine forall₂_congr fun ev _ => ?_
  unfold translateMerchant
  cases ev.type.publishedType <;> simp

theorem announced_iff {t met t' : Tables} {u : UnitOfWork} {m : Merchant}
    (committed : u.run t met = some (m, t')) : Announced met t' m ↔ u.Silent t := by
  cases u with
  | register p id now =>
    cases made : Merchant.new p id now with
    | error => simp [UnitOfWork.run, made, Except.toOption] at committed
    | ok x =>
      simp only [UnitOfWork.run, made, Except.toOption, Option.bind_eq_bind, Option.bind_some,
        Option.pure_def, Option.some.injEq, Prod.mk.injEq] at committed
      obtain ⟨rfl, rfl⟩ := committed
      rw [announced_iff_unpublished (show (met.create x).outbox = met.outbox from rfl),
        (new_face made).2.2]
      exact iff_of_false (fun quiet => absurd (quiet _ (List.mem_singleton_self _)) (by decide))
        fun silent => silent
  | change =>
    cases loaded : t.row with
    | none => simp [UnitOfWork.run, loaded] at committed
    | some row =>
      simp only [UnitOfWork.run, loaded, Option.bind_eq_bind, Option.bind_some,
        Option.bind_eq_some_iff, Option.pure_def, Option.some.injEq, Prod.mk.injEq] at committed
      obtain ⟨x, done, t'', saved, rfl, rfl⟩ := committed
      have same : t''.outbox = met.outbox := by
        unfold Tables.save at saved
        split_ifs at saved
        cases saved
        rfl
      rw [announced_iff_unpublished same, applyCalls_unpublished done]
      have fresh : Unpublished (row.stored.events.map (·.type)) := List.forall_mem_nil _
      simp [UnitOfWork.Silent, loaded, fresh]

def storedAfter (calls : List (Mutation × Clock)) : Tables :=
  ⟨some (lifecycle.run sampleHistory calls).merchant.stored, []⟩

def failing : UnitOfWork := .change (standing 1 [.startValidation, .failValidation "blank"])

/-- Two calls, and one commit of another unit of work in between. -/
theorem announced_failing :
    ∃ m t', failing.run (storedAfter []) (storedAfter (untilApproved.take 1)) = some (m, t') ∧
      Announced (storedAfter (untilApproved.take 1)) t' m := by
  have committed := Option.eq_some_of_isSome (o := failing.run (storedAfter [])
    (storedAfter (untilApproved.take 1))) (by decide +kernel)
  refine ⟨_, _, committed, (announced_iff committed).mpr ?_⟩
  rintro row ⟨⟩
  exact ⟨by decide, by decide, trivial⟩

theorem not_announced :
    (∃ m t', (UnitOfWork.register sampleParams "mer_1" 0).run ⟨none, []⟩ ⟨none, []⟩ = some (m, t') ∧
        ¬ Announced ⟨none, []⟩ t' m) ∧
      ∃ m t', (UnitOfWork.change (standing 1 [.passValidation])).run
          (storedAfter (untilApproved.take 1)) (storedAfter (untilApproved.take 1)) = some (m, t') ∧
        ¬ Announced (storedAfter (untilApproved.take 1)) t' m := by
  have lost {t t' : Tables} {m : Merchant} (same : t'.outbox = t.outbox)
      (raised : ∃ type ∈ m.events.map (·.type), type.publishedType.isSome = true) :
      ¬ Announced t t' m := by
    rw [announced_iff_unpublished same]
    obtain ⟨type, mem, published⟩ := raised
    intro quiet
    rw [quiet type mem] at published
    cases published
  refine ⟨⟨_, _, Option.eq_some_of_isSome (by decide +kernel), lost ?_ ?_⟩,
    ⟨_, _, Option.eq_some_of_isSome (by decide +kernel), lost ?_ ?_⟩⟩
  all_goals first | rfl | decide +kernel

/-- A unit of work that has loaded the merchant: how often the row had been written by then, and
how many calls it has made since. -/
structure Working where
  merchant : Merchant
  since : Nat
  calls : Nat

structure Shop (ι : Type) where
  row : Merchant
  commits : Nat
  units : ι → Option Working

inductive ShopMove (ι : Type) where
  | load (i : ι)
  | call (i : ι) (call : Mutation) (clock : Clock)
  | save (i : ι)

section Saves

variable {ι : Type} [DecidableEq ι]

def Shop.set (s : Shop ι) (i : ι) (u : Option Working) : Shop ι :=
  { s with units := Function.update s.units i u }

/-- A call that is refused, or a save that finds no row, ends the unit of work. -/
def Shop.step (s : Shop ι) : ShopMove ι → Shop ι
  | .load i => if (s.units i).isNone then s.set i (some ⟨s.row.stored, s.commits, 0⟩) else s
  | .call i call clock =>
    match s.units i with
    | none => s
    | some u =>
      match call.apply u.merchant clock with
      | (m, .ok ()) => s.set i (some ⟨m, u.since, u.calls + 1⟩)
      | (_, .error _) => s.set i none
  | .save i =>
    match s.units i with
    | none => s
    | some u =>
      if u.merchant.saves s.row then
        { s.set i none with row := u.merchant.stored, commits := s.commits + 1 }
      else s.set i none

variable (ι) in
/-- Any number of units of work on one merchant. -/
def shop : System (Shop ι) (ShopMove ι) where
  init s := s.commits = 0 ∧ ∀ i, s.units i = none
  step := Shop.step

structure Counted (base : Nat) (s : Shop ι) : Prop where
  row : base + s.commits = s.row.version
  working : ∀ i, ∀ u ∈ s.units i, base + u.since + u.calls = u.merchant.version ∧ u.since ≤ s.commits

theorem Counted.set {base : Nat} {s : Shop ι} (h : Counted base s) (i : ι) {u : Option Working}
    (counts : ∀ x ∈ u, base + x.since + x.calls = x.merchant.version ∧ x.since ≤ s.commits) :
    Counted base (s.set i u) where
  row := h.row
  working j x mem := by
    by_cases own : j = i
    · subst own
      exact counts x (by simpa [Shop.set] using mem)
    · exact h.working j x (by simpa [Shop.set, own] using mem)

theorem Counted.step {base : Nat} {s : Shop ι} (h : Counted base s) (move : ShopMove ι) :
    Counted base (s.step move) := by
  have ended (i : ι) : Counted base (s.set i none) :=
    h.set i fun x none => absurd none (Option.not_mem_none x)
  cases move with
  | load i =>
    simp only [Shop.step]
    split_ifs
    · refine h.set i fun x loaded => ?_
      obtain rfl := Option.mem_some_iff.mp loaded
      exact ⟨h.row, le_rfl⟩
    · exact h
  | call i call clock =>
    simp only [Shop.step]
    cases held : s.units i with
    | none => exact h
    | some u =>
      obtain ⟨version, since⟩ := h.working i u held
      dsimp only
      rcases apply_cases u.merchant clock call with ⟨e, said, -⟩ | ⟨said, moved⟩
      · rw [show call.apply u.merchant clock = (_, .error e) from Prod.ext rfl said]
        exact ended i
      · rw [show call.apply u.merchant clock = (_, .ok ()) from Prod.ext rfl said]
        refine h.set i fun x stepped => ?_
        obtain rfl := Option.mem_some_iff.mp stepped
        exact ⟨(congrArg (· + 1) version).trans moved.version.symm, since⟩
  | save i =>
    simp only [Shop.step]
    cases held : s.units i with
    | none => exact h
    | some u =>
      dsimp only
      split_ifs with saves
      · have next : (s.row.version : Int) = u.merchant.version - 1 := beq_iff_eq.mp saves
        have row := h.row
        refine ⟨?_, fun j x mem => ?_⟩
        · show base + (s.commits + 1) = u.merchant.version
          omega
        · obtain ⟨version, since⟩ := (ended i).working j x mem
          exact ⟨version, Nat.le_succ_of_le since⟩
      · exact ended i

/-- A save is accepted exactly if the row was not written since it was loaded, exactly for the
units of work with one call, or with a number of calls by which other commits neither miss nor
make up for them. -/
theorem saves_iff_unchanged_iff (s : Shop ι) (run : (shop ι).Reachable s) {i : ι} {u : Working}
    (working : s.units i = some u) (called : 0 < u.calls) :
    (u.merchant.saves s.row = true ↔ s.commits = u.since) ↔
      u.calls = 1 ∨ (s.commits ≠ u.since ∧ s.commits + 1 ≠ u.since + u.calls) := by
  obtain ⟨base, counted⟩ : ∃ base, Counted base s := by
    refine System.Reachable.invariant (P := fun s => ∃ base, Counted base s) ?_ ?_ run
    · rintro s ⟨commits, idle⟩
      refine ⟨s.row.version, by rw [commits]; rfl, fun i u held => ?_⟩
      rw [idle i] at held
      cases held
    · rintro s move ⟨base, counted⟩
      exact ⟨base, counted.step move⟩
  obtain ⟨version, since⟩ := counted.working i u working
  have row := counted.row
  have accepted : u.merchant.saves s.row = true ↔ s.commits + 1 = u.since + u.calls := by
    unfold Merchant.saves
    rw [beq_iff_eq]
    omega
  rw [accepted]
  omega

end Saves

def shopAt (calls : List (Mutation × Clock)) : Shop Bool :=
  ⟨(lifecycle.run sampleHistory calls).merchant.stored, 0, fun _ => none⟩

def shopRun (i : Bool) (calls : List Mutation) : List (ShopMove Bool) :=
  calls.map fun call => .call i call fun _ => 2

/-- What `complianceReview` does to a merchant it approves. -/
def review : List Mutation :=
  [.addAttestation ⟨"PCI_SAQ", "usr_1", 1, 9⟩, .addAttestation ⟨"TERMS_ACCEPTANCE", "usr_1", 1, 9⟩,
    .approve "rep_1" "usr_1", .markProductionReady]

theorem saves_iff_unchanged_single :
    ∃ s u, (shop Bool).Reachable s ∧ s.units true = some u ∧
      (u.merchant.saves s.row = true ↔ s.commits = u.since) := by
  have reached := System.reachable_run (S := shop Bool) (.init (s := shopAt []) ⟨rfl, fun _ => rfl⟩)
    (.load true :: shopRun true [.startValidation])
  exact ⟨_, _, reached, Option.eq_some_of_isSome (by decide +kernel),
    (saves_iff_unchanged_iff _ reached (Option.eq_some_of_isSome (by decide +kernel))
      (by decide +kernel)).mpr (.inl (by decide +kernel))⟩

/-- An approval is refused although nothing else was committed, and one of a production-ready
merchant overwrites what was committed meanwhile. -/
theorem saves_wrongly :
    (∃ s u, (shop Bool).Reachable s ∧ s.units true = some u ∧ s.commits = u.since ∧
        u.merchant.saves s.row = false) ∧
      ∃ s u, (shop Bool).Reachable s ∧ s.units true = some u ∧ s.commits ≠ u.since ∧
        u.merchant.saves s.row = true := by
  have start (calls : List (Mutation × Clock)) : (shop Bool).Reachable (shopAt calls) :=
    .init ⟨rfl, fun _ => rfl⟩
  refine ⟨⟨_, _, System.reachable_run (start (untilApproved.take 9))
      (.load true :: shopRun true review), Option.eq_some_of_isSome ?_, ?_, ?_⟩,
    ⟨_, _, System.reachable_run (start (untilActivated.take 11))
      (.load true :: shopRun true (review.take 2) ++
        .load false :: shopRun false [.addPrincipal ⟨"pri_1", "Ng", 50⟩] ++ [.save false]),
      Option.eq_some_of_isSome ?_, ?_, ?_⟩⟩
  all_goals decide +kernel

end PaymentsPlatform.Merchants
