/- layer: results about the orchestrator
   digest: Captures and voids of one payment at the same time: who talks to the gateway. -/

import Mathlib.Data.List.Infix
import PaymentsPlatform.Orchestration.Failover

namespace PaymentsPlatform.Orchestration

open Gateways Lib.Interleaving Lib.Procedure Lib.TransitionSystem Payments
open Storage (Row duplicateAttemptNumber)

/-- What a request holds from its attempt on: the payment in memory, what it was asked to
do, and the attempt it opened. -/
structure FollowUpCall where
  pay : Payment
  fu : FollowUp
  env : AttemptEnv
  success : Attempt
  opened : String × Attempt

/-- How far a Capture or Void request has come. -/
inductive FollowUpPhase where
  | waiting
  | loaded (pay : Payment)
  | started (call : FollowUpCall)
  | calling (call : FollowUpCall)
  | done

/-- The next step of a request: loading the payment and passing the checks, opening the attempt,
sending the call, and recording its answer. -/
inductive FollowUpStep where
  | load (refusal : Option GoError)
  | start (fu : FollowUp) (connections : List (GatewayID × ConnectionID)) (env : AttemptEnv)
  | send
  | close

/-- The environment of an attempt among other requests, whose writes are steps of their own.  A
number already stored refuses the save. -/
def AttemptEnv.among (row : Row) (pay : Payment) (env : AttemptEnv) : AttemptEnv :=
  { env with
    intentTx :=
      { env.intentTx.alone with
        saveAttemptErr :=
          if row.payment.attempts.any (·.sequence == pay.attempts.length + 1) then
            some duplicateAttemptNumber
          else env.intentTx.saveAttemptErr }
    outcomeTx := env.outcomeTx.alone
    reloadTx := env.reloadTx.alone }

def beginFollowUp (fu : FollowUp) (connections : List (GatewayID × ConnectionID)) (env : AttemptEnv)
    (success : Attempt) : Proc (String × Attempt) := do
  admitFollowUp env success.gatewayID (fu.breakerKey success)
  onFailure (World.emit (.release success.gatewayID))
    (openFollowUp fu connections env success.gatewayID (fu.breakerKey success))

variable (o : Orchestrator)

/-- From the answer to the released bulkhead slot. -/
def FollowUpCall.finish (c : FollowUpCall) : Proc Unit :=
  deferring (World.emit (.release c.success.gatewayID))
    (closeFollowUp o c.fu c.env
      (followUpSettle c.fu c.success.gatewayID (c.fu.breakerKey c.success) c.pay c.opened.2))

/-- One step of one request.  One that is not the request's next does nothing, and neither does an
identifier already taken: they are drawn fresh. -/
def followUpAct (s : Store) (phase : FollowUpPhase) (step : FollowUpStep) : Store × FollowUpPhase :=
  match phase, step with
  | .waiting, .load refusal =>
    match refusal, s.row.payment.rehydrate with
    | none, .ok p => (s, .loaded p)
    | _, _ => (s, .done)
  | .loaded pay, .start fu connections env =>
    if s.row.payment.attempts.any (·.id == env.seed.id) then (s, .loaded pay)
    else
      match pay.successfulAttempt with
      | none => (s, .done)
      | some success =>
        let env := env.among s.row pay
        match beginFollowUp fu connections env success { pay, row := s.row, log := s.log } with
        | (w, .ok opened) =>
          ({ row := w.row, log := w.log }, .started { pay := w.pay, fu, env, success, opened })
        | (w, .error _) => ({ row := w.row, log := w.log }, .done)
  | .started c, .send =>
    let w := (sendFollowUp c.fu c.env c.success c.opened
      { pay := c.pay, row := s.row, log := s.log }).1
    ({ row := w.row, log := w.log }, .calling c)
  | .calling c, .close =>
    let w := (c.finish o { pay := c.pay, row := s.row, log := s.log }).1
    ({ row := w.row.over s.row, log := w.log }, .done)
  | phase, _ => (s, phase)

/-- The attempts of a stored payment are numbered from one without gaps. -/
def Numbered (attempts : List Attempt) : Prop :=
  attempts.map (·.sequence) = List.range' 1 attempts.length

instance (attempts : List Attempt) : Decidable (Numbered attempts) := by
  unfold Numbered
  infer_instance

def followUpSystem : System (Config Store Nat FollowUpPhase) (Nat × FollowUpStep) :=
  interleaving (followUpAct o) fun s =>
    Numbered s.shared.row.payment.attempts ∧ ∀ i, s.own i = .waiting

def FollowUpPhase.isCalling : FollowUpPhase → Bool
  | .calling _ => true
  | _ => false

def OneAtGateway (s : Config Store Nat FollowUpPhase) : Prop :=
  ∀ i j, (s.own i).isCalling = true → (s.own j).isCalling = true → i = j

def loadsSettled (s : Store) (_ : FollowUpPhase) : FollowUpStep → Bool
  | .load _ => s.row.payment.attempts.all (·.outcome != .pending)
  | _ => true

def followUpRun (s : Store) (x : FollowUpPhase) (steps : List FollowUpStep) :
    Store × FollowUpPhase :=
  steps.foldl (fun at_ step => followUpAct o at_.1 at_.2 step) (s, x)

theorem followUp_begins (o : Orchestrator) (fu : FollowUp)
    (connections : List (GatewayID × ConnectionID)) (env : AttemptEnv) (success : Attempt) :
    followUp o fu connections env success =
      beginFollowUp fu connections env success >>= fun opened =>
        deferring (World.emit (.release success.gatewayID)) (do
          sendFollowUp fu env success opened
          let pay ← read World.pay
          closeFollowUp o fu env
            (followUpSettle fu success.gatewayID (fu.breakerKey success) pay opened.2)
          reload env.reloadTx) := by
  unfold followUp followUpHolding beginFollowUp
  dsimp only
  rw [deferring_bind, bind_assoc]

/-- A request that nobody interrupts does what `onExisting` does, but that its save leaves
the children alone that were stored with its intent. -/
theorem followUpRun_uninterrupted (o : Orchestrator) (s : Store) (p : Payment) (fu : FollowUp)
    (connections : List (GatewayID × ConnectionID)) (env : AttemptEnv)
    (fresh : ¬ s.row.payment.attempts.any (·.id == env.seed.id) = true) :
    let w₀ : World := { pay := p, row := s.row, log := s.log }
    let w := (onExisting o fu connections (env.among s.row p) w₀).1
    let ended := (followUpRun o s (.loaded p) [.start fu connections env, .send, .close]).1
    ended.log = w.log ∧ (ended.row = w.row ∨ ∃ success begun opened,
      beginFollowUp fu connections (env.among s.row p) success w₀ = (begun, .ok opened) ∧
        ended.row = w.row.over begun.row) := by
  intro w₀ w ended
  cases found : p.successfulAttempt with
  | none =>
    have left : w = w₀ := onExisting_of_none (by rw [found]; rfl)
    have stopped : ended = s := by
      simp only [ended, followUpRun, List.foldl, followUpAct, if_neg fresh, found]
    rw [left, stopped]
    exact ⟨rfl, .inl rfl⟩
  | some success =>
    let env' := env.among s.row p
    let key := fu.breakerKey success
    have runs : w = (followUp o fu connections env' success w₀).1 := by
      show (onExisting o fu connections env' w₀).1 = _
      unfold onExisting
      rw [bind_of_ok (show read World.pay w₀ = (w₀, .ok p) from rfl)]
      simp only [found]
    rw [followUp_begins] at runs
    rcases begun : beginFollowUp fu connections env' success w₀ with ⟨w₂, e | opened⟩
    · have stopped : ended = { row := w₂.row, log := w₂.log } := by
        simp only [ended, followUpRun, List.foldl, followUpAct, if_neg fresh, found]
        rw [begun]
      rw [runs, bind_of_error begun, stopped]
      exact ⟨rfl, .inl rfl⟩
    · let w₃ := w₂.emit (fu.call success.gatewayID opened.1 w₂.pay opened.2 success env'.answer)
      let closing := closeFollowUp o fu env' (followUpSettle fu success.gatewayID key w₂.pay opened.2)
      have stopped : ended = { row := (closing w₃).1.row.over w₃.row,
                               log := ((closing w₃).1.emit (.release success.gatewayID)).log } := by
        simp only [ended, followUpRun, List.foldl, followUpAct, if_neg fresh, found]
        rw [begun]
        rfl
      have left : w = (closing w₃).1.emit (.release success.gatewayID) := by
        rw [runs, bind_of_ok begun, deferring,
          bind_of_ok (show sendFollowUp fu env' success opened w₂ = (w₃, .ok ()) from rfl),
          bind_of_ok (show read World.pay w₃ = (w₃, .ok w₂.pay) from rfl)]
        rcases closed : closing w₃ with ⟨w₄, e | u⟩
        · rw [bind_of_error closed]
        · rw [bind_of_ok closed]
          show World.emit _ (reload env'.reloadTx w₄).1 = _
          rw [reload_alone (show Alone env'.reloadTx from rfl)]
      rw [left, stopped]
      exact ⟨rfl, .inr ⟨success, w₂, opened, begun, rfl⟩⟩

structure Intent (p : Payment) (env : AttemptEnv) (a : Attempt) : Prop where
  id : a.id = env.seed.id
  sequence : a.sequence = p.attempts.length + 1
  pending : a.outcome = .pending

def StoresIntent (p : Payment) (row : Row) (env : AttemptEnv) (after : Row) : Prop :=
  env.intentTx.saveAttemptErr = none ∧ ∃ a, Intent p env a ∧ after = row.upsertAttempt a

def Opens (p : Payment) (row : Row) (env : AttemptEnv) (w : World) : Prop :=
  StoresIntent p row env w.row ∧
    ∃ b, w.pay.attempts = p.attempts ++ [b] ∧ b.id = env.seed.id ∧
      b.sequence = p.attempts.length + 1

section Opening

variable {p : Payment} {row : Row} {env : AttemptEnv}

theorem saveAttempt_intent {a : Attempt} (intent : Intent p env a) {w : World}
    (attempts : w.pay.attempts = p.attempts ++ [a]) (stored : w.row = row) :
    Triple (· = w) (saveAttempt env.intentTx p.attempts.length)
      (fun _ v => v.pay = w.pay ∧ StoresIntent p row env v.row)
      (fun _ v => v = w) := by
  cases accepts : env.intentTx.saveAttemptErr with
  | some =>
    unfold saveAttempt
    rw [accepts]
    exact Triple.bind (R := fun _ _ => False) (Triple.fail fun _ same => same)
      fun _ _ impossible => impossible.elim
  | none =>
    have found : w.pay.attempts[p.attempts.length]? = some a := by simp [attempts]
    unfold saveAttempt
    rw [accepts]
    refine Triple.bind (R := fun _ v => v = w) (Triple.pure fun _ same => same) fun _ => ?_
    refine Triple.modify fun v same => ?_
    rw [same, found]
    exact ⟨rfl, accepts, a, intent, by rw [stored]⟩

theorem openFollowUp_opens (alone : env.intentTx.others = id) (fu : FollowUp)
    (connections : List (GatewayID × ConnectionID)) (gw : GatewayID) (key : String) :
    Triple (fun w => w.pay = p ∧ w.row = row) (openFollowUp fu connections env gw key)
      (fun _ => Opens p row env)
      (fun _ w => w.row = row ∨ StoresIntent p row env w.row) := by
  unfold openFollowUp
  refine Triple.bind (R := fun _ w => w.pay = p ∧ w.row = row)
    (Triple.onFailure (Triple.ofExcept (fun _ _ _ h => h) fun _ _ h => .inl h.2)) fun account => ?_
  refine Triple.bind (R := fun q w => q = p ∧ w.pay = p ∧ w.row = row)
    (Triple.read fun w h => ⟨h.1, h⟩) fun q => Triple.of_fact fun same => ?_
  subst same
  refine Triple.bind (R := fun att w => att = newAttempt q.id q.tenantID gw fu.operation
    (q.attempts.length + 1) q.amount env.seed env.startedAt ∧
      w.pay.attempts = q.attempts ++ [att] ∧ w.row = row) (Triple.onFailure ?_) fun att => ?_
  · rintro w ⟨rfl, stored⟩
    unfold startAttempt
    rcases w.pay.startAttempt_cases gw (fu.input connections w.pay).plan.id
        (fu.input connections w.pay).operation env.seed env.startedAt with
      ⟨e, same⟩ | ⟨p', att, same, rfl, core, -⟩
    · rw [same]
      exact .inl stored
    · rw [same]
      exact ⟨rfl, congrArg Core.attempts core, stored⟩
  refine Triple.of_fact fun made => ?_
  have at_ : att.sequence - 1 = q.attempts.length := by rw [made]; rfl
  dsimp only
  rw [at_]
  refine Triple.bind (R := fun _ w => ∃ a, Intent q env a ∧ w.pay.attempts = q.attempts ++ [a] ∧
    w.row = row) ?_ fun _ => ?_
  · rintro w ⟨attempts, stored⟩
    obtain ⟨conn, ran⟩ := bindConnection_ok attempts (fu.input connections q) gw
    rw [ran]
    exact ⟨_, ⟨by rw [made]; rfl, by rw [made]; rfl, by rw [made]; rfl⟩, rfl, stored⟩
  refine Triple.bind (R := fun _ w => (∃ a, Intent q env a ∧ w.pay.attempts = q.attempts ++ [a]) ∧
    StoresIntent q row env w.row) (Triple.onFailure ?_) fun _ => ?_
  · refine triple_within alone (fun e w h => ?_) (fun w h => ?_) (fun u e w v h _ => ?_)
      fun u e v h => .inr h.2
    · obtain ⟨a, -, -, stored⟩ := h
      exact .inl stored
    · obtain ⟨a, intent, attempts, stored⟩ := h
      refine (saveAttempt_intent intent attempts stored).weaken (fun _ same => same)
        (fun _ v after => ⟨⟨a, intent, after.1.symm ▸ attempts⟩, after.2⟩) fun _ v _ => .inl stored
    · obtain ⟨a, -, -, stored⟩ := h
      exact .inl stored
  refine Triple.bind (R := fun _ => Opens q row env) (Triple.onFailure ?_) fun _ =>
    Triple.pure fun _ h => h
  rintro w ⟨⟨a, intent, attempts⟩, stored⟩
  rcases invoke_last attempts (.dispatch env.dispatchedAt) with ⟨e, -, ran⟩ | ⟨b, sent, ran⟩
  · rw [ran]
    exact .inr stored
  · rw [ran]
    obtain ⟨id, sequence, -⟩ := AttemptCall.identity_of_apply sent
    exact ⟨stored, b, rfl, id.trans intent.id, sequence.trans intent.sequence⟩

variable (p row) in
theorem beginFollowUp_opens (alone : env.intentTx.others = id) (fu : FollowUp)
    (connections : List (GatewayID × ConnectionID)) (success : Attempt) :
    Triple (fun w => w.pay = p ∧ w.row = row) (beginFollowUp fu connections env success)
      (fun _ => Opens p row env)
      (fun _ w => w.row = row ∨ StoresIntent p row env w.row) := by
  have admitted : Triple (fun w : World => w.pay = p ∧ w.row = row)
      (admitFollowUp env success.gatewayID (fu.breakerKey success))
      (fun _ w => w.pay = p ∧ w.row = row)
      (fun _ w => w.row = row ∨ StoresIntent p row env w.row) := by
    unfold admitFollowUp
    refine Triple.bind (R := fun _ w => w.pay = p ∧ w.row = row)
      (Triple.orFail (fun _ _ h => h) fun _ _ h => .inl h.2) fun _ => ?_
    refine Triple.bind (R := fun _ w => w.pay = p ∧ w.row = row) (Triple.modify fun _ h => h)
      fun _ => ?_
    refine Triple.bind (R := fun _ w => w.pay = p ∧ w.row = row)
      (Triple.onFailure (Triple.orFail (fun _ _ h => h) fun _ _ h => .inl h.2)) fun _ => ?_
    exact Triple.modify fun _ h => h
  exact Triple.bind admitted fun _ =>
    Triple.onFailure (openFollowUp_opens alone fu connections success.gatewayID _)

end Opening

section Closing

variable {T : Tx → Prop} {i : Nat} {I : World → Prop} (kept : Settles T i I)
include kept

theorem Settles.parkFollowUp (env : AttemptEnv) {sin : SettleInput} (at_ : sin.index = i)
    (message reason : String) : Keeps I (parkFollowUp env sin message reason) := by
  subst at_
  exact (kept.emit _ rfl).bind fun _ => (kept.invoke _ (beq_self_eq_true _)).bind fun _ =>
    kept.invoke _ rfl

theorem Settles.closeFollowUp (o : Orchestrator) (fu : FollowUp) {env : AttemptEnv}
    (kinds : env.All T) {sin : SettleInput} (at_ : sin.index = i) :
    Keeps I (closeFollowUp o fu env sin) := by
  have applies : ∀ res now, Call.settling sin.index (.payment (fu.apply res now)) = true := by
    intro res now
    cases fu <;> rfl
  have settled : Keeps I (settleFollowUp o fu env sin) := by
    unfold settleFollowUp
    split
    · exact kept.parkFollowUp env at_ _ _
    · split_ifs
      · exact kept.parkFollowUp env at_ _ _
      · subst at_
        exact (kept.emit _ rfl).bind fun _ => kept.invoke _ (beq_self_eq_true _)
    · refine Keeps.read.bind fun pay => ?_
      split
      · exact kept.parkFollowUp env at_ _ _
      · subst at_
        exact (kept.emit _ rfl).bind fun _ => (kept.invoke _ (beq_self_eq_true _)).bind fun _ =>
          kept.invoke _ (applies _ _)
  subst at_
  exact settled.bind fun _ => kept.commit kinds.2.1 _

end Closing

def attemptKeys (attempts : List Attempt) : List (AttemptID × Nat) :=
  attempts.map fun a => (a.id, a.sequence)

def SameAttempts (keys : List (AttemptID × Nat)) (w : World) : Prop :=
  attemptKeys w.pay.attempts = keys ∧ attemptKeys w.row.payment.attempts = keys

variable {attempts : List Attempt}

theorem attemptKeys_set {i : Nat} {a a' : Attempt}
    (found : attempts[i]? = some a) (same : a'.id = a.id ∧ a'.sequence = a.sequence) :
    attemptKeys (attempts.set i a') = attemptKeys attempts :=
  map_set_of_eq _ found (by rw [same.1, same.2])

theorem settles_sameAttempts (i : Nat) (keys : List (AttemptID × Nat)) :
    Settles Alone i (SameAttempts keys) := by
  have saving : ∀ {tx : Tx} {c : Proc Unit}, Alone tx → (∀ w, Saved tx w (c w).1) →
      Keeps (SameAttempts keys) c := by
    refine fun {tx c} alone saves => Keeps.iff_state.mpr fun w ⟨held, stored⟩ => ?_
    obtain ⟨core, row⟩ := saves w
    have attempts : (c w).1.pay.attempts = w.pay.attempts := congrArg Core.attempts core
    refine ⟨by rw [attempts]; exact held, ?_⟩
    rcases row with ⟨row | row, -⟩ | ⟨-, row, -⟩
    · rw [row]
      exact stored
    · rw [row, alone]
      exact stored
    · rw [row]
      exact held
  refine ⟨fun _ _ => Triple.modify fun _ h => h, ?_, fun alone => saving alone (saved_store _),
    fun alone action => saving alone (saved_commit _ _ action),
    fun alone => Keeps.iff_state.mpr fun w held => (reload_alone alone w).symm ▸ held⟩
  intro c settling
  refine Keeps.iff_state.mpr fun w ⟨held, stored⟩ => ⟨?_, stored⟩
  show attemptKeys (c.apply w.pay).1.attempts = keys
  cases c with
  | refund => cases settling
  | payment c =>
    rw [show ((Call.payment c).apply w.pay).1.attempts = w.pay.attempts from
      attempts_of_settling settling w.pay]
    exact held
  | attempt j c =>
    cases found : w.pay.attempts[j]? with
    | none =>
      simp only [Call.apply, found]
      exact held
    | some a =>
      cases applied : c.apply a with
      | error =>
        simp only [Call.apply, found, applied]
        exact held
      | ok =>
        simp only [Call.apply, found, applied]
        obtain ⟨id, sequence, -⟩ := AttemptCall.identity_of_apply applied
        exact (attemptKeys_set found ⟨id, sequence⟩).trans held

theorem known_of_attemptKeys {stored held : List Attempt} (h : attemptKeys held = attemptKeys stored) :
    ∀ b ∈ stored, ∃ a ∈ held, a.id = b.id := by
  intro b mem
  have key : (b.id, b.sequence) ∈ attemptKeys held := by
    rw [h]
    exact List.mem_map_of_mem mem
  obtain ⟨a, heldMem, same⟩ := List.mem_map.mp key
  exact ⟨a, heldMem, congrArg Prod.fst same⟩

theorem finish_sameAttempts (o : Orchestrator) (c : FollowUpCall) (alone : c.env.All Alone)
    {row : Row} (log : List Effect) (h : attemptKeys c.pay.attempts = attemptKeys row.payment.attempts) :
    attemptKeys (((c.finish o { pay := c.pay, row, log }).1.row.over row).payment.attempts) =
      attemptKeys row.payment.attempts := by
  have kept : Keeps (SameAttempts (attemptKeys row.payment.attempts)) (c.finish o) :=
    Triple.deferring ((settles_sameAttempts _ _).closeFollowUp o c.fu alone rfl)
  have after := (Keeps.iff_state.mp kept { pay := c.pay, row, log } ⟨h, rfl⟩).2
  show attemptKeys (Storage.upsertAll _ _ _) = _
  rw [Storage.upsertAll_of_known (known_of_attemptKeys after)]
  exact after

/-- The request's attempt is open, and its call sent or about to be. -/
def FollowUpPhase.call : FollowUpPhase → Option FollowUpCall
  | .started c | .calling c => some c
  | _ => none

def FollowUpPhase.read : FollowUpPhase → Option Payment
  | .loaded p => some p
  | _ => none

structure NewIntent (row : Row) (p : Payment) (a : Attempt) : Prop where
  fresh : ∀ b ∈ row.payment.attempts, b.id ≠ a.id
  free : ∀ b ∈ row.payment.attempts, b.sequence ≠ p.attempts.length + 1
  sequence : a.sequence = p.attempts.length + 1
  pending : a.outcome = .pending

/-- Every way a step can change the row and the phase of the request that takes it. -/
inductive FollowUpMove (o : Orchestrator) (s : Store) :
    FollowUpPhase → FollowUpStep → Row → FollowUpPhase → Prop
  | skip (x : FollowUpPhase) (a : FollowUpStep) : FollowUpMove o s x a s.row x
  | quit {x : FollowUpPhase} (a : FollowUpStep) (silent : x.call = none) :
      FollowUpMove o s x a s.row .done
  | load {refusal : Option GoError} {p : Payment} (same : p.attempts = s.row.payment.attempts) :
      FollowUpMove o s .waiting (.load refusal) s.row (.loaded p)
  | lose {p : Payment} {a : Attempt} (step : FollowUpStep) (new : NewIntent s.row p a) :
      FollowUpMove o s (.loaded p) step (s.row.upsertAttempt a) .done
  | start {p : Payment} {a b : Attempt} {c : FollowUpCall} (step : FollowUpStep)
      (new : NewIntent s.row p a) (newest : c.pay.attempts = p.attempts ++ [b])
      (same : b.id = a.id ∧ b.sequence = a.sequence) (alone : c.env.All Alone) :
      FollowUpMove o s (.loaded p) step (s.row.upsertAttempt a) (.started c)
  | send {c : FollowUpCall} : FollowUpMove o s (.started c) .send s.row (.calling c)
  | close {c : FollowUpCall} :
      FollowUpMove o s (.calling c) .close
        ((c.finish o { pay := c.pay, row := s.row, log := s.log }).1.row.over s.row) .done

theorem newIntent_of_stores {row after : Row} {p : Payment} {env : AttemptEnv}
    (fresh : ¬ row.payment.attempts.any (·.id == env.seed.id) = true)
    (stores : StoresIntent p row (env.among row p) after) :
    ∃ a, NewIntent row p a ∧ a.id = env.seed.id ∧ after = row.upsertAttempt a := by
  obtain ⟨accepts, a, intent, same⟩ := stores
  have free : ¬ row.payment.attempts.any (·.sequence == p.attempts.length + 1) = true := by
    intro taken
    simp only [AttemptEnv.among] at accepts
    rw [if_pos taken] at accepts
    cases accepts
  refine ⟨a, ⟨fun b mem clash => fresh ?_, fun b mem clash => free ?_, intent.sequence,
    intent.pending⟩, intent.id, same⟩
  · exact List.any_eq_true.mpr ⟨b, mem, by rw [clash, intent.id]; exact beq_self_eq_true _⟩
  · exact List.any_eq_true.mpr ⟨b, mem, by rw [clash]; exact beq_self_eq_true _⟩

theorem followUpAct_moves (o : Orchestrator) (s : Store) (x : FollowUpPhase) (a : FollowUpStep) :
    FollowUpMove o s x a (followUpAct o s x a).1.row (followUpAct o s x a).2 := by
  cases x with
  | waiting =>
    cases a with
    | load =>
      unfold followUpAct
      dsimp only
      split
      · rename_i p loaded
        refine .load ?_
        unfold Payment.rehydrate at loaded
        split_ifs at loaded
        cases loaded
        rfl
      · exact .quit _ rfl
    | start | send | close => exact .skip _ _
  | loaded p =>
    cases a with
    | load | send | close => exact .skip _ _
    | start fu connections env =>
      by_cases taken : s.row.payment.attempts.any (·.id == env.seed.id) = true
      · simp only [followUpAct, if_pos taken]
        exact .skip _ _
      cases found : p.successfulAttempt with
      | none =>
        simp only [followUpAct, if_neg taken, found]
        exact .quit _ rfl
      | some success =>
        have opens := beginFollowUp_opens p s.row
          (show (env.among s.row p).intentTx.others = id from rfl) fu connections success
          { pay := p, row := s.row, log := s.log } ⟨rfl, rfl⟩
        rcases done : beginFollowUp fu connections (env.among s.row p) success
            { pay := p, row := s.row, log := s.log } with ⟨w, e | opened⟩
        · rw [done] at opens
          simp only [followUpAct, if_neg taken, found, done]
          rcases opens with same | stores
          · rw [same]
            exact .quit _ rfl
          · obtain ⟨a, new, -, same⟩ := newIntent_of_stores taken stores
            rw [same]
            exact .lose _ new
        · rw [done] at opens
          simp only [followUpAct, if_neg taken, found, done]
          obtain ⟨stores, b, newest, id, sequence⟩ := opens
          obtain ⟨a, new, drawn, same⟩ := newIntent_of_stores taken stores
          rw [same]
          exact .start _ new newest ⟨id.trans drawn.symm, sequence.trans new.sequence.symm⟩
            ⟨rfl, rfl, rfl⟩
  | started =>
    cases a with
    | send => exact .send
    | load | start | close => exact .skip _ _
  | calling =>
    cases a with
    | close => exact .close
    | load | start | send => exact .skip _ _
  | done => exact .skip _ _

/-- A request that has only read the payment knows no attempt the row does not hold; one whose
attempt is open knows them all, its own being stored. -/
structure Current (row : Row) (x : FollowUpPhase) : Prop where
  read : ∀ p, x.read = some p → attemptKeys p.attempts <+: attemptKeys row.payment.attempts
  keys : ∀ c, x.call = some c → attemptKeys c.pay.attempts = attemptKeys row.payment.attempts
  pending : ∀ c, x.call = some c → ∃ a ∈ row.payment.attempts, a.outcome = .pending
  alone : ∀ c, x.call = some c → c.env.All Alone

/-- Beside an open attempt no other is open, and whoever has read the payment did so before
that attempt was stored. -/
def Yields (x y : FollowUpPhase) : Prop :=
  ∀ c, x.call = some c → y.call = none ∧
    ∀ p, y.read = some p → p.attempts.length < c.pay.attempts.length

theorem attemptKeys_length (attempts : List Attempt) :
    (attemptKeys attempts).length = attempts.length := List.length_map _

variable {a : Attempt}

theorem upsertAttempt_new {row : Row} {p : Payment} (new : NewIntent row p a) :
    (row.upsertAttempt a).payment.attempts = row.payment.attempts ++ [a] := by
  have absent : ¬ row.payment.attempts.any (·.id == a.id) = true := by
    intro present
    obtain ⟨b, mem, same⟩ := List.any_eq_true.mp present
    exact new.fresh b mem (by simpa using same)
  simp only [Row.upsertAttempt, if_neg absent]

theorem NewIntent.length_eq {row : Row} {p : Payment} (new : NewIntent row p a)
    (numbered : Numbered row.payment.attempts)
    (known : attemptKeys p.attempts <+: attemptKeys row.payment.attempts) :
    p.attempts.length = row.payment.attempts.length := by
  have bound : p.attempts.length ≤ row.payment.attempts.length := by
    simpa only [attemptKeys_length] using known.length_le
  refine Nat.le_antisymm bound (Nat.le_of_not_lt fun short => ?_)
  have taken : p.attempts.length + 1 ∈ row.payment.attempts.map (·.sequence) := by
    rw [numbered]
    exact List.mem_range'_1.mpr ⟨by omega, by omega⟩
  obtain ⟨b, mem, sequence⟩ := List.mem_map.mp taken
  exact new.free b mem sequence

theorem Numbered.concat (h : Numbered attempts)
    (sequence : a.sequence = attempts.length + 1) : Numbered (attempts ++ [a]) := by
  unfold Numbered
  rw [List.map_append, h, List.length_append, List.map_singleton, List.length_singleton,
    List.range'_1_concat, sequence, Nat.add_comm]

theorem numbered_of_keys {attempts' : List Attempt}
    (same : attemptKeys attempts' = attemptKeys attempts) (h : Numbered attempts) :
    Numbered attempts' := by
  have numbers : ∀ l : List Attempt, l.map (·.sequence) = (attemptKeys l).map Prod.snd := by
    intro l
    simp [attemptKeys]
  have lengths : attempts'.length = attempts.length := by
    rw [← attemptKeys_length, same, attemptKeys_length]
  unfold Numbered
  rw [numbers, same, ← numbers, h, lengths]

variable {x : FollowUpPhase}

theorem current_of_silent {row : Row} (silent : x.call = none)
    (known : ∀ p, x.read = some p → attemptKeys p.attempts <+: attemptKeys row.payment.attempts) :
    Current row x := by
  refine ⟨known, ?_, ?_, ?_⟩ <;>
    (intro c open_; rw [silent] at open_; cases open_)

theorem yields_of_silent {y : FollowUpPhase} (silent : x.call = none) : Yields x y := by
  intro c open_
  rw [silent] at open_
  cases open_

theorem current_done (row : Row) : Current row .done :=
  current_of_silent rfl fun p read => by cases read

theorem yields_done (x : FollowUpPhase) : Yields .done x ∧ Yields x .done := by
  refine ⟨yields_of_silent rfl, fun c open_ => ⟨rfl, fun p read => ?_⟩⟩
  cases read

theorem Current.of_prefix {row row' : Row} (h : Current row x) (silent : x.call = none)
    (grown : attemptKeys row.payment.attempts <+: attemptKeys row'.payment.attempts) :
    Current row' x :=
  current_of_silent silent fun p read => (h.read p read).trans grown

theorem NewIntent.keys_grow {row : Row} {p : Payment} (new : NewIntent row p a) :
    attemptKeys (row.upsertAttempt a).payment.attempts =
      attemptKeys row.payment.attempts ++ [(a.id, a.sequence)] := by
  rw [upsertAttempt_new new, attemptKeys, List.map_append]
  rfl

theorem NewIntent.alone {row : Row} {p : Payment} (new : NewIntent row p a)
    (numbered : Numbered row.payment.attempts) (current : Current row (.loaded p))
    {y : FollowUpPhase} (watcher : Current row y) (yields : Yields y (.loaded p)) :
    y.call = none := by
  cases open_ : y.call with
  | none => rfl
  | some c =>
    have before : p.attempts.length < c.pay.attempts.length := (yields c open_).2 p rfl
    have lengths : c.pay.attempts.length = row.payment.attempts.length := by
      rw [← attemptKeys_length, watcher.keys c open_, attemptKeys_length]
    have next := new.length_eq numbered (current.read p rfl)
    omega

theorem stable_followUps (o : Orchestrator) :
    Stable (followUpAct o) (fun s x a => loadsSettled s x a = true)
      (fun s => Numbered s.row.payment.attempts) (fun s => Current s.row)
      (fun x y => Yields x y ∧ Yields y x) where
  symm _ _ h := h.symm
  acting := by
    intro s x a numbered current settled
    have move := followUpAct_moves o s x a
    generalize (followUpAct o s x a).1.row = row at move ⊢
    generalize (followUpAct o s x a).2 = x' at move ⊢
    cases move with
    | skip => exact ⟨numbered, current⟩
    | quit => exact ⟨numbered, current_done _⟩
    | @load refusal p same =>
      refine ⟨numbered, current_of_silent rfl fun q read => ?_⟩
      cases read
      rw [same]
    | @lose p a step new =>
      have next := new.length_eq numbered (current.read p rfl)
      refine ⟨?_, current_done _⟩
      rw [upsertAttempt_new new]
      exact numbered.concat (new.sequence.trans (by rw [next]))
    | @start p a b c step new newest same alone =>
      have known := current.read p rfl
      have next := new.length_eq numbered known
      have keys : attemptKeys p.attempts = attemptKeys s.row.payment.attempts :=
        known.eq_of_length (by rw [attemptKeys_length, attemptKeys_length, next])
      have grown : (s.row.upsertAttempt a).payment.attempts = s.row.payment.attempts ++ [a] :=
        upsertAttempt_new new
      refine ⟨?_, ⟨?_, ?_, ?_, ?_⟩⟩
      · rw [grown]
        exact numbered.concat (new.sequence.trans (by rw [next]))
      · intro q read
        cases read
      · intro d open_
        cases open_
        rw [newest, new.keys_grow, ← keys, attemptKeys, List.map_append, ← same.1, ← same.2]
        rfl
      · intro d open_
        exact ⟨a, by rw [grown]; simp, new.pending⟩
      · intro d open_
        cases open_
        exact alone
    | send => exact ⟨numbered, ⟨current.read, current.keys, current.pending, current.alone⟩⟩
    | @close c =>
      have same := finish_sameAttempts o c (current.alone c rfl) s.log (current.keys c rfl)
      exact ⟨numbered_of_keys same numbered, current_done _⟩
  watching := by
    intro s x a y numbered current watcher yields settled
    have move := followUpAct_moves o s x a
    generalize (followUpAct o s x a).1.row = row at move ⊢
    generalize (followUpAct o s x a).2 = x' at move ⊢
    cases move with
    | skip => exact ⟨watcher, yields⟩
    | quit => exact ⟨watcher, yields_done y⟩
    | load =>
      -- whoever has an attempt open has it stored as PENDING, and then nobody loads
      refine ⟨watcher, yields_of_silent rfl, fun c open_ => ?_⟩
      obtain ⟨b, mem, pending⟩ := watcher.pending c open_
      have resolved := List.all_eq_true.mp settled b mem
      rw [pending] at resolved
      cases resolved
    | @lose p a step new =>
      have silent := new.alone numbered current watcher yields.2
      exact ⟨watcher.of_prefix silent (new.keys_grow ▸ List.prefix_append _ _), yields_done y⟩
    | @start p a b c step new newest =>
      have silent := new.alone numbered current watcher yields.2
      have next := new.length_eq numbered (current.read p rfl)
      refine ⟨watcher.of_prefix silent (new.keys_grow ▸ List.prefix_append _ _), ?_, ?_⟩
      · intro d open_
        cases open_
        refine ⟨silent, fun q read => ?_⟩
        have bound : q.attempts.length ≤ s.row.payment.attempts.length := by
          simpa only [attemptKeys_length] using (watcher.read q read).length_le
        rw [newest, List.length_append, List.length_singleton]
        omega
      · exact yields_of_silent silent
    | send => exact ⟨watcher, yields⟩
    | @close c =>
      have silent := (yields.1 c rfl).1
      have same := finish_sameAttempts o c (current.alone c rfl) s.log (current.keys c rfl)
      exact ⟨watcher.of_prefix silent (by rw [same]), yields_done y⟩

theorem holds_waiting {s : Config Store Nat FollowUpPhase}
    (numbered : Numbered s.shared.row.payment.attempts) (waiting : ∀ i, s.own i = .waiting) :
    Holds (fun s : Store => Numbered s.row.payment.attempts) (fun s => Current s.row)
      (fun x y => Yields x y ∧ Yields y x) s := by
  refine ⟨numbered, fun i => ?_, fun i j _ => ?_⟩
  · rw [waiting i]
    refine current_of_silent rfl fun p read => ?_
    cases read
  · rw [waiting i, waiting j]
    exact ⟨yields_of_silent rfl, yields_of_silent rfl⟩

/-- If the payment is never loaded while a stored attempt is PENDING, no request sends a capture or
a void while another's call is outstanding. -/
theorem oneAtGateway_of_reachable (o : Orchestrator) {s : Config Store Nat FollowUpPhase}
    (h : (followUpSystem o).ReachableUnder (onAction fun s x a => loadsSettled s x a = true) s) :
    OneAtGateway s := by
  have holds := (stable_followUps o).invariant (fun s start => holds_waiting start.1 start.2) h
  intro i j left right
  by_contra apart
  have called : ∀ x : FollowUpPhase, x.isCalling = true → ∃ c, x.call = some c := by
    intro x calling
    cases x with
    | calling c => exact ⟨c, rfl⟩
    | waiting | loaded | started | done => cases calling
  obtain ⟨c, open_⟩ := called _ left
  obtain ⟨d, other⟩ := called _ right
  have silent := ((holds.pair i j apart).1 c open_).1
  rw [other] at silent
  cases silent

def authorizedPayment : Payment := sampleRun (authorizeCalls.take 5)

def authorizedStore : Config Store Nat FollowUpPhase where
  shared := { row := Row.of authorizedPayment, log := [] }
  own _ := .waiting

theorem init_authorizedStore (o : Orchestrator) : (followUpSystem o).init authorizedStore :=
  ⟨by decide +kernel, fun _ => rfl⟩

def upToCall (i : Nat) (fu : FollowUp) (seed : AttemptSeed) : List (Nat × FollowUpStep) :=
  [(i, .load none), (i, .start fu [] { sampleAttempt i capturedAnswer with seed := seed }), (i, .send)]

/-- A capture, and the void that is asked for once its answer is recorded. -/
theorem oneAtGateway_sequential :
    (followUpSystem sampleOrchestrator).Meets (onAction fun s x a => loadsSettled s x a = true)
        authorizedStore (upToCall 0 (.capture ⟨1000, "USD"⟩ true) ⟨"att_2", "gk_2"⟩ ++
          (0, .close) :: upToCall 1 .void ⟨"att_3", "gk_3"⟩) ∧
      OneAtGateway ((followUpSystem sampleOrchestrator).run authorizedStore
        (upToCall 0 (.capture ⟨1000, "USD"⟩ true) ⟨"att_2", "gk_2"⟩ ++
          (0, .close) :: upToCall 1 .void ⟨"att_3", "gk_3"⟩)) := by
  have meets : (followUpSystem sampleOrchestrator).Meets
      (onAction fun s x a => loadsSettled s x a = true) authorizedStore
      (upToCall 0 (.capture ⟨1000, "USD"⟩ true) ⟨"att_2", "gk_2"⟩ ++
        (0, .close) :: upToCall 1 .void ⟨"att_3", "gk_3"⟩) := by decide +kernel
  exact ⟨meets, oneAtGateway_of_reachable sampleOrchestrator
    (System.reachableUnder_run (.init (init_authorizedStore _)) _ meets)⟩

/-- A void is loaded, started and sent while the call of a capture is outstanding. -/
theorem not_oneAtGateway_overlapping :
    (followUpSystem sampleOrchestrator).init authorizedStore ∧
      ¬ OneAtGateway ((followUpSystem sampleOrchestrator).run authorizedStore
        (upToCall 0 (.capture ⟨1000, "USD"⟩ true) ⟨"att_2", "gk_2"⟩ ++
          upToCall 1 .void ⟨"att_3", "gk_3"⟩)) := by
  refine ⟨init_authorizedStore _, fun one => ?_⟩
  exact absurd (one 0 1 (by decide +kernel) (by decide +kernel)) (by decide)

/-- Under the same condition the stored attempts stay numbered from one without gaps. -/
theorem dense_of_reachable (o : Orchestrator) {s : Config Store Nat FollowUpPhase}
    (h : (followUpSystem o).ReachableUnder (onAction fun s x a => loadsSettled s x a = true) s) :
    Numbered s.shared.row.payment.attempts :=
  ((stable_followUps o).invariant (fun _ start => holds_waiting start.1 start.2) h).shared

theorem dense_voiding : Numbered ((followUpSystem sampleOrchestrator).run authorizedStore
    (upToCall 0 .void ⟨"att_2", "gk_2"⟩)).shared.row.payment.attempts :=
  dense_of_reachable sampleOrchestrator
    (System.reachableUnder_run (.init (init_authorizedStore _)) _ (by decide +kernel))

theorem followUpRun_voiding :
    let env := { sampleAttempt 0 capturedAnswer with seed := ⟨"att_2", "gk_2"⟩ }
    let s := authorizedStore.shared
    (followUpRun sampleOrchestrator s (.loaded authorizedPayment)
        [.start .void [] env, .send, .close]).1.log =
      (onExisting sampleOrchestrator .void [] (env.among s.row authorizedPayment)
        { pay := authorizedPayment, row := s.row, log := s.log }).1.log :=
  (followUpRun_uninterrupted _ _ _ _ _ _ (by decide +kernel)).1

end PaymentsPlatform.Orchestration
