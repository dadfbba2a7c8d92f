/- layer: model of the workflow tables of migrations/0004_onboarding_workflow.up.sql, of the
     parameters that workflow_repo.go binds and of the record that Start inserts; results
   digest: Which records the tables accept, and which due instances the polling query takes. -/

import PaymentsPlatform.Workflows.Refinement

namespace PaymentsPlatform.Workflows

open Lib.Operations Lib.Processes Lib.TransitionSystem

/-- The characters `[0-9A-HJKMNP-TV-Z]`. -/
def crockford (c : Char) : Bool :=
  c.isDigit || ('A' ≤ c && c ≤ 'H') || c == 'J' || c == 'K' || c == 'M' || c == 'N' ||
    ('P' ≤ c && c ≤ 'T') || ('V' ≤ c && c ≤ 'Z')

/-- The text is the kind of the entity, an underscore and 26 characters of the alphabet. -/
def isIdentifier (kind id : String) : Bool :=
  let lead := (kind ++ "_").toList
  id.toList.take lead.length == lead && (id.toList.drop lead.length).length == 26 &&
    (id.toList.drop lead.length).all crockford

/-- The columns of `workflow_instances` that are constrained or that the polling query reads. -/
structure InstanceRow where
  instanceID : String
  workflowName : String
  workflowVersion : Int
  businessKey : String
  state : String
  attempt : Int
  leaseOwner : Option String
  leaseExpiresAt : Option Time
  attemptEpoch : Int
  runAfter : Time
  completedAt : Option Time

def instanceStates : List String :=
  ["PENDING", "RUNNING", "WAITING_SIGNAL", "COMPENSATING", "COMPLETED", "FAILED", "ABORTED"]

def terminalStates : List String := ["COMPLETED", "FAILED", "ABORTED"]

/-- The constraints of `workflow_instances`. -/
structure InstanceRow.Lawful (r : InstanceRow) : Prop where
  instanceID : isIdentifier "wfr" r.instanceID = true
  workflowName : r.workflowName ≠ ""
  workflowVersion : 1 ≤ r.workflowVersion
  businessKey : r.businessKey ≠ ""
  state : r.state ∈ instanceStates
  attempt : 0 ≤ r.attempt
  attemptEpoch : 0 ≤ r.attemptEpoch
  leaseIsPaired : r.leaseOwner.isNone = r.leaseExpiresAt.isNone
  terminalHasCompletedAt : r.state ∈ terminalStates ↔ r.completedAt.isSome = true

/-- The columns of `workflow_steps` that are constrained. -/
structure StepRow where
  stepID : String
  name : String
  sequence : Int
  state : String
  attempt : Int

def stepStates : List String :=
  ["PENDING", "RUNNING", "SUCCEEDED", "FAILED", "SKIPPED", "COMPENSATING", "COMPENSATED",
    "COMPENSATION_FAILED"]

/-- The constraints of `workflow_steps` for a row beside those of its instance: it replaces one with
its key, and no other may have its place or attempt. -/
structure StepRow.Lawful (rows : List StepRow) (r : StepRow) : Prop where
  stepID : isIdentifier "wfs" r.stepID = true
  name : r.name ≠ ""
  sequence : 0 ≤ r.sequence
  state : r.state ∈ stepStates
  attempt : 0 ≤ r.attempt
  uqStepSequence : ∀ other ∈ rows, other.stepID ≠ r.stepID → other.sequence ≠ r.sequence
  uqStepNameAttempt : ∀ other ∈ rows, other.stepID ≠ r.stepID →
    ¬ (other.name = r.name ∧ other.attempt = r.attempt)

/-- The `WHERE` clause of `LeaseRunnable`. -/
def InstanceRow.claimable (r : InstanceRow) (t : Time) : Bool :=
  ["PENDING", "RUNNING", "COMPENSATING"].contains r.state && decide (r.runAfter ≤ t) &&
    r.leaseExpiresAt.all fun u => decide (u < t)

def nullIfEmpty (s : String) : Option String := if s = "" then none else some s

def orOne (v : Int) : Int := if v ≤ 0 then 1 else v

def orString (v fallback : String) : String := if v = "" then fallback else v

/-- The parameters of `SaveInstance`, and of `CreateInstance`, which writes PENDING for no state. -/
def Instance.row (i : Instance) : InstanceRow where
  instanceID := i.id
  workflowName := i.definition
  workflowVersion := orOne i.version
  businessKey := i.businessKey
  state := i.state.text
  attempt := i.attempt
  leaseOwner := nullIfEmpty i.leaseOwner
  leaseExpiresAt := i.leaseUntil
  attemptEpoch := i.leaseEpoch
  runAfter := i.runAfter
  completedAt := i.completedAt

/-- The parameters of `SaveStep`. -/
def StepRecord.row (s : StepRecord) : StepRow where
  stepID := s.id
  name := s.name
  sequence := s.sequence
  state := orString s.state.text "PENDING"
  attempt := s.attempt

/-! The record that a workflow starts with. -/

def startKey (d : Definition) (businessKeyOf : Option (String → Except GoError String))
    (given input : String) : Except GoError String := do
  let key ← match businessKeyOf with
    | some of => if given = "" then of input else pure given
    | none => pure given
  if key = "" then
    throw (new .validationFailed ("workflow " ++ d.key ++ " requires a business key: without one, " ++
      "starting twice would produce two sagas over one entity"))
  else pure key

def startRecord (d : Definition) (id : WorkflowID) (tenant : TenantID) (key input : String) (t : Time) :
    Instance where
  id := id
  tenantID := tenant
  definition := d.name
  version := d.version
  businessKey := key
  state := .pending
  currentStep := d.firstStep
  input := input
  context := .empty
  attempt := 0
  leaseOwner := ""
  leaseEpoch := 0
  leaseUntil := none
  runAfter := t
  lastError := ""
  completedAt := none

/-- The rows after a `Start` that inserted; the generator of identifiers gives identifiers. -/
inductive Begun (e : Engine) (d : Definition) : Store → Prop
  | start {registered businessKeyOf given input key id} (tenant : TenantID) (t : Time)
      (found : e.defs.lookup d.name d.version = some registered) (same : registered.definition = d)
      (keyed : startKey d businessKeyOf given input = .ok key)
      (fresh : isIdentifier "wfr" id = true) :
      Begun e d ⟨startRecord d id tenant key input t, [], []⟩

theorem startKey_ne {d : Definition} {businessKeyOf : Option (String → Except GoError String)}
    {given input key : String} (keyed : startKey d businessKeyOf given input = .ok key) : key ≠ "" := by
  have last : ∀ k : String, (if k = "" then
      throw (new .validationFailed ("workflow " ++ d.key ++ " requires a business key: without one, " ++
        "starting twice would produce two sagas over one entity"))
      else pure k : Except GoError String) = .ok key → key ≠ "" := by
    intro k done
    split at done
    · exact absurd done nofun
    · next apart =>
        obtain rfl := Except.ok.inj done
        exact apart
  unfold startKey at keyed
  split at keyed
  · next keyOf =>
      split at keyed
      · cases derived : keyOf input with
        | error =>
          rw [derived] at keyed
          exact absurd keyed nofun
        | ok k =>
          rw [derived] at keyed
          exact last k keyed
      · exact last given keyed
  · exact last given keyed

theorem Begun.started {e : Engine} {d : Definition} {s : Store} (begun : Begun e d s) :
    Started e d s := by
  obtain ⟨tenant, t, found, same, keyed, fresh⟩ := begun
  refine ⟨?_, rfl, rfl, rfl, rfl, rfl, ⟨rfl, rfl⟩, ⟨rfl, rfl⟩, rfl, rfl⟩
  change (e.defs.lookup d.name d.version).map (·.definition) = some d
  rw [found, Option.map_some, same]

/-- The workflows that `Start` has begun. -/
def Engine.startedRuns (e : Engine) (d : Definition) (ι : Type) [DecidableEq ι] :
    System (EngineConfig ι) (ι × Act Request Choice) :=
  e.machine.processes (Begun e d)

def Accepted (s : Store) : Op → Prop
  | .saveInstance i => i.row.Lawful
  | .saveStep r => r.row.Lawful (s.steps.map StepRecord.row)
  | _ => True

/-- A poller is to take the instance up: the state is runnable, the time has come, and no lease
holds. -/
structure Instance.Awaits (i : Instance) (t : Time) : Prop where
  runnable : i.state.isRunnable = true
  come : i.runAfter ≤ t
  expired : ∀ u, i.leaseUntil = some u → u < t

def grantsNothing (s : Store) (o : Op) (k : Choice) : Prop :=
  match o with
  | .leaseRunnable _ _ => s.inst.due k.clock = false
  | _ => True

structure AtStart (id definition businessKey : String) (version : Int) (state : InstanceState)
    (leaseOwner : String) (leaseUntil completedAt : Option Time) : Prop where
  instanceID : isIdentifier "wfr" id = true
  workflowName : definition ≠ ""
  businessKey : businessKey ≠ ""
  workflowVersion : 1 ≤ version
  state : state = .pending
  leaseOwner : leaseOwner = ""
  leaseUntil : leaseUntil = none
  completedAt : completedAt = none

abbrev Instance.Undriven (i : Instance) : Prop :=
  AtStart i.id i.definition i.businessKey i.version i.state i.leaseOwner i.leaseUntil i.completedAt

variable {i : Instance}

theorem Instance.Undriven.lawful (h : i.Undriven) : i.row.Lawful where
  instanceID := h.instanceID
  workflowName := h.workflowName
  workflowVersion := by
    unfold row orOne
    dsimp only
    split
    · exact le_rfl
    · exact h.workflowVersion
  businessKey := h.businessKey
  state := by
    unfold row
    rw [h.state]
    dsimp only
    decide
  attempt := Int.natCast_nonneg _
  attemptEpoch := Int.natCast_nonneg _
  leaseIsPaired := by
    unfold row
    rw [h.leaseOwner, h.leaseUntil]
    rfl
  terminalHasCompletedAt := by
    unfold row
    rw [h.state, h.completedAt]
    dsimp only
    decide

theorem Instance.Undriven.claimable (h : i.Undriven) {t : Time} (awaits : i.Awaits t) :
    i.row.claimable t = true := by
  unfold InstanceRow.claimable row
  rw [h.state, h.leaseUntil]
  simp only [Option.all_none, Bool.and_true, Bool.and_eq_true, decide_eq_true_eq]
  exact ⟨rfl, awaits.come⟩

theorem Begun.undriven {e : Engine} {d : Definition} {s : Store} (begun : Begun e d s) :
    s.inst.Undriven := by
  obtain ⟨tenant, t, found, rfl, keyed, fresh⟩ := begun
  exact ⟨fresh, Registered.name_ne _, startKey_ne keyed, Registered.one_le_version _, rfl, rfl, rfl, rfl⟩

/-! Without a lease nothing but the requests of operators happens. -/

section Undriven

variable (e : Engine) (d : Definition)

/-- The rows of an instance that nobody has driven. -/
structure Unworked (s : Store) : Prop where
  known : Known e d s.inst
  undriven : s.inst.Undriven
  steps : s.steps = []

def keepsStart : Op → Prop
  | .saveInstance i => Known e d i ∧ i.Undriven
  | .saveStep _ | .heartbeat _ _ _ => False
  | _ => True

/-- No call gets as far as a lease. -/
def UndrivenInv : Stage → Prop
  | .arrived _ | .ended | .answered _ => True
  | .holding _ i => Known e d i ∧ i.Undriven
  | _ => False

def unleasedView : Semantics Op Ans Unit :=
  e.machine.guided (Unworked e d) (keepsStart e d) grantsNothing

variable {e d}

theorem exec_unworked (s : Store) (o : Op) (k : Choice) (h : Unworked e d s) (safe : keepsStart e d o)
    (allowed : grantsNothing s o k) : Unworked e d (s.exec o k).2 := by
  cases o with
  | saveInstance i =>
    rcases exec_saveInstance (s := s) (c := k) i with ⟨_, _, done⟩ | ⟨_, done⟩ | ⟨_, done⟩ <;> rw [done]
    · exact h
    · exact ⟨safe.1, safe.2, h.steps⟩
    · exact h
  | saveStep | heartbeat => exact safe.elim
  | leaseRunnable worker lease =>
    rcases exec_leaseRunnable (s := s) (c := k) worker lease with ⟨_, _, done⟩ | done | ⟨due, _⟩
    · rw [done]
      exact h
    · rw [done]
      exact h
    · exact absurd (allowed.symm.trans due) Bool.false_ne_true
  | listSteps =>
    rcases exec_listSteps (s := s) (c := k) with ⟨_, _, done⟩ | done <;> rw [done] <;> exact h
  | getInstance =>
    rcases exec_getInstance (s := s) (c := k) with ⟨_, _, done⟩ | done <;> rw [done] <;> exact h
  | pushDLQ step failure =>
    rcases exec_pushDLQ (s := s) (c := k) step failure with ⟨_, _, done⟩ | done <;> rw [done]
    · exact h
    · exact ⟨h.known, h.undriven, h.steps⟩
  | _ => exact h

theorem undriven_saves {stage next : Stage} (inv : UndrivenInv e d stage)
    (move : Saving e d stage i next) : (Known e d i ∧ i.Undriven) ∧ UndrivenInv e d next := by
  cases move with
  | signals | cancels | pulls => exact ⟨inv, trivial⟩
  | requeues =>
    have h := inv.2
    exact ⟨⟨inv.1, h.instanceID, h.workflowName, h.businessKey, h.workflowVersion, rfl, rfl, rfl, rfl⟩,
      trivial⟩
  | _ => exact inv.elim

theorem undriven_rules : Rules (unleasedView e d) (fun _ => UndrivenInv e d) e d where
  quiet := fun {_ _ o} inv quiet =>
    ⟨by cases o <;> first | exact quiet.elim | trivial, fun _ _ _ => inv⟩
  pushes inv _ _ := ⟨trivial, fun a _ _ => ⟨inv, settled_of a (fun _ _ => trivial) fun _ _ => trivial⟩⟩
  gets _ := by
    refine ⟨trivial, fun a _ told => settled_of a (fun i got => ?_) fun _ _ => trivial⟩
    obtain ⟨s, k, unworked, _, given⟩ := told
    rw [Engine.machine_exec] at given
    rcases exec_getInstance (s := s) (c := k) with ⟨f, _, done⟩ | done <;>
      rw [given, done] at got <;> cases got
    exact ⟨unworked.known, unworked.known, unworked.undriven⟩
  leases _ _ := by
    refine ⟨trivial, fun a _ told => settled_of a (fun found got => ⟨trivial, fun i taken => ?_⟩)
      fun _ _ => trivial⟩
    obtain ⟨s, k, _, allowed, given⟩ := told
    rw [Engine.machine_exec] at given
    subst taken
    rcases exec_leaseRunnable (s := s) (c := k) _ _ with ⟨f, _, done⟩ | done | ⟨due, _⟩
    · rw [given, done] at got
      cases got
    · rw [given, done] at got
      cases got
    · exact absurd (allowed.symm.trans due) Bool.false_ne_true
  lists inv := ⟨trivial, fun a _ _ => settled_of a
    (fun _ _ _ move => by cases move <;> exact inv.elim) fun _ _ => trivial⟩
  turns inv move := by cases move <;> trivial
  saves inv move := by
    refine ⟨(undriven_saves inv move).1, fun a _ told => settled_of a
      (fun _ _ => (undriven_saves inv move).2) fun err failed => ⟨?_, trivial⟩⟩
    obtain ⟨s, k, _, _, given⟩ := told
    rw [Engine.machine_exec] at given
    exact saveInstance_foreign (given.symm.trans failed)
  writes inv move := by cases move <;> exact inv.elim
  notes inv move := by cases move <;> exact inv.elim
  executes inv _ := inv.elim
  beats inv _ := inv.elim
  checkpoints inv _ _ := inv.elim
  stops inv _ := inv.elim
  tries inv _ _ := inv.elim
  persists inv := inv.elim

end Undriven

/-- If no lease is granted, the tables accept every record that is written, and the polling query
takes the instance when it is due. -/
theorem tables_accept_undriven {ι : Type} [DecidableEq ι] (e : Engine) (d : Definition)
    (c : EngineConfig ι) (h : (e.startedRuns d ι).ReachableUnder (choices grantsNothing) c) :
    c.world.state.inst.row.Lawful ∧
    (∀ i o, nextOp c i = some o → Accepted c.world.state o) ∧
    ∀ t, c.world.state.inst.Awaits t → c.world.state.inst.row.claimable t = true := by
  have programs : ∀ r, Guards (unleasedView e d) (fun _ _ => True) (e.machine.program r) () := by
    intro r
    have kept := undriven_rules (e := e) (d := d).program (r := r) (s := ()) trivial
    unfold Leads Holds GuardsE at kept
    rw [Engine.machine_program]
    exact Guards.mono (fun _ _ _ => trivial) kept
  obtain ⟨unworked, busy⟩ := guided_invariant
    (fun s begun => ⟨begun.started.known, begun.undriven, begun.started.steps⟩)
    (fun s o k => exec_unworked s o k) programs h
  refine ⟨unworked.undriven.lawful, fun i o about => ?_, fun t awaits =>
    unworked.undriven.claimable awaits⟩
  obtain ⟨r, next, mine⟩ := own_of_nextOp about
  have safe : keepsStart e d o := (busy i r _ mine).1
  cases o with
  | saveInstance => exact safe.2.lawful
  | saveStep => exact safe.elim
  | _ => trivial

namespace Sample

/-- The instance that `Start` inserts for a registered definition. -/
def begunStore (r : Registered) : Store :=
  ⟨startRecord r.definition "wfr_01ARZ3NDEKTSV4RRFFQ69G5FAV" "tnt_1" "mrc_1" "\x7b\x7d" 0, [], []⟩

def begunStart (r : Registered) : EngineConfig (Fin 1) := ⟨⟨begunStore r, []⟩, fun _ => none⟩

theorem begunInit {e : Engine} {r : Registered}
    (found : e.defs.lookup r.definition.name r.definition.version = some r) :
    (e.startedRuns r.definition (Fin 1)).init (begunStart r) := by
  have keyed : startKey r.definition none "mrc_1" "\x7b\x7d" = .ok "mrc_1" := rfl
  exact ⟨.start "tnt_1" 0 found rfl keyed (by decide), rfl, fun _ => rfl⟩

theorem saga_found :
    engine.defs.lookup saga.definition.name saga.definition.version = some saga := by
  unfold Registry.lookup
  refine (List.find?_cons_of_pos ?_)
  decide +kernel

theorem review_found :
    reviewEngine.defs.lookup review.definition.name review.definition.version = some review := by
  unfold Registry.lookup
  refine (List.find?_cons_of_pos ?_)
  decide +kernel

end Sample

instance (s : Store) (o : Op) (k : Choice) : Decidable (grantsNothing s o k) := by
  cases o <;> unfold grantsNothing <;> infer_instance

open Sample (saga engine first well)

/-- A cancellation is about to be stored. -/
def cancellingRun : List (Fin 1 × Act Request Choice) :=
  Sample.call first (.cancel "withdrawn") (List.replicate 3 well)

theorem tables_accept_cancellation :
    (engine.startedRuns saga.definition (Fin 1)).Meets (choices grantsNothing)
      (Sample.begunStart saga) cancellingRun ∧
    (∀ o, nextOp ((engine.startedRuns saga.definition (Fin 1)).run
      (Sample.begunStart saga) cancellingRun) 0 = some o →
        Accepted ((engine.startedRuns saga.definition (Fin 1)).run
          (Sample.begunStart saga) cancellingRun).world.state o) := by
  have meets : (engine.startedRuns saga.definition (Fin 1)).Meets (choices grantsNothing)
      (Sample.begunStart saga) cancellingRun := by
    decide +kernel
  exact ⟨meets, (tables_accept_undriven engine saga.definition _
    (System.reachableUnder_run (.init (Sample.begunInit Sample.saga_found)) cancellingRun meets)).2.1 0⟩

def firstStepRun : List (Fin 1 × Act Request Choice) :=
  Sample.call first (.poll "wrk_1") (List.replicate 5 well)

def openGateRun : List (Fin 1 × Act Request Choice) :=
  Sample.call first (.poll "wrk_1") (List.replicate 7 well)

/-- The call is about to write a step row without an identifier. -/
def writesUnidentified {ι : Type} (c : EngineConfig ι) (i : ι) : Bool :=
  match nextOp c i with
  | some (.saveStep row) => row.id == ""
  | _ => false

theorem not_accepted_of_unidentified {ι : Type} {c : EngineConfig ι} {i : ι}
    (unidentified : writesUnidentified c i = true) :
    ∃ o, nextOp c i = some o ∧ ¬ Accepted c.world.state o := by
  unfold writesUnidentified at unidentified
  split at unidentified
  · next row about =>
      refine ⟨_, about, fun lawful => ?_⟩
      have blank : row.id = "" := beq_iff_eq.mp unidentified
      have identified := lawful.stepID
      rw [show row.row.stepID = "" from blank] at identified
      exact absurd identified (by decide)
  · exact absurd unidentified Bool.false_ne_true

/-- The table refuses the row of the first step, and the polling query never takes an instance whose
gate has timed out. -/
theorem tables_refuse_steps :
    (∃ c : EngineConfig (Fin 1),
      (engine.startedRuns saga.definition (Fin 1)).Reachable c ∧
        ∃ o, nextOp c 0 = some o ∧ ¬ Accepted c.world.state o) ∧
    ∃ (c : EngineConfig (Fin 1)) (t : Time),
      (Sample.reviewEngine.startedRuns Sample.review.definition (Fin 1)).Reachable c ∧
        c.world.state.inst.Awaits t ∧ c.world.state.inst.row.claimable t = false := by
  constructor
  · exact ⟨_, System.reachable_run (.init (Sample.begunInit Sample.saga_found)) firstStepRun,
      not_accepted_of_unidentified (by decide +kernel)⟩
  · refine ⟨_, 2000, System.reachable_run (.init (Sample.begunInit Sample.review_found)) openGateRun,
      ⟨by decide +kernel, by decide +kernel, fun u held => ?_⟩, by decide +kernel⟩
    have released : ((Sample.reviewEngine.startedRuns Sample.review.definition (Fin 1)).run
        (Sample.begunStart Sample.review) openGateRun).world.state.inst.leaseUntil = none := by
      decide +kernel
    exact absurd (held.symm.trans released) (Option.some_ne_none _)

end PaymentsPlatform.Workflows
