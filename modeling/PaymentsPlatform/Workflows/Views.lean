/- layer: runs of the engine; results
   digest: Calls beside each other: what each knows of the rows, and when a done step's record is
     safe. -/

import PaymentsPlatform.Workflows.Refinement

namespace PaymentsPlatform.Workflows

open Lib.Operations Lib.Processes Lib.TransitionSystem

/-- What a call has learnt: the instance it last read or wrote, whether it has leased it, whether
the store has refused a write of it for its epoch, and the rows of the steps since the lease. -/
structure View where
  held : Option Instance
  leased : Bool
  rejected : Bool
  rows : List StepRecord

namespace View

def fresh : View := ⟨none, false, false, []⟩

def reads (x : View) (i : Instance) : View :=
  { x with held := some i, leased := false, rejected := false }

def leases (_ : View) (i : Instance) (rows : List StepRecord) : View := ⟨some i, true, false, rows⟩

def saves (x : View) (i : Instance) : View := { x with held := some i }

def loses (x : View) : View := { x with rejected := true }

def writes (x : View) (row : StepRecord) : View := { x with rows := putRow x.rows row }

def observe (x : View) (s : Store) (o : Op) (a : Ans o) : View :=
  match o, a with
  | .getInstance, .ok i => x.reads i
  | .leaseRunnable _ _, .ok (some i) => x.leases i s.steps
  | .saveInstance i, .ok _ => x.saves i
  | .saveInstance i, .error _ => if i.leaseEpoch = s.inst.leaseEpoch then x else x.loses
  | .heartbeat _ epoch _, .error _ => if epoch = s.inst.leaseEpoch then x else x.loses
  | .saveStep row, .ok _ => x.writes row
  | _, _ => x

end View

/-- What the call of `i` has learnt in a run so far. -/
def viewOf {ι : Type} [DecidableEq ι] (c : EngineConfig ι) (i : ι) : View :=
  c.world.seen View.observe View.fresh i

/-- The worker is at work under the lease of what it last stored. -/
structure UnderLease (x : View) (l : Local) (h : Instance) : Prop where
  held : x.held = some h
  epoch : h.leaseEpoch = l.inst.leaseEpoch
  leased : x.leased = true

/-- What an operation does to the rows and to the view of the call that performs it. -/
inductive Effect (s : Store) (x : View) (k : Choice) : Op → Store → View → Prop
  | idle {o} (until_ : Option Time) (dlq : List (String × FailureRecord)) :
      Effect s x k o { s with inst := { s.inst with leaseUntil := until_ }, dlq := dlq } x
  | read : Effect s x k .getInstance s (x.reads s.inst)
  | lease {worker lease} (due : s.inst.due k.clock = true) :
      Effect s x k (.leaseRunnable worker lease)
        { s with inst := s.inst.leasedBy worker (k.clock + lease) }
        (x.leases (s.inst.leasedBy worker (k.clock + lease)) s.steps)
  | save {i} (same : i.leaseEpoch = s.inst.leaseEpoch) :
      Effect s x k (.saveInstance i) { s with inst := i } (x.saves i)
  | refuse {i} (stale : i.leaseEpoch ≠ s.inst.leaseEpoch) : Effect s x k (.saveInstance i) s x.loses
  | miss {worker epoch extend} (stale : epoch ≠ s.inst.leaseEpoch) :
      Effect s x k (.heartbeat worker epoch extend) s x.loses
  | write {row} : Effect s x k (.saveStep row) { s with steps := putRow s.steps row } (x.writes row)

theorem exec_effect (s : Store) (x : View) (o : Op) (k : Choice) :
    Effect s x k o (s.exec o k).2 (x.observe s o (s.exec o k).1) := by
  cases o with
  | getInstance =>
    rcases exec_getInstance (s := s) (c := k) with ⟨f, _, done⟩ | done <;> rw [done]
    · exact .idle _ _
    · exact .read
  | leaseRunnable worker lease =>
    rcases exec_leaseRunnable (s := s) (c := k) worker lease with ⟨f, _, done⟩ | done | ⟨due, done⟩ <;>
      rw [done]
    · exact .idle _ _
    · exact .idle _ _
    · exact .lease due
  | saveInstance i =>
    rcases exec_saveInstance (s := s) (c := k) i with ⟨f, _, done⟩ | ⟨same, done⟩ | ⟨stale, done⟩ <;>
      rw [done]
    · by_cases same : i.leaseEpoch = s.inst.leaseEpoch
      · rw [show x.observe s (.saveInstance i) (.error f.err) = x from if_pos same]
        exact .idle _ _
      · rw [show x.observe s (.saveInstance i) (.error f.err) = x.loses from if_neg same]
        exact .refuse same
    · exact .save same
    · rw [show x.observe s (.saveInstance i) (.error (supersededWrite i)) = x.loses from if_neg stale]
      exact .refuse stale
  | heartbeat worker epoch extend =>
    have failed : ∀ err : GoError, Effect s x k (.heartbeat worker epoch extend) s
        (x.observe s (.heartbeat worker epoch extend) (.error err)) := by
      intro err
      by_cases same : epoch = s.inst.leaseEpoch
      · rw [show x.observe s (.heartbeat worker epoch extend) (.error err) = x from if_pos same]
        exact .idle _ _
      · rw [show x.observe s (.heartbeat worker epoch extend) (.error err) = x.loses from if_neg same]
        exact .miss same
    rcases exec_heartbeat (s := s) (c := k) worker epoch extend with ⟨f, _, done⟩ | ⟨_, done⟩ | done <;>
      rw [done]
    · exact failed _
    · exact .idle _ _
    · exact failed _
  | saveStep row =>
    rcases exec_saveStep (s := s) (c := k) row with ⟨f, _, done⟩ | done <;> rw [done]
    · exact .idle _ _
    · exact .write
  | listSteps =>
    rcases exec_listSteps (s := s) (c := k) with ⟨f, _, done⟩ | done <;> rw [done] <;> exact .idle _ _
  | pushDLQ step failure =>
    rcases exec_pushDLQ (s := s) (c := k) step failure with ⟨f, _, done⟩ | done <;> rw [done] <;>
      exact .idle _ _
  | _ => exact .idle _ _

/-- The operations that are nobody's business. -/
def Op.free : Op → Bool
  | .saveInstance _ | .heartbeat _ _ _ | .saveStep _ | .execute _ _ | .compensate _ _ => false
  | _ => true

section Heeding

variable (R : Store → View → Prop) (safe : View → Op → Prop) (Inv : View → Stage → Prop)

def Commits (x : View) (i : Instance) (next : Stage) : Prop :=
  safe x (.saveInstance i) ∧
    ∀ s, R s x → i.leaseEpoch = s.inst.leaseEpoch → Inv (x.saves i) next

def Marks (x : View) (row : StepRecord) (next : Stage) : Prop :=
  safe x (.saveStep row) ∧ ∀ s, R s x → Inv (x.writes row) next

/-- What is to be shown of each move, for an assertion about what a call has learnt and about
every stage. -/
structure Heeds (e : Engine) (d : Definition) : Prop where
  free : ∀ {x o}, o.free = true → safe x o
  ended : ∀ {x stage}, Inv x stage → Inv x .ended ∧ Inv x.loses .ended
  gets : ∀ {s x r}, R s x → Inv x (.arrived r) → Inv (x.reads s.inst) (.holding r s.inst)
  leases : ∀ {s x stage worker}, R s x → Inv x stage → Leasing stage worker →
    s.inst.state.isRunnable = true → ∀ t,
      Inv (x.leases (s.inst.leasedBy worker t) s.steps) (.leased (s.inst.leasedBy worker t))
  lists : ∀ {s x stage next}, R s x → Inv x stage → Listing stage (listed s.steps) next → Inv x next
  turns : ∀ {x stage next}, Inv x stage → Turning d stage next → Inv x next
  saves : ∀ {x stage i next}, Inv x stage → Saving e d stage i next → Commits R safe Inv x i next
  writes : ∀ {x stage row next}, Inv x stage → Writing e d stage row next →
    Marks R safe Inv x row next
  notes : ∀ {x stage row next}, Inv x stage → Noting e stage row next →
    Marks R safe Inv x row next ∧ Inv x next
  executes : ∀ {x step row l}, Inv x (.running step row l) → ∀ sig,
    safe x (.execute step.activity (stepInput e step sig l)) ∧
      ∀ execution, Inv x (.executed step row execution l)
  beats : ∀ {x step row execution l}, Inv x (.executed step row execution l) → ∀ worker,
    safe x (.heartbeat worker l.inst.leaseEpoch e.lease) ∧
      Inv x.loses (.executed step row execution l)
  checkpoints : ∀ {x step row execution l}, Inv x (.executed step row execution l) →
    ∀ cctx key value, cctx = l.cctx.putProgress step.name key value →
    Commits R safe Inv x { l with cctx := cctx }.encoded.inst
        (.executed step row execution { l with cctx := cctx }.encoded) ∧
      Inv x (.executed step row execution { l with cctx := cctx }) ∧
      Inv x.loses (.executed step row execution { l with cctx := cctx })
  stops : ∀ {x rows todo anyFailed l}, Inv x (.walking rows todo anyFailed l) → Inv x (.interrupted l)
  tries : ∀ {x rows step record todo anyFailed l}, Inv x (.undoing rows step record todo anyFailed l) →
    (∀ input : Input, input.step = step.name → safe x (.compensate step.compensation input)) ∧
      Inv x (.undone rows step record todo anyFailed l)
  persists : ∀ {x rows step record todo anyFailed l},
    Inv x (.undone rows step record todo anyFailed l) → ∀ i,
    i = (l.marked step.name .done).encoded.inst →
    Commits R safe Inv x i (.walking rows todo anyFailed (l.marked step.name .done).encoded) ∧
      Inv x (.walking rows todo anyFailed (l.marked step.name .done).encoded) ∧
      ∀ s, R s x → i.leaseEpoch ≠ s.inst.leaseEpoch →
        Inv x.loses (.walking rows todo anyFailed (l.marked step.name .done).encoded)

variable {R safe Inv} {e : Engine} {d : Definition}

def besideView (e : Engine) (d : Definition) (R : Store → View → Prop) (safe : View → Op → Prop) :
    Semantics Op Ans View :=
  e.machine.beside View.observe (fun s => Known e d s.inst) R safe

variable {x y : View} {a : Except GoError Unit}

theorem told_saveInstance {i : Instance}
    (moved : (besideView e d R safe).moves x (.saveInstance i) a y) :
    (∃ s, R s x ∧ i.leaseEpoch = s.inst.leaseEpoch ∧ a = .ok () ∧ y = x.saves i) ∨
    ∃ err, a = .error err ∧ isLeaseLost err = false ∧
      (y = x ∨ ∃ s, R s x ∧ i.leaseEpoch ≠ s.inst.leaseEpoch ∧ y = x.loses) := by
  obtain ⟨s, k, _, fit, given, then_⟩ := moved
  rw [Engine.machine_exec] at given
  cases a with
  | ok =>
    rcases exec_saveInstance (s := s) (c := k) i with ⟨f, _, done⟩ | ⟨same, done⟩ | ⟨_, done⟩ <;>
      rw [done] at given <;> cases given
    exact .inl ⟨s, fit, same, rfl, then_⟩
  | error err =>
    refine .inr ⟨err, rfl, saveInstance_foreign given.symm, ?_⟩
    by_cases same : i.leaseEpoch = s.inst.leaseEpoch
    · exact .inl (then_.trans (if_pos same))
    · exact .inr ⟨s, fit, same, then_.trans (if_neg same)⟩

theorem told_saveStep {row : StepRecord}
    (moved : (besideView e d R safe).moves x (.saveStep row) a y) :
    (∃ s, R s x ∧ a = .ok () ∧ y = x.writes row) ∨
    ∃ err, a = .error err ∧ isLeaseLost err = false ∧ y = x := by
  obtain ⟨s, k, _, fit, given, then_⟩ := moved
  rw [Engine.machine_exec] at given
  cases a with
  | ok => exact .inl ⟨s, fit, rfl, then_⟩
  | error err => exact .inr ⟨err, rfl, saveStep_foreign given.symm, then_⟩

theorem told_listSteps {a : Except GoError (List StepRecord)}
    (moved : (besideView e d R safe).moves x .listSteps a y) :
    y = x ∧ ((∃ s, R s x ∧ a = .ok (listed s.steps)) ∨ ∃ err, a = .error err) := by
  obtain ⟨s, k, _, fit, given, then_⟩ := moved
  rw [Engine.machine_exec] at given
  refine ⟨then_, ?_⟩
  rcases exec_listSteps (s := s) (c := k) with ⟨f, _, done⟩ | done <;> rw [done] at given
  · exact .inr ⟨_, given⟩
  · exact .inl ⟨s, fit, given⟩

theorem told_getInstance {a : Except GoError Instance}
    (moved : (besideView e d R safe).moves x .getInstance a y) :
    (∃ s, R s x ∧ Known e d s.inst ∧ a = .ok s.inst ∧ y = x.reads s.inst) ∨
    ∃ err, a = .error err ∧ y = x := by
  obtain ⟨s, k, known, fit, given, then_⟩ := moved
  rw [Engine.machine_exec] at given
  rcases exec_getInstance (s := s) (c := k) with ⟨f, _, done⟩ | done <;> rw [done] at given <;>
    subst given
  · exact .inr ⟨_, rfl, then_⟩
  · exact .inl ⟨s, fit, known, rfl, then_⟩

variable {worker activity : String}

theorem told_leaseRunnable {lease : Int} {a : Except GoError (Option Instance)}
    (moved : (besideView e d R safe).moves x (.leaseRunnable worker lease) a y) :
    (∃ s t, R s x ∧ s.inst.state.isRunnable = true ∧ Known e d (s.inst.leasedBy worker t) ∧
      a = .ok (some (s.inst.leasedBy worker t)) ∧
      y = x.leases (s.inst.leasedBy worker t) s.steps) ∨
    y = x ∧ (a = .ok none ∨ ∃ err, a = .error err) := by
  obtain ⟨s, k, known, fit, given, then_⟩ := moved
  rw [Engine.machine_exec] at given
  rcases exec_leaseRunnable (s := s) (c := k) worker lease with ⟨f, _, done⟩ | done | ⟨due, done⟩ <;>
    rw [done] at given <;> subst given
  · exact .inr ⟨then_, .inr ⟨_, rfl⟩⟩
  · exact .inr ⟨then_, .inl rfl⟩
  · simp only [Instance.due, Bool.and_eq_true] at due
    exact .inl ⟨s, _, fit, due.1.1, known, rfl, then_⟩

theorem told_heartbeat {epoch : Nat} {extend : Int}
    (moved : (besideView e d R safe).moves x (.heartbeat worker epoch extend) a y) :
    Settled (fun _ _ => True) (fun _ err => isLeaseLost err = false) y a ∧ (y = x ∨ y = x.loses) := by
  obtain ⟨s, k, _, _, given, then_⟩ := moved
  rw [Engine.machine_exec] at given
  cases a with
  | ok => exact ⟨trivial, .inl then_⟩
  | error =>
    refine ⟨heartbeat_foreign given.symm, ?_⟩
    by_cases same : epoch = s.inst.leaseEpoch
    · exact .inl (then_.trans (if_pos same))
    · exact .inr (then_.trans (if_neg same))

theorem told_pushDLQ {step : String} {failure : FailureRecord}
    (moved : (besideView e d R safe).moves x (.pushDLQ step failure) a y) : y = x := by
  obtain ⟨_, _, _, _, _, then_⟩ := moved
  exact then_

theorem told_quiet {o : Op} {a : Ans o} (quiet : o.quiet)
    (moved : (besideView e d R safe).moves x o a y) : y = x := by
  obtain ⟨_, _, _, _, _, then_⟩ := moved
  rw [then_]
  cases o <;> first | exact quiet.elim | rfl

theorem told_execute {input : Input} {execution : Execution}
    (moved : (besideView e d R safe).moves x (.execute activity input) execution y) : y = x := by
  obtain ⟨_, _, _, _, _, then_⟩ := moved
  exact then_

theorem told_compensate {input : Input} {a : Option StepError}
    (moved : (besideView e d R safe).moves x (.compensate activity input) a y) : y = x := by
  obtain ⟨_, _, _, _, _, then_⟩ := moved
  exact then_

variable (heeds : Heeds R safe Inv e d)
include heeds

theorem Heeds.commits {i : Instance} {stage next : Stage} (h : Inv x stage)
    (commits : Commits R safe Inv x i next) : Saves (besideView e d R safe) Inv x i next := by
  refine ⟨commits.1, fun a y moved => ?_⟩
  rcases told_saveInstance moved with ⟨s, fit, same, rfl, rfl⟩ |
    ⟨err, rfl, foreign, rfl | ⟨_, _, _, rfl⟩⟩
  · exact commits.2 s fit same
  · exact ⟨foreign, (heeds.ended h).1⟩
  · exact ⟨foreign, (heeds.ended h).2⟩

theorem Heeds.rules : Rules (besideView e d R safe) Inv e d where
  quiet := by
    intro x stage o h quiet
    refine ⟨heeds.free (by cases o <;> first | exact quiet.elim | rfl), fun a y moved => ?_⟩
    obtain rfl := told_quiet quiet moved
    exact h
  pushes := by
    intro x stage h step failure
    refine ⟨heeds.free rfl, fun a y moved => ?_⟩
    obtain rfl := told_pushDLQ moved
    exact ⟨h, settled_of a (fun _ _ => trivial) fun _ _ => (heeds.ended h).1⟩
  gets := by
    intro x r h
    refine ⟨heeds.free rfl, fun a y moved => ?_⟩
    rcases told_getInstance moved with ⟨s, fit, known, rfl, rfl⟩ | ⟨err, rfl, rfl⟩
    · exact ⟨known, heeds.gets fit h⟩
    · exact (heeds.ended h).1
  leases := by
    intro x stage worker h leasing
    refine ⟨heeds.free rfl, fun a y moved => ?_⟩
    rcases told_leaseRunnable moved with ⟨s, t, fit, runnable, known, rfl, rfl⟩ |
      ⟨rfl, rfl | ⟨err, rfl⟩⟩
    · have leased := heeds.leases fit h leasing runnable t
      refine ⟨(heeds.ended leased).1, fun i taken => ?_⟩
      cases taken
      exact ⟨known, leased⟩
    · exact ⟨(heeds.ended h).1, fun i taken => absurd taken.symm (Option.some_ne_none _)⟩
    · exact (heeds.ended h).1
  lists := by
    intro x stage h
    refine ⟨heeds.free rfl, fun a y moved => ?_⟩
    obtain ⟨rfl, ⟨s, fit, rfl⟩ | ⟨err, rfl⟩⟩ := told_listSteps moved
    · exact fun next move => heeds.lists fit h move
    · exact (heeds.ended h).1
  turns := heeds.turns
  saves h move := heeds.commits h (heeds.saves h move)
  writes := by
    intro x stage row next h move
    obtain ⟨allowed, written⟩ := heeds.writes h move
    refine ⟨allowed, fun a y moved => ?_⟩
    rcases told_saveStep moved with ⟨s, fit, rfl, rfl⟩ | ⟨err, rfl, foreign, rfl⟩
    · exact written s fit
    · exact ⟨foreign, (heeds.ended h).1⟩
  notes := by
    intro x stage row next h move
    obtain ⟨⟨allowed, written⟩, kept⟩ := heeds.notes h move
    refine ⟨allowed, fun a y moved => ?_⟩
    rcases told_saveStep moved with ⟨s, fit, rfl, rfl⟩ | ⟨err, rfl, foreign, rfl⟩
    · exact written s fit
    · exact kept
  executes := by
    intro x step row l h sig
    refine ⟨(heeds.executes h sig).1, fun execution y moved => ?_⟩
    obtain rfl := told_execute moved
    exact (heeds.executes h sig).2 execution
  beats := by
    intro x step row execution l h worker
    refine ⟨(heeds.beats h worker).1, fun a y moved => ?_⟩
    obtain ⟨settled, rfl | rfl⟩ := told_heartbeat moved
    · exact ⟨h, settled⟩
    · exact ⟨(heeds.beats h worker).2, settled⟩
  checkpoints := by
    intro x step row execution l h key value
    obtain ⟨⟨allowed, stored⟩, kept, lost⟩ := heeds.checkpoints h _ key value rfl
    refine ⟨allowed, fun a y moved => ?_⟩
    rcases told_saveInstance moved with ⟨s, fit, same, rfl, rfl⟩ |
      ⟨err, rfl, foreign, rfl | ⟨_, _, _, rfl⟩⟩
    · exact stored s fit same
    · exact kept
    · exact lost
  stops := by
    intro x y rows todo anyFailed l reason h moved
    obtain rfl := told_quiet (o := .stopping) trivial moved
    exact heeds.stops h
  tries := by
    intro x rows step record todo anyFailed l h input named
    refine ⟨(heeds.tries h).1 input named, fun a y moved => ?_⟩
    obtain rfl := told_compensate moved
    cases a with
    | none => exact (heeds.tries h).2
    | some => exact h
  persists := by
    intro x rows step record todo anyFailed l h
    obtain ⟨⟨allowed, stored⟩, kept, lost⟩ := heeds.persists h _ rfl
    refine ⟨allowed, fun a y moved => ?_⟩
    rcases told_saveInstance moved with ⟨s, fit, same, rfl, rfl⟩ |
      ⟨err, rfl, foreign, rfl | ⟨s, fit, stale, rfl⟩⟩
    · exact stored s fit same
    · exact kept
    · exact lost s fit stale

theorem Heeds.program (begins : ∀ r, Inv View.fresh (.arrived r)) (r : Request) :
    Guards (besideView e d R safe) (fun x answer => answer = .ok () → Inv x (.answered r))
      (e.machine.program r) View.fresh := by
  have kept := heeds.rules.program (begins r)
  unfold Leads Holds GuardsE at kept
  rw [Engine.machine_program]
  refine Guards.mono (fun y answer settled fine => ?_) kept
  subst fine
  exact settled

end Heeding

section Fitting

variable {R : Store → View → Prop} {safe : View → Op → Prop} {Inv : View → Stage → Prop}
  {Q : Store → View → View → Prop} {allows : Store → View → View → Op → Choice → Prop} {e : Engine}
  {d : Definition} {ι : Type} [DecidableEq ι] {c : EngineConfig ι}

theorem Heeds.fits (heeds : Heeds R safe Inv e d) (begins : ∀ r, Inv View.fresh (.arrived r))
    (stable : Beside View.observe View.fresh e.machine (fun s => Known e d s.inst) safe allows R Q)
    (h : (e.runs d ι).ReachableUnder (besides View.observe View.fresh allows) c) :
    Fits View.observe View.fresh (besideView e d R safe)
      (fun r x answer => answer = .ok () → Inv x (.answered r)) R Q c :=
  stable.invariant (fun _ reached => known_always reached) (heeds.program begins) h

theorem beside_of_effects (begins : ∀ s, R s View.fresh)
    (joins : ∀ s x, Q s View.fresh x ∧ Q s x View.fresh)
    (acts : ∀ {s x o k s' x'}, R s x → safe x o → Effect s x k o s' x' → R s' x')
    (bears : ∀ {s x y o k s' x'}, R s x → R s y → Q s x y → Q s y x → safe x o → allows s x y o k →
      Effect s x k o s' x' → R s' y ∧ Q s' x' y ∧ Q s' y x')
    (keeps : ∀ {s x y z o k s' x'}, R s y → R s z → Q s y z → Effect s x k o s' x' → Q s' y z) :
    Beside View.observe View.fresh e.machine (fun s => Known e d s.inst) safe allows R Q where
  begins := begins
  joins := joins
  acts s x o k _ fit allowed := acts fit allowed (exec_effect s x o k)
  bears s x _ o k _ fitX fitY apart apart' allowed agreed :=
    bears fitX fitY apart apart' allowed agreed (exec_effect s x o k)
  keeps s _ _ o k _ fitY fitZ apart := keeps fitY fitZ apart (exec_effect s View.fresh o k)

end Fitting

def MarksAll (d : Definition) (rows : List StepRecord) (c : InstanceContext) : Prop :=
  ∀ step ∈ d.steps.drop (compensationFloor d (listed rows)), step.compensation ≠ "" →
    doneIn rows step.name = true → c.bookkeeping.compensations step.name ≠ none

structure EndsRollback (x : View) (i : Instance) : Prop where
  leased : x.leased = true
  before : ∃ h, x.held = some h ∧ h.state = .compensating
  after : i.state = .compensated ∨ i.state = .failed

/-- Step rows are written under a lease, a step is run only if it is not done, and a rollback that
ends has come to every step that is done. -/
def respectsRows (d : Definition) (x : View) : Op → Prop
  | .saveStep _ => x.leased = true
  | .execute _ input => x.leased = true ∧ doneIn x.rows input.step = false
  | .saveInstance i => EndsRollback x i → MarksAll d x.rows i.context
  | _ => True

def KnowsRows (s : Store) (x : View) : Prop :=
  x.leased = true → (∃ h, x.held = some h ∧ h.leaseEpoch = s.inst.leaseEpoch) ∧ x.rows = s.steps

/-- No two calls at work have a lease. -/
def OneLeased (_ : Store) (x y : View) : Prop := ¬ (x.leased = true ∧ y.leased = true)

/-- No lease is granted while another call is at work under one. -/
def leasesInTurn (s : Store) (_ y : View) (o : Op) (k : Choice) : Prop :=
  match o with
  | .leaseRunnable _ _ => s.inst.due k.clock = true → y.leased = false
  | _ => True

section Effects

variable {d : Definition} {s s' : Store} {x x' y z : View} {o : Op} {k : Choice}

theorem KnowsRows.acts (fit : KnowsRows s x) (effect : Effect s x k o s' x') : KnowsRows s' x' := by
  cases effect with
  | idle => exact fit
  | read => exact fun leased => absurd leased Bool.false_ne_true
  | lease => exact fun _ => ⟨⟨_, rfl, rfl⟩, rfl⟩
  | save => exact fun leased => ⟨⟨_, rfl, rfl⟩, (fit leased).2⟩
  | refuse | miss => exact fit
  | @write row => exact fun leased => ⟨(fit leased).1, congrArg (putRow · row) (fit leased).2⟩

theorem KnowsRows.bears (fit : KnowsRows s y) (apart : OneLeased s x y) (allowed : respectsRows d x o)
    (agreed : leasesInTurn s x y o k) (effect : Effect s x k o s' x') : KnowsRows s' y := by
  intro leased
  obtain ⟨⟨h, held, epoch⟩, rows⟩ := fit leased
  cases effect with
  | lease due => exact absurd (leased.symm.trans (agreed due)) Bool.true_eq_false_eq_False
  | save same => exact ⟨⟨h, held, epoch.trans same.symm⟩, rows⟩
  | write => exact absurd ⟨allowed, leased⟩ apart
  | _ => exact ⟨⟨h, held, epoch⟩, rows⟩

theorem OneLeased.bears (apart : OneLeased s x y) (agreed : leasesInTurn s x y o k)
    (effect : Effect s x k o s' x') : OneLeased s' x' y := by
  cases effect with
  | read => exact fun both => absurd both.1 Bool.false_ne_true
  | lease due => exact fun both => absurd (both.2.symm.trans (agreed due)) Bool.true_eq_false_eq_False
  | _ => exact apart

theorem rows_beside (e : Engine) (d : Definition) :
    Beside View.observe View.fresh e.machine (fun s => Known e d s.inst) (respectsRows d) leasesInTurn
      KnowsRows OneLeased :=
  beside_of_effects (fun _ leased => absurd leased Bool.false_ne_true)
    (fun _ _ => ⟨fun both => absurd both.1 Bool.false_ne_true,
      fun both => absurd both.2 Bool.false_ne_true⟩)
    (fun fit _ effect => fit.acts effect)
    (fun _ fitY apart _ allowed agreed effect => ⟨fitY.bears apart allowed agreed effect,
      apart.bears agreed effect, fun both => apart.bears agreed effect both.symm⟩)
    fun _ _ apart _ => apart

end Effects

structure Going (x : View) (l : Local) : Prop where
  under : ∃ h, UnderLease x l h ∧ h.state ≠ .compensating
  state : l.inst.state ≠ .compensating

/-- The walk by the rows `seen` is at the step `now`: `todo` is ahead and as it was seen, and what
is behind is not done or has a mark. -/
structure Walking (d : Definition) (rows seen : List StepRecord) (todo : List Step) (now : Option Step)
    (c : InstanceContext) : Prop where
  tail : now.toList ++ todo <:+ (d.steps.drop (compensationFloor d seen)).reverse
  same : ∀ step ∈ d.steps, step ∈ todo ∨ step ∉ d.steps.drop (compensationFloor d seen) →
    doneIn rows step.name = doneIn seen step.name
  marked : ∀ step ∈ d.steps.drop (compensationFloor d seen), step ∉ todo → now ≠ some step →
    step.compensation ≠ "" → doneIn rows step.name = true →
      c.bookkeeping.compensations step.name ≠ none

def RowsInv (d : Definition) (x : View) : Stage → Prop
  | .arrived _ | .ended | .answered _ => True
  | .holding _ _ => x.leased = false
  | .leased i => x.leased = true ∧ x.held = some i
  | .ready l => x.leased = true ∧ x.held = some l.inst
  | .surveyed rows l => (x.leased = true ∧ x.held = some l.inst) ∧ rows = listed x.rows
  | .fresh step l | .running step _ l => Going x l ∧ doneIn x.rows step.name = false
  | .executed _ _ _ l | .recorded _ _ _ l | .scheduled _ _ l | .condemned _ l | .succeeded _ l
  | .aborting _ _ l => Going x l
  | .walking seen todo _ l =>
    (x.leased = true ∧ l.inst.state = .compensating) ∧ Walking d x.rows seen todo none l.cctx
  | .interrupted l => x.leased = true ∧ l.inst.state = .compensating
  | .undoing seen step record todo _ l | .undone seen step record todo _ l =>
    (x.leased = true ∧ l.inst.state = .compensating) ∧ Walking d x.rows seen todo (some step) l.cctx ∧
      record.name = step.name
  | .rolledBack _ => x.leased = true

section Walk

variable {d : Definition} {rows seen : List StepRecord} {todo : List Step} {step other : Step}
  {now : Option Step} {c : InstanceContext} {l : Local} {row : StepRecord}

theorem steps_nodup (named : d.Named) : d.steps.Nodup := named.nodup.of_map _

theorem name_ne (named : d.Named) (mem : step ∈ d.steps) (mem' : other ∈ d.steps) (apart : other ≠ step) :
    other.name ≠ step.name :=
  fun same => apart (List.inj_on_of_nodup_map named.nodup mem' mem same)

theorem Walking.start (d : Definition) (rows : List StepRecord) (c : InstanceContext) :
    Walking d rows (listed rows) (d.steps.drop (compensationFloor d (listed rows))).reverse none c := by
  refine ⟨List.suffix_refl _, fun step _ _ => (doneIn_listed rows step.name).symm, ?_⟩
  intro step there behind
  exact absurd (List.mem_reverse.mpr there) behind

theorem Walking.at (h : Walking d rows seen todo (some step) c) (named : d.Named) :
    step ∈ d.steps.drop (compensationFloor d seen) ∧ step ∉ todo := by
  have all : (d.steps.drop (compensationFloor d seen)).reverse.Nodup :=
    List.nodup_reverse.mpr ((steps_nodup named).sublist (List.drop_sublist _ _))
  have own : (step :: todo).Nodup := all.sublist h.tail.sublist
  exact ⟨List.mem_reverse.mp (h.tail.subset List.mem_cons_self), (List.nodup_cons.mp own).1⟩

theorem Walking.take (h : Walking d rows seen (step :: todo) none c) :
    Walking d rows seen todo (some step) c where
  tail := h.tail
  same other mem place := h.same other mem (place.imp_left (List.mem_cons_of_mem _))
  marked other there behind apart := by
    refine h.marked other there (fun mem => ?_) (Option.some_ne_none _ ∘ Eq.symm)
    rcases List.mem_cons.mp mem with rfl | later
    · exact apart rfl
    · exact behind later

theorem Walking.write (h : Walking d rows seen todo (some step) c) (named : d.Named)
    (own : row.name = step.name) : Walking d (putRow rows row) seen todo (some step) c := by
  obtain ⟨there, fresh⟩ := h.at named
  have known := List.mem_of_mem_drop there
  have elsewhere : ∀ other ∈ d.steps, other ≠ step →
      doneIn (putRow rows row) other.name = doneIn rows other.name := fun other mem apart =>
    doneIn_putRow_of_ne (own ▸ name_ne named known mem apart)
  refine ⟨h.tail, fun other mem place => ?_, fun other mem behind apart declared done => ?_⟩
  · rw [elsewhere other mem]
    · exact h.same other mem place
    · rintro rfl
      exact place.elim fresh fun outside => outside there
  · have different : other ≠ step := fun same => apart (congrArg some same.symm)
    rw [elsewhere other (List.mem_of_mem_drop mem) different] at done
    exact h.marked other mem behind apart declared done

theorem Walking.mark (h : Walking d rows seen todo (some step) c) (mark : CompensationMark) :
    Walking d rows seen todo none (c.markCompensation step.name mark) where
  tail := (List.suffix_cons step todo).trans h.tail
  same := h.same
  marked other there behind _ declared done := by
    change Function.update c.bookkeeping.compensations step.name (some mark) other.name ≠ none
    by_cases here : other.name = step.name
    · rw [here, Function.update_self]
      exact Option.some_ne_none _
    · rw [Function.update_of_ne here]
      refine h.marked other there behind (fun same => here ?_) declared done
      exact congrArg Step.name (Option.some.inj same).symm

theorem Walking.skip (h : Walking d rows seen (step :: todo) none l.cctx) (out : Skipped seen l step) :
    Walking d rows seen todo none l.cctx where
  tail := (List.suffix_cons step todo).trans h.tail
  same other mem place := h.same other mem (place.imp_left (List.mem_cons_of_mem _))
  marked other there behind apart declared done := by
    by_cases here : other = step
    · subst here
      rw [h.same other (List.mem_of_mem_drop there) (.inl List.mem_cons_self)] at done
      rcases out.of_done done with plain | marked
      · exact absurd plain declared
      · rw [marked]
        exact Option.some_ne_none _
    · refine h.marked other there (fun mem => ?_) apart declared done
      exact (List.mem_cons.mp mem).elim here behind

theorem Walking.over (h : Walking d rows seen [] none c) (named : d.Named) : MarksAll d rows c := by
  have floor : compensationFloor d seen ≤ compensationFloor d (listed rows) := by
    refine compensationFloor_le fun ret pivot at_ found done => ?_
    have stop : compensationFloor d seen = ret + 1 := by
      rw [compensationFloor_eq, at_]
      exact if_pos ((Option.any_eq_true _ _).mpr ⟨pivot, found, done⟩)
    obtain ⟨bound, own⟩ := List.getElem?_eq_some_iff.mp found
    have rest : d.steps.drop ret = pivot :: d.steps.drop (ret + 1) := by
      rw [List.drop_eq_getElem_cons bound, own]
    have outside : pivot ∉ d.steps.drop (compensationFloor d seen) := by
      have nodup := (steps_nodup named).sublist (List.drop_sublist ret d.steps)
      rw [rest] at nodup
      rw [stop]
      exact (List.nodup_cons.mp nodup).1
    rw [doneIn_listed, h.same pivot (List.mem_of_getElem? found) (.inr outside)]
    exact done
  intro step there declared done
  have there := (List.drop_sublist_drop_left d.steps floor).subset there
  exact h.marked step there List.not_mem_nil (Option.some_ne_none _ ∘ Eq.symm) declared done

end Walk

section Moves

variable {e : Engine} {d : Definition} {x : View} {stage next : Stage} {i h : Instance} {l l' : Local}
  {row : StepRecord}

theorem Going.saved (leased : x.leased = true) (apart : l.inst.state ≠ .compensating) :
    Going (x.saves l.inst) l :=
  ⟨⟨l.inst, ⟨rfl, rfl, leased⟩, apart⟩, apart⟩

theorem Going.moved {y : View} (going : Going x l) (held : y.held = x.held)
    (leased : y.leased = x.leased) (epoch : l'.inst.leaseEpoch = l.inst.leaseEpoch)
    (apart : l'.inst.state ≠ .compensating) : Going y l' := by
  obtain ⟨h, under, forward⟩ := going.under
  exact ⟨⟨h, ⟨held.trans under.held, under.epoch.trans epoch.symm, leased.trans under.leased⟩, forward⟩,
    apart⟩

theorem Going.leased (going : Going x l) : x.leased = true :=
  going.under.elim fun _ under => under.1.leased

theorem commits_within (within : ¬ EndsRollback x i) (then_ : RowsInv d (x.saves i) next) :
    Commits KnowsRows (respectsRows d) (RowsInv d) x i next :=
  ⟨fun ends => absurd ends within, fun _ _ _ => then_⟩

theorem not_endsRollback_of_held (held : x.held = some h) (apart : h.state ≠ .compensating) :
    ¬ EndsRollback x i := by
  rintro ⟨_, ⟨h', held', unwinding⟩, _⟩
  obtain rfl := Option.some.inj (held.symm.trans held')
  exact apart unwinding

theorem not_endsRollback_of_state (state : InstanceState) (same : i.state = state)
    (other : state ≠ .compensated ∧ state ≠ .failed) : ¬ EndsRollback x i :=
  fun ends => ends.after.elim (same ▸ other.1) (same ▸ other.2)

theorem not_endsRollback_of_same (held : x.held = some h) (same : i.state = h.state) :
    ¬ EndsRollback x i := by
  by_cases unwinding : h.state = .compensating
  · exact not_endsRollback_of_state .compensating (same.trans unwinding) (by decide)
  · exact not_endsRollback_of_held held unwinding

theorem Going.commit (going : Going x l) (then_ : RowsInv d (x.saves i) next) :
    Commits KnowsRows (respectsRows d) (RowsInv d) x i next := by
  obtain ⟨h, under, apart⟩ := going.under
  exact commits_within (not_endsRollback_of_held under.held apart) then_

theorem rows_turns (inv : RowsInv d x stage) (move : Turning d stage next) : RowsInv d x next := by
  cases move with
  | cancels forward => exact ⟨⟨_, ⟨inv.2, rfl, inv.1⟩, forward.2⟩, forward.2⟩
  | enters current open_ =>
    obtain ⟨⟨leased, held⟩, rfl⟩ := inv
    rw [doneIn_listed] at open_
    exact ⟨⟨⟨_, ⟨held, rfl, leased⟩, current.forward.2⟩, current.forward.2⟩, open_⟩
  | declines => exact inv
  | walks unwinding =>
    obtain ⟨⟨leased, held⟩, rfl⟩ := inv
    exact ⟨⟨leased, unwinding⟩, .start d x.rows _⟩
  | skips out => exact ⟨inv.1, inv.2.skip out⟩
  | _ => trivial

theorem rows_saves (named : d.Named) (inv : RowsInv d x stage) (move : Saving e d stage i next) :
    Commits KnowsRows (respectsRows d) (RowsInv d) x i next := by
  have unleased : x.leased = false → ¬ EndsRollback x i :=
    fun unleased ends => absurd (unleased.symm.trans ends.leased) Bool.false_ne_true
  cases move with
  | signals | cancels | pulls | requeues => exact commits_within (unleased inv) trivial
  | handsBack => exact commits_within (not_endsRollback_of_same inv.2 rfl) trivial
  | quarantines =>
    exact commits_within (not_endsRollback_of_state .poisoned rfl (by decide)) trivial
  | counts => exact commits_within (not_endsRollback_of_same inv.2 rfl) ⟨inv.1, rfl⟩
  | releases => exact commits_within (not_endsRollback_of_same inv.2 rfl) trivial
  | completes forward =>
    exact commits_within (not_endsRollback_of_held inv.2 forward.2) trivial
  | misses forward =>
    exact commits_within (not_endsRollback_of_held inv.2 forward.2) trivial
  | advances current =>
    exact commits_within (not_endsRollback_of_held inv.1.2 current.forward.2) ⟨inv.1.1, rfl⟩
  | concludes current =>
    exact commits_within (not_endsRollback_of_held inv.1.2 current.forward.2) ⟨inv.1.1, rfl⟩
  | consumes =>
    have running : InstanceState.running ≠ .compensating := by decide
    exact inv.1.commit ⟨.saved inv.1.leased running, inv.2⟩
  | waits | opens | expires => exact inv.1.commit trivial
  | commits | aborts => exact inv.commit ⟨inv.leased, rfl⟩
  | interrupts =>
    exact commits_within (not_endsRollback_of_state .compensating inv.2 (by decide)) trivial
  | settles => exact ⟨fun _ => inv.2.over named, fun _ _ _ => inv.1.1⟩
  | cancelsOut =>
    exact commits_within (not_endsRollback_of_state .canceled rfl (by decide)) trivial
  | failsOut => exact ⟨fun _ => inv.2.over named, fun _ _ _ => trivial⟩
  | _ => exact inv.commit trivial

theorem rows_writes (inv : RowsInv d x stage) (move : Writing e d stage row next) :
    Marks KnowsRows (respectsRows d) (RowsInv d) x row next := by
  have running : InstanceState.running ≠ .compensating := by decide
  cases move with
  | passes =>
    exact ⟨inv.1.leased, fun _ _ => inv.1.moved rfl rfl rfl running⟩
  | unknown => exact ⟨inv.1.leased, fun _ _ => inv.1.moved rfl rfl rfl inv.1.state⟩
  | begins =>
    refine ⟨inv.1.leased, fun _ _ => ⟨inv.1.moved rfl rfl rfl running, ?_⟩⟩
    rw [Bool.eq_false_iff]
    intro done
    have unfinished : StepState.running ≠ .succeeded := by decide
    exact absurd (inv.2.symm.trans (doneIn_of_putRow unfinished done)) Bool.false_ne_true
  | _ => exact ⟨inv.leased, fun _ _ => inv.moved rfl rfl rfl inv.state⟩

theorem rows_notes (named : d.Named) (inv : RowsInv d x stage) (move : Noting e stage row next) :
    Marks KnowsRows (respectsRows d) (RowsInv d) x row next ∧ RowsInv d x next := by
  cases move with
  | abandons => exact ⟨⟨inv.leased, fun _ _ => trivial⟩, trivial⟩
  | marks due =>
    have own := name_of_latest due.found
    exact ⟨⟨inv.1.1, fun _ _ => ⟨inv.1, inv.2.take.write named own, own⟩⟩, inv.1, inv.2.take, own⟩
  | lacks due =>
    have own := name_of_latest due.found
    refine ⟨⟨inv.1.1, fun _ _ => ⟨inv.1, Walking.mark ?_ .failed⟩⟩, inv.1, inv.2.take.mark .failed⟩
    exact inv.2.take.write named own
  | givesUp =>
    refine ⟨⟨inv.1.1, fun _ _ => ⟨inv.1, Walking.mark ?_ .failed⟩⟩, inv.1, inv.2.1.mark .failed⟩
    exact inv.2.1.write named inv.2.2
  | records =>
    exact ⟨⟨inv.1.1, fun _ _ => ⟨inv.1, inv.2.1.write named inv.2.2, inv.2.2⟩⟩, inv⟩

theorem rows_heeds (e : Engine) (named : d.Named) :
    Heeds KnowsRows (respectsRows d) (RowsInv d) e d where
  free := fun {_ o} free => by cases o <;> trivial
  ended _ := ⟨trivial, trivial⟩
  gets _ _ := rfl
  leases _ _ _ _ _ := ⟨rfl, rfl⟩
  lists := by
    intro s x stage next fit inv move
    cases move with
    | surveys => exact ⟨inv, congrArg listed (fit inv.1).2.symm⟩
    | looks => exact inv
  turns := rows_turns
  saves := rows_saves named
  writes := rows_writes
  notes := rows_notes named
  executes inv _ := ⟨⟨inv.1.leased, inv.2⟩, fun _ => inv.1⟩
  beats inv _ := ⟨trivial, inv.moved rfl rfl rfl inv.state⟩
  checkpoints := by
    rintro x step row execution l going cctx key value rfl
    exact ⟨going.commit (.saved going.leased going.state), going.moved rfl rfl rfl going.state,
      going.moved rfl rfl rfl going.state⟩
  stops inv := inv.1
  tries inv := ⟨fun _ _ => trivial, inv⟩
  persists := by
    rintro x rows step record todo anyFailed l inv i rfl
    have marked := inv.2.1.mark .done
    have within := not_endsRollback_of_state (x := x) (i := (l.marked step.name .done).encoded.inst)
      .compensating inv.1.2 (by decide)
    exact ⟨commits_within within ⟨inv.1, marked⟩, ⟨inv.1, marked⟩,
      fun _ _ _ => ⟨inv.1, marked⟩⟩

end Moves

/-- What is safe for a step that is done: step rows are written under the stored lease, no activity
of it is run, and a rollback that ends has come to it. -/
def SafeForRows (d : Definition) (s : Store) (x : View) : Op → Prop
  | .saveStep _ => ∃ h, x.held = some h ∧ h.leaseEpoch = s.inst.leaseEpoch
  | .execute _ input => doneIn s.steps input.step = false
  | .saveInstance i => EndsRollback x i → MarksAll d s.steps i.context
  | _ => True

theorem KnowsRows.safe {d : Definition} {s : Store} {x : View} {o : Op} (fit : KnowsRows s x)
    (allowed : respectsRows d x o) : SafeForRows d s x o := by
  cases o with
  | saveStep => exact (fit allowed).1
  | execute =>
    unfold SafeForRows
    rw [← (fit allowed.1).2]
    exact allowed.2
  | saveInstance =>
    intro ends
    rw [← (fit ends.leased).2]
    exact allowed ends
  | _ => trivial

/-- Under `leasesInTurn` step rows are only written under the stored lease, no step that is done is
run again, and every rollback that ends has come to each such step. -/
theorem done_steps_stand {ι : Type} [DecidableEq ι] (e : Engine) (d : Definition) (c : EngineConfig ι)
    (h : (e.runs d ι).ReachableUnder (besides View.observe View.fresh leasesInTurn) c) (i : ι) (o : Op)
    (about : nextOp c i = some o) : SafeForRows d c.world.state (viewOf c i) o := by
  have named : d.Named := (known_always h.reachable).named
  have fits := (rows_heeds e named).fits (fun _ => trivial) (rows_beside e d) h
  obtain ⟨r, next, mine⟩ := own_of_nextOp about
  obtain ⟨fit, allowed⟩ := fits.next mine
  exact fit.safe allowed

instance (s : Store) (x y : View) (o : Op) (k : Choice) : Decidable (leasesInTurn s x y o k) :=
  match o with
  | .leaseRunnable _ _ => inferInstanceAs (Decidable (s.inst.due k.clock = true → y.leased = false))
  | .now | .stopping | .backoff _ _ | .pause _ | .getInstance | .saveInstance _
  | .heartbeat _ _ _ | .saveStep _ | .listSteps | .pushDLQ _ _ | .execute _ _ | .compensate _ _ =>
    isTrue trivial

open Sample (saga engine well start first second lateReply)

/-- A worker crashes in the first step, and another takes the instance over and is about to run it. -/
def takenOverRun : List (Fin 2 × Act Request Choice) :=
  Sample.call first (.poll "wrk_1")
    (List.replicate 7 well) ++ (first, .crash) ::
    Sample.call second (.poll "wrk_2") (List.replicate 6 { well with clock := 1000 })

theorem done_steps_stand_taken_over :
    ∃ o, nextOp ((engine.runs saga.definition (Fin 2)).run (start 2)
      takenOverRun) 1 = some o ∧ SafeForRows saga.definition
        ((engine.runs saga.definition (Fin 2)).run (start 2)
          takenOverRun).world.state
        (viewOf ((engine.runs saga.definition (Fin 2)).run (start 2)
          takenOverRun) 1) o := by
  have meets : (engine.runs saga.definition (Fin 2)).Meets
      (besides View.observe View.fresh leasesInTurn) (start 2) takenOverRun := by
    decide +kernel
  have busy : (nextOp ((engine.runs saga.definition (Fin 2)).run (start 2)
      takenOverRun) 1).isSome = true := by
    decide +kernel
  obtain ⟨o, about⟩ := Option.isSome_iff_exists.mp busy
  exact ⟨o, about, done_steps_stand engine saga.definition _
    (System.reachableUnder_run (.init (Sample.init 2)) takenOverRun meets) 1 o about⟩

/-- A worker is overtaken while its activity runs, the other one finishes the step, and the activity
of the first one runs into its deadline. -/
def lateRun : List (Fin 2 × Act Request Choice) :=
  Sample.call first (.poll "wrk_1") (List.replicate 6 well) ++
    Sample.call second (.poll "wrk_2")
      (List.replicate 11 { well with clock := 1000 }) ++
    [(first, .proceed lateReply)]

/-- The worker with the older lease writes its failure over the record of the finished step. -/
theorem done_step_overwritten :
    ∃ (c : EngineConfig (Fin 2)) (k : Choice),
      (engine.runs saga.definition (Fin 2)).Reachable c ∧
      ((viewOf c 0).held.any fun h => h.leaseEpoch < c.world.state.inst.leaseEpoch) = true ∧
      doneIn c.world.state.steps "account" = true ∧
      doneIn ((engine.runs saga.definition (Fin 2)).step c
        (0, .proceed k)).world.state.steps "account" = false :=
  ⟨_, well, System.reachable_run (.init (Sample.init 2)) lateRun, by decide +kernel,
    by decide +kernel, by decide +kernel⟩

end PaymentsPlatform.Workflows
