/- layer: abstract model of a call of the engine, refined by Workflows/Engine
   digest: The stages a call goes through, what it may write from each of them, and where that
     leads. -/

import PaymentsPlatform.Workflows.Engine

namespace PaymentsPlatform.Workflows

open Lib.Operations

/-- Where a call is between two operations, with what it holds in memory. -/
inductive Stage where
  | arrived (r : Request)
  /-- The instance has been read without a lease. -/
  | holding (r : Request) (i : Instance)
  /-- The lease was granted. -/
  | leased (i : Instance)
  /-- At the head of the loop. -/
  | ready (l : Local)
  /-- The rows of the steps have been read. -/
  | surveyed (rows : List StepRecord) (l : Local)
  /-- The current step is about to be run, or its gate to be looked at. -/
  | fresh (step : Step) (l : Local)
  /-- The row of the attempt says RUNNING. -/
  | running (step : Step) (row : StepRecord) (l : Local)
  /-- The activity has ended. -/
  | executed (step : Step) (row : StepRecord) (x : Execution) (l : Local)
  /-- The row of the attempt says how it failed. -/
  | recorded (step : Step) (row : StepRecord) (failure : FailureRecord) (l : Local)
  /-- The row says that a retry is scheduled. -/
  | scheduled (step : Step) (attempt : Nat) (l : Local)
  /-- The row says that the step is in the dead letters. -/
  | condemned (failure : FailureRecord) (l : Local)
  /-- The row of the step says SUCCEEDED. -/
  | succeeded (step : Step) (l : Local)
  /-- The saga is to unwind. -/
  | aborting (cause : AbortCause) (failure : FailureRecord) (l : Local)
  /-- The compensation walk goes by `rows`, with `todo` ahead of it. -/
  | walking (rows : List StepRecord) (todo : List Step) (anyFailed : Bool) (l : Local)
  /-- The worker is being shut down during the walk. -/
  | interrupted (l : Local)
  /-- A compensation is being run. -/
  | undoing (rows : List StepRecord) (step : Step) (record : StepRecord) (todo : List Step)
      (anyFailed : Bool) (l : Local)
  /-- A compensation has succeeded. -/
  | undone (rows : List StepRecord) (step : Step) (record : StepRecord) (todo : List Step)
      (anyFailed : Bool) (l : Local)
  /-- COMPENSATED has been stored. -/
  | rolledBack (l : Local)
  | ended
  /-- The call returns nil. -/
  | answered (r : Request)

def Stage.undoneOr (rows : List StepRecord) (step : Step) (record : StepRecord) (todo : List Step)
    (anyFailed : Bool) (l : Local) : Option StepError → Stage
  | none => .undone rows step record todo anyFailed l
  | some _ => .undoing rows step record todo anyFailed l

def Local.forward (l : Local) : Prop :=
  ¬ (l.inst.state.isFinal = true ∨ l.inst.state = .poisoned) ∧ l.inst.state ≠ .compensating

/-- The states from which the forward part is not taken up again without a requeue. -/
def InstanceState.given : InstanceState → Bool
  | .compensating | .compensated | .canceled | .failed | .poisoned => true
  | _ => false

theorem Local.forward.not_given {l : Local} (forward : l.forward) : l.inst.state.given = false := by
  have final := forward.1
  have unwinding := forward.2
  cases sort : l.inst.state <;> simp_all [InstanceState.given, InstanceState.isFinal]

def doneIn (rows : List StepRecord) (name : String) : Bool :=
  rows.any fun s => s.name == name && s.state.isComplete

structure AtStep (d : Definition) (l : Local) (step : Step) : Prop where
  forward : l.forward
  live : l.cctx.cancelRequested = false
  named : l.inst.currentStep ≠ ""
  found : d.stepByName l.inst.currentStep = some step

def Skipped (rows : List StepRecord) (l : Local) (step : Step) : Prop :=
  step.compensation = "" ∨ latest rows step.name = none ∨
    ∃ record, latest rows step.name = some record ∧
      (record.state.needsCompensation = false ∨
        l.cctx.bookkeeping.compensations step.name = some .done)

structure Due (rows : List StepRecord) (l : Local) (step : Step) (record : StepRecord) : Prop where
  declared : step.compensation ≠ ""
  found : latest rows step.name = some record
  needed : record.state.needsCompensation = true
  unmarked : l.cctx.bookkeeping.compensations step.name ≠ some .done

/-! The moves.  Each relation has one constructor for each place of the source where such an
operation is made. -/

inductive Saving (e : Engine) (d : Definition) : Stage → Instance → Stage → Prop
  | signals {name payload i} (absent : i.context.signals name = none)
      (live : i.state.isFinal = false) (received t : Time) :
      Saving e d (.holding (.signal name payload) i)
        (i.signalled name (payload.record received) t) (.answered (.signal name payload))
  | cancels {reason i} (absent : i.context.cancelRequested = false)
      (live : i.state.isFinal = false) (requestedAt t : Time) :
      Saving e d (.holding (.cancel reason) i)
        (i.cancelling
          { requested := true, reason := reason, actor := e.tenant, requestedAt := requestedAt } t)
        (.answered (.cancel reason))
  | pulls {worker i} (live : i.state.isFinal = false) (t : Time) :
      Saving e d (.holding (.resume worker) i) (i.pulled t) (.arrived (.poll worker))
  | requeues {step reset reason i} (known : d.stepIndex (requeueTarget step i) ≠ none) (t : Time) :
      Saving e d (.holding (.requeue step reset reason) i)
        (i.requeued (requeueTarget step i) reset t) (.answered (.requeue step reset reason))
  | handsBack {i} : Saving e d (.leased i) i.released .ended
  | quarantines {i} (exceeded : e.poisonThreshold < (Local.counted i).cctx.bookkeeping.crashCount) :
      Saving e d (.leased i) (Local.counted i).quarantined.encoded.inst .ended
  | counts {i} (within : ¬ e.poisonThreshold < (Local.counted i).cctx.bookkeeping.crashCount) :
      Saving e d (.leased i) (Local.counted i).encoded.inst (.ready (Local.counted i).encoded)
  | releases {l} : Saving e d (.ready l) l.inst.released .ended
  | completes {l} (forward : l.forward) (past : l.inst.currentStep = "") (t : Time) :
      Saving e d (.ready l) (l.completed t).encoded.inst .ended
  | misses {l} (forward : l.forward) (missing : d.stepByName l.inst.currentStep = none) (t : Time) :
      Saving e d (.ready l) (l.failedWith (unknownStep d l) t).encoded.inst .ended
  | advances {rows l step} (current : AtStep d l step) (done : doneIn rows step.name = true)
      (more : d.nextStep step.name ≠ "") :
      Saving e d (.surveyed rows l)
        (l.withInst (·.movedTo (d.nextStep step.name) .running)).encoded.inst
        (.ready (l.withInst (·.movedTo (d.nextStep step.name) .running)).encoded)
  | concludes {rows l step} (current : AtStep d l step) (done : doneIn rows step.name = true)
      (last : d.nextStep step.name = "") (t : Time) :
      Saving e d (.surveyed rows l)
        ((l.withInst (·.movedTo "" l.inst.state)).completed t).encoded.inst
        (.ready ((l.withInst (·.movedTo "" l.inst.state)).completed t).encoded)
  | consumes {step l sig} (gate : step.manualGate = true)
      (delivered : l.cctx.signals step.signal = some sig) (applied : step.activity ≠ "") (t : Time) :
      Saving e d (.fresh step l)
        (l.consuming step.signal (sig.consumed t)).entering.encoded.inst
        (.fresh step (l.consuming step.signal (sig.consumed t)).entering.encoded)
  | waits {step l} (waiting : l.cctx.bookkeeping.waitingFor = step.signal) :
      Saving e d (.fresh step l) l.waiting.encoded.inst .ended
  | opens {step l} (t : Time) :
      Saving e d (.fresh step l) (l.opening step.signal t).encoded.inst .ended
  | expires {step l} (reason : String) (t : Time) :
      Saving e d (.fresh step l) (l.parkedFor reason t).encoded.inst .ended
  | commits {step l} (runAfter t : Time) :
      Saving e d (.succeeded step l) (l.committed (d.nextStep step.name) runAfter t).inst
        (.ready (l.committed (d.nextStep step.name) runAfter t))
  | parks {step row failure l}
      (needed : failure.failureClass = .manual ∨
        failure.failureClass = .ambiguous ∧ ¬ (row.attempt : Int) < step.retry.maxAttempts)
      (reason : String) (t : Time) :
      Saving e d (.recorded step row failure l) (l.parkedFor reason t).encoded.inst .ended
  | backsOff {step attempt l} (t : Time) :
      Saving e d (.scheduled step attempt l) (l.backingOff attempt t).encoded.inst .ended
  | dies {failure l} (t : Time) :
      Saving e d (.condemned failure l) (l.failedWith failure t).encoded.inst .ended
  | aborts {cause failure l} (t : Time) :
      Saving e d (.aborting cause failure l) (l.aborting cause failure t).encoded.inst
        (.ready (l.aborting cause failure t).encoded)
  | refuses {cause failure l} (refusal : FailureRecord) (reason : String) (t : Time) :
      Saving e d (.aborting cause failure l)
        ((l.withMeta
          ({ · with abortCause := some cause, failure := some refusal })).parkedFor reason t).encoded.inst
        .ended
  | interrupts {l} : Saving e d (.interrupted l) l.inst.released .ended
  | settles {rows l} (cause : l.cctx.bookkeeping.abortCause = some .cancel) :
      Saving e d (.walking rows [] false l)
        (l.settling.withInst ({ · with state := .compensated })).encoded.inst
        (.rolledBack (l.settling.withInst ({ · with state := .compensated })).encoded)
  | cancelsOut {l} (t : Time) :
      Saving e d (.rolledBack l) (l.canceledAt t).encoded.inst .ended
  | failsOut {rows anyFailed l} (t : Time) :
      Saving e d (.walking rows [] anyFailed l) (l.abortedAt anyFailed t).encoded.inst .ended

inductive Writing (e : Engine) (d : Definition) : Stage → StepRecord → Stage → Prop
  | passes {step l sig out} (gate : step.manualGate = true)
      (delivered : l.cctx.signals step.signal = some sig) (plain : step.activity = "")
      (seq : Nat) (t : Time) :
      Writing e d (.fresh step l)
        (gateRow step seq (sig.consumed t) out t (l.consuming step.signal (sig.consumed t)).inst)
        (.succeeded step ((l.consuming step.signal (sig.consumed t)).passing step.name out))
  | unknown {step l} (seq : Nat) (failure : FailureRecord) :
      Writing e d (.fresh step l) (deadRow step seq failure l.inst) (.condemned failure l)
  | begins {step l} (applied : step.manualGate = true → step.activity ≠ "")
      (known : step.activity ∈ e.acts) (seq : Nat) (t : Time) :
      Writing e d (.fresh step l) (runningRow step seq t l.inst)
        (.running step (runningRow step seq t l.inst) (l.withInst ({ · with state := .running })))
  | succeeds {step row x l out} (given : x.result e step l.inst.id false = .ok out) (t : Time) :
      Writing e d (.executed step row x l)
        { row with state := .succeeded, output := out, completedAt := some t }
        (.succeeded step (l.succeeding step.name out))
  | fails {step row x l err failure failed} (given : x.result e step l.inst.id false = .error err)
      (other : err.isSentinel errLeaseLost = false)
      (classified : failure = newFailureRecord step.name row.attempt
        (classifyStep err step.sideEffecting) err)
      (written : failed =
        { row with
          state := failedState err (classifyStep err step.sideEffecting)
          error := summarize failure.chain }) :
      Writing e d (.executed step row x l) failed (.recorded step failed failure (l.recording failure))
  | retriesAmbiguous {step row failure l} (sort : failure.failureClass = .ambiguous)
      (room : (row.attempt : Int) < step.retry.maxAttempts) :
      Writing e d (.recorded step row failure l) { row with state := .retryScheduled }
        (.scheduled step row.attempt (l.withMeta ({ · with lookupFirst := true })))
  | retriesTransient {step row failure l} (sort : failure.failureClass = .transient)
      (room : (row.attempt : Int) < step.retry.maxAttempts) :
      Writing e d (.recorded step row failure l) { row with state := .retryScheduled }
        (.scheduled step row.attempt l)
  | condemns {step row failure l} (sort : failure.failureClass = .terminalTechnical) (seq : Nat) :
      Writing e d (.recorded step row failure l) (deadRow step seq failure l.inst)
        (.condemned failure l)
  | drains {step row failure l} (sort : failure.failureClass = .transient) :
      Writing e d (.recorded step row failure l) { row with state := .dlq }
        (.aborting .failure failure l)

inductive Noting (e : Engine) : Stage → StepRecord → Stage → Prop
  | abandons {step row x l err} (given : x.result e step l.inst.id false = .error err)
      (lost : err.isSentinel errLeaseLost = true) :
      Noting e (.executed step row x l) { row with state := .leaseLost } .ended
  | marks {rows step todo anyFailed l record} (due : Due rows l step record)
      (known : step.compensation ∈ e.acts) :
      Noting e (.walking rows (step :: todo) anyFailed l) { record with state := .compensating }
        (.undoing rows step record todo anyFailed l)
  | lacks {rows step todo anyFailed l record} (due : Due rows l step record)
      (unknown : step.compensation ∉ e.acts) (error : String) :
      Noting e (.walking rows (step :: todo) anyFailed l)
        { record with state := .compensationFailed, error := error }
        (.walking rows todo true (l.marked step.name .failed))
  | givesUp {rows step record todo anyFailed l} (error : String) :
      Noting e (.undoing rows step record todo anyFailed l)
        { record with state := .compensationFailed, error := error }
        (.walking rows todo true (l.marked step.name .failed))
  | records {rows step record todo anyFailed l} (t : Time) :
      Noting e (.undone rows step record todo anyFailed l)
        { record with state := .compensated, compensatedAt := some t }
        (.undone rows step record todo anyFailed l)

inductive Turning (d : Definition) : Stage → Stage → Prop
  | refused {r} : Turning d (.arrived r) .ended
  | returned {r i} : Turning d (.holding r i) .ended
  | known {name payload i} (present : (i.context.signals name).isSome = true) :
      Turning d (.holding (.signal name payload) i) (.answered (.signal name payload))
  | requested {reason i} (present : i.context.cancelRequested = true) :
      Turning d (.holding (.cancel reason) i) (.answered (.cancel reason))
  | polls {worker i} : Turning d (.holding (.resume worker) i) (.arrived (.poll worker))
  | worked {worker} : Turning d .ended (.answered (.poll worker))
  | resumed {worker} : Turning d .ended (.answered (.resume worker))
  | swept {worker} : Turning d .ended (.answered (.resumeOther worker))
  | rests {l} : Turning d (.ready l) .ended
  | cancels {l} (forward : l.forward) (asked : l.cctx.cancelRequested = true) :
      Turning d (.ready l) (.aborting .cancel (cancelFailure l) l)
  | enters {rows l step} (current : AtStep d l step) (open_ : doneIn rows step.name = false) :
      Turning d (.surveyed rows l) (.fresh step l)
  | stuck {step l} : Turning d (.fresh step l) .ended
  | declines {step row failure l} (sort : failure.failureClass = .terminalBusiness) :
      Turning d (.recorded step row failure l) (.aborting .failure failure l)
  | walks {rows l} (unwinding : l.inst.state = .compensating) :
      Turning d (.surveyed rows l)
        (.walking rows (d.steps.drop (compensationFloor d rows)).reverse false l)
  | skips {rows step todo anyFailed l} (out : Skipped rows l step) :
      Turning d (.walking rows (step :: todo) anyFailed l) (.walking rows todo anyFailed l)

inductive Listing : Stage → List StepRecord → Stage → Prop
  | surveys {rows l} : Listing (.ready l) rows (.surveyed rows l)
  | looks {rows cause failure l} :
      Listing (.aborting cause failure l) rows (.aborting cause failure l)

inductive Leasing : Stage → String → Prop
  | poll {worker} : Leasing (.arrived (.poll worker)) worker
  | other {worker} : Leasing (.arrived (.resumeOther worker)) worker

theorem failedState_ne (err : StepError) (c : FailureClass) : failedState err c ≠ .succeeded := by
  unfold failedState
  split
  · decide
  · split <;> decide

def Stage.held : Stage → Option Instance
  | .arrived _ | .ended | .answered _ => none
  | .holding _ i | .leased i => some i
  | .ready l | .surveyed _ l | .fresh _ l | .running _ _ l | .executed _ _ _ l
  | .recorded _ _ _ l | .scheduled _ _ l | .condemned _ l | .succeeded _ l | .aborting _ _ l
  | .walking _ _ _ l | .interrupted l | .undoing _ _ _ _ _ l | .undone _ _ _ _ _ l
  | .rolledBack l => some l.inst

def Instance.origin (i : Instance) : Nat × String × Int := (i.leaseEpoch, i.definition, i.version)

def Stage.origin (stage : Stage) : Option (Nat × String × Int) := stage.held.map Instance.origin

theorem Local.origin_encoded (l : Local) : l.encoded.inst.origin = l.inst.origin := rfl

theorem Local.origin_committed (l : Local) (next : String) (runAfter t : Time) :
    (l.committed next runAfter t).inst.origin = l.inst.origin := by
  unfold Local.committed Local.withInst Local.encoded
  split <;> rfl

theorem Local.committed_currentStep (l : Local) (next : String) (runAfter t : Time) :
    (l.committed next runAfter t).inst.currentStep = next := by
  unfold Local.committed Local.withInst Local.encoded
  split
  · next last => exact last.symm
  · rfl

theorem Local.committed_state (l : Local) (next : String) (runAfter t : Time) :
    (l.committed next runAfter t).inst.state = if next = "" then .completed else .running := by
  unfold Local.committed Local.withInst Local.encoded
  split <;> rfl

theorem Local.committed_context (l : Local) (next : String) (runAfter t : Time) :
    (l.committed next runAfter t).inst.context = l.cctx := by
  unfold Local.committed Local.withInst Local.encoded
  split <;> rfl

theorem Local.committed_cctx (l : Local) (next : String) (runAfter t : Time) :
    (l.committed next runAfter t).cctx = l.cctx := rfl

variable {stage next : Stage} {d : Definition} {e : Engine} {i : Instance}

theorem Saving.origin
    (move : Saving e d stage i next) :
    stage.origin = some i.origin ∧ (next.origin = none ∨ next.origin = some i.origin) := by
  cases move with
  | commits =>
    exact ⟨congrArg some (Local.origin_committed _ _ _ _).symm, .inr rfl⟩
  | _ => first | exact ⟨rfl, .inl rfl⟩ | exact ⟨rfl, .inr rfl⟩

theorem Writing.origin {row : StepRecord}
    (move : Writing e d stage row next) : next.origin = stage.origin := by
  cases move <;> rfl

theorem Noting.origin {row : StepRecord}
    (move : Noting e stage row next) : next.origin = none ∨ next.origin = stage.origin := by
  cases move <;> first | exact .inl rfl | exact .inr rfl

theorem Turning.origin (move : Turning d stage next) :
    next.origin = none ∨ next.origin = stage.origin := by
  cases move <;> first | exact .inl rfl | exact .inr rfl

theorem Listing.origin {rows : List StepRecord}
    (move : Listing stage rows next) : next.origin = stage.origin := by
  cases move <;> rfl

def KnownAs (e : Engine) (d : Definition) (origin : Nat × String × Int) : Prop :=
  (e.defs.lookup origin.2.1 origin.2.2).map (·.definition) = some d

def Known (e : Engine) (d : Definition) (i : Instance) : Prop := KnownAs e d i.origin

theorem Known.lookup (known : Known e d i) :
    ∃ registered, e.defs.lookup i.definition i.version = some registered ∧
      registered.definition = d :=
  Option.map_eq_some_iff.mp known

theorem Known.named (known : Known e d i) : d.Named := by
  obtain ⟨registered, _, rfl⟩ := known.lookup
  exact registered.named

/-- The operations that only read the clock and the context, or wait. -/
def Op.quiet : Op → Prop
  | .now | .stopping | .backoff _ _ | .pause _ => True
  | _ => False

section Rules

variable {σ : Type} (S : Semantics Op Ans σ) (Inv : σ → Stage → Prop)

/-- The instance may be written, and what holds after that; a failed write ends the call. -/
def Saves (s : σ) (i : Instance) (next : Stage) : Prop :=
  S.demands s (.saveInstance i) ∧ ∀ a s', S.moves s (.saveInstance i) a s' →
    Settled (fun s _ => Inv s next) (fun s err => isLeaseLost err = false ∧ Inv s .ended) s' a

/-- A step row may be written; a failed write ends the call. -/
def Writes (s : σ) (row : StepRecord) (next : Stage) : Prop :=
  S.demands s (.saveStep row) ∧ ∀ a s', S.moves s (.saveStep row) a s' →
    Settled (fun s _ => Inv s next) (fun s err => isLeaseLost err = false ∧ Inv s .ended) s' a

/-- An operation may be performed, and the call goes on whatever the answer is. -/
def Notes (s : σ) (o : Op) (next : Stage) : Prop :=
  S.demands s o ∧ ∀ a s', S.moves s o a s' → Inv s' next

/-- What is to be shown of each operation, for an assertion about every stage. -/
structure Rules (e : Engine) (d : Definition) : Prop where
  quiet : ∀ {s stage o}, Inv s stage → o.quiet → Notes S Inv s o stage
  pushes : ∀ {s stage}, Inv s stage → ∀ step failure, S.demands s (.pushDLQ step failure) ∧
    ∀ a s', S.moves s (.pushDLQ step failure) a s' → Inv s' stage ∧
      Settled (fun _ _ => True) (fun s (_ : GoError) => Inv s .ended) s' a
  gets : ∀ {s r}, Inv s (.arrived r) → S.demands s .getInstance ∧
    ∀ a s', S.moves s .getInstance a s' →
      Settled (fun s i => Known e d i ∧ Inv s (.holding r i))
        (fun s (_ : GoError) => Inv s .ended) s' a
  leases : ∀ {s stage worker}, Inv s stage → Leasing stage worker →
    S.demands s (.leaseRunnable worker e.lease) ∧
    ∀ a s', S.moves s (.leaseRunnable worker e.lease) a s' →
      Settled (fun s found => Inv s .ended ∧ ∀ i, found = some i → Known e d i ∧ Inv s (.leased i))
        (fun s (_ : GoError) => Inv s .ended) s' a
  lists : ∀ {s stage}, Inv s stage → S.demands s .listSteps ∧
    ∀ a s', S.moves s .listSteps a s' →
      Settled (fun s rows => ∀ next, Listing stage rows next → Inv s next)
        (fun s (_ : GoError) => Inv s .ended) s' a
  turns : ∀ {s stage next}, Inv s stage → Turning d stage next → Inv s next
  saves : ∀ {s stage i next}, Inv s stage → Saving e d stage i next → Saves S Inv s i next
  writes : ∀ {s stage row next}, Inv s stage → Writing e d stage row next → Writes S Inv s row next
  notes : ∀ {s stage row next}, Inv s stage → Noting e stage row next →
    Notes S Inv s (.saveStep row) next
  executes : ∀ {s step row l}, Inv s (.running step row l) → ∀ sig,
    S.demands s (.execute step.activity (stepInput e step sig l)) ∧
    ∀ x s', S.moves s (.execute step.activity (stepInput e step sig l)) x s' →
      Inv s' (.executed step row x l)
  beats : ∀ {s step row x l}, Inv s (.executed step row x l) → ∀ worker,
    S.demands s (.heartbeat worker l.inst.leaseEpoch e.lease) ∧
    ∀ a s', S.moves s (.heartbeat worker l.inst.leaseEpoch e.lease) a s' →
      Inv s' (.executed step row x l) ∧
      Settled (fun _ _ => True) (fun _ err => isLeaseLost err = false) s' a
  checkpoints : ∀ {s step row x l}, Inv s (.executed step row x l) → ∀ key value,
    S.demands s (.saveInstance
      { l with cctx := l.cctx.putProgress step.name key value }.encoded.inst) ∧
    ∀ a s', S.moves s (.saveInstance
        { l with cctx := l.cctx.putProgress step.name key value }.encoded.inst) a s' →
      Settled
        (fun s _ => Inv s
          (.executed step row x { l with cctx := l.cctx.putProgress step.name key value }.encoded))
        (fun s (_ : GoError) => Inv s
          (.executed step row x { l with cctx := l.cctx.putProgress step.name key value })) s' a
  stops : ∀ {s s' rows todo anyFailed l reason}, Inv s (.walking rows todo anyFailed l) →
    S.moves s .stopping (some reason) s' → Inv s' (.interrupted l)
  tries : ∀ {s rows step record todo anyFailed l}, Inv s (.undoing rows step record todo anyFailed l) →
    ∀ input : Input, input.step = step.name →
      S.demands s (.compensate step.compensation input) ∧
      ∀ a s', S.moves s (.compensate step.compensation input) a s' →
        Inv s' (.undoneOr rows step record todo anyFailed l a)
  persists : ∀ {s rows step record todo anyFailed l},
    Inv s (.undone rows step record todo anyFailed l) →
    Notes S Inv s (.saveInstance (l.marked step.name .done).encoded.inst)
      (.walking rows todo anyFailed (l.marked step.name .done).encoded)

end Rules

/-! The rows of the steps under a write. -/

variable {rows : List StepRecord} {name : String}

theorem doneIn_iff :
    doneIn rows name = true ↔ ∃ row ∈ rows, row.name = name ∧ row.state = .succeeded := by
  simp only [doneIn, List.any_eq_true, Bool.and_eq_true, beq_iff_eq, StepState.isComplete]

variable {row : StepRecord}

theorem mem_putRow {other : StepRecord} (mem : other ∈ putRow rows row) :
    other = row ∨ other ∈ rows := by
  unfold putRow at mem
  split at mem
  · obtain ⟨r, there, rfl⟩ := List.mem_map.mp mem
    split
    · exact .inl rfl
    · exact .inr there
  · rcases List.mem_append.mp mem with there | last
    · exact .inr there
    · exact .inl (List.mem_singleton.mp last)

theorem mem_putRow_self (rows : List StepRecord) (row : StepRecord) : row ∈ putRow rows row := by
  unfold putRow
  split
  · next found =>
      obtain ⟨r, there, same⟩ := List.any_eq_true.mp found
      exact List.mem_map.mpr ⟨r, there, if_pos same⟩
  · exact List.mem_append_right _ (List.mem_singleton_self row)

theorem mem_putRow_of_mem {other : StepRecord} (mem : other ∈ rows)
    (apart : other.name ≠ row.name) : other ∈ putRow rows row := by
  unfold putRow
  split
  · refine List.mem_map.mpr ⟨other, mem, if_neg ?_⟩
    simp only [StepRecord.sameKey, Bool.and_eq_true, beq_iff_eq]
    exact fun same => apart same.1.symm
  · exact List.mem_append_left _ mem

theorem doneIn_putRow_of_ne
    (apart : name ≠ row.name) : doneIn (putRow rows row) name = doneIn rows name := by
  rw [Bool.eq_iff_iff, doneIn_iff, doneIn_iff]
  constructor
  · rintro ⟨r, mem, rfl, done⟩
    exact ⟨r, (mem_putRow mem).resolve_left fun same => apart (congrArg _ same), rfl, done⟩
  · rintro ⟨r, mem, rfl, done⟩
    exact ⟨r, mem_putRow_of_mem mem apart, rfl, done⟩

theorem doneIn_putRow_self (done : row.state = .succeeded) :
    doneIn (putRow rows row) row.name = true :=
  doneIn_iff.mpr ⟨row, mem_putRow_self rows row, rfl, done⟩

theorem doneIn_of_putRow
    (other : row.state ≠ .succeeded) (done : doneIn (putRow rows row) name = true) :
    doneIn rows name = true := by
  obtain ⟨r, mem, named, finished⟩ := doneIn_iff.mp done
  refine doneIn_iff.mpr ⟨r, (mem_putRow mem).resolve_left ?_, named, finished⟩
  rintro rfl
  exact other finished

theorem doneIn_listed (rows : List StepRecord) (name : String) :
    doneIn (listed rows) name = doneIn rows name := by
  rw [Bool.eq_iff_iff, doneIn_iff, doneIn_iff]
  simp only [listed, List.mem_insertionSort]

/-! The record of a step that the walk goes by. -/

/-- The map of `latest` says that the step is done. -/
def CompleteAt (m : String → Option StepRecord) (name : String) : Prop :=
  ∃ record, m name = some record ∧ record.state = .succeeded

theorem completeAt_step (m : String → Option StepRecord) (row : StepRecord) (name : String) :
    CompleteAt (if (m row.name).any fun prev =>
        !row.state.isComplete && (prev.state.isComplete || decide (row.attempt < prev.attempt))
      then m else Function.update m row.name (some row)) name ↔
    CompleteAt m name ∨ row.name = name ∧ row.state = .succeeded := by
  split
  · next kept =>
      obtain ⟨prev, _, older⟩ := (Option.any_eq_true _ _).mp kept
      refine ⟨.inl, fun either => either.resolve_right fun done => ?_⟩
      rw [done.2] at older
      exact Bool.false_ne_true older
  · next taken =>
      by_cases here : name = row.name
      · subst here
        constructor
        · rintro ⟨record, found, done⟩
          rw [Function.update_self] at found
          obtain rfl := Option.some.inj found
          exact .inr ⟨rfl, done⟩
        · rintro (⟨record, found, done⟩ | ⟨_, done⟩)
          · refine ⟨row, Function.update_self _ _ _, ?_⟩
            by_contra other
            refine taken ((Option.any_eq_true _ _).mpr ⟨record, found, ?_⟩)
            simp only [StepState.isComplete, done, beq_self_eq_true, Bool.true_or, Bool.and_true,
              Bool.not_eq_true', beq_eq_false_iff_ne, ne_eq]
            exact other
          · exact ⟨row, Function.update_self _ _ _, done⟩
      · have same : Function.update m row.name (some row) name = m name := Function.update_of_ne here _ _
        unfold CompleteAt
        rw [same]
        exact ⟨.inl, fun either => either.resolve_right fun done => here done.1.symm⟩

theorem completeAt_latest (rows : List StepRecord) (name : String) :
    CompleteAt (latest rows) name ↔ doneIn rows name = true := by
  have fold : ∀ (rows : List StepRecord) (m : String → Option StepRecord),
      CompleteAt (rows.foldl (fun m s =>
        let kept := (m s.name).any fun prev =>
          !s.state.isComplete && (prev.state.isComplete || decide (s.attempt < prev.attempt))
        if kept then m else Function.update m s.name (some s)) m) name ↔
      CompleteAt m name ∨ doneIn rows name = true := by
    intro rows
    induction rows with
    | nil => exact fun m => ⟨.inl, fun either => either.resolve_right Bool.false_ne_true⟩
    | cons row rows ih =>
      intro m
      rw [List.foldl_cons, ih, completeAt_step, or_assoc, doneIn_iff, doneIn_iff]
      refine or_congr_right ?_
      simp only [List.mem_cons, exists_eq_or_imp]
  rw [latest, fold]
  exact ⟨fun either => either.resolve_left fun ⟨_, found, _⟩ => absurd found.symm (Option.some_ne_none _),
    .inr⟩

theorem Skipped.of_done {l : Local} {step : Step} (out : Skipped rows l step)
    (done : doneIn rows step.name = true) :
    step.compensation = "" ∨ l.cctx.bookkeeping.compensations step.name = some .done := by
  obtain ⟨record, found, complete⟩ := (completeAt_latest rows step.name).mpr done
  rcases out with plain | missing | ⟨other, found', unneeded | marked⟩
  · exact .inl plain
  · exact absurd (found.symm.trans missing) (Option.some_ne_none _)
  · obtain rfl := Option.some.inj (found.symm.trans found')
    rw [complete] at unneeded
    exact absurd unneeded Bool.true_eq_false_eq_False
  · exact .inr marked

theorem name_of_latest {record : StepRecord}
    (found : latest rows name = some record) : record.name = name := by
  have fold : ∀ (rows : List StepRecord) (m : String → Option StepRecord),
      (∀ n r, m n = some r → r.name = n) → ∀ n r, rows.foldl (fun m s =>
        let kept := (m s.name).any fun prev =>
          !s.state.isComplete && (prev.state.isComplete || decide (s.attempt < prev.attempt))
        if kept then m else Function.update m s.name (some s)) m n = some r → r.name = n := by
    intro rows
    induction rows with
    | nil => exact fun m named => named
    | cons row rows ih =>
      intro m named
      refine ih _ fun n r given => ?_
      dsimp only at given
      split at given
      · exact named n r given
      · by_cases here : n = row.name
        · subst here
          rw [Function.update_self] at given
          exact congrArg StepRecord.name (Option.some.inj given).symm
        · rw [Function.update_of_ne here] at given
          exact named n r given
  exact fold rows _ (fun _ _ none => absurd none.symm (Option.some_ne_none _)) name record found

theorem compensationFloor_eq (d : Definition) (rows : List StepRecord) :
    compensationFloor d rows =
      match d.pivotIndex .retained with
      | none => 0
      | some ret => if (d.steps[ret]?).any fun step => doneIn rows step.name then ret + 1 else 0 := by
  unfold compensationFloor
  cases d.pivotIndex .retained with
  | none => rfl
  | some ret =>
    dsimp only
    cases d.steps[ret]? with
    | none => rfl
    | some step =>
      dsimp only [Option.bind_some, Option.any_some]
      by_cases done : doneIn rows step.name = true
      · obtain ⟨record, found, complete⟩ := (completeAt_latest rows step.name).mpr done
        rw [if_pos done, found]
        dsimp only
        rw [complete]
        rfl
      · rw [if_neg done]
        cases found : latest rows step.name with
        | none => rfl
        | some record =>
          refine if_neg fun complete => done ?_
          exact (completeAt_latest rows step.name).mp ⟨record, found, beq_iff_eq.mp complete⟩

theorem compensationFloor_le {d : Definition} {rows' : List StepRecord}
    (pivot : ∀ ret step, d.pivotIndex .retained = some ret → d.steps[ret]? = some step →
      doneIn rows step.name = true → doneIn rows' step.name = true) :
    compensationFloor d rows ≤ compensationFloor d rows' := by
  rw [compensationFloor_eq, compensationFloor_eq]
  cases at_ : d.pivotIndex .retained with
  | none => exact le_rfl
  | some ret =>
    dsimp only
    split
    · next done =>
        obtain ⟨step, found, done⟩ := (Option.any_eq_true _ _).mp done
        rw [if_pos ((Option.any_eq_true _ _).mpr ⟨step, found, pivot ret step at_ found done⟩)]
    · exact Nat.zero_le _

end PaymentsPlatform.Workflows
