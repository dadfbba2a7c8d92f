/- layer: model of workflows/engine/postgres (execute.go, compensate.go, engine.go, worker.go), of
     Checkpoint in workflows/engine/repository.go, of Do in infrastructure/resilience/retry.go and
     of infrastructure/postgres/workflow_repo.go, but for saving a step and leasing, which are
     those of the contract's workflows/engine/enginetest/repo.go
   digest: The engine as a program of calls, and what each call does to the rows of one instance. -/

import PaymentsPlatform.Lib.Processes
import PaymentsPlatform.Workflows.Definition

namespace PaymentsPlatform.Workflows

open Lib.Operations

inductive ContextEnd where
  | canceled | deadline
  deriving DecidableEq

/-- How the wait between two attempts of a compensation ended. -/
inductive Pause where
  | slept | noRoom | interrupted
  deriving DecidableEq

/-- The calls of the engine.  All of them are about one instance. -/
inductive Op where
  | now
  | stopping
  | backoff (policy : RetryPolicy) (n : Nat)
  | pause (n : Nat)
  | getInstance
  | leaseRunnable (worker : String) (lease : Int)
  | saveInstance (i : Instance)
  | heartbeat (worker : String) (epoch : Nat) (extend : Int)
  | saveStep (s : StepRecord)
  | listSteps
  | pushDLQ (step : String) (failure : FailureRecord)
  | execute (activity : String) (input : Input)
  | compensate (activity : String) (input : Input)

/-- What a call returns.  `stopping` is `ctx.Err()`; the error of a compensation is `none` for
nil. -/
@[reducible] def Ans : Op → Type
  | .now => Time
  | .stopping => Option ContextEnd
  | .backoff _ _ => Int
  | .pause _ => Pause
  | .getInstance => Except GoError Instance
  | .leaseRunnable _ _ => Except GoError (Option Instance)
  | .saveInstance _ => Except GoError Unit
  | .heartbeat _ _ _ => Except GoError Unit
  | .saveStep _ => Except GoError Unit
  | .listSteps => Except GoError (List StepRecord)
  | .pushDLQ _ _ => Except GoError Unit
  | .execute _ _ => Execution
  | .compensate _ _ => Option StepError

/-- A Go function of the engine: it makes calls, and returns a value or an error. -/
abbrev Eff (α : Type) := ExceptT GoError (Program Op Ans) α

def call (o : Op) : Program Op Ans (Ans o) := perform o

def now : Eff Time := ExceptT.lift (call .now)
def stopping : Eff (Option ContextEnd) := ExceptT.lift (call .stopping)
def backoff (policy : RetryPolicy) (n : Nat) : Eff Int := ExceptT.lift (call (.backoff policy n))
def getInstance : Eff Instance := ExceptT.mk (call .getInstance)
def leaseRunnable (worker : String) (lease : Int) : Eff (Option Instance) :=
  ExceptT.mk (call (.leaseRunnable worker lease))
def saveInstance (i : Instance) : Eff Unit := ExceptT.mk (call (.saveInstance i))
def heartbeat (worker : String) (epoch : Nat) (extend : Int) : Eff Unit :=
  ExceptT.mk (call (.heartbeat worker epoch extend))
def saveStep (s : StepRecord) : Eff Unit := ExceptT.mk (call (.saveStep s))
def listSteps : Eff (List StepRecord) := ExceptT.mk (call .listSteps)
def pushDLQ (step : String) (failure : FailureRecord) : Eff Unit :=
  ExceptT.mk (call (.pushDLQ step failure))
def execute (activity : String) (input : Input) : Eff Execution :=
  ExceptT.lift (call (.execute activity input))

/-- What an engine is built from.  `encoding/json`, the duration format and the keyed hash of
the idempotency keys are not opened. -/
structure Engine where
  defs : Registry
  acts : List String
  lease : Int
  poisonThreshold : Nat
  tenant : String
  idempotencyKey : WorkflowID → String → String
  gatePayload : String → SignalRecord → Except GoError String
  durationText : Int → String

def defaultPoisonThreshold : Nat := 3

/-- `rec` and `cctx`: the worker's copy of the instance and of its decoded context. -/
structure Local where
  inst : Instance
  cctx : InstanceContext

namespace Local

def withMeta (l : Local) (f : MetaRecord → MetaRecord) : Local :=
  { l with cctx := { l.cctx with bookkeeping := f l.cctx.bookkeeping } }

def withInst (l : Local) (f : Instance → Instance) : Local := { l with inst := f l.inst }

/-- `rec.Context = cctx.encode()`. -/
def encoded (l : Local) : Local := l.withInst ({ · with context := l.cctx })

end Local

variable (e : Engine) (worker : String) (i : Instance) (d : Definition) (step : Step) (l : Local)

def Instance.released : Instance := { i with leaseOwner := "", leaseUntil := none }

def Instance.movedTo (next : String) (state : InstanceState) : Instance :=
  { i with currentStep := next, attempt := 0, state := state }

inductive Outcome where
  | advanced | quiescent | abort
  deriving DecidableEq

def parkedRunAfter : Int := 86400000000000

def persist : Eff Local := do
  match ← attempt (saveInstance l.encoded.inst) with
  | .ok () => pure l.encoded
  | .error err => if isLeaseLost err then pure l.encoded else throw err

def releaseLease : Eff Unit := do
  match ← attempt (saveInstance i.released) with
  | .ok () => pure ()
  | .error err => if isLeaseLost err then pure () else throw err

/-- The step row is marked; an error of that write is logged. -/
def abandon (record : StepRecord) : Eff Unit := do
  let _ ← attempt (saveStep { record with state := .leaseLost })

def stepAlreadyDone (name : String) : Eff Bool := do
  let steps ← listSteps
  pure (steps.any fun s => s.name == name && s.state.isComplete)

/-- `Checkpoint` over a repository that has no `CheckpointStep`, as the Postgres one. -/
def checkpoint (step : StepRecord) : Eff Unit := do
  saveStep step
  saveInstance i

def Local.completed (t : Time) : Local :=
  (l.withInst fun i =>
    { i.released with state := .completed, completedAt := some t, currentStep := "" }).withMeta
      ({ · with crashCount := 0 })

def complete : Eff Local := do
  let t ← now
  persist (l.completed t)

def Local.failedWith (failure : FailureRecord) (t : Time) : Local :=
  (l.withInst fun i =>
    { i.released with state := .failed, completedAt := some t, lastError := failure.message }).withMeta
      fun m => { m with failure := some failure, abortCause := m.abortCause.or (some .failure) }

def failInstance (failure : FailureRecord) (l : Local) : Eff Local := do
  let t ← now
  persist (l.failedWith failure t)

def deadRow (seq : Nat) (failure : FailureRecord) (i : Instance) : StepRecord where
  id := ""
  workflowID := i.id
  tenantID := i.tenantID
  name := step.name
  sequence := seq
  state := .dlq
  attempt := failure.attempt
  input := i.input
  output := ""
  error := summarize failure.chain
  startedAt := none
  completedAt := none
  compensatedAt := none

def dlqAndFail (seq : Nat) (failure : FailureRecord) (l : Local) : Eff Local := do
  pushDLQ step.name failure
  saveStep (deadRow step seq failure l.inst)
  failInstance failure l

def Local.parkedFor (reason : String) (t : Time) : Local :=
  (l.withInst fun i =>
    { i.released with state := .parked, runAfter := t + parkedRunAfter, lastError := reason }).withMeta
      ({ · with parkReason := reason, waitingFor := "" })

def park (reason : String) (l : Local) : Eff Local := do
  let t ← now
  persist (l.parkedFor reason t)

def quarantineFailure : FailureRecord where
  step := l.inst.currentStep
  attempt := 0
  failureClass := .terminalTechnical
  code := none
  message := "instance quarantined after " ++ toString l.cctx.bookkeeping.crashCount ++
    " acquisitions without progress"
  chain := []

def Local.quarantined : Local :=
  (l.withInst fun i =>
    { i.released with state := .poisoned, lastError := (quarantineFailure l).message }).withMeta
      ({ · with failure := some (quarantineFailure l) })

def quarantine : Eff Local := do
  pushDLQ (quarantineFailure l).step (quarantineFailure l)
  persist l.quarantined

def Local.committed (next : String) (runAfter t : Time) : Local :=
  (l.withInst fun i =>
    if next = "" then
      { (i.movedTo "" .completed).released with runAfter := runAfter, completedAt := some t }
    else { i.movedTo next .running with runAfter := runAfter }).encoded

def completionTime (next : String) (runAfter : Time) : Eff Time :=
  if next = "" then now else pure runAfter

def commitStep (record : StepRecord) (l : Local) : Eff Local := do
  let runAfter ← now
  let t ← completionTime (d.nextStep step.name) runAfter
  checkpoint (l.committed (d.nextStep step.name) runAfter t).inst record
  pure (l.committed (d.nextStep step.name) runAfter t)

/-- What `runStep` and `runGate` make of the commit; `lost` is the row of a lost lease. -/
def commitOrAbandon (record lost : StepRecord) (l : Local) : Eff (Outcome × Local) := do
  match ← attempt (commitStep d step record l) with
  | .ok l => pure (.advanced, l)
  | .error err =>
    if isLeaseLost err then do
      abandon lost
      pure (.quiescent, l)
    else throw err

def advance : Eff Local :=
  let next := d.nextStep step.name
  if next = "" then complete (l.withInst (·.movedTo "" l.inst.state))
  else persist (l.withInst (·.movedTo next .running))

def Local.backingOff (attempt : Nat) (runAfter : Time) : Local :=
  l.withInst fun i =>
    { i.released with attempt := attempt, state := .retryBackoff, runAfter := runAfter }

def scheduleRetry (attempt : Nat) (record : StepRecord) (l : Local) : Eff Local := do
  let delay ← backoff step.retry (attempt - 1)
  saveStep { record with state := .retryScheduled }
  let t ← now
  persist (l.backingOff attempt (t + delay))

def pivotFailure (pivot : String) (failure : FailureRecord) : FailureRecord :=
  newFailureRecord failure.step failure.attempt .manual
    (.plain (wrap (.sentinel errPivotPassed) .workflowNotResumable
      ("refused to roll back past the irreversible pivot " ++ pivot ++ ": " ++ failure.message)))

def Local.aborting (cause : AbortCause) (failure : FailureRecord) (t : Time) : Local :=
  (l.withInst
    ({ · with state := .compensating, runAfter := t, lastError := failure.message })).withMeta
      fun m =>
        { m with
          abortCause := some cause
          failure := if failure.message ≠ "" then some failure else m.failure }

def pivotPassed : Option Step → Eff Bool
  | none => pure false
  | some pivot => stepAlreadyDone pivot.name

def beginAbort (cause : AbortCause) (failure : FailureRecord) (l : Local) : Eff (Outcome × Local) := do
  let pivot := (d.pivotIndex .irreversible).bind (d.steps[·]?)
  if ← pivotPassed pivot then
    let refusal := pivotFailure ((pivot.map (·.name)).getD "") failure
    pushDLQ refusal.step refusal
    let l ← park refusal.message (l.withMeta
      ({ · with abortCause := some cause, failure := some refusal }))
    pure (.quiescent, l)
  else
    let t ← now
    let l ← persist (l.aborting cause failure t)
    pure (.abort, l)

/-- What the activity asks for while it runs: an error of the store is handed to it, and a lost
lease cancels it. -/
def runHooks (e : Engine) (worker step : String) : List Hook → Bool → Local → Eff (Bool × Local)
  | [], lost, l => pure (lost, l)
  | .tick :: rest, lost, l => do
      if lost then runHooks e worker step rest lost l
      else
        match ← attempt (heartbeat worker l.inst.leaseEpoch e.lease) with
        | .ok () => runHooks e worker step rest false l
        | .error err => runHooks e worker step rest (isLeaseLost err) l
  | .heartbeat :: rest, lost, l => do
      let _ ← attempt (heartbeat worker l.inst.leaseEpoch e.lease)
      runHooks e worker step rest lost l
  | .checkpoint key value :: rest, lost, l => do
      let l := { l with cctx := l.cctx.putProgress step key value }
      match ← attempt (saveInstance l.encoded.inst) with
      | .ok () => runHooks e worker step rest lost l.encoded
      | .error _ => runHooks e worker step rest lost l

/-- What `invoke` makes of how the activity ended. -/
def Execution.result (x : Execution) (e : Engine) (step : Step) (id : WorkflowID) (lost : Bool) :
    Except StepError String :=
  match x.returned with
  | .output out => .ok out
  | .panicked reason =>
    .error (.withClass .terminalTechnical (new .internalError
      ("activity " ++ step.activity ++ " panicked: " ++ reason)))
  | .failed err =>
    if lost ∧ ¬ x.cancelled then
      .error (.plain (wrap (.sentinel errLeaseLost) .workflowNotResumable
        ("instance " ++ id ++ ": the lease was reclaimed while step " ++ step.name ++
          " was running")))
    else if x.deadlined then .error (.timedOut (e.durationText step.timeout) err)
    else .error err

def invoke (input : Input) (l : Local) : Eff (Except StepError String × Local) := do
  let x ← execute step.activity input
  let (lost, l) ← runHooks e worker step.name x.hooks false l
  pure (x.result e step l.inst.id lost, l)

/-- The end of `runStep` once the failed attempt has its row. -/
def settleFailure (seq attempt : Nat) (failed : StepRecord)
    (failure : FailureRecord) (l : Local) : Eff (Outcome × Local) :=
  match failure.failureClass with
  | .manual => do
      let l ← park ("step " ++ step.name ++ " needs a human: " ++ failure.message) l
      pure (.quiescent, l)
  | .ambiguous => do
      if (attempt : Int) < step.retry.maxAttempts then
        let l ← scheduleRetry step attempt failed (l.withMeta ({ · with lookupFirst := true }))
        pure (.quiescent, l)
      else
        pushDLQ step.name failure
        let l ← park ("step " ++ step.name ++ " ended with an unknown outcome that lookup could " ++
          "not resolve; probe the vendor before requeueing") l
        pure (.quiescent, l)
  | .terminalTechnical => do
      let l ← dlqAndFail step seq failure l
      pure (.quiescent, l)
  | .terminalBusiness => beginAbort d .failure failure l
  | .transient => do
      if (attempt : Int) < step.retry.maxAttempts ∧ step.retry.permits .transient then
        let l ← scheduleRetry step attempt failed l
        pure (.quiescent, l)
      else
        saveStep { failed with state := .dlq }
        beginAbort d .failure failure l

def failedState (err : StepError) (c : FailureClass) : StepState :=
  if c = .ambiguous then .ambiguous
  else if err.isSentinel errStepTimeout then .timedOut else .failed

/-- Recording an outcome proves that the worker survived the instance. -/
def Local.recording (failure : FailureRecord) : Local :=
  (l.withInst ({ · with lastError := failure.message })).withMeta
    ({ · with crashCount := 0, failure := some failure })

def recordFailure (seq attempt : Nat) (running : StepRecord)
    (err : StepError) (l : Local) : Eff (Outcome × Local) := do
  let c := classifyStep err step.sideEffecting
  let failure := newFailureRecord step.name attempt c err
  let failed := { running with state := failedState err c, error := summarize failure.chain }
  saveStep failed
  settleFailure d step seq attempt failed failure (l.recording failure)

def Local.succeeding (step out : String) : Local :=
  ({ l with cctx := l.cctx.putStep step out }.withInst ({ · with lastError := "" })).withMeta
    ({ · with lookupFirst := false, crashCount := 0 })

def recordSuccess (running : StepRecord) (out : String) (l : Local) : Eff (Outcome × Local) := do
  let t ← now
  let record :=
    { running with state := StepState.succeeded, output := out, completedAt := some t }
  commitOrAbandon d step record running (l.succeeding step.name out)

def stepInput (sig : Option SignalRecord) (l : Local) : Input where
  workflowID := l.inst.id
  tenantID := l.inst.tenantID
  businessKey := l.inst.businessKey
  step := step.name
  attempt := l.inst.attempt + 1
  idempotencyKey := e.idempotencyKey l.inst.id step.name
  payload := l.inst.input
  context := l.cctx.steps
  signal := (sig.map (·.data)).getD ""
  signalPrincipal := (sig.map (·.principal)).getD ""
  lookupFirst := l.cctx.bookkeeping.lookupFirst

def runningRow (seq : Nat) (startedAt : Time) (i : Instance) : StepRecord where
  id := ""
  workflowID := i.id
  tenantID := i.tenantID
  name := step.name
  sequence := seq
  state := .running
  attempt := i.attempt + 1
  input := i.input
  output := ""
  error := ""
  startedAt := some startedAt
  completedAt := none
  compensatedAt := none

def unknownActivity (name : String) : GoError :=
  wrap (.sentinel errUnknownActivity) .internalError
    ("activity " ++ quoted name ++ " is not registered in this binary")

def runStep (seq : Nat) (sig : Option SignalRecord) (l : Local) : Eff (Outcome × Local) := do
  if step.activity ∉ e.acts then
    let l ← dlqAndFail step seq (newFailureRecord step.name (l.inst.attempt + 1)
      .terminalTechnical (.plain (unknownActivity step.activity))) l
    pure (.quiescent, l)
  else
    let t ← now
    let l := l.withInst ({ · with state := .running })
    let running := runningRow step seq t l.inst
    saveStep running
    let (result, l) ← invoke e worker step (stepInput e step sig l) l
    match result with
    | .ok out => recordSuccess d step running out l
    | .error err =>
      if err.isSentinel errLeaseLost then do
        abandon running
        pure (.quiescent, l)
      else recordFailure d step seq running.attempt running err l

def gateRow (seq : Nat) (sig : SignalRecord) (out : String) (t : Time) (i : Instance) :
    StepRecord where
  id := ""
  workflowID := i.id
  tenantID := i.tenantID
  name := step.name
  sequence := seq
  state := .succeeded
  attempt := 1
  input := i.input
  output := out
  error := ""
  startedAt := some sig.receivedAt
  completedAt := some t
  compensatedAt := none

def Local.passing (step out : String) : Local :=
  ({ l with cctx := l.cctx.putStep step out }.withInst ({ · with state := .running })).withMeta
    ({ · with waitingFor := "", crashCount := 0 })

def passGate (seq : Nat) (sig : SignalRecord) (t : Time) (l : Local) : Eff (Outcome × Local) :=
  match e.gatePayload step.signal sig with
  | .error err => throw (wrap err .internalError "signal payload does not encode")
  | .ok out =>
    let record := gateRow step seq sig out t l.inst
    commitOrAbandon d step record record (l.passing step.name out)

def Local.waiting : Local :=
  l.withInst fun i => { i.released with state := .waitingSignal }

def Local.opening (signal : String) (deadline : Time) : Local :=
  (l.waiting.withInst ({ · with runAfter := deadline })).withMeta
    ({ · with waitingFor := signal })

def awaitSignal : Eff Local := do
  if l.cctx.bookkeeping.waitingFor = step.signal then
    let t ← now
    if l.inst.runAfter ≤ t then
      pushDLQ step.name
        { step := step.name, attempt := 0, failureClass := .manual, code := none
          message := "signal " ++ step.signal ++ " was not delivered within " ++
            e.durationText step.timeout
          chain := [] }
      park ("gate " ++ step.name ++ " timed out waiting for signal " ++ step.signal) l
    else persist l.waiting
  else
    let t ← now
    persist (l.opening step.signal (t + step.timeout))

def SignalRecord.consumed (sig : SignalRecord) (t : Time) : SignalRecord :=
  { sig with consumedAt := sig.consumedAt.or (some t) }

def Local.consuming (signal : String) (sig : SignalRecord) : Local :=
  { l with cctx := l.cctx.putSignal signal sig }

def Local.entering : Local :=
  (l.withInst ({ · with state := .running })).withMeta ({ · with waitingFor := "" })

def runGate (seq : Nat) (l : Local) : Eff (Outcome × Local) :=
  match l.cctx.signals step.signal with
  | some delivered => do
      let t ← now
      let sig := delivered.consumed t
      let l := l.consuming step.signal sig
      if step.activity ≠ "" then
        let l ← persist l.entering
        runStep e worker d step seq (some sig) l
      else passGate e d step seq sig t l
  | none => do
      let l ← awaitSignal e step l
      pure (.quiescent, l)

def latest (rows : List StepRecord) : String → Option StepRecord :=
  rows.foldl (fun m s =>
    let kept := (m s.name).any fun prev =>
      !s.state.isComplete && (prev.state.isComplete || decide (s.attempt < prev.attempt))
    if kept then m else Function.update m s.name (some s)) fun _ => none

def compensationFloor (rows : List StepRecord) : Nat :=
  match d.pivotIndex .retained with
  | none => 0
  | some ret =>
    match (d.steps[ret]?).bind fun s => latest rows s.name with
    | some r => if r.state.isComplete then ret + 1 else 0
    | none => 0

/-- `apierror.From`: the platform error of the chain with its cause, or one around the chain. -/
def platformError : GoError → Option GoError
  | .sentinel _ => none
  | .text _ => none
  | .wrap _ inner => platformError inner
  | .wrapBoth _ first second => (platformError first).or (platformError second)
  | .api e => some (.api e)
  | .apiCause e cause => some (.apiCause e cause)

def StepError.cause : StepError → GoError
  | .plain e => e
  | .withClass _ cause => cause
  | .timedOut _ inner => inner.cause

def withDetail (d : Detail) : GoError → GoError
  | .api e => .api { e with details := e.details ++ [d] }
  | .apiCause e cause => .apiCause { e with details := e.details ++ [d] } cause
  | other => other

def gaveUp (err : StepError) (attempts : Nat) (reason : String) : StepError :=
  .plain (withDetail
    { field := "", code := "RETRY_GAVE_UP"
      message := "gave up after " ++ toString attempts ++ " attempt(s): " ++ reason
      ruleID := "RETRY.GAVE_UP" }
    ((platformError err.cause).getD (.apiCause
      (newError .internalError "an unexpected internal error occurred") err.cause)))

def contextError : ContextEnd → StepError
  | .deadline => .plain (wrap (.sentinel Pkg.ApiError.deadlineExceeded) .gatewayTimeout
      "the deadline elapsed before any attempt was started")
  | .canceled => .plain (wrap (.sentinel "context canceled") .serviceUnavailable
      "the request was cancelled before any attempt was started")

def compensationAttempts : Nat := 5

/-- `Do` with the policy of the compensations: `n` attempts are left, `made` have failed, the
last of them with `last`. -/
def retrying (activity : String) (input : Input) :
    Nat → Nat → Option StepError → Program Op Ans (Option StepError)
  | 0, made, last => pure (last.map (gaveUp · made "max attempts reached"))
  | n + 1, made, last => do
      match (← call .stopping : Option ContextEnd) with
      | some reason =>
        pure (some (match last with
          | none => contextError reason
          | some err => gaveUp err made "context cancelled"))
      | none =>
        match (← call (.compensate activity { input with attempt := made + 1 }) : Option StepError) with
        | none => pure none
        | some err =>
          if (classifyStep err true).isTerminal then
            pure (some (gaveUp err (made + 1) "error is not retryable"))
          else if n = 0 then pure (some (gaveUp err (made + 1) "max attempts reached"))
          else
            match (← call (.pause made) : Pause) with
            | .noRoom => pure (some (gaveUp err (made + 1)
                "backoff would not fit in the remaining deadline"))
            | .interrupted => pure (some (gaveUp err (made + 1) "context cancelled"))
            | .slept => retrying activity input n (made + 1) (some err)

def Local.marked (step : String) (m : CompensationMark) : Local :=
  { l with cctx := l.cctx.markCompensation step m }

def markCompensationFailed (record : StepRecord) (err : StepError) (l : Local) : Eff Local := do
  let _ ← attempt (saveStep
    { record with state := .compensationFailed, error := summarize err.chain })
  let failure := newFailureRecord step.name 0 .terminalTechnical err
  let _ ← attempt (pushDLQ step.name
    { failure with message := "COMPENSATION_FAILED: " ++ failure.message })
  pure (l.marked step.name .failed)

/-- `runCompensation`, with whether it failed in the end.  Errors of the store are logged. -/
def runCompensation (record : StepRecord) (l : Local) : Eff (Bool × Local) := do
  if step.compensation ∉ e.acts then
    let l ← markCompensationFailed step record (.plain (unknownActivity step.compensation)) l
    pure (true, l)
  else
    let _ ← attempt (saveStep { record with state := .compensating })
    let input : Input :=
      { workflowID := l.inst.id, tenantID := l.inst.tenantID, businessKey := l.inst.businessKey
        step := step.name, attempt := 1
        idempotencyKey := e.idempotencyKey l.inst.id (step.name ++ ":compensate")
        payload := record.output, context := l.cctx.steps, signal := "", signalPrincipal := ""
        lookupFirst := false }
    let execErr ← ExceptT.lift (retrying step.compensation input compensationAttempts 0 none)
    let t ← now
    match execErr with
    | some err =>
      let l ← markCompensationFailed step record err l
      pure (true, l)
    | none =>
      let _ ← attempt (saveStep { record with state := .compensated, compensatedAt := some t })
      let l := l.marked step.name .done
      let _ ← attempt (persist l)
      pure (false, l.encoded)

def abortFailure (anyFailed : Bool) (m : MetaRecord) : FailureRecord :=
  let failure := m.failure.getD
    { step := "", attempt := 0, failureClass := .terminalBusiness, code := none
      message := "workflow aborted", chain := [] }
  if anyFailed then
    { failure with
      failureClass := .terminalTechnical, message := "COMPENSATION_FAILED: " ++ failure.message }
  else failure

def Local.settling : Local :=
  l.withInst fun i => { i.released with currentStep := "" }

def Local.canceledAt (t : Time) : Local :=
  l.withInst ({ · with state := .canceled, completedAt := some t })

def Local.abortedAt (anyFailed : Bool) (t : Time) : Local :=
  l.settling.withInst
    ({ · with
      state := .failed, completedAt := some t
      lastError := (abortFailure anyFailed l.cctx.bookkeeping).message })

def finishAbort (anyFailed : Bool) (l : Local) : Eff Local := do
  let t ← now
  if ¬ anyFailed ∧ l.cctx.bookkeeping.abortCause = some .cancel then
    let l ← persist (l.settling.withInst ({ · with state := .compensated }))
    persist (l.canceledAt t)
  else
    let failure := abortFailure anyFailed l.cctx.bookkeeping
    pushDLQ failure.step failure
    persist (l.abortedAt anyFailed t)

/-- The loop of `compensate` over the steps that are left, the last one first. -/
def walk (e : Engine) (rows : List StepRecord) : List Step → Bool → Local → Eff Unit
  | [], anyFailed, l => do
      let _ ← finishAbort anyFailed l
  | step :: rest, anyFailed, l => do
      match ← stopping with
      | some _ => releaseLease l.inst
      | none =>
        if step.compensation = "" then walk e rows rest anyFailed l
        else
          match latest rows step.name with
          | none => walk e rows rest anyFailed l
          | some record =>
            if !record.state.needsCompensation ||
                l.cctx.bookkeeping.compensations step.name == some .done then
              walk e rows rest anyFailed l
            else
              let (failed, l) ← runCompensation e step record l
              walk e rows rest (failed || anyFailed) l

def compensate : Eff Unit := do
  let rows ← listSteps
  walk e rows (d.steps.drop (compensationFloor d rows)).reverse false l

def cancelFailure : FailureRecord where
  step := l.inst.currentStep
  attempt := 0
  failureClass := .manual
  code := none
  message := "cancelled: " ++ (l.cctx.cancel.map (·.reason)).getD ""
  chain := []

def unknownStep : FailureRecord :=
  newFailureRecord l.inst.currentStep l.inst.attempt .terminalTechnical
    (.plain (new .internalError
      ("workflow " ++ d.key ++ " has no step named " ++ quoted l.inst.currentStep)))

def runGateOrStep (seq : Nat) (l : Local) : Eff (Outcome × Local) :=
  if step.manualGate then runGate e worker d step seq l else runStep e worker d step seq none l

/-- The turn at a step: whether it is done is read off the step rows. -/
def runCurrent : Eff (Option Local) := do
  if ← stepAlreadyDone step.name then
    let l ← advance d step l
    pure (some l)
  else
    let seq := (d.stepIndex step.name).getD 0
    let (o, l) ← runGateOrStep e worker d step seq l
    pure (if o = .quiescent then none else some l)

/-- One turn of the loop; `none` is a return. -/
def driveOnce : Eff (Option Local) := do
  match ← stopping with
  | some _ => do
      releaseLease l.inst
      pure none
  | none =>
    if l.inst.state.isFinal ∨ l.inst.state = .poisoned then pure none
    else if l.inst.state = .compensating then do
      compensate e d l
      pure none
    else if l.cctx.cancelRequested then do
      let (o, l) ← beginAbort d .cancel (cancelFailure l) l
      pure (if o = .abort then some l else none)
    else if l.inst.currentStep = "" then do
      let _ ← complete l
      pure none
    else
      match d.stepByName l.inst.currentStep with
      | none => do
          let _ ← failInstance (unknownStep d l) l
          pure none
      | some step => runCurrent e worker d step l

/-- The error of a drive that has used up its turns; the loop of the source has no bound. -/
def outOfTurns : GoError := .text "out of turns"

def driveLoop (e : Engine) (worker : String) (d : Definition) : Nat → Local → Eff Unit
  | 0, _ => throw outOfTurns
  | n + 1, l => do
      match ← driveOnce e worker d l with
      | none => pure ()
      | some l => driveLoop e worker d n l

def Local.counted : Local :=
  Local.withMeta ⟨i, i.context⟩ fun m => { m with crashCount := m.crashCount + 1 }

/-- `drive`, on an instance that has just been leased. -/
def drive : Eff Unit :=
  match e.defs.lookup i.definition i.version with
  | none => releaseLease i
  | some registered => do
      let l := Local.counted i
      if e.poisonThreshold < l.cctx.bookkeeping.crashCount then
        let _ ← quarantine l
      else
        let l ← persist l
        driveLoop e worker registered.definition (registered.definition.steps.length + 2) l

def pollOnce : Eff Unit := do
  match ← leaseRunnable worker e.lease with
  | none => pure ()
  | some i => drive e worker i

def notRunnable (message : String) : GoError :=
  wrap (.sentinel errNotRunnable) .workflowNotResumable message

def SignalPayload.record (p : SignalPayload) (receivedAt : Time) : SignalRecord where
  data := p.data
  principal := p.principal
  scopes := p.scopes
  reason := p.reason
  sourceIP := p.sourceIP
  idempotencyKey := p.idempotencyKey
  receivedAt := receivedAt
  consumedAt := none

def Instance.signalled (name : String) (sig : SignalRecord) (t : Time) : Instance :=
  { i with context := i.context.putSignal name sig, runAfter := t }

def deliveryTime (p : SignalPayload) : Eff Time :=
  if p.receivedAt = zeroTime then now else pure p.receivedAt

def signal (name : String) (payload : SignalPayload) : Eff Unit := do
  if name = "" then throw (new .validationFailed "a signal needs a name")
  else
    let i ← getInstance
    if i.state.isFinal then
      throw (notRunnable ("instance " ++ i.id ++ " is " ++ i.state.text ++
        " and cannot be signalled"))
    else if (i.context.signals name).isSome then pure ()
    else
      let received ← deliveryTime payload
      let t ← now
      saveInstance (i.signalled name (payload.record received) t)

def Instance.cancelling (c : CancelRecord) (t : Time) : Instance :=
  { i with context := { i.context with cancel := some c }, runAfter := t }

def cancel (reason : String) : Eff Unit := do
  let i ← getInstance
  if i.state.isFinal then
    throw (notRunnable ("instance " ++ i.id ++ " is already " ++ i.state.text))
  else if i.context.cancelRequested then pure ()
  else
    let requestedAt ← now
    let t ← now
    saveInstance (i.cancelling
      { requested := true, reason := reason, actor := e.tenant, requestedAt := requestedAt } t)

def Instance.pulled (t : Time) : Instance := { i with runAfter := t }

def pull : Eff Unit := do
  let t ← now
  saveInstance (i.pulled t)

def resume : Eff Unit := do
  let i ← getInstance
  if i.state.isFinal then throw (notRunnable ("instance " ++ i.id ++ " is " ++ i.state.text))
  else if i.state = .poisoned then
    throw (notRunnable ("instance " ++ i.id ++
      " is quarantined; requeue it with a reset crash count"))
  else
    let t ← now
    if t < i.runAfter ∧ i.state = .waitingSignal then pure ()
    else if t < i.runAfter then do
      pull i
      pollOnce e worker
    else pollOnce e worker

/-- A resume of another instance that has leased this one with it hands it back. -/
def handBack : Eff Unit := do
  match ← leaseRunnable worker e.lease with
  | none => pure ()
  | some i => do
      let _ ← attempt (saveInstance i.released)

/-- The rows of the steps, the outputs, the signals, a requested cancellation and the marks of
the compensations stay. -/
def Instance.requeued (step : String) (resetCrashCount : Bool) (t : Time) : Instance :=
  { i.released with
    context :=
      { i.context with
        bookkeeping :=
          { i.context.bookkeeping with
            failure := none, parkReason := "", abortCause := none, lookupFirst := false
            waitingFor := ""
            crashCount := if resetCrashCount then 0 else i.context.bookkeeping.crashCount } }
    state := .pending, currentStep := step, attempt := 0, lastError := ""
    completedAt := none, runAfter := t }

def requeueTarget (step : String) (i : Instance) : String :=
  if step = "" then i.currentStep else step

def requeue (e : Engine) (step : String) (resetCrashCount : Bool) (reason : String) :
    Eff Unit := do
  if reason = "" then
    throw (new .validationFailed ("a requeue requires a reason: an operator action with no " ++
      "recorded reason is unreviewable six months later"))
  else
    let i ← getInstance
    match e.defs.lookup i.definition i.version with
    | none =>
      throw (new .workflowNotFound ("workflow definition " ++ i.definition ++ "@v" ++
        toString i.version ++ " is not registered in this binary"))
    | some registered =>
      if registered.definition.stepIndex (requeueTarget step i) = none then
        throw (new .validationFailed ("workflow " ++ registered.definition.key ++
          " has no step named " ++ quoted (requeueTarget step i)))
      else
        let t ← now
        saveInstance (i.requeued (requeueTarget step i) resetCrashCount t)

inductive Request where
  | poll (worker : String)
  | resume (worker : String)
  | resumeOther (worker : String)
  | signal (name : String) (payload : SignalPayload)
  | cancel (reason : String)
  | requeue (step : String) (resetCrashCount : Bool) (reason : String)
  deriving DecidableEq

def Request.program : Request → Eff Unit
  | .poll worker => pollOnce e worker
  | .resume worker => Workflows.resume e worker
  | .resumeOther worker => handBack e worker
  | .signal name payload => Workflows.signal name payload
  | .cancel reason => Workflows.cancel e reason
  | .requeue step reset reason => Workflows.requeue e step reset reason

structure Store where
  inst : Instance
  steps : List StepRecord
  dlq : List (String × FailureRecord)

def StepRecord.sameKey (r s : StepRecord) : Bool := r.name == s.name && r.attempt == s.attempt

def putRow (rows : List StepRecord) (s : StepRecord) : List StepRecord :=
  if rows.any s.sameKey then rows.map fun r => if s.sameKey r then s else r else rows ++ [s]

/-- The order in which the rows are listed. -/
def StepRecord.before (r s : StepRecord) : Prop :=
  r.sequence < s.sequence ∨ r.sequence = s.sequence ∧ r.attempt ≤ s.attempt

instance (r s : StepRecord) : Decidable (r.before s) :=
  inferInstanceAs (Decidable (_ ∨ _))

def listed (rows : List StepRecord) : List StepRecord := rows.insertionSort StepRecord.before

/-- A failure of the database itself; none of them reads as a lost lease. -/
structure Fault where
  err : GoError
  foreign : isLeaseLost err = false

/-- What the surroundings decide about a call. -/
structure Choice where
  clock : Time
  ending : Option ContextEnd
  delay : Int
  pause : Pause
  fault : Option Fault
  execution : Execution
  compensation : Option StepError

/-- The error of a write whose epoch is no longer the stored one.  It does not wrap
`ErrLeaseLost`. -/
def supersededWrite (i : Instance) : GoError :=
  new .workflowNotResumable ("workflow " ++ i.id ++ " has moved past epoch " ++
    toString i.leaseEpoch ++ "; another worker has taken it over")

def supersededBeat (id : WorkflowID) (worker : String) (epoch : Nat) : GoError :=
  new .workflowNotResumable ("workflow " ++ id ++ " is no longer leased by " ++ worker ++
    " at epoch " ++ toString epoch ++ "; abandon this step")

def Instance.due (i : Instance) (t : Time) : Bool :=
  i.state.isRunnable && decide (i.runAfter ≤ t) && i.leaseUntil.all fun u => decide (u ≤ t)

def Instance.leasedBy (i : Instance) (worker : String) (until_ : Time) : Instance :=
  { i with leaseOwner := worker, leaseUntil := some until_, leaseEpoch := i.leaseEpoch + 1 }

/-- What a call answers and does to the rows.  The row is replaced as a whole: the engine never
changes the columns an update leaves alone. -/
def Store.exec (s : Store) (o : Op) (c : Choice) : Ans o × Store :=
  match o with
  | .now => (c.clock, s)
  | .stopping => (c.ending, s)
  | .backoff _ _ => (c.delay, s)
  | .pause _ => (c.pause, s)
  | .execute _ _ => (c.execution, s)
  | .compensate _ _ => (c.compensation, s)
  | .getInstance =>
    match c.fault with
    | some f => (.error f.err, s)
    | none => (.ok s.inst, s)
  | .leaseRunnable worker lease =>
    match c.fault with
    | some f => (.error f.err, s)
    | none =>
      if s.inst.due c.clock then
        (.ok (some (s.inst.leasedBy worker (c.clock + lease))),
          { s with inst := s.inst.leasedBy worker (c.clock + lease) })
      else (.ok none, s)
  | .saveInstance i =>
    match c.fault with
    | some f => (.error f.err, s)
    | none =>
      if i.leaseEpoch = s.inst.leaseEpoch then (.ok (), { s with inst := i })
      else (.error (supersededWrite i), s)
  | .heartbeat worker epoch extend =>
    match c.fault with
    | some f => (.error f.err, s)
    | none =>
      if s.inst.leaseOwner = worker ∧ s.inst.leaseEpoch = epoch then
        (.ok (), { s with inst := { s.inst with leaseUntil := some (c.clock + extend) } })
      else (.error (supersededBeat s.inst.id worker epoch), s)
  | .saveStep r =>
    match c.fault with
    | some f => (.error f.err, s)
    | none => (.ok (), { s with steps := putRow s.steps r })
  | .listSteps =>
    match c.fault with
    | some f => (.error f.err, s)
    | none => (.ok (listed s.steps), s)
  | .pushDLQ step failure =>
    match c.fault with
    | some f => (.error f.err, s)
    | none => (.ok (), { s with dlq := s.dlq ++ [(step, failure)] })

end PaymentsPlatform.Workflows
