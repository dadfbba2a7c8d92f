/- layer: model of workflows/engine (definition.go, errors.go, state.go, postgres/state.go), of
     Input in activity.go and of the records in application/ports
   digest: What a saga is made of, the classes of failure, and what is stored of instances and
     steps. -/

import Mathlib.Data.List.Nodup
import Mathlib.Data.List.TakeWhile
import Mathlib.Data.Rat.Defs
import Mathlib.Logic.Function.Basic
import PaymentsPlatform.Shared.Types

namespace PaymentsPlatform.Workflows

open Pkg.ApiError (GoError)

inductive InstanceState where
  | pending | running | retryBackoff | waitingSignal | parked | compensating | completed
  | compensated | canceled | failed | poisoned
  deriving DecidableEq

def InstanceState.text : InstanceState → String
  | .pending => "PENDING"
  | .running => "RUNNING"
  | .retryBackoff => "RETRY_BACKOFF"
  | .waitingSignal => "WAITING_SIGNAL"
  | .parked => "PARKED"
  | .compensating => "COMPENSATING"
  | .completed => "COMPLETED"
  | .compensated => "COMPENSATED"
  | .canceled => "CANCELED"
  | .failed => "FAILED"
  | .poisoned => "POISONED"

def InstanceState.isFinal : InstanceState → Bool
  | .completed | .failed | .compensated | .canceled => true
  | _ => false

def InstanceState.isRunnable : InstanceState → Bool
  | .pending | .running | .retryBackoff | .compensating | .waitingSignal | .parked => true
  | _ => false

inductive StepState where
  | pending | running | succeeded | failed | timedOut | ambiguous | leaseLost | retryScheduled
  | dlq | compensating | compensated | compensationFailed | skipped
  deriving DecidableEq

def StepState.text : StepState → String
  | .pending => "PENDING"
  | .running => "RUNNING"
  | .succeeded => "SUCCEEDED"
  | .failed => "FAILED"
  | .timedOut => "TIMED_OUT"
  | .ambiguous => "AMBIGUOUS"
  | .leaseLost => "LEASE_LOST"
  | .retryScheduled => "RETRY_SCHEDULED"
  | .dlq => "DLQ"
  | .compensating => "COMPENSATING"
  | .compensated => "COMPENSATED"
  | .compensationFailed => "COMPENSATION_FAILED"
  | .skipped => "SKIPPED"

def StepState.isComplete (s : StepState) : Bool := s == .succeeded

def StepState.needsCompensation (s : StepState) : Bool := s == .succeeded

inductive FailureClass where
  | transient | terminalBusiness | terminalTechnical | ambiguous | manual
  deriving DecidableEq

def FailureClass.text : FailureClass → String
  | .transient => "TRANSIENT"
  | .terminalBusiness => "TERMINAL_BUSINESS"
  | .terminalTechnical => "TERMINAL_TECHNICAL"
  | .ambiguous => "AMBIGUOUS"
  | .manual => "MANUAL"

def FailureClass.isTerminal (c : FailureClass) : Bool :=
  c == .terminalBusiness || c == .terminalTechnical

def errLeaseLost : String := "workflow: lease lost — the instance is owned by another worker"
def errInstanceNotFound : String := "workflow: instance not found"
def errNotRunnable : String := "workflow: instance is not in a resumable state"
def errPivotPassed : String := "workflow: cannot roll back past an irreversible pivot"
def errUnknownActivity : String := "workflow: activity is not registered"
def errDefinitionInvalid : String := "workflow: definition is not sound"
def errStepTimeout : String := "workflow: step exceeded its per-attempt timeout"

def isLeaseLost (e : GoError) : Bool := e.isSentinel errLeaseLost

/-- The error of an activity: as it is, tagged by `WithClass`, or behind the deadline of the
attempt. -/
inductive StepError where
  | plain (e : GoError)
  | withClass (c : FailureClass) (cause : GoError)
  | timedOut (after : String) (cause : StepError)

namespace StepError

def error : StepError → String
  | .plain e => e.error
  | .withClass c cause => "step  failed (" ++ c.text ++ "): " ++ cause.error
  | .timedOut after cause => errStepTimeout ++ " after " ++ after ++ ": " ++ cause.error

def isSentinel (target : String) : StepError → Bool
  | .plain e => e.isSentinel target
  | .withClass _ cause => cause.isSentinel target
  | .timedOut _ cause => errStepTimeout == target || cause.isSentinel target

/-- `errors.As` for the platform's error type. -/
def asError : StepError → Option Pkg.ApiError.Error
  | .plain e => e.asError
  | .withClass _ cause => cause.asError
  | .timedOut _ cause => cause.asError

def classOf : StepError → Option FailureClass
  | .plain _ => none
  | .withClass c _ => some c
  | .timedOut _ cause => cause.classOf

def codeOf (e : StepError) : Code := (e.asError.map (·.code)).getD .internalError

end StepError

def classify (err : StepError) (sideEffecting : Bool) : FailureClass :=
  if err.isSentinel deadlineExceeded || err.isSentinel errStepTimeout then
    if sideEffecting then .ambiguous else .transient
  else
    match err.asError with
    | none => .terminalTechnical
    | some ae =>
      match ae.code with
      | .gatewayTimeout => if sideEffecting then .ambiguous else .transient
      | .gatewayAuthenticationFailed | .forbidden | .unauthenticated | .insufficientScope
      | .internalError | .malformedRequest => .terminalTechnical
      | _ =>
        if ae.retryable then .transient
        else
          match ae.category with
          | .validation | .businessRule | .conflict | .notFound => .terminalBusiness
          | _ => .terminalTechnical

def classifyStep (err : StepError) (sideEffecting : Bool) : FailureClass :=
  err.classOf.getD (classify err sideEffecting)

structure ChainEntry where
  code : Option Code
  category : Option Category
  message : String
  retryable : Bool

/-- The links of a chain, outermost first; `errors.Unwrap` gives nothing for two causes. -/
def links : GoError → List ChainEntry
  | .sentinel name => [⟨none, none, name, false⟩]
  | .text message => [⟨none, none, message, false⟩]
  | .wrap message inner => ⟨none, none, message, false⟩ :: links inner
  | .wrapBoth message _ _ => [⟨none, none, message, false⟩]
  | .api e => [⟨some e.code, some e.category, (GoError.api e).error, e.retryable⟩]
  | .apiCause e cause =>
    ⟨some e.code, some e.category, (GoError.apiCause e cause).error, e.retryable⟩ :: links cause

/-- `Chain`, cut after 33 links. -/
def StepError.chain (err : StepError) : List ChainEntry :=
  match err with
  | .plain e => (links e).take 33
  | .withClass _ cause => (⟨none, none, err.error, false⟩ :: links cause).take 33
  | .timedOut _ _ => [⟨none, none, err.error, false⟩]

def summarize (chain : List ChainEntry) : String :=
  " <- ".intercalate (chain.map fun c =>
    match c.code with
    | some code => code.text
    | none => String.ofList (c.message.toList.takeWhile (· != ':')))

structure FailureRecord where
  step : String
  attempt : Nat
  failureClass : FailureClass
  code : Option Code
  message : String
  chain : List ChainEntry

def newFailureRecord (step : String) (attempt : Nat) (c : FailureClass) (err : StepError) :
    FailureRecord where
  step := step
  attempt := attempt
  failureClass := c
  code := some err.codeOf
  message := err.error
  chain := err.chain

inductive PivotKind where
  | none | retained | irreversible
  deriving DecidableEq

inductive CompensationKind where
  | unset | rollback | forward
  deriving DecidableEq

structure RetryPolicy where
  maxAttempts : Int
  initialInterval : Int
  maxInterval : Int
  backoffFactor : ℚ
  nonRetryable : List FailureClass

namespace RetryPolicy

def retries (p : RetryPolicy) : Bool := 1 < p.maxAttempts

def permits (p : RetryPolicy) (c : FailureClass) : Bool :=
  !c.isTerminal && !p.nonRetryable.contains c

def normalized (p : RetryPolicy) : RetryPolicy :=
  let initial := if p.initialInterval ≤ 0 then 200000000 else p.initialInterval
  { p with
    maxAttempts := if p.maxAttempts < 1 then 1 else p.maxAttempts
    initialInterval := initial
    maxInterval := if p.maxInterval < initial then initial else p.maxInterval
    backoffFactor := if p.backoffFactor < 1 then 2 else p.backoffFactor }

end RetryPolicy

structure Step where
  name : String
  activity : String
  signal : String
  retry : RetryPolicy
  timeout : Int
  compensation : String
  compensationKind : CompensationKind
  idempotent : Bool
  manualGate : Bool
  pivot : Bool
  pivotKind : PivotKind
  sideEffecting : Bool

def Step.isRollback (s : Step) : Bool :=
  s.compensation != "" && s.compensationKind != .forward

structure Definition where
  name : String
  version : Int
  steps : List Step

namespace Definition

variable (d : Definition)

def key : String := d.name ++ "@v" ++ toString d.version

/-- The position of the first step of that name; the source returns -1 for none. -/
def stepIndex (name : String) : Option Nat :=
  d.steps.findIdx? (·.name == name)

def stepByName (name : String) : Option Step :=
  d.steps.find? (·.name == name)

def firstStep : String := (d.steps.head?.map (·.name)).getD ""

def nextStep (name : String) : String :=
  match d.stepIndex name with
  | none => ""
  | some i => ((d.steps[i + 1]?).map (·.name)).getD ""

def pivotIndex (kind : PivotKind) : Option Nat :=
  ((List.range d.steps.length).filter fun i =>
    (d.steps[i]?).any fun s => s.pivot && s.pivotKind == kind).getLast?

def detailOf (field code msg : String) : Detail := ⟨field, code, msg, "WF." ++ code⟩

/-- What `Validate` finds wrong with one step. -/
def stepProblems (i : Nat) (s : Step) : List Detail :=
  let field := "steps[" ++ toString i ++ "]"
  let first := (d.stepIndex s.name).getD i
  (if trimSpace s.name = "" then [detailOf (field ++ ".name") "REQUIRED" "a step needs a name"]
    else []) ++
  (if first < i ∧ s.name ≠ "" then
    [detailOf (field ++ ".name") "UNREACHABLE_STEP"
      ("step " ++ quoted s.name ++ " is unreachable: the name is already used at index " ++
        toString first ++ ", and the engine resolves current_step to the first match")]
    else []) ++
  (if s.manualGate then
    (if s.timeout ≤ 0 then
      [detailOf (field ++ ".timeout") "MANUAL_GATE_WITHOUT_TIMEOUT"
        ("manual gate " ++ quoted s.name ++ " has no timeout: an unsignalled instance would " ++
          "wait forever, invisible to both the failure alerts and the stuck detector")]
      else []) ++
    (if s.signal = "" then
      [detailOf (field ++ ".signal") "REQUIRED"
        ("manual gate " ++ quoted s.name ++ " must name the signal it waits for")]
      else [])
   else
    (if s.activity = "" then
      [detailOf (field ++ ".activity") "REQUIRED"
        ("step " ++ quoted s.name ++ " is not a manual gate and must name an activity")]
      else []) ++
    (if s.timeout ≤ 0 then
      [detailOf (field ++ ".timeout") "REQUIRED"
        ("step " ++ quoted s.name ++ " needs a per-attempt timeout; without one a wedged " ++
          "activity holds a slot until the process dies")]
      else [])) ++
  (if s.retry.retries ∧ ¬ s.idempotent then
    [detailOf (field ++ ".retry") "RETRY_WITHOUT_IDEMPOTENCE"
      ("step " ++ quoted s.name ++ " declares " ++ toString s.retry.maxAttempts ++
        " attempts but is not idempotent: the retry is the duplicate side effect")]
    else []) ++
  (match d.pivotIndex .irreversible with
    | none => []
    | some irreversible =>
      if irreversible < i ∧ s.isRollback then
        [detailOf (field ++ ".compensation") "COMPENSATION_AFTER_PIVOT"
          ("step " ++ quoted s.name ++ " declares the rollback " ++ quoted s.compensation ++
            " but sits after the irreversible pivot " ++
            quoted (((d.steps[irreversible]?).map (·.name)).getD "") ++
            "; past that pivot recovery is roll-forward only")]
      else []) ++
  (if s.pivot ∧ s.pivotKind = .none then
    [detailOf (field ++ ".pivotKind") "REQUIRED"
      ("step " ++ quoted s.name ++
        " is marked as a pivot but does not say which kind of irreversibility it introduces")]
    else []) ++
  (if ¬ s.pivot ∧ s.pivotKind ≠ .none then
    [detailOf (field ++ ".pivot") "INCONSISTENT"
      ("step " ++ quoted s.name ++ " declares a pivot kind but is not marked as a pivot")]
    else [])

/-- What `Validate` finds wrong; a definition is accepted if that is nothing. -/
def problems : List Detail :=
  (if trimSpace d.name = "" then [detailOf "name" "REQUIRED" "a definition needs a name"] else []) ++
  (if d.version < 1 then [detailOf "version" "INVALID" "version must be >= 1"] else []) ++
  (if d.steps = [] then [detailOf "steps" "EMPTY" "a definition needs at least one step"] else []) ++
  (d.steps.mapIdx fun i s => d.stepProblems i s).flatten

def validate : Option GoError :=
  if d.problems = [] then none
  else some (.apiCause
    { Pkg.ApiError.newError .configurationInvalid
        ("workflow definition " ++ d.key ++ " is not sound: " ++ toString d.problems.length ++
          " problem(s)") with details := d.problems }
    (.sentinel errDefinitionInvalid))

def normalize : Definition :=
  { d with
    steps := d.steps.map fun s =>
      { s with
        retry := s.retry.normalized
        compensationKind :=
          if s.compensation ≠ "" ∧ s.compensationKind = .unset then .rollback
          else s.compensationKind } }

end Definition

/-- A definition as the registry holds it: found sound, and normalized. -/
structure Registered where
  declared : Definition
  sound : declared.problems = []

def Registered.definition (r : Registered) : Definition := r.declared.normalize

abbrev Registry := List Registered

def Registry.lookup (r : Registry) (name : String) (version : Int) : Option Registered :=
  r.find? (·.definition.key == name ++ "@v" ++ toString version)

namespace Definition

def names (d : Definition) : List String := d.steps.map (·.name)

/-- The steps before the one of that name; all of them if there is none. -/
def before (d : Definition) (name : String) : List String := d.names.takeWhile (· != name)

structure Named (d : Definition) : Prop where
  nodup : d.names.Nodup
  nonempty : "" ∉ d.names

theorem not_mem_before (d : Definition) (name : String) : name ∉ d.before name := by
  intro mem
  have apart := List.mem_takeWhile_imp mem
  simp at apart

variable {d : Definition}

theorem split_at {name : String} {step : Step} (found : d.stepByName name = some step) :
    step.name = name ∧ ∃ rest, d.names = d.before name ++ name :: rest ∧
      d.nextStep name = rest.head?.getD "" := by
  obtain ⟨named, front, back, split, apart⟩ := List.find?_eq_some_iff_append.mp found
  have named : step.name = name := by simpa using named
  have apart : ∀ s ∈ front, (s.name == name) = false := by simpa using apart
  have index : d.stepIndex name = some front.length := by
    unfold stepIndex
    rw [split, List.findIdx?_append, List.findIdx?_eq_none_iff.mpr apart]
    simp [List.findIdx?_cons, named]
  have names : d.names = front.map (·.name) ++ name :: back.map (·.name) := by
    unfold Definition.names
    rw [split, List.map_append, List.map_cons, named]
  have before : d.before name = front.map (·.name) := by
    unfold Definition.before
    rw [names, List.takeWhile_append_of_pos]
    · simp
    · intro other mem
      obtain ⟨s, inFront, rfl⟩ := List.mem_map.mp mem
      simpa using apart s inFront
  refine ⟨named, back.map (·.name), by rw [before]; exact names, ?_⟩
  have after : d.steps[front.length + 1]? = back.head? := by
    rw [split, List.getElem?_append_right (Nat.le_add_right _ 1), Nat.add_sub_cancel_left,
      List.getElem?_cons_succ, List.head?_eq_getElem?]
  unfold nextStep
  rw [index]
  dsimp only
  rw [after, List.head?_map]

theorem before_empty (named : d.Named) : d.before "" = d.names := by
  refine List.takeWhile_eq_self_iff.mpr fun name mem => ?_
  simp only [bne_iff_ne, ne_eq]
  rintro rfl
  exact named.nonempty mem

theorem before_first (d : Definition) : d.before d.firstStep = [] := by
  unfold before firstStep names
  cases d.steps with
  | nil => rfl
  | cons => simp

theorem before_next (named : d.Named) {name : String} {step : Step}
    (found : d.stepByName name = some step) :
    d.before (d.nextStep name) = d.before name ++ [name] := by
  obtain ⟨_, rest, split, next⟩ := split_at found
  rw [next]
  cases rest with
  | nil =>
    rw [List.head?_nil, Option.getD_none, before_empty named]
    exact split
  | cons following rest =>
    have apart : ∀ n ∈ d.before name ++ [name], (n != following) = true := by
      intro n inFront
      have nodup := named.nodup
      rw [split, List.append_cons, List.nodup_append] at nodup
      simpa using nodup.2.2 n inFront following List.mem_cons_self
    rw [List.append_cons] at split
    have taken : d.before following = (d.before name ++ [name]) ++
        (following :: rest).takeWhile (· != following) := by
      unfold before
      unfold before at split apart
      rw [split, List.takeWhile_append_of_pos apart, ← split]
    rw [List.head?_cons, Option.getD_some, taken]
    simp

end Definition

theorem Definition.names_normalize (d : Definition) : d.normalize.names = d.names := by
  unfold Definition.names Definition.normalize
  rw [List.map_map]
  rfl

variable (r : Registered)

theorem Registered.stepProblems {i : Nat} {s : Step}
    (there : r.declared.steps[i]? = some s) : r.declared.stepProblems i s = [] := by
  have sound := r.sound
  unfold Definition.problems at sound
  have none := (List.append_eq_nil_iff.mp sound).2
  rw [List.flatten_eq_nil_iff] at none
  refine none _ (List.mem_iff_getElem?.mpr ⟨i, ?_⟩)
  rw [List.getElem?_mapIdx, there, Option.map_some]

theorem Registered.name_ne : r.definition.name ≠ "" := by
  have sound := r.sound
  simp only [Definition.problems, List.append_eq_nil_iff] at sound
  intro blank
  have empty : trimSpace r.declared.name = "" := by
    rw [show r.declared.name = "" from blank]
    rfl
  rw [if_pos empty] at sound
  exact absurd sound.1.1.1 (List.cons_ne_nil _ _)

theorem Registered.one_le_version : 1 ≤ r.definition.version := by
  have sound := r.sound
  simp only [Definition.problems, List.append_eq_nil_iff] at sound
  by_contra less
  have early : r.declared.version < 1 := Int.not_le.mp less
  rw [if_pos early] at sound
  exact absurd sound.1.1.2 (List.cons_ne_nil _ _)

theorem Registered.name_first {i : Nat} {s : Step} (there : r.declared.steps[i]? = some s) :
    s.name ≠ "" ∧ i ≤ (r.declared.stepIndex s.name).getD i := by
  have none := r.stepProblems there
  simp only [Definition.stepProblems, List.append_eq_nil_iff] at none
  obtain ⟨⟨⟨⟨⟨⟨required, unreachable⟩, _⟩, _⟩, _⟩, _⟩, _⟩ := none
  have named : s.name ≠ "" := by
    intro blank
    have empty : trimSpace s.name = "" := by
      rw [blank]
      rfl
    rw [if_pos empty] at required
    exact absurd required (List.cons_ne_nil _ _)
  refine ⟨named, Nat.le_of_not_lt fun earlier => ?_⟩
  rw [if_pos ⟨earlier, named⟩] at unreachable
  exact absurd unreachable (List.cons_ne_nil _ _)

theorem Registered.named : r.definition.Named := by
  have same : r.definition.names = r.declared.names := r.declared.names_normalize
  have nameAt : ∀ {i : Nat} {name : String}, r.declared.names[i]? = some name →
      ∃ s, r.declared.steps[i]? = some s ∧ s.name = name := by
    intro i name there
    rwa [Definition.names, List.getElem?_map, Option.map_eq_some_iff] at there
  constructor
  · rw [same, List.nodup_iff_getElem?_ne_getElem?]
    intro i j before inside twice
    obtain ⟨name, there⟩ : ∃ name, r.declared.names[j]? = some name :=
      ⟨_, List.getElem?_eq_getElem inside⟩
    obtain ⟨s, later, rfl⟩ := nameAt there
    obtain ⟨s', earlier, alike⟩ := nameAt (twice.trans there)
    have first := (r.name_first later).2
    -- The search by name stops at the earlier of the two.
    cases found : r.declared.stepIndex s.name with
    | none =>
      have nowhere := List.findIdx?_eq_none_iff.mp found s' (List.mem_of_getElem? earlier)
      simp [alike] at nowhere
    | some =>
      rw [found, Option.getD_some] at first
      have least := (List.findIdx?_eq_some_iff_getElem.mp found).2.2 i (by omega)
      rw [List.getElem?_eq_some_iff] at earlier
      obtain ⟨_, given⟩ := earlier
      simp [given, alike] at least
  · rw [same]
    intro blank
    obtain ⟨i, there⟩ := List.mem_iff_getElem?.mp blank
    obtain ⟨s, found, empty⟩ := nameAt there
    exact (r.name_first found).1 empty

abbrev WorkflowID := String
abbrev StepID := String

structure SignalRecord where
  data : String
  principal : String
  scopes : List String
  reason : String
  sourceIP : String
  idempotencyKey : String
  receivedAt : Time
  consumedAt : Option Time

structure CancelRecord where
  requested : Bool
  reason : String
  actor : String
  requestedAt : Time

/-- What the context says about the compensation of a step. -/
inductive CompensationMark where
  | done | failed
  deriving DecidableEq

inductive AbortCause where
  | failure | cancel
  deriving DecidableEq

/-- The engine's own bookkeeping.  An empty `abortCause` is `none`. -/
structure MetaRecord where
  crashCount : Nat
  lookupFirst : Bool
  compensations : String → Option CompensationMark
  abortCause : Option AbortCause
  failure : Option FailureRecord
  parkReason : String
  waitingFor : String

/-- The decoded context column, with its maps as functions; decoding gives back what the engine
encoded. -/
structure InstanceContext where
  steps : String → Option String
  signals : String → Option SignalRecord
  progress : String → String → Option String
  cancel : Option CancelRecord
  bookkeeping : MetaRecord

namespace InstanceContext

def empty : InstanceContext where
  steps := fun _ => none
  signals := fun _ => none
  progress := fun _ _ => none
  cancel := none
  bookkeeping :=
    { crashCount := 0, lookupFirst := false, compensations := fun _ => none, abortCause := none
      failure := none, parkReason := "", waitingFor := "" }

variable (c : InstanceContext)

/-- An output of length zero is stored as JSON null. -/
def putStep (name out : String) : InstanceContext :=
  { c with steps := Function.update c.steps name (some (if out = "" then "null" else out)) }

def putProgress (step key value : String) : InstanceContext :=
  { c with
    progress := Function.update c.progress step
      (Function.update (c.progress step) key (some value)) }

def putSignal (name : String) (s : SignalRecord) : InstanceContext :=
  { c with signals := Function.update c.signals name (some s) }

def markCompensation (step : String) (m : CompensationMark) : InstanceContext :=
  { c with
    bookkeeping :=
      { c.bookkeeping with
        compensations := Function.update c.bookkeeping.compensations step (some m) } }

def cancelRequested : Bool := c.cancel.any (·.requested)

end InstanceContext

/-- `WorkflowInstanceRecord`. -/
structure Instance where
  id : WorkflowID
  tenantID : TenantID
  definition : String
  version : Int
  businessKey : String
  state : InstanceState
  currentStep : String
  input : String
  context : InstanceContext
  attempt : Nat
  leaseOwner : String
  leaseEpoch : Nat
  leaseUntil : Option Time
  runAfter : Time
  lastError : String
  completedAt : Option Time

/-- `WorkflowStepRecord`. -/
structure StepRecord where
  id : StepID
  workflowID : WorkflowID
  tenantID : TenantID
  name : String
  sequence : Nat
  state : StepState
  attempt : Nat
  input : String
  output : String
  error : String
  startedAt : Option Time
  completedAt : Option Time
  compensatedAt : Option Time

/-- What an activity is given; the accumulated outputs are the map itself. -/
structure Input where
  workflowID : WorkflowID
  tenantID : TenantID
  businessKey : String
  step : String
  attempt : Nat
  idempotencyKey : String
  payload : String
  context : String → Option String
  signal : String
  signalPrincipal : String
  lookupFirst : Bool

/-- What a running activity asks of the engine, and the ticks of the heartbeater beside it. -/
inductive Hook where
  | tick
  | heartbeat
  | checkpoint (key value : String)

inductive Returned where
  | output (out : String)
  | failed (err : StepError)
  | panicked (reason : String)

/-- One execution of an activity: what it asked of the engine, how it ended, and whether its
deadline had passed or the worker was being shut down then. -/
structure Execution where
  hooks : List Hook
  returned : Returned
  deadlined : Bool
  cancelled : Bool

structure SignalPayload where
  data : String
  principal : String
  scopes : List String
  reason : String
  sourceIP : String
  idempotencyKey : String
  receivedAt : Time
  deriving DecidableEq

end PaymentsPlatform.Workflows
