/- layer: results
   digest: When an attempt after one with an unknown outcome looks first, and when an instance that
     ends an abort has run every compensation that it owed. -/

import PaymentsPlatform.Workflows.Alone

namespace PaymentsPlatform.Workflows

open Lib.Operations Lib.Processes Lib.TransitionSystem

section Ambiguity

/-- How an attempt of a step ended, as the engine classifies it. -/
inductive AttemptEnd where
  | success | ambiguous | otherwise
  deriving DecidableEq

variable (e : Engine) (d : Definition)

def attemptEnd (step : Step) (id : WorkflowID) (x : Execution) : AttemptEnd :=
  match x.result e step id false with
  | .ok _ => .success
  | .error err =>
    if classifyStep err step.sideEffecting = .ambiguous then .ambiguous else .otherwise

/-- The engine writes the end of the attempt down; it does not if the activity's own error reads
as a lost lease. -/
def writtenDown (step : Step) (id : WorkflowID) (x : Execution) : Bool :=
  match x.result e step id false with
  | .ok _ => true
  | .error err => !err.isSentinel errLeaseLost

theorem attemptEnd_ok {e : Engine} {step : Step} {id : WorkflowID} {x : Execution} {out : String}
    (given : x.result e step id false = .ok out) : attemptEnd e step id x = .success := by
  unfold attemptEnd
  rw [given]

theorem attemptEnd_ambiguous {e : Engine} {step : Step} {id : WorkflowID} {x : Execution}
    {err : StepError} (given : x.result e step id false = .error err)
    (ended : attemptEnd e step id x = .ambiguous) :
    classifyStep err step.sideEffecting = .ambiguous := by
  unfold attemptEnd at ended
  rw [given] at ended
  dsimp only at ended
  split at ended
  · next sorted => exact sorted
  · exact AttemptEnd.noConfusion ended

/-- The steps with an attempt that ended ambiguously and none since that succeeded. -/
def ambiguityWatch : Watch (List String) where
  start := []
  saved g _ _ := g
  wrote g _ := g
  ran g input x :=
    match (d.stepByName input.step).map fun step => attemptEnd e step input.workflowID x with
    | some .success => g.filter (· ≠ input.step)
    | some .ambiguous => input.step :: g
    | _ => g
  undid g _ := g
  leased g := g

/-- The flag of a context that makes the next attempt look first. -/
abbrev InstanceContext.looks (c : InstanceContext) : Bool := c.bookkeeping.lookupFirst

def Flagged (flag : Bool) (unsettled : List String) : Prop := unsettled ≠ [] → flag = true

/-- An attempt ends ambiguously only if it has looked first or another one is left; a requeue is
made only if nothing is unsettled; and until the flag is stored nothing fails or stops. -/
def ambiguityHandled : Pact (List String) where
  starts x r :=
    match r with
    | .requeue _ _ _ => x.2 = []
    | _ => True
  runs _ input x := ∀ step, d.stepByName input.step = some step →
    attemptEnd e step input.workflowID x = .ambiguous → input.lookupFirst = true ∨
      (input.attempt : Int) < step.retry.maxAttempts ∧ writtenDown e step input.workflowID x = true
  calm x := Flagged x.1.inst.context.looks x.2

/-- The step can be attempted again: it is not done and its attempts run an activity. -/
structure Attemptable (d : Definition) (rows : List StepRecord) (name : String) : Prop where
  open_ : doneIn rows name = false
  applied : ∀ step, d.stepByName name = some step → step.manualGate = true → step.activity ≠ ""

def Placed (i : Instance) (rows : List StepRecord) (unsettled : List String) : Prop :=
  i.state.given = false → ∀ name ∈ unsettled, name = i.currentStep ∧ Attemptable d rows name

structure Handled (d : Definition) (i : Instance) (rows : List StepRecord) (unsettled : List String) :
    Prop where
  placed : Placed d i rows unsettled
  flagged : Flagged i.context.looks unsettled

structure Copied (i : Instance) (l : Local) : Prop where
  state : i.state = l.inst.state
  cursor : i.currentStep = l.inst.currentStep
  own : l.inst.context.looks = i.context.looks
  decoded : l.cctx.looks = i.context.looks

structure Attempting (d : Definition) (i : Instance) (rows : List StepRecord)
    (unsettled : List String) (l : Local) (step : Step) : Prop where
  stored : i.currentStep = step.name
  cursor : l.inst.currentStep = step.name
  found : d.stepByName step.name = some step
  open_ : doneIn rows step.name = false
  only : ∀ name ∈ unsettled, name = step.name
  applied : unsettled ≠ [] → step.manualGate = true → step.activity ≠ ""
  own : l.inst.context.looks = i.context.looks
  decoded : l.cctx.looks = i.context.looks

def AmbiguityInv (x : Store × List String) : Stage → Prop
  | .arrived r => Handled d x.1.inst x.1.steps x.2 ∧ (ambiguityHandled e d).starts x r
  | .holding r i =>
    x.1.inst = i ∧ Handled d i x.1.steps x.2 ∧ (ambiguityHandled e d).starts x r
  | .leased i => x.1.inst = i ∧ Handled d i x.1.steps x.2
  | .ended | .answered _ => Handled d x.1.inst x.1.steps x.2
  | .ready l => Handled d x.1.inst x.1.steps x.2 ∧ Copied x.1.inst l
  | .surveyed rows l =>
    rows = listed x.1.steps ∧ Handled d x.1.inst x.1.steps x.2 ∧ Copied x.1.inst l
  | .fresh step l => Attempting d x.1.inst x.1.steps x.2 l step ∧ Flagged x.1.inst.context.looks x.2
  | .running step row l => Attempting d x.1.inst x.1.steps x.2 l step ∧
      Flagged x.1.inst.context.looks x.2 ∧ row.name = step.name ∧
      row.attempt = l.inst.attempt + 1 ∧ (step.manualGate = true → step.activity ≠ "")
  | .executed step row execution l => Attempting d x.1.inst x.1.steps x.2 l step ∧
      row.name = step.name ∧
      (Flagged x.1.inst.context.looks x.2 ∨
        attemptEnd e step l.inst.id execution = .ambiguous ∧
          (row.attempt : Int) < step.retry.maxAttempts ∧
          writtenDown e step l.inst.id execution = true) ∧
      (attemptEnd e step l.inst.id execution = .success → x.2 = [])
  | .recorded step row failure l => Attempting d x.1.inst x.1.steps x.2 l step ∧
      row.name = step.name ∧
      (Flagged x.1.inst.context.looks x.2 ∨
        failure.failureClass = .ambiguous ∧ (row.attempt : Int) < step.retry.maxAttempts)
  | .scheduled _ _ l | .aborting _ _ l => Placed d x.1.inst x.1.steps x.2 ∧
      (∀ name ∈ x.2, name = l.inst.currentStep ∧ Attemptable d x.1.steps name) ∧
      Flagged l.cctx.looks x.2
  | .condemned _ l => Placed d x.1.inst x.1.steps x.2 ∧ Flagged l.cctx.looks x.2
  | .succeeded _ _ => x.2 = []
  | .walking _ _ _ l | .interrupted l | .undoing _ _ _ _ _ l | .undone _ _ _ _ _ l
  | .rolledBack l => x.1.inst.state.given = true ∧ l.inst.state.given = true ∧
      Flagged x.1.inst.context.looks x.2 ∧ l.inst.context.looks = x.1.inst.context.looks ∧
      l.cctx.looks = x.1.inst.context.looks

section Moves

variable {e : Engine} {d : Definition} {x : Store × List String} {s : Store} {g : List String}
  {stage next : Stage} {i j : Instance} {rows : List StepRecord} {l : Local} {step : Step}

theorem Flagged.of_eq {a b : Bool} (h : Flagged a g) (same : b = a) : Flagged b g := same ▸ h

theorem Placed.of_given (given : i.state.given = true) : Placed d i rows g := by
  intro open_
  rw [given] at open_
  exact absurd open_ Bool.true_eq_false_eq_False

theorem Placed.of_same (h : Placed d i rows g) (state : j.state = i.state)
    (cursor : j.currentStep = i.currentStep) : Placed d j rows g := by
  unfold Placed
  rw [state, cursor]
  exact h

theorem Attempting.attemptable (h : Attempting d i rows g l step) (unsettled : g ≠ []) :
    Attemptable d rows step.name := by
  refine ⟨h.open_, fun other found => ?_⟩
  obtain rfl := Option.some.inj (h.found.symm.trans found)
  exact h.applied unsettled

theorem Attempting.here (h : Attempting d i rows g l step) :
    ∀ name ∈ g, name = step.name ∧ Attemptable d rows name := by
  intro name mem
  obtain rfl := h.only name mem
  exact ⟨rfl, h.attemptable (List.ne_nil_of_mem mem)⟩

theorem Attempting.placed (h : Attempting d i rows g l step) : Placed d i rows g := by
  intro _ name mem
  rw [h.stored]
  exact h.here name mem

theorem Attempting.atCursor (h : Attempting d i rows g l step) :
    ∀ name ∈ g, name = l.inst.currentStep ∧ Attemptable d rows name := by
  rw [h.cursor]
  exact h.here

theorem AmbiguityInv.core (h : AmbiguityInv e d x stage) : Placed d x.1.inst x.1.steps x.2 := by
  cases stage with
  | arrived => exact h.1.placed
  | holding => exact h.1 ▸ h.2.1.placed
  | leased => exact h.1 ▸ h.2.placed
  | ready => exact h.1.placed
  | surveyed => exact h.2.1.placed
  | fresh | running | executed | recorded => exact h.1.placed
  | scheduled | aborting | condemned => exact h.1
  | succeeded =>
    intro _ name mem
    rw [show x.2 = [] from h] at mem
    exact absurd mem List.not_mem_nil
  | ended | answered => exact h.placed
  | walking | interrupted | undoing | undone | rolledBack => exact .of_given h.1

theorem AmbiguityInv.handled {r : Request} (h : AmbiguityInv e d x (.holding r i)) :
    Handled d x.1.inst x.1.steps x.2 := by
  rw [h.1]
  exact h.2.1

theorem Handled.forward (h : Handled d i rows g) (copied : Copied i l) (forward : l.forward) :
    ∀ name ∈ g, name = l.inst.currentStep ∧ Attemptable d rows name := by
  rw [← copied.cursor]
  exact h.placed (by rw [copied.state]; exact forward.not_given)

theorem Handled.settled (h : Handled d i rows g) (copied : Copied i l) (forward : l.forward)
    (done : doneIn rows l.inst.currentStep = true) : g = [] := by
  refine List.eq_nil_iff_forall_not_mem.mpr fun name mem => ?_
  obtain ⟨rfl, attemptable⟩ := h.forward copied forward name mem
  rw [attemptable.open_] at done
  exact Bool.false_ne_true done

variable {row : StepRecord}

theorem AmbiguityInv.flagged {failure : FailureRecord}
    (h : AmbiguityInv e d x (.recorded step row failure l))
    (other : failure.failureClass ≠ .ambiguous) : Flagged l.cctx.looks x.2 :=
  (h.2.2.resolve_right fun sorted => other sorted.1).of_eq h.1.decoded

theorem ambiguity_turns (h : AmbiguityInv e d x stage) (move : Turning d stage next) :
    AmbiguityInv e d x next := by
  cases move with
  | refused => exact h.1
  | returned | known | requested => exact h.handled
  | polls => exact ⟨h.handled, trivial⟩
  | worked | resumed | swept => exact h
  | rests => exact h.1
  | cancels forward =>
    exact ⟨h.1.placed, h.1.forward h.2 forward, h.1.flagged.of_eq h.2.decoded⟩
  | enters current open_ =>
    obtain ⟨rfl, handled, copied⟩ := h
    have named := (Definition.split_at current.found).1
    have found := current.found
    rw [doneIn_listed] at open_
    have at_ := handled.forward copied current.forward
    rw [← named] at at_ found
    exact ⟨{
      stored := copied.cursor.trans named.symm
      cursor := named.symm
      found := found
      open_ := open_
      only := fun name mem => (at_ name mem).1
      applied := fun unsettled => by
        obtain ⟨name, mem⟩ := List.exists_mem_of_ne_nil _ unsettled
        obtain ⟨rfl, attemptable⟩ := at_ name mem
        exact attemptable.applied _ found
      own := copied.own
      decoded := copied.decoded }, handled.flagged⟩
  | stuck => exact ⟨h.1.placed, h.2⟩
  | declines sort => exact ⟨h.1.placed, h.1.atCursor, h.flagged (by rw [sort]; decide)⟩
  | walks unwinding =>
    obtain ⟨_, handled, copied⟩ := h
    exact ⟨by rw [copied.state, unwinding]; rfl, by rw [unwinding]; rfl, handled.flagged,
      copied.own, copied.decoded⟩
  | skips => exact h

theorem Placed.of_nil (none : g = []) : Placed d i rows g := by
  intro _ name mem
  rw [none] at mem
  exact absurd mem List.not_mem_nil

theorem Flagged.of_nil {flag : Bool} (none : g = []) : Flagged flag g := fun some => absurd none some

theorem Handled.of_cursor (at_ : ∀ name ∈ g, name = i.currentStep ∧ Attemptable d rows name)
    (flagged : Flagged i.context.looks g) : Handled d i rows g :=
  ⟨fun _ => at_, flagged⟩

theorem Handled.of_given (given : i.state.given = true) (flagged : Flagged i.context.looks g) :
    Handled d i rows g :=
  ⟨.of_given given, flagged⟩

theorem Handled.of_nil (none : g = []) : Handled d i rows g := ⟨.of_nil none, .of_nil none⟩

theorem Handled.of_same (h : Handled d i rows g) (state : j.state = i.state)
    (cursor : j.currentStep = i.currentStep) (looks : j.context.looks = i.context.looks) :
    Handled d j rows g :=
  ⟨h.placed.of_same state cursor, h.flagged.of_eq looks⟩

theorem ambiguity_saves (h : AmbiguityInv e d (s, g) stage) (move : Saving e d stage i next) :
    AmbiguityInv e d ({ s with inst := i }, (ambiguityWatch e d).saved g s i) next := by
  cases move with
  | signals | cancels => exact h.2.1.of_same rfl rfl rfl
  | pulls => exact ⟨h.2.1.of_same rfl rfl rfl, trivial⟩
  | requeues => exact .of_nil h.2.2
  | handsBack => exact h.2.of_same rfl rfl rfl
  | quarantines => exact .of_given rfl h.2.flagged
  | counts => exact ⟨h.2.of_same rfl rfl rfl, rfl, rfl, rfl, rfl⟩
  | releases => exact h.1.of_same h.2.state.symm h.2.cursor.symm h.2.own
  | completes forward past =>
    have at_ := h.1.forward h.2 forward
    rw [past] at at_
    exact .of_cursor at_ (h.1.flagged.of_eq h.2.decoded)
  | misses => exact .of_given rfl (h.1.flagged.of_eq h.2.decoded)
  | advances current done | concludes current done =>
    obtain ⟨rfl, handled, copied⟩ := h
    have named := (Definition.split_at current.found).1
    rw [doneIn_listed, named] at done
    exact ⟨.of_nil (handled.settled copied current.forward done), rfl, rfl, rfl, rfl⟩
  | consumes =>
    have flagged := h.2.of_eq h.1.decoded
    exact ⟨⟨h.1.cursor, h.1.cursor, h.1.found, h.1.open_, h.1.only, h.1.applied, rfl, rfl⟩, flagged⟩
  | waits | opens | expires => exact .of_cursor h.1.atCursor (h.2.of_eq h.1.decoded)
  | commits =>
    exact ⟨.of_nil h, rfl, rfl, rfl, rfl⟩
  | parks needed =>
    rcases needed with manual | spent
    · exact .of_cursor h.1.atCursor (h.flagged (by rw [manual]; decide))
    · have flagged := h.2.2.resolve_right fun sorted => spent.2 sorted.2
      exact .of_cursor h.1.atCursor (flagged.of_eq h.1.decoded)
  | backsOff => exact .of_cursor h.2.1 h.2.2
  | dies => exact .of_given rfl h.2
  | aborts => exact ⟨.of_given rfl h.2.2, rfl, rfl, rfl, rfl⟩
  | refuses => exact .of_cursor h.2.1 h.2.2
  | interrupts => exact .of_given h.2.1 (h.2.2.1.of_eq h.2.2.2.1)
  | settles => exact ⟨rfl, rfl, h.2.2.1.of_eq h.2.2.2.2, rfl, rfl⟩
  | cancelsOut | failsOut => exact .of_given rfl (h.2.2.1.of_eq h.2.2.2.2)

theorem Attempting.write {l' : Local} (h : Attempting d i rows g l step) (row : StepRecord)
    (state : StepState) (written : row.state = state) (other : state ≠ .succeeded)
    (cursor : l'.inst.currentStep = l.inst.currentStep)
    (own : l'.inst.context.looks = l.inst.context.looks) (decoded : l'.cctx.looks = l.cctx.looks) :
    Attempting d i (putRow rows row) g l' step where
  stored := h.stored
  cursor := cursor.trans h.cursor
  found := h.found
  open_ := by
    rw [Bool.eq_false_iff]
    intro done
    have before := doneIn_of_putRow (written ▸ other) done
    rw [h.open_] at before
    exact Bool.false_ne_true before
  only := h.only
  applied := h.applied
  own := own.trans h.own
  decoded := decoded.trans h.decoded

theorem ambiguity_writes (h : AmbiguityInv e d (s, g) stage)
    (move : Writing e d stage row next) :
    AmbiguityInv e d ({ s with steps := putRow s.steps row }, (ambiguityWatch e d).wrote g row)
      next := by
  cases move with
  | passes gate delivered plain =>
    by_contra unsettled
    exact h.1.applied unsettled gate plain
  | @unknown step l seq failure =>
    have work : Attempting d s.inst (putRow s.steps (deadRow step seq failure l.inst)) g l step :=
      h.1.write _ .dlq rfl (by decide) rfl rfl rfl
    exact ⟨work.placed, h.2.of_eq h.1.decoded⟩
  | begins applied =>
    exact ⟨h.1.write _ .running rfl (by decide) rfl rfl rfl, h.2, rfl, rfl, applied⟩
  | succeeds given => exact h.2.2.2 (attemptEnd_ok given)
  | fails given other classified written =>
    subst written classified
    refine ⟨h.1.write _ _ rfl (failedState_ne _ _) rfl rfl rfl, h.2.1, h.2.2.1.imp_right ?_⟩
    exact fun ⟨ended, room, _⟩ => ⟨attemptEnd_ambiguous given ended, room⟩
  | @retriesAmbiguous step row failure l =>
    have work : Attempting d s.inst (putRow s.steps { row with state := .retryScheduled }) g l step :=
      h.1.write _ .retryScheduled rfl (by decide) rfl rfl rfl
    exact ⟨work.placed, work.atCursor, fun _ => rfl⟩
  | @retriesTransient step row failure l sort =>
    have work : Attempting d s.inst (putRow s.steps { row with state := .retryScheduled }) g l step :=
      h.1.write _ .retryScheduled rfl (by decide) rfl rfl rfl
    exact ⟨work.placed, work.atCursor, h.flagged (by rw [sort]; decide)⟩
  | @condemns step row failure l sort seq =>
    have work : Attempting d s.inst (putRow s.steps (deadRow step seq failure l.inst)) g l step :=
      h.1.write _ .dlq rfl (by decide) rfl rfl rfl
    exact ⟨work.placed, h.flagged (by rw [sort]; decide)⟩
  | @drains step row failure l sort =>
    have work : Attempting d s.inst (putRow s.steps { row with state := .dlq }) g l step :=
      h.1.write _ .dlq rfl (by decide) rfl rfl rfl
    exact ⟨work.placed, work.atCursor, h.flagged (by rw [sort]; decide)⟩

theorem ambiguity_notes (h : AmbiguityInv e d (s, g) stage) (move : Noting e stage row next) :
    AmbiguityInv e d ({ s with steps := putRow s.steps row }, (ambiguityWatch e d).wrote g row)
      next ∧ AmbiguityInv e d (s, g) next := by
  cases move with
  | @abandons step row x l err given lost =>
    have flagged := h.2.2.1.resolve_right fun ended => by
      have kept := ended.2.2
      unfold writtenDown at kept
      rw [given] at kept
      dsimp only at kept
      rw [lost] at kept
      exact Bool.false_ne_true kept
    have work : Attempting d s.inst (putRow s.steps { row with state := .leaseLost }) g l step :=
      h.1.write _ .leaseLost rfl (by decide) rfl rfl rfl
    exact ⟨⟨work.placed, flagged⟩, h.1.placed, flagged⟩
  | marks | lacks | givesUp | records => exact ⟨h, h⟩

theorem ambiguity_executes (h : AmbiguityInv e d (s, g) (.running step row l))
    (sig : Option SignalRecord) (x : Execution)
    (allowed : (ambiguityHandled e d).runs (s, g) (stepInput e step sig l) x) :
    AmbiguityInv e d (s, (ambiguityWatch e d).ran g (stepInput e step sig l) x)
      (.executed step row x l) := by
  obtain ⟨work, flagged, named, attempt, applied⟩ := h
  have ran : (ambiguityWatch e d).ran g (stepInput e step sig l) x =
      match attemptEnd e step l.inst.id x with
      | .success => g.filter (· ≠ step.name)
      | .ambiguous => step.name :: g
      | .otherwise => g := by
    unfold ambiguityWatch stepInput
    dsimp only
    rw [work.found]
    dsimp only [Option.map_some]
    cases attemptEnd e step l.inst.id x <;> rfl
  rw [ran]
  cases ended : attemptEnd e step l.inst.id x with
  | success =>
    have none : g.filter (· ≠ step.name) = [] := by
      refine List.filter_eq_nil_iff.mpr fun name mem => ?_
      simp only [work.only name mem, ne_eq, not_true_eq_false, decide_false, Bool.false_eq_true,
        not_false_eq_true]
    dsimp only
    rw [none]
    exact ⟨{ work with
      only := fun name mem => absurd mem List.not_mem_nil
      applied := fun some => absurd rfl some }, named, .inl (.of_nil rfl), fun _ => rfl⟩
  | ambiguous =>
    refine ⟨{ work with
      only := fun name mem => ?_
      applied := fun _ => applied }, named, ?_, fun success => ?_⟩
    · rcases List.mem_cons.mp mem with here | earlier
      · exact here
      · exact work.only name earlier
    · rcases allowed step work.found ended with looked | ⟨room, kept⟩
      · exact .inl fun _ => work.decoded.symm.trans looked
      · refine .inr ⟨ended, ?_, kept⟩
        rw [attempt]
        exact room
    · exact AttemptEnd.noConfusion (ended.symm.trans success)
  | otherwise =>
    refine ⟨work, named, .inl flagged, fun success => ?_⟩
    exact AttemptEnd.noConfusion (ended.symm.trans success)

def LooksFirst (x : Store × List String) (input : Input) : Prop :=
  input.step ∈ x.2 → input.lookupFirst = true

theorem ambiguity_keeps :
    Keeps (ambiguityWatch e d) (ambiguityHandled e d) e d (fun x => Placed d x.1.inst x.1.steps x.2)
      LooksFirst (AmbiguityInv e d) where
  first _ := .of_nil rfl
  core h := h.core
  rest placed calm := ⟨placed, calm⟩
  starts h agreed := ⟨h, agreed⟩
  returns h := h
  pushes _ h := by cases ‹Stage› <;> exact h
  gets h := ⟨rfl, h.1, h.2⟩
  leases := by
    intro s g stage worker h leasing
    have handled : Handled d s.inst s.steps g := by
      cases leasing with
      | poll | other => exact h.1
    exact ⟨handled, fun _ t => ⟨handled.of_same rfl rfl rfl, rfl, handled.of_same rfl rfl rfl⟩⟩
  lists h move := by
    cases move with
    | surveys => exact ⟨rfl, h⟩
    | looks => exact h
  turns := ambiguity_turns
  saves := ambiguity_saves
  writes := ambiguity_writes
  notes h move := ⟨(ambiguity_notes h move).1, fun _ => (ambiguity_notes h move).2⟩
  good h sig unsettled := h.1.decoded.trans (h.2.1 (List.ne_nil_of_mem unsettled))
  executes h sig x allowed := ambiguity_executes h sig x allowed
  beats h until_ :=
    ⟨⟨h.1.stored, h.1.cursor, h.1.found, h.1.open_, h.1.only, h.1.applied, h.1.own, h.1.decoded⟩, h.2⟩
  checkpoints := by
    intro s g step row x l h cctx key value same
    subst same
    refine ⟨⟨⟨h.1.cursor, h.1.cursor, h.1.found, h.1.open_, h.1.only, h.1.applied, rfl, rfl⟩, h.2.1,
      h.2.2.1.imp_left fun flagged => flagged.of_eq h.1.decoded, h.2.2.2⟩, ?_⟩
    exact ⟨⟨h.1.stored, h.1.cursor, h.1.found, h.1.open_, h.1.only, h.1.applied, h.1.own,
      h.1.decoded⟩, h.2⟩
  stops h _ := h
  undoes h := h
  persists := by
    intro s g rows step record todo anyFailed l h i same
    subst same
    exact ⟨⟨h.2.1, h.2.1, h.2.2.1.of_eq h.2.2.2.2, rfl, rfl⟩,
      fun _ => ⟨h.1, h.2.1, h.2.2.1, h.2.2.2.2, h.2.2.2.2⟩⟩

end Moves

/-- The steps with an attempt that ended ambiguously and none since that succeeded, in a run so
far. -/
def unsettledSteps {ι : Type} (e : Engine) (d : Definition) (c : EngineConfig ι) : List String :=
  (c.world.watched (ambiguityWatch e d).observe (ambiguityWatch e d).start).2

/-- What the call of `i` is about to give an activity. -/
def nextInput {ι : Type} (c : EngineConfig ι) (i : ι) : Option Input :=
  match c.own i with
  | some (_, .perform (.execute _ input) _) => some input
  | _ => none

theorem own_of_nextInput {ι : Type} {c : EngineConfig ι} {i : ι} {input : Input}
    (about : nextInput c i = some input) :
    ∃ r activity next, c.own i = some (r, .perform (.execute activity input) next) := by
  unfold nextInput at about
  split at about
  · next r activity given next mine =>
      cases about
      exact ⟨r, activity, next, mine⟩
  · exact absurd about.symm (Option.some_ne_none _)

/-- If calls do not overlap, an attempt ends ambiguously only after it has looked first or with
another one left, the flag is stored before anything fails or stops, and no requeue is made with a
step unsettled, every attempt of an unsettled step looks first. -/
theorem looks_first_after_ambiguity {ι : Type} [DecidableEq ι] (e : Engine) (d : Definition)
    (c : EngineConfig ι)
    (h : (e.runs d ι).ReachableUnder ((ambiguityHandled e d).alone (ambiguityWatch e d)) c)
    (i : ι) (input : Input) (about : nextInput c i = some input)
    (unsettled : input.step ∈ unsettledSteps e d c) : input.lookupFirst = true := by
  obtain ⟨r, activity, next, mine⟩ := own_of_nextInput about
  exact ambiguity_keeps.runs_good h mine unsettled

instance (flag : Bool) (unsettled : List String) : Decidable (Flagged flag unsettled) :=
  inferInstanceAs (Decidable (_ → _))

instance (e : Engine) (d : Definition) (x : Store × List String) :
    ∀ r, Decidable ((ambiguityHandled e d).starts x r)
  | .requeue _ _ _ => inferInstanceAs (Decidable (x.2 = []))
  | .poll _ | .resume _ | .resumeOther _ | .signal _ _ | .cancel _ => isTrue trivial

instance (e : Engine) (d : Definition) (x : Store × List String) (input : Input)
    (execution : Execution) : Decidable ((ambiguityHandled e d).runs x input execution) :=
  match found : d.stepByName input.step with
  | none => isTrue fun _ given => absurd (found.symm.trans given).symm (Option.some_ne_none _)
  | some step => decidable_of_iff
      (attemptEnd e step input.workflowID execution = .ambiguous → input.lookupFirst = true ∨
        (input.attempt : Int) < step.retry.maxAttempts ∧
          writtenDown e step input.workflowID execution = true)
      ⟨fun holds _ given => Option.some.inj (found.symm.trans given) ▸ holds,
        fun holds => holds step found⟩

instance (e : Engine) (d : Definition) (x : Store × List String) :
    Decidable ((ambiguityHandled e d).calm x) :=
  inferInstanceAs (Decidable (Flagged x.1.inst.context.looks x.2))

open Sample (saga engine first well start lateReply)

/-- The first attempt of the first step has an unknown outcome, and the next one is about to run. -/
def retriedRun : List (Fin 1 × Act Request Choice) :=
  Sample.call first (.poll "wrk_1") (List.replicate 13 lateReply) ++
    Sample.call first (.poll "wrk_1") (List.replicate 6 { well with clock := 1000 })

theorem looks_first_after_ambiguity_retried :
    ∃ input, nextInput ((engine.runs saga.definition (Fin 1)).run (start 1)
      retriedRun) 0 = some input ∧ input.step ∈ unsettledSteps engine saga.definition
        ((engine.runs saga.definition (Fin 1)).run (start 1) retriedRun) ∧
      input.lookupFirst = true := by
  have meets : (engine.runs saga.definition (Fin 1)).Meets
      ((ambiguityHandled engine saga.definition).alone
        (ambiguityWatch engine saga.definition)) (start 1) retriedRun := by
    decide +kernel
  have ready : (nextInput ((engine.runs saga.definition (Fin 1)).run (start 1)
      retriedRun) 0).any (fun input => unsettledSteps engine saga.definition
        ((engine.runs saga.definition (Fin 1)).run (start 1)
          retriedRun) |>.contains input.step) = true := by
    decide +kernel
  obtain ⟨input, about, unsettled⟩ := (Option.any_eq_true _ _).mp ready
  have unsettled := List.contains_iff_mem.mp unsettled
  exact ⟨input, about, unsettled, looks_first_after_ambiguity engine saga.definition _
    (System.reachableUnder_run (.init (Sample.init 1)) retriedRun meets) 0 input about unsettled⟩

/-- The worker crashes after an attempt with an unknown outcome, before it has stored the flag. -/
def crashedRun : List (Fin 1 × Act Request Choice) :=
  Sample.call first (.poll "wrk_1") (List.replicate 8 lateReply) ++
    (first, .crash) ::
      Sample.call first (.poll "wrk_1") (List.replicate 6 { well with clock := 1000 })

/-- An operator requeues the instance after an attempt with an unknown outcome. -/
def requeuedRun : List (Fin 1 × Act Request Choice) :=
  Sample.call first (.poll "wrk_1") (List.replicate 13 lateReply) ++
    Sample.call first (.requeue "account" false "retry") (List.replicate 4 well) ++
    Sample.call first (.poll "wrk_1") (List.replicate 6 { well with clock := 1000 })

/-- The call of `i` is about to repeat an unsettled step without looking first. -/
def repeatsBlindly {ι : Type} (e : Engine) (d : Definition) (c : EngineConfig ι) (i : ι) : Bool :=
  (nextInput c i).any fun input =>
    (unsettledSteps e d c).contains input.step && !input.lookupFirst

/-- Either way the next attempt is blind. -/
theorem blind_after_ambiguity :
    (∃ c : EngineConfig (Fin 1), (engine.runs saga.definition (Fin 1)).Reachable c ∧
      repeatsBlindly engine saga.definition c 0 = true) ∧
    ∃ c : EngineConfig (Fin 1), (engine.runs saga.definition (Fin 1)).Reachable c ∧
      repeatsBlindly engine saga.definition c 0 = true :=
  ⟨⟨_, System.reachable_run (.init (Sample.init 1)) crashedRun, by decide +kernel⟩,
    _, System.reachable_run (.init (Sample.init 1)) requeuedRun, by decide +kernel⟩

end Ambiguity

variable (d : Definition)

/-- What an abort owes: the steps after the completed retained pivot that are done and declare a
compensation. -/
def owedSteps (rows : List StepRecord) : List String :=
  ((d.steps.drop (compensationFloor d (listed rows))).filter fun step =>
    step.compensation ≠ "" ∧ doneIn rows step.name = true).map (·.name)

/-- What was owed when the abort began, and what has been compensated since. -/
structure Abort where
  owed : List String
  undone : List String
  deriving DecidableEq

/-- An abort begins when COMPENSATING is first stored, and is over when the instance is taken
up again. -/
def abortWatch : Watch Abort where
  start := ⟨[], []⟩
  saved g s i :=
    if i.state.given = false then ⟨[], []⟩
    else if i.state = .compensating ∧ s.inst.state ≠ .compensating then ⟨owedSteps d s.steps, []⟩
    else g
  wrote g _ := g
  ran g _ _ := g
  undid g step := { g with undone := step :: g.undone }
  leased g := g

def NoMarks (c : InstanceContext) : Prop :=
  ∀ name ∈ d.names, c.bookkeeping.compensations name ≠ some .done

def Resumable (i : Instance) (rows : List StepRecord) (g : Abort) : Prop :=
  i.state = .compensating → ∀ name ∈ g.owed, name ∈ g.undone ∨ doneIn rows name = true

/-- A requeue is made only with no step marked as compensated, and during a rollback nothing
fails, stops or crashes while a step that is owed its compensation has lost its SUCCEEDED record. -/
def rollbackUndisturbed : Pact Abort where
  starts x r :=
    match r with
    | .requeue _ _ _ => NoMarks d x.1.inst.context
    | _ => True
  runs _ _ _ := True
  calm x := Resumable x.1.inst x.1.steps x.2

def Instance.reportsFailure (i : Instance) : Prop :=
  ∃ message, i.lastError = "COMPENSATION_FAILED: " ++ message

def MarksTrue (c : InstanceContext) (g : Abort) : Prop :=
  ∀ name ∈ d.names, c.bookkeeping.compensations name = some .done → name ∈ g.undone

/-- The walk from the rows would come to everything that is owed. -/
def WithinReach (rows : List StepRecord) (g : Abort) : Prop :=
  ∀ name ∈ g.owed, ∃ step ∈ d.steps.drop (compensationFloor d (listed rows)),
    step.name = name ∧ step.compensation ≠ ""

structure Accountable (d : Definition) (i : Instance) (rows : List StepRecord) (g : Abort) :
    Prop where
  forward : i.state.given = false → g.owed = [] ∧ NoMarks d i.context
  settled : i.state = .canceled ∨ i.state = .failed ∧ ¬ i.reportsFailure →
    ∀ name ∈ g.owed, name ∈ g.undone
  marks : i.state = .compensating → MarksTrue d i.context g
  reach : i.state = .compensating → WithinReach d rows g

structure AtRest (d : Definition) (i : Instance) (rows : List StepRecord) (g : Abort) : Prop where
  core : Accountable d i rows g
  resumable : Resumable i rows g

structure SameMarks (i : Instance) (l : Local) : Prop where
  state : l.inst.state = i.state
  error : l.inst.lastError = i.lastError
  own : l.inst.context.bookkeeping.compensations = i.context.bookkeeping.compensations
  decoded : l.cctx.bookkeeping.compensations = i.context.bookkeeping.compensations

/-- What holds while the worker goes forward. -/
structure Onward (d : Definition) (i : Instance) (g : Abort) (l : Local) : Prop where
  stored : i.state.given = false
  state : l.inst.state.given = false
  none : g.owed = []
  marks : NoMarks d i.context
  own : NoMarks d l.inst.context
  decoded : NoMarks d l.cctx

/-- What holds during the walk, but for what is left to do. -/
structure Unwinding (d : Definition) (i : Instance) (rows : List StepRecord) (g : Abort) (l : Local) :
    Prop where
  stored : i.state = .compensating
  state : l.inst.state = .compensating
  marks : MarksTrue d i.context g
  own : MarksTrue d l.inst.context g
  decoded : MarksTrue d l.cctx g
  reach : WithinReach d rows g

/-- What is owed is done, has failed and will be reported, is the step at hand or is ahead. -/
def Remaining (seen : List StepRecord) (todo : List Step) (anyFailed : Bool) (now : Option Step)
    (g : Abort) : Prop :=
  ∀ name ∈ g.owed, name ∈ g.undone ∨ anyFailed = true ∨ (∃ step, now = some step ∧ step.name = name) ∨
    (∃ step ∈ todo, step.name = name) ∧ doneIn seen name = true

def RollbackInv (x : Store × Abort) : Stage → Prop
  | .arrived r => AtRest d x.1.inst x.1.steps x.2 ∧ (rollbackUndisturbed d).starts x r
  | .holding r i => x.1.inst = i ∧ AtRest d i x.1.steps x.2 ∧ (rollbackUndisturbed d).starts x r
  | .leased i => x.1.inst = i ∧ AtRest d i x.1.steps x.2
  | .ended | .answered _ => AtRest d x.1.inst x.1.steps x.2
  | .ready l => AtRest d x.1.inst x.1.steps x.2 ∧ SameMarks x.1.inst l
  | .surveyed rows l =>
    rows = listed x.1.steps ∧ AtRest d x.1.inst x.1.steps x.2 ∧ SameMarks x.1.inst l
  | .fresh _ l | .running _ _ l | .executed _ _ _ l | .recorded _ _ _ l | .scheduled _ _ l
  | .condemned _ l | .succeeded _ l | .aborting _ _ l => Onward d x.1.inst x.2 l
  | .walking rows todo anyFailed l => Unwinding d x.1.inst x.1.steps x.2 l ∧
      (∀ step ∈ todo, step ∈ d.steps) ∧ Remaining rows todo anyFailed none x.2
  | .interrupted l =>
    Unwinding d x.1.inst x.1.steps x.2 l ∧ Resumable x.1.inst x.1.steps x.2
  | .undoing rows step _ todo anyFailed l => Unwinding d x.1.inst x.1.steps x.2 l ∧
      (∀ step ∈ todo, step ∈ d.steps) ∧ Remaining rows todo anyFailed (some step) x.2
  | .undone rows step _ todo anyFailed l => Unwinding d x.1.inst x.1.steps x.2 l ∧
      (∀ step ∈ todo, step ∈ d.steps) ∧ Remaining rows todo anyFailed none x.2 ∧
      step.name ∈ x.2.undone
  | .rolledBack _ => x.1.inst.state = .compensated ∧ ∀ name ∈ x.2.owed, name ∈ x.2.undone

section Moves

variable {e : Engine} {d : Definition} {x : Store × Abort} {s : Store} {g : Abort}
  {stage next : Stage} {i j : Instance} {rows : List StepRecord} {l : Local} {step : Step}

theorem Accountable.of_forward (open_ : i.state.given = false) (none : g.owed = [])
    (marks : NoMarks d i.context) : Accountable d i rows g where
  forward _ := ⟨none, marks⟩
  settled _ name mem := by
    rw [none] at mem
    exact absurd mem List.not_mem_nil
  marks unwinding := by
    rw [unwinding] at open_
    exact absurd open_ Bool.true_eq_false_eq_False
  reach unwinding := by
    rw [unwinding] at open_
    exact absurd open_ Bool.true_eq_false_eq_False

theorem Resumable.of_other (other : i.state ≠ .compensating) : Resumable i rows g :=
  fun unwinding => absurd unwinding other

theorem AtRest.of_forward (open_ : i.state.given = false) (none : g.owed = [])
    (marks : NoMarks d i.context) : AtRest d i rows g := by
  refine ⟨.of_forward open_ none marks, .of_other fun unwinding => ?_⟩
  rw [unwinding] at open_
  exact Bool.true_eq_false_eq_False open_

theorem AtRest.of_given (given : i.state.given = true) (other : i.state ≠ .compensating)
    (settled : i.state = .canceled ∨ i.state = .failed ∧ ¬ i.reportsFailure →
      ∀ name ∈ g.owed, name ∈ g.undone) : AtRest d i rows g where
  core :=
    { forward := fun open_ => by
        rw [given] at open_
        exact absurd open_ Bool.true_eq_false_eq_False
      settled := settled
      marks := fun unwinding => absurd unwinding other
      reach := fun unwinding => absurd unwinding other }
  resumable := .of_other other

theorem Onward.atRest (h : Onward d i g l) : AtRest d i rows g :=
  .of_forward h.stored h.none h.marks

theorem Unwinding.core (h : Unwinding d i rows g l) : Accountable d i rows g where
  forward open_ := by
    rw [h.stored] at open_
    exact absurd open_ Bool.true_eq_false_eq_False
  settled over_ := by
    rw [h.stored] at over_
    rcases over_ with out | ⟨out, _⟩ <;> exact InstanceState.noConfusion out
  marks _ := h.marks
  reach _ := h.reach

theorem RollbackInv.core (h : RollbackInv d x stage) : Accountable d x.1.inst x.1.steps x.2 := by
  cases stage with
  | arrived => exact h.1.core
  | holding => exact h.1 ▸ h.2.1.core
  | leased => exact h.1 ▸ h.2.core
  | ready => exact h.1.core
  | surveyed => exact h.2.1.core
  | ended | answered => exact h.core
  | walking | interrupted | undoing | undone => exact h.1.core
  | rolledBack =>
    have state := h.1
    refine (AtRest.of_given (by rw [state]; rfl) (by rw [state]; decide) fun _ => h.2).core
  | _ => exact h.atRest.core

theorem AtRest.of_same (h : AtRest d i rows g) (state : j.state = i.state)
    (error : j.lastError = i.lastError)
    (marks : j.context.bookkeeping.compensations = i.context.bookkeeping.compensations) :
    AtRest d j rows g := by
  have noMarks : NoMarks d j.context ↔ NoMarks d i.context := by
    unfold NoMarks
    rw [marks]
  have marksTrue : MarksTrue d j.context g ↔ MarksTrue d i.context g := by
    unfold MarksTrue
    rw [marks]
  have reports : j.reportsFailure ↔ i.reportsFailure := by
    unfold Instance.reportsFailure
    rw [error]
  refine ⟨⟨?_, ?_, ?_, ?_⟩, ?_⟩
  · rw [state, noMarks]
    exact h.core.forward
  · rw [state, reports]
    exact h.core.settled
  · rw [state, marksTrue]
    exact h.core.marks
  · rw [state]
    exact h.core.reach
  · unfold Resumable
    rw [state]
    exact h.resumable

theorem saved_forward (open_ : i.state.given = false) : (abortWatch d).saved g s i = ⟨[], []⟩ :=
  if_pos open_

theorem saved_begun (unwinding : i.state = .compensating) (before : s.inst.state ≠ .compensating) :
    (abortWatch d).saved g s i = ⟨owedSteps d s.steps, []⟩ := by
  unfold abortWatch
  dsimp only
  rw [unwinding, if_neg (by decide), if_pos ⟨rfl, before⟩]

theorem saved_given (given : i.state.given = true)
    (same : i.state = .compensating → s.inst.state = .compensating) :
    (abortWatch d).saved g s i = g := by
  unfold abortWatch
  dsimp only
  rw [given, if_neg (by decide), if_neg fun begun => begun.2 (same begun.1)]

theorem AtRest.saved (h : AtRest d s.inst rows g) (state : i.state = s.inst.state)
    (error : i.lastError = s.inst.lastError)
    (marks : i.context.bookkeeping.compensations = s.inst.context.bookkeeping.compensations) :
    AtRest d i rows ((abortWatch d).saved g s i) := by
  cases given : i.state.given with
  | false =>
    rw [saved_forward given]
    exact .of_forward given rfl ((h.of_same state error marks).core.forward given).2
  | true =>
    rw [saved_given given fun unwinding => state.symm.trans unwinding]
    exact h.of_same state error marks

theorem AtRest.onward (s : Store) (g : Abort) (open_ : i.state.given = false) (marks : NoMarks d i.context) :
    AtRest d i rows ((abortWatch d).saved g s i) := by
  rw [saved_forward open_]
  exact .of_forward open_ rfl marks

theorem Unwinding.saved (h : Unwinding d s.inst rows g l) (resumable : Resumable s.inst rows g)
    (unwinding : i.state = .compensating) (marks : MarksTrue d i.context g) :
    AtRest d i rows ((abortWatch d).saved g s i) := by
  rw [saved_given (by rw [unwinding]; rfl) fun _ => h.stored]
  have stored : Unwinding d i rows g ⟨i, i.context⟩ :=
    ⟨unwinding, unwinding, marks, marks, marks, h.reach⟩
  exact ⟨stored.core, fun _ => resumable h.stored⟩

theorem AtRest.failed (g : Abort) (state : i.state = .failed) (none : g.owed = []) : AtRest d i rows g := by
  refine .of_given (by rw [state]; rfl) (by rw [state]; decide) fun _ name mem => ?_
  rw [none] at mem
  exact absurd mem List.not_mem_nil

variable {seen : List StepRecord}

theorem Remaining.over (h : Remaining seen [] false none g) : ∀ name ∈ g.owed, name ∈ g.undone := by
  intro name mem
  rcases h name mem with done | failed | ⟨step, now, _⟩ | ⟨⟨step, ahead, _⟩, _⟩
  · exact done
  · exact absurd failed Bool.false_ne_true
  · exact absurd now.symm (Option.some_ne_none _)
  · exact absurd ahead List.not_mem_nil

theorem AtRest.begin (s : Store) (g : Abort) (unwinding : i.state = .compensating) (before : s.inst.state.given = false)
    (marks : NoMarks d i.context) : AtRest d i s.steps ((abortWatch d).saved g s i) := by
  have apart : s.inst.state ≠ .compensating := fun same => by
    rw [same] at before
    exact Bool.true_eq_false_eq_False before
  rw [saved_begun unwinding apart]
  have owed : ∀ name ∈ owedSteps d s.steps,
      ∃ step ∈ d.steps.drop (compensationFloor d (listed s.steps)),
        step.name = name ∧ step.compensation ≠ "" ∧ doneIn s.steps step.name = true := by
    intro name mem
    obtain ⟨step, kept, rfl⟩ := List.mem_map.mp mem
    obtain ⟨there, declared⟩ := List.mem_filter.mp kept
    exact ⟨step, there, rfl, of_decide_eq_true declared⟩
  refine ⟨⟨fun open_ => ?_, fun over_ => ?_, fun _ name mem marked => ?_, fun _ name mem => ?_⟩,
    fun _ name mem => ?_⟩
  · rw [unwinding] at open_
    exact absurd open_ Bool.true_eq_false_eq_False
  · rw [unwinding] at over_
    rcases over_ with out | ⟨out, _⟩ <;> exact InstanceState.noConfusion out
  · exact absurd marked (marks name mem)
  · obtain ⟨step, there, named, declared, _⟩ := owed name mem
    exact ⟨step, there, named, declared⟩
  · obtain ⟨step, _, rfl, _, done⟩ := owed name mem
    exact .inr done

theorem SameMarks.encoded (l : Local) : SameMarks l.encoded.inst l.encoded := ⟨rfl, rfl, rfl, rfl⟩

theorem AtRest.forward (h : AtRest d i rows g) (same : SameMarks i l) (forward : l.forward) :
    Onward d i g l := by
  have open_ : i.state.given = false := same.state ▸ forward.not_given
  obtain ⟨none, marks⟩ := h.core.forward open_
  refine ⟨open_, forward.not_given, none, marks, ?_, ?_⟩
  · unfold NoMarks
    rw [same.own]
    exact marks
  · unfold NoMarks
    rw [same.decoded]
    exact marks

theorem rollback_saves (h : RollbackInv d (s, g) stage) (move : Saving e d stage i next) :
    RollbackInv d ({ s with inst := i }, (abortWatch d).saved g s i) next := by
  cases move with
  | signals | cancels =>
    obtain ⟨rfl, rest, _⟩ := h
    exact rest.saved rfl rfl rfl
  | pulls =>
    obtain ⟨rfl, rest, _⟩ := h
    exact ⟨rest.saved rfl rfl rfl, trivial⟩
  | requeues =>
    obtain ⟨rfl, _, marks⟩ := h
    exact .onward s g rfl marks
  | handsBack =>
    obtain ⟨rfl, rest⟩ := h
    exact rest.saved rfl rfl rfl
  | quarantines =>
    refine .of_given rfl InstanceState.noConfusion fun out => ?_
    rcases out with out | ⟨out, _⟩ <;> exact InstanceState.noConfusion out
  | counts =>
    obtain ⟨rfl, rest⟩ := h
    exact ⟨rest.saved rfl rfl rfl, .encoded _⟩
  | releases => exact h.1.saved h.2.state h.2.error h.2.own
  | completes forward => exact .onward s g rfl (h.1.forward h.2 forward).decoded
  | misses forward => exact .failed g rfl (h.1.forward h.2 forward).none
  | advances current =>
    exact ⟨.onward s g rfl (h.2.1.forward h.2.2 current.forward).decoded, .encoded _⟩
  | concludes current =>
    exact ⟨.onward s g rfl (h.2.1.forward h.2.2 current.forward).decoded, .encoded _⟩
  | consumes =>
    exact ⟨rfl, rfl, congrArg Abort.owed (saved_forward rfl), h.decoded, h.decoded, h.decoded⟩
  | waits | opens | expires => exact .onward s g rfl h.decoded
  | @commits step l runAfter t =>
    have state := l.committed_state (d.nextStep step.name) runAfter t
    have context := l.committed_context (d.nextStep step.name) runAfter t
    refine ⟨.onward s g ?_ ?_, rfl, rfl, rfl, rfl⟩
    · rw [state]
      split <;> rfl
    · rw [context]
      exact h.decoded
  | parks | backsOff => exact .onward s g rfl h.decoded
  | dies => exact .failed g rfl h.none
  | aborts => exact ⟨.begin s g rfl h.stored h.decoded, .encoded _⟩
  | refuses => exact .onward s g rfl h.decoded
  | interrupts => exact h.1.saved h.2 h.1.state h.1.own
  | settles => exact ⟨rfl, h.2.2.over⟩
  | cancelsOut => exact .of_given rfl InstanceState.noConfusion fun _ => h.2
  | @failsOut rows anyFailed =>
    refine .of_given rfl InstanceState.noConfusion fun out => ?_
    cases anyFailed with
    | false => exact h.2.2.over
    | true =>
      rcases out with out | ⟨_, silent⟩
      · exact InstanceState.noConfusion out
      · exact absurd ⟨_, rfl⟩ silent

theorem RollbackInv.atRest {r : Request} (h : RollbackInv d x (.holding r i)) :
    AtRest d x.1.inst x.1.steps x.2 := by
  rw [h.1]
  exact h.2.1

theorem AtRest.walks (h : AtRest d i rows g) (same : SameMarks i l)
    (unwinding : l.inst.state = .compensating) :
    Unwinding d i rows g l ∧
      Remaining (listed rows) (d.steps.drop (compensationFloor d (listed rows))).reverse false none g := by
  have stored : i.state = .compensating := same.state.symm.trans unwinding
  have marks := h.core.marks stored
  refine ⟨⟨stored, unwinding, marks, ?_, ?_, h.core.reach stored⟩, fun name mem => ?_⟩
  · unfold MarksTrue
    rw [same.own]
    exact marks
  · unfold MarksTrue
    rw [same.decoded]
    exact marks
  · rcases h.resumable stored name mem with done | kept
    · exact .inl done
    · obtain ⟨step, there, named, _⟩ := h.core.reach stored name mem
      refine .inr (.inr (.inr ⟨⟨step, List.mem_reverse.mpr there, named⟩, ?_⟩))
      rwa [doneIn_listed]

theorem Unwinding.skip (h : Unwinding d i rows g l) (named : d.Named)
    (mem : step ∈ d.steps) (owed : step.name ∈ g.owed) (done : doneIn seen step.name = true)
    (out : Skipped seen l step) : step.name ∈ g.undone := by
  rcases out.of_done done with plain | marked
  · obtain ⟨other, there, same, declared⟩ := h.reach _ owed
    obtain rfl := List.inj_on_of_nodup_map named.nodup (List.mem_of_mem_drop there) mem same
    exact absurd plain declared
  · exact h.decoded _ (List.mem_map_of_mem mem) marked

theorem rollback_turns (named : d.Named) (h : RollbackInv d x stage) (move : Turning d stage next) :
    RollbackInv d x next := by
  cases move with
  | refused => exact h.1
  | returned | known | requested => exact h.atRest
  | polls => exact ⟨h.atRest, trivial⟩
  | worked | resumed | swept => exact h
  | rests => exact h.1
  | cancels forward => exact h.1.forward h.2 forward
  | enters current => exact h.2.1.forward h.2.2 current.forward
  | stuck => exact Onward.atRest h
  | declines => exact h
  | walks unwinding =>
    obtain ⟨rfl, rest, same⟩ := h
    obtain ⟨walk, remaining⟩ := rest.walks same unwinding
    exact ⟨walk, fun step mem => List.mem_of_mem_drop (List.mem_reverse.mp mem), remaining⟩
  | @skips rows step todo anyFailed l out =>
    obtain ⟨walk, known, remaining⟩ := h
    refine ⟨walk, fun other mem => known other (List.mem_cons_of_mem _ mem), fun name owed => ?_⟩
    rcases remaining name owed with done | failed | ⟨now, given, _⟩ | ⟨⟨other, ahead, rfl⟩, done⟩
    · exact .inl done
    · exact .inr (.inl failed)
    · exact absurd given.symm (Option.some_ne_none _)
    · rcases List.mem_cons.mp ahead with rfl | later
      · exact .inl (walk.skip named (known _ List.mem_cons_self) owed done out)
      · exact .inr (.inr (.inr ⟨⟨other, later, rfl⟩, done⟩))

theorem rollback_writes {row : StepRecord} (h : RollbackInv d (s, g) stage)
    (move : Writing e d stage row next) :
    RollbackInv d ({ s with steps := putRow s.steps row }, (abortWatch d).wrote g row) next := by
  cases move with
  | passes | begins => exact ⟨h.stored, rfl, h.none, h.marks, h.own, h.decoded⟩
  | succeeds => exact ⟨h.stored, h.state, h.none, h.marks, h.own, h.decoded⟩
  | fails =>
    exact ⟨h.stored, h.state, h.none, h.marks, h.own, h.decoded⟩
  | retriesAmbiguous => exact ⟨h.stored, h.state, h.none, h.marks, h.own, h.decoded⟩
  | unknown | retriesTransient | condemns | drains => exact h

theorem Unwinding.write (h : Unwinding d i rows g l) (row : StepRecord) (state : StepState)
    (written : row.state = state) (other : state ≠ .succeeded) :
    Unwinding d i (putRow rows row) g l := by
  refine { h with reach := fun name mem => ?_ }
  obtain ⟨step, there, named, declared⟩ := h.reach name mem
  have fewer : compensationFloor d (listed (putRow rows row)) ≤ compensationFloor d (listed rows) := by
    refine compensationFloor_le fun _ _ _ _ done => ?_
    rw [doneIn_listed] at done ⊢
    exact doneIn_of_putRow (written ▸ other) done
  exact ⟨step, (List.drop_sublist_drop_left _ fewer).subset there, named, declared⟩

theorem MarksTrue.mark {c : InstanceContext} (h : MarksTrue d c g) (name : String)
    (mark : CompensationMark) (done : mark = .done → name ∈ g.undone) :
    MarksTrue d (c.markCompensation name mark) g := by
  intro other mem marked
  unfold InstanceContext.markCompensation at marked
  dsimp only at marked
  by_cases here : other = name
  · subst here
    rw [Function.update_self] at marked
    exact done (Option.some.inj marked)
  · rw [Function.update_of_ne here] at marked
    exact h other mem marked

theorem Unwinding.fail (h : Unwinding d i rows g l) (name : String) :
    Unwinding d i rows g (l.marked name .failed) :=
  { h with decoded := h.decoded.mark name .failed fun other => CompensationMark.noConfusion other }

theorem Remaining.failed (seen : List StepRecord) (todo : List Step) (now : Option Step) (g : Abort) :
    Remaining seen todo true now g :=
  fun _ _ => .inr (.inl rfl)

theorem rollback_notes {row : StepRecord} (h : RollbackInv d (s, g) stage)
    (move : Noting e stage row next) :
    RollbackInv d ({ s with steps := putRow s.steps row }, (abortWatch d).wrote g row) next ∧
      RollbackInv d (s, g) next := by
  cases move with
  | abandons => exact ⟨Onward.atRest h, Onward.atRest h⟩
  | @marks rows step todo anyFailed =>
    obtain ⟨walk, within, remaining⟩ := h
    have later : ∀ other ∈ todo, other ∈ d.steps := fun other mem =>
      within other (List.mem_cons_of_mem _ mem)
    have left : Remaining rows todo anyFailed (some step) g := fun name owed => by
      rcases remaining name owed with done | failed | ⟨now, given, _⟩ | ⟨⟨other, ahead, rfl⟩, done⟩
      · exact .inl done
      · exact .inr (.inl failed)
      · exact absurd given.symm (Option.some_ne_none _)
      · rcases List.mem_cons.mp ahead with rfl | after
        · exact .inr (.inr (.inl ⟨_, rfl, rfl⟩))
        · exact .inr (.inr (.inr ⟨⟨other, after, rfl⟩, done⟩))
    exact ⟨⟨walk.write _ .compensating rfl (by decide), later, left⟩, walk, later, left⟩
  | lacks =>
    obtain ⟨walk, within, _⟩ := h
    have later := fun other mem => within other (List.mem_cons_of_mem _ mem)
    exact ⟨⟨(walk.write _ .compensationFailed rfl (by decide)).fail _, later, .failed _ _ _ _⟩,
      walk.fail _, later, .failed _ _ _ _⟩
  | givesUp =>
    obtain ⟨walk, within, _⟩ := h
    exact ⟨⟨(walk.write _ .compensationFailed rfl (by decide)).fail _, within, .failed _ _ _ _⟩,
      walk.fail _, within, .failed _ _ _ _⟩
  | records => exact ⟨⟨h.1.write _ .compensated rfl (by decide), h.2⟩, h⟩

theorem Unwinding.undo (h : Unwinding d i rows g l) (name : String) :
    Unwinding d i rows { g with undone := name :: g.undone } l :=
  { h with
    marks := fun other mem marked => List.mem_cons_of_mem _ (h.marks other mem marked)
    own := fun other mem marked => List.mem_cons_of_mem _ (h.own other mem marked)
    decoded := fun other mem marked => List.mem_cons_of_mem _ (h.decoded other mem marked) }

theorem Remaining.undo {todo : List Step} {anyFailed : Bool}
    (h : Remaining seen todo anyFailed (some step) g) :
    Remaining seen todo anyFailed none { g with undone := step.name :: g.undone } := by
  intro name owed
  rcases h name owed with done | failed | ⟨now, given, rfl⟩ | ahead
  · exact .inl (List.mem_cons_of_mem _ done)
  · exact .inr (.inl failed)
  · obtain rfl := Option.some.inj given
    exact .inl List.mem_cons_self
  · exact .inr (.inr (.inr ahead))

theorem Unwinding.saved_marked (h : Unwinding d s.inst rows g l) (name : String) :
    (abortWatch d).saved g s (l.marked name .done).encoded.inst = g := by
  have given : (l.marked name .done).encoded.inst.state.given = true :=
    congrArg InstanceState.given h.state
  exact saved_given given fun _ => h.stored

theorem Unwinding.persist (h : Unwinding d s.inst rows g l) (name : String)
    (done : name ∈ g.undone) :
    Unwinding d (l.marked name .done).encoded.inst rows g (l.marked name .done).encoded := by
  have marks := h.decoded.mark name .done fun _ => done
  exact ⟨h.state, h.state, marks, marks, marks, h.reach⟩

theorem rollback_keeps (named : d.Named) :
    Keeps (abortWatch d) (rollbackUndisturbed d) e d (fun x => Accountable d x.1.inst x.1.steps x.2)
      (fun _ _ => True) (RollbackInv d) where
  first := by
    intro s started
    refine .of_forward (by rw [started.state]; rfl) rfl ?_
    rw [started.context]
    exact fun _ _ => Option.some_ne_none _ ∘ Eq.symm
  core h := h.core
  rest core calm := ⟨core, calm⟩
  starts h agreed := ⟨h, agreed⟩
  returns h := h
  pushes _ h := by cases ‹Stage› <;> exact h
  gets h := ⟨rfl, h.1, h.2⟩
  leases := by
    intro s g stage worker h leasing
    have rest : AtRest d s.inst s.steps g := by
      cases leasing with
      | poll | other => exact h.1
    exact ⟨rest, fun _ t => ⟨rest.of_same rfl rfl rfl, rfl, rest.of_same rfl rfl rfl⟩⟩
  lists h move := by
    cases move with
    | surveys => exact ⟨rfl, h⟩
    | looks => exact h
  turns := rollback_turns named
  saves := rollback_saves
  writes := rollback_writes
  notes h move := ⟨(rollback_notes h move).1, fun _ => (rollback_notes h move).2⟩
  good _ _ := trivial
  executes h _ _ _ := h
  beats h until_ := ⟨h.stored, h.state, h.none, h.marks, h.own, h.decoded⟩
  checkpoints := by
    intro s g step row x l h cctx key value same
    subst same
    exact ⟨⟨h.state, h.state, congrArg Abort.owed (saved_forward h.state), h.decoded, h.decoded,
      h.decoded⟩, h.stored, h.state, h.none, h.marks, h.own, h.decoded⟩
  stops h calm := ⟨h.1, calm⟩
  undoes h := ⟨h.1.undo _, h.2.1, h.2.2.undo, List.mem_cons_self⟩
  persists := by
    intro s g rows step record todo anyFailed l h i same
    subst same
    obtain ⟨walk, within, remaining, done⟩ := h
    have marks := walk.decoded.mark step.name .done fun _ => done
    rw [walk.saved_marked]
    exact ⟨⟨walk.persist step.name done, within, remaining⟩,
      fun _ => ⟨⟨walk.stored, walk.state, walk.marks, marks, marks, walk.reach⟩, within, remaining⟩⟩

end Moves

def lastAbort {ι : Type} (d : Definition) (c : EngineConfig ι) : Abort :=
  (c.world.watched (abortWatch d).observe (abortWatch d).start).2

/-- If calls do not overlap, no requeue is made over steps marked as compensated, and a rollback is
not disturbed while a step owed its compensation has lost its SUCCEEDED record, an instance that is
CANCELED, or FAILED without a report of a failed compensation, has had every compensation run that
its abort owed. -/
theorem compensated_after_abort {ι : Type} [DecidableEq ι] (e : Engine) (d : Definition)
    (c : EngineConfig ι)
    (h : (e.runs d ι).ReachableUnder ((rollbackUndisturbed d).alone (abortWatch d)) c)
    (over_ : c.world.state.inst.state = .canceled ∨
      c.world.state.inst.state = .failed ∧ ¬ c.world.state.inst.reportsFailure) :
    ∀ name ∈ (lastAbort d c).owed, name ∈ (lastAbort d c).undone :=
  ((rollback_keeps (known_always h.reachable).named).always h).settled over_

instance (d : Definition) (x : Store × Abort) : ∀ r, Decidable ((rollbackUndisturbed d).starts x r)
  | .requeue _ _ _ => inferInstanceAs (Decidable
      (∀ name ∈ d.names, x.1.inst.context.bookkeeping.compensations name ≠ some .done))
  | .poll _ | .resume _ | .resumeOther _ | .signal _ _ | .cancel _ => isTrue trivial

instance (d : Definition) (x : Store × Abort) (input : Input) (execution : Execution) :
    Decidable ((rollbackUndisturbed d).runs x input execution) := isTrue trivial

instance (d : Definition) (x : Store × Abort) : Decidable ((rollbackUndisturbed d).calm x) :=
  inferInstanceAs (Decidable (x.1.inst.state = .compensating → ∀ name ∈ x.2.owed,
    name ∈ x.2.undone ∨ doneIn x.1.steps name = true))

open Sample (saga engine first well start)

/-- The first step is done, the worker crashes, and the instance is cancelled. -/
def cancelledRun : List (Fin 1 × Act Request Choice) :=
  Sample.call first (.poll "wrk_1") (List.replicate 11 well) ++
    (first, .crash) ::
      Sample.call first (.cancel "withdrawn") (List.replicate 5 well)

def unwoundRun : List (Fin 1 × Act Request Choice) :=
  cancelledRun ++ Sample.call first (.poll "wrk_1")
    (List.replicate 20 { well with clock := 1000 })

theorem compensated_after_abort_unwound :
    ((engine.runs saga.definition (Fin 1)).run (start 1)
      unwoundRun).world.state.inst.state = .canceled ∧
    (lastAbort saga.definition ((engine.runs saga.definition (Fin 1)).run
      (start 1) unwoundRun)).owed = ["account"] ∧
    ∀ name ∈ (lastAbort saga.definition ((engine.runs saga.definition
      (Fin 1)).run (start 1) unwoundRun)).owed,
      name ∈ (lastAbort saga.definition ((engine.runs saga.definition
        (Fin 1)).run (start 1) unwoundRun)).undone := by
  have meets : (engine.runs saga.definition (Fin 1)).Meets
      ((rollbackUndisturbed saga.definition).alone (abortWatch saga.definition))
      (start 1) unwoundRun := by
    decide +kernel
  have canceled : ((engine.runs saga.definition (Fin 1)).run (start 1)
      unwoundRun).world.state.inst.state = .canceled := by
    decide +kernel
  exact ⟨canceled, by decide +kernel, compensated_after_abort engine saga.definition _
    (System.reachableUnder_run (.init (Sample.init 1)) unwoundRun meets) (.inl canceled)⟩

/-- The worker crashes when the row of the step says COMPENSATING, and another takes over. -/
def interruptedRun : List (Fin 1 × Act Request Choice) :=
  cancelledRun ++ Sample.call first (.poll "wrk_1")
    (List.replicate 11 { well with clock := 1000 }) ++
    (first, .crash) ::
    Sample.call first (.poll "wrk_1") (List.replicate 11 { well with clock := 2000 })

/-- The instance is CANCELED and the compensation it owes has never been run. -/
theorem canceled_without_compensation :
    ∃ c : EngineConfig (Fin 1), (engine.runs saga.definition (Fin 1)).Reachable c ∧
      c.world.state.inst.state = .canceled ∧
      lastAbort saga.definition c = ⟨["account"], []⟩ :=
  ⟨_, System.reachable_run (.init (Sample.init 1)) interruptedRun, by decide +kernel,
    by decide +kernel⟩

end PaymentsPlatform.Workflows
