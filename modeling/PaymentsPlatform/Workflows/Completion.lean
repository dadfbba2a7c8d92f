/- layer: results
   digest: How many drives quarantine an instance, and when a COMPLETED one has every step done. -/

import PaymentsPlatform.Workflows.Alone

namespace PaymentsPlatform.Workflows

open Lib.Operations Lib.Processes Lib.TransitionSystem

abbrev InstanceContext.crashes (c : InstanceContext) : Nat := c.bookkeeping.crashCount

/-- What is left of `g` drives without an outcome once the instance is written. -/
def drivesAfter (g : Nat) (i : Instance) : Nat := if i.context.crashes = 0 then 0 else g

/-- The drives since an outcome was last recorded, which is what a crash count of zero says. -/
def driveWatch : Watch Nat where
  start := 0
  saved g _ i := drivesAfter g i
  wrote g _ := g
  ran g _ _ := g
  undid g _ := g
  leased g := g + 1

def Request.drives : Request → Bool
  | .poll _ | .resume _ | .resumeOther _ => true
  | _ => false

/-- A drive of a runnable instance begins only while fewer than `threshold` have begun since an
outcome was last recorded. -/
def outcomesInTime (threshold : Nat) : Pact Nat where
  starts x r := r.drives = true → x.1.inst.state.isRunnable = true → x.2 < threshold
  runs _ _ _ := True
  calm _ := True

structure Accounted (i : Instance) (drives : Nat) : Prop where
  crashes : i.context.crashes ≤ drives
  free : i.state ≠ .poisoned

structure AccountedFor (i : Instance) (drives : Nat) (l : Local) : Prop where
  stored : Accounted i drives
  own : Accounted l.inst drives
  decoded : l.cctx.crashes ≤ drives

def QuarantineInv (threshold : Nat) (x : Store × Nat) : Stage → Prop
  | .arrived r => Accounted x.1.inst x.2 ∧ (outcomesInTime threshold).starts x r
  | .holding r i => x.1.inst = i ∧ Accounted i x.2 ∧ (outcomesInTime threshold).starts x r
  | .leased i => x.1.inst = i ∧ Accounted i x.2 ∧ i.context.crashes < x.2 ∧ x.2 ≤ threshold
  | .ended | .answered _ => Accounted x.1.inst x.2
  | .ready l | .surveyed _ l | .fresh _ l | .running _ _ l | .executed _ _ _ l
  | .recorded _ _ _ l | .scheduled _ _ l | .condemned _ l | .succeeded _ l | .aborting _ _ l
  | .walking _ _ _ l | .interrupted l | .undoing _ _ _ _ _ l | .undone _ _ _ _ _ l
  | .rolledBack l => AccountedFor x.1.inst x.2 l

section Moves

variable {e : Engine} {d : Definition} {threshold : Nat} {x : Store × Nat} {s : Store} {g : Nat}
  {stage next : Stage}

theorem QuarantineInv.core (h : QuarantineInv threshold x stage) : Accounted x.1.inst x.2 := by
  cases stage with
  | arrived => exact h.1
  | holding | leased => exact h.1 ▸ h.2.1
  | ended | answered => exact h
  | _ => exact h.stored

variable {i : Instance}

theorem Accounted.save (crashes : i.context.crashes ≤ g) (state : InstanceState)
    (written : i.state = state) (free : state ≠ .poisoned) :
    Accounted i (drivesAfter g i) := by
  refine ⟨?_, written ▸ free⟩
  unfold drivesAfter
  split
  · next zero => rw [zero]
  · exact crashes

theorem drivesAfter_le (g : Nat) (i : Instance) : drivesAfter g i ≤ g := by
  unfold drivesAfter
  split
  · exact Nat.zero_le g
  · exact le_rfl

theorem AccountedFor.save {l : Local} (crashes : l.inst.context.crashes ≤ g)
    (synced : l.cctx = l.inst.context) (state : InstanceState)
    (written : l.inst.state = state) (free : state ≠ .poisoned) :
    AccountedFor l.inst (drivesAfter g l.inst) l := by
  have saved := Accounted.save crashes state written free
  exact ⟨saved, saved, synced ▸ saved.crashes⟩

theorem AccountedFor.release {l : Local} (h : AccountedFor i g l) :
    Accounted l.inst.released (drivesAfter g l.inst.released) :=
  .save h.own.crashes l.inst.state rfl h.own.free

theorem drive_turns (h : QuarantineInv threshold x stage) (move : Turning d stage next) :
    QuarantineInv threshold x next := by
  cases move with
  | polls => exact ⟨h.core, fun _ => h.2.2 rfl⟩
  | enters | cancels | declines | walks | skips => exact h
  | _ => exact h.core

theorem drive_saves (h : QuarantineInv e.poisonThreshold (s, g) stage)
    (move : Saving e d stage i next) :
    QuarantineInv e.poisonThreshold ({ s with inst := i }, driveWatch.saved g s i) next := by
  cases move with
  | signals | cancels => exact .save h.2.1.crashes _ rfl h.2.1.free
  | pulls =>
    obtain ⟨rfl, accounted, agreed⟩ := h
    refine ⟨.save accounted.crashes _ rfl accounted.free, fun _ runnable => ?_⟩
    exact lt_of_le_of_lt (drivesAfter_le _ _) (agreed rfl runnable)
  | @requeues step reset =>
    refine .save ?_ .pending rfl (by decide)
    cases reset with
    | true => exact Nat.zero_le _
    | false => exact h.2.1.crashes
  | handsBack => exact .save h.2.1.crashes _ rfl h.2.1.free
  | quarantines over_ =>
    obtain ⟨rfl, accounted, fewer, within⟩ := h
    exact absurd (lt_of_lt_of_le over_ (Nat.succ_le_of_lt fewer)) (not_lt.mpr within)
  | counts =>
    exact .save (Nat.succ_le_of_lt h.2.2.1) rfl _ rfl h.2.1.free
  | releases => exact h.release
  | completes => exact .save (Nat.zero_le g) .completed rfl (by decide)
  | misses => exact .save h.decoded .failed rfl (by decide)
  | advances => exact .save h.decoded rfl .running rfl (by decide)
  | concludes => exact .save (Nat.zero_le g) rfl .completed rfl (by decide)
  | consumes => exact .save h.decoded rfl .running rfl (by decide)
  | waits | opens => exact .save h.decoded .waitingSignal rfl (by decide)
  | expires => exact .save h.decoded .parked rfl (by decide)
  | @commits step l runAfter t =>
    have written := l.committed_context (d.nextStep step.name) runAfter t
    have state := l.committed_state (d.nextStep step.name) runAfter t
    refine .save (by rw [written]; exact h.decoded) ?_ _ state ?_
    · rw [written]
      exact l.committed_cctx _ _ _
    · split <;> decide
  | parks => exact .save h.decoded .parked rfl (by decide)
  | backsOff => exact .save h.decoded .retryBackoff rfl (by decide)
  | dies => exact .save h.decoded .failed rfl (by decide)
  | aborts => exact .save h.decoded rfl .compensating rfl (by decide)
  | refuses => exact .save h.decoded .parked rfl (by decide)
  | interrupts => exact h.release
  | settles => exact .save h.decoded rfl .compensated rfl (by decide)
  | cancelsOut => exact .save h.decoded .canceled rfl (by decide)
  | failsOut => exact .save h.decoded .failed rfl (by decide)

theorem drive_writes {row : StepRecord} (h : QuarantineInv threshold (s, g) stage)
    (move : Writing e d stage row next) :
    QuarantineInv threshold ({ s with steps := putRow s.steps row }, driveWatch.wrote g row) next := by
  have running : InstanceState.running ≠ .poisoned := by decide
  cases move with
  | passes => exact ⟨h.stored, ⟨h.own.crashes, running⟩, Nat.zero_le _⟩
  | begins => exact ⟨h.stored, ⟨h.own.crashes, running⟩, h.decoded⟩
  | succeeds => exact ⟨h.stored, ⟨h.own.crashes, h.own.free⟩, Nat.zero_le _⟩
  | fails =>
    exact ⟨h.stored, ⟨h.own.crashes, h.own.free⟩, Nat.zero_le _⟩
  | retriesAmbiguous => exact ⟨h.stored, h.own, h.decoded⟩
  | _ => exact h

theorem drive_notes {row : StepRecord} (h : QuarantineInv threshold x stage)
    (move : Noting e stage row next) : QuarantineInv threshold x next := by
  cases move with
  | abandons => exact h.stored
  | marks | records => exact h
  | lacks | givesUp => exact ⟨h.stored, h.own, h.decoded⟩

theorem drive_keeps :
    Keeps driveWatch (outcomesInTime e.poisonThreshold) e d (fun x => Accounted x.1.inst x.2)
      (fun _ _ => True) (QuarantineInv e.poisonThreshold) where
  first := by
    intro s started
    refine ⟨?_, ?_⟩
    · rw [started.context]
      exact Nat.zero_le _
    · rw [started.state]
      decide
  core h := h.core
  rest h _ := h
  starts h agreed := ⟨h, agreed⟩
  returns h := h
  pushes _ h := by cases ‹Stage› <;> exact h
  gets h := ⟨rfl, h.1, h.2⟩
  leases := by
    intro s g stage worker h leasing
    refine ⟨h.core, fun runnable t => ?_⟩
    have agreed : g < e.poisonThreshold := by
      cases leasing with
      | poll | other => exact h.2 rfl runnable
    have counted := Nat.lt_succ_of_le h.core.crashes
    exact ⟨⟨counted.le, h.core.free⟩, rfl, ⟨counted.le, h.core.free⟩, counted, agreed⟩
  lists h move := by
    cases move with
    | surveys | looks => exact h
  turns := drive_turns
  saves := drive_saves
  writes := drive_writes
  notes h move := ⟨drive_notes h move, fun _ => drive_notes h move⟩
  good _ _ := trivial
  executes h _ _ _ := h
  beats h until_ := ⟨⟨h.stored.crashes, h.stored.free⟩, h.own, h.decoded⟩
  checkpoints := by
    intro s g step row x l h cctx key value same
    subst same
    exact ⟨.save h.decoded rfl l.inst.state rfl h.own.free, h.stored, h.own, h.decoded⟩
  stops h _ := h
  undoes h := h
  persists := by
    intro s g rows step record todo anyFailed l h i same
    subst same
    exact ⟨.save h.decoded rfl l.inst.state rfl h.own.free,
      fun _ => ⟨h.stored, ⟨h.decoded, h.own.free⟩, h.decoded⟩⟩

end Moves

instance (threshold : Nat) (x : Store × Nat) (r : Request) :
    Decidable ((outcomesInTime threshold).starts x r) :=
  inferInstanceAs (Decidable (_ → _ → _))

instance (threshold : Nat) (x : Store × Nat) (input : Input) (execution : Execution) :
    Decidable ((outcomesInTime threshold).runs x input execution) := isTrue trivial

instance (threshold : Nat) (x : Store × Nat) : Decidable ((outcomesInTime threshold).calm x) :=
  isTrue trivial

/-- If calls do not overlap and an outcome is recorded at least once in as many drives as the
threshold says, the instance is never quarantined. -/
theorem never_quarantined {ι : Type} [DecidableEq ι] (e : Engine) (d : Definition)
    (c : EngineConfig ι)
    (h : (e.runs d ι).ReachableUnder ((outcomesInTime e.poisonThreshold).alone driveWatch) c) :
    c.world.state.inst.state ≠ .poisoned :=
  (drive_keeps.always h).free

open Sample (saga engine first well start)

/-- Two drives end in a crash, and the third completes the instance. -/
def recoveringRun : List (Fin 1 × Act Request Choice) :=
  Sample.call first (.poll "wrk_1")
    (List.replicate 6 well) ++ (first, .crash) ::
    Sample.call first (.poll "wrk_1")
      (List.replicate 6 { well with clock := 1000 }) ++
      (first, .crash) ::
    Sample.call first (.poll "wrk_1") (List.replicate 24 { well with clock := 2000 })

theorem never_quarantined_recovering :
    (engine.runs saga.definition (Fin 1)).Meets
      ((outcomesInTime engine.poisonThreshold).alone driveWatch) (start 1)
      recoveringRun ∧
    ((engine.runs saga.definition (Fin 1)).run (start 1)
      recoveringRun).world.state.inst.state ≠ .poisoned := by
  have meets : (engine.runs saga.definition (Fin 1)).Meets
      ((outcomesInTime engine.poisonThreshold).alone driveWatch) (start 1)
      recoveringRun := by
    decide +kernel
  exact ⟨meets, never_quarantined engine saga.definition _
    (System.reachableUnder_run (.init (Sample.init 1)) recoveringRun meets)⟩

/-! Instances that are quarantined although every drive of them has returned. -/

def allReturnNil {ι : Type} (c : EngineConfig ι) : Bool :=
  c.world.log.all fun entry =>
    match entry.2 with
    | .crashed _ => false
    | .returned _ (.error _) => false
    | _ => true

namespace Sample

def reviewStore : Store :=
  { store with inst := { store.inst with definition := "review", currentStep := "approval" } }

def reviewStart : EngineConfig (Fin 1) := ⟨⟨reviewStore, []⟩, fun _ => none⟩

theorem reviewInit : (reviewEngine.runs review.definition (Fin 1)).init reviewStart := by
  refine ⟨?_, rfl, fun _ => rfl⟩
  exact {
    known := rfl
    state := rfl
    currentStep := by decide +kernel
    context := rfl
    attempt := rfl
    epoch := rfl
    free := ⟨rfl, rfl⟩
    blank := ⟨rfl, rfl⟩
    steps := rfl
    dlq := rfl }

end Sample

/-- The gate is opened, times out and is parked, is opened again a day later and times out. -/
def gateRun : List (Fin 1 × Act Request Choice) :=
  Sample.call first (.poll "wrk_1") (List.replicate 7 well) ++
    Sample.call first (.poll "wrk_1")
      (List.replicate 9 { well with clock := 1100 }) ++
    Sample.call first (.poll "wrk_1")
      (List.replicate 7 { well with clock := 86400000001100 }) ++
    Sample.call first (.poll "wrk_1")
      (List.replicate 4 { well with clock := 86400000002100 })

/-- Three workers are shut down as soon as they have leased the instance. -/
def shutdownRun : List (Fin 1 × Act Request Choice) :=
  (List.replicate 3 (Sample.call first (.poll "wrk_1")
    (List.replicate 5 { well with ending := some .canceled }))).flatten ++
    Sample.call first (.poll "wrk_1") (List.replicate 4 well)

/-- Both are quarantined, although no drive of them crashed or lost its lease. -/
theorem quarantined_without_crash :
    (∃ c : EngineConfig (Fin 1),
      (Sample.reviewEngine.runs Sample.review.definition (Fin 1)).Reachable c ∧
        c.world.state.inst.state = .poisoned ∧ allReturnNil c = true) ∧
    ∃ c : EngineConfig (Fin 1), (engine.runs saga.definition (Fin 1)).Reachable c ∧
      c.world.state.inst.state = .poisoned ∧ allReturnNil c = true :=
  ⟨⟨_, System.reachable_run (.init Sample.reviewInit) gateRun, by decide +kernel, by decide +kernel⟩,
    _, System.reachable_run (.init (Sample.init 1)) shutdownRun, by decide +kernel, by decide +kernel⟩

/-- The steps that were compensated after their last success. -/
def undoneWatch : Watch (String → Bool) where
  start := fun _ => false
  saved g _ _ := g
  wrote g row := if row.state = .succeeded then Function.update g row.name false else g
  ran g _ _ := g
  undid g step := Function.update g step true
  leased g := g

def KeptStep (rows : List StepRecord) (undone : String → Bool) (name : String) : Prop :=
  doneIn rows name = true ∧ undone name = false

def NoneUndone (rows : List StepRecord) (undone : String → Bool) : Prop :=
  ∀ row ∈ rows, row.state = .succeeded → undone row.name = false

/-- A requeue goes back to a step before which everything is done, and is not made while a
compensated step still counts as done. -/
def requeuesInOrder (d : Definition) : Pact (String → Bool) where
  starts x r :=
    match r with
    | .requeue step _ _ =>
      (∀ name ∈ d.before (requeueTarget step x.1.inst), KeptStep x.1.steps x.2 name) ∧
        NoneUndone x.1.steps x.2
    | _ => True
  runs _ _ _ := True
  calm _ := True

instance (rows : List StepRecord) (undone : String → Bool) (name : String) :
    Decidable (KeptStep rows undone name) :=
  inferInstanceAs (Decidable (_ ∧ _))

instance (rows : List StepRecord) (undone : String → Bool) : Decidable (NoneUndone rows undone) :=
  inferInstanceAs (Decidable (∀ row ∈ rows, row.state = .succeeded → undone row.name = false))

instance (d : Definition) (x : Store × (String → Bool)) :
    ∀ r, Decidable ((requeuesInOrder d).starts x r)
  | .requeue step _ _ => inferInstanceAs (Decidable
      ((∀ name ∈ d.before (requeueTarget step x.1.inst), KeptStep x.1.steps x.2 name) ∧
        NoneUndone x.1.steps x.2))
  | .poll _ | .resume _ | .resumeOther _ | .signal _ _ | .cancel _ => isTrue trivial

instance (d : Definition) (x : Store × (String → Bool)) (input : Input) (execution : Execution) :
    Decidable ((requeuesInOrder d).runs x input execution) := isTrue trivial

instance (d : Definition) (x : Store × (String → Bool)) : Decidable ((requeuesInOrder d).calm x) :=
  isTrue trivial

structure Progress (d : Definition) (rows : List StepRecord) (undone : String → Bool)
    (cursor : String) : Prop where
  clean : NoneUndone rows undone
  kept : ∀ name ∈ d.before cursor, KeptStep rows undone name

structure Coherent (d : Definition) (i : Instance) (rows : List StepRecord) (undone : String → Bool) :
    Prop where
  progress : i.state.given = false → Progress d rows undone i.currentStep
  past : i.state = .completed → i.currentStep = ""

structure AtWork (d : Definition) (i : Instance) (rows : List StepRecord) (undone : String → Bool)
    (l : Local) (name : String) : Prop where
  stored : i.currentStep = l.inst.currentStep
  cursor : l.inst.currentStep = name
  progress : Progress d rows undone name
  storedOpen : i.state ≠ .completed
  live : l.inst.state ≠ .completed

def CompletionInv (d : Definition) (x : Store × (String → Bool)) : Stage → Prop
  | .arrived r => Coherent d x.1.inst x.1.steps x.2 ∧ (requeuesInOrder d).starts x r
  | .holding r i => x.1.inst = i ∧ Coherent d i x.1.steps x.2 ∧ (requeuesInOrder d).starts x r
  | .leased i => x.1.inst = i ∧ Coherent d i x.1.steps x.2
  | .ready l => Coherent d x.1.inst x.1.steps x.2 ∧ x.1.inst.state = l.inst.state ∧
      x.1.inst.currentStep = l.inst.currentStep
  | .surveyed rows l => rows = listed x.1.steps ∧ Coherent d x.1.inst x.1.steps x.2 ∧
      x.1.inst.state = l.inst.state ∧ x.1.inst.currentStep = l.inst.currentStep
  | .fresh step l =>
    AtWork d x.1.inst x.1.steps x.2 l step.name ∧ d.stepByName step.name = some step
  | .running step row l | .executed step row _ l =>
    AtWork d x.1.inst x.1.steps x.2 l step.name ∧ d.stepByName step.name = some step ∧
      row.name = step.name
  | .recorded step row _ l => AtWork d x.1.inst x.1.steps x.2 l step.name ∧ row.name = step.name
  | .scheduled step _ l => AtWork d x.1.inst x.1.steps x.2 l step.name
  | .condemned _ _ | .rolledBack _ | .ended | .answered _ => Coherent d x.1.inst x.1.steps x.2
  | .succeeded step l =>
    AtWork d x.1.inst x.1.steps x.2 l step.name ∧ d.stepByName step.name = some step ∧
      KeptStep x.1.steps x.2 step.name
  | .aborting _ _ l => AtWork d x.1.inst x.1.steps x.2 l l.inst.currentStep
  | .walking _ _ _ l | .interrupted l | .undoing _ _ _ _ _ l | .undone _ _ _ _ _ l =>
    x.1.inst.state = .compensating ∧ l.inst.state = .compensating

section Writes

variable {d : Definition} {rows : List StepRecord} {undone : String → Bool} {cursor : String}
  {row : StepRecord}

theorem Progress.write (h : Progress d rows undone cursor) (named : row.name = cursor)
    (open_ : row.state ≠ .succeeded) :
    Progress d (putRow rows row) (undoneWatch.wrote undone row) cursor := by
  have same : undoneWatch.wrote undone row = undone := if_neg open_
  rw [same]
  constructor
  · intro r mem done
    refine h.clean r ((mem_putRow mem).resolve_left ?_) done
    rintro rfl
    exact open_ done
  · intro name early
    obtain ⟨done, kept⟩ := h.kept name early
    refine ⟨?_, kept⟩
    rw [doneIn_putRow_of_ne]
    · exact done
    · rintro rfl
      exact d.not_mem_before _ (named ▸ early)

theorem Progress.succeed (h : Progress d rows undone cursor) (named : row.name = cursor)
    (done : row.state = .succeeded) :
    Progress d (putRow rows row) (undoneWatch.wrote undone row) cursor ∧
      KeptStep (putRow rows row) (undoneWatch.wrote undone row) cursor := by
  have cleared : undoneWatch.wrote undone row = Function.update undone cursor false := by
    rw [← named]
    exact if_pos done
  rw [cleared]
  refine ⟨⟨?_, ?_⟩, ?_, Function.update_self _ _ _⟩
  · intro r mem finished
    by_cases here : r.name = cursor
    · rw [here, Function.update_self]
    · rw [Function.update_of_ne here]
      refine h.clean r ((mem_putRow mem).resolve_left ?_) finished
      rintro rfl
      exact here named
  · intro name early
    obtain ⟨finished, kept⟩ := h.kept name early
    have apart : name ≠ cursor := by
      rintro rfl
      exact d.not_mem_before _ early
    refine ⟨?_, by rwa [Function.update_of_ne apart]⟩
    rwa [doneIn_putRow_of_ne (named ▸ apart)]
  · rw [← named]
    exact doneIn_putRow_self done

theorem Progress.next (named : d.Named) (h : Progress d rows undone cursor)
    (done : doneIn rows cursor = true) {step : Step} (found : d.stepByName cursor = some step) :
    Progress d rows undone (d.nextStep cursor) := by
  refine ⟨h.clean, fun name early => ?_⟩
  rw [Definition.before_next named found] at early
  rcases List.mem_append.mp early with before | last
  · exact h.kept name before
  · obtain rfl := List.mem_singleton.mp last
    obtain ⟨r, mem, rfl, finished⟩ := doneIn_iff.mp done
    exact ⟨done, h.clean r mem finished⟩

end Writes

section Stages

variable {d : Definition} {i j : Instance} {rows : List StepRecord} {undone : String → Bool}
  {l l' : Local} {name : String}

theorem Coherent.of_same (h : Coherent d i rows undone) (state : j.state = i.state)
    (cursor : j.currentStep = i.currentStep) : Coherent d j rows undone :=
  ⟨fun open_ => cursor ▸ h.progress (state ▸ open_), fun past => cursor ▸ h.past (state ▸ past)⟩

theorem Coherent.of_given (given : j.state.given = true) : Coherent d j rows undone := by
  refine ⟨fun open_ => ?_, fun past => ?_⟩
  · rw [given] at open_
    exact absurd open_ Bool.true_eq_false_eq_False
  · rw [past] at given
    exact absurd given Bool.false_ne_true

theorem AtWork.coherent (h : AtWork d i rows undone l name) (state : InstanceState)
    (stored : j.state = state) (cursor : j.currentStep = name) (live : state ≠ .completed) :
    Coherent d j rows undone :=
  ⟨fun _ => cursor ▸ h.progress, fun past => absurd (stored.symm.trans past) live⟩

theorem AtWork.atCursor (h : AtWork d i rows undone l name) :
    AtWork d i rows undone l l.inst.currentStep := by
  rw [h.cursor]
  exact h

theorem AtWork.stays (h : AtWork d i rows undone l name) : Coherent d i rows undone :=
  h.coherent i.state rfl (h.stored.trans h.cursor) h.storedOpen

end Stages

section Moves

variable {e : Engine} {d : Definition} {x : Store × (String → Bool)} {s : Store}
  {g : String → Bool} {stage next : Stage}

theorem CompletionInv.core (h : CompletionInv d x stage) : Coherent d x.1.inst x.1.steps x.2 := by
  cases stage with
  | arrived => exact h.1
  | holding => exact h.1 ▸ h.2.1
  | leased => exact h.1 ▸ h.2
  | ready => exact h.1
  | surveyed => exact h.2.1
  | fresh => exact h.1.stays
  | scheduled => exact h.stays
  | running | executed | recorded | succeeded => exact h.1.stays
  | aborting => exact h.stays
  | walking | interrupted | undoing | undone => exact .of_given (by rw [h.1]; rfl)
  | condemned | rolledBack | ended | answered => exact h

variable {i : Instance} {rows : List StepRecord} {l : Local}

theorem atWork_of_forward (h : Coherent d i rows g) (state : i.state = l.inst.state)
    (cursor : i.currentStep = l.inst.currentStep) (forward : l.forward) :
    AtWork d i rows g l l.inst.currentStep := by
  have live : l.inst.state ≠ .completed := fun past => forward.1 (.inl (by rw [past]; rfl))
  refine ⟨cursor, rfl, ?_, by rwa [state], live⟩
  rw [← cursor]
  refine h.progress ?_
  rw [state]
  exact forward.not_given

theorem completion_turns (h : CompletionInv d x stage) (move : Turning d stage next) :
    CompletionInv d x next := by
  cases move with
  | refused => exact h.1
  | returned | known | requested => exact h.core
  | polls => exact ⟨h.core, trivial⟩
  | worked | resumed | swept => exact h
  | rests => exact h.1
  | cancels forward => exact atWork_of_forward h.1 h.2.1 h.2.2 forward
  | enters current =>
    have work := atWork_of_forward h.2.1 h.2.2.1 h.2.2.2 current.forward
    have named := (Definition.split_at current.found).1
    have found := current.found
    rw [← named] at work found
    exact ⟨{ work with cursor := named.symm }, found⟩
  | stuck => exact h.1.stays
  | declines => exact h.1.atCursor
  | walks unwinding => exact ⟨h.2.2.1.trans unwinding, unwinding⟩
  | skips => exact h

theorem completion_saves (named : d.Named) (h : CompletionInv d (s, g) stage)
    (move : Saving e d stage i next) :
    CompletionInv d ({ s with inst := i }, undoneWatch.saved g s i) next := by
  cases move with
  | signals | cancels => exact h.2.1.of_same rfl rfl
  | pulls => exact ⟨h.2.1.of_same rfl rfl, trivial⟩
  | requeues =>
    obtain ⟨rfl, coherent, before, clean⟩ := h
    exact ⟨fun _ => ⟨clean, before⟩, fun past => InstanceState.noConfusion past⟩
  | handsBack => exact h.2.of_same rfl rfl
  | quarantines => exact .of_given rfl
  | counts => exact ⟨h.2.of_same rfl rfl, rfl, rfl⟩
  | releases => exact h.1.of_same h.2.1.symm h.2.2.symm
  | completes forward past =>
    have work := atWork_of_forward h.1 h.2.1 h.2.2 forward
    have all := work.progress
    rw [past] at all
    exact ⟨fun _ => all, fun _ => rfl⟩
  | misses => exact .of_given rfl
  | advances current done =>
    obtain ⟨rfl, coherent, state, cursor⟩ := h
    have work := atWork_of_forward coherent state cursor current.forward
    have same := (Definition.split_at current.found).1
    rw [same, doneIn_listed] at done
    have ahead := work.progress.next named done current.found
    rw [← same] at ahead
    exact ⟨⟨fun _ => ahead, fun past => InstanceState.noConfusion past⟩, rfl, rfl⟩
  | concludes current done last =>
    obtain ⟨rfl, coherent, state, cursor⟩ := h
    have work := atWork_of_forward coherent state cursor current.forward
    have same := (Definition.split_at current.found).1
    rw [same, doneIn_listed] at done
    have ahead := work.progress.next named done current.found
    rw [← same, last] at ahead
    exact ⟨⟨fun _ => ahead, fun _ => rfl⟩, rfl, rfl⟩
  | consumes =>
    have running : InstanceState.running ≠ .completed := by decide
    exact ⟨⟨rfl, h.1.cursor, h.1.progress, running, running⟩, h.2⟩
  | waits | opens => exact h.1.coherent .waitingSignal rfl h.1.cursor (by decide)
  | expires => exact h.1.coherent .parked rfl h.1.cursor (by decide)
  | @commits step l runAfter t =>
    obtain ⟨work, found, kept⟩ := h
    have ahead := work.progress.next named kept.1 found
    have cursor := l.committed_currentStep (d.nextStep step.name) runAfter t
    have state := l.committed_state (d.nextStep step.name) runAfter t
    rw [← cursor] at ahead
    refine ⟨⟨fun _ => ahead, fun past => ?_⟩, rfl, rfl⟩
    by_contra more
    rw [if_neg fun last => more (cursor.trans last)] at state
    exact InstanceState.noConfusion (state.symm.trans past)
  | parks => exact h.1.coherent .parked rfl h.1.cursor (by decide)
  | backsOff => exact h.coherent .retryBackoff rfl h.cursor (by decide)
  | dies => exact .of_given rfl
  | aborts => exact ⟨.of_given rfl, rfl, rfl⟩
  | refuses => exact h.coherent .parked rfl rfl (by decide)
  | interrupts => exact .of_given (congrArg InstanceState.given h.2)
  | settles | cancelsOut | failsOut => exact .of_given rfl

variable {name : String} {row : StepRecord}

theorem AtWork.write {l' : Local}
    (h : AtWork d i rows g l name) (state : StepState) (written : row.state = state)
    (other : state ≠ .succeeded) (named : row.name = name)
    (cursor : l'.inst.currentStep = l.inst.currentStep) (live : l'.inst.state ≠ .completed) :
    AtWork d i (putRow rows row) (undoneWatch.wrote g row) l' name :=
  ⟨h.stored.trans cursor.symm, cursor.trans h.cursor, h.progress.write named (written ▸ other),
    h.storedOpen, live⟩

theorem AtWork.drop
    (h : AtWork d i rows g l name) (row : StepRecord) (state : StepState) (written : row.state = state)
    (other : state ≠ .succeeded) (named : row.name = name) :
    Coherent d i (putRow rows row) (undoneWatch.wrote g row) :=
  (h.write state written other named rfl h.live).stays

theorem AtWork.succeed {l' : Local}
    {found : Prop} (h : AtWork d i rows g l name) (done : row.state = .succeeded)
    (named : row.name = name) (cursor : l'.inst.currentStep = l.inst.currentStep)
    (live : l'.inst.state ≠ .completed) (declared : found) :
    AtWork d i (putRow rows row) (undoneWatch.wrote g row) l' name ∧ found ∧
      KeptStep (putRow rows row) (undoneWatch.wrote g row) name := by
  obtain ⟨progress, kept⟩ := h.progress.succeed named done
  exact ⟨⟨h.stored.trans cursor.symm, cursor.trans h.cursor, progress, h.storedOpen, live⟩,
    declared, kept⟩

theorem completion_writes (h : CompletionInv d (s, g) stage)
    (move : Writing e d stage row next) :
    CompletionInv d ({ s with steps := putRow s.steps row }, undoneWatch.wrote g row) next := by
  have running : InstanceState.running ≠ .completed := by decide
  cases move with
  | passes => exact h.1.succeed rfl rfl rfl running h.2
  | unknown => exact h.1.drop _ .dlq rfl (by decide) rfl
  | begins => exact ⟨h.1.write .running rfl (by decide) rfl rfl running, h.2, rfl⟩
  | succeeds => exact h.1.succeed rfl h.2.2 rfl h.1.live h.2.1
  | fails given other classified written =>
    subst written
    exact ⟨h.1.write _ rfl (failedState_ne _ _) h.2.2 rfl h.1.live, h.2.2⟩
  | retriesAmbiguous | retriesTransient =>
    exact h.1.write .retryScheduled rfl (by decide) h.2 rfl h.1.live
  | condemns => exact h.1.drop _ .dlq rfl (by decide) rfl
  | drains => exact h.1.atCursor.write .dlq rfl (by decide) (h.2.trans h.1.cursor.symm) rfl h.1.live

theorem completion_notes (h : CompletionInv d (s, g) stage) (move : Noting e stage row next) :
    CompletionInv d ({ s with steps := putRow s.steps row }, undoneWatch.wrote g row) next ∧
      CompletionInv d (s, g) next := by
  cases move with
  | abandons => exact ⟨h.1.drop _ .leaseLost rfl (by decide) h.2.2, h.1.stays⟩
  | marks | lacks | givesUp | records => exact ⟨h, h⟩

theorem completion_keeps (named : d.Named) :
    Keeps undoneWatch (requeuesInOrder d) e d (fun x => Coherent d x.1.inst x.1.steps x.2)
      (fun _ _ => True) (CompletionInv d) where
  first := by
    intro s started
    refine ⟨fun _ => ⟨fun row mem => ?_, fun name early => ?_⟩, fun past => ?_⟩
    · rw [started.steps] at mem
      exact absurd mem List.not_mem_nil
    · rw [started.currentStep, Definition.before_first] at early
      exact absurd early List.not_mem_nil
    · rw [started.state] at past
      exact InstanceState.noConfusion past
  core h := h.core
  rest h _ := h
  starts h agreed := ⟨h, agreed⟩
  returns h := h
  pushes _ h := by cases ‹Stage› <;> exact h
  gets h := ⟨rfl, h.1, h.2⟩
  leases h leasing := ⟨h.core, fun _ t => ⟨h.core.of_same rfl rfl, rfl, h.core.of_same rfl rfl⟩⟩
  lists h move := by
    cases move with
    | surveys => exact ⟨rfl, h⟩
    | looks => exact h
  turns := completion_turns
  saves := completion_saves named
  writes := completion_writes
  notes h move := ⟨(completion_notes h move).1, fun _ => (completion_notes h move).2⟩
  good _ _ := trivial
  executes h _ _ _ := h
  beats h until_ := ⟨⟨h.1.stored, h.1.cursor, h.1.progress, h.1.storedOpen, h.1.live⟩, h.2⟩
  checkpoints h cctx key value _ :=
    ⟨⟨⟨rfl, h.1.cursor, h.1.progress, h.1.live, h.1.live⟩, h.2⟩,
      ⟨h.1.stored, h.1.cursor, h.1.progress, h.1.storedOpen, h.1.live⟩, h.2⟩
  stops h _ := h
  undoes h := h
  persists h i same := by
    subst same
    exact ⟨⟨h.2, h.2⟩, fun _ => h⟩

end Moves

/-- The steps that were compensated after their last success, in a run so far. -/
def undoneSteps {ι : Type} (c : EngineConfig ι) : String → Bool :=
  (c.world.watched undoneWatch.observe undoneWatch.start).2

/-- If calls do not overlap and requeues go back to a step before which everything is done and not
undone, an instance is COMPLETED only with every step done and not undone. -/
theorem completed_with_every_step {ι : Type} [DecidableEq ι] (e : Engine) (d : Definition)
    (c : EngineConfig ι)
    (h : (e.runs d ι).ReachableUnder ((requeuesInOrder d).alone undoneWatch) c)
    (completed : c.world.state.inst.state = .completed) :
    ∀ step ∈ d.steps, undoneSteps c step.name = false ∧
      ∃ row ∈ c.world.state.steps, row.name = step.name ∧ row.state = .succeeded := by
  have named : d.Named := (known_always h.reachable).named
  have coherent := (completion_keeps named).always h
  intro step mem
  have open_ : c.world.state.inst.state.given = false := by
    rw [completed]
    rfl
  have kept := (coherent.progress open_).kept
  rw [coherent.past completed, Definition.before_empty named] at kept
  obtain ⟨done, kept⟩ := kept step.name (List.mem_map_of_mem mem)
  exact ⟨kept, doneIn_iff.mp done⟩

/-- The first step is done, the worker crashes, and the instance is requeued at its second step
and driven. -/
def orderlyRun : List (Fin 1 × Act Request Choice) :=
  Sample.call first (.poll "wrk_1") (List.replicate 11 well) ++
    (first, .crash) ::
      Sample.call first (.requeue "gateway" true "retry") (List.replicate 4 well) ++
    Sample.call first (.poll "wrk_1") (List.replicate 24 { well with clock := 1000 })

theorem completed_with_every_step_orderly :
    (engine.runs saga.definition (Fin 1)).Meets
      ((requeuesInOrder saga.definition).alone undoneWatch) (start 1) orderlyRun ∧
    ((engine.runs saga.definition (Fin 1)).run (start 1)
      orderlyRun).world.state.inst.state = .completed ∧
    ∀ step ∈ saga.definition.steps, undoneSteps
      ((engine.runs saga.definition (Fin 1)).run (start 1) orderlyRun)
        step.name = false ∧
      ∃ row ∈ ((engine.runs saga.definition (Fin 1)).run (start 1)
        orderlyRun).world.state.steps, row.name = step.name ∧ row.state = .succeeded := by
  have meets : (engine.runs saga.definition (Fin 1)).Meets
      ((requeuesInOrder saga.definition).alone undoneWatch) (start 1) orderlyRun := by
    decide +kernel
  have completed : ((engine.runs saga.definition (Fin 1)).run (start 1)
      orderlyRun).world.state.inst.state = .completed := by
    decide +kernel
  exact ⟨meets, completed, completed_with_every_step engine saga.definition _
    (System.reachableUnder_run (.init (Sample.init 1)) orderlyRun meets) completed⟩

/-- A new instance is requeued at its last step and driven. -/
def skippingRun : List (Fin 1 × Act Request Choice) :=
  Sample.call first (.requeue "verify" false "retry") (List.replicate 4 well) ++
    Sample.call first (.poll "wrk_1") (List.replicate 14 well)

/-- It is COMPLETED without a record of its first two steps. -/
theorem completed_without_steps :
    ∃ c : EngineConfig (Fin 1), (engine.runs saga.definition (Fin 1)).Reachable c ∧
      c.world.state.inst.state = .completed ∧
      c.world.state.steps.map (fun row => (row.name, row.state)) = [("verify", .succeeded)] ∧
      saga.definition.names = ["account", "gateway", "verify"] :=
  ⟨_, System.reachable_run (.init (Sample.init 1)) skippingRun, by decide +kernel, by decide +kernel,
    by decide +kernel⟩

end PaymentsPlatform.Workflows
