/- layer: runs of the engine
   digest: Runs in which the calls on an instance do not overlap, and the invariant rule for them.
     -/

import PaymentsPlatform.Workflows.Refinement

namespace PaymentsPlatform.Workflows

open Lib.Operations Lib.Processes Lib.TransitionSystem

variable {γ : Type}

/-- What an observer makes of the instances stored, the step rows written, the activities run, the
steps undone and the leases granted. -/
structure Watch (γ : Type) where
  start : γ
  saved : γ → Store → Instance → γ
  wrote : γ → StepRecord → γ
  ran : γ → Input → Execution → γ
  undid : γ → String → γ
  leased : γ → γ

def Watch.observe (W : Watch γ) (g : γ) (s : Store) (o : Op) (a : Ans o) : γ :=
  match o, a with
  | .saveInstance i, .ok _ => W.saved g s i
  | .saveStep row, .ok _ => W.wrote g row
  | .execute _ input, x => W.ran g input x
  | .compensate _ input, none => W.undid g input.step
  | .leaseRunnable _ _, .ok (some _) => W.leased g
  | _, _ => g

/-- What is asked of a run: of requests, of executions, and of when the store may fail, the worker
may be shut down and a call may crash. -/
structure Pact (γ : Type) where
  starts : Store × γ → Request → Prop
  runs : Store × γ → Input → Execution → Prop
  calm : Store × γ → Prop

def Pact.answers (P : Pact γ) (x : Store × γ) (o : Op) (c : Choice) : Prop :=
  (c.fault.isSome = true → P.calm x) ∧
    match o with
    | .stopping => c.ending.isSome = true → P.calm x
    | .execute _ input => P.runs x input c.execution
    | _ => True

def Pact.terms (P : Pact γ) : Terms Op (Store × γ) Request Choice where
  starts := P.starts
  answers := P.answers
  crashes := P.calm

instance (P : Pact γ) [∀ x input execution, Decidable (P.runs x input execution)]
    [∀ x, Decidable (P.calm x)] (x : Store × γ) (c : Choice) : ∀ o, Decidable (P.answers x o c)
  | .stopping => inferInstanceAs (Decidable
      ((c.fault.isSome = true → P.calm x) ∧ (c.ending.isSome = true → P.calm x)))
  | .execute _ input => inferInstanceAs (Decidable
      ((c.fault.isSome = true → P.calm x) ∧ P.runs x input c.execution))
  | .now | .backoff _ _ | .pause _ | .getInstance | .leaseRunnable _ _ | .saveInstance _
  | .heartbeat _ _ _ | .saveStep _ | .listSteps | .pushDLQ _ _ | .compensate _ _ =>
    inferInstanceAs (Decidable ((c.fault.isSome = true → P.calm x) ∧ True))

/-- The calls on the instance do not overlap, and the pact is kept. -/
def Pact.alone {ι : Type} (P : Pact γ) (W : Watch γ) : EngineConfig ι → ι × Act Request Choice → Prop :=
  P.terms.alone W.observe W.start

instance {ι : Type} [Fintype ι] (P : Pact γ) (W : Watch γ) [∀ x r, Decidable (P.starts x r)]
    [∀ x input execution, Decidable (P.runs x input execution)] [∀ x, Decidable (P.calm x)]
    (c : EngineConfig ι) (label : ι × Act Request Choice) : Decidable (P.alone W c label) :=
  have : ∀ x r, Decidable (P.terms.starts x r) := inferInstanceAs (∀ x r, Decidable (P.starts x r))
  have : ∀ x o k, Decidable (P.terms.answers x o k) :=
    inferInstanceAs (∀ x o k, Decidable (P.answers x o k))
  have : ∀ x, Decidable (P.terms.crashes x) := inferInstanceAs (∀ x, Decidable (P.calm x))
  inferInstanceAs (Decidable (P.terms.alone W.observe W.start c label))

/-- What is to be shown of each move.  `Core` holds of the rows and what was observed at all times,
and `Good` of what an activity is given. -/
structure Keeps (W : Watch γ) (P : Pact γ) (e : Engine) (d : Definition) (Core : Store × γ → Prop)
    (Good : Store × γ → Input → Prop) (Inv : Store × γ → Stage → Prop) : Prop where
  first : ∀ {s}, Started e d s → Inv (s, W.start) .ended
  core : ∀ {x stage}, Inv x stage → Core x
  rest : ∀ {x}, Core x → P.calm x → Inv x .ended
  starts : ∀ {x r}, Inv x .ended → P.starts x r → Inv x (.arrived r)
  returns : ∀ {x r}, Inv x (.answered r) → Inv x .ended
  pushes : ∀ {s g stage} dlq, Inv (s, g) stage → Inv ({ s with dlq := dlq }, g) stage
  gets : ∀ {s g r}, Inv (s, g) (.arrived r) → Inv (s, g) (.holding r s.inst)
  leases : ∀ {s g stage worker}, Inv (s, g) stage → Leasing stage worker → Inv (s, g) .ended ∧
    (s.inst.state.isRunnable = true → ∀ t,
      Inv ({ s with inst := s.inst.leasedBy worker t }, W.leased g) .ended ∧
      Inv ({ s with inst := s.inst.leasedBy worker t }, W.leased g)
        (.leased (s.inst.leasedBy worker t)))
  lists : ∀ {s g stage next}, Inv (s, g) stage → Listing stage (listed s.steps) next →
    Inv (s, g) next
  turns : ∀ {x stage next}, Inv x stage → Turning d stage next → Inv x next
  saves : ∀ {s g stage i next}, Inv (s, g) stage → Saving e d stage i next →
    Inv ({ s with inst := i }, W.saved g s i) next
  writes : ∀ {s g stage row next}, Inv (s, g) stage → Writing e d stage row next →
    Inv ({ s with steps := putRow s.steps row }, W.wrote g row) next
  notes : ∀ {s g stage row next}, Inv (s, g) stage → Noting e stage row next →
    Inv ({ s with steps := putRow s.steps row }, W.wrote g row) next ∧
      (P.calm (s, g) → Inv (s, g) next)
  good : ∀ {x step row l}, Inv x (.running step row l) → ∀ sig, Good x (stepInput e step sig l)
  executes : ∀ {s g step row l}, Inv (s, g) (.running step row l) → ∀ sig x,
    P.runs (s, g) (stepInput e step sig l) x →
    Inv (s, W.ran g (stepInput e step sig l) x) (.executed step row x l)
  beats : ∀ {s g step row x l}, Inv (s, g) (.executed step row x l) → ∀ until_,
    Inv ({ s with inst := { s.inst with leaseUntil := until_ } }, g) (.executed step row x l)
  checkpoints : ∀ {s g step row x l}, Inv (s, g) (.executed step row x l) → ∀ cctx key value,
    cctx = l.cctx.putProgress step.name key value →
    Inv ({ s with inst := { l with cctx := cctx }.encoded.inst },
        W.saved g s { l with cctx := cctx }.encoded.inst)
      (.executed step row x { l with cctx := cctx }.encoded) ∧
    Inv (s, g) (.executed step row x { l with cctx := cctx })
  stops : ∀ {x rows todo anyFailed l}, Inv x (.walking rows todo anyFailed l) → P.calm x →
    Inv x (.interrupted l)
  undoes : ∀ {s g rows step record todo anyFailed l},
    Inv (s, g) (.undoing rows step record todo anyFailed l) →
    Inv (s, W.undid g step.name) (.undone rows step record todo anyFailed l)
  persists : ∀ {s g rows step record todo anyFailed l},
    Inv (s, g) (.undone rows step record todo anyFailed l) → ∀ i,
    i = (l.marked step.name .done).encoded.inst →
    Inv ({ s with inst := i }, W.saved g s i)
      (.walking rows todo anyFailed (l.marked step.name .done).encoded) ∧
    (P.calm (s, g) → Inv (s, g) (.walking rows todo anyFailed (l.marked step.name .done).encoded))

def Synced (i : Instance) (stage : Stage) : Prop :=
  ∀ origin, stage.origin = some origin → origin.1 = i.leaseEpoch

variable {i : Instance} {stage : Stage}

theorem Synced.nothing (none : stage.origin = none) : Synced i stage := by
  intro origin given
  rw [none] at given
  exact absurd given.symm (Option.some_ne_none _)

theorem Synced.of_origin {next : Stage} (h : Synced i stage)
    (same : next.origin = none ∨ next.origin = stage.origin) : Synced i next := by
  rcases same with none | same
  · exact .nothing none
  · exact fun origin given => h origin (same ▸ given)

theorem Saving.synced {e : Engine} {d : Definition} {j : Instance} {next : Stage}
    (h : Synced i stage) (move : Saving e d stage j next) :
    j.leaseEpoch = i.leaseEpoch ∧ Synced j next := by
  obtain ⟨held, then_⟩ := move.origin
  refine ⟨h _ held, fun origin given => ?_⟩
  rcases then_ with none | same
  · rw [none] at given
    exact absurd given.symm (Option.some_ne_none _)
  · rw [same] at given
    cases given
    rfl

/-! What each operation does in such a run. -/

section Moves

variable {W : Watch γ} {P : Pact γ} {e : Engine} {d : Definition} {safe : Store × γ → Op → Prop}
  {s : Store} {g : γ} {y : Store × γ}

def Pact.semantics (P : Pact γ) (W : Watch γ) (e : Engine) (d : Definition)
    (safe : Store × γ → Op → Prop) : Semantics Op Ans (Store × γ) :=
  e.machine.alone W.observe P.terms (fun s => Known e d s.inst) safe

variable {a : Except GoError Unit}

theorem moves_saveInstance {i : Instance}
    (moved : (P.semantics W e d safe).moves (s, g) (.saveInstance i) a y)
    (same : i.leaseEpoch = s.inst.leaseEpoch) :
    a = .ok () ∧ y = ({ s with inst := i }, W.saved g s i) ∨
    ∃ err, a = .error err ∧ isLeaseLost err = false ∧ y = (s, g) ∧ P.calm (s, g) := by
  obtain ⟨k, _, allowed, given, then_⟩ := moved
  rw [Engine.machine_exec] at given then_
  rcases exec_saveInstance (s := s) (c := k) i with ⟨f, faulty, done⟩ | ⟨_, done⟩ | ⟨apart, _⟩
  · rw [done] at given then_
    subst given
    exact .inr ⟨f.err, rfl, f.foreign, then_, allowed.1 (by rw [faulty]; rfl)⟩
  · rw [done] at given then_
    subst given
    exact .inl ⟨rfl, then_⟩
  · exact absurd same apart

theorem moves_saveStep {row : StepRecord}
    (moved : (P.semantics W e d safe).moves (s, g) (.saveStep row) a y) :
    a = .ok () ∧ y = ({ s with steps := putRow s.steps row }, W.wrote g row) ∨
    ∃ err, a = .error err ∧ isLeaseLost err = false ∧ y = (s, g) ∧ P.calm (s, g) := by
  obtain ⟨k, _, allowed, given, then_⟩ := moved
  rw [Engine.machine_exec] at given then_
  rcases exec_saveStep (s := s) (c := k) row with ⟨f, faulty, done⟩ | done
  · rw [done] at given then_
    subst given
    exact .inr ⟨f.err, rfl, f.foreign, then_, allowed.1 (by rw [faulty]; rfl)⟩
  · rw [done] at given then_
    subst given
    exact .inl ⟨rfl, then_⟩

theorem moves_listSteps {a : Except GoError (List StepRecord)}
    (moved : (P.semantics W e d safe).moves (s, g) .listSteps a y) :
    y = (s, g) ∧ (a = .ok (listed s.steps) ∨ ∃ err, a = .error err ∧ P.calm (s, g)) := by
  obtain ⟨k, _, allowed, given, then_⟩ := moved
  rw [Engine.machine_exec] at given then_
  rcases exec_listSteps (s := s) (c := k) with ⟨f, faulty, done⟩ | done
  · rw [done] at given then_
    exact ⟨then_, .inr ⟨f.err, given, allowed.1 (by rw [faulty]; rfl)⟩⟩
  · rw [done] at given then_
    exact ⟨then_, .inl given⟩

theorem moves_getInstance {a : Except GoError Instance}
    (moved : (P.semantics W e d safe).moves (s, g) .getInstance a y) :
    y = (s, g) ∧ (a = .ok s.inst ∧ Known e d s.inst ∨ ∃ err, a = .error err ∧ P.calm (s, g)) := by
  obtain ⟨k, known, allowed, given, then_⟩ := moved
  rw [Engine.machine_exec] at given then_
  rcases exec_getInstance (s := s) (c := k) with ⟨f, faulty, done⟩ | done
  · rw [done] at given then_
    exact ⟨then_, .inr ⟨f.err, given, allowed.1 (by rw [faulty]; rfl)⟩⟩
  · rw [done] at given then_
    exact ⟨then_, .inl ⟨given, known⟩⟩

variable {worker activity : String}

theorem moves_leaseRunnable {lease : Int} {a : Except GoError (Option Instance)}
    (moved : (P.semantics W e d safe).moves (s, g) (.leaseRunnable worker lease) a y) :
    (∃ t, s.inst.state.isRunnable = true ∧ a = .ok (some (s.inst.leasedBy worker t)) ∧
      y = ({ s with inst := s.inst.leasedBy worker t }, W.leased g) ∧
      Known e d (s.inst.leasedBy worker t)) ∨
    y = (s, g) ∧ (a = .ok none ∨ ∃ err, a = .error err ∧ P.calm (s, g)) := by
  obtain ⟨k, known, allowed, given, then_⟩ := moved
  rw [Engine.machine_exec] at given then_
  rcases exec_leaseRunnable (s := s) (c := k) worker lease with ⟨f, faulty, done⟩ | done | ⟨due, done⟩
  · rw [done] at given then_
    subst given
    exact .inr ⟨then_, .inr ⟨f.err, rfl, allowed.1 (by rw [faulty]; rfl)⟩⟩
  · rw [done] at given then_
    subst given
    exact .inr ⟨then_, .inl rfl⟩
  · rw [done] at given then_
    subst given
    simp only [Instance.due, Bool.and_eq_true] at due
    exact .inl ⟨_, due.1.1, rfl, then_, known⟩

theorem moves_heartbeat {epoch : Nat} {extend : Int}
    (moved : (P.semantics W e d safe).moves (s, g) (.heartbeat worker epoch extend) a y) :
    Settled (fun _ _ => True) (fun _ err => isLeaseLost err = false) y a ∧
    (y = (s, g) ∨ ∃ until_, y = ({ s with inst := { s.inst with leaseUntil := until_ } }, g)) := by
  obtain ⟨k, _, _, given, then_⟩ := moved
  rw [Engine.machine_exec] at given then_
  rcases exec_heartbeat (s := s) (c := k) worker epoch extend with ⟨f, _, done⟩ | ⟨_, done⟩ | done
  · rw [done] at given then_
    subst given
    exact ⟨f.foreign, .inl then_⟩
  · rw [done] at given then_
    subst given
    exact ⟨trivial, .inr ⟨_, then_⟩⟩
  · rw [done] at given then_
    subst given
    exact ⟨rfl, .inl then_⟩

theorem moves_pushDLQ {step : String} {failure : FailureRecord}
    (moved : (P.semantics W e d safe).moves (s, g) (.pushDLQ step failure) a y) :
    ∃ dlq, y = ({ s with dlq := dlq }, g) ∧ (a = .ok () ∨ ∃ err, a = .error err ∧ P.calm (s, g)) := by
  obtain ⟨k, _, allowed, given, then_⟩ := moved
  rw [Engine.machine_exec] at given then_
  rcases exec_pushDLQ (s := s) (c := k) step failure with ⟨f, faulty, done⟩ | done
  · rw [done] at given then_
    exact ⟨s.dlq, then_, .inr ⟨f.err, given, allowed.1 (by rw [faulty]; rfl)⟩⟩
  · rw [done] at given then_
    exact ⟨_, then_, .inl given⟩

theorem moves_quiet {o : Op} {a : Ans o} (quiet : o.quiet)
    (moved : (P.semantics W e d safe).moves (s, g) o a y) : y = (s, g) := by
  obtain ⟨k, _, _, _, then_⟩ := moved
  rw [Engine.machine_exec, exec_quiet quiet] at then_
  rw [then_]
  cases o <;> first | exact quiet.elim | rfl

theorem moves_stopping {reason : ContextEnd}
    (moved : (P.semantics W e d safe).moves (s, g) .stopping (some reason) y) :
    y = (s, g) ∧ P.calm (s, g) := by
  refine ⟨moves_quiet (o := .stopping) trivial moved, ?_⟩
  obtain ⟨k, _, allowed, given, _⟩ := moved
  exact allowed.2 (by rw [show k.ending = _ from given.symm]; rfl)

theorem moves_execute {input : Input} {x : Execution}
    (moved : (P.semantics W e d safe).moves (s, g) (.execute activity input) x y) :
    y = (s, W.ran g input x) ∧ P.runs (s, g) input x := by
  obtain ⟨k, _, allowed, given, then_⟩ := moved
  exact ⟨then_, by rw [given]; exact allowed.2⟩

theorem moves_compensate {input : Input} {a : Option StepError}
    (moved : (P.semantics W e d safe).moves (s, g) (.compensate activity input) a y) :
    a = none ∧ y = (s, W.undid g input.step) ∨ (∃ err, a = some err) ∧ y = (s, g) := by
  obtain ⟨k, _, _, _, then_⟩ := moved
  cases a with
  | none => exact .inl ⟨rfl, then_⟩
  | some err => exact .inr ⟨⟨err, rfl⟩, then_⟩

end Moves

section Rule

variable {W : Watch γ} {P : Pact γ} {e : Engine} {d : Definition} {Core : Store × γ → Prop}
  {Good : Store × γ → Input → Prop} {Inv : Store × γ → Stage → Prop}

/-- `Core` before every operation, and `Good` before an activity is run. -/
def Careful (Core : Store × γ → Prop) (Good : Store × γ → Input → Prop) (x : Store × γ) (o : Op) :
    Prop :=
  Core x ∧ match o with
    | .execute _ input => Good x input
    | _ => True

variable (keeps : Keeps W P e d Core Good Inv)
include keeps

variable {x : Store × γ} {stage : Stage}

theorem Keeps.careful {o : Op} (h : Inv x stage)
    (other : ∀ activity input, o ≠ .execute activity input) :
    (P.semantics W e d (Careful Core Good)).demands x o := by
  refine ⟨keeps.core h, ?_⟩
  cases o with
  | execute activity input => exact absurd rfl (other activity input)
  | _ => trivial

theorem Keeps.calm (h : Inv x stage) (calm : P.calm x) : Inv x .ended ∧ Synced x.1.inst .ended :=
  ⟨keeps.rest (keeps.core h) calm, .nothing rfl⟩

variable {next : Stage}

theorem Keeps.saves_synced {i : Instance}
    (h : Inv x stage ∧ Synced x.1.inst stage) (move : Saving e d stage i next) :
    Saves (P.semantics W e d (Careful Core Good)) (fun x stage => Inv x stage ∧ Synced x.1.inst stage)
      x i next := by
  obtain ⟨s, g⟩ := x
  obtain ⟨same, synced⟩ := move.synced h.2
  refine ⟨keeps.careful h.1 (by simp), fun a y moved => ?_⟩
  rcases moves_saveInstance moved same with ⟨rfl, rfl⟩ | ⟨err, rfl, foreign, rfl, calm⟩
  · exact ⟨keeps.saves h.1 move, synced⟩
  · exact ⟨foreign, keeps.calm h.1 calm⟩

theorem Keeps.writes_synced {row : StepRecord}
    (h : Inv x stage ∧ Synced x.1.inst stage) (move : Writing e d stage row next) :
    Writes (P.semantics W e d (Careful Core Good)) (fun x stage => Inv x stage ∧ Synced x.1.inst stage)
      x row next := by
  obtain ⟨s, g⟩ := x
  refine ⟨keeps.careful h.1 (by simp), fun a y moved => ?_⟩
  rcases moves_saveStep moved with ⟨rfl, rfl⟩ | ⟨err, rfl, foreign, rfl, calm⟩
  · exact ⟨keeps.writes h.1 move, h.2.of_origin (.inr move.origin)⟩
  · exact ⟨foreign, keeps.calm h.1 calm⟩

theorem Keeps.notes_synced {row : StepRecord}
    (h : Inv x stage ∧ Synced x.1.inst stage) (move : Noting e stage row next) :
    Notes (P.semantics W e d (Careful Core Good)) (fun x stage => Inv x stage ∧ Synced x.1.inst stage)
      x (.saveStep row) next := by
  obtain ⟨s, g⟩ := x
  refine ⟨keeps.careful h.1 (by simp), fun a y moved => ?_⟩
  rcases moves_saveStep moved with ⟨rfl, rfl⟩ | ⟨err, rfl, foreign, rfl, calm⟩
  · exact ⟨(keeps.notes h.1 move).1, h.2.of_origin move.origin⟩
  · exact ⟨(keeps.notes h.1 move).2 calm, h.2.of_origin move.origin⟩

theorem Keeps.rules :
    Rules (P.semantics W e d (Careful Core Good)) (fun x stage => Inv x stage ∧ Synced x.1.inst stage)
      e d where
  quiet := by
    intro x stage o h quiet
    refine ⟨keeps.careful h.1 fun activity input => ?_, fun a y moved => ?_⟩
    · rintro rfl
      exact quiet
    · obtain rfl := moves_quiet quiet moved
      exact h
  pushes := by
    intro x stage h step failure
    refine ⟨keeps.careful h.1 (by simp), fun a y moved => ?_⟩
    obtain ⟨dlq, rfl, rfl | ⟨err, rfl, calm⟩⟩ := moves_pushDLQ moved
    · exact ⟨⟨keeps.pushes dlq h.1, h.2⟩, trivial⟩
    · exact ⟨⟨keeps.pushes dlq h.1, h.2⟩, keeps.pushes dlq (keeps.calm h.1 calm).1, .nothing rfl⟩
  gets := by
    intro x r h
    refine ⟨keeps.careful h.1 (by simp), fun a y moved => ?_⟩
    obtain ⟨rfl, ⟨rfl, known⟩ | ⟨err, rfl, calm⟩⟩ := moves_getInstance moved
    · exact ⟨known, keeps.gets h.1, fun origin held => by cases held; rfl⟩
    · exact keeps.calm h.1 calm
  leases := by
    intro x stage worker h leasing
    refine ⟨keeps.careful h.1 (by simp), fun a y moved => ?_⟩
    obtain ⟨still, granted⟩ := keeps.leases h.1 leasing
    rcases moves_leaseRunnable moved with ⟨t, runnable, rfl, rfl, known⟩ | ⟨rfl, rfl | ⟨err, rfl, calm⟩⟩
    · refine ⟨⟨(granted runnable t).1, .nothing rfl⟩, fun i taken => ?_⟩
      cases taken
      exact ⟨known, (granted runnable t).2, fun origin held => by cases held; rfl⟩
    · exact ⟨⟨still, .nothing rfl⟩, fun i taken => absurd taken.symm (Option.some_ne_none _)⟩
    · exact keeps.calm h.1 calm
  lists := by
    intro x stage h
    refine ⟨keeps.careful h.1 (by simp), fun a y moved => ?_⟩
    obtain ⟨rfl, rfl | ⟨err, rfl, calm⟩⟩ := moves_listSteps moved
    · exact fun next move => ⟨keeps.lists h.1 move, h.2.of_origin (.inr move.origin)⟩
    · exact keeps.calm h.1 calm
  turns h move := ⟨keeps.turns h.1 move, h.2.of_origin move.origin⟩
  saves := keeps.saves_synced
  writes := keeps.writes_synced
  notes := keeps.notes_synced
  executes := by
    intro x step row l h sig
    refine ⟨⟨keeps.core h.1, keeps.good h.1 sig⟩, fun execution y moved => ?_⟩
    obtain ⟨rfl, allowed⟩ := moves_execute moved
    exact ⟨keeps.executes h.1 sig execution allowed, h.2⟩
  beats := by
    intro x step row execution l h worker
    refine ⟨keeps.careful h.1 (by simp), fun a y moved => ?_⟩
    obtain ⟨settled, rfl | ⟨until_, rfl⟩⟩ := moves_heartbeat moved
    · exact ⟨h, settled⟩
    · exact ⟨⟨keeps.beats h.1 until_, h.2⟩, settled⟩
  checkpoints := by
    intro x step row execution l h key value
    obtain ⟨stored, kept⟩ := keeps.checkpoints h.1 _ key value rfl
    have same := Local.origin_encoded { l with cctx := l.cctx.putProgress step.name key value }
    refine ⟨keeps.careful h.1 (by simp), fun a y moved => ?_⟩
    rcases moves_saveInstance moved (h.2 _ rfl) with ⟨rfl, rfl⟩ | ⟨err, rfl, _, rfl, _⟩
    · exact ⟨stored, fun origin held => by cases held; rfl⟩
    · exact ⟨kept, h.2⟩
  stops := by
    intro x y rows todo anyFailed l reason h moved
    obtain ⟨rfl, calm⟩ := moves_stopping moved
    exact ⟨keeps.stops h.1 calm, h.2⟩
  tries := by
    intro x rows step record todo anyFailed l h input named
    refine ⟨keeps.careful h.1 (by simp), fun a y moved => ?_⟩
    rcases moves_compensate moved with ⟨rfl, rfl⟩ | ⟨⟨err, rfl⟩, rfl⟩
    · rw [named]
      exact ⟨keeps.undoes h.1, h.2⟩
    · exact h
  persists := by
    intro x rows step record todo anyFailed l h
    obtain ⟨stored, kept⟩ := keeps.persists h.1 _ rfl
    refine ⟨keeps.careful h.1 (by simp), fun a y moved => ?_⟩
    rcases moves_saveInstance moved (h.2 _ rfl) with ⟨rfl, rfl⟩ | ⟨err, rfl, _, rfl, calm⟩
    · exact ⟨stored, fun origin held => by cases held; rfl⟩
    · exact ⟨kept calm, h.2⟩

variable {ι : Type} {c : EngineConfig ι}

theorem Keeps.takesTurns [DecidableEq ι]
    (h : (e.runs d ι).ReachableUnder (P.alone W) c) :
    TakesTurns W.observe W.start (P.semantics W e d (Careful Core Good)) (fun x => Inv x .ended) c := by
  refine takesTurns_invariant (fun c reached => known_always reached) (fun s started => ?_)
    (fun x r _ idle agreed => ?_) (fun x calm o careful => ?_) h
  · exact keeps.first started
  · have kept := keeps.rules.program ⟨keeps.starts idle agreed, .nothing rfl⟩
    unfold Leads Holds GuardsE at kept
    rw [Engine.machine_program]
    refine Guards.mono (fun y answer settled => ?_) kept
    cases answer with
    | ok => exact keeps.returns settled.1
    | error => exact settled.1
  · exact keeps.rest careful.1 calm

theorem Keeps.always [DecidableEq ι]
    (h : (e.runs d ι).ReachableUnder (P.alone W) c) : Core (c.world.watched W.observe W.start) :=
  (keeps.takesTurns h).always (fun _ idle => keeps.core idle) fun _ _ careful => careful.1

theorem Keeps.runs_good [DecidableEq ι]
    (h : (e.runs d ι).ReachableUnder (P.alone W) c) {i : ι} {r : Request} {activity : String}
    {input : Input} {next : Execution → Program Op Ans (Except GoError Unit)}
    (mine : c.own i = some (r, .perform (.execute activity input) next)) :
    Good (c.world.watched W.observe W.start) input :=
  ((keeps.takesTurns h).next mine).2

end Rule

end PaymentsPlatform.Workflows
