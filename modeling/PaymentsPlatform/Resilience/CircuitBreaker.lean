/- layer: model of infrastructure/resilience/circuitbreaker.go and of breakerPort in
     platform/runtime/payments.go
   digest: The circuit breaker: its window, its permits, and the accounting of the half-open
     state. -/

import Mathlib.Data.Rat.Defs
import PaymentsPlatform.Shared.Types

namespace PaymentsPlatform.Resilience

inductive State where
  | closed | opened | halfOpen
  deriving DecidableEq

inductive Outcome where
  | success | failure | ignore
  deriving DecidableEq

def second : Int := 1000000000

structure BreakerConfig where
  name : String
  window : Int
  buckets : Int
  minimumSamples : Int
  failureRateToOpen : ℚ
  slowCallDuration : Int
  slowCallRateToOpen : ℚ
  baseCooldown : Int
  maxCooldown : Int
  halfOpenProbes : Int
  probeSuccessesToClose : Int

def defaultBreakerConfig (name : String) : BreakerConfig where
  name := name
  window := 30 * second
  buckets := 10
  minimumSamples := 20
  failureRateToOpen := 1 / 4
  slowCallDuration := 5 * second
  slowCallRateToOpen := 1 / 100
  baseCooldown := 30 * second
  maxCooldown := 300 * second
  halfOpenProbes := 1
  probeSuccessesToClose := 3

def orDefault (n fallback : Int) : Int := if n ≤ 0 then fallback else n

def orDefaultRate (r fallback : ℚ) : ℚ := if r ≤ 0 ∨ 1 < r then fallback else r

def BreakerConfig.normalized (c : BreakerConfig) : BreakerConfig :=
  let preset := defaultBreakerConfig c.name
  let baseCooldown := orDefault c.baseCooldown preset.baseCooldown
  { name := c.name
    window := orDefault c.window preset.window
    buckets := orDefault c.buckets preset.buckets
    minimumSamples := orDefault c.minimumSamples preset.minimumSamples
    failureRateToOpen := orDefaultRate c.failureRateToOpen preset.failureRateToOpen
    slowCallDuration := orDefault c.slowCallDuration preset.slowCallDuration
    slowCallRateToOpen := orDefaultRate c.slowCallRateToOpen preset.slowCallRateToOpen
    baseCooldown := baseCooldown
    maxCooldown :=
      if c.maxCooldown < baseCooldown then max preset.maxCooldown baseCooldown else c.maxCooldown
    halfOpenProbes := orDefault c.halfOpenProbes preset.halfOpenProbes
    probeSuccessesToClose := orDefault c.probeSuccessesToClose preset.probeSuccessesToClose }

/-- One bucket, under its absolute index; −1 is a bucket that was never written. -/
structure WindowBucket where
  idx : Int
  success : Int
  failure : Int
  slowCall : Int

def WindowBucket.fresh (idx : Int) : WindowBucket := ⟨idx, 0, 0, 0⟩

def WindowBucket.count (b : WindowBucket) (o : Outcome) (slow : Bool) : WindowBucket :=
  let slowCall := if slow then b.slowCall + 1 else b.slowCall
  match o with
  | .success => { b with success := b.success + 1, slowCall := slowCall }
  | .failure => { b with failure := b.failure + 1, slowCall := slowCall }
  | .ignore => b

structure SlidingWindow where
  buckets : List WindowBucket
  width : Int
  n : Int

structure Counts where
  successes : Int
  failures : Int
  slow : Int

def Counts.total (c : Counts) : Int := c.successes + c.failures

def Counts.rate (c : Counts) (n : Int) : ℚ := if c.total = 0 then 0 else n / c.total

def Counts.errorRate (c : Counts) : ℚ := c.rate c.failures

def Counts.slowRate (c : Counts) : ℚ := c.rate c.slow

namespace SlidingWindow

variable (w : SlidingWindow)

def reset : SlidingWindow :=
  { w with buckets := w.buckets.map fun _ => WindowBucket.fresh (-1) }

/-- `newSlidingWindow`, of a configuration that has been normalized. -/
def new (window buckets : Int) : SlidingWindow where
  buckets := List.replicate buckets.toNat (WindowBucket.fresh (-1))
  width := if window.tdiv buckets ≤ 0 then 1000000 else window.tdiv buckets
  n := buckets

def index (t : Time) : Int := t.tdiv w.width

/-- The slot of a bucket; the index of an instant before 1970 is negative. -/
def slot (idx : Int) : Nat := ((idx.tmod w.n + w.n).tmod w.n).toNat

/-- A bucket of another round of the ring is emptied before it counts. -/
def record (now : Time) (o : Outcome) (slow : Bool) : SlidingWindow :=
  let idx := w.index now
  { w with
    buckets := w.buckets.modify (w.slot idx) fun b =>
      (if b.idx = idx then b else WindowBucket.fresh idx).count o slow }

def counts (now : Time) : Counts :=
  let idx := w.index now
  let live := w.buckets.filter fun b => idx - w.n + 1 ≤ b.idx ∧ b.idx ≤ idx
  { successes := live.foldl (fun n b => n + b.success) 0
    failures := live.foldl (fun n b => n + b.failure) 0
    slow := live.foldl (fun n b => n + b.slowCall) 0 }

end SlidingWindow

structure Breaker where
  cfg : BreakerConfig
  state : State
  window : SlidingWindow
  generation : Nat
  openedAt : Time
  cooldown : Int
  probesInFlight : Nat
  consecutiveSuccesses : Nat

def newBreaker (cfg : BreakerConfig) : Breaker where
  cfg := cfg.normalized
  state := .closed
  window := SlidingWindow.new cfg.normalized.window cfg.normalized.buckets
  generation := 0
  openedAt := 0
  cooldown := cfg.normalized.baseCooldown
  probesInFlight := 0
  consecutiveSuccesses := 0

/-- What an admitted call remembers until it reports. -/
structure Permit where
  gen : Nat
  half : Bool
  start : Time

def errCircuitOpen : String := "circuit breaker is open"

namespace Breaker

variable (b : Breaker) (now : Time)

def openError : GoError :=
  wrap (.sentinel errCircuitOpen) .gatewayCircuitOpen
    ("circuit breaker " ++ quoted b.cfg.name ++ " is open")

/-- Every transition starts a new generation and resets the probe accounting. -/
def setState (s : State) (now : Time) : Breaker :=
  if b.state = s then b
  else
    let moved :=
      { b with
        state := s, generation := b.generation + 1, probesInFlight := 0, consecutiveSuccesses := 0 }
    match s with
    | .opened => { moved with openedAt := now }
    | .closed => { moved with cooldown := b.cfg.baseCooldown, window := b.window.reset }
    | .halfOpen => moved

/-- A failed probe doubles the cool-down. -/
def trip : Breaker :=
  let cooldown :=
    if b.state = .halfOpen then min (b.cooldown * 2) b.cfg.maxCooldown else b.cfg.baseCooldown
  { b with cooldown := cooldown }.setState .opened now

def maybeHalfOpen : Breaker :=
  if b.state = .opened ∧ b.cooldown ≤ now - b.openedAt then b.setState .halfOpen now else b

def evaluate : Breaker :=
  let c := b.window.counts now
  if c.total < b.cfg.minimumSamples then b
  else if b.cfg.failureRateToOpen < c.errorRate ∨ b.cfg.slowCallRateToOpen < c.slowRate then
    b.trip now
  else b

/-- An outcome in the closed state enters the window. -/
def sample (o : Outcome) (slow : Bool) (now : Time) : Breaker :=
  { b with window := b.window.record now o slow }.evaluate now

def allow : Breaker × Except GoError Permit :=
  let b := b.maybeHalfOpen now
  match b.state with
  | .opened => (b, .error b.openError)
  | .halfOpen =>
    if b.cfg.halfOpenProbes ≤ b.probesInFlight then (b, .error b.openError)
    else
      ({ b with probesInFlight := b.probesInFlight + 1 },
        .ok { gen := b.generation, half := true, start := now })
  | .closed => (b, .ok { gen := b.generation, half := false, start := now })

/-- `State` looks at the clock too. -/
def currentState : Breaker × State :=
  (b.maybeHalfOpen now, (b.maybeHalfOpen now).state)

def probeSucceeded : Breaker :=
  let counted := { b with consecutiveSuccesses := b.consecutiveSuccesses + 1 }
  if counted.cfg.probeSuccessesToClose ≤ counted.consecutiveSuccesses then
    counted.setState .closed now
  else counted

/-- `report`.  A permit of an earlier generation says nothing about this one. -/
def report (permit : Permit) (o : Outcome) (now : Time) : Breaker :=
  if b.generation ≠ permit.gen then b
  else
    let b := if permit.half then { b with probesInFlight := b.probesInFlight - 1 } else b
    let slow := decide (b.cfg.slowCallDuration ≤ now - permit.start)
    match b.state, o with
    | .halfOpen, .failure => b.trip now
    | .halfOpen, .success => b.probeSucceeded now
    | .halfOpen, .ignore => b
    | .closed, .ignore => b
    | .closed, _ => b.sample o slow now
    | .opened, _ => b

/-- The recorder that `breakerPort.Allow` hands out: an outcome that is not to be counted is
reported as a success. -/
def record (permit : Permit) (success counted : Bool) (now : Time) : Breaker :=
  if !counted then b.report permit .success now
  else b.report permit (if success then .success else .failure) now

/-! What a step does to the accounting of the probes. -/

/-- The two agree on everything the accounting of the probes reads. -/
structure SameAccount (b b' : Breaker) : Prop where
  cfg : b'.cfg = b.cfg
  state : b'.state = b.state
  generation : b'.generation = b.generation
  successes : b'.consecutiveSuccesses = b.consecutiveSuccesses

theorem SameAccount.refl : SameAccount b b := ⟨rfl, rfl, rfl, rfl⟩

variable {c d : Breaker}

theorem SameAccount.trans {b : Breaker} (first : SameAccount b c) (second : SameAccount c d) :
    SameAccount b d :=
  ⟨second.cfg.trans first.cfg, second.state.trans first.state,
    second.generation.trans first.generation, second.successes.trans first.successes⟩

/-- The breaker has moved to another state, and the accounting starts again. -/
structure Moved (b : Breaker) (s : State) (b' : Breaker) : Prop where
  cfg : b'.cfg = b.cfg
  state : b'.state = s
  successes : b'.consecutiveSuccesses = 0

variable {s : State}

theorem Moved.of_cfg {b : Breaker} (same : c.cfg = b.cfg) (moved : Moved c s d) : Moved b s d :=
  ⟨moved.cfg.trans same, moved.state, moved.successes⟩

theorem Moved.account {b : Breaker} (moved : Moved b s c) (same : SameAccount c d) : Moved b s d :=
  ⟨same.cfg.trans moved.cfg, same.state.trans moved.state, same.successes.trans moved.successes⟩

theorem setState_moved {b : Breaker} (apart : b.state ≠ s) (now : Time) :
    Moved b s (b.setState s now) := by
  rw [setState, if_neg apart]
  cases s with
  | closed | opened | halfOpen => exact ⟨rfl, rfl, rfl⟩

theorem trip_moved {b : Breaker} (apart : b.state ≠ .opened) (now : Time) :
    Moved b .opened (b.trip now) := by
  have cooled : ∀ d : Int, Moved b .opened ({ b with cooldown := d }.setState .opened now) := by
    intro d
    have moved := setState_moved (b := { b with cooldown := d }) apart now
    exact ⟨moved.cfg, moved.state, moved.successes⟩
  exact cooled _

theorem maybeHalfOpen_cases (b : Breaker) (now : Time) :
    b.maybeHalfOpen now = b ∨ (b.state = .opened ∧ Moved b .halfOpen (b.maybeHalfOpen now)) := by
  unfold maybeHalfOpen
  split_ifs with due
  · exact .inr ⟨due.1, setState_moved (by rw [due.1]; decide) now⟩
  · exact .inl rfl

theorem allow_account (b : Breaker) (now : Time) :
    SameAccount (b.maybeHalfOpen now) (b.allow now).1 := by
  unfold allow
  dsimp only
  split
  · exact .refl _
  · split_ifs
    · exact .refl _
    · exact ⟨rfl, rfl, rfl, rfl⟩
  · exact .refl _

theorem allow_cases (b : Breaker) (now : Time) :
    SameAccount b (b.allow now).1 ∨ (b.state = .opened ∧ Moved b .halfOpen (b.allow now).1) := by
  have same := b.allow_account now
  rcases b.maybeHalfOpen_cases now with unmoved | ⟨wasOpen, moved⟩
  · rw [unmoved] at same
    exact .inl same
  · exact .inr ⟨wasOpen, moved.account same⟩

theorem evaluate_cases {b : Breaker} (closed : b.state = .closed) (now : Time) :
    SameAccount b (b.evaluate now) ∨ Moved b .opened (b.evaluate now) := by
  unfold evaluate
  dsimp only
  split_ifs
  · exact .inl (.refl b)
  · exact .inr (trip_moved (by rw [closed]; decide) now)
  · exact .inl (.refl b)

theorem sample_cases {b : Breaker} (closed : b.state = .closed) (o : Outcome) (slow : Bool)
    (now : Time) : SameAccount b (b.sample o slow now) ∨ Moved b .opened (b.sample o slow now) := by
  have windowed : SameAccount b { b with window := b.window.record now o slow } :=
    ⟨rfl, rfl, rfl, rfl⟩
  exact (evaluate_cases (windowed.state.trans closed) now).imp windowed.trans
    (Moved.of_cfg windowed.cfg)

theorem probeSucceeded_cases {b : Breaker} (half : b.state = .halfOpen) (now : Time) :
    SameAccount { b with consecutiveSuccesses := b.consecutiveSuccesses + 1 }
        (b.probeSucceeded now) ∨
      (b.cfg.probeSuccessesToClose ≤ (b.consecutiveSuccesses + 1 : Nat) ∧
        Moved b .closed (b.probeSucceeded now)) := by
  have apart : { b with consecutiveSuccesses := b.consecutiveSuccesses + 1 }.state ≠ .closed :=
    fun closed => absurd (half.symm.trans closed) (by decide)
  unfold probeSucceeded
  dsimp only
  split_ifs with enough
  · have moved := setState_moved apart now
    exact .inr ⟨enough, moved.cfg, moved.state, moved.successes⟩
  · exact .inl (.refl _)

theorem report_cases (b : Breaker) (permit : Permit) (o : Outcome) (now : Time) :
    SameAccount b (b.report permit o now) ∨ Moved b .opened (b.report permit o now) ∨
      (b.state = .halfOpen ∧ permit.gen = b.generation ∧ o = .success ∧
        (SameAccount { b with consecutiveSuccesses := b.consecutiveSuccesses + 1 }
            (b.report permit o now) ∨
          (b.cfg.probeSuccessesToClose ≤ (b.consecutiveSuccesses + 1 : Nat) ∧
            Moved b .closed (b.report permit o now)))) := by
  unfold report
  by_cases stale : b.generation ≠ permit.gen
  · rw [if_pos stale]
    exact .inl (.refl b)
  rw [if_neg stale]
  have current := (not_not.mp stale).symm
  -- releasing the slot is no part of the accounting
  have released : SameAccount b
      (if permit.half then { b with probesInFlight := b.probesInFlight - 1 } else b) := by
    split_ifs
    · exact ⟨rfl, rfl, rfl, rfl⟩
    · exact .refl b
  generalize (if permit.half then { b with probesInFlight := b.probesInFlight - 1 } else b) = c
    at released
  dsimp only
  cases state : c.state with
  | opened =>
    cases o <;> exact .inl released
  | halfOpen =>
    cases o with
    | failure =>
      exact .inr (.inl (.of_cfg released.cfg (trip_moved (by rw [state]; decide) now)))
    | ignore => exact .inl released
    | success =>
      refine .inr (.inr ⟨released.state.symm.trans state, current, rfl, ?_⟩)
      have counted : SameAccount { b with consecutiveSuccesses := b.consecutiveSuccesses + 1 }
          { c with consecutiveSuccesses := c.consecutiveSuccesses + 1 } :=
        ⟨released.cfg, released.state, released.generation,
          congrArg (· + 1) released.successes⟩
      rcases probeSucceeded_cases state now with kept | ⟨enough, moved⟩
      · exact .inl (counted.trans kept)
      · rw [released.cfg, released.successes] at enough
        exact .inr ⟨enough, .of_cfg released.cfg moved⟩
  | closed =>
    cases o with
    | ignore => exact .inl released
    | success | failure =>
      exact (sample_cases state _ _ now).imp released.trans fun moved =>
        .inl (.of_cfg released.cfg moved)

end Breaker

end PaymentsPlatform.Resilience
