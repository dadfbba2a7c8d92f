/- layer: library
   digest: The load of a history over windows of the clock, and what checking one of them bounds. -/

import Mathlib.Algebra.BigOperators.Group.List.Basic
import Mathlib.Algebra.Order.Ring.Int

namespace PaymentsPlatform.Lib.SlidingWindow

universe u

variable {ε : Type u} (instant weight : ε → Int)

/-- What the events after one instant and up to another weigh together. -/
def load (events : List ε) (after upTo : Int) : Int :=
  ((events.filter fun e => after < instant e ∧ instant e ≤ upTo).map weight).sum

/-- No window of this length holds more than the limit. -/
def Bounded (events : List ε) (window limit : Int) : Prop :=
  ∀ t, load instant weight events t (t + window) ≤ limit

variable {instant weight}

theorem load_concat (events : List ε) (e : ε) (after upTo : Int) :
    load instant weight (events ++ [e]) after upTo =
      load instant weight events after upTo +
        if after < instant e ∧ instant e ≤ upTo then weight e else 0 := by
  unfold load
  rw [List.filter_append, List.map_append, List.sum_append]
  by_cases inside : after < instant e ∧ instant e ≤ upTo
  · simp [inside]
  · simp [inside]

/-- A window whose events all lie in another holds no more than the other. -/
theorem load_mono {events : List ε} {after upTo after' upTo' : Int}
    (positive : ∀ e ∈ events, 0 ≤ weight e)
    (inside : ∀ e ∈ events, after < instant e → instant e ≤ upTo →
      after' < instant e ∧ instant e ≤ upTo') :
    load instant weight events after upTo ≤ load instant weight events after' upTo' := by
  induction events with
  | nil => exact le_refl _
  | cons e rest ih =>
    have later := ih (fun x mem => positive x (List.mem_cons_of_mem _ mem))
      (fun x mem => inside x (List.mem_cons_of_mem _ mem))
    have first := positive e List.mem_cons_self
    have moved := inside e List.mem_cons_self
    unfold load at later ⊢
    by_cases here : after < instant e ∧ instant e ≤ upTo
    · have there := moved here.1 here.2
      simp only [List.filter_cons, here, there, and_self, decide_true, if_true, List.map_cons,
        List.sum_cons]
      omega
    · simp only [List.filter_cons, here, decide_false, Bool.false_eq_true, if_false]
      split
      · simp only [List.map_cons, List.sum_cons]
        omega
      · exact later

namespace Bounded

variable {events : List ε} {window limit : Int}

theorem nil (h : 0 ≤ limit) : Bounded instant weight [] window limit := fun _ => h

theorem concat_weightless (h : Bounded instant weight events window limit) {e : ε}
    (free : weight e = 0) : Bounded instant weight (events ++ [e]) window limit := by
  intro t
  rw [load_concat, free, ite_self, add_zero]
  exact h t

/-- The rule of a trailing check: if the window that ends at a reading leaves room for an event
after it, every window that holds the event does. -/
theorem concat (h : Bounded instant weight events window limit) {e : ε} {reading : Int}
    (positive : ∀ x ∈ events, 0 ≤ weight x) (earlier : ∀ x ∈ events, instant x ≤ reading)
    (later : reading ≤ instant e)
    (room : load instant weight events (reading - window) reading + weight e ≤ limit) :
    Bounded instant weight (events ++ [e]) window limit := by
  intro t
  rw [load_concat]
  by_cases inside : t < instant e ∧ instant e ≤ t + window
  · rw [if_pos inside]
    have seen : load instant weight events t (t + window) ≤
        load instant weight events (reading - window) reading := by
      refine load_mono positive fun x mem after _ => ?_
      have before := earlier x mem
      omega
    omega
  · rw [if_neg inside, add_zero]
    exact h t

end Bounded

end PaymentsPlatform.Lib.SlidingWindow
