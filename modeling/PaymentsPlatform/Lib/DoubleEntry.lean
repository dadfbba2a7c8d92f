/- layer: library
   digest: Postings on the two sides of accounts, balances in the normal direction, and the
     trial balance. -/

import Mathlib.Algebra.BigOperators.Group.Finset.Basic
import Mathlib.Algebra.BigOperators.Group.Finset.Piecewise
import Mathlib.Algebra.BigOperators.Group.List.Basic
import Mathlib.Algebra.Order.Ring.Int
import Mathlib.Tactic.Abel

namespace PaymentsPlatform.Lib.DoubleEntry

inductive Column where
  | debit | credit
  deriving DecidableEq

structure Posting (κ G : Type*) where
  account : κ
  column : Column
  amount : G

variable {κ G : Type*} [AddCommGroup G]

/-- What a posting adds to a balance kept in the direction of `normal`. -/
def Posting.toward (normal : Column) (p : Posting κ G) : G :=
  if p.column = normal then p.amount else -p.amount

/-- A group balances: its debits and its credits come to the same. -/
def Balanced (ps : List (Posting κ G)) : Prop := (ps.map (Posting.toward .debit)).sum = 0

theorem Balanced.nil : Balanced ([] : List (Posting κ G)) := rfl

variable {ps qs : List (Posting κ G)}

theorem Balanced.append (hp : Balanced ps) (hq : Balanced qs) : Balanced (ps ++ qs) := by
  unfold Balanced at *
  rw [List.map_append, List.sum_append, hp, hq, add_zero]

theorem Balanced.perm (h : Balanced ps) (same : qs.Perm ps) : Balanced qs := by
  unfold Balanced at *
  rw [(same.map _).sum_eq, h]

theorem Balanced.pair (debit credit : κ) (amount : G) :
    Balanced [⟨debit, .debit, amount⟩, ⟨credit, .credit, amount⟩] := by
  simp [Balanced, Posting.toward]

theorem Posting.toward_credit (p : Posting κ G) : p.toward .credit = -p.toward .debit := by
  cases p with
  | mk account column => cases column <;> simp [toward]

variable [DecidableEq κ] (normal : κ → Column)

/-- The balance of an account whose normal column is `normal`, after some postings. -/
def balance (ps : List (Posting κ G)) (k : κ) : G :=
  ((ps.filter fun p => p.account = k).map (Posting.toward (normal k))).sum

theorem balance_concat (ps : List (Posting κ G)) (p : Posting κ G) (k : κ) :
    balance normal (ps ++ [p]) k =
      balance normal ps k + if p.account = k then p.toward (normal k) else 0 := by
  unfold balance
  rw [List.filter_append, List.map_append, List.sum_append]
  by_cases here : p.account = k <;> simp [here]

theorem balance_perm (same : ps.Perm qs) (k : κ) : balance normal ps k = balance normal qs k :=
  ((same.filter _).map _).sum_eq

/-- In accounts that hold everything posted, the debit-normal ones exceed the credit-normal ones by
what was debited over what was credited. -/
theorem sum_balance {s : Finset κ}
    (covered : ∀ p ∈ ps, p.account ∈ s) :
    ∑ k ∈ s with normal k = .debit, balance normal ps k -
        ∑ k ∈ s with normal k = .credit, balance normal ps k =
      (ps.map (Posting.toward .debit)).sum := by
  induction ps using List.reverseRecOn with
  | nil => simp [balance]
  | append_singleton ps p ih =>
    have earlier := ih fun q mem => covered q (List.mem_append_left _ mem)
    have here : p.account ∈ s := covered p (by simp)
    simp only [balance_concat, Finset.sum_add_distrib, Finset.sum_ite_eq, List.map_append,
      List.sum_append, ← earlier, Finset.mem_filter, here, true_and, List.map_cons, List.map_nil,
      List.sum_singleton]
    cases side : normal p.account with
    | debit =>
      simp
      abel
    | credit =>
      simp [Posting.toward_credit]
      abel

/-- The trial balance: where every posting is one of a balanced group, the debit-normal
accounts hold as much as the credit-normal ones. -/
theorem trial_balance {accounts : List κ}
    (distinct : accounts.Nodup) (covered : ∀ p ∈ ps, p.account ∈ accounts)
    (balanced : Balanced ps) :
    ((accounts.filter fun k => normal k = .debit).map (balance normal ps)).sum =
      ((accounts.filter fun k => normal k = .credit).map (balance normal ps)).sum := by
  have level := (sum_balance normal (s := accounts.toFinset)
    fun p mem => List.mem_toFinset.mpr (covered p mem)).trans balanced
  rw [← List.sum_toFinset _ (distinct.filter _), ← List.sum_toFinset _ (distinct.filter _),
    List.toFinset_filter, List.toFinset_filter]
  simp only [decide_eq_true_eq]
  exact sub_eq_zero.mp level

end PaymentsPlatform.Lib.DoubleEntry
