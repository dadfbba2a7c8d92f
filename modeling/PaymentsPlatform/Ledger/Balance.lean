/- layer: results about the ledger
   digest: What the balance check decides, and the accounts after any postings, in any order. -/

import Mathlib.Algebra.Order.BigOperators.Group.List
import PaymentsPlatform.Ledger.Transaction
import PaymentsPlatform.Lib.DoubleEntry

namespace PaymentsPlatform.Ledger

open Pkg (Currency Money)
open Transaction (Sums tally)

section Check

variable (side : Side) (t : Transaction) (c : Currency) (es : List Entry)

def amounts : List Int :=
  (es.filter fun e => e.side = side ∧ e.currency = c).map (·.amount.minor)

def total : Int := (amounts side c es).sum

/-- At least two lines, and in every currency that appears the debits come to the credits. -/
def Balances : Prop :=
  2 ≤ es.length ∧ ∀ e ∈ es, total .debit e.currency es = total .credit e.currency es

def ChecksExactly : Prop := t.balance = .ok () ↔ Balances t.entries

/-- The amounts that fit, one after the other, on top of `acc` into an int64. -/
def fitting (acc : Int) : List Int → List Int
  | [] => []
  | x :: xs => if acc + x < 2 ^ 63 then x :: fitting (acc + x) xs else fitting acc xs

def fittingTotal : Int :=
  (fitting 0 (amounts side c es)).sum

/-- Whether the group balances does not hang on the lines that do not fit into the int64 sums. -/
def OverrunHarmless : Prop :=
  2 ≤ es.length →
    ((∀ e ∈ es, total .debit e.currency es = total .credit e.currency es) ↔
      ∀ e ∈ es, fittingTotal .debit e.currency es = fittingTotal .credit e.currency es)

instance (es : List Entry) : Decidable (Balances es) := by
  unfold Balances
  infer_instance

theorem fitting_of_sum_lt {acc : Int} {xs : List Int} (nonneg : ∀ x ∈ xs, 0 ≤ x)
    (fits : acc + xs.sum < 2 ^ 63) : fitting acc xs = xs := by
  induction xs generalizing acc with
  | nil => rfl
  | cons x xs ih =>
    rw [List.sum_cons] at fits
    have rest : 0 ≤ xs.sum :=
      List.sum_nonneg fun y mem => nonneg y (List.mem_cons_of_mem _ mem)
    rw [fitting, if_pos (by omega),
      ih (fun y mem => nonneg y (List.mem_cons_of_mem _ mem)) (by omega)]

theorem amounts_pos {side : Side} {c : Currency} {es : List Entry} :
    ∀ x ∈ amounts side c es, 0 ≤ x := by
  intro x mem
  obtain ⟨e, -, rfl⟩ := List.mem_map.mp mem
  exact e.minor_pos.le

@[simp] theorem total_nil : total side c [] = 0 := rfl

theorem total_cons (e : Entry) (es : List Entry) : total side c (e :: es) =
      (if e.side = side ∧ e.currency = c then e.amount.minor else 0) + total side c es := by
  unfold total amounts
  by_cases here : e.side = side ∧ e.currency = c <;> simp [here]

theorem total_append (fs : List Entry) :
    total side c (es ++ fs) = total side c es + total side c fs := by
  unfold total amounts
  rw [List.filter_append, List.map_append, List.sum_append]

def sumsIn : Sums :=
  (es.filter fun e => e.currency = c).foldl Sums.absorb (Sums.zero c)

theorem sumsIn_concat (e : Entry) : sumsIn c (es ++ [e]) =
      if e.currency = c then (sumsIn c es).absorb e else sumsIn c es := by
  unfold sumsIn
  rw [List.filter_append]
  by_cases here : e.currency = c <;> simp [here]

theorem sumsIn_of_absent {c : Currency} {es : List Entry} (absent : ∀ e ∈ es, e.currency ≠ c) :
    sumsIn c es = Sums.zero c := by
  have none : es.filter (fun e => e.currency = c) = [] :=
    List.filter_eq_nil_iff.mpr fun e mem => by simpa using absent e mem
  rw [sumsIn, none, List.foldl_nil]

theorem mem_tally_iff (c : Currency) (s : Sums) :
    (c, s) ∈ es.foldl tally [] ↔ (∃ e ∈ es, e.currency = c) ∧ s = sumsIn c es := by
  induction es using List.reverseRecOn generalizing c s with
  | nil => simp
  | append_singleton es e ih =>
    have appears : (∃ d ∈ es ++ [e], d.currency = c) ↔
        (∃ d ∈ es, d.currency = c) ∨ e.currency = c := by
      simp [or_and_right, exists_or]
    have known : (es.foldl tally []).any (·.1 == e.currency) = true ↔
        ∃ d ∈ es, d.currency = e.currency := by
      constructor
      · intro found
        obtain ⟨⟨c', s'⟩, mem, same⟩ := List.any_eq_true.mp found
        obtain rfl : c' = e.currency := by simpa using same
        exact ((ih _ _).mp mem).1
      · intro used
        exact List.any_eq_true.mpr ⟨_, (ih _ _).mpr ⟨used, rfl⟩, by simp⟩
    rw [List.foldl_append, List.foldl_cons, List.foldl_nil, sumsIn_concat, appears, tally]
    by_cases used : ∃ d ∈ es, d.currency = e.currency
    · rw [if_pos (known.mpr used)]
      simp only [List.mem_map, Prod.exists, ih]
      by_cases here : e.currency = c
      · subst here
        rw [if_pos rfl]
        constructor
        · rintro ⟨c', s', ⟨-, rfl⟩, same⟩
          by_cases at_ : c' = e.currency
          · subst at_
            rw [if_pos rfl] at same
            cases same
            exact ⟨.inr rfl, rfl⟩
          · rw [if_neg at_] at same
            cases same
            exact absurd rfl at_
        · rintro ⟨-, rfl⟩
          exact ⟨e.currency, _, ⟨used, rfl⟩, if_pos rfl⟩
      · rw [if_neg here]
        constructor
        · rintro ⟨c', s', ⟨used', rfl⟩, same⟩
          by_cases at_ : c' = e.currency
          · subst at_
            rw [if_pos rfl] at same
            cases same
            exact absurd rfl here
          · rw [if_neg at_] at same
            cases same
            exact ⟨.inl used', rfl⟩
        · rintro ⟨used' | impossible, rfl⟩
          · exact ⟨c, _, ⟨used', rfl⟩, if_neg (Ne.symm here)⟩
          · exact absurd impossible here
    · rw [if_neg (fun found => used (known.mp found)), List.mem_append, List.mem_singleton, ih]
      have absent : ∀ d ∈ es, d.currency ≠ e.currency := fun d mem same => used ⟨d, mem, same⟩
      by_cases here : e.currency = c
      · subst here
        rw [if_pos rfl, sumsIn_of_absent absent]
        simp [used]
      · simp [here, Ne.symm here]

/-- One running sum after a line: a sum that would overflow stays. -/
def keep (m : Money) (e : Entry) : Money :=
  match m.add e.amount with
  | .ok v => v
  | .error _ => m

theorem absorb_eq (s : Sums) (e : Entry) :
    s.absorb e =
      if e.side = .debit then { s with dr := keep s.dr e } else { s with cr := keep s.cr e } := by
  unfold Sums.absorb keep
  split
  · cases s.dr.add e.amount <;> rfl
  · cases s.cr.add e.amount <;> rfl

theorem foldl_absorb (s : Sums) : es.foldl Sums.absorb s =
      ⟨(es.filter fun e => e.side = .debit).foldl keep s.dr,
        (es.filter fun e => e.side = .credit).foldl keep s.cr⟩ := by
  induction es generalizing s with
  | nil => rfl
  | cons e es ih =>
    rw [List.foldl_cons, ih, absorb_eq]
    by_cases debit : e.side = .debit
    · simp [debit]
    · have credit : e.side = .credit := by
        have valid := e.sided
        simpa [Side.isValid, debit] using valid
      simp [credit]

theorem foldl_keep {c : Currency} {es : List Entry} (one : ∀ e ∈ es, e.currency = c) {m : Money}
    (currency : m.currency = c) (nonneg : 0 ≤ m.minor) :
    (es.foldl keep m).currency = c ∧
      (es.foldl keep m).minor = m.minor + (fitting m.minor (es.map (·.amount.minor))).sum ∧
      0 ≤ (es.foldl keep m).minor := by
  induction es generalizing m with
  | nil => simpa [fitting] using ⟨currency, nonneg⟩
  | cons e es ih =>
    have positive := e.minor_pos
    have same : e.amount.currency = m.currency := (one e List.mem_cons_self).trans currency.symm
    have rest := fun d mem => one d (List.mem_cons_of_mem _ mem)
    rw [List.foldl_cons, List.map_cons, fitting, keep]
    rcases Money.add_of_currency_eq same with ⟨-, fits, ok, summed⟩ | ⟨overflows, err⟩
    · have minor : (Money.mk (m.amount + e.amount.amount) m.currency).minor =
          m.minor + e.amount.minor := summed
      obtain ⟨denominated, sum, nonneg'⟩ := ih rest (m := ⟨m.amount + e.amount.amount, m.currency⟩)
        currency (by rw [minor]; omega)
      rw [ok, if_pos fits, List.sum_cons]
      rw [minor] at sum
      exact ⟨denominated, by rw [sum]; ring, nonneg'⟩
    · rw [err, if_neg (by omega)]
      exact ih rest currency nonneg

theorem sumsIn_spec : (sumsIn c es).dr.currency = c ∧ (sumsIn c es).cr.currency = c ∧
      (sumsIn c es).dr.minor = fittingTotal .debit c es ∧
      (sumsIn c es).cr.minor = fittingTotal .credit c es ∧
      0 ≤ (sumsIn c es).dr.minor ∧ 0 ≤ (sumsIn c es).cr.minor := by
  have one : ∀ side : Side, ∀ e ∈ es.filter (fun e => e.side = side ∧ e.currency = c),
      e.currency = c := by
    intro side e mem
    have found := (List.mem_filter.mp mem).2
    simp only [decide_eq_true_eq] at found
    exact found.2
  have zero : (Money.zero c).minor = 0 := rfl
  have joined : ∀ side : Side, (es.filter fun e => e.currency = c).filter (fun e => e.side = side) =
      es.filter fun e => e.side = side ∧ e.currency = c := by
    intro side
    rw [List.filter_filter]
    simp
  rw [sumsIn, foldl_absorb, joined, joined]
  obtain ⟨dr, drSum, drPos⟩ := foldl_keep (one .debit) (m := Money.zero c) rfl (by omega)
  obtain ⟨cr, crSum, crPos⟩ := foldl_keep (one .credit) (m := Money.zero c) rfl (by omega)
  rw [zero, zero_add] at drSum crSum
  exact ⟨dr, cr, drSum, crSum, drPos, crPos⟩

theorem imbalance_eq_none_iff :
    (sumsIn c es).imbalance c = none ↔ fittingTotal .debit c es = fittingTotal .credit c es := by
  obtain ⟨dr, cr, drSum, crSum, drPos, crPos⟩ := sumsIn_spec c es
  obtain ⟨diff, subtracted, minor, -⟩ := Money.sub_of_nonneg (cr.trans dr.symm) drPos crPos
  rw [Sums.imbalance, subtracted]
  simp only [ite_eq_left_iff, reduceCtorEq, imp_false, not_not, Money.isZero_iff]
  omega

theorem imbalances_eq_nil_iff : t.imbalances = [] ↔ ∀ e ∈ t.entries,
      fittingTotal .debit e.currency t.entries = fittingTotal .credit e.currency t.entries := by
  have sorted : ∀ found : List Transaction.Imbalance,
      found.insertionSort (fun a b => a.currency ≤ b.currency) = [] ↔ found = [] := by
    intro found
    constructor
    · exact fun h => List.Perm.nil_eq (h ▸ List.perm_insertionSort _ _) |>.symm
    · exact fun h => by rw [h]; rfl
  rw [Transaction.imbalances, sorted, List.filterMap_eq_nil_iff]
  constructor
  · intro none e mem
    exact (imbalance_eq_none_iff _ _).mp (none _ ((mem_tally_iff _ _ _).mpr ⟨⟨e, mem, rfl⟩, rfl⟩))
  · rintro equal ⟨c, s⟩ mem
    obtain ⟨⟨e, used, rfl⟩, rfl⟩ := (mem_tally_iff _ _ _).mp mem
    exact (imbalance_eq_none_iff _ _).mpr (equal e used)

theorem balance_ok_iff : t.balance = .ok () ↔ 2 ≤ t.entries.length ∧ ∀ e ∈ t.entries,
      fittingTotal .debit e.currency t.entries = fittingTotal .credit e.currency t.entries := by
  rw [← imbalances_eq_nil_iff]
  unfold Transaction.balance
  split
  · rename_i empty
    simp [empty]
  · rename_i e single
    simp [single]
  · rename_i e f rest several
    cases t.imbalances with
    | nil => simp [several]
    | cons => simp

theorem checksExactly_of_fits
    (fits : ∀ e ∈ t.entries, ∀ side, total side e.currency t.entries < 2 ^ 63) :
    ChecksExactly t := by
  have whole : ∀ e ∈ t.entries, ∀ side, fittingTotal side e.currency t.entries =
      total side e.currency t.entries := by
    intro e mem side
    rw [fittingTotal, fitting_of_sum_lt amounts_pos (by rw [zero_add]; exact fits e mem side)]
    rfl
  rw [ChecksExactly, balance_ok_iff, Balances]
  refine and_congr_right fun _ => forall₂_congr fun e mem => ?_
  rw [whole e mem, whole e mem]

/-- The check is exact on a group exactly where the lines that do not fit into the sums do not
decide whether it balances. -/
theorem checksExactly_iff : ChecksExactly t ↔ OverrunHarmless t.entries := by
  rw [ChecksExactly, balance_ok_iff, Balances, OverrunHarmless, and_congr_right_iff]
  exact imp_congr_right fun _ => Iff.comm

def sampleDraws : Draws where
  id := "led_0"
  openedAt := 1
  line := fun n => (toString n, 1)

def sampleGroup : NewTransactionParams where
  tenantID := "ten_1"
  merchantID := "mer_1"
  entryType := .adjustment
  paymentID := "pay_1"
  description := "adjustment"
  occurredAt := 1

def sampleTransaction (lines : List Line) : Except GoError Transaction := do
  let t ← newTransaction sampleGroup sampleDraws
  lines.foldlM (fun t l => t.addEntry l sampleDraws) t

/-- One line over the most an int64 holds, against the most it holds. -/
def overrunLines : List Line :=
  [{ account := .gatewayClearing, side := .debit, amount := ⟨Int64.maxValue, "USD"⟩,
     entryType := .adjustment },
    { account := .gatewayClearing, side := .debit, amount := ⟨1, "USD"⟩, entryType := .adjustment },
    { account := .merchantReceivable, side := .credit, amount := ⟨Int64.maxValue, "USD"⟩,
      entryType := .adjustment }]

/-- A debit that overflows the sum is passed over, and the group passes with one minor unit
more debited than credited. -/
theorem not_checksExactly_overrun :
    ∃ t, sampleTransaction overrunLines = .ok t ∧ ¬ ChecksExactly t := by
  have built : (sampleTransaction overrunLines).toOption.map (fun t =>
      (t.balance.isOk, decide (Balances t.entries))) = some (true, false) := by
    decide +kernel
  cases made : sampleTransaction overrunLines with
  | error =>
    rw [made] at built
    cases built
  | ok t =>
    rw [made] at built
    simp only [Except.toOption, Option.map_some, Option.some.injEq, Prod.mk.injEq,
      decide_eq_false_iff_not] at built
    refine ⟨t, rfl, fun exactly => built.2 (exactly.mp ?_)⟩
    cases passed : t.balance with
    | error =>
      rw [passed] at built
      cases built.1
    | ok => rfl

end Check

open Lib.DoubleEntry (Column Posting Balanced)
open Lib (DoubleEntry.balance)

/-- One line is folded into its account, which is opened on its first posting. -/
def post (book : List Account) (e : Entry) : Except GoError (List Account) :=
  match book.find? (·.key = e.accountKey) with
  | some a => (a.apply e).map fun a' => book.map fun b => if b.key = e.accountKey then a' else b
  | none => do
      let a ← newAccount e.accountKey e.recordedAt
      let a' ← a.apply e
      pure (book ++ [a'])

/-- The accounts after the lines, in their order; an overflow is an error. -/
def postAll (es : List Entry) : Except GoError (List Account) := es.foldlM post []

/-- The balance of an account; one that was never posted to holds nothing. -/
def balanceOf (book : List Account) (key : AccountKey) : Int :=
  ((book.find? (·.key = key)).map (·.balance.minor)).getD 0

def holdings (side : Side) (c : Currency) (book : List Account) : Int :=
  ((book.filter fun a => a.normalSide = side ∧ a.key.currency = c).map (·.balance.minor)).sum

/-- A group one of the builders returned, for some arguments. -/
inductive Built : Transaction → Prop
  | capture {p : CaptureParams} {draws : Draws} {t : Transaction}
      (h : captureTransaction p draws = .ok t) : Built t
  | fee {p : FeeParams} {draws : Draws} {t : Transaction}
      (h : feeTransaction p draws = .ok t) : Built t
  | refund {p : RefundParams} {draws : Draws} {t : Transaction}
      (h : refundTransaction p draws = .ok t) : Built t
  | chargeback {p : ChargebackParams} {draws : Draws} {t : Transaction}
      (h : chargebackTransaction p draws = .ok t) : Built t
  | settlement {p : SettlementParams} {draws : Draws} {t : Transaction}
      (h : settlementTransaction p draws = .ok t) : Built t

def Side.column (s : Side) : Column := if s = .debit then .debit else .credit

def AccountKey.column (k : AccountKey) : Column := k.type.normalSide.column

def Entry.posting (e : Entry) : Posting AccountKey Int where
  account := e.accountKey
  column := e.side.column
  amount := e.amount.minor

def postingsIn (c : Currency) (es : List Entry) : List (Posting AccountKey Int) :=
  (es.filter fun e => e.currency = c).map Entry.posting

def Even (es : List Entry) : Prop := ∀ c, Balanced (postingsIn c es)

theorem AccountType.normalSide_valid {t : AccountType} (h : t.isValid = true) :
    t.normalSide.isValid = true := by
  cases t with
  | other => simp [AccountType.isValid, normalSides] at h
  | merchantReceivable | gatewayClearing | feesPayable | refundsPayable | disputesHeld
  | settlementSuspense => decide

theorem Entry.account_valid (e : Entry) : e.account.isValid = true := by
  have keyed := e.keyed
  unfold AccountKey.validate at keyed
  split_ifs at keyed with tenant merchant known
  exact known

theorem Side.column_eq_iff {s s' : Side} (h : s.isValid = true) (h' : s'.isValid = true) :
    s.column = s'.column ↔ s = s' := by
  cases s <;> cases s' <;> simp_all [Side.column, Side.isValid]

theorem Entry.delta_eq_toward (e : Entry) :
    (e.delta e.account.normalSide).minor = e.posting.toward e.accountKey.column := by
  have same := Side.column_eq_iff e.sided (AccountType.normalSide_valid e.account_valid)
  rw [e.minor_delta, Posting.toward]
  simp only [← same]
  rfl

structure Posts (e : Entry) (book book' : List Account) : Prop where
  distinct : (book.map (·.key)).Nodup → (book'.map (·.key)).Nodup
  opened : ∀ key, key ∈ book'.map (·.key) ↔ key ∈ book.map (·.key) ∨ e.accountKey = key
  moved : ∀ key, balanceOf book' key = balanceOf book key +
    if e.accountKey = key then e.posting.toward key.column else 0

variable {book : List Account} {e : Entry} {a : Account}

theorem posts_known {a' : Account}
    (found : book.find? (·.key = e.accountKey) = some a) (applied : a.apply e = .ok a') :
    Posts e book (book.map fun b => if b.key = e.accountKey then a' else b) := by
  obtain ⟨own, kept, balance⟩ := Account.apply_ok applied
  have here : a ∈ book := List.mem_of_find?_eq_some found
  have key_of : ∀ b : Account, (if b.key = e.accountKey then a' else b).key = b.key := by
    intro b
    split
    · rename_i same
      rw [kept, ← own, same]
    · rfl
  have keys : (book.map fun b => if b.key = e.accountKey then a' else b).map (·.key) =
      book.map (·.key) := by
    rw [List.map_map]
    exact List.map_congr_left fun b _ => key_of b
  refine ⟨fun distinct => keys ▸ distinct, fun key => ?_, fun key => ?_⟩
  · rw [keys]
    refine ⟨.inl, ?_⟩
    rintro (mem | rfl)
    · exact mem
    · exact List.mem_map.mpr ⟨a, here, own.symm⟩
  · have lookup : (book.map fun b => if b.key = e.accountKey then a' else b).find? (·.key = key) =
        (book.find? (·.key = key)).map fun b => if b.key = e.accountKey then a' else b := by
      rw [List.find?_map]
      congr 2
      funext b
      simp [key_of b]
    unfold balanceOf
    rw [lookup]
    by_cases at_ : e.accountKey = key
    · subst at_
      rw [found, if_pos rfl]
      simp only [Option.map_some, Option.getD_some, if_pos own.symm]
      rw [balance, ← own]
      exact congrArg _ e.delta_eq_toward
    · rw [if_neg at_, add_zero]
      cases other : book.find? (·.key = key) with
      | none => rfl
      | some b =>
        have named : b.key = key := by simpa using List.find?_some other
        simp only [Option.map_some, Option.getD_some]
        rw [if_neg (by rw [named]; exact Ne.symm at_)]

theorem posts_opened {a' : Account} (absent : book.find? (·.key = e.accountKey) = none)
    (opens : newAccount e.accountKey e.recordedAt = .ok a) (applied : a.apply e = .ok a') :
    Posts e book (book ++ [a']) := by
  obtain ⟨named, empty⟩ := newAccount_ok opens
  obtain ⟨-, kept, balance⟩ := Account.apply_ok applied
  have key' : a'.key = e.accountKey := kept.trans named
  have fresh : e.accountKey ∉ book.map (·.key) := by
    intro mem
    obtain ⟨b, inside, same⟩ := List.mem_map.mp mem
    simpa [same] using List.find?_eq_none.mp absent b inside
  refine ⟨fun distinct => ?_, fun key => ?_, fun key => ?_⟩
  · rw [List.map_append, List.map_singleton, key']
    exact List.nodup_append.mpr ⟨distinct, List.nodup_singleton _, by simpa using fresh⟩
  · rw [List.map_append, List.mem_append, List.map_singleton, List.mem_singleton, key']
    exact or_congr_right eq_comm
  · unfold balanceOf
    rw [List.find?_append]
    by_cases at_ : e.accountKey = key
    · subst at_
      rw [absent, if_pos rfl]
      simp only [Option.none_or, List.find?_singleton, key', decide_true, if_true, Option.map_some,
        Option.getD_some, Option.map_none, Option.getD_none]
      rw [balance, empty, named]
      exact congrArg _ e.delta_eq_toward
    · rw [if_neg at_, add_zero]
      simp [key', at_]

theorem post_ok {book' : List Account} (h : post book e = .ok book') : Posts e book book' := by
  unfold post at h
  split at h
  · rename_i a found
    cases applied : a.apply e with
    | error =>
      rw [applied] at h
      cases h
    | ok =>
      rw [applied] at h
      cases h
      exact posts_known found applied
  · rename_i absent
    obtain ⟨a, opens, rest⟩ := call_ok h
    obtain ⟨a', applied, done⟩ := call_ok rest
    cases done
    exact posts_opened absent opens applied

variable {es : List Entry}

theorem postAll_ok (h : postAll es = .ok book) : (book.map (·.key)).Nodup ∧
      (∀ key, key ∈ book.map (·.key) ↔ ∃ e ∈ es, e.accountKey = key) ∧
      ∀ key, balanceOf book key =
        DoubleEntry.balance AccountKey.column (es.map Entry.posting) key := by
  induction es using List.reverseRecOn generalizing book with
  | nil =>
    cases h
    exact ⟨List.nodup_nil, by simp, fun key => rfl⟩
  | append_singleton es e ih =>
    unfold postAll at h
    rw [List.foldlM_append] at h
    obtain ⟨before, ran, last⟩ := call_ok h
    obtain ⟨distinct, opened, balances⟩ := ih ran
    have posts : Posts e before book := by
      refine post_ok ?_
      simpa using last
    refine ⟨posts.distinct distinct, fun key => ?_, fun key => ?_⟩
    · rw [posts.opened, opened]
      simp [or_and_right, exists_or]
    · rw [posts.moved, balances, List.map_append, List.map_singleton,
        Lib.DoubleEntry.balance_concat]
      rfl

theorem balanceOf_perm {es' : List Entry} {book' : List Account}
    (ran : postAll es = .ok book) (ran' : postAll es' = .ok book') (same : es'.Perm es)
    (key : AccountKey) : balanceOf book' key = balanceOf book key := by
  rw [(postAll_ok ran).2.2, (postAll_ok ran').2.2]
  exact Lib.DoubleEntry.balance_perm _ (same.map _) key

/-! Every group a builder returns is even. -/

theorem postingsIn_append (c : Currency) (es fs : List Entry) :
    postingsIn c (es ++ fs) = postingsIn c es ++ postingsIn c fs := by
  unfold postingsIn
  rw [List.filter_append, List.map_append]

theorem Even.nil : Even [] := fun _ => Balanced.nil

theorem Even.append {fs : List Entry} (he : Even es) (hf : Even fs) : Even (es ++ fs) := by
  intro c
  rw [postingsIn_append]
  exact (he c).append (hf c)

theorem Even.perm {fs : List Entry} (h : Even es) (same : fs.Perm es) : Even fs :=
  fun c => (h c).perm ((same.filter _).map _)

theorem Even.pair {f : Entry} (debited : e.side = .debit) (credited : f.side = .credit)
    (amount : e.amount = f.amount) : Even [e, f] := by
  intro c
  by_cases here : f.currency = c
  · have both : postingsIn c [e, f] = [⟨e.accountKey, .debit, f.amount.minor⟩,
        ⟨f.accountKey, .credit, f.amount.minor⟩] := by
      simp [postingsIn, Entry.posting, Entry.currency, Side.column, debited, credited, amount,
        show f.amount.currency = c from here]
    rw [both]
    exact Balanced.pair _ _ _
  · have neither : postingsIn c [e, f] = [] := by
      simp [postingsIn, Entry.currency, amount, show ¬ f.amount.currency = c from here]
    rw [neither]
    exact Balanced.nil

variable {t t' : Transaction} {l : Line} {draws : Draws}

theorem Even.addPair {debit credit : AccountType}
    (even : Even t.entries) (h : t.addPair l debit credit draws = .ok t') : Even t'.entries := by
  obtain ⟨e, f, debited, credited, rfl⟩ := Transaction.addPair_ok h
  exact even.append (.pair debited.side credited.side (debited.amount.trans credited.amount.symm))

theorem sum_postingsIn (c : Currency) (es : List Entry) :
    ((postingsIn c es).map (Posting.toward .debit)).sum =
      total .debit c es - total .credit c es := by
  induction es with
  | nil => rfl
  | cons e es ih =>
    have valid := e.sided
    rw [total_cons, total_cons]
    by_cases here : e.currency = c
    · have first : postingsIn c (e :: es) = e.posting :: postingsIn c es := by
        simp [postingsIn, here]
      rw [first, List.map_cons, List.sum_cons, ih]
      cases side : e.side with
      | debit | credit =>
        simp [here, Entry.posting, Posting.toward, Side.column, side]
        omega
      | other => simp [side, Side.isValid] at valid
    · have skipped : postingsIn c (e :: es) = postingsIn c es := by
        simp [postingsIn, here]
      rw [skipped, ih]
      simp [here]

theorem even_of_balance (passed : t.balance = .ok ())
    (fits : ∀ side c, total side c t.entries < 2 ^ 63) : Even t.entries := by
  have equal := ((checksExactly_of_fits t fun e _ side => fits side e.currency).mp passed).2
  intro c
  rw [Lib.DoubleEntry.Balanced, sum_postingsIn]
  by_cases used : ∃ e ∈ t.entries, e.currency = c
  · obtain ⟨e, mem, rfl⟩ := used
    rw [equal e mem, sub_self]
  · have absent : ∀ side, total side c t.entries = 0 := by
      intro side
      have none : t.entries.filter (fun e => e.side = side ∧ e.currency = c) = [] :=
        List.filter_eq_nil_iff.mpr fun e mem found => by
          simp only [decide_eq_true_eq] at found
          exact used ⟨e, mem, found.2⟩
      rw [total, amounts, none]
      rfl
    rw [absent, absent, sub_zero]

theorem Even.of_new {p : NewTransactionParams}
    (h : newTransaction p draws = .ok t) : Even t.entries := by
  rw [(newTransaction_ok h).1]
  exact .nil

theorem Even.sealed (even : Even t.entries) (h : t.sealed = .ok t') : Even t'.entries := by
  obtain ⟨rfl, -⟩ := Transaction.sealed_ok h
  exact even

theorem Even.of_pair {p : NewTransactionParams} {debit credit : AccountType} (h : (do
      let t ← newTransaction p draws
      let t ← t.addPair l debit credit draws
      t.sealed) = Except.ok t) : Even t.entries := by
  obtain ⟨opened, new, rest⟩ := call_ok h
  obtain ⟨paired, added, last⟩ := call_ok rest
  exact ((Even.of_new new).addPair added).sealed last

theorem even_chargeback {p : ChargebackParams}
    (h : chargebackTransaction p draws = .ok t) : Even t.entries := by
  unfold chargebackTransaction at h
  split at h
  · cases h
  · obtain ⟨opened, new, rest⟩ := call_ok h
    obtain ⟨moved, added, rest⟩ := call_ok rest
    have paired := (Even.of_new new).addPair added
    split at rest
    · obtain ⟨charged, added', last⟩ := call_ok rest
      exact (paired.addPair added').sealed last
    · exact paired.sealed rest

theorem total_addEntry_le (h : t.addEntry l draws = .ok t') (side : Side) (c : Currency) :
    total side c t'.entries ≤
      total side c t.entries + if l.side = side then l.amount.minor else 0 := by
  obtain ⟨e, made, rfl⟩ := Transaction.addEntry_ok h
  have positive := e.minor_pos
  rw [made.amount] at positive
  rw [total_append, total_cons, total_nil, made.side, made.amount]
  by_cases here : l.side = side
  · by_cases own : e.currency = c
    · simp [here, own]
    · simp only [here, own, and_false, if_false, if_true]
      omega
  · simp [here]

theorem total_addPositive_le (h : t.addPositive l draws = .ok t') (side : Side) (c : Currency) :
    total side c t'.entries ≤
      total side c t.entries + if l.side = side then max 0 l.amount.minor else 0 := by
  unfold Transaction.addPositive at h
  split at h
  · have added := total_addEntry_le h side c
    split_ifs at * <;> omega
  · cases h
    split_ifs <;> omega

theorem settlement_fits {net fee gross : Transaction} {m n : Line}
    (new : t.entries = []) (sides : l.side = .debit ∧ m.side = .debit ∧ n.side = .credit)
    (reconciles : l.amount.minor + m.amount.minor = n.amount.minor)
    (first : t.addPositive l draws = .ok net) (second : net.addPositive m draws = .ok fee)
    (third : fee.addEntry n draws = .ok gross) (side : Side) (c : Currency) :
    total side c gross.entries < 2 ^ 63 := by
  obtain ⟨netSide, feeSide, grossSide⟩ := sides
  have lBound := l.amount.minor_bounds
  have mBound := m.amount.minor_bounds
  have nBound := n.amount.minor_bounds
  have atNet := total_addPositive_le first side c
  have atFee := total_addPositive_le second side c
  have atGross := total_addEntry_le third side c
  rw [new, total_nil, netSide] at atNet
  rw [feeSide] at atFee
  rw [grossSide] at atGross
  cases side with
  | debit | credit =>
    simp only [if_true, reduceCtorEq, if_false] at atNet atFee atGross
    omega
  | other =>
    simp only [reduceCtorEq, if_false] at atNet atFee atGross
    omega

theorem even_settlement {p : SettlementParams}
    (h : settlementTransaction p draws = .ok t) : Even t.entries := by
  unfold settlementTransaction at h
  dsimp only at h
  generalize (if p.fees.currency = "" then Money.zero p.gross.currency else p.fees) = fees at h
  split at h
  · cases h
  split at h
  · cases h
  split at h
  · cases h
  rename_i expected added
  split at h
  · cases h
  rename_i equal
  obtain rfl := (expected.equal_iff _).mp (not_not.mp equal)
  obtain ⟨opened, new, rest⟩ := call_ok h
  obtain ⟨net, first, rest⟩ := call_ok rest
  obtain ⟨fee, second, rest⟩ := call_ok rest
  obtain ⟨gross, third, last⟩ := call_ok rest
  obtain ⟨rfl, passed⟩ := Transaction.sealed_ok last
  refine even_of_balance passed ?_
  exact settlement_fits (newTransaction_ok new).1 ⟨rfl, rfl, rfl⟩ (Money.add_ok added).2.2.symm
    first second third

theorem Built.even (built : Built t) : Even t.entries := by
  cases built with
  | capture h => exact .of_pair h
  | fee h => exact .of_pair h
  | refund h => exact .of_pair h
  | chargeback h => exact even_chargeback h
  | settlement h => exact even_settlement h

theorem even_flatMap {txs : List Transaction} (built : ∀ t ∈ txs, Built t) :
    Even (txs.flatMap (·.entries)) := by
  induction txs with
  | nil => exact .nil
  | cons t txs ih =>
    rw [List.flatMap_cons]
    exact (built t List.mem_cons_self).even.append
      (ih fun u mem => built u (List.mem_cons_of_mem _ mem))

theorem balanceOf_eq (distinct : (book.map (·.key)).Nodup)
    (mem : a ∈ book) : balanceOf book a.key = a.balance.minor := by
  induction book with
  | nil => cases mem
  | cons b book ih =>
    rw [List.map_cons, List.nodup_cons] at distinct
    rcases List.mem_cons.mp mem with rfl | later
    · simp [balanceOf]
    · have other : b.key ≠ a.key := fun same =>
        distinct.1 (same ▸ List.mem_map.mpr ⟨a, later, rfl⟩)
      rw [← ih distinct.2 later]
      simp [balanceOf, other]

theorem balance_postingsIn (es : List Entry) {key : AccountKey} {c : Currency}
    (own : key.currency = c) :
    DoubleEntry.balance AccountKey.column (postingsIn c es) key =
      DoubleEntry.balance AccountKey.column (es.map Entry.posting) key := by
  unfold DoubleEntry.balance postingsIn
  rw [List.filter_map, List.filter_map, List.filter_filter]
  congr 3
  refine List.filter_congr fun e _ => ?_
  have within : e.accountKey = key → e.currency = c := fun at_ => own ▸ at_ ▸ rfl
  by_cases at_ : e.accountKey = key
  · simp [Entry.posting, at_, within at_]
  · simp [Entry.posting, at_]

theorem holdings_eq (ran : postAll es = .ok book)
    {side : Side} (known : side.isValid = true) (c : Currency) :
    holdings side c book =
      ((((book.map (·.key)).filter fun k => k.currency = c).filter
          fun k => k.column = side.column).map
        (DoubleEntry.balance AccountKey.column (postingsIn c es))).sum := by
  obtain ⟨distinct, opened, balances⟩ := postAll_ok ran
  have sided : ∀ a ∈ book, (a.normalSide = side ↔ a.key.column = side.column) := by
    intro a mem
    obtain ⟨e, -, key⟩ := (opened a.key).mp (List.mem_map.mpr ⟨a, mem, rfl⟩)
    have valid : a.key.type.normalSide.isValid = true := by
      rw [← key]
      exact AccountType.normalSide_valid e.account_valid
    rw [a.normal]
    exact (Side.column_eq_iff valid known).symm
  unfold holdings
  rw [List.filter_map, List.filter_map, List.map_map, List.filter_filter]
  have same : book.filter (fun a => a.normalSide = side ∧ a.key.currency = c) =
      book.filter fun a => ((fun k : AccountKey => decide (k.column = side.column)) ∘ (·.key)) a &&
        ((fun k : AccountKey => decide (k.currency = c)) ∘ (·.key)) a := by
    refine List.filter_congr fun a mem => ?_
    simp [sided a mem]
  rw [same]
  refine congrArg List.sum (List.map_congr_left fun a mem => ?_)
  obtain ⟨inside, chosen⟩ := List.mem_filter.mp mem
  have own : a.key.currency = c := by
    simp only [Function.comp_apply, Bool.and_eq_true, decide_eq_true_eq] at chosen
    exact chosen.2
  rw [Function.comp_apply, balance_postingsIn es own, ← balances, balanceOf_eq distinct inside]

theorem holdings_eq_of_even (ran : postAll es = .ok book)
    (even : Even es) (c : Currency) : holdings .debit c book = holdings .credit c book := by
  obtain ⟨distinct, opened, -⟩ := postAll_ok ran
  rw [holdings_eq ran rfl, holdings_eq ran rfl]
  refine Lib.DoubleEntry.trial_balance AccountKey.column (distinct.filter _) (fun p mem => ?_) (even c)
  obtain ⟨e, posted, rfl⟩ := List.mem_map.mp mem
  obtain ⟨inside, own⟩ := List.mem_filter.mp posted
  exact List.mem_filter.mpr ⟨(opened _).mpr ⟨e, inside, rfl⟩, own⟩

/-- In whatever order the builders' lines are folded into their accounts, the books are even in
every currency, and no balance depends on the order. -/
theorem books_even {txs : List Transaction} (built : ∀ t ∈ txs, Built t) {order : List Entry}
    (all : order.Perm (txs.flatMap (·.entries))) {book : List Account}
    (ran : postAll order = .ok book) :
    (∀ c, holdings .debit c book = holdings .credit c book) ∧
      ∀ order' book', order'.Perm order → postAll order' = .ok book' →
        ∀ key, balanceOf book' key = balanceOf book key := by
  refine ⟨holdings_eq_of_even ran ((even_flatMap built).perm all), ?_⟩
  intro order' book' same ran' key
  exact balanceOf_perm ran ran' same key

def sampleCapture : CaptureParams where
  tenantID := "ten_1"
  merchantID := "mer_1"
  paymentID := "pay_1"
  attemptID := "att_1"
  gross := ⟨5000, "USD"⟩
  gatewayRef := "ch_1"
  occurredAt := 1

def sampleRefund : RefundParams where
  tenantID := "ten_1"
  merchantID := "mer_1"
  paymentID := "pay_1"
  refundID := "ref_1"
  amount := ⟨1200, "USD"⟩
  gatewayRef := "re_1"
  occurredAt := 2
  awaitingGatewayConfirmation := true

def sampleChargeback : ChargebackParams where
  tenantID := "ten_1"
  merchantID := "mer_1"
  paymentID := "pay_1"
  stage := .lost
  amount := ⟨800, "USD"⟩
  fee := ⟨15, "EUR"⟩
  disputeRef := "dp_1"
  occurredAt := 3

def sampleSettlement : SettlementParams where
  tenantID := "ten_1"
  merchantID := "mer_1"
  paymentID := "pay_1"
  gross := ⟨3000, "USD"⟩
  fees := ⟨90, "USD"⟩
  net := ⟨2910, "USD"⟩
  settlementRef := "po_1"
  occurredAt := 4

def sampleGroups : List Transaction :=
  [captureTransaction sampleCapture sampleDraws, refundTransaction sampleRefund sampleDraws,
    chargebackTransaction sampleChargeback sampleDraws,
    settlementTransaction sampleSettlement sampleDraws].filterMap Except.toOption

theorem built_sampleGroups : ∀ t ∈ sampleGroups, Built t := by
  intro t mem
  obtain ⟨answer, listed, made⟩ := List.mem_filterMap.mp mem
  have ok : answer = .ok t := by
    cases answer with
    | error => cases made
    | ok =>
      cases made
      rfl
  subst ok
  simp only [List.mem_cons, List.not_mem_nil, or_false] at listed
  rcases listed with h | h | h | h
  · exact .capture h.symm
  · exact .refund h.symm
  · exact .chargeback h.symm
  · exact .settlement h.symm

/-- Four groups, folded in from the last line to the first. -/
theorem books_even_sampleGroups :
    sampleGroups.length = 4 ∧ ∃ book,
      postAll (sampleGroups.flatMap (·.entries)).reverse = .ok book ∧ book.length = 8 ∧
        ∀ c, holdings .debit c book = holdings .credit c book := by
  have ran : ((postAll (sampleGroups.flatMap (·.entries)).reverse).toOption.map List.length) =
      some 8 := by
    decide +kernel
  cases done : postAll (sampleGroups.flatMap (·.entries)).reverse with
  | error =>
    rw [done] at ran
    cases ran
  | ok book =>
    rw [done] at ran
    refine ⟨by decide +kernel, book, rfl, Option.some.inj ran, ?_⟩
    exact (books_even built_sampleGroups (List.reverse_perm _) done).1

end PaymentsPlatform.Ledger
