/- layer: model of pkg/money
   digest: Currency-tagged int64 amounts, with the checked arithmetic the aggregates rest on. -/

import Mathlib
import PaymentsPlatform.Pkg.ApiError

namespace PaymentsPlatform.Pkg

abbrev Currency := String

/-- The supported currencies with their ISO 4217 exponents. -/
def currencies : List (Currency × Nat) :=
  [("AED", 2), ("AUD", 2), ("BHD", 3), ("BRL", 2), ("CAD", 2), ("CHF", 2), ("CLF", 4),
    ("CLP", 0), ("CNY", 2), ("COP", 2), ("CZK", 2), ("DKK", 2), ("EUR", 2), ("GBP", 2),
    ("HKD", 2), ("HUF", 2), ("IDR", 2), ("ILS", 2), ("INR", 2), ("ISK", 0), ("JOD", 3),
    ("JPY", 0), ("KRW", 0), ("KWD", 3), ("MXN", 2), ("MYR", 2), ("NOK", 2), ("NZD", 2),
    ("OMR", 3), ("PHP", 2), ("PLN", 2), ("RON", 2), ("SAR", 2), ("SEK", 2), ("SGD", 2),
    ("THB", 2), ("TND", 3), ("TRY", 2), ("TWD", 2), ("USD", 2), ("VND", 0), ("ZAR", 2)]

def Currency.isSupported (c : Currency) : Bool := (currencies.lookup c).isSome

def Currency.exponent (c : Currency) : Nat := (currencies.lookup c).getD 2

/-- An amount in minor units.  The amount is a machine integer: sums wrap, and
the operations below detect the wrap from the signs. -/
structure Money where
  amount : Int64
  currency : Currency
  deriving DecidableEq

namespace Money

def zero (c : Currency) : Money := ⟨0, c⟩

def isZero (m : Money) : Bool := m.amount == 0

def isPositive (m : Money) : Bool := m.amount > 0

def isNegative (m : Money) : Bool := m.amount < 0

def isValid (m : Money) : Bool := Currency.isSupported m.currency

def errUnknownCurrency : GoError := .sentinel "money: unknown currency code"

def new (minorUnits : Int64) (c : Currency) : Except GoError Money :=
  if !Currency.isSupported c then
    .error (.wrap (errUnknownCurrency.error ++ ": " ++ ApiError.quoted c) errUnknownCurrency)
  else .ok ⟨minorUnits, c⟩

def errCurrencyMismatch : GoError := .sentinel "money: currency mismatch"

def errOverflow : GoError := .sentinel "money: arithmetic overflow"

/-- The mismatch error of a binary operation, with its operator as the source
prints it. -/
def mismatch (m other : Money) (op : String) : GoError :=
  .wrap ("money: currency mismatch: " ++ m.currency ++ op ++ other.currency) errCurrencyMismatch

def add (m other : Money) : Except GoError Money :=
  if m.currency ≠ other.currency then .error (mismatch m other " + ")
  else
    let sum := m.amount + other.amount
    if (m.amount > 0 ∧ other.amount > 0 ∧ sum < 0) ∨
        (m.amount < 0 ∧ other.amount < 0 ∧ sum ≥ 0) then .error errOverflow
    else .ok ⟨sum, m.currency⟩

def sub (m other : Money) : Except GoError Money :=
  if m.currency ≠ other.currency then .error (mismatch m other " - ")
  else
    let diff := m.amount - other.amount
    if (m.amount ≥ 0 ∧ other.amount < 0 ∧ diff < 0) ∨
        (m.amount < 0 ∧ other.amount > 0 ∧ diff ≥ 0) then .error errOverflow
    else .ok ⟨diff, m.currency⟩

def neg (m : Money) : Money := ⟨-m.amount, m.currency⟩

def cmp (m other : Money) : Except GoError Ordering :=
  if m.currency ≠ other.currency then .error (mismatch m other " vs ")
  else if m.amount < other.amount then .ok .lt
  else if m.amount > other.amount then .ok .gt
  else .ok .eq

def greaterThan (m other : Money) : Except GoError Bool :=
  (m.cmp other).map (· == .gt)

def lessThan (m other : Money) : Except GoError Bool :=
  (m.cmp other).map (· == .lt)

/-- Multiplies by `bp / 10000`, rounding half away from zero. -/
def mulBasisPoints (m : Money) (bp : Int64) : Except GoError Money :=
  let prod := m.amount * bp
  if m.amount ≠ 0 ∧ prod / m.amount ≠ bp then .error errOverflow
  else
    let q := prod / 10000
    let r := prod % 10000
    .ok ⟨if r ≥ 5000 then q + 1 else if r ≤ -5000 then q - 1 else q, m.currency⟩

def equal (m other : Money) : Bool := m.amount == other.amount && m.currency == other.currency

/-- `fmt`'s `%0*d`: the sign counts towards the width. -/
def zeroPadded (width : Nat) (n : Int) : String :=
  let digits := toString n.natAbs
  let sign := if n < 0 then "-" else ""
  sign ++ String.ofList (List.replicate (width - sign.length - digits.length) '0') ++ digits

/-- `Money.String`.  Negating the least int64 wraps to itself, so its major and
minor parts keep their signs. -/
def string (m : Money) : String :=
  let exp := Currency.exponent m.currency
  if exp = 0 then m.currency ++ " " ++ toString m.amount.toInt
  else
    let neg := m.amount < 0
    let a := if neg then -m.amount else m.amount
    let div := Int64.ofNat (10 ^ exp)
    m.currency ++ " " ++ (if neg then "-" else "") ++ toString (a / div).toInt ++ "." ++
      zeroPadded exp (a % div).toInt

/-- The amount as an integer, for stating totals without wrapping. -/
def minor (m : Money) : Int := m.amount.toInt

theorem isPositive_iff (m : Money) : m.isPositive = true ↔ 0 < m.minor := by
  simp [isPositive, minor, Int64.lt_iff_toInt_lt]

theorem isZero_iff (m : Money) : m.isZero = true ↔ m.minor = 0 := by
  simp [isZero, minor, ← Int64.toInt_inj]

theorem minor_bounds (m : Money) : -2 ^ 63 ≤ m.minor ∧ m.minor < 2 ^ 63 :=
  ⟨m.amount.le_toInt, m.amount.toInt_lt⟩

private theorem toInt_add_cases (a b : Int64) :
    (a + b).toInt = a.toInt + b.toInt ∨
      (0 < a.toInt ∧ 0 < b.toInt ∧ (a + b).toInt < 0 ∧ 2 ^ 63 ≤ a.toInt + b.toInt) ∨
      (a.toInt < 0 ∧ b.toInt < 0 ∧ 0 ≤ (a + b).toInt ∧ a.toInt + b.toInt < -2 ^ 63) := by
  have wrapped : (a + b).toInt = (a.toInt + b.toInt).bmod (2 ^ 64) := Int64.toInt_add a b
  have := a.le_toInt
  have := a.toInt_lt
  have := b.le_toInt
  have := b.toInt_lt
  rw [Int.bmod_def] at wrapped
  norm_num at *
  split_ifs at wrapped <;> omega

private theorem wraps_iff (m other : Money) :
    ((m.amount > 0 ∧ other.amount > 0 ∧ m.amount + other.amount < 0) ∨
        (m.amount < 0 ∧ other.amount < 0 ∧ m.amount + other.amount ≥ 0)) ↔
      (m.minor + other.minor < -2 ^ 63 ∨ 2 ^ 63 ≤ m.minor + other.minor) := by
  simp only [gt_iff_lt, ge_iff_le, Int64.lt_iff_toInt_lt, Int64.le_iff_toInt_le,
    Int64.toInt_zero, minor]
  have := (m.amount + other.amount).le_toInt
  have := (m.amount + other.amount).toInt_lt
  rcases toInt_add_cases m.amount other.amount with exact | ⟨_, _, _, _⟩ | ⟨_, _, _, _⟩ <;> omega

variable {m other : Money}

/-- The sign test of `add` refuses exactly the sums that leave the int64 range,
and every other sum is the mathematical one. -/
theorem add_of_currency_eq (same : other.currency = m.currency) :
    (-2 ^ 63 ≤ m.minor + other.minor ∧ m.minor + other.minor < 2 ^ 63 ∧
        m.add other = .ok ⟨m.amount + other.amount, m.currency⟩ ∧
        (m.amount + other.amount).toInt = m.minor + other.minor) ∨
      ((m.minor + other.minor < -2 ^ 63 ∨ 2 ^ 63 ≤ m.minor + other.minor) ∧
        m.add other = .error errOverflow) := by
  unfold add
  rw [if_neg (by simp [same])]
  by_cases wraps : m.minor + other.minor < -2 ^ 63 ∨ 2 ^ 63 ≤ m.minor + other.minor
  · exact .inr ⟨wraps, if_pos ((wraps_iff m other).mpr wraps)⟩
  · refine .inl ⟨by omega, by omega, if_neg fun h => wraps ((wraps_iff m other).mp h), ?_⟩
    rcases toInt_add_cases m.amount other.amount with exact | ⟨_, _, _, _⟩ | ⟨_, _, _, _⟩ <;>
      simp only [minor] at * <;> omega

theorem add_ok {total : Money} (h : m.add other = .ok total) :
    other.currency = m.currency ∧ total.currency = m.currency ∧
      total.minor = m.minor + other.minor := by
  by_cases same : other.currency = m.currency
  · rcases add_of_currency_eq same with ⟨_, _, ok, exact⟩ | ⟨_, err⟩
    · cases ok.symm.trans h
      exact ⟨same, rfl, exact⟩
    · cases err.symm.trans h
  · unfold add at h
    rw [if_pos (Ne.symm same)] at h
    cases h

theorem equal_iff (m other : Money) : m.equal other = true ↔ m = other := by
  cases m with
  | mk => cases other with
    | mk => simp [equal]

theorem minor_neg (h : -2 ^ 63 < m.minor) : m.neg.minor = -m.minor := by
  have upper := m.minor_bounds.2
  unfold minor neg at *
  rw [Int64.toInt_neg, Int.bmod_def]
  norm_num at *
  split_ifs <;> omega

theorem sub_of_nonneg (same : other.currency = m.currency) (hm : 0 ≤ m.minor)
    (ho : 0 ≤ other.minor) :
    ∃ diff, m.sub other = .ok diff ∧ diff.minor = m.minor - other.minor ∧
      diff.currency = m.currency := by
  have fits : ¬ ((m.amount ≥ 0 ∧ other.amount < 0 ∧ m.amount - other.amount < 0) ∨
      (m.amount < 0 ∧ other.amount > 0 ∧ m.amount - other.amount ≥ 0)) := by
    simp only [ge_iff_le, gt_iff_lt, Int64.lt_iff_toInt_lt, Int64.le_iff_toInt_le, Int64.toInt_zero]
    unfold minor at hm ho
    omega
  refine ⟨⟨m.amount - other.amount, m.currency⟩, ?_, ?_, rfl⟩
  · rw [sub, if_neg (by simp [same])]
    exact if_neg fits
  · have upper := m.minor_bounds.2
    have upper' := other.minor_bounds.2
    unfold minor at *
    rw [Int64.toInt_sub, Int.bmod_def]
    norm_num at *
    split_ifs <;> omega

theorem cmp_of_currency_eq (same : other.currency = m.currency) :
    m.cmp other = .ok (compare m.minor other.minor) := by
  unfold cmp
  simp only [same, ne_eq, not_true_eq_false, if_false, Int64.lt_iff_toInt_lt, gt_iff_lt, minor]
  split_ifs with hlt hgt
  · rw [compare_lt_iff_lt.mpr hlt]
  · rw [compare_gt_iff_gt.mpr hgt]
  · rw [compare_eq_iff_eq.mpr (by omega)]

theorem greaterThan_of_currency_eq (same : other.currency = m.currency) :
    m.greaterThan other = .ok (decide (other.minor < m.minor)) := by
  unfold greaterThan
  rw [cmp_of_currency_eq same]
  by_cases more : other.minor < m.minor
  · simp [Except.map, compare_gt_iff_gt.mpr more, more]
  · simp [Except.map, compare_gt_iff_gt, more]

end Money

end PaymentsPlatform.Pkg
