/- layer: model of platform/secret/pan.go
   digest: The detector of card numbers, and the card numbers it cannot miss. -/

import Mathlib.Data.List.Infix

namespace PaymentsPlatform.Secret

/-- The mod-10 checksum: every second digit from the right is doubled. -/
def luhn (d : List Nat) : Bool :=
  let sum := d.reverse.zipIdx.foldl (fun sum v =>
    sum + if v.2 % 2 = 0 then v.1 else if 2 * v.1 > 9 then 2 * v.1 - 9 else 2 * v.1) 0
  sum % 10 == 0

/-- The first `k` digits as one number. -/
def leading (k : Nat) (d : List Nat) : Nat := (d.take k).foldl (fun n v => n * 10 + v) 0

def plausibleIIN (d : List Nat) : Bool :=
  let n := d.length
  let d1 := leading 1 d
  let d2 := leading 2 d
  let d3 := leading 3 d
  let d4 := leading 4 d
  let d6 := leading 6 d
  if n < 13 then false
  else if d1 = 4 then [13, 16, 19].contains n
  else if 51 ≤ d2 ∧ d2 ≤ 55 then n == 16
  else if 2221 ≤ d4 ∧ d4 ≤ 2720 then n == 16
  else if d2 = 34 ∨ d2 = 37 then n == 15
  else if d4 = 6011 ∨ (644 ≤ d3 ∧ d3 ≤ 649) ∨ d2 = 65 ∨ (622126 ≤ d6 ∧ d6 ≤ 622925) then
    [16, 19].contains n
  else if 3528 ≤ d4 ∧ d4 ≤ 3589 then decide (16 ≤ n ∧ n ≤ 19)
  else if (300 ≤ d3 ∧ d3 ≤ 305) ∨ d4 = 3095 ∨ [36, 38, 39].contains d2 then
    decide (14 ≤ n ∧ n ≤ 19)
  else if d2 = 62 then decide (16 ≤ n ∧ n ≤ 19)
  else if [5018, 5020, 5038, 5893, 6304, 6759, 6761, 6762, 6763].contains d4 then
    decide (13 ≤ n ∧ n ≤ 19)
  else false

/-- One run of digits: a run of at most 19 is a card number as a whole or not at all, in a
longer one every window is tried. -/
def scanRun (d : List Nat) : Bool :=
  if d.length < 13 then false
  else if d.length ≤ 19 then plausibleIIN d && luhn d
  else [19, 18, 17, 16, 15, 14, 13].any fun n =>
    (List.range (d.length + 1 - n)).any fun i =>
      let w := (d.drop i).take n
      plausibleIIN w && luhn w

def isDigit (c : UInt8) : Bool := decide (48 ≤ c ∧ c ≤ 57)

/-- Space, hyphen, period and tab. -/
def isSeparator (c : UInt8) : Bool := [32, 45, 46, 9].contains c

/-- The loop of `ContainsPAN`, with the digits of the current run.  A separator does not end
the run. -/
def scan (run : List Nat) : List UInt8 → Bool
  | [] => scanRun run
  | c :: rest =>
    if isDigit c then scan (run ++ [c.toNat - 48]) rest
    else if isSeparator c then scan run rest
    else scanRun run || scan [] rest

/-- Over the bytes of the string. -/
def containsPAN (s : List UInt8) : Bool :=
  if s.length < 13 then false else scan [] s

def digits (l : List UInt8) : List Nat := (l.filter isDigit).map fun c => c.toNat - 48

/-- Neither a digit nor a separator: such a byte ends a run. -/
def Breaks (c : UInt8) : Prop := isDigit c = false ∧ isSeparator c = false

variable {run d x w y : List Nat} {l before text after : List UInt8}

theorem scan_append (joined : ∀ c ∈ l, ¬ Breaks c) :
    scan run (l ++ after) = scan (run ++ digits l) after := by
  induction l generalizing run with
  | nil => simp [digits]
  | cons c l ih =>
    have later := fun c mem => joined c (List.mem_cons_of_mem _ mem)
    have first := joined c List.mem_cons_self
    rw [List.cons_append, scan]
    split_ifs with digit separator
    · rw [ih later]
      simp [digits, digit]
    · rw [ih later]
      simp [digits, digit]
    · exact absurd ⟨by simpa using digit, by simpa using separator⟩ first

theorem scan_of_break {c : UInt8} (ends : Breaks c) (found : scan [] l = true) :
    scan run (before ++ c :: l) = true := by
  induction before generalizing run with
  | nil => simp [scan, ends.1, ends.2, found]
  | cons b before ih =>
    rw [List.cons_append, scan]
    split_ifs
    · exact ih
    · exact ih
    · rw [ih, Bool.or_true]

theorem scan_of_scanRun (number : scanRun run = true) (ends : ∀ c ∈ after.head?, Breaks c) :
    scan run after = true := by
  cases after with
  | nil => exact number
  | cons c =>
    have ends := ends c rfl
    simp [scan, ends.1, ends.2, number]

theorem plausibleIIN_length (issued : plausibleIIN d = true) : 13 ≤ d.length ∧ d.length ≤ 19 := by
  simp only [plausibleIIN] at issued
  split_ifs at issued <;> simp at issued <;> omega

/-- A card number by itself, or anywhere in a run of 20 digits or more. -/
theorem scanRun_of_number (issued : plausibleIIN w = true) (sum : luhn w = true)
    (whole : x = [] ∧ y = [] ∨ 20 ≤ (x ++ w ++ y).length) : scanRun (x ++ w ++ y) = true := by
  obtain ⟨atLeast, atMost⟩ := plausibleIIN_length issued
  unfold scanRun
  rcases whole with ⟨rfl, rfl⟩ | long
  · simp [issued, sum, atMost, Nat.not_lt.mpr atLeast]
  · rw [if_neg (by omega), if_neg (by omega), List.any_eq_true]
    refine ⟨w.length, by simp; omega, List.any_eq_true.mpr ⟨x.length, ?_, ?_⟩⟩
    · simp only [List.mem_range, List.length_append]
      omega
    · simp [issued, sum]

/-- A card number is found wherever its run of digits and separators stands, if the run has no other
digits or is longer than any card number. -/
theorem containsPAN_of_number (joined : ∀ c ∈ text, ¬ Breaks c)
    (starts : ∀ c ∈ before.getLast?, Breaks c) (ends : ∀ c ∈ after.head?, Breaks c)
    (holds : digits text = x ++ w ++ y) (issued : plausibleIIN w = true) (sum : luhn w = true)
    (whole : x = [] ∧ y = [] ∨ 20 ≤ (x ++ w ++ y).length) :
    containsPAN (before ++ (text ++ after)) = true := by
  have found : scan [] (text ++ after) = true := by
    rw [scan_append joined, List.nil_append, holds]
    exact scan_of_scanRun (scanRun_of_number issued sum whole) ends
  have length : 13 ≤ text.length := by
    have shorter : (digits text).length ≤ text.length := by
      simpa [digits] using List.length_filter_le isDigit text
    have := (plausibleIIN_length issued).1
    simp only [holds, List.length_append] at shorter
    omega
  rw [containsPAN, if_neg (by simp only [List.length_append]; omega)]
  rcases List.eq_nil_or_concat' before with rfl | ⟨init, c, rfl⟩
  · exact found
  · rw [List.append_assoc]
    exact scan_of_break (starts c (by simp)) found

def bytes (s : String) : List UInt8 := s.toList.map fun c => c.toNat.toUInt8

theorem containsPAN_of_number_quoted :
    containsPAN (bytes "card:" ++ (bytes " 4111-1111 1111.1111 " ++ bytes "(visa)")) = true :=
  containsPAN_of_number (x := []) (w := [4, 1, 1, 1, 1, 1, 1, 1, 1, 1, 1, 1, 1, 1, 1, 1])
    (y := []) (by unfold Breaks; decide +kernel) (by unfold Breaks; decide +kernel) (by unfold Breaks; decide +kernel)
    (by decide) (by decide) (by decide) (.inl ⟨rfl, rfl⟩)

/-- With the security code after a space the run has 19 digits, and is no card number as a
whole. -/
theorem number_with_code_missed :
    let number := bytes "4111 1111 1111 1111"
    plausibleIIN (digits number) = true ∧ luhn (digits number) = true ∧
      containsPAN (number ++ bytes " 123") = false := by
  decide

end PaymentsPlatform.Secret
