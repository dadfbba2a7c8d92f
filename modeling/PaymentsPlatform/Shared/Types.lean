/- layer: model of domain/shared (fsm.go, types.go, primitives.go)
   digest: The state machine every lifecycle is declared with, identifiers and primitives. -/

import Mathlib.Data.List.Sort
import PaymentsPlatform.Pkg.ApiError

namespace PaymentsPlatform.Shared

/-- A Go string type: its values are known by their text. -/
class StringType (S : Type) where
  text : S → String

export StringType (text)

/-- A declared machine.  The source's constructor panics at initialisation on a table that breaks
one of the last four fields. -/
structure StateMachine (S : Type) where
  name : String
  initial : S
  all : List S
  terminal : List S
  transitions : List (S × S)
  initial_mem : initial ∈ all
  terminal_sub : terminal ⊆ all
  ends_mem : ∀ t ∈ transitions, t.1 ∈ all ∧ t.2 ∈ all
  terminal_final : ∀ t ∈ transitions, t.1 ∉ terminal

namespace StateMachine

variable {S : Type} [DecidableEq S] (sm : StateMachine S)

def isKnown (s : S) : Bool := decide (s ∈ sm.all)

def isTerminal (s : S) : Bool := decide (s ∈ sm.terminal)

/-- A self-transition needs an explicit entry like any other, so the two branches
of the source agree. -/
def canTransition (src dst : S) : Bool := decide ((src, dst) ∈ sm.transitions)

theorem edge_rule {P : S → S → Prop} (declared : ∀ t ∈ sm.transitions, P t.1 t.2) {src dst : S}
    (edge : sm.canTransition src dst = true) : P src dst :=
  declared _ (of_decide_eq_true edge)

variable [StringType S]

/-- The permitted next states in lexicographic order. -/
def next (src : S) : List S :=
  (((sm.transitions.filter fun t => decide (t.1 = src)).map Prod.snd).dedup).insertionSort
    fun a b => text a ≤ text b

def ruleID : String := "L7." ++ sm.name.toUpper ++ "_TRANSITION"

def transition (src dst : S) : Except GoError Unit :=
  if ¬ sm.isKnown src then
    .error (new .internalError (sm.name ++ ": unknown current state \"" ++ text src ++
      "\" — this row may have been written by a newer version of the service"))
  else if ¬ sm.isKnown dst then
    .error (new .internalError (sm.name ++ ": unknown target state \"" ++ text dst ++ "\""))
  else if sm.canTransition src dst then .ok ()
  else if sm.isTerminal src then
    .error (newWithDetail .invalidStateTransition
      (sm.name ++ " is in terminal state " ++ text src ++ " and cannot transition to " ++ text dst)
      { field := "status", code := "TERMINAL_STATE",
        message := text src ++ " is a terminal state", ruleID := sm.ruleID })
  else
    let strs := (sm.next src).map text
    let permitted := if strs.length > 0 then ", ".intercalate strs else "none"
    .error (newWithDetail .invalidStateTransition
      (sm.name ++ " cannot transition from " ++ text src ++ " to " ++ text dst ++
        "; permitted next states are: " ++ permitted)
      { field := "status", code := "ILLEGAL_TRANSITION",
        message := "from " ++ text src ++ " the permitted next states are: " ++ permitted,
        ruleID := sm.ruleID })

theorem transition_ok_iff (src dst : S) :
    sm.transition src dst = .ok () ↔ sm.canTransition src dst = true := by
  constructor
  · intro accepted
    unfold transition at accepted
    split_ifs at accepted with _ _ edge
    exact edge
  · intro edge
    have declared : (src, dst) ∈ sm.transitions := by simpa [canTransition] using edge
    obtain ⟨src_mem, dst_mem⟩ := sm.ends_mem _ declared
    simp [transition, isKnown, src_mem, dst_mem, edge]

theorem map_transition_ok {α : Type} {src dst : S} {f : Unit → α} {x : α}
    (h : (sm.transition src dst).map f = .ok x) :
    sm.canTransition src dst = true ∧ x = f () := by
  cases moved : sm.transition src dst with
  | error =>
    rw [moved] at h
    cases h
  | ok =>
    rw [moved] at h
    cases h
    exact ⟨(sm.transition_ok_iff src dst).mp moved, rfl⟩

theorem codeOf_transition_error {src dst : S} {e : GoError}
    (refused : sm.transition src dst = .error e)
    (src_known : sm.isKnown src = true) (dst_known : sm.isKnown dst = true) :
    codeOf e = .invalidStateTransition := by
  unfold transition at refused
  simp only [src_known, dst_known, not_true_eq_false, if_false] at refused
  split_ifs at refused
  all_goals
    cases refused
    exact codeOf_newWithDetail _ _ _

end StateMachine

abbrev TenantID := String
abbrev MerchantID := String
abbrev GatewayID := String
abbrev ConnectionID := String
abbrev PaymentID := String
abbrev AttemptID := String
abbrev RefundID := String
abbrev PlanID := String
abbrev LedgerID := String
abbrev WebhookID := String
abbrev Country := String

/-- A clock reading, in nanoseconds.  A method that reads the clock takes the
reading as its last argument. -/
abbrev Time := Int

/-- The zero `time.Time`: midnight of 1 January of the year 1. -/
def zeroTime : Time := -62135596800 * 1000000000

/-- An `int64` in the program; what needs it not to wrap says so. -/
abbrev Version := Nat

def eeaCountries : List Country :=
  ["AT", "BE", "BG", "HR", "CY", "CZ", "DK", "EE", "FI", "FR", "DE", "GR", "HU", "IS", "IE", "IT",
    "LV", "LI", "LT", "LU", "MT", "NL", "NO", "PL", "PT", "RO", "SK", "SI", "ES", "SE", "GB"]

def Country.isSCAJurisdiction (c : Country) : Bool := eeaCountries.contains c

def isSpace (c : Char) : Bool := c.isWhitespace || c.toNat == 11 || c.toNat == 12

/-- `strings.TrimSpace`, on ASCII. -/
def trimSpace (s : String) : String :=
  String.ofList ((s.toList.dropWhile isSpace).reverse.dropWhile isSpace).reverse

inductive PaymentMethod where
  | card | applePay | googlePay | payPal | sepaDebit | achDebit | ideal | sofort | bancontact
  | upi | blik
  | other (raw : String)
  deriving DecidableEq

instance : StringType PaymentMethod where
  text
    | .card => "CARD"
    | .applePay => "APPLE_PAY"
    | .googlePay => "GOOGLE_PAY"
    | .payPal => "PAYPAL"
    | .sepaDebit => "SEPA_DEBIT"
    | .achDebit => "ACH_DEBIT"
    | .ideal => "IDEAL"
    | .sofort => "SOFORT"
    | .bancontact => "BANCONTACT"
    | .upi => "UPI"
    | .blik => "BLIK"
    | .other raw => raw

def PaymentMethod.isValid : PaymentMethod → Bool
  | .other _ => false
  | _ => true

def PaymentMethod.supportsSeparateCapture : PaymentMethod → Bool
  | .card | .applePay | .googlePay | .payPal => true
  | _ => false

/-- The method is in scope for strong customer authentication. -/
def PaymentMethod.requiresSCAConsideration : PaymentMethod → Bool
  | .card | .applePay | .googlePay => true
  | _ => false

inductive Operation where
  | authorize | capture | refund | void | lookup | provision | webhookRegister
  deriving DecidableEq

instance : StringType Operation where
  text
    | .authorize => "authorize"
    | .capture => "capture"
    | .refund => "refund"
    | .void => "void"
    | .lookup => "lookup"
    | .provision => "provision"
    | .webhookRegister => "webhook_register"

def Operation.isMoneyMoving : Operation → Bool
  | .authorize | .capture | .refund | .void => true
  | _ => false

def countries : List Country :=
  ["AD", "AE", "AF", "AG", "AI", "AL", "AM", "AO", "AQ", "AR", "AS", "AT", "AU", "AW", "AX", "AZ",
    "BA", "BB", "BD", "BE", "BF", "BG", "BH", "BI", "BJ", "BL", "BM", "BN", "BO", "BQ", "BR", "BS",
    "BT", "BV", "BW", "BY", "BZ", "CA", "CC", "CD", "CF", "CG", "CH", "CI", "CK", "CL", "CM", "CN",
    "CO", "CR", "CU", "CV", "CW", "CX", "CY", "CZ", "DE", "DJ", "DK", "DM", "DO", "DZ", "EC", "EE",
    "EG", "EH", "ER", "ES", "ET", "FI", "FJ", "FK", "FM", "FO", "FR", "GA", "GB", "GD", "GE", "GF",
    "GG", "GH", "GI", "GL", "GM", "GN", "GP", "GQ", "GR", "GS", "GT", "GU", "GW", "GY", "HK", "HM",
    "HN", "HR", "HT", "HU", "ID", "IE", "IL", "IM", "IN", "IO", "IQ", "IR", "IS", "IT", "JE", "JM",
    "JO", "JP", "KE", "KG", "KH", "KI", "KM", "KN", "KP", "KR", "KW", "KY", "KZ", "LA", "LB", "LC",
    "LI", "LK", "LR", "LS", "LT", "LU", "LV", "LY", "MA", "MC", "MD", "ME", "MF", "MG", "MH", "MK",
    "ML", "MM", "MN", "MO", "MP", "MQ", "MR", "MS", "MT", "MU", "MV", "MW", "MX", "MY", "MZ", "NA",
    "NC", "NE", "NF", "NG", "NI", "NL", "NO", "NP", "NR", "NU", "NZ", "OM", "PA", "PE", "PF", "PG",
    "PH", "PK", "PL", "PM", "PN", "PR", "PS", "PT", "PW", "PY", "QA", "RE", "RO", "RS", "RU", "RW",
    "SA", "SB", "SC", "SD", "SE", "SG", "SH", "SI", "SJ", "SK", "SL", "SM", "SN", "SO", "SR", "SS",
    "ST", "SV", "SX", "SY", "SZ", "TC", "TD", "TF", "TG", "TH", "TJ", "TK", "TL", "TM", "TN", "TO",
    "TR", "TT", "TV", "TW", "TZ", "UA", "UG", "UM", "US", "UY", "UZ", "VA", "VC", "VE", "VG", "VI",
    "VN", "VU", "WF", "WS", "YE", "YT", "ZA", "ZM", "ZW"]

def Country.isValid (c : Country) : Bool := countries.contains c

abbrev MCC := String

def prohibitedMCCs : List (MCC × String) :=
  [("5967", "inbound teleservices / adult"), ("7273", "dating and escort services"),
    ("7995", "gambling and betting transactions"), ("6051", "quasi-cash and cryptocurrency"),
    ("5122", "drugs and pharmaceutical proprietaries"),
    ("5912", "drug stores and pharmacies requiring specific licensing"),
    ("5993", "cigar stores and stands"),
    ("7994", "video game arcades and gambling-adjacent establishments")]

def MCC.isProhibited (m : MCC) : Option String := prohibitedMCCs.lookup m

inductive Environment where
  | sandbox | production
  | other (raw : String)

instance : StringType Environment where
  text
    | .sandbox => "sandbox"
    | .production => "production"
    | .other raw => raw

def Environment.isValid : Environment → Bool
  | .other _ => false
  | _ => true

end PaymentsPlatform.Shared

namespace PaymentsPlatform

export Shared (MerchantID Time Country Environment MCC StateMachine StringType TenantID Version
  text trimSpace WebhookID PaymentID RefundID GatewayID zeroTime Operation PaymentMethod AttemptID
  PlanID ConnectionID LedgerID)

end PaymentsPlatform
