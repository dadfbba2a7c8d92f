/- layer: model of domain/ledger (account.go, entry.go, transaction.go), of
     application/ledger/service.go and of Effect in application/webhook/process.go
   digest: Accounts, groups of lines and their builders, and posting a money movement once per
     reference. -/

import PaymentsPlatform.Gateways.Spi

namespace PaymentsPlatform.Ledger

open Pkg (Currency Money)

abbrev TransactionID := String

/-- The column a line lands in; `other` is a text that names neither. -/
inductive Side where
  | debit | credit
  | other (raw : String)
  deriving DecidableEq

instance : StringType Side where
  text
    | .debit => "DEBIT"
    | .credit => "CREDIT"
    | .other raw => raw

def Side.isValid (s : Side) : Bool := s == .debit || s == .credit

/-- The chart of accounts; `other` as for `Side`. -/
inductive AccountType where
  | merchantReceivable | gatewayClearing | feesPayable | refundsPayable | disputesHeld
  | settlementSuspense
  | other (raw : String)
  deriving DecidableEq

instance : StringType AccountType where
  text
    | .merchantReceivable => "MERCHANT_RECEIVABLE"
    | .gatewayClearing => "GATEWAY_CLEARING"
    | .feesPayable => "FEES_PAYABLE"
    | .refundsPayable => "REFUNDS_PAYABLE"
    | .disputesHeld => "DISPUTES_HELD"
    | .settlementSuspense => "SETTLEMENT_SUSPENSE"
    | .other raw => raw

def normalSides : List (AccountType × Side) :=
  [(.merchantReceivable, .credit), (.gatewayClearing, .debit), (.feesPayable, .credit),
    (.refundsPayable, .credit), (.disputesHeld, .debit), (.settlementSuspense, .debit)]

def AccountType.isValid (t : AccountType) : Bool := (normalSides.lookup t).isSome

/-- The side on which a line increases the balance.  A type that is not in the table reads
as the empty side. -/
def AccountType.normalSide (t : AccountType) : Side := (normalSides.lookup t).getD (.other "")

structure AccountKey where
  tenantID : TenantID
  merchantID : MerchantID
  type : AccountType
  currency : Currency
  deriving DecidableEq

namespace AccountKey

def validate (k : AccountKey) : Except GoError Unit :=
  if k.tenantID = "" then
    .error (new .missingTenantContext "a ledger account requires a tenant")
  else if k.merchantID = "" then
    .error (newWithDetail .validationFailed "a ledger account requires a merchant"
      { field := "merchantId", code := "MISSING_MERCHANT",
        message := "ledger accounts are per merchant; a tenant-level balance cannot be " ++
          "decomposed later",
        ruleID := "L7.LEDGER_ACCOUNT_SCOPED" })
  else if ¬ k.type.isValid then
    .error (newWithDetail .validationFailed ("unknown ledger account type " ++ quoted (text k.type))
      { field := "account", code := "UNKNOWN_ACCOUNT_TYPE",
        message := "must be one of the platform's chart-of-accounts entries",
        ruleID := "L7.LEDGER_ACCOUNT_KNOWN" })
  else if ¬ Currency.isSupported k.currency then
    .error (newWithDetail .currencyNotSupported
      ("ledger account currency " ++ quoted k.currency ++ " is not supported")
      { field := "currency", code := "UNSUPPORTED_CURRENCY",
        message := "an account holds exactly one currency and it must be a supported one",
        ruleID := "L7.LEDGER_ACCOUNT_CURRENCY" })
  else .ok ()

def string (k : AccountKey) : String :=
  text k.type ++ ":" ++ k.currency ++ ":" ++ k.tenantID ++ ":" ++ k.merchantID

end AccountKey

/-- The business event that produced a line.  There is none for an authorization. -/
inductive EntryType where
  | capture | refund | fee | chargeback | chargebackReversal | settlement | adjustment
  | other (raw : String)
  deriving DecidableEq

instance : StringType EntryType where
  text
    | .capture => "CAPTURE"
    | .refund => "REFUND"
    | .fee => "FEE"
    | .chargeback => "CHARGEBACK"
    | .chargebackReversal => "CHARGEBACK_REVERSAL"
    | .settlement => "SETTLEMENT"
    | .adjustment => "ADJUSTMENT"
    | .other raw => raw

def EntryType.isValid : EntryType → Bool
  | .other _ => false
  | _ => true

/-- One line.  Its fields are unexported and `newEntry` is the only way to one, so what that
checks is part of it. -/
structure Entry where
  id : LedgerID
  tenantID : TenantID
  merchantID : MerchantID
  transactionID : TransactionID
  account : AccountType
  side : Side
  amount : Money
  entryType : EntryType
  paymentID : PaymentID
  attemptID : AttemptID
  refundID : RefundID
  gatewayRef : String
  description : String
  occurredAt : Time
  recordedAt : Time
  keyed : (AccountKey.mk tenantID merchantID account amount.currency).validate = .ok ()
  sided : side.isValid = true
  positive : amount.isPositive = true

def Entry.accountKey (e : Entry) : AccountKey where
  tenantID := e.tenantID
  merchantID := e.merchantID
  type := e.account
  currency := e.amount.currency

def Entry.currency (e : Entry) : Currency := e.amount.currency

structure NewEntryParams where
  tenantID : TenantID
  merchantID : MerchantID
  transactionID : TransactionID
  account : AccountType
  side : Side
  amount : Money
  entryType : EntryType
  paymentID : PaymentID
  attemptID : AttemptID
  refundID : RefundID
  gatewayRef : String
  description : String
  occurredAt : Time

def unknownEntryType (t : EntryType) : GoError :=
  newWithDetail .validationFailed ("unknown ledger entry type " ++ quoted (text t))
    { field := "entryType", code := "UNKNOWN_ENTRY_TYPE",
      message := "an authorization is a hold, not a movement, and has no entry type",
      ruleID := "L7.LEDGER_ENTRY_TYPE_KNOWN" }

/-- `NewEntry`, with the identifier drawn for the line and the clock reading. -/
def newEntry (p : NewEntryParams) (id : LedgerID) (now : Time) : Except GoError Entry :=
  match keyed : (AccountKey.mk p.tenantID p.merchantID p.account p.amount.currency).validate with
  | .error e => .error e
  | .ok () =>
    if sided : p.side.isValid = true then
      if ¬ p.entryType.isValid then .error (unknownEntryType p.entryType)
      else if positive : p.amount.isPositive = true then
        if p.transactionID = "" then
          .error (newWithDetail .validationFailed
            "a ledger entry must belong to a transaction group"
            { field := "transactionId", code := "MISSING_TRANSACTION",
              message := "entries are only meaningful inside a balanced group",
              ruleID := "L7.LEDGER_ENTRY_BALANCED" })
        else
          .ok
            { id := id
              tenantID := p.tenantID
              merchantID := p.merchantID
              transactionID := p.transactionID
              account := p.account
              side := p.side
              amount := p.amount
              entryType := p.entryType
              paymentID := p.paymentID
              attemptID := p.attemptID
              refundID := p.refundID
              gatewayRef := p.gatewayRef
              description := p.description
              occurredAt := if p.occurredAt = zeroTime then now else p.occurredAt
              recordedAt := now
              keyed := keyed
              sided := sided
              positive := positive }
      else
        .error (newWithDetail .amountInvalid
          "a ledger entry amount must be strictly positive; direction is carried by the side"
          { field := "amount", code := "NOT_POSITIVE",
            message := "post the opposite side rather than a negative amount",
            ruleID := "L7.LEDGER_AMOUNT_POSITIVE" })
    else
      .error (newWithDetail .validationFailed
        ("ledger entry side " ++ quoted (text p.side) ++ " must be DEBIT or CREDIT")
        { field := "side", code := "INVALID_SIDE",
          message := "must be DEBIT or CREDIT",
          ruleID := "L7.LEDGER_SIDE_KNOWN" })

structure Account where
  key : AccountKey
  normalSide : Side
  balance : Money
  version : Version
  entryCount : Nat
  createdAt : Time
  updatedAt : Time
  normal : normalSide = key.type.normalSide
  denominated : balance.currency = key.currency

def newAccount (key : AccountKey) (now : Time) : Except GoError Account :=
  match key.validate with
  | .error e => .error e
  | .ok () =>
    .ok
      { key := key
        normalSide := key.type.normalSide
        balance := Money.zero key.currency
        version := 1
        entryCount := 0
        createdAt := now
        updatedAt := now
        normal := rfl
        denominated := rfl }

/-- What a line adds to a balance kept in the direction of `normal`. -/
def Entry.delta (e : Entry) (normal : Side) : Money :=
  if e.side ≠ normal then e.amount.neg else e.amount

def Account.apply (a : Account) (e : Entry) : Except GoError Account :=
  if e.accountKey ≠ a.key then
    .error (new .internalError ("ledger entry " ++ e.id ++ " belongs to account " ++
      e.accountKey.string ++ ", not " ++ a.key.string))
  else
    match added : a.balance.add (e.delta a.normalSide) with
    | .error err =>
      .error (wrap err .internalError ("ledger account " ++ a.key.string ++ " balance overflow"))
    | .ok next =>
      .ok
        { a with
          balance := next
          version := a.version + 1
          entryCount := a.entryCount + 1
          updatedAt := e.recordedAt
          denominated := (Money.add_ok added).2.1.trans a.denominated }

theorem newEntry_ok {p : NewEntryParams} {id : LedgerID} {now : Time} {e : Entry}
    (h : newEntry p id now = .ok e) :
    e.account = p.account ∧ e.side = p.side ∧ e.amount = p.amount ∧ e.entryType = p.entryType ∧
      e.paymentID = p.paymentID ∧ e.tenantID = p.tenantID ∧ e.merchantID = p.merchantID := by
  unfold newEntry at h
  split at h
  · cases h
  · split_ifs at h
    all_goals
      cases h
      exact ⟨rfl, rfl, rfl, rfl, rfl, rfl, rfl⟩

theorem newAccount_ok {key : AccountKey} {now : Time} {a : Account}
    (h : newAccount key now = .ok a) :
    a.key = key ∧ a.balance = Money.zero key.currency := by
  unfold newAccount at h
  split at h
  · cases h
  · cases h
    exact ⟨rfl, rfl⟩

theorem Account.apply_ok {a a' : Account} {e : Entry} (h : a.apply e = .ok a') :
    e.accountKey = a.key ∧ a'.key = a.key ∧
      a'.balance.minor = a.balance.minor + (e.delta a.key.type.normalSide).minor := by
  unfold Account.apply at h
  split_ifs at h with foreign
  split at h
  · cases h
  · rename_i next added
    cases h
    rw [← a.normal]
    exact ⟨not_not.mp foreign, rfl, (Money.add_ok added).2.2⟩

theorem Entry.minor_pos (e : Entry) : 0 < e.amount.minor := e.amount.isPositive_iff.mp e.positive

theorem Entry.minor_delta (e : Entry) (normal : Side) :
    (e.delta normal).minor = if e.side = normal then e.amount.minor else -e.amount.minor := by
  unfold Entry.delta
  by_cases same : e.side = normal
  · rw [if_neg (not_not.mpr same), if_pos same]
  · have positive := e.minor_pos
    rw [if_pos same, if_neg same, Money.minor_neg (by omega)]

structure Transaction where
  id : TransactionID
  tenantID : TenantID
  merchantID : MerchantID
  entryType : EntryType
  description : String
  paymentID : PaymentID
  occurredAt : Time
  entries : List Entry

/-- What a group draws: its identifier, the clock reading it is opened at, and for each line
the identifier and the clock reading. -/
structure Draws where
  id : TransactionID
  openedAt : Time
  line : Nat → LedgerID × Time

structure NewTransactionParams where
  tenantID : TenantID
  merchantID : MerchantID
  entryType : EntryType
  paymentID : PaymentID
  description : String
  occurredAt : Time

def newTransaction (p : NewTransactionParams) (draws : Draws) : Except GoError Transaction :=
  if p.tenantID = "" then
    .error (new .missingTenantContext "a ledger transaction requires a tenant")
  else if p.merchantID = "" then
    .error (newWithDetail .validationFailed "a ledger transaction requires a merchant"
      { field := "merchantId", code := "MISSING_MERCHANT",
        message := "ledger postings are per merchant",
        ruleID := "L7.LEDGER_ACCOUNT_SCOPED" })
  else if ¬ p.entryType.isValid then .error (unknownEntryType p.entryType)
  else
    .ok
      { id := draws.id
        tenantID := p.tenantID
        merchantID := p.merchantID
        entryType := p.entryType
        description := p.description
        paymentID := p.paymentID
        occurredAt := if p.occurredAt = zeroTime then draws.openedAt else p.occurredAt
        entries := [] }

/-- One line to add.  The empty texts and the unset type stand for the group's own. -/
structure Line where
  account : AccountType := .other ""
  side : Side := .other ""
  amount : Money
  entryType : EntryType
  paymentID : PaymentID := ""
  attemptID : AttemptID := ""
  refundID : RefundID := ""
  gatewayRef : String := ""
  description : String := ""

namespace Transaction

def addEntry (t : Transaction) (l : Line) (draws : Draws) : Except GoError Transaction :=
  (newEntry
    { tenantID := t.tenantID
      merchantID := t.merchantID
      transactionID := t.id
      account := l.account
      side := l.side
      amount := l.amount
      entryType := if l.entryType = .other "" then t.entryType else l.entryType
      paymentID := if l.paymentID = "" then t.paymentID else l.paymentID
      attemptID := l.attemptID
      refundID := l.refundID
      gatewayRef := l.gatewayRef
      description := if l.description = "" then t.description else l.description
      occurredAt := t.occurredAt }
    (draws.line t.entries.length).1 (draws.line t.entries.length).2).map fun e =>
      { t with entries := t.entries ++ [e] }

structure Sums where
  dr : Money
  cr : Money

def Sums.zero (c : Currency) : Sums := ⟨Money.zero c, Money.zero c⟩

/-- A sum that would overflow is left as it was: the line is passed over. -/
def Sums.absorb (s : Sums) (e : Entry) : Sums :=
  if e.side = .debit then
    match s.dr.add e.amount with
    | .ok v => { s with dr := v }
    | .error _ => s
  else
    match s.cr.add e.amount with
    | .ok v => { s with cr := v }
    | .error _ => s

/-- The map from currencies to their sums, as a list without repeated keys. -/
def tally (acc : List (Currency × Sums)) (e : Entry) : List (Currency × Sums) :=
  if acc.any (·.1 == e.currency) then
    acc.map fun (c, s) => if c = e.currency then (c, s.absorb e) else (c, s)
  else acc ++ [(e.currency, (Sums.zero e.currency).absorb e)]

structure Imbalance where
  currency : Currency
  debits : Money
  credits : Money
  delta : Money

def Sums.imbalance (c : Currency) (s : Sums) : Option Imbalance :=
  let delta :=
    match s.dr.sub s.cr with
    | .ok d => d
    | .error _ => Money.zero c
  if delta.isZero then none
  else some { currency := c, debits := s.dr, credits := s.cr, delta := delta }

def imbalances (t : Transaction) : List Imbalance :=
  ((t.entries.foldl tally []).filterMap fun (c, s) => s.imbalance c).insertionSort
    fun a b => a.currency ≤ b.currency

def tooFewEntries (code message : String) : GoError :=
  newWithDetail .validationFailed "a ledger transaction must contain at least two entries"
    { field := "entries", code := code, message := message, ruleID := "L7.LEDGER_ENTRY_BALANCED" }

def Imbalance.part (im : Imbalance) : String :=
  im.currency ++ " debits " ++ im.debits.string ++ " vs credits " ++ im.credits.string ++
    " (delta " ++ im.delta.string ++ ")"

def Imbalance.detail (im : Imbalance) : Detail where
  field := "entries." ++ im.currency
  code := "LEDGER_IMBALANCE"
  message := "debits " ++ im.debits.string ++ ", credits " ++ im.credits.string ++ ", delta " ++
    im.delta.string
  ruleID := "L7.LEDGER_ENTRY_BALANCED"

def balance (t : Transaction) : Except GoError Unit :=
  match t.entries with
  | [] =>
    .error (tooFewEntries "EMPTY_TRANSACTION"
      "an empty group balances trivially and records nothing; it is never a valid posting")
  | [_] =>
    .error (tooFewEntries "SINGLE_ENTRY_TRANSACTION"
      "one entry is half of a movement; every posting has a counterparty")
  | _ :: _ :: _ =>
    match t.imbalances with
    | [] => .ok ()
    | im :: rest =>
      .error (.api
        { newError .validationFailed ("ledger transaction " ++ t.id ++ " does not balance: " ++
            String.intercalate "; " ((im :: rest).map Imbalance.part)) with
          details := (im :: rest).map Imbalance.detail })

def sealed (t : Transaction) : Except GoError Transaction := t.balance.map fun _ => t

def addPair (t : Transaction) (l : Line) (debit credit : AccountType) (draws : Draws) :
    Except GoError Transaction := do
  let t ← t.addEntry { l with account := debit, side := .debit } draws
  t.addEntry { l with account := credit, side := .credit } draws

end Transaction

structure CaptureParams where
  tenantID : TenantID
  merchantID : MerchantID
  paymentID : PaymentID
  attemptID : AttemptID
  gross : Money
  gatewayRef : String
  occurredAt : Time

def captureTransaction (p : CaptureParams) (draws : Draws) : Except GoError Transaction := do
  let t ← newTransaction
    { tenantID := p.tenantID, merchantID := p.merchantID, entryType := .capture,
      paymentID := p.paymentID, occurredAt := p.occurredAt, description := "capture" } draws
  let t ← t.addPair
    { amount := p.gross, entryType := .capture, paymentID := p.paymentID, attemptID := p.attemptID,
      gatewayRef := p.gatewayRef } .gatewayClearing .merchantReceivable draws
  t.sealed

structure FeeParams where
  tenantID : TenantID
  merchantID : MerchantID
  paymentID : PaymentID
  attemptID : AttemptID
  fee : Money
  gatewayRef : String
  description : String
  occurredAt : Time

def feeTransaction (p : FeeParams) (draws : Draws) : Except GoError Transaction := do
  let desc := if p.description = "" then "processing fee" else p.description
  let t ← newTransaction
    { tenantID := p.tenantID, merchantID := p.merchantID, entryType := .fee,
      paymentID := p.paymentID, occurredAt := p.occurredAt, description := desc } draws
  let t ← t.addPair
    { amount := p.fee, entryType := .fee, paymentID := p.paymentID, attemptID := p.attemptID,
      gatewayRef := p.gatewayRef, description := desc } .merchantReceivable .feesPayable draws
  t.sealed

structure RefundParams where
  tenantID : TenantID
  merchantID : MerchantID
  paymentID : PaymentID
  refundID : RefundID
  amount : Money
  gatewayRef : String
  occurredAt : Time
  awaitingGatewayConfirmation : Bool

def refundTransaction (p : RefundParams) (draws : Draws) : Except GoError Transaction := do
  let t ← newTransaction
    { tenantID := p.tenantID, merchantID := p.merchantID, entryType := .refund,
      paymentID := p.paymentID, occurredAt := p.occurredAt, description := "refund" } draws
  let credit := if p.awaitingGatewayConfirmation then AccountType.refundsPayable else .gatewayClearing
  let t ← t.addPair
    { amount := p.amount, entryType := .refund, paymentID := p.paymentID, refundID := p.refundID,
      gatewayRef := p.gatewayRef } .merchantReceivable credit draws
  t.sealed

inductive DisputeStage where
  | opened | won | lost
  | other (raw : String)
  deriving DecidableEq

instance : StringType DisputeStage where
  text
    | .opened => "OPENED"
    | .won => "WON"
    | .lost => "LOST"
    | .other raw => raw

def DisputeStage.isValid (s : DisputeStage) : Bool := s == .opened || s == .won || s == .lost

/-- The accounts a stage debits and credits.  An unknown stage leaves both unset. -/
def DisputeStage.accounts : DisputeStage → AccountType × AccountType
  | .opened => (.disputesHeld, .gatewayClearing)
  | .won => (.gatewayClearing, .disputesHeld)
  | .lost => (.merchantReceivable, .disputesHeld)
  | .other _ => (.other "", .other "")

structure ChargebackParams where
  tenantID : TenantID
  merchantID : MerchantID
  paymentID : PaymentID
  stage : DisputeStage
  amount : Money
  fee : Money
  disputeRef : String
  occurredAt : Time

def chargebackTransaction (p : ChargebackParams) (draws : Draws) : Except GoError Transaction := do
  if ¬ p.stage.isValid then
    .error (newWithDetail .validationFailed ("unknown dispute stage " ++ quoted (text p.stage))
      { field := "stage", code := "UNKNOWN_DISPUTE_STAGE", message := "must be OPENED, WON or LOST",
        ruleID := "L7.LEDGER_DISPUTE_STAGE_KNOWN" })
  else
    let entryType := if p.stage = .won then EntryType.chargebackReversal else .chargeback
    let t ← newTransaction
      { tenantID := p.tenantID, merchantID := p.merchantID, entryType := entryType,
        paymentID := p.paymentID, occurredAt := p.occurredAt,
        description := "dispute " ++ (text p.stage).toLower } draws
    let t ← t.addPair
      { amount := p.amount, entryType := entryType, paymentID := p.paymentID,
        gatewayRef := p.disputeRef } p.stage.accounts.1 p.stage.accounts.2 draws
    if p.fee.isPositive then
      let t ← t.addPair
        { amount := p.fee, entryType := .fee, paymentID := p.paymentID,
          gatewayRef := p.disputeRef, description := "dispute fee" }
        .merchantReceivable .feesPayable draws
      t.sealed
    else t.sealed

structure SettlementParams where
  tenantID : TenantID
  merchantID : MerchantID
  paymentID : PaymentID
  gross : Money
  fees : Money
  net : Money
  settlementRef : String
  occurredAt : Time

def Transaction.addPositive (t : Transaction) (l : Line) (draws : Draws) :
    Except GoError Transaction :=
  if l.amount.isPositive then t.addEntry l draws else .ok t

def settlementTransaction (p : SettlementParams) (draws : Draws) : Except GoError Transaction :=
  if ¬ p.gross.isValid ∨ ¬ p.net.isValid then
    .error (new .amountInvalid "settlement requires valid gross and net amounts")
  else
    let fees := if p.fees.currency = "" then Money.zero p.gross.currency else p.fees
    if fees.isNegative then
      .error (new .amountInvalid "settlement fees may not be negative")
    else
      match p.net.add fees with
      | .error err =>
        .error (wrap err .gatewayContractViolation
          "settlement amounts are not in a single currency")
      | .ok expected =>
        if ¬ expected.equal p.gross then
          .error (newWithDetail .gatewayContractViolation
            ("settlement does not reconcile: gross " ++ p.gross.string ++ " but net " ++
              p.net.string ++ " + fees " ++ fees.string ++ " = " ++ expected.string)
            { field := "gross", code := "SETTLEMENT_DOES_NOT_RECONCILE",
              message := "gross must equal net plus fees; a mismatch is a reconciliation " ++
                "exception, not a posting",
              ruleID := "L7.SETTLEMENT_GROSS_EQUALS_NET_PLUS_FEES" })
        else do
          let t ← newTransaction
            { tenantID := p.tenantID, merchantID := p.merchantID, entryType := .settlement,
              paymentID := p.paymentID, occurredAt := p.occurredAt,
              description := "settlement" } draws
          let t ← t.addPositive
            { account := .settlementSuspense, side := .debit, amount := p.net,
              entryType := .settlement, paymentID := p.paymentID,
              gatewayRef := p.settlementRef } draws
          let t ← t.addPositive
            { account := .feesPayable, side := .debit, amount := fees, entryType := .fee,
              paymentID := p.paymentID, gatewayRef := p.settlementRef,
              description := "fee retained at settlement" } draws
          let t ← t.addEntry
            { account := .gatewayClearing, side := .credit, amount := p.gross,
              entryType := .settlement, paymentID := p.paymentID,
              gatewayRef := p.settlementRef } draws
          t.sealed

namespace Transaction

structure Made (t : Transaction) (l : Line) (e : Entry) : Prop where
  account : e.account = l.account
  side : e.side = l.side
  amount : e.amount = l.amount
  entryType : e.entryType = if l.entryType = .other "" then t.entryType else l.entryType
  paymentID : e.paymentID = if l.paymentID = "" then t.paymentID else l.paymentID

variable {t t' : Transaction}

theorem addEntry_ok {l : Line} {draws : Draws} (h : t.addEntry l draws = .ok t') :
    ∃ e, t.Made l e ∧ t' = { t with entries := t.entries ++ [e] } := by
  unfold addEntry at h
  cases made : newEntry _ _ _ with
  | error =>
    rw [made] at h
    cases h
  | ok e =>
    rw [made] at h
    cases h
    obtain ⟨account, side, amount, entryType, paymentID, -⟩ := newEntry_ok made
    exact ⟨e, ⟨account, side, amount, entryType, paymentID⟩, rfl⟩

theorem addPair_ok {l : Line} {debit credit : AccountType} {draws : Draws}
    (h : t.addPair l debit credit draws = .ok t') :
    ∃ e f, t.Made { l with account := debit, side := .debit } e ∧
      t.Made { l with account := credit, side := .credit } f ∧
      t' = { t with entries := t.entries ++ [e, f] } := by
  obtain ⟨half, first, second⟩ := call_ok h
  obtain ⟨e, debited, rfl⟩ := addEntry_ok first
  obtain ⟨f, credited, rfl⟩ := addEntry_ok second
  refine ⟨e, f, debited, ?_, by simp⟩
  exact ⟨credited.account, credited.side, credited.amount, credited.entryType, credited.paymentID⟩

theorem sealed_ok (h : t.sealed = .ok t') : t' = t ∧ t.balance = .ok () := by
  unfold sealed at h
  cases passed : t.balance with
  | error =>
    rw [passed] at h
    cases h
  | ok =>
    rw [passed] at h
    cases h
    exact ⟨rfl, rfl⟩

end Transaction

variable {p : NewTransactionParams} {draws : Draws}

theorem newTransaction_ok {t : Transaction} (h : newTransaction p draws = .ok t) :
    t.entries = [] ∧ t.entryType = p.entryType ∧ t.paymentID = p.paymentID ∧
      t.tenantID = p.tenantID ∧ t.merchantID = p.merchantID := by
  unfold newTransaction at h
  split_ifs at h
  all_goals
    cases h
    exact ⟨rfl, rfl, rfl, rfl, rfl⟩

/-- The group is one movement: an amount debited in one line and credited in another. -/
def Transaction.IsPair (t : Transaction) (entryType : EntryType) (paymentID : PaymentID)
    (amount : Money) : Prop :=
  ∃ e f : Entry, t.entries = [e, f] ∧ e.side = .debit ∧ f.side = .credit ∧
    ∀ x ∈ [e, f], x.entryType = entryType ∧ x.paymentID = paymentID ∧ x.amount = amount

variable {debit credit : AccountType}

theorem isPair_of_ok {l : Line}
    {t : Transaction} (typed : l.entryType = p.entryType)
    (payment : l.paymentID = p.paymentID)
    (h : (do
      let t ← newTransaction p draws
      let t ← t.addPair l debit credit draws
      t.sealed) = Except.ok t) : t.IsPair p.entryType p.paymentID l.amount := by
  obtain ⟨opened, new, rest⟩ := call_ok h
  obtain ⟨paired, added, last⟩ := call_ok rest
  obtain ⟨rfl, -⟩ := Transaction.sealed_ok last
  obtain ⟨empty, entryType, paymentID, -, -⟩ := newTransaction_ok new
  obtain ⟨e, f, debited, credited, rfl⟩ := Transaction.addPair_ok added
  have own : ∀ {l' : Line} {x : Entry}, opened.Made l' x → l'.entryType = l.entryType →
      l'.paymentID = l.paymentID → l'.amount = l.amount →
      x.entryType = p.entryType ∧ x.paymentID = p.paymentID ∧ x.amount = l.amount := by
    intro l' x made type' payment' amount'
    refine ⟨?_, ?_, made.amount.trans amount'⟩
    · rw [made.entryType, type', typed, entryType, ite_self]
    · rw [made.paymentID, payment', payment, paymentID, ite_self]
  refine ⟨e, f, by rw [empty]; rfl, debited.side, credited.side, ?_⟩
  intro x mem
  simp only [List.mem_cons, List.not_mem_nil, or_false] at mem
  rcases mem with rfl | rfl
  · exact own debited rfl rfl rfl
  · exact own credited rfl rfl rfl

theorem captureTransaction_ok {p : CaptureParams} {t : Transaction}
    (h : captureTransaction p draws = .ok t) : t.IsPair .capture p.paymentID p.gross :=
  isPair_of_ok rfl rfl h

theorem refundTransaction_ok {p : RefundParams} {t : Transaction}
    (h : refundTransaction p draws = .ok t) : t.IsPair .refund p.paymentID p.amount :=
  isPair_of_ok rfl rfl h

structure Transaction.Owned (t : Transaction) (id : PaymentID) : Prop where
  paymentID : t.paymentID = id
  lines : ∀ x ∈ t.entries, x.paymentID = id

namespace Transaction

variable {t t' : Transaction} {id : PaymentID} {l : Line} {draws : Draws}

theorem Owned.made {e : Entry} (own : t.Owned id) (line : l.paymentID = id) (made : t.Made l e) :
    e.paymentID = id := by
  rw [made.paymentID, line, own.paymentID, ite_self]

theorem Owned.append {more : List Entry} (own : t.Owned id) (lines : ∀ x ∈ more, x.paymentID = id) :
    Owned { t with entries := t.entries ++ more } id := by
  refine ⟨own.paymentID, fun x mem => ?_⟩
  rcases List.mem_append.mp mem with old | new
  · exact own.lines x old
  · exact lines x new

theorem Owned.addEntry (own : t.Owned id) (line : l.paymentID = id)
    (h : t.addEntry l draws = .ok t') : t'.Owned id := by
  obtain ⟨e, made, rfl⟩ := addEntry_ok h
  exact own.append (by simpa using own.made line made)

theorem Owned.addPair (own : t.Owned id) (line : l.paymentID = id)
    (h : t.addPair l debit credit draws = .ok t') : t'.Owned id := by
  obtain ⟨half, first, second⟩ := call_ok h
  have debited : half.Owned id := own.addEntry (by exact line) first
  exact debited.addEntry (by exact line) second

theorem Owned.addPositive (own : t.Owned id) (line : l.paymentID = id)
    (h : t.addPositive l draws = .ok t') : t'.Owned id := by
  unfold Transaction.addPositive at h
  split at h
  · exact own.addEntry line h
  · cases h
    exact own

theorem Owned.sealed (own : t.Owned id) (h : t.sealed = .ok t') : t'.Owned id := by
  obtain ⟨rfl, -⟩ := sealed_ok h
  exact own

end Transaction

theorem newTransaction_owned {t : Transaction}
    (h : newTransaction p draws = .ok t) : t.Owned p.paymentID := by
  obtain ⟨empty, -, payment, -, -⟩ := newTransaction_ok h
  refine ⟨payment, fun x mem => ?_⟩
  rw [empty] at mem
  cases mem

theorem owned_of_ok {l : Line}
    {t : Transaction} (payment : l.paymentID = p.paymentID)
    (h : (do
      let t ← newTransaction p draws
      let t ← t.addPair l debit credit draws
      t.sealed) = Except.ok t) : t.Owned p.paymentID := by
  obtain ⟨opened, new, rest⟩ := call_ok h
  obtain ⟨paired, added, last⟩ := call_ok rest
  exact ((newTransaction_owned new).addPair payment added).sealed last

theorem captureTransaction_owned {p : CaptureParams} {t : Transaction}
    (h : captureTransaction p draws = .ok t) : t.Owned p.paymentID := owned_of_ok rfl h

theorem feeTransaction_owned {p : FeeParams} {t : Transaction}
    (h : feeTransaction p draws = .ok t) : t.Owned p.paymentID := owned_of_ok rfl h

theorem refundTransaction_owned {p : RefundParams} {t : Transaction}
    (h : refundTransaction p draws = .ok t) : t.Owned p.paymentID := owned_of_ok rfl h

theorem chargebackTransaction_owned {p : ChargebackParams} {t : Transaction}
    (h : chargebackTransaction p draws = .ok t) : t.Owned p.paymentID := by
  obtain ⟨-, rest⟩ := guard_ok h
  obtain ⟨opened, new, rest⟩ := call_ok rest
  obtain ⟨paired, added, rest⟩ := call_ok rest
  have own := (newTransaction_owned new).addPair rfl added
  split at rest
  · obtain ⟨charged, fee, last⟩ := call_ok rest
    exact (own.addPair rfl fee).sealed last
  · exact own.sealed rest

theorem settlementTransaction_owned {p : SettlementParams} {t : Transaction}
    (h : settlementTransaction p draws = .ok t) : t.Owned p.paymentID := by
  obtain ⟨-, rest⟩ := guard_ok h
  obtain ⟨-, rest⟩ := guard_ok rest
  split at rest
  · cases rest
  obtain ⟨-, rest⟩ := guard_ok rest
  obtain ⟨opened, new, rest⟩ := call_ok rest
  obtain ⟨netted, net, rest⟩ := call_ok rest
  obtain ⟨charged, fees, rest⟩ := call_ok rest
  obtain ⟨whole, gross, last⟩ := call_ok rest
  have own := (newTransaction_owned new).addPositive rfl net
  exact ((own.addPositive rfl fees).addEntry rfl gross).sealed last

end PaymentsPlatform.Ledger

namespace PaymentsPlatform.Webhook

open Pkg (Money)

/-- The money movement a notification describes, in the ledger's vocabulary. -/
structure Effect where
  reference : String
  kind : Gateways.Spi.WebhookKind
  tenantID : TenantID
  merchantID : MerchantID
  paymentID : PaymentID
  attemptID : AttemptID
  refundID : RefundID
  amount : Money
  fee : Money
  gatewayRef : String
  occurredAt : Time
  disputeWon : Bool

end PaymentsPlatform.Webhook

namespace PaymentsPlatform.Ledger

open Pkg (Money)
open Webhook (Effect)

def postingGroup : String := "ledger"

structure Books where
  claims : List (String × String)
  groups : List Transaction

/-- `Claim` records a reference and reports whether it is new. -/
def Books.claim (b : Books) (group reference : String) : Books × Bool :=
  if (group, reference) ∈ b.claims then (b, false)
  else ({ b with claims := b.claims ++ [(group, reference)] }, true)

structure Service where
  logs : Bool

/-- What a posting meets: the answers of the posting log and of the repository, and what each
group draws. -/
structure PostEnv where
  claimErr : Option GoError
  draws : Nat → Draws
  appendErr : Transaction → Option GoError

def buildDispute (e : Effect) (stage : DisputeStage) (fee : Money) (draws : Draws) :
    Except GoError (List Transaction) :=
  (chargebackTransaction
    { tenantID := e.tenantID, merchantID := e.merchantID, paymentID := e.paymentID, stage := stage,
      amount := e.amount, fee := fee, disputeRef := e.gatewayRef, occurredAt := e.occurredAt }
    draws).map fun tx => [tx]

/-- The groups one movement implies.  A capture with a known fee is two. -/
def build (e : Effect) (draws : Nat → Draws) : Except GoError (List Transaction) :=
  match e.kind with
  | .captureSucceeded => do
      let capture ← captureTransaction
        { tenantID := e.tenantID, merchantID := e.merchantID, paymentID := e.paymentID,
          attemptID := e.attemptID, gross := e.amount, gatewayRef := e.gatewayRef,
          occurredAt := e.occurredAt } (draws 0)
      if e.fee.isValid ∧ e.fee.isPositive then
        let fee ← feeTransaction
          { tenantID := e.tenantID, merchantID := e.merchantID, paymentID := e.paymentID,
            attemptID := e.attemptID, fee := e.fee, gatewayRef := e.gatewayRef,
            description := "processing fee", occurredAt := e.occurredAt } (draws 1)
        pure [capture, fee]
      else pure [capture]
  | .refundSucceeded =>
    (refundTransaction
      { tenantID := e.tenantID, merchantID := e.merchantID, paymentID := e.paymentID,
        refundID := e.refundID, amount := e.amount, gatewayRef := e.gatewayRef,
        occurredAt := e.occurredAt, awaitingGatewayConfirmation := false } (draws 0)).map
      fun tx => [tx]
  | .disputeOpened => buildDispute e .opened e.fee (draws 0)
  | .disputeClosed =>
    buildDispute e (if e.disputeWon then .won else .lost) ⟨0, ""⟩ (draws 0)
  | .payoutSettled =>
    let fee := if ¬ e.fee.isValid then Money.zero e.amount.currency else e.fee
    match e.amount.sub fee with
    | .error err =>
      .error (wrap err .gatewayContractViolation
        "the settlement amounts are not in a single currency")
    | .ok net =>
      (settlementTransaction
        { tenantID := e.tenantID, merchantID := e.merchantID, paymentID := e.paymentID,
          gross := e.amount, fees := fee, net := net, settlementRef := e.gatewayRef,
          occurredAt := e.occurredAt } (draws 0)).map fun tx => [tx]
  | _ => .ok []

/-- One group: the balance is checked again, and the repository appends it. -/
def append (env : PostEnv) (b : Books) (tx : Transaction) : Except GoError Books := do
  tx.balance
  match env.appendErr tx with
  | some err => .error err
  | none => .ok { b with groups := b.groups ++ [tx] }

def postFresh (env : PostEnv) (e : Effect) (b : Books) : Except GoError Books := do
  let txs ← build e env.draws
  txs.foldlM (append env) b

/-- `Post`, inside the caller's transaction: an error takes back everything. -/
def Service.post (s : Service) (env : PostEnv) (e : Effect) (b : Books) : Except GoError Books :=
  if e.reference = "" then
    .error (new .validationFailed "a ledger posting requires a source reference to deduplicate on")
  else if s.logs then
    match env.claimErr with
    | some err => .error err
    | none =>
      -- a reference that was claimed before is a replay, and nothing is written again
      if (b.claim postingGroup e.reference).2 then
        postFresh env e (b.claim postingGroup e.reference).1
      else .ok (b.claim postingGroup e.reference).1
  else postFresh env e b

/-- The service has something to say about the reference: there is no log, or it is new. -/
def Service.heeds (s : Service) (b : Books) (reference : String) : Bool :=
  !s.logs || (b.claim postingGroup reference).2

variable {env : PostEnv} {b b' : Books}

theorem append_ok {tx : Transaction}
    (h : append env b tx = .ok b') : b'.groups = b.groups ++ [tx] := by
  obtain ⟨-, -, rest⟩ := call_ok h
  split at rest
  · cases rest
  · cases rest
    rfl

variable {txs : List Transaction}

theorem foldlM_append_ok (h : txs.foldlM (append env) b = .ok b') : b'.groups = b.groups ++ txs := by
  induction txs generalizing b with
  | nil =>
    cases h
    exact (List.append_nil _).symm
  | cons tx txs ih =>
    rw [List.foldlM_cons] at h
    obtain ⟨next, first, rest⟩ := call_ok h
    rw [ih rest, append_ok first, List.append_assoc, List.singleton_append]

theorem Books.groups_claim (b : Books) (group reference : String) :
    (b.claim group reference).1.groups = b.groups := by
  unfold Books.claim
  split <;> rfl

variable {e : Effect}

theorem Service.post_ok {s : Service} (h : s.post env e b = .ok b') :
    (s.heeds b e.reference = false ∧ b'.groups = b.groups) ∨
      (s.heeds b e.reference = true ∧
        ∃ txs, build e env.draws = .ok txs ∧ b'.groups = b.groups ++ txs) := by
  have fresh : ∀ start : Books, start.groups = b.groups → postFresh env e start = .ok b' →
      ∃ txs, build e env.draws = .ok txs ∧ b'.groups = b.groups ++ txs := by
    intro start same ran
    obtain ⟨txs, built, rest⟩ := call_ok ran
    exact ⟨txs, built, by rw [foldlM_append_ok rest, same]⟩
  unfold Service.post at h
  split at h
  · cases h
  split at h
  · rename_i logs
    split at h
    · cases h
    split at h
    · rename_i new
      exact .inr ⟨by simp [Service.heeds, new], fresh _ (b.groups_claim _ _) h⟩
    · rename_i old
      cases h
      exact .inl ⟨by simpa [Service.heeds, logs] using old, b.groups_claim _ _⟩
  · rename_i unlogged
    exact .inr ⟨by simp [Service.heeds, unlogged], fresh b rfl h⟩

theorem map_ok {α β : Type} {call : Except GoError α} {f : α → β} {b : β}
    (h : call.map f = .ok b) : ∃ a, call = .ok a ∧ f a = b := by
  cases call with
  | error => cases h
  | ok a =>
    cases h
    exact ⟨a, rfl, rfl⟩

variable {draws : Nat → Draws}

theorem build_owned (h : build e draws = .ok txs) : ∀ t ∈ txs, t.Owned e.paymentID := by
  unfold build at h
  split at h
  · obtain ⟨capture, captured, rest⟩ := call_ok h
    split at rest
    · obtain ⟨fee, charged, last⟩ := call_ok rest
      cases last
      simpa using ⟨captureTransaction_owned captured, feeTransaction_owned charged⟩
    · cases rest
      simpa using captureTransaction_owned captured
  · obtain ⟨refund, refunded, rfl⟩ := map_ok h
    simpa using refundTransaction_owned refunded
  · obtain ⟨opened, built, rfl⟩ := map_ok h
    simpa using chargebackTransaction_owned built
  · obtain ⟨closed, built, rfl⟩ := map_ok h
    simpa using chargebackTransaction_owned built
  · dsimp only at h
    split at h
    · cases h
    · obtain ⟨settled, built, rfl⟩ := map_ok h
      simpa using settlementTransaction_owned built
  · cases h
    intro t mem
    cases mem

theorem build_capture (kind : e.kind = .captureSucceeded) (free : e.fee.isPositive = false)
    (h : build e draws = .ok txs) : ∃ t, txs = [t] ∧ t.IsPair .capture e.paymentID e.amount := by
  unfold build at h
  rw [kind] at h
  obtain ⟨capture, captured, rest⟩ := call_ok h
  rw [if_neg (by simp [free])] at rest
  cases rest
  exact ⟨capture, rfl, captureTransaction_ok captured⟩

theorem build_refund (kind : e.kind = .refundSucceeded) (h : build e draws = .ok txs) :
    ∃ t, txs = [t] ∧ t.IsPair .refund e.paymentID e.amount := by
  unfold build at h
  rw [kind] at h
  obtain ⟨refund, refunded, rfl⟩ := map_ok h
  exact ⟨refund, rfl, refundTransaction_ok refunded⟩

theorem build_none
    (kind : e.kind ∉ [.captureSucceeded, .refundSucceeded, .disputeOpened, .disputeClosed,
      .payoutSettled]) (h : build e draws = .ok txs) : txs = [] := by
  unfold build at h
  split at h
  all_goals simp_all

end PaymentsPlatform.Ledger
