import MarginLending.Service.Snapshot
import MarginLending.Lending.Twap

/-! Service operations on balances, interest and market TWAP statistics. -/

set_option autoImplicit false

namespace MarginLending.Service

open Data Lending

def memberOf {α : Type} (names : List (String × α)) (enum : String) (v : Value) :
    Except Failure α :=
  match v with
  | .str s =>
    match names.lookup s with
    | some a => .ok a
    | none => .error (.notMember v.quoted enum)
  | other => .error (.notMember other.quoted enum)

def balanceKindOf (req : Value) (key : String := "balance_type") : Except Failure BalanceKind := do
  memberOf BalanceKind.names "SpotBalanceType" (← need req key)

def accrualValue (a : Accrual) : Value :=
  .obj [("deposits_interest", .int a.deposits), ("borrows_interest", .int a.borrows)]

/-- Operations on balances, interest and market TWAPs. Arguments are read in the order the
operation takes them; records and enumerations are decoded as they are read, and every other
argument is passed on as it is. -/
def lendingAnswer (kind : String) (req : Value) : Except Failure Value := do
  match kind with
  | "balance_precision_increase" =>
    pure (result (.int (← precisionIncrease (← need req "decimals"))))
  | "token_precision" => pure (result (.int (← tokenPrecision (← need req "decimals"))))
  | "get_spot_asset_balance" =>
    let amount ← need req "token_amount"
    let m ← marketOf req
    let kind ← balanceKindOf req
    pure (result (.int (← scaledBalance amount m kind (fieldOr req "round_up" (.bool false)))))
  | "get_amount_of_tokens" =>
    let balance ← need req "balance"
    let m ← marketOf req
    let kind ← balanceKindOf req
    pure (result (.int (← tokenAmount balance m kind)))
  | "get_amount_signed" =>
    let amount ← need req "token_amount"
    let kind ← balanceKindOf req
    pure (result (.int (← signedAmount amount kind)))
  | "get_strict_value" =>
    let amount ← need req "token_amount"
    let decimals ← need req "decimals"
    let r ← readingOf req
    let twap ← need req "oracle_price_twap"
    pure (result (.int (← strictValue amount decimals r twap)))
  | "get_token_value" =>
    let amount ← need req "token_amount"
    let decimals ← need req "decimals"
    let price ← need req "oracle_price"
    pure (result (.int (← tokenValue amount decimals price)))
  | "calculate_utilization" =>
    let deposits ← need req "deposits"
    let borrows ← need req "borrows"
    pure (result (.int (← utilization deposits borrows)))
  | "market_utilization" => pure (result (.int (← (← marketOf req).utilization)))
  | "borrow_rate" =>
    let m ← marketOf req
    pure (result (.int (← m.borrowRate (← need req "utilization"))))
  | "deposit_rate" =>
    let m ← marketOf req
    pure (result (.int (← m.depositRate (← need req "utilization"))))
  | "accumulated_interest" =>
    let m ← marketOf req
    pure (accrualValue (← m.accruedInterest (← need req "now")))
  | "update_cumulative_interest" =>
    let m ← marketOf req
    pure (.obj [("market", (← m.accrue (← need req "now")).toValue)])
  | "get_interest" =>
    let balance ← need req "balance"
    let m ← marketOf req
    let interest ← need req "interest"
    pure (result (.int (← m.interestTokens balance interest)))
  | "weighted_average" =>
    let p₁ ← need req "p1"
    let p₂ ← need req "p2"
    let w₁ ← need req "w1"
    let w₂ ← need req "w2"
    pure (result (.int (← weightedAverage p₁ p₂ w₁ w₂)))
  | "calculate_twap" =>
    let price ← need req "curr_price"
    let now ← need req "curr_ts"
    let lastTwap ← need req "last_twap"
    let lastTs ← need req "last_ts"
    let period ← need req "period"
    pure (result (.int (← twap price now lastTwap lastTs period)))
  | "rolling_sum" =>
    let p₁ ← need req "p1"
    let p₂ ← need req "p2"
    let num ← need req "num"
    let den ← need req "den"
    pure (result (.int (← rollingSum p₁ p₂ num den)))
  | _ =>
    let m ← marketOf req
    pure (.obj [("market", (← m.updateTwapStats (← need req "now")).toValue)])

def lendingOps : List String :=
  ["balance_precision_increase", "token_precision", "get_spot_asset_balance",
    "get_amount_of_tokens", "get_amount_signed", "get_strict_value", "get_token_value",
    "calculate_utilization", "market_utilization", "borrow_rate", "deposit_rate",
    "accumulated_interest", "update_cumulative_interest", "get_interest", "weighted_average",
    "calculate_twap", "rolling_sum", "update_market_twap_stats"]

end MarginLending.Service
