import Oboobot.Broker.WireOrders

/-! How the Deriv adapter lists the open positions: the portfolio, then each contract
that an order could have opened. -/

namespace Oboobot.Broker

open Domain Interaction Wire

/-- `frxEURUSD` becomes `EURUSD`; other symbols are not the daemon's. -/
def fromDerivSymbol (symbol : String) : Option String :=
  match symbol.toList with
  | 'f' :: 'r' :: 'x' :: pair => some (.ofList pair)
  | _ => none

def directionFromContractType (contractType : String) : Option Direction :=
  if contractType = multiplierContractTypeBuy then some .buy
  else if contractType = multiplierContractTypeSell then some .sell
  else none

/-- What of a contract in the portfolio is read. -/
structure PortfolioContract where
  contractId : UInt64
  underlyingSymbol : String
  contractType : String
  deriving DecidableEq

/-- An entry needs an id; a missing symbol or type is an empty one. -/
def portfolioContract (entry : Value) : Option PortfolioContract :=
  ((entry.get "contract_id").bind Value.asU64).map fun contractId =>
    { contractId
      underlyingSymbol := ((entry.get "underlying_symbol").bind Value.asStr).getD ""
      contractType := ((entry.get "contract_type").bind Value.asStr).getD "" }

def portfolioEntries (portfolio : Value) : Option (List Value) :=
  ((portfolio.get "portfolio").bind fun p => p.get "contracts").bind Value.asArray

def isSold (detail : Value) : Bool := ((detail.get "is_sold").bind Value.asI64).getD 0 ≠ 0

section parsers

-- Decimals are parsed by the decimal library, timestamps converted by the time library.
variable (parse : String → Option Decimal) (fromTimestamp : Int → Option Instant)

def decimalField (detail : Value) (field : String) : Wire Decimal := do
  let text ← usable ((detail.get field).bind Value.asStr)
    ("proposal_open_contract had no usable " ++ field)
  usable (parse text) (field ++ " was not a valid decimal")

/-- A level that is missing or unreadable is no level. -/
def barrier (detail : Value) (side : String) : Option Decimal := do
  let text ← (← (← (← detail.get "limit_order").get side).get "value").asStr
  parse text

/-- The open position of a contract, or `none` if it has been sold by now. -/
def fetchOpenPosition (contractId : UInt64) (pair : String) (direction : Direction) :
    Wire (Option Position) := do
  let response ← accepted (← callWithRetry (.proposalOpenContract contractId))
  let detail ← usable (response.get "proposal_open_contract")
    "proposal_open_contract response had no usable proposal_open_contract field"
  if isSold detail then return none
  else
    let entryPrice ← decimalField parse detail "buy_price"
    let currentPrice ← decimalField parse detail "bid_price"
    let unrealizedPnl ← decimalField parse detail "profit"
    let purchaseTime ← usable ((detail.get "purchase_time").bind Value.asI64)
      "proposal_open_contract had no usable purchase_time"
    let entryTime ← usable (fromTimestamp purchaseTime)
      "purchase_time was not a valid unix timestamp"
    let traceId ← perform .newUuid
    let signalId ← perform .newUuid
    let lastUpdate ← perform .utcNow
    return some {
      positionId := BitVec.ofNat 128 contractId.toNat
      traceId
      signalId
      pair
      direction
      legs := [{ price := entryPrice, size := entryPrice, filledAt := entryTime }]
      entryPrice
      currentPrice
      unrealizedPnl
      realizedPnl := 0
      entryTime
      lastUpdate
      status := .filled
      exitReason := none
      stopLoss := barrier parse detail "stop_loss"
      takeProfit := barrier parse detail "take_profit" }

/-- One entry of the portfolio; contracts that no order opened are skipped. -/
def listEntry (positions : List Position) (entry : Value) : Wire (List Position) := do
  let contract ← usable (portfolioContract entry) "portfolio contract had no usable contract_id"
  match fromDerivSymbol contract.underlyingSymbol,
      directionFromContractType contract.contractType with
  | some pair, some direction =>
    let position ← fetchOpenPosition parse fromTimestamp contract.contractId pair direction
    return positions ++ position.toList
  | _, _ => return positions

def listOpenPositions : Wire (List Position) := do
  let portfolio ← accepted (← callWithRetry .portfolio)
  let contracts ← usable (portfolioEntries portfolio)
    "portfolio response had no usable contracts array"
  contracts.foldlM (listEntry parse fromTimestamp) []

end parsers

/-- The contract has the symbol and the type that the order was sent with. -/
def ReportedAs (request : OrderRequest) (contract : PortfolioContract) : Prop :=
  contract.underlyingSymbol = (proposalParams request).symbol ∧
    contract.contractType = (proposalParams request).contractType

/-- Some order of the daemon is bought as such a contract. -/
def CouldHaveOpened (contract : PortfolioContract) : Prop :=
  ∃ request : OrderRequest, ReportedAs request contract

theorem fromDerivSymbol_eq_some_iff {symbol pair : String} :
    fromDerivSymbol symbol = some pair ↔ symbol = toDerivSymbol pair := by
  rw [toDerivSymbol, ← String.toList_inj, String.toList_append]
  unfold fromDerivSymbol
  split
  · rename_i rest same
    rw [same, Option.some.injEq, ← String.toList_inj, String.toList_ofList]
    exact ⟨fun pair => pair ▸ rfl, fun pair => (List.append_cancel_left
      (show ['f', 'r', 'x'] ++ rest = ['f', 'r', 'x'] ++ _ from pair))⟩
  · rename_i other
    constructor
    · intro found
      cases found
    · intro same
      exact absurd same (other _)

theorem directionFromContractType_eq_some_iff {contractType : String} {direction : Direction} :
    directionFromContractType contractType = some direction ↔
      contractType = match direction with
        | .buy => multiplierContractTypeBuy
        | .sell => multiplierContractTypeSell := by
  have differ : multiplierContractTypeSell ≠ multiplierContractTypeBuy := by decide
  unfold directionFromContractType
  cases direction with
  | buy =>
    by_cases up : contractType = multiplierContractTypeBuy
    · simp [up]
    · by_cases down : contractType = multiplierContractTypeSell <;> simp [up, down, differ]
  | sell =>
    by_cases up : contractType = multiplierContractTypeBuy
    · simp [up, differ.symm]
    · by_cases down : contractType = multiplierContractTypeSell <;> simp [up, down, differ]

/-- The symbol and the type of a contract give back what the order asked for. -/
theorem reportedAs_iff {request : OrderRequest} {contract : PortfolioContract} :
    ReportedAs request contract ↔
      fromDerivSymbol contract.underlyingSymbol = some request.pair ∧
      directionFromContractType contract.contractType = some request.side := by
  rw [fromDerivSymbol_eq_some_iff, directionFromContractType_eq_some_iff]
  exact Iff.rfl

theorem exists_orderRequest (pair : String) (side : Direction) :
    ∃ request : OrderRequest, request.pair = pair ∧ request.side = side :=
  ⟨{ smallOrder with pair, side }, rfl, rfl⟩

/-- An order could have opened the contract if its symbol and its type are such as
orders are sent with. -/
theorem couldHaveOpened_iff {contract : PortfolioContract} :
    CouldHaveOpened contract ↔ (fromDerivSymbol contract.underlyingSymbol).isSome = true ∧
      (directionFromContractType contract.contractType).isSome = true := by
  rw [Option.isSome_iff_exists, Option.isSome_iff_exists]
  constructor
  · intro opened
    obtain ⟨request, reported⟩ := opened
    obtain ⟨pair, direction⟩ := reportedAs_iff.mp reported
    exact ⟨⟨_, pair⟩, ⟨_, direction⟩⟩
  · intro decoded
    obtain ⟨⟨pair, pairOf⟩, ⟨direction, directionOf⟩⟩ := decoded
    obtain ⟨request, rfl, rfl⟩ := exists_orderRequest pair direction
    exact ⟨request, reportedAs_iff.mpr ⟨pairOf, directionOf⟩⟩

instance : DecidablePred CouldHaveOpened := fun _ => decidable_of_iff _ couldHaveOpened_iff.symm

/-- The contract that a position id encodes is the one it was made of. -/
theorem contractIdOf_ofNat (contractId : UInt64) :
    contractIdOf (BitVec.ofNat 128 contractId.toNat) = contractId := by
  have small : contractId.toNat < 2 ^ 128 :=
    contractId.toNat_lt.trans (by norm_num)
  rw [contractIdOf, BitVec.toNat_ofNat, Nat.mod_eq_of_lt small, UInt64.ofNat_toNat]

end Oboobot.Broker
