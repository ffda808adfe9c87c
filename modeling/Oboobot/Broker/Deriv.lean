import Oboobot.Broker.Adapter

/-! What the Deriv adapter puts on the wire for an order. -/

namespace Oboobot.Broker

open Domain

def multiplierContractTypeBuy : String := "MULTUP"

def multiplierContractTypeSell : String := "MULTDOWN"

/-- `EURUSD` becomes `frxEURUSD`. -/
def toDerivSymbol (pair : String) : String := "frx" ++ pair

structure LimitOrder where
  stopLoss : Decimal
  takeProfit : Decimal
  deriving DecidableEq

/-- The fields of a `proposal` request. Decimals travel as their exact text. -/
structure ProposalParams where
  amount : Decimal
  basis : String
  contractType : String
  currency : String
  symbol : String
  multiplier : Nat
  limitOrder : Option LimitOrder
  deriving DecidableEq

/-- The proposal that `submit_order` asks a price for and then buys. -/
def proposalParams (request : OrderRequest) : ProposalParams :=
  let symbol := toDerivSymbol request.pair
  let contractType := match request.side with
    | .buy => multiplierContractTypeBuy
    | .sell => multiplierContractTypeSell
  let stake := request.size
  let multiplier := 100
  { amount := stake
    basis := "stake"
    contractType
    currency := "USD"
    symbol
    multiplier
    limitOrder := match request.stopLoss, request.takeProfit with
      | some stopLoss, some takeProfit => some { stopLoss, takeProfit }
      | _, _ => none }

end Oboobot.Broker
