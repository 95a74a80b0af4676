/-
The exact Spot order (`domain/order_command.py`) and the result of placing it
(`execution/live_spot.py`).

* `SpotOrderCommand`: the command, with the checks of its constructor as
  fields, and `SpotOrderCommand.create`, which makes them;
* `payload`, `previewHash`: what is sent to the exchange, and its digest;
* `LiveCommandResult`: what a placement reports.
-/
import Ai4Binance.Events.DomainEvent
import Ai4Binance.Lib.Decimal

open Text Check

namespace Ai4Binance

/-- The two sides of an order. -/
inductive OrderSide where
  | buy
  | sell
  deriving DecidableEq, Repr

/-- The two order types. -/
inductive OrderType where
  | limit
  | market
  deriving DecidableEq, Repr

/-- The text of a side. -/
def OrderSide.value : OrderSide → String
  | .buy => "BUY"
  | .sell => "SELL"

/-- The text of an order type. -/
def OrderType.value : OrderType → String
  | .limit => "LIMIT"
  | .market => "MARKET"

/-- A price and a time in force go with a `LIMIT` order and with no other. -/
def PriceConstraints (orderType : OrderType) (price : Option Decimal)
    (timeInForce : Option String) : Prop :=
  match orderType with
  | .limit => price.any (0 < ·.toRat) ∧ timeInForce ∈ [some "GTC", some "IOC", some "FOK"]
  | .market => price = none ∧ timeInForce = none

instance (orderType : OrderType) (price : Option Decimal) (timeInForce : Option String) :
    Decidable (PriceConstraints orderType price timeInForce) :=
  match orderType with
  | .limit => inferInstanceAs (Decidable (_ ∧ _))
  | .market => inferInstanceAs (Decidable (_ ∧ _))

/-- `value.isascii()`. -/
def isAscii (s : String) : Bool := s.toList.all (·.toNat < 128)

/-- `SpotOrderCommand`. -/
structure SpotOrderCommand where
  symbol : String
  side : OrderSide
  orderType : OrderType
  quantity : Decimal
  clientOrderId : String
  price : Option Decimal := none
  timeInForce : Option String := none
  symbol_alnum : isAsciiAlnum symbol
  quantity_pos : 0 < quantity.toRat
  clientOrderId_not_blank : isBlank clientOrderId = false
  clientOrderId_short : clientOrderId.length ≤ 36
  clientOrderId_ascii : isAscii clientOrderId
  priceConstraints : PriceConstraints orderType price timeInForce

namespace SpotOrderCommand

/-- The finite number, if it is one. -/
def finitePart : DecimalNumber → Option Decimal
  | .finite d => some d
  | _ => none

/-- `SpotOrderCommand(…)`: the constructor with its normalization and checks. -/
def create [UnicodeData] (symbol side orderType : String) (quantity : DecimalNumber)
    (clientOrderId : String) (price : Option DecimalNumber) (timeInForce : Option String) :
    Except PyError SpotOrderCommand :=
  if hs : isAsciiAlnum (upper (strip symbol)) then
    match [OrderSide.buy, .sell].find? (·.value = upper (strip side)),
        [OrderType.limit, .market].find? (·.value = upper (strip orderType)) with
    | some side, some orderType =>
        match finitePart quantity with
        | none => .error (.value "order quantity must be finite and positive")
        | some quantity =>
            if hq : 0 < quantity.toRat then
              if hc : isBlank (strip clientOrderId) = false ∧ (strip clientOrderId).length ≤ 36 ∧
                  isAscii (strip clientOrderId) then
                if hp : PriceConstraints orderType (price.bind finitePart) timeInForce ∧
                    (orderType = .market → price = none) then
                  .ok
                    { symbol := upper (strip symbol), side, orderType, quantity
                      clientOrderId := strip clientOrderId, price := price.bind finitePart
                      timeInForce, symbol_alnum := hs, quantity_pos := hq
                      clientOrderId_not_blank := hc.1, clientOrderId_short := hc.2.1
                      clientOrderId_ascii := hc.2.2, priceConstraints := hp.1 }
                else
                  match orderType with
                  | .limit =>
                      .error (.value "LIMIT order requires valid price and time-in-force")
                  | .market =>
                      .error (.value "MARKET order cannot contain price or time-in-force")
              else .error (.value "client order ID is invalid")
            else .error (.value "order quantity must be finite and positive")
    | _, _ => .error (.value "unsupported Spot order side or type")
  else .error (.value "order symbol must be ASCII alphanumeric")

/-- The fields of an accepted command are the normalized arguments. -/
lemma create_fields [UnicodeData] {symbol side orderType : String} {quantity : DecimalNumber}
    {clientOrderId : String} {price : Option DecimalNumber} {timeInForce : Option String}
    {c : SpotOrderCommand}
    (h : create symbol side orderType quantity clientOrderId price timeInForce = .ok c) :
    c.symbol = upper (strip symbol) ∧ c.side.value = upper (strip side) ∧
      c.orderType.value = upper (strip orderType) ∧ finitePart quantity = some c.quantity ∧
      c.clientOrderId = strip clientOrderId ∧ c.price = price.bind finitePart ∧
      c.timeInForce = timeInForce ∧ (c.orderType = .market → price = none) := by
  rw [create] at h
  split at h
  swap
  · cases h
  split at h
  swap
  · cases h
  rename_i s t hside htype
  split at h
  · cases h
  rename_i q hq
  split at h
  swap
  · cases h
  split at h
  swap
  · cases h
  split at h
  · rename_i hprice
    obtain rfl := Except.ok.inj h
    exact ⟨rfl, by simpa using List.find?_some hside, by simpa using List.find?_some htype, hq,
      rfl, rfl, rfl, hprice.2⟩
  · split at h <;> cases h

/-- `payload`: the parameters sent to the exchange. -/
def payload (command : SpotOrderCommand) : Payload :=
  .ofList ([("symbol", command.symbol), ("side", command.side.value),
    ("type", command.orderType.value), ("quantity", command.quantity.str),
    ("newClientOrderId", command.clientOrderId), ("newOrderRespType", "FULL")] ++
    (command.price.map fun p => ("price", p.str)).toList ++
    (command.timeInForce.map fun t => ("timeInForce", t)).toList)

/-- `preview_hash`. -/
def previewHash [CanonicalDigest Payload] (command : SpotOrderCommand) : String :=
  CanonicalDigest.hexdigest command.payload

end SpotOrderCommand

/-! ### Results -/

/-- `LiveCommandStatus`. -/
inductive LiveCommandStatus where
  | blocked
  | submitted
  | cancelled
  | attemptFailed
  | unverifiedReviewRequired
  deriving DecidableEq, Repr

/-- `LiveCommandResult`.  The order snapshot maps the keys of the exchange's
answer to the texts of their values; a `None` value counts as missing. -/
structure LiveCommandResult where
  status : LiveCommandStatus
  blockers : List String
  clientOrderId : String
  exchangeOrderId : Option String := none
  previewHash : Option String := none
  exchangeOrderStatus : Option String := none
  exchangeOrderSnapshot : Option Payload := none
  authorizationId : Option String := none
  authorizationEnvelopeSha256 : Option String := none
  approvalId : Option String := none

end Ai4Binance
