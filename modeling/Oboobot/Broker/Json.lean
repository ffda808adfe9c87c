import Oboobot.Domain.Types

/-! JSON values, as far as responses are read. -/

namespace Oboobot.Broker

/-- A number keeps whether it was written as an integer. The value of a float is
finite, hence rational. -/
inductive Number where
  | posInt (value : UInt64)
  | negInt (value : Int)
  | float (value : ℚ)
  deriving DecidableEq

inductive Value where
  | null
  | bool (value : Bool)
  | number (value : Number)
  | string (value : String)
  | array (items : List Value)
  | object (fields : List (String × Value))

/-- The 64-bit float closest to an integer below `2 ^ 64`, ties to even. -/
def nearestF64 (magnitude : Nat) : Nat :=
  if magnitude < 2 ^ 53 then magnitude
  else
    let unit := 2 ^ (magnitude.log2 - 52)
    let quotient := magnitude / unit
    let rest := magnitude % unit
    let up := unit < 2 * rest ∨ unit = 2 * rest ∧ quotient % 2 = 1
    (if up then quotient + 1 else quotient) * unit

def Number.asF64 : Number → ℚ
  | .posInt value => nearestF64 value.toNat
  | .negInt value => -(nearestF64 value.natAbs : ℚ)
  | .float value => value

namespace Value

/-- The field of an object; `none` on any other value. -/
def get (value : Value) (key : String) : Option Value :=
  match value with
  | .object fields => (fields.find? fun field => field.1 == key).map Prod.snd
  | _ => none

def asU64 : Value → Option UInt64
  | .number (.posInt value) => some value
  | _ => none

def asI64 : Value → Option Int
  | .number (.posInt value) => if value.toNat < 2 ^ 63 then some value.toNat else none
  | .number (.negInt value) => some value
  | _ => none

def asF64 : Value → Option ℚ
  | .number value => some value.asF64
  | _ => none

def asStr : Value → Option String
  | .string value => some value
  | _ => none

def asArray : Value → Option (List Value)
  | .array items => some items
  | _ => none

end Value

end Oboobot.Broker
