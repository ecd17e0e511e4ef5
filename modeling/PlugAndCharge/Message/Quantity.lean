import PlugAndCharge.Json.Record

/-!
# Physical quantities

Every electrical quantity in a message is a small integer, a power of ten and a unit.
-/

namespace PlugAndCharge

/-- The unit of a quantity. -/
inductive UnitSymbol where
  | hours
  | minutes
  | seconds
  | ampere
  | volt
  | watt
  | wattHours
  deriving DecidableEq, Repr

namespace UnitSymbol

/-- Every unit. -/
def all : List UnitSymbol :=
  [.hours, .minutes, .seconds, .ampere, .volt, .watt, .wattHours]

/-- The name on the wire. -/
def name : UnitSymbol → String
  | .hours => "h"
  | .minutes => "m"
  | .seconds => "s"
  | .ampere => "A"
  | .volt => "V"
  | .watt => "W"
  | .wattHours => "Wh"

instance : Json.Enumeration UnitSymbol := ⟨all, name⟩

end UnitSymbol

/-- A quantity: `value · 10 ^ multiplier` in `unit`. -/
structure PhysicalValue where
  value : Int16
  multiplier : Int8
  unit : UnitSymbol
  deriving DecidableEq, Repr

instance : Json.Wire PhysicalValue :=
  Json.recordWire
    (.cons (.required "Value") <| .cons (.required "Multiplier") <| .cons (.required "Unit") .nil)
    (fun p => (p.value, p.multiplier, p.unit, ()))
    (fun (value, multiplier, unit, _) => { value, multiplier, unit })

namespace PhysicalValue

/-- The power `base ^ exponent` by squaring, one binary digit of the exponent after the other,
lowest first.  The order of the multiplications decides how the result rounds.  An exponent of
`steps` binary digits takes `steps` steps. -/
def powerBySquaring : (steps : Nat) → (base : Float) → (exponent : Nat) → (product : Float) → Float
  | 0, _, _, product => product
  | steps + 1, base, exponent, product =>
    let product := if exponent % 2 = 1 then product * base else product
    if exponent / 2 = 0 then product
    else powerBySquaring steps (base * base) (exponent / 2) product

/-- The quantity as a binary64 number of its unit.  A negative power of ten is the reciprocal of the
positive one. -/
def toFloat (quantity : PhysicalValue) : Float :=
  let multiplier := quantity.multiplier.toInt
  let power := powerBySquaring 8 10.0 multiplier.natAbs 1.0
  let scale := if multiplier < 0 then 1.0 / power else power
  Float.ofInt quantity.value.toInt * scale

end PhysicalValue

end PlugAndCharge
