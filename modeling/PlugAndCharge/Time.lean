/-!
# Time

Instants and durations are whole numbers of milliseconds; instants count from the start of a clock.
-/

namespace PlugAndCharge

/-- A number of milliseconds: an instant on a clock that starts at zero, or a duration. -/
abbrev Milliseconds := Nat

namespace Milliseconds

/-- The digits of a fraction of a second after the point, as few as possible. -/
def fractionDigits (fraction : Milliseconds) : List Char :=
  if fraction % 1000 = 0 then []
  else if fraction % 100 = 0 then [Nat.digitChar (fraction / 100)]
  else if fraction % 10 = 0 then
    [Nat.digitChar (fraction / 100), Nat.digitChar (fraction / 10 % 10)]
  else
    [Nat.digitChar (fraction / 100), Nat.digitChar (fraction / 10 % 10),
     Nat.digitChar (fraction % 10)]

/-- A duration in words: seconds from one second on, milliseconds below. -/
def text (duration : Milliseconds) : String :=
  if duration = 0 then "0ns"
  else if duration < 1000 then toString duration ++ "ms"
  else
    match fractionDigits (duration % 1000) with
    | [] => toString (duration / 1000) ++ "s"
    | digits => toString (duration / 1000) ++ "." ++ String.ofList digits ++ "s"

end Milliseconds

end PlugAndCharge
