import PlugAndCharge.Proofs.Offer

/-!
# Details that are pending

Services whose details are to be asked for are kept in a list, the one that was added last at its
front.  Each answer takes one of them off: its details are asked for next.  The selection is sent on
the first answer that finds none left, and on no other occasion.
-/

namespace PlugAndCharge

variable {ω : Type}

/-! ## The list of services -/

namespace Context

section Pending

variable {context : Context} {serviceId : ServiceId} {pending : List ServiceId}

end Pending

end Context

namespace Turn

variable {equipment : Equipment ω} {session between after : Session ω} {awaited : Exchange}
  {now : Milliseconds} {message : Message} {step : Step} {steps : List Step}

/-! ## Messages one after the other -/

/-- A session that has selected three services and still asks about the last two of them. -/
def asking : Session Onboard where
  context :=
    { Context.start [] true Timeouts.standard none none with
      sessionId := some (List.replicate 8 1)
      services := [.plain 1, .plain 3, .plain 4]
      paymentOption := some .contract
      pendingDetails := [4, 3] }
  onboard :=
    { simulator := Simulator.start VehicleSettings.standard false
      directory := Directory.empty "" }

/-- The session with all its questions asked. -/
def asked : Session Onboard :=
  { asking with context := { asking.context with pendingDetails := [] } }

end Turn
end PlugAndCharge
