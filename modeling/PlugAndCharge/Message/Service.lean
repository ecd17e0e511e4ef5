import PlugAndCharge.Json.Record

/-!
# Services

A station offers the charge service and possibly others; the vehicle selects from them and says how
the energy is paid for.
-/

namespace PlugAndCharge

/-- A setting that names nothing that is known. -/
inductive UnknownSetting where
  | paymentOption (text : String)
  | energyTransferMode (text : String)
  deriving DecidableEq, Repr

/-- An unknown setting in words. -/
def UnknownSetting.message : UnknownSetting → String
  | .paymentOption text => s!"unknown authorization option: {text}"
  | .energyTransferMode text => s!"unknown energy transfer mode: {text}"

/-- How the vehicle identifies itself for payment. -/
inductive PaymentOption where
  | contract
  | external
  deriving DecidableEq, Repr

namespace PaymentOption

/-- Every payment option. -/
def all : List PaymentOption :=
  [.contract, .external]

/-- The name on the wire. -/
def name : PaymentOption → String
  | .contract => "Contract"
  | .external => "ExternalPayment"

instance : Json.Enumeration PaymentOption := ⟨all, name⟩

/-- The short name in a setting. -/
def shortName : PaymentOption → String
  | .contract => "pnc"
  | .external => "eim"

/-- Reads a payment option from a setting, by either name. -/
def parse (text : String) : Except UnknownSetting PaymentOption :=
  match all.find? fun option => text == option.name || text == option.shortName with
  | some option => .ok option
  | none => .error (.paymentOption text)

end PaymentOption

/-- How energy is transferred. -/
inductive EnergyTransferMode where
  | acSinglePhaseCore
  | acThreePhaseCore
  | dcCore
  | dcExtended
  | dcComboCore
  | dcUnique
  deriving DecidableEq, Repr

namespace EnergyTransferMode

/-- Every mode. -/
def all : List EnergyTransferMode :=
  [.acSinglePhaseCore, .acThreePhaseCore, .dcCore, .dcExtended, .dcComboCore, .dcUnique]

/-- The name on the wire. -/
def name : EnergyTransferMode → String
  | .acSinglePhaseCore => "AC_single_phase_core"
  | .acThreePhaseCore => "AC_three_phase_core"
  | .dcCore => "DC_core"
  | .dcExtended => "DC_extended"
  | .dcComboCore => "DC_combo_core"
  | .dcUnique => "DC_unique"

instance : Json.Enumeration EnergyTransferMode := ⟨all, name⟩

/-- Whether the mode transfers alternating current. -/
def isAc : EnergyTransferMode → Bool
  | .acSinglePhaseCore | .acThreePhaseCore => true
  | .dcCore | .dcExtended | .dcComboCore | .dcUnique => false

/-- Reads a mode from a setting, in upper or lower ASCII case. -/
def parse (text : String) : Except UnknownSetting EnergyTransferMode :=
  match all.find? fun mode => mode.name.toLower == text.toLower with
  | some mode => .ok mode
  | none => .error (.energyTransferMode text)

end EnergyTransferMode

/-- The category of a service. -/
inductive ServiceCategory where
  | evCharging
  | internet
  | contractCertificate
  | otherCustom
  deriving DecidableEq, Repr

namespace ServiceCategory

/-- Every category. -/
def all : List ServiceCategory :=
  [.evCharging, .internet, .contractCertificate, .otherCustom]

/-- The name on the wire. -/
def name : ServiceCategory → String
  | .evCharging => "EVCharging"
  | .internet => "Internet"
  | .contractCertificate => "ContractCertificate"
  | .otherCustom => "OtherCustom"

instance : Json.Enumeration ServiceCategory := ⟨all, name⟩

end ServiceCategory

/-- The number that a station gives to a service. -/
abbrev ServiceId := UInt16

/-- The charge service that a station offers. -/
structure ChargeService where
  serviceId : ServiceId
  serviceName : Option String
  serviceCategory : ServiceCategory
  freeService : Bool
  supportedModes : List EnergyTransferMode
  deriving DecidableEq, Repr

instance : Json.Wire ChargeService :=
  Json.recordWire
    (.cons (.required "ServiceID") <| .cons (.optional "ServiceName") <|
      .cons (.required "ServiceCategory") <| .cons (.required "FreeService") <|
      .cons (.required "SupportedEnergyTransferMode") .nil)
    (fun c => (c.serviceId, c.serviceName, c.serviceCategory, c.freeService, c.supportedModes, ()))
    (fun (serviceId, serviceName, serviceCategory, freeService, supportedModes, _) =>
      { serviceId, serviceName, serviceCategory, freeService, supportedModes })

/-- A service that a station offers beside the charge service. -/
structure Service where
  serviceId : ServiceId
  serviceName : Option String
  serviceCategory : ServiceCategory
  freeService : Bool
  deriving DecidableEq, Repr

instance : Json.Wire Service :=
  Json.recordWire
    (.cons (.required "ServiceID") <| .cons (.optional "ServiceName") <|
      .cons (.required "ServiceCategory") <| .cons (.required "FreeService") .nil)
    (fun s => (s.serviceId, s.serviceName, s.serviceCategory, s.freeService, ()))
    (fun (serviceId, serviceName, serviceCategory, freeService, _) =>
      { serviceId, serviceName, serviceCategory, freeService })

/-- A service that the vehicle selects. -/
structure SelectedService where
  serviceId : ServiceId
  parameterSetId : Option Int16
  deriving DecidableEq, Repr

instance : Json.Wire SelectedService :=
  Json.recordWire
    (.cons (.required "ServiceID") <| .cons (.optional "ParameterSetID") .nil)
    (fun s => (s.serviceId, s.parameterSetId, ()))
    (fun (serviceId, parameterSetId, _) => { serviceId, parameterSetId })

/-- A named detail of a service. -/
structure Parameter where
  name : String
  value : String
  deriving DecidableEq, Repr

instance : Json.Wire Parameter :=
  Json.recordWire
    (.cons (.required "Name") <| .cons (.required "Value") .nil)
    (fun p => (p.name, p.value, ()))
    (fun (name, value, _) => { name, value })

/-- Details of a service that belong together. -/
structure ParameterSet where
  parameterSetId : Int16
  parameters : List Parameter
  deriving DecidableEq, Repr

instance : Json.Wire ParameterSet :=
  Json.recordWire
    (.cons (.required "ParameterSetID") <| .cons (.required "Parameters") .nil)
    (fun p => (p.parameterSetId, p.parameters, ()))
    (fun (parameterSetId, parameters, _) => { parameterSetId, parameters })

end PlugAndCharge
