import PlugAndCharge.Message.Envelope
import PlugAndCharge.Proofs.Record

/-!
# Messages read back

Every message is read back from the octets in which it is sent.  Each type that occurs in a message
is lawful by the laws of enumerations and records: an enumeration because its names differ, a record
because the names of its members do.
-/

namespace PlugAndCharge

open Json

/-! ## Quantities -/

instance : LawfulEnumeration UnitSymbol := ⟨fun value => by cases value <;> rfl⟩

instance : LawfulWire PhysicalValue :=
  lawful_record (fun _ => rfl) (fun _ => rfl) (by decide) fun _ _ => rfl

/-! ## Credentials and signatures -/

instance : LawfulWire CertificateChain :=
  lawful_record (fun _ => rfl) (fun _ => rfl) (by decide) fun _ _ => rfl

instance : LawfulWire EncryptedPrivateKey :=
  lawful_record (fun _ => rfl) (fun _ => rfl) (by decide) fun _ _ => rfl

instance : LawfulWire DhPublicKey :=
  lawful_record (fun _ => rfl) (fun _ => rfl) (by decide) fun _ _ => rfl

instance : LawfulWire Emaid :=
  lawful_record (fun _ => rfl) (fun _ => rfl) (by decide) fun _ _ => rfl

instance : LawfulWire RootCertificateId :=
  lawful_record (fun _ => rfl) (fun _ => rfl) (by decide) fun _ _ => rfl

instance : LawfulWire Reference :=
  lawful_record (fun _ => rfl) (fun _ => rfl) (by decide) fun _ _ => rfl

instance : LawfulWire SignedInfo :=
  lawful_record (fun _ => rfl) (fun _ => rfl) (by decide) fun _ _ => rfl

instance : LawfulWire Signature :=
  lawful_record (fun _ => rfl) (fun _ => rfl) (by decide) fun _ _ => rfl

/-! ## Services -/

instance : LawfulEnumeration PaymentOption := ⟨fun value => by cases value <;> rfl⟩

instance : LawfulEnumeration EnergyTransferMode := ⟨fun value => by cases value <;> rfl⟩

instance : LawfulEnumeration ServiceCategory := ⟨fun value => by cases value <;> rfl⟩

instance : LawfulWire ChargeService :=
  lawful_record (fun _ => rfl) (fun _ => rfl) (by decide) fun _ _ => rfl

instance : LawfulWire Service :=
  lawful_record (fun _ => rfl) (fun _ => rfl) (by decide) fun _ _ => rfl

instance : LawfulWire SelectedService :=
  lawful_record (fun _ => rfl) (fun _ => rfl) (by decide) fun _ _ => rfl

instance : LawfulWire Parameter :=
  lawful_record (fun _ => rfl) (fun _ => rfl) (by decide) fun _ _ => rfl

instance : LawfulWire ParameterSet :=
  lawful_record (fun _ => rfl) (fun _ => rfl) (by decide) fun _ _ => rfl

/-! ## Charge parameters and schedules -/

instance : LawfulEnumeration DcEvErrorCode := ⟨fun value => by cases value <;> rfl⟩

instance : LawfulWire DcEvStatus :=
  lawful_record (fun _ => rfl) (fun _ => rfl) (by decide) fun _ _ => rfl

instance : LawfulWire AcEvChargeParameter :=
  lawful_record (fun _ => rfl) (fun _ => rfl) (by decide) fun _ _ => rfl

instance : LawfulWire DcEvChargeParameter :=
  lawful_record (fun _ => rfl) (fun _ => rfl) (by decide) fun _ _ => rfl

instance : LawfulWire PMaxScheduleEntry :=
  lawful_record (fun _ => rfl) (fun _ => rfl) (by decide) fun _ _ => rfl

instance : LawfulWire ScheduleTuple :=
  lawful_record (fun _ => rfl) (fun _ => rfl) (by decide) fun _ _ => rfl

instance : LawfulWire ProfileEntry :=
  lawful_record (fun _ => rfl) (fun _ => rfl) (by decide) fun _ _ => rfl

instance : LawfulWire ChargingProfile :=
  lawful_record (fun _ => rfl) (fun _ => rfl) (by decide) fun _ _ => rfl

instance : LawfulEnumeration ChargeProgress := ⟨fun value => by cases value <;> rfl⟩

instance : LawfulEnumeration SessionEnd := ⟨fun value => by cases value <;> rfl⟩

/-! ## The state of a station -/

instance : LawfulEnumeration ResponseCode := ⟨fun value => by cases value <;> rfl⟩

instance : LawfulEnumeration EvseProcessing := ⟨fun value => by cases value <;> rfl⟩

instance : LawfulEnumeration EvseNotification := ⟨fun value => by cases value <;> rfl⟩

instance : LawfulEnumeration IsolationLevel := ⟨fun value => by cases value <;> rfl⟩

instance : LawfulEnumeration DcEvseStatusCode := ⟨fun value => by cases value <;> rfl⟩

instance : LawfulWire AcEvseStatus :=
  lawful_record (fun _ => rfl) (fun _ => rfl) (by decide) fun _ _ => rfl

instance : LawfulWire DcEvseStatus :=
  lawful_record (fun _ => rfl) (fun _ => rfl) (by decide) fun _ _ => rfl

instance : LawfulWire MeterInfo :=
  lawful_record (fun _ => rfl) (fun _ => rfl) (by decide) fun _ _ => rfl

/-! ## Requests -/

instance : LawfulWire SessionSetupReq :=
  lawful_record (fun _ => rfl) (fun _ => rfl) (by decide) fun _ _ => rfl

instance : LawfulWire ServiceDiscoveryReq :=
  lawful_record (fun _ => rfl) (fun _ => rfl) (by decide) fun _ _ => rfl

instance : LawfulWire ServiceDetailReq :=
  lawful_record (fun _ => rfl) (fun _ => rfl) (by decide) fun _ _ => rfl

instance : LawfulWire PaymentServiceSelectionReq :=
  lawful_record (fun _ => rfl) (fun _ => rfl) (by decide) fun _ _ => rfl

instance : LawfulWire CertificateInstallationReq :=
  lawful_record (fun _ => rfl) (fun _ => rfl) (by decide) fun _ _ => rfl

instance : LawfulWire PaymentDetailsReq :=
  lawful_record (fun _ => rfl) (fun _ => rfl) (by decide) fun _ _ => rfl

instance : LawfulWire AuthorizationReq :=
  lawful_record (fun _ => rfl) (fun _ => rfl) (by decide) fun _ _ => rfl

instance : LawfulWire ChargeParameterDiscoveryReq :=
  lawful_record (fun _ => rfl) (fun _ => rfl) (by decide) fun _ _ => rfl

instance : LawfulWire PowerDeliveryReq :=
  lawful_record (fun _ => rfl) (fun _ => rfl) (by decide) fun _ _ => rfl

instance : LawfulWire ChargingStatusReq :=
  lawful_record (fun _ => rfl) (fun _ => rfl) (by decide) fun _ _ => rfl

instance : LawfulWire CurrentDemandReq :=
  lawful_record (fun _ => rfl) (fun _ => rfl) (by decide) fun _ _ => rfl

instance : LawfulWire MeteringReceiptReq :=
  lawful_record (fun _ => rfl) (fun _ => rfl) (by decide) fun _ _ => rfl

instance : LawfulWire SessionStopReq :=
  lawful_record (fun _ => rfl) (fun _ => rfl) (by decide) fun _ _ => rfl

/-! ## Responses -/

instance : LawfulWire SessionSetupRes :=
  lawful_record (fun _ => rfl) (fun _ => rfl) (by decide) fun _ _ => rfl

instance : LawfulWire ServiceDiscoveryRes :=
  lawful_record (fun _ => rfl) (fun _ => rfl) (by decide) fun _ _ => rfl

instance : LawfulWire ServiceDetailRes :=
  lawful_record (fun _ => rfl) (fun _ => rfl) (by decide) fun _ _ => rfl

instance : LawfulWire PaymentServiceSelectionRes :=
  lawful_record (fun _ => rfl) (fun _ => rfl) (by decide) fun _ _ => rfl

instance : LawfulWire CertificateInstallationRes :=
  lawful_record (fun _ => rfl) (fun _ => rfl) (by decide) fun _ _ => rfl

instance : LawfulWire PaymentDetailsRes :=
  lawful_record (fun _ => rfl) (fun _ => rfl) (by decide) fun _ _ => rfl

instance : LawfulWire AuthorizationRes :=
  lawful_record (fun _ => rfl) (fun _ => rfl) (by decide) fun _ _ => rfl

instance : LawfulWire ChargeParameterDiscoveryRes :=
  lawful_record (fun _ => rfl) (fun _ => rfl) (by decide) fun _ _ => rfl

instance : LawfulWire PowerDeliveryRes :=
  lawful_record (fun _ => rfl) (fun _ => rfl) (by decide) fun _ _ => rfl

instance : LawfulWire ChargingStatusRes :=
  lawful_record (fun _ => rfl) (fun _ => rfl) (by decide) fun _ _ => rfl

instance : LawfulWire CurrentDemandRes :=
  lawful_record (fun _ => rfl) (fun _ => rfl) (by decide) fun _ _ => rfl

instance : LawfulWire MeteringReceiptRes :=
  lawful_record (fun _ => rfl) (fun _ => rfl) (by decide) fun _ _ => rfl

instance : LawfulWire SessionStopRes :=
  lawful_record (fun _ => rfl) (fun _ => rfl) (by decide) fun _ _ => rfl

/-! ## Bodies -/

namespace Request

theorem readContent_writeContent (request : Request) {rest : Octets} (follows : Follows rest) :
    readContent request.exchange (request.writeContent ++ rest) = .ok (request, rest) := by
  cases request <;>
    simp only [exchange, writeContent, readContent, LawfulWire.read_write _ follows, Except.map]

end Request

namespace Response

theorem readContent_writeContent (response : Response) {rest : Octets} (follows : Follows rest) :
    readContent response.exchange (response.writeContent ++ rest) = .ok (response, rest) := by
  cases response <;>
    simp only [exchange, writeContent, readContent, LawfulWire.read_write _ follows, Except.map]

end Response

namespace Kind

/-- No two kinds have the same name. -/
theorem find?_name (kind : Kind) : all.find? (fun other => other.name == kind.name) = some kind := by
  cases kind with
  | request exchange => cases exchange <;> rfl
  | response exchange => cases exchange <;> rfl

end Kind

namespace Body

theorem readContent_writeContent (body : Body) {rest : Octets} (follows : Follows rest) :
    readContent body.kind (body.writeContent ++ rest) = .ok (body, rest) := by
  cases body with
  | request request =>
      simp only [kind, writeContent, readContent, request.readContent_writeContent follows,
        Except.map]
  | response response =>
      simp only [kind, writeContent, readContent, response.readContent_writeContent follows,
        Except.map]

instance : LawfulWire Body where
  write_eq_cons _ := ⟨openBrace, _, rfl, by decide⟩
  read_write body rest _ := by
    have known : (Kind.all.find? fun kind => kind.name == body.kind.name).map readContent =
        some (readContent body.kind) := by
      rw [Kind.find?_name, Option.map_some]
    exact readTagged_writeTagged known body.readContent_writeContent rest

end Body

/-! ## Messages -/

instance : LawfulWire Header :=
  lawful_record (fun _ => rfl) (fun _ => rfl) (by decide) fun _ _ => rfl

instance : LawfulWire Message :=
  lawful_record (fun _ => rfl) (fun _ => rfl) (by decide) fun _ _ => rfl

namespace Message

/-- Every message is read back from the octets in which it is sent. -/
theorem decode_encode (message : Message) : decode (encode message) = .ok message := by
  obtain ⟨octet, rest, shape, -⟩ := LawfulWire.write_eq_cons message
  have notEmpty : encode message ≠ [] := by
    rw [encode, shape]
    exact List.cons_ne_nil octet rest
  rw [decode, if_neg notEmpty, encode, decode_write]
  rfl

/-- Encoding loses nothing: every message is read back, different messages are sent as different
octets, and reading octets, sending what was read and reading that again is reading once. -/
theorem encode_lossless :
    (∀ message : Message, decode (encode message) = .ok message) ∧
      Function.Injective encode ∧
      ∀ octets, (decode octets).bind (fun message => decode (encode message)) = decode octets := by
  refine ⟨decode_encode, fun first second same => ?_, fun octets => ?_⟩
  · have read := decode_encode first
    rw [same, decode_encode] at read
    exact (Except.ok.inj read).symm
  · cases decode octets with
    | error flaw => rfl
    | ok message => exact decode_encode message

end Message

end PlugAndCharge
