import PrintProxy.Proofs.Message.Building
import PrintProxy.Proofs.Text.Length

/-!
# Explanations

A response that reports a failure explains it in a text.  The texts that the
proxy makes up itself quote numbers of a bounded size only, so they fit, and the
response is transmissible whatever the request is.
-/

namespace PrintProxy

open Wire (greatestFieldLength)

namespace Header

theorem utf8ByteSize_render_le (header : Header) : header.render.utf8ByteSize ≤ 88 := by
  have major : (Numeral.decimal header.version.major.toNat).utf8ByteSize ≤ 4 * 3 :=
    Numeral.utf8ByteSize_decimal_le (by decide)
      (Nat.lt_trans header.version.major.toNat_lt (by decide))
  have minor : (Numeral.decimal header.version.minor.toNat).utf8ByteSize ≤ 4 * 3 :=
    Numeral.utf8ByteSize_decimal_le (by decide)
      (Nat.lt_trans header.version.minor.toNat_lt (by decide))
  have code := Numeral.utf8ByteSize_hex_toNat_le header.code
  have requestId := Numeral.utf8ByteSize_signed_toInt_le header.requestId
  have bar : "|".utf8ByteSize = 1 := by decide
  have point : ".".utf8ByteSize = 1 := by decide
  have mark : "|0x".utf8ByteSize = 3 := by decide
  simp only [render, Version.render, toString, String.utf8ByteSize_append, bar, point, mark]
  omega

end Header

theorem message_noJob (header : Header) :
    (Fault.refused (.noJob header)).message =
      "neither 'printer-uri' & 'job-id' nor 'job-uri' is given in " ++ header.render :=
  rfl

theorem utf8ByteSize_noJob_le (header : Header) :
    (Fault.refused (.noJob header)).message.utf8ByteSize ≤ greatestFieldLength := by
  have shown := header.utf8ByteSize_render_le
  have opening :
      "neither 'printer-uri' & 'job-id' nor 'job-uri' is given in ".utf8ByteSize = 59 := by
    decide +kernel
  have greatest : greatestFieldLength = 65535 := rfl
  rw [message_noJob, String.utf8ByteSize_append, opening]
  omega

theorem utf8ByteSize_unsupported_le (code : UInt16) :
    (s!"operation 0x{Numeral.hex 4 code.toNat} is not supported").utf8ByteSize ≤
      greatestFieldLength := by
  have number := Numeral.utf8ByteSize_hex_toNat_le code
  have opening : "operation 0x".utf8ByteSize = 12 := by decide
  have closing : " is not supported".utf8ByteSize = 17 := by decide
  have greatest : greatestFieldLength = 65535 := rfl
  simp only [toString, String.utf8ByteSize_append, opening, closing]
  omega

theorem message_invalidName (octets : Bytes) :
    (Fault.wire (.invalidName octets)).message =
      "Attribute name is not valid UTF-8: " ++ octets.toHex :=
  rfl

/-- The fault of a name quotes all its octets. -/
theorem utf8ByteSize_invalidName (octets : Bytes) :
    (Fault.wire (.invalidName octets)).message.utf8ByteSize = 35 + 2 * octets.length := by
  have opening : "Attribute name is not valid UTF-8: ".utf8ByteSize = 35 := by decide +kernel
  rw [message_invalidName, String.utf8ByteSize_append, opening, Bytes.utf8ByteSize_toHex]

namespace Message

theorem transmissible_stating (header : Header) : (stating header).attributes.Transmissible := by
  apply Attributes.Transmissible.add _ (by decide) (by decide)
  exact Attributes.transmissible_empty.add (by decide) (by decide)

theorem transmissible_errorFor (request : Message) (status : Status) {explanation : String}
    (fits : explanation.utf8ByteSize ≤ greatestFieldLength) :
    (request.errorFor status explanation).attributes.Transmissible := by
  apply (transmissible_stating _).add (by decide)
  exact Attribute.addable_text (by decide) fits

theorem exists_encode_errorFor_iff (request : Message) (status : Status) (explanation : String) :
    (∃ octets, (request.errorFor status explanation).encode = .ok octets) ↔
      explanation.utf8ByteSize ≤ greatestFieldLength := by
  constructor
  · intro encoded
    have fits := Wire.exists_encode_message_iff.mp encoded
    have stated : (Attribute.ofValue AttributeName.statusMessage
        (.textWithoutLanguage explanation)).Fits := by
      apply fits _ (List.mem_singleton_self _)
      exact List.mem_cons_of_mem _ (List.mem_cons_of_mem _ (List.mem_singleton_self _))
    have valueFits : (Utf8.encode explanation).length ≤ greatestFieldLength :=
      stated.values _ List.mem_cons_self
    rwa [Wire.length_encode] at valueFits
  · intro fits
    obtain ⟨octets, encoded, _⟩ :=
      Wire.exists_decode_encode_iff.mpr (request.transmissible_errorFor status fits)
    exact ⟨octets, encoded⟩

end Message

end PrintProxy
