import PrintProxy.Proofs.Wire.Spelling
import PrintProxy.Wire.Field

/-!
# Reading fields

Each reader of a field is characterised by what it accepts: an input that
spells the value it returns, with the rest that it leaves.
-/

namespace PrintProxy.Wire

theorem readOctet_eq_ok_iff {input rest : Bytes} {octet : UInt8} :
    readOctet input = .ok octet rest ↔ input = octet :: rest := by
  cases input with
  | nil => simp [readOctet]
  | cons first others => simp [readOctet]

theorem readOctets_eq_ok_iff {count : Nat} {input octets rest : Bytes} :
    readOctets count input = .ok octets rest ↔
      octets.length = count ∧ input = octets ++ rest := by
  simp only [readOctets]
  constructor
  · intro found
    split at found
    · rename_i enough
      cases found
      exact ⟨enough, (List.take_append_drop count input).symm⟩
    · cases found
  · intro parts
    obtain ⟨rfl, rfl⟩ := parts
    simp

theorem ofUInt16_eq_pair (number : UInt16) :
    ∃ high low, Bytes.ofUInt16 number = [high, low] := by
  match Bytes.ofUInt16 number, Bytes.length_ofUInt16 number with
  | [high, low], _ => exact ⟨high, low, rfl⟩

theorem readUInt16_eq_ok_iff {input rest : Bytes} {number : UInt16} :
    readUInt16 input = .ok number rest ↔ input = Bytes.ofUInt16 number ++ rest := by
  constructor
  · intro found
    unfold readUInt16 at found
    split at found
    · rename_i high low others
      cases found
      have written : Bytes.ofUInt16 (Bytes.toUInt16 [high, low]) = [high, low] :=
        Bytes.ofUInt16_toUInt16 rfl
      rw [written]
      rfl
    · cases found
  · intro spelled
    obtain ⟨high, low, written⟩ := ofUInt16_eq_pair number
    have readBack := Bytes.toUInt16_ofUInt16 number
    rw [written] at spelled readBack
    rw [spelled, ← readBack]
    rfl

/-- The name only serves to report a field that is too long. -/
theorem readField_eq_ok_iff (name : String) {input octets rest : Bytes} :
    readField input = .ok octets rest ↔ Spells (encodeField name) octets input rest := by
  rw [spells_encodeField_iff, readField, Read.andThen_eq_ok]
  constructor
  · intro found
    obtain ⟨number, middle, numberFound, octetsFound⟩ := found
    obtain ⟨sameLength, rfl⟩ := readOctets_eq_ok_iff.mp octetsFound
    have spelled := readUInt16_eq_ok_iff.mp numberFound
    have bound := number.toNat_lt
    refine ⟨?_, ?_⟩
    · simp only [greatestFieldLength, sameLength]
      omega
    · rw [spelled, sameLength, UInt16.ofNat_toNat, List.append_assoc]
  · intro spelled
    obtain ⟨fits, same⟩ := spelled
    rw [List.append_assoc] at same
    refine ⟨_, octets ++ rest, readUInt16_eq_ok_iff.mpr same, ?_⟩
    refine readOctets_eq_ok_iff.mpr ⟨?_, rfl⟩
    simp only [greatestFieldLength] at fits
    rw [UInt16.toNat_ofNat', Nat.mod_eq_of_lt (by omega)]

theorem readName_eq_ok_iff {input rest : Bytes} {name : String} :
    readName input = .ok name rest ↔
      Spells (encodeField name) (Utf8.encode name) input rest := by
  rw [readName, Read.andThen_eq_ok]
  constructor
  · intro found
    obtain ⟨octets, middle, octetsFound, nameFound⟩ := found
    split at nameFound
    · rename_i decodedName decoded
      cases nameFound
      rw [Utf8.encode_of_decode? decoded]
      exact (readField_eq_ok_iff name).mp octetsFound
    · cases nameFound
  · intro spelled
    refine ⟨Utf8.encode name, rest, (readField_eq_ok_iff name).mpr spelled, ?_⟩
    rw [Utf8.decode?_encode]

theorem readHeader_eq_ok_iff {input rest : Bytes} {header : Header} :
    readHeader input = .ok header rest ↔ input = header.toBytes ++ rest := by
  constructor
  · intro found
    unfold readHeader at found
    split at found
    · rename_i major minor high low a b c d others
      cases found
      have codeWritten : Bytes.ofUInt16 (Bytes.toUInt16 [high, low]) = [high, low] :=
        Bytes.ofUInt16_toUInt16 rfl
      have idWritten : Bytes.ofInt32 (Bytes.toInt32 [a, b, c, d]) = [a, b, c, d] :=
        Bytes.ofInt32_toInt32 rfl
      simp only [Header.toBytes, codeWritten, idWritten]
      rfl
    · cases found
  · intro spelled
    obtain ⟨high, low, codeWritten⟩ := ofUInt16_eq_pair header.code
    have codeRead := Bytes.toUInt16_ofUInt16 header.code
    have idRead := Bytes.toInt32_ofInt32 header.requestId
    have idLength := Bytes.length_ofInt32 header.requestId
    rw [spelled, Header.toBytes]
    generalize Bytes.ofInt32 header.requestId = idOctets at *
    match idOctets, idLength with
    | [a, b, c, d], _ =>
        rw [codeWritten] at codeRead ⊢
        simp only [List.cons_append, List.nil_append, readHeader, codeRead, idRead]

end PrintProxy.Wire
