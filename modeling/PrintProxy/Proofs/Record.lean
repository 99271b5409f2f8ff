import PrintProxy.Proofs.Text.Length
import PrintProxy.Proofs.Text.Numeral
import PrintProxy.Record

/-!
# Records that do not overwrite each other

The name of a record can be taken apart again: a kind without a hyphen ends at
the first one, and what stands behind the request id has a fixed length.  So
messages of different kinds, ids or codes have records of different names, and
records of different names stand in a directory as they came.
-/

namespace PrintProxy

/-- What has no separator in it ends at the first one. -/
theorem append_cons_inj_of_not_mem {α : Type} {separator : α} {front front' back back' : List α}
    (absent : separator ∉ front) (absent' : separator ∉ front')
    (same : front ++ separator :: back = front' ++ separator :: back') :
    front = front' ∧ back = back' := by
  induction front generalizing front' with
  | nil =>
      cases front' with
      | nil => exact ⟨rfl, (List.cons.inj same).2⟩
      | cons first _ =>
          rw [(List.cons.inj same).1] at absent'
          exact absurd List.mem_cons_self absent'
  | cons first rest ih =>
      cases front' with
      | nil =>
          rw [(List.cons.inj same).1] at absent
          exact absurd List.mem_cons_self absent
      | cons first' rest' =>
          obtain ⟨rfl, sameRest⟩ := List.cons.inj same
          obtain ⟨rfl, sameBack⟩ := ih (List.not_mem_of_not_mem_cons absent)
            (List.not_mem_of_not_mem_cons absent') sameRest
          exact ⟨rfl, sameBack⟩

theorem Message.toList_recordName (message : Message) (kind : String) :
    (message.recordName kind).toList =
      kind.toList ++ '-' ::
        ((Numeral.signed message.header.requestId.toInt).toList ++
          ('-' :: ((Numeral.hex 4 message.header.code.toNat).toList ++ ".ipp".toList))) := by
  simp [recordName, toString]

theorem Message.recordName_inj {message other : Message} {kind otherKind : String}
    (plain : '-' ∉ kind.toList) (otherPlain : '-' ∉ otherKind.toList)
    (same : message.recordName kind = other.recordName otherKind) :
    kind = otherKind ∧ message.header.requestId = other.header.requestId ∧
      message.header.code = other.header.code := by
  have characters := congrArg String.toList same
  rw [toList_recordName, toList_recordName] at characters
  obtain ⟨sameKind, behindKind⟩ := append_cons_inj_of_not_mem plain otherPlain characters
  obtain ⟨sameId, behindId⟩ :=
    List.append_inj' behindKind (by simp [Numeral.length_hex_toNat])
  have sameCode := List.append_cancel_right (List.cons.inj behindId).2
  refine ⟨String.toList_inj.mp sameKind, ?_, ?_⟩
  · exact Int32.toInt_inj.mp (Numeral.signed_inj.mp (String.toList_inj.mp sameId))
  · exact UInt16.toNat_inj.mp (Numeral.hex_inj.mp (String.toList_inj.mp sameCode))

/-- What messages are called that are recorded. -/
def recordKinds : List String := ["request", "response"]

theorem plain_of_mem_recordKinds {kind : String} (isKind : kind ∈ recordKinds) :
    '-' ∉ kind.toList ∧ '/' ∉ kind.toList ∧ '\x00' ∉ kind.toList ∧ kind.utf8ByteSize ≤ 8 := by
  revert kind
  decide

namespace Message

variable {message : Message} {kind : String}

theorem hyphen_mem_recordName : '-' ∈ (message.recordName kind).toList := by
  rw [toList_recordName]
  exact List.mem_append_right _ List.mem_cons_self

theorem mem_recordName {character : Char}
    (member : character ∈ (message.recordName kind).toList) :
    character ∈ kind.toList ∨ character.isDigit ∨ character ∈ "abcdef-.ip".toList := by
  have hexDigits : ∀ character ∈ "0123456789abcdef".toList,
      character.isDigit ∨ character ∈ "abcdef-.ip".toList := by
    intro character inside
    have digitOrOther : "0123456789abcdef".toList.all fun character =>
        character.isDigit || "abcdef-.ip".toList.contains character := rfl
    simpa only [Bool.or_eq_true, List.contains_iff_mem] using
      List.all_eq_true.mp digitOrOther character inside
  have ending : "-.ipp".toList ⊆ "abcdef-.ip".toList := by decide
  have hyphen : '-' ∈ "-.ipp".toList := List.mem_cons_self
  simp only [toList_recordName, List.mem_append, List.mem_cons] at member
  rcases member with inKind | rfl | inId | rfl | inCode | inEnding
  · exact .inl inKind
  · exact .inr (.inr (ending hyphen))
  · rcases Numeral.isDigit_or_of_mem_signed inId with digit | rfl
    · exact .inr (.inl digit)
    · exact .inr (.inr (ending hyphen))
  · exact .inr (.inr (ending hyphen))
  · exact .inr (hexDigits _ (Numeral.mem_hexDigits_of_mem_hex inCode))
  · exact .inr (.inr (ending (List.mem_cons_of_mem _ inEnding)))

theorem utf8ByteSize_recordName_le (isKind : kind ∈ recordKinds) :
    (message.recordName kind).utf8ByteSize ≤ 71 := by
  obtain ⟨_, _, _, kindSize⟩ := plain_of_mem_recordKinds isKind
  have idSize := Numeral.utf8ByteSize_signed_toInt_le message.header.requestId
  have codeSize := Numeral.utf8ByteSize_hex_toNat_le message.header.code
  have hyphenSize : "-".utf8ByteSize = 1 := by decide
  have endingSize : ".ipp".utf8ByteSize = 4 := by decide
  simp only [recordName, toString, String.utf8ByteSize_append, hyphenSize, endingSize]
  omega

end Message

variable {directory records : List Record} {record : Record}

theorem keepRecord_of_new (new : record.name ∉ directory.map Record.name) :
    keepRecord directory record = directory ++ [record] := by
  induction directory with
  | nil => rfl
  | cons first rest ih =>
      rw [List.map_cons, List.mem_cons, not_or] at new
      have otherName : ¬(first.name == record.name) = true := by
        rw [beq_iff_eq]
        exact Ne.symm new.1
      have kept := ih new.2
      unfold keepRecord at kept ⊢
      rw [changeFirst, if_neg otherName, kept, List.cons_append]

/-- Records of new names that differ from each other stand behind those that were there. -/
theorem foldl_keepRecord_of_nodup (apart : ((directory ++ records).map Record.name).Nodup) :
    records.foldl keepRecord directory = directory ++ records := by
  induction records generalizing directory with
  | nil => rw [List.foldl_nil, List.append_nil]
  | cons record rest ih =>
      have whole : directory ++ record :: rest = (directory ++ [record]) ++ rest := by
        rw [List.append_assoc, List.singleton_append]
      rw [whole] at apart
      have front := (List.nodup_append.mp (List.map_append ▸ apart)).1
      rw [List.map_append] at front
      have new : record.name ∉ directory.map Record.name := fun member =>
        (List.nodup_append.mp front).2.2 _ member _ (List.mem_singleton.mpr rfl) rfl
      rw [List.foldl_cons, keepRecord_of_new new, ih apart, whole]

end PrintProxy
