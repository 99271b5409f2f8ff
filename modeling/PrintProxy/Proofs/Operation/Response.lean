import PrintProxy.Proofs.Message.Building
import PrintProxy.Proofs.Operation.Composition
import PrintProxy.Proofs.Uri.PrinterName

/-!
# Answers that can be sent

The answer to a transmissible request is transmissible: it repeats the request's
groups, and what it adds has bounded lengths, because the URIs that it quotes
were parsed.  Apart from the code it keeps the request's header; it has no
payload.
-/

namespace PrintProxy

open Wire (greatestFieldLength)

theorem Attributes.Transmissible.addAll {attributes : Attributes} {tag : DelimiterTag}
    {attrs : List Attribute} (sound : attributes.Transmissible) (noEnd : tag ≠ .endOfAttributes)
    (addable : ∀ attr ∈ attrs, attr.Addable) : (attributes.addAll tag attrs).Transmissible := by
  induction attrs generalizing attributes with
  | nil => exact sound
  | cons attr attrs ih =>
      obtain ⟨first, others⟩ := List.forall_mem_cons.mp addable
      exact ih (sound.add noEnd first) others

namespace Message

theorem exists_parse_of_printerUri {message : Message} {printer : Uri}
    (found : message.printerUri = .ok printer) : ∃ text, Uri.parse text = .ok printer := by
  obtain ⟨attr, _, isUri⟩ := bind_eq_ok_iff.mp found
  unfold Attribute.uri at isUri
  split at isUri
  · split at isUri
    · next parsed =>
        cases isUri
        exact ⟨_, parsed⟩
    · cases isUri
  · cases isUri

end Message

/-- An answer can name the printer and say where it is. -/
structure Uri.Presentable (printer : Uri) : Prop where
  uri : printer.render.utf8ByteSize ≤ greatestFieldLength
  location : printer.printerName.utf8ByteSize + 11 ≤ greatestFieldLength

theorem Uri.render_fits {text : String} {uri : Uri} (parsed : Uri.parse text = .ok uri) :
    uri.render.utf8ByteSize ≤ greatestFieldLength :=
  Uri.utf8ByteSize_render_of_parse parsed

namespace Operation

theorem targetUri_fits (operation : Operation) :
    operation.targetUri.render.utf8ByteSize ≤ greatestFieldLength ∧
      operation.targetUri.printerName.utf8ByteSize ≤ greatestFieldLength := by
  unfold targetUri
  split
  · next printer found =>
      obtain ⟨text, parsed⟩ := Message.exists_parse_of_printerUri found
      exact ⟨Uri.render_fits parsed, Uri.utf8ByteSize_printerName_of_parse parsed⟩
  · decide +kernel

theorem header_response (operation : Operation) :
    operation.response.header =
      { operation.request.header with code := Status.successfulOk.code } := by
  rw [response_eq]

theorem payload_response (operation : Operation) : operation.response.payload = [] := by
  rw [response_eq]

variable {operation : Operation}

theorem addable_of_mem_jobReport {attr : Attribute} (reported : attr ∈ operation.jobReport) :
    attr.Addable := by
  rcases List.mem_append.mp reported with addresses | states
  · rcases eq_of_mem_jobAddress addresses with ⟨jobId, rfl⟩ | ⟨jobId, uri, made, rfl⟩
    · exact Attribute.addable_jobId jobId
    · exact Attribute.addable_text (by decide) (Uri.render_fits made)
  · rcases eq_of_mem_jobStatus states with ⟨state, rfl⟩ | ⟨reason, rfl⟩
    · exact Attribute.addable_jobState state
    · exact Attribute.addable_jobStateReason reason

theorem transmissible_of_mem_printerGroups
    (presentable : ∀ printer ∈ operation.printers, printer.Presentable) {group : AttributeGroup}
    (member : group ∈ operation.printerGroups) :
    group.tag ≠ .endOfAttributes ∧ group.Transmissible := by
  rcases eq_of_mem_printerGroups member with rfl | ⟨printer, isListed, rfl⟩
  · exact ⟨by simp [printerDescription, AttributeGroup.empty],
      transmissible_printerDescription operation.targetUri_fits.1 operation.targetUri_fits.2⟩
  · obtain ⟨uriFits, locationFits⟩ := presentable printer isListed
    exact ⟨by simp [printerGroup, AttributeGroup.empty],
      transmissible_printerGroup uriFits locationFits⟩

theorem transmissible_response (sound : operation.request.attributes.Transmissible)
    (presentable : ∀ printer ∈ operation.printers, printer.Presentable) :
    operation.response.attributes.Transmissible := by
  rw [response_eq]
  intro group member
  rcases List.mem_append.mp member with repeated | ofPrinters
  · exact sound.addAll (by decide) (fun _ => addable_of_mem_jobReport) group repeated
  · exact transmissible_of_mem_printerGroups presentable ofPrinters

end Operation

end PrintProxy
