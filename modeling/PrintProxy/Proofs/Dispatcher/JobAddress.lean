import PrintProxy.Proofs.Dispatcher.Independence
import PrintProxy.Proofs.Uri.JobUri

/-!
# Addresses of jobs

A local answer gives its job a number and a URI.  The two name one job as long
as the answer says both itself.  A request overrules the URI if it states one
ahead of the group that the answer writes to, or if its printer's server does
not fit into the URI of a job; then the answer repeats what the request states.
-/

namespace PrintProxy

/-- The URI of a job at the printer that a request names. -/
def Message.uriOfJob (request : Message) (jobId : Int32) : Except UriFault Uri :=
  match request.printerUri with
  | .ok printer => printer.jobUri jobId
  | .error _ => unnamedPrinter.jobUri jobId

/-- The URI that a request states for its job stands where an answer's own would. -/
def Message.OverrulesJobUri (request : Message) (jobId : Int32) : Prop :=
  request.StatesAhead .jobAttributes AttributeName.jobUri ∨
    ∃ fault, request.uriOfJob jobId = .error fault

/-- The URI of a job ends in the job's number, and is read as it is written. -/
theorem Message.path_of_uriOfJob {request : Message} {jobId : Int32} {uri : Uri}
    (made : request.uriOfJob jobId = .ok uri) :
    uri.path = Uri.jobPath jobId ∧ Uri.parse uri.render = .ok uri := by
  unfold uriOfJob at made
  split at made
  · next printer found =>
      obtain ⟨text, parsed⟩ := exists_parse_of_printerUri found
      have names := Uri.namesItsServer_of_parse parsed
      exact ⟨Uri.path_of_jobUri names made, Uri.parse_render_of_jobUri names made⟩
  · have parsed : Uri.parse "ipp://localhost:631/printers" = .ok unnamedPrinter := by
      decide +kernel
    have names := Uri.namesItsServer_of_parse parsed
    exact ⟨Uri.path_of_jobUri names made, Uri.parse_render_of_jobUri names made⟩

namespace Operation

variable {operation : Operation} {response : Message} {jobId : Int32} {uri : Uri}

/-- A message that numbers its job in its job attributes. -/
def numbering (response : Message) (jobId : Int32) : Message :=
  response.setJobAttribute (.ofValue AttributeName.jobId (.integer jobId))

theorem jobUri_numbering : (numbering response jobId).jobUri = response.jobUri :=
  Message.jobUri_eq_of_attribute? (Message.attribute?_add_of_ne
    (show AttributeName.jobId ≠ AttributeName.jobUri by decide) _ _)

theorem nameJob_eq (numbered : operation.request.jobId = .ok jobId) :
    operation.nameJob response =
      match operation.request.uriOfJob jobId with
      | .ok uri => (numbering response jobId).setJobUri uri
      | .error _ => numbering response jobId := by
  have found : operation.jobId? = some jobId := toOption_eq_some_iff.mpr numbered
  have sameUri : operation.targetUri.jobUri jobId = operation.request.uriOfJob jobId := by
    unfold targetUri Message.uriOfJob
    cases operation.request.printerUri <;> rfl
  simp only [nameJob, found, sameUri]
  rfl

theorem jobUri_response_eq (numbered : operation.request.jobId = .ok jobId) :
    operation.response.jobUri =
      match operation.request.uriOfJob jobId with
      | .ok uri => ((numbering (Message.responseFor operation.request) jobId).setJobUri uri).jobUri
      | .error _ => operation.request.jobUri := by
  rw [Message.jobUri_eq_of_attribute? (attribute?_response_of_mem (by decide)), nameJob_eq numbered]
  split
  · rfl
  · exact jobUri_numbering

/-- The answer says where its job is, and says it of the job whose number it gives. -/
theorem exists_jobUri_response (numbered : operation.request.jobId = .ok jobId)
    (notOverruled : ¬operation.request.OverrulesJobUri jobId) :
    ∃ uri, operation.response.jobUri = .ok uri ∧ uri.path = Uri.jobPath jobId := by
  obtain ⟨notAhead, possible⟩ := not_or.mp notOverruled
  have located := jobUri_response_eq numbered
  cases made : operation.request.uriOfJob jobId with
  | error fault => exact absurd ⟨fault, made⟩ possible
  | ok uri =>
      obtain ⟨path, readBack⟩ := Message.path_of_uriOfJob made
      have room : (numbering (Message.responseFor operation.request) jobId).LeavesRoom
          .jobAttributes AttributeName.jobUri :=
        (Message.not_statesAhead_iff.mp notAhead).setJobAttribute _
      rw [made] at located
      exact ⟨uri, located.trans (Message.jobUri_setJobUri_of_leavesRoom room readBack), path⟩

theorem jobUri_response_of_overruled (numbered : operation.request.jobId = .ok jobId)
    (overruled : operation.request.OverrulesJobUri jobId) :
    operation.response.jobUri = operation.request.jobUri := by
  have located := jobUri_response_eq numbered
  cases made : operation.request.uriOfJob jobId with
  | error fault =>
      rw [made] at located
      exact located
  | ok uri =>
      have ahead : operation.request.StatesAhead .jobAttributes AttributeName.jobUri := by
        rcases overruled with ahead | failed
        · exact ahead
        · obtain ⟨fault, failed⟩ := failed
          rw [made] at failed
          cases failed
      have stillAhead : (numbering (Message.responseFor operation.request) jobId).StatesAhead
          .jobAttributes AttributeName.jobUri :=
        (Message.statesAhead_setJobAttribute_iff _).mpr ahead
      rw [made] at located
      exact (located.trans (Message.jobUri_setJobUri_of_statesAhead stillAhead uri)).trans
        jobUri_numbering

end Operation

namespace Dispatcher

section

variable (dispatcher : Dispatcher) (operation : Operation)

theorem request_settle (jobId : Int32) :
    (dispatcher.settle jobId operation).request =
      if operation.kind.makesJob then operation.request.setJobId jobId else operation.request := by
  split
  · next makes => exact request_settle_of_makesJob makes jobId
  · next makesNone =>
      unfold settle
      split
      · next kind => rw [kind] at makesNone; exact absurd rfl makesNone
      · next kind => rw [kind] at makesNone; exact absurd rfl makesNone
      · next kind => rw [kind] at makesNone; exact absurd rfl makesNone
      · exact dispatcher.request_advertise
      · exact dispatcher.request_advertise
      all_goals rfl

/-- The number of a job is all that is decided about which job it is. -/
theorem overrulesJobUri_settle_iff (number jobId : Int32) :
    (dispatcher.settle number operation).request.OverrulesJobUri jobId ↔
      operation.request.OverrulesJobUri jobId := by
  rw [request_settle]
  split
  · have sameAhead : (operation.request.setJobId number).StatesAhead .jobAttributes
        AttributeName.jobUri ↔
          operation.request.StatesAhead .jobAttributes AttributeName.jobUri := by
      rw [← not_iff_not, Message.not_statesAhead_iff, Message.not_statesAhead_iff]
      exact Message.leavesRoom_add_of_ne
        (show AttributeName.jobId ≠ AttributeName.jobUri by decide) _
    have samePrinter : (operation.request.setJobId number).printerUri =
        operation.request.printerUri := by
      rw [Message.printerUri, Message.printerUri, Message.getAttribute, Message.getAttribute]
      rw [Message.setJobId, Message.setOperationAttribute, Message.attribute?_add_of_ne
        (show AttributeName.jobId ≠ AttributeName.printerUri by decide)]
    have sameUri : (operation.request.setJobId number).uriOfJob jobId =
        operation.request.uriOfJob jobId := by
      rw [Message.uriOfJob, Message.uriOfJob, samePrinter]
    rw [Message.OverrulesJobUri, Message.OverrulesJobUri, sameAhead, sameUri]
  · rfl

theorem jobUri_request_settle (number : Int32) :
    (dispatcher.settle number operation).request.jobUri = operation.request.jobUri := by
  rw [request_settle]
  split
  · exact Message.jobUri_eq_of_attribute? (Message.attribute?_add_of_ne
      (show AttributeName.jobId ≠ AttributeName.jobUri by decide) _ _)
  · rfl

end

variable {dispatcher : Dispatcher} {directory : String} {request : Message} {state : State}
  {jobId : Int32}

theorem jobId_handle_of_startsJob (isLocal : dispatcher.target = .directory directory)
    (starts : request.StartsJob) (plain : ¬request.NumbersJobAhead) :
    (dispatcher.handle request state).1.jobId = .ok (state.lastJobId + 1) := by
  rw [jobId_handle isLocal ((makesJob_iff_startsJob isLocal request state).mpr starts)]
  exact Message.jobId_setJobId_iff.mpr fun ahead => absurd ahead plain

theorem exists_jobUri_handle (isLocal : dispatcher.target = .directory directory)
    (success : (dispatcher.handle request state).1.header.status.isSuccess)
    (numbered : (dispatcher.handle request state).1.jobId = .ok jobId)
    (notOverruled : ¬request.OverrulesJobUri jobId) :
    ∃ uri, (dispatcher.handle request state).1.jobUri = .ok uri ∧
      uri.path = Uri.jobPath jobId := by
  obtain ⟨kind, _, answered⟩ := exists_kind_of_isSuccess isLocal success
  have sameOverruling := dispatcher.overrulesJobUri_settle_iff (.carrying kind request)
    (state.lastJobId + 1) jobId
  rw [answered, Operation.jobId_response] at numbered
  rw [answered]
  exact Operation.exists_jobUri_response numbered (mt sameOverruling.mp notOverruled)

theorem jobUri_handle_of_overruled (isLocal : dispatcher.target = .directory directory)
    (success : (dispatcher.handle request state).1.header.status.isSuccess)
    (numbered : (dispatcher.handle request state).1.jobId = .ok jobId)
    (overruled : request.OverrulesJobUri jobId) :
    (dispatcher.handle request state).1.jobUri = request.jobUri := by
  obtain ⟨kind, _, answered⟩ := exists_kind_of_isSuccess isLocal success
  have sameOverruling := dispatcher.overrulesJobUri_settle_iff (.carrying kind request)
    (state.lastJobId + 1) jobId
  have sameUri := dispatcher.jobUri_request_settle (.carrying kind request) (state.lastJobId + 1)
  rw [answered, Operation.jobId_response] at numbered
  rw [answered, Operation.jobUri_response_of_overruled numbered (sameOverruling.mpr overruled)]
  exact sameUri

/-- A local answer that numbers its job locates the job of that number, unless the request overrules
the URI; then it repeats what the request states, whichever job that is. -/
theorem handle_locates_job (isLocal : dispatcher.target = .directory directory)
    (request : Message) (state : State)
    (success : (dispatcher.handle request state).1.header.status.isSuccess) (jobId : Int32)
    (numbered : (dispatcher.handle request state).1.jobId = .ok jobId) :
    (¬request.OverrulesJobUri jobId →
      ∃ uri, (dispatcher.handle request state).1.jobUri = .ok uri ∧
        uri.path = Uri.jobPath jobId) ∧
    (request.OverrulesJobUri jobId →
      (dispatcher.handle request state).1.jobUri = request.jobUri) :=
  ⟨exists_jobUri_handle isLocal success numbered,
    jobUri_handle_of_overruled isLocal success numbered⟩

/-- A document for a job that a printer and a number name. -/
def numberedDocument : Message :=
  ⟨⟨.v2_0, 0x0006, 5⟩,
    ⟨[⟨.operationAttributes,
      [.ofValue AttributeName.printerUri (.uri "ipp://printhost/printers/p"),
        .ofValue AttributeName.jobId (.integer 42)]⟩]⟩,
    []⟩

theorem handle_locates_job_numberedDocument :
    ∃ uri, (unconnected.handle numberedDocument {}).1.jobUri = .ok uri ∧ uri.path = "/jobs/1" := by
  have isLocal : unconnected.target = .directory "/tmp/IPP" := rfl
  have starts : numberedDocument.StartsJob := by decide
  have success : (unconnected.handle numberedDocument {}).1.header.status.isSuccess :=
    ((makesJob_iff_startsJob isLocal numberedDocument {}).mpr starts).2
  have numbered : (unconnected.handle numberedDocument {}).1.jobId = .ok 1 :=
    jobId_handle_of_startsJob isLocal starts (by decide)
  have made : numberedDocument.uriOfJob 1 = .ok ⟨some "ipp", some ⟨"printhost"⟩, "/jobs/1", none⟩ := by
    decide +kernel
  have notOverruled : ¬numberedDocument.OverrulesJobUri 1 := by
    rintro (ahead | ⟨fault, failed⟩)
    · exact absurd ahead (by decide)
    · rw [made] at failed
      cases failed
  exact (handle_locates_job isLocal numberedDocument {} success 1 numbered).1 notOverruled

/-- A document for a job that a URI names. -/
def locatedDocument : Message :=
  ⟨⟨.v2_0, 0x0006, 5⟩,
    ⟨[⟨.operationAttributes,
      [.ofValue AttributeName.jobUri (.uri "ipp://localhost:631/jobs/7")]⟩]⟩,
    []⟩

def locatedDocumentOctets : Bytes :=
  [2, 0, 0, 6, 0, 0, 0, 5, 1, 0x45, 0, 7, 0x6a, 0x6f, 0x62, 0x2d, 0x75, 0x72, 0x69, 0, 26, 0x69,
    0x70, 0x70, 0x3a, 0x2f, 0x2f, 0x6c, 0x6f, 0x63, 0x61, 0x6c, 0x68, 0x6f, 0x73, 0x74, 0x3a, 0x36,
    0x33, 0x31, 0x2f, 0x6a, 0x6f, 0x62, 0x73, 0x2f, 0x37, 3]

/-- The job that is made is the first, and the URI of the answer is that of the seventh. -/
theorem handle_mislocates_job :
    Message.decode locatedDocumentOctets = .ok locatedDocument ∧
      (unconnected.handle locatedDocument {}).1.header.status.isSuccess ∧
      (unconnected.handle locatedDocument {}).1.jobId = .ok 1 ∧
      (unconnected.handle locatedDocument {}).1.jobUri =
        .ok ⟨some "ipp", some ⟨"localhost:631"⟩, "/jobs/7", none⟩ := by
  have isLocal : unconnected.target = .directory "/tmp/IPP" := rfl
  have decoded : Message.decode locatedDocumentOctets = .ok locatedDocument :=
    Wire.decode_eq_ok_iff.mpr ⟨by decide, rfl⟩
  have starts : locatedDocument.StartsJob := by decide
  have success : (unconnected.handle locatedDocument {}).1.header.status.isSuccess :=
    ((makesJob_iff_startsJob isLocal locatedDocument {}).mpr starts).2
  have numbered : (unconnected.handle locatedDocument {}).1.jobId = .ok 1 :=
    jobId_handle_of_startsJob isLocal starts (by decide)
  have stated : locatedDocument.jobUri =
      .ok ⟨some "ipp", some ⟨"localhost:631"⟩, "/jobs/7", none⟩ := by
    decide +kernel
  have ahead : locatedDocument.StatesAhead .jobAttributes AttributeName.jobUri := by decide
  refine ⟨decoded, success, numbered, ?_⟩
  rw [jobUri_handle_of_overruled isLocal success numbered (.inl ahead), stated]

end Dispatcher

end PrintProxy
