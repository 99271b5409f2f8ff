import Mathlib.Data.List.Nodup
import PrintProxy.Dispatcher.Storage
import PrintProxy.Proofs.Dispatcher.LocalStep
import PrintProxy.Proofs.Dispatcher.Transcript
import PrintProxy.Proofs.FileTree
import PrintProxy.Proofs.Http.LocalExchange

/-!
# What a dispatcher records

A local dispatcher that records keeps the request of every operation as it goes
out, and the response to it, both under the id that the request is given.  The
ids differ as long as they do not wrap around, so no record takes the place of
another one: what is kept stands in the order in which it came.
-/

namespace PrintProxy

/-- The name of a file with a message of a kind, a number and a code. -/
def fileName (kind : String) (number : Nat) (code : UInt16) : String :=
  s!"{kind}-{Numeral.decimal number}-{Numeral.hex 4 code.toNat}.ipp"

namespace Message

variable {kind : String} {record : Record}

/-- A file with a message's octets, or none if the message cannot be encoded. -/
def fileAt (message : Message) (name : String) : List Record :=
  match message.encode with
  | .ok content => [⟨name, content⟩]
  | .error _ => []

theorem name_of_mem_fileAt {message : Message} {name : String}
    (member : record ∈ message.fileAt name) : record.name = name := by
  unfold fileAt at member
  split at member
  · rw [List.mem_singleton.mp member]
  · cases member

theorem nodup_names_fileAt (message : Message) (name : String) :
    ((message.fileAt name).map Record.name).Nodup := by
  unfold fileAt
  split
  · exact List.nodup_singleton name
  · exact List.nodup_nil

theorem length_fileAt {message : Message} (encodes : ∃ octets, message.encode = .ok octets)
    (name : String) : (message.fileAt name).length = 1 := by
  obtain ⟨octets, encoded⟩ := encodes
  rw [fileAt, encoded]
  rfl

/-- A message whose number did not wrap around shows it in its record's name. -/
theorem recordName_eq {message : Message} {number : Nat}
    (numbered : message.header.requestId = Int32.ofNat number) (small : number < 2 ^ 31) :
    message.recordName kind = fileName kind number message.header.code := by
  simp only [recordName, fileName, numbered, Int32.toInt_ofNat_of_lt small, Numeral.signed_natCast]

end Message

namespace Dispatcher

/-- The records of an operation that is sent under a number, and of the response to it. -/
def recordsOf : (Operation × Message) × Nat → List Record
  | ((operation, response), number) =>
      let request := operation.request.setRequestId (Int32.ofNat number)
      request.fileAt (request.recordName "request") ++
        response.fileAt (response.recordName "response")

/-- The files that are to be found of an operation and its response. -/
def filesOf : (Operation × Message) × Nat → List Record
  | ((operation, response), number) =>
      let request := operation.request.setRequestId (Int32.ofNat number)
      request.fileAt (fileName "request" number request.header.code) ++
        response.fileAt (fileName "response" number response.header.code)

variable {entry other : (Operation × Message) × Nat} {record : Record}

theorem recordsOf_eq_filesOf (numbered : entry.1.2.header.requestId = Int32.ofNat entry.2)
    (small : entry.2 < 2 ^ 31) : recordsOf entry = filesOf entry := by
  obtain ⟨⟨operation, response⟩, number⟩ := entry
  have stamped : (operation.request.setRequestId (Int32.ofNat number)).header.requestId =
      Int32.ofNat number := rfl
  simp only [recordsOf, filesOf, Message.recordName_eq stamped small,
    Message.recordName_eq numbered small]

theorem exists_recordName_of_mem_recordsOf
    (numbered : entry.1.2.header.requestId = Int32.ofNat entry.2)
    (member : record ∈ recordsOf entry) :
    ∃ message : Message, ∃ kind ∈ recordKinds, record.name = message.recordName kind ∧
      message.header.requestId = Int32.ofNat entry.2 := by
  rcases List.mem_append.mp member with ofRequest | ofResponse
  · exact ⟨_, "request", by decide, Message.name_of_mem_fileAt ofRequest, rfl⟩
  · exact ⟨_, "response", by decide, Message.name_of_mem_fileAt ofResponse, numbered⟩

theorem nodup_names_recordsOf (entry : (Operation × Message) × Nat) :
    ((recordsOf entry).map Record.name).Nodup := by
  rw [recordsOf, List.map_append, List.nodup_append]
  refine ⟨Message.nodup_names_fileAt _ _, Message.nodup_names_fileAt _ _, ?_⟩
  intro name ofRequest otherName ofResponse same
  obtain ⟨record, isRecord, rfl⟩ := List.mem_map.mp ofRequest
  obtain ⟨other, isOther, rfl⟩ := List.mem_map.mp ofResponse
  rw [Message.name_of_mem_fileAt isRecord, Message.name_of_mem_fileAt isOther] at same
  have sameKind := (Message.recordName_inj (by decide) (by decide) same).1
  revert sameKind
  decide

theorem disjoint_names_recordsOf (numbered : entry.1.2.header.requestId = Int32.ofNat entry.2)
    (otherNumbered : other.1.2.header.requestId = Int32.ofNat other.2) (earlier : entry.2 < other.2)
    (small : other.2 < 2 ^ 31) :
    ((recordsOf entry).map Record.name).Disjoint ((recordsOf other).map Record.name) := by
  intro name ofEntry ofOther
  obtain ⟨record, isRecord, rfl⟩ := List.mem_map.mp ofEntry
  obtain ⟨otherRecord, isOther, same⟩ := List.mem_map.mp ofOther
  obtain ⟨message, kind, isKind, named, id⟩ :=
    exists_recordName_of_mem_recordsOf numbered isRecord
  obtain ⟨otherMessage, otherKind, isOtherKind, otherNamed, otherId⟩ :=
    exists_recordName_of_mem_recordsOf otherNumbered isOther
  rw [named, otherNamed] at same
  have sameId := (Message.recordName_inj (plain_of_mem_recordKinds isOtherKind).1
    (plain_of_mem_recordKinds isKind).1 same).2.1
  have numbers := congrArg Int32.toInt sameId
  rw [id, otherId, Int32.toInt_ofNat_of_lt small, Int32.toInt_ofNat_of_lt (by omega)] at numbers
  omega

variable {dispatcher : Dispatcher} {directory : String}

theorem records_keep (isLocal : dispatcher.target = .directory directory)
    (recording : dispatcher.recording) (kind : String) (message : Message) (state : State) :
    (dispatcher.keep kind message state).records =
      (message.fileAt (message.recordName kind)).foldl keepRecord state.records := by
  have keeps : (dispatcher.recording && dispatcher.target.isLocal) = true := by
    rw [recording, isLocal]
    rfl
  rw [keep, if_pos keeps, Message.record, Message.fileAt]
  cases message.encode <;> rfl

theorem records_emulate (operation : Operation) (state : State) :
    (dispatcher.emulate operation state).2.records = state.records := by
  unfold emulate
  dsimp only
  split <;> rfl

theorem records_send (isLocal : dispatcher.target = .directory directory)
    (recording : dispatcher.recording) (operation : Operation) {state : State} {number : Nat}
    (next : state.nextRequestId = Int32.ofNat number) :
    (dispatcher.send operation state).2.records =
      (recordsOf ((operation, (dispatcher.send operation state).1), number)).foldl keepRecord
        state.records := by
  rw [recordsOf, List.foldl_append, ← next, send_eq isLocal]
  dsimp only
  rw [records_keep isLocal recording, records_emulate, recorded, records_keep isLocal recording]
  rfl

theorem requestId_answer (operation : Operation) :
    (answer operation).header.requestId = operation.request.header.requestId := by
  unfold answer
  split
  · rw [Operation.header_response]
  · rfl

theorem requestId_send (isLocal : dispatcher.target = .directory directory)
    (operation : Operation) (state : State) :
    (dispatcher.send operation state).1.header.requestId = state.nextRequestId := by
  rw [send_eq isLocal]
  refine (requestId_answer _).trans ?_
  rw [header_settle]
  rfl

theorem nextRequestId_send_of_eq (isLocal : dispatcher.target = .directory directory)
    (operation : Operation) {state : State} {number : Nat}
    (next : state.nextRequestId = Int32.ofNat number) :
    (dispatcher.send operation state).2.nextRequestId = Int32.ofNat (number + 1) := by
  rw [nextRequestId_send isLocal, next, Int32.ofNat_add]
  rfl

theorem nextRequestId_fresh : ({} : State).nextRequestId = Int32.ofNat 1 := rfl

section

variable (isLocal : dispatcher.target = .directory directory) (recording : dispatcher.recording)
  {operations : List Operation} {state : State} {number : Nat}
  (next : state.nextRequestId = Int32.ofNat number)

include isLocal next

theorem nextRequestId_stateAfter :
    (stateAfter dispatcher.send operations state).nextRequestId =
      Int32.ofNat (number + operations.length) := by
  induction operations generalizing state number with
  | nil => exact next
  | cons operation operations ih =>
      have rest := ih (nextRequestId_send_of_eq isLocal operation next)
      rw [Nat.add_right_comm] at rest
      exact rest

/-- The response has the number that its request was sent under. -/
theorem requestId_of_mem_zipIdx
    (member : entry ∈ (transcript dispatcher.send operations state).zipIdx number) :
    entry.1.2.header.requestId = Int32.ofNat entry.2 := by
  induction operations generalizing state number with
  | nil => cases member
  | cons operation operations ih =>
      rw [transcript, List.zipIdx_cons] at member
      rcases List.mem_cons.mp member with rfl | later
      · exact (requestId_send isLocal operation state).trans next
      · exact ih (nextRequestId_send_of_eq isLocal operation next) later

include recording

theorem records_stateAfter :
    (stateAfter dispatcher.send operations state).records =
      (((transcript dispatcher.send operations state).zipIdx number).flatMap recordsOf).foldl
        keepRecord state.records := by
  induction operations generalizing state number with
  | nil => rfl
  | cons operation operations ih =>
      rw [transcript, List.zipIdx_cons, List.flatMap_cons, List.foldl_append,
        ← records_send isLocal recording operation next]
      exact ih (nextRequestId_send_of_eq isLocal operation next)

end

/-- The operations of a run from the beginning with the responses to them, numbered from one. -/
def exchanges (dispatcher : Dispatcher) (operations : List Operation) :
    List ((Operation × Message) × Nat) :=
  (transcript dispatcher.send operations {}).zipIdx 1

section

variable {operations : List Operation} (isLocal : dispatcher.target = .directory directory)
  (recording : dispatcher.recording) (few : operations.length < 2 ^ 31)

include few in
theorem small_of_mem_exchanges (member : entry ∈ dispatcher.exchanges operations) :
    entry.2 < 2 ^ 31 := by
  have bounds := List.mem_zipIdx member
  rw [length_transcript] at bounds
  omega

include isLocal

theorem requestId_of_mem_exchanges (member : entry ∈ dispatcher.exchanges operations) :
    entry.1.2.header.requestId = Int32.ofNat entry.2 :=
  requestId_of_mem_zipIdx isLocal nextRequestId_fresh member

include few

theorem nodup_names_exchanges :
    (((dispatcher.exchanges operations).flatMap recordsOf).map Record.name).Nodup := by
  have inOrder : (dispatcher.exchanges operations).Pairwise fun entry other =>
      entry.2 < other.2 := by
    rw [exchanges, ← List.pairwise_map, List.zipIdx_map_snd]
    exact List.pairwise_lt_range' 1
  rw [List.map_flatMap, List.nodup_flatMap]
  refine ⟨fun entry _ => nodup_names_recordsOf entry, inOrder.imp_of_mem ?_⟩
  intro entry other member otherMember earlier
  exact disjoint_names_recordsOf (requestId_of_mem_exchanges isLocal member)
    (requestId_of_mem_exchanges isLocal otherMember) earlier
    (small_of_mem_exchanges few otherMember)

theorem flatMap_recordsOf_eq :
    (dispatcher.exchanges operations).flatMap recordsOf =
      (dispatcher.exchanges operations).flatMap filesOf := by
  apply List.flatMap_congr
  intro entry member
  exact recordsOf_eq_filesOf (requestId_of_mem_exchanges isLocal member)
    (small_of_mem_exchanges few member)

include recording

/-- No record of a run has taken the place of another. -/
theorem records_stateAfter_eq :
    (stateAfter dispatcher.send operations {}).records =
      (dispatcher.exchanges operations).flatMap recordsOf := by
  rw [records_stateAfter isLocal recording nextRequestId_fresh]
  exact foldl_keepRecord_of_nodup (nodup_names_exchanges isLocal few)

end

theorem isFileName_of_mem_exchanges (isLocal : dispatcher.target = .directory directory)
    {operations : List Operation}
    (member : record ∈ (dispatcher.exchanges operations).flatMap recordsOf) :
    IsFileName record.name := by
  obtain ⟨entry, isExchange, isRecord⟩ := List.mem_flatMap.mp member
  obtain ⟨message, kind, isKind, named, _⟩ :=
    exists_recordName_of_mem_recordsOf (requestId_of_mem_exchanges isLocal isExchange) isRecord
  rw [named]
  exact message.isFileName_recordName isKind

/-- The ids do not come back to the first one. -/
theorem eq_nil_of_nextRequestId (isLocal : dispatcher.target = .directory directory)
    {operations : List Operation} (few : operations.length < 2 ^ 31)
    (isFirst : (stateAfter dispatcher.send operations {}).nextRequestId = 1) :
    operations = [] := by
  have advanced : 1 + Int32.ofNat operations.length = 1 := by
    rw [nextRequestId_stateAfter isLocal nextRequestId_fresh, Int32.ofNat_add] at isFirst
    exact isFirst
  have count := congrArg Int32.toInt (Int32.add_eq_left.mp advanced)
  rw [Int32.toInt_ofNat_of_lt few] at count
  exact List.length_eq_zero_iff.mp (Int.ofNat.inj count)

/-- What is listed in the directory is what the state says. -/
theorem list_store (isLocal : dispatcher.target = .directory directory)
    (recording : dispatcher.recording) {operations : List Operation}
    (few : operations.length < 2 ^ 31) {tree : FileTree} {location : Location}
    (opens : tree.OpensAt directory location) :
    (dispatcher.store (stateAfter dispatcher.send operations {}) tree).list location =
      (stateAfter dispatcher.send operations {}).records := by
  have kept := records_stateAfter_eq isLocal recording few
  unfold store
  rw [isLocal, recording, Bool.true_and]
  dsimp only
  split
  · rw [FileTree.list_keep opens, kept]
    · exact foldl_keepRecord_of_nodup (nodup_names_exchanges isLocal few)
    · rw [kept]
      exact fun record member => isFileName_of_mem_exchanges isLocal member
  · next unsent =>
      rw [eq_nil_of_nextRequestId isLocal few (by simpa using unsent)]
      exact FileTree.list_eq_nil_of_makeDirectory opens.empty

/-- The messages of an exchange can be encoded. -/
def Encodes (entry : (Operation × Message) × Nat) : Prop :=
  (∃ octets, (entry.1.1.request.setRequestId (Int32.ofNat entry.2)).encode = .ok octets) ∧
    ∃ octets, entry.1.2.encode = .ok octets

theorem length_filesOf (encodes : Encodes entry) : (filesOf entry).length = 2 := by
  rw [filesOf, List.length_append, Message.length_fileAt encodes.1, Message.length_fileAt encodes.2]

/-- A run of a recording local dispatcher leaves the files of its exchanges and nothing else, none of
them in the place of another: two of an exchange whose messages can be encoded, and what was there
earlier stays.  A directory that was empty lists them. -/
theorem stateAfter_leaves_files (isLocal : dispatcher.target = .directory directory)
    (recording : dispatcher.recording) (operations : List Operation)
    (few : operations.length < 2 ^ 31) :
    (stateAfter dispatcher.send operations {}).records =
        (dispatcher.exchanges operations).flatMap filesOf ∧
      ((stateAfter dispatcher.send operations {}).records.map Record.name).Nodup ∧
      ((∀ entry ∈ dispatcher.exchanges operations, Encodes entry) →
        (stateAfter dispatcher.send operations {}).records.length = 2 * operations.length) ∧
      (∀ earlier, earlier <+: operations →
        (stateAfter dispatcher.send earlier {}).records <+:
          (stateAfter dispatcher.send operations {}).records) ∧
      ∀ tree location, FileTree.OpensAt tree directory location →
        (dispatcher.store (stateAfter dispatcher.send operations {}) tree).list location =
          (stateAfter dispatcher.send operations {}).records := by
  have kept := records_stateAfter_eq isLocal recording few
  have spelled := kept.trans (flatMap_recordsOf_eq isLocal few)
  refine ⟨spelled, ?apart, ?both, ?earlier, fun tree location => list_store isLocal recording few⟩
  case apart =>
    rw [kept]
    exact nodup_names_exchanges isLocal few
  case both =>
    intro encodes
    have two : (dispatcher.exchanges operations).map (fun entry => (filesOf entry).length) =
        List.replicate (dispatcher.exchanges operations).length 2 :=
      List.map_eq_replicate_iff.mpr fun entry member => length_filesOf (encodes entry member)
    rw [spelled, List.length_flatMap, two, List.sum_replicate_nat, exchanges, List.length_zipIdx,
      length_transcript, Nat.mul_comm]
  case earlier =>
    rintro earlier ⟨later, rfl⟩
    have fewer : earlier.length < 2 ^ 31 := by
      rw [List.length_append] at few
      omega
    rw [kept, records_stateAfter_eq isLocal recording fewer, exchanges, exchanges,
      transcript_append, List.zipIdx_append, List.flatMap_append]
    exact List.prefix_append _ _

/-- A dispatcher that records what it answers. -/
def recorder : Dispatcher := { unconnected with recording := true }

/-- A tree in which the directory of records is still to be made. -/
def emptyTree : FileTree := ⟨[["tmp"]], []⟩

theorem stateAfter_leaves_files_recorder :
    (recorder.store
        (stateAfter recorder.send (List.replicate 2 (.carrying .cancelJob cancellation)) {})
        emptyTree).list ["tmp", "IPP"] =
      [⟨"request-1-0008.ipp", [2, 0, 0, 8, 0, 0, 0, 1, 3]⟩,
        ⟨"response-1-0000.ipp", [2, 0, 0, 0, 0, 0, 0, 1, 3]⟩,
        ⟨"request-2-0008.ipp", [2, 0, 0, 8, 0, 0, 0, 2, 3]⟩,
        ⟨"response-2-0000.ipp", [2, 0, 0, 0, 0, 0, 0, 2, 3]⟩] := by
  have isLocal : recorder.target = .directory "/tmp/IPP" := rfl
  have opens : emptyTree.OpensAt "/tmp/IPP" ["tmp", "IPP"] :=
    ⟨by decide +kernel, by decide +kernel, by decide +kernel, by decide⟩
  obtain ⟨spelled, _, _, _, listed⟩ := stateAfter_leaves_files isLocal rfl
    (List.replicate 2 (.carrying .cancelJob cancellation)) (by decide)
  rw [listed emptyTree _ opens, spelled]
  decide +kernel

end Dispatcher

end PrintProxy
