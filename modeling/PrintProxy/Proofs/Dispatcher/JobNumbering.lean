import PrintProxy.Proofs.Dispatcher.LocalStep
import PrintProxy.Proofs.Dispatcher.Transcript
import PrintProxy.Proofs.Http.LocalExchange

/-!
# Numbers of jobs

A local dispatcher counts the jobs that it makes, and each answer that makes one
reports the job's number in this count.  The exception is a request with a
`job-id` ahead of its operation attributes: there the number is written behind
the one that is read, and the answer repeats what the request says.
-/

namespace PrintProxy

/-- The number that is set is read back exactly if no other one is ahead of it. -/
theorem Message.jobId_setJobId_iff {message : Message} {number : Int32} :
    (message.setJobId number).jobId = .ok number ↔
      (message.NumbersJobAhead → message.jobId = .ok number) := by
  by_cases numbered : message.NumbersJobAhead
  · simp [jobId_setJobId_of_numbersJobAhead numbered, numbered]
  · simp [jobId_setJobId_of_leavesRoom (not_numbersJobAhead_iff.mp numbered), numbered]

namespace Dispatcher

variable {dispatcher : Dispatcher} {directory : String}

theorem lastJobId_stateAfter (isLocal : dispatcher.target = .directory directory)
    (requests : List Message) (state : State) :
    (stateAfter dispatcher.handle requests state).lastJobId =
      state.lastJobId +
        Int32.ofNat ((transcript dispatcher.handle requests state).countP MakesJob) := by
  apply counter_stateAfter State.lastJobId
  intro request state
  have given := givesNumber_handle isLocal request state
  unfold GivesNumber at given
  by_cases makes : MakesJob (request, (dispatcher.handle request state).1)
  · rw [if_pos makes] at given
    simp [makes, given.1]
  · rw [if_neg makes] at given
    simp [makes, given]

theorem isSupported_of_asksForJob {request : Message} (asks : request.AsksForJob) :
    request.IsSupported := by
  rcases asks with same | same | same
  · exact ⟨.printJob, same.symm⟩
  · exact ⟨.createJob, same.symm⟩
  · exact ⟨.sendDocument, same.symm⟩

/-- Which requests make jobs does not depend on the state. -/
theorem makesJob_handle_iff (isLocal : dispatcher.target = .directory directory)
    {request : Message} (sound : request.attributes.Transmissible) (state : State) :
    MakesJob (request, (dispatcher.handle request state).1) ↔
      request.AsksForJob ∧ (request.IsAboutJob → request.NamesJob) := by
  rw [MakesJob, status_handle isLocal sound]
  apply and_congr_right
  intro asks
  rw [localStatus_of_supported (isSupported_of_asksForJob asks)]
  split
  · next unnamed => simp [unnamed, Status.isSuccess, Status.code]
  · next named => simpa [Status.isSuccess, Status.code] using named

theorem jobId_handle (isLocal : dispatcher.target = .directory directory) {request : Message}
    {state : State} (makes : MakesJob (request, (dispatcher.handle request state).1)) :
    (dispatcher.handle request state).1.jobId =
      (request.setJobId (state.lastJobId + 1)).jobId := by
  have given := givesNumber_handle isLocal request state
  rw [GivesNumber, if_pos makes] at given
  exact given.2

/-- What an answer that makes a job reports, whatever its request says. -/
theorem jobId_of_transcript_split (isLocal : dispatcher.target = .directory directory)
    {requests : List Message} {before after : List (Message × Message)} {request response : Message}
    (split : transcript dispatcher.handle requests {} = before ++ (request, response) :: after)
    (makes : MakesJob (request, response)) :
    response.jobId = (request.setJobId (Int32.ofNat (before.countP MakesJob) + 1)).jobId := by
  obtain ⟨earlier, rfl⟩ := transcript_split split
  rw [jobId_handle isLocal makes, lastJobId_stateAfter isLocal, earlier, Int32.zero_add]

theorem jobId_of_not_numbersJobAhead (isLocal : dispatcher.target = .directory directory)
    {requests : List Message} {before after : List (Message × Message)}
    {exchange : Message × Message}
    (split : transcript dispatcher.handle requests {} = before ++ exchange :: after)
    (makes : MakesJob exchange) (plain : ¬exchange.1.NumbersJobAhead) :
    exchange.2.jobId = .ok (Int32.ofNat (before.countP MakesJob) + 1) := by
  rw [jobId_of_transcript_split isLocal split makes]
  exact Message.jobId_setJobId_iff.mpr fun numbered => absurd numbered plain

theorem toInt_jobNumber {requests : List Message} (few : requests.length < 2 ^ 31)
    {before after : List (Message × Message)} {exchange : Message × Message}
    (split : transcript dispatcher.handle requests {} = before ++ exchange :: after) :
    (Int32.ofNat (before.countP MakesJob) + 1).toInt = before.countP MakesJob + 1 := by
  have made : before.countP MakesJob ≤ before.length := List.countP_le_length
  have short := length_lt_of_split split
  exact toInt_ofNat_add_one (by omega)

/-- In every run of a local dispatcher the jobs are counted, each answer that makes a job reports
its number unless the request numbers the job ahead of it, and so no two such jobs share one. -/
theorem transcript_numbers_jobs (isLocal : dispatcher.target = .directory directory)
    (requests : List Message) (few : requests.length < 2 ^ 31) :
    (stateAfter dispatcher.handle requests {}).lastJobId.toInt =
      (transcript dispatcher.handle requests {}).countP MakesJob ∧
    (∀ before request response after,
      transcript dispatcher.handle requests {} = before ++ (request, response) :: after →
      MakesJob (request, response) →
      ∃ number : Int32, number.toInt = before.countP MakesJob + 1 ∧
        (response.jobId = .ok number ↔
          (request.NumbersJobAhead → request.jobId = .ok number))) ∧
    ∀ before first between second after,
      transcript dispatcher.handle requests {} =
        before ++ first :: (between ++ second :: after) →
      MakesJob first → MakesJob second →
      ¬first.1.NumbersJobAhead → ¬second.1.NumbersJobAhead →
      first.2.jobId ≠ second.2.jobId := by
  refine ⟨?counted, ?numbered, ?distinct⟩
  case counted =>
    have made := (transcript dispatcher.handle requests {}).countP_le_length (p := MakesJob)
    rw [length_transcript] at made
    rw [lastJobId_stateAfter isLocal, Int32.zero_add, Int32.toInt_ofNat_of_lt (by omega)]
  case numbered =>
    intro before request response after split makes
    refine ⟨_, toInt_jobNumber few split, ?_⟩
    rw [jobId_of_transcript_split isLocal split makes]
    exact Message.jobId_setJobId_iff
  case distinct =>
    intro before first between second after split firstMakes secondMakes firstPlain secondPlain
    have later : transcript dispatcher.handle requests {} =
        (before ++ first :: between) ++ second :: after := by
      rw [split, List.append_assoc, List.cons_append]
    rw [jobId_of_not_numbersJobAhead isLocal split firstMakes firstPlain,
      jobId_of_not_numbersJobAhead isLocal later secondMakes secondPlain]
    intro same
    have numbers := congrArg Int32.toInt (Except.ok.inj same)
    rw [toInt_jobNumber few split, toInt_jobNumber few later, List.countP_append,
      List.countP_cons, if_pos (decide_eq_true firstMakes)] at numbers
    omega

/-- A request to print. -/
def printing : Message := ⟨⟨.v2_0, 0x0002, 5⟩, ⟨[]⟩, []⟩

theorem transcript_numbers_jobs_printing :
    (stateAfter unconnected.handle [printing, printing] {}).lastJobId.toInt = 2 ∧
      (unconnected.handle printing (unconnected.handle printing {}).2).1.jobId = .ok 2 := by
  have isLocal : unconnected.target = .directory "/tmp/IPP" := rfl
  have sound : printing.attributes.Transmissible := fun _ member => by cases member
  have makes (state : State) : MakesJob (printing, (unconnected.handle printing state).1) :=
    (makesJob_handle_iff isLocal sound state).mpr (by decide)
  obtain ⟨counted, numbered, _⟩ :=
    transcript_numbers_jobs isLocal [printing, printing] (by decide)
  obtain ⟨number, isSecond, reported⟩ := numbered [_] printing _ [] rfl (makes _)
  have isTwo : number = 2 := by
    apply Int32.toInt_inj.mp
    rw [isSecond, List.countP_singleton, if_pos (decide_eq_true (makes {}))]
    rfl
  rw [isTwo] at reported
  constructor
  · rw [counted]
    simp [transcript, makes]
  · exact reported.mpr fun numbered => absurd numbered (by decide)

/-- A request to print that numbers its job in front. -/
def overruling : Message :=
  ⟨⟨.v2_0, 0x0002, 5⟩,
    ⟨[⟨.jobAttributes, [.ofValue AttributeName.jobId (.integer 99)]⟩, ⟨.operationAttributes, []⟩]⟩,
    []⟩

def overrulingOctets : Bytes :=
  [2, 0, 0, 2, 0, 0, 0, 5, 2, 0x21, 0, 6, 0x6a, 0x6f, 0x62, 0x2d, 0x69, 0x64, 0, 4, 0, 0, 0, 99, 1,
    3]

/-- Two jobs are made, and both are reported under the number that the requests say. -/
theorem transcript_repeats_number :
    Message.decode overrulingOctets = .ok overruling ∧
      (transcript unconnected.handle [overruling, overruling] {}).countP MakesJob = 2 ∧
      ∀ exchange ∈ transcript unconnected.handle [overruling, overruling] {},
        exchange.2.jobId = .ok 99 := by
  have isLocal : unconnected.target = .directory "/tmp/IPP" := rfl
  have decoded : Message.decode overrulingOctets = .ok overruling :=
    Wire.decode_eq_ok_iff.mpr ⟨by decide, rfl⟩
  have makes (state : State) : MakesJob (overruling, (unconnected.handle overruling state).1) :=
    (makesJob_handle_iff isLocal (Wire.transmissible_of_decode decoded) state).mpr (by decide)
  have named : overruling.attribute? AttributeName.jobId =
      some (.ofValue AttributeName.jobId (.integer 99)) := by decide
  have reported (state : State) : (unconnected.handle overruling state).1.jobId = .ok 99 := by
    rw [jobId_handle isLocal (makes state), Message.jobId_setJobId_of_numbersJobAhead (by decide),
      Message.jobId_of_attribute? named, Attribute.int_ofValue_integer]
  refine ⟨decoded, ?_, ?_⟩
  · simp [transcript, makes]
  · simp [transcript, reported]

end Dispatcher

end PrintProxy
