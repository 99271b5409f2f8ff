import PrintProxy.Dispatcher.Submit
import PrintProxy.Proofs.Dispatcher.Relay

/-!
# Verdicts about a server's answers

What a server answers counts as a success if its code is that of an outcome
known to be one; there are three of them.  The range of the successful codes goes
further, up to 0x00ff.  A verdict by this range, which `Message.judged` gives, is
the verdict of the dispatcher for every code but the unnamed ones of the range,
whose answers are refused as of an unknown status.
-/

namespace PrintProxy

namespace Status

variable {code : UInt16}

/-- The codes that report success but have no name. -/
def IsUnnamedSuccess (code : UInt16) : Prop := 0x0002 < code ∧ code ≤ 0x00ff

instance : Decidable (IsUnnamedSuccess code) := inferInstanceAs (Decidable (_ ∧ _))

theorem code_le_iff (status : Status) : status.code ≤ 0x00ff ↔ status.code ≤ 0x0002 := by
  cases status <;> decide

theorem exists_ofCode?_of_le (small : code ≤ 0x0002) : ∃ status, ofCode? code = some status := by
  have smallNumber : code.toNat ≤ 2 := small
  have isOneOf : code = 0 ∨ code = 1 ∨ code = 2 := by
    simp only [← UInt16.toNat_inj]
    simp
    omega
  rcases isOneOf with rfl | rfl | rfl
  · exact ⟨_, ofCode?_code .successfulOk⟩
  · exact ⟨_, ofCode?_code .successfulOkIgnoredOrSubstitutedAttributes⟩
  · exact ⟨_, ofCode?_code .successfulOkConflictingAttributes⟩

/-- Exactly three codes are taken for a success. -/
theorem isSuccess_ofCode_iff : (ofCode code).isSuccess = true ↔ code ≤ 0x0002 := by
  rw [isSuccess, decide_eq_true_iff]
  cases known : ofCode? code with
  | some status =>
      rw [ofCode, known, ← ofCode?_eq_some_iff.mp known]
      exact code_le_iff status
  | none =>
      have large : ¬code ≤ 0x0002 := by
        intro small
        obtain ⟨status, found⟩ := exists_ofCode?_of_le small
        cases known.symm.trans found
      rw [ofCode, known]
      exact iff_of_false (by decide) large

theorem ofCode_of_isUnnamedSuccess (unnamed : IsUnnamedSuccess code) : ofCode code = unknown := by
  obtain ⟨unlisted, inRange⟩ := unnamed
  cases known : ofCode? code with
  | some status =>
      obtain rfl := ofCode?_eq_some_iff.mp known
      exact absurd (status.code_le_iff.mp inRange) (UInt16.not_le.mpr unlisted)
  | none => rw [ofCode, known, Option.getD_none]

end Status

namespace Message

variable {response : Message}

/-- A response, demanded to have a code in the range of the successful ones. -/
def judged (response : Message) : Except Fault Message :=
  if response.header.code ≤ 0x00ff then .ok response else .error (.status response.header.status)

theorem checked_of_unnamed (unnamed : Status.IsUnnamedSuccess response.header.code) :
    response.checked = .error (.status .unknown) := by
  have isUnknown : response.header.status = .unknown := Status.ofCode_of_isUnnamedSuccess unnamed
  rw [checked, isUnknown]
  rfl

theorem checked_of_named (named : ¬Status.IsUnnamedSuccess response.header.code) :
    response.checked = response.judged := by
  have sameRange : response.header.status.isSuccess = true ↔ response.header.code ≤ 0x00ff := by
    rw [Header.status, Status.isSuccess_ofCode_iff]
    constructor
    · intro listed
      exact UInt16.le_trans listed (by decide)
    · intro inRange
      by_contra unlisted
      exact named ⟨UInt16.not_le.mp unlisted, inRange⟩
  rw [checked, judged]
  simp only [sameRange]

theorem judged_of_unnamed (unnamed : Status.IsUnnamedSuccess response.header.code) :
    response.judged = .ok response :=
  if_pos unnamed.2

/-- No failure to find a job id is the status of a response. -/
theorem jobId_ne_status (response : Message) (status : Status) :
    response.jobId ≠ .error (.status status) := by
  unfold jobId getAttribute
  cases response.attribute? AttributeName.jobId with
  | none => exact nofun
  | some attr =>
      change attr.int ≠ _
      unfold Attribute.int
      split <;> exact nofun

end Message

namespace Dispatcher

variable {dispatcher : Dispatcher} {server : Uri} {user : String} {ticket : Ticket}
  {state : State} {answer : Message}

/-- A server answers what is delivered for a ticket. -/
def Answered (dispatcher : Dispatcher) (server : Uri) (user : String) (ticket : Ticket)
    (state : State) (answer : Message) : Prop :=
  dispatcher.transport state.deliveries
    (deliveryOf server (ticket.operation user).request state.nextRequestId) = .ok answer

theorem fst_submit_of_answered (isServer : dispatcher.target = .server server)
    (answered : dispatcher.Answered server user ticket state answer) :
    (dispatcher.submit user ticket state).1 = answer.checked := by
  have sent : (dispatcher.send (ticket.operation user) state).1 = answer := by
    rw [send_of_server isServer, forward, transport_stamp, answered]
  exact congrArg Message.checked sent

/-- What a server answers to a ticket is judged by the range of its code, unless the code has no
name: such an answer is refused although it reports success.  The job id of an answer is told, or
not, accordingly. -/
theorem submit_judges_by_range_iff (isServer : dispatcher.target = .server server) (user : String)
    (state : State) :
    (∀ ticket answer, dispatcher.Answered server user ticket state answer →
      ((dispatcher.submit user ticket state).1 = answer.judged ↔
        ¬Status.IsUnnamedSuccess answer.header.code) ∧
      (Status.IsUnnamedSuccess answer.header.code →
        (dispatcher.submit user ticket state).1 = .error (.status .unknown))) ∧
    ∀ printer answer, dispatcher.Answered server user (.createJob printer []) state answer →
      ((dispatcher.createJob user printer state).1 = answer.judged >>= Message.jobId ↔
        ¬Status.IsUnnamedSuccess answer.header.code) ∧
      (Status.IsUnnamedSuccess answer.header.code →
        (dispatcher.createJob user printer state).1 = .error (.status .unknown)) := by
  constructor
  · intro ticket answer answered
    rw [fst_submit_of_answered isServer answered]
    refine ⟨⟨?_, Message.checked_of_named⟩, Message.checked_of_unnamed⟩
    intro same unnamed
    rw [Message.checked_of_unnamed unnamed, Message.judged_of_unnamed unnamed] at same
    cases same
  · intro printer answer answered
    have created : (dispatcher.createJob user printer state).1 = answer.checked >>= Message.jobId :=
      congrArg (· >>= Message.jobId) (fst_submit_of_answered isServer answered)
    rw [created]
    refine ⟨⟨?_, fun named => by rw [Message.checked_of_named named]⟩, ?_⟩
    · intro same unnamed
      rw [Message.checked_of_unnamed unnamed, Message.judged_of_unnamed unnamed] at same
      exact answer.jobId_ne_status .unknown same.symm
    · intro unnamed
      rw [Message.checked_of_unnamed unnamed]
      rfl

/-- A dispatcher whose server always gives the same answer, with a code and nothing else. -/
def answering (code : UInt16) : Dispatcher :=
  { acknowledged with transport := fun _ _ => .ok ⟨⟨.v2_0, code, 1⟩, .empty, []⟩ }

/-- A server that substituted attributes has succeeded. -/
theorem submit_judges_by_range_substituted :
    ((answering 0x0001).submit "anna" (.getJobs printHost []) {}).1 =
      .ok ⟨⟨.v2_0, 0x0001, 1⟩, .empty, []⟩ := by
  have isServer : (answering 0x0001).target = .server printHost := rfl
  obtain ⟨judges, _⟩ := submit_judges_by_range_iff isServer "anna" {}
  exact (judges (.getJobs printHost []) _ rfl).1.mpr (by decide)

/-- Of the first code without a name, the jobs are not told, nor the id of a job. -/
theorem submit_refuses_unnamed_success :
    ((answering 0x0003).submit "anna" (.getJobs printHost []) {}).1 = .error (.status .unknown) ∧
      ((answering 0x0003).createJob "anna" printHost {}).1 = .error (.status .unknown) ∧
      (⟨⟨.v2_0, 0x0003, 1⟩, .empty, []⟩ : Message).judged =
        .ok ⟨⟨.v2_0, 0x0003, 1⟩, .empty, []⟩ :=
  ⟨rfl, rfl, rfl⟩

end Dispatcher

end PrintProxy
