/-!
# Job states

The state of a print job and the keywords that give the reason for it.
-/

namespace PrintProxy

/-- A value of the `job-state` attribute. -/
inductive JobState where
  | pending
  | pendingHeld
  | processing
  | processingStopped
  | canceled
  | aborted
  | completed
deriving DecidableEq, Repr

namespace JobState

def number : JobState → Int32
  | pending => 3
  | pendingHeld => 4
  | processing => 5
  | processingStopped => 6
  | canceled => 7
  | aborted => 8
  | completed => 9

def all : List JobState :=
  [pending, pendingHeld, processing, processingStopped, canceled, aborted, completed]

/-- The name of a state in the protocol. -/
def keyword : JobState → String
  | pending => "pending"
  | pendingHeld => "pending-held"
  | processing => "processing"
  | processingStopped => "processing-stopped"
  | canceled => "canceled"
  | aborted => "aborted"
  | completed => "completed"

def ofNumber? (number : Int32) : Option JobState := all.find? (·.number == number)

@[simp] theorem ofNumber?_number (state : JobState) : ofNumber? state.number = some state := by
  cases state <;> decide

end JobState

/-- A value of the `job-state-reasons` attribute. -/
inductive JobStateReason where
  | none
  | jobIncoming
  | jobDataInsufficient
  | jobCanceledByUser
  | jobCompletedSuccessfully
deriving DecidableEq, Repr

namespace JobStateReason

/-- The keyword of a reason on the wire. -/
def keyword : JobStateReason → String
  | none => "none"
  | jobIncoming => "job-incoming"
  | jobDataInsufficient => "job-data-insufficient"
  | jobCanceledByUser => "job-canceled-by-user"
  | jobCompletedSuccessfully => "job-completed-successfully"

def all : List JobStateReason :=
  [none, jobIncoming, jobDataInsufficient, jobCanceledByUser, jobCompletedSuccessfully]

/-- The reason with a keyword; a keyword that is not known gives no reason. -/
def ofKeyword (keyword : String) : JobStateReason :=
  (all.find? (·.keyword == keyword)).getD none

@[simp] theorem ofKeyword_keyword (reason : JobStateReason) :
    ofKeyword reason.keyword = reason := by
  cases reason <;> decide

end JobStateReason

end PrintProxy
