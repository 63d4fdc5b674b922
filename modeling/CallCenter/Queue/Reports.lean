import CallCenter.Queue.Team

/-!
# The reports about an attempt

While a goroutine works on its attempt, agents report about it: `AttemptResult` and the shutdown
call `ReportingAttempt`, in goroutines of their own. A draft is kept by the attempt and marks the
channel of the agent. A final report drops the draft, sets the callback, stores the result, marks
the channel and passes the attempt to `LeavingMember`; when it cannot store the result it ends
there, and the mark of a draft that it has dropped stays.

`Reporting` of the goroutine looks at the same things: at the callback, at the mark (which for a
call comes with its hangup) and at the draft.
-/

namespace CallCenter.Queue

open Lib

/-- Where a call of `ReportingAttempt` is. -/
inductive ReportPc where
  | getAttempt (draft : Bool)
  | useDraft | markDraft
  | dropDraftResult | setCallback | setChannelReporting | callbackReporting | closeBeforeReporting
  | doLeavingReporting
  | finished
  deriving DecidableEq

/-- A final report that has found the attempt and has not ended. -/
def ReportPc.atWork : ReportPc → Bool
  | .getAttempt _ | .useDraft | .markDraft | .finished => false
  | _ => true

/-- What a step of a report meets with: whether its call succeeds, and whether the channel is there
to be marked. -/
structure ReportReply where
  ok : Bool
  marks : Bool

structure Reports where
  draft : Bool
  callback : Bool
  /-- `ReportingAt` of the agent's channel is set, or will be when the call hangs up. -/
  marked : Bool
  /-- The attempt is in `membersCache`: nobody has passed it to `LeavingMember`. -/
  tracked : Bool
  calls : List ReportPc

namespace Reports

def goto (s : Reports) (i : Nat) (pc : ReportPc) : Reports := { s with calls := s.calls.set i pc }

def mark (s : Reports) (r : ReportReply) : Reports := { s with marked := s.marked || r.marks }

/-- `ReportingAttempt(id, result, false, draft)`, step by step. -/
def advance (waitChannelClose : Bool) (s : Reports) (i : Nat) (r : ReportReply) :
    ReportPc → Option Reports
  | .getAttempt draft =>
    if s.tracked then some (s.goto i (if draft then .useDraft else .dropDraftResult))
    -- Without the attempt nothing is left to do but to store the result and to mark the channel,
    -- and a draft is no exception.
    else some ((s.mark r).goto i .finished)
  | .useDraft => some ({ s with draft := true }.goto i .markDraft)
  | .markDraft => some ((s.mark r).goto i .finished)
  | .dropDraftResult => some ({ s with draft := false }.goto i .setCallback)
  | .setCallback => some ({ s with callback := true }.goto i
      (if waitChannelClose then .setChannelReporting else .callbackReporting))
  -- An error of the channel ends the report unless the attempt is in processing.
  | .setChannelReporting => some ((s.mark r).goto i
      (if r.ok then .callbackReporting else .finished))
  | .callbackReporting => some (s.goto i (if r.ok then .closeBeforeReporting else .finished))
  | .closeBeforeReporting => some ((s.mark r).goto i .doLeavingReporting)
  | .doLeavingReporting => some ({ s with tracked := false }.goto i .finished)
  | .finished => none

/-- The goroutine reads what is there. -/
def agrees (s : Reports) : Exchange Action.Reply → Bool
  | ⟨.read (.attempt .draft), draft⟩ => draft = s.draft
  | ⟨.read (.attempt .callback), callback⟩ => callback = s.callback
  | ⟨.read (.call .agent .reportingAt), reported⟩ => !reported || s.marked
  | ⟨.read (.conv .reportingAt), reported⟩ => !reported || s.marked
  | ⟨.read (.task .reportingAt), reported⟩ => !reported || s.marked
  | ⟨.getAttempt, cached⟩ => cached = s.tracked
  | _ => true

/-- What an exchange of the goroutine changes. What its own report does to the draft and the
callback is left out: the goroutine does not read them again. -/
def afterExchange (s : Reports) : Exchange Action.Reply → Reports
  | ⟨.leavingMember, _⟩ => { s with tracked := false }
  | _ => s

end Reports

end CallCenter.Queue
