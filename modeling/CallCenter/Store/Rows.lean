import CallCenter.Lib.Table

/-!
# The rows of the call center's tables

The columns of `cc_member`, `cc_member_attempt`, `cc_agent_channel` and of the
tables they are joined with that some function of the model reads or writes.
A timestamp is a number of milliseconds since the epoch, so that
`(extract(EPOCH from now()) * 1000)::int8` is the timestamp itself; `NULL` is
`none`.

The `state` column of an attempt and that of an agent's channel share one type:
`SetAttemptReporting` copies the one into the other.
-/

namespace CallCenter.Store

inductive State where
  | idle | waiting | joined | waitAgent | active | offering | bridged | processing
  | leaving | cancel | distribute | answered | form | hold | missed | wrapTime
  deriving DecidableEq

inductive Channel where
  | call | chat | task | outCall | im
  deriving DecidableEq

/-- A bucket id. Zero is not one: it stands for "no bucket" in the unique index of
`cc_queue_statistics`. -/
abbrev BucketId := { b : Int // b ≠ 0 }

abbrev Vars := List (String × String)

/-- `a || b` on objects: the right operand wins. -/
def Vars.merge (a b : Vars) : Vars := a.filter (fun p => p.1 ∉ b.map Prod.fst) ++ b

/-- A time zone: the time its clocks show at an instant, and the instant as which a time on its
clocks is read. A time that they show once is read as that instant; one that they show twice, or
not at all, is read as the database chooses. -/
structure Zone where
  toLocal : Int → Int
  ofLocal : Int → Int
  ofLocal_toLocal : ∀ t, (∀ t', toLocal t' = toLocal t → t' = t) → ofLocal (toLocal t) = t

def Zone.fixed (offset : Int) : Zone where
  toLocal t := t + offset
  ofLocal t := t - offset
  ofLocal_toLocal := by
    intro t _
    omega

structure Communication where
  typeId : Option Int
  attempts : Option Int
  lastActivityAt : Option Int
  attemptId : Option Int
  stopAt : Option Int
  deriving DecidableEq

/-- `coalesce(x -> 'attempts', 0)`. -/
def Communication.attemptCount (c : Communication) : Int := c.attempts.getD 0

/-- `coalesce(x -> 'stop_at', 0) = 0`. -/
def Communication.isOpen (c : Communication) : Bool := c.stopAt.getD 0 = 0

structure Member where
  id : Int
  domainId : Int
  queueId : Int
  bucketId : Option BucketId
  skillId : Option Int
  attempts : Int
  communications : Option (List Communication)
  stopAt : Option Int
  stopCause : Option String
  readyAt : Option Int
  expireAt : Option Int
  agentId : Option Int
  lastAgent : Option Int
  vars : Option Vars
  sysOffsetId : Option Int

/-- `coalesce(communications #> '{idx,attempts}', 0)`. -/
def Member.attemptsOf (m : Member) (idx : Nat) : Int :=
  ((m.communications.bind (·[idx]?)).map Communication.attemptCount).getD 0

def Member.HasNumber (m : Member) (idx : Nat) : Prop :=
  (m.communications.bind (·[idx]?)).isSome = true

instance (m : Member) (idx : Nat) : Decidable (m.HasNumber idx) :=
  inferInstanceAs (Decidable (_ = true))

structure Attempt where
  id : Int
  queueId : Option Int
  memberId : Option Int
  resourceId : Option Int
  nodeId : String
  result : Option String
  agentId : Option Int
  teamId : Option Int
  bucketId : Option BucketId
  description : Option String
  agentCallId : Option String
  memberCallId : Option String
  offeredAgentIds : List Int
  state : State
  channel : Channel
  lastStateChange : Int
  offeringAt : Option Int
  answeredAt : Option Int
  bridgedAt : Option Int
  reportingAt : Option Int
  leavingAt : Option Int
  timeout : Option Int
  communicationIdx : Nat
  waitingOtherNumbers : Int
  schemaProcessing : Bool
  transferredAgentId : Option Int
  transferredAttemptId : Option Int
  vars : Option Vars
  deriving DecidableEq

/-- The row of an attempt inserted at a time, with the defaults of its columns. -/
def Attempt.inserted (now id : Int) : Attempt where
  id := id
  queueId := none
  memberId := none
  resourceId := none
  nodeId := ""
  result := none
  agentId := none
  teamId := none
  bucketId := none
  description := none
  agentCallId := none
  memberCallId := none
  offeredAgentIds := []
  state := .idle
  channel := .call
  lastStateChange := now
  offeringAt := none
  answeredAt := none
  bridgedAt := none
  reportingAt := none
  leavingAt := none
  timeout := none
  communicationIdx := 1
  waitingOtherNumbers := 0
  schemaProcessing := false
  transferredAgentId := none
  transferredAttemptId := none
  vars := none

structure AgentChannel where
  agentId : Int
  channel : Channel
  state : State
  joinedAt : Int
  timeout : Option Int
  noAnswers : Int
  queueId : Option Int
  attemptId : Option Int
  lastBucketId : Option BucketId
  lastOfferingAt : Option Int
  lastBridgedAt : Option Int
  lastMissedAt : Option Int

def AgentChannel.key (c : AgentChannel) : Int × Channel := (c.agentId, c.channel)

structure Agent where
  id : Int
  onDemand : Bool

structure Team where
  id : Int
  wrapUpTime : Int

/-- A row of `cc_queue`: what its `payload` says about retries, and its schema for
finished attempts. -/
structure Queue where
  id : Int
  maxAttempts : Option Int
  waitBetweenRetries : Option Int
  perNumbers : Option Bool
  afterSchemaId : Option Int
  prolongationIsTimeoutRetry : Bool

end CallCenter.Store
