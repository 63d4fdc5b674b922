import CallCenter.Store.ChannelProof

/-!
# The channel states that are announced

When an attempt leaves an agent, the team writes the state of the agent's channel through the store
and then announces it (`queue/team.go`). State and deadline are computed twice, and differ for an
agent on demand, for a delay of zero, in `Missed`, whose store function never writes the state
`missed`, and for a wrap-up time from 66 seconds on, whose milliseconds do not fit sixteen bits.
-/

namespace CallCenter.Queue

open Lib Store

structure AgentTeam where
  wrapUpTime : UInt16
  noAnswerDelayTime : UInt16

structure TeamAttempt where
  id : Int
  maxAttempts : Int
  waitBetween : Int
  perNumbers : Bool
  description : Option String
  stickyAgentId : Option Int

/-- A channel event of the status `missed` or `wrap_time`. -/
structure ChannelEvent where
  status : State
  timestamp : Int
  timeout : Int

def newMissedEventEvent (timestamp timeout : Int) : ChannelEvent := ⟨.missed, timestamp, timeout⟩

def newWrapTimeEventEvent (timestamp timeout : Int) : ChannelEvent :=
  ⟨.wrapTime, timestamp, timeout⟩

/-- `int64(tm.WrapUpTime()*1000)`: the product has sixteen bits. -/
def AgentTeam.wrapUpMillis (tm : AgentTeam) : Int := (tm.wrapUpTime * 1000).toNat

def AgentTeam.noAnswerMillis (tm : AgentTeam) : Int := tm.noAnswerDelayTime.toNat * 1000

/-- The `last_state_change` that a store function returns: `now()`, if it finds the attempt. -/
def lastStateChange (db : Db) (id now : Int) : Option Int := (db.attempts.get? id).map fun _ => now

def ccViewTimestamp (t : Option Int) : Int := t.getD 0

def AgentTeam.missedAgent (tm : AgentTeam) (timestamp : Int) : ChannelEvent :=
  newMissedEventEvent timestamp (timestamp + tm.noAnswerMillis)

/-- The result that `SetWrap` stores; `schema` is the status and the variables of the schema that
ran at the end. -/
def wrapResult (endless : Bool) (schema : Option (String × Option Vars)) (result : String) :
    String :=
  let result := if endless ∧ result ≠ "transfer" then "endless" else result
  match schema with
  | some (status, _) => if status ≠ "" then status else result
  | none => result

def AgentTeam.setWrap (tm : AgentTeam) (onDemand endless : Bool)
    (schema : Option (String × Option Vars)) (attempt : TeamAttempt) (result : String) (now : Int)
    (db : Db) : Db × Option ChannelEvent :=
  let t : Int := if onDemand then 0 else tm.wrapUpTime.toNat
  let timestamp := ccViewTimestamp (lastStateChange db attempt.id now)
  (ccAttemptLeaving now
    ⟨attempt.id, wrapResult endless schema result, t, schema.bind Prod.snd, attempt.maxAttempts,
      attempt.waitBetween, attempt.perNumbers, attempt.description, attempt.stickyAgentId⟩ db,
    some (newWrapTimeEventEvent timestamp (timestamp + tm.wrapUpMillis)))

/-- `Missed`: the function it calls does not read the state `missed` that it is given. -/
def AgentTeam.missed (tm : AgentTeam) (attempt : TeamAttempt) (now : Int) (db : Db) :
    Db × Option ChannelEvent :=
  (ccAttemptLeaving now
    ⟨attempt.id, "missed", tm.noAnswerDelayTime.toNat, none, attempt.maxAttempts,
      attempt.waitBetween, attempt.perNumbers, none, none⟩ db,
    some (tm.missedAgent (ccViewTimestamp (lastStateChange db attempt.id now))))

def AgentTeam.cancelAgentAttempt (tm : AgentTeam) (attempt : TeamAttempt) (now : Int) (db : Db) :
    Db × Option ChannelEvent :=
  (ccAttemptAgentCancel now attempt.id "missed" .missed tm.noAnswerDelayTime.toNat db,
    (lastStateChange db attempt.id now).map tm.missedAgent)

def AgentTeam.missedAgentAndWaitingAttempt (tm : AgentTeam) (attempt : TeamAttempt) (now : Int)
    (db : Db) : Db × Option ChannelEvent :=
  (ccAttemptMissedAgent now attempt.id tm.noAnswerDelayTime.toNat db,
    (lastStateChange db attempt.id now).map tm.missedAgent)

/-- `TransferFrom` up to the end of `Transfer`, which reads the time from `clock`. -/
def AgentTeam.transfer (tm : AgentTeam) (attempt : TeamAttempt) (toAgentId : Int)
    (toAgentSession : String) (clock now : Int) (db : Db) : Db × Option ChannelEvent :=
  (ccAttemptTransferredFrom now attempt.id toAgentId (some toAgentSession) db,
    some (newWrapTimeEventEvent clock (clock + tm.wrapUpMillis)))

/-! ## What an event should say -/

/-- The event says what is stored, and its deadline is `seconds` after its timestamp. -/
structure Announces (seconds : Int) (e : ChannelEvent) (c : AgentChannel) : Prop where
  status : c.state = e.status
  timeout : c.timeout = some e.timeout
  seconds : e.timeout = e.timestamp + sec seconds

/-- Whatever is published about a channel is what was stored for it. -/
def Truthful (seconds : Int) (key : Int × Channel) (published : Db × Option ChannelEvent) : Prop :=
  ∀ e, published.2 = some e → ∀ c, published.1.channels.get? key = some c → Announces seconds e c

/-- The attempt is the agent's on one of the agent's channels, and the team of the attempt and the
agent are stored as the queue knows them. -/
structure Served (tm : AgentTeam) (onDemand : Bool) (id agentId : Int) (channel : Channel)
    (db : Db) : Prop where
  attempt : ∃ a, db.attempts.get? id = some a ∧ a.agentId = some agentId ∧ a.channel = channel
    ∧ (a.teamId.bind db.teams.get?).map Team.wrapUpTime = some tm.wrapUpTime.toNat
  agent : (db.agents.get? agentId).map Agent.onDemand = some onDemand
  row : ∃ c, db.channels.get? (agentId, channel) = some c

section Stored

variable {db : Db} {agentId : Int} {channel : Channel} {c : AgentChannel}

theorem get?_updateChannel {f : AgentChannel → AgentChannel} (hkey : ∀ c, (f c).key = c.key)
    (h : db.channels.get? (agentId, channel) = some c) :
    ∃ c', (db.updateChannel (some agentId) channel f).channels.get? (agentId, channel) = some c'
      ∧ c'.state = (f c).state ∧ c'.timeout = (f c).timeout := by
  have hnew : (ccSetAgentChannelChangeStatus c (f c)).key = (agentId, channel) := by
    rw [changeStatus_key, hkey, (Table.get?_eq_some.mp h).2]
  refine ⟨_, ?_, changeStatus_state c (f c), changeStatus_timeout c (f c)⟩
  unfold Db.updateChannel
  simp only [Option.bind_some, h]
  rw [← hnew] at h ⊢
  exact Table.get?_replace h

theorem truthful_iff {seconds : Int} {key : Int × Channel} {db' : Db} {e : ChannelEvent}
    (h : db'.channels.get? key = some c) :
    Truthful seconds key (db', some e) ↔ Announces seconds e c := by
  constructor
  · intro htruthful
    exact htruthful e rfl c h
  · intro hsays e' he' c' hc'
    obtain rfl := Option.some.inj he'
    obtain rfl := Option.some.inj (h.symm.trans hc')
    exact hsays

end Stored

theorem wrapUpMillis_eq_iff (tm : AgentTeam) :
    tm.wrapUpMillis = sec tm.wrapUpTime.toNat ↔ tm.wrapUpTime.toNat ≤ 65 := by
  have hproduct : (tm.wrapUpTime * 1000).toNat = tm.wrapUpTime.toNat * 1000 % 2 ^ 16 := by
    rw [UInt16.toNat_mul]
    rfl
  unfold AgentTeam.wrapUpMillis sec
  rw [hproduct]
  omega

section Announced

variable {tm : AgentTeam} {onDemand : Bool} {attempt : TeamAttempt} {agentId : Int}
  {channel : Channel} {db : Db} {now : Int}

theorem get?_leaving (h : Served tm onDemand attempt.id agentId channel db) (now : Int)
    {p : LeavingArgs} (hid : p.id = attempt.id) :
    ∃ c, (ccAttemptLeaving now p db).channels.get? (agentId, channel) = some c
      ∧ c.state = (if p.agentHoldSec > 0 then .wrapTime else .waiting)
      ∧ c.timeout = holdUntil now p.agentHoldSec := by
  obtain ⟨a, ha, hagent, rfl, -⟩ := h.attempt
  obtain ⟨c, hc⟩ := h.row
  unfold ccAttemptLeaving Db.onAttempt
  simp only [hid, ha, if_true, hagent]
  exact get?_updateChannel (fun _ => rfl) hc

theorem lastStateChange_served (h : Served tm onDemand attempt.id agentId channel db) :
    lastStateChange db attempt.id now = some now := by
  obtain ⟨a, ha, -⟩ := h.attempt
  rw [lastStateChange, ha, Option.map_some]

theorem announces_wrapTime_iff {c : AgentChannel} {clock : Int}
    (hstored : ∀ d, c.state = .wrapTime ∧ c.timeout = some d
      ↔ onDemand = false ∧ 0 < tm.wrapUpTime.toNat ∧ d = now + sec tm.wrapUpTime.toNat) :
    Announces tm.wrapUpTime.toNat (newWrapTimeEventEvent clock (clock + tm.wrapUpMillis)) c
      ↔ clock = now ∧ onDemand = false ∧ 0 < tm.wrapUpTime.toNat ∧ tm.wrapUpTime.toNat ≤ 65 := by
  constructor
  · rintro ⟨hs, ht, hsec⟩
    have hmillis : tm.wrapUpMillis = sec tm.wrapUpTime.toNat := Int.add_left_cancel hsec
    obtain ⟨hdemand, hpos, hdeadline⟩ := (hstored _).mp ⟨hs, ht⟩
    have hdeadline : clock + tm.wrapUpMillis = now + sec tm.wrapUpTime.toNat := hdeadline
    exact ⟨by omega, hdemand, hpos, (wrapUpMillis_eq_iff tm).mp hmillis⟩
  · rintro ⟨rfl, hdemand, hpos, hle⟩
    have hmillis := (wrapUpMillis_eq_iff tm).mpr hle
    obtain ⟨hs, ht⟩ := (hstored (clock + tm.wrapUpMillis)).mpr ⟨hdemand, hpos, by rw [hmillis]⟩
    exact ⟨hs, ht, congrArg (clock + ·) hmillis⟩

theorem setWrap_truthful_iff (h : Served tm onDemand attempt.id agentId channel db)
    (endless : Bool) (schema : Option (String × Option Vars)) (result : String) :
    Truthful tm.wrapUpTime.toNat (agentId, channel)
        (tm.setWrap onDemand endless schema attempt result now db)
      ↔ onDemand = false ∧ 0 < tm.wrapUpTime.toNat ∧ tm.wrapUpTime.toNat ≤ 65 := by
  let hold : Int := if onDemand then 0 else tm.wrapUpTime.toNat
  let p : LeavingArgs := ⟨attempt.id, wrapResult endless schema result, hold,
    schema.bind Prod.snd, attempt.maxAttempts, attempt.waitBetween, attempt.perNumbers,
    attempt.description, attempt.stickyAgentId⟩
  obtain ⟨c, hc, hstate, htimeout⟩ := get?_leaving h now (p := p) rfl
  have hevent : tm.setWrap onDemand endless schema attempt result now db
      = (ccAttemptLeaving now p db, some (newWrapTimeEventEvent now (now + tm.wrapUpMillis))) := by
    unfold AgentTeam.setWrap
    rw [lastStateChange_served h]
    rfl
  rw [hevent, truthful_iff hc, announces_wrapTime_iff fun d => ?_]
  · exact and_iff_right rfl
  · rw [hstate, htimeout]
    unfold holdUntil
    cases onDemand <;> grind

theorem missed_not_truthful (h : Served tm onDemand attempt.id agentId channel db) :
    ¬ Truthful tm.noAnswerDelayTime.toNat (agentId, channel) (tm.missed attempt now db) := by
  intro htruthful
  obtain ⟨c, hc, hstate, -⟩ := get?_leaving h now (p := ⟨attempt.id, "missed",
    tm.noAnswerDelayTime.toNat, none, attempt.maxAttempts, attempt.waitBetween, attempt.perNumbers,
    none, none⟩) rfl
  have hmissed : c.state = .missed := ((truthful_iff hc).mp htruthful).status
  rw [hstate] at hmissed
  split_ifs at hmissed

theorem cancelAgentAttempt_truthful_iff (h : Served tm onDemand attempt.id agentId channel db) :
    Truthful tm.noAnswerDelayTime.toNat (agentId, channel) (tm.cancelAgentAttempt attempt now db)
      ↔ 0 < tm.noAnswerDelayTime.toNat := by
  have hstored : ∃ c, (tm.cancelAgentAttempt attempt now db).1.channels.get? (agentId, channel)
      = some c ∧ c.state = .missed ∧ c.timeout = holdUntil now tm.noAnswerDelayTime.toNat := by
    obtain ⟨a, ha, hagent, rfl, -⟩ := h.attempt
    obtain ⟨c, hc⟩ := h.row
    unfold AgentTeam.cancelAgentAttempt ccAttemptAgentCancel Db.onAttempt
    simp only [ha, if_true, hagent]
    exact get?_updateChannel (fun _ => rfl) hc
  obtain ⟨c, hc, hstate, htimeout⟩ := hstored
  have hevent : tm.cancelAgentAttempt attempt now db
      = ((tm.cancelAgentAttempt attempt now db).1, some (tm.missedAgent now)) := by
    unfold AgentTeam.cancelAgentAttempt
    rw [lastStateChange_served h, Option.map_some]
  rw [hevent, truthful_iff hc]
  constructor
  · intro hsays
    have hdeadline := htimeout.symm.trans hsays.timeout
    unfold holdUntil at hdeadline
    split_ifs at hdeadline with hpos
    omega
  · intro hpos
    refine ⟨hstate, ?_, rfl⟩
    rw [htimeout, holdUntil, if_pos (by omega)]
    rfl

theorem missedAgentAndWaitingAttempt_truthful
    (h : Served tm onDemand attempt.id agentId channel db) :
    Truthful tm.noAnswerDelayTime.toNat (agentId, channel)
      (tm.missedAgentAndWaitingAttempt attempt now db) := by
  have hstored : ∃ c, (ccAttemptMissedAgent now attempt.id tm.noAnswerDelayTime.toNat
      db).channels.get? (agentId, channel) = some c ∧ c.state = .missed
      ∧ c.timeout = some (now + sec tm.noAnswerDelayTime.toNat) := by
    obtain ⟨a, ha, hagent, rfl, -⟩ := h.attempt
    obtain ⟨c, hc⟩ := h.row
    unfold ccAttemptMissedAgent Db.onAttempt
    simp only [ha, if_true, hagent]
    exact get?_updateChannel (fun _ => rfl) hc
  obtain ⟨c, hc, hstate, htimeout⟩ := hstored
  unfold AgentTeam.missedAgentAndWaitingAttempt
  rw [lastStateChange_served h, Option.map_some, truthful_iff hc]
  exact ⟨hstate, htimeout, rfl⟩

theorem transfer_truthful_iff (h : Served tm onDemand attempt.id agentId channel db)
    (toAgentId : Int) (toAgentSession : String) (clock : Int) :
    Truthful tm.wrapUpTime.toNat (agentId, channel)
        (tm.transfer attempt toAgentId toAgentSession clock now db)
      ↔ clock = now ∧ onDemand = false ∧ 0 < tm.wrapUpTime.toNat ∧ tm.wrapUpTime.toNat ≤ 65 := by
  let wrap : Option Int := if onDemand then none else some tm.wrapUpTime.toNat
  have hstored : ∃ c, (ccAttemptTransferredFrom now attempt.id toAgentId (some toAgentSession)
      db).channels.get? (agentId, channel) = some c
      ∧ c.state = (if wraps wrap then .wrapTime else .waiting)
      ∧ (wraps wrap → c.timeout = wrap.map fun t => now + sec t) := by
    obtain ⟨a, ha, hagent, rfl, hteam⟩ := h.attempt
    obtain ⟨c, hc⟩ := h.row
    obtain ⟨g, hg, hdemand⟩ := Option.map_eq_some_iff.mp h.agent
    obtain ⟨t, ht, htime⟩ := Option.map_eq_some_iff.mp hteam
    have hwrap : wrapTime db agentId a.teamId = wrap := by
      simp only [wrapTime, hg, Option.bind_some, hdemand, ht, Option.map_some, htime,
        Option.getD_some, wrap]
    unfold ccAttemptTransferredFrom Db.onAttempt
    simp only [ha, if_true, hagent]
    obtain ⟨c', hc', hstate, htimeout⟩ := get?_updateChannel
      (f := releaseChannel now wrap { a with
        transferredAgentId := some agentId
        agentId := some toAgentId
        agentCallId := some toAgentSession })
      (fun c => by unfold releaseChannel; split <;> rfl) hc
    refine ⟨c', hwrap ▸ hc', ?_, fun hw => ?_⟩
    · rw [hstate, releaseChannel]
      split <;> rfl
    · rw [htimeout, releaseChannel, if_pos hw]
  obtain ⟨c, hc, hstate, htimeout⟩ := hstored
  unfold AgentTeam.transfer
  rw [truthful_iff hc, announces_wrapTime_iff fun d => ?_]
  unfold wraps at hstate htimeout
  cases onDemand <;> grind

/-- **Which announcements are what was stored.** `SetWrap`'s exactly for an agent who is not on
demand and a wrap-up of 1 to 65 seconds; `Missed`'s never; those of `MissedAgent` after a
`CancelAgentAttempt` exactly with a delay, and after a missed agent always; `Transfer`'s as
`SetWrap`'s, if its clock shows the time of the database. -/
theorem channel_events_truthful_iff (h : Served tm onDemand attempt.id agentId channel db) :
    (∀ endless schema result, Truthful tm.wrapUpTime.toNat (agentId, channel)
        (tm.setWrap onDemand endless schema attempt result now db)
      ↔ onDemand = false ∧ 0 < tm.wrapUpTime.toNat ∧ tm.wrapUpTime.toNat ≤ 65)
    ∧ ¬ Truthful tm.noAnswerDelayTime.toNat (agentId, channel) (tm.missed attempt now db)
    ∧ (Truthful tm.noAnswerDelayTime.toNat (agentId, channel) (tm.cancelAgentAttempt attempt now db)
      ↔ 0 < tm.noAnswerDelayTime.toNat)
    ∧ Truthful tm.noAnswerDelayTime.toNat (agentId, channel)
      (tm.missedAgentAndWaitingAttempt attempt now db)
    ∧ ∀ toAgentId toAgentSession clock, Truthful tm.wrapUpTime.toNat (agentId, channel)
        (tm.transfer attempt toAgentId toAgentSession clock now db)
      ↔ clock = now ∧ onDemand = false ∧ 0 < tm.wrapUpTime.toNat ∧ tm.wrapUpTime.toNat ≤ 65 :=
  ⟨setWrap_truthful_iff h, missed_not_truthful h, cancelAgentAttempt_truthful_iff h,
    missedAgentAndWaitingAttempt_truthful h, transfer_truthful_iff h⟩

end Announced

def sampleChat (wrapUpTime : UInt16) : Db :=
  { sampleAgent false with
    attempts := .single { bridgedAttempt 1 .chat with teamId := some 3 }
    teams := .single ⟨3, wrapUpTime.toNat⟩ }

def sampleTeamAttempt : TeamAttempt := ⟨1, 0, 60, false, none, none⟩

theorem sampleChat_served (wrapUpTime : UInt16) :
    Served ⟨wrapUpTime, 10⟩ false sampleTeamAttempt.id 7 .chat (sampleChat wrapUpTime) :=
  ⟨⟨_, rfl, rfl, rfl, rfl⟩, rfl, _, rfl⟩

theorem sampleChat_truthful :
    Truthful 30 (7, .chat) (AgentTeam.setWrap ⟨30, 10⟩ false false none sampleTeamAttempt "success"
      1000 (sampleChat 30)) :=
  ((channel_events_truthful_iff (sampleChat_served 30)).1 false none "success").mpr (by decide)

/-- A wrap-up of 66 seconds is announced as one of 464 milliseconds. -/
theorem long_wrapUp_announced :
    (AgentTeam.setWrap ⟨66, 10⟩ false false none sampleTeamAttempt "success" 1000
        (sampleChat 66)).2 = some ⟨.wrapTime, 1000, 1464⟩
      ∧ ((AgentTeam.setWrap ⟨66, 10⟩ false false none sampleTeamAttempt "success" 1000
        (sampleChat 66)).1.channels.get? (7, .chat)).map (fun c => (c.state, c.timeout))
          = some (.wrapTime, some 67000)
      ∧ ¬ Truthful 66 (7, .chat) (AgentTeam.setWrap ⟨66, 10⟩ false false none sampleTeamAttempt
        "success" 1000 (sampleChat 66)) := by
  have hserved := sampleChat_served 66
  refine ⟨rfl, rfl, fun h => ?_⟩
  exact absurd ((setWrap_truthful_iff hserved false none "success").mp h).2.2 (by decide)

end CallCenter.Queue
