import CallCenter.IM.Threads
import CallCenter.Queue.IMHandover
import Mathlib.Algebra.Order.Ring.Int

/-!
# Silence on an IM thread

While an attempt is bridged, a timer asks `checkIdleTimeouts` whether the dialog should be given up.
With the last-message rule, once the thread has been silent for the limit of a side, that side is
timed out if it has been idle for longer than the other. The idle time of a side that has not
written yet is zero, so such a side counts as the one that wrote just now.

1. The side that sent the last message carries the mark of the last message (`Marks`), also when the
   bot has had control since.
2. So the other side is idle for at least as long, unless it has not written at all.
3. Hence the check blames the right side if that side has written, and is silent only if both idle
   times have the same number of seconds.
-/

namespace CallCenter.IM

/-- What `handleEvent` does with a message, by its type. -/
inductive EventKind where
  | message
  | botControl (active : Bool)
  /-- A removal or a transfer of some member of the thread. -/
  | departure

def IMMessage.eventKind (msg : IMMessage) : EventKind :=
  match msg.system with
  | none => .message
  | some sys =>
    if sys.type = imSystemTypeBotControlGranted then .botControl true
    else if sys.type = imSystemTypeBotControlReleased then .botControl false
    else if sys.type = "member_removed" || sys.type = "transfer" then .departure
    else .message

theorem handleEvent_kind (sess : Session) (msg : IMMessage) (now : Int) :
    handleEvent sess msg now =
      match msg.eventKind with
      | .message => sess.onMessage msg.fromSub now
      | .botControl active => sess.setBotActive active now
      | .departure => if endsSession sess msg then sess.cancel else sess := by
  unfold handleEvent IMMessage.eventKind endsSession
  cases msg.system with
  | none => rfl
  | some sys =>
    grind

namespace Session

def silentSec (s : Session) (now : Int) : Int := (now - s.lastMessageAt).tdiv 1000

def memberIdleMessage (s : Session) (now : Int) : Int :=
  if s.lastMessageAtFromMember = 0 then 0 else (now - s.lastMessageAtFromMember).tdiv 1000

def operatorIdleMessage (s : Session) (now : Int) : Int :=
  if s.lastMessageAtFromAgent = 0 then 0 else (now - s.lastMessageAtFromAgent).tdiv 1000

end Session

end CallCenter.IM

namespace CallCenter.Queue.IMIdle

open IM Lib

/-- The settings of an `InboundIMQueue` that `checkIdleTimeouts` reads; limits are in seconds. -/
structure InboundIMQueueSettings where
  maxIdleClient : Int
  maxIdleAgent : Int
  maxIdleDialog : Int
  lastMessageTimeout : Bool

def isAgentIdle (settings : InboundIMQueueSettings) (hasTask : Bool) (sess : Session)
    (now : Int) : Bool :=
  if !hasTask then false
  else if settings.lastMessageTimeout then
    decide (settings.maxIdleAgent ≤ sess.silentSec now)
      && decide (sess.memberIdleMessage now < sess.operatorIdleMessage now)
  else decide (settings.maxIdleAgent ≤ sess.operatorIdleMessage now)

def isClientIdle (settings : InboundIMQueueSettings) (hasTask : Bool) (sess : Session)
    (now : Int) : Bool :=
  if !hasTask then false
  else if settings.lastMessageTimeout then
    decide (settings.maxIdleClient ≤ sess.silentSec now)
      && decide (sess.operatorIdleMessage now < sess.memberIdleMessage now)
  else decide (settings.maxIdleClient ≤ sess.memberIdleMessage now)

/-- Should the dialog go on, and if not, for which timeout: its `result` is set as the result of the
attempt. An attempt that is not bridged when the timer fires just ends. -/
def checkIdleTimeouts (settings : InboundIMQueueSettings) (bridgedAt : Int) (hasTask : Bool)
    (sess : Session) (now : Int) : Bool × Option IdleTimeout :=
  if bridgedAt = 0 then (false, none)
  else if !sess.botActive && decide (0 < settings.maxIdleAgent)
      && isAgentIdle settings hasTask sess now then
    (false, some .agent)
  else if !sess.botActive && decide (0 < settings.maxIdleClient)
      && isClientIdle settings hasTask sess now then
    (false, some .client)
  else if decide (0 < settings.maxIdleDialog) && hasTask
      && decide (settings.maxIdleDialog ≤ sess.silentSec now) then
    (false, some .dialog)
  else (true, none)

/-! ## A session over time -/

inductive Sender where
  | client | agent | other
  deriving DecidableEq

def senderOf (sess : Session) (fromSub : String) : Sender :=
  if fromSub = sess.subMember then .client
  else if fromSub = sess.userId then .agent
  else .other

/-- A session, with what an onlooker on the thread knows. -/
structure Thread where
  sess : Session
  clock : Int
  lastSender : Option Sender
  /-- When the last message was seen, or the bot gave control back; until then, when the session
  was made. -/
  seenAt : Int

inductive ThreadLabel where
  | event (msg : IMMessage) (now : Int)
  /-- `AddMemberUser`, `TransferMemberUser` or `UpgradePreviewUser`, once the gateway answers. -/
  | setAgent (memberId userId : String)
  | markUserJoined (userId : String)

def Thread.observe (th : Thread) (msg : IMMessage) (now : Int) : Thread where
  sess := handleEvent th.sess msg now
  clock := now
  lastSender :=
    match msg.eventKind with
    | .message => some (senderOf th.sess msg.fromSub)
    | _ => th.lastSender
  seenAt :=
    match msg.eventKind with
    | .message => now
    | .botControl active => if th.sess.botActive && !active then now else th.seenAt
    | .departure => th.seenAt

def threadStep (th : Thread) : ThreadLabel → Option Thread
  | .event msg now => if th.clock ≤ now then some (th.observe msg now) else none
  | .setAgent memberId userId => some { th with sess := th.sess.setAgent memberId userId }
  | .markUserJoined userId => some { th with sess := th.sess.markUserJoined userId }

def threadStart (tagId : Int) (threadId subMember memberId : String) (now : Int) : Thread where
  sess := newSession tagId threadId subMember memberId now
  clock := now
  lastSender := none
  seenAt := now

/-! ## The marks of a session -/

/-- The marks of a session that was made after the epoch, at the clock value `clock`. -/
structure Marks (sess : Session) (clock : Int) : Prop where
  last_pos : 0 < sess.lastMessageAt
  last_le : sess.lastMessageAt ≤ clock
  member_nonneg : 0 ≤ sess.lastMessageAtFromMember
  member_le : sess.lastMessageAtFromMember ≤ sess.lastMessageAt
  agent_nonneg : 0 ≤ sess.lastMessageAtFromAgent
  agent_le : sess.lastMessageAtFromAgent ≤ sess.lastMessageAt

variable {sess : Session} {clock : Int}

theorem marks_onMessage (hm : Marks sess clock) (fromSub : String) {now : Int}
    (hnow : clock ≤ now) :
    Marks (sess.onMessage fromSub now) now := by
  obtain ⟨hpos, hle, hm0, hml, ha0, hal⟩ := hm
  unfold Session.onMessage
  dsimp only
  split_ifs with hclient hagent
  · exact ⟨by dsimp; omega, le_refl _, by dsimp; omega, le_refl _, ha0, by dsimp; omega⟩
  · exact ⟨by dsimp; omega, le_refl _, hm0, by dsimp; omega, by dsimp; omega, le_refl _⟩
  · exact ⟨by dsimp; omega, le_refl _, hm0, by dsimp; omega, ha0, by dsimp; omega⟩

/-- The times of the session are those of the messages it has seen. -/
structure ThreadInv (th : Thread) : Prop where
  marks : Marks th.sess th.clock
  seen : th.seenAt = th.sess.lastMessageAt
  clientLast : th.lastSender = some .client →
    th.sess.lastMessageAtFromMember = th.sess.lastMessageAt
  agentLast : th.lastSender = some .agent →
    th.sess.lastMessageAtFromAgent = th.sess.lastMessageAt

theorem threadInv_start (tagId : Int) (threadId subMember memberId : String) {now : Int}
    (hnow : 0 < now) : ThreadInv (threadStart tagId threadId subMember memberId now) where
  marks := ⟨hnow, le_refl _, le_refl _, hnow.le, le_refl _, hnow.le⟩
  seen := rfl
  clientLast := nofun
  agentLast := nofun

theorem ThreadInv.frame {th th' : Thread} (h : ThreadInv th) (hclock : th.clock ≤ th'.clock)
    (hlast : th'.sess.lastMessageAt = th.sess.lastMessageAt)
    (hmember : th'.sess.lastMessageAtFromMember = th.sess.lastMessageAtFromMember)
    (hagent : th'.sess.lastMessageAtFromAgent = th.sess.lastMessageAtFromAgent)
    (hsender : th'.lastSender = th.lastSender) (hseen : th'.seenAt = th.seenAt) :
    ThreadInv th' := by
  obtain ⟨⟨hpos, hle, hm0, hml, ha0, hal⟩, hs, hclientLast, hagentLast⟩ := h
  refine ⟨⟨?_, ?_, ?_, ?_, ?_, ?_⟩, ?_, ?_, ?_⟩
  all_goals grind

variable {msg : IMMessage}

theorem threadInv_message {th : Thread} (h : ThreadInv th) (hkind : msg.eventKind = .message)
    {now : Int} (hnow : th.clock ≤ now) :
    ThreadInv (th.observe msg now) := by
  have hsess : (th.observe msg now).sess = th.sess.onMessage msg.fromSub now := by
    simp only [Thread.observe, handleEvent_kind, hkind]
  have hsender : (th.observe msg now).lastSender = some (senderOf th.sess msg.fromSub) := by
    simp only [Thread.observe, hkind]
  have hseen : (th.observe msg now).seenAt = now := by simp only [Thread.observe, hkind]
  refine ⟨?_, ?_, ?_, ?_⟩
  · rw [hsess]
    exact marks_onMessage h.marks msg.fromSub hnow
  · rw [hsess, hseen]
    unfold Session.onMessage
    dsimp only
    split_ifs <;> rfl
  · -- The sender's own mark is moved with the mark of the last message.
    grind [Session.onMessage, senderOf]
  all_goals grind [Session.onMessage, senderOf]

theorem threadInv_botControl {th : Thread} (h : ThreadInv th) {active : Bool}
    (hkind : msg.eventKind = .botControl active) {now : Int} (hnow : th.clock ≤ now) :
    ThreadInv (th.observe msg now) := by
  have hsess : (th.observe msg now).sess = th.sess.setBotActive active now := by
    simp only [Thread.observe, handleEvent_kind, hkind]
  have hsender : (th.observe msg now).lastSender = th.lastSender := by
    simp only [Thread.observe, hkind]
  have hseen : (th.observe msg now).seenAt =
      if th.sess.botActive && !active then now else th.seenAt := by
    simp only [Thread.observe, hkind]
  have hpos := h.marks.last_pos.trans_le (h.marks.last_le.trans hnow)
  by_cases hreleased : (th.sess.botActive && !active) = true
  · -- Control back from the bot sets all three marks.
    have hsess' : (th.observe msg now).sess =
        { th.sess with
          lastMessageAt := now, lastMessageAtFromMember := now, lastMessageAtFromAgent := now
          botActive := active } := by
      rw [hsess, Session.setBotActive, if_pos hreleased]
    rw [if_pos hreleased] at hseen
    refine ⟨?_, ?_, ?_, ?_⟩ <;> rw [hsess']
    · exact ⟨hpos, le_refl _, hpos.le, le_refl _, hpos.le, le_refl _⟩
    · exact hseen
    · exact fun _ => rfl
    · exact fun _ => rfl
  · have hsess' : (th.observe msg now).sess = { th.sess with botActive := active } := by
      rw [hsess, Session.setBotActive, if_neg hreleased]
    rw [if_neg hreleased] at hseen
    refine h.frame hnow ?_ ?_ ?_ hsender hseen <;> rw [hsess']

theorem threadInv_departure {th : Thread} (h : ThreadInv th) (hkind : msg.eventKind = .departure)
    {now : Int} (hnow : th.clock ≤ now) :
    ThreadInv (th.observe msg now) := by
  have hsess : (th.observe msg now).sess =
      if endsSession th.sess msg then th.sess.cancel else th.sess := by
    simp only [Thread.observe, handleEvent_kind, hkind]
  have hsender : (th.observe msg now).lastSender = th.lastSender := by
    simp only [Thread.observe, hkind]
  have hseen : (th.observe msg now).seenAt = th.seenAt := by simp only [Thread.observe, hkind]
  refine h.frame hnow ?_ ?_ ?_ hsender hseen
  all_goals
    rw [hsess]
    split_ifs <;> rfl

theorem threadInv_step {th th' : Thread} {l : ThreadLabel} (h : ThreadInv th)
    (hstep : threadStep th l = some th') : ThreadInv th' := by
  cases l with
  | event msg now =>
    obtain ⟨hnow, hth'⟩ := Option.ite_none_right_eq_some.mp hstep
    obtain rfl := Option.some.inj hth'
    cases hkind : msg.eventKind with
    | message => exact threadInv_message h hkind hnow
    | botControl active => exact threadInv_botControl h hkind hnow
    | departure => exact threadInv_departure h hkind hnow
  | setAgent memberId userId =>
    cases hstep
    exact h.frame (le_refl _) rfl rfl rfl rfl rfl
  | markUserJoined userId =>
    cases hstep
    exact h.frame (le_refl _) rfl rfl rfl rfl rfl

theorem threadInv_run {tagId start : Int} {threadId subMember memberId : String}
    (hstart : 0 < start) {ls : List ThreadLabel} {th : Thread}
    (hrun : run threadStep (threadStart tagId threadId subMember memberId start) ls = some th) :
    ThreadInv th := by
  have hkeep : ∀ th l th', ThreadInv th → True → threadStep th l = some th' → ThreadInv th' :=
    fun _ _ _ h _ hstep => threadInv_step h hstep
  exact run_invariant hkeep ls (threadInv_start tagId threadId subMember memberId hstart)
    (along_of_forall (fun _ _ => trivial) ls _) hrun

/-! ## Idle times -/

theorem le_silentSec_iff {now : Int} (hle : sess.lastMessageAt ≤ now) (n : Int) :
    n ≤ sess.silentSec now ↔ n * 1000 ≤ now - sess.lastMessageAt := by
  unfold Session.silentSec
  rw [Int.tdiv_eq_ediv_of_nonneg (by omega)]
  omega

theorem operatorIdleMessage_of_last (hm : Marks sess clock)
    (hlast : sess.lastMessageAtFromAgent = sess.lastMessageAt) (now : Int) :
    sess.operatorIdleMessage now = sess.silentSec now := by
  have hpos := hm.last_pos
  rw [Session.operatorIdleMessage, Session.silentSec, if_neg (by omega), hlast]

theorem memberIdleMessage_of_last (hm : Marks sess clock)
    (hlast : sess.lastMessageAtFromMember = sess.lastMessageAt) (now : Int) :
    sess.memberIdleMessage now = sess.silentSec now := by
  have hpos := hm.last_pos
  rw [Session.memberIdleMessage, Session.silentSec, if_neg (by omega), hlast]

theorem silentSec_le_member {now : Int} (hm : Marks sess clock) (hnow : clock ≤ now)
    (hwrote : sess.lastMessageAtFromMember ≠ 0) :
    sess.silentSec now ≤ sess.memberIdleMessage now := by
  obtain ⟨hpos, hle, hm0, hml, ha0, hal⟩ := hm
  grind [Session.memberIdleMessage, Session.silentSec]

theorem silentSec_le_operator {now : Int} (hm : Marks sess clock) (hnow : clock ≤ now)
    (hwrote : sess.lastMessageAtFromAgent ≠ 0) :
    sess.silentSec now ≤ sess.operatorIdleMessage now := by
  obtain ⟨hpos, hle, hm0, hml, ha0, hal⟩ := hm
  grind [Session.operatorIdleMessage, Session.silentSec]

/-! ## What the check reports -/

structure LastMessageRule (settings : InboundIMQueueSettings) : Prop where
  enabled : settings.lastMessageTimeout = true
  agent_pos : 0 < settings.maxIdleAgent
  client_pos : 0 < settings.maxIdleClient

/-- The timeout that the check of a bridged attempt reports at `now`. -/
def reported (settings : InboundIMQueueSettings) (bridgedAt : Int) (sess : Session) (now : Int) :
    Option IdleTimeout :=
  (checkIdleTimeouts settings bridgedAt true sess now).2

theorem reported_eq {settings : InboundIMQueueSettings} (hrule : LastMessageRule settings)
    {bridgedAt : Int} (hbridged : bridgedAt ≠ 0) (hbot : sess.botActive = false) (now : Int) :
    reported settings bridgedAt sess now =
      if settings.maxIdleAgent ≤ sess.silentSec now ∧
          sess.memberIdleMessage now < sess.operatorIdleMessage now then some .agent
      else if settings.maxIdleClient ≤ sess.silentSec now ∧
          sess.operatorIdleMessage now < sess.memberIdleMessage now then some .client
      else if 0 < settings.maxIdleDialog ∧ settings.maxIdleDialog ≤ sess.silentSec now then
        some .dialog
      else none := by
  obtain ⟨hon, ha, hc⟩ := hrule
  grind [checkIdleTimeouts, isAgentIdle, isClientIdle, reported]

theorem reported_of_bot (settings : InboundIMQueueSettings) (bridgedAt : Int)
    (hbot : sess.botActive = true) (now : Int) :
    reported settings bridgedAt sess now = none ∨
      reported settings bridgedAt sess now = some .dialog := by
  grind [checkIdleTimeouts, reported]

theorem reported_agent_iff {settings : InboundIMQueueSettings} (hrule : LastMessageRule settings)
    {bridgedAt : Int} (hbridged : bridgedAt ≠ 0) (sess : Session) (now : Int) :
    reported settings bridgedAt sess now = some .agent ↔
      sess.botActive = false ∧ settings.maxIdleAgent ≤ sess.silentSec now ∧
        sess.memberIdleMessage now < sess.operatorIdleMessage now := by
  cases hbot : sess.botActive with
  | true => rcases reported_of_bot settings bridgedAt hbot now with h | h <;> simp [h]
  | false =>
    grind [reported_eq]

theorem reported_client_iff {settings : InboundIMQueueSettings} (hrule : LastMessageRule settings)
    {bridgedAt : Int} (hbridged : bridgedAt ≠ 0) (sess : Session) (now : Int) :
    reported settings bridgedAt sess now = some .client ↔
      sess.botActive = false ∧ settings.maxIdleClient ≤ sess.silentSec now ∧
        sess.operatorIdleMessage now < sess.memberIdleMessage now := by
  cases hbot : sess.botActive with
  | true => rcases reported_of_bot settings bridgedAt hbot now with h | h <;> simp [h]
  | false =>
    grind [reported_eq]

/-- What the detection is for: at a tick at `now`, a thread that was silent for both limits is
given up by one side's fault, and never by the fault of the side that wrote last. -/
structure DetectsIdle (settings : InboundIMQueueSettings) (bridgedAt : Int) (th : Thread)
    (now : Int) : Prop where
  no_dead_zone : th.sess.botActive = false →
    max settings.maxIdleAgent settings.maxIdleClient * 1000 ≤ now - th.seenAt →
      reported settings bridgedAt th.sess now = some .agent ∨
        reported settings bridgedAt th.sess now = some .client
  agent_spared : th.lastSender = some .agent →
    reported settings bridgedAt th.sess now ≠ some .agent
  client_spared : th.lastSender = some .client →
    reported settings bridgedAt th.sess now ≠ some .client

structure TurnShown (settings : InboundIMQueueSettings) (th : Thread) (now : Int) : Prop where
  /-- After the silence of both limits the two idle times differ by a whole second. -/
  idle_differ : th.sess.botActive = false →
    max settings.maxIdleAgent settings.maxIdleClient * 1000 ≤ now - th.seenAt →
      th.sess.operatorIdleMessage now ≠ th.sess.memberIdleMessage now
  client_wrote : th.sess.botActive = false → th.lastSender = some .agent →
    settings.maxIdleAgent * 1000 ≤ now - th.seenAt → th.sess.lastMessageAtFromMember ≠ 0
  agent_wrote : th.sess.botActive = false → th.lastSender = some .client →
    settings.maxIdleClient * 1000 ≤ now - th.seenAt → th.sess.lastMessageAtFromAgent ≠ 0

section Tick

variable {settings : InboundIMQueueSettings} {bridgedAt : Int} {th : Thread} {now : Int}

theorem le_silentSec_seen (h : ThreadInv th) (hnow : th.clock ≤ now) (n : Int) :
    n ≤ th.sess.silentSec now ↔ n * 1000 ≤ now - th.seenAt := by
  rw [le_silentSec_iff (h.marks.last_le.trans hnow), h.seen]

theorem reported_iff_idle_differ (hrule : LastMessageRule settings) (hbridged : bridgedAt ≠ 0)
    (h : ThreadInv th) (hnow : th.clock ≤ now) (hbot : th.sess.botActive = false)
    (hsilent : max settings.maxIdleAgent settings.maxIdleClient * 1000 ≤ now - th.seenAt) :
    (reported settings bridgedAt th.sess now = some .agent ∨
        reported settings bridgedAt th.sess now = some .client) ↔
      th.sess.operatorIdleMessage now ≠ th.sess.memberIdleMessage now := by
  grind [le_silentSec_seen, reported_agent_iff, reported_client_iff]

theorem agent_spared_iff (hrule : LastMessageRule settings) (hbridged : bridgedAt ≠ 0)
    (h : ThreadInv th) (hnow : th.clock ≤ now) (hlast : th.lastSender = some .agent) :
    reported settings bridgedAt th.sess now ≠ some .agent ↔
      (th.sess.botActive = false → settings.maxIdleAgent * 1000 ≤ now - th.seenAt →
        th.sess.lastMessageAtFromMember ≠ 0) := by
  have hidle := operatorIdleMessage_of_last h.marks (h.agentLast hlast) now
  rw [Ne, reported_agent_iff hrule hbridged, le_silentSec_seen h hnow, hidle]
  constructor
  · intro hspared hbot hsilent hzero
    apply hspared
    refine ⟨hbot, hsilent, ?_⟩
    have hsec := (le_silentSec_seen h hnow _).mpr hsilent
    rw [Session.memberIdleMessage, if_pos hzero]
    exact hrule.agent_pos.trans_le hsec
  · rintro hwrote ⟨hbot, hsilent, hlater⟩
    have hle := silentSec_le_member h.marks hnow (hwrote hbot hsilent)
    omega

theorem client_spared_iff (hrule : LastMessageRule settings) (hbridged : bridgedAt ≠ 0)
    (h : ThreadInv th) (hnow : th.clock ≤ now) (hlast : th.lastSender = some .client) :
    reported settings bridgedAt th.sess now ≠ some .client ↔
      (th.sess.botActive = false → settings.maxIdleClient * 1000 ≤ now - th.seenAt →
        th.sess.lastMessageAtFromAgent ≠ 0) := by
  have hidle := memberIdleMessage_of_last h.marks (h.clientLast hlast) now
  rw [Ne, reported_client_iff hrule hbridged, le_silentSec_seen h hnow, hidle]
  constructor
  · intro hspared hbot hsilent hzero
    apply hspared
    refine ⟨hbot, hsilent, ?_⟩
    have hsec := (le_silentSec_seen h hnow _).mpr hsilent
    rw [Session.operatorIdleMessage, if_pos hzero]
    exact hrule.client_pos.trans_le hsec
  · rintro hwrote ⟨hbot, hsilent, hlater⟩
    have hle := silentSec_le_operator h.marks hnow (hwrote hbot hsilent)
    omega

/-- Whatever was written on the thread, the detection does what it is for at a tick of the bridged
attempt just if the marks show whose turn it is. -/
theorem detectsIdle_iff (hrule : LastMessageRule settings) (hbridged : bridgedAt ≠ 0)
    {tagId start : Int} {threadId subMember memberId : String} (hstart : 0 < start)
    {ls : List ThreadLabel}
    (hrun : run threadStep (threadStart tagId threadId subMember memberId start) ls = some th)
    (hnow : th.clock ≤ now) :
    DetectsIdle settings bridgedAt th now ↔ TurnShown settings th now := by
  have h := threadInv_run hstart hrun
  constructor
  · intro hdetects
    refine ⟨?_, ?_, ?_⟩
    · intro hbot hsilent
      exact (reported_iff_idle_differ hrule hbridged h hnow hbot hsilent).mp
        (hdetects.no_dead_zone hbot hsilent)
    · intro hbot hlast
      exact (agent_spared_iff hrule hbridged h hnow hlast).mp (hdetects.agent_spared hlast) hbot
    · intro hbot hlast
      exact (client_spared_iff hrule hbridged h hnow hlast).mp (hdetects.client_spared hlast) hbot
  · intro hshown
    refine ⟨?_, ?_, ?_⟩
    · intro hbot hsilent
      exact (reported_iff_idle_differ hrule hbridged h hnow hbot hsilent).mpr
        (hshown.idle_differ hbot hsilent)
    · intro hlast
      exact (agent_spared_iff hrule hbridged h hnow hlast).mpr
        fun hbot => hshown.client_wrote hbot hlast
    · intro hlast
      exact (client_spared_iff hrule hbridged h hnow hlast).mpr
        fun hbot => hshown.agent_wrote hbot hlast

end Tick

def minuteLimits : InboundIMQueueSettings where
  maxIdleClient := 60
  maxIdleAgent := 60
  maxIdleDialog := 0
  lastMessageTimeout := true

def text (fromSub : String) : IMMessage := ⟨"thread", fromSub, none⟩

/-- The client wrote, the agent answered, and nothing came for a minute. -/
theorem detectsIdle_answered :
    ∃ th, run threadStep (threadStart 1 "thread" "client" "member" 1000)
        [.setAgent "agentMember" "agent", .event (text "client") 2000,
          .event (text "agent") 5000] = some th ∧
      TurnShown minuteLimits th 65000 ∧ DetectsIdle minuteLimits 1500 th 65000 := by
  have hrun : run threadStep (threadStart 1 "thread" "client" "member" 1000)
      [.setAgent "agentMember" "agent", .event (text "client") 2000,
        .event (text "agent") 5000] = some
      ⟨⟨1, "thread", "agentMember", "member", "client", "agent", 5000, 2000, 5000, false, false⟩,
        5000, some .agent, 5000⟩ := rfl
  have hshown : TurnShown minuteLimits
      ⟨⟨1, "thread", "agentMember", "member", "client", "agent", 5000, 2000, 5000, false, false⟩,
        5000, some .agent, 5000⟩ 65000 :=
    ⟨by decide, by decide, by decide⟩
  exact ⟨_, hrun, hshown,
    (detectsIdle_iff ⟨rfl, by decide, by decide⟩ (by decide) (by decide) hrun (by decide)).mpr
      hshown⟩

/-- If nobody writes, nobody is ever reported; and a client who writes to an agent that has not
written is reported for the agent's silence. -/
theorem silence_undetected :
    (∃ th, run threadStep (threadStart 1 "thread" "client" "member" 1000)
        [.setAgent "agentMember" "agent"] = some th ∧
      th.sess.botActive = false ∧ 60 * 1000 ≤ 3601000 - th.seenAt ∧
      reported minuteLimits 1500 th.sess 3601000 = none ∧
      ¬DetectsIdle minuteLimits 1500 th 3601000) ∧
    ∃ th, run threadStep (threadStart 1 "thread" "client" "member" 1000)
        [.setAgent "agentMember" "agent", .event (text "client") 2000] = some th ∧
      th.lastSender = some .client ∧
      reported minuteLimits 1500 th.sess 62000 = some .client ∧
      ¬DetectsIdle minuteLimits 1500 th 62000 := by
  refine ⟨⟨_, rfl, rfl, by decide, by decide, ?_⟩, ⟨_, rfl, rfl, by decide, ?_⟩⟩
  · intro hdetects
    exact absurd (hdetects.no_dead_zone rfl (by decide)) (by decide)
  · intro hdetects
    exact hdetects.client_spared rfl (by decide)

end CallCenter.Queue.IMIdle
