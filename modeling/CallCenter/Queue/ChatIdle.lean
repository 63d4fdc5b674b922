import CallCenter.Chat.Named

/-!
# The idle timer of a chat

`InboundChatQueue.process` has one timer. Until the chat is bridged it limits the wait, and from
then on it fires every few seconds, so that the loop can compare how long each side has been silent
with the limits of its queue. The loop arms it again by hand, when the bridge is reported and when
no limit was exceeded. When one was, the loop asks the chat server to take the agent out, does not
look at the answer, and leaves the timer as it is.

The goroutine is a program counter, beside the goroutine of the chat events.
-/

namespace CallCenter.Queue.ChatIdle

open Chat Lib

/-! ## The goroutine -/

structure Settings where
  maxIdleClient : Int
  maxIdleAgent : Int
  maxIdleDialog : Int
  lastMessageTimeout : Bool

/-- `time.Timer`: it runs, or it has fired and nobody has received from its channel yet. -/
structure Timer where
  running : Bool
  fired : Bool

namespace Timer

def live (t : Timer) : Bool := t.running || t.fired

/-- `Reset`: what was in the channel is gone. -/
def reset : Timer := ⟨true, false⟩

def received (t : Timer) : Timer := { t with fired := false }

end Timer

/-- Where `process` is. The session of the agent, `aSess`, is an index. -/
inductive ProcessPc where
  | loop
  | wait
  | inviteInternal
  | top (aSess : Nat)
  | select (aSess : Nat)
  -- the branch of the timer: `conv.BridgedAt() > 0`, the three checks, the request
  | timeout (aSess : Nat)
  | idleAgent (aSess : Nat) | idleClient (aSess : Nat) | idleDialog (aSess : Nat)
  | leave (aSess : Nat)
  | done
  deriving DecidableEq

/-- The timer has been received from and not armed again yet. -/
def ProcessPc.checking : ProcessPc → Bool
  | .timeout _ | .idleAgent _ | .idleClient _ | .idleDialog _ | .leave _ => true
  | _ => false

structure World where
  chat : ChatWorld
  timer : Timer
  pc : ProcessPc
  /-- A `Leave` request has succeeded, and no closing event has been handled since. -/
  awaiting : Bool

def idleSec (c : Conversation) (i : Nat) (now : Int) : Int :=
  (now - c.sessions[i]?.elim 0 ChatSession.activityAt).tdiv 1000

def silentSec (c : Conversation) (now : Int) : Int := (now - c.lastMessageAt).tdiv 1000

namespace Settings

/-- The check of one side of the chat against its limit. -/
def exceeds (q : Settings) (limit : Int) (c : Conversation) (side other : Nat) (now : Int) : Bool :=
  decide (0 < limit) &&
    if q.lastMessageTimeout then
      decide (limit ≤ silentSec c now) && decide (idleSec c other now < idleSec c side now)
    else decide (limit ≤ idleSec c side now)

def agentIdles (q : Settings) (c : Conversation) (aSess : Nat) (now : Int) : Bool :=
  q.exceeds q.maxIdleAgent c aSess 0 now

def clientIdles (q : Settings) (c : Conversation) (aSess : Nat) (now : Int) : Bool :=
  q.exceeds q.maxIdleClient c 0 aSess now

def dialogIdles (q : Settings) (c : Conversation) (now : Int) : Bool :=
  decide (0 < q.maxIdleDialog) && decide (q.maxIdleDialog ≤ silentSec c now)

end Settings

namespace World

def setConv (w : World) (c : Conversation) : World := { w with chat := { w.chat with conv := c } }

def setStop (w : World) (now : Int) : World := w.setConv (w.chat.conv.setStop now)

def setActivity (w : World) (now : Int) : World :=
  w.setConv (w.chat.conv.modifySession 0 fun s => { s with activityAt := now })

def goto (w : World) (pc : ProcessPc) : World := { w with pc := pc }

def reset (w : World) : World := { w with timer := Timer.reset }

def closing (w : World) : Bool :=
  match w.chat.handler with
  | .handle (.leave _ _) => true
  | _ => false

def proceed (q : Settings) (w : World) (t : Tick) : Option World :=
  let c := w.chat.conv
  match w.pc with
  | .loop => some (w.goto (if c.active then .wait else .done))
  | .inviteInternal =>
    match w.chat.inviting with
    | .returned .ok => some (w.goto (.top (c.sessions.length - 1)))
    | .returned .special => some (w.goto .done)
    | .returned .failed => some (w.goto .wait)
    | _ => none
  | .top i =>
    let stopAt := c.sessions[i]?.elim 0 ChatSession.stopAt
    some (w.goto (if c.active && decide (stopAt = 0) then .select i else .loop))
  | .timeout i =>
    if 0 < c.bridgedAt then some (w.goto (.idleAgent i)) else some ((w.setStop t.now).goto (.top i))
  | .idleAgent i => some (w.goto (if q.agentIdles c i t.now then .leave i else .idleClient i))
  | .idleClient i => some (w.goto (if q.clientIdles c i t.now then .leave i else .idleDialog i))
  | .idleDialog i =>
    if q.dialogIdles c t.now then some (w.goto (.leave i)) else some (w.reset.goto (.top i))
  -- the answer of `Leave` is not looked at; `awaiting` remembers it
  | .leave i => some { w.goto (.top i) with awaiting := w.awaiting || t.ok }
  | .wait | .select _ | .done => none

/-- The outer select takes one of its cases; it has none for the states of the conversation. -/
def outerSelect (w : World) (t : Tick) : ChatWait → Option World
  | .cancel | .contextDone => some ((w.setStop t.now).goto .loop)
  | .agents =>
    -- `queue.GetTeam`
    if t.ok then
      if w.chat.uninvited then
        some ({ w with chat := { w.chat with inviting := .addSession } }.goto .inviteInternal)
      else none
    else some (w.goto .done)
  | .timeout =>
    if w.timer.fired then
      if 0 < w.chat.conv.bridgedAt then some (w.reset.goto .loop)
      else some (({ w with timer := w.timer.received }.setStop t.now).goto .loop)
    else none

def onState (w : World) (i : Nat) (t : Tick) : ChatState → World
  | .invite | .idle => w.goto (.top i)
  | .declined => w.goto .loop
  | .bridge => (w.setActivity t.now).reset.goto (.top i)
  | .close => (w.setStop t.now).goto (.top i)

def innerSelect (w : World) (i : Nat) (t : Tick) : ChatSignal → Option World
  | .cancel | .contextDone => some ((w.setStop t.now).goto (.top i))
  | .timeout =>
    if w.timer.fired then some ({ w with timer := w.timer.received }.goto (.timeout i)) else none
  | .state s =>
    match w.chat.conv.state with
    | sent :: rest =>
      if sent.state = s then
        some ((w.setConv { w.chat.conv with state := rest }).onState i t s)
      else none
    | [] => none

end World

inductive Label where
  | deliver (d : ChatEventData)
  | handle (t : Tick)
  | accept (inviteId : String) | invite (t : Tick)
  | evict
  | fire
  -- the steps of `process`
  | proceed (t : Tick) | outer (t : Tick) (case : ChatWait) | inner (t : Tick) (case : ChatSignal)

def World.step (q : Settings) (w : World) : Label → Option World
  | .deliver d => some { w with chat := { w.chat with events := w.chat.events ++ [d.event] } }
  | .handle t =>
    (w.chat.handle t).map fun chat =>
      { w with chat := chat, awaiting := w.awaiting && !w.closing }
  | .accept id => (chatStep w.chat (.accept id)).map fun chat => { w with chat := chat }
  | .invite t => (w.chat.invite t).map fun chat => { w with chat := chat }
  | .evict => some { w with chat := { w.chat with stored := false } }
  | .fire => if w.timer.running then some { w with timer := ⟨false, true⟩ } else none
  | .proceed t => w.proceed q t
  | .outer t case => if w.pc = .wait then w.outerSelect t case else none
  | .inner t case =>
    match w.pc with
    | .select i => w.innerSelect i t case
    | _ => none

/-- After `NewConversation`; the timer runs for the time an attempt may wait. -/
def start (inviterId : String) (now : Int) : World where
  chat := chatStart inviterId now
  timer := Timer.reset
  pc := .loop
  awaiting := false

/-! ## What keeps the conversation active -/

theorem setStop_inactive (c : Conversation) (t : Tick) : (c.setStop t.now).active = false := by
  grind [cases Conversation, cases Tick, Conversation.active, Conversation.setStop]

theorem closeAt_setNewMessage (c : Conversation) (id : String) (now : Int) :
    (c.setNewMessage id now).closeAt = c.closeAt := by
  unfold Conversation.setNewMessage
  dsimp only
  split <;> rfl

section Chat

variable {w w' : ChatWorld} {t : Tick}

theorem handled_closeAt (h : Handled w t w') :
    (∃ ts cause, w.handler = .handle (.leave ts cause) ∧ w'.conv.closeAt = ts)
    ∨ (∀ ts cause, w.handler ≠ .handle (.leave ts cause)) ∧ w'.conv.closeAt = w.conv.closeAt := by
  cases h with
  | leave ts cause hpc => exact .inl ⟨ts, cause, hpc, rfl⟩
  | message id hpc =>
    refine .inr ⟨fun ts cause heq => ?_, closeAt_setNewMessage w.conv id t.now⟩
    rw [hpc] at heq
    cases heq
  | sent s hpc hroom =>
    refine .inr ⟨fun ts cause heq => ?_, rfl⟩
    rw [heq] at hpc
    rcases hpc with hpc | hpc <;> cases hpc
  | _ =>
    refine .inr ⟨fun ts cause heq => ?_, rfl⟩
    simp_all

theorem invited_active (h : Invited w t w') (hactive : w'.conv.active = true) :
    w.conv.active = true := by
  have hfails : (w.inviteFails t).conv.active = true → w.conv.active = true := by
    grind [ChatWorld.inviteFails, setStop_inactive]
  cases h with
  | refused i hpc => exact hfails hactive
  | fails i id hpc => exact hfails hactive
  | _ => exact hactive

end Chat

/-! ## The chat is watched -/

/-- While the conversation is active, the timer will be received from, or the chat server has been
asked to close the conversation. -/
def World.Watched (w : World) : Prop :=
  w.chat.conv.active = true → w.timer.live = true ∨ w.awaiting = true

/-- The chat is watched whenever the timer is not just being looked at. -/
def World.Inv (w : World) : Prop := w.pc.checking = false → w.Watched

/-- The condition on a step. A `Leave` request of the loop succeeds, unless an earlier one that did
still awaits its event or the conversation is closed already; and a closing event has a timestamp,
unless the timer is live or just being looked at when it is handled. -/
def keepsWatch (w : World) : Label → Bool
  | .handle _ =>
    match w.chat.handler with
    | .handle (.leave ts _) => decide (ts ≠ 0) || w.timer.live || w.pc.checking
    | _ => true
  | .proceed t =>
    match w.pc with
    | .leave _ => t.ok || w.awaiting || !w.chat.conv.active
    | _ => true
  | _ => true

section Steps

variable {q : Settings} {w w' : World} {t : Tick}

theorem watched_setStop (w : World) (t : Tick) (pc : ProcessPc) :
    ((w.setStop t.now).goto pc).Watched := fun h =>
  absurd ((setStop_inactive w.chat.conv t).symm.trans h) Bool.false_ne_true

theorem watched_reset (w : World) (pc : ProcessPc) : (w.reset.goto pc).Watched :=
  fun _ => .inl rfl

theorem inv_handle (hinv : w.Inv) (hok : keepsWatch w (.handle t) = true)
    (h : w.step q (.handle t) = some w') : w'.Inv := by
  obtain ⟨chat, hchat, rfl⟩ := Option.map_eq_some_iff.mp h
  intro hpc hactive
  rcases handled_closeAt (Chat.handle_cases hchat) with ⟨ts, cause, hleave, hclose⟩ | ⟨hno, hclose⟩
  · -- the conversation is closed, unless the event has no timestamp
    have hts : ts = 0 := hclose.symm.trans (of_decide_eq_true hactive)
    grind [keepsWatch]
  · have hwas : w.chat.conv.active = true := by
      unfold Conversation.active at hactive ⊢
      rwa [hclose] at hactive
    rcases hinv hpc hwas with hlive | hawaiting
    all_goals grind [World.closing]

theorem inv_proceed (hinv : w.Inv) (hok : keepsWatch w (.proceed t) = true)
    (h : w.proceed q t = some w') : w'.Inv := by
  unfold World.proceed at h
  dsimp only at h
  cases hpc : w.pc with
  | loop =>
    rw [hpc] at h
    cases h
    exact fun _ => hinv (by rw [hpc]; rfl)
  | inviteInternal =>
    rw [hpc] at h
    have hwatched : w.Watched := hinv (by rw [hpc]; rfl)
    dsimp only at h
    split at h
    · cases h
      exact fun _ => hwatched
    · cases h
      exact fun _ => hwatched
    · cases h
      exact fun _ => hwatched
    · cases h
  | top i =>
    rw [hpc] at h
    cases h
    exact fun _ => hinv (by rw [hpc]; rfl)
  | timeout i =>
    rw [hpc] at h
    dsimp only at h
    by_cases hbridged : 0 < w.chat.conv.bridgedAt
    · rw [if_pos hbridged] at h
      cases h
      exact fun hno => absurd hno Bool.noConfusion
    · rw [if_neg hbridged] at h
      cases h
      exact fun _ => watched_setStop w t _
  | idleAgent i | idleClient i =>
    rw [hpc] at h
    cases h
    intro hno
    revert hno
    show ProcessPc.checking (ite _ _ _) = false → _
    split <;> exact fun hno => absurd hno Bool.noConfusion
  | idleDialog i =>
    rw [hpc] at h
    dsimp only at h
    split at h
    · cases h
      exact fun hno => absurd hno Bool.noConfusion
    · cases h
      exact fun _ => watched_reset w _
  | leave i =>
    rw [hpc] at h
    cases h
    intro _ hactive
    simp only [keepsWatch, hpc, Bool.or_eq_true, Bool.not_eq_true'] at hok
    rcases hok with (hsent | hawaiting) | hclosed
    · exact .inr (by rw [hsent, Bool.or_true])
    · exact .inr (by rw [hawaiting, Bool.true_or])
    · exact absurd (hclosed.symm.trans hactive) Bool.false_ne_true
  | wait | select i | done =>
    rw [hpc] at h
    cases h

theorem inv_outerSelect {case : ChatWait} (hwatched : w.Watched)
    (h : w.outerSelect t case = some w') : w'.Inv := by
  cases case with
  | cancel | contextDone =>
    cases h
    exact fun _ => watched_setStop w t _
  | agents =>
    unfold World.outerSelect at h
    dsimp only at h
    split at h
    · obtain ⟨_, rfl⟩ := of_guard h
      exact fun _ => hwatched
    · cases h
      exact fun _ => hwatched
  | timeout =>
    unfold World.outerSelect at h
    dsimp only at h
    split at h
    · split at h
      · cases h
        exact fun _ => watched_reset w _
      · cases h
        exact fun _ => watched_setStop _ t _
    · cases h

theorem inv_onState {i : Nat} (s : ChatState) (hwatched : w.Watched) : (w.onState i t s).Inv := by
  cases s with
  | invite | idle | declined => exact fun _ => hwatched
  | bridge => exact fun _ => watched_reset _ _
  | close => exact fun _ => watched_setStop w t _

theorem inv_innerSelect {i : Nat} {case : ChatSignal} (hwatched : w.Watched)
    (h : w.innerSelect i t case = some w') : w'.Inv := by
  cases case with
  | cancel | contextDone =>
    cases h
    exact fun _ => watched_setStop w t _
  | timeout =>
    obtain ⟨_, rfl⟩ := of_guard h
    exact fun hno => absurd hno Bool.noConfusion
  | state s =>
    unfold World.innerSelect at h
    dsimp only at h
    split at h
    · obtain ⟨_, rfl⟩ := of_guard h
      exact inv_onState s hwatched
    · cases h

theorem inv_step {l : Label} (hinv : w.Inv) (hok : keepsWatch w l = true)
    (h : w.step q l = some w') : w'.Inv := by
  cases l with
  | deliver d =>
    cases h
    exact hinv
  | handle t => exact inv_handle hinv hok h
  | accept id =>
    obtain ⟨chat, hchat, rfl⟩ := Option.map_eq_some_iff.mp h
    rcases chatStep_cases hchat with hs | ⟨t, hl, _⟩ | ⟨t, hl, _⟩
    · cases hs
      exact hinv
    · cases hl
    · cases hl
  | invite t =>
    obtain ⟨chat, hchat, rfl⟩ := Option.map_eq_some_iff.mp h
    exact fun hpc hactive => hinv hpc (invited_active (invite_cases hchat) hactive)
  | evict =>
    cases h
    exact hinv
  | fire =>
    obtain ⟨_, rfl⟩ := of_guard h
    exact fun _ _ => .inl rfl
  | proceed t => exact inv_proceed hinv hok h
  | outer t case =>
    obtain ⟨hpc, h⟩ := Option.ite_none_right_eq_some.mp h
    exact inv_outerSelect (hinv (by rw [hpc]; rfl)) h
  | inner t case =>
    unfold World.step at h
    dsimp only at h
    split at h
    · next i hpc => exact inv_innerSelect (hinv (by rw [hpc]; rfl)) h
    · cases h

end Steps

/-- **A silent chat is not forgotten.** For every settings of the queue and every run of the loop
beside the events of its conversation, whenever the loop is in its inner select while the
conversation is active and bridged, its timer is live or a `Leave` request that succeeded still
awaits the event of the closed conversation. -/
theorem silent_chat_watched (q : Settings) (inviterId : String) (now : Int) (ls : List Label)
    (w : World)
    (hok : Along (World.step q) (fun w l => keepsWatch w l = true) (start inviterId now) ls)
    (hrun : run (World.step q) (start inviterId now) ls = some w) :
    ∀ i, w.pc = .select i → w.chat.conv.active = true → 0 < w.chat.conv.bridgedAt →
      w.timer.live = true ∨ w.awaiting = true := by
  have hstart : (start inviterId now).Inv := fun _ _ => .inl rfl
  have hinv : w.Inv :=
    run_invariant (fun _ _ _ hinv hok h => inv_step hinv hok h) ls hstart hok hrun
  intro i hpc hactive _
  exact hinv (by rw [hpc]; rfl) hactive

/-! ## A bridged chat that falls silent -/

def idleMinute : Settings := ⟨0, 60, 0, false⟩

def atSecond (n : Nat) (ok : Bool) : Tick where
  now := (n + 1) * 1000
  ok := ok
  notFound := false
  timeout := false
  now_pos := by omega

def bridgedChat : List Label :=
  let t := atSecond 0 true
  let t' := atSecond 1 true
  [.proceed t, .outer t .agents, .invite t, .accept "i1", .invite t, .invite t, .invite t,
    .proceed t, .proceed t, .inner t (.state .invite), .proceed t,
    .deliver ⟨"join_conversation", none, some (some "i1"), none, some 2000, none⟩,
    .handle t', .handle t', .handle t', .handle t', .handle t', .inner t' (.state .bridge),
    .proceed t']

/-- Nobody writes, and the timer fires after the limit; the request gets this answer. -/
def idleFor (ok : Bool) : List Label :=
  let t := atSecond 90 true
  [.fire, .inner t .timeout, .proceed t, .proceed t, .proceed (atSecond 90 ok), .proceed t]

theorem bridgedChat_watched :
    ∃ w, run (World.step idleMinute) (start "m" 1000) (bridgedChat ++ idleFor true) = some w
      ∧ w.pc = .select 1 ∧ w.chat.conv.active = true ∧ 0 < w.chat.conv.bridgedAt
      ∧ (w.timer.live = true ∨ w.awaiting = true) := by
  obtain ⟨w, hw⟩ := Option.isSome_iff_exists.mp
    (show (run (World.step idleMinute) (start "m" 1000) (bridgedChat ++ idleFor true)).isSome = true
      from rfl)
  have hend : (run (World.step idleMinute) (start "m" 1000) (bridgedChat ++ idleFor true)).map
      (fun w => (w.pc, w.chat.conv.active, w.chat.conv.bridgedAt))
      = some (.select 1, true, 2000) := rfl
  rw [hw] at hend
  obtain ⟨hpc, hactive, hbridged⟩ : w.pc = .select 1 ∧ w.chat.conv.active = true
      ∧ w.chat.conv.bridgedAt = 2000 := by
    simpa using hend
  have hpos : 0 < w.chat.conv.bridgedAt := by
    rw [hbridged]
    decide
  exact ⟨w, hw, hpc, hactive, hpos,
    silent_chat_watched idleMinute "m" 1000 _ w (by decide) hw 1 hpc hactive hpos⟩

/-- The request fails: the loop waits again, the timer does not run, and nobody has been asked to
close the conversation. -/
theorem failed_leave_forgets :
    (run (World.step idleMinute) (start "m" 1000) (bridgedChat ++ idleFor false)).map
      (fun w => (w.pc, w.chat.conv.active, decide (0 < w.chat.conv.bridgedAt), w.timer.live,
        w.awaiting))
      = some (.select 1, true, true, false, false) := rfl

end CallCenter.Queue.ChatIdle
