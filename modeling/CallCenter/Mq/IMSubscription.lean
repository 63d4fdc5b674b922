import CallCenter.Mq.FanIn
import CallCenter.IM.Client

/-!
# The IM subscription

The goroutine of `subscribeIM` reads the deliveries of a queue of its own without automatic
acknowledgement, hands their messages to the IM stream and acknowledges at the end of the turn. An
echo goes on to the next turn before that, and a transfer is sent on the channel directly where all
others go through `enqueue`, which gives up after its limit.

Time passes while the goroutine is blocked. Deliveries are numbered as they are read.
-/

namespace CallCenter.Mq

open Lib IM

structure BotGranted where
  threadId : String
  reason : String
  agents : List String

/-- A delivery, with what `json.Unmarshal` makes of its body for each of the three types; it fails
for `none`, and for the wrapper its error is not looked at. -/
structure ImDelivery where
  exchange : String
  routingKey : List Char
  echo : Bool
  message : IMMessage
  granted : Option BotGranted
  released : Option String

/-- What a turn does before the acknowledgement. -/
inductive Handling where
  | skip
  | nothing
  | enqueue (msg : IMMessage)
  | send (msg : IMMessage)
  deriving DecidableEq

/-- A message of the switch of control, with the id of the member it was transferred to. -/
def systemMessage (threadId type transferred : String) : IMMessage :=
  ⟨threadId, "", some ⟨type, ⟨"", transferred⟩⟩⟩

def isThreadEvent (routingKey : List Char) (event : String) : Bool :=
  "im_thread.".toList.isPrefixOf routingKey && event.toList.isSuffixOf routingKey

def ImDelivery.handling (d : ImDelivery) : Handling :=
  if d.exchange = "im_delivery.broadcast" then
    if d.echo then .skip else .enqueue d.message
  else if d.exchange = "im_message.events" then
    if isThreadEvent d.routingKey ".bot.control.granted.v1" then
      match d.granted with
      | none => .nothing
      | some grm =>
        match if grm.reason = "transfer" then grm.agents.head? else none with
        | some agent => .send (systemMessage grm.threadId grm.reason agent)
        | none => .enqueue (systemMessage grm.threadId imSystemTypeBotControlGranted "")
    else if isThreadEvent d.routingKey ".bot.control.released.v1" then
      match d.released with
      | none => .nothing
      | some threadId => .enqueue (systemMessage threadId imSystemTypeBotControlReleased "")
    else .nothing
  else .nothing

structure Subscription where
  stream : Stream IMMessage
  read : Nat
  /-- The last of them is still in hand. -/
  inHand : Bool
  waited : Nat
  settled : List Nat

def Subscription.start : Subscription := ⟨.empty, 0, false, 0, []⟩

inductive SubscriptionLabel where
  | deliver (d : ImDelivery)
  /-- The goroutine goes on in `enqueue` or in its send, or the consumer receives. -/
  | stream (l : StreamLabel IMMessage)
  | ack
  | tick

/-- Time passes: the goroutine cannot send, and its timer, if it has one, has not fired. -/
def Subscription.blocked (cap limit : Nat) (s : Subscription) : Bool :=
  match s.stream.pc with
  | .wait msg _ => (s.stream.trySend cap msg).isNone && s.waited < limit
  | .send msg _ => (s.stream.trySend cap msg).isNone
  | _ => false

def Subscription.read1 (s : Subscription) (stream : Stream IMMessage) : Subscription :=
  { s with stream := stream, read := s.read + 1, inHand := true, waited := 0 }

def subscriptionStep (cap limit : Nat) (s : Subscription) :
    SubscriptionLabel → Option Subscription
  | .deliver d =>
    if s.inHand then none
    else match d.handling with
      | .skip => some { s with read := s.read + 1, waited := 0 }
      | .nothing => some (s.read1 s.stream)
      | .enqueue msg => (streamStep cap s.stream (.enqueue msg)).map s.read1
      | .send msg => (streamStep cap s.stream (.offer msg)).map s.read1
  | .stream l =>
    if l.starts = false ∧ (l = .expire → limit ≤ s.waited) then
      (streamStep cap s.stream l).map fun stream => { s with stream := stream }
    else none
  | .ack =>
    if s.inHand ∧ s.stream.pc = .idle then
      some { s with inHand := false, settled := s.settled ++ [s.read - 1] }
    else none
  | .tick => if s.blocked cap limit then some { s with waited := s.waited + 1 } else none

/-- Every delivery but the one in hand is settled, once and in order, and none has made the
goroutine wait longer than the limit. -/
structure SettledOnce (limit : Nat) (s : Subscription) : Prop where
  once : s.settled ++ (if s.inHand then [s.read - 1] else []) = List.range s.read
  waits : s.waited ≤ limit

/-- The delivery is no echo, and if it is a transfer the channel has room for it. -/
def Smooth (cap : Nat) (s : Subscription) : SubscriptionLabel → Prop
  | .deliver d => match d.handling with
    | .skip => False
    | .send msg => (s.stream.trySend cap msg).isSome
    | _ => True
  | _ => True

def SendsThrough (cap : Nat) (st : Stream IMMessage) : Prop :=
  ∀ msg full, st.pc = .send msg full → (st.trySend cap msg).isSome

variable {cap limit : Nat} {s s' : Subscription} {st st' : Stream IMMessage}

theorem trySend_isSome_iff {msg : IMMessage} :
    (st.trySend cap msg).isSome ↔ st.receiving = true ∨ st.buffer.length < cap := by
  unfold Stream.trySend
  by_cases hreceiving : st.receiving = true
  · simp [hreceiving]
  · by_cases hroom : st.buffer.length < cap
    · simp [hreceiving, hroom]
    · simp [hreceiving, hroom]

theorem sendsThrough_step (h : SendsThrough cap st) {l : StreamLabel IMMessage}
    (hl : l.starts = false) (hstep : streamStep cap st l = some st') : SendsThrough cap st' := by
  intro msg full hpc
  cases l with
  | enqueue | offer => cases hl
  | receive =>
    unfold streamStep at hstep
    dsimp only at hstep
    split at hstep
    · cases hstep
    · rename_i hreceiving
      split at hstep
      · rw [← Option.some.inj hstep, trySend_isSome_iff]
        exact .inl rfl
      · rename_i first rest hbuffer
        rw [← Option.some.inj hstep] at hpc ⊢
        have hroom := trySend_isSome_iff.mp (h msg full hpc)
        rw [hbuffer] at hroom
        rw [trySend_isSome_iff]
        exact .inr (Nat.lt_of_succ_lt (hroom.resolve_left hreceiving))
  | _ => grind [streamStep, Stream.ends, Option.map_eq_some_iff]

theorem settledOnce_deliver {d : ImDelivery} (h : SettledOnce limit s)
    (hpc : SendsThrough cap s.stream) (hok : Smooth cap s (.deliver d))
      (hs : subscriptionStep cap limit s (.deliver d) = some s') :
    SettledOnce limit s' ∧ SendsThrough cap s'.stream := by
  have hread : ∀ stream, s.inHand = false → SettledOnce limit (s.read1 stream) := by
    intro stream hfree
    have honce := h.once
    rw [hfree] at honce
    refine ⟨?_, Nat.zero_le limit⟩
    show s.settled ++ [s.read + 1 - 1] = List.range (s.read + 1)
    rw [List.range_succ, Nat.add_sub_cancel, ← honce]
    simp
  obtain ⟨hfree, hs⟩ := Option.ite_none_left_eq_some.mp hs
  have hfree : s.inHand = false := by simpa using hfree
  unfold Smooth at hok
  cases hhandling : d.handling with
  | skip => simp [hhandling] at hok
  | nothing =>
    simp only [hhandling] at hs
    cases hs
    exact ⟨hread _ hfree, hpc⟩
  | enqueue msg =>
    simp only [hhandling] at hs
    obtain ⟨st, hst, rfl⟩ := Option.map_eq_some_iff.mp hs
    refine ⟨hread st hfree, fun msg' full hsend => ?_⟩
    grind [streamStep, Subscription.read1]
  | send msg =>
    simp only [hhandling] at hs hok
    obtain ⟨st, hst, rfl⟩ := Option.map_eq_some_iff.mp hs
    refine ⟨hread st hfree, fun msg' full _ => ?_⟩
    have hroom := trySend_isSome_iff.mp hok
    have hsame : st.receiving = s.stream.receiving ∧ st.buffer = s.stream.buffer := by
      grind [streamStep]
    rw [trySend_isSome_iff]
    show st.receiving = true ∨ st.buffer.length < cap
    rw [hsame.1, hsame.2]
    exact hroom

theorem settledOnce_step {label : SubscriptionLabel} (h : SettledOnce limit s)
    (hpc : SendsThrough cap s.stream) (hok : Smooth cap s label)
    (hs : subscriptionStep cap limit s label = some s') :
    SettledOnce limit s' ∧ SendsThrough cap s'.stream := by
  cases label with
  | deliver d => exact settledOnce_deliver h hpc hok hs
  | stream l =>
    obtain ⟨⟨hl, -⟩, hs⟩ := Option.ite_none_right_eq_some.mp hs
    obtain ⟨st, hst, rfl⟩ := Option.map_eq_some_iff.mp hs
    exact ⟨⟨h.once, h.waits⟩, sendsThrough_step hpc hl hst⟩
  | ack =>
    obtain ⟨⟨hinHand, -⟩, rfl⟩ := of_guard hs
    have honce := h.once
    rw [if_pos hinHand] at honce
    exact ⟨⟨(List.append_nil _).trans honce, h.waits⟩, hpc⟩
  | tick =>
    obtain ⟨hblocked, rfl⟩ := of_guard hs
    refine ⟨⟨h.once, ?_⟩, hpc⟩
    show s.waited + 1 ≤ limit
    unfold Subscription.blocked at hblocked
    split at hblocked
    · have hlt := (Bool.and_eq_true_iff.mp hblocked).2
      exact of_decide_eq_true hlt
    · rename_i msg full hsend
      have hroom := hpc msg full hsend
      rw [Option.isNone_iff_eq_none.mp hblocked] at hroom
      cases hroom
    · cases hblocked

/-- **Deliveries are settled once and do not hold up the subscription** in every run that reads no
echo, and reads a transfer only when the channel has room. -/
theorem im_deliveries_settled (labels : List SubscriptionLabel)
    (halong : Along (subscriptionStep cap limit) (Smooth cap) .start labels)
    (hrun : run (subscriptionStep cap limit) .start labels = some s) : SettledOnce limit s := by
  have hstart : SettledOnce limit .start ∧ SendsThrough cap Subscription.start.stream :=
    ⟨⟨rfl, Nat.zero_le limit⟩, nofun⟩
  exact (run_invariant (fun _ _ _ h hok hs => settledOnce_step h.1 h.2 hok hs) labels hstart halong
    hrun).1

def broadcast (echo : Bool) : ImDelivery :=
  ⟨"im_delivery.broadcast", [], echo, ⟨"t", "s", none⟩, none, none⟩

def enqueueTimeout : Nat := 2

def messageTurn : List SubscriptionLabel :=
  [.deliver (broadcast false), .stream .trySend, .stream .compareAndSwap, .ack]

theorem message_settled :
    ∃ s, run (subscriptionStep 1 enqueueTimeout) .start messageTurn = some s
      ∧ s.settled = [0] ∧ SettledOnce enqueueTimeout s := by
  have hrun : (run (subscriptionStep 1 enqueueTimeout) .start messageTurn).map Subscription.settled
      = some [0] := rfl
  obtain ⟨s, hs, hsettled⟩ := Option.map_eq_some_iff.mp hrun
  have halong : Along (subscriptionStep 1 enqueueTimeout) (Smooth 1) .start messageTurn :=
    ⟨trivial, fun _ _ => ⟨trivial, fun _ _ => ⟨trivial, fun _ _ => ⟨trivial, fun _ _ => trivial⟩⟩⟩⟩
  exact ⟨s, hs, hsettled, im_deliveries_settled messageTurn halong hs⟩

def transferGranted : ImDelivery :=
  ⟨"im_message.events", "im_thread.t.bot.control.granted.v1".toList, false, ⟨"", "", none⟩,
    some ⟨"t", "transfer", ["m"]⟩, none⟩

/-- The echo is read and never settled; and after a hundred messages that nobody reads, the transfer
is waited for beyond the limit. -/
theorem im_deliveries_stall :
    (run (subscriptionStep 100 enqueueTimeout) .start [.deliver (broadcast true)]).map
        (fun s => (s.read, s.inHand, s.settled)) = some (1, false, [])
      ∧ (run (subscriptionStep 100 enqueueTimeout) .start
        ((List.replicate 100 messageTurn).flatten
          ++ [.deliver transferGranted, .tick, .tick, .tick])).map
        (fun s => (s.stream.buffer.length, s.waited)) = some (100, 3) := by
  decide +kernel

end CallCenter.Mq
