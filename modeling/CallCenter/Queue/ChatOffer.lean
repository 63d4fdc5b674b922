import CallCenter.Chat.ChatWorld
import CallCenter.Queue.WaitQueues

/-!
# A chat and the goroutine of its queue

`InboundChatQueue.process` beside the goroutine of the chat events. The goroutine of the queue is a
program; what it reads of the conversation is what the conversation holds at that moment, a select
takes the next state out of the channel, and `InviteInternal` is the one in the world of the
conversation.

What the goroutine holds of the agent is its own: the selects tell it. The world only keeps which
session is that of the last invite, and how far the goroutine has got with a `Declined`.

`conv.SetStop()` belongs to what the selects receive (a cancel, a closed context, the close of the
chat) and to the question of the timer whether the chat is bridged.
-/

namespace CallCenter.Queue

open Lib Chat

/-- What has become of a `Declined` that was received: the agent is counted as missed by
`MissedAgentAndWaitingAttempt`, and then the attempt waits for an agent again. -/
inductive DeclineStage where
  | settled
  | received
  | missed
  deriving DecidableEq

namespace DeclineStage

def after (s : DeclineStage) : Exchange Action.Reply → DeclineStage
  | ⟨.select (.chat _), .state .declined⟩ => received
  | ⟨.store .setAttemptMissedAgent, _⟩ => if s = received then missed else s
  | ⟨.setState .waitAgent, _⟩ => if s = missed then settled else s
  | _ => s

/-- The requests of a goroutine that handles a `Declined`. -/
def asks : DeclineStage → Action → Bool
  | settled, _ => true
  | received, .store .setAttemptMissedAgent => true
  | missed, .read (.attempt .maxNoAnswer) | missed, .rpc .setAgentBreakOut
  | missed, .setState .missed | missed, .rpc .publish | missed, .clearAgent
  | missed, .setState .waitAgent => true
  | _, _ => false

end DeclineStage

structure OfferWorld where
  prog : Go Unit
  chat : ChatWorld
  /-- `conv.LastSession()` after the last `InviteInternal` that succeeded. -/
  aSess : Option Nat
  stage : DeclineStage

namespace OfferWorld

def session (w : OfferWorld) : Option ChatSession := w.aSess.bind fun i => w.chat.conv.sessions[i]?

def setStop (w : OfferWorld) (now : Int) : OfferWorld :=
  { w with chat := { w.chat with conv := w.chat.conv.setStop now } }

def agreesConv (w : OfferWorld) (f : ConvField) (v : Bool) : Prop :=
  match f with
  | .active => v = w.chat.conv.active
  | .bridgedAt => v = decide (0 < w.chat.conv.bridgedAt)
  | .agentStopAt => ∃ s ∈ w.session, v = decide (s.stopAt ≠ 0)
  | .causeTransfer => v = decide (w.chat.conv.cause = "transfer")
  | .causeClientLeave => v = decide (w.chat.conv.cause = "client_leave")
  | .causeEmpty => v = decide (w.chat.conv.cause = "")
  | .reportingAt | .idleAgent | .idleClient | .idleDialog => True

instance (w : OfferWorld) (f : ConvField) (v : Bool) : Decidable (w.agreesConv f v) := by
  unfold agreesConv
  cases f <;> infer_instance

def receives (w : OfferWorld) (now : Int) : ChatState → OfferWorld
  | .close => w.setStop now
  | .idle | .invite | .declined | .bridge => w

def invited (w : OfferWorld) : InviteReply → OfferWorld
  | .ok => { w with aSess := some (w.chat.conv.sessions.length - 1) }
  | .special | .failed => w

/-- The world after an exchange of the goroutine, if it is possible. -/
def exchange (w : OfferWorld) (now : Int) : Exchange Action.Reply → Option OfferWorld
  | ⟨.rpc .newConversation, ok⟩ => some { w with chat := { w.chat with stored := ok } }
  | ⟨.rpc .removeConversation, _⟩ => some { w with chat := { w.chat with stored := false } }
  | ⟨.read (.conv f), v⟩ =>
    if w.agreesConv f v then
      -- the timer stops a chat that is not bridged
      some (if f = .bridgedAt ∧ v = false then w.setStop now else w)
    else none
  | ⟨.select (.waitChat _), s⟩ =>
    match s with
    | .cancel | .contextDone => some (w.setStop now)
    | .agents | .timeout => some w
  | ⟨.select (.chat _), s⟩ =>
    match s with
    | .cancel | .contextDone => some (w.setStop now)
    | .timeout => some w
    | .state s =>
      match w.chat.conv.state with
      | [] => none
      | m :: rest =>
        if m.state = s then
          some (receives
            { w with chat := { w.chat with conv := { w.chat.conv with state := rest } } } now s)
        else none
  | ⟨.inviteInternal, r⟩ =>
    if w.chat.inviting = .returned r then
      some (invited { w with chat := { w.chat with inviting := .idle } } r)
    else none
  | _ => some w

def goesOn (w : OfferWorld) (p : Go Unit) (s : DeclineStage) : OfferWorld :=
  { w with prog := p, stage := s }

/-- The goroutine is in the select of its loop for a chat with an agent. -/
def talks (w : OfferWorld) : Prop := ∃ held, w.prog.asking = some (.select (.chat held))

instance (w : OfferWorld) : Decidable w.talks := decidable_of_iff _ Bool.exists_bool.symm

/-- Which steps around the conversation happen by themselves: the goroutine of the queue calls
`InviteInternal` when it is there, and receives by its own selects. -/
def allows (w : OfferWorld) : ChatLabel → Prop
  | .invite => w.prog.asking = some .inviteInternal ∧ w.chat.inviting = .idle
  | .receive => False
  | _ => True

instance (w : OfferWorld) : ∀ l, Decidable (w.allows l)
  | .invite => inferInstanceAs (Decidable (_ ∧ _))
  | .receive => .isFalse id
  | .accept _ | .reply _ _ _ | .event _ | .handle _ | .advance _ | .evict => .isTrue trivial

end OfferWorld

inductive OfferLabel where
  | chat (l : ChatLabel)
  | go (t : Tick) (e : Exchange Action.Reply)

def offerStep (w : OfferWorld) : OfferLabel → Option OfferWorld
  | .chat l =>
    if w.allows l then (chatStep w.chat l).map fun c => { w with chat := c } else none
  | .go t e =>
    (w.prog.step e).bind fun p => (w.exchange t.now e).map fun w' => w'.goesOn p (w.stage.after e)

/-- `process` starts; the conversation is not in the store before `NewConversation`. -/
def offerStart (q : QueueConfig) (rounds : Nat) (inviterId : String) (now : Int) :
    OfferWorld where
  prog := InboundChatQueue.process q rounds
  chat := { chatStart inviterId now with stored := false }
  aSess := none
  stage := .settled

end CallCenter.Queue
