import CallCenter.IM.Client
import CallCenter.Lib.Run

/-!
# The sessions of all threads

The client holds the sessions of all threads in one list. Its event loop takes a message, collects
the sessions of the message's thread, and hands the message to one after the other, while queues
make and close sessions, and agents join. While an attempt is transferred there are two sessions on
the thread.

The comment in `handleEvent` says that only the client's leaving ends the conversation. The code
cancels a session also when the event names the session's agent.
-/

namespace CallCenter.IM

open Lib

def newSession (tagId : Int) (threadId subMember memberId : String) (now : Int) : Session where
  tagId := tagId
  threadId := threadId
  agentMemberId := ""
  clientMemberId := memberId
  subMember := subMember
  userId := ""
  lastMessageAt := now
  lastMessageAtFromMember := 0
  lastMessageAtFromAgent := 0
  botActive := false
  done := false

def Session.markUserJoined (s : Session) (userId : String) : Session := { s with userId := userId }

def Session.bridged (s : Session) : Bool := s.userId ≠ ""

/-- Sessions are pointers: `sessions` has all that were ever made, by their addresses, `threads`
those the client holds, and `inHand` what the event loop is still to do with its message. -/
structure Client where
  sessions : List Session
  threads : List Nat
  inHand : List (IMMessage × Nat)

def newClient : Client := ⟨[], [], []⟩

namespace Client

def threadSessions (c : Client) (threadId : String) : List Nat :=
  c.threads.filter fun a => c.sessions[a]?.any fun s => s.threadId = threadId

/-- `BridgedSession`: the last session of the thread that an agent has joined. -/
def bridgedSession (c : Client) (threadId : String) : Option Nat :=
  c.threads.reverse.find? fun a =>
    c.sessions[a]?.any fun s => decide (s.threadId = threadId) && s.bridged

def closeSession (c : Client) (threadId : String) (tagId : Int) : Client :=
  { c with threads := c.threads.filter fun a =>
      !c.sessions[a]?.any fun s => decide (s.threadId = threadId) && decide (s.tagId = tagId) }

def addSession (c : Client) (s : Session) : Client :=
  { c with sessions := c.sessions ++ [s], threads := c.threads ++ [c.sessions.length] }

def onSession (c : Client) (a : Nat) (f : Session → Session) : Client :=
  { c with sessions := c.sessions.modify a f }

end Client

inductive ClientLabel where
  | receive (msg : IMMessage)
  | handle (now : Int)
  | newSession (tagId : Int) (threadId subMember memberId : String) (now : Int)
  /-- `AddMemberUser`, `TransferMemberUser` or `UpgradePreviewUser`, once the gateway answers. -/
  | setAgent (a : Nat) (memberId userId : String)
  | markUserJoined (a : Nat) (userId : String)
  | closeSession (threadId : String) (tagId : Int)
  | contextDone (a : Nat)
  deriving DecidableEq

def clientStep (c : Client) : ClientLabel → Option Client
  | .receive msg =>
    if c.inHand = [] then
      some { c with inHand := (c.threadSessions msg.threadId).map fun a => (msg, a) }
    else none
  | .handle now =>
    match c.inHand with
    | [] => none
    | (msg, a) :: rest => some { c.onSession a (handleEvent · msg now) with inHand := rest }
  | .newSession tagId threadId subMember memberId now =>
    some (c.addSession (IM.newSession tagId threadId subMember memberId now))
  | .setAgent a memberId userId => some (c.onSession a (·.setAgent memberId userId))
  | .markUserJoined a userId => some (c.onSession a (·.markUserJoined userId))
  | .closeSession threadId tagId => some (c.closeSession threadId tagId)
  | .contextDone a => some (c.onSession a Session.cancel)

/-! ## Who an event names -/

def IMMessage.Names (msg : IMMessage) (memberId : String) : Prop :=
  ∃ sys, msg.system = some sys ∧ (sys.type = "member_removed" ∨ sys.type = "transfer")
    ∧ memberId ≠ "" ∧ (sys.metadata.removedMemberId = memberId
      ∨ sys.metadata.transferredMemberId = memberId)

instance (msg : IMMessage) (memberId : String) : Decidable (msg.Names memberId) :=
  match h : msg.system with
  | none => .isFalse fun ⟨_, hsys, _⟩ => Option.some_ne_none _ (hsys.symm.trans h)
  | some sys => decidable_of_iff ((sys.type = "member_removed" ∨ sys.type = "transfer")
      ∧ memberId ≠ "" ∧ (sys.metadata.removedMemberId = memberId
        ∨ sys.metadata.transferredMemberId = memberId))
      ⟨fun hnames => ⟨sys, h, hnames⟩, fun ⟨_, hsys, hnames⟩ =>
        Option.some.inj (hsys.symm.trans h) ▸ hnames⟩

theorem endsSession_iff {sess : Session} {msg : IMMessage} :
    endsSession sess msg = true
      ↔ msg.Names sess.clientMemberId ∨ msg.Names sess.agentMemberId := by
  grind [IMMessage.Names, IMSystem.affectsMember, endsSession]

theorem handleEvent_clientMemberId (sess : Session) (msg : IMMessage) (now : Int) :
    (handleEvent sess msg now).clientMemberId = sess.clientMemberId := by
  have hbot : ∀ active, (sess.setBotActive active now).clientMemberId = sess.clientMemberId := by
    intro active
    unfold Session.setBotActive
    dsimp only
    split <;> rfl
  have hmessage : (sess.onMessage msg.fromSub now).clientMemberId = sess.clientMemberId := by
    unfold Session.onMessage
    dsimp only
    split
    · rfl
    · split <;> rfl
  unfold handleEvent
  split
  · exact hmessage
  · split
    · exact hbot true
    · split
      · exact hbot false
      · split
        · dsimp only
          split <;> rfl
        · exact hmessage

/-- An event in the hands of a live session names its agent only together with its client. -/
def SparesAgent (c : Client) : ClientLabel → Prop
  | .handle _ => ∀ msg a rest, c.inHand = (msg, a) :: rest → ∀ s ∈ c.sessions[a]?, s.done = false →
      msg.Names s.agentMemberId → msg.Names s.clientMemberId
  | _ => True

instance (c : Client) : ∀ l, Decidable (SparesAgent c l)
  | .handle _ =>
    match h : c.inHand with
    | [] => .isTrue fun _ _ _ hhand => absurd (h.symm.trans hhand) (List.cons_ne_nil _ _).symm
    | (msg, a) :: rest => decidable_of_iff (∀ s ∈ c.sessions[a]?, s.done = false →
        msg.Names s.agentMemberId → msg.Names s.clientMemberId)
        ⟨fun hspares _ _ _ hhand => by
          cases h.symm.trans hhand
          exact hspares,
        fun hspares => hspares msg a rest h⟩
  | .receive _ | .newSession _ _ _ _ _ | .setAgent _ _ _ | .markUserJoined _ _
  | .closeSession _ _ | .contextDone _ => .isTrue trivial

/-- A step cancels a live session exactly if it handles an event that names the session's client,
or it is the session's context that is cancelled. -/
def EndsByClient (c : Client) (l : ClientLabel) (c' : Client) : Prop :=
  ∀ a, ∀ s ∈ c.sessions[a]?, s.done = false → ∀ s' ∈ c'.sessions[a]?, l ≠ .contextDone a →
    (s'.done = true ↔ ∃ msg rest now, l = .handle now ∧ c.inHand = (msg, a) :: rest
      ∧ msg.Names s.clientMemberId)

/-! ## One step -/

section Step

variable {c c' : Client} {l : ClientLabel}

theorem getElem?_onSession {a b : Nat} {f : Session → Session} :
    (c.onSession a f).sessions[b]? = c.sessions[b]?.map fun s => if a = b then f s else s :=
  getElem?_modify_ite

/-- What a step does to the sessions: it hands the event to one, changes one and leaves it alive,
cancels one with its context, makes one, or does nothing to them. -/
inductive Does (c : Client) (l : ClientLabel) (c' : Client) : Prop where
  | hands (msg : IMMessage) (a : Nat) (rest : List (IMMessage × Nat)) (now : Int)
      (hl : l = .handle now) (hhand : c.inHand = (msg, a) :: rest) (hrest : c'.inHand = rest)
      (hsessions : c'.sessions = (c.onSession a (handleEvent · msg now)).sessions)
  | changes (a : Nat) (f : Session → Session) (hl : ∀ now, l ≠ .handle now)
      (hdone : ∀ s, (f s).done = s.done) (hclient : ∀ s, (f s).clientMemberId = s.clientMemberId)
      (hhand : c'.inHand = c.inHand) (hsessions : c'.sessions = (c.onSession a f).sessions)
  | cancels (a : Nat) (hl : l = .contextDone a) (hhand : c'.inHand = c.inHand)
      (hsessions : c'.sessions = (c.onSession a Session.cancel).sessions)
  | makes (s : Session) (hl : ∀ now, l ≠ .handle now) (hdone : s.done = false)
      (hhand : c'.inHand = c.inHand) (hsessions : c'.sessions = c.sessions ++ [s])
  | keeps (hl : ∀ now, l ≠ .handle now) (hsessions : c'.sessions = c.sessions)
      (hhand : ∀ x ∈ c'.inHand, x ∈ c.inHand ∨ l = .receive x.1)

theorem clientStep_does (hstep : clientStep c l = some c') : Does c l c' := by
  cases l with
  | receive msg =>
    obtain ⟨-, hc'⟩ := Option.ite_none_right_eq_some.mp hstep
    rw [← Option.some.inj hc']
    refine .keeps nofun rfl fun x hx => .inr ?_
    obtain ⟨a, -, rfl⟩ := List.mem_map.mp hx
    rfl
  | handle now =>
    unfold clientStep at hstep
    dsimp only at hstep
    split at hstep
    · cases hstep
    · rename_i msg a rest hhand
      cases hstep
      exact .hands msg a rest now rfl hhand rfl rfl
  | newSession tagId threadId subMember memberId now =>
    cases hstep
    exact .makes _ nofun rfl rfl rfl
  | setAgent a memberId userId =>
    cases hstep
    exact .changes a (·.setAgent memberId userId) nofun (fun _ => rfl) (fun _ => rfl) rfl rfl
  | markUserJoined a userId =>
    cases hstep
    exact .changes a (·.markUserJoined userId) nofun (fun _ => rfl) (fun _ => rfl) rfl rfl
  | closeSession threadId tagId =>
    cases hstep
    exact .keeps nofun rfl fun x hx => .inl hx
  | contextDone a =>
    cases hstep
    exact .cancels a rfl rfl rfl

theorem sparesAgent_of_ne (hl : ∀ now, l ≠ .handle now) : SparesAgent c l := by
  cases l with
  | handle now => exact absurd rfl (hl now)
  | _ => trivial

theorem endsByClient_of_alive (hl : ∀ now, l ≠ .handle now)
    (halive : ∀ a s, c.sessions[a]? = some s → s.done = false → ∀ s', c'.sessions[a]? = some s' →
      l ≠ .contextDone a → s'.done = false) : EndsByClient c l c' := by
  intro a s hs hlive s' hs' hctx
  grind

theorem endsByClient_iff (hstep : clientStep c l = some c') :
    EndsByClient c l c' ↔ SparesAgent c l := by
  rcases clientStep_does hstep with ⟨msg, a, rest, now, rfl, hhand, -, hsessions⟩ |
    ⟨b, f, hl, hdone, -, -, hsessions⟩ | ⟨b, rfl, -, hsessions⟩ | ⟨new, hl, -, -, hsessions⟩ |
    ⟨hl, hsessions, -⟩
  · have hafter : ∀ s, c.sessions[a]? = some s →
        c'.sessions[a]? = some (handleEvent s msg now) := by
      intro s hs
      rw [hsessions, getElem?_onSession, hs, Option.map_some, if_pos rfl]
    constructor
    · intro hends msg' a' rest' hhand' s hs hlive hagent
      rw [hhand] at hhand'
      obtain ⟨hpair, rfl⟩ := List.cons.inj hhand'
      obtain ⟨rfl, rfl⟩ := Prod.mk.inj hpair
      have hcancelled : (handleEvent s msg now).done = true := by
        rw [handleEvent_done, endsSession_iff.mpr (.inr hagent), Bool.or_true]
      obtain ⟨msg', rest', now', -, hhand', hclient⟩ :=
        (hends a s hs hlive _ (hafter s hs) nofun).mp hcancelled
      rw [hhand] at hhand'
      rw [(Prod.mk.inj (List.cons.inj hhand').1).1]
      exact hclient
    · intro hspares b s hs hlive s' hs' _
      by_cases hab : a = b
      · subst hab
        rw [Option.mem_unique hs' (hafter s hs), handleEvent_done, hlive, Bool.false_or,
          endsSession_iff]
        constructor
        · intro hnames
          refine ⟨msg, rest, now, rfl, hhand, ?_⟩
          rcases hnames with hclient | hagent
          · exact hclient
          · exact hspares msg a rest hhand s hs hlive hagent
        all_goals grind
      all_goals grind [getElem?_onSession]
  · grind [endsByClient_of_alive, getElem?_onSession, sparesAgent_of_ne]
  · refine iff_of_true (endsByClient_of_alive nofun ?_) trivial
    grind [getElem?_onSession]
  all_goals grind [endsByClient_of_alive, sparesAgent_of_ne]

end Step

/-! ## Every run -/

structure Explained (seen : List ClientLabel) (c : Client) : Prop where
  inHand : ∀ x ∈ c.inHand, ClientLabel.receive x.1 ∈ seen
  done : ∀ a s, c.sessions[a]? = some s → s.done = true →
    ClientLabel.contextDone a ∈ seen
      ∨ ∃ msg, ClientLabel.receive msg ∈ seen ∧ msg.Names s.clientMemberId

theorem explained_new : Explained [] newClient where
  inHand := by
    intro x hx
    cases hx
  done := by
    intro a s hs
    cases hs

section Explain

variable {seen : List ClientLabel} {c c' : Client} {l : ClientLabel}

theorem Explained.later (h : Explained seen c) {a : Nat} {s : Session}
    (hs : c.sessions[a]? = some s) (hdone : s.done = true) :
    ClientLabel.contextDone a ∈ seen ++ [l]
      ∨ ∃ msg, ClientLabel.receive msg ∈ seen ++ [l] ∧ msg.Names s.clientMemberId := by
  grind [cases Explained]

theorem explained_step (h : Explained seen c) (hok : SparesAgent c l)
    (hstep : clientStep c l = some c') : Explained (seen ++ [l]) c' := by
  have hhands : ∀ x ∈ c.inHand, ClientLabel.receive x.1 ∈ seen ++ [l] :=
    fun x hx => List.mem_append_left _ (h.inHand x hx)
  rcases clientStep_does hstep with ⟨msg, a, rest, now, rfl, hhand, hrest, hsessions⟩ |
    ⟨b, f, hl, hdone, hclient, hhand, hsessions⟩ | ⟨b, rfl, hhand, hsessions⟩ |
    ⟨new, hl, hnew, hhand, hsessions⟩ | ⟨hl, hsessions, hhand⟩
  · have hreceived : ClientLabel.receive msg ∈ seen ++ [.handle now] :=
      hhands (msg, a) (hhand ▸ List.mem_cons_self)
    refine ⟨fun x hx => hhands x ?_, fun b s' hs' hs'done => ?_⟩
    · rw [hhand]
      exact List.mem_cons_of_mem _ (hrest ▸ hx)
    · rw [hsessions, getElem?_onSession] at hs'
      obtain ⟨s, hs, hs'⟩ := Option.map_eq_some_iff.mp hs'
      rw [← hs'] at hs'done ⊢
      by_cases hab : a = b
      · subst hab
        rw [if_pos rfl] at hs'done ⊢
        rw [handleEvent_clientMemberId]
        by_cases hlive : s.done = false
        · -- The event has ended the session, and it is one that names the client.
          rw [handleEvent_done, hlive, Bool.false_or, endsSession_iff] at hs'done
          refine .inr ⟨msg, hreceived, ?_⟩
          rcases hs'done with hclient | hagent
          · exact hclient
          · exact hok msg a rest hhand s hs hlive hagent
        · exact h.later hs (Bool.not_eq_false _ ▸ hlive)
      · rw [if_neg hab] at hs'done ⊢
        exact h.later hs hs'done
  · refine ⟨fun x hx => hhands x (hhand ▸ hx), fun a s' hs' hs'done => ?_⟩
    grind [cases Explained, getElem?_onSession]
  · refine ⟨fun x hx => hhands x (hhand ▸ hx), fun a s' hs' hs'done => ?_⟩
    grind [cases Explained, getElem?_onSession]
  · refine ⟨fun x hx => hhands x (hhand ▸ hx), fun a s' hs' hs'done => ?_⟩
    grind [cases Explained]
  · refine ⟨fun x hx => ?_, fun a s' hs' hs'done => h.later (hsessions ▸ hs') hs'done⟩
    grind

end Explain

/-- **A session ends when its client leaves**, and at no other event, exactly if no event names the
session's agent without its client. In a run without such events every session that is cancelled has
lost its context or its client. -/
theorem sessions_survive_agents {labels : List ClientLabel} {c : Client}
    (hrun : run clientStep newClient labels = some c) :
    (∀ l c', clientStep c l = some c' → (EndsByClient c l c' ↔ SparesAgent c l))
    ∧ (Along clientStep SparesAgent newClient labels →
      ∀ a s, c.sessions[a]? = some s → s.done = true → ClientLabel.contextDone a ∈ labels
        ∨ ∃ msg, ClientLabel.receive msg ∈ labels ∧ msg.Names s.clientMemberId) := by
  refine ⟨fun l c' hstep => endsByClient_iff hstep, fun hok => ?_⟩
  have h := run_invariant_seen (fun _ _ _ _ h hok hstep => explained_step h hok hstep) labels []
    explained_new hok hrun
  exact h.done

/-! ## Two sessions on a thread -/

def removal (memberId : String) : IMMessage := ⟨"t", "", some ⟨"member_removed", ⟨memberId, ""⟩⟩⟩

def handingOver : List ClientLabel :=
  [.newSession 1 "t" "sub" "client" 0, .setAgent 0 "ann" "7", .newSession 2 "t" "sub" "client" 5]

/-- The bot is removed, and then the client: both sessions end with the client. -/
def clientLeaves : List ClientLabel :=
  handingOver ++ [.receive (removal "bot"), .handle 10, .handle 10, .receive (removal "client"),
    .handle 20, .handle 20]

theorem clientLeaves_explained : ∃ c, run clientStep newClient clientLeaves = some c
    ∧ c.sessions.map Session.done = [true, true]
    ∧ ∃ msg, ClientLabel.receive msg ∈ clientLeaves ∧ msg.Names "client" := by
  refine ⟨_, rfl, rfl, ?_⟩
  have hok : Along clientStep SparesAgent newClient clientLeaves := by decide
  have hrun : run clientStep newClient clientLeaves = some _ := rfl
  have hdone := (sessions_survive_agents hrun).2 hok 0 _ rfl rfl
  exact hdone.resolve_left (by decide)

/-- Ann is removed, for the second session has taken over: the first session is cancelled, though
the client is there. -/
theorem agent_removal_cancels : ∃ c c', run clientStep newClient
      (handingOver ++ [.receive (removal "ann")]) = some c
    ∧ clientStep c (.handle 10) = some c'
    ∧ c.sessions.map Session.done = [false, false] ∧ c'.sessions.map Session.done = [true, false]
    ∧ c.sessions.map Session.clientMemberId = ["client", "client"] :=
  ⟨_, _, rfl, rfl, rfl, rfl, rfl⟩

end CallCenter.IM
