import CallCenter.CallManager.CallWorld

/-!
# A call joins a queue

`InboundCallQueue` and `ConnectCall` ask the switch to hand a call over and return an object for it:
the one in the cache, or a new one, which they put there. `InboundCallQueue` asks first and looks
into the cache after that, `ConnectCall` the other way round. From the moment the switch has agreed,
its events for the call come to this node, and `handleCallAction` drops an event of a call it does
not find. One call joins here; the objects of its id are numbered.
-/

namespace CallCenter.CallManager

inductive JoinKind where
  | inboundCallQueue | connectCall

inductive Joiner where
  | getApi | joinQueue | get
  -- the call is in the cache
  | updateCid (o : Nat) | resetBridge (o : Nat) (err : Bool)
  -- it is not
  | make | setCallVariables (o : Nat) | save (o : Nat)
  | returned (o : Nat) (err : Bool) | failed

inductive HangupHandler where
  | getCall (e : CallActionHangup) | handle (o : Nat) (e : CallActionHangup)
  | assign (o : Nat) | send (o : Nat) | finished

structure JoinWorld where
  kind : JoinKind
  outbound : Bool
  answeredAt : Int
  createdAt : Int
  objects : Nat → CallImpl
  next : Nat
  cache : Option Nat
  /-- The switch sends the events of the call to this node. -/
  joined : Bool
  joiner : Joiner
  handlers : List HangupHandler

namespace JoinWorld

def setObject (w : JoinWorld) (o : Nat) (c : CallImpl) : JoinWorld :=
  { w with objects := Function.update w.objects o c }

def join (w : JoinWorld) (r : Reply) : Option JoinWorld :=
  match w.joiner with
  | .getApi => some { w with joiner := if r.ok then .joinQueue else .failed }
  | .joinQueue =>
    if r.ok then
      some { w with
        joined := true
        joiner := match w.kind with
          | .inboundCallQueue => .get
          | .connectCall => .make }
    else some { w with joiner := .failed }
  | .get =>
    match w.cache with
    | some o =>
      -- `ConnectCall` asks nothing of the switch then: the call has joined before.
      some { w with
        joined := true
        joiner := if (w.objects o).outbound then .updateCid o else .resetBridge o false }
    | none => some { w with
        joiner := match w.kind with
          | .inboundCallQueue => .make
          | .connectCall => .getApi }
  | .updateCid o => some { w with joiner := .resetBridge o (!r.ok) }
  | .resetBridge o err =>
    some { w.setObject o (w.objects o).resetBridge with joiner := .returned o err }
  | .make =>
    some { w.setObject w.next (joinedCall w.outbound w.answeredAt w.createdAt) with
      next := w.next + 1
      joiner := match w.kind with
        | .inboundCallQueue => .save w.next
        | .connectCall => .setCallVariables w.next }
  | .setCallVariables o => some { w with joiner := .save o }
  | .save o => some { w with cache := some o, joiner := .returned o false }
  | .returned _ _ | .failed => none

def handle (w : JoinWorld) (i : Nat) (h : HangupHandler) (r : Reply) : Option JoinWorld :=
  let goto (w : JoinWorld) (h : HangupHandler) : JoinWorld :=
    { w with handlers := w.handlers.set i h }
  match h with
  | .getCall e =>
    match w.cache with
    | some o => some (goto w (.handle o e))
    | none => some (goto w .finished)
  | .handle o e =>
    if (w.objects o).hangupAt = 0 then
      -- The cache is cleared by the id of the call.
      some (goto { w.setObject o ((w.objects o).setHangup e r.now) with cache := none } (.assign o))
    else some (goto w .finished)
  | .assign o => some (goto (w.setObject o { w.objects o with state := .hangup }) (.send o))
  | .send o =>
    if (w.objects o).chState.length < chStateSize then
      some (goto (w.setObject o
        { w.objects o with chState := (w.objects o).chState ++ [.hangup] }) .finished)
    else none
  | .finished => none

end JoinWorld

inductive JoinLabel where
  | emit (e : CallActionHangup)
  | evict
  | join (r : Reply)
  | handle (i : Nat) (r : Reply)

def joinStep (w : JoinWorld) : JoinLabel → Option JoinWorld
  | .emit e =>
    if w.joined then some { w with handlers := w.handlers ++ [.getCall e] } else none
  | .evict => some { w with cache := none }
  | .join r => w.join r
  | .handle i r => w.handlers[i]?.bind fun h => w.handle i h r

def joinStart (kind : JoinKind) (outbound : Bool) (answeredAt createdAt : Int)
    (known : Option CallImpl) : JoinWorld where
  kind := kind
  outbound := outbound
  answeredAt := answeredAt
  createdAt := createdAt
  objects := fun _ => known.getD (joinedCall outbound answeredAt createdAt)
  next := 1
  cache := known.map fun _ => 0
  joined := false
  joiner := match kind with
    | .inboundCallQueue => .getApi
    | .connectCall => .get
  handlers := []

end CallCenter.CallManager
