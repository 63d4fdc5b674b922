import CallCenter.Lib.LinkedList
import CallCenter.Lib.Run

/-!
# The LRU cache

`utils/lru.go`, operation by operation. The cache is a linked list of entries in recency order, a
map from keys to the elements of that list, a generation number and a length. `Purge` starts a new
generation, and entries of older ones are dropped when they are next met.

Generations, expiry times and the clock are the source's `int64`, so a generation number wraps. Each
operation that reads the clock takes the reading as an argument. `Keys` can panic: it makes a slice
of length `c.len` and fills it by index.
-/

namespace CallCenter.Utils

open Lib

structure Entry (κ υ : Type) where
  key : κ
  value : υ
  expireAtSecs : Int64
  generation : Int64

/-- `Cache`. The map holds element pointers, here addresses in `evictList`. -/
structure Cache (κ υ : Type) where
  size : Nat
  evictList : LinkedList (Entry κ υ)
  items : κ → Option Nat
  defaultExpiry : Int64
  currentGeneration : Int64
  len : Int

inductive Panic where
  | makesliceLenOutOfRange
  | indexOutOfRange

/-- `time.Now().UnixNano() / int64(time.Second)` at the clock reading `unixNano`. -/
def nowSecs (unixNano : Int64) : Int64 := unixNano / 1000000000

def newLru (κ υ : Type) (size : Nat) : Cache κ υ where
  size := size
  evictList := LinkedList.empty
  items := fun _ => none
  defaultExpiry := 0
  currentGeneration := 0
  len := 0

/-- `NewLruWithParams`, without the cache's name and its cluster event. -/
def newLruWithParams (κ υ : Type) (size : Nat) (defaultExpiry : Int64) : Cache κ υ :=
  { newLru κ υ size with defaultExpiry := defaultExpiry }

namespace Cache

variable {κ υ : Type} [DecidableEq κ]

def current (c : Cache κ υ) (e : Entry κ υ) : Bool := e.generation = c.currentGeneration

/-- `c.items[key]`, with the entry its element holds. -/
def lookup (c : Cache κ υ) (key : κ) : Option (Node (Entry κ υ)) :=
  (c.items key).bind fun a => (c.evictList.deref a).map (Node.mk a)

def removeElement (c : Cache κ υ) (ent : Node (Entry κ υ)) : Cache κ υ :=
  { c with
    evictList := c.evictList.remove ent.addr
    len := if c.current ent.val then c.len - 1 else c.len
    items := Function.update c.items ent.val.key none }

def purge (c : Cache κ υ) : Cache κ υ :=
  { c with len := 0, currentGeneration := c.currentGeneration + 1 }

/-- When an entry added with `expireAtSecs` at `now` expires; zero is never. -/
def expiry (now expireAtSecs : Int64) : Int64 :=
  if expireAtSecs > 0 then nowSecs now + expireAtSecs else expireAtSecs

def refresh (c : Cache κ υ) (ent : Node (Entry κ υ)) (value : υ) (expireAtSecs : Int64) :
    Cache κ υ :=
  { c with
    evictList := (c.evictList.moveToFront ent.addr).modify ent.addr fun e =>
      { e with
        value := value, expireAtSecs := expireAtSecs, generation := c.currentGeneration }
    len := if c.current ent.val then c.len else c.len + 1 }

/-- The branch of `AddWithExpiresInSecs` for a new key, up to the size check. -/
def pushNew (c : Cache κ υ) (key : κ) (value : υ) (expireAtSecs : Int64) : Cache κ υ :=
  { c with
    evictList := c.evictList.pushFront ⟨key, value, expireAtSecs, c.currentGeneration⟩
    items := Function.update c.items key (some c.evictList.fresh)
    len := c.len + 1 }

/-- The element the size check at the end of `AddWithExpiresInSecs` removes. -/
def evicted (c : Cache κ υ) : Option (Node (Entry κ υ)) :=
  if c.evictList.len > c.size then c.evictList.back else none

def evict (c : Cache κ υ) : Cache κ υ :=
  match c.evicted with
  | some ent => c.removeElement ent
  | none => c

def addWithExpiresInSecs (c : Cache κ υ) (now : Int64) (key : κ) (value : υ)
    (expireAtSecs : Int64) : Cache κ υ :=
  match c.lookup key with
  | some ent => c.refresh ent value (expiry now expireAtSecs)
  | none => (c.pushNew key value (expiry now expireAtSecs)).evict

def add (c : Cache κ υ) (now : Int64) (key : κ) (value : υ) : Cache κ υ :=
  c.addWithExpiresInSecs now key value 0

def addWithDefaultExpires (c : Cache κ υ) (now : Int64) (key : κ) (value : υ) : Cache κ υ :=
  c.addWithExpiresInSecs now key value c.defaultExpiry

def expired (now expireAtSecs : Int64) : Bool :=
  expireAtSecs > 0 && nowSecs now > expireAtSecs

def get (c : Cache κ υ) (now : Int64) (key : κ) : Cache κ υ × Option υ :=
  match c.lookup key with
  | some ent =>
    if !c.current ent.val || expired now ent.val.expireAtSecs then
      (c.removeElement ent, none)
    else
      ({ c with evictList := c.evictList.moveToFront ent.addr }, some ent.val.value)
  | none => (c, none)

def remove (c : Cache κ υ) (key : κ) : Cache κ υ :=
  match c.lookup key with
  | some ent => c.removeElement ent
  | none => c

omit [DecidableEq κ] in
/-- The loop of `Keys`: `keys[i] = e.key; i++` for each current entry. -/
def fillKeys (c : Cache κ υ) :
    List (Node (Entry κ υ)) → Nat → List (Option κ) → Except Panic (List (Option κ))
  | [], _, keys => .ok keys
  | ent :: rest, i, keys =>
    if c.current ent.val then
      if i < keys.length then c.fillKeys rest (i + 1) (keys.set i (some ent.val.key))
      else .error .indexOutOfRange
    else c.fillKeys rest i keys

/-- `Keys`: a slice of `c.len` nil values, filled from the back of the list. -/
def keys (c : Cache κ υ) : Except Panic (List (Option κ)) :=
  if c.len < 0 then .error .makesliceLenOutOfRange
  else c.fillKeys c.evictList.nodes.reverse 0 (List.replicate c.len.toNat none)

def Len (c : Cache κ υ) : Int := c.len

end Cache

/-- A call on a cache; the ones that read the clock carry its reading. -/
inductive Op (κ υ : Type) where
  | addWithExpiresInSecs (now : Int64) (key : κ) (value : υ) (expireAtSecs : Int64)
  | get (now : Int64) (key : κ)
  | remove (key : κ)
  | purge
  | keys
  | len

inductive Answer (κ υ : Type) where
  | done
  | got (value : Option υ)
  | keys (result : Except Panic (List (Option κ)))
  | len (n : Int)

def Cache.step {κ υ : Type} [DecidableEq κ] (c : Cache κ υ) :
    Op κ υ → Cache κ υ × Answer κ υ
  | .addWithExpiresInSecs now k v e => (c.addWithExpiresInSecs now k v e, .done)
  | .get now k => ((c.get now k).1, .got (c.get now k).2)
  | .remove k => (c.remove k, .done)
  | .purge => (c.purge, .done)
  | .keys => (c, .keys c.keys)
  | .len => (c, .len c.Len)

end CallCenter.Utils
