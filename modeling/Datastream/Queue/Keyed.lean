import Datastream.Error
import Datastream.Table

/-!
# Keyed queues

Where replies that carry no number meet the requests that wait for them. A wait registers under some
keys; a value resumed under a key goes to every wait registered under it, and withdraws those waits
from all their keys. Waits are found in two ways, by number and by key, and both indexes are kept.

Models `wait` up to where it waits, `resume`, `resume_all`, `close`, `pending` and `unregister`.
-/
namespace Datastream

/-- Waits under keys `κ` for values `ν`. -/
structure KeyedQueue (κ ν : Type) where
  /-- The number of the next wait. -/
  nextId : Nat := 0
  /-- The keys of each outstanding wait. -/
  waiters : Table Nat (List κ) := []
  /-- The outstanding waits under each key. -/
  byKey : Table κ (List Nat) := []
  closed : Bool := false
  /-- Results handed over and not collected yet. -/
  delivered : Table Nat (Except Error ν) := []

namespace KeyedQueue

variable {κ ν : Type} [DecidableEq κ]

/-- A list of keys without its repetitions. -/
def distinct (keys : List κ) : List κ :=
  keys.foldl (fun seen key => if key ∈ seen then seen else seen ++ [key]) []

def enroll (byKey : Table κ (List Nat)) (id : Nat) (key : κ) : Table κ (List Nat) :=
  byKey.put key ((byKey.find? key).getD [] ++ [id])

/-- Takes a wait away from one key; a key without waits is dropped. -/
def dismiss (byKey : Table κ (List Nat)) (id : Nat) (key : κ) : Table κ (List Nat) :=
  match byKey.find? key with
  | none => byKey
  | some ids =>
    let left := ids.filter (· ≠ id)
    if left.isEmpty then byKey.erase key else byKey.put key left

def register (q : KeyedQueue κ ν) (keys : List κ) : Nat × KeyedQueue κ ν :=
  let keys := distinct keys
  (q.nextId, { q with
    nextId := q.nextId + 1
    waiters := q.waiters.put q.nextId keys
    byKey := keys.foldl (fun byKey key => enroll byKey q.nextId key) q.byKey })

/-- Takes a wait out of both indexes. -/
def unregister (q : KeyedQueue κ ν) (id : Nat) : KeyedQueue κ ν :=
  match q.waiters.find? id with
  | none => q
  | some keys => { q with
      waiters := q.waiters.erase id
      byKey := keys.foldl (fun byKey key => dismiss byKey id key) q.byKey }

/-- Ends a wait with a result, if it is still outstanding. -/
def deliver (q : KeyedQueue κ ν) (result : Except Error ν) (id : Nat) : KeyedQueue κ ν :=
  match q.waiters.find? id with
  | none => q
  | some _ =>
    let q := q.unregister id
    { q with delivered := q.delivered.put id result }

/-- Hands a value to every wait under a key; says how many there were. -/
def resume (q : KeyedQueue κ ν) (key : κ) (value : ν) : Nat × KeyedQueue κ ν :=
  let ids := (q.byKey.find? key).getD []
  ((ids.filter fun id => (q.waiters.find? id).isSome).length, ids.foldl (deliver · (.ok value)) q)

/-- Ends every outstanding wait with one result. -/
def deliverAll (q : KeyedQueue κ ν) (result : Except Error ν) : KeyedQueue κ ν :=
  { q with
    waiters := []
    byKey := []
    delivered := q.waiters.keys.foldl (fun delivered id => delivered.put id result) q.delivered }

/-- Hands a value to every wait; says how many there were. -/
def resumeAll (q : KeyedQueue κ ν) (value : ν) : Nat × KeyedQueue κ ν :=
  (q.waiters.length, q.deliverAll (.ok value))

/-- Fails every outstanding wait, and every later one. -/
def close (q : KeyedQueue κ ν) : KeyedQueue κ ν :=
  { q.deliverAll (.error .connectionClosed) with closed := true }

/-- Gives a wait up: it is outstanding no more, and its result is dropped if it has one. -/
def withdraw (q : KeyedQueue κ ν) (id : Nat) : KeyedQueue κ ν :=
  let q := q.unregister id
  { q with delivered := q.delivered.erase id }

def collect (q : KeyedQueue κ ν) (id : Nat) : Option (Except Error ν × KeyedQueue κ ν) :=
  (q.delivered.find? id).map fun result => (result, { q with delivered := q.delivered.erase id })

/-- How many waits are outstanding. -/
def pending (q : KeyedQueue κ ν) : Nat := q.waiters.length

def description : String := "KeyedQueue \x7b .. \x7d"

/-- Starts a wait on a queue that lies in a larger state. The wait is registered before the request
is sent, so no reply to the request is missed; if the sending fails, the wait is withdrawn. -/
def wait {σ : Type} (get : σ → KeyedQueue κ ν)
    (set : (KeyedQueue κ ν → KeyedQueue κ ν) → σ → σ) (keys : List κ)
    (send : EStateM Error σ Unit) : EStateM Error σ Nat := fun s =>
  if (get s).closed then .error .connectionClosed s
  else
    let id := (get s).nextId
    match send (set (fun q => (q.register keys).2) s) with
    | .ok _ s => .ok id s
    | .error error s => .error error (set (withdraw · id) s)

end KeyedQueue
end Datastream
