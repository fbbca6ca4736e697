import Datastream.Channel.Stage
import Datastream.Session.Call

/-!
# Runs

A session with the program's calls on it, and the time. Time passes only when it is said to.
-/
namespace Datastream

/-- A session, the calls that wait for it, and the time. -/
structure Run where
  session : Session
  /-- The calls that wait, in the order in which they were started, with the program's names. -/
  calls : List (String × Call) := []
  /-- The time, in milliseconds. -/
  now : Nat := 0
  /-- How long a call may wait. -/
  limit : Nat

namespace Run

def perform {α : Type} (act : Session.Action α) : EStateM Error Run α := fun r =>
  match act r.session with
  | .ok a session => .ok a { r with session }
  | .error error session => .error error { r with session }

/-- Starts a call; an untimed one may wait for ever. -/
def begin (r : Run) (name : String) (task : Task) (timed : Bool) : Run :=
  { r with calls := r.calls ++ [(name, ⟨task, if timed then some (r.now + r.limit) else none⟩)] }

def cancel (r : Run) (name : String) : Run :=
  match r.calls.lookup name with
  | none => r
  | some call => { r with
      session := call.task.cancel r.session
      calls := r.calls.filter (·.1 ≠ name) }

def advance (r : Run) (millis : Nat) : Run := { r with now := r.now + millis }

/-- Gives every call a turn; tells what came of those that are over. -/
def settle (r : Run) : List (String × Except Error Answer) × Run :=
  let ((calls, results), session) := Turn.all (Call.turn r.now) r.calls r.session
  (results, { r with calls, session })

/-- Takes the payloads that wait to be written. -/
def takeOutbox (r : Run) : List Bytes × Run :=
  let link := r.session.link
  (link.outbox, { r with session := { r.session with link := { link with outbox := [] } } })

/-- Takes the events that wait for the program. -/
def takeEvents (r : Run) : List Event × Run :=
  (r.session.events, { r with session := { r.session with events := [] } })

end Run

instance : Linked Run where
  link r := r.session.link
  withLink link r := { r with session := { r.session with link } }

end Datastream
