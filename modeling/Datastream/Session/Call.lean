import Datastream.Listing.Search
import Datastream.Queue.Await

/-!
# Calls

What a program asks of a session and then waits for. A call is given turns until it has a result; one
with a deadline fails when that has passed and the result is not there.

Models the functions that wait: `init`, `configure_core`, `login`, `session_init`, the backlog's
`request`, `channel_list` and `wait_finished`, each with its `with_timeout_error`.
-/
namespace Datastream

/-- What a call asks for. -/
inductive Task
  | init (features : FeatureSet) (await : Await String Session)
  | setup (await : Await String Session)
  | login (await : Await String Session)
  | sessionState
  /-- The description of the session, with which the session's own objects begin to be tracked. -/
  | openSession
  | backlog (await : Await BacklogRequest Session)
  | listing (search : Listing)
  /-- Every object that is tracked has its state. -/
  | allInitialized

inductive Answer
  | core (state : CoreState)
  | done
  | initialized
  | sessionState (state : SessionState)
  | messages (list : List Message)
  | channels (list : List FoundChannel)

namespace Task

open Session (Action)

/-- How a task leaves its turn. -/
abbrev Outcome := Turn Task (Except Error Answer)

def handshake (m : HandshakeMessage) (replies : List String) : Await String Session :=
  .fresh replies (Session.onLink (Link.emitHandshake m))

def start (version date : String) (features : FeatureSet) : Task :=
  .init features (handshake (.clientInit version date features) ["ClientInitAck", "ClientInitReject"])

/-- The setup of a core that was never configured. -/
def configure (adminUser adminPassword backend : String) (setup : Fields) (authenticator : String)
    (authSetup : Fields) : Task :=
  .setup (handshake (.coreSetupData adminUser adminPassword backend setup authenticator authSetup)
    ["CoreSetupAck", "CoreSetupReject"])

def logIn (user password : String) : Task :=
  .login (handshake (.clientLogin user password) ["ClientLoginAck", "ClientLoginReject"])

/-- Sends a backlog request, once the backlog manager has its state. -/
def sendBacklog (request : BacklogRequest) : Action Unit := do
  let o ← Session.lock Session.backlogManager
  if !o.initialized then throw (.objectNotFound BacklogRequest.className "")
  Session.performAll (o.sync .core request.requestSlot request.params)

def fetch (request : BacklogRequest) : Task := .backlog (.fresh [request] (sendBacklog request))

def list (network : NetworkId) (filters : List String) : Task := .listing (.fresh network filters)

def replies (f : KeyedQueue String HandshakeMessage → KeyedQueue String HandshakeMessage)
    (s : Session) : Session :=
  { s with handshake := { s.handshake with replies := f s.handshake.replies } }

def backlogs (f : KeyedQueue BacklogRequest (List Value) → KeyedQueue BacklogRequest (List Value))
    (s : Session) : Session :=
  { s with backlog := f s.backlog }

/-- Turns the reply that a wait ended with into an answer. -/
def answer {α β : Type} (again : α → Task) (read : β → Session → Except Error Answer × Session) :
    Turn α (Except Error β) × Session → Outcome × Session
  | (.waiting a, s) => (.waiting (again a), s)
  | (.done (.error error), s) => (.done (.error error), s)
  | (.done (.ok b), s) =>
    let (result, s) := read b s
    (.done result, s)

/-- An acknowledged start puts the features of both ends into force. -/
def takeInit (features : FeatureSet) (reply : HandshakeMessage) (s : Session) :
    Except Error Answer × Session :=
  let s := match reply with
    | .clientInitAck coreFeatures .. => { s with
        link := { s.link with features := features.intersect coreFeatures }
        handshake := { s.handshake with coreFeatures := some coreFeatures } }
    | _ => s
  (.core <$> Handshake.coreState reply, s)

/-- Begins to track the session's own objects. -/
def trackOwn : Action Unit := do
  Session.synchronize Session.backlogManager
  Session.synchronize Session.listHelper

/-- Collects the description of the session, and does something then. -/
def collectState (again : Task) (after : Action Unit) (s : Session) : Outcome × Session :=
  match s.handshake.collect with
  | (none, _) => (.waiting again, s)
  | (some (.error error), handshake) => (.done (.error error), { s with handshake })
  | (some (.ok state), handshake) =>
    match after { s with handshake } with
    | .ok _ s => (.done (.ok (.sessionState state)), s)
    | .error error s => (.done (.error error), s)

def turn : Task → Session → Outcome × Session
  | .init features await, s =>
    answer (.init features) (takeInit features)
      (await.turn (·.handshake.replies) replies s)
  | .setup await, s =>
    answer .setup (fun m s => ((fun _ => .done) <$> Handshake.setupDone m, s))
      (await.turn (·.handshake.replies) replies s)
  | .login await, s =>
    answer .login (fun m s => ((fun _ => .done) <$> Handshake.loggedIn m, s))
      (await.turn (·.handshake.replies) replies s)
  | .sessionState, s => collectState .sessionState (return) s
  | .openSession, s => collectState .openSession trackOwn s
  | .backlog await, s =>
    answer .backlog (fun entries s => (.ok (.messages (BacklogRequest.messages entries)), s))
      (await.turn (·.backlog) backlogs s)
  | .listing search, s =>
    answer .listing (fun channels s => (.ok (.channels channels), s)) (search.turn s)
  | .allInitialized, s =>
    if s.tracker.finished then (.done (.ok .initialized), s) else (.waiting .allInitialized, s)

def cancel : Task → Session → Session
  | .init _ await, s | .setup await, s | .login await, s => await.cancel replies s
  | .backlog await, s => await.cancel backlogs s
  | .listing search, s => search.cancel s
  | .sessionState, s | .openSession, s | .allInitialized, s => s

end Task

/-- A task with a deadline, if it has one. -/
structure Call where
  task : Task
  deadline : Option Nat

namespace Call

def turn (now : Nat) (c : Call) (s : Session) : Turn Call (Except Error Answer) × Session :=
  match c.task.turn s with
  | (.done result, s) => (.done result, s)
  | (.waiting task, s) =>
    if c.deadline.any (· ≤ now) then (.done (.error .timeout), task.cancel s)
    else (.waiting { c with task }, s)

end Call
end Datastream
