import Datastream.Proofs.Channel.Reading
import Datastream.Proofs.Session.Operations
import Datastream.Proofs.Sync.SelfNaming
import Datastream.Session.Call

/-!
# What a session leaves alone

The actions of a session send payloads, count, and change objects and what is known of them. The rest
of the session they leave as it is: which features are in force, whether payloads are taken, which
frames were counted as they came in, how far the handshake is. And they add to the events only what
the methods of the tables publish (`Continues`). Everything that a message of the core does is such an
action (`continues_dispatch`), and so is what the calls of the program send.
-/
namespace Datastream

def Event.isClosed : Event → Bool
  | closed => true
  | _ => false

/-- An effect that publishes only such events, if it publishes any. -/
def Effect.Publishes (allowed : Event → Prop) (e : Effect) : Prop :=
  ∀ event, e = .publish event → allowed event

def Method.Publishes (allowed : Event → Prop) (run : Method) : Prop :=
  ∀ o params o' effects, run o params = .ok (o', effects) → ∀ e ∈ effects, e.Publishes allowed

def MethodTable.Publishes (allowed : Event → Prop) (t : MethodTable) : Prop :=
  ∀ o slot params o' effects, t.invoke o slot params = .ok (o', effects) →
    ∀ e ∈ effects, e.Publishes allowed

/-- Invokers all of whose tables for the core's calls publish only such events. -/
def Invokers.Publishes (allowed : Event → Prop) (i : Invokers) : Prop :=
  ∀ className table, i.get .client className = .ok table → table.Publishes allowed

theorem Invokers.publishes_all (i : Invokers) : i.Publishes fun _ => True :=
  fun _ _ _ _ _ _ _ _ _ _ _ _ _ => trivial

namespace Link

/-- Messages are written and taken as before, and no incoming frame was counted. -/
structure Continues (l l' : Link) : Prop where
  registry : l'.registry = l.registry
  features : l'.features = l.features
  closed : l'.closed = l.closed
  incoming : incoming l' = incoming l

variable {l l' l'' : Link}

theorem Continues.refl (l : Link) : l.Continues l := ⟨rfl, rfl, rfl, rfl⟩

theorem Continues.trans (first : l.Continues l') (second : l'.Continues l'') : l.Continues l'' :=
  ⟨second.registry.trans first.registry, second.features.trans first.features,
    second.closed.trans first.closed, second.incoming.trans first.incoming⟩

theorem continues_emitEncoded (payload : Except Error Bytes) (l : Link) :
    l.Continues (endState (emitEncoded payload l)) := by
  unfold emitEncoded emit
  cases payload with
  | error error => exact .refl l
  | ok payload =>
    dsimp only
    split
    · exact .refl l
    · exact ⟨rfl, rfl, rfl, rfl⟩

end Link

namespace Session

variable {allowed : Event → Prop} {s s' s'' : Session}

/-- The tables are the same, and nothing but such events was published. -/
structure Speaks (allowed : Event → Prop) (s s' : Session) : Prop where
  invokers : s'.invokers = s.invokers
  events : ∃ more, s'.events = s.events ++ more ∧ ∀ event ∈ more, allowed event

/-- Besides, the link goes on as before, and the handshake is where it was. -/
structure Continues (allowed : Event → Prop) (s s' : Session) : Prop extends Speaks allowed s s' where
  link : s.link.Continues s'.link
  handshake : s'.handshake = s.handshake

theorem Speaks.of_silent (invokers : s'.invokers = s.invokers) (events : s'.events = s.events) :
    Speaks allowed s s' :=
  ⟨invokers, [], by rw [events, List.append_nil], List.forall_mem_nil _⟩

theorem Speaks.refl (s : Session) : Speaks allowed s s := .of_silent rfl rfl

theorem Speaks.trans (first : Speaks allowed s s') (second : Speaks allowed s' s'') :
    Speaks allowed s s'' := by
  obtain ⟨more, events, ok⟩ := first.events
  obtain ⟨more', events', ok'⟩ := second.events
  refine ⟨second.invokers.trans first.invokers, more ++ more', ?_, ?_⟩
  · rw [events', events, List.append_assoc]
  · intro event member
    exact (List.mem_append.mp member).elim (ok event) (ok' event)

theorem Continues.refl (s : Session) : Continues allowed s s := ⟨.refl s, .refl s.link, rfl⟩

theorem Continues.trans (first : Continues allowed s s') (second : Continues allowed s' s'') :
    Continues allowed s s'' :=
  ⟨first.toSpeaks.trans second.toSpeaks, first.link.trans second.link,
    second.handshake.trans first.handshake⟩

/-- Silence: nothing at all is published. -/
abbrev Silent : Event → Prop := fun _ => False

/-- Whatever else changes of a session. -/
theorem continues_of_same (invokers : s'.invokers = s.invokers) (events : s'.events = s.events)
    (link : s.link.Continues s'.link) (handshake : s'.handshake = s.handshake) :
    Continues allowed s s' :=
  ⟨.of_silent invokers events, link, handshake⟩

/-- An action after which the session continues, whether the action fails or not. -/
def Keeps {α : Type} (allowed : Event → Prop) (act : Action α) : Prop :=
  ∀ s, Continues allowed s (endState (act s))

section

variable {α β : Type} {x : Action α} {f : α → Action β}

theorem continues_bind (first : Continues allowed s (endState (x s)))
    (rest : ∀ a s', x s = .ok a s' → Continues allowed s' (endState (f a s'))) :
    Continues allowed s (endState ((x >>= f) s)) := by
  refine endState_bind first fun a s' ran => ?_
  rw [ran] at first
  exact first.trans (rest a s' ran)

theorem Keeps.bind (first : Keeps allowed x) (rest : ∀ a, Keeps allowed (f a)) :
    Keeps allowed (x >>= f) :=
  fun s => continues_bind (first s) fun a s' _ => rest a s'

theorem keeps_pure (a : α) : Keeps allowed (pure a : Action α) := fun s => .refl s

theorem keeps_ofExcept (result : Except Error α) :
    Keeps allowed (MonadExcept.ofExcept result : Action α) := by
  intro s
  cases result <;> exact .refl s

theorem keeps_modify {g : Session → Session} (same : ∀ s, Continues allowed s (g s)) :
    Keeps allowed (modify g : Action PUnit) := same

/-- What is sent fails or waits to be written; the link is the same otherwise. -/
theorem keeps_onLink {act : EStateM Error Link Unit} (same : ∀ l : Link, l.Continues (endState (act l))) :
    Keeps allowed (onLink act) := by
  intro s
  have kept := same s.link
  unfold onLink
  cases ran : act s.link with
  | ok _ l | error _ l =>
    rw [ran] at kept
    exact continues_of_same rfl rfl kept rfl

end

theorem keeps_emit (m : ProxyMessage) : Keeps allowed (emit m) :=
  keeps_onLink fun l => Link.continues_emitEncoded (m.encode l.registry l.features) l

theorem keeps_emitHandshake (m : HandshakeMessage) :
    Keeps allowed (onLink (Link.emitHandshake m)) :=
  keeps_onLink fun l => Link.continues_emitEncoded (m.encode l.registry l.features) l

theorem keeps_lock (handle : Handle) : Keeps allowed (lock handle) := by
  intro s
  rcases lock_cases s handle with refused | ⟨o, -, -, held⟩
  · rw [refused]
    exact .refl s
  · rw [held]
    exact .refl s

theorem keeps_setObject (handle : Handle) (o : Object) : Keeps allowed (setObject handle o) :=
  fun _ => continues_of_same rfl rfl (.refl _) rfl

/-- Whatever is counted but incoming frames. -/
theorem keeps_count {f : Metrics → Metrics} (outgoing : ∀ l : Link, incoming (l.count f) = incoming l) :
    Keeps allowed (count f) :=
  fun s => continues_of_same rfl rfl ⟨rfl, rfl, rfl, outgoing s.link⟩ rfl

theorem keeps_rename (className oldName newName : String) :
    Keeps allowed (rename className oldName newName) := by
  intro s
  cases tracked : s.find? className oldName with
  | none =>
    rw [rename_unknown tracked]
    exact continues_of_same rfl rfl (.refl _) rfl
  | some handle =>
    rw [rename_found tracked]
    have moved : Continues allowed s
        { s with repository := (s.repository.rename s.isLive className oldName newName).2 } :=
      continues_of_same rfl rfl (.refl _) rfl
    exact moved.trans ((keeps_lock handle).bind (fun o => keeps_setObject handle _) _)

theorem keeps_perform {e : Effect} (quiet : e.Publishes allowed) : Keeps allowed (perform e) := by
  cases e with
  | sync target className objectName slot params =>
    cases target with
    | client => exact keeps_pure _
    | core => exact keeps_emit _
  | rpc target slot params =>
    cases target with
    | client => exact keeps_pure _
    | core => exact keeps_emit _
  | rename className oldName newName => exact keeps_rename className oldName newName
  | publish event =>
    intro s
    refine ⟨⟨rfl, [event], rfl, ?_⟩, .refl s.link, rfl⟩
    simpa using quiet event rfl
  | rekey | backlog | listing | failListings =>
    exact fun _ => continues_of_same rfl rfl (.refl _) rfl

theorem keeps_performAll {effects : List Effect} (quiet : ∀ e ∈ effects, e.Publishes allowed) :
    Keeps allowed (performAll effects) := by
  induction effects with
  | nil => exact keeps_pure _
  | cons e effects ih =>
    obtain ⟨first, rest⟩ := List.forall_mem_cons.mp quiet
    rw [performAll_cons]
    exact (keeps_perform first).bind fun _ => ih rest

theorem keeps_commit (handle : Handle) {changed : Object.Changed}
    (quiet : ∀ o' effects, changed = .ok (o', effects) → ∀ e ∈ effects, e.Publishes allowed) :
    Keeps allowed (commit handle changed) := by
  cases changed with
  | error error => exact fun s => .refl s
  | ok made => exact (keeps_setObject handle made.1).bind fun _ => keeps_performAll (quiet _ _ rfl)

theorem keeps_receiveState (className objectName : String) (state : Fields) :
    Keeps allowed (receiveState className objectName state) := by
  have get : Keeps allowed (get : Action Session) := Continues.refl
  refine get.bind fun s => ?_
  split
  · exact keeps_pure _
  · refine (keeps_lock _).bind fun o => (keeps_ofExcept _).bind fun taken => ?_
    refine (keeps_setObject _ taken).bind fun _ => keeps_modify fun s => ?_
    exact continues_of_same rfl rfl (.refl _) rfl

theorem keeps_deliver {table : MethodTable} (quiet : table.Publishes allowed) (handle : Handle)
    (slot : String) (params : List Value) {counter : Metrics → Metrics}
    (outgoing : ∀ l : Link, incoming (l.count counter) = incoming l) :
    Keeps allowed (deliver table handle slot params counter) :=
  (keeps_lock handle).bind fun o =>
    (keeps_commit handle (quiet o slot params)).bind fun _ => keeps_count outgoing

/-- A message of the core leaves all this alone, and publishes what the tables allow. -/
theorem continues_dispatch (tuned : s.invokers.Publishes allowed) (m : ProxyMessage) :
    Continues allowed s (endState (dispatch m s)) := by
  cases m with
  | heartBeat sent =>
    refine (keeps_modify fun s => ?_).bind (fun _ => keeps_emit _) s
    exact continues_of_same rfl rfl (.refl _) rfl
  | heartBeatReply sent =>
    refine (keeps_modify fun s => ?_).bind (fun _ => keeps_count fun _ => rfl) s
    exact continues_of_same rfl rfl (.refl _) rfl
  | initData className objectName state => exact keeps_receiveState className objectName state s
  | initRequest className objectName => exact .refl s
  | rpc slot params =>
    rw [dispatch_rpc_eq]
    split
    · exact .refl s
    · exact .refl s
    · next listed _ => exact keeps_deliver (tuned _ _ listed) _ _ _ (fun _ => rfl) s
  | sync className objectName slot params =>
    rw [dispatch_sync_eq]
    split
    · exact .refl s
    · exact .refl s
    · next listed _ => exact keeps_deliver (tuned _ _ listed) _ _ _ (fun _ => rfl) s

theorem continues_read (tuned : s.invokers.Publishes allowed) (payload : Bytes) :
    Continues allowed s (endState (read payload s)) := by
  unfold read
  rw [bind_ok (get_eq s)]
  cases ProxyMessage.decode s.link.registry s.link.features payload with
  | error error => exact .refl s
  | ok m =>
    rw [bind_ok (ofExcept_ok m s)]
    exact continues_dispatch tuned m

/-- A message of the handshake changes the handshake only, if it can be read at all. -/
theorem readHandshake_cases (s : Session) (payload : Bytes) :
    (∃ m, HandshakeMessage.decode s.link.registry s.link.features payload = .ok m ∧
      readHandshake payload s =
        .ok (s.handshake.receive m).1 { s with handshake := (s.handshake.receive m).2 }) ∨
    ∃ error, HandshakeMessage.decode s.link.registry s.link.features payload = .error error ∧
      readHandshake payload s = .error error s := by
  unfold readHandshake
  rw [bind_ok (get_eq s)]
  cases HandshakeMessage.decode s.link.registry s.link.features payload with
  | error error => exact .inr ⟨error, rfl, rfl⟩
  | ok m => exact .inl ⟨m, rfl, rfl⟩

theorem keeps_synchronize (handle : Handle) : Keeps allowed (synchronize handle) := by
  intro s
  rcases lock_cases s handle with held | ⟨o, found, sound, -⟩
  · rw [synchronize, bind_error held]
    exact .refl s
  · rw [synchronize_eq found sound]
    dsimp only
    split
    · refine Continues.trans ?_ (keeps_emit _ _)
      exact continues_of_same rfl rfl (.refl _) rfl
    · exact continues_of_same rfl rfl (.refl _) rfl

theorem keeps_sendHeartbeat : Keeps allowed sendHeartbeat :=
  have get : Keeps allowed (get : Action Session) := Continues.refl
  get.bind fun _ => (keeps_emit _).bind fun _ => keeps_count fun _ => rfl

/-- What an object calls at the other end publishes nothing. -/
theorem publishes_sync (o : Object) (target : Side) (slot : String) (params : List Value) :
    ∀ e ∈ o.sync target slot params, e.Publishes allowed := by
  unfold Object.sync
  split
  · intro e member event same
    rw [List.mem_singleton.mp member] at same
    cases same
  · exact List.forall_mem_nil _

end Session

theorem Task.keeps_sendBacklog {allowed : Event → Prop} (request : BacklogRequest) :
    Session.Keeps allowed (sendBacklog request) := by
  refine (Session.keeps_lock _).bind fun o => ?_
  split
  · exact fun s => .refl s
  · exact Session.keeps_performAll (Session.publishes_sync o _ _ _)

theorem Listing.keeps_request {allowed : Event → Prop} (network : NetworkId) (filters : List String) :
    Session.Keeps allowed (request network filters) := by
  refine (Session.keeps_lock _).bind fun o => ?_
  split
  · exact fun s => .refl s
  · exact Session.keeps_performAll (Session.publishes_sync o _ _ _)

theorem Task.keeps_trackOwn {allowed : Event → Prop} : Session.Keeps allowed trackOwn :=
  (Session.keeps_synchronize _).bind fun _ => Session.keeps_synchronize _

end Datastream
