import Datastream.Proofs.Handshake.Starting
import Datastream.Proofs.Queue.Callers
import Datastream.Proofs.Wire.Failing

/-!
# Requests of the handshake

A call that starts the handshake, sets the core up or logs in registers under the two kinds of message that
answer it, an acknowledgement and a refusal. If all calls have waits of their own under their kinds, what
one of them receives is a reply to its request, and so the error for a message that is no reply is not its
result (`Task.ComesOf.expected`). A message that is read goes to the calls that wait for its kind and to no
others (`Task.ComesOf.received_receive`), and a turn of any call leaves all the others with their waits
(`Call.serves_turn`).

The calls are `init`, `configure_core` and `login`, which send and register by `request`.
-/
namespace Datastream

open KeyedQueue (Serves callWait? leftWait? Registers failure?)

theorem Wire.Obstacle.ne_unexpected {r : Registry} {f : FeatureSet} {error : Error}
    (obstacle : Obstacle r f error) (kind : String) : error ≠ .unexpectedMessage kind := by
  cases obstacle with
  | @unregistered tag unknown => cases tag <;> nofun
  | tooLong | timestamp => nofun

theorem Session.failure?_onLink (act : EStateM Error Link Unit) (s : Session) :
    failure? (onLink act s) = failure? (act s.link) := by
  unfold onLink
  cases act s.link <;> rfl

/-- A message cannot be sent if it cannot be written, or if the connection is closed. -/
theorem Link.failure?_emitHandshake {m : HandshakeMessage} {l : Link} {error : Error}
    (failed : failure? (Link.emitHandshake m l) = some error) :
    Wire.Obstacle l.registry l.features error ∨ error = .connectionClosed := by
  unfold Link.emitHandshake Link.emitEncoded at failed
  cases written : m.encode l.registry l.features with
  | error refused =>
    rw [written] at failed
    obtain rfl : refused = error := Option.some.inj failed
    rw [HandshakeMessage.encode, Output.toExcept_eq_error_iff] at written
    exact .inl (Wire.stopsAt_payload (.list m.toList) (fun child _ => Wire.stopsAt_encode child) _ written)
  | ok payload =>
    rw [written] at failed
    unfold Link.emit at failed
    dsimp only at failed
    split at failed
    · exact .inr (Option.some.inj failed).symm
    · cases failed

namespace Task

def replyKinds : Task → List String
  | init .. => ["ClientInitAck", "ClientInitReject"]
  | setup _ => ["CoreSetupAck", "CoreSetupReject"]
  | login _ => ["ClientLoginAck", "ClientLoginReject"]
  | sessionState | openSession | backlog _ | listing _ | allInitialized => []

def received? (task : Task) (s : Session) : Option (Except Error HandshakeMessage) :=
  task.exchange?.bind fun await =>
    match (await.turn (·.handshake.replies) replies s).1 with
    | .done result => some result
    | .waiting _ => none

/-- The request of a call was sent, and nothing is there for it. -/
def Outstanding (task : Task) (s : Session) : Prop :=
  (∃ id, task.exchange? = some (.waiting id)) ∧ task.received? s = none

def wait? (task : Task) : Option (Nat × List String) :=
  task.exchange?.bind (callWait? task.replyKinds)

end Task

/-- The kinds of message under which a call registers, if it is one of the handshake. -/
def Request.awaited (request : Request) : List String :=
  match request.task.exchange? with
  | some (.fresh keys _) => keys
  | _ => []

theorem Request.awaited_eq (request : Request) : request.awaited = request.task.replyKinds := by
  cases request <;> rfl

/-- A kind of message answers one kind of request. -/
theorem Request.awaited_eq_of_shared {request other : Request} {kind : String}
    (own : kind ∈ request.awaited) (shared : kind ∈ other.awaited) :
    request.awaited = other.awaited := by
  let lists := [["ClientInitAck", "ClientInitReject"], ["CoreSetupAck", "CoreSetupReject"],
    ["ClientLoginAck", "ClientLoginReject"], []]
  have listed (request : Request) : request.awaited ∈ lists := by
    cases request <;> simp [lists, awaited_eq, Request.task, Task.replyKinds, Task.start,
      Task.configure, Task.logIn, Task.fetch, Task.list]
  have apart : ∀ kinds ∈ lists, ∀ kinds' ∈ lists, ∀ kind ∈ kinds, kind ∈ kinds' → kinds = kinds' := by
    decide
  exact apart _ (listed request) _ (listed other) kind own shared

/-- Sending the request of a call is sending a message. -/
theorem Request.sends {request : Request} {keys : List String} {send : EStateM Error Session Unit}
    (exchange : request.task.exchange? = some (.fresh keys send)) :
    keys = request.awaited ∧ ∃ m, send = Session.onLink (Link.emitHandshake m) := by
  cases request with
  | init | configure | logIn =>
    cases exchange
    exact ⟨rfl, _, rfl⟩
  | sessionState | openSession | fetch | list | allInitialized => cases exchange

/-- A call that was made with this request, in any of its turns. -/
structure Task.ComesOf (request : Request) (task : Task) : Prop where
  kinds : task.replyKinds = request.awaited
  exchange : task.exchange? = request.task.exchange? ∨ ∃ id, task.exchange? = some (.waiting id)

namespace Task

variable {task left : Task} {request : Request} {s s' : Session}

theorem comesOf_task (request : Request) : ComesOf request request.task :=
  ⟨request.awaited_eq.symm, .inl rfl⟩

theorem ComesOf.fresh (comes : ComesOf request task) {keys : List String}
    {send : EStateM Error Session Unit} (exchange : task.exchange? = some (.fresh keys send)) :
    keys = task.replyKinds ∧ ∃ m, send = Session.onLink (Link.emitHandshake m) := by
  rcases comes.exchange with same | ⟨id, waits⟩
  · rw [comes.kinds]
    exact Request.sends (same.symm.trans exchange)
  · rw [waits] at exchange
    cases exchange

theorem ComesOf.registers (comes : ComesOf request task) {await : Await String Session}
    (exchange : task.exchange? = some await) :
    Registers (fun s : Session => s.handshake.replies) task.replyKinds await := by
  cases await with
  | waiting id => trivial
  | fresh keys send =>
    obtain ⟨same, m, rfl⟩ := comes.fresh exchange
    refine ⟨same, fun s => ?_⟩
    have keeps : Session.Continues Session.Silent s (endState (Session.onLink (Link.emitHandshake m) s)) :=
      Session.keeps_emitHandshake m s
    exact congrArg Handshake.replies keeps.handshake

/-- A reply that answers a call is not unexpected to it. -/
theorem expected_coreState {m : HandshakeMessage} (own : m.kind ∈ ["ClientInitAck", "ClientInitReject"])
    (kind : String) : Handshake.coreState m ≠ .error (.unexpectedMessage kind) := by
  cases m with
  | clientInitAck core backends authenticators configured =>
    cases configured with
    | none => nofun
    | some configured => cases configured <;> nofun
  | clientInitReject => nofun
  | clientInit | clientLogin | clientLoginAck | clientLoginReject | coreSetupData | coreSetupAck
  | coreSetupReject | sessionInit => simp [HandshakeMessage.kind] at own

theorem expected_setupDone {m : HandshakeMessage} (own : m.kind ∈ ["CoreSetupAck", "CoreSetupReject"])
    (kind : String) : Handshake.setupDone m ≠ .error (.unexpectedMessage kind) := by
  cases m with
  | coreSetupAck | coreSetupReject => nofun
  | clientInit | clientInitAck | clientInitReject | clientLogin | clientLoginAck | clientLoginReject
  | coreSetupData | sessionInit => simp [HandshakeMessage.kind] at own

theorem expected_loggedIn {m : HandshakeMessage} (own : m.kind ∈ ["ClientLoginAck", "ClientLoginReject"])
    (kind : String) : Handshake.loggedIn m ≠ .error (.unexpectedMessage kind) := by
  cases m with
  | clientLoginAck | clientLoginReject => nofun
  | clientInit | clientInitAck | clientInitReject | clientLogin | coreSetupData | coreSetupAck
  | coreSetupReject | sessionInit => simp [HandshakeMessage.kind] at own

theorem ne_unexpected_map {α β : Type} {x : Except Error α} {kind : String} (f : α → β)
    (expected : x ≠ .error (.unexpectedMessage kind)) : f <$> x ≠ .error (.unexpectedMessage kind) := by
  cases x with
  | error error =>
    intro same
    cases same
    exact expected rfl
  | ok a => nofun

/-- What a call of the handshake makes of what it receives. -/
structure HandsOn (task : Task)
    (turned : Turn (Await String Session) (Except Error HandshakeMessage) × Session)
    (outcome : Outcome × Session) : Prop where
  replies : outcome.2.handshake.replies = turned.2.handshake.replies
  failed : ∀ error, turned.1 = .done (.error error) → outcome.1 = .done (.error error)
  replied : ∀ m, turned.1 = .done (.ok m) → ∃ result, outcome.1 = .done result ∧
    (m.kind ∈ task.replyKinds → ∀ kind, result ≠ .error (.unexpectedMessage kind))
  waits : ∀ again, turned.1 = .waiting again → ∃ left, outcome.1 = .waiting left ∧
    left.exchange? = some again ∧ left.replyKinds = task.replyKinds

theorem handsOn_answer {again : Await String Session → Task}
    {read : HandshakeMessage → Session → Except Error Answer × Session}
    (same : ∀ m s, (read m s).2.handshake.replies = s.handshake.replies)
    (expected : ∀ m s, m.kind ∈ task.replyKinds →
      ∀ kind, (read m s).1 ≠ .error (.unexpectedMessage kind))
    (left : ∀ await, (again await).exchange? = some await ∧ (again await).replyKinds = task.replyKinds)
    (turned : Turn (Await String Session) (Except Error HandshakeMessage) × Session) :
    HandsOn task turned (answer again read turned) := by
  rcases turned with ⟨(error | m) | await, s⟩
  · refine ⟨rfl, ?_, nofun, nofun⟩
    rintro _ ⟨⟩
    rfl
  · refine ⟨same m s, nofun, ?_, nofun⟩
    rintro _ ⟨⟩
    exact ⟨_, rfl, expected m s⟩
  · refine ⟨rfl, nofun, nofun, ?_⟩
    rintro _ ⟨⟩
    exact ⟨_, rfl, left await⟩

theorem handsOn_turn {await : Await String Session} (exchange : task.exchange? = some await)
    (s : Session) : HandsOn task (await.turn (·.handshake.replies) Task.replies s) (task.turn s) := by
  cases task with
  | sessionState | openSession | backlog | listing | allInitialized => cases exchange
  | init features await' =>
    cases exchange
    rw [Task.turn]
    apply handsOn_answer
    · exact fun m s => (takeInit_state features m s).2
    · exact fun m s own kind => ne_unexpected_map _ (expected_coreState own kind)
    · exact fun again => ⟨rfl, rfl⟩
  | setup await' =>
    cases exchange
    rw [Task.turn]
    apply handsOn_answer
    · exact fun m s => rfl
    · exact fun m s own kind => ne_unexpected_map _ (expected_setupDone own kind)
    · exact fun again => ⟨rfl, rfl⟩
  | login await' =>
    cases exchange
    rw [Task.turn]
    apply handsOn_answer
    · exact fun m s => rfl
    · exact fun m s own kind => ne_unexpected_map _ (expected_loggedIn own kind)
    · exact fun again => ⟨rfl, rfl⟩

/-- A call that has no part in the handshake gets none. -/
theorem exchange?_of_waiting (other : task.exchange? = none) (waits : (task.turn s).1 = .waiting left) :
    left.exchange? = none := by
  cases task with
  | init | setup | login => cases other
  | backlog await | listing search =>
    obtain ⟨_, -, rfl⟩ := waiting_answer waits
    rfl
  | sessionState | openSession =>
    simp only [Task.turn, collectState] at waits
    split at waits
    · cases waits
      rfl
    · cases waits
    · split at waits <;> cases waits
  | allInitialized =>
    simp only [Task.turn] at waits
    split at waits
    · cases waits
    · cases waits
      rfl

theorem replyKinds_of_none (other : task.exchange? = none) : task.replyKinds = [] := by
  cases task with
  | init | setup | login => cases other
  | sessionState | openSession | backlog | listing | allInitialized => rfl

/-- What is left of a call in its turn comes of the same request. -/
theorem ComesOf.waiting (comes : ComesOf request task)
    (waits : (task.turn s).1 = .waiting left) : ComesOf request left := by
  cases exchange : task.exchange? with
  | none =>
    have other := exchange?_of_waiting exchange waits
    refine ⟨?_, .inl ?_⟩
    · rw [← comes.kinds, replyKinds_of_none exchange, replyKinds_of_none other]
    · rcases comes.exchange with same | ⟨id, entered⟩
      · rw [other, ← same, exchange]
      · rw [entered] at exchange
        cases exchange
  | some await =>
    have hands := handsOn_turn exchange s
    cases turned : (await.turn (·.handshake.replies) Task.replies s).1 with
    | done result =>
      cases result with
      | error error =>
        rw [hands.failed error turned] at waits
        cases waits
      | ok m =>
        obtain ⟨result, ended, -⟩ := hands.replied m turned
        rw [ended] at waits
        cases waits
    | waiting again =>
      obtain ⟨left', waits', still, kinds⟩ := hands.waits again turned
      obtain rfl : left' = left := Turn.waiting.inj (waits'.symm.trans waits)
      refine ⟨kinds.trans comes.kinds, .inr ?_⟩
      cases again with
      | waiting id => exact ⟨id, still⟩
      | fresh keys send => exact (Await.sends_of_waiting (P := fun _ => False) turned).elim

/-- A reply is one of the kinds that are waited for, and the queue fails waits only when it closes. -/
def Suits (kinds : List String) : Except Error HandshakeMessage → Prop
  | .ok m => m.kind ∈ kinds
  | .error error => error = .connectionClosed

/-- What there is for a call, if anything, suits its kinds. -/
def Due (_ : Nat) (kinds : List String) (found : Option (Except Error HandshakeMessage)) : Prop :=
  ∀ result, found = some result → Suits kinds result

/-- What is so of the calls stays so when they are given what suits their kinds. -/
def Lasting (suits : Nat → List String → Option (Except Error HandshakeMessage) → Prop) : Prop :=
  ∀ {caller kinds found result}, suits caller kinds found → Suits kinds result →
    suits caller kinds (found.or (some result))

theorem lasting_due : Lasting Due := by
  intro caller kinds found result before suits result' told
  rcases Option.or_eq_some_iff.mp told with old | ⟨-, new⟩
  · exact before result' old
  · cases new
    exact suits

variable {suits : Nat → List String → Option (Except Error HandshakeMessage) → Prop}
  {wait? : Nat → Option (Nat × List String)} {caller : Nat}

theorem replies_inPlace (f : KeyedQueue String HandshakeMessage → KeyedQueue String HandshakeMessage)
    (s : Session) : (Task.replies f s).handshake.replies = f s.handshake.replies := rfl

theorem received?_eq_some_iff {result : Except Error HandshakeMessage} :
    task.received? s = some result ↔ ∃ await, task.exchange? = some await ∧
      (await.turn (·.handshake.replies) Task.replies s).1 = .done result := by
  rw [received?, Option.bind_eq_some_iff]
  refine exists_congr fun await => and_congr_right fun _ => ?_
  cases (await.turn (·.handshake.replies) Task.replies s).1 <;> simp

theorem received?_waiting {id : Nat} (exchange : task.exchange? = some (.waiting id)) (s : Session) :
    task.received? s = s.handshake.replies.delivered.find? id := by
  have told := (@KeyedQueue.turn_waiting _ _ _ _ (·.handshake.replies) Task.replies replies_inPlace id s).1
  rw [received?, exchange, Option.bind_some, told]
  cases s.handshake.replies.delivered.find? id <;> rfl

/-- A call whose request was not sent receives nothing, or the reason why it cannot be sent. -/
theorem ComesOf.received?_fresh (comes : ComesOf request task) {keys : List String}
    {send : EStateM Error Session Unit} (exchange : task.exchange? = some (.fresh keys send)) :
    ∃ m, ∀ s : Session, s.handshake.replies.Sound → task.received? s =
      if s.handshake.replies.closed then some (.error .connectionClosed)
      else (failure? (Link.emitHandshake m s.link)).map .error := by
  obtain ⟨-, quiet⟩ := comes.registers exchange
  obtain ⟨-, m, rfl⟩ := comes.fresh exchange
  refine ⟨m, fun s sound => ?_⟩
  have told := @KeyedQueue.turn_fresh _ _ _ _ (·.handshake.replies) Task.replies keys replies_inPlace
    s sound _ quiet
  have link : (Task.replies (fun q => (q.register keys).2) s).link = s.link := rfl
  rw [received?, exchange, Option.bind_some, told, Session.failure?_onLink, link]
  cases s.handshake.replies.closed with
  | true => rfl
  | false => cases failure? (Link.emitHandshake m s.link) <;> rfl

/-- What a call receives suits it. If it is an error, the connection is closed or the request could not be
written. -/
theorem ComesOf.received (comes : ComesOf request task)
    (serves : Serves Due s.handshake.replies wait?) (here : wait? caller = task.wait?)
    {result : Except Error HandshakeMessage} (received : task.received? s = some result) :
    Suits task.replyKinds result ∨
      ∃ error, result = .error error ∧ Wire.Obstacle s.link.registry s.link.features error := by
  obtain ⟨await, exchange, -⟩ := received?_eq_some_iff.mp received
  cases await with
  | waiting id =>
    rw [received?_waiting exchange] at received
    rw [Task.wait?, exchange] at here
    exact .inl (serves.suited here result received)
  | fresh keys send =>
    obtain ⟨m, told⟩ := comes.received?_fresh exchange
    rw [told s serves.sound] at received
    split at received
    · cases received
      exact .inl rfl
    · obtain ⟨error, failed, rfl⟩ := Option.map_eq_some_iff.mp received
      rcases Link.failure?_emitHandshake failed with obstacle | rfl
      · exact .inr ⟨error, rfl, obstacle⟩
      · exact .inl rfl

/-- The result of a call of the handshake is not that its reply was unexpected. -/
theorem ComesOf.expected (comes : ComesOf request task)
    (serves : Serves Due s.handshake.replies wait?) (here : wait? caller = task.wait?)
    (asks : request.awaited ≠ []) {result : Except Error Answer}
    (done : (task.turn s).1 = .done result) (kind : String) :
    result ≠ .error (.unexpectedMessage kind) := by
  cases exchange : task.exchange? with
  | none => exact absurd (comes.kinds.symm.trans (replyKinds_of_none exchange)) asks
  | some await =>
    have hands := handsOn_turn exchange s
    cases turned : (await.turn (·.handshake.replies) Task.replies s).1 with
    | waiting again =>
      obtain ⟨left, waits, -⟩ := hands.waits again turned
      rw [waits] at done
      cases done
    | done found =>
      have suits := comes.received serves here (received?_eq_some_iff.mpr ⟨await, exchange, turned⟩)
      cases found with
      | error error =>
        rw [hands.failed error turned] at done
        cases done
        rcases suits with same | ⟨_, same, obstacle⟩
        · obtain rfl : error = .connectionClosed := same
          nofun
        · cases same
          exact fun same => obstacle.ne_unexpected kind (Except.error.inj same)
      | ok m =>
        obtain ⟨result', ended, expected⟩ := hands.replied m turned
        rw [ended] at done
        cases done
        rcases suits with own | ⟨_, same, -⟩
        · exact expected own kind
        · cases same

/-- A message that is read is handed to all that wait for its kind, or no call waits for such messages. -/
theorem receive_cases (h : Handshake) (m : HandshakeMessage) :
    (h.receive m).2.replies = (h.replies.move (.resume m.kind m)).2 ∨
      (h.receive m).2.replies = h.replies ∧ ∀ task : Task, m.kind ∉ task.replyKinds := by
  cases m with
  | clientInitAck | clientInitReject | coreSetupAck | coreSetupReject | clientLoginAck
  | clientLoginReject => exact .inl rfl
  | clientInit | clientLogin | coreSetupData | sessionInit =>
    refine .inr ⟨rfl, fun task => ?_⟩
    cases task <;> simp [replyKinds, HandshakeMessage.kind]

theorem serves_receive (lasting : Lasting suits) (serves : Serves suits s.handshake.replies wait?)
    (m : HandshakeMessage) : Serves suits (s.handshake.receive m).2.replies wait? := by
  rcases receive_cases s.handshake m with woken | ⟨same, -⟩
  · rw [woken]
    apply serves.move
    · intro caller id kinds waits
      rw [KeyedQueue.Move.grant]
      split
      · next own => exact lasting (serves.suited waits) (List.mem_toFinset.mp own)
      · rw [Option.or_none]
        exact serves.suited waits
    · simp
  · rw [same]
    exact serves

theorem closed_receive (h : Handshake) (m : HandshakeMessage) (sound : h.replies.Sound) :
    (h.receive m).2.replies.closed = h.replies.closed := by
  rcases receive_cases h m with woken | ⟨same, -⟩
  · obtain ⟨-, -, refines⟩ := KeyedQueue.move_refines sound (.resume m.kind m)
    rw [woken]
    exact congrArg Waits.closed refines
  · rw [same]

/-- A message goes to a call that waits for its kind. What other calls receive is as before. -/
theorem ComesOf.received_receive (comes : ComesOf request task)
    (serves : Serves Due s.handshake.replies wait?) (here : wait? caller = task.wait?)
    (m : HandshakeMessage) :
    let s' := { s with handshake := (s.handshake.receive m).2 }
    (task.Outstanding s → m.kind ∈ task.replyKinds → task.received? s' = some (.ok m)) ∧
      (¬(task.Outstanding s ∧ m.kind ∈ task.replyKinds) → task.received? s' = task.received? s) := by
  intro s'
  cases exchange : task.exchange? with
  | none =>
    have nothing (s : Session) : task.received? s = none := by rw [received?, exchange]; rfl
    constructor
    · rintro ⟨⟨id, waits⟩, -⟩
      rw [exchange] at waits
      cases waits
    · exact fun _ => (nothing s').trans (nothing s).symm
  | some await =>
    cases await with
    | fresh keys send =>
      obtain ⟨m', told⟩ := comes.received?_fresh exchange
      have closed : s'.handshake.replies.closed = s.handshake.replies.closed :=
        closed_receive s.handshake m serves.sound
      constructor
      · rintro ⟨⟨id, waits⟩, -⟩
        rw [exchange] at waits
        cases waits
      · intro _
        rw [told s serves.sound, told s' (serves_receive lasting_due serves m).sound, closed]
    | waiting id =>
      rw [Task.wait?, exchange] at here
      have received := received?_waiting exchange
      unfold Outstanding
      rw [received s, received s']
      rcases receive_cases s.handshake m with woken | ⟨same, foreign⟩
      · have found := serves.find?_move here (m := .resume m.kind m) ⟨nofun, nofun⟩
        rw [← woken] at found
        rw [found, KeyedQueue.Move.grant]
        constructor
        · rintro ⟨-, nothing⟩ own
          rw [nothing, if_pos (List.mem_toFinset.mpr own), Option.none_or]
        · intro others
          cases had : s.handshake.replies.delivered.find? id with
          | some result => rfl
          | none =>
            have foreign : m.kind ∉ task.replyKinds := fun own => others ⟨⟨⟨id, exchange⟩, had⟩, own⟩
            rw [if_neg (mt List.mem_toFinset.mp foreign), Option.none_or]
      · rw [show s'.handshake.replies = s.handshake.replies from same]
        exact ⟨fun _ own => absurd own (foreign task), fun _ => rfl⟩

theorem steady_replies :
    Steady fun s s' : Session => s'.handshake.replies = s.handshake.replies where
  refl _ := rfl
  trans first second := second.trans first
  continues keeps := congrArg Handshake.replies keeps.handshake
  slot _ _ := rfl

def keptWait? : Outcome → Option (Nat × List String)
  | .done _ => none
  | .waiting left => left.wait?

theorem wait?_of_none (other : task.exchange? = none) : task.wait? = none := by
  rw [Task.wait?, other]
  rfl

variable {wait?' : Nat → Option (Nat × List String)}

theorem ComesOf.serves_turn (comes : ComesOf request task) (sound : task.Sound)
    (serves : Serves suits s.handshake.replies wait?) (here : wait? caller = task.wait?)
    (others : ∀ j, j ≠ caller → wait?' j = wait? j)
    (kept : wait?' caller = keptWait? (task.turn s).1)
    (unanswered : suits caller task.replyKinds none) :
    Serves suits (task.turn s).2.handshake.replies wait?' := by
  cases exchange : task.exchange? with
  | none =>
    have ended : wait?' caller = none := by
      rw [kept]
      cases turned : (task.turn s).1 with
      | done result => rfl
      | waiting left => exact wait?_of_none (exchange?_of_waiting exchange turned)
    rw [steady_replies.turn sound s exchange]
    exact serves.without others ended
  | some await =>
    have hands := handsOn_turn exchange s
    rw [hands.replies]
    rw [Task.wait?, exchange] at here
    refine @KeyedQueue.Serves.turn _ _ _ _ _ _ (·.handshake.replies) Task.replies _ _ _ _ replies_inPlace
      _ _ serves (comes.registers exchange) here others ?_ unanswered
    rw [kept]
    cases turned : (await.turn (·.handshake.replies) Task.replies s).1 with
    | waiting again =>
      obtain ⟨left, waits, still, kinds⟩ := hands.waits again turned
      rw [waits, keptWait?, Task.wait?, still, kinds]
      rfl
    | done found =>
      cases found with
      | error error =>
        rw [hands.failed error turned]
        rfl
      | ok m =>
        obtain ⟨result, ended, -⟩ := hands.replied m turned
        rw [ended]
        rfl

theorem serves_cancel (serves : Serves suits s.handshake.replies wait?)
    (here : wait? caller = task.wait?) (others : ∀ j, j ≠ caller → wait?' j = wait? j)
    (ended : wait?' caller = none) : Serves suits (task.cancel s).handshake.replies wait?' := by
  have cancelled {await : Await String Session} (exchange : task.exchange? = some await) :
      Serves suits (await.cancel Task.replies s).handshake.replies wait?' := by
    rw [Task.wait?, exchange] at here
    exact @KeyedQueue.Serves.cancel _ _ _ _ _ _ (·.handshake.replies) Task.replies _ _ _ _ replies_inPlace
      _ _ serves here others ended
  cases task with
  | init features await => exact cancelled rfl
  | setup await => exact cancelled rfl
  | login await => exact cancelled rfl
  | sessionState | openSession | backlog | listing | allInitialized =>
    rw [steady_replies.cancel s rfl]
    exact serves.without others ended

end Task

namespace Call

variable {call : Call} {request : Request} {s : Session} {now caller : Nat}
  {suits : Nat → List String → Option (Except Error HandshakeMessage) → Prop}
  {wait? wait?' : Nat → Option (Nat × List String)}

def keptWait? : Turn Call (Except Error Answer) → Option (Nat × List String)
  | .done _ => none
  | .waiting left => left.task.wait?

theorem serves_turn (comes : call.task.ComesOf request) (sound : call.task.Sound)
    (serves : Serves suits s.handshake.replies wait?) (here : wait? caller = call.task.wait?)
    (others : ∀ j, j ≠ caller → wait?' j = wait? j)
    (kept : wait?' caller = keptWait? (call.turn now s).1)
    (unanswered : suits caller call.task.replyKinds none) :
    Serves suits (call.turn now s).2.handshake.replies wait?' := by
  cases turned : call.task.turn s with
  | mk outcome s' =>
    cases outcome with
    | done result =>
      simp only [Call.turn, turned] at kept ⊢
      have after := comes.serves_turn sound serves here others (by rw [turned]; exact kept) unanswered
      rwa [turned] at after
    | waiting left =>
      simp only [Call.turn, turned] at kept ⊢
      split at kept
      · next late =>
        rw [if_pos late]
        let between : Nat → Option (Nat × List String) := fun j =>
          if j = caller then left.wait? else wait? j
        have after : Serves suits (call.task.turn s).2.handshake.replies between :=
          comes.serves_turn sound serves here (fun j differs => if_neg differs)
            (by rw [turned]; exact if_pos rfl) unanswered
        rw [turned] at after
        exact Task.serves_cancel after (if_pos rfl)
          (fun j differs => (others j differs).trans (if_neg differs).symm) kept
      · next early =>
        rw [if_neg early]
        have after := comes.serves_turn sound serves here others (by rw [turned]; exact kept) unanswered
        rwa [turned] at after

/-- A call of the handshake does not return that its reply was unexpected. -/
theorem expected (comes : call.task.ComesOf request)
    (serves : Serves Task.Due s.handshake.replies wait?) (here : wait? caller = call.task.wait?)
    (asks : request.awaited ≠ []) {result : Except Error Answer}
    (done : (call.turn now s).1 = .done result) (kind : String) :
    result ≠ .error (.unexpectedMessage kind) := by
  unfold Call.turn at done
  split at done
  · next result' s' ran =>
    cases done
    exact comes.expected serves here asks (congrArg Prod.fst ran) kind
  · split at done
    · cases done
      nofun
    · cases done

/-- A call that receives a reply is over with it, whatever the time. -/
theorem turn_of_received {reply : HandshakeMessage} (now : Nat)
    (received : call.task.received? s = some (.ok reply)) :
    ∃ result, (call.turn now s).1 = .done result := by
  obtain ⟨await, exchange, turned⟩ := Task.received?_eq_some_iff.mp received
  obtain ⟨result, ended, -⟩ := (Task.handsOn_turn exchange s).replied reply turned
  refine ⟨result, ?_⟩
  cases ran : call.task.turn s with
  | mk outcome s' =>
    obtain rfl : outcome = .done result := by rw [← ended, ran]
    simp only [Call.turn, ran]

end Call

end Datastream
