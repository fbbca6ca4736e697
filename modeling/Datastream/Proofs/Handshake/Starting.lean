import Datastream.Proofs.Handshake.RoundTrip
import Datastream.Proofs.Queue.Provenance
import Datastream.Proofs.Session.Calls
import Mathlib.Logic.Basic

/-!
# The start of the handshake

A client announces its features when it starts the handshake, and the core lists its own in the
acknowledgement, each in a mask and by name. What both have is put into force by the call that takes the
acknowledgement, in the turn in which it takes it; no turn of any other call switches features, and no turn
brings a reply that was not there (`Task.turn_switches`).

The turn is that of `init`.
-/
namespace Datastream

namespace HandshakeMessage

def spelt (r : Registry) (f : FeatureSet) (payload : Bytes) : Except Error Fields :=
  match Value.decodeList r f payload with
  | .error error _ => .error error
  | .ok items _ =>
    if items.length % 2 = 1 then .error (.malformed .keyWithoutValue) else pairUp items []

theorem decode_eq (r : Registry) (f : FeatureSet) (payload : Bytes) :
    decode r f payload = spelt r f payload >>= ofFields := by
  unfold decode spelt ofList
  cases Value.decodeList r f payload with
  | error error rest => rfl
  | ok items rest =>
    dsimp only
    split <;> rfl

/-- Whether fields list a feature, by a bit in the mask under a key or by name. -/
def Lists (fields : Fields) (key : String) (f : Feature) : Prop :=
  f.Listed ((field? Value.uint? fields key).getD 0)
    ((field? (Value.listOf? Value.text?) fields "FeatureList").getD [])

/-- A client lists what it knows in the message with which it starts the handshake. -/
theorem lists_clientInit (version date : String) {features : FeatureSet} {f : Feature}
    (known : f ∈ features.known) :
    Lists (Fields.ofPairs (clientInit version date features).toFields) "Features" f := by
  unfold Lists
  simp only [toFields, kind, featureNames, Fields.ofPairs, List.foldl_cons, List.foldl_nil, field?,
    Fields.get?_nil, Fields.get?_insert, String.reduceEq, if_true, if_false, Option.bind_some,
    Option.getD_some, Value.texts_ofTexts, Value.uint?]
  exact FeatureSet.listed_of_known known

/-- The features that an acknowledged start reports are those that its fields list. -/
theorem ofFields_clientInitAck {fields : Fields} {core : FeatureSet} {backends authenticators : List Value}
    {configured : Option Bool}
    (made : ofFields fields = .ok (.clientInitAck core backends authenticators configured)) :
    core = featuresOf fields "CoreFeatures" := by
  unfold ofFields at made
  cases told : field? Value.text? fields "MsgType" with
  | none =>
    rw [told] at made
    cases made
  | some kind =>
    rw [told] at made
    dsimp only at made
    obtain ⟨-, made⟩ | ⟨-, made⟩ := ite_eq_iff.mp made
    · obtain ⟨version, -, made⟩ := ok_of_bind made
      cases made
    obtain ⟨-, made⟩ | ⟨-, made⟩ := ite_eq_iff.mp made
    · cases made
      rfl
    obtain ⟨-, made⟩ | ⟨-, made⟩ := ite_eq_iff.mp made
    · cases made
    obtain ⟨-, made⟩ | ⟨-, made⟩ := ite_eq_iff.mp made
    · obtain ⟨user, -, made⟩ := ok_of_bind made
      obtain ⟨password, -, made⟩ := ok_of_bind made
      cases made
    obtain ⟨-, made⟩ | ⟨-, made⟩ := ite_eq_iff.mp made
    · cases made
    obtain ⟨-, made⟩ | ⟨-, made⟩ := ite_eq_iff.mp made
    · cases made
    obtain ⟨-, made⟩ | ⟨-, made⟩ := ite_eq_iff.mp made
    · obtain ⟨data, -, made⟩ := ok_of_bind made
      obtain ⟨user, -, made⟩ := ok_of_bind made
      obtain ⟨password, -, made⟩ := ok_of_bind made
      cases made
    obtain ⟨-, made⟩ | ⟨-, made⟩ := ite_eq_iff.mp made
    · cases made
    obtain ⟨-, made⟩ | ⟨-, made⟩ := ite_eq_iff.mp made
    · cases made
    obtain ⟨-, made⟩ | ⟨-, made⟩ := ite_eq_iff.mp made
    · obtain ⟨state, -, made⟩ := ok_of_bind made
      obtain ⟨identities, -, made⟩ := ok_of_bind made
      obtain ⟨buffers, -, made⟩ := ok_of_bind made
      obtain ⟨networks, -, made⟩ := ok_of_bind made
      cases made
    · cases made

theorem lists_of_ack {fields : Fields} {core : FeatureSet} {backends authenticators : List Value}
    {configured : Option Bool} {f : Feature}
    (made : ofFields fields = .ok (.clientInitAck core backends authenticators configured))
    (known : f ∈ core.known) : Lists fields "CoreFeatures" f := by
  rw [ofFields_clientInitAck made] at known
  exact (FeatureSet.mem_known_build _ _).mp known

end HandshakeMessage

theorem Await.Calm.found {κ ν σ : Type} [DecidableEq κ] {get : σ → KeyedQueue κ ν}
    {set : (KeyedQueue κ ν → KeyedQueue κ ν) → σ → σ} {R : σ → σ → Prop} (calm : Await.Calm get set R)
    {await : Await κ σ} (sends : await.Sends fun send => ∀ s, R s (endState (send s))) {s : σ} {value : ν}
    (done : (await.turn get set s).1 = .done (.ok value)) : ∃ s', R s s' ∧ (get s').Holds value := by
  have collected {id : Nat} {s : σ} (done : (Await.collect get set id s).1 = .done (.ok value)) :
      (get s).Holds value := by
    unfold Await.collect at done
    split at done
    · next result queue found =>
      cases done
      exact (KeyedQueue.holds_collect found).1 value rfl
    · cases done
  cases await with
  | waiting id => exact ⟨s, calm.refl s, collected done⟩
  | fresh keys send =>
    have waited := calm.wait keys sends s
    cases ran : KeyedQueue.wait get set keys send s with
    | error error s' =>
      rw [Await.turn_fresh_error ran] at done
      cases done
    | ok id s' =>
      rw [ran] at waited
      rw [Await.turn_fresh_ok ran] at done
      exact ⟨s', waited, collected done⟩

namespace Task

open Session (Silent Keeps)

structure Still (s s' : Session) : Prop where
  features : s'.link.features = s.link.features
  replies : ∀ reply, s'.handshake.replies.Holds reply → s.handshake.replies.Holds reply

theorem calm_still : Calm Still where
  refl _ := ⟨rfl, fun _ holds => holds⟩
  trans first second :=
    ⟨second.features.trans first.features, fun reply holds => first.replies reply (second.replies reply holds)⟩
  enter _ _ := ⟨rfl, fun _ holds => holds⟩
  withdraw _ _ := ⟨rfl, fun _ holds => KeyedQueue.holds_withdraw holds⟩
  collect found := ⟨rfl, (KeyedQueue.holds_collect found).2⟩
  continues keeps := ⟨keeps.link.features, fun _ holds => by rwa [keeps.handshake] at holds⟩
  slot _ _ := ⟨rfl, fun _ holds => holds⟩

def taken? : Task → Session → Option (FeatureSet × HandshakeMessage)
  | init features await, s =>
    match (await.turn (·.handshake.replies) replies s).1 with
    | .done (.ok reply) => some (features, reply)
    | _ => none
  | _, _ => none

/-- What the turn of a start leads to. -/
theorem turn_init_cases (features : FeatureSet) (await : Await String Session) (s : Session) :
    let turned := await.turn (·.handshake.replies) replies s
    (∃ again, taken? (.init features await) s = none ∧
      (init features await).turn s = (.waiting (init features again), turned.2)) ∨
    (∃ error, taken? (.init features await) s = none ∧
      (init features await).turn s = (.done (.error error), turned.2)) ∨
    ∃ reply, taken? (.init features await) s = some (features, reply) ∧
      turned.1 = .done (.ok reply) ∧
      (init features await).turn s =
        (.done (takeInit features reply turned.2).1, (takeInit features reply turned.2).2) := by
  simp only [taken?, Task.turn]
  generalize await.turn (·.handshake.replies) replies s = turned
  rcases turned with ⟨(error | reply) | again, s'⟩
  · exact .inr (.inl ⟨error, rfl, rfl⟩)
  · exact .inr (.inr ⟨reply, rfl, rfl, rfl⟩)
  · exact .inl ⟨again, rfl, rfl⟩

/-- The features in force once a start has taken its reply, if it has. -/
def switched (current : FeatureSet) : Option (FeatureSet × HandshakeMessage) → FeatureSet
  | some (announced, .clientInitAck core ..) => announced.intersect core
  | _ => current

theorem takeInit_state (announced : FeatureSet) (reply : HandshakeMessage) (s : Session) :
    (takeInit announced reply s).2.link.features = switched s.link.features (some (announced, reply)) ∧
      (takeInit announced reply s).2.handshake.replies = s.handshake.replies := by
  cases reply <;> exact ⟨rfl, rfl⟩

variable {task : Task} {s : Session}

/-- A turn switches the features just if a start takes an acknowledgement in it. No turn brings
replies. -/
theorem turn_switches (sound : task.Sound) :
    (task.turn s).2.link.features = switched s.link.features (task.taken? s) ∧
      ∀ reply, (task.turn s).2.handshake.replies.Holds reply → s.handshake.replies.Holds reply := by
  cases task with
  | init features await =>
    have still := calm_still.toCalm.turn (calm_still.steady.sends sound) s
    rcases turn_init_cases features await s with ⟨again, taken, turned⟩ | ⟨error, taken, turned⟩ |
      ⟨reply, taken, -, turned⟩
    · rw [turned, taken]
      exact ⟨still.features, still.replies⟩
    · rw [turned, taken]
      exact ⟨still.features, still.replies⟩
    · obtain ⟨features', replies'⟩ :=
        takeInit_state features reply (await.turn (·.handshake.replies) replies s).2
      rw [turned, taken]
      dsimp only
      rw [features', replies', still.features]
      exact ⟨rfl, still.replies⟩
  | setup | login | sessionState | openSession | backlog | listing | allInitialized =>
    have still := calm_still.turn sound s fun _ _ same => by cases same
    exact ⟨still.features, still.replies⟩

/-- What a start takes was held for it. -/
theorem taken_held (sound : task.Sound) {announced : FeatureSet} {reply : HandshakeMessage}
    (taken : task.taken? s = some (announced, reply)) :
    (∃ await, task = .init announced await) ∧ s.handshake.replies.Holds reply := by
  cases task with
  | init features await =>
    rcases turn_init_cases features await s with ⟨_, nothing, -⟩ | ⟨_, nothing, -⟩ |
      ⟨reply', found, done, -⟩
    · rw [nothing] at taken
      cases taken
    · rw [nothing] at taken
      cases taken
    · rw [found] at taken
      cases taken
      obtain ⟨s', still, holds⟩ := calm_still.toCalm.found (calm_still.steady.sends sound) done
      exact ⟨⟨await, rfl⟩, still.replies _ holds⟩
  | setup | login | sessionState | openSession | backlog | listing | allInitialized => cases taken

/-- A call that takes a reply is over with it. -/
theorem taken_of_waiting {left : Task} (waits : (task.turn s).1 = .waiting left) :
    task.taken? s = none := by
  cases task with
  | init features await =>
    rcases turn_init_cases features await s with ⟨_, nothing, -⟩ | ⟨_, nothing, -⟩ | ⟨_, -, -, turned⟩
    · exact nothing
    · exact nothing
    · rw [turned] at waits
      cases waits
  | setup | login | sessionState | openSession | backlog | listing | allInitialized => rfl

/-- A start that waits on has announced the same features. -/
theorem init_of_waiting {announced : FeatureSet} {again : Await String Session}
    (waits : (task.turn s).1 = .waiting (.init announced again)) :
    ∃ await, task = .init announced await := by
  cases task with
  | init features await =>
    obtain ⟨_, -, same⟩ := waiting_answer waits
    cases same
    exact ⟨await, rfl⟩
  | setup | login | backlog | listing =>
    obtain ⟨_, -, same⟩ := waiting_answer waits
    cases same
  | sessionState | openSession =>
    simp only [Task.turn, Task.collectState] at waits
    split at waits
    · cases waits
    · cases waits
    · split at waits <;> cases waits
  | allInitialized =>
    simp only [Task.turn] at waits
    split at waits <;> cases waits

theorem core_of_answer {α β : Type} {again : α → Task}
    {read : β → Session → Except Error Answer × Session} {turned : Turn α (Except Error β) × Session}
    {state : CoreState} (done : (answer again read turned).1 = .done (.ok (.core state))) :
    ∃ b, turned.1 = .done (.ok b) ∧ (read b turned.2).1 = .ok (.core state) := by
  rcases turned with ⟨(error | b) | await, s'⟩
  · cases done
  · exact ⟨b, rfl, Turn.done.inj done⟩
  · cases done

/-- A call that tells the state of the core has taken an acknowledgement. -/
theorem ack_of_core {state : CoreState} (done : (task.turn s).1 = .done (.ok (.core state))) :
    ∃ announced core backends authenticators configured,
      task.taken? s = some (announced, .clientInitAck core backends authenticators configured) := by
  cases task with
  | init features await =>
    rcases turn_init_cases features await s with ⟨_, -, turned⟩ | ⟨_, -, turned⟩ |
      ⟨reply, taken, -, turned⟩
    · rw [turned] at done
      cases done
    · rw [turned] at done
      cases done
    · rw [turned] at done
      cases reply with
      | clientInitAck core backends authenticators configured => exact ⟨_, _, _, _, _, taken⟩
      | clientInit | clientInitReject | clientLogin | clientLoginAck | clientLoginReject | coreSetupData
      | coreSetupAck | coreSetupReject | sessionInit => cases done
  | setup await =>
    obtain ⟨m, -, read⟩ := core_of_answer done
    cases set : Handshake.setupDone m <;> rw [set] at read <;> cases read
  | login await =>
    obtain ⟨m, -, read⟩ := core_of_answer done
    cases logged : Handshake.loggedIn m <;> rw [logged] at read <;> cases read
  | backlog await =>
    obtain ⟨entries, -, read⟩ := core_of_answer done
    cases read
  | listing search =>
    obtain ⟨channels, -, read⟩ := core_of_answer done
    cases read
  | sessionState | openSession =>
    simp only [Task.turn, Task.collectState] at done
    split at done
    · cases done
    · cases done
    · split at done <;> cases done
  | allInitialized =>
    simp only [Task.turn] at done
    split at done <;> cases done

end Task

namespace Call

variable {now : Nat} {call : Call} {s : Session}

/-- What a turn does to the features and the replies does not depend on the time. -/
theorem turn_switches (sound : call.task.Sound) :
    (call.turn now s).2.link.features = Task.switched s.link.features (call.task.taken? s) ∧
      ∀ reply, (call.turn now s).2.handshake.replies.Holds reply → s.handshake.replies.Holds reply := by
  obtain ⟨features, replies⟩ := Task.turn_switches (s := s) sound
  unfold Call.turn
  split
  · next result s' ran =>
    rw [ran] at features replies
    exact ⟨features, replies⟩
  · next left s' ran =>
    rw [ran] at features replies
    split
    · have given := Task.calm_still.cancel left s'
      exact ⟨given.features.trans features, fun reply holds => replies reply (given.replies reply holds)⟩
    · exact ⟨features, replies⟩

/-- A call that is left goes on with its task. -/
theorem turn_of_waiting {left : Call} (waits : (call.turn now s).1 = .waiting left) :
    (call.task.turn s).1 = .waiting left.task := by
  unfold Call.turn at waits
  split at waits
  · cases waits
  · next task s' ran =>
    split at waits
    · cases waits
    · cases waits
      exact congrArg Prod.fst ran

theorem ack_of_core {state : CoreState} (done : (call.turn now s).1 = .done (.ok (.core state))) :
    ∃ announced core backends authenticators configured,
      call.task.taken? s = some (announced, .clientInitAck core backends authenticators configured) := by
  unfold Call.turn at done
  split at done
  · next result s' ran =>
    cases done
    exact Task.ack_of_core (congrArg Prod.fst ran)
  · split at done <;> cases done

end Call
end Datastream
