import Datastream.Proofs.Handshake.Starting
import Mathlib.Data.List.Induction

/-!
# Which features are in force

Any number of calls start the handshake, set the core up, log in or wait, in any order, while frames are
read, time passes, calls are given up and the connection is closed (`Switching.run`). From what is noted of
a run one can tell at any time which features are in force: none, until a call that starts the handshake
takes an acknowledgement, and from then on those that this call has announced and the core has reported,
for the last such call (`features_follow_acks`). They are in force when the call returns, and nothing else
switches them.

The feature set is switched by `set_features`, which only `init` calls.
-/
namespace Datastream

/-- A session, the calls on it that are not over by their numbers, and the time. -/
structure Switching where
  session : Session
  calls : Table Nat Call := []
  /-- How many calls were made; the number of the next one. -/
  made : Nat := 0
  now : Nat := 0
  /-- How long a call may wait. -/
  limit : Nat

namespace Switching

inductive Move
  /-- The payload of a frame is read. -/
  | read (payload : Bytes)
  | call (request : Request) (timed : Bool)
  | turn (caller : Nat)
  | giveUp (caller : Nat)
  | advance (millis : Nat)
  | close
  /-- The session does something that leaves the features and the replies of the handshake alone. -/
  | aside (other : Aside fun s : Session => (s.link.features, s.handshake.replies))

inductive Note
  | called (caller : Nat) (request : Request)
  /-- A message was read; these are its fields. -/
  | heard (fields : Fields) (m : HandshakeMessage)
  /-- A call that had announced these features was given this reply. -/
  | took (caller : Nat) (announced : FeatureSet) (reply : HandshakeMessage)
  /-- A call has returned, and these features are in force then. -/
  | returned (caller : Nat) (result : Except Error Answer) (features : FeatureSet)

def heard? (s : Session) (payload : Bytes) : Option Note :=
  match HandshakeMessage.spelt s.link.registry s.link.features payload with
  | .error _ => none
  | .ok fields =>
    match HandshakeMessage.ofFields fields with
    | .error _ => none
    | .ok m => some (.heard fields m)

/-- The reply that a call takes in its turn, if it starts the handshake. -/
def took (caller : Nat) (call : Call) (s : Session) : List Note :=
  match call.task.taken? s with
  | none => []
  | some (announced, reply) => [.took caller announced reply]

/-- Makes a move; a move of a call that is over does nothing. -/
def step (w : Switching) : Move → List Note × Switching
  | .read payload =>
    ((heard? w.session payload).toList,
      { w with session := endState (Session.readHandshake payload w.session) })
  | .call request timed =>
    ([.called w.made request], { w with
      made := w.made + 1
      calls := w.calls.put w.made ⟨request.task, if timed then some (w.now + w.limit) else none⟩ })
  | .turn caller =>
    match w.calls.find? caller with
    | none => ([], w)
    | some call =>
      match call.turn w.now w.session with
      | (.done result, session) =>
        (took caller call w.session ++ [.returned caller result session.link.features],
          { w with session, calls := w.calls.erase caller })
      | (.waiting left, session) => ([], { w with session, calls := w.calls.put caller left })
  | .giveUp caller =>
    match w.calls.find? caller with
    | none => ([], w)
    | some call =>
      ([], { w with session := call.task.cancel w.session, calls := w.calls.erase caller })
  | .advance millis => ([], { w with now := w.now + millis })
  | .close => ([], { w with
      session := { w.session with handshake := w.session.handshake.close } })
  | .aside other => ([], { w with session := other.act w.session })

def run (w : Switching) (moves : List Move) : List Note × Switching := noted step w moves

theorem run_concat (w : Switching) (moves : List Move) (m : Move) :
    w.run (moves ++ [m]) =
      ((w.run moves).1 ++ ((w.run moves).2.step m).1, ((w.run moves).2.step m).2) :=
  noted_concat step w moves m

def start (clock : Reading) (limit : Nat) : Switching := { session := .fresh clock, limit }

/-- The features that a call has announced and those that the core reports, when the call takes an
acknowledgement. -/
def Note.acked? : Note → Option (FeatureSet × FeatureSet)
  | took _ announced (.clientInitAck core ..) => some (announced, core)
  | _ => none

/-- The last acknowledgement that was taken, with what the call that took it had announced. -/
def lastAck? (notes : List Note) : Option (FeatureSet × FeatureSet) :=
  (notes.filterMap Note.acked?).getLast?

/-- The features that are in force after all that was noted. -/
def inForce (notes : List Note) : FeatureSet :=
  match lastAck? notes with
  | none => .none
  | some (announced, core) => announced.intersect core

theorem inForce_of_quiet (notes : List Note) {more : List Note}
    (quiet : more.filterMap Note.acked? = []) : inForce (notes ++ more) = inForce notes := by
  rw [inForce, inForce, lastAck?, lastAck?, List.filterMap_append, quiet, List.append_nil]

theorem inForce_concat_ack (notes : List Note) {note : Note} {announced core : FeatureSet}
    (ack : note.acked? = some (announced, core)) :
    inForce (notes ++ [note]) = announced.intersect core := by
  have last : lastAck? (notes ++ [note]) = some (announced, core) := by
    simp [lastAck?, List.filterMap_append, ack]
  rw [inForce, last]

/-- A turn switches the features as its notes say. -/
theorem inForce_append_took (notes : List Note) (caller : Nat) (call : Call) (s : Session) :
    inForce (notes ++ took caller call s) = Task.switched (inForce notes) (call.task.taken? s) := by
  unfold took
  cases call.task.taken? s with
  | none => rw [List.append_nil]; rfl
  | some taken =>
    obtain ⟨announced, reply⟩ := taken
    cases reply with
    | clientInitAck core => exact inForce_concat_ack notes rfl
    | clientInit | clientInitReject | clientLogin | clientLoginAck | clientLoginReject | coreSetupData
    | coreSetupAck | coreSetupReject | sessionInit => exact inForce_of_quiet notes rfl

/-- A message was read. -/
def Heard (notes : List Note) (m : HandshakeMessage) : Prop :=
  ∃ fields, HandshakeMessage.ofFields fields = .ok m ∧ .heard fields m ∈ notes

/-- A call was made that starts the handshake and announces these features. -/
def Announces (notes : List Note) (caller : Nat) (announced : FeatureSet) : Prop :=
  ∃ version date, .called caller (.init version date announced) ∈ notes

theorem Heard.append {notes : List Note} {m : HandshakeMessage} (heard : Heard notes m)
    (more : List Note) : Heard (notes ++ more) m :=
  have ⟨fields, made, member⟩ := heard
  ⟨fields, made, List.mem_append_left _ member⟩

theorem Announces.append {notes : List Note} {caller : Nat} {announced : FeatureSet}
    (announces : Announces notes caller announced) (more : List Note) :
    Announces (notes ++ more) caller announced :=
  have ⟨version, date, member⟩ := announces
  ⟨version, date, List.mem_append_left _ member⟩

/-- What has to come before something is noted. Calls have numbers of their own; what a call takes was
read, and the call has announced its features; and a call that tells the state of the core has just taken
an acknowledgement. -/
def Backed (before : List Note) : Note → Prop
  | .called caller _ => ∀ request, .called caller request ∉ before
  | .heard fields m => HandshakeMessage.ofFields fields = .ok m
  | .took caller announced reply => Announces before caller announced ∧ Heard before reply
  | .returned caller result features => features = inForce before ∧
    ∀ state, result = .ok (.core state) → ∃ earlier announced core backends authenticators configured,
      before = earlier ++
        [.took caller announced (.clientInitAck core backends authenticators configured)]

def AllBacked (notes : List Note) : Prop :=
  ∀ before note after, notes = before ++ note :: after → Backed before note

theorem allBacked_nil : AllBacked [] := by
  intro before note after split
  simp at split

theorem AllBacked.concat {notes : List Note} (all : AllBacked notes) {note : Note}
    (backed : Backed notes note) : AllBacked (notes ++ [note]) := by
  intro before note' after split
  rcases List.eq_nil_or_concat after with rfl | ⟨after', last, rfl⟩
  · obtain ⟨rfl, same⟩ := List.append_inj' split rfl
    rw [← List.head_eq_of_cons_eq same]
    exact backed
  · rw [List.concat_eq_append, ← List.cons_append, ← List.append_assoc] at split
    exact all before note' after' (List.append_inj' split rfl).1

/-- What the notes of a run tell of the session and the calls. -/
structure Kept (notes : List Note) (w : Switching) : Prop where
  features : w.session.link.features = inForce notes
  /-- What waits to be collected was read. -/
  replies : ∀ reply, w.session.handshake.replies.Holds reply → Heard notes reply
  sound : ∀ {caller call}, w.calls.find? caller = some call → call.task.Sound
  announces : ∀ {caller call announced await}, w.calls.find? caller = some call →
    call.task = .init announced await → Announces notes caller announced
  numbered : ∀ {caller request}, .called caller request ∈ notes → caller < w.made
  backed : AllBacked notes

variable {notes : List Note} {w : Switching}

theorem kept_start (clock : Reading) (limit : Nat) : Kept [] (start clock limit) where
  features := rfl
  replies _ holds := absurd holds KeyedQueue.not_holds_empty
  sound listed := nomatch listed
  announces listed := nomatch listed
  numbered member := nomatch member
  backed := allBacked_nil

/-- The session does something that brings no reply, and no call changes. -/
theorem Kept.still (kept : Kept notes w) {s : Session} (still : Task.Still w.session s) :
    Kept notes { w with session := s } where
  features := still.features.trans kept.features
  replies reply holds := kept.replies reply (still.replies reply holds)
  sound := kept.sound
  announces := kept.announces
  numbered := kept.numbered
  backed := kept.backed

/-- A call is over. -/
theorem Kept.erase (kept : Kept notes w) (caller : Nat) :
    Kept notes { w with calls := w.calls.erase caller } where
  features := kept.features
  replies := kept.replies
  sound listed := by
    rw [Table.find?_erase] at listed
    split at listed
    · cases listed
    · exact kept.sound listed
  announces listed starts := by
    rw [Table.find?_erase] at listed
    split at listed
    · cases listed
    · exact kept.announces listed starts
  numbered := kept.numbered
  backed := kept.backed

/-- A call waits on. -/
theorem Kept.put (kept : Kept notes w) {caller : Nat} {call : Call} (sound : call.task.Sound)
    (announces : ∀ announced await, call.task = .init announced await →
      Announces notes caller announced) :
    Kept notes { w with calls := w.calls.put caller call } where
  features := kept.features
  replies := kept.replies
  sound listed := by
    rw [Table.find?_put] at listed
    split at listed
    · cases listed
      exact sound
    · exact kept.sound listed
  announces listed starts := by
    rw [Table.find?_put] at listed
    split at listed
    · next same =>
      cases listed
      exact same ▸ announces _ _ starts
    · exact kept.announces listed starts
  numbered := kept.numbered
  backed := kept.backed

/-- Something is noted that switches no features. -/
theorem Kept.note (kept : Kept notes w) {note : Note} (quiet : note.acked? = none)
    (backed : Backed notes note) (numbered : ∀ caller request, note = .called caller request →
      caller < w.made) : Kept (notes ++ [note]) w where
  features := by
    rw [inForce_of_quiet notes (by simp [quiet])]
    exact kept.features
  replies reply holds := (kept.replies reply holds).append _
  sound := kept.sound
  announces listed starts := (kept.announces listed starts).append _
  numbered member := by
    rcases List.mem_append.mp member with old | new
    · exact kept.numbered old
    · exact numbered _ _ (List.mem_singleton.mp new).symm
  backed := kept.backed.concat backed

theorem heard?_cases (s : Session) (payload : Bytes) :
    (∃ fields m, heard? s payload = some (.heard fields m) ∧
      HandshakeMessage.ofFields fields = .ok m ∧
      endState (Session.readHandshake payload s) = { s with handshake := (s.handshake.receive m).2 }) ∨
    (heard? s payload = none ∧ endState (Session.readHandshake payload s) = s) := by
  have decoded := HandshakeMessage.decode_eq s.link.registry s.link.features payload
  unfold heard?
  rcases s.readHandshake_cases payload with ⟨m, ok, ran⟩ | ⟨error, failed, ran⟩
  · rw [ok] at decoded
    obtain ⟨fields, spelt, made⟩ := ok_of_bind decoded.symm
    rw [spelt, ran]
    dsimp only
    rw [made]
    exact .inl ⟨fields, m, rfl, made, rfl⟩
  · rw [failed] at decoded
    rw [ran]
    refine .inr ⟨?_, rfl⟩
    cases spelt : HandshakeMessage.spelt s.link.registry s.link.features payload with
    | error error => rfl
    | ok fields =>
      rw [spelt] at decoded
      have made : HandshakeMessage.ofFields fields = .error error := decoded.symm
      dsimp only
      rw [made]

/-- A message brings no reply but itself. -/
theorem holds_receive {h : Handshake} {m reply : HandshakeMessage}
    (holds : (h.receive m).2.replies.Holds reply) : m = reply ∨ h.replies.Holds reply := by
  cases m with
  | clientInitAck | clientInitReject | coreSetupAck | coreSetupReject | clientLoginAck
  | clientLoginReject => exact KeyedQueue.holds_resume holds
  | clientInit | clientLogin | coreSetupData | sessionInit => exact .inr holds

theorem Kept.read (kept : Kept notes w) (payload : Bytes) :
    Kept (notes ++ (w.step (.read payload)).1) (w.step (.read payload)).2 := by
  simp only [step]
  rcases heard?_cases w.session payload with ⟨fields, m, heard, made, ran⟩ | ⟨nothing, ran⟩
  · rw [heard, ran]
    have noted : Kept (notes ++ [.heard fields m]) w := kept.note rfl made fun _ _ same => by cases same
    refine { noted with replies := fun reply holds => ?_ }
    rcases holds_receive holds with rfl | before
    · exact ⟨fields, made, List.mem_append_right _ (List.mem_singleton.mpr rfl)⟩
    · exact noted.replies reply before
  · rw [nothing, ran]
    simpa using kept

theorem Kept.call (kept : Kept notes w) (request : Request) (timed : Bool) :
    Kept (notes ++ (w.step (.call request timed)).1) (w.step (.call request timed)).2 := by
  have counted : Kept notes { w with made := w.made + 1 } :=
    { kept with numbered := fun member => Nat.lt_succ_of_lt (kept.numbered member) }
  have fresh : Backed notes (.called w.made request) :=
    fun _ member => Nat.lt_irrefl _ (kept.numbered member)
  have noted := counted.note rfl fresh fun _ _ same => by
    cases same
    exact Nat.lt_succ_self _
  refine noted.put (Task.sound_request request) fun announced await starts => ?_
  cases request with
  | init version date features =>
    cases starts
    exact ⟨version, date, List.mem_append_right _ (List.mem_singleton.mpr rfl)⟩
  | configure | logIn | sessionState | openSession | fetch | list | allInitialized => cases starts

/-- What a call does in its turn, and the reply that it takes. -/
theorem Kept.turned (kept : Kept notes w) {caller : Nat} {call : Call}
    (listed : w.calls.find? caller = some call) :
    Kept (notes ++ took caller call w.session)
      { w with session := (call.turn w.now w.session).2 } := by
  obtain ⟨features, replies⟩ := @Call.turn_switches w.now call w.session (kept.sound listed)
  have backed : AllBacked (notes ++ took caller call w.session) := by
    unfold Switching.took
    cases taken : call.task.taken? w.session with
    | none =>
      rw [List.append_nil]
      exact kept.backed
    | some found =>
      obtain ⟨announced, reply⟩ := found
      obtain ⟨⟨await, starts⟩, held⟩ := Task.taken_held (kept.sound listed) taken
      exact kept.backed.concat ⟨kept.announces listed starts, kept.replies reply held⟩
  have took_called {caller' : Nat} {request : Request}
      (member : .called caller' request ∈ Switching.took caller call w.session) : False := by
    unfold Switching.took at member
    split at member
    · cases member
    · cases List.mem_singleton.mp member
  constructor
  case features =>
    rw [inForce_append_took, ← kept.features]
    exact features
  case replies => exact fun reply holds => (kept.replies reply (replies reply holds)).append _
  case sound => exact kept.sound
  case announces => exact fun listed starts => (kept.announces listed starts).append _
  case numbered =>
    intro caller' request member
    rcases List.mem_append.mp member with old | new
    · exact kept.numbered old
    · exact (took_called new).elim
  case backed => exact backed

/-- A call is over in its turn, or waits on. A turn of a call that is over already does nothing. -/
theorem step_turn_cases (w : Switching) (caller : Nat) :
    w.step (.turn caller) = ([], w) ∨
      (∃ call result session, w.calls.find? caller = some call ∧
        call.turn w.now w.session = (.done result, session) ∧
        w.step (.turn caller) =
          (took caller call w.session ++ [.returned caller result session.link.features],
            { w with session, calls := w.calls.erase caller })) ∨
      ∃ call left session, w.calls.find? caller = some call ∧
        call.turn w.now w.session = (.waiting left, session) ∧
        w.step (.turn caller) = ([], { w with session, calls := w.calls.put caller left }) := by
  cases listed : w.calls.find? caller with
  | none => exact .inl (by simp [step, listed])
  | some call =>
    cases turned : call.turn w.now w.session with
    | mk outcome session =>
      cases outcome with
      | done result =>
        exact .inr (.inl ⟨call, result, session, rfl, turned, by simp only [step, listed, turned]⟩)
      | waiting left =>
        exact .inr (.inr ⟨call, left, session, rfl, turned, by simp only [step, listed, turned]⟩)

theorem step_giveUp_cases (w : Switching) (caller : Nat) :
    w.step (.giveUp caller) = ([], w) ∨
      ∃ call, w.calls.find? caller = some call ∧ w.step (.giveUp caller) =
        ([], { w with session := call.task.cancel w.session, calls := w.calls.erase caller }) := by
  cases listed : w.calls.find? caller with
  | none => exact .inl (by simp [step, listed])
  | some call => exact .inr ⟨call, rfl, by simp [step, listed]⟩

theorem Kept.turn (kept : Kept notes w) (caller : Nat) :
    Kept (notes ++ (w.step (.turn caller)).1) (w.step (.turn caller)).2 := by
  rcases step_turn_cases w caller with nothing | ⟨call, result, session, listed, turned, ran⟩ |
    ⟨call, left, session, listed, turned, ran⟩
  · simpa [nothing] using kept
  · have after := kept.turned listed
    rw [turned] at after
    have backed : Backed (notes ++ took caller call w.session)
        (.returned caller result session.link.features) := by
      refine ⟨after.features, fun state same => ?_⟩
      subst same
      obtain ⟨announced, core, backends, authenticators, configured, taken⟩ :=
        Call.ack_of_core (congrArg Prod.fst turned)
      refine ⟨notes, announced, core, backends, authenticators, configured, ?_⟩
      rw [took, taken]
    rw [ran, ← List.append_assoc]
    exact (after.note rfl backed fun _ _ same => by cases same).erase caller
  · have after := kept.turned listed
    rw [turned] at after
    have still := Call.turn_of_waiting (congrArg Prod.fst turned)
    have nothing : took caller call w.session = [] := by
      rw [took, Task.taken_of_waiting still]
    rw [nothing, List.append_nil] at after
    rw [ran, List.append_nil]
    refine after.put (Task.sound_of_waiting still) fun announced again starts => ?_
    rw [starts] at still
    obtain ⟨await, before⟩ := Task.init_of_waiting still
    exact kept.announces listed before

theorem Kept.step (kept : Kept notes w) (m : Move) : Kept (notes ++ (w.step m).1) (w.step m).2 := by
  cases m with
  | read payload => exact kept.read payload
  | call request timed => exact kept.call request timed
  | turn caller => exact kept.turn caller
  | giveUp caller =>
    rcases step_giveUp_cases w caller with nothing | ⟨call, listed, ran⟩
    · simpa [nothing] using kept
    · rw [ran, List.append_nil]
      exact (kept.still (Task.calm_still.cancel call.task w.session)).erase caller
  | advance millis =>
    simp only [Switching.step, List.append_nil]
    exact { kept with }
  | close =>
    simp only [Switching.step, List.append_nil]
    exact kept.still ⟨rfl, fun _ holds => KeyedQueue.holds_close holds⟩
  | aside other =>
    simp only [Switching.step, List.append_nil]
    obtain ⟨features, replies⟩ := Prod.mk.inj (other.same w.session)
    exact kept.still ⟨features, fun _ holds => replies ▸ holds⟩

theorem kept_run (clock : Reading) (limit : Nat) (moves : List Move) :
    Kept ((start clock limit).run moves).1 ((start clock limit).run moves).2 := by
  induction moves using List.reverseRecOn with
  | nil => exact kept_start clock limit
  | append_singleton moves m ih =>
    rw [run_concat]
    exact ih.step m

/-- The call that was the last to take an acknowledgement has listed a feature when it was made, and the
core has listed it in the message that this call took. -/
def BothListed (notes : List Note) (f : Feature) : Prop :=
  ∃ caller announced core backends authenticators configured,
    lastAck? notes = some (announced, core) ∧
    .took caller announced (.clientInitAck core backends authenticators configured) ∈ notes ∧
    (∃ version date, .called caller (.init version date announced) ∈ notes ∧
      HandshakeMessage.Lists
        (Fields.ofPairs (HandshakeMessage.clientInit version date announced).toFields) "Features" f) ∧
    ∃ fields, .heard fields (.clientInitAck core backends authenticators configured) ∈ notes ∧
      HandshakeMessage.Lists fields "CoreFeatures" f

theorem took_of_lastAck {announced core : FeatureSet} (last : lastAck? notes = some (announced, core)) :
    ∃ caller backends authenticators configured,
      .took caller announced (.clientInitAck core backends authenticators configured) ∈ notes := by
  obtain ⟨note, member, acked⟩ := List.mem_filterMap.mp (List.mem_of_getLast? last)
  unfold Note.acked? at acked
  split at acked
  · cases acked
    exact ⟨_, _, _, _, member⟩
  · cases acked

theorem bothListed_of_inForce (backed : AllBacked notes) {f : Feature}
    (known : f ∈ (inForce notes).known) : BothListed notes f := by
  unfold inForce at known
  split at known
  · cases known
  · next announced core last =>
    obtain ⟨own, reported⟩ := FeatureSet.mem_known_intersect.mp known
    obtain ⟨caller, backends, authenticators, configured, member⟩ := took_of_lastAck last
    obtain ⟨before, after, split⟩ := List.append_of_mem member
    obtain ⟨⟨version, date, called⟩, fields, made, heard⟩ := backed before _ after split
    have earlier {note : Note} (member : note ∈ before) : note ∈ notes :=
      split ▸ List.mem_append_left _ member
    exact ⟨caller, announced, core, backends, authenticators, configured, last, member,
      ⟨version, date, earlier called, HandshakeMessage.lists_clientInit version date own⟩,
      fields, earlier heard, HandshakeMessage.lists_of_ack made reported⟩

/-- However calls and replies follow one another, the features in force are at any time those that the
notes tell: none at first, and then what the call that was the last to take an acknowledgement had
announced, as far as the core has it. They are so when the call returns, nothing else switches them, and
each of them was listed by that call and by the core. -/
theorem features_follow_acks (clock : Reading) (limit : Nat) (moves : List Move) :
    let notes := ((start clock limit).run moves).1
    let w := ((start clock limit).run moves).2
    w.session.link.features = inForce notes ∧
    (∀ m, (w.step m).1.filterMap Note.acked? = [] →
      (w.step m).2.session.link.features = w.session.link.features) ∧
    (∀ before note after, notes = before ++ note :: after → Backed before note) ∧
    ∀ f, w.session.link.features.has f = true → BothListed notes f := by
  intro notes w
  have kept : Kept notes w := kept_run clock limit moves
  refine ⟨kept.features, fun m quiet => ?_, kept.backed, fun f has => ?_⟩
  · rw [(kept.step m).features, inForce_of_quiet notes quiet, kept.features]
  · rw [kept.features] at has
    exact bothListed_of_inForce kept.backed (List.contains_iff_mem.mp has)

/-- A client that announces everything and a core that has one feature agree on that one. -/
example :
    let core := FeatureSet.build 0 ["LongTime"]
    let frame := ((HandshakeMessage.clientInitAck core [] [] (some true)).encode .standard .none).toOption
    let moves := [.call (.init "" "" FeatureSet.all) true, .turn 0, .read (frame.getD []), .turn 0]
    ((start .epoch 10).run moves).2.session.link.features.known = [.longTime] := by
  with_unfolding_all decide +kernel

end Switching
end Datastream
