import Datastream.Proofs.Backlog.Repeating
import Datastream.Proofs.Queue.Delivery
import Datastream.Proofs.Session.Routing
import Datastream.Session.Call

/-!
# The core's echo of a backlog request

The core answers a backlog request by repeating its parameters before the messages, and the wait for the
answer is found again by them. Over the wire the parameters come back as `BacklogRequest.repeated`. So
the echo of a request ends the wait for it just when the request is `Repeatable`, and any other request
goes on waiting, however often the core answers it (`echo_wakes_iff_repeatable`).

The request is that of `request`, its echo reaches `receive`, and what is narrowed on the way is
narrowed by `write_msg_id`, `read_type` and `read_flags`.
-/
namespace Datastream

/-- A message comes back as another: in normal form, and at the instant that is made of its time. -/
def Message.ArrivesAs (f : FeatureSet) (m m' : Message) : Prop :=
  ∃ t, (if f.has .longTime then Reading.ofMillis? m.time.millis else some m.time.wholeSeconds) =
      some t ∧ m' = { m.normalize f with time := t }

/-- A value is read back as another. -/
def Value.ArrivesAs (reg : Registry) (f : FeatureSet) (v value : Value) : Prop :=
  (v.encode reg f).ReadBy (Value.decode reg f) value

section Wire

variable {reg : Registry} {f : FeatureSet}

theorem Message.ArrivesAs.messages {messages messages' : List Message}
    (arrive : List.Forall₂ (Message.ArrivesAs f) messages messages') :
    Value.ArrivesAs reg f (.list (messages.map .message)) (.list (messages'.map .message)) := by
  have each : List.Forall₂ (fun v value => (v.encode reg f).ReadBy (Wire.readBox f reg 64) value)
      (messages.map Value.message) (messages'.map Value.message) := by
    rw [List.forall₂_map_left_iff, List.forall₂_map_right_iff]
    refine arrive.imp fun m m' ⟨t, timed, same⟩ => ?_
    have payload := Wire.readBy_message_of_time f m (Wire.readBy_messageTime_of_found f m.time timed)
    rw [same]
    exact Wire.readBy_box reg f (payload.map Value.message)
  exact Wire.readBy_box reg f ((Wire.readBy_items reg f each).map Value.list)

theorem BacklogRequest.param_arrives (r : BacklogRequest) {v : Value} (member : v ∈ r.params) :
    Value.ArrivesAs reg f v (v.normalize f) := by
  rcases r.params_cases member with ⟨n, rfl⟩ | ⟨id, rfl⟩ | ⟨id, rfl⟩
  all_goals exact Wire.readBy_leaf reg f _ rfl rfl rfl rfl 64

/-- The parameters of a request change on the way to the core, and no more on the way back. -/
theorem BacklogRequest.params_arrive (r : BacklogRequest) :
    List.Forall₂ (Value.ArrivesAs reg f) r.params (r.params.map (Value.normalize f)) ∧
      List.Forall₂ (Value.ArrivesAs reg f) (r.params.map (Value.normalize f))
        (r.params.map (Value.normalize f)) := by
  have arrive (r : BacklogRequest) :
      List.Forall₂ (Value.ArrivesAs reg f) r.params (r.params.map (Value.normalize f)) :=
    List.forall₂_map_right_iff.mpr (List.forall₂_same.mpr fun v member => r.param_arrives member)
  refine ⟨arrive r, ?_⟩
  have again := arrive (r.map (MsgId.normalize f) (·) (·))
  have twice : (MsgId.normalize f ∘ MsgId.normalize f) = MsgId.normalize f :=
    funext (MsgId.normalize_normalize f)
  rw [params_normalize, map_map, twice] at again
  rw [params_normalize]
  exact again

/-- A call is read as the call with the parameters that come back. -/
theorem ProxyMessage.decode_sync {className objectName slot : String} {params values : List Value}
    {b : Bytes} (arrive : List.Forall₂ (Value.ArrivesAs reg f) params values)
    (written : (sync className objectName slot params).encode reg f = .ok b) :
    decode reg f b = .ok (sync className objectName slot values) := by
  have name (text : String) : Value.ArrivesAs reg f (.ofName text) (.ofName text) :=
    (Value.Carried.name text).readBy reg
  have number (n : Int32) : Value.ArrivesAs reg f (.int n) (.int n) :=
    Wire.readBy_leaf reg f (.int n) rfl rfl rfl rfl 64
  have items : List.Forall₂ (Value.ArrivesAs reg f) (sync className objectName slot params).toList
      (sync className objectName slot values).toList :=
    .cons (number _) (.cons (name _) (.cons (name _) (.cons (name _) arrive)))
  have whole : (Value.encodeList reg f (sync className objectName slot params).toList).ReadBy
      (Value.decodeList reg f) (sync className objectName slot values).toList :=
    Wire.readBy_items reg f items
  obtain ⟨unstopped, rfl⟩ := (Output.toExcept_eq_ok_iff _ _).mp written
  have read := whole unstopped []
  rw [List.append_nil] at read
  rw [decode, read]
  exact ofList_items (sync className objectName slot values) trivial

end Wire

/-- What the core answers: the parameters of a request, and messages. -/
def BacklogRequest.echo (r : BacklogRequest) (params : List Value) (messages : List Message) :
    ProxyMessage :=
  .sync className "" r.receiveSlot (params ++ [.list (messages.map .message)])

theorem BacklogRequest.ofReply_unknown {slot : String} (unknown : slot ∉ receiveSlots)
    (params : List Value) : ofReply slot params = .error (.unknownMethod className slot) := by
  unfold ofReply
  dsimp only
  split
  case h_6 => rfl
  all_goals exact absurd (by decide) unknown

theorem BacklogRequest.messages_map (list : List Message) :
    messages (list.map .message) = list := by
  rw [messages, List.filterMap_map]
  exact List.filterMap_some

namespace BacklogManager

theorem find?_methods (slot : String) :
    table.methods.find? slot =
      if slot ∈ BacklogRequest.receiveSlots then some (receive slot) else none := by
  by_cases known : slot ∈ BacklogRequest.receiveSlots
  · rw [if_pos known]
    simp only [BacklogRequest.receiveSlots, List.mem_cons, List.not_mem_nil, or_false] at known
    rcases known with rfl | rfl | rfl | rfl | rfl <;> rfl
  · rw [if_neg known, Table.find?_eq_none_iff]
    exact known

/-- The backlog manager asks that the messages of a reply be handed to those who wait for the request. -/
theorem invoke_eq {o : Object} (kind : o.body = .backlogManager) (slot : String)
    (params : List Value) :
    table.invoke o slot params =
      (BacklogRequest.ofReply slot params).map fun made => (o, [.backlog made.1 made.2]) := by
  have alike : table.kind.alike o.body = true := by rw [kind]; rfl
  rw [MethodTable.invoke, find?_methods]
  by_cases known : slot ∈ BacklogRequest.receiveSlots
  · simp only [if_pos known, alike, if_true, receive]
    cases BacklogRequest.ofReply slot params <;> rfl
  · rw [if_neg known, BacklogRequest.ofReply_unknown known]
    rfl

end BacklogManager

namespace Session

variable {s s' : Session} {reg : Registry} {f : FeatureSet} {id : Nat} {r : BacklogRequest}

/-- The session writes and reads in one way, its backlog manager is tracked, whole and attached, and
the waits for answers are in order. -/
structure HasBacklog (s : Session) (reg : Registry) (f : FeatureSet) : Prop where
  registry : s.link.registry = reg
  features : s.link.features = f
  table : s.invokers.get .client BacklogRequest.className = .ok BacklogManager.table
  tracked : s.find? BacklogRequest.className "" = some backlogManager
  manager : ∃ o, s.objects.object? backlogManager = some o ∧ o.poisoned = false ∧
    o.body = .backlogManager ∧ o.attached = true ∧ o.className = BacklogRequest.className ∧
    o.objectName = ""
  sound : s.backlog.Sound

/-- A wait for the answer to a request is outstanding. -/
def Awaits (s : Session) (id : Nat) (r : BacklogRequest) : Prop :=
  s.backlog.waits.Stands id [r].toFinset none

/-- Sending puts the request into the outbox, with everything else as it was. -/
theorem sendBacklog_ok (has : s.HasBacklog reg f) (sent : Task.sendBacklog r s = .ok () s') :
    ∃ payload metrics,
      (ProxyMessage.sync BacklogRequest.className "" r.requestSlot r.params).encode reg f = .ok payload ∧
      s' = { s with link := { s.link with outbox := s.link.outbox ++ [payload], metrics } } := by
  obtain ⟨o, found, whole, -, attached, className, objectName⟩ := has.manager
  unfold Task.sendBacklog at sent
  rw [bind_ok (lock_ok found whole)] at sent
  cases initialized : o.initialized with
  | false =>
    simp only [initialized, Bool.not_false, if_true] at sent
    cases sent
  | true =>
    simp only [initialized, Bool.not_true, Bool.false_eq_true, if_false] at sent
    have calls : o.sync .core r.requestSlot r.params =
        [.sync .core BacklogRequest.className "" r.requestSlot r.params] := by
      simp [Object.sync, Object.isLive, initialized, attached, className, objectName]
    rw [calls, performAll_singleton] at sent
    have emitted := emit_ok sent
    rwa [has.registry, has.features] at emitted

section Turns

variable {result : List Value}

theorem turn_backlog (await : Await BacklogRequest Session) (s : Session) :
    (Task.backlog await).turn s =
      Task.answer .backlog
        (fun entries s => (.ok (.messages (BacklogRequest.messages entries)), s))
        (await.turn (·.backlog) Task.backlogs s) := rfl

/-- A wait that was granted nothing goes on, and nothing changes. -/
theorem turn_of_nothing (nothing : s.backlog.delivered.find? id = none) :
    (Task.backlog (.waiting id)).turn s = (.waiting (.backlog (.waiting id)), s) := by
  simp [turn_backlog, Await.turn, Await.collect, KeyedQueue.collect, nothing, Task.answer]

theorem turn_of_granted (granted : s.backlog.delivered.find? id = some (.ok result)) :
    ((Task.backlog (.waiting id)).turn s).1 =
      .done (.ok (.messages (BacklogRequest.messages result))) := by
  simp [turn_backlog, Await.turn, Await.collect, KeyedQueue.collect, granted, Task.answer]

end Turns

theorem Awaits.nothing (has : s.HasBacklog reg f) (awaits : s.Awaits id r) :
    s.backlog.delivered.find? id = none :=
  Waits.find?_of_stands has.sound.proper awaits

/-- A request that goes on waiting was sent, and its wait is outstanding. -/
theorem fetch_waiting (has : s.HasBacklog reg f) {task : Task}
    (asked : (Task.fetch r).turn s = (.waiting task, s')) :
    task = .backlog (.waiting s.backlog.nextId) ∧ s'.HasBacklog reg f ∧
      s'.Awaits s.backlog.nextId r ∧
      ∃ payload,
        (ProxyMessage.sync BacklogRequest.className "" r.requestSlot r.params).encode reg f = .ok payload ∧
        s'.link.outbox = s.link.outbox ++ [payload] := by
  rw [Task.fetch, turn_backlog] at asked
  cases isOpen : s.backlog.closed with
  | true =>
    rw [KeyedQueue.turn_of_closed isOpen] at asked
    cases asked
  | false =>
    have entered : (Task.backlogs (fun q => (q.register [r]).2) s).HasBacklog reg f :=
      ⟨has.registry, has.features, has.table, has.tracked, has.manager, has.sound.register isOpen [r]⟩
    cases sent : Task.sendBacklog r (Task.backlogs (fun q => (q.register [r]).2) s) with
    | error error s' =>
      rw [KeyedQueue.turn_of_send_error isOpen sent] at asked
      cases asked
    | ok _ sentTo =>
      obtain ⟨payload, metrics, written, same⟩ := sendBacklog_ok entered sent
      have after : sentTo.HasBacklog reg f := by
        rw [same]
        exact ⟨entered.registry, entered.features, entered.table, entered.tracked, entered.manager,
          entered.sound⟩
      have awaits : sentTo.Awaits s.backlog.nextId r := by
        rw [same]
        exact has.sound.stands_register [r]
      rw [KeyedQueue.turn_of_send_ok isOpen sent, ← turn_backlog,
        turn_of_nothing (awaits.nothing after)] at asked
      cases asked
      exact ⟨rfl, after, awaits, payload, written, by rw [same]; rfl⟩

theorem read_eq {payload : Bytes} {m : ProxyMessage}
    (decoded : ProxyMessage.decode s.link.registry s.link.features payload = .ok m) :
    read payload s = dispatch m s := by
  unfold read
  rw [bind_ok (get_eq s), decoded, bind_ok (ofExcept_ok m s)]

/-- A call of the backlog manager comes to what its slot reads out of the parameters: a request that was
answered, and the messages for those who wait for it. -/
theorem dispatch_reply (has : s.HasBacklog reg f) (slot : String) (params : List Value) :
    dispatch (.sync BacklogRequest.className "" slot params) s =
      match BacklogRequest.ofReply slot params with
      | .error error => .error error s
      | .ok (request, entries) => .ok () { s with
          backlog := (s.backlog.resume request entries).2
          link := s.link.count Metrics.sync } := by
  obtain ⟨o, found, whole, kind, -⟩ := has.manager
  have invoked := BacklogManager.invoke_eq kind slot params
  rw [dispatch_sync_eq, has.table, has.tracked]
  show deliver BacklogManager.table backlogManager slot params Metrics.sync s = _
  cases taken : BacklogRequest.ofReply slot params with
  | error error =>
    rw [taken] at invoked
    rw [deliver, bind_ok (lock_ok found whole), invoked]
    rfl
  | ok made =>
    rw [taken] at invoked
    refine (deliver_self Metrics.sync found whole invoked).trans ?_
    rw [performAll_singleton]
    rfl

/-- Handing out the messages of a request ends a wait if it is for that request, and leaves it standing
if it is for another. -/
theorem resume_awaits (has : s.HasBacklog reg f) {waited : BacklogRequest} (awaits : s.Awaits id waited)
    (r : BacklogRequest) (entries : List Value) (link : Link) :
    let s' := { s with backlog := (s.backlog.resume r entries).2, link }
    (waited = r → s'.backlog.delivered.find? id = some (.ok entries)) ∧
      (waited ≠ r → s'.Awaits id waited) := by
  intro s'
  obtain ⟨sound, -, served⟩ := KeyedQueue.resume_serves has.sound r entries
  have stands := Waits.stands_serve awaits (.resume r entries)
  rw [← served, Option.none_or, KeyedQueue.Move.grant] at stands
  have listed : r ∈ [waited].toFinset ↔ waited = r := by
    rw [List.mem_toFinset, List.mem_singleton, eq_comm]
  refine ⟨fun same => ?_, fun differs => ?_⟩
  · rw [if_pos (listed.mpr same)] at stands
    exact Waits.find?_of_stands sound.proper stands
  · rw [if_neg (listed.not.mpr differs)] at stands
    exact stands

theorem HasBacklog.answered (has : s.HasBacklog reg f) (r : BacklogRequest) (entries : List Value) :
    HasBacklog { s with
      backlog := (s.backlog.resume r entries).2
      link := s.link.count Metrics.sync } reg f :=
  ⟨has.registry, has.features, has.table, has.tracked, has.manager,
    (KeyedQueue.resume_serves has.sound r entries).1⟩

/-- The echo of a request is handed to those who wait for the request as it was repeated. -/
theorem dispatch_echo (has : s.HasBacklog reg f) (r : BacklogRequest) (messages : List Message) :
    dispatch (r.echo (r.params.map (Value.normalize f)) messages) s = .ok () { s with
      backlog := (s.backlog.resume (r.repeated f) (messages.map .message)).2
      link := s.link.count Metrics.sync } := by
  rw [BacklogRequest.echo, dispatch_reply has, BacklogRequest.ofReply_normalize]

/-- The echo ends the wait for a request that can be repeated, and no other wait for a request that it
repeats the parameters of. -/
theorem echo_serves (has : s.HasBacklog reg f) (awaits : s.Awaits id r) (messages : List Message) :
    ∃ s', dispatch (r.echo (r.params.map (Value.normalize f)) messages) s = .ok () s' ∧
      s'.HasBacklog reg f ∧
      (r.Repeatable f → s'.backlog.delivered.find? id = some (.ok (messages.map .message))) ∧
      (¬ r.Repeatable f → s'.Awaits id r) := by
  obtain ⟨heard, unheard⟩ := resume_awaits has awaits (r.repeated f) (messages.map Value.message)
    (s.link.count Metrics.sync)
  rw [eq_comm, BacklogRequest.repeated_eq_self_iff] at heard
  rw [Ne, eq_comm, BacklogRequest.repeated_eq_self_iff] at unheard
  exact ⟨_, dispatch_echo has r messages, has.answered _ _, heard, unheard⟩

/-- What comes of a wait for a request when the echo of the request is written and read. -/
theorem read_echo (has : s.HasBacklog reg f) (awaits : s.Awaits id r)
    {messages messages' : List Message} {reply : Bytes}
    (arrive : List.Forall₂ (Message.ArrivesAs f) messages messages')
    (answered : (r.echo (r.params.map (Value.normalize f)) messages).encode reg f = .ok reply) :
    ∃ s', read reply s = .ok () s' ∧
      (r.Repeatable f →
        ((Task.backlog (.waiting id)).turn s').1 = .done (.ok (.messages messages'))) ∧
      (¬ r.Repeatable f → s'.HasBacklog reg f ∧ s'.Awaits id r ∧
        (Task.backlog (.waiting id)).turn s' = (.waiting (.backlog (.waiting id)), s')) := by
  have arrives : List.Forall₂ (Value.ArrivesAs reg f)
      (r.params.map (Value.normalize f) ++ [.list (messages.map .message)])
      (r.params.map (Value.normalize f) ++ [.list (messages'.map .message)]) :=
    List.rel_append r.params_arrive.2 (.cons (Message.ArrivesAs.messages arrive) .nil)
  have decoded : ProxyMessage.decode s.link.registry s.link.features reply =
      .ok (r.echo (r.params.map (Value.normalize f)) messages') := by
    rw [has.registry, has.features]
    exact ProxyMessage.decode_sync arrives answered
  obtain ⟨s', dispatched, after, heard, unheard⟩ := echo_serves has awaits messages'
  refine ⟨s', (read_eq decoded).trans dispatched, fun repeatable => ?_, fun lost => ?_⟩
  · rw [turn_of_granted (heard repeatable), BacklogRequest.messages_map]
  · have waits := unheard lost
    exact ⟨after, waits, turn_of_nothing (waits.nothing after)⟩

/-- A backlog request that goes on waiting after its first turn is in the outbox, and what the core
decodes there are its parameters in normal form. If the core answers with these parameters and some
messages, and the answer is written and read, then a wait for the request that stands by then has the
messages as they arrive, if the request is repeatable; if it is not, the wait goes on as before. -/
theorem echo_wakes_iff_repeatable (has : s.HasBacklog reg f) (r : BacklogRequest) {task : Task}
    (asked : (Task.fetch r).turn s = (.waiting task, s')) :
    ∃ id payload, let params := r.params.map (Value.normalize f)
      task = .backlog (.waiting id) ∧ s'.HasBacklog reg f ∧ s'.Awaits id r ∧
      s'.link.outbox = s.link.outbox ++ [payload] ∧
      ProxyMessage.decode reg f payload =
        .ok (.sync BacklogRequest.className "" r.requestSlot params) ∧
      ∀ messages messages' reply, List.Forall₂ (Message.ArrivesAs f) messages messages' →
        (r.echo params messages).encode reg f = .ok reply →
        ∀ s₁ : Session, s₁.HasBacklog reg f → s₁.Awaits id r →
          ∃ s₂, read reply s₁ = .ok () s₂ ∧
            (r.Repeatable f → (task.turn s₂).1 = .done (.ok (.messages messages'))) ∧
            (¬ r.Repeatable f →
              s₂.HasBacklog reg f ∧ s₂.Awaits id r ∧ task.turn s₂ = (.waiting task, s₂)) := by
  obtain ⟨rfl, after, awaits, payload, written, sent⟩ := fetch_waiting has asked
  refine ⟨s.backlog.nextId, payload, rfl, after, awaits, sent,
    ProxyMessage.decode_sync r.params_arrive.1 written, ?_⟩
  intro messages messages' reply arrive answered s₁ has₁ awaits₁
  exact read_echo has₁ awaits₁ arrive answered

/-- A session whose backlog manager is tracked and has its state. -/
def withManager : Session :=
  endState ((do
    synchronize backlogManager
    receiveState BacklogRequest.className "" []) (fresh .epoch))

theorem hasBacklog_withManager : withManager.HasBacklog .standard .none where
  registry := rfl
  features := rfl
  table := rfl
  tracked := rfl
  manager := ⟨_, rfl, rfl, rfl, rfl, rfl, rfl⟩
  sound := KeyedQueue.sound_empty

def line : Message where
  id := ⟨7⟩
  time := .epoch
  type := ⟨1⟩
  flag := ⟨0x80⟩
  buffer := ⟨⟨4⟩, ⟨1⟩, ⟨2⟩, 0, some "#a"⟩
  sender := "n"
  prefixes := ""
  realName := ""
  avatarUrl := ""
  content := "x"

theorem line_arrives : List.Forall₂ (Message.ArrivesAs .none) [line] [line] :=
  .cons ⟨line.time, rfl, rfl⟩ .nil

/-- Lines and notices with highlights, before the hundredth message. -/
def highlights : BacklogRequest := .bufferFiltered ⟨4⟩ ⟨-1⟩ ⟨100⟩ 50 0 ⟨3⟩ ⟨2⟩

/-- It has the line that the core answers with. -/
theorem highlights_answered :
    ∃ task s reply s', (Task.fetch highlights).turn withManager = (.waiting task, s) ∧
      (highlights.echo highlights.params [line]).encode .standard .none = .ok reply ∧
      read reply s = .ok () s' ∧ (task.turn s').1 = .done (.ok (.messages [line])) := by
  obtain ⟨task, s, asked⟩ :
      ∃ task s, (Task.fetch highlights).turn withManager = (.waiting task, s) := ⟨_, _, rfl⟩
  obtain ⟨reply, written⟩ :
      ∃ reply, (highlights.echo highlights.params [line]).encode .standard .none = .ok reply :=
    ⟨_, rfl⟩
  have repeatable : highlights.Repeatable .none := ⟨by decide, by decide⟩
  obtain ⟨id, payload, -, after, awaits, -, -, answered⟩ :=
    echo_wakes_iff_repeatable hasBacklog_withManager highlights asked
  obtain ⟨s', taken, heard, -⟩ := answered [line] [line] reply line_arrives written s after awaits
  exact ⟨task, s, reply, s', asked, written, taken, heard repeatable⟩

def farBound : BacklogRequest := .buffer ⟨1⟩ ⟨4294967297⟩ ⟨-1⟩ 10 0

/-- Without long ids the core reads another bound, and when it repeats what it has read, the request
goes on waiting. -/
theorem farBound_unheard :
    ∃ task s payload params reply s', (Task.fetch farBound).turn withManager = (.waiting task, s) ∧
      s.link.outbox = withManager.link.outbox ++ [payload] ∧
      ProxyMessage.decode .standard .none payload =
        .ok (.sync BacklogRequest.className "" farBound.requestSlot params) ∧
      (farBound.echo params [line]).encode .standard .none = .ok reply ∧
      read reply s = .ok () s' ∧ (task.turn s').1 = .waiting task := by
  obtain ⟨task, s, asked⟩ :
      ∃ task s, (Task.fetch farBound).turn withManager = (.waiting task, s) := ⟨_, _, rfl⟩
  obtain ⟨rfl, after, awaits, payload, written, sent⟩ := fetch_waiting hasBacklog_withManager asked
  obtain ⟨reply, answered⟩ : ∃ reply,
      (farBound.echo (farBound.params.map (Value.normalize .none)) [line]).encode .standard .none =
        .ok reply := ⟨_, rfl⟩
  have lost : ¬ farBound.Repeatable .none := by
    rintro ⟨bounds, -⟩
    revert bounds
    decide
  obtain ⟨s', taken, -, unheard⟩ := read_echo after awaits line_arrives answered
  exact ⟨_, s, payload, _, reply, s', asked, sent,
    ProxyMessage.decode_sync farBound.params_arrive.1 written, answered, taken,
    congrArg Prod.fst (unheard lost).2.2⟩

end Session
end Datastream
