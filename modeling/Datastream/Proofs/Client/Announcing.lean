import Datastream.Client.Basic
import Datastream.Proofs.Channel.Invariant
import Datastream.Proofs.Session.Calls

/-!
# How the end of a connection is announced

A client tells its program by an event that the connection is gone. The event comes from the session when
it is closed, and from nowhere else. But the session is closed whenever the channel tells its stages: once
when the reading ends by itself, and once more each time the program breaks the connection off. So the end
is announced as often as the connection has ended in any of these ways, and nothing else is published
after it (`announces_each_end`); a program that closes a connection that has ended already hears of it
twice (`end_announced_twice`).

The event is published by the session's `close`, which both `read_loop` and the channel's `close`
call.
-/
namespace Datastream

def Event.IsOpen (event : Event) : Prop := event.isClosed = false

theorem MethodTable.publishes_ofList {allowed : Event → Prop} {className : String} {kind : Body}
    {methods : List (String × Method)} (each : ∀ m ∈ methods, m.2.Publishes allowed) :
    (ofList className kind methods).Publishes allowed := by
  intro o slot params o' effects made
  unfold invoke at made
  split at made
  · cases made
  · next run listed =>
    split at made
    · exact forall_ofList each _ (Table.mem_of_find? listed) o params o' effects made
    · cases made

namespace RpcHandler

/-- One event, and nothing that publishes besides. -/
theorem publishes_event {event : Event} (allowed : event.IsOpen) :
    ∀ e ∈ [Effect.publish event], e.Publishes Event.IsOpen := by
  intro e member event' same
  rw [List.mem_singleton.mp member] at same
  cases same
  exact allowed

theorem publishes_publishing {α : Type} (slot : String) (read : Value → Option α) {event : α → Event}
    (allowed : ∀ a, (event a).IsOpen) : (publishing slot read event).Publishes Event.IsOpen := by
  intro o params o' effects made
  obtain ⟨value, -, made⟩ := ok_of_bind made
  cases made
  exact publishes_event (allowed value)

theorem publishes_status : Method.Publishes Event.IsOpen status := by
  intro o params o' effects made
  obtain ⟨network, -, made⟩ := ok_of_bind made
  obtain ⟨message, -, made⟩ := ok_of_bind made
  cases made
  exact publishes_event rfl

theorem publishes_password : Method.Publishes Event.IsOpen password := by
  intro o params o' effects made
  obtain ⟨success, -, made⟩ := ok_of_bind made
  cases made
  exact publishes_event rfl

theorem publishes_renamed : Method.Publishes Event.IsOpen renamed := by
  intro o params o' effects made
  obtain ⟨className, -, made⟩ := ok_of_bind made
  obtain ⟨newName, -, made⟩ := ok_of_bind made
  obtain ⟨oldName, -, made⟩ := ok_of_bind made
  cases made
  intro e member
  rcases List.mem_append.mp member with moves | publishes
  · intro event same
    subst same
    split at moves <;> simp at moves
  · have isOpen : (Event.objectRenamed className newName oldName).IsOpen := rfl
    exact publishes_event isOpen e publishes

theorem publishes_table : table.Publishes Event.IsOpen := by
  refine MethodTable.publishes_ofList ?_
  simp only [List.forall_mem_cons]
  refine ⟨publishes_publishing _ _ fun _ => rfl, publishes_status, publishes_renamed,
    publishes_publishing _ _ fun _ => rfl, publishes_publishing _ _ fun _ => rfl,
    publishes_publishing _ _ fun _ => rfl, publishes_publishing _ _ fun _ => rfl,
    publishes_publishing _ _ fun _ => rfl, publishes_password, ?_, List.forall_mem_nil _⟩
  intro o params o' effects made
  cases made
  exact publishes_event rfl

end RpcHandler

/-- An effect of another kind. -/
theorem Effect.publishes_of_silent {allowed : Event → Prop} {effects : List Effect}
    (silent : ∀ event, .publish event ∉ effects) : ∀ e ∈ effects, e.Publishes allowed := by
  intro e member event same
  subst same
  exact absurd member (silent event)

theorem BacklogManager.publishes_table : BacklogManager.table.Publishes Event.IsOpen := by
  refine MethodTable.publishes_ofList fun m member => ?_
  obtain ⟨slot, -, rfl⟩ := List.mem_map.mp member
  intro o params o' effects made
  obtain ⟨reply, -, made⟩ := ok_of_bind made
  cases made
  exact Effect.publishes_of_silent (by simp)

theorem ListHelper.publishes_table : ListHelper.table.Publishes Event.IsOpen := by
  refine MethodTable.publishes_ofList ?_
  simp only [List.forall_mem_cons]
  refine ⟨?received, ?finished, ?failed, List.forall_mem_nil _⟩
  case received =>
    intro o params o' effects made
    obtain ⟨network, -, made⟩ := ok_of_bind made
    obtain ⟨filters, -, made⟩ := ok_of_bind made
    obtain ⟨rows, -, made⟩ := ok_of_bind made
    cases made
    exact Effect.publishes_of_silent (by simp)
  case finished =>
    intro o params o' effects made
    obtain ⟨network, -, made⟩ := ok_of_bind made
    cases made
    exact Effect.publishes_of_silent (by simp)
  case failed =>
    intro o params o' effects made
    obtain ⟨reason, -, made⟩ := ok_of_bind made
    cases made
    exact Effect.publishes_of_silent (by simp)

theorem Session.publishes_ownInvokers : ownInvokers.Publishes Event.IsOpen :=
  forall_ownInvokers RpcHandler.publishes_table BacklogManager.publishes_table
    ListHelper.publishes_table

namespace Session

variable {n : Nat} {s s' : Session}

/-- The end was announced so many times, after everything else that was published. No table announces
it. -/
structure Announced (n : Nat) (s : Session) : Prop where
  tables : s.invokers.Publishes Event.IsOpen
  events : ∃ before, (∀ event ∈ before, event.IsOpen) ∧
    s.events = before ++ List.replicate n .closed

/-- Before the end is announced, anything else is published. -/
theorem Announced.speaks (announced : Announced 0 s) (speaks : Speaks Event.IsOpen s s') :
    Announced 0 s' := by
  obtain ⟨before, others, events⟩ := announced.events
  obtain ⟨more, events', others'⟩ := speaks.events
  refine ⟨by rw [speaks.invokers]; exact announced.tables, before ++ more, ?_, ?_⟩
  · intro event member
    exact (List.mem_append.mp member).elim (others event) (others' event)
  · rw [events', events]
    simp

theorem Announced.silent (announced : Announced n s) (silent : Speaks Silent s s') :
    Announced n s' := by
  obtain ⟨more, events', others⟩ := silent.events
  have nothing : more = [] := List.eq_nil_iff_forall_not_mem.mpr others
  rw [nothing, List.append_nil] at events'
  exact ⟨by rw [silent.invokers]; exact announced.tables, by rw [events']; exact announced.events⟩

theorem Announced.close (announced : Announced n s) : Announced (n + 1) s.close := by
  obtain ⟨before, others, events⟩ := announced.events
  refine ⟨announced.tables, before, others, ?_⟩
  show s.events ++ [.closed] = _
  rw [events, List.replicate_succ', List.append_assoc]

theorem Announced.handshake (announced : Announced n s) (handshake : Handshake) :
    Announced n { s with handshake } :=
  announced.silent (.of_silent rfl rfl)

theorem announced_fresh (clock : Reading) : Announced 0 (fresh clock) := by
  refine ⟨?_, [], List.forall_mem_nil _, rfl⟩
  exact publishes_ownInvokers

end Session

namespace Run

open Session (Announced)

/-- The end was announced so many times on a run, and its calls are such as a program makes. -/
structure Announced (n : Nat) (r : Run) : Prop where
  session : r.session.Announced n
  sound : r.Sound

variable {n : Nat} {r : Run}

theorem announced_perform {α : Type} {act : Session.Action α} (announced : r.Announced n)
    (keeps : Session.Announced n (endState (act r.session))) :
    Announced n (endState (Run.perform act r)) := by
  unfold Run.perform
  cases ran : act r.session <;> rw [ran] at keeps <;> exact ⟨keeps, announced.sound⟩

/-- Until it ends, the stages of a connection do not announce the end. -/
theorem keeps_stages : ∀ stage ∈ Run.stages, stage.Keeps (Run.Announced 0) := by
  simp only [Run.stages, List.forall_mem_cons]
  refine ⟨?handshake, ?session, List.forall_mem_nil _⟩
  case handshake =>
    refine ⟨fun _ announced => announced, fun payload r announced => ?_, fun _ announced => announced⟩
    refine announced_perform announced ?_
    rcases r.session.readHandshake_cases payload with ⟨m, -, ran⟩ | ⟨error, -, ran⟩
    · rw [ran]
      exact announced.session.handshake _
    · rw [ran]
      exact announced.session
  case session =>
    refine ⟨fun _ announced => announced, fun payload r announced => ?_, fun _ announced => announced⟩
    have spoke := (Session.continues_read announced.session.tables payload).toSpeaks
    have read := announced_perform announced (announced.session.speaks spoke)
    refine endState_bind (P := Run.Announced 0) read fun _ r' ran => ?_
    rw [ran] at read
    exact read

/-- All stages are told, and one of them announces it. -/
theorem announced_told (announced : r.Announced n) :
    Announced (n + 1) (Run.stages.foldl (fun r stage => stage.close r) r) :=
  ⟨(announced.session.handshake _).close, announced.sound⟩

theorem announced_link (announced : r.Announced n) (link : Link) :
    Announced n (Linked.withLink link r) :=
  ⟨announced.session.silent (.of_silent rfl rfl), announced.sound⟩

end Run

namespace Channel

variable {closings : Nat} {c : Channel Run}

/-- A client's channel that the program has closed so many times. The end was announced each time, and
when the reading ended by itself. -/
structure Announces (closings : Nat) (c : Channel Run) : Prop where
  listed : c.stages = Run.stages
  keeps : ∀ stage ∈ c.chain, stage.Keeps (Run.Announced 0)
  announced : c.state.Announced (closings + c.isClosed.toNat)
  isOver_iff : c.isOver = true ↔ 0 < closings + c.isClosed.toNat

/-- What a channel has announced that the program has not closed. -/
theorem announces_of_stands (stands : Stands Run.stages (Run.Announced 0) (Run.Announced 1) c) :
    Announces 0 c := by
  rcases stands.state with ⟨running, announced⟩ | ⟨ended, announced⟩
  · have going : c.isClosed = false := by simp [isClosed, running]
    refine ⟨stands.listed, stands.keeps, ?_, ?_⟩
    · rw [going]
      exact announced
    · simp [going, isOver, running]
  · have closed : c.isClosed = true := by simp [isClosed, ended]
    refine ⟨stands.listed, stands.keeps, ?_, ?_⟩
    · rw [closed]
      exact announced
    · simp [closed, isOver, ended]

theorem Announces.stands (announces : c.Announces closings) (running : c.intake = .running) :
    closings = 0 ∧ Stands Run.stages (Run.Announced 0) (Run.Announced 1) c := by
  have unended : closings + c.isClosed.toNat = 0 := by
    refine Nat.eq_zero_of_not_pos fun ended => ?_
    have stopped := announces.isOver_iff.mpr ended
    simp [isOver, running] at stopped
  have announced := announces.announced
  rw [unended] at announced
  exact ⟨Nat.eq_zero_of_add_eq_zero_right unended, announces.listed, announces.keeps,
    .inl ⟨running, announced⟩⟩

theorem Announces.receive (announces : c.Announces closings) (chunk : Bytes) :
    (c.receive chunk).Announces closings := by
  by_cases running : c.intake = .running
  · obtain ⟨rfl, stands⟩ := announces.stands running
    exact announces_of_stands (stands.receive (fun _ => Run.announced_told)
      (fun _ _ announced => Run.announced_link announced _) chunk)
  · rw [Channel.receive, if_pos (by simpa [isOver] using running)]
    exact announces

theorem Announces.finish (announces : c.Announces closings) : c.finish.Announces closings := by
  by_cases running : c.intake = .running
  · obtain ⟨rfl, stands⟩ := announces.stands running
    exact announces_of_stands (stands.finish fun _ => Run.announced_told)
  · rw [Channel.finish, if_pos (by simpa [isOver] using running)]
    exact announces

/-- Something else is done to the state. -/
theorem Announces.withState (announces : c.Announces closings) {r : Run}
    (same : ∀ n, c.state.Announced n → r.Announced n) :
    Announces closings { c with state := r } :=
  ⟨announces.listed, announces.keeps, same _ announces.announced, announces.isOver_iff⟩

theorem Announces.flush (announces : c.Announces closings) (connected : Bool) :
    (c.flush connected).2.Announces closings := by
  have linked (link : Link) : Announces closings { c with state := Linked.withLink link c.state } :=
    announces.withState fun _ announced => Run.announced_link announced link
  unfold Channel.flush
  dsimp only
  split
  · exact announces
  · split
    · dsimp only
      split
      · exact announces
      · exact linked _
    · dsimp only
      split
      · exact linked _
      · exact linked _

/-- The program closes the channel, which is announced again if it was over. -/
theorem Announces.close (announces : c.Announces closings) : c.close.Announces (closings + 1) := by
  have intake : c.close.intake = if c.intake = .running then .aborted else c.intake := rfl
  have same : c.close.isClosed = c.isClosed := by
    rw [isClosed, isClosed, intake]
    cases c.intake <;> rfl
  have told := Run.announced_told announces.announced
  rw [← announces.listed] at told
  refine ⟨announces.listed, List.forall_mem_nil _, ?_, ?_⟩
  · rw [same, Nat.add_right_comm]
    exact Run.announced_link told _
  · have stopped : c.close.isOver = true := by
      rw [isOver, intake]
      cases c.intake <;> rfl
    refine iff_of_true stopped ?_
    omega

end Channel

namespace Client

/-- Something else that the program does to the session. It publishes nothing, and no table that it adds
announces the end. -/
structure SilentChange where
  act : Session → Session
  events : ∀ s, (act s).events = s.events
  tables : ∀ s, s.invokers.Publishes Event.IsOpen → (act s).invokers.Publishes Event.IsOpen

inductive Move
  /-- Bytes come in, or the stream ends or fails. -/
  | receive (bytes : Bytes) (ended : Bool)
  | flush (connected : Bool)
  | advance (millis : Nat)
  /-- Every call of the program has a turn. -/
  | turn
  | begin (name : String) (request : Request) (timed : Bool)
  | cancel (name : String)
  /-- The program breaks the connection off. -/
  | close
  | aside (change : SilentChange)

def Move.isClose : Move → Bool
  | close => true
  | _ => false

def step (c : Client) : Move → Client
  | .receive bytes ended => c.receive bytes ended
  | .flush connected => (c.flush connected).2
  | .advance millis => c.advance millis
  | .turn => c.turn.2
  | .begin name request timed => c.withRun (c.run.begin name request.task timed)
  | .cancel name => c.withRun (c.run.cancel name)
  | .close => c.close
  | .aside change => c.withRun { c.run with session := change.act c.session }

def after (c : Client) (moves : List Move) : Client := moves.foldl step c

variable {closings : Nat} {c : Client}

theorem announces_pump (fuel : Nat) (source : Compression.Source)
    (announces : c.channel.Announces closings) : (c.pump fuel source).channel.Announces closings := by
  induction fuel generalizing c source with
  | zero => exact announces
  | succ fuel ih =>
    unfold pump
    split
    · exact announces
    · dsimp only
      split
      · exact announces
      · exact announces.finish
      · exact announces.finish
      · next output inflow source' _ _ => exact ih source' (announces.receive output)

theorem announces_receive (announces : c.channel.Announces closings) (bytes : Bytes) (ended : Bool) :
    (c.receive bytes ended).channel.Announces closings := by
  unfold receive
  split
  · exact announces_pump _ _ announces
  · dsimp only
    split
    · exact (announces.receive bytes).finish
    · exact announces.receive bytes

theorem announces_flush (announces : c.channel.Announces closings) (connected : Bool) :
    (c.flush connected).2.channel.Announces closings := by
  unfold flush
  dsimp only
  split <;> exact announces.flush connected

theorem speaks_sendBeats (count : Nat) (s : Session) :
    Session.Speaks Session.Silent s (sendBeats count s).2 := by
  induction count generalizing s with
  | zero => exact .refl s
  | succ count ih =>
    have keeps : Session.Keeps Session.Silent Session.sendHeartbeat := Session.keeps_sendHeartbeat
    have sent := (keeps s).toSpeaks
    unfold sendBeats
    split
    · next s' ran =>
      rw [ran] at sent
      exact sent.trans (ih s')
    · next error s' ran =>
      rw [ran] at sent
      exact sent

theorem announces_beat (announces : c.channel.Announces closings) :
    c.beat.channel.Announces closings := by
  unfold beat
  split
  · exact announces
  · split
    · exact announces
    · exact announces.withState fun _ announced =>
        ⟨announced.session.silent (speaks_sendBeats _ _), announced.sound⟩

theorem announces_turn (announces : c.channel.Announces closings) :
    c.turn.2.channel.Announces closings := by
  have settled : (c.withRun c.run.settle.2).channel.Announces closings :=
    announces.withState fun _ announced =>
      have ⟨spoke, sound⟩ := Run.speaks_settle announced.sound
      ⟨announced.session.silent spoke, sound⟩
  unfold turn
  dsimp only
  split <;> exact settled

/-- Only closing is announced by the program. -/
theorem announces_step (announces : c.channel.Announces closings) (m : Move) :
    (c.step m).channel.Announces (closings + m.isClose.toNat) := by
  cases m with
  | receive bytes ended => exact announces_receive announces bytes ended
  | flush connected => exact announces_flush announces connected
  | advance millis =>
    refine announces_beat (c := c.withRun (c.run.advance millis)) ?_
    exact announces.withState fun _ announced => ⟨announced.session, announced.sound⟩
  | turn => exact announces_turn announces
  | begin name request timed =>
    exact announces.withState fun _ announced =>
      ⟨announced.session, Run.sound_begin announced.sound name request timed⟩
  | cancel name =>
    exact announces.withState fun _ announced =>
      have ⟨spoke, sound⟩ := Run.speaks_cancel announced.sound name
      ⟨announced.session.silent spoke, sound⟩
  | close => exact announces.close
  | aside change =>
    refine announces.withState fun _ announced => ⟨⟨?_, ?_⟩, announced.sound⟩
    · exact change.tables _ announced.session.tables
    · rw [change.events]
      exact announced.session.events

theorem announces_after (announces : c.channel.Announces closings) (moves : List Move) :
    (c.after moves).channel.Announces (closings + moves.countP Move.isClose) := by
  induction moves generalizing c closings with
  | nil => exact announces
  | cons m moves ih =>
    have counted : (m :: moves).countP Move.isClose = m.isClose.toNat + moves.countP Move.isClose := by
      cases closes : m.isClose <;> simp [closes, Nat.add_comm]
    rw [counted, ← Nat.add_assoc]
    exact ih (announces_step announces m)

theorem announces_start (config : Config) (agreement : CoreHeader) (stack : LayerStack)
    (clock : Reading) (now : Nat) :
    (start config agreement stack clock now).channel.Announces 0 := by
  refine Channel.announces_of_stands ?_
  refine Channel.stands_enter (fun _ => Run.announced_told) rfl rfl ?_ Run.keeps_stages
  exact ⟨Session.announced_fresh clock, List.forall_mem_nil _⟩

/-- Whatever happens to a client, the end is announced as often as it has come: once if the reading has
ended by itself, and once each time the program has closed the connection. Everything else was published
before. -/
theorem announces_each_end (config : Config) (agreement : CoreHeader) (stack : LayerStack)
    (clock : Reading) (now : Nat) (moves : List Move) :
    let c := (start config agreement stack clock now).after moves
    let ends := moves.countP Move.isClose + c.channel.isClosed.toNat
    (c.channel.isOver = true ↔ 0 < ends) ∧
    c.session.events.countP Event.isClosed = ends ∧
    ∃ before, (∀ event ∈ before, event.isClosed = false) ∧
      c.session.events = before ++ List.replicate ends .closed := by
  intro c ends
  have announces := announces_after (announces_start config agreement stack clock now) moves
  rw [Nat.zero_add] at announces
  obtain ⟨before, others, events⟩ := announces.announced.session.events
  refine ⟨announces.isOver_iff, ?_, before, others, events⟩
  have none : before.countP Event.isClosed = 0 :=
    List.countP_eq_zero.mpr fun event member => Bool.eq_false_iff.mp (others event member)
  have all : (List.replicate ends Event.closed).countP Event.isClosed = ends := by
    rw [List.countP_replicate]
    rfl
  change c.session.events = _ at events
  rw [events, List.countP_append, none, Nat.zero_add]
  exact all

/-- The stream of a client ends, and then the program closes the connection: it is told twice. -/
theorem end_announced_twice :
    let c := (start {} ⟨.empty, ⟨.datastream, 0⟩⟩ .plain Reading.epoch 0).after [.receive [] true, .close]
    c.channel.isOver = true ∧ c.session.events = [.closed, .closed] := by
  with_unfolding_all exact ⟨rfl, rfl⟩

end Client
end Datastream
