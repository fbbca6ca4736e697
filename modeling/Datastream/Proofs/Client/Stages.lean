import Datastream.Client.Basic
import Datastream.Proofs.Channel.Ending
import Datastream.Proofs.Session.Keeping

/-!
# The stages of a client's connection

A client hands what it receives to the handshake first and to the session then. Both put payloads into
the outbox and count what they send. Whether payloads are taken, and which frames have come in, is not
for them to say. So what is known of channels with such stages is known of a client's channel: its
counters tell what was read (`Run.counters_tell_calls`), and it refuses payloads just when the writing
has been severed (`Client.channel_ends`).
-/
namespace Datastream

namespace Run

theorem linkInPlace : LinkInPlace Run := fun _ _ => rfl

theorem link_endState_perform {α : Type} (act : Session.Action α) (r : Run) :
    Linked.link (endState (perform act r)) = (endState (act r.session)).link := by
  unfold perform
  cases act r.session <;> rfl

theorem continues_readHandshake (payload : Bytes) (r : Run) :
    (Linked.link r).Continues
      (Linked.link (endState (perform (Session.readHandshake payload) r))) := by
  rw [link_endState_perform]
  rcases r.session.readHandshake_cases payload with ⟨m, -, ran⟩ | ⟨error, -, ran⟩
  · rw [ran]
    exact .refl r.session.link
  · rw [ran]
    exact .refl r.session.link

theorem continues_read (payload : Bytes) (r : Run) :
    (Linked.link r).Continues (Linked.link (endState (perform (Session.read payload) r))) := by
  rw [link_endState_perform]
  exact (Session.continues_read r.session.invokers.publishes_all payload).link

/-- Reading goes on with the link as before, in both stages. -/
theorem continues_stages : ∀ stage ∈ stages, ∀ payload r,
    (Linked.link r).Continues (Linked.link (endState (stage.read payload r))) := by
  simp only [stages, List.forall_mem_cons]
  refine ⟨continues_readHandshake, fun payload r => ?_, List.forall_mem_nil _⟩
  have read := continues_read payload r
  refine endState_bind (P := fun r' : Run => (Linked.link r).Continues (Linked.link r')) read ?_
  intro _ r' ran
  rw [ran] at read
  exact read

/-- Starting, finishing and closing a stage leave the link as it is. -/
theorem link_stages : ∀ stage ∈ stages, ∀ r,
    Linked.link (endState (stage.init r)) = Linked.link r ∧
      Linked.link (stage.done r) = Linked.link r ∧ Linked.link (stage.close r) = Linked.link r := by
  simp only [stages, List.forall_mem_cons]
  exact ⟨fun _ => ⟨rfl, rfl, rfl⟩, fun _ => ⟨rfl, rfl, rfl⟩, List.forall_mem_nil _⟩

theorem leavesWriting_stages : ∀ stage ∈ stages, stage.LeavesWriting := by
  intro stage member
  constructor
  · exact fun r => congrArg Link.closed (link_stages stage member r).1
  · exact fun payload r => (continues_stages stage member payload r).closed
  · exact fun r => congrArg Link.closed (link_stages stage member r).2.1
  · exact fun r => congrArg Link.closed (link_stages stage member r).2.2

theorem leavesCounters_stages : ∀ stage ∈ stages, stage.LeavesCounters := by
  intro stage member
  constructor
  · exact fun r => congrArg (fun l : Link => incoming l) (link_stages stage member r).1
  · exact fun payload r => (continues_stages stage member payload r).incoming
  · exact fun r => congrArg (fun l : Link => incoming l) (link_stages stage member r).2.1
  · exact fun r => congrArg (fun l : Link => incoming l) (link_stages stage member r).2.2

/-- What a client has counted of a stream is what its stages were given of it. -/
theorem counters_tell_calls (codec : FrameCodec) (r : Run) (chunks : List Bytes) :
    incoming (Channel.readStream codec stages r chunks).state =
      (incoming r).after
        (Channel.readStream codec (Stage.observedFrom 0 stages) { state := r } chunks).state.calls :=
  Channel.incoming_readStream linkInPlace leavesCounters_stages codec r chunks

end Run

/-- Whatever happens to a client's channel: payloads are refused just when something has ended the
writing, only the program breaks the reading off, and both stages are told of each closing and of the
end of the stream. -/
theorem Client.channel_ends (config : Config) (agreement : CoreHeader) (stack : LayerStack)
    (clock : Reading) (now : Nat) (moves : List (Ending.Move Run)) :
    let first := (start config agreement stack clock now).channel
    let c := Ending.run first moves
    let o := Ending.run
      (Channel.start first.codec (Stage.observedFrom 0 Run.stages)
        { state := { session := .fresh clock, now, limit := config.client.handshakeTimeout } })
      (moves.map Ending.Move.observed)
    (∀ payload, (c.emit payload).1 =
        if Ending.severed first moves then .error .connectionClosed else .ok ()) ∧
      (c.intake = .aborted ↔ Ending.brokenOff first moves = true) ∧
      o.state.state = c.state ∧
        ∀ stage < 2, told o.state stage = c.isClosed.toNat + moves.countP Ending.Move.isClose := by
  intro first c o
  obtain ⟨mirrors, writing, broken, counts⟩ :=
    Ending.becomes_from_start Run.linkInPlace Run.leavesWriting_stages first.codec
      { session := .fresh clock, now, limit := config.client.handshakeTimeout } moves
  have writing : refuses c.state = Ending.severed first moves := writing.trans (Bool.false_or _)
  refine ⟨fun payload => ?emits, broken, mirrors.state, counts⟩
  case emits => rw [Ending.emit_eq, writing]

end Datastream
