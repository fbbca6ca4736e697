import Datastream.Proofs.Action
import Datastream.Proofs.Channel.Observation

/-!
# What holds while a channel is read

A property that every step of every stage keeps holds as long as the channel is read. When the reading
ends by itself, all stages are told, and whatever that makes of the property holds from then on
(`Channel.Stands`).
-/
namespace Datastream

variable {σ : Type} {P Q : σ → Prop}

structure Stage.Keeps (P : σ → Prop) (stage : Stage σ) : Prop where
  init : ∀ s, P s → P (endState (stage.init s))
  read : ∀ payload s, P s → P (endState (stage.read payload s))
  done : ∀ s, P s → P (stage.done s)

namespace Channel

/-- A channel with these stages, of which one property holds while it is read, and another once its
reading has ended. -/
structure Stands (all : List (Stage σ)) (P Q : σ → Prop) (c : Channel σ) : Prop where
  listed : c.stages = all
  keeps : ∀ stage ∈ c.chain, stage.Keeps P
  state : c.intake = .running ∧ P c.state ∨ c.intake = .ended ∧ Q c.state

variable {all : List (Stage σ)} {c : Channel σ}
  (closes : ∀ s, P s → Q (all.foldl (fun s stage => stage.close s) s))

theorem Stands.of_running (stands : Stands all P Q c) (running : c.intake = .running) : P c.state := by
  rcases stands.state with ⟨-, holds⟩ | ⟨ended, -⟩
  · exact holds
  · rw [running] at ended
    cases ended

include closes in
theorem stands_endReading (listed : c.stages = all) (holds : P c.state) :
    Stands all P Q c.endReading := by
  refine ⟨listed, List.forall_mem_nil _, .inr ⟨rfl, ?_⟩⟩
  have told := closes c.state holds
  rw [← listed] at told
  exact told

include closes in
theorem stands_enter (listed : c.stages = all) (running : c.intake = .running) (holds : P c.state)
    {stages : List (Stage σ)} (keep : ∀ stage ∈ stages, stage.Keeps P) :
    Stands all P Q (c.enter stages) := by
  cases stages with
  | nil => exact stands_endReading closes listed holds
  | cons stage rest =>
    have started := (List.forall_mem_cons.mp keep).1.init c.state holds
    rcases c.enter_cases stage rest with ⟨s, ran, entered⟩ | ⟨error, s, ran, entered⟩
    · rw [ran] at started
      rw [entered]
      exact ⟨listed, keep, .inl ⟨running, started⟩⟩
    · rw [ran] at started
      rw [entered]
      exact stands_endReading (c := { c with state := s }) closes listed started

variable [Linked σ] (counts : ∀ f s, P s → P (Linked.count f s))

include closes counts in
theorem Stands.take (stands : Stands all P Q c) (running : c.intake = .running) (payload : Bytes) :
    Stands all P Q (c.take payload) := by
  have holds := stands.of_running running
  cases current : c.chain with
  | nil =>
    have still : c.take payload = c := by simp [Channel.take, current]
    rw [still]
    exact stands
  | cons stage rest =>
    have keep := stands.keeps
    rw [current] at keep
    obtain ⟨first, others⟩ := List.forall_mem_cons.mp keep
    have read := first.read payload (c.counted payload) (counts _ _ holds)
    rcases take_cases current payload with ⟨s, ran, taken⟩ | ⟨s, ran, taken⟩ |
      ⟨error, s, ran, -, taken⟩ | ⟨error, s, ran, -, taken⟩
    · rw [ran] at read
      rw [taken]
      exact ⟨stands.listed, stands.keeps, .inl ⟨running, read⟩⟩
    · rw [ran] at read
      rw [taken]
      exact stands_enter (c := { c with state := stage.done s }) closes stands.listed running
        (first.done s read) others
    · rw [ran] at read
      rw [taken]
      exact ⟨stands.listed, stands.keeps, .inl ⟨running, counts _ _ read⟩⟩
    · rw [ran] at read
      rw [taken]
      exact stands_endReading (c := { c with state := s }) closes stands.listed read

include closes counts in
theorem Stands.foldl_take (stands : Stands all P Q c) (running : c.intake = .running)
    (payloads : List Bytes) : Stands all P Q (payloads.foldl Channel.take c) := by
  induction payloads generalizing c with
  | nil => exact stands
  | cons payload payloads ih =>
    have first := stands.take closes counts running payload
    rw [List.foldl_cons]
    rcases running_or_idle_of_take running payload with still | idle
    · exact ih first still
    · rw [idle.foldl_take]
      exact first

include closes counts in
theorem Stands.receive (stands : Stands all P Q c) (chunk : Bytes) :
    Stands all P Q (c.receive chunk) := by
  unfold Channel.receive
  split
  · exact stands
  · next running =>
    have running : c.intake = .running := by simpa [Channel.isOver] using running
    dsimp only
    generalize c.codec.cutAll (c.buffer ++ chunk) = frames
    have taken := stands.foldl_take closes counts running frames.payloads
    split
    · exact taken
    · next going =>
      have going : (frames.payloads.foldl Channel.take c).intake = .running := by
        simpa [Channel.isOver] using going
      split
      · exact stands_endReading closes taken.listed (taken.of_running going)
      · exact ⟨taken.listed, taken.keeps, .inl ⟨going, taken.of_running going⟩⟩

omit [Linked σ] in
include closes in
theorem Stands.finish (stands : Stands all P Q c) : Stands all P Q c.finish := by
  unfold Channel.finish
  split
  · exact stands
  · next running =>
    have running : c.intake = .running := by simpa [Channel.isOver] using running
    exact stands_endReading closes stands.listed (stands.of_running running)

end Channel
end Datastream
