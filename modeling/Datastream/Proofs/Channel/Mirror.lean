import Datastream.Proofs.Channel.Writing

/-!
# Channels with a log

A channel whose stages note their calls does what the channel without a log does, however the two are used:
when they take bytes, when payloads are sent and written, and when they are closed (`Channel.Mirrors`).
-/
namespace Datastream.Channel

variable {σ : Type} {c : Channel σ} {o : Channel (Observed σ)}

/-- Reading ends without the bytes of which no frame was cut yet. -/
theorem buffer_enter (running : c.intake = .running) (stages : List (Stage σ)) :
    (c.enter stages).buffer = if (c.enter stages).isOver then [] else c.buffer := by
  cases stages with
  | nil => rfl
  | cons stage rest =>
    rcases c.enter_cases stage rest with ⟨s, -, entered⟩ | ⟨error, s, -, entered⟩
    · rw [entered]
      simp [isOver, running]
    · rw [entered]
      rfl

/-- A channel whose stages note their calls stands where the channel without a log stands. -/
structure Mirrors (o : Channel (Observed σ)) (c : Channel σ) : Prop extends Shows o c where
  codec : o.codec = c.codec
  buffer : o.buffer = c.buffer

theorem Mirrors.isOver (mirrors : Mirrors o c) : o.isOver = c.isOver := by
  rw [Channel.isOver, Channel.isOver, mirrors.intake]

theorem Mirrors.endReading (mirrors : Mirrors o c) : Mirrors o.endReading c.endReading :=
  ⟨mirrors.toShows.endReading, mirrors.codec, rfl⟩

theorem Mirrors.enter (mirrors : Mirrors o c) (running : c.intake = .running) (place : Nat)
    (stages : List (Stage σ)) :
    Mirrors (o.enter (Stage.observedFrom place stages)) (c.enter stages) := by
  have shows := mirrors.toShows.enter place stages
  have sameOver : (o.enter (Stage.observedFrom place stages)).isOver = (c.enter stages).isOver := by
    rw [Channel.isOver, Channel.isOver, shows.intake]
  refine ⟨shows, ?_, ?_⟩
  · rw [codec_enter, codec_enter, mirrors.codec]
  · rw [buffer_enter (mirrors.intake.trans running), buffer_enter running, sameOver, mirrors.buffer]

variable [Linked σ]

theorem buffer_take (running : c.intake = .running) (payload : Bytes) :
    (c.take payload).buffer = if (c.take payload).isOver then [] else c.buffer := by
  cases current : c.chain with
  | nil => simp [take, current, isOver, running]
  | cons stage rest =>
    rcases take_cases current payload with ⟨s, -, taken⟩ | ⟨s, -, taken⟩ |
      ⟨error, s, -, -, taken⟩ | ⟨error, s, -, -, taken⟩
    · rw [taken]
      simp [isOver, running]
    · rw [taken]
      exact buffer_enter (c := { c with state := stage.done s }) running rest
    · rw [taken]
      simp [isOver, running]
    · rw [taken]
      rfl

theorem Mirrors.take (mirrors : Mirrors o c) (running : c.intake = .running) (payload : Bytes) :
    Mirrors (o.take payload) (c.take payload) := by
  have shows := mirrors.toShows.take payload
  have sameOver : (o.take payload).isOver = (c.take payload).isOver := by
    rw [Channel.isOver, Channel.isOver, shows.intake]
  refine ⟨shows, ?_, ?_⟩
  · rw [codec_take, codec_take, mirrors.codec]
  · rw [buffer_take (mirrors.intake.trans running), buffer_take running, sameOver, mirrors.buffer]

theorem Mirrors.foldl_take (mirrors : Mirrors o c) (running : c.intake = .running)
    (payloads : List Bytes) :
    Mirrors (payloads.foldl Channel.take o) (payloads.foldl Channel.take c) := by
  induction payloads generalizing o c with
  | nil => exact mirrors
  | cons payload payloads ih =>
    have first := mirrors.take running payload
    rw [List.foldl_cons, List.foldl_cons]
    rcases running_or_idle_of_take running payload with still | idle
    · exact ih first still
    · obtain ⟨place, chain⟩ := first.chain
      have idle' : (o.take payload).Idle := by
        refine ⟨first.intake.trans idle.1, ?_⟩
        rw [chain, idle.2]
        rfl
      rw [idle.foldl_take, idle'.foldl_take]
      exact first

theorem Mirrors.receive (mirrors : Mirrors o c) (chunk : Bytes) :
    Mirrors (o.receive chunk) (c.receive chunk) := by
  unfold Channel.receive
  rw [mirrors.isOver, mirrors.codec, mirrors.buffer]
  split
  · exact mirrors
  · next running =>
    have running : c.intake = .running := by simpa [Channel.isOver] using running
    dsimp only
    generalize (c.codec.cutAll (c.buffer ++ chunk)) = frames
    have taken := mirrors.foldl_take running frames.payloads
    rw [taken.isOver]
    split
    · exact taken
    · split
      · exact taken.endReading
      · exact ⟨⟨taken.stages, taken.chain, taken.intake, taken.state⟩, taken.codec, rfl⟩

omit [Linked σ] in
theorem Mirrors.finish (mirrors : Mirrors o c) : Mirrors o.finish c.finish := by
  unfold Channel.finish
  rw [mirrors.isOver]
  split
  · exact mirrors
  · exact mirrors.endReading

/-- The links are the same. -/
theorem Mirrors.link (mirrors : Mirrors o c) : Linked.link o.state = Linked.link c.state :=
  congrArg Linked.link mirrors.state

theorem Mirrors.withLink (mirrors : Mirrors o c) (link : Link) :
    Mirrors { o with state := Linked.withLink link o.state }
      { c with state := Linked.withLink link c.state } :=
  ⟨⟨mirrors.stages, mirrors.chain, mirrors.intake, congrArg (Linked.withLink link) mirrors.state⟩,
    mirrors.codec, mirrors.buffer⟩

theorem Mirrors.emit (mirrors : Mirrors o c) (payload : Bytes) :
    Mirrors (o.emit payload).2 (c.emit payload).2 := by
  unfold Channel.emit
  rw [mirrors.link]
  split
  · exact mirrors.withLink _
  · exact mirrors.withLink _

theorem Mirrors.endWriting (mirrors : Mirrors o c) : Mirrors o.endWriting c.endWriting := by
  unfold Channel.endWriting
  rw [mirrors.link]
  exact mirrors.withLink _

theorem Mirrors.flush (mirrors : Mirrors o c) (connected : Bool) :
    Mirrors (o.flush connected).2 (c.flush connected).2 := by
  unfold Channel.flush
  have frames : encodeAll o.codec = encodeAll c.codec := by rw [mirrors.codec]
  rw [mirrors.link, frames]
  dsimp only
  split
  · exact mirrors
  · split
    · dsimp only
      split
      · exact mirrors
      · exact mirrors.endWriting
    · dsimp only
      split
      · exact mirrors.withLink _
      · exact mirrors.endWriting

theorem Mirrors.close (mirrors : Mirrors o c) : Mirrors o.close c.close := by
  have told : Mirrors o.closeStages c.closeStages := by
    refine ⟨⟨mirrors.stages, mirrors.chain, mirrors.intake, ?_⟩, mirrors.codec, mirrors.buffer⟩
    simp only [Channel.closeStages]
    rw [mirrors.stages, foldl_close_observed, mirrors.state]
  have ended := told.endWriting
  refine ⟨⟨ended.stages, ⟨0, rfl⟩, ?_, ended.state⟩, ended.codec, rfl⟩
  simp only [Channel.close, Channel.abort, told.intake]

end Datastream.Channel
