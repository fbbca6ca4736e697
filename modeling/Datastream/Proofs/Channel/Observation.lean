import Datastream.Channel.Basic
import Datastream.Proofs.Frame.Stream

/-!
# Observing a channel

A channel reads a stream: chunk after chunk, and then its end (`Channel.readStream`). It depends on
the chunks only through the frames in them (`Channel.readStream_eq`). To see which calls it makes,
its stages are given a log (`Stage.observed`): each does to the state what it did, and notes the
call. The channel does not notice (`Channel.observed_readStream`).
-/
namespace Datastream

variable {σ : Type}

/-- A call of a stage, which is named by its place among all stages. -/
inductive StageCall
  | init (stage : Nat) (failure : Option Error)
  | read (stage : Nat) (payload : Bytes) (outcome : Except Error Bool)
  | done (stage : Nat)
  | close (stage : Nat)

/-- A state, and the calls that led to it. -/
structure Observed (σ : Type) where
  state : σ
  calls : List StageCall := []

def Observed.log (o : Observed σ) (state : σ) (call : StageCall) : Observed σ :=
  { state, calls := o.calls ++ [call] }

instance [Linked σ] : Linked (Observed σ) where
  link o := Linked.link o.state
  withLink link o := { o with state := Linked.withLink link o.state }

namespace Stage

def observed (place : Nat) (stage : Stage σ) : Stage (Observed σ) where
  name := stage.name
  init o :=
    match stage.init o.state with
    | .ok () s => .ok () (o.log s (.init place none))
    | .error error s => .error error (o.log s (.init place (some error)))
  read payload o :=
    match stage.read payload o.state with
    | .ok last s => .ok last (o.log s (.read place payload (.ok last)))
    | .error error s => .error error (o.log s (.read place payload (.error error)))
  done o := o.log (stage.done o.state) (.done place)
  close o := o.log (stage.close o.state) (.close place)

/-- Stages that note their calls, the first of which is at this place. -/
def observedFrom (place : Nat) : List (Stage σ) → List (Stage (Observed σ))
  | [] => []
  | stage :: stages => stage.observed place :: observedFrom (place + 1) stages

theorem observed_read_ok (place : Nat) {stage : Stage σ} {payload : Bytes} {o : Observed σ}
    {last : Bool} {s : σ} (read : stage.read payload o.state = .ok last s) :
    (stage.observed place).read payload o =
      .ok last (o.log s (.read place payload (.ok last))) := by
  simp only [observed, read]

theorem observed_read_error (place : Nat) {stage : Stage σ} {payload : Bytes} {o : Observed σ}
    {error : Error} {s : σ} (read : stage.read payload o.state = .error error s) :
    (stage.observed place).read payload o =
      .error error (o.log s (.read place payload (.error error))) := by
  simp only [observed, read]

theorem observed_init_ok (place : Nat) {stage : Stage σ} {o : Observed σ} {s : σ}
    (started : stage.init o.state = .ok () s) :
    (stage.observed place).init o = .ok () (o.log s (.init place none)) := by
  simp only [observed, started]

theorem observed_init_error (place : Nat) {stage : Stage σ} {o : Observed σ} {error : Error} {s : σ}
    (refused : stage.init o.state = .error error s) :
    (stage.observed place).init o = .error error (o.log s (.init place (some error))) := by
  simp only [observed, refused]

end Stage

namespace Channel

section Steps

variable (c : Channel σ)

theorem enter_cases (stage : Stage σ) (rest : List (Stage σ)) :
    (∃ s, stage.init c.state = .ok () s ∧
      c.enter (stage :: rest) = { c with chain := stage :: rest, state := s }) ∨
    ∃ error s, stage.init c.state = .error error s ∧
      c.enter (stage :: rest) = { c with state := s }.endReading := by
  cases started : stage.init c.state with
  | ok _ s => exact .inl ⟨s, rfl, by simp only [enter, started]⟩
  | error error s => exact .inr ⟨error, s, rfl, by simp only [enter, started]⟩

variable [Linked σ]

/-- The state in which a frame is handed to a stage: it is counted already. -/
def counted (payload : Bytes) : σ :=
  Linked.count (·.frameReceived (UInt64.ofNat payload.length)) c.state

variable {c} {stage : Stage σ} {rest : List (Stage σ)} {payload : Bytes} {s : σ} {error : Error}

theorem take_more (current : c.chain = stage :: rest)
    (read : stage.read payload (c.counted payload) = .ok false s) :
    c.take payload = { c with state := s } := by
  simp only [counted] at read
  simp only [take, current, read]

theorem take_last (current : c.chain = stage :: rest)
    (read : stage.read payload (c.counted payload) = .ok true s) :
    c.take payload = { c with state := stage.done s }.enter rest := by
  simp only [counted] at read
  simp only [take, current, read]

theorem take_misrouted (current : c.chain = stage :: rest)
    (read : stage.read payload (c.counted payload) = .error error s)
    (routing : error.isRouting = true) :
    c.take payload = { c with state := Linked.count Metrics.routingError s } := by
  simp only [counted] at read
  simp [take, current, read, routing]

theorem take_failed (current : c.chain = stage :: rest)
    (read : stage.read payload (c.counted payload) = .error error s)
    (fatal : error.isRouting = false) : c.take payload = { c with state := s }.endReading := by
  simp only [counted] at read
  simp [take, current, read, fatal]

theorem take_cases (current : c.chain = stage :: rest) (payload : Bytes) :
    (∃ s, stage.read payload (c.counted payload) = .ok false s ∧
      c.take payload = { c with state := s }) ∨
    (∃ s, stage.read payload (c.counted payload) = .ok true s ∧
      c.take payload = { c with state := stage.done s }.enter rest) ∨
    (∃ error s, stage.read payload (c.counted payload) = .error error s ∧
      error.isRouting = true ∧
      c.take payload = { c with state := Linked.count Metrics.routingError s }) ∨
    ∃ error s, stage.read payload (c.counted payload) = .error error s ∧
      error.isRouting = false ∧ c.take payload = { c with state := s }.endReading := by
  cases read : stage.read payload (c.counted payload) with
  | ok last s =>
    cases last with
    | false => exact .inl ⟨s, rfl, take_more current read⟩
    | true => exact .inr (.inl ⟨s, rfl, take_last current read⟩)
  | error error s =>
    cases routing : error.isRouting with
    | true => exact .inr (.inr (.inl ⟨error, s, rfl, routing, take_misrouted current read routing⟩))
    | false => exact .inr (.inr (.inr ⟨error, s, rfl, routing, take_failed current read routing⟩))

end Steps

section Frames

variable [Linked σ] {c : Channel σ}

/-- Reading is over, by itself. -/
def Idle (c : Channel σ) : Prop := c.intake = .ended ∧ c.chain = []

def bare (c : Channel σ) : Channel σ := { c with buffer := [] }

/-- Takes frames, and then the end of the stream. -/
def readFrames (c : Channel σ) (payloads : List Bytes) : Channel σ := (payloads.foldl take c).finish

/-- Reads a stream from its beginning to its end, or to its failure. -/
def readStream (codec : FrameCodec) (stages : List (Stage σ)) (state : σ) (chunks : List Bytes) :
    Channel σ :=
  (chunks.foldl receive (start codec stages state)).finish

omit [Linked σ] in
theorem enter_bare (stages : List (Stage σ)) : (c.enter stages).bare = c.bare.enter stages := by
  cases stages with
  | nil => rfl
  | cons stage rest =>
    cases started : stage.init c.state with
    | ok _ s => simp [enter, bare, started]
    | error error s => simp [enter, bare, started, endReading, closeStages]

theorem take_bare (payload : Bytes) : (c.take payload).bare = c.bare.take payload := by
  cases current : c.chain with
  | nil => simp [take, bare, current]
  | cons stage rest =>
    rcases take_cases current payload with ⟨s, read, taken⟩ | ⟨s, read, taken⟩ |
      ⟨_, s, read, routing, taken⟩ | ⟨_, s, read, fatal, taken⟩
    · rw [taken, take_more (c := c.bare) current read]
      rfl
    · rw [taken, take_last (c := c.bare) current read, enter_bare]
      rfl
    · rw [taken, take_misrouted (c := c.bare) current read routing]
      rfl
    · rw [taken, take_failed (c := c.bare) current read fatal]
      rfl

omit [Linked σ] in
theorem running_or_idle_of_enter (running : c.intake = .running) (stages : List (Stage σ)) :
    (c.enter stages).intake = .running ∨ (c.enter stages).Idle := by
  cases stages with
  | nil => exact .inr ⟨rfl, rfl⟩
  | cons stage rest =>
    rcases c.enter_cases stage rest with ⟨s, -, entered⟩ | ⟨error, s, -, entered⟩
    · exact .inl (by rw [entered]; exact running)
    · exact .inr (by rw [entered]; exact ⟨rfl, rfl⟩)

theorem running_or_idle_of_take (running : c.intake = .running) (payload : Bytes) :
    (c.take payload).intake = .running ∨ (c.take payload).Idle := by
  cases current : c.chain with
  | nil => exact .inl (by simpa [take, current] using running)
  | cons stage rest =>
    rcases take_cases current payload with ⟨s, -, taken⟩ | ⟨s, -, taken⟩ | ⟨_, s, -, -, taken⟩ |
      ⟨_, s, -, -, taken⟩
    · exact .inl (by rw [taken]; exact running)
    · rw [taken]
      exact running_or_idle_of_enter (c := { c with state := stage.done s }) running rest
    · exact .inl (by rw [taken]; exact running)
    · exact .inr (by rw [taken]; exact ⟨rfl, rfl⟩)

omit [Linked σ] in
theorem codec_enter (stages : List (Stage σ)) : (c.enter stages).codec = c.codec := by
  cases stages with
  | nil => rfl
  | cons stage rest =>
    rcases c.enter_cases stage rest with ⟨s, -, entered⟩ | ⟨error, s, -, entered⟩
    · rw [entered]
    · rw [entered]
      rfl

theorem codec_take (payload : Bytes) : (c.take payload).codec = c.codec := by
  cases current : c.chain with
  | nil => simp [take, current]
  | cons stage rest =>
    rcases take_cases current payload with ⟨s, -, taken⟩ | ⟨s, -, taken⟩ | ⟨_, s, -, -, taken⟩ |
      ⟨_, s, -, -, taken⟩
    · rw [taken]
    · rw [taken, codec_enter]
    · rw [taken]
    · rw [taken]
      rfl

theorem Idle.take (idle : c.Idle) (payload : Bytes) : c.take payload = c := by
  simp [Channel.take, idle.2]

theorem Idle.foldl_take (idle : c.Idle) (payloads : List Bytes) : payloads.foldl Channel.take c = c := by
  induction payloads with
  | nil => rfl
  | cons payload payloads ih => rw [List.foldl_cons, idle.take, ih]

theorem Idle.foldl_receive (idle : c.Idle) (chunks : List Bytes) : chunks.foldl receive c = c := by
  induction chunks with
  | nil => rfl
  | cons chunk chunks ih =>
    have ended : c.receive chunk = c := by simp [receive, isOver, idle.1]
    rw [List.foldl_cons, ended, ih]

omit [Linked σ] in
theorem Idle.finish (idle : c.Idle) : c.finish = c := by simp [Channel.finish, isOver, idle.1]

omit [Linked σ] in
theorem finish_of_running (running : c.intake = .running) : c.finish = c.endReading := by
  simp [Channel.finish, isOver, running]

theorem foldl_take_spec (running : c.intake = .running) (payloads : List Bytes) :
    ((payloads.foldl Channel.take c).intake = .running ∨ (payloads.foldl Channel.take c).Idle) ∧
      (payloads.foldl Channel.take c).codec = c.codec := by
  induction payloads generalizing c with
  | nil => exact ⟨.inl running, rfl⟩
  | cons payload payloads ih =>
    rw [List.foldl_cons]
    rcases running_or_idle_of_take running payload with still | idle
    · obtain ⟨outcome, codec⟩ := ih still
      exact ⟨outcome, codec.trans (codec_take payload)⟩
    · rw [idle.foldl_take]
      exact ⟨.inr idle, codec_take payload⟩

theorem foldl_take_bare (payloads : List Bytes) :
    (payloads.foldl Channel.take c).bare = payloads.foldl Channel.take c.bare := by
  induction payloads generalizing c with
  | nil => rfl
  | cons payload payloads ih => rw [List.foldl_cons, List.foldl_cons, ih, take_bare]

omit [Linked σ] in
theorem finish_bare : c.finish.bare = c.bare.finish := by
  have same : c.bare.isOver = c.isOver := rfl
  simp only [Channel.finish, same]
  split <;> rfl

theorem readFrames_bare (payloads : List Bytes) :
    (c.readFrames payloads).bare = c.bare.readFrames payloads := by
  rw [readFrames, finish_bare, foldl_take_bare, readFrames]

theorem readFrames_append (payloads more : List Bytes) :
    c.readFrames (payloads ++ more) = (payloads.foldl Channel.take c).readFrames more := by
  rw [readFrames, List.foldl_append, readFrames]

theorem Idle.readFrames (idle : c.Idle) (payloads : List Bytes) : c.readFrames payloads = c := by
  rw [Channel.readFrames, idle.foldl_take, idle.finish]

/-- A stream is read as the frames in it, wherever the chunks are cut. -/
theorem foldl_receive_finish (running : c.intake = .running) (chunks : List Bytes) :
    (chunks.foldl receive c).finish.bare =
      (c.readFrames (c.codec.feed c.buffer chunks).payloads).bare := by
  induction chunks generalizing c with
  | nil => rfl
  | cons chunk chunks ih =>
    let frames := c.codec.cutAll (c.buffer ++ chunk)
    let next := frames.payloads.foldl Channel.take c
    obtain ⟨outcome, codec⟩ := foldl_take_spec running frames.payloads
    have received : c.receive chunk =
        if next.isOver then next else if frames.failure.isSome then next.endReading
        else { next with buffer := frames.rest } := by
      simp [receive, isOver, running, frames, next]
    obtain ⟨more, fed⟩ : ∃ more, (c.codec.feed c.buffer (chunk :: chunks)).payloads =
        frames.payloads ++ more := by
      rw [FrameCodec.feed]
      split
      · exact ⟨[], (List.append_nil _).symm⟩
      · exact ⟨_, rfl⟩
    rcases outcome with still | idle
    · have open_ : next.isOver = false := by simp [isOver, next, still]
      rw [List.foldl_cons, received, open_, if_neg (by simp)]
      cases failure : frames.failure with
      | some error =>
        have ended : next.endReading.Idle := ⟨rfl, rfl⟩
        have whole : c.codec.feed c.buffer (chunk :: chunks) = frames := by
          simp only [FrameCodec.feed, failure, frames]
        rw [if_pos (by simp), ended.foldl_receive, ended.finish, whole, readFrames,
          finish_of_running still]
      | none =>
        have whole : (c.codec.feed c.buffer (chunk :: chunks)).payloads =
            frames.payloads ++ (next.codec.feed frames.rest chunks).payloads := by
          rw [show next.codec = c.codec from codec]
          simp only [FrameCodec.feed, failure, frames]
        have later := ih (c := { next with buffer := frames.rest }) still
        rw [if_neg (by simp), later, whole, readFrames_append, readFrames_bare, readFrames_bare]
        rfl
    · have ended : next.isOver = true := by simp [isOver, next, idle.1]
      rw [List.foldl_cons, received, if_pos ended, idle.foldl_receive, idle.finish, fed,
        readFrames_append, idle.readFrames]

omit [Linked σ] in
theorem start_spec (codec : FrameCodec) (stages : List (Stage σ)) (state : σ) :
    ((start codec stages state).intake = .running ∨ (start codec stages state).Idle) ∧
      (start codec stages state).codec = codec ∧ (start codec stages state).buffer = [] := by
  refine ⟨running_or_idle_of_enter rfl stages, codec_enter stages, ?_⟩
  exact congrArg buffer (enter_bare (c := { codec, stages, state }) stages).symm

theorem readStream_bare (codec : FrameCodec) (stages : List (Stage σ)) (state : σ)
    (chunks : List Bytes) :
    (readStream codec stages state chunks).bare =
      ((start codec stages state).readFrames (codec.feed [] chunks).payloads).bare := by
  obtain ⟨running | idle, coded, empty⟩ := start_spec codec stages state
  · rw [readStream, foldl_receive_finish running, coded, empty]
  · rw [readStream, idle.foldl_receive, idle.finish, idle.readFrames]

end Frames

section Observing

theorem foldl_close_observed (place : Nat) (stages : List (Stage σ)) (o : Observed σ) :
    (Stage.observedFrom place stages).foldl (fun s stage => stage.close s) o = {
      state := stages.foldl (fun s stage => stage.close s) o.state
      calls := o.calls ++ (List.range' place stages.length).map .close } := by
  induction stages generalizing place o with
  | nil => simp [Stage.observedFrom]
  | cons stage stages ih =>
    rw [Stage.observedFrom, List.foldl_cons, ih]
    simp [Stage.observed, Observed.log, List.range'_succ]

/-- A channel with a log in its stages stands where the channel without it stands. -/
structure Shows (o : Channel (Observed σ)) (c : Channel σ) : Prop where
  stages : o.stages = Stage.observedFrom 0 c.stages
  chain : ∃ place, o.chain = Stage.observedFrom place c.chain
  intake : o.intake = c.intake
  state : o.state.state = c.state

variable {o : Channel (Observed σ)} {c : Channel σ}

theorem Shows.endReading (shows : Shows o c) : Shows o.endReading c.endReading where
  stages := shows.stages
  chain := ⟨0, rfl⟩
  intake := rfl
  state := by
    simp only [Channel.endReading, closeStages]
    rw [shows.stages, foldl_close_observed, shows.state]

theorem Shows.enter (shows : Shows o c) (place : Nat) (stages : List (Stage σ)) :
    Shows (o.enter (Stage.observedFrom place stages)) (c.enter stages) := by
  cases stages with
  | nil => exact shows.endReading
  | cons stage rest =>
    cases started : stage.init c.state with
    | ok _ s =>
      simp only [Stage.observedFrom, Channel.enter, Stage.observed, shows.state, started]
      exact ⟨shows.stages, ⟨place, rfl⟩, shows.intake, rfl⟩
    | error error s =>
      simp only [Stage.observedFrom, Channel.enter, Stage.observed, shows.state, started]
      exact Shows.endReading ⟨shows.stages, shows.chain, shows.intake, rfl⟩

variable [Linked σ]

theorem Shows.take (shows : Shows o c) (payload : Bytes) : Shows (o.take payload) (c.take payload) := by
  obtain ⟨place, chain⟩ := shows.chain
  cases current : c.chain with
  | nil => simpa [Channel.take, chain, current, Stage.observedFrom] using shows
  | cons stage rest =>
    have here : o.chain = stage.observed place :: Stage.observedFrom (place + 1) rest := by
      rw [chain, current, Stage.observedFrom]
    have counted : (o.counted payload).state = c.counted payload := by
      rw [Channel.counted, Channel.counted, ← shows.state]
      rfl
    rcases take_cases current payload with ⟨s, read, taken⟩ | ⟨s, read, taken⟩ |
      ⟨_, s, read, routing, taken⟩ | ⟨_, s, read, fatal, taken⟩ <;> rw [← counted] at read
    · rw [taken, take_more here (Stage.observed_read_ok place read)]
      exact ⟨shows.stages, shows.chain, shows.intake, rfl⟩
    · rw [taken, take_last here (Stage.observed_read_ok place read)]
      refine Shows.enter ?_ (place + 1) rest
      exact ⟨shows.stages, shows.chain, shows.intake, rfl⟩
    · rw [taken, take_misrouted here (Stage.observed_read_error place read) routing]
      exact ⟨shows.stages, shows.chain, shows.intake, rfl⟩
    · rw [taken, take_failed here (Stage.observed_read_error place read) fatal]
      exact Shows.endReading ⟨shows.stages, shows.chain, shows.intake, rfl⟩

theorem Shows.readFrames (shows : Shows o c) (payloads : List Bytes) :
    Shows (o.readFrames payloads) (c.readFrames payloads) := by
  induction payloads generalizing o c with
  | nil =>
    have same : o.isOver = c.isOver := by rw [isOver, isOver, shows.intake]
    cases ended : c.isOver with
    | true => simpa [Channel.readFrames, finish, same, ended] using shows
    | false => simpa [Channel.readFrames, finish, same, ended] using shows.endReading
  | cons payload payloads ih => exact ih (shows.take payload)

/-- With a log in its stages a channel does the same. -/
theorem observed_readStream (codec : FrameCodec) (stages : List (Stage σ)) (state : σ)
    (chunks : List Bytes) :
    let o := readStream codec (Stage.observedFrom 0 stages) { state } chunks
    let c := readStream codec stages state chunks
    o.state.state = c.state ∧ o.intake = c.intake := by
  have start : Shows (start codec (Stage.observedFrom 0 stages) { state })
      (start codec stages state) := Shows.enter ⟨rfl, ⟨0, rfl⟩, rfl, rfl⟩ 0 stages
  have shows := start.readFrames (codec.feed [] chunks).payloads
  have same := readStream_bare codec stages state chunks
  have same' := readStream_bare codec (Stage.observedFrom 0 stages) { state } chunks
  exact ⟨(congrArg (·.state.state) same').trans (shows.state.trans (congrArg (·.state) same).symm),
    (congrArg (·.intake) same').trans (shows.intake.trans (congrArg (·.intake) same).symm)⟩

end Observing

end Channel
end Datastream
