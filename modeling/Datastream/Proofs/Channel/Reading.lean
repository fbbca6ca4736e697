import Datastream.Proofs.Action
import Datastream.Proofs.Channel.Course

/-!
# Reading a stream

A channel takes frames in order, hands each to one stage, and closes every stage at the end
(`Channel.reads_in_order_then_closes`). If the stages leave the counters of incoming frames alone,
these tell the frames that were taken, their total length and the messages that were dropped
(`Channel.accounted_readFrames`).
-/
namespace Datastream

variable {σ : Type}

/-- The counters that a channel keeps while it reads. -/
structure Incoming where
  frames : UInt64
  bytes : UInt64
  misrouted : UInt64

def Incoming.after (i : Incoming) (calls : List StageCall) : Incoming :=
  let frames := calls.filterMap StageCall.frame?
  { frames := i.frames + UInt64.ofNat frames.length
    bytes := i.bytes + UInt64.ofNat frames.flatten.length
    misrouted := i.misrouted + UInt64.ofNat (calls.countP StageCall.isMisrouted) }

theorem Incoming.after_append (i : Incoming) (calls more : List StageCall) :
    i.after (calls ++ more) = (i.after calls).after more := by
  simp [after, UInt64.ofNat_add, UInt64.add_assoc]

section Counters

variable [Linked σ]

/-- The counters of incoming frames in a state. -/
def incoming (s : σ) : Incoming :=
  let m := (Linked.link s).metrics
  ⟨m.framesReceived, m.bytesReceived, m.routingErrors⟩

/-- Putting a link into a state and looking at it gives that link. -/
def LinkInPlace (σ : Type) [Linked σ] : Prop :=
  ∀ (link : Link) (s : σ), Linked.link (Linked.withLink link s) = link

/-- A stage that does not touch the counters of incoming frames. -/
structure Stage.LeavesCounters (stage : Stage σ) : Prop where
  init : ∀ s, incoming (endState (stage.init s)) = incoming s
  read : ∀ payload s, incoming (endState (stage.read payload s)) = incoming s
  done : ∀ s, incoming (stage.done s) = incoming s
  close : ∀ s, incoming (stage.close s) = incoming s

/-- The counters tell what the calls made so far have read. -/
def Accounted (start : Incoming) (o : Observed σ) : Prop := incoming o.state = start.after o.calls

variable {start : Incoming} {o : Observed σ}

theorem accounted_log (accounted : Accounted start o) {s : σ} {call : StageCall}
    (counted : incoming s = (incoming o.state).after [call]) : Accounted start (o.log s call) := by
  rw [Accounted, Observed.log, Incoming.after_append, ← accounted]
  exact counted

theorem after_silent (i : Incoming) {call : StageCall} (silent : call.frame? = none)
    (routed : call.isMisrouted = false) : i.after [call] = i := by
  simp [Incoming.after, silent, routed]

theorem after_read (i : Incoming) (place : Nat) (payload : Bytes) (outcome : Except Error Bool) :
    i.after [.read place payload outcome] = {
      frames := i.frames + 1
      bytes := i.bytes + UInt64.ofNat payload.length
      misrouted := i.misrouted +
        if (StageCall.read place payload outcome).isMisrouted then 1 else 0 } := by
  cases misrouted : (StageCall.read place payload outcome).isMisrouted <;>
    simp [Incoming.after, StageCall.frame?, misrouted]

theorem incoming_frameReceived (inPlace : LinkInPlace σ) (s : σ) (payload : Bytes) :
    incoming (Linked.count (·.frameReceived (UInt64.ofNat payload.length)) s) =
      { incoming s with
        frames := (incoming s).frames + 1
        bytes := (incoming s).bytes + UInt64.ofNat payload.length } := by
  simp [incoming, Linked.count, inPlace _ s, Link.count, Metrics.frameReceived]

theorem incoming_routingError (inPlace : LinkInPlace σ) (s : σ) :
    incoming (Linked.count Metrics.routingError s) =
      { incoming s with misrouted := (incoming s).misrouted + 1 } := by
  simp [incoming, Linked.count, inPlace _ s, Link.count, Metrics.routingError]

/-- A frame that was taken and not dropped is counted once. -/
theorem accounted_read (inPlace : LinkInPlace σ) {start : Incoming} {o : Observed σ}
    (accounted : Accounted start o) {s : σ} {payload : Bytes}
    (same : incoming s =
      incoming (Linked.count (·.frameReceived (UInt64.ofNat payload.length)) o.state))
    (place : Nat) {outcome : Except Error Bool}
    (taken : (StageCall.read place payload outcome).isMisrouted = false) :
    Accounted start (o.log s (.read place payload outcome)) := by
  refine accounted_log accounted ?_
  rw [same, incoming_frameReceived inPlace, after_read, taken]
  simp

end Counters

namespace Channel

variable [Linked σ] {start : Incoming} {c : Channel (Observed σ)} {all : List (Stage σ)}

theorem accounted_closeStages (place : Nat) {stages : List (Stage σ)}
    (leave : ∀ stage ∈ stages, stage.LeavesCounters) {o : Observed σ}
    (accounted : Accounted start o) :
    Accounted start ((Stage.observedFrom place stages).foldl (fun s stage => stage.close s) o) := by
  induction stages generalizing place o with
  | nil => exact accounted
  | cons stage stages ih =>
    refine ih (place + 1) (fun stage member => leave stage (List.mem_cons_of_mem _ member)) ?_
    refine accounted_log accounted ?_
    rw [after_silent _ rfl rfl]
    exact (leave stage List.mem_cons_self).close o.state

/-- The counters are right, and no stage that can still be called touches them. -/
structure InAccount (start : Incoming) (all : List (Stage σ)) (c : Channel (Observed σ)) : Prop where
  accounted : Accounted start c.state
  listed : c.stages = Stage.observedFrom 0 all
  current : ∃ place stages, c.chain = Stage.observedFrom place stages ∧
    ∀ stage ∈ stages, stage.LeavesCounters

variable (leave : ∀ stage ∈ all, stage.LeavesCounters)

include leave in
theorem inAccount_endReading (accounted : Accounted start c.state)
    (listed : c.stages = Stage.observedFrom 0 all) : InAccount start all c.endReading where
  accounted := by
    simp only [endReading, closeStages]
    rw [listed]
    exact accounted_closeStages 0 leave accounted
  listed := listed
  current := ⟨0, [], rfl, fun _ member => nomatch member⟩

include leave in
theorem inAccount_enter (accounted : Accounted start c.state)
    (listed : c.stages = Stage.observedFrom 0 all) (place : Nat) {stages : List (Stage σ)}
    (leave' : ∀ stage ∈ stages, stage.LeavesCounters) :
    InAccount start all (c.enter (Stage.observedFrom place stages)) := by
  cases stages with
  | nil => exact inAccount_endReading leave accounted listed
  | cons stage rest =>
    have same := (leave' stage List.mem_cons_self).init c.state.state
    cases started : stage.init c.state.state with
    | ok _ s =>
      rw [started] at same
      rw [Stage.observedFrom, enter, Stage.observed_init_ok place started]
      refine ⟨accounted_log accounted ?_, listed, place, stage :: rest, rfl, leave'⟩
      rwa [after_silent _ rfl rfl]
    | error error s =>
      rw [started] at same
      rw [Stage.observedFrom, enter, Stage.observed_init_error place started]
      refine inAccount_endReading (c := { c with state := _ }) leave (accounted_log accounted ?_) listed
      rwa [after_silent _ rfl rfl]

include leave in
theorem inAccount_take (inPlace : LinkInPlace σ) (books : InAccount start all c) (payload : Bytes) :
    InAccount start all (c.take payload) := by
  obtain ⟨accounted, listed, place, stages, chain, leave'⟩ := books
  cases stages with
  | nil => simpa [take, chain, Stage.observedFrom] using ⟨accounted, listed, 0, [], chain, leave'⟩
  | cons stage rest =>
    rw [Stage.observedFrom] at chain
    have counted := incoming_frameReceived inPlace c.state.state payload
    have same := (leave' stage List.mem_cons_self).read payload (c.counted payload).state
    cases read : stage.read payload (c.counted payload).state with
    | ok last s =>
      rw [read] at same
      have observed : (stage.observed place).read payload (c.counted payload) =
          .ok last (c.state.log s (.read place payload (.ok last))) :=
        Stage.observed_read_ok place read
      have logged : Accounted start (c.state.log s (.read place payload (.ok last))) :=
        accounted_read inPlace accounted same place rfl
      cases last with
      | false =>
        rw [take_more chain observed]
        exact ⟨logged, listed, place, stage :: rest, chain, leave'⟩
      | true =>
        have told : Accounted start ((c.state.log s (.read place payload (.ok true))).log
            (stage.done s) (.done place)) := by
          refine accounted_log logged ?_
          rw [after_silent _ rfl rfl]
          exact (leave' stage List.mem_cons_self).done s
        rw [take_last chain observed]
        exact inAccount_enter (c := { c with
          state := (stage.observed place).done (c.state.log s (.read place payload (.ok true))) })
          leave told listed (place + 1)
          fun stage member => leave' stage (List.mem_cons_of_mem _ member)
    | error error s =>
      rw [read] at same
      have observed : (stage.observed place).read payload (c.counted payload) =
          .error error (c.state.log s (.read place payload (.error error))) :=
        Stage.observed_read_error place read
      cases routing : error.isRouting with
      | true =>
        have dropped : Accounted start
            (c.state.log (Linked.count Metrics.routingError s) (.read place payload (.error error))) := by
          refine accounted_log accounted ?_
          rw [incoming_routingError inPlace, show incoming s = _ from same.trans counted, after_read]
          simp [StageCall.isMisrouted, routing]
        rw [take_misrouted chain observed routing]
        exact ⟨dropped, listed, place, stage :: rest, chain, leave'⟩
      | false =>
        have logged : Accounted start (c.state.log s (.read place payload (.error error))) :=
          accounted_read inPlace accounted same place routing
        rw [take_failed chain observed routing]
        exact inAccount_endReading (c := { c with
          state := c.state.log s (.read place payload (.error error)) }) leave logged listed

include leave in
/-- The counters tell what was read, at the end as well. -/
theorem accounted_readFrames (inPlace : LinkInPlace σ) (books : InAccount start all c)
    (frames : List Bytes) : Accounted start (c.readFrames frames).state := by
  induction frames generalizing c with
  | nil =>
    rw [readFrames, List.foldl_nil, finish]
    split
    · exact books.accounted
    · exact (inAccount_endReading leave books.accounted books.listed).accounted
  | cons frame frames ih => exact ih (inAccount_take leave inPlace books frame)

omit [Linked σ] in
theorem after_closings (i : Incoming) (count : Nat) : i.after (closings count) = i := by
  have frames : (closings count).filterMap StageCall.frame? = [] := by
    simp [closings, List.filterMap_eq_nil_iff, StageCall.frame?]
  have misrouted : (closings count).countP StageCall.isMisrouted = 0 := by
    simp [closings, List.countP_eq_zero, StageCall.isMisrouted]
  simp [Incoming.after, frames, misrouted]

/-- What a channel has counted of a stream is what its stages were given of it. -/
theorem incoming_readStream (inPlace : LinkInPlace σ) {stages : List (Stage σ)}
    (leave : ∀ stage ∈ stages, stage.LeavesCounters) (codec : FrameCodec) (state : σ)
    (chunks : List Bytes) :
    incoming (readStream codec stages state chunks).state =
      (incoming state).after
        (readStream codec (Stage.observedFrom 0 stages) { state } chunks).state.calls := by
  have begun : Accounted (incoming state) ({ state } : Observed σ) := by
    simp [Accounted, Incoming.after]
  have books : InAccount (incoming state) stages
      (start codec (Stage.observedFrom 0 stages) { state }) :=
    inAccount_enter (c := { codec, stages := Stage.observedFrom 0 stages, state := { state } })
      leave begun rfl 0 leave
  have accounted := accounted_readFrames leave inPlace books (codec.feed [] chunks).payloads
  have sameState : (readStream codec (Stage.observedFrom 0 stages) { state } chunks).state =
      ((start codec (Stage.observedFrom 0 stages) { state }).readFrames
        (codec.feed [] chunks).payloads).state :=
    congrArg (·.state) (readStream_bare codec (Stage.observedFrom 0 stages) { state } chunks)
  rw [← sameState, Accounted] at accounted
  rwa [(observed_readStream codec stages state chunks).1] at accounted

/-- A channel that reads a stream, cut into chunks anywhere, to its end or its failure: each frame
that is taken goes to one stage, in the order in which the frames came; the stages are started one
after the other, each once before it reads; a stage reads until it has its last frame, is told so
once, and is not called again; a message that cannot be routed is dropped; any other error, a
stage that does not start, or the end of the stages stops the reading; and then every stage is
closed, once each, whether it was started or not. The counters tell the frames that were taken,
their total length, and the dropped messages. -/
theorem reads_in_order_then_closes (codec : FrameCodec) (stages : List (Stage σ)) (state : σ)
    (chunks : List Bytes) :
    let c := readStream codec stages state chunks
    let o := readStream codec (Stage.observedFrom 0 stages) { state } chunks
    let frames := (codec.feed [] chunks).payloads
    c.isClosed = true ∧ o.state.state = c.state ∧
      ∃ calls, o.state.calls = calls ++ closings stages.length ∧
        Course stages.length (.start 0) frames calls ∧
        calls.filterMap StageCall.frame? <+: frames ∧
        (calls.map StageCall.stage).Pairwise (· ≤ ·) ∧
        (∃ n, calls.filterMap StageCall.starts? = List.range n) ∧
        (∃ n, calls.filterMap StageCall.done? = List.range n) ∧
        calls.filterMap StageCall.done? = calls.filterMap StageCall.last? ∧
        (LinkInPlace σ → (∀ stage ∈ stages, stage.LeavesCounters) →
          incoming c.state = (incoming state).after calls) := by
  intro c o frames
  let first : Channel (Observed σ) := start codec (Stage.observedFrom 0 stages) { state }
  have bare : o.bare = (first.readFrames frames).bare :=
    readStream_bare codec (Stage.observedFrom 0 stages) { state } chunks
  have sameState : o.state = (first.readFrames frames).state := congrArg (·.state) bare
  obtain ⟨unchanged, intake⟩ := observed_readStream codec stages state chunks
  have follows : Follows [] first stages.length (.start 0) frames :=
    follows_enter (c := { codec, stages := Stage.observedFrom 0 stages, state := { state } })
      rfl rfl (Nat.zero_add _) fun reading => follows_read reading frames
  obtain ⟨stops, calls, course, made⟩ := follows
  rw [← sameState, List.nil_append] at made
  have ended : c.intake = .ended := by
    rw [show c.intake = o.intake from intake.symm]
    exact (congrArg (·.intake) bare).trans stops
  obtain ⟨n, starts⟩ := course.starts_eq_range
  obtain ⟨dones, n', told⟩ := course.dones_eq_range
  refine ⟨by simp [isClosed, ended], unchanged, calls, made, course, course.frames_prefix,
    course.sorted.1, ⟨n, by rw [starts, List.range_eq_range']; rfl⟩,
    ⟨n', by rw [told, List.range_eq_range']; rfl⟩, dones, fun inPlace leave => ?_⟩
  have counted := incoming_readStream inPlace leave codec state chunks
  rwa [made, Incoming.after_append, after_closings] at counted

end Channel

/-- A link alone is a state of which a link is a part. -/
instance : Linked Link where
  link l := l
  withLink link _ := link

/-- A stage that reads one frame and answers it, if the link takes the answer. -/
def Stage.echo : Stage Link where
  read payload := do
    Link.emit payload
    return true

theorem Stage.leavesCounters_echo : echo.LeavesCounters where
  init _ := rfl
  read payload l := by
    cases closed : l.closed <;>
      simp [echo, bind, EStateM.bind, Link.emit, closed, endState, pure, EStateM.pure, incoming,
        Linked.link, Metrics.frameSent]
  done _ := rfl
  close _ := rfl

namespace Channel

/-- Two stages, each of which reads one frame, read a stream that arrives in three chunks. -/
theorem echoes_read_then_close :
    ∃ calls,
      (readStream ⟨16⟩ (Stage.observedFrom 0 [.echo, .echo]) { state := ({} : Link) }
          [[0, 0, 0, 1, 7, 0, 0], [0, 1, 8, 0, 0, 0], [1, 9]]).state.calls =
        calls ++ [.close 0, .close 1] ∧
      incoming (readStream ⟨16⟩ [.echo, .echo] ({} : Link)
          [[0, 0, 0, 1, 7, 0, 0], [0, 1, 8, 0, 0, 0], [1, 9]]).state =
        (incoming ({} : Link)).after calls := by
  obtain ⟨-, -, calls, made, -, -, -, -, -, -, counted⟩ := reads_in_order_then_closes ⟨16⟩
    [.echo, .echo] ({} : Link) [[0, 0, 0, 1, 7, 0, 0], [0, 1, 8, 0, 0, 0], [1, 9]]
  refine ⟨calls, made, counted (fun _ _ => rfl) fun stage member => ?_⟩
  obtain rfl : stage = .echo := by simpa using member
  exact Stage.leavesCounters_echo

end Channel
end Datastream
