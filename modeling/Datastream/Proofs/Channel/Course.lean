import Datastream.Proofs.Channel.Observation

/-!
# The course of a reading

Which calls a channel makes of its stages, for every list of stages and every stream. A stage is
started, reads frames, and hands over with its last one, or something ends the reading (`Course`);
then every stage is closed (`Channel.reads_in_order_then_closes`).

The course is that of `read_loop` from its first frame to its last.
-/
namespace Datastream

/-- What the next call of a stage is, if there is one: the start of a stage, or the reading of a
frame by a stage. -/
inductive Due
  | start (stage : Nat)
  | read (stage : Nat)

namespace Due

def stage : Due → Nat
  | start stage | read stage => stage

def unstarted : Due → Nat
  | start stage => stage
  | read stage => stage + 1

end Due

/-- After such a result of reading a frame the same stage reads the next one. -/
def goesOn : Except Error Bool → Bool
  | .ok last => !last
  | .error error => error.isRouting

/-- The calls that are made of so many stages while these frames come in, and then the stream ends.
-/
inductive Course (count : Nat) : Due → List Bytes → List StageCall → Prop
  /-- The stages are used up. -/
  | exhausted (frames : List Bytes) : Course count (.start count) frames []
  | refused {stage : Nat} (listed : stage < count) (error : Error) (frames : List Bytes) :
      Course count (.start stage) frames [.init stage (some error)]
  | started {stage : Nat} {frames : List Bytes} {calls : List StageCall} (listed : stage < count)
      (rest : Course count (.read stage) frames calls) :
      Course count (.start stage) frames (.init stage none :: calls)
  /-- The stream ends. -/
  | ended (stage : Nat) : Course count (.read stage) [] []
  | onward {stage : Nat} {frame : Bytes} {outcome : Except Error Bool} {frames : List Bytes}
      {calls : List StageCall} (same : goesOn outcome = true)
      (rest : Course count (.read stage) frames calls) :
      Course count (.read stage) (frame :: frames) (.read stage frame outcome :: calls)
  | handover {stage : Nat} {frame : Bytes} {frames : List Bytes} {calls : List StageCall}
      (rest : Course count (.start (stage + 1)) frames calls) :
      Course count (.read stage) (frame :: frames)
        (.read stage frame (.ok true) :: .done stage :: calls)
  | broken {stage : Nat} {error : Error} (fatal : error.isRouting = false) (frame : Bytes)
      (frames : List Bytes) :
      Course count (.read stage) (frame :: frames) [.read stage frame (.error error)]

namespace StageCall

def stage : StageCall → Nat
  | init stage _ | read stage _ _ | done stage | close stage => stage

def frame? : StageCall → Option Bytes
  | read _ frame _ => some frame
  | _ => none

def starts? : StageCall → Option Nat
  | init stage _ => some stage
  | _ => none

def last? : StageCall → Option Nat
  | read stage _ (.ok true) => some stage
  | _ => none

def done? : StageCall → Option Nat
  | done stage => some stage
  | _ => none

/-- Whether a message was dropped because it could not be routed. -/
def isMisrouted : StageCall → Bool
  | read _ _ (.error error) => error.isRouting
  | _ => false

end StageCall

namespace Course

variable {count : Nat} {due : Due} {frames : List Bytes} {calls : List StageCall}

/-- Every frame goes to one stage, in the order in which the frames came. -/
theorem frames_prefix (course : Course count due frames calls) :
    calls.filterMap StageCall.frame? <+: frames := by
  induction course with
  | exhausted => exact List.nil_prefix
  | refused => exact List.nil_prefix
  | started _ _ ih => exact ih
  | ended => exact List.nil_prefix
  | onward _ _ ih => exact List.cons_prefix_cons.mpr ⟨rfl, ih⟩
  | handover _ ih => exact List.cons_prefix_cons.mpr ⟨rfl, ih⟩
  | broken => exact List.cons_prefix_cons.mpr ⟨rfl, List.nil_prefix⟩

/-- No stage is called again after a later one was. -/
theorem sorted (course : Course count due frames calls) :
    (calls.map StageCall.stage).Pairwise (· ≤ ·) ∧ ∀ call ∈ calls, due.stage ≤ call.stage := by
  induction course with
  | exhausted => simp
  | refused => simp [StageCall.stage, Due.stage]
  | started _ _ ih => simpa [StageCall.stage, Due.stage] using ⟨⟨ih.2, ih.1⟩, ih.2⟩
  | ended => simp
  | onward _ _ ih => simpa [StageCall.stage, Due.stage] using ⟨⟨ih.2, ih.1⟩, ih.2⟩
  | handover _ ih =>
    have above := fun call member => Nat.le_of_succ_le (ih.2 call member)
    simpa [StageCall.stage, Due.stage] using ⟨⟨above, ih.1⟩, above⟩
  | broken => simp [StageCall.stage, Due.stage]

/-- The stages are started one after the other, each once. -/
theorem starts_eq_range (course : Course count due frames calls) :
    ∃ n, calls.filterMap StageCall.starts? = List.range' due.unstarted n := by
  induction course with
  | exhausted => exact ⟨0, rfl⟩
  | refused => exact ⟨1, rfl⟩
  | started _ _ ih =>
    obtain ⟨n, ih⟩ := ih
    exact ⟨n + 1, congrArg (_ :: ·) ih⟩
  | ended => exact ⟨0, rfl⟩
  | onward _ _ ih => exact ih
  | handover _ ih => exact ih
  | broken => exact ⟨0, rfl⟩

/-- A stage that has read its last frame is told so, once, before the next one is told. -/
theorem dones_eq_range (course : Course count due frames calls) :
    calls.filterMap StageCall.done? = calls.filterMap StageCall.last? ∧
      ∃ n, calls.filterMap StageCall.done? = List.range' due.stage n := by
  induction course with
  | exhausted => exact ⟨rfl, 0, rfl⟩
  | refused => exact ⟨rfl, 0, rfl⟩
  | started _ _ ih => exact ih
  | ended => exact ⟨rfl, 0, rfl⟩
  | @onward _ _ outcome _ _ same _ ih =>
    cases outcome with
    | error error => exact ih
    | ok last =>
      cases last with
      | false => exact ih
      | true => cases same
  | @handover stage _ _ _ _ ih =>
    obtain ⟨same, n, dones⟩ := ih
    exact ⟨congrArg (stage :: ·) same, n + 1, congrArg (stage :: ·) dones⟩
  | broken => exact ⟨rfl, 0, rfl⟩

end Course

namespace Channel

variable {σ : Type}

/-- The calls that tell so many stages that the connection is gone. -/
def closings (count : Nat) : List StageCall := (List.range count).map .close

variable {c : Channel (Observed σ)} {all : List (Stage σ)}

theorem calls_endReading (listed : c.stages = Stage.observedFrom 0 all) :
    c.endReading.state.calls = c.state.calls ++ closings all.length := by
  simp only [endReading, closeStages]
  rw [listed, foldl_close_observed, closings, List.range_eq_range']

variable [Linked σ]

/-- While these frames come in and then the stream ends, a channel makes calls after those made
before: this course, and then every stage is closed. -/
def Follows (before : List StageCall) (c : Channel (Observed σ)) (count : Nat) (due : Due)
    (frames : List Bytes) : Prop :=
  (c.readFrames frames).intake = .ended ∧ ∃ calls, Course count due frames calls ∧
    (c.readFrames frames).state.calls = before ++ (calls ++ closings count)

theorem follows_of_endReading {c : Channel (Observed σ)} {before calls : List StageCall} {due : Due}
    {frames : List Bytes} (listed : c.stages = Stage.observedFrom 0 all)
    (made : c.state.calls = before ++ calls) (course : Course all.length due frames calls) :
    Follows before c.endReading all.length due frames := by
  have idle : c.endReading.Idle := ⟨rfl, rfl⟩
  refine ⟨by rw [idle.readFrames, idle.1], calls, course, ?_⟩
  rw [idle.readFrames, calls_endReading listed, made, List.append_assoc]

/-- A channel is reading, and these stages are left, the first of which is the current one. -/
structure Reading (c : Channel (Observed σ)) (all : List (Stage σ)) (place : Nat)
    (stages : List (Stage σ)) : Prop where
  listed : c.stages = Stage.observedFrom 0 all
  running : c.intake = .running
  current : c.chain = Stage.observedFrom place stages
  behind : place + stages.length = all.length

theorem follows_enter (listed : c.stages = Stage.observedFrom 0 all)
    (running : c.intake = .running) {place : Nat} {stages : List (Stage σ)}
    (behind : place + stages.length = all.length) {frames : List Bytes}
    (reads : ∀ {c : Channel (Observed σ)} {stage : Stage σ} {rest : List (Stage σ)},
      Reading c all place (stage :: rest) →
        Follows c.state.calls c all.length (.read place) frames) :
    Follows c.state.calls (c.enter (Stage.observedFrom place stages)) all.length (.start place)
      frames := by
  cases stages with
  | nil =>
    obtain rfl : place = all.length := behind
    exact follows_of_endReading listed (List.append_nil _).symm (.exhausted frames)
  | cons stage rest =>
    have inList : place < all.length := by
      rw [← behind, List.length_cons]
      omega
    cases started : stage.init c.state.state with
    | ok _ s =>
      obtain ⟨ended, calls, course, made⟩ := reads (c := { c with
        chain := Stage.observedFrom place (stage :: rest)
        state := c.state.log s (.init place none) }) ⟨listed, running, rfl, behind⟩
      rw [Stage.observedFrom, enter, Stage.observed_init_ok place started]
      refine ⟨ended, .init place none :: calls, .started inList course, made.trans ?_⟩
      simp [Observed.log]
    | error error s =>
      rw [Stage.observedFrom, enter, Stage.observed_init_error place started]
      exact follows_of_endReading listed rfl (.refused inList error frames)

theorem calls_counted (frame : Bytes) : (c.counted frame).calls = c.state.calls := rfl

theorem follows_read {place : Nat} {stage : Stage σ} {rest : List (Stage σ)}
    (reading : Reading c all place (stage :: rest)) (frames : List Bytes) :
    Follows c.state.calls c all.length (.read place) frames := by
  induction frames generalizing c place stage rest with
  | nil =>
    have ended : c.readFrames [] = c.endReading.readFrames [] := by
      rw [readFrames, List.foldl_nil, finish_of_running reading.running]
      rfl
    have follows := follows_of_endReading reading.listed (List.append_nil _).symm (.ended place)
    rwa [Follows, ended]
  | cons frame frames ih =>
    obtain ⟨listed, running, current, behind⟩ := reading
    rw [Stage.observedFrom] at current
    have next : c.readFrames (frame :: frames) = (c.take frame).readFrames frames := rfl
    rw [Follows, next]
    cases read : stage.read frame (c.counted frame).state with
    | ok last s =>
      have observed := Stage.observed_read_ok place read
      cases last with
      | false =>
        rw [take_more current observed]
        obtain ⟨ended, calls, course, made⟩ := ih (c := { c with
          state := (c.counted frame).log s (.read place frame (.ok false)) })
          ⟨listed, running, current, behind⟩
        exact ⟨ended, .read place frame (.ok false) :: calls, .onward rfl course,
          made.trans (by simp [Observed.log, calls_counted])⟩
      | true =>
        rw [take_last current observed]
        have left : place + 1 + rest.length = all.length := by
          rw [← behind, List.length_cons]
          omega
        obtain ⟨ended, calls, course, made⟩ :=
          follows_enter (c := { c with
            state := (stage.observed place).done
              ((c.counted frame).log s (.read place frame (.ok true))) }) listed running left ih
        exact ⟨ended, .read place frame (.ok true) :: .done place :: calls, .handover course,
          made.trans (by simp [Stage.observed, Observed.log, calls_counted])⟩
    | error error s =>
      have observed := Stage.observed_read_error place read
      cases routing : error.isRouting with
      | true =>
        rw [take_misrouted current observed routing]
        obtain ⟨ended, calls, course, made⟩ := ih (c := { c with
          state := Linked.count Metrics.routingError
            ((c.counted frame).log s (.read place frame (.error error))) })
          ⟨listed, running, current, behind⟩
        exact ⟨ended, .read place frame (.error error) :: calls, .onward routing course,
          made.trans (by simp [Linked.count, Linked.withLink, Observed.log, calls_counted])⟩
      | false =>
        rw [take_failed current observed routing]
        exact follows_of_endReading (c := { c with
          state := (c.counted frame).log s (.read place frame (.error error)) }) listed rfl
          (.broken routing frame frames)

end Channel
end Datastream
