import Datastream.Proofs.Channel.Mirror
import Mathlib.Data.List.Nodup

/-!
# How a channel ends

A channel ends in one of two ways: its reading ends by itself, with the stream, with an error or with the
last stage, or the program breaks it off. Either way it stays over, and every stage has been told. But the
two ways leave different things behind (`Ending.over_by_either_way`): only the first shows in
`Channel.isClosed`, and only the second ends the writing. Over a channel that has ended by itself payloads
are accepted until a write fails.

The first way is the end of `read_loop`, the second is the channel's `close`.
-/
namespace Datastream

variable {σ : Type}

def StageCall.closed? : StageCall → Option Nat
  | .close stage => some stage
  | .init .. | .read .. | .done _ => none

/-- How often a stage has been told that the connection is gone. -/
def told (o : Observed σ) (stage : Nat) : Nat := (o.calls.filterMap StageCall.closed?).count stage

theorem told_log (o : Observed σ) (s : σ) {call : StageCall} (other : call.closed? = none) :
    told (o.log s call) = told o := by
  funext stage
  simp [told, Observed.log, other]

section Linked

variable [Linked σ]

/-- Whether payloads are refused, as nobody takes them out any more. -/
def refuses (s : σ) : Bool := (Linked.link s).closed

/-- A stage that neither ends the writing nor takes it up again. -/
structure Stage.LeavesWriting (stage : Stage σ) : Prop where
  init : ∀ s, refuses (endState (stage.init s)) = refuses s
  read : ∀ payload s, refuses (endState (stage.read payload s)) = refuses s
  done : ∀ s, refuses (stage.done s) = refuses s
  close : ∀ s, refuses (stage.close s) = refuses s

theorem refuses_count (inPlace : LinkInPlace σ) (f : Metrics → Metrics) (s : σ) :
    refuses (Linked.count f s) = refuses s := by
  simp [refuses, Linked.count, inPlace _ s, Link.count]

end Linked

theorem Stage.leavesWriting_echo : echo.LeavesWriting where
  init _ := rfl
  read payload l := by
    cases closed : l.closed <;>
      simp [echo, bind, EStateM.bind, Link.emit, closed, endState, pure, EStateM.pure, refuses,
        Linked.link]
  done _ := rfl
  close _ := rfl

namespace Ending

variable [Linked σ]

inductive Move (σ : Type) [Linked σ]
  | receive (chunk : Bytes)
  /-- The stream ends, or fails. -/
  | finish
  | emit (payload : Bytes)
  | flush (connected : Bool)
  /-- The program breaks the connection off. -/
  | close
  /-- Anything else that happens to the state. -/
  | aside (other : Aside (refuses : σ → Bool))

namespace Move

def isClose : Move σ → Bool
  | close => true
  | _ => false

def observed : Move σ → Move (Observed σ)
  | receive chunk => receive chunk
  | finish => finish
  | emit payload => emit payload
  | flush connected => flush connected
  | close => close
  | aside other => aside ⟨fun o => { o with state := other.act o.state }, fun o => other.same o.state⟩

theorem isClose_observed (m : Move σ) : m.observed.isClose = m.isClose := by cases m <;> rfl

end Move

def step (c : Channel σ) : Move σ → Channel σ
  | .receive chunk => c.receive chunk
  | .finish => c.finish
  | .emit payload => (c.emit payload).2
  | .flush connected => (c.flush connected).2
  | .close => c.close
  | .aside other => { c with state := other.act c.state }

def run (c : Channel σ) (moves : List (Move σ)) : Channel σ := moves.foldl step c

/-- Whether the program breaks the channel off before its reading has ended. -/
def brokenOff (c : Channel σ) : List (Move σ) → Bool
  | [] => false
  | m :: moves => m.isClose && !c.isOver || brokenOff (step c m) moves

/-- Whether a move ends the writing: the program breaks the connection off, or something cannot be
written, because the other end is gone or because it is too large. -/
def severs (c : Channel σ) : Move σ → Bool
  | .close => true
  | .flush false => !c.sending.outbox.isEmpty
  | .flush true => !c.sending.outbox.all c.codec.fits
  | _ => false

/-- Whether some move ends the writing. -/
def severed (c : Channel σ) : List (Move σ) → Bool
  | [] => false
  | m :: moves => severs c m || severed (step c m) moves

theorem mirrors_step {o : Channel (Observed σ)} {c : Channel σ} (mirrors : o.Mirrors c) (m : Move σ) :
    (step o m.observed).Mirrors (step c m) := by
  cases m with
  | receive chunk => exact mirrors.receive chunk
  | finish => exact mirrors.finish
  | emit payload => exact mirrors.emit payload
  | flush connected => exact mirrors.flush connected
  | close => exact mirrors.close
  | aside other =>
    refine ⟨⟨mirrors.stages, mirrors.chain, mirrors.intake, ?_⟩, mirrors.codec, mirrors.buffer⟩
    exact congrArg other.act mirrors.state

theorem severs_observed {o : Channel (Observed σ)} {c : Channel σ} (mirrors : o.Mirrors c)
    (m : Move σ) : severs o m.observed = severs c m := by
  cases m with
  | flush connected =>
    cases connected <;> simp [severs, Move.observed, Channel.sending, mirrors.link, mirrors.codec]
  | receive | finish | emit | close | aside => rfl

/-- With a log in its stages a channel does the same, whatever happens to it. -/
theorem mirrors_run {o : Channel (Observed σ)} {c : Channel σ} (mirrors : o.Mirrors c)
    (moves : List (Move σ)) :
    (run o (moves.map Move.observed)).Mirrors (run c moves) ∧
      brokenOff o (moves.map Move.observed) = brokenOff c moves ∧
      severed o (moves.map Move.observed) = severed c moves := by
  induction moves generalizing o c with
  | nil => exact ⟨mirrors, rfl, rfl⟩
  | cons m moves ih =>
    obtain ⟨last, broken, cut⟩ := ih (mirrors_step mirrors m)
    refine ⟨last, ?_, ?_⟩
    · simp only [List.map_cons, brokenOff, broken, m.isClose_observed, mirrors.isOver]
    · simp only [List.map_cons, severed, cut, severs_observed mirrors]

variable {all : List (Stage σ)} {c c' c'' : Channel (Observed σ)}

/-- The stages note their calls, and none of them touches the writing. -/
structure Wired (all : List (Stage σ)) (c : Channel (Observed σ)) : Prop where
  listed : c.stages = Stage.observedFrom 0 all
  current : ∃ place stages, c.chain = Stage.observedFrom place stages ∧
    ∀ stage ∈ stages, stage.LeavesWriting

/-- A channel becomes another, while the program closes it so many times. It is broken off only by the
program; every stage is told at each closing, and when the reading ends by itself; and payloads are refused
once the writing has ended. -/
structure Becomes (all : List (Stage σ)) (c : Channel (Observed σ)) (severed : Bool) (closings : Nat)
    (broken : Bool) (c' : Channel (Observed σ)) : Prop where
  wired : Wired all c'
  writing : refuses c'.state = (refuses c.state || severed)
  told : ∀ stage < all.length,
    told c'.state stage + c.isClosed.toNat = told c.state stage + c'.isClosed.toNat + closings
  broken : c'.intake = .aborted ↔ c.intake = .aborted ∨ broken = true

abbrev Reads (all : List (Stage σ)) (c c' : Channel (Observed σ)) : Prop :=
  Becomes all c false 0 false c'

theorem Becomes.trans {cut cut' : Bool} {closings closings' : Nat} {broken broken' : Bool}
    (first : Becomes all c cut closings broken c')
    (second : Becomes all c' cut' closings' broken' c'') :
    Becomes all c (cut || cut') (closings + closings') (broken || broken') c'' := by
  constructor
  case wired => exact second.wired
  case writing => rw [second.writing, first.writing, Bool.or_assoc]
  case told =>
    intro stage inList
    have before := first.told stage inList
    have after := second.told stage inList
    omega
  case broken => rw [second.broken, first.broken, Bool.or_eq_true, or_assoc]

theorem Reads.trans (first : Reads all c c') (second : Reads all c' c'') : Reads all c c'' :=
  Becomes.trans first second

/-- Nothing changes but the link and what the state holds besides. -/
theorem becomes_of_same {severed : Bool} (wired : Wired all c') (intake : c'.intake = c.intake)
    (writing : refuses c'.state = (refuses c.state || severed))
    (same : Datastream.told c'.state = Datastream.told c.state) : Becomes all c severed 0 false c' := by
  constructor
  case wired => exact wired
  case writing => exact writing
  case told =>
    intro stage _
    rw [same, Channel.isClosed, Channel.isClosed, intake]
    rfl
  case broken => simp [intake]

theorem reads_of_same (wired : Wired all c') (intake : c'.intake = c.intake)
    (writing : refuses c'.state = refuses c.state)
    (same : Datastream.told c'.state = Datastream.told c.state) : Reads all c c' :=
  becomes_of_same wired intake (writing.trans (Bool.or_false _).symm) same

theorem Reads.refl (wired : Wired all c) : Reads all c c := reads_of_same wired rfl rfl rfl

omit [Linked σ] in
/-- Every stage is told once more. -/
theorem told_closings (o : Observed σ) (s : σ) {stage count : Nat} (listed : stage < count) :
    told ({ state := s, calls := o.calls ++ Channel.closings count } : Observed σ) stage =
      told o stage + 1 := by
  have names : (Channel.closings count).filterMap StageCall.closed? = List.range count := by
    rw [Channel.closings, List.filterMap_map]
    exact List.filterMap_some
  have once : (List.range count).count stage = 1 :=
    List.count_eq_one_of_mem List.nodup_range (List.mem_range.mpr listed)
  rw [told, List.filterMap_append, names, List.count_append, once]
  rfl

theorem foldl_close_refuses {stages : List (Stage σ)} (leave : ∀ stage ∈ stages, stage.LeavesWriting)
    (s : σ) : refuses (stages.foldl (fun s stage => stage.close s) s) = refuses s := by
  induction stages generalizing s with
  | nil => rfl
  | cons stage stages ih =>
    obtain ⟨first, rest⟩ := List.forall_mem_cons.mp leave
    rw [List.foldl_cons, ih rest, first.close]

omit [Linked σ] in
theorem closeStages_eq (listed : c.stages = Stage.observedFrom 0 all) :
    c.closeStages.state = {
      state := all.foldl (fun s stage => stage.close s) c.state.state
      calls := c.state.calls ++ Channel.closings all.length } := by
  simp only [Channel.closeStages]
  rw [listed, Channel.foldl_close_observed, Channel.closings, List.range_eq_range']

/-- Every stage is told, and the writing is left alone. -/
theorem closeStages_spec (listed : c.stages = Stage.observedFrom 0 all)
    (leave : ∀ stage ∈ all, stage.LeavesWriting) :
    refuses c.closeStages.state = refuses c.state ∧
      ∀ stage < all.length, told c.closeStages.state stage = told c.state stage + 1 := by
  rw [closeStages_eq listed]
  constructor
  · exact foldl_close_refuses leave c.state.state
  · intro stage inList
    exact told_closings c.state _ inList

variable (leave : ∀ stage ∈ all, stage.LeavesWriting)

include leave in
/-- The reading ends by itself. -/
theorem reads_endReading (wired : Wired all c) (running : c.intake = .running) :
    Reads all c c.endReading := by
  obtain ⟨writing, once⟩ := closeStages_spec wired.listed leave
  constructor
  case wired => exact ⟨wired.listed, 0, [], rfl, List.forall_mem_nil _⟩
  case writing => exact writing.trans (Bool.or_false _).symm
  case told =>
    intro stage inList
    have going : c.isClosed = false := by simp [Channel.isClosed, running]
    rw [going]
    exact once stage inList
  case broken => simp [Channel.endReading, running]

/-- A call of a stage that leaves the writing alone, and that is no closing. -/
theorem reads_log (wired : Wired all c) {s : σ} {call : StageCall} (other : call.closed? = none)
    (writing : refuses s = refuses c.state.state) :
    Reads all c { c with state := c.state.log s call } :=
  reads_of_same ⟨wired.listed, wired.current⟩ rfl writing (told_log c.state s other)

include leave in
theorem reads_enter (wired : Wired all c) (running : c.intake = .running) (place : Nat)
    {stages : List (Stage σ)} (leave' : ∀ stage ∈ stages, stage.LeavesWriting) :
    Reads all c (c.enter (Stage.observedFrom place stages)) := by
  cases stages with
  | nil => exact reads_endReading leave wired running
  | cons stage rest =>
    have same := (leave' stage List.mem_cons_self).init c.state.state
    cases started : stage.init c.state.state with
    | ok _ s =>
      rw [started] at same
      rw [Stage.observedFrom, Channel.enter, Stage.observed_init_ok place started]
      have logged : Reads all c { c with state := c.state.log s (.init place none) } :=
        reads_log wired rfl same
      have entered : Wired all { c with
          chain := Stage.observedFrom place (stage :: rest)
          state := c.state.log s (.init place none) } :=
        ⟨wired.listed, place, stage :: rest, rfl, leave'⟩
      exact logged.trans (reads_of_same entered rfl rfl rfl)
    | error error s =>
      rw [started] at same
      rw [Stage.observedFrom, Channel.enter, Stage.observed_init_error place started]
      have logged : Reads all c { c with state := c.state.log s (.init place (some error)) } :=
        reads_log wired rfl same
      exact logged.trans (reads_endReading leave logged.wired running)

variable (inPlace : LinkInPlace σ)

include leave inPlace in
theorem reads_take (wired : Wired all c) (running : c.intake = .running) (payload : Bytes) :
    Reads all c (c.take payload) := by
  obtain ⟨place, stages, chain, leave'⟩ := wired.current
  cases stages with
  | nil =>
    have still : c.take payload = c := by simp [Channel.take, chain, Stage.observedFrom]
    rw [still]
    exact .refl wired
  | cons stage rest =>
    rw [Stage.observedFrom] at chain
    obtain ⟨first, others⟩ := List.forall_mem_cons.mp leave'
    have counted : refuses (c.counted payload).state = refuses c.state.state :=
      refuses_count inPlace _ c.state.state
    have same := (first.read payload (c.counted payload).state).trans counted
    cases read : stage.read payload (c.counted payload).state with
    | ok last s =>
      rw [read] at same
      have observed := Stage.observed_read_ok place read
      have logged : Reads all c { c with state := c.state.log s (.read place payload (.ok last)) } :=
        reads_log wired rfl same
      cases last with
      | false =>
        rw [Channel.take_more chain observed]
        exact logged
      | true =>
        rw [Channel.take_last chain observed]
        have silent : (StageCall.done place).closed? = none := rfl
        have finished := reads_log logged.wired silent (first.done s)
        exact (logged.trans finished).trans
          (reads_enter leave finished.wired running (place + 1) others)
    | error error s =>
      rw [read] at same
      have observed := Stage.observed_read_error place read
      have logged : Reads all c { c with state := c.state.log s (.read place payload (.error error)) } :=
        reads_log wired rfl same
      cases routing : error.isRouting with
      | true =>
        rw [Channel.take_misrouted chain observed routing]
        exact logged.trans
          (reads_of_same ⟨wired.listed, wired.current⟩ rfl (refuses_count inPlace _ s) rfl)
      | false =>
        rw [Channel.take_failed chain observed routing]
        exact logged.trans (reads_endReading leave logged.wired running)

include leave inPlace in
theorem reads_foldl_take (wired : Wired all c) (running : c.intake = .running)
    (payloads : List Bytes) : Reads all c (payloads.foldl Channel.take c) := by
  induction payloads generalizing c with
  | nil => exact .refl wired
  | cons payload payloads ih =>
    have first := reads_take leave inPlace wired running payload
    rw [List.foldl_cons]
    rcases Channel.running_or_idle_of_take running payload with still | idle
    · exact first.trans (ih first.wired still)
    · rw [idle.foldl_take]
      exact first

include leave inPlace in
theorem reads_receive (wired : Wired all c) (chunk : Bytes) : Reads all c (c.receive chunk) := by
  unfold Channel.receive
  split
  · exact .refl wired
  · next running =>
    have running : c.intake = .running := by simpa [Channel.isOver] using running
    dsimp only
    generalize (c.codec.cutAll (c.buffer ++ chunk)) = frames
    have taken := reads_foldl_take leave inPlace wired running frames.payloads
    split
    · exact taken
    · next going =>
      have going : (frames.payloads.foldl Channel.take c).intake = .running := by
        simpa [Channel.isOver] using going
      split
      · exact taken.trans (reads_endReading leave taken.wired going)
      · exact taken.trans (reads_of_same ⟨taken.wired.listed, taken.wired.current⟩ rfl rfl rfl)

include leave in
theorem reads_finish (wired : Wired all c) : Reads all c c.finish := by
  unfold Channel.finish
  split
  · exact .refl wired
  · next running =>
    exact reads_endReading leave wired (by simpa [Channel.isOver] using running)

include inPlace in
/-- A new link, and nothing else. -/
theorem becomes_withLink {severed : Bool} (wired : Wired all c) {link : Link}
    (writing : link.closed = (refuses c.state || severed)) :
    Becomes all c severed 0 false { c with state := Linked.withLink link c.state } := by
  have placed : Linked.link (Linked.withLink link c.state) = link := inPlace link c.state.state
  refine becomes_of_same ⟨wired.listed, wired.current⟩ rfl ?_ rfl
  rw [refuses, placed, writing]

include inPlace in
theorem becomes_emit (wired : Wired all c) (payload : Bytes) :
    Becomes all c false 0 false (c.emit payload).2 := by
  unfold Channel.emit Link.emit
  cases closed : (Linked.link c.state).closed with
  | true => exact becomes_withLink inPlace wired (by simp [refuses, closed])
  | false => exact becomes_withLink inPlace wired (by simp [refuses, closed])

include inPlace in
theorem becomes_flush (wired : Wired all c) (connected : Bool) :
    Becomes all c (severs c (.flush connected)) 0 false (c.flush connected).2 := by
  unfold Channel.flush
  dsimp only
  split
  · next closed =>
    exact becomes_of_same wired rfl (by simp [refuses, closed]) rfl
  · next opened =>
    have opened : refuses c.state = false := by simpa [refuses] using opened
    cases connected with
    | false =>
      rw [if_pos (show (!false) = true from rfl)]
      dsimp only
      split
      · next empty =>
        refine becomes_of_same wired rfl ?_ rfl
        simp [severs, Channel.sending, empty]
      · next waits =>
        refine becomes_withLink inPlace wired ?_
        simp [severs, Channel.sending, waits]
    | true =>
      rw [if_neg (by simp), Channel.encodeAll_eq]
      dsimp only
      split
      · next all =>
        refine becomes_withLink inPlace wired ?_
        rw [opened]
        simp only [severs, Channel.sending, all]
        simpa [refuses] using opened
      · next large =>
        refine becomes_withLink inPlace wired ?_
        simp only [severs, Channel.sending]
        simp [large]

include leave inPlace in
/-- The program closes the channel: every stage is told, and the writing ends. -/
theorem becomes_close (wired : Wired all c) : Becomes all c true 1 (!c.isOver) c.close := by
  obtain ⟨-, once⟩ := closeStages_spec wired.listed leave
  have intake : c.close.intake = if c.intake = .running then .aborted else c.intake := rfl
  have placed : ∀ link, Linked.link (Linked.withLink link c.closeStages.state) = link :=
    fun link => inPlace link c.closeStages.state.state
  constructor
  case wired => exact ⟨wired.listed, 0, [], rfl, List.forall_mem_nil _⟩
  case writing =>
    rw [Bool.or_true]
    exact congrArg Link.closed (placed _)
  case told =>
    intro stage inList
    have same : c.close.isClosed = c.isClosed := by
      rw [Channel.isClosed, Channel.isClosed, intake]
      cases c.intake <;> rfl
    have noted : Datastream.told c.close.state stage = Datastream.told c.closeStages.state stage := rfl
    rw [noted, once stage inList, same]
    omega
  case broken =>
    rw [intake]
    cases at_ : c.intake <;> simp [Channel.isOver, at_]

include leave inPlace in
theorem becomes_step (wired : Wired all c) (m : Move σ) :
    Becomes all c (severs c m.observed) m.isClose.toNat (m.isClose && !c.isOver) (step c m.observed) := by
  cases m with
  | receive chunk => exact reads_receive leave inPlace wired chunk
  | finish => exact reads_finish leave wired
  | emit payload => exact becomes_emit inPlace wired payload
  | flush connected => cases connected <;> exact becomes_flush inPlace wired _
  | close => exact becomes_close leave inPlace wired
  | aside other =>
    exact reads_of_same ⟨wired.listed, wired.current⟩ rfl (other.same c.state.state) rfl

include leave inPlace in
/-- Whatever happens to a channel. -/
theorem becomes_run (wired : Wired all c) (moves : List (Move σ)) :
    Becomes all c (severed c (moves.map Move.observed)) (moves.countP Move.isClose)
      (brokenOff c (moves.map Move.observed)) (run c (moves.map Move.observed)) := by
  induction moves generalizing c with
  | nil => exact Reads.refl wired
  | cons m moves ih =>
    have first := becomes_step leave inPlace wired m
    have closings : (m :: moves).countP Move.isClose = m.isClose.toNat + moves.countP Move.isClose := by
      cases closes : m.isClose <;> simp [closes, Nat.add_comm]
    rw [closings, List.map_cons, brokenOff, m.isClose_observed]
    exact first.trans (ih first.wired)

/-- Whatever happens to a channel from its start on. -/
theorem becomes_from_start (inPlace : LinkInPlace σ) {stages : List (Stage σ)}
    (leave : ∀ stage ∈ stages, stage.LeavesWriting) (codec : FrameCodec) (state : σ)
    (moves : List (Move σ)) :
    let first := Channel.start codec stages state
    let c := run first moves
    let o := run (Channel.start codec (Stage.observedFrom 0 stages) { state }) (moves.map Move.observed)
    o.Mirrors c ∧ refuses c.state = (refuses state || severed first moves) ∧
      (c.intake = .aborted ↔ brokenOff first moves = true) ∧
      ∀ stage < stages.length, told o.state stage = c.isClosed.toNat + moves.countP Move.isClose := by
  intro first c o
  let blank : Channel (Observed σ) := { codec, stages := Stage.observedFrom 0 stages, state := { state } }
  have entered : Reads stages blank (blank.enter (Stage.observedFrom 0 stages)) :=
    reads_enter leave ⟨rfl, 0, [], rfl, List.forall_mem_nil _⟩ rfl 0 leave
  have begun : (blank.enter (Stage.observedFrom 0 stages)).Mirrors first := by
    have unread : blank.Mirrors { codec, stages, state } := ⟨⟨rfl, ⟨0, rfl⟩, rfl, rfl⟩, rfl, rfl⟩
    exact unread.enter rfl 0 stages
  have whole := Becomes.trans entered (becomes_run leave inPlace entered.wired moves)
  obtain ⟨mirrors, broken, cut⟩ := mirrors_run begun moves
  rw [broken, cut, Bool.false_or, Bool.false_or, Nat.zero_add] at whole
  have mirrors : o.Mirrors c := mirrors
  have whole : Becomes stages blank (severed first moves) (moves.countP Move.isClose)
    (brokenOff first moves) o := whole
  refine ⟨mirrors, ?writing, ?broken, ?told⟩
  case writing =>
    have same : refuses o.state = refuses c.state := congrArg Link.closed mirrors.link
    rw [← same, whole.writing]
    rfl
  case broken =>
    rw [← mirrors.intake, whole.broken]
    simp [blank]
  case told =>
    intro stage inList
    have sameClosed : o.isClosed = c.isClosed := by
      rw [Channel.isClosed, Channel.isClosed, mirrors.intake]
    have counted := whole.told stage inList
    have nothing : told blank.state stage = 0 := rfl
    have reading : blank.isClosed.toNat = 0 := rfl
    rw [nothing, reading, sameClosed] at counted
    omega

theorem intake_step_of_over {c : Channel σ} (ended : c.isOver = true) (m : Move σ) :
    (step c m).intake = c.intake := by
  cases m with
  | receive chunk => simp [step, Channel.receive, ended]
  | finish => simp [step, Channel.finish, ended]
  | emit payload =>
    simp only [step, Channel.emit]
    split <;> rfl
  | flush connected =>
    simp only [step, Channel.flush]
    split
    · rfl
    · split
      · split <;> rfl
      · split <;> rfl
  | close =>
    have stopped : ¬c.intake = .running := by simpa [Channel.isOver] using ended
    exact if_neg stopped
  | aside other => rfl

/-- What is over stays as it is. -/
theorem intake_run_of_over {c : Channel σ} (ended : c.isOver = true) (moves : List (Move σ)) :
    (run c moves).intake = c.intake := by
  induction moves generalizing c with
  | nil => rfl
  | cons m moves ih =>
    have same := intake_step_of_over ended m
    have ended' : (step c m).isOver = true := by
      rw [Channel.isOver, same]
      exact ended
    exact (ih ended').trans same

/-- The program has broken the channel off only if it has closed it, -/
theorem closed_of_brokenOff {c : Channel σ} {moves : List (Move σ)} (broken : brokenOff c moves = true) :
    0 < moves.countP Move.isClose := by
  induction moves generalizing c with
  | nil => cases broken
  | cons m moves ih =>
    cases closes : m.isClose with
    | true => simp [closes]
    | false =>
      simp only [brokenOff, closes, Bool.false_and, Bool.false_or] at broken
      simpa [closes] using ih broken

/-- and closing it ends the writing. -/
theorem severed_of_closed {c : Channel σ} {moves : List (Move σ)}
    (closed : 0 < moves.countP Move.isClose) : severed c moves = true := by
  induction moves generalizing c with
  | nil => cases closed
  | cons m moves ih =>
    cases m with
    | close => rfl
    | receive | finish | emit | flush | aside =>
      simp only [severed, Bool.or_eq_true]
      exact .inr (ih (by simpa [Move.isClose] using closed))

theorem emit_eq (c : Channel σ) (payload : Bytes) :
    (c.emit payload).1 = if refuses c.state then .error .connectionClosed else .ok () := by
  unfold Channel.emit Link.emit
  cases closed : (Linked.link c.state).closed <;> simp [refuses, closed]

/-- Once a channel is over, it stays so, and every stage has been told: whenever the program closed it, and
besides when its reading ended by itself. But it counts as closed only if its reading ended by itself and
was not broken off before; and payloads are refused only if the program has closed it or something could
not be written. -/
theorem over_by_either_way (inPlace : LinkInPlace σ) {stages : List (Stage σ)}
    (leave : ∀ stage ∈ stages, stage.LeavesWriting) (codec : FrameCodec) (state : σ)
    (moves later : List (Move σ)) :
    let first := Channel.start codec stages state
    let c := run first (moves ++ later)
    let o := run (Channel.start codec (Stage.observedFrom 0 stages) { state })
      ((moves ++ later).map Move.observed)
    let closings := (moves ++ later).countP Move.isClose
    (run first moves).isOver = true →
      c.isOver = true ∧
      c.isClosed = !brokenOff first moves ∧
      (o.state.state = c.state ∧ ∀ stage < stages.length,
        1 ≤ told o.state stage ∧ told o.state stage = c.isClosed.toNat + closings) ∧
      (∀ payload, (c.emit payload).1 =
        if refuses state || severed first (moves ++ later) then .error .connectionClosed else .ok ()) ∧
      (0 < closings → severed first (moves ++ later) = true) := by
  intro first c o closings stopped
  obtain ⟨mirrors, writing, -, counts⟩ :=
    becomes_from_start inPlace leave codec state (moves ++ later)
  have wasBroken : (run first moves).intake = .aborted ↔ brokenOff first moves = true :=
    (becomes_from_start inPlace leave codec state moves).2.2.1
  have same : c.intake = (run first moves).intake := by
    have split : c = run (run first moves) later := List.foldl_append ..
    rw [split]
    exact intake_run_of_over stopped later
  have isClosed : c.isClosed = !brokenOff first moves := by
    rw [Channel.isClosed, same]
    cases at_ : (run first moves).intake with
    | running => simp [Channel.isOver, at_] at stopped
    | ended =>
      have unbroken : brokenOff first moves ≠ true := fun was => by
        rw [wasBroken.mpr was] at at_
        cases at_
      simp [unbroken]
    | aborted => simp [wasBroken.mp at_]
  refine ⟨?isOver, isClosed, ⟨mirrors.state, fun stage inList => ⟨?told, counts stage inList⟩⟩, ?emits,
    fun closed => severed_of_closed closed⟩
  case isOver =>
    rw [Channel.isOver, same]
    exact stopped
  case told =>
    rw [counts stage inList]
    show 1 ≤ c.isClosed.toNat + closings
    rw [isClosed]
    cases was : brokenOff first moves with
    | false => exact Nat.le_add_right 1 closings
    | true =>
      have closed := closed_of_brokenOff was
      simp only [closings, List.countP_append]
      omega
  case emits =>
    intro payload
    rw [emit_eq, writing]

omit [Linked σ] in
theorem isOver_finish (c : Channel σ) : c.finish.isOver = true := by
  unfold Channel.finish
  split
  · assumption
  · rfl

/-- A channel reads a frame and then the end of its stream, and another is closed. The one counts as closed
and takes payloads still; the other refuses them, and does not count as closed. -/
theorem ended_and_broken_off :
    let first := Channel.start ⟨16⟩ [.echo, .echo] ({} : Link)
    let ended := run first [.receive [0, 0, 0, 1, 7], .finish, .emit [9]]
    let broken := run first [.emit [9], .close, .emit [9]]
    (ended.isClosed = true ∧ (ended.emit [1]).1 = .ok ()) ∧
      broken.isClosed = false ∧ (broken.emit [1]).1 = .error .connectionClosed := by
  intro first ended broken
  have leave : ∀ stage ∈ [Stage.echo, Stage.echo], stage.LeavesWriting := by
    intro stage member
    obtain rfl : stage = .echo := by simpa using member
    exact Stage.leavesWriting_echo
  have inPlace : LinkInPlace Link := fun _ _ => rfl
  constructor
  · obtain ⟨-, closed, -, emits, -⟩ := over_by_either_way inPlace leave ⟨16⟩ {}
      [.receive [0, 0, 0, 1, 7], .finish] [.emit [9]] (isOver_finish _)
    exact ⟨closed, emits [1]⟩
  · obtain ⟨-, closed, -, emits, -⟩ := over_by_either_way inPlace leave ⟨16⟩ {}
      [.emit [9], .close] [.emit [9]] rfl
    exact ⟨closed, emits [1]⟩

/-- A channel that the program has closed never counts as closed, and one whose stream has ended takes
payloads still. -/
theorem neither_way_complete :
    let first := Channel.start ⟨16⟩ [.echo] ({} : Link)
    let broken := run first [.close]
    let ended := run first [.finish]
    (broken.isOver = true ∧ broken.isClosed = false) ∧ ended.isOver = true ∧ (ended.emit [1]).1 = .ok () :=
  ⟨⟨rfl, rfl⟩, rfl, rfl⟩

end Ending
end Datastream
