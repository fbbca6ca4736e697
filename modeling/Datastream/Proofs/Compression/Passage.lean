import Datastream.Compression.Writing
import Datastream.Proofs.Compression.Receiving

/-!
# What passes through a compressed stream

All that is written to one end of a compressed stream is read at the other, in order, and nothing
besides (`written_is_read`): however little the stream below takes at a time and however often an
attempt leaves off, in whatever chunks the bytes arrive, and with whatever room they are read. The codec
is assumed to be inverse call by call (`CallInverse`), so nothing is taken for granted of the loops
around its calls.

The loops are those of `poll_write`, `poll_flush`, `poll_shutdown` and `poll_read`.
-/
namespace Datastream.Compression

variable {σ τ : Type}

/-- A compressor has come to this state by calls, has taken in `written` and has put out `emitted`. -/
inductive CalledCompressor.Emits (z : CalledCompressor σ) (start : σ) :
    σ → (written emitted : Bytes) → Prop
  | start : Emits z start start [] []
  | feed {s : σ} {written emitted : Bytes} (before : Emits z start s written emitted)
      (input : Bytes) :
      Emits z start (z.call s false input).state
        (written ++ input.take (z.call s false input).consumed)
        (emitted ++ (z.call s false input).output)
  | sync {s : σ} {written emitted : Bytes} (before : Emits z start s written emitted) :
      Emits z start (z.call s true []).state written (emitted ++ (z.call s true []).output)

/-- A call of a decompressor with room, within a stream that calls of the compressor put out. -/
structure CallWithin (z : CalledCompressor σ) (zs : σ) (d : Decompressor τ) (ds : τ) (t : τ)
    (taken given input : Bytes) (room : Nat) : Prop where
  room : 0 < room
  given : Given d ds t taken given
  stream : ∃ s written emitted, z.Emits zs s written emitted ∧ taken ++ input <+: emitted

/-- A decompressor reads what calls of a compressor write, both from their starts. The bytes that a part
of a compressed stream stands for are `plain` of it. -/
structure CallInverse (z : CalledCompressor σ) (zs : σ) (d : Decompressor τ) (ds : τ)
    (plain : Bytes → Bytes) : Prop where
  /-- More of a stream stands for more bytes. -/
  mono : ∀ {s written emitted more part}, z.Emits zs s written emitted → more <+: emitted →
    part <+: more → plain part <+: plain more
  /-- After a synchronization that left room a stream stands for all that was written. -/
  sync : ∀ {s written emitted}, z.Emits zs s written emitted → (z.call s true []).spare = true →
    plain (emitted ++ (z.call s true []).output) = written
  accepts : ∀ {t taken given input room}, CallWithin z zs d ds t taken given input room →
    ∃ flow, d.call t input room = .ok flow
  endless : ∀ {t taken given input room flow}, CallWithin z zs d ds t taken given input room →
    d.call t input room = .ok flow → flow.ended = false
  /-- What is put out is what the input stands for. -/
  faithful : ∀ {t taken given input room flow}, CallWithin z zs d ds t taken given input room →
    d.call t input room = .ok flow → given ++ flow.output <+: plain (taken ++ input.take flow.consumed)
  /-- With input and room something happens. -/
  progress : ∀ {t taken given input room flow}, CallWithin z zs d ds t taken given input room →
    d.call t input room = .ok flow → input ≠ [] → flow.output = [] → 0 < flow.consumed
  /-- Output is held back only behind other output, which fills the room. -/
  prompt : ∀ {t taken given input room flow}, CallWithin z zs d ds t taken given input room →
    d.call t input room = .ok flow → flow.output = [] → given = plain (taken ++ input.take flow.consumed)

namespace CalledCompressor

variable {z : CalledCompressor σ} {start s : σ} {written emitted : Bytes}

/-- The calls that take data in take in all of it, once and in order. -/
theorem Emits.feed_all (before : z.Emits start s written emitted) (data : Bytes) :
    z.Emits start (z.feed s data).1 (written ++ data) (emitted ++ (z.feed s data).2) := by
  fun_induction z.feed s data generalizing written emitted with
  | case1 s => simpa using before
  | case2 s data _ flow s' output made =>
    rename_i ih
    have rest := ih (before.feed data)
    rwa [made, List.append_assoc, List.append_assoc, List.take_append_drop] at rest

/-- The calls that put everything out end with one that leaves room. -/
theorem Emits.sync_all (before : z.Emits start s written emitted) :
    ∃ t more, z.Emits start t written more ∧ (z.call t true []).spare = true ∧
      (z.sync s).1 = (z.call t true []).state ∧
      emitted ++ (z.sync s).2 = more ++ (z.call t true []).output := by
  fun_induction z.sync s generalizing emitted with
  | case1 s flow =>
    rename_i done
    exact ⟨s, emitted, before, done, rfl, rfl⟩
  | case2 s flow _ s' output made =>
    rename_i ih
    have rest := ih before.sync
    rwa [made, List.append_assoc] at rest

theorem emits_of_emitted (put : Emitted z.toCompressor start s written emitted) :
    z.Emits start s written emitted := by
  induction put with
  | start => exact .start
  | feed _ data ih => exact ih.feed_all data
  | sync _ ih =>
    obtain ⟨t, more, before, -, state, stream⟩ := ih.sync_all
    show z.Emits start (z.sync _).1 _ (_ ++ (z.sync _).2)
    rw [state, stream]
    exact before.sync

end CalledCompressor

section Inverse

variable {z : CalledCompressor σ} {zs : σ} {d : Decompressor τ} {ds : τ} {plain : Bytes → Bytes}

theorem Within.call {t : τ} {taken given input : Bytes} {room : Nat}
    (within : Within z.toCompressor zs d ds t taken given input room) :
    CallWithin z zs d ds t taken given input room where
  room := within.room
  given := within.given
  stream := by
    obtain ⟨s, written, emitted, put, begins⟩ := within.stream
    exact ⟨s, written, emitted, CalledCompressor.emits_of_emitted put, begins⟩

/-- A codec that is inverse call by call is inverse. -/
theorem CallInverse.inverse (inverse : CallInverse z zs d ds plain) :
    Inverse z.toCompressor zs d ds plain where
  mono put := inverse.mono (CalledCompressor.emits_of_emitted put)
  sync put := by
    obtain ⟨t, more, before, spare, -, stream⟩ := (CalledCompressor.emits_of_emitted put).sync_all
    show plain (_ ++ (z.sync _).2) = _
    rw [stream]
    exact inverse.sync before spare
  accepts within := inverse.accepts within.call
  endless within := inverse.endless within.call
  faithful within := inverse.faithful within.call
  progress within := inverse.progress within.call
  prompt within := inverse.prompt within.call

end Inverse

namespace DeflateWriter

/-- Some of what was pending was taken, from the front, and nothing else happened. -/
structure Takes (w w' : DeflateWriter σ) (taken : Bytes) : Prop where
  state : w'.state = w.state
  dirty : w'.dirty = w.dirty
  pending : taken ++ w'.pending = w.pending

theorem takes_none (w : DeflateWriter σ) : w.Takes w [] := ⟨rfl, rfl, rfl⟩

/-- The stream below takes from the front of what is pending, and the attempt comes to its end just if
that is all of it. -/
theorem takes_pollDrain (w : DeflateWriter σ) (below : List (Except Error Nat)) :
    let drained := w.pollDrain below
    w.Takes drained.2.2 drained.2.1 ∧ (drained.1 = some (.ok ()) ↔ drained.2.2.pending = []) := by
  fun_induction pollDrain w below with
  | case1 below w empty => exact ⟨takes_none w, iff_of_true rfl (List.isEmpty_iff.mp empty)⟩
  | case2 w waiting | case3 w waiting | case4 w waiting =>
    exact ⟨takes_none w, iff_of_false nofun fun empty => waiting (List.isEmpty_iff.mpr empty)⟩
  | case5 w _ accepted below _ piece w' drained result more w'' made =>
    rename_i ih
    rw [made] at ih
    obtain ⟨takes, all⟩ := ih
    obtain ⟨rfl, rfl⟩ := Prod.mk.inj drained
    refine ⟨⟨takes.state, takes.dirty, ?_⟩, all⟩
    show w.pending.take accepted ++ more ++ w''.pending = w.pending
    rw [List.append_assoc, takes.pending]
    exact List.take_append_drop ..

/-- A stream below that takes something whenever it is asked takes everything in time. -/
theorem pollDrain_done {w : DeflateWriter σ} {below : List (Except Error Nat)}
    (takes : ∀ answer ∈ below, ∃ accepted, 0 < accepted ∧ answer = .ok accepted)
    (enough : w.pending.length ≤ below.length) : (w.pollDrain below).1 = some (.ok ()) := by
  fun_induction pollDrain w below with
  | case1 => rfl
  | case2 w some_pending => simp_all
  | case3 w _ reason => simp at takes
  | case4 w => simp at takes
  | case5 w _ accepted below positive piece w' drained result more w'' made =>
    rename_i ih
    obtain ⟨rfl, rfl⟩ := Prod.mk.inj drained
    rw [made] at ih
    refine ih (fun answer member => takes answer (List.mem_cons_of_mem _ member)) ?_
    have some_accepted : accepted ≠ 0 := positive
    simp only [List.length_cons, List.length_drop] at enough ⊢
    omega

theorem takes_pollFlush (c : Compressor σ) (w : DeflateWriter σ) (below : List (Except Error Nat))
    (flushed : Attempt Unit) :
    let polled := w.pollFlush c below flushed
    (w.sync c).Takes polled.2.2 polled.2.1 ∧
      (polled.1 = some (.ok ()) → polled.2.2.pending = []) := by
  have drained := takes_pollDrain (w.sync c) below
  unfold pollFlush
  split
  · next taken w' made =>
    rw [made] at drained
    exact ⟨drained.1, fun _ => drained.2.mp rfl⟩
  · exact ⟨drained.1, drained.2.mp⟩

theorem takes_pollShutdown (c : Compressor σ) (w : DeflateWriter σ) (below : List (Except Error Nat))
    (flushed shut : Attempt Unit) :
    let polled := w.pollShutdown c below flushed shut
    (w.sync c).Takes polled.2.2 polled.2.1 ∧
      (polled.1 = some (.ok ()) → polled.2.2.pending = []) := by
  have polled := takes_pollFlush c w below flushed
  unfold pollShutdown
  split
  · next taken w' made =>
    rw [made] at polled
    exact ⟨polled.1, fun _ => polled.2 rfl⟩
  · exact polled

theorem dirty_sync (c : Compressor σ) (w : DeflateWriter σ) : (w.sync c).dirty = false := by
  unfold sync
  split
  · rfl
  · next clean => exact Bool.eq_false_iff.mpr clean

end DeflateWriter

/-- An attempt of the program at a compressed stream, with what the stream below answers. -/
inductive Attempted
  | write (data : Bytes) (below : List (Except Error Nat))
  | flush (below : List (Except Error Nat)) (flushed : Attempt Unit)
  | shutdown (below : List (Except Error Nat)) (flushed shut : Attempt Unit)

def Attempted.flushes : Attempted → Bool
  | .write .. => false
  | .flush .. | .shutdown .. => true

namespace Sender

/-- Makes an attempt. What counts as written are the bytes that it tells to have taken in. -/
def poll (c : Compressor σ) (s : Sender σ) : Attempted → Attempt Unit × Sender σ
  | .write data below =>
    let (result, taken, writer) := s.writer.pollWrite c data below
    let count := match result with
      | some (.ok count) => count
      | _ => 0
    (result.map (·.map fun _ => ()),
      { writer, written := s.written ++ data.take count, wire := s.wire ++ taken })
  | .flush below flushed =>
    let (result, taken, writer) := s.writer.pollFlush c below flushed
    (result, { s with writer, wire := s.wire ++ taken })
  | .shutdown below flushed shut =>
    let (result, taken, writer) := s.writer.pollShutdown c below flushed shut
    (result, { s with writer, wire := s.wire ++ taken })

def pollAll (c : Compressor σ) (s : Sender σ) (attempts : List Attempted) : Sender σ :=
  attempts.foldl (fun s a => (s.poll c a).2) s

variable {c : Compressor σ} {cs : σ} {d : Decompressor τ} {ds : τ} {plain : Bytes → Bytes}
  {s : Sender σ}

theorem Sound.takes (sound : s.Sound c cs plain) {writer : DeflateWriter σ} {taken : Bytes}
    (takes : s.writer.Takes writer taken) :
    Sound c cs plain { s with writer, wire := s.wire ++ taken } :=
  sound.take takes.state takes.dirty takes.pending

/-- A flush makes everything pending, and the stream below takes of that. -/
theorem Sound.flush (inverse : Inverse c cs d ds plain) (sound : s.Sound c cs plain)
    {result : Attempt Unit} {writer : DeflateWriter σ} {taken : Bytes}
    (takes : (s.writer.sync c).Takes writer taken)
    (all : result = some (.ok ()) → writer.pending = []) :
    let s' : Sender σ := { s with writer, wire := s.wire ++ taken }
    s'.Sound c cs plain ∧ (result = some (.ok ()) → s'.Flushed) :=
  ⟨(sound_step inverse sound .sync).takes takes,
    fun done => ⟨takes.dirty.trans (s.writer.dirty_sync c), all done⟩⟩

theorem Sound.write_poll (sound : s.Sound c cs plain) (data : Bytes) (below : List (Except Error Nat)) :
    (s.poll c (.write data below)).2.Sound c cs plain := by
  obtain ⟨takes, -⟩ := s.writer.takes_pollDrain below
  simp only [poll, DeflateWriter.pollWrite]
  rcases drained : s.writer.pollDrain below with ⟨_ | error | _, taken, writer⟩ <;>
    rw [drained] at takes
  · simpa using sound.takes takes
  · simpa using sound.takes takes
  · simpa using (sound.takes takes).write data

/-- Whatever is attempted, what the stream below took and what is pending came from the compressor; and
after a flush that did not leave off nothing is left to be flushed. -/
theorem Sound.poll (inverse : Inverse c cs d ds plain) (sound : s.Sound c cs plain) (a : Attempted) :
    let polled := s.poll c a
    polled.2.Sound c cs plain ∧
      (a.flushes = true → polled.1 = some (.ok ()) → polled.2.Flushed) := by
  cases a with
  | write data below => exact ⟨sound.write_poll data below, nofun⟩
  | flush below flushed =>
    obtain ⟨takes, all⟩ := s.writer.takes_pollFlush c below flushed
    obtain ⟨sound', flushed'⟩ := sound.flush inverse takes all
    exact ⟨sound', fun _ => flushed'⟩
  | shutdown below flushed shut =>
    obtain ⟨takes, all⟩ := s.writer.takes_pollShutdown c below flushed shut
    obtain ⟨sound', flushed'⟩ := sound.flush inverse takes all
    exact ⟨sound', fun _ => flushed'⟩

theorem sound_pollAll (inverse : Inverse c cs d ds plain) (attempts : List Attempted) :
    ((fresh cs).pollAll c attempts).Sound c cs plain := by
  suffices ∀ s : Sender σ, s.Sound c cs plain → (s.pollAll c attempts).Sound c cs plain from
    this _ (sound_fresh inverse)
  induction attempts with
  | nil => exact fun s sound => sound
  | cons a attempts ih => exact fun s sound => ih _ (sound.poll inverse a).1

/-- A flush comes to its end when the stream below has been asked often enough. -/
theorem flush_done {below : List (Except Error Nat)}
    (takes : ∀ answer ∈ below, ∃ accepted, 0 < accepted ∧ answer = .ok accepted)
    (enough : (s.writer.sync c).pending.length ≤ below.length) :
    (s.poll c (.flush below (some (.ok ())))).1 = some (.ok ()) ∧
      (s.poll c (.shutdown below (some (.ok ())) (some (.ok ())))).1 = some (.ok ()) := by
  have done := DeflateWriter.pollDrain_done takes enough
  have flushed : (s.writer.pollFlush c below (some (.ok ()))).1 = some (.ok ()) := by
    unfold DeflateWriter.pollFlush
    split
    · rfl
    · exact done
  refine ⟨flushed, ?_⟩
  show (s.writer.pollShutdown c below (some (.ok ())) (some (.ok ()))).1 = some (.ok ())
  unfold DeflateWriter.pollShutdown
  split
  · rfl
  · exact flushed

end Sender

namespace Receiver

/-- The stream below has ended, after all that it has handed over. -/
def ends (r : Receiver τ) : Receiver τ := { r with source := { r.source with ended := true } }

/-- Reads pieces with these rooms up to the end of the stream, and tells what has come then. -/
def readToEnd (r : Receiver τ) (d : Decompressor τ) : List Nat → Option Bytes
  | [] => none
  | room :: rooms =>
    match r.reader.poll d room r.source with
    | (.ready [], _, _) => some r.delivered
    | (.ready output, reader, source) =>
      readToEnd { reader, source, delivered := r.delivered ++ output } d rooms
    | _ => none

section Reading

variable {c : Compressor σ} {cs s : σ} {d : Decompressor τ} {ds : τ} {plain : Bytes → Bytes}
  {written wire taken : Bytes} {r : Receiver τ}

/-- Bytes that are on their way when the stream below ends go on being so. -/
theorem carries_ends (carries : Carries c cs d ds plain wire taken r.delivered r.reader r.source)
    (open_ : r.source.ended = false) :
    Carries c cs d ds plain wire taken r.ends.delivered r.ends.reader r.ends.source :=
  { carries with
    closed := fun ended => by
      rw [show r.ends.reader = r.reader from rfl, carries.reading open_] at ended
      cases ended }

/-- From a stream below that has ended, everything is read, if room is offered often enough, and then
the end is told. -/
theorem readToEnd_spec (inverse : Inverse c cs d ds plain) (put : Emitted c cs s written wire)
    (readable : plain wire = written) (rooms : List Nat) (positive : ∀ room ∈ rooms, 0 < room)
    (ended : r.source.ended = true)
    (carries : Carries c cs d ds plain wire taken r.delivered r.reader r.source) :
    (∀ output, r.readToEnd d rooms = some output → output = written) ∧
      (written.length < r.delivered.length + rooms.length → r.readToEnd d rooms = some written) := by
  induction rooms generalizing r taken with
  | nil =>
    have known := carries.begins inverse put readable
    refine ⟨nofun, fun enough => ?_⟩
    exact absurd known.length_le (by simpa using enough)
  | cons room rooms ih =>
    obtain ⟨hasRoom, positive⟩ := List.forall_mem_cons.mp positive
    obtain ⟨taken', carries', outcome⟩ := poll_spec inverse put (List.prefix_refl _) hasRoom carries
    have stays := ended_poll d room r.reader r.source
    rcases polled : r.reader.poll d room r.source with ⟨result, reader, source⟩
    rw [polled] at carries' outcome stays
    rcases outcome with ⟨output, some_output, ready⟩ | ⟨result, -, all⟩
    · obtain rfl : result = .ready output := ready
      have on := ih (r := { reader, source, delivered := r.delivered ++ output }) positive
        (stays.trans ended) carries'
      have told : r.readToEnd d (room :: rooms) =
          readToEnd { reader, source, delivered := r.delivered ++ output } d rooms := by
        cases output with
        | nil => exact absurd rfl some_output
        | cons byte output => simp only [readToEnd, polled]
      rw [told]
      refine ⟨on.1, fun enough => on.2 ?_⟩
      have := List.length_pos_iff.mpr some_output
      simp only [List.length_cons, List.length_append] at enough ⊢
      omega
    · rw [if_pos ended] at result
      obtain rfl : _ = ReadResult.ready [] := result
      have complete : r.delivered = written := by
        rcases all with all | ⟨open_, -⟩
        · exact all.trans readable
        · rw [ended] at open_
          cases open_
      have told : r.readToEnd d (room :: rooms) = some r.delivered := by simp only [readToEnd, polled]
      rw [told, complete]
      exact ⟨fun _ same => (Option.some.inj same).symm, fun _ => rfl⟩

end Reading

end Receiver

/-- All that is written to a compressed stream is read at its other end. Whatever the stream below takes
of what it is offered, and whenever attempts to write or to flush leave off: a flush comes to its end if
the stream below takes something whenever it is asked; and when one has come to its end, the bytes it has
taken are read as just those that were written, in whatever chunks they arrive, whatever is read in
between, and with whatever room is offered until the end of the stream is told. -/
theorem written_is_read {z : CalledCompressor σ} {zs : σ} {d : Decompressor τ} {ds : τ}
    {plain : Bytes → Bytes} (inverse : CallInverse z zs d ds plain) (attempts : List Attempted) :
    let s := (Sender.fresh zs).pollAll z.toCompressor attempts
    (∀ below : List (Except Error Nat),
      (∀ answer ∈ below, ∃ accepted, 0 < accepted ∧ answer = .ok accepted) →
      (s.writer.sync z.toCompressor).pending.length ≤ below.length →
      (s.poll z.toCompressor (.flush below (some (.ok ())))).1 = some (.ok ()) ∧
        (s.poll z.toCompressor (.shutdown below (some (.ok ())) (some (.ok ())))).1 = some (.ok ())) ∧
      ∀ last : Attempted, last.flushes = true → (s.poll z.toCompressor last).1 = some (.ok ()) →
        let sent := (s.poll z.toCompressor last).2
        ∀ received : List ReceiverMove, Receiver.arrivals received = sent.wire →
          let r := received.foldl (Receiver.step d) (.fresh ds)
          r.delivered <+: sent.written ∧
            ∀ rooms : List Nat, (∀ room ∈ rooms, 0 < room) →
              (∀ output, r.ends.readToEnd d rooms = some output → output = sent.written) ∧
                (sent.written.length < rooms.length →
                  r.ends.readToEnd d rooms = some sent.written) := by
  intro s
  have sound := Sender.sound_pollAll inverse.inverse attempts
  refine ⟨fun below takes enough => Sender.flush_done takes enough, ?_⟩
  intro last flushes done sent received handedOver r
  obtain ⟨sound, flushed⟩ := sound.poll inverse.inverse last
  obtain ⟨put, readable⟩ := Sender.plain_wire sound (flushed flushes done)
  rw [← handedOver] at put readable
  obtain ⟨open_, taken, carries⟩ :=
    Receiver.carries_run inverse.inverse put (List.prefix_refl _)
  refine ⟨carries.begins inverse.inverse put readable, fun rooms positive => ?_⟩
  obtain ⟨right, enough⟩ := Receiver.readToEnd_spec inverse.inverse put readable rooms positive rfl
    (Receiver.carries_ends carries open_)
  exact ⟨right, fun bound => enough (Nat.lt_add_left _ bound)⟩

/-- A compressor that takes in one byte at a call and holds it, and puts out one of them at a call. -/
def hoarding : CalledCompressor Bytes where
  call
    | hoard, true, _ =>
      { state := hoard.drop 1, consumed := 0, output := hoard.take 1, spare := hoard.length ≤ 1 }
    | hoard, false, [] => { state := hoard, consumed := 0, output := [], spare := true }
    | hoard, false, byte :: _ =>
      { state := hoard ++ [byte], consumed := 1, output := [], spare := true, consumed_le := by simp }
  held := List.length
  feeds
    | _, [], some_input, _ => absurd rfl some_input
    | _, _ :: _, _, untaken => nomatch (untaken : 1 = 0)
  syncs hoard full := by
    have more : 1 < hoard.length := by simpa using full
    rw [List.length_drop]
    omega

theorem written_of_hoarding {hoard written emitted : Bytes}
    (put : hoarding.Emits [] hoard written emitted) : written = emitted ++ hoard := by
  induction put with
  | start => rfl
  | feed _ input ih => cases input <;> simp [hoarding, ih]
  | @sync hoard _ emitted _ ih =>
    show _ = emitted ++ hoard.take 1 ++ hoard.drop 1
    rw [List.append_assoc, List.take_append_drop, ih]

theorem inverse_hoarding_keeping : CallInverse hoarding [] keeping [] fun part => part where
  mono _ _ part := part
  sync put spare := by
    rw [written_of_hoarding put]
    exact congrArg _ (List.take_of_length_le (of_decide_eq_true spare))
  accepts _ := ⟨_, rfl⟩
  endless _ called := by obtain rfl := Except.ok.inj called; rfl
  faithful within := keeping_faithful within.given
  progress _ := keeping_progress
  prompt within := keeping_prompt within.given within.room

/-- What its calls come to: it takes everything in, and puts everything out. -/
theorem hoarding_at_once :
    hoarding.toCompressor = ⟨fun hoard data => (hoard ++ data, []), fun hoard => ([], hoard)⟩ := by
  have feed (hoard data : Bytes) : hoarding.feed hoard data = (hoard ++ data, []) := by
    fun_induction hoarding.feed hoard data with
    | case1 => simp
    | case2 hoard data some_data flow s output made =>
      rename_i ih
      cases data with
      | nil => exact absurd rfl some_data
      | cons byte data =>
        rw [made] at ih
        simpa [hoarding, flow] using ih
  have sync (hoard : Bytes) : hoarding.sync hoard = ([], hoard) := by
    fun_induction hoarding.sync hoard with
    | case1 hoard flow spare =>
      have one : hoard.length ≤ 1 := of_decide_eq_true spare
      exact Prod.ext (List.drop_eq_nil_iff.mpr one) (List.take_of_length_le one)
    | case2 hoard flow _ s output made =>
      rename_i ih
      rw [made] at ih
      obtain ⟨rfl, rfl⟩ := Prod.mk.inj ih
      exact Prod.ext rfl (List.take_append_drop ..)
  rw [CalledCompressor.toCompressor, funext fun hoard => funext (feed hoard), funext sync]

/-- Three bytes, of which the stream below takes one at first and is not ready for more. -/
theorem three_bytes_read :
    let s := (Sender.fresh []).pollAll hoarding.toCompressor
      [.write [1, 2] [], .flush [.ok 1] none, .write [3] [], .write [3] [.ok 5], .shutdown [] none none]
    let last := Attempted.shutdown [.ok 1] (some (.ok ())) (some (.ok ()))
    let r := [.arrive [1, 2], .read 1, .arrive [3]].foldl (Receiver.step keeping) (.fresh [])
    (s.poll hoarding.toCompressor last).1 = some (.ok ()) ∧
      (s.poll hoarding.toCompressor last).2.wire = [1, 2, 3] ∧
      r.ends.readToEnd keeping [2, 1, 1, 1] = some [1, 2, 3] := by
  intro s last r
  have done : (s.poll hoarding.toCompressor last).1 = some (.ok ()) := by
    simp only [s, hoarding_at_once]
    rfl
  have wire : (s.poll hoarding.toCompressor last).2.wire = [1, 2, 3] := by
    simp only [s, hoarding_at_once]
    rfl
  have written : (s.poll hoarding.toCompressor last).2.written = [1, 2, 3] := by
    simp only [s, hoarding_at_once]
    rfl
  obtain ⟨-, passed⟩ := written_is_read inverse_hoarding_keeping
    [.write [1, 2] [], .flush [.ok 1] none, .write [3] [], .write [3] [.ok 5], .shutdown [] none none]
  obtain ⟨-, read⟩ := passed last rfl done [.arrive [1, 2], .read 1, .arrive [3]] wire.symm
  have all := (read [2, 1, 1, 1] (by decide)).2 (by rw [written]; decide)
  rw [written] at all
  exact ⟨done, wire, all⟩

end Datastream.Compression
