import Datastream.Compression.Zlib
import Datastream.Proofs.Compression.Inverse

/-!
# The receiving side of a compressed stream

How far a reader gets when a flush has arrived. What it delivers is always a beginning of what was
written. It asks the decompressor only while it has compressed bytes
of its own (`poll_spec`, `poll_stuck`): once the decompressor has taken them all in, output that it
still holds is not delivered before more bytes arrive (`flushed_delivered_unless_nothing_buffered`) or
the stream below ends.

The reader is `poll_read`.
-/
namespace Datastream.Compression

variable {σ τ : Type}

/-- What happens at the receiving side: the stream below hands over a chunk, or a piece is read. -/
inductive ReceiverMove
  | arrive (chunk : Bytes)
  | read (room : Nat)

/-- The receiving side of a stream, and what was delivered from it. -/
structure Receiver (τ : Type) where
  reader : DeflateReader τ
  source : Source := {}
  delivered : Bytes := []

def ReadResult.output : ReadResult → Bytes
  | .ready output => output
  | .pending | .failed _ => []

namespace Receiver

def fresh (start : τ) : Receiver τ where
  reader := { state := start }

def step (d : Decompressor τ) (r : Receiver τ) : ReceiverMove → Receiver τ
  | .arrive chunk => { r with source := { r.source with chunks := r.source.chunks ++ [chunk] } }
  | .read room =>
    let (result, reader, source) := r.reader.poll d room r.source
    { reader, source, delivered := r.delivered ++ result.output }

def arrivals (moves : List ReceiverMove) : Bytes :=
  moves.flatMap fun
    | .arrive chunk => chunk
    | .read _ => []

/-- Nothing is buffered, and the stream below has nothing more. -/
def NothingBuffered (r : Receiver τ) : Prop :=
  r.reader.buffer = [] ∧ r.source.chunks.flatten = []

end Receiver

section Reading

variable (c : Compressor σ) (cs : σ) (d : Decompressor τ) (ds : τ) (plain : Bytes → Bytes)

/-- The compressed bytes that have arrived, up to `arrived`, are taken in, buffered, or with the
stream below, in this order, and what was delivered is the output of those that were taken in. -/
structure Carries (arrived taken given : Bytes) (reader : DeflateReader τ) (source : Source) :
    Prop where
  state : Given d ds reader.state taken given
  order : taken ++ (reader.buffer ++ source.chunks.flatten) = arrived
  /-- The end comes last. -/
  closed : reader.ended = true → reader.buffer = [] ∧ source.chunks = [] ∧ source.ended = true
  faithful : given <+: plain taken
  eager : Eager c cs d ds plain → reader.buffer = [] → given = plain taken

end Reading

variable {c : Compressor σ} {cs : σ} {d : Decompressor τ} {ds : τ} {plain : Bytes → Bytes}
  {arrived taken given : Bytes} {reader : DeflateReader τ} {source : Source}

theorem of_refill_none (refused : reader.refill source = none) :
    source.chunks = [] ∧ (reader.ended = false → source.ended = false) := by
  unfold DeflateReader.refill at refused
  split at refused
  · next none =>
    split at refused
    · cases refused
    · next stays =>
      refine ⟨none, fun open_ => ?_⟩
      simpa [open_] using stays
  · split at refused <;> cases refused

/-- What the stream below hands over goes behind what is buffered; its end comes when there is nothing
more. -/
theorem refill_spec {reader' : DeflateReader τ} {source' : Source}
    (refilled : reader.refill source = some (reader', source')) :
    reader'.buffer ++ source'.chunks.flatten = reader.buffer ++ source.chunks.flatten ∧
      reader'.state = reader.state ∧ source'.ended = source.ended ∧
      (reader'.ended = reader.ended ∧ source.chunks ≠ [] ∨
        reader'.buffer = reader.buffer ∧ source'.chunks = [] ∧ source.ended = true) ∧
      (reader'.buffer = [] → reader.buffer = []) := by
  unfold DeflateReader.refill at refilled
  split at refilled
  · next none =>
    split at refilled
    · next ends =>
      rw [Bool.and_eq_true] at ends
      obtain ⟨rfl, rfl⟩ := Prod.mk.inj (Option.some.inj refilled)
      exact ⟨rfl, rfl, rfl, .inr ⟨rfl, none, ends.1⟩, id⟩
    · cases refilled
  · next chunk chunks listed =>
    have some_chunk : source.chunks ≠ [] := by simp [listed]
    split at refilled
    · obtain ⟨rfl, rfl⟩ := Prod.mk.inj (Option.some.inj refilled)
      exact ⟨by simp [listed], rfl, rfl, .inl ⟨rfl, some_chunk⟩,
        fun empty => (List.append_eq_nil_iff.mp empty).1⟩
    · obtain ⟨rfl, rfl⟩ := Prod.mk.inj (Option.some.inj refilled)
      refine ⟨?_, rfl, rfl, .inl ⟨rfl, some_chunk⟩, fun empty => (List.append_eq_nil_iff.mp empty).1⟩
      rw [listed, List.flatten_cons, List.flatten_cons, List.append_assoc,
        ← List.append_assoc (List.take ..), List.take_append_drop]

theorem Carries.refilled (carries : Carries c cs d ds plain arrived taken given reader source)
    (idle : reader.buffer = []) {reader' : DeflateReader τ} {source' : Source}
    (refilled : reader.refill source = some (reader', source')) :
    Carries c cs d ds plain arrived taken given reader' source' := by
  obtain ⟨order, state, ended, ends, buffered⟩ := refill_spec refilled
  refine {
    state := state ▸ carries.state
    order := order ▸ carries.order
    closed := fun ended' => ?_
    faithful := carries.faithful
    eager := fun eager empty => carries.eager eager (buffered empty) }
  rcases ends with ⟨same, more⟩ | ⟨buffer, none, closing⟩
  · exact absurd (carries.closed (same ▸ ended')).2.1 more
  · exact ⟨buffer.trans idle, none, ended.trans closing⟩

/-- The end is not read before it comes. -/
theorem Carries.reading (carries : Carries c cs d ds plain arrived taken given reader source)
    (open_ : source.ended = false) : reader.ended = false := by
  refine Bool.eq_false_iff.mpr fun ended => ?_
  rw [(carries.closed ended).2.2] at open_
  cases open_

theorem Carries.within (carries : Carries c cs d ds plain arrived taken given reader source)
    {s : σ} {written emitted : Bytes} (put : Emitted c cs s written emitted)
    (begins : arrived <+: emitted) {room : Nat} (hasRoom : 0 < room) :
    Within c cs d ds reader.state taken given reader.buffer room where
  room := hasRoom
  given := carries.state
  stream := by
    refine ⟨s, written, emitted, put, List.IsPrefix.trans ?_ begins⟩
    rw [← carries.order, ← List.append_assoc]
    exact List.prefix_append ..

/-- What was delivered is a beginning of what was written. -/
theorem Carries.begins (carries : Carries c cs d ds plain arrived taken given reader source)
    (inverse : Inverse c cs d ds plain) {s : σ} {written : Bytes} (put : Emitted c cs s written arrived)
    (readable : plain arrived = written) : given <+: written := by
  have part : taken <+: arrived := carries.order ▸ List.prefix_append ..
  have known := inverse.mono put (List.prefix_refl _) part
  rw [readable] at known
  exact carries.faithful.trans known

/-- A call of the decompressor takes bytes out of the buffer and delivers what it puts out. -/
theorem Carries.called (inverse : Inverse c cs d ds plain)
    (carries : Carries c cs d ds plain arrived taken given reader source) {room : Nat}
    (within : Within c cs d ds reader.state taken given reader.buffer room)
    {flow : Inflow τ reader.buffer room} (called : d.call reader.state reader.buffer room = .ok flow) :
    Carries c cs d ds plain arrived (taken ++ reader.buffer.take flow.consumed)
      (given ++ flow.output)
      { reader with state := flow.state, buffer := reader.buffer.drop flow.consumed } source where
  state := carries.state.call called
  order := by
    rw [List.append_assoc, ← List.append_assoc (List.take ..), List.take_append_drop, carries.order]
  closed ended := by
    obtain ⟨buffer, rest⟩ := carries.closed ended
    exact ⟨by simp [buffer], rest⟩
  faithful := inverse.faithful within called
  eager eager empty := by
    have all : flow.consumed = reader.buffer.length :=
      Nat.le_antisymm flow.consumed_le (List.drop_eq_nil_iff.mp empty)
    rw [eager within called all, all, List.take_length]

theorem of_silent {room : Nat} {flow : Inflow τ reader.buffer room}
    (silent : ¬(!flow.output.isEmpty || reader.ended || flow.ended) = true) :
    flow.output = [] ∧ reader.ended = false := by
  simp only [Bool.or_eq_true, not_or] at silent
  simpa using silent.1

theorem progress_of_busy (inverse : Inverse c cs d ds plain) {room : Nat}
    (within : Within c cs d ds reader.state taken given reader.buffer room)
    {flow : Inflow τ reader.buffer room} (called : d.call reader.state reader.buffer room = .ok flow)
    (busy : ¬(reader.buffer.isEmpty && !reader.ended) = true)
    (silent : ¬(!flow.output.isEmpty || reader.ended || flow.ended) = true) : 0 < flow.consumed := by
  obtain ⟨no_output, open_⟩ := of_silent silent
  refine inverse.progress within called (fun empty => busy ?_) no_output
  simp [empty, open_]

/-- A piece read from a stream that the compressor put out: it brings bytes, or nothing is left but
what the decompressor holds, and it comes to the end if the stream below has ended. The decompressor
holds nothing then, and it holds nothing if there was anything to ask it for. -/
theorem poll_spec (inverse : Inverse c cs d ds plain) {s : σ} {written emitted : Bytes}
    (put : Emitted c cs s written emitted) (begins : arrived <+: emitted) {room : Nat}
    (hasRoom : 0 < room) (carries : Carries c cs d ds plain arrived taken given reader source) :
    ∃ taken', Carries c cs d ds plain arrived taken' (given ++ (reader.poll d room source).1.output)
        (reader.poll d room source).2.1 (reader.poll d room source).2.2 ∧
      ((∃ output, output ≠ [] ∧ (reader.poll d room source).1 = .ready output) ∨
        (reader.poll d room source).1 = (if source.ended then .ready [] else .pending) ∧
          taken' = arrived ∧
          (given = plain arrived ∨
            source.ended = false ∧ reader.buffer = [] ∧ source.chunks.flatten = [])) := by
  fun_induction DeflateReader.poll d room reader source generalizing taken with
  | case1 reader source none => omega
  | case2 reader source _ idle refused =>
    rw [Bool.and_eq_true, List.isEmpty_iff, Bool.not_eq_true'] at idle
    obtain ⟨buffer, open_⟩ := idle
    obtain ⟨chunks, open_'⟩ := of_refill_none refused
    have order := carries.order
    rw [buffer, chunks, List.flatten_nil, List.append_nil, List.append_nil] at order
    refine ⟨taken, by simpa [ReadResult.output] using carries, .inr ⟨?_, order, .inr ⟨?_, buffer, ?_⟩⟩⟩
    · simp [open_' open_]
    · exact open_' open_
    · rw [chunks, List.flatten_nil]
  | case3 reader source _ idle reader' source' refilled ih =>
    rw [Bool.and_eq_true, List.isEmpty_iff] at idle
    obtain ⟨taken', carries', outcome⟩ := ih (carries.refilled idle.1 refilled)
    obtain ⟨order, -, ended, -⟩ := refill_spec refilled
    rw [ended] at outcome
    refine ⟨taken', carries', outcome.imp_right fun ⟨result, all, held⟩ => ⟨result, all, ?_⟩⟩
    rw [← List.append_eq_nil_iff, order, List.append_eq_nil_iff] at held
    exact held
  | case4 reader source _ busy reason failed =>
    obtain ⟨flow, called⟩ := inverse.accepts (carries.within put begins hasRoom)
    rw [called] at failed
    cases failed
  | case5 reader source _ busy flow called next =>
    rename_i produced
    have within := carries.within put begins hasRoom
    have carries' := carries.called inverse within called
    by_cases silent : flow.output = []
    · have ended : reader.ended = true := by
        simpa [silent, inverse.endless within called] using produced
      obtain ⟨buffer, chunks, closing⟩ := carries.closed ended
      have order := carries'.order
      simp only [buffer, chunks, List.drop_nil, List.flatten_nil, List.append_nil] at order
      refine ⟨_, carries', .inr ⟨by simp [silent, closing], by simpa [buffer] using order, .inl ?_⟩⟩
      rw [inverse.prompt within called silent]
      simpa [buffer] using congrArg plain order
    · exact ⟨_, carries', .inl ⟨flow.output, silent, rfl⟩⟩
  | case6 reader source _ busy flow called next silent consumed =>
    rename_i ih
    have within := carries.within put begins hasRoom
    have no_output := (of_silent silent).1
    have held := inverse.prompt within called no_output
    have carries' := carries.called inverse within called
    rw [no_output, List.append_nil] at carries'
    obtain ⟨taken', carries'', outcome⟩ := ih carries'
    refine ⟨taken', carries'', outcome.imp_right fun ⟨result, all, left⟩ => ⟨result, all, .inl ?_⟩⟩
    rcases left with done | ⟨-, buffer, chunks⟩
    · exact done
    · have order := carries'.order
      rw [buffer, chunks, List.append_nil, List.append_nil] at order
      rw [held, order]
  | case7 reader source _ busy flow called next silent nothing =>
    exact absurd (progress_of_busy inverse (carries.within put begins hasRoom) called busy silent)
      nothing
  | case8 reader source _ busy flow called next silent nothing =>
    exact absurd (progress_of_busy inverse (carries.within put begins hasRoom) called busy silent)
      nothing

/-- Reading changes nothing about whether the stream below ends. -/
theorem ended_poll (d : Decompressor τ) (room : Nat) (reader : DeflateReader τ) (source : Source) :
    (reader.poll d room source).2.2.ended = source.ended := by
  fun_induction DeflateReader.poll d room reader source with
  | case3 reader source _ _ reader' source' refilled ih => exact ih.trans (refill_spec refilled).2.2.1
  | case6 reader source _ _ flow _ next _ _ => rename_i ih; exact ih
  | case8 reader source _ _ flow _ next _ _ reader' source' refilled ih =>
    exact ih.trans (refill_spec refilled).2.2.1
  | _ => rfl

/-- Where nothing is buffered and the stream below stays open, an attempt to read brings nothing and
changes nothing. -/
theorem poll_stuck (buffer : reader.buffer = []) (chunks : source.chunks.flatten = [])
    (open_ : reader.ended = false) (open_' : source.ended = false) {room : Nat}
    (hasRoom : 0 < room) :
    (reader.poll d room source).1 = .pending ∧
      (reader.poll d room source).2.1.buffer = [] ∧
      (reader.poll d room source).2.2.chunks.flatten = [] ∧
      (reader.poll d room source).2.1.ended = false := by
  fun_induction DeflateReader.poll d room reader source with
  | case1 reader source none => omega
  | case2 reader source _ idle refused => exact ⟨rfl, buffer, chunks, open_⟩
  | case3 reader source _ idle reader' source' refilled ih =>
    obtain ⟨order, -, ended', ends, -⟩ := refill_spec refilled
    rw [buffer, chunks, List.append_nil, List.append_eq_nil_iff] at order
    rcases ends with ⟨ended, -⟩ | ⟨-, -, closing⟩
    · exact ih order.1 order.2 (ended.trans open_) (ended'.trans open_')
    · rw [open_'] at closing
      cases closing
  | case4 | case5 | case6 | case7 | case8 => simp_all

namespace Receiver

theorem carries_fresh (inverse : Inverse c cs d ds plain) :
    Carries c cs d ds plain [] [] [] (fresh ds).reader (fresh ds).source := by
  have nothing := (Sender.sound_fresh inverse).plain rfl
  exact {
    state := .start
    order := rfl
    closed := nofun
    faithful := List.nil_prefix
    eager := fun _ _ => nothing.symm }

theorem carries_arrive {r : Receiver τ}
    (carries : Carries c cs d ds plain arrived taken r.delivered r.reader r.source)
    (open_ : r.source.ended = false) (chunk : Bytes) :
    Carries c cs d ds plain (arrived ++ chunk) taken (r.step d (.arrive chunk)).delivered
      (r.step d (.arrive chunk)).reader (r.step d (.arrive chunk)).source where
  state := carries.state
  order := by simp [step, ← carries.order]
  closed ended := by
    rw [show (r.step d (.arrive chunk)).reader = r.reader from rfl, carries.reading open_] at ended
    cases ended
  faithful := carries.faithful
  eager := carries.eager

/-- A stream below that is open stays so. -/
theorem ended_step (r : Receiver τ) (move : ReceiverMove) :
    (r.step d move).source.ended = r.source.ended := by
  cases move with
  | arrive chunk => rfl
  | read room => exact ended_poll d room r.reader r.source

theorem carries_step (inverse : Inverse c cs d ds plain) {s : σ} {written emitted : Bytes}
    (put : Emitted c cs s written emitted) {r : Receiver τ} (open_ : r.source.ended = false)
    {move : ReceiverMove} (begins : arrived ++ arrivals [move] <+: emitted)
    (carries : Carries c cs d ds plain arrived taken r.delivered r.reader r.source) :
    ∃ taken', Carries c cs d ds plain (arrived ++ arrivals [move]) taken' (r.step d move).delivered
      (r.step d move).reader (r.step d move).source := by
  cases move with
  | arrive chunk => exact ⟨taken, by simpa [arrivals] using carries_arrive carries open_ chunk⟩
  | read room =>
    simp only [arrivals, List.flatMap_cons, List.flatMap_nil, List.append_nil] at begins ⊢
    rcases Nat.eq_zero_or_pos room with rfl | hasRoom
    · refine ⟨taken, ?_⟩
      simpa [step, DeflateReader.poll, ReadResult.output] using carries
    · obtain ⟨taken', carries', -⟩ := poll_spec inverse put begins hasRoom carries
      exact ⟨taken', carries'⟩

/-- Whatever has arrived of a stream, and however it was read. -/
theorem carries_run (inverse : Inverse c cs d ds plain) {s : σ} {written emitted : Bytes}
    (put : Emitted c cs s written emitted) {moves : List ReceiverMove}
    (begins : arrivals moves <+: emitted) :
    let r := moves.foldl (step d) (fresh ds)
    r.source.ended = false ∧
      ∃ taken, Carries c cs d ds plain (arrivals moves) taken r.delivered r.reader r.source := by
  induction moves using List.reverseRecOn with
  | nil => exact ⟨rfl, [], carries_fresh inverse⟩
  | append_singleton moves move ih =>
    rw [arrivals, List.flatMap_append] at begins
    obtain ⟨open_, taken, carries⟩ := ih ((List.prefix_append ..).trans begins)
    rw [List.foldl_concat, arrivals, List.flatMap_append]
    exact ⟨(ended_step _ move).trans open_, carries_step inverse put open_ begins carries⟩

/-- Reading on where nothing is buffered. -/
theorem stuck_run {r : Receiver τ} (nothing : r.NothingBuffered) (open_ : r.reader.ended = false)
    (open_' : r.source.ended = false) (rooms : List Nat) :
    let r' := (rooms.map .read).foldl (step d) r
    r'.delivered = r.delivered ∧
      ∀ room, 0 < room → (r'.reader.poll d room r'.source).1 = .pending := by
  induction rooms generalizing r with
  | nil => exact ⟨rfl, fun room hasRoom => (poll_stuck nothing.1 nothing.2 open_ open_' hasRoom).1⟩
  | cons room rooms ih =>
    rcases Nat.eq_zero_or_pos room with rfl | hasRoom
    · have same : r.step d (.read 0) = r := by simp [step, DeflateReader.poll, ReadResult.output]
      simpa only [List.map_cons, List.foldl_cons, same] using ih nothing open_ open_'
    · obtain ⟨pending, buffer, chunks, ended⟩ :=
        poll_stuck nothing.1 nothing.2 open_ open_' hasRoom (d := d)
      have next := ih (r := r.step d (.read room)) ⟨buffer, chunks⟩ ended
        ((ended_step r (.read room)).trans open_')
      have same : (r.step d (.read room)).delivered = r.delivered := by
        simp [step, pending, ReadResult.output]
      simpa only [List.map_cons, List.foldl_cons, same] using next

end Receiver

/-- After a flush that was carried out and has arrived, in chunks of any sizes and with pieces of
any sizes read in between: what was delivered is a beginning of what was written. As long as that
is not all of it, reading goes on if and only if compressed bytes are buffered: with some it brings
the next bytes, and with none it brings nothing, however often it is tried. Only output that the
decompressor holds after it has taken in everything is kept back like this. -/
theorem flushed_delivered_unless_nothing_buffered (inverse : Inverse c cs d ds plain)
    (sent : List SenderMove) (received : List ReceiverMove)
    (flushed : (sent.foldl (Sender.step c) (.fresh cs)).Flushed)
    (handedOver : Receiver.arrivals received = (sent.foldl (Sender.step c) (.fresh cs)).wire) :
    let written := (sent.foldl (Sender.step c) (.fresh cs)).written
    let r := received.foldl (Receiver.step d) (.fresh ds)
    r.delivered <+: written ∧
      (r.delivered ≠ written → ¬r.NothingBuffered → ∀ room, 0 < room →
        ∃ output, output ≠ [] ∧ (r.reader.poll d room r.source).1 = .ready output ∧
          r.delivered ++ output <+: written) ∧
      (r.NothingBuffered → ∀ rooms : List Nat,
        let r' := (rooms.map .read).foldl (Receiver.step d) r
        r'.delivered = r.delivered ∧
          ∀ room, 0 < room → (r'.reader.poll d room r'.source).1 = .pending) ∧
      (Eager c cs d ds plain → r.NothingBuffered → r.delivered = written) := by
  intro written r
  obtain ⟨put, readable⟩ := Sender.plain_wire (Sender.sound_run inverse sent) flushed
  rw [← handedOver] at put readable
  obtain ⟨open_, taken, carries⟩ := Receiver.carries_run inverse put (List.prefix_refl _)
  refine ⟨carries.begins inverse put readable, fun missing buffered room hasRoom => ?_, fun nothing rooms => ?_,
    fun eager nothing => ?_⟩
  · obtain ⟨taken', carries', outcome⟩ :=
      poll_spec inverse put (List.prefix_refl _) hasRoom carries
    rcases outcome with ⟨output, some_output, ready⟩ | ⟨-, -, all | ⟨-, nothing⟩⟩
    · refine ⟨output, some_output, ready, ?_⟩
      rw [ready] at carries'
      exact carries'.begins inverse put readable
    · rw [readable] at all
      exact absurd all missing
    · exact absurd nothing buffered
  · exact Receiver.stuck_run nothing (carries.reading open_) open_ rooms
  · have order := carries.order
    rw [nothing.1, nothing.2, List.append_nil, List.append_nil] at order
    rw [carries.eager eager nothing.1, order, readable]

/-- A compressor that lets everything through. -/
def passing : Compressor Unit where
  feed s data := (s, data)
  sync s := (s, [])

/-- A decompressor of such streams, which takes in all of its input and keeps what there is no room
for. -/
def keeping : Decompressor Bytes where
  call kept input room := .ok {
    state := (kept ++ input).drop room
    consumed := input.length
    output := (kept ++ input).take room
    ended := false
    consumed_le := Nat.le_refl _
    output_le := List.length_take_le .. }

theorem written_of_passing {s : Unit} {written emitted : Bytes}
    (put : Emitted passing () s written emitted) : emitted = written := by
  induction put with
  | start => rfl
  | feed _ data ih => rw [ih]; rfl
  | sync _ ih => rw [ih]; exact List.append_nil _

theorem taken_of_keeping {kept taken given : Bytes} (got : Given keeping [] kept taken given) :
    taken = given ++ kept := by
  induction got with
  | start => rfl
  | call _ called ih =>
    obtain rfl := Except.ok.inj called
    simp [ih, List.take_append_drop]

section Keeping

variable {kept taken given input : Bytes} {room : Nat} {flow : Inflow Bytes input room}

theorem keeping_faithful (got : Given keeping [] kept taken given)
    (called : keeping.call kept input room = .ok flow) :
    given ++ flow.output <+: taken ++ input.take flow.consumed := by
  obtain rfl := Except.ok.inj called
  simp [taken_of_keeping got, List.take_prefix]

theorem keeping_progress (called : keeping.call kept input room = .ok flow) (some_input : input ≠ [])
    (_ : flow.output = []) : 0 < flow.consumed := by
  obtain rfl := Except.ok.inj called
  exact List.length_pos_iff.mpr some_input

theorem keeping_prompt (got : Given keeping [] kept taken given) (hasRoom : 0 < room)
    (called : keeping.call kept input room = .ok flow) (silent : flow.output = []) :
    given = taken ++ input.take flow.consumed := by
  obtain rfl := Except.ok.inj called
  have nothing := List.take_eq_nil_iff.mp silent
  simp_all [taken_of_keeping got, Nat.ne_of_gt hasRoom]

end Keeping

theorem inverse_passing_keeping : Inverse passing () keeping [] fun part => part where
  mono _ _ part := part
  sync put := by rw [written_of_passing put]; exact List.append_nil _
  accepts _ := ⟨_, rfl⟩
  endless _ called := by obtain rfl := Except.ok.inj called; rfl
  faithful within := keeping_faithful within.given
  progress _ := keeping_progress
  prompt within := keeping_prompt within.given within.room

/-- A piece of a first chunk that the decompressor takes in whole. -/
theorem receive_first_chunk {d : Decompressor τ} {start : τ} {chunk : Bytes} {room : Nat}
    (hasRoom : 0 < room) (short : chunk.length ≤ chunkSize) {flow : Inflow τ chunk room}
    (called : d.call start chunk room = .ok flow) (some_output : flow.output ≠ [])
    (some_bytes : chunk ≠ []) (whole : flow.consumed = chunk.length) :
    [.arrive chunk, .read room].foldl (Receiver.step d) (.fresh start) =
      { reader := { state := flow.state }, delivered := flow.output } := by
  have refilled : ({ state := start : DeflateReader τ }).refill { chunks := [chunk] } =
      some ({ state := start, buffer := chunk }, {}) := by
    simp [DeflateReader.refill, short]
  have polled : ({ state := start : DeflateReader τ }).poll d room { chunks := [chunk] } =
      (.ready flow.output, { state := flow.state }, {}) := by
    rw [DeflateReader.poll, if_neg (Nat.ne_of_gt hasRoom), if_pos (by simp)]
    split
    · next refused => cases refused.symm.trans refilled
    · next reader source again =>
      obtain ⟨rfl, rfl⟩ := Prod.mk.inj (Option.some.inj (again.symm.trans refilled))
      rw [DeflateReader.poll, if_neg (Nat.ne_of_gt hasRoom), if_neg (by simp [some_bytes])]
      simp [called, some_output, whole]
  simp [Receiver.step, Receiver.fresh, polled, ReadResult.output]

/-- The second of two bytes stays with a decompressor that has taken in all there is. -/
theorem second_byte_kept_back :
    let r := [.arrive [1, 2], .read 1].foldl (Receiver.step keeping) (.fresh [])
    r.delivered = [1] ∧ (r.reader.poll keeping 1 r.source).1 = .pending := by
  intro r
  have called : ∃ flow, keeping.call [] [1, 2] 1 = .ok flow ∧ flow.output = [1] ∧
    flow.consumed = 2 := ⟨_, rfl, rfl, rfl⟩
  obtain ⟨flow, called, output, consumed⟩ := called
  have reached : r = { reader := { state := flow.state }, delivered := [1] } := by
    rw [← output]
    exact receive_first_chunk Nat.one_pos (by decide) called (by simp [output]) (by simp) consumed
  obtain ⟨-, -, stuck, -⟩ := flushed_delivered_unless_nothing_buffered inverse_passing_keeping
    [.write [1, 2], .sync, .drain 2] [.arrive [1, 2], .read 1] ⟨rfl, rfl⟩ rfl
  have nothing : r.NothingBuffered := by
    rw [reached]
    exact ⟨rfl, rfl⟩
  exact ⟨by rw [reached], (stuck nothing []).2 1 Nat.one_pos⟩

/-- What a connection's compressor makes of two bytes and a flush. -/
def twoBytesWire : Bytes := [0x78, 0x01, 0, 2, 0, 0xfd, 0xff, 97, 98, 0, 0, 0, 0xff, 0xff]

/-- Two bytes that were flushed have arrived at a connection's decompressor, and one was read. The
other is not delivered, however often reading is tried. -/
theorem flushed_byte_not_delivered :
    let s := [.write [97, 98], .sync, .drain 64].foldl (Sender.step Deflater.compressor) (.fresh {})
    let r := [.arrive twoBytesWire, .read 1].foldl (Receiver.step Inflater.decompressor) (.fresh {})
    s.Flushed ∧ s.written = [97, 98] ∧ s.wire = twoBytesWire ∧ r.delivered = [97] ∧
      ∀ rooms : List Nat,
        let r' := (rooms.map .read).foldl (Receiver.step Inflater.decompressor) r
        r'.delivered = [97] ∧
          ∀ room, 0 < room → (r'.reader.poll Inflater.decompressor room r'.source).1 = .pending := by
  intro s r
  have synced : Deflater.compressor.sync { collected := [97, 98] } =
      ({ started := true }, twoBytesWire) := by
    simp only [Deflater.compressor]
    rw [if_neg (by decide), Deflater.storedBlocks, if_neg (by decide), Deflater.storedBlocks,
      if_pos (by decide)]
    rfl
  have sent : s = {
      writer := { state := { started := true }, written := 2 }
      written := [97, 98]
      wire := twoBytesWire } := by
    have fed : Deflater.compressor.feed {} [97, 98] = ({ collected := [97, 98] }, []) := rfl
    have short : twoBytesWire.length ≤ 64 := by decide
    simp [s, Sender.step, Sender.fresh, DeflateWriter.writeAll, DeflateWriter.write,
      DeflateWriter.sync, DeflateWriter.drain, fed, synced, short]
  have called : ∃ flow, Inflater.decompressor.call {} twoBytesWire 1 = .ok flow ∧
      flow.output = [97] ∧ flow.consumed = 14 :=
    ⟨_, rfl, by decide +kernel, by decide +kernel⟩
  obtain ⟨flow, called, output, consumed⟩ := called
  have reached : r = { reader := { state := flow.state }, delivered := [97] } := by
    rw [← output]
    exact receive_first_chunk Nat.one_pos (by decide) called (by simp [output]) (by decide) consumed
  have stuck := Receiver.stuck_run (d := Inflater.decompressor) (r := r)
    (by rw [reached]; exact ⟨rfl, rfl⟩) (by rw [reached]) (by rw [reached])
  have one : r.delivered = [97] := by rw [reached]
  rw [one] at stuck
  rw [sent]
  exact ⟨⟨rfl, rfl⟩, rfl, rfl, one, stuck⟩

end Datastream.Compression
