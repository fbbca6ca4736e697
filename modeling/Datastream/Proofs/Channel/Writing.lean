import Datastream.Proofs.Channel.Reading
import Mathlib.Data.List.Induction
import Mathlib.Data.List.TakeWhile

/-!
# Writing

A payload is accepted when it is put into the outbox, and a frame is made of it when its turn comes to
be written. Only then is its size looked at: one above the limit ends the writing, and is dropped with
all that waits behind it (`Channel.writeNext`). So whenever payloads are sent and written, the frames on
the wire are those of the payloads accepted up to the first that is too large, in order
(`Writing.accepted_arrive_up_to_oversized`). What `Channel.flush` writes is what writing one payload after
another comes to (`Channel.flush_of_writes`).

A payload is accepted by `emit` and written in a turn of `write_loop`.
-/
namespace Datastream

namespace Channel

variable {σ : Type} [Linked σ]

def emit (c : Channel σ) (payload : Bytes) : Except Error Unit × Channel σ :=
  match Link.emit payload (Linked.link c.state) with
  | .ok _ link => (.ok (), { c with state := Linked.withLink link c.state })
  | .error error link => (.error error, { c with state := Linked.withLink link c.state })

/-- Writes the payload that has waited longest. If no frame can be made of it, writing ends. -/
def writeNext (c : Channel σ) : List Bytes × Channel σ :=
  let link := Linked.link c.state
  match link.closed, link.outbox with
  | false, payload :: rest =>
    match c.codec.encode payload with
    | .ok frame => ([frame], { c with state := Linked.withLink { link with outbox := rest } c.state })
    | .error _ => ([], c.endWriting)
  | _, _ => ([], c)

/-- What the writing side sees of a channel. -/
structure Sending where
  codec : FrameCodec
  outbox : List Bytes
  closed : Bool

def sending (c : Channel σ) : Sending :=
  ⟨c.codec, (Linked.link c.state).outbox, (Linked.link c.state).closed⟩

variable {c : Channel σ} (inPlace : LinkInPlace σ)

include inPlace in
theorem sending_withLink (link : Link) :
    sending { c with state := Linked.withLink link c.state } = ⟨c.codec, link.outbox, link.closed⟩ := by
  simp [sending, inPlace link c.state]

include inPlace in
theorem emit_accepted (opened : c.sending.closed = false) (payload : Bytes) :
    ∃ c', c.emit payload = (.ok (), c') ∧
      c'.sending = { c.sending with outbox := c.sending.outbox ++ [payload] } := by
  have link : (Linked.link c.state).closed = false := opened
  refine ⟨_, by simp only [emit, Link.emit, link]; rfl, (sending_withLink inPlace _).trans ?_⟩
  simp [sending, link]

include inPlace in
theorem emit_refused (closed : c.sending.closed = true) (payload : Bytes) :
    ∃ c', c.emit payload = (.error .connectionClosed, c') ∧ c'.sending = c.sending := by
  have link : (Linked.link c.state).closed = true := closed
  exact ⟨_, by simp only [emit, Link.emit, link]; rfl, sending_withLink inPlace _⟩

include inPlace in
theorem sending_endWriting : c.endWriting.sending = ⟨c.codec, [], true⟩ :=
  sending_withLink inPlace _

theorem writeNext_closed (closed : c.sending.closed = true) : c.writeNext = ([], c) := by
  have link : (Linked.link c.state).closed = true := closed
  simp [writeNext, link]

theorem writeNext_empty (empty : c.sending.outbox = []) : c.writeNext = ([], c) := by
  have link : (Linked.link c.state).outbox = [] := empty
  simp [writeNext, link]

include inPlace in
theorem writeNext_fits {payload : Bytes} {rest : List Bytes} (opened : c.sending.closed = false)
    (waits : c.sending.outbox = payload :: rest) (fits : c.codec.fits payload = true) :
    ∃ c', c.writeNext = ([FrameCodec.frame payload], c') ∧
      c'.sending = { c.sending with outbox := rest } := by
  have closed : (Linked.link c.state).closed = false := opened
  have outbox : (Linked.link c.state).outbox = payload :: rest := waits
  refine ⟨_, by simp only [writeNext, closed, outbox, FrameCodec.encode_fits fits]; rfl,
    (sending_withLink inPlace _).trans ?_⟩
  simp [sending, closed]

theorem writeNext_oversized {payload : Bytes} {rest : List Bytes}
    (opened : c.sending.closed = false) (waits : c.sending.outbox = payload :: rest)
    (large : c.codec.fits payload = false) : c.writeNext = ([], c.endWriting) := by
  have closed : (Linked.link c.state).closed = false := opened
  have outbox : (Linked.link c.state).outbox = payload :: rest := waits
  simp [writeNext, closed, outbox, FrameCodec.encode_oversized large]

omit [Linked σ] in
theorem encodeAll_eq (codec : FrameCodec) (payloads : List Bytes) :
    encodeAll codec payloads =
      ((payloads.takeWhile codec.fits).map FrameCodec.frame, payloads.all codec.fits) := by
  induction payloads with
  | nil => rfl
  | cons payload payloads ih =>
    cases fits : codec.fits payload with
    | true => simp [encodeAll, FrameCodec.encode_fits fits, ih, fits]
    | false => simp [encodeAll, FrameCodec.encode_oversized fits, fits]

theorem flush_closed (closed : c.sending.closed = true) : c.flush true = ([], c) := by
  have link : (Linked.link c.state).closed = true := closed
  simp [flush, link]

include inPlace in
/-- All that waits is written, up to the first payload that is too large. -/
theorem flush_open (opened : c.sending.closed = false) :
    (c.flush true).1 = (c.sending.outbox.takeWhile c.codec.fits).map FrameCodec.frame ∧
      (c.flush true).2.sending = ⟨c.codec, [], !c.sending.outbox.all c.codec.fits⟩ := by
  have closed : (Linked.link c.state).closed = false := opened
  have frames := encodeAll_eq c.codec (Linked.link c.state).outbox
  cases all : (Linked.link c.state).outbox.all c.codec.fits with
  | true =>
    rw [all] at frames
    simp only [flush, closed, frames]
    refine ⟨rfl, (sending_withLink inPlace _).trans ?_⟩
    simp [sending, all, closed]
  | false =>
    rw [all] at frames
    simp only [flush, closed, frames]
    refine ⟨rfl, (sending_endWriting inPlace).trans ?_⟩
    simp [sending, all]

end Channel

namespace Writing

variable {σ : Type} [Linked σ]

inductive Move (σ : Type) [Linked σ]
  | emit (payload : Bytes)
  | write
  /-- Anything else that happens to the channel. -/
  | aside (other : Aside (Channel.sending : Channel σ → Channel.Sending))

/-- What is seen of it: which payloads were accepted or refused, and which frames were written. -/
inductive Note
  | accepted (payload : Bytes)
  | refused (payload : Bytes)
  | wrote (frame : Bytes)

namespace Note

def accepted? : Note → Option Bytes
  | accepted payload => some payload
  | refused _ | wrote _ => none

def refused? : Note → Option Bytes
  | refused payload => some payload
  | accepted _ | wrote _ => none

def wrote? : Note → Option Bytes
  | wrote frame => some frame
  | accepted _ | refused _ => none

end Note

def step (c : Channel σ) : Move σ → List Note × Channel σ
  | .emit payload =>
    match c.emit payload with
    | (.ok _, c) => ([.accepted payload], c)
    | (.error _, c) => ([.refused payload], c)
  | .write =>
    let (frames, c) := c.writeNext
    (frames.map .wrote, c)
  | .aside other => ([], other.act c)

/-- The payloads that were accepted, oldest first. -/
def accepted (notes : List Note) : List Bytes := notes.filterMap Note.accepted?

def refused (notes : List Note) : List Bytes := notes.filterMap Note.refused?

def written (notes : List Note) : List Bytes := notes.filterMap Note.wrote?

theorem written_append (notes more : List Note) : written (notes ++ more) = written notes ++ written more :=
  List.filterMap_append ..

theorem step_write_eq (c : Channel σ) :
    step c .write = (c.writeNext.1.map .wrote, c.writeNext.2) := rfl

/-- Writing one payload after another, until none waits, comes to what flushing does at once. -/
theorem flush_of_writes (inPlace : LinkInPlace σ) (c : Channel σ) {turns : ℕ}
    (enough : c.sending.closed = false → c.sending.outbox.length ≤ turns) :
    written (noted step c (List.replicate turns .write)).1 = (c.flush true).1 ∧
      (noted step c (List.replicate turns .write)).2.sending = (c.flush true).2.sending := by
  induction turns generalizing c with
  | zero =>
    show [] = _ ∧ Channel.Sending.mk c.codec c.sending.outbox c.sending.closed = _
    cases link : c.sending.closed with
    | true =>
      rw [Channel.flush_closed link, ← link]
      exact ⟨rfl, rfl⟩
    | false =>
      obtain ⟨frames, sending⟩ := Channel.flush_open inPlace link
      rw [frames, sending, List.eq_nil_of_length_eq_zero (Nat.le_zero.mp (enough link))]
      exact ⟨rfl, rfl⟩
  | succ turns ih =>
    rw [List.replicate_succ, noted, step_write_eq, written_append]
    cases link : c.sending.closed with
    | true =>
      rw [Channel.writeNext_closed link]
      exact ih c (by simp [link])
    | false =>
      cases outbox : c.sending.outbox with
      | nil =>
        rw [Channel.writeNext_empty outbox]
        exact ih c (by simp [outbox])
      | cons payload rest =>
        obtain ⟨frames, sending⟩ := Channel.flush_open inPlace link
        rw [frames, sending, outbox]
        cases fits : c.codec.fits payload with
        | true =>
          obtain ⟨c', wrote, sending'⟩ := Channel.writeNext_fits inPlace link outbox fits
          have codec : c'.codec = c.codec := congrArg Channel.Sending.codec sending'
          have opened : c'.sending.closed = false := by rw [sending', link]
          have left : c'.sending.outbox = rest := by rw [sending']
          have fewer : rest.length ≤ turns := by
            have bound := enough link
            rw [outbox, List.length_cons] at bound
            omega
          obtain ⟨later, last⟩ := ih c' fun _ => by rw [left]; exact fewer
          obtain ⟨frames', sending''⟩ := Channel.flush_open inPlace opened
          rw [wrote, later, last, frames', sending'', left, codec]
          simp [written, Note.wrote?, fits]
        | false =>
          have ended : c.endWriting.sending = ⟨c.codec, [], true⟩ :=
            Channel.sending_endWriting inPlace
          have closed : c.endWriting.sending.closed = true := by rw [ended]
          obtain ⟨later, last⟩ := ih c.endWriting fun opened => by simp [ended] at opened
          rw [Channel.writeNext_oversized link outbox fits, later, last,
            Channel.flush_closed closed, ended]
          simp [written, fits]

/-- The frames of some payloads that fit have been written. While the link is open, what was accepted
besides waits, and nothing was refused. It closes with a payload that is too large: that one and all that
was accepted after it are lost. -/
structure Kept (codec : FrameCodec) (notes : List Note) (c : Channel σ) (sent : List Bytes) : Prop where
  same : c.codec = codec
  written : written notes = sent.map FrameCodec.frame
  fit : ∀ payload ∈ sent, codec.fits payload = true
  waits : c.sending.closed = false →
    accepted notes = sent ++ c.sending.outbox ∧ refused notes = []
  broken : c.sending.closed = true →
    ∃ large lost, accepted notes = sent ++ large :: lost ∧ codec.fits large = false

variable {codec : FrameCodec} {notes : List Note} {c : Channel σ} {sent : List Bytes}

/-- What happens besides is nothing to the writing side. -/
theorem Kept.congr (kept : Kept codec notes c sent) {c' : Channel σ} (same : c'.sending = c.sending) :
    Kept codec notes c' sent where
  same := (congrArg Channel.Sending.codec same).trans kept.same
  written := kept.written
  fit := kept.fit
  waits := by
    rw [same]
    exact kept.waits
  broken := by
    rw [same]
    exact kept.broken

variable (inPlace : LinkInPlace σ)

include inPlace in
theorem Kept.emit (kept : Kept codec notes c sent) (payload : Bytes) :
    Kept codec (notes ++ (step c (.emit payload)).1) (step c (.emit payload)).2 sent := by
  cases link : c.sending.closed with
  | false =>
    obtain ⟨c', emitted, sending⟩ := Channel.emit_accepted inPlace link payload
    obtain ⟨waits, quiet⟩ := kept.waits link
    simp only [step, emitted]
    constructor
    case same => exact (congrArg Channel.Sending.codec sending).trans kept.same
    case written => simpa [Writing.written, List.filterMap_cons, Note.wrote?] using kept.written
    case fit => exact kept.fit
    case waits =>
      intro _
      rw [sending]
      simp only [accepted, refused] at waits quiet ⊢
      simp [waits, quiet, Note.accepted?, Note.refused?]
    case broken =>
      intro closed
      rw [sending, link] at closed
      cases closed
  | true =>
    obtain ⟨c', emitted, sending⟩ := Channel.emit_refused inPlace link payload
    obtain ⟨large, lost, broken, oversized⟩ := kept.broken link
    simp only [step, emitted]
    constructor
    case same => exact (congrArg Channel.Sending.codec sending).trans kept.same
    case written => simpa [Writing.written, List.filterMap_cons, Note.wrote?] using kept.written
    case fit => exact kept.fit
    case waits =>
      intro opened
      rw [sending, link] at opened
      cases opened
    case broken =>
      intro _
      refine ⟨large, lost, ?_, oversized⟩
      simpa [accepted, List.filterMap_cons, Note.accepted?] using broken

include inPlace in
theorem Kept.write (kept : Kept codec notes c sent) :
    ∃ sent', Kept codec (notes ++ (step c .write).1) (step c .write).2 sent' := by
  have idle : c.writeNext = ([], c) → ∃ sent', Kept codec (notes ++ (step c .write).1)
      (step c .write).2 sent' := by
    intro still
    refine ⟨sent, ?_⟩
    simpa only [step, still, List.map_nil, List.append_nil] using kept
  cases link : c.sending.closed with
  | true => exact idle (Channel.writeNext_closed link)
  | false =>
    cases outbox : c.sending.outbox with
    | nil => exact idle (Channel.writeNext_empty outbox)
    | cons payload rest =>
      obtain ⟨waits, quiet⟩ := kept.waits link
      rw [outbox] at waits
      cases fits : c.codec.fits payload with
      | true =>
        obtain ⟨c', wrote, sending⟩ := Channel.writeNext_fits inPlace link outbox fits
        refine ⟨sent ++ [payload], ?_⟩
        simp only [step, wrote]
        constructor
        case same => exact (congrArg Channel.Sending.codec sending).trans kept.same
        case written =>
          have before := kept.written
          simp only [Writing.written] at before ⊢
          simp [before, Note.wrote?]
        case fit =>
          intro payload' member
          rcases List.mem_append.mp member with earlier | last
          · exact kept.fit payload' earlier
          · rw [List.mem_singleton.mp last, ← kept.same, fits]
        case waits =>
          intro _
          rw [sending]
          simp only [accepted, refused] at waits quiet ⊢
          simp [waits, quiet, Note.accepted?, Note.refused?]
        case broken =>
          intro closed
          rw [sending, link] at closed
          cases closed
      | false =>
        have sending : c.endWriting.sending = ⟨c.codec, [], true⟩ :=
          Channel.sending_endWriting inPlace
        refine ⟨sent, ?_⟩
        simp only [step, Channel.writeNext_oversized link outbox fits, List.map_nil, List.append_nil]
        constructor
        case same => exact kept.same
        case written => exact kept.written
        case fit => exact kept.fit
        case waits =>
          intro opened
          rw [sending] at opened
          cases opened
        case broken =>
          intro _
          exact ⟨payload, rest, waits, kept.same ▸ fits⟩

include inPlace in
theorem Kept.step (kept : Kept codec notes c sent) (m : Move σ) :
    ∃ sent', Kept codec (notes ++ (Writing.step c m).1) (Writing.step c m).2 sent' := by
  cases m with
  | emit payload => exact ⟨sent, kept.emit inPlace payload⟩
  | write => exact kept.write inPlace
  | aside other =>
    refine ⟨sent, ?_⟩
    simp only [Writing.step, List.append_nil]
    exact kept.congr (other.same c)

include inPlace in
/-- Whatever is sent, and whenever the writer has its turn. -/
theorem kept_run (c : Channel σ) (opened : c.sending.closed = false) (empty : c.sending.outbox = [])
    (moves : List (Move σ)) :
    ∃ sent, Kept c.codec (noted step c moves).1 (noted step c moves).2 sent := by
  induction moves using List.reverseRecOn with
  | nil =>
    refine ⟨[], rfl, rfl, List.forall_mem_nil _, ?_, ?_⟩
    · intro _
      exact ⟨empty.symm, rfl⟩
    · intro closed
      rw [show (noted step c []).2 = c from rfl, opened] at closed
      cases closed
  | append_singleton moves m ih =>
    obtain ⟨sent, kept⟩ := ih
    rw [noted_concat]
    exact kept.step inPlace m

include inPlace in
/-- When the writer has written all it can, the frames of what was accepted up to the first payload that is
too large are written, whatever was written by then. -/
theorem Kept.flushed (kept : Kept codec notes c sent) :
    Writing.written notes ++ (c.flush true).1 =
      ((accepted notes).takeWhile codec.fits).map FrameCodec.frame := by
  rw [kept.written]
  cases link : c.sending.closed with
  | false =>
    obtain ⟨waits, -⟩ := kept.waits link
    rw [(Channel.flush_open inPlace link).1, waits, kept.same,
      List.takeWhile_append_of_pos kept.fit, List.map_append]
  | true =>
    obtain ⟨large, lost, broken, oversized⟩ := kept.broken link
    have stops : (large :: lost).takeWhile codec.fits = [] := by
      rw [List.takeWhile_cons, oversized]
      rfl
    rw [Channel.flush_closed link, broken, List.takeWhile_append_of_pos kept.fit, stops]
    simp

/-- Nothing is refused unless something too large was accepted. -/
theorem Kept.refused_nil (kept : Kept codec notes c sent)
    (fit : ∀ payload ∈ accepted notes, codec.fits payload = true) : refused notes = [] := by
  cases link : c.sending.closed with
  | false => exact (kept.waits link).2
  | true =>
    obtain ⟨large, lost, broken, oversized⟩ := kept.broken link
    have fits := fit large (by simp [broken])
    rw [oversized] at fits
    cases fits

/-- Frames that make up the same bytes as the frames of a longer list are not fewer. -/
theorem takeWhile_frames_iff (fits : Bytes → Bool) (payloads : List Bytes) :
    ((payloads.takeWhile fits).map FrameCodec.frame).flatten =
        (payloads.map FrameCodec.frame).flatten ↔
      ∀ payload ∈ payloads, fits payload = true := by
  induction payloads with
  | nil => simp
  | cons payload payloads ih =>
    cases here : fits payload with
    | true => simp [here, ih]
    | false =>
      have longer : (FrameCodec.frame payload).length ≠ 0 := by
        simp [FrameCodec.frame, Bytes.length_ofNat]
      constructor
      · intro same
        have lengths := congrArg List.length same
        simp [here] at lengths
        omega
      · intro all
        have fit := all payload List.mem_cons_self
        rw [here] at fit
        cases fit

/-- Whenever payloads are sent and written: what has been written at any time are frames of accepted
payloads, from the first on and in order; and when the writer has written all it can, the frames of what
was accepted up to the first payload that is too large have arrived. So everything that was accepted
arrives just if nothing accepted was too large, and nothing is refused then. A codec of the same limit
cuts out of the bytes just what has arrived. -/
theorem accepted_arrive_up_to_oversized (c : Channel σ) (opened : c.sending.closed = false)
    (empty : c.sending.outbox = []) (moves : List (Move σ)) (inPlace : LinkInPlace σ) :
    let notes := (noted step c moves).1
    let last := (noted step c moves).2
    let arrived := written notes ++ (last.flush true).1
    let fitting := (accepted notes).takeWhile c.codec.fits
    written notes <+: (accepted notes).map FrameCodec.frame ∧
      arrived = fitting.map FrameCodec.frame ∧
      (arrived.flatten = ((accepted notes).map FrameCodec.frame).flatten ↔
        ∀ payload ∈ accepted notes, payload.length ≤ c.codec.limit) ∧
      ((∀ payload ∈ accepted notes, payload.length ≤ c.codec.limit) → refused notes = []) ∧
      (c.codec.limit ≤ 4294967295 → c.codec.cutAll arrived.flatten = ⟨fitting, [], none⟩) := by
  intro notes last arrived fitting
  obtain ⟨sent, kept⟩ := kept_run inPlace c opened empty moves
  have all : arrived = fitting.map FrameCodec.frame := kept.flushed inPlace
  have fits_iff : (∀ payload ∈ accepted notes, c.codec.fits payload = true) ↔
      ∀ payload ∈ accepted notes, payload.length ≤ c.codec.limit := by
    simp [FrameCodec.fits]
  refine ⟨?onWire, all, ?whole, ?refused, ?cut⟩
  case onWire =>
    have before : written notes <+: arrived := List.prefix_append ..
    rw [all] at before
    exact before.trans ((List.takeWhile_prefix _).map _)
  case whole =>
    rw [all, ← fits_iff]
    exact takeWhile_frames_iff ..
  case refused =>
    rw [← fits_iff]
    exact kept.refused_nil
  case cut =>
    intro small
    rw [all]
    exact FrameCodec.cutAll_frames small fun payload member => List.mem_takeWhile_imp member

/-- The writer has its turn when two payloads wait that fit, and then when one waits that is too large:
the three that fit arrive, and what was accepted behind the fourth does not. -/
theorem three_arrive_of_five :
    let moves : List (Move Link) := [.emit [1], .emit [2, 3], .write, .emit [4, 5, 6], .write,
      .emit [0, 0, 0, 0, 0], .emit [7]]
    let notes := (noted step (Channel.start ⟨4⟩ [.echo] {}) moves).1
    let last := (noted step (Channel.start ⟨4⟩ [.echo] {}) moves).2
    accepted notes = [[1], [2, 3], [4, 5, 6], [0, 0, 0, 0, 0], [7]] ∧
      written notes ++ (last.flush true).1 = [[0, 0, 0, 1, 1], [0, 0, 0, 2, 2, 3], [0, 0, 0, 3, 4, 5, 6]] := by
  intro moves notes last
  have arrives := (accepted_arrive_up_to_oversized (Channel.start ⟨4⟩ [.echo] ({} : Link)) rfl rfl
    moves fun _ _ => rfl).2.1
  exact ⟨rfl, arrives⟩

/-- A payload above the limit is accepted, and so is one behind it, and neither arrives. -/
theorem accepted_but_lost :
    let moves : List (Move Link) := [.emit [0, 0, 0, 0, 0], .emit [7]]
    let notes := (noted step (Channel.start ⟨4⟩ [.echo] {}) moves).1
    let last := (noted step (Channel.start ⟨4⟩ [.echo] {}) moves).2
    accepted notes = [[0, 0, 0, 0, 0], [7]] ∧ written notes ++ (last.flush true).1 = [] :=
  ⟨rfl, rfl⟩

end Writing
end Datastream
