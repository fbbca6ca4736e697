import Datastream.Proofs.Frame.Stream

/-!
# Streams that end

When a stream has ended, frames are cut off until none is left, and what is left then is part of a
frame or nothing (`drain`). A stream of frames that is cut short anywhere begins with the frames that
end before the cut, and a proper part of the next one is left (`cut_short_cases`). Hence a stream that
was cut short gives the payloads of these frames and no other, and it ends cleanly just if it was cut
where a frame ends (`cut_short_yields_whole_frames`).

Frames are cut off by `decode` and, at the end, by `decode_eof`.
-/
namespace Datastream.FrameCodec

theorem cut_of_cutLast_frame {c : FrameCodec} {buffer payload rest : Bytes}
    (h : c.cutLast buffer = .frame payload rest) : c.cut buffer = .frame payload rest := by
  unfold cutLast at h
  split at h
  · split at h <;> cases h
  · exact h

/-- Cuts frames off as long as there are any when no more bytes will come: the payloads, the bytes
that are left, and the error if these are part of a frame. -/
def drain (c : FrameCodec) (buffer : Bytes) : Frames :=
  match _h : c.cutLast buffer with
  | .incomplete => ⟨[], buffer, none⟩
  | .failed error => ⟨[], buffer, some error⟩
  | .frame payload rest =>
    let later := c.drain rest
    { later with payloads := payload :: later.payloads }
termination_by buffer.length
decreasing_by exact length_of_cut (cut_of_cutLast_frame _h)

/-- How a stream ends of which these bytes are left and no frame can be cut off. -/
def ending (left : Bytes) : Option Error := if left.isEmpty then none else some .connectionClosed

theorem drain_of_incomplete {c : FrameCodec} {buffer : Bytes} (h : c.cut buffer = .incomplete) :
    c.drain buffer = ⟨[], buffer, ending buffer⟩ := by
  have last : c.cutLast buffer = if buffer.isEmpty then .incomplete else .failed .connectionClosed := by
    rw [cutLast, h]
  rw [drain, ending]
  cases empty : buffer.isEmpty <;> rw [empty] at last <;> split <;> simp_all

theorem drain_of_frame {c : FrameCodec} {buffer payload rest : Bytes}
    (h : c.cut buffer = .frame payload rest) :
    c.drain buffer =
      ⟨payload :: (c.drain rest).payloads, (c.drain rest).rest, (c.drain rest).failure⟩ := by
  have last : c.cutLast buffer = .frame payload rest := by rw [cutLast, h]
  rw [drain]
  split <;> simp_all

/-- At the end of a stream the same frames are cut off as before it; only what is left counts as an
error. -/
theorem drain_eq_cutAll (c : FrameCodec) (buffer : Bytes) (clean : (c.cutAll buffer).failure = none) :
    c.drain buffer = { c.cutAll buffer with failure := ending (c.cutAll buffer).rest } := by
  fun_induction cutAll c buffer with
  | case1 buffer h => exact drain_of_incomplete h
  | case2 buffer error h => cases clean
  | case3 buffer payload rest h later ih => rw [drain_of_frame h, ih clean]

/-- A proper part of a frame is not cut. -/
theorem cut_part_of_frame {c : FrameCodec} {payload left more : Bytes} (within : payload.length ≤ c.limit)
    (fits : payload.length < 4294967296) (part : frame payload = left ++ more) (proper : more ≠ []) :
    c.cut left = .incomplete := by
  cases cuts : c.cut left with
  | incomplete => rfl
  | failed error =>
    -- more bytes would leave the error, and the whole frame is cut without one
    have whole := cut_encode c payload [] within fits
    rw [List.append_nil, ← frame, part, cut_append_of_failed cuts more] at whole
    cases whole
  | frame payload' rest =>
    have whole := cut_encode c payload [] within fits
    rw [List.append_nil, ← frame, part, cut_append_of_frame cuts more] at whole
    simp only [Cut.frame.injEq, List.append_eq_nil_iff] at whole
    exact absurd whole.2.2 proper

/-- A stream of frames that is cut short is some whole frames and a proper part of the next one, or
nothing, behind them. -/
theorem cut_short_cases (payloads : List Bytes) (position : Nat) :
    ∃ whole later left, payloads = whole ++ later ∧
      (payloads.map frame).flatten.take position = (whole.map frame).flatten ++ left ∧
      (later = [] → left = []) ∧
      ∀ payload rest, later = payload :: rest → ∃ more, frame payload = left ++ more ∧ more ≠ [] := by
  induction payloads generalizing position with
  | nil => exact ⟨[], [], [], rfl, by simp, fun _ => rfl, nofun⟩
  | cons payload payloads ih =>
    by_cases fits : (frame payload).length ≤ position
    · obtain ⟨whole, later, left, rfl, front, clean, part⟩ := ih (position - (frame payload).length)
      refine ⟨payload :: whole, later, left, rfl, ?_, clean, part⟩
      rw [List.map_cons, List.flatten_cons, List.take_append, List.take_of_length_le fits, front,
        List.map_cons, List.flatten_cons, List.append_assoc]
    · have short : position ≤ (frame payload).length := by omega
      refine ⟨[], payload :: payloads, (frame payload).take position, rfl, ?_, nofun, ?_⟩
      · rw [List.map_cons, List.flatten_cons, List.take_append_of_le_length short]
        rfl
      · rintro _ _ ⟨⟩
        refine ⟨(frame payload).drop position, (List.take_append_drop ..).symm, ?_⟩
        rw [Ne, List.drop_eq_nil_iff]
        exact fits

/-- Frames, and a part of one more or nothing behind them, are cut up to that part. -/
theorem cutAll_frames_append {c : FrameCodec} (small : c.limit ≤ 4294967295) {whole : List Bytes}
    (fit : ∀ payload ∈ whole, c.fits payload = true) {left : Bytes}
    (short : c.cut left = .incomplete) :
    c.cutAll ((whole.map frame).flatten ++ left) = ⟨whole, left, none⟩ := by
  have frames := cutAll_frames small fit
  rw [cutAll_append c _ left (by rw [frames]), frames, List.nil_append, cutAll_of_incomplete short]
  simp

/-- What is cut off while a stream arrives and what is cut off when it has ended are, together, what is
cut off the stream at once. -/
theorem feed_drain (c : FrameCodec) {chunks : List Bytes} {last left : Bytes} {whole : List Bytes}
    (cuts : c.cutAll (chunks.flatten ++ last) = ⟨whole, left, none⟩) :
    (c.feed [] chunks).failure = none ∧
      (c.feed [] chunks).payloads ++ (c.drain ((c.feed [] chunks).rest ++ last)).payloads = whole ∧
      (c.drain ((c.feed [] chunks).rest ++ last)).failure = ending left := by
  obtain ⟨same, same_rest⟩ := feed_eq_cutAll c chunks [] c.cut_nil
  simp only [List.nil_append, Frames.outcome, Prod.mk.injEq] at same same_rest
  have clean : (c.cutAll chunks.flatten).failure = none := by
    cases failure : (c.cutAll chunks.flatten).failure with
    | none => rfl
    | some error =>
      have stands := cutAll_append_of_failure c _ last error failure
      rw [cuts, Frames.outcome, Frames.outcome, failure] at stands
      cases (Prod.mk.inj stands).2
  have stream := cutAll_append c chunks.flatten last clean
  rw [cuts] at stream
  simp only [Frames.mk.injEq] at stream
  obtain ⟨payloads, rest, failure⟩ := stream
  have fed : (c.feed [] chunks).failure = none := same.2.trans clean
  have drained := drain_eq_cutAll c ((c.cutAll chunks.flatten).rest ++ last) failure.symm
  refine ⟨fed, ?_, ?_⟩
  · rw [same_rest fed, drained, same.1]
    exact payloads.symm
  · rw [same_rest fed, drained, rest]

/-- Whether a position is where one of the frames of payloads ends, or the front of the stream. -/
def IsBoundary (c : FrameCodec) (payloads : List Bytes) (position : Nat) : Prop :=
  ∃ count written, c.encodeAll (payloads.take count) = .ok written ∧ written.length = position

section Position

variable {whole later : List Bytes} {left : Bytes} {position : Nat}

/-- The first frames are no longer than all. -/
theorem length_take_frames_le (payloads : List Bytes) (count : Nat) :
    (((payloads.take count).map frame).flatten).length ≤ ((payloads.map frame).flatten).length := by
  have split := congrArg (fun l => (l.map frame).flatten.length) (List.take_append_drop count payloads)
  simp only [List.map_append, List.flatten_append, List.length_append] at split
  omega

/-- The frames that end before the cut are the whole ones. -/
theorem le_length_whole_iff (cutAt : ((whole.map frame).flatten).length + left.length = position)
    (proper : ∀ payload rest, later = payload :: rest → left.length < (frame payload).length)
    {count : Nat} (within : count ≤ (whole ++ later).length) :
    count ≤ whole.length ↔
      ((((whole ++ later).take count).map frame).flatten).length ≤ position := by
  constructor
  · intro le
    have shorter := length_take_frames_le whole count
    rw [List.take_append_of_le_length le]
    omega
  · intro le
    refine Nat.le_of_not_lt fun beyond => ?_
    cases later with
    | nil =>
      rw [List.append_nil] at within
      omega
    | cons payload rest =>
      have short := proper payload rest rfl
      obtain ⟨more, rfl⟩ : ∃ more, count = whole.length + (more + 1) :=
        ⟨count - whole.length - 1, by omega⟩
      rw [List.take_length_add_append, List.take_succ_cons, List.map_append, List.flatten_append,
        List.map_cons, List.flatten_cons, List.length_append, List.length_append] at le
      omega

/-- Nothing is left of a stream just if it is cut where a frame ends. -/
theorem nothing_left_iff {c : FrameCodec} (fit : ∀ payload ∈ whole ++ later, c.fits payload = true)
    (cutAt : ((whole.map frame).flatten).length + left.length = position)
    (proper : ∀ payload rest, later = payload :: rest → left.length < (frame payload).length) :
    left = [] ↔ c.IsBoundary (whole ++ later) position := by
  have encoded (count : Nat) : c.encodeAll ((whole ++ later).take count) =
      .ok (((whole ++ later).take count).map frame).flatten :=
    encodeAll_frames fun payload member => fit payload (List.mem_of_mem_take member)
  constructor
  · rintro rfl
    exact ⟨whole.length, _, encoded _, by rw [List.take_left]; exact cutAt⟩
  · rintro ⟨count, written, writes, ends⟩
    rw [encoded] at writes
    cases writes
    rw [List.take_eq_take_min] at ends
    have inWhole := (le_length_whole_iff cutAt proper (Nat.min_le_right count _)).mpr (Nat.le_of_eq ends)
    rw [List.take_append_of_le_length inWhole] at ends
    have shorter := length_take_frames_le whole (min count (whole ++ later).length)
    exact List.length_eq_zero_iff.mp (by omega)

end Position

/-- A stream of frames is cut short anywhere, and what comes before the cut arrives in chunks, after
each of which the codec cuts off what it can; the last bytes may come with the end. Then what it
delivers while they arrive and when the stream has ended are the payloads of the frames that end
before the cut, and no other. The stream ends cleanly if it was cut where a frame ends, and as a
connection that was closed if not; no frame is ever found too large. -/
theorem cut_short_yields_whole_frames (c : FrameCodec) (small : c.limit ≤ 4294967295)
    (payloads : List Bytes) (within : ∀ payload ∈ payloads, payload.length ≤ c.limit) :
    ∃ stream, c.encodeAll payloads = .ok stream ∧
      ∀ position ≤ stream.length, ∀ (chunks : List Bytes) (last : Bytes),
        chunks.flatten ++ last = stream.take position →
        let fed := c.feed [] chunks
        let drained := c.drain (fed.rest ++ last)
        ∃ count ≤ payloads.length,
          (∀ k ≤ payloads.length, ∃ written, c.encodeAll (payloads.take k) = .ok written ∧
            (k ≤ count ↔ written.length ≤ position)) ∧
          fed.payloads ++ drained.payloads = payloads.take count ∧
          fed.failure = none ∧
          (c.IsBoundary payloads position → drained.failure = none) ∧
          (¬c.IsBoundary payloads position → drained.failure = some .connectionClosed) := by
  have fit : ∀ payload ∈ payloads, c.fits payload = true := fun payload member =>
    decide_eq_true (within payload member)
  refine ⟨_, encodeAll_frames fit, fun position inside chunks last arrives => ?_⟩
  obtain ⟨whole, later, left, rfl, front, clean, part⟩ := cut_short_cases payloads position
  have cutAt := congrArg List.length front
  rw [List.length_take_of_le inside, List.length_append] at cutAt
  have proper : ∀ payload rest, later = payload :: rest → left.length < (frame payload).length := by
    intro payload rest next
    obtain ⟨more, split, some_more⟩ := part payload rest next
    have longer := List.length_pos_iff.mpr some_more
    rw [split, List.length_append]
    omega
  have short : c.cut left = .incomplete := by
    cases later with
    | nil => rw [clean rfl, cut_nil]
    | cons payload rest =>
      obtain ⟨more, split, some_more⟩ := part payload rest rfl
      have here : payload.length ≤ c.limit := within payload (by simp)
      exact cut_part_of_frame here (by omega) split some_more
  have cuts : c.cutAll (chunks.flatten ++ last) = ⟨whole, left, none⟩ := by
    rw [arrives, front]
    exact cutAll_frames_append small (fun payload member => fit payload (by simp [member])) short
  obtain ⟨fed, delivered, ended⟩ := feed_drain c cuts
  have boundary := nothing_left_iff fit cutAt.symm proper
  refine ⟨whole.length, by simp, fun k inList => ?_, ?_, fed, fun atEnd => ?_, fun inFrame => ?_⟩
  · exact ⟨_, encodeAll_frames fun payload member => fit payload (List.mem_of_mem_take member),
      le_length_whole_iff cutAt.symm proper inList⟩
  · rw [delivered, List.take_left]
  · rw [ended, boundary.mpr atEnd]
    rfl
  · have some_left : left ≠ [] := fun nothing => inFrame (boundary.mp nothing)
    rw [ended, ending, if_neg (by simpa using some_left)]

/-- Three bytes and none, cut in the second length: the three bytes are delivered, one part of the stream
having been read before it ended and the other with its end, and then the cut is noticed. -/
theorem cut_in_second_length :
    (⟨16⟩ : FrameCodec).limit ≤ 4294967295 ∧
    (∀ payload ∈ [[1, 2, 3], []], payload.length ≤ (⟨16⟩ : FrameCodec).limit) ∧
    let fed := FrameCodec.feed ⟨16⟩ [] [[0, 0]]
    let drained := FrameCodec.drain ⟨16⟩ (fed.rest ++ [0, 3, 1, 2, 3, 0, 0])
    fed.payloads ++ drained.payloads = [[1, 2, 3]] ∧ drained.failure = some .connectionClosed := by
  refine ⟨by decide, by decide, ?_⟩
  obtain ⟨stream, written, cutAt⟩ :=
    cut_short_yields_whole_frames ⟨16⟩ (by decide) [[1, 2, 3], []] (by decide)
  have spelt : FrameCodec.encodeAll ⟨16⟩ [[1, 2, 3], []] = .ok [0, 0, 0, 3, 1, 2, 3, 0, 0, 0, 0] := rfl
  cases spelt.symm.trans written
  obtain ⟨count, atMost, ends, delivered, -, -, noticed⟩ :=
    cutAt 9 (by decide) [[0, 0]] [0, 3, 1, 2, 3, 0, 0] rfl
  have first : 1 ≤ count := by
    obtain ⟨front, writes, iff⟩ := ends 1 (by decide)
    cases writes
    exact iff.mpr (by decide)
  have not_second : ¬2 ≤ count := by
    obtain ⟨front, writes, iff⟩ := ends 2 (by decide)
    cases writes
    exact fun le => absurd (iff.mp le) (by decide)
  obtain rfl : count = 1 := by omega
  refine ⟨delivered, noticed ?_⟩
  rintro ⟨k, front, writes, here⟩
  have listed : [[1, 2, 3], []].take k = ([[1, 2, 3], []] : List Bytes).take (min k 2) :=
    List.take_eq_take_min
  rw [listed] at writes
  have small : min k 2 = 0 ∨ min k 2 = 1 ∨ min k 2 = 2 := by omega
  rcases small with least | least | least <;> rw [least] at writes <;> cases writes <;> cases here

end Datastream.FrameCodec
