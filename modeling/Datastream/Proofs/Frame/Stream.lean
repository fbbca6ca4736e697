import Datastream.Frame
import Datastream.Proofs.Bytes

/-!
# Frames in a stream

A stream arrives in chunks, and after each chunk the codec cuts off what it can. More bytes behind a
buffer change neither the frame at its front nor the error there (`cut_append_of_frame`,
`cut_append_of_failed`), so cutting goes on where it stopped (`cutAll_append`). Hence only the
stream counts: the frames, and the error behind them, are those that cutting the whole stream at
once gives (`feed_outcome`).

The codec is asked by `decode` until it has no more.
-/
namespace Datastream.FrameCodec

/-- The frames of a stream that arrives in chunks, each put behind what the ones before it left.
An error ends the reading. -/
def feed (c : FrameCodec) (left : Bytes) : List Bytes → Frames
  | [] => ⟨[], left, none⟩
  | chunk :: chunks =>
    let frames := c.cutAll (left ++ chunk)
    match frames.failure with
    | some _ => frames
    | none =>
      let later := c.feed frames.rest chunks
      { later with payloads := frames.payloads ++ later.payloads }

def encodeAll (c : FrameCodec) (payloads : List Bytes) : Except Error Bytes :=
  List.flatten <$> payloads.mapM c.encode

/-- What a reader gets to see: the payloads, and the error behind them. -/
def Frames.outcome (frames : Frames) : List Bytes × Option Error := (frames.payloads, frames.failure)

section Cutting

variable {c : FrameCodec} {buffer payload rest : Bytes} {error : Error}

theorem cut_append_of_frame (h : c.cut buffer = .frame payload rest) (more : Bytes) :
    c.cut (buffer ++ more) = .frame payload (rest ++ more) := by
  unfold cut at h
  split at h
  · cases h
  · rename_i lengthBytes tail header
    dsimp only at h
    split at h
    · cases h
    · rename_i fits
      split at h
      · cases h
      · rename_i body
        cases h
        simp only [cut, Bytes.cut_append_of_cut header more, Bytes.cut_append_of_cut body more,
          if_neg fits]

theorem cut_append_of_failed (h : c.cut buffer = .failed error) (more : Bytes) :
    c.cut (buffer ++ more) = .failed error := by
  unfold cut at h
  split at h
  · cases h
  · rename_i lengthBytes tail header
    dsimp only at h
    split at h
    · rename_i oversized
      cases h
      simp only [cut, Bytes.cut_append_of_cut header more, if_pos oversized]
    · split at h <;> cases h

theorem cutAll_of_incomplete (h : c.cut buffer = .incomplete) :
    c.cutAll buffer = ⟨[], buffer, none⟩ := by
  rw [cutAll]
  split <;> simp_all

theorem cutAll_of_failed (h : c.cut buffer = .failed error) :
    c.cutAll buffer = ⟨[], buffer, some error⟩ := by
  rw [cutAll]
  split <;> simp_all

theorem cutAll_of_frame (h : c.cut buffer = .frame payload rest) :
    c.cutAll buffer =
      ⟨payload :: (c.cutAll rest).payloads, (c.cutAll rest).rest, (c.cutAll rest).failure⟩ := by
  rw [cutAll]
  split <;> simp_all

end Cutting

/-- Where cutting stops without an error, no frame is there yet. -/
theorem cut_rest_of_cutAll (c : FrameCodec) (buffer : Bytes)
    (clean : (c.cutAll buffer).failure = none) : c.cut (c.cutAll buffer).rest = .incomplete := by
  fun_induction cutAll c buffer with
  | case1 buffer h => exact h
  | case2 buffer error h => cases clean
  | case3 buffer payload rest h later ih => exact ih clean

/-- An error stands whatever arrives behind it. -/
theorem cutAll_append_of_failure (c : FrameCodec) (buffer more : Bytes) (error : Error)
    (failed : (c.cutAll buffer).failure = some error) :
    (c.cutAll (buffer ++ more)).outcome = (c.cutAll buffer).outcome := by
  fun_induction cutAll c buffer with
  | case1 buffer h => cases failed
  | case2 buffer error' h => rw [cutAll_of_failed (cut_append_of_failed h more)]; rfl
  | case3 buffer payload rest h later ih =>
    rw [cutAll_of_frame (cut_append_of_frame h more)]
    have same := ih failed
    simp only [Frames.outcome, Prod.mk.injEq] at same ⊢
    exact ⟨congrArg (payload :: ·) same.1, same.2⟩

/-- Without an error, cutting goes on with what was left and what arrives. -/
theorem cutAll_append (c : FrameCodec) (buffer more : Bytes)
    (clean : (c.cutAll buffer).failure = none) :
    c.cutAll (buffer ++ more) =
      let later := c.cutAll ((c.cutAll buffer).rest ++ more)
      { later with payloads := (c.cutAll buffer).payloads ++ later.payloads } := by
  fun_induction cutAll c buffer with
  | case1 buffer h => rfl
  | case2 buffer error h => cases clean
  | case3 buffer payload rest h later ih =>
    rw [cutAll_of_frame (cut_append_of_frame h more), ih clean]
    rfl

/-- Chunk by chunk or all at once: the same payloads and the same error, and with no error the same
bytes left over. The induction carries along that what is left holds no frame. -/
theorem feed_eq_cutAll (c : FrameCodec) (chunks : List Bytes) (left : Bytes)
    (open_end : c.cut left = .incomplete) :
    (c.feed left chunks).outcome = (c.cutAll (left ++ chunks.flatten)).outcome ∧
      ((c.feed left chunks).failure = none →
        (c.feed left chunks).rest = (c.cutAll (left ++ chunks.flatten)).rest) := by
  induction chunks generalizing left with
  | nil =>
    simp only [List.flatten_nil, List.append_nil, cutAll_of_incomplete open_end]
    exact ⟨rfl, fun _ => rfl⟩
  | cons chunk chunks ih =>
    rw [List.flatten_cons, ← List.append_assoc]
    cases failure : (c.cutAll (left ++ chunk)).failure with
    | some error =>
      have stopped : c.feed left (chunk :: chunks) = c.cutAll (left ++ chunk) := by
        simp only [feed, failure]
      rw [stopped, cutAll_append_of_failure c _ _ error failure]
      exact ⟨rfl, fun clean => by rw [failure] at clean; cases clean⟩
    | none =>
      obtain ⟨same, same_rest⟩ := ih (c.cutAll (left ++ chunk)).rest
        (cut_rest_of_cutAll c _ failure)
      simp only [Frames.outcome, Prod.mk.injEq] at same
      rw [cutAll_append c _ chunks.flatten failure]
      simp only [feed, failure, Frames.outcome, Prod.mk.injEq]
      exact ⟨⟨congrArg _ same.1, same.2⟩, same_rest⟩

theorem cut_nil (c : FrameCodec) : c.cut [] = .incomplete := rfl

theorem feed_outcome (c : FrameCodec) (chunks : List Bytes) :
    (c.feed [] chunks).outcome = (c.cutAll chunks.flatten).outcome :=
  (feed_eq_cutAll c chunks [] c.cut_nil).1

/-- A payload within the limit is read back, if its length fits the four bytes in front of it. -/
theorem cut_encode (c : FrameCodec) (payload rest : Bytes) (within : payload.length ≤ c.limit)
    (fits : payload.length < 4294967296) :
    c.cut (Bytes.ofNat 4 payload.length ++ payload ++ rest) = .frame payload rest := by
  rw [List.append_assoc]
  simp only [cut, Bytes.cut_ofNat_append, @Bytes.toNat_ofNat_of_lt 4 _ fits,
    if_neg (Nat.not_lt.mpr within), Bytes.cut_append]

theorem encodeInto_of_le (c : FrameCodec) (payload buffer : Bytes) (within : payload.length ≤ c.limit) :
    c.encodeInto payload buffer = .ok () (buffer ++ (Bytes.ofNat 4 payload.length ++ payload)) := by
  unfold encodeInto
  rw [if_neg (Nat.not_lt.mpr within), ← List.append_assoc]
  rfl

theorem encodeInto_of_lt (c : FrameCodec) (payload buffer : Bytes) (large : c.limit < payload.length) :
    c.encodeInto payload buffer = .error (.oversizedFrame payload.length) buffer := by
  unfold encodeInto
  rw [if_pos large]
  rfl

theorem encode_of_le (c : FrameCodec) (payload : Bytes) (within : payload.length ≤ c.limit) :
    c.encode payload = .ok (Bytes.ofNat 4 payload.length ++ payload) := by
  rw [encode, encodeInto_of_le c payload [] within, List.nil_append]

theorem encodeAll_cons (c : FrameCodec) (payload : Bytes) (payloads : List Bytes) (stream : Bytes)
    (within : payload.length ≤ c.limit) (later : c.encodeAll payloads = .ok stream) :
    c.encodeAll (payload :: payloads) = .ok (Bytes.ofNat 4 payload.length ++ payload ++ stream) := by
  cases written : payloads.mapM c.encode with
  | error e => simp [encodeAll, written, Functor.map, Except.map] at later
  | ok wires =>
    simp only [encodeAll, written, Functor.map, Except.map, Except.ok.injEq] at later
    subst later
    simp [encodeAll, List.mapM_cons, encode_of_le c payload within, written, bind, Except.bind,
      pure, Except.pure, Functor.map, Except.map]

/-- Payloads within the limit are written, and cutting what was written gives them back. -/
theorem cutAll_encodeAll (c : FrameCodec) (small : c.limit ≤ 4294967295) (payloads : List Bytes)
    (within : ∀ payload ∈ payloads, payload.length ≤ c.limit) :
    ∃ stream, c.encodeAll payloads = .ok stream ∧ c.cutAll stream = ⟨payloads, [], none⟩ := by
  induction payloads with
  | nil => exact ⟨[], rfl, cutAll_of_incomplete c.cut_nil⟩
  | cons payload payloads ih =>
    have here : payload.length ≤ c.limit := within payload (by simp)
    obtain ⟨stream, written, frames⟩ := ih (fun p member => within p (by simp [member]))
    refine ⟨_, encodeAll_cons c payload payloads stream here written, ?_⟩
    rw [cutAll_of_frame (cut_encode c payload stream here (by omega)), frames]

def fits (c : FrameCodec) (payload : Bytes) : Bool := payload.length ≤ c.limit

/-- A payload behind its length. -/
def frame (payload : Bytes) : Bytes := Bytes.ofNat 4 payload.length ++ payload

theorem encode_fits {c : FrameCodec} {payload : Bytes} (fits : c.fits payload = true) :
    c.encode payload = .ok (frame payload) :=
  c.encode_of_le payload (of_decide_eq_true fits)

theorem encode_oversized {c : FrameCodec} {payload : Bytes} (large : c.fits payload = false) :
    c.encode payload = .error (.oversizedFrame payload.length) := by
  rw [encode, encodeInto_of_lt c payload [] (Nat.lt_of_not_le (of_decide_eq_false large))]

theorem encodeAll_frames {c : FrameCodec} {payloads : List Bytes}
    (fit : ∀ payload ∈ payloads, c.fits payload = true) :
    c.encodeAll payloads = .ok (payloads.map frame).flatten := by
  induction payloads with
  | nil => rfl
  | cons payload payloads ih =>
    obtain ⟨here, rest⟩ := List.forall_mem_cons.mp fit
    exact c.encodeAll_cons payload payloads _ (of_decide_eq_true here) (ih rest)

/-- The frames of payloads that fit are cut into these payloads again. -/
theorem cutAll_frames {c : FrameCodec} (small : c.limit ≤ 4294967295) {payloads : List Bytes}
    (fit : ∀ payload ∈ payloads, c.fits payload = true) :
    c.cutAll (payloads.map frame).flatten = ⟨payloads, [], none⟩ := by
  obtain ⟨stream, encoded, cuts⟩ := c.cutAll_encodeAll small payloads fun payload member =>
    of_decide_eq_true (fit payload member)
  rw [encodeAll_frames fit] at encoded
  cases encoded
  exact cuts

/-- However a stream is cut into chunks, the codec delivers the same frames and then the same
error. For payloads within the limit the stream is there, and gives them back with nothing left. -/
theorem feed_independent_of_chunks (c : FrameCodec) :
    (c.limit ≤ 4294967295 → ∀ payloads : List Bytes,
      (∀ payload ∈ payloads, payload.length ≤ c.limit) →
      ∃ stream, c.encodeAll payloads = .ok stream ∧
        ∀ chunks : List Bytes, chunks.flatten = stream →
          c.feed [] chunks = ⟨payloads, [], none⟩) ∧
    ∀ chunks chunks' : List Bytes, chunks.flatten = chunks'.flatten →
      (c.feed [] chunks).payloads = (c.feed [] chunks').payloads ∧
      (c.feed [] chunks).failure = (c.feed [] chunks').failure := by
  constructor
  · intro small payloads within
    obtain ⟨stream, written, frames⟩ := cutAll_encodeAll c small payloads within
    refine ⟨stream, written, ?_⟩
    rintro chunks rfl
    obtain ⟨same, same_rest⟩ := feed_eq_cutAll c chunks [] c.cut_nil
    simp only [List.nil_append, frames, Frames.outcome, Prod.mk.injEq] at same same_rest
    calc c.feed [] chunks
        = ⟨(c.feed [] chunks).payloads, (c.feed [] chunks).rest, (c.feed [] chunks).failure⟩ := rfl
      _ = ⟨payloads, [], none⟩ := by rw [same.1, same_rest same.2, same.2]
  · intro chunks chunks' same_stream
    have same : (c.feed [] chunks).outcome = (c.feed [] chunks').outcome := by
      rw [feed_outcome, feed_outcome, same_stream]
    exact Prod.mk.inj same

/-- Three bytes and none, cut inside a length, at its end and in front of the last byte; and a
length above the limit, whose error does not wait for the bytes behind it. -/
theorem feed_of_cut_lengths :
    (⟨16⟩ : FrameCodec).limit ≤ 4294967295 ∧
    (∀ payload ∈ [[1, 2, 3], []], payload.length ≤ (⟨16⟩ : FrameCodec).limit) ∧
    FrameCodec.feed ⟨16⟩ [] [[0, 0], [0, 3], [], [1, 2, 3, 0, 0, 0], [0]] =
      ⟨[[1, 2, 3], []], [], none⟩ ∧
    [[0, 0, 0, 1], [7, 0, 0, 1, 0, 9]].flatten = [[0, 0, 0, 1, 7, 0, 0], [1, 0], [9]].flatten ∧
    (FrameCodec.feed ⟨16⟩ [] [[0, 0, 0, 1], [7, 0, 0, 1, 0, 9]]).failure =
      (FrameCodec.feed ⟨16⟩ [] [[0, 0, 0, 1, 7, 0, 0], [1, 0], [9]]).failure := by
  refine ⟨by decide, by decide, ?_, rfl, ?_⟩
  · obtain ⟨stream, written, delivered⟩ :=
      (feed_independent_of_chunks ⟨16⟩).1 (by decide) [[1, 2, 3], []] (by decide)
    have spelt : FrameCodec.encodeAll ⟨16⟩ [[1, 2, 3], []] = .ok [0, 0, 0, 3, 1, 2, 3, 0, 0, 0, 0] := rfl
    exact delivered _ (Except.ok.inj (spelt.symm.trans written))
  · exact ((feed_independent_of_chunks ⟨16⟩).2 [[0, 0, 0, 1], [7, 0, 0, 1, 0, 9]]
      [[0, 0, 0, 1, 7, 0, 0], [1, 0], [9]] rfl).2

end Datastream.FrameCodec
