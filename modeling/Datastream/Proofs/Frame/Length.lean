import Datastream.Proofs.Frame.Stream

/-!
# Lengths beyond 32 bits

The limit of a codec is any number, but the length in front of a payload has 32 bits. Within the limit
a payload is always written, and of what was written a reader takes as many bytes as the field says
(`cut_frame`): the whole payload if its length fits the field, and else a shorter front of it, whose
other bytes are then read as if they were frames. Hence writing is all or nothing for every payload
just if the limit itself fits the field (`all_or_nothing_up_to_32_bits`).

The limit is checked by `encode`, which then writes the length as a word.
-/
namespace Datastream.FrameCodec

/-- Writing the payload behind what a buffer holds is all or nothing: it is refused for its size and
the buffer stays as it is, or from what is appended the payload is cut and nothing else, whatever
comes behind. -/
def AllOrNothing (c : FrameCodec) (payload buffer : Bytes) : Prop :=
  c.encodeInto payload buffer = .error (.oversizedFrame payload.length) buffer ∨
  ∃ wire, c.encodeInto payload buffer = .ok () (buffer ++ wire) ∧
    c.cutAll wire = ⟨[payload], [], none⟩ ∧ ∀ more, c.cut (wire ++ more) = .frame payload more

section Field

variable {c : FrameCodec} {payload : Bytes}

/-- A reader takes of a payload what the low 32 bits of its length say. -/
theorem cut_frame (within : payload.length ≤ c.limit) (more : Bytes) :
    c.cut (frame payload ++ more) =
      .frame (payload.take (payload.length % 4294967296))
        (payload.drop (payload.length % 4294967296) ++ more) := by
  have field : (Bytes.ofNat 4 payload.length).toNat = payload.length % 4294967296 :=
    Bytes.toNat_ofNat 4 payload.length
  have shorter : payload.length % 4294967296 ≤ payload.length := Nat.mod_le _ _
  have allowed : ¬ c.limit < payload.length % 4294967296 := by omega
  have body : (payload ++ more).cut (payload.length % 4294967296) =
      some (payload.take (payload.length % 4294967296),
        payload.drop (payload.length % 4294967296) ++ more) := by
    rw [Bytes.cut_eq, if_pos (by rw [List.length_append]; omega), List.take_append_of_le_length shorter,
      List.drop_append_of_le_length shorter]
  rw [frame, List.append_assoc]
  simp only [cut, Bytes.cut_ofNat_append, field, body, if_neg allowed]

theorem cutAll_frame (within : payload.length ≤ c.limit) (fits : payload.length < 4294967296) :
    c.cutAll (frame payload) = ⟨[payload], [], none⟩ := by
  have first := cut_encode c payload [] within fits
  rw [List.append_nil] at first
  rw [frame, cutAll_of_frame first, cutAll_of_incomplete c.cut_nil]

/-- A payload whose length does not fit the field is not read back. -/
theorem cut_frame_ne (within : payload.length ≤ c.limit) (large : 4294967296 ≤ payload.length) :
    c.cut (frame payload ++ []) ≠ .frame payload [] := by
  intro whole
  rw [cut_frame within] at whole
  have same := congrArg List.length (Cut.frame.inj whole).1
  rw [List.length_take] at same
  omega

theorem allOrNothing_iff (c : FrameCodec) (payload buffer : Bytes) :
    c.AllOrNothing payload buffer ↔ c.limit < payload.length ∨ payload.length < 4294967296 := by
  rcases Nat.lt_or_ge c.limit payload.length with large | within
  · exact iff_of_true (.inl (encodeInto_of_lt c payload buffer large)) (.inl large)
  have written := encodeInto_of_le c payload buffer within
  rcases Nat.lt_or_ge payload.length 4294967296 with fits | large
  · apply iff_of_true ?_ (.inr fits)
    exact .inr ⟨frame payload, written, cutAll_frame within fits,
      fun more => cut_encode c payload more within fits⟩
  · apply iff_of_false ?_ (by omega)
    rintro (refused | ⟨wire, appended, -, read⟩)
    · rw [written] at refused
      cases refused
    · rw [written] at appended
      have spelt : frame payload = wire := List.append_cancel_left (EStateM.Result.ok.inj appended).2
      subst spelt
      exact cut_frame_ne within large (read [])

end Field

/-- A codec writes all or nothing of a payload just if it refuses it or the payload's length fits 32
bits, so it does so for every payload just if its limit fits them. Every other payload within the limit
is written too, and what is read back is the front of it that the low 32 bits of its length say. -/
theorem all_or_nothing_up_to_32_bits (c : FrameCodec) :
    (∀ payload buffer : Bytes, c.AllOrNothing payload buffer ↔
      c.limit < payload.length ∨ payload.length < 4294967296) ∧
    ((∀ payload buffer : Bytes, c.AllOrNothing payload buffer) ↔ c.limit < 4294967296) ∧
    ∀ payload buffer : Bytes, payload.length ≤ c.limit →
      ∃ wire, c.encodeInto payload buffer = .ok () (buffer ++ wire) ∧
        ∀ more, c.cut (wire ++ more) =
          .frame (payload.take (payload.length % 4294967296))
            (payload.drop (payload.length % 4294967296) ++ more) := by
  refine ⟨c.allOrNothing_iff, ?_, ?_⟩
  · constructor
    · intro always
      have largest := (c.allOrNothing_iff (List.replicate 4294967296 0) []).mp (always _ _)
      rw [List.length_replicate] at largest
      omega
    · intro small payload buffer
      apply (c.allOrNothing_iff payload buffer).mpr
      omega
  · intro payload buffer within
    exact ⟨frame payload, encodeInto_of_le c payload buffer within, cut_frame within⟩

/-- Three bytes behind another, and four gibibytes, of which nothing is read back. -/
theorem three_bytes_and_four_gibibytes :
    (⟨16⟩ : FrameCodec).AllOrNothing [1, 2, 3] [9] ∧
    (List.replicate 4294967296 (0 : UInt8)).length ≤ (⟨4294967296⟩ : FrameCodec).limit ∧
    ∃ wire, (⟨4294967296⟩ : FrameCodec).encodeInto (List.replicate 4294967296 0) [] =
        .ok () ([] ++ wire) ∧
      (⟨4294967296⟩ : FrameCodec).cut (wire ++ []) =
        .frame [] (List.replicate 4294967296 0 ++ []) := by
  have within : (List.replicate 4294967296 (0 : UInt8)).length ≤ (⟨4294967296⟩ : FrameCodec).limit :=
    Nat.le_of_eq List.length_replicate
  refine ⟨((all_or_nothing_up_to_32_bits ⟨16⟩).1 [1, 2, 3] [9]).mpr (.inr (by decide)), within, ?_⟩
  obtain ⟨wire, written, read⟩ :=
    (all_or_nothing_up_to_32_bits ⟨4294967296⟩).2.2 (List.replicate 4294967296 0) [] within
  refine ⟨wire, written, ?_⟩
  rw [read [], List.length_replicate, Nat.mod_self, List.take_zero, List.drop_zero]

/-- Four gibibytes pass a limit of as many bytes, and the length in front of them says zero: they are
neither refused nor read back. -/
theorem four_gibibytes_announced_as_none :
    ¬ (⟨4294967296⟩ : FrameCodec).AllOrNothing (List.replicate 4294967296 0) [] ∧
    (⟨4294967296⟩ : FrameCodec).encodeInto (List.replicate 4294967296 0) [] =
      .ok () ([0, 0, 0, 0] ++ List.replicate 4294967296 0) ∧
    (⟨4294967296⟩ : FrameCodec).cut ([0, 0, 0, 0] ++ List.replicate 4294967296 0) =
      .frame [] (List.replicate 4294967296 0) := by
  have zero : Bytes.ofNat 4 4294967296 = [0, 0, 0, 0] := rfl
  generalize content : List.replicate 4294967296 (0 : UInt8) = payload
  have length : payload.length = 4294967296 := by rw [← content, List.length_replicate]
  have within : payload.length ≤ (⟨4294967296⟩ : FrameCodec).limit := Nat.le_of_eq length
  refine ⟨?_, ?_, ?_⟩
  · rw [allOrNothing_iff, length]
    decide
  · rw [encodeInto_of_le _ _ _ within, length, zero, List.nil_append]
  · have read := cut_frame within []
    rw [List.append_nil, List.append_nil, frame, length, zero, Nat.mod_self, List.take_zero,
      List.drop_zero] at read
    exact read

end Datastream.FrameCodec
