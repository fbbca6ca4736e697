import Datastream.Negotiation.Exchange
import Datastream.Proofs.Value.Normal
import Datastream.Proofs.Wire.Primitive

/-!
# What both ends agree on

A client's header has no length: its last entry is marked, and no other. So whoever reads it finds its
end, whether it takes the entries off a stream one by one or has all bytes before it, and leaves what
comes after. The answer of a core has four bytes, and what both ends make of them is the same.
-/
namespace Datastream

namespace Flags

variable {width : Nat} {mask : BitVec width}

theorem contains_iff (a part : Flags mask) :
    a.contains part = true ↔ ∀ i, part.bits.getLsbD i = true → a.bits.getLsbD i = true := by
  rw [contains, beq_iff_eq, BitVec.eq_of_getLsbD_eq_iff]
  simp only [BitVec.getLsbD_and, Bool.and_eq_right_iff_imp]
  exact ⟨fun inside i set => inside i (BitVec.lt_of_getLsbD set) set, fun inside i _ => inside i⟩

/-- Flags are common to both sets if each of the two has them. -/
theorem contains_intersect (a b part : Flags mask) :
    (a.intersect b).contains part = true ↔ a.contains part = true ∧ b.contains part = true := by
  simp only [contains_iff, intersect, BitVec.getLsbD_and, Bool.and_eq_true]
  exact ⟨fun both => ⟨fun i set => (both i set).1, fun i set => (both i set).2⟩,
    fun ⟨one, other⟩ i set => ⟨one i set, other i set⟩⟩

/-- What is in common with flags that have a meaning has one. -/
theorem normalize_intersect (a : Flags mask) {b : Flags mask} (known : b.normalize = b) :
    (a.intersect b).normalize = a.intersect b := by
  rw [normalize, truncate] at known ⊢
  rw [← known]
  simp only [intersect, BitVec.and_assoc, BitVec.and_self]

end Flags

namespace ProtocolVersion

theorem ofByte?_toByte (version : ProtocolVersion) : ofByte? version.toByte = .ok version := by
  cases version <;> rfl

end ProtocolVersion

namespace ClientHeader

def entry (marker : UInt8) (p : ProtocolMeta) : Bytes := marker :: (Bytes.u16 p.data ++ [p.version.toByte])

theorem entry_eq (marker : UInt8) (p : ProtocolMeta) : entry marker p =
    [marker, UInt8.ofNat (p.data.toNat / 256), UInt8.ofNat p.data.toNat, p.version.toByte] := by
  rw [entry, Bytes.u16_eq]
  rfl

theorem length_entry (marker : UInt8) (p : ProtocolMeta) : (entry marker p).length = 4 := by
  rw [entry_eq]
  rfl

theorem entries_singleton (p : ProtocolMeta) : entries [p] = entry 0x80 p := rfl

theorem entries_cons (p : ProtocolMeta) {rest : List ProtocolMeta} (more : rest ≠ []) :
    entries (p :: rest) = entry 0x00 p ++ entries rest := by
  cases rest with
  | nil => exact absurd rfl more
  | cons => rfl

theorem length_entries (protocols : List ProtocolMeta) :
    (entries protocols).length = 4 * protocols.length := by
  induction protocols with
  | nil => rfl
  | cons p rest ih =>
    by_cases last : rest = []
    · subst last
      exact length_entry ..
    · rw [entries_cons p last, List.length_append, length_entry, ih, List.length_cons]
      omega

/-- An entry is read, and after it whatever its marker says. -/
theorem reads_entry (fuel : Nat) (marker : UInt8) (p : ProtocolMeta) {b : Bytes}
    {protocols : List ProtocolMeta}
    (after : Reads (if marker &&& 0x80 != 0 then pure [p]
      else return p :: (← readEntries fuel)) b protocols) :
    Reads (readEntries (fuel + 1)) (entry marker p ++ b) protocols := by
  refine Reads.ensure_bind (by rw [List.length_append, length_entry]; omega) ?_
  have spelt : entry marker p ++ b = [marker] ++ (Bytes.u16 p.data ++ ([p.version.toByte] ++ b)) := by
    simp [entry]
  rw [spelt]
  refine (Wire.reads_uint8 marker).bind ((Wire.reads_uint16 p.data).bind
    ((Wire.reads_uint8 p.version.toByte).bind ?_))
  rw [ProtocolVersion.ofByte?_toByte]
  exact after

/-- Entries are read up to the last, which is the only one that is marked. -/
theorem reads_entries {protocols : List ProtocolMeta} (offered : protocols ≠ []) {fuel : Nat}
    (enough : protocols.length ≤ fuel) : Reads (readEntries fuel) (entries protocols) protocols := by
  induction protocols generalizing fuel with
  | nil => exact absurd rfl offered
  | cons p rest ih =>
    obtain ⟨fuel, rfl⟩ : ∃ less, fuel = less + 1 :=
      Nat.exists_eq_add_one_of_ne_zero (by rw [List.length_cons] at enough; omega)
    by_cases last : rest = []
    · subst last
      rw [entries_singleton, ← List.append_nil (entry ..)]
      exact reads_entry fuel 0x80 p (Reads.pure _)
    · rw [entries_cons p last]
      exact reads_entry fuel 0x00 p ((ih last (Nat.le_of_succ_le_succ enough)).map (p :: ·))

/-- A header is read up to its last entry, whatever comes after it. -/
theorem decode_encode_append {h : ClientHeader} (known : h.features.normalize = h.features)
    (offered : h.protocols ≠ []) (t : Bytes) : decode (h.encode ++ t) = .ok h t := by
  have small : h.features.toNat < 256 := h.features.bits.isLt
  have word : Reads (Reader.number 4) (Bytes.ofNat 4 (magic + h.features.toNat))
      (magic + h.features.toNat) := Reads.number_of_lt 4 (by simp [magic]; omega)
  have layers : BitVec.ofNat 8 (magic + h.features.toNat) = h.features.bits := by
    refine BitVec.eq_of_toNat_eq ?_
    rw [BitVec.toNat_ofNat, Flags.toNat]
    simp [magic]; omega
  have enough : h.protocols.length ≤ (entries h.protocols ++ t).length / 4 + 1 := by
    rw [List.length_append, length_entries]
    omega
  unfold decode encode
  rw [List.append_assoc, Reader.bind_of_ok (word _), if_neg (by simp [magic]; omega), layers]
  change (readEntries ((entries h.protocols ++ t).length / 4 + 1) >>= _) (entries h.protocols ++ t) = _
  rw [Reader.bind_of_ok (reads_entries offered enough t)]
  change EStateM.Result.ok (ClientHeader.mk (Flags.normalize h.features) h.protocols) t = _
  rw [known]

end ClientHeader

namespace CoreHeader

theorem length_encode (h : CoreHeader) : h.encode.length = size := by
  simp [encode, Bytes.u16, Bytes.length_ofNat, size]

theorem reads_encode {h : CoreHeader} (known : h.features.normalize = h.features) :
    Reads decode h.encode h := by
  have layers : Bytes.ofNat 1 h.features.toNat = [UInt8.ofBitVec h.features.bits] :=
    Bytes.ofNat_one (UInt8.ofBitVec h.features.bits)
  rw [encode, layers, List.append_assoc]
  refine (Wire.reads_uint8 _).bind ((Wire.reads_uint16 _).bind ?_)
  rw [← List.append_nil [_]]
  refine (Wire.reads_uint8 _).bind ?_
  rw [ProtocolVersion.ofByte?_toByte]
  change Reads (pure (CoreHeader.mk (Flags.normalize h.features) h.protocol)) [] h
  rw [known]
  exact Reads.pure h

end CoreHeader

namespace Acceptance

open ClientHeader

/-- Entries are taken off a stream up to the last. -/
theorem cutEntries_append {protocols : List ProtocolMeta} (offered : protocols ≠ []) (t : Bytes) :
    cutEntries (entries protocols ++ t) = some (entries protocols, t) := by
  induction protocols with
  | nil => exact absurd rfl offered
  | cons p rest ih =>
    by_cases last : rest = []
    · subst last
      rw [entries_singleton, entry_eq]
      exact if_pos (by decide)
    · rw [entries_cons p last, entry_eq, List.append_assoc]
      refine (if_neg (by decide)).trans ?_
      change (cutEntries (entries rest ++ t)).map _ = _
      rw [ih last]
      rfl

theorem cutHeader_append {h : ClientHeader} (offered : h.protocols ≠ []) (t : Bytes) :
    cutHeader (h.encode ++ t) = some (h.encode, t) := by
  unfold cutHeader encode
  rw [List.append_assoc, Bytes.cut_ofNat_append]
  change (cutEntries (entries h.protocols ++ t) >>= _) = _
  rw [cutEntries_append offered]
  rfl

/-- The answer names the first entry that fits, and the layers that the core has too. -/
theorem ofStream_append (own : Layers) {h : ClientHeader} (known : h.features.normalize = h.features)
    {p : ProtocolMeta} (first : h.protocols.find? (·.version = .datastream) = some p) (t : Bytes) :
    ofStream own (h.encode ++ t) = .ok ⟨h, ⟨own.intersect h.features, p⟩, t⟩ := by
  have offered : h.protocols ≠ [] := by
    intro none
    rw [none] at first
    cases first
  have read := decode_encode_append known offered []
  rw [List.append_nil] at read
  simp only [ofStream, cutHeader_append offered, read, first]

end Acceptance

namespace Offer

theorem normalize_offeredLayers (settings : TransportConfig) (tlsReady : Bool) :
    (offeredLayers settings tlsReady).normalize = offeredLayers settings tlsReady := by
  unfold offeredLayers
  split <;> split <;> rfl

/-- An answer is taken as it was given, and nothing that comes after it. -/
theorem progress_append (o : Offer) {reply : CoreHeader}
    (known : reply.features.normalize = reply.features) (rest : Bytes) (ended expired : Bool) :
    o.progress (reply.encode ++ rest) ended expired = .answered reply (o.settle reply) rest := by
  have read := CoreHeader.reads_encode known []
  rw [List.append_nil] at read
  rw [progress, ← reply.length_encode, Bytes.cut_append]
  simp only [read]

/-- Without TLS it is settled at once what is on the stream. -/
theorem settle_plain (o : Offer) {reply : CoreHeader} (version : reply.protocol.version = .datastream)
    (plain : reply.features.contains Layers.tls = false)
    (offered : reply.features.contains Layers.compression = true →
      o.layers.contains Layers.compression = true) :
    o.settle reply =
      .agreed (if reply.features.contains Layers.compression then .compressed else .plain) := by
  rw [settle, if_neg (not_not_intro version), plain, if_neg Bool.false_ne_true, settleCompression]
  by_cases compressed : reply.features.contains Layers.compression = true
  · rw [if_pos compressed, if_pos compressed, if_pos (offered compressed)]
    rfl
  · rw [if_neg compressed, if_neg compressed]

/-- A client and a core that do not have TLS in common end with the layers that they do have in common. -/
theorem outcome_of_ofStream (own : Layers) (settings : TransportConfig) (tlsReady : Bool)
    (plain : (own.intersect (offeredLayers settings tlsReady)).contains Layers.tls = false)
    (t rest : Bytes) (ended expired : Bool) :
    let o := ofTransport settings tlsReady
    ∃ a stack, Acceptance.ofStream own (o.header.encode ++ t) = .ok a ∧
      (o.progress (a.reply.encode ++ rest) ended expired).outcome? =
        some (.ok ⟨a.reply, stack, rest⟩) ∧
      a.reply.features = own.intersect o.layers ∧
      (stack.isCompressed = true ↔
        own.contains Layers.compression = true ∧ o.layers.contains Layers.compression = true) := by
  intro o
  have known : o.layers.normalize = o.layers := normalize_offeredLayers settings tlsReady
  have both := Flags.contains_intersect own o.layers Layers.compression
  let reply : CoreHeader := ⟨own.intersect o.layers, ⟨.datastream, 0⟩⟩
  let stack : LayerStack :=
    if reply.features.contains Layers.compression then .compressed else .plain
  have settled : o.settle reply = .agreed stack :=
    o.settle_plain rfl plain fun common => (both.mp common).2
  have answered : o.progress (reply.encode ++ rest) ended expired = .answered reply (.agreed stack) rest := by
    rw [o.progress_append (Flags.normalize_intersect own known), settled]
  refine ⟨⟨o.header, reply, t⟩, stack, Acceptance.ofStream_append own known rfl t, ?_, rfl, ?_⟩
  · rw [answered]
    rfl
  · rw [← both]
    unfold stack
    split <;> simp_all [LayerStack.isCompressed, reply]

end Offer

/-- A header with at least one entry reads back as it was, and leaves what comes after it, whether it is
read from all the bytes or taken off a stream. If it has an entry of the datastream protocol, the answer
that a core gives it reads as the first such entry with the layers that both have. A client that does not
have TLS in common with the core takes just these layers from the answer, and has compression on its
stream if both have it. -/
theorem Acceptance.both_ends_agree (own : Layers) (t : Bytes) :
    (∀ h : ClientHeader, h.features.normalize = h.features → h.protocols ≠ [] →
      ClientHeader.decode (h.encode ++ t) = .ok h t ∧ cutHeader (h.encode ++ t) = some (h.encode, t) ∧
      ∀ before p after, h.protocols = before ++ p :: after → p.version = .datastream →
        (∀ q ∈ before, q.version ≠ .datastream) →
        ∃ reply, ofStream own (h.encode ++ t) = .ok ⟨h, reply, t⟩ ∧
          reply.encode.length = CoreHeader.size ∧
          CoreHeader.decode reply.encode = .ok ⟨own.intersect h.features, p⟩ []) ∧
    ∀ (settings : TransportConfig) (tlsReady : Bool) (rest : Bytes) (ended expired : Bool),
      let o := Offer.ofTransport settings tlsReady
      (own.intersect o.layers).contains Layers.tls = false →
      ∃ a stack, ofStream own (o.header.encode ++ t) = .ok a ∧
        (o.progress (a.reply.encode ++ rest) ended expired).outcome? =
          some (.ok ⟨a.reply, stack, rest⟩) ∧
        a.reply.features = own.intersect o.layers ∧
        (stack.isCompressed = true ↔
          own.contains Layers.compression = true ∧ o.layers.contains Layers.compression = true) := by
  refine ⟨fun h known offered => ⟨ClientHeader.decode_encode_append known offered t,
    cutHeader_append offered t, fun before p after listed version others => ?_⟩,
    fun settings tlsReady rest ended expired plain =>
      Offer.outcome_of_ofStream own settings tlsReady plain t rest ended expired⟩
  have first : h.protocols.find? (·.version = .datastream) = some p := by
    rw [List.find?_eq_some_iff_append]
    exact ⟨by simpa using version, before, after, listed, by simpa using others⟩
  have read := CoreHeader.reads_encode (h := ⟨own.intersect h.features, p⟩)
    (Flags.normalize_intersect own known) []
  rw [List.append_nil] at read
  exact ⟨_, ofStream_append own known first t, CoreHeader.length_encode _, read⟩

/-- A header with three entries, of which the last two are of the datastream protocol. -/
def ClientHeader.several : ClientHeader :=
  ⟨Flags.all, [⟨.legacy, 7⟩, ⟨.datastream, 0x1234⟩, ⟨.datastream, 0⟩]⟩

theorem Acceptance.several_accepted :
    (ClientHeader.decode (ClientHeader.several.encode ++ [1, 2]) = .ok ClientHeader.several [1, 2] ∧
      ∃ reply, ofStream Layers.compression (ClientHeader.several.encode ++ [1, 2]) =
          .ok ⟨ClientHeader.several, reply, [1, 2]⟩ ∧
        CoreHeader.decode reply.encode = .ok ⟨Layers.compression, ⟨.datastream, 0x1234⟩⟩ []) ∧
    ∃ a stack, ofStream Layers.compression ((Offer.ofTransport {} false).header.encode ++ [1, 2]) =
        .ok a ∧
      ((Offer.ofTransport {} false).progress (a.reply.encode ++ [3]) false false).outcome? =
        some (.ok ⟨a.reply, stack, [3]⟩) ∧
      stack.isCompressed = true := by
  have ⟨headers, clients⟩ := both_ends_agree Layers.compression [1, 2]
  have ⟨read, _, answered⟩ := headers ClientHeader.several (by decide) (by decide)
  obtain ⟨reply, accepted, -, chosen⟩ :=
    answered [⟨.legacy, 7⟩] ⟨.datastream, 0x1234⟩ [⟨.datastream, 0⟩] rfl rfl (by decide)
  obtain ⟨a, stack, taken, outcome, -, compressed⟩ := clients {} false [3] false false (by decide)
  exact ⟨⟨read, reply, accepted, chosen⟩, a, stack, taken, outcome, compressed.mpr (by decide)⟩

end Datastream
