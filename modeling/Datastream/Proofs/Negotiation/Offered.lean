import Datastream.Client.Connection
import Datastream.Proofs.Negotiation.Agreement

/-!
# What is begun on a stream

The answer of a core says which layers go on the stream, and whether a layer is put on is decided for each
layer by a test of its own: compression has to be in the offer (`compression_begun_iff`), while for TLS the
client has to be prepared (`tls_begun_iff`). A client that is prepared without having offered TLS begins a
handshake that it did not offer. In all other cases a client begins only what it has offered, and an answer
that goes beyond the offer is refused (`begins_only_what_was_offered`).

The handshake of TLS is not looked into: how it ends is a parameter. It comes before compression, so if it
fails, that is the reason why the negotiation fails (`handshake_fails_first`).

The offer is `offered_features`, the test of each layer stands in `negotiate`.
-/
namespace Datastream

namespace Layer

def flag : Layer → Layers
  | tls => Layers.tls
  | compression => Layers.compression

def isOn (stack : LayerStack) : Layer → Bool
  | tls => stack.isSecure
  | compression => stack.isCompressed

end Layer

/-- The layers that are begun, in order, if a handshake that is made ends like this. -/
def Settlement.begun (handshake : Except Error Unit) : Settlement → List Layer
  | agreed stack => if stack.isCompressed then [.compression] else []
  | refused _ => []
  | securing next =>
    .tls :: match handshake with
      | .ok _ => next.begun handshake
      | .error _ => []

namespace Offer

/-- The layers that are begun by now, if a handshake that is made ends like this. -/
def Progress.begun (handshake : Except Error Unit) : Progress → List Layer
  | .answered _ settlement _ => settlement.begun handshake
  | .waiting | .failed _ => []

theorem sent_tls (t : TransportConfig) (tlsReady : Bool) :
    (ofTransport t tlsReady).layers.contains Layers.tls = (t.offerTls && tlsReady) := by
  simp only [ofTransport, offeredLayers]
  cases t.offerTls <;> cases tlsReady <;> cases t.offerCompression <;> rfl

/-- Two bytes spell a word. -/
theorem exists_u16_eq (high low : UInt8) : ∃ n, Bytes.u16 n = [high, low] := by
  refine ⟨UInt16.ofNat (high.toNat * 256 + low.toNat), ?_⟩
  have value : (UInt16.ofNat (high.toNat * 256 + low.toNat)).toNat = high.toNat * 256 + low.toNat := by
    have := high.toNat_lt
    have := low.toNat_lt
    rw [UInt16.toNat_ofNat']
    omega
  have front : (high.toNat * 256 + low.toNat) / 256 = high.toNat := by
    have := low.toNat_lt
    omega
  have back : UInt8.ofNat (high.toNat * 256 + low.toNat) = low := by
    refine UInt8.toNat_inj.mp ?_
    rw [UInt8.toNat_ofNat']
    have := low.toNat_lt
    omega
  rw [Bytes.u16_eq, value, front, UInt8.ofNat_toNat, back]

variable (o : Offer) (layers high low version : UInt8) (rest : Bytes) (ended expired : Bool)
  (handshake : Except Error Unit)

/-- Four bytes are an answer as soon as they are there. -/
theorem progress_cons : ∃ data,
    o.progress (layers :: high :: low :: version :: rest) ended expired =
      match ProtocolVersion.ofByte? version with
      | .ok version =>
        let reply : CoreHeader := ⟨.truncate layers.toBitVec, version, data⟩
        .answered reply (o.settle reply) rest
      | .error reason => .failed reason := by
  obtain ⟨data, spelt⟩ := exists_u16_eq high low
  refine ⟨data, ?_⟩
  have bytes : [layers, high, low, version] = [layers] ++ (Bytes.u16 data ++ ([version] ++ [])) := by
    rw [spelt]
    rfl
  have decoded : CoreHeader.decode [layers, high, low, version] =
      match ProtocolVersion.ofByte? version with
      | .ok version => .ok ⟨.truncate layers.toBitVec, version, data⟩ []
      | .error reason => .error reason [] := by
    unfold CoreHeader.decode
    rw [bytes, Reader.bind_of_ok (Wire.reads_uint8 layers _),
      Reader.bind_of_ok (Wire.reads_uint16 data _), Reader.bind_of_ok (Wire.reads_uint8 version _)]
    cases ProtocolVersion.ofByte? version <;> rfl
  have cut : Bytes.cut CoreHeader.size (layers :: high :: low :: version :: rest) =
      some ([layers, high, low, version], rest) := Bytes.cut_append [layers, high, low, version] rest
  rw [progress, cut]
  dsimp only
  rw [decoded]
  cases ProtocolVersion.ofByte? version <;> rfl

variable {o rest handshake} {reply : CoreHeader}

/-- What compression does to a stream that has none. -/
theorem settleCompression_cases (o : Offer) (reply : CoreHeader) {stack : LayerStack}
    (bare : stack.isCompressed = false) :
    (reply.features.contains Layers.compression = false ∧
      o.settleCompression reply stack = .agreed stack) ∨
    (reply.features.contains Layers.compression = true ∧
      o.layers.contains Layers.compression = true ∧
      ∃ stack', o.settleCompression reply stack = .agreed stack' ∧ stack'.isCompressed = true ∧
        stack'.isSecure = stack.isSecure) ∨
    (reply.features.contains Layers.compression = true ∧
      o.layers.contains Layers.compression = false ∧
      o.settleCompression reply stack = .refused (.layer .compressionNotOffered)) := by
  unfold settleCompression
  cases carried : reply.features.contains Layers.compression with
  | false => exact .inl ⟨rfl, rfl⟩
  | true =>
    refine .inr ?_
    cases sent : o.layers.contains Layers.compression with
    | false => exact .inr ⟨rfl, rfl, rfl⟩
    | true =>
      refine .inl ⟨rfl, rfl, ?_⟩
      cases stack with
      | plain => exact ⟨.compressed, rfl, rfl, rfl⟩
      | secure => exact ⟨.compressedSecure, rfl, rfl, rfl⟩
      | compressed | compressedSecure => cases bare

/-- What TLS does before that. -/
theorem settle_cases (o : Offer) (version : reply.protocol.version = .datastream) :
    (reply.features.contains Layers.tls = false ∧ o.settle reply = o.settleCompression reply .plain) ∨
    (reply.features.contains Layers.tls = true ∧ o.tlsReady = true ∧
      o.settle reply = .securing (o.settleCompression reply .secure)) ∨
    (reply.features.contains Layers.tls = true ∧ o.tlsReady = false ∧
      o.settle reply = .refused (.layer .tlsNotOffered)) := by
  unfold settle
  rw [if_neg (not_not_intro version)]
  cases reply.features.contains Layers.tls with
  | false => exact .inl ⟨rfl, rfl⟩
  | true =>
    refine .inr ?_
    cases o.tlsReady with
    | false => exact .inr ⟨rfl, rfl, rfl⟩
    | true => exact .inl ⟨rfl, rfl, rfl⟩

theorem begun_settleCompression {stack : LayerStack} (bare : stack.isCompressed = false) :
    (o.settleCompression reply stack).begun handshake =
      if reply.features.contains Layers.compression && o.layers.contains Layers.compression then
        [.compression] else [] := by
  rcases settleCompression_cases o reply bare with ⟨carried, settled⟩ |
    ⟨carried, sent, stack', settled, compressed, -⟩ | ⟨carried, sent, settled⟩
  · simp [settled, carried, Settlement.begun, bare]
  · simp [settled, carried, sent, Settlement.begun, compressed]
  · simp [settled, carried, sent, Settlement.begun]

/-- TLS is begun when the core asks for it and the client is prepared, whether it was offered or not. -/
theorem tls_begun_iff (version : reply.protocol.version = .datastream) :
    .tls ∈ (o.settle reply).begun handshake ↔
      reply.features.contains Layers.tls = true ∧ o.tlsReady = true := by
  rcases settle_cases o version with ⟨carried, settled⟩ | ⟨carried, ready, settled⟩ |
    ⟨carried, ready, settled⟩
  · rw [settled, begun_settleCompression rfl]
    split <;> simp_all
  · simp [settled, carried, ready, Settlement.begun]
  · simp [settled, carried, ready, Settlement.begun]

/-- Compression is begun when the core asks for it and it was offered, once TLS is on if that was asked
for too. -/
theorem compression_begun_iff (version : reply.protocol.version = .datastream) :
    .compression ∈ (o.settle reply).begun handshake ↔
      reply.features.contains Layers.compression = true ∧
        o.layers.contains Layers.compression = true ∧
        (reply.features.contains Layers.tls = true → o.tlsReady = true ∧ handshake = .ok ()) := by
  rcases settle_cases o version with ⟨carried, settled⟩ | ⟨carried, ready, settled⟩ |
    ⟨carried, ready, settled⟩
  · rw [settled, begun_settleCompression rfl]
    simp [carried]
  · cases handshake with
    | ok =>
      simp only [settled, Settlement.begun]
      rw [begun_settleCompression rfl]
      simp [ready]
    | error reason => simp [settled, Settlement.begun, carried]
  · simp [settled, carried, ready, Settlement.begun]

/-- How an answer ends, once the handshake that it may lead to has ended. -/
def outcome (o : Offer) (reply : CoreHeader) (rest : Bytes) (handshake : Except Error Unit) :
    Option (Except Error Agreement) :=
  ((Progress.answered reply (o.settle reply) rest).secured handshake).outcome?

/-- TLS that the client is not prepared for is refused before anything is begun. -/
theorem refuses_tls (version : reply.protocol.version = .datastream)
    (carried : reply.features.contains Layers.tls = true) (unprepared : o.tlsReady = false) :
    (o.settle reply).begun handshake = [] ∧
      o.outcome reply rest handshake = some (.error (.layer .tlsNotOffered)) := by
  have settled : o.settle reply = .refused (.layer .tlsNotOffered) := by
    unfold settle
    rw [if_neg (not_not_intro version), carried, unprepared]
    rfl
  rw [outcome, settled]
  exact ⟨rfl, rfl⟩

/-- Compression that was not offered is refused, unless something else is in the way before. -/
theorem refuses_compression (version : reply.protocol.version = .datastream)
    (carried : reply.features.contains Layers.compression = true)
    (unsent : o.layers.contains Layers.compression = false) :
    ∃ reason, o.outcome reply rest handshake = some (.error reason) ∧
      ((∃ fault, reason = .layer fault) ∨
        (o.settle reply).begun handshake = [.tls] ∧ handshake = .error reason) := by
  have refused (stack : LayerStack) :
      o.settleCompression reply stack = .refused (.layer .compressionNotOffered) := by
    rw [settleCompression, if_pos carried, unsent]
    rfl
  rw [outcome]
  rcases settle_cases o version with ⟨-, settled⟩ | ⟨-, -, settled⟩ | ⟨-, -, settled⟩
  · rw [settled, refused]
    exact ⟨_, rfl, .inl ⟨_, rfl⟩⟩
  · rw [settled, refused]
    cases handshake with
    | ok => exact ⟨_, rfl, .inl ⟨_, rfl⟩⟩
    | error reason => exact ⟨_, rfl, .inr ⟨rfl, rfl⟩⟩
  · rw [settled]
    exact ⟨_, rfl, .inl ⟨_, rfl⟩⟩

/-- If the client is ready for every layer that the answer names, the stream gets just these. -/
theorem settles_on_carried (version : reply.protocol.version = .datastream)
    (ready : reply.features.contains Layers.tls = true → o.tlsReady = true)
    (sent : reply.features.contains Layers.compression = true →
      o.layers.contains Layers.compression = true) :
    ∃ a, o.outcome reply rest (.ok ()) = some (.ok a) ∧
      ∀ layer, Layer.isOn a.stack layer = reply.features.contains layer.flag := by
  have compressed (stack : LayerStack) (bare : stack.isCompressed = false) :
      ∃ stack', o.settleCompression reply stack = .agreed stack' ∧
        stack'.isSecure = stack.isSecure ∧
        stack'.isCompressed = reply.features.contains Layers.compression := by
    rcases settleCompression_cases o reply bare with ⟨carried, settled⟩ |
      ⟨carried, -, stack', settled, on, secure⟩ | ⟨carried, unsent, -⟩
    · exact ⟨stack, settled, rfl, by rw [bare, carried]⟩
    · exact ⟨stack', settled, secure, by rw [on, carried]⟩
    · rw [sent carried] at unsent
      cases unsent
  rw [outcome]
  rcases settle_cases o version with ⟨carried, settled⟩ | ⟨carried, -, settled⟩ |
    ⟨carried, unprepared, -⟩
  · obtain ⟨stack, next, secure, on⟩ := compressed .plain rfl
    rw [settled, next]
    refine ⟨⟨reply, stack, rest⟩, rfl, fun layer => ?_⟩
    cases layer with
    | tls => exact secure.trans carried.symm
    | compression => exact on
  · obtain ⟨stack, next, secure, on⟩ := compressed .secure rfl
    rw [settled, next]
    refine ⟨⟨reply, stack, rest⟩, rfl, fun layer => ?_⟩
    cases layer with
    | tls => exact secure.trans carried.symm
    | compression => exact on
  · rw [ready carried] at unprepared
    cases unprepared

variable (rest)

theorem progress_datastream : ∃ reply : CoreHeader,
    reply.features = .truncate layers.toBitVec ∧ reply.protocol.version = .datastream ∧
      o.progress (layers :: high :: low :: ProtocolVersion.datastream.toByte :: rest) ended expired =
        .answered reply (o.settle reply) rest := by
  obtain ⟨data, answered⟩ :=
    progress_cons o layers high low ProtocolVersion.datastream.toByte rest ended expired
  rw [ProtocolVersion.ofByte?_toByte] at answered
  exact ⟨_, rfl, rfl, answered⟩

/-- Any other protocol is refused before anything is begun. -/
theorem refuses_version (handshake : Except Error Unit)
    (other : version ≠ ProtocolVersion.datastream.toByte) :
    (o.progress (layers :: high :: low :: version :: rest) ended expired).begun handshake = [] ∧
      ((o.progress (layers :: high :: low :: version :: rest) ended expired).secured
        handshake).outcome? = some (.error (.unsupportedVersion version)) := by
  obtain ⟨data, answered⟩ := progress_cons o layers high low version rest ended expired
  rw [answered]
  by_cases legacy : version = 1
  · subst legacy
    exact ⟨rfl, rfl⟩
  · have unknown : ProtocolVersion.ofByte? version = .error (.unsupportedVersion version) :=
      (if_neg legacy).trans (if_neg other)
    rw [unknown]
    exact ⟨rfl, rfl⟩

/-- Whether an answer does not ask for TLS that a client is prepared for and has not offered. -/
def InOrder (t : TransportConfig) (tlsReady : Bool) (carried : Layers) : Prop :=
  carried.contains Layers.tls = true → tlsReady = true → t.offerTls = true

section

variable {t : TransportConfig} {tlsReady : Bool} {layer : Layer}
  (datastream : reply.protocol.version = .datastream)
  (inOrder : layer = .tls → InOrder t tlsReady reply.features)

include datastream inOrder

theorem sent_of_begun (begun : layer ∈ ((ofTransport t tlsReady).settle reply).begun handshake) :
    (ofTransport t tlsReady).layers.contains layer.flag = true := by
  cases layer with
  | tls =>
    obtain ⟨carried, ready⟩ := (tls_begun_iff datastream).mp begun
    change tlsReady = true at ready
    rw [Layer.flag, sent_tls, ready, inOrder rfl carried ready]
    rfl
  | compression => exact ((compression_begun_iff datastream).mp begun).2.1

/-- A layer that was not offered fails the negotiation, unless the handshake of TLS has failed it before. -/
theorem refuses_unsent (carried : reply.features.contains layer.flag = true)
    (unsent : (ofTransport t tlsReady).layers.contains layer.flag = false) :
    ∃ reason, (ofTransport t tlsReady).outcome reply rest handshake = some (.error reason) ∧
      ((∃ fault, reason = .layer fault) ∨
        ((ofTransport t tlsReady).settle reply).begun handshake = [.tls] ∧
          handshake = .error reason) := by
  cases layer with
  | tls =>
    have unprepared : tlsReady = false := by
      by_contra prepared
      rw [Bool.not_eq_false] at prepared
      rw [Layer.flag, sent_tls, prepared, inOrder rfl carried prepared] at unsent
      cases unsent
    exact ⟨_, (refuses_tls datastream carried unprepared).2, .inl ⟨_, rfl⟩⟩
  | compression => exact refuses_compression datastream carried unsent

end

/-- Whatever the settings are and whatever four bytes the core answers, no layer is begun that was not
offered. An answer that names such a layer fails the negotiation, with the handshake of TLS in between if
that was offered. What a client that is prepared for TLS makes of it without having offered it is left
open. -/
theorem begins_only_what_was_offered (t : TransportConfig) (tlsReady : Bool)
    (layers high low version : UInt8) (rest : Bytes) (ended expired : Bool)
    (handshake : Except Error Unit) :
    let sent := (ofTransport t tlsReady).header.features
    let carried : Layers := .truncate layers.toBitVec
    let p := (ofTransport t tlsReady).progress (layers :: high :: low :: version :: rest) ended expired
    let begun := p.begun handshake
    let outcome := (p.secured handshake).outcome?
    (version ≠ ProtocolVersion.datastream.toByte →
      begun = [] ∧ outcome = some (.error (.unsupportedVersion version))) ∧
    (∀ layer ∈ begun, (layer = .tls → InOrder t tlsReady carried) →
      sent.contains layer.flag = true) ∧
    (version = ProtocolVersion.datastream.toByte →
      ∀ layer, (layer = .tls → InOrder t tlsReady carried) →
        carried.contains layer.flag = true → sent.contains layer.flag = false →
        layer ∉ begun ∧ ∃ reason, outcome = some (.error reason) ∧
          ((∃ fault, reason = .layer fault) ∨ begun = [.tls] ∧ handshake = .error reason)) ∧
    (version = ProtocolVersion.datastream.toByte → handshake = .ok () →
      (∀ layer : Layer, carried.contains layer.flag = true → sent.contains layer.flag = true) →
      ∃ a, outcome = some (.ok a) ∧
        ∀ layer, Layer.isOn a.stack layer = carried.contains layer.flag) := by
  intro sent carried p begun outcome
  by_cases datastream : version = ProtocolVersion.datastream.toByte
  · subst datastream
    obtain ⟨reply, features, version, answered⟩ :=
      progress_datastream (o := ofTransport t tlsReady) layers high low rest ended expired
    have begun_eq : begun = ((ofTransport t tlsReady).settle reply).begun handshake :=
      congrArg (Progress.begun handshake) answered
    have outcome_eq : outcome = (ofTransport t tlsReady).outcome reply rest handshake :=
      congrArg (fun p : Progress => (p.secured handshake).outcome?) answered
    have carried_eq : carried = reply.features := features.symm
    rw [begun_eq, outcome_eq, carried_eq]
    refine ⟨fun other => absurd rfl other,
      fun layer isBegun inOrder => sent_of_begun version inOrder isBegun, ?refused, ?settled⟩
    case refused =>
      intro _ layer inOrder named unsent
      refine ⟨fun isBegun => ?_, refuses_unsent _ version inOrder named unsent⟩
      exact absurd ((sent_of_begun version inOrder isBegun).symm.trans unsent) (by decide)
    case settled =>
      intro _ success allSent
      subst success
      refine settles_on_carried version (fun named => ?_) (allSent .compression)
      have offered : (ofTransport t tlsReady).layers.contains Layers.tls = true := allSent .tls named
      rw [sent_tls, Bool.and_eq_true] at offered
      exact offered.2
  · obtain ⟨none, refused⟩ :=
      refuses_version (o := ofTransport t tlsReady) layers high low version rest ended expired handshake
        datastream
    have nothing : begun = [] := none
    rw [nothing]
    exact ⟨fun _ => ⟨rfl, refused⟩, fun layer isBegun => absurd isBegun (List.not_mem_nil),
      fun same => absurd same datastream, fun same => absurd same datastream⟩

end Offer

/-- An answer that names both layers does not fail for the layer that was not offered, if the handshake
for the one that was offered fails first. -/
theorem handshake_fails_first :
    let config : Config :=
      { transport := { offerCompression := false }
        tls := { insecure := true, serverName := some "no host" } }
    let (first, c) := Connection.start config Reading.epoch
    first.wire = [0x42, 0xb3, 0x3f, 0x01, 0x80, 0x00, 0x00, 0x02] ∧
      (c.receive [0x03, 0x00, 0x00, 0x02]).turn.1.outcome =
        some (.error (.tls "Invalid server name")) := by
  with_unfolding_all exact ⟨rfl, rfl⟩

end Datastream
