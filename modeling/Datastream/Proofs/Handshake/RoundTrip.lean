import Datastream.Handshake.Message
import Datastream.Proofs.Feature
import Datastream.Proofs.Value.Extract
import Datastream.Proofs.Wire.Carried
import Datastream.Proofs.Wire.Limits

/-!
# Handshake messages round trip

The fields of a message are put into a map and taken out of it under the names they were given, so
what comes back is the message. A set of features comes back from its two views together. None of the
fields is written differently under other features, so that the ends need not have agreed on any. What
does not fit its field is not written in the first place (`not_all_sent`).
-/
namespace Datastream.HandshakeMessage

theorem key?_ofName (name : String) : key? (.ofName name) = some name := by
  rw [key?, Value.name?_ofName, Option.some_or]

section Pairs

variable {α : Type} {spelt : α → Value} {entry : α → String × Value}
  (spells : ∀ x, key? (spelt x) = some (entry x).1)

include spells

/-- The pairs are put into the map one by one, however their keys are spelt. -/
theorem pairUp_flatMap (xs : List α) (fields : Fields) :
    pairUp (xs.flatMap fun x => [spelt x, (entry x).2]) fields =
      .ok ((xs.map entry).foldl (fun fields pair => fields.insert pair.1 pair.2) fields) := by
  induction xs generalizing fields with
  | nil => rfl
  | cons x xs ih =>
    simp only [List.flatMap_cons, List.cons_append, List.nil_append, pairUp, spells, List.map_cons,
      List.foldl_cons, ih]

/-- Keys and values in turn say what the map of the pairs says. -/
theorem ofList_flatMap (xs : List α) :
    ofList (xs.flatMap fun x => [spelt x, (entry x).2]) = ofFields (Fields.ofPairs (xs.map entry)) := by
  have length : (xs.flatMap fun x => [spelt x, (entry x).2]).length = xs.length * 2 := by
    rw [List.length_flatMap]
    simp only [List.length_cons, List.length_nil, List.map_const', List.sum_replicate_nat]
  rw [ofList, if_neg (by omega), pairUp_flatMap spells]
  rfl

end Pairs

theorem ofList_toList_eq (m : HandshakeMessage) :
    ofList m.toList = ofFields (Fields.ofPairs m.toFields) := by
  have pairs : ofList m.toList = ofFields (Fields.ofPairs (m.toFields.map id)) :=
    ofList_flatMap (fun entry => key?_ofName entry.1) m.toFields
  rwa [List.map_id] at pairs

def FeaturesObtainable : HandshakeMessage → Prop
  | clientInit _ _ features => features.Obtainable
  | clientInitAck coreFeatures _ _ _ => coreFeatures.Obtainable
  | _ => True

/-- Every field is found under its own name, with the type it has to have. -/
theorem ofFields_toFields (m : HandshakeMessage) (obtainable : m.FeaturesObtainable) :
    ofFields (Fields.ofPairs m.toFields) = .ok m := by
  rcases m with ⟨version, date, features⟩ | ⟨features, backends, authenticators, _ | configured⟩ |
    (_ | reason) | ⟨user, password⟩ | _ | (_ | reason) |
    ⟨adminUser, adminPassword, backend, setup, authenticator, authSetup⟩ | _ | (_ | reason) |
    ⟨identities, buffers, networks⟩
  -- Of the map only what was put under the name that is asked for is left.
  all_goals simp only [toFields, kind, reasonField, featureNames, Fields.ofPairs, List.foldl_cons,
    List.foldl_nil, List.cons_append, List.nil_append, Option.map_none, Option.map_some,
    Option.toList_none, Option.toList_some, ofFields, required, optionalList, featuresOf, field?,
    Fields.get?_nil, Fields.get?_insert, String.reduceEq, if_true, if_false, Option.bind_none,
    Option.bind_some, Option.getD_some, Value.text?_ofText, Value.texts_ofTexts, Value.bool?,
    Value.uint?, Value.fields?, Value.list?, Value.listOf?_some, bind, Except.bind, pure, Except.pure]
  case clientInit => rw [(FeatureSet.Obtainable.canonical obtainable).build_legacy_names]
  case clientInitAck.none => rw [(FeatureSet.Obtainable.canonical obtainable).build_legacy_names]
  case clientInitAck.some => rw [(FeatureSet.Obtainable.canonical obtainable).build_legacy_names]
  case sessionInit =>
    rw [Value.listOf?_list Value.bufferInfo? .bufferInfo (fun _ => rfl) buffers]
    rw [Value.listOf?_list Value.networkId? .networkId (fun _ => rfl) networks]

/-- What a message holds is carried as it is, inside the fields that it is put into. -/
def Portable (f : FeatureSet) : HandshakeMessage → Prop
  | clientInitAck _ backends authenticators _ =>
    (∀ v ∈ backends, v.Portable f 63) ∧ ∀ v ∈ authenticators, v.Portable f 63
  | coreSetupData _ _ _ setup _ authSetup =>
    (setup.Sorted ∧ ∀ entry ∈ setup, entry.2.Portable f 62) ∧
      authSetup.Sorted ∧ ∀ entry ∈ authSetup, entry.2.Portable f 62
  | sessionInit identities buffers _ =>
    (∀ v ∈ identities, v.Portable f 62) ∧ ∀ info ∈ buffers, info.normalize = info
  | _ => True

/-- A map that is built from pairs is carried if the pairs are. -/
theorem portable_ofPairs {f : FeatureSet} {levels : Nat} {pairs : List (String × Value)}
    (inside : ∀ entry ∈ pairs, entry.2.Portable f levels) :
    (Value.map (Fields.ofPairs pairs)).Portable f (levels + 1) :=
  .fields (Fields.sorted_ofPairs pairs) fun entry member =>
    inside entry (Fields.mem_of_mem_ofPairs member)

theorem portable_text {f : FeatureSet} {levels : Nat} (text : String) :
    (Value.ofText text).Portable f levels :=
  .leaf rfl rfl rfl rfl rfl

theorem portable_reason {f : FeatureSet} {levels : Nat} (reason : Option String) :
    ∀ entry ∈ reasonField reason, entry.2.Portable f levels := by
  cases reason with
  | none => exact List.forall_mem_nil _
  | some text => exact List.forall_mem_singleton.mpr (portable_text text)

theorem portable_toFields {f : FeatureSet} (m : HandshakeMessage) (portable : m.Portable f) :
    ∀ entry ∈ m.toFields, entry.2.Portable f 64 := by
  refine List.forall_mem_cons.mpr ⟨portable_text m.kind, ?_⟩
  cases m with
  | clientInit version date features =>
    simp only [List.forall_mem_cons, List.not_mem_nil, false_implies, implies_true, and_true]
    exact ⟨portable_text version, portable_text date, .leaf rfl rfl rfl rfl rfl,
      .leaf rfl rfl rfl rfl rfl⟩
  | clientInitAck coreFeatures backends authenticators configured =>
    have flag : ∀ entry ∈ (configured.map fun b => ("Configured", Value.bool b)).toList,
        entry.2.Portable f 64 := by
      cases configured with
      | none => exact List.forall_mem_nil _
      | some b => exact List.forall_mem_singleton.mpr (.leaf rfl rfl rfl rfl rfl)
    simp only [List.forall_mem_append, List.forall_mem_cons, List.not_mem_nil, false_implies,
      implies_true, and_true]
    exact ⟨⟨⟨.leaf rfl rfl rfl rfl rfl, .items portable.1, .items portable.2⟩, flag⟩,
      .leaf rfl rfl rfl rfl rfl⟩
  | clientInitReject reason => exact portable_reason reason
  | clientLoginReject reason => exact portable_reason reason
  | coreSetupReject reason => exact portable_reason reason
  | clientLogin user password =>
    exact List.forall_mem_cons.mpr
      ⟨portable_text user, List.forall_mem_singleton.mpr (portable_text password)⟩
  | clientLoginAck => exact List.forall_mem_nil _
  | coreSetupAck => exact List.forall_mem_nil _
  | coreSetupData adminUser adminPassword backend setup authenticator authSetup =>
    obtain ⟨⟨inOrder, properties⟩, inOrder', authProperties⟩ := portable
    refine List.forall_mem_singleton.mpr (portable_ofPairs ?_)
    simp only [List.forall_mem_cons, List.not_mem_nil, false_implies, implies_true, and_true]
    exact ⟨portable_text adminUser, portable_text adminPassword, portable_text backend,
      .fields inOrder properties, portable_text authenticator, .fields inOrder' authProperties⟩
  | sessionInit identities buffers networks =>
    have infos : ∀ v ∈ buffers.map Value.bufferInfo, v.Portable f 62 :=
      List.forall_mem_map.mpr fun info member =>
        .leaf rfl rfl rfl rfl (congrArg Value.bufferInfo (portable.2 info member))
    have ids : ∀ v ∈ networks.map Value.networkId, v.Portable f 62 :=
      List.forall_mem_map.mpr fun id _ => .leaf rfl rfl rfl rfl rfl
    refine List.forall_mem_singleton.mpr (portable_ofPairs ?_)
    simp only [List.forall_mem_cons, List.not_mem_nil, false_implies, implies_true, and_true]
    exact ⟨.items portable.1, .items infos, .items ids⟩

/-- What one end writes is what the other end reads, whatever features each of them goes by; and all
can be written in which everything fits. -/
theorem decode_across_features (m : HandshakeMessage) (f g : FeatureSet)
    (obtainable : m.FeaturesObtainable) (portable : m.Portable f) :
    ((∃ b, m.encode .standard f = .ok b) ↔ Value.AllFit f m.toList) ∧
      ∀ b, m.encode .standard f = .ok b → decode .standard g b = .ok m := by
  refine ⟨Value.encodeList_eq_ok_iff f m.toList, fun b written => ?_⟩
  have fields := portable_toFields m portable
  have items : ∀ v ∈ m.toList, v.Portable f 64 := by
    rintro v member
    obtain ⟨entry, among, inside⟩ := List.mem_flatMap.mp member
    rcases List.mem_cons.mp inside with rfl | inside
    · exact .leaf rfl rfl rfl rfl rfl
    · exact List.mem_singleton.mp inside ▸ fields entry among
  have alike := Value.encodeList_congr .standard (fun v member => (items v member).plain) f g
  rw [encode, alike] at written
  have carried : ∀ v ∈ m.toList, v.Carried g 64 := fun v member =>
    ((items v member).change g).toCarried
  rw [decode, Value.decodeList_of_encodeList carried written]
  exact (ofList_toList_eq m).trans (ofFields_toFields m obtainable)

/-- The answer of a core that has a feature of either view, a name of no feature, and one backend. -/
def sampleAck : HandshakeMessage :=
  clientInitAck (.build 0x8001 ["LongTime", "Teleport"])
    [.map [("DisplayName", .ofText "SQLite"), ("IsDefault", .bool true)]] [] (some false)

theorem decode_sampleAck_across_features :
    sampleAck.FeaturesObtainable ∧ sampleAck.Portable .none ∧
      ∃ b, sampleAck.encode .standard .none = .ok b ∧ decode .standard .all b = .ok sampleAck := by
  have obtainable : sampleAck.FeaturesObtainable := .build _ _
  have entries : ∀ entry ∈ [("DisplayName", Value.ofText "SQLite"), ("IsDefault", Value.bool true)],
      entry.2.Portable .none 62 := by
    simp only [List.forall_mem_cons, List.not_mem_nil, false_implies, implies_true, and_true]
    exact ⟨portable_text _, .leaf rfl rfl rfl rfl rfl⟩
  have portable : sampleAck.Portable .none :=
    ⟨List.forall_mem_singleton.mpr (.fields (by decide) entries), List.forall_mem_nil _⟩
  exact ⟨obtainable, portable, _, rfl,
    (decode_across_features sampleAck .none .all obtainable portable).2 _ rfl⟩

/-- A reason that is too long for its field cannot be sent. -/
theorem encode_reject_of_long {reason : String} (long : Wire.maxLength < reason.length * 2)
    (f : FeatureSet) : ¬∃ b, (clientInitReject (some reason)).encode .standard f = .ok b := by
  intro written
  have fit := (Value.encodeList_eq_ok_iff f (clientInitReject (some reason)).toList).mp written
  have among : Value.ofText reason ∈ (clientInitReject (some reason)).toList := by
    simp [toList, toFields, reasonField]
  have fits : Wire.Utf16Fits (some reason) :=
    ((Value.forall_parts_iff (Value.ofText reason)).mp (fit.2 _ among)).1
  have units := Utf16.length_le_length_encode reason
  have within := fits reason rfl
  omega

/-- Not every message can be sent: from 2 ^ 30 characters on a reason is too long. -/
theorem not_all_sent :
    ¬ ∀ (m : HandshakeMessage) (f g : FeatureSet), m.FeaturesObtainable → m.Portable f →
      ∃ b, m.encode .standard f = .ok b ∧ decode .standard g b = .ok m := by
  intro all
  -- The text is never written out; only its length counts.
  generalize spelt : String.ofList (List.replicate 1073741824 'a') = reason
  have long : Wire.maxLength < reason.length * 2 := by
    rw [← spelt, String.length_ofList, List.length_replicate]
    decide
  obtain ⟨b, written, _⟩ := all (clientInitReject (some reason)) .none .none trivial trivial
  exact encode_reject_of_long long .none ⟨b, written⟩

end Datastream.HandshakeMessage
