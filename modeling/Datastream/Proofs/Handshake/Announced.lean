import Datastream.Proofs.Handshake.RoundTrip

/-!
# What ends announce

Each end announces its features in a mask and by name: the client when it starts the handshake, the core
when it acknowledges that. The other end merges both views, and has the very set that was announced. What a
mask and names say together is told feature by feature and name by name (`FeatureSet.mem_known_build`,
`FeatureSet.mem_additional_build`), so the ends agree on what both have, whichever of them works it out
(`FeatureSet.both_views_survive`).

The views are merged by `build`, and what both have is `intersect`.
-/
namespace Datastream

namespace HandshakeMessage

variable (features : FeatureSet)

/-- The start of the handshake says both views of the client's features. -/
theorem featuresOf_clientInit (version date : String) :
    featuresOf (Fields.ofPairs (clientInit version date features).toFields) "Features" =
      .build features.legacy features.names := by
  simp only [toFields, kind, featureNames, featuresOf, Fields.ofPairs, List.foldl_cons, List.foldl_nil,
    field?, Fields.get?_nil, Fields.get?_insert, String.reduceEq, if_true, if_false, Option.bind_some,
    Option.getD_some, Value.texts_ofTexts, Value.uint?]

/-- Its acknowledgement says both views of the core's features. -/
theorem featuresOf_clientInitAck (backends authenticators : List Value) (configured : Option Bool) :
    featuresOf (Fields.ofPairs (clientInitAck features backends authenticators configured).toFields)
      "CoreFeatures" = .build features.legacy features.names := by
  cases configured
  all_goals simp only [toFields, kind, featureNames, featuresOf, Fields.ofPairs, List.foldl_cons,
    List.foldl_nil, field?, List.cons_append, List.nil_append, Option.map_none, Option.map_some, Option.toList_none,
    Option.toList_some, Fields.get?_nil, Fields.get?_insert, String.reduceEq, if_true, if_false,
    Option.bind_some, Option.getD_some, Value.texts_ofTexts, Value.uint?]

end HandshakeMessage

namespace FeatureSet

/-- What one end has of what the other announces is what both have. -/
theorem has_intersect_announced {s t : FeatureSet} (right : t.Canonical) (f : Feature) :
    (s.intersect (build t.legacy t.names)).has f = true ↔ s.has f = true ∧ t.has f = true := by
  rw [right.build_legacy_names]
  simp only [has, List.contains_iff_mem]
  exact mem_known_intersect

/-- Every set that can be had is what its two views say. They say of each feature that its bit is set or its
name listed, and of each other name that it is listed. So both ends have the same features in common. -/
theorem both_views_survive :
    (∀ s : FeatureSet, s.Obtainable →
      (∀ name ∈ s.additional, ∀ f : Feature, f.name ≠ name) ∧ build s.legacy s.names = s) ∧
    (∀ (legacy : UInt32) (names : List String),
      (∀ f, (build legacy names).has f = true ↔ f.Listed legacy names) ∧
      (∀ name, name ∈ (build legacy names).additional ↔ name ∈ names ∧ ∀ f : Feature, f.name ≠ name) ∧
      (build legacy names).additional.Pairwise (· < ·)) ∧
    (∀ s t : FeatureSet, s.Obtainable → t.Obtainable →
      s.intersect (build t.legacy t.names) = t.intersect (build s.legacy s.names) ∧
      (s.intersect (build t.legacy t.names)).additional = [] ∧
      ∀ f, (s.intersect (build t.legacy t.names)).has f = true ↔ s.has f = true ∧ t.has f = true) ∧
    ∀ s : FeatureSet,
      (∀ version date, HandshakeMessage.featuresOf
        (Fields.ofPairs (HandshakeMessage.clientInit version date s).toFields) "Features" =
          build s.legacy s.names) ∧
      ∀ backends authenticators configured, HandshakeMessage.featuresOf
        (Fields.ofPairs (HandshakeMessage.clientInitAck s backends authenticators configured).toFields)
          "CoreFeatures" = build s.legacy s.names := by
  refine ⟨fun s obtainable => ?_, fun legacy names => ?_, fun s t left right => ?_, fun s => ?_⟩
  · have canonical := obtainable.canonical
    exact ⟨fun name member => (Feature.ofName_eq_none_iff name).mp (canonical.foreign name member),
      canonical.build_legacy_names⟩
  · refine ⟨fun f => ?_, fun name => mem_additional_build legacy names, (canonical_build legacy names).sorted⟩
    exact List.contains_iff_mem.trans (mem_known_build legacy names)
  · refine ⟨?_, rfl, has_intersect_announced right.canonical⟩
    rw [left.canonical.build_legacy_names, right.canonical.build_legacy_names]
    exact left.canonical.intersect_comm right.canonical
  · exact ⟨HandshakeMessage.featuresOf_clientInit s, HandshakeMessage.featuresOf_clientInitAck s⟩

/-- A core that lists one feature by its bit and by name, one by name alone, one name of no feature twice, and
sets a bit that is of no feature; and a client with all features. -/
theorem common_with_core :
    (build 0x18000 ["Teleport", "LongTime", "ExtendedFeatures", "Teleport"]).Obtainable ∧ all.Obtainable ∧
      build 0x8000 ["ExtendedFeatures", "LongTime", "Teleport"] =
        build 0x18000 ["Teleport", "LongTime", "ExtendedFeatures", "Teleport"] ∧
      all.intersect (build 0x8000 ["ExtendedFeatures", "LongTime", "Teleport"]) =
        ⟨[.extendedFeatures, .longTime], []⟩ := by
  have core : (build 0x18000 ["Teleport", "LongTime", "ExtendedFeatures", "Teleport"]).Obtainable :=
    .build _ _
  obtain ⟨restored, -, common, -⟩ := both_views_survive
  refine ⟨core, .all, (restored _ core).2, ?_⟩
  exact (common _ _ .all core).1.trans (by decide)

end FeatureSet
end Datastream
