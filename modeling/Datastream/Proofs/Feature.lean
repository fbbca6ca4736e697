import Datastream.Feature
import Datastream.Proofs.Value.Fields

/-!
# The two views of a feature set

A feature set travels as a mask and as a list of names, and `build` merges both. Every set that can be
had (`Obtainable`) lists its known features in order, each once, and its other names by increasing
name, none of which is that of a feature. Such a set is what its own two views say
(`build_legacy_names`): the names give back every known feature, and the mask gives no other.
-/
namespace Datastream

namespace Feature

theorem mem_all (f : Feature) : f ∈ all := by
  cases f <;> decide

theorem ofName_name (f : Feature) : ofName? f.name = some f := by
  cases f <;> decide

theorem ofName_eq_none_iff (name : String) : ofName? name = none ↔ ∀ f : Feature, f.name ≠ name := by
  simp only [ofName?, List.find?_eq_none, beq_iff_eq]
  exact ⟨fun unknown f => unknown f f.mem_all, fun unknown f _ => unknown f⟩

/-- No two features have a bit in common. -/
theorem bits_disjoint : ∀ f ∈ all, ∀ g ∈ all,
    (f.legacyBit?.all fun bit => g.legacyBit?.getD 0 &&& bit == 0 || g == f) = true := by
  decide

theorem eq_of_common_bit {f g : Feature} {bit : UInt32} (own : f.legacyBit? = some bit)
    (common : g.legacyBit?.getD 0 &&& bit ≠ 0) : g = f := by
  have disjoint := bits_disjoint f f.mem_all g g.mem_all
  rw [own, Option.all_some, Bool.or_eq_true, beq_iff_eq, beq_iff_eq] at disjoint
  exact disjoint.resolve_left common

/-- Whether a mask and a list of names list a feature, by its bit or by its name. -/
def Listed (f : Feature) (legacy : UInt32) (names : List String) : Prop :=
  (∃ bit, f.legacyBit? = some bit ∧ legacy &&& bit ≠ 0) ∨ f.name ∈ names

/-- Features picked from the list by a test are those that pass it, in order. -/
theorem filter_contains_filter (p : Feature → Bool) :
    all.filter (all.filter p).contains = all.filter p := by
  refine List.filter_congr fun f member => ?_
  rw [Bool.eq_iff_iff, List.contains_iff_mem, List.mem_filter]
  exact and_iff_right member

end Feature

namespace FeatureSet

/-- Names as a map of nothing: what holds of the keys of maps holds of sorted names. -/
def keyed (names : List String) : Fields := names.map fun name => (name, .void)

theorem sorted_keyed (names : List String) : (keyed names).Sorted ↔ names.Pairwise (· < ·) :=
  List.pairwise_map

theorem keys_keyed (names : List String) : (keyed names).map (·.1) = names := by
  simp [keyed, Function.comp_def]

theorem keyed_inj {names others : List String} (same : keyed names = keyed others) :
    names = others := by
  rw [← keys_keyed names, same, keys_keyed]

theorem keyed_insertName (name : String) (names : List String) :
    keyed (insertName name names) = (keyed names).insert name .void := by
  induction names with
  | nil => rfl
  | cons other rest ih =>
    unfold insertName
    split
    · rename_i below
      exact (if_pos below).symm
    split
    · rename_i not_below same
      subst same
      exact ((if_neg not_below).trans (if_pos rfl)).symm
    · rename_i not_below different
      have later : (keyed (other :: rest)).insert name .void =
          (other, .void) :: (keyed rest).insert name .void :=
        (if_neg not_below).trans (if_neg different)
      rw [later, ← ih]
      rfl

theorem keyed_foldl (names start : List String) :
    keyed (names.foldl (fun sorted name => insertName name sorted) start) =
      (keyed names).foldl (fun fields pair => fields.insert pair.1 pair.2) (keyed start) := by
  induction names generalizing start with
  | nil => rfl
  | cons name rest ih =>
    rw [List.foldl_cons, ih, keyed_insertName]
    rfl

theorem mem_insertName {name other : String} {names : List String} :
    other ∈ insertName name names ↔ other = name ∨ other ∈ names := by
  induction names with
  | nil => exact List.mem_singleton.trans (or_iff_left List.not_mem_nil).symm
  | cons first rest ih =>
    unfold insertName
    split
    · exact List.mem_cons
    split
    · rename_i same
      subst same
      exact ⟨.inr, fun either => either.elim (fun here => here ▸ List.mem_cons_self) id⟩
    · rw [List.mem_cons, List.mem_cons, ih]
      exact or_left_comm

theorem mem_foldl_insertName {name : String} (names start : List String) :
    name ∈ names.foldl (fun sorted name => insertName name sorted) start ↔
      name ∈ start ∨ name ∈ names := by
  induction names generalizing start with
  | nil => exact (or_iff_left List.not_mem_nil).symm
  | cons first rest ih =>
    rw [List.foldl_cons, ih, mem_insertName, List.mem_cons, or_assoc]
    exact or_left_comm

/-- Names put together one by one are sorted. -/
theorem sorted_foldl_insertName (names : List String) :
    (names.foldl (fun sorted name => insertName name sorted) []).Pairwise (· < ·) := by
  have pairs := keyed_foldl names []
  rw [← sorted_keyed, pairs]
  exact Fields.sorted_ofPairs (keyed names)

theorem foldl_insertName_of_sorted {names : List String} (sorted : names.Pairwise (· < ·)) :
    names.foldl (fun sorted name => insertName name sorted) [] = names := by
  refine keyed_inj ?_
  rw [keyed_foldl]
  exact Fields.ofPairs_of_sorted ((sorted_keyed names).mpr sorted)

/-- Known features in order, and other names, sorted, that are of no feature. -/
structure Canonical (s : FeatureSet) : Prop where
  inOrder : Feature.all.filter s.known.contains = s.known
  sorted : s.additional.Pairwise (· < ·)
  foreign : ∀ name ∈ s.additional, Feature.ofName? name = Option.none

/-- The sets that the operations on feature sets make. -/
inductive Obtainable : FeatureSet → Prop
  | build (legacy : UInt32) (names : List String) : Obtainable (.build legacy names)
  | ofFeatures (features : List Feature) : Obtainable (.ofFeatures features)
  | all : Obtainable .all
  | none : Obtainable .none
  | intersect {s t : FeatureSet} (left : Obtainable s) (right : Obtainable t) :
      Obtainable (s.intersect t)

theorem mem_additional_build {name : String} (legacy : UInt32) (names : List String) :
    name ∈ (build legacy names).additional ↔ name ∈ names ∧ ∀ f : Feature, f.name ≠ name := by
  dsimp only [build]
  rw [mem_foldl_insertName, or_iff_right List.not_mem_nil, List.mem_filter,
    Option.isNone_iff_eq_none, Feature.ofName_eq_none_iff]

theorem canonical_build (legacy : UInt32) (names : List String) : (build legacy names).Canonical where
  inOrder := by
    dsimp only [build]
    exact Feature.filter_contains_filter _
  sorted := sorted_foldl_insertName _
  foreign := fun name member =>
    (Feature.ofName_eq_none_iff name).mpr ((mem_additional_build legacy names).mp member).2

theorem canonical_of_filter (p : Feature → Bool) : Canonical ⟨Feature.all.filter p, []⟩ where
  inOrder := Feature.filter_contains_filter p
  sorted := List.Pairwise.nil
  foreign := fun _ member => absurd member List.not_mem_nil

theorem Canonical.filter_known {s : FeatureSet} (canonical : s.Canonical) (p : Feature → Bool) :
    s.known.filter p = Feature.all.filter fun f => p f && s.known.contains f := by
  rw [← List.filter_filter, canonical.inOrder]

theorem Obtainable.canonical {s : FeatureSet} (obtainable : s.Obtainable) : s.Canonical := by
  induction obtainable with
  | build legacy names => exact canonical_build legacy names
  | ofFeatures features => exact canonical_of_filter features.contains
  | all => exact canonical_of_filter fun _ => true
  | none => exact canonical_of_filter fun _ => false
  | @intersect s t left right canonical _ =>
    rw [FeatureSet.intersect, canonical.filter_known]
    exact canonical_of_filter _

section Known

variable {s t : FeatureSet} {f : Feature}

theorem mem_known_build (legacy : UInt32) (names : List String) :
    f ∈ (build legacy names).known ↔ f.Listed legacy names := by
  have bit : f.legacyBit?.any (fun bit => legacy &&& bit != 0) = true ↔
      ∃ bit, f.legacyBit? = some bit ∧ legacy &&& bit ≠ 0 := by
    simp [Option.any_eq_true]
  simp only [build, List.mem_filter, f.mem_all, true_and, Bool.or_eq_true, bit, List.contains_iff_mem]
  rfl

theorem mem_known_intersect : f ∈ (s.intersect t).known ↔ f ∈ s.known ∧ f ∈ t.known := by
  simp [intersect]

/-- What a set knows, its list of names has. -/
theorem listed_of_known (known : f ∈ s.known) : f.Listed s.legacy s.names :=
  .inr (List.mem_append_left _ (List.mem_map_of_mem known))

/-- Which of two ends takes what both know makes no difference. -/
theorem Canonical.intersect_comm (left : s.Canonical) (right : t.Canonical) :
    s.intersect t = t.intersect s := by
  rw [intersect, intersect, left.filter_known, right.filter_known]
  simp only [Bool.and_comm]

end Known

/-- A bit of the mask is the bit of one of the features. -/
theorem bit_of_foldl (features : List Feature) (mask bit : UInt32)
    (set : features.foldl (fun mask f => mask ||| f.legacyBit?.getD 0) mask &&& bit ≠ 0) :
    mask &&& bit ≠ 0 ∨ ∃ f ∈ features, f.legacyBit?.getD 0 &&& bit ≠ 0 := by
  induction features generalizing mask with
  | nil => exact Or.inl set
  | cons f rest ih =>
    rcases ih _ set with before | ⟨g, member, own⟩
    · have either : (mask ||| f.legacyBit?.getD 0) &&& bit =
          (mask &&& bit) ||| (f.legacyBit?.getD 0 &&& bit) := by
        simp [← UInt32.toBitVec_inj, BitVec.and_or_distrib_right]
      by_cases old : mask &&& bit = 0
      · refine Or.inr ⟨f, List.mem_cons_self, fun new => before ?_⟩
        rw [either, old, new]
        rfl
      · exact Or.inl old
    · exact Or.inr ⟨g, List.mem_cons_of_mem f member, own⟩

theorem known_of_legacy {s : FeatureSet} {f : Feature} {bit : UInt32} (own : f.legacyBit? = some bit)
    (set : s.legacy &&& bit ≠ 0) : f ∈ s.known := by
  rcases bit_of_foldl s.known 0 bit set with zero | ⟨g, member, common⟩
  · exact absurd UInt32.zero_and zero
  · exact Feature.eq_of_common_bit own common ▸ member

theorem name_mem_names_iff {s : FeatureSet} (canonical : s.Canonical) (f : Feature) :
    f.name ∈ s.names ↔ f ∈ s.known := by
  unfold names
  rw [List.mem_append]
  refine ⟨fun member => ?_, fun member => Or.inl (List.mem_map_of_mem member)⟩
  rcases member with known | additional
  · obtain ⟨g, member, same⟩ := List.mem_map.mp known
    have equal : some g = some f := by rw [← g.ofName_name, ← f.ofName_name, same]
    exact Option.some.inj equal ▸ member
  · have foreign := canonical.foreign f.name additional
    rw [f.ofName_name] at foreign
    cases foreign

/-- The names that are of no feature. -/
theorem filter_names {s : FeatureSet} (canonical : s.Canonical) :
    s.names.filter (fun name => (Feature.ofName? name).isNone) = s.additional := by
  have known : (s.known.map Feature.name).filter (fun name => (Feature.ofName? name).isNone) = [] := by
    refine List.filter_eq_nil_iff.mpr fun name member => ?_
    obtain ⟨f, _, rfl⟩ := List.mem_map.mp member
    simp [f.ofName_name]
  have foreign : s.additional.filter (fun name => (Feature.ofName? name).isNone) = s.additional :=
    List.filter_eq_self.mpr fun name member =>
      Option.isNone_iff_eq_none.mpr (canonical.foreign name member)
  rw [names, List.filter_append, known, foreign, List.nil_append]

/-- Both views together say what the set is. -/
theorem Canonical.build_legacy_names {s : FeatureSet} (canonical : s.Canonical) :
    build s.legacy s.names = s := by
  have known : (build s.legacy s.names).known = s.known := by
    refine Eq.trans (List.filter_congr fun f _ => ?_) canonical.inOrder
    rw [Bool.eq_iff_iff, Bool.or_eq_true, List.contains_iff_mem, List.contains_iff_mem,
      name_mem_names_iff canonical]
    refine ⟨fun either => either.elim (fun set => ?_) id, Or.inr⟩
    obtain ⟨bit, own, set⟩ := (Option.any_eq_true _ _).mp set
    exact known_of_legacy own (bne_iff_ne.mp set)
  have additional : (build s.legacy s.names).additional = s.additional := by
    dsimp only [build]
    rw [filter_names canonical, foldl_insertName_of_sorted canonical.sorted]
  calc
    build s.legacy s.names =
        ⟨(build s.legacy s.names).known, (build s.legacy s.names).additional⟩ := rfl
    _ = ⟨s.known, s.additional⟩ := by rw [known, additional]
    _ = s := rfl

end FeatureSet
end Datastream
