import Datastream.Value.Basic
import Datastream.Wire.Registry

/-!
# Known types

Numbers and names stand for one type each, a registry knows the types that it was made of, and the
standard one knows the type of every value.
-/
namespace Datastream

theorem PlainType.ofId_id (type : PlainType) : ofId? type.id = some type := by
  cases type <;> decide

theorem NamedType.ofName_name (type : NamedType) : ofName? type.name = some type := by
  cases type with
  | record type => cases type <;> decide
  | _ => decide

theorem Tag.mem_all (tag : Tag) : tag ∈ all := by
  cases tag with
  | plain type => cases type <;> decide
  | named type =>
    cases type with
    | record type => cases type <;> decide
    | _ => decide

namespace Registry

theorem lookup_eq_ok_iff (r : Registry) (tag : Tag) :
    r.lookup tag = .ok tag ↔ r.knows tag = true := by
  unfold lookup
  split <;> simp_all

theorem mem_foldl_register (tags : List Tag) (start : Registry) (tag : Tag) :
    tag ∈ (tags.foldl register start).tags ↔
      tag ∈ start.tags ∨ tag ∈ tags ∧ tag ≠ .plain .userType := by
  induction tags generalizing start with
  | nil => simp
  | cons first rest ih =>
    rw [List.foldl_cons, ih, register]
    split
    · rename_i marker
      simp only [List.mem_cons]
      exact or_congr_right ⟨fun h => ⟨Or.inr h.1, h.2⟩,
        fun h => ⟨h.1.resolve_left fun same => h.2 (same.trans marker), h.2⟩⟩
    · rename_i proper
      simp only [List.mem_cons]
      constructor
      · rintro ((rfl | old) | ⟨later, other⟩)
        · exact Or.inr ⟨Or.inl rfl, proper⟩
        · exact Or.inl old
        · exact Or.inr ⟨Or.inr later, other⟩
      · rintro (old | ⟨rfl | later, other⟩)
        · exact Or.inl (Or.inr old)
        · exact Or.inl (Or.inl rfl)
        · exact Or.inr ⟨later, other⟩

/-- A registry knows the types it was made of, but never the bare marker. -/
theorem knows_ofTags (tags : List Tag) (tag : Tag) :
    (ofTags tags).knows tag = true ↔ tag ∈ tags ∧ tag ≠ .plain .userType := by
  rw [knows, List.contains_iff_mem, ofTags, mem_foldl_register]
  simp [empty]

end Registry

namespace Value

/-- No value has the bare marker for its type. -/
theorem tag_proper (v : Value) : v.tag ≠ .plain .userType := by
  cases v <;> simp [tag]

theorem knows_standard (v : Value) : Registry.standard.knows v.tag = true :=
  (Registry.knows_ofTags Tag.all v.tag).mpr ⟨v.tag.mem_all, v.tag_proper⟩

end Value
end Datastream
