import Datastream.Value.Basic

/-!
# Maps in order

A map lists its entries by increasing key. `insert` keeps that order, so every map that is built from
pairs has it, and a map in order is the map of its own entries. What `get?` finds after `insert` is
the new value under its key, and the old one under any other.
-/
namespace Datastream.Fields

/-- Keys increase from entry to entry, so that none occurs twice. -/
def Sorted (fields : Fields) : Prop := fields.Pairwise fun a b => a.1 < b.1

instance (fields : Fields) : Decidable fields.Sorted :=
  inferInstanceAs (Decidable (fields.Pairwise fun a b => a.1 < b.1))

theorem mem_insert {key : String} {value : Value} {fields : Fields} {entry : String × Value}
    (member : entry ∈ fields.insert key value) : entry = (key, value) ∨ entry ∈ fields := by
  induction fields with
  | nil => simpa [insert] using member
  | cons first rest ih =>
    unfold insert at member
    split at member
    · simpa using member
    split at member
    · rcases List.mem_cons.mp member with here | later
      · exact Or.inl here
      · exact Or.inr (List.mem_cons_of_mem first later)
    · rcases List.mem_cons.mp member with here | later
      · exact Or.inr (here ▸ List.mem_cons_self)
      · exact (ih later).imp_right (List.mem_cons_of_mem first)

theorem sorted_insert (key : String) (value : Value) {fields : Fields} (sorted : fields.Sorted) :
    (fields.insert key value).Sorted := by
  induction fields with
  | nil => exact List.pairwise_singleton _ _
  | cons first rest ih =>
    obtain ⟨above, sorted_rest⟩ := List.pairwise_cons.mp sorted
    unfold insert
    split
    · rename_i below
      refine List.pairwise_cons.mpr ⟨fun entry member => ?_, sorted⟩
      rcases List.mem_cons.mp member with rfl | later
      · exact below
      · exact String.lt_trans below (above entry later)
    split
    · rename_i _ same
      exact List.pairwise_cons.mpr ⟨fun entry member => same ▸ above entry member, sorted_rest⟩
    · rename_i not_below different
      refine List.pairwise_cons.mpr ⟨fun entry member => ?_, ih sorted_rest⟩
      rcases mem_insert member with rfl | later
      · rcases Std.lt_trichotomy first.1 key with lt | eq | gt
        · exact lt
        · exact absurd eq.symm different
        · exact absurd gt not_below
      · exact above entry later

/-- Pairs put one after the other into a map in order leave a map in order. -/
theorem sorted_foldl_insert (pairs : List (String × Value)) {fields : Fields}
    (sorted : fields.Sorted) :
    (pairs.foldl (fun fields pair => fields.insert pair.1 pair.2) fields).Sorted := by
  induction pairs generalizing fields with
  | nil => exact sorted
  | cons pair pairs ih => exact ih (sorted_insert pair.1 pair.2 sorted)

theorem mem_foldl_insert (pairs : List (String × Value)) {fields : Fields} {entry : String × Value}
    (member : entry ∈ pairs.foldl (fun fields pair => Fields.insert pair.1 pair.2 fields) fields) :
    entry ∈ fields ∨ entry ∈ pairs := by
  induction pairs generalizing fields with
  | nil => exact Or.inl member
  | cons pair pairs ih =>
    rcases ih member with before | later
    · rcases mem_insert before with rfl | old
      · exact Or.inr List.mem_cons_self
      · exact Or.inl old
    · exact Or.inr (List.mem_cons_of_mem pair later)

/-- A map built from pairs holds nothing else. -/
theorem mem_of_mem_ofPairs {pairs : List (String × Value)} {entry : String × Value}
    (member : entry ∈ ofPairs pairs) : entry ∈ pairs :=
  (mem_foldl_insert pairs member).resolve_left List.not_mem_nil

theorem sorted_ofPairs (pairs : List (String × Value)) : (ofPairs pairs).Sorted :=
  sorted_foldl_insert pairs List.Pairwise.nil

theorem length_insert_le (key : String) (value : Value) (fields : Fields) :
    (fields.insert key value).length ≤ fields.length + 1 := by
  induction fields with
  | nil => exact Nat.le_refl 1
  | cons first rest ih =>
    unfold insert
    split
    · exact Nat.le_refl _
    split
    · exact Nat.le_succ _
    · exact Nat.succ_le_succ ih

theorem length_foldl_insert_le (pairs : List (String × Value)) (fields : Fields) :
    (pairs.foldl (fun fields pair => Fields.insert pair.1 pair.2 fields) fields).length ≤
      fields.length + pairs.length := by
  induction pairs generalizing fields with
  | nil => exact Nat.le_refl _
  | cons pair pairs ih =>
    have one := length_insert_le pair.1 pair.2 fields
    have others := ih (fields.insert pair.1 pair.2)
    rw [List.foldl_cons, List.length_cons]
    omega

theorem length_ofPairs_le (pairs : List (String × Value)) : (ofPairs pairs).length ≤ pairs.length := by
  have bound := length_foldl_insert_le pairs []
  rwa [List.length_nil, Nat.zero_add] at bound

/-- A key above all others goes to the end. -/
theorem insert_of_above {key : String} (value : Value) {fields : Fields}
    (above : ∀ entry ∈ fields, entry.1 < key) :
    fields.insert key value = fields ++ [(key, value)] := by
  induction fields with
  | nil => rfl
  | cons first rest ih =>
    have below := above first List.mem_cons_self
    rw [insert, if_neg (String.lt_asymm below), if_neg (String.ne_of_lt below).symm,
      ih (fun entry member => above entry (List.mem_cons_of_mem first member))]
    rfl

/-- Inserting the entries of a map in order behind others puts them back in place. -/
theorem foldl_insert_of_sorted (done rest : Fields) (sorted : Sorted (done ++ rest)) :
    rest.foldl (fun fields pair => fields.insert pair.1 pair.2) done = done ++ rest := by
  induction rest generalizing done with
  | nil => rw [List.foldl_nil, List.append_nil]
  | cons entry rest ih =>
    have above : ∀ before ∈ done, before.1 < entry.1 := fun before member =>
      (List.pairwise_append.mp sorted).2.2 before member entry List.mem_cons_self
    have moved : done ++ entry :: rest = (done ++ [entry]) ++ rest := by simp
    rw [List.foldl_cons, insert_of_above entry.2 above, moved]
    exact ih (done ++ [entry]) (moved ▸ sorted)

theorem ofPairs_of_sorted {fields : Fields} (sorted : fields.Sorted) : ofPairs fields = fields :=
  foldl_insert_of_sorted [] fields sorted

theorem get?_cons (entry : String × Value) (rest : Fields) (key : String) :
    get? (entry :: rest) key = if key = entry.1 then some entry.2 else get? rest key := by
  unfold get?
  rw [List.lookup_cons]
  by_cases same : key = entry.1
  · rw [beq_iff_eq.mpr same, if_pos same]
  · rw [beq_eq_false_iff_ne.mpr same, if_neg same]

theorem get?_nil (key : String) : get? [] key = none := rfl

theorem get?_insert (fields : Fields) (key key' : String) (value : Value) :
    (fields.insert key value).get? key' = if key' = key then some value else fields.get? key' := by
  induction fields with
  | nil => exact get?_cons (key, value) [] key'
  | cons first rest ih =>
    unfold insert
    split
    · exact get?_cons (key, value) (first :: rest) key'
    split
    · rename_i _ equal
      rw [get?_cons, get?_cons, equal]
      split <;> rfl
    · rename_i _ different
      rw [get?_cons, get?_cons, ih]
      split
      · rename_i here
        have other : key' ≠ key := fun same => different (same.symm.trans here)
        rw [if_neg other]
      · rfl

/-- Values changed one by one keep the order of keys. -/
theorem sorted_map (change : Value → Value) {fields : Fields} (sorted : fields.Sorted) :
    Sorted (fields.map fun entry => (entry.1, change entry.2)) :=
  List.pairwise_map.mpr sorted

end Datastream.Fields
