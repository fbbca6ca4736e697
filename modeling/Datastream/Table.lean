/-!
# Tables

A table maps keys to values. Entries stand in the order in which their keys came; a key stands once.
-/
namespace Datastream

abbrev Table (κ ν : Type) := List (κ × ν)

namespace Table

variable {κ ν : Type} [DecidableEq κ]

def find? (t : Table κ ν) (key : κ) : Option ν :=
  match t with
  | [] => none
  | (k, v) :: rest => if k = key then some v else find? rest key

/-- Puts a value under a key, in place of the one that was there. -/
def put (t : Table κ ν) (key : κ) (value : ν) : Table κ ν :=
  match t with
  | [] => [(key, value)]
  | (k, v) :: rest => if k = key then (key, value) :: rest else (k, v) :: put rest key value

def erase (t : Table κ ν) (key : κ) : Table κ ν :=
  match t with
  | [] => []
  | (k, v) :: rest => if k = key then erase rest key else (k, v) :: erase rest key

def keys (t : Table κ ν) : List κ := t.map (·.1)

theorem find?_put (t : Table κ ν) (key key' : κ) (value : ν) :
    (t.put key value).find? key' = if key = key' then some value else t.find? key' := by
  induction t with
  | nil => simp [put, find?]
  | cons e rest ih =>
    obtain ⟨k, v⟩ := e
    by_cases h : k = key
    · subst h
      by_cases h' : k = key' <;> simp [put, find?, h']
    · by_cases h' : k = key'
      · subst h'
        simp [put, find?, h, Ne.symm h]
      · simp [put, find?, h, h', ih]

theorem find?_erase (t : Table κ ν) (key key' : κ) :
    (t.erase key).find? key' = if key = key' then none else t.find? key' := by
  induction t with
  | nil => simp [erase, find?]
  | cons e rest ih =>
    obtain ⟨k, v⟩ := e
    by_cases h : k = key
    · subst h
      rw [erase, if_pos rfl, ih, find?]
      by_cases h' : k = key' <;> simp [h']
    · by_cases h' : k = key'
      · subst h'
        simp [erase, find?, h, Ne.symm h]
      · simp [erase, find?, h, h', ih]

theorem find?_eq_none_iff (t : Table κ ν) (key : κ) : t.find? key = none ↔ key ∉ t.keys := by
  induction t with
  | nil => simp [find?, keys]
  | cons e rest ih =>
    obtain ⟨k, v⟩ := e
    by_cases h : k = key
    · simp [find?, keys, h]
    · simpa [find?, keys, h, Ne.symm h] using ih

theorem mem_of_find? {t : Table κ ν} {key : κ} {value : ν} (h : t.find? key = some value) :
    (key, value) ∈ t := by
  induction t with
  | nil => cases h
  | cons e rest ih =>
    obtain ⟨k, v⟩ := e
    by_cases same : k = key
    · subst same
      simp only [find?, if_true, Option.some.injEq] at h
      simp [h]
    · simp only [find?, if_neg same] at h
      exact List.mem_cons_of_mem _ (ih h)

theorem find?_of_mem {t : Table κ ν} (once : t.keys.Nodup) {key : κ} {value : ν}
    (h : (key, value) ∈ t) : t.find? key = some value := by
  induction t with
  | nil => cases h
  | cons e rest ih =>
    obtain ⟨k, v⟩ := e
    obtain ⟨absent, once⟩ := List.nodup_cons.mp once
    rcases List.mem_cons.mp h with same | later
    · cases same
      simp [find?]
    · have differs : k ≠ key := by
        rintro rfl
        exact absent (List.mem_map.mpr ⟨_, later, rfl⟩)
      simp only [find?, if_neg differs]
      exact ih once later

theorem put_of_not_mem {t : Table κ ν} {key : κ} (h : key ∉ t.keys) (value : ν) :
    t.put key value = t ++ [(key, value)] := by
  induction t with
  | nil => rfl
  | cons e rest ih =>
    obtain ⟨k, v⟩ := e
    simp only [keys, List.map_cons, List.mem_cons, not_or] at h
    simp [put, Ne.symm h.1, ih h.2]

theorem keys_put (t : Table κ ν) (key : κ) (value : ν) :
    (t.put key value).keys = if key ∈ t.keys then t.keys else t.keys ++ [key] := by
  induction t with
  | nil => rfl
  | cons e rest ih =>
    obtain ⟨k, v⟩ := e
    by_cases h : k = key
    · simp [put, keys, h]
    · simp only [put, if_neg h, keys, List.map_cons] at ih ⊢
      rw [ih]
      by_cases member : key ∈ rest.map (·.1) <;> simp [member, Ne.symm h]

theorem nodup_keys_put {t : Table κ ν} (once : t.keys.Nodup) (key : κ) (value : ν) :
    (t.put key value).keys.Nodup := by
  rw [keys_put]
  split
  · exact once
  · next absent =>
    refine List.nodup_append.mpr ⟨once, by simp, fun other member last alone same => ?_⟩
    exact absent (List.mem_singleton.mp alone ▸ same ▸ member)

/-- What stands in a table after a value was put there is that value, or stood there before. -/
theorem mem_of_mem_put {t : Table κ ν} {key key' : κ} {value value' : ν}
    (member : (key', value') ∈ t.put key value) : value' = value ∨ (key', value') ∈ t := by
  induction t with
  | nil => exact .inl (Prod.mk.inj (List.mem_singleton.mp member)).2
  | cons entry rest ih =>
    obtain ⟨k, v⟩ := entry
    rw [put] at member
    split at member
    · rcases List.mem_cons.mp member with here | there
      · exact .inl (Prod.mk.inj here).2
      · exact .inr (List.mem_cons_of_mem _ there)
    · rcases List.mem_cons.mp member with here | there
      · exact .inr (here ▸ List.mem_cons_self)
      · exact (ih there).imp_right (List.mem_cons_of_mem _)

theorem filter_of_not_mem {t : Table κ ν} {key : κ} (h : key ∉ t.keys) :
    t.filter (·.1 ≠ key) = t := by
  refine List.filter_eq_self.mpr fun entry member => ?_
  have other : entry.1 ≠ key := fun same => h (same ▸ List.mem_map.mpr ⟨entry, member, rfl⟩)
  simpa using other

theorem erase_eq_filter (t : Table κ ν) (key : κ) : t.erase key = t.filter (·.1 ≠ key) := by
  induction t with
  | nil => rfl
  | cons e rest ih =>
    obtain ⟨k, v⟩ := e
    by_cases h : k = key <;> simp [erase, h, ih]

omit [DecidableEq κ] in
theorem nodup_keys_filter {t : Table κ ν} (once : t.keys.Nodup) (p : κ × ν → Bool) :
    (keys (t.filter p)).Nodup :=
  once.sublist (List.filter_sublist.map _)

theorem nodup_keys_erase {t : Table κ ν} (once : t.keys.Nodup) (key : κ) :
    (t.erase key).keys.Nodup := by
  rw [erase_eq_filter]
  exact nodup_keys_filter once _

/-- A key that stands once is found among the values that are kept just if its own is kept. -/
theorem find?_filter {t : Table κ ν} (once : t.keys.Nodup) (p : ν → Bool) (key : κ) :
    find? (t.filter fun entry => p entry.2) key = (t.find? key).filter p := by
  induction t with
  | nil => rfl
  | cons e rest ih =>
    obtain ⟨k, v⟩ := e
    obtain ⟨absent, once⟩ := List.nodup_cons.mp once
    have ih := ih once
    by_cases h : k = key
    · subst h
      rw [(find?_eq_none_iff rest k).mpr absent] at ih
      cases kept : p v <;> simp [find?, kept, ih, Option.filter]
    · cases kept : p v <;> simp [find?, kept, h, ih]

end Table
end Datastream
