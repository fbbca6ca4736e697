import Datastream.Proofs.Value.Fields
import Mathlib.Data.List.Nodup

/-!
# Pairs in any order

A map that is built from pairs holds under each key the value of the last pair with that key
(`perm_lastByKey`), and a map in order is told by its entries (`Sorted.eq_of_perm`). So earlier pairs of
a key may be left out (`ofPairs_lastByKey`), pairs with distinct keys may come in any order
(`ofPairs_eq_of_perm`), and pairs with other keys do not change what is found under a key
(`get?_ofPairs_filter`).
-/
namespace Datastream

section LastByKey

variable {α : Type} (key : α → String)

def lastByKey : List α → List α
  | [] => []
  | x :: rest => if key x ∈ rest.map key then lastByKey rest else x :: lastByKey rest

theorem lastByKey_sublist (xs : List α) : (lastByKey key xs).Sublist xs := by
  induction xs with
  | nil => exact List.Sublist.slnil
  | cons x rest ih =>
    unfold lastByKey
    split
    · exact ih.cons x
    · exact ih.cons_cons x

theorem nodup_lastByKey (xs : List α) : ((lastByKey key xs).map key).Nodup := by
  induction xs with
  | nil => exact List.nodup_nil
  | cons x rest ih =>
    unfold lastByKey
    split
    · exact ih
    · rename_i last
      have kept := (lastByKey_sublist key rest).map key
      exact List.nodup_cons.mpr ⟨fun again => last (kept.subset again), ih⟩

theorem lastByKey_of_nodup {xs : List α} (distinct : (xs.map key).Nodup) : lastByKey key xs = xs := by
  induction xs with
  | nil => rfl
  | cons x rest ih =>
    obtain ⟨last, distinct⟩ := List.nodup_cons.mp distinct
    rw [lastByKey, if_neg last, ih distinct]

theorem map_lastByKey {β : Type} (f : β → α) (xs : List β) :
    (lastByKey (fun x => key (f x)) xs).map f = lastByKey key (xs.map f) := by
  induction xs with
  | nil => rfl
  | cons x rest ih =>
    simp only [lastByKey, List.map_cons, List.map_map, Function.comp_def]
    split
    · exact ih
    · rw [List.map_cons, ih]

end LastByKey

namespace Fields

variable {fields others : Fields} {key : String} {value : Value}

theorem Sorted.nodup (sorted : fields.Sorted) : fields.Nodup := by
  refine List.Pairwise.imp ?_ sorted
  rintro entry _ below rfl
  exact String.lt_irrefl _ below

theorem Sorted.get?_eq_some_iff (sorted : fields.Sorted) :
    fields.get? key = some value ↔ (key, value) ∈ fields := by
  induction fields with
  | nil => simp [get?_nil]
  | cons first rest ih =>
    obtain ⟨above, sorted⟩ := List.pairwise_cons.mp sorted
    rw [get?_cons, List.mem_cons]
    split
    · rename_i here
      subst here
      have alone : (first.1, value) ∉ rest := fun member =>
        String.lt_irrefl _ (above (first.1, value) member)
      rw [or_iff_left alone, Option.some.injEq]
      exact ⟨fun same => Prod.ext rfl same.symm, fun same => (congrArg Prod.snd same).symm⟩
    · rename_i elsewhere
      rw [ih sorted]
      exact (or_iff_right fun same => elsewhere (congrArg Prod.fst same)).symm

/-- There is one map in order with these entries. -/
theorem Sorted.eq_of_perm (sorted : fields.Sorted) (sorted' : others.Sorted) (same : fields.Perm others) :
    fields = others :=
  same.eq_of_pairwise (fun _ _ _ _ below above => absurd above (String.lt_asymm below)) sorted sorted'

theorem lookup_singleton (pair : String × Value) (key : String) :
    [pair].lookup key = if key = pair.1 then some pair.2 else none :=
  get?_cons pair [] key

theorem lookup_reverse_eq_none_iff (pairs : List (String × Value)) :
    pairs.reverse.lookup key = none ↔ key ∉ pairs.map Prod.fst := by
  simp only [List.lookup_eq_none_iff, List.mem_reverse, bne_iff_ne, List.mem_map, not_exists, not_and]
  exact forall₂_congr fun pair _ => ne_comm

theorem get?_foldl_insert (pairs : List (String × Value)) (fields : Fields) (key : String) :
    (pairs.foldl (fun fields pair => Fields.insert pair.1 pair.2 fields) fields).get? key =
      (pairs.reverse.lookup key).or (fields.get? key) := by
  induction pairs generalizing fields with
  | nil => rfl
  | cons pair rest ih =>
    rw [List.foldl_cons, ih, get?_insert, List.reverse_cons, List.lookup_append, Option.or_assoc,
      lookup_singleton]
    split <;> rfl

/-- Under a key is the last value that was paired with it. -/
theorem get?_ofPairs (pairs : List (String × Value)) (key : String) :
    (ofPairs pairs).get? key = pairs.reverse.lookup key :=
  (get?_foldl_insert pairs [] key).trans Option.or_none

theorem lookup_map_filter {α : Type} (f : α → String × Value) (own : α → Bool) {xs : List α}
    (foreign : ∀ x ∈ xs, own x = false → (f x).1 ≠ key) :
    ((xs.filter own).map f).lookup key = (xs.map f).lookup key := by
  induction xs with
  | nil => rfl
  | cons x rest ih =>
    obtain ⟨first, foreign⟩ := List.forall_mem_cons.mp foreign
    cases own' : own x with
    | true =>
      rw [List.filter_cons_of_pos own', List.map_cons, List.map_cons, List.lookup_cons, List.lookup_cons,
        ih foreign]
    | false =>
      have elsewhere : (key == (f x).1) = false := beq_eq_false_iff_ne.mpr (first own').symm
      rw [List.filter_cons_of_neg (by simp [own']), ih foreign, List.map_cons, List.lookup_cons, elsewhere]

/-- Pairs with other keys, wherever they stand, do not change what is found under a key. -/
theorem get?_ofPairs_filter {α : Type} (f : α → String × Value) (own : α → Bool) {xs : List α}
    (foreign : ∀ x ∈ xs, own x = false → (f x).1 ≠ key) :
    (ofPairs ((xs.filter own).map f)).get? key = (ofPairs (xs.map f)).get? key := by
  rw [get?_ofPairs, get?_ofPairs, ← List.map_reverse, ← List.map_reverse, ← List.filter_reverse]
  exact lookup_map_filter f own fun x member => foreign x (List.mem_reverse.mp member)

theorem mem_lastByKey (pairs : List (String × Value)) :
    (key, value) ∈ lastByKey Prod.fst pairs ↔ pairs.reverse.lookup key = some value := by
  induction pairs with
  | nil => simp [lastByKey]
  | cons pair rest ih =>
    rw [lastByKey, List.reverse_cons, List.lookup_append, lookup_singleton]
    split
    · rename_i again
      rw [ih]
      cases found : rest.reverse.lookup key with
      | some other => rw [Option.some_or]
      | none =>
        have absent := (lookup_reverse_eq_none_iff rest).mp found
        have differs : key ≠ pair.1 := fun same => absent (same ▸ again)
        rw [if_neg differs, Option.none_or]
    · rename_i last
      rw [List.mem_cons, ih]
      by_cases here : key = pair.1
      · have unfound := (lookup_reverse_eq_none_iff rest).mpr last
        rw [here, unfound, if_pos rfl, Option.none_or, or_iff_left (by simp), Option.some.injEq]
        exact ⟨fun same => (congrArg Prod.snd same).symm, fun same => Prod.ext rfl same.symm⟩
      · rw [if_neg here, Option.or_none]
        exact or_iff_right fun same => here (congrArg Prod.fst same)

/-- The entries of the map are the last pairs of all keys. -/
theorem perm_lastByKey (pairs : List (String × Value)) : (ofPairs pairs).Perm (lastByKey Prod.fst pairs) := by
  have sorted := sorted_ofPairs pairs
  have distinct : (lastByKey Prod.fst pairs).Nodup := .of_map Prod.fst (nodup_lastByKey Prod.fst pairs)
  refine (List.perm_ext_iff_of_nodup sorted.nodup distinct).mpr fun entry => ?_
  rw [mem_lastByKey, ← get?_ofPairs]
  exact sorted.get?_eq_some_iff.symm

/-- A map in order is the map of some pairs just if its entries are their last ones. -/
theorem Sorted.eq_ofPairs_iff (sorted : fields.Sorted) (pairs : List (String × Value)) :
    fields = ofPairs pairs ↔ fields.Perm (lastByKey Prod.fst pairs) :=
  ⟨fun same => same ▸ perm_lastByKey pairs, fun perm =>
    sorted.eq_of_perm (sorted_ofPairs pairs) (perm.trans (perm_lastByKey pairs).symm)⟩

/-- Pairs before the last of their key may be left out. -/
theorem ofPairs_lastByKey (pairs : List (String × Value)) :
    ofPairs (lastByKey Prod.fst pairs) = ofPairs pairs := by
  have again := perm_lastByKey (lastByKey Prod.fst pairs)
  rw [lastByKey_of_nodup Prod.fst (nodup_lastByKey Prod.fst pairs)] at again
  exact ((sorted_ofPairs _).eq_ofPairs_iff pairs).mpr again

/-- Pairs with distinct keys may come in any order. -/
theorem ofPairs_eq_of_perm {pairs pairs' : List (String × Value)} (distinct : (pairs.map Prod.fst).Nodup)
    (perm : pairs'.Perm pairs) : ofPairs pairs' = ofPairs pairs := by
  have distinct' : (pairs'.map Prod.fst).Nodup := (perm.map Prod.fst).nodup_iff.mpr distinct
  have entries := perm_lastByKey pairs'
  rw [lastByKey_of_nodup Prod.fst distinct'] at entries
  refine ((sorted_ofPairs pairs').eq_ofPairs_iff pairs).mpr ?_
  rw [lastByKey_of_nodup Prod.fst distinct]
  exact entries.trans perm

end Fields
end Datastream
