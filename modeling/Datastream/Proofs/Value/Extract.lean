import Datastream.Proofs.Text.Utf8
import Datastream.Value.Extract

/-!
# Taking out what was put in

Names, texts and lists are taken out of the values that they were made into.
-/
namespace Datastream.Value

theorem name?_ofName (name : String) : (ofName name).name? = some name := by
  rw [ofName, name?, Option.getD_some, Utf8.decode_encode]

theorem text?_ofText (text : String) : (ofText text).text? = some text := rfl

/-- Items that are each read back from what they were made into are read back together. -/
theorem mapM_map {α β : Type} (read : β → Option α) (make : α → β)
    (inverse : ∀ x, read (make x) = some x) (xs : List α) : (xs.map make).mapM read = some xs := by
  induction xs with
  | nil => rfl
  | cons x xs ih => simp [inverse, ih]

theorem texts_ofTexts (texts : List String) : listOf? text? (ofTexts texts) = some texts :=
  mapM_map (fun s => text? (string s)) some (fun _ => rfl) texts

theorem listOf?_list {α : Type} (read : Value → Option α) (make : α → Value)
    (inverse : ∀ x, read (make x) = some x) (xs : List α) :
    listOf? read (list (xs.map make)) = some xs :=
  mapM_map read make inverse xs

theorem listOf?_some (items : List Value) : listOf? some (list items) = some items := by
  have read := listOf?_list some id (fun _ => rfl) items
  rwa [List.map_id] at read

theorem nullableText?_eq_some {v : Value} {text : Option String} (read : v.nullableText? = some text) :
    v = string text := by
  unfold nullableText? at read
  split at read
  · exact congrArg string (Option.some.inj read)
  · cases read

/-- The elements of a list; those of a list of strings are values that are strings. -/
def elements? : Value → Option (List Value)
  | list items => some items
  | stringList items => some (items.map string)
  | _ => none

theorem listOf?_eq {α : Type} (read : Value → Option α) (v : Value) :
    listOf? read v = v.elements?.bind (List.mapM read) := by
  cases v with
  | stringList items => exact List.mapM_map.symm
  | _ => rfl

section Inverse

variable {α β : Type}

/-- What is read from items says what each of them was made from. -/
theorem mapM_eq_some_iff {read : β → Option α} {make : α → β}
    (inverse : ∀ v x, read v = some x ↔ v = make x) (vs : List β) (xs : List α) :
    vs.mapM read = some xs ↔ vs = xs.map make := by
  constructor
  · intro taken
    induction vs generalizing xs with
    | nil =>
      cases taken
      rfl
    | cons v vs ih =>
      rw [List.mapM_cons] at taken
      obtain ⟨x, first, taken⟩ := Option.bind_eq_some_iff.mp taken
      obtain ⟨rest, others, taken⟩ := Option.bind_eq_some_iff.mp taken
      cases taken
      rw [List.map_cons, ← (inverse v x).mp first, ← ih rest others]
  · rintro rfl
    exact mapM_map read make (fun x => (inverse (make x) x).mpr rfl) xs

/-- A list is read just if each of its elements is of the type that is wanted. -/
theorem listOf?_eq_some_iff {read : Value → Option α} {make : α → Value}
    (inverse : ∀ v x, read v = some x ↔ v = make x) (v : Value) (xs : List α) :
    listOf? read v = some xs ↔ v.elements? = some (xs.map make) := by
  rw [listOf?_eq, Option.bind_eq_some_iff]
  simp only [mapM_eq_some_iff inverse, exists_eq_right]

end Inverse

theorem bufferInfo?_eq_some_iff (v : Value) (info : BufferInfo) :
    v.bufferInfo? = some info ↔ v = bufferInfo info := by
  cases v <;> simp [bufferInfo?]

theorem networkId?_eq_some_iff (v : Value) (id : NetworkId) :
    v.networkId? = some id ↔ v = networkId id := by
  cases v <;> simp [networkId?]

/-- A parameter that was taken stands in its place and is of the type that was wanted. -/
theorem of_param {α : Type} {read : Value → Option α} {params : List Value} {index : Nat}
    {slot : String} {x : α} (taken : param read params index slot = .ok x) :
    ∃ v, params[index]? = some v ∧ read v = some x := by
  unfold param at taken
  split at taken
  · next found =>
    cases taken
    exact Option.bind_eq_some_iff.mp found
  · cases taken

end Datastream.Value
