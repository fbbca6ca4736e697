import Datastream.Proofs.Value.Fields

/-!
# Values as trees

Lists, maps, records and boxes hold other values. `height` counts the levels below a value, `parts`
lists the value with everything inside it, at whatever depth. What is said of all parts is said of
the value and of all parts of its children (`forall_parts_iff`).
-/
namespace Datastream.Value

def children : Value → List Value
  | list items => items
  | map fields => fields.map (·.2)
  | record _ fields => fields.map (·.2)
  | boxed inner => [inner]
  | _ => []

mutual

/-- 0 with nothing inside, else one more than the largest height inside. -/
def height : Value → Nat
  | list items => heightAbove items
  | map fields => heightAboveFields fields
  | record _ fields => heightAboveFields fields
  | boxed inner => height inner + 1
  | _ => 0

def heightAbove : List Value → Nat
  | [] => 0
  | v :: rest => max (height v + 1) (heightAbove rest)

def heightAboveFields : List (String × Value) → Nat
  | [] => 0
  | (_, v) :: rest => max (height v + 1) (heightAboveFields rest)

end

mutual

/-- The value and all values inside it. -/
def parts : Value → List Value
  | list items => list items :: partsOfItems items
  | map fields => map fields :: partsOfFields fields
  | record type fields => record type fields :: partsOfFields fields
  | boxed inner => boxed inner :: parts inner
  | v => [v]

def partsOfItems : List Value → List Value
  | [] => []
  | v :: rest => parts v ++ partsOfItems rest

def partsOfFields : List (String × Value) → List Value
  | [] => []
  | (_, v) :: rest => parts v ++ partsOfFields rest

end

theorem heightAboveFields_eq (fields : Fields) :
    heightAboveFields fields = heightAbove (fields.map (·.2)) := by
  induction fields with
  | nil => simp [heightAbove, heightAboveFields]
  | cons entry rest ih => simp [heightAbove, heightAboveFields, ih]

theorem partsOfItems_eq (items : List Value) : partsOfItems items = items.flatMap parts := by
  induction items with
  | nil => simp [partsOfItems]
  | cons v rest ih => simp [partsOfItems, ih]

theorem partsOfFields_eq (fields : Fields) :
    partsOfFields fields = (fields.map (·.2)).flatMap parts := by
  induction fields with
  | nil => simp [partsOfFields]
  | cons entry rest ih => simp [partsOfFields, ih]

/-- The height by the children, whatever holds them. -/
theorem height_eq (v : Value) : v.height = heightAbove v.children := by
  cases v <;> simp [height, children, heightAbove, heightAboveFields_eq]

theorem parts_eq (v : Value) : v.parts = v :: v.children.flatMap parts := by
  cases v <;> simp [parts, children, partsOfItems_eq, partsOfFields_eq]

theorem heightAbove_le_iff (items : List Value) (n : Nat) :
    heightAbove items ≤ n ↔ ∀ v ∈ items, v.height < n := by
  induction items with
  | nil => simp [heightAbove]
  | cons v rest ih => simp only [heightAbove, Nat.max_le, ih, Nat.succ_le_iff, List.forall_mem_cons]

theorem height_le_iff (v : Value) (n : Nat) :
    v.height ≤ n ↔ ∀ child ∈ v.children, child.height < n := by
  rw [height_eq, heightAbove_le_iff]

theorem height_lt_of_mem_children {v child : Value} (member : child ∈ v.children) :
    child.height < v.height :=
  (height_le_iff v v.height).mp (Nat.le_refl _) child member

/-- What follows for a value from its children holds of every value. -/
theorem induction_on_children {P : Value → Prop}
    (step : ∀ v : Value, (∀ child ∈ v.children, P child) → P v) (v : Value) : P v := by
  induction level : v.height using Nat.strongRecOn generalizing v with
  | _ level ih =>
    subst level
    exact step v fun child member => ih _ (height_lt_of_mem_children member) child rfl

theorem forall_parts_iff {P : Value → Prop} (v : Value) :
    (∀ part ∈ v.parts, P part) ↔ P v ∧ ∀ child ∈ v.children, ∀ part ∈ child.parts, P part := by
  rw [parts_eq]
  simp only [List.forall_mem_cons, List.mem_flatMap]
  exact and_congr_right fun _ =>
    ⟨fun h child member part inside => h part ⟨child, member, inside⟩,
      fun h part ⟨child, member, inside⟩ => h child member part inside⟩

end Datastream.Value
