import Datastream.Proofs.Action
import Datastream.Session.Basic
import Datastream.Sync.Counter

/-!
# Objects that name themselves

A call changes the name of its object only if the object renames itself, and then the object first asks
for its entry to be moved (`Object.Becomes`). That is so of all calls of a program but the one that sets
the name (`becomes_call`), and of all methods of the tables of this library.

An object renames itself by `rename_object`; `set_object_name` is the call that only sets the name.
-/
namespace Datastream

/-- Whether an effect moves the entry of an object that has renamed itself. -/
def Effect.rekeys : Effect → Bool
  | .rekey .. => true
  | _ => false

namespace Object

variable {o o' : Object} {effects : List Effect}

/-- What an object becomes by a call: it keeps its class, and has the name by which it may have renamed
itself; nothing else asks for its entry to be moved. -/
structure Becomes (o o' : Object) (effects : List Effect) : Prop where
  className : o'.className = o.className
  poisoned : o'.poisoned = o.poisoned
  asks : ∃ rest, effects = (o.rename o'.objectName).2 ++ rest ∧ ∀ e ∈ rest, e.rekeys = false

theorem rename_self (o : Object) : o.rename o.objectName = (o, []) := if_pos rfl

theorem becomes_of_same (className : o'.className = o.className)
    (objectName : o'.objectName = o.objectName) (poisoned : o'.poisoned = o.poisoned)
    (quiet : ∀ e ∈ effects, e.rekeys = false) : o.Becomes o' effects :=
  ⟨className, poisoned, effects, by rw [objectName, rename_self]; rfl, quiet⟩

theorem becomes_self (quiet : ∀ e ∈ effects, e.rekeys = false) : o.Becomes o effects :=
  becomes_of_same rfl rfl rfl quiet

theorem becomes_rename {newName : String} (made : o.rename newName = (o', effects)) :
    o.Becomes o' effects := by
  by_cases same : o.objectName = newName
  · rw [← same, rename_self] at made
    cases made
    exact becomes_self (List.forall_mem_nil _)
  · have asked : effects = (o.rename newName).2 := by rw [made]
    rw [rename, if_neg same] at made
    cases made
    exact ⟨rfl, rfl, [], by rw [List.append_nil, ← asked], List.forall_mem_nil _⟩

theorem rekeys_sync {target : Side} {slot : String} {params : List Value} :
    ∀ e ∈ o.sync target slot params, e.rekeys = false := by
  unfold sync
  split <;> simp [Effect.rekeys]

theorem rekeys_rpc {target : Side} {slot : String} {params : List Value} :
    ∀ e ∈ o.rpc target slot params, e.rekeys = false := by
  unfold rpc
  split <;> simp [Effect.rekeys]

theorem becomes_update {properties : Fields} (made : o.update properties = .ok (o', effects)) :
    o.Becomes o' effects := by
  obtain ⟨body, -, made⟩ := ok_of_bind made
  cases made
  exact becomes_of_same rfl rfl rfl rekeys_sync

def Call.names : Call → Bool
  | .setName _ => true
  | _ => false

theorem becomes_call {c : Call} (keeps : c.names = false) (made : o.call c = .ok (o', effects)) :
    o.Becomes o' effects := by
  cases c with
  | init properties =>
    obtain ⟨_, taken, made⟩ := ok_of_bind made
    obtain ⟨body, -, taken⟩ := ok_of_bind taken
    cases taken
    cases made
    exact becomes_of_same rfl rfl rfl (List.forall_mem_nil _)
  | update properties => exact becomes_update made
  | requestUpdate properties =>
    cases made
    exact becomes_self rekeys_sync
  | rename newName =>
    exact becomes_rename (Except.ok.inj made)
  | sync target slot params =>
    cases made
    exact becomes_self rekeys_sync
  | rpc target slot params =>
    cases made
    exact becomes_self rekeys_rpc
  | setName name => cases keeps
  | setInitialized initialized =>
    cases made
    exact becomes_of_same rfl rfl rfl (List.forall_mem_nil _)
  | detach =>
    cases made
    exact becomes_of_same rfl rfl rfl (List.forall_mem_nil _)

end Object

/-- A method that changes the name of its object only when the object renames itself. -/
def Method.Orderly (run : Method) : Prop :=
  ∀ o params o' effects, run o params = .ok (o', effects) → o.Becomes o' effects

namespace MethodTable

def Orderly (t : MethodTable) : Prop :=
  ∀ o slot params o' effects, t.invoke o slot params = .ok (o', effects) → o.Becomes o' effects

/-- What is so of the methods given is so of the methods in the table. -/
theorem forall_ofList {P : Method → Prop} {className : String} {kind : Body}
    {methods : List (String × Method)} (each : ∀ m ∈ methods, P m.2) :
    ∀ entry ∈ (ofList className kind methods).methods, P entry.2 := by
  have all : ∀ (t : Table String Method), (∀ entry ∈ t, P entry.2) →
      ∀ entry ∈ methods.foldl (fun t m => t.put m.1 m.2) t, P entry.2 := by
    induction methods with
    | nil => exact fun t before => before
    | cons m methods ih =>
      obtain ⟨first, rest⟩ := List.forall_mem_cons.mp each
      refine fun t before => ih rest _ fun entry member => ?_
      rcases Table.mem_of_mem_put member with same | old
      · exact same ▸ first
      · exact before _ old
  exact all [] (List.forall_mem_nil _)

theorem orderly_ofList {className : String} {kind : Body} {methods : List (String × Method)}
    (each : ∀ m ∈ methods, m.2.Orderly) : (ofList className kind methods).Orderly := by
  intro o slot params o' effects made
  unfold invoke at made
  split at made
  · cases made
  · next run listed =>
    split at made
    · exact forall_ofList each _ (Table.mem_of_find? listed) o params o' effects made
    · cases made

end MethodTable

/-- Invokers all of whose tables for the core's calls are orderly. -/
def Invokers.Orderly (i : Invokers) : Prop :=
  ∀ className table, i.get .client className = .ok table → table.Orderly

/-- What is so of the tables that were there and of the one that is added is so of all. -/
theorem Invokers.forall_register {P : MethodTable → Prop} {i : Invokers}
    (each : ∀ className table, i.get .client className = .ok table → P table) {t : MethodTable}
    (more : P t) :
    ∀ className table, (i.register .client t).get .client className = .ok table → P table := by
  intro className table listed
  rw [Invokers.get, Invokers.register, Table.find?_put] at listed
  split at listed
  · next found =>
    cases listed
    split at found
    · cases found
      exact more
    · exact each className _ (by rw [Invokers.get, found])
  · cases listed

theorem Invokers.Orderly.register {i : Invokers} (orderly : i.Orderly) {t : MethodTable}
    (more : t.Orderly) : (i.register .client t).Orderly :=
  forall_register orderly more

/-- What is so of the three tables for the session's own objects. -/
theorem Session.forall_ownInvokers {P : MethodTable → Prop} (rpcHandler : P RpcHandler.table)
    (backlogManager : P BacklogManager.table) (listHelper : P ListHelper.table) :
    ∀ className table, ownInvokers.get .client className = .ok table → P table := by
  have none : ∀ className table, Invokers.get [] .client className = .ok table → P table :=
    fun _ _ listed => nomatch listed
  exact Invokers.forall_register (Invokers.forall_register (Invokers.forall_register none rpcHandler)
    backlogManager) listHelper

namespace RpcHandler

theorem orderly_publishing {α : Type} (slot : String) (read : Value → Option α) (event : α → Event) :
    Method.Orderly (publishing slot read event) := by
  intro o params o' effects made
  obtain ⟨value, -, made⟩ := ok_of_bind made
  cases made
  exact Object.becomes_self (by simp [Effect.rekeys])

theorem orderly_status : Method.Orderly status := by
  intro o params o' effects made
  obtain ⟨network, -, made⟩ := ok_of_bind made
  obtain ⟨message, -, made⟩ := ok_of_bind made
  cases made
  exact Object.becomes_self (by simp [Effect.rekeys])

theorem orderly_password : Method.Orderly password := by
  intro o params o' effects made
  obtain ⟨success, -, made⟩ := ok_of_bind made
  cases made
  exact Object.becomes_self (by simp [Effect.rekeys])

theorem orderly_renamed : Method.Orderly renamed := by
  intro o params o' effects made
  obtain ⟨className, -, made⟩ := ok_of_bind made
  obtain ⟨newName, -, made⟩ := ok_of_bind made
  obtain ⟨oldName, -, made⟩ := ok_of_bind made
  cases made
  refine Object.becomes_self ?_
  cases o.attached <;> simp [Effect.rekeys]

theorem orderly_table : table.Orderly := by
  refine MethodTable.orderly_ofList ?_
  simp only [List.forall_mem_cons]
  refine ⟨orderly_publishing _ _ _, orderly_status, orderly_renamed, orderly_publishing _ _ _,
    orderly_publishing _ _ _, orderly_publishing _ _ _, orderly_publishing _ _ _,
    orderly_publishing _ _ _, orderly_password, ?_, List.forall_mem_nil _⟩
  intro o params o' effects made
  cases made
  exact Object.becomes_self (by simp [Effect.rekeys])

end RpcHandler

theorem BacklogManager.orderly_table : BacklogManager.table.Orderly := by
  refine MethodTable.orderly_ofList fun m member => ?_
  obtain ⟨slot, -, rfl⟩ := List.mem_map.mp member
  intro o params o' effects made
  obtain ⟨reply, -, made⟩ := ok_of_bind made
  cases made
  exact Object.becomes_self (by simp [Effect.rekeys])

theorem ListHelper.orderly_table : ListHelper.table.Orderly := by
  refine MethodTable.orderly_ofList ?_
  simp only [List.forall_mem_cons]
  refine ⟨?_, ?_, ?_, List.forall_mem_nil _⟩
  · intro o params o' effects made
    obtain ⟨network, -, made⟩ := ok_of_bind made
    obtain ⟨filters, -, made⟩ := ok_of_bind made
    obtain ⟨rows, -, made⟩ := ok_of_bind made
    cases made
    exact Object.becomes_self (by simp [Effect.rekeys])
  · intro o params o' effects made
    obtain ⟨network, -, made⟩ := ok_of_bind made
    cases made
    exact Object.becomes_self (by simp [Effect.rekeys])
  · intro o params o' effects made
    obtain ⟨reason, -, made⟩ := ok_of_bind made
    cases made
    exact Object.becomes_self (by simp [Effect.rekeys])

namespace Counter

theorem becomes_withValue (o : Object) (f : Int32 → Int32) : o.Becomes (withValue o f) [] := by
  unfold withValue
  split <;> exact Object.becomes_of_same rfl rfl rfl (List.forall_mem_nil _)

theorem orderly_table (className : String) : (table className methods).Orderly := by
  refine MethodTable.orderly_ofList ?_
  simp only [methods, List.forall_mem_cons]
  refine ⟨?_, ?_, ?_, ?_, ?_, ?_, List.forall_mem_nil _⟩
  · intro o params o' effects made
    obtain ⟨value, -, made⟩ := ok_of_bind made
    cases made
    exact becomes_withValue ..
  · intro o params o' effects made
    obtain ⟨a, -, made⟩ := ok_of_bind made
    obtain ⟨b, -, made⟩ := ok_of_bind made
    cases made
    exact becomes_withValue ..
  · intro o params o' effects made
    cases made
  · intro o params o' effects made
    obtain ⟨newName, -, made⟩ := ok_of_bind made
    exact Object.becomes_rename (Except.ok.inj made)
  · intro o params o' effects made
    obtain ⟨properties, -, made⟩ := ok_of_bind made
    exact Object.becomes_update made
  · intro o params o' effects made
    cases made
    exact Object.becomes_self Object.rekeys_sync

end Counter

theorem Session.orderly_ownInvokers : ownInvokers.Orderly :=
  forall_ownInvokers RpcHandler.orderly_table BacklogManager.orderly_table ListHelper.orderly_table

end Datastream
