import Datastream.Queue.Keyed

/-!
# Where results come from

A queue makes up no values: what it holds for a wait was handed to it before (`holds_resume`), and
whatever else is done to it adds nothing.
-/
namespace Datastream.KeyedQueue

variable {κ ν : Type} {q : KeyedQueue κ ν} {value : ν}

/-- Whether a queue holds a value for some wait that has not collected it. -/
def Holds (q : KeyedQueue κ ν) (value : ν) : Prop := ∃ id, (id, .ok value) ∈ q.delivered

theorem not_holds_empty : ¬({} : KeyedQueue κ ν).Holds value := fun ⟨_, member⟩ => nomatch member

/-- What is collected was held, and the rest stays. -/
theorem holds_collect {id : Nat} {result : Except Error ν} {q' : KeyedQueue κ ν}
    (found : q.collect id = some (result, q')) :
    (∀ value, result = .ok value → q.Holds value) ∧ ∀ value, q'.Holds value → q.Holds value := by
  unfold collect at found
  cases listed : q.delivered.find? id with
  | none => simp [listed] at found
  | some result' =>
    simp only [listed, Option.map_some, Option.some.injEq, Prod.mk.injEq] at found
    obtain ⟨rfl, rfl⟩ := found
    refine ⟨?_, fun value holds => ?_⟩
    · rintro value rfl
      exact ⟨id, Table.mem_of_find? listed⟩
    · obtain ⟨id', member⟩ := holds
      simp only [Table.erase_eq_filter] at member
      exact ⟨id', (List.mem_filter.mp member).1⟩

/-- A queue that is closed has errors only to hand out. -/
theorem holds_close (holds : q.close.Holds value) : q.Holds value := by
  obtain ⟨id, member⟩ := holds
  have all (ids : List Nat) (delivered : Table Nat (Except Error ν))
      (member : (id, .ok value) ∈ ids.foldl
        (fun delivered id => delivered.put id (.error .connectionClosed)) delivered) :
      (id, .ok value) ∈ delivered := by
    induction ids generalizing delivered with
    | nil => exact member
    | cons id' ids ih =>
      rcases Table.mem_of_mem_put (ih _ member) with same | before
      · cases same
      · exact before
  exact ⟨id, all _ _ member⟩

variable [DecidableEq κ]

theorem delivered_unregister (q : KeyedQueue κ ν) (id : Nat) :
    (q.unregister id).delivered = q.delivered := by
  unfold unregister
  split <;> rfl

/-- A wait that leaves takes its result with it. -/
theorem holds_withdraw {id : Nat} (holds : (q.withdraw id).Holds value) : q.Holds value := by
  obtain ⟨id', member⟩ := holds
  simp only [withdraw, delivered_unregister, Table.erase_eq_filter] at member
  exact ⟨id', (List.mem_filter.mp member).1⟩

theorem holds_deliver {result : Except Error ν} {id : Nat}
    (holds : (q.deliver result id).Holds value) : result = .ok value ∨ q.Holds value := by
  unfold deliver at holds
  split at holds
  · exact .inr holds
  · obtain ⟨id', member⟩ := holds
    rcases Table.mem_of_mem_put member with new | old
    · exact .inl new.symm
    · rw [delivered_unregister] at old
      exact .inr ⟨id', old⟩

/-- What a queue holds after a value was handed to it, it held before, unless it is that value. -/
theorem holds_resume {key : κ} {handed : ν} (holds : (q.resume key handed).2.Holds value) :
    handed = value ∨ q.Holds value := by
  have all (ids : List Nat) (q : KeyedQueue κ ν)
      (holds : (ids.foldl (deliver · (.ok handed)) q).Holds value) :
      handed = value ∨ q.Holds value := by
    induction ids generalizing q with
    | nil => exact .inr holds
    | cons id ids ih =>
      rcases ih _ holds with same | before
      · exact .inl same
      · rcases holds_deliver before with same | before
        · exact .inl (Except.ok.inj same)
        · exact .inr before
  exact all _ q holds

end Datastream.KeyedQueue
