import Datastream.Sync.Store

/-!
# What a repository finds

Adding, removing and renaming, as seen by finding. Dead entries are never found, so they do not
show.
-/
namespace Datastream

namespace Repository

variable (live : Handle → Bool) (r : Repository)

theorem entry?_put (className : String) (names : Table String Handle)
    (className' objectName' : String) :
    Repository.entry? ⟨r.classes.put className names⟩ className' objectName' =
      if className = className' then names.find? objectName' else r.entry? className' objectName' := by
  simp only [Table.find?_put, entry?]
  split <;> rfl

theorem entry?_eq (className objectName : String) :
    r.entry? className objectName = ((r.classes.find? className).getD []).find? objectName := by
  unfold entry?
  cases r.classes.find? className <;> rfl

/-- What is found when the names of one class are others. -/
theorem find?_put (className : String) (names : Table String Handle)
    (className' objectName' : String) :
    (⟨r.classes.put className names⟩ : Repository).find? live className' objectName' =
      if className = className' then (names.find? objectName').filter live
      else r.find? live className' objectName' := by
  simp only [find?, entry?_put]
  split <;> rfl

/-- An object gets a name that no live object has. -/
theorem add_spec (className objectName : String) (handle : Handle) :
    (r.add live className objectName handle).1 = (r.find? live className objectName).isNone ∧
      ∀ className' objectName',
        (r.add live className objectName handle).2.find? live className' objectName' =
          if (r.find? live className objectName).isNone ∧
              (className, objectName) = (className', objectName') then
            (some handle).filter live
          else r.find? live className' objectName' := by
  have here := entry?_eq r className
  cases taken : (r.entry? className objectName).any live with
  | true =>
    have found : (r.find? live className objectName).isNone = false := by
      rw [find?]
      cases entry : r.entry? className objectName with
      | none => simp [entry] at taken
      | some handle => simp_all
    rw [found]
    simp [add, ← here, taken]
  | false =>
    have found : (r.find? live className objectName).isNone = true := by
      rw [find?]
      cases entry : r.entry? className objectName with
      | none => rfl
      | some handle => simp_all
    rw [found]
    refine ⟨by simp [add, ← here, taken], fun className' objectName' => ?_⟩
    simp only [add, ← here, taken, Bool.false_eq_true, if_false, find?_put, Table.find?_put,
      Prod.mk.injEq, true_and]
    by_cases sameClass : className = className'
    · subst sameClass
      by_cases sameName : objectName = objectName'
      · simp [sameName]
      · simp [sameName, find?, here]
    · simp [sameClass]

/-- A name that was taken away is not found. -/
theorem remove_spec (className objectName : String) :
    (r.remove live className objectName).1 = r.find? live className objectName ∧
      ∀ className' objectName',
        (r.remove live className objectName).2.find? live className' objectName' =
          if (className, objectName) = (className', objectName') then none
          else r.find? live className' objectName' := by
  cases listed : r.classes.find? className with
  | none =>
    have nothing : ∀ name, r.find? live className name = none := by simp [find?, entry?, listed]
    refine ⟨by simp [remove, listed, nothing], fun className' objectName' => ?_⟩
    simp only [remove, listed, Prod.mk.injEq]
    split
    · next same => rw [← same.1, nothing]
    · rfl
  | some names =>
    refine ⟨by simp [remove, listed, find?, entry?], fun className' objectName' => ?_⟩
    have left : (r.remove live className objectName).2.find? live className' objectName' =
        if className = className' then ((names.erase objectName).find? objectName').filter live
        else r.find? live className' objectName' := by
      simp only [remove, listed]
      split
      · next empty =>
        rw [List.isEmpty_iff] at empty
        simp only [empty, find?, entry?, Table.find?_erase]
        split <;> simp [Table.find?]
      · exact find?_put live r className _ className' objectName'
    rw [left, Table.find?_erase]
    by_cases sameClass : className = className'
    · subst sameClass
      by_cases sameName : objectName = objectName'
      · simp [sameName]
      · simp [sameName, find?, entry?, listed]
    · simp [sameClass]

/-- A live object is found under its new name, in place of what had it, and not under the old one. -/
theorem rename_spec (className oldName newName : String) :
    (r.rename live className oldName newName).1 = r.find? live className oldName ∧
      ∀ className' objectName',
        (r.rename live className oldName newName).2.find? live className' objectName' =
          match r.find? live className oldName with
          | none => r.find? live className' objectName'
          | some handle =>
            if (className, newName) = (className', objectName') then some handle
            else if (className, oldName) = (className', objectName') then none
            else r.find? live className' objectName' := by
  cases listed : r.classes.find? className with
  | none => simp [rename, listed, find?, entry?]
  | some names =>
    cases entry : names.find? oldName with
    | none => simp [rename, listed, entry, find?, entry?]
    | some handle =>
      have others : ∀ name, r.find? live className name = (names.find? name).filter live := by
        simp [find?, entry?, listed]
      cases alive : live handle with
      | true =>
        have here : r.find? live className oldName = some handle := by simp [others, entry, alive]
        rw [here]
        refine ⟨by simp [rename, listed, entry, alive], fun className' objectName' => ?_⟩
        simp only [rename, listed, entry, alive, if_true, find?_put, Table.find?_put,
          Table.find?_erase, Prod.mk.injEq]
        by_cases sameClass : className = className'
        · subst sameClass
          by_cases sameNew : newName = objectName'
          · simp [sameNew, alive]
          · by_cases sameOld : oldName = objectName'
            · simp [sameNew, sameOld]
            · simp [sameNew, sameOld, others]
        · simp [sameClass]
      | false =>
        have here : r.find? live className oldName = none := by simp [others, entry, alive]
        rw [here]
        refine ⟨by simp [rename, listed, entry, alive], fun className' objectName' => ?_⟩
        simp only [rename, listed, entry, alive, Bool.false_eq_true, if_false, find?_put,
          Table.find?_erase]
        by_cases sameClass : className = className'
        · subst sameClass
          by_cases sameOld : oldName = objectName'
          · subst sameOld
            simp [here]
          · simp [sameOld, others]
        · simp [sameClass]

end Repository
end Datastream
