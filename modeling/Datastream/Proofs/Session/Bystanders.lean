import Datastream.Proofs.Session.InitRun

/-!
# Bystanders

What an operation on one object does to the others. The repository goes by names, so an operation can
reach an object that it is not about only through a name: by taking it away, as an object does that is
stopped, or by taking it over, as one does that is moved to it. `bystander_found_iff` says that nothing
else happens to any object that is found under any name, and that just then it is found no more; so an
object whose name nobody takes stays tracked through any run (`tracked_run`).

Both do happen. An object that is stopped takes away the name that it has, whether or not it is the
one that goes by it (`stop_loses_namesake`), and one that is renamed takes over a name that is in use.
Only when an object is added is the one that has the name already left alone.

The operations are `synchronize`, `stop_synchronize`, `rename`, `rekey` and what the slot
`object_renamed` does.
-/
namespace Datastream

namespace Session

/-- An operation on one object, which is given or goes by a name. -/
inductive TrackingOp
  | synchronize (handle : Handle)
  | stop (handle : Handle)
  | rename (className oldName newName : String)
  | rekey (className oldName newName : String)
  /-- The core announces a rename to the rpc handler. -/
  | announce (params : List Value)

namespace TrackingOp

def act : TrackingOp → Action Unit
  | synchronize handle => Session.synchronize handle
  | stop handle => Session.stop handle
  | rename className oldName newName => Session.rename className oldName newName
  | rekey className oldName newName => Session.rekey className oldName newName
  | announce params => dispatch (.rpc RpcHandler.objectRenamed params)

/-- The class, the old and the new name of the entry that it moves, if there is such an entry. -/
def move? (s : Session) : TrackingOp → Option (String × String × String)
  | rename className oldName newName | rekey className oldName newName =>
    some (className, oldName, newName)
  | announce params => s.announced? params
  | _ => none

def subject? (s : Session) : TrackingOp → Option Handle
  | synchronize handle | stop handle => some handle
  | op => (op.move? s).bind fun (className, oldName, _) => s.find? className oldName

/-- The identity that it takes, away from all objects or over to its own. -/
def takes? (s : Session) : TrackingOp → Option (String × String)
  | synchronize _ => none
  | stop handle =>
    (s.objects.object? handle).bind fun o =>
      if o.poisoned then none else some (o.className, o.objectName)
  | op => (op.move? s).bind fun (className, oldName, newName) =>
    (s.find? className oldName).map fun _ => (className, newName)

end TrackingOp

/-- An object that is found under a name is as it was; it is found under that name unless the name is
taken, and as long as it is found its state is awaited if it was. -/
structure Passes (s s' : Session) (handle : Handle) (className objectName : String) (taken : Prop) :
    Prop where
  invokers : s'.invokers = s.invokers
  object : s'.objects.object? handle = s.objects.object? handle
  found : s'.find? className objectName = some handle ↔ ¬taken
  pending : ¬taken → (className, objectName) ∈ s.tracker.pending →
    (className, objectName) ∈ s'.tracker.pending

section

variable {s s' s'' : Session} {handle other : Handle} {className objectName : String} {taken : Prop}

theorem Passes.untouched (passes : Passes s s' handle className objectName taken)
    (same : Untouched s' s'') : Passes s s'' handle className objectName taken where
  invokers := same.invokers.trans passes.invokers
  object := by rw [same.objects, passes.object]
  found := by
    rw [← passes.found]
    simp only [find?, same.repository, isLive_congr same.objects same.rpcHandler]
  pending := by
    rw [same.tracker]
    exact passes.pending

/-- What follows an action does not touch what is known of objects. -/
theorem Passes.bind {α β : Type} {x : Action α} {f : α → Action β}
    (first : Passes s (endState (x s)) handle className objectName taken)
    (rest : ∀ a s', Untouched s' (endState (f a s'))) :
    Passes s (endState ((x >>= f) s)) handle className objectName taken := by
  refine endState_bind (P := fun s' => Passes s s' handle className objectName taken) first
    fun a s' ran => ?_
  rw [ran] at first
  exact first.untouched (rest a s')

theorem Passes.refl (tracked : s.find? className objectName = some handle) (spared : ¬taken) :
    Passes s s handle className objectName taken :=
  ⟨rfl, rfl, iff_of_true tracked spared, fun _ => id⟩

/-- Another object changes, and what is found and awaited with it. -/
theorem Passes.of_alters {o : Object} (alters : Alters s s' other o) (differs : other ≠ handle)
    (found : s'.repository.find? s.isLive className objectName = some handle ↔ ¬taken)
    (pending : ¬taken → (className, objectName) ∈ s.tracker.pending →
      (className, objectName) ∈ s'.tracker.pending) :
    Passes s s' handle className objectName taken where
  invokers := alters.invokers
  object := by rw [alters.objects, Store.object?_set, if_neg differs]
  found := by rwa [alters.find?]
  pending := pending

theorem Passes.setObject (passes : Passes s s' handle className objectName taken)
    (differs : other ≠ handle) (o : Object) :
    Passes s { s' with objects := s'.objects.set other o } handle className objectName taken where
  invokers := passes.invokers
  object := by rw [Store.object?_set, if_neg differs, passes.object]
  found := by
    rw [← passes.found, find?, isLive_setObject]
    rfl
  pending := passes.pending

/-- An object that is added takes no name from another. -/
theorem passes_synchronize (tracked : s.find? className objectName = some handle)
    (differs : other ≠ handle) (spared : ¬taken) :
    Passes s (endState (synchronize other s)) handle className objectName taken := by
  rcases lock_cases s other with held | ⟨o, found, sound, -⟩
  · rw [synchronize, bind_error held]
    exact .refl tracked spared
  · have still : (s.repository.add s.isLive o.className o.objectName other).2.find? s.isLive
        className objectName = some handle := by
      rw [(Repository.add_spec ..).2, if_neg]
      · exact tracked
      · rintro ⟨absent, same⟩
        obtain ⟨rfl, rfl⟩ := Prod.mk.inj same
        rw [find?] at tracked
        simp [tracked] at absent
    obtain ⟨alters, repository, awaits⟩ := synchronize_alters found sound
    refine .of_alters alters differs ?_ fun _ => @awaits _
    rw [repository]
    exact iff_of_true still spared

/-- An object that is stopped takes its names away from all. -/
theorem passes_stop (tracked : s.find? className objectName = some handle) (differs : other ≠ handle) :
    Passes s (endState (stop other s)) handle className objectName
      ((TrackingOp.stop other).takes? s = some (className, objectName)) := by
  rcases whole_or_broken s other with ⟨o, found, sound⟩ | broken
  · have takes : (TrackingOp.stop other).takes? s = some (o.className, o.objectName) := by
      simp [TrackingOp.takes?, found, sound]
    rw [stop_eq found sound, takes, Option.some_inj]
    refine .of_alters (o := { o with initialized := false }) ⟨rfl, rfl, rfl⟩ differs ?_ ?_
    · simp only [endState, (Repository.remove_spec ..).2]
      split
      · next same => simp [same]
      · next apart => exact iff_of_true tracked apart
    · intro apart awaited
      simp only [endState, Tracker.received_pending]
      exact (List.mem_erase_of_ne (Ne.symm apart)).mpr awaited
  · have takes : (TrackingOp.stop other).takes? s = none := by
      simpa [TrackingOp.takes?] using broken
    rw [stop, bind_error (lock_refused broken), takes]
    exact .refl tracked (Option.some_ne_none _).symm

/-- Moving the entry of another object loses what has the new name, and nothing else. -/
theorem find?_rename_iff (tracked : s.find? className objectName = some handle)
    {movedClass oldName : String} (differs : s.find? movedClass oldName ≠ some handle)
    (newName : String) :
    (s.repository.rename s.isLive movedClass oldName newName).2.find? s.isLive className objectName =
        some handle ↔
      ¬((s.find? movedClass oldName).map fun _ => (movedClass, newName)) =
        some (className, objectName) := by
  have finds := (s.repository.rename_spec s.isLive movedClass oldName newName).2 className objectName
  cases moved : s.find? movedClass oldName with
  | none =>
    have absent : s.repository.find? s.isLive movedClass oldName = none := moved
    rw [absent] at finds
    rw [finds]
    exact iff_of_true tracked (Option.some_ne_none _).symm
  | some mover =>
    have present : s.repository.find? s.isLive movedClass oldName = some mover := moved
    have another : mover ≠ handle := by
      rintro rfl
      exact differs moved
    have elsewhere : (movedClass, oldName) ≠ (className, objectName) := by
      intro same
      obtain ⟨rfl, rfl⟩ := Prod.mk.inj same
      exact differs tracked
    rw [present] at finds
    rw [finds, Option.map_some, Option.some_inj]
    by_cases lands : (movedClass, newName) = (className, objectName)
    · simp [lands, another]
    · simp only [if_neg lands, if_neg elsewhere]
      exact iff_of_true tracked lands

theorem passes_rekey (tracked : s.find? className objectName = some handle)
    {movedClass oldName : String} (differs : s.find? movedClass oldName ≠ some handle)
    (newName : String) :
    Passes s (endState (rekey movedClass oldName newName s)) handle className objectName
      ((s.find? movedClass oldName).map (fun _ => (movedClass, newName)) =
        some (className, objectName)) where
  invokers := rfl
  object := rfl
  found := find?_rename_iff tracked differs newName
  pending _ := id

theorem passes_rename (tracked : s.find? className objectName = some handle)
    {movedClass oldName : String} (differs : s.find? movedClass oldName ≠ some handle)
    (newName : String) :
    Passes s (endState (rename movedClass oldName newName s)) handle className objectName
      ((s.find? movedClass oldName).map (fun _ => (movedClass, newName)) =
        some (className, objectName)) := by
  have moved := passes_rekey tracked differs newName
  cases goes : s.find? movedClass oldName with
  | none =>
    rw [rename_unknown goes]
    exact goes ▸ moved
  | some mover =>
    have another : mover ≠ handle := by
      rintro rfl
      exact differs goes
    rw [goes] at moved
    rw [rename_found goes]
    rcases lock_cases { s with
        repository := (s.repository.rename s.isLive movedClass oldName newName).2 } mover with
      held | ⟨o, -, -, held⟩
    · rw [bind_error held]
      exact moved
    · rw [bind_ok held, setObject_eq]
      exact moved.setObject another { o with objectName := newName }

theorem passes_act
    (own : ∀ table, s.invokers.get .client RpcHandler.className = .ok table →
      table = RpcHandler.table)
    (op : TrackingOp) (tracked : s.find? className objectName = some handle)
    (bystander : op.subject? s ≠ some handle) :
    Passes s (endState (op.act s)) handle className objectName
      (op.takes? s = some (className, objectName)) := by
  cases op with
  | synchronize other =>
    exact passes_synchronize tracked (fun same => bystander (congrArg some same))
      (Option.some_ne_none _).symm
  | stop other => exact passes_stop tracked fun same => bystander (congrArg some same)
  | rename movedClass oldName newName => exact passes_rename tracked bystander newName
  | rekey movedClass oldName newName => exact passes_rekey tracked bystander newName
  | announce params =>
    rcases dispatch_announced_cases own params with
      ⟨still, untouched⟩ | ⟨movedClass, oldName, newName, moves, ran⟩
    · simp only [TrackingOp.takes?, TrackingOp.move?, still]
      exact (Passes.refl tracked (Option.some_ne_none _).symm).untouched untouched
    · simp only [TrackingOp.subject?, TrackingOp.move?, moves, Option.bind_some] at bystander
      have moved := passes_rename tracked bystander newName
      simp only [TrackingOp.takes?, TrackingOp.move?, moves, Option.bind_some]
      rw [TrackingOp.act, ran, performAll_cons]
      exact (moved.bind fun _ _ => untouched_performAll (by simp [Effect.renames])).bind
        fun _ _ => ⟨rfl, rfl, rfl, rfl, rfl⟩

/-- No operation does anything to an object that it is not about but take its name: the object stays as
it is, and it is found, and awaited if it was, just as long as its name is not taken. -/
theorem bystander_found_iff
    (own : ∀ table, s.invokers.get .client RpcHandler.className = .ok table →
      table = RpcHandler.table)
    (op : TrackingOp) (tracked : s.find? className objectName = some handle)
    (bystander : op.subject? s ≠ some handle) :
    let s' := endState (op.act s)
    s'.objects.object? handle = s.objects.object? handle ∧
      (s'.find? className objectName = some handle ↔ op.takes? s ≠ some (className, objectName)) ∧
      (op.takes? s ≠ some (className, objectName) → (className, objectName) ∈ s.tracker.pending →
        (className, objectName) ∈ s'.tracker.pending) := by
  intro s'
  have passes := passes_act own op tracked bystander
  exact ⟨passes.object, passes.found, passes.pending⟩

end

namespace TrackingOp

/-- The session after some operations, failed or not. -/
def run (s : Session) (ops : List TrackingOp) : Session := ops.foldl (fun s op => endState (op.act s)) s

/-- None of the operations is about an object, or takes the name that it is found by. -/
def Spare (handle : Handle) (key : String × String) : Session → List TrackingOp → Prop
  | _, [] => True
  | s, op :: ops => (op.subject? s ≠ some handle ∧ op.takes? s ≠ some key) ∧
      Spare handle key (endState (op.act s)) ops

/-- Whatever is done to others, an object whose name nobody takes stays tracked. -/
theorem tracked_run {s : Session} {handle : Handle} {className objectName : String}
    (own : ∀ table, s.invokers.get .client RpcHandler.className = .ok table →
      table = RpcHandler.table)
    {ops : List TrackingOp} (tracked : s.find? className objectName = some handle)
    (spare : Spare handle (className, objectName) s ops) :
    (run s ops).objects.object? handle = s.objects.object? handle ∧
      (run s ops).find? className objectName = some handle ∧
      ((className, objectName) ∈ s.tracker.pending →
        (className, objectName) ∈ (run s ops).tracker.pending) := by
  induction ops generalizing s with
  | nil => exact ⟨rfl, tracked, id⟩
  | cons op ops ih =>
    obtain ⟨⟨bystander, spared⟩, rest⟩ := spare
    have passes := passes_act own op tracked bystander
    have own' : ∀ table, (endState (op.act s)).invokers.get .client RpcHandler.className = .ok table →
        table = RpcHandler.table := by
      rw [passes.invokers]
      exact own
    obtain ⟨object, found, pending⟩ := ih own' (passes.found.mpr spared) rest
    exact ⟨object.trans passes.object, found, fun awaited => pending (passes.pending spared awaited)⟩

end TrackingOp

/-- A session with counters of these names, the first of which is object 3. -/
def withCountersNamed (names : List String) : Session :=
  let s := fresh .epoch
  { s with objects := ⟨s.objects.objects ++
      names.map fun name => ⟨name, ⟨"Counter", name, false, false, false, .counter 0⟩, true, false⟩⟩ }

/-- Two counters are tracked, and the core renames the first: the other is found as before. -/
theorem other_tracked_when_renamed :
    let s := endState ((synchronize 3 >>= fun _ => synchronize 4) (withCountersNamed ["x", "y"]))
    let s' := endState ((TrackingOp.announce [.ofName "Counter", .ofText "z", .ofText "x"]).act s)
    s'.find? "Counter" "z" = some 3 ∧ s'.find? "Counter" "y" = some 4 ∧
      ("Counter", "y") ∈ s'.tracker.pending := by
  intro s s'
  have own : ∀ table, s.invokers.get .client RpcHandler.className = .ok table →
      table = RpcHandler.table := fun table listed => (Except.ok.inj listed).symm
  have tracked : s.find? "Counter" "y" = some 4 := by decide +kernel
  have bystander : (TrackingOp.announce [.ofName "Counter", .ofText "z", .ofText "x"]).subject? s ≠
      some 4 := by decide +kernel
  have spared : (TrackingOp.announce [.ofName "Counter", .ofText "z", .ofText "x"]).takes? s ≠
      some ("Counter", "y") := by decide +kernel
  obtain ⟨-, found, pending⟩ := bystander_found_iff own _ tracked bystander
  exact ⟨by decide +kernel, found.mpr spared, pending spared (by decide +kernel)⟩

/-- Of two counters of one name the second is tracked and waits for its state. When the first is
stopped, which was never tracked, the second is not found any more, and its state is not awaited. -/
theorem stop_loses_namesake :
    let s := endState (synchronize 4 (withCountersNamed ["x", "x"]))
    let s' := endState ((TrackingOp.stop 3).act s)
    s.find? "Counter" "x" = some 4 ∧ s.tracker.pending = [("Counter", "x")] ∧
      s'.isLive 4 = true ∧ s'.identity? 4 = some ("Counter", "x") ∧
      s'.find? "Counter" "x" = none ∧ s'.tracker.pending = [] := by
  decide +kernel

/-- A counter that is renamed to the name of another is found in its place. -/
example :
    let s := endState ((synchronize 3 >>= fun _ => synchronize 4) (withCountersNamed ["x", "y"]))
    let s' := endState ((TrackingOp.rename "Counter" "x" "y").act s)
    s.find? "Counter" "y" = some 4 ∧ s'.identity? 4 = some ("Counter", "y") ∧
      s'.find? "Counter" "y" = some 3 := by
  decide +kernel

end Session
end Datastream
