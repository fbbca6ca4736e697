import Datastream.Proofs.Action
import Datastream.Proofs.Session.Tracker
import Datastream.Proofs.Sync.Repository
import Datastream.Proofs.Value.Extract
import Datastream.Session.Basic

/-!
# Operations of a session

What the operations do to the objects, to the repository and to the tracker.
-/
namespace Datastream

namespace Store

theorem object?_set (s : Store) (handle : Handle) (o : Object) (handle' : Handle) :
    (s.set handle o).object? handle' =
      if handle = handle' then (s.object? handle').map fun _ => o else s.object? handle' := by
  simp only [object?, set, modify, List.getElem?_modify]
  split
  · cases s.objects[handle']? <;> rfl
  · cases s.objects[handle']? <;> rfl

theorem isLive_set (s : Store) (handle : Handle) (o : Object) :
    (s.set handle o).isLive = s.isLive := by
  funext handle'
  simp only [isLive, set, modify, List.getElem?_modify]
  cases s.objects[handle']? with
  | none => rfl
  | some stored => by_cases same : handle = handle' <;> simp [same]

theorem set_self {s : Store} {handle : Handle} {o : Object} (found : s.object? handle = some o) :
    s.set handle o = s := by
  obtain ⟨objects⟩ := s
  simp only [object?, Option.map_eq_some_iff] at found
  obtain ⟨stored, listed, rfl⟩ := found
  simp only [set, modify, Store.mk.injEq]
  refine List.ext_getElem? fun handle' => ?_
  rw [List.getElem?_modify]
  cases entry : objects[handle']? with
  | none => rfl
  | some stored' =>
    by_cases same : handle = handle'
    · subst same
      simp_all
    · simp [same]

end Store

def Effect.renames : Effect → Bool
  | .rekey .. | .rename .. => true
  | _ => false

/-- An object that takes its state has it, and is the same otherwise. -/
theorem Object.init_ok {o o' : Object} {state : Fields} (taken : o.init state = .ok o') :
    ∃ body, o' = { o with body, initialized := true } := by
  unfold init at taken
  cases read : o.body.withProperties state with
  | error error =>
    rw [read] at taken
    cases taken
  | ok body =>
    rw [read] at taken
    cases taken
    exact ⟨body, rfl⟩

/-- The class, the old and the new name in the parameters of an announcement. -/
def RpcHandler.renaming? (params : List Value) : Option (String × String × String) := do
  let className ← params[0]?.bind Value.name?
  let newName ← params[1]?.bind Value.text?
  let oldName ← params[2]?.bind Value.text?
  return (className, oldName, newName)

/-- The handler renames what it is told to, unless it does not understand. -/
theorem RpcHandler.renamed_cases (o : Object) (params : List Value) :
    (renaming? params = none ∧ ∃ error, renamed o params = .error error) ∨
      ∃ className oldName newName, renaming? params = some (className, oldName, newName) ∧
        renamed o params = .ok (o, (if o.attached then [.rename className oldName newName] else []) ++
          [.publish (.objectRenamed className newName oldName)]) := by
  unfold renaming? renamed Value.param
  cases params[0]?.bind Value.name? with
  | none => exact .inl ⟨rfl, _, rfl⟩
  | some className =>
    cases params[1]?.bind Value.text? with
    | none => exact .inl ⟨rfl, _, rfl⟩
    | some newName =>
      cases params[2]?.bind Value.text? with
      | none => exact .inl ⟨rfl, _, rfl⟩
      | some oldName => exact .inr ⟨className, oldName, newName, rfl, rfl⟩

theorem RpcHandler.invoke_objectRenamed (o : Object) (params : List Value) :
    table.invoke o objectRenamed params =
      if Body.rpcHandler.alike o.body then renamed o params else .error (.wrongObject className) := by
  have listed : table.methods.find? objectRenamed = some renamed := rfl
  rw [MethodTable.invoke, listed]
  rfl

/-- The names and texts of an announcement are read as what they were made of. -/
theorem RpcHandler.renaming?_of_names (className newName oldName : String) :
    renaming? [.ofName className, .ofText newName, .ofText oldName] =
      some (className, oldName, newName) := by
  simp [renaming?, Value.name?_ofName, Value.text?_ofText]

namespace Session

variable {s s' : Session} {handle : Handle} {o : Object}

theorem get_eq (s : Session) : (get : Action Session) s = .ok s s := rfl

theorem set_eq (s s' : Session) : (set s' : Action PUnit) s = .ok ⟨⟩ s' := rfl

theorem modify_eq (f : Session → Session) (s : Session) :
    (modify f : Action PUnit) s = .ok ⟨⟩ (f s) := rfl

theorem ofExcept_ok {α : Type} (a : α) (s : Session) :
    (MonadExcept.ofExcept (.ok a : Except Error α) : Action α) s = .ok a s := rfl

theorem setObject_eq (handle : Handle) (o : Object) (s : Session) :
    setObject handle o s = .ok () { s with objects := s.objects.set handle o } := rfl

theorem lock_ok (found : s.objects.object? handle = some o) (sound : o.poisoned = false) :
    lock handle s = .ok o s := by
  simp [lock, found, sound]

theorem lock_refused (broken : ∀ o, s.objects.object? handle = some o → o.poisoned = true) :
    lock handle s = .error .poisoned s := by
  unfold lock
  cases found : s.objects.object? handle with
  | none => rfl
  | some o => simp [broken o found]

/-- An object can be taken hold of, or it is poisoned or none at all. -/
theorem whole_or_broken (s : Session) (handle : Handle) :
    (∃ o, s.objects.object? handle = some o ∧ o.poisoned = false) ∨
      ∀ o, s.objects.object? handle = some o → o.poisoned = true := by
  cases found : s.objects.object? handle with
  | none =>
    right
    intro o same
    cases same
  | some o =>
    cases sound : o.poisoned with
    | true =>
      right
      intro o' same
      cases same
      exact sound
    | false => exact .inl ⟨o, rfl, sound⟩

theorem lock_cases (s : Session) (handle : Handle) :
    lock handle s = .error .poisoned s ∨
      ∃ o, s.objects.object? handle = some o ∧ o.poisoned = false ∧ lock handle s = .ok o s := by
  rcases whole_or_broken s handle with ⟨o, found, sound⟩ | broken
  · exact .inr ⟨o, found, sound, lock_ok found sound⟩
  · exact .inl (lock_refused broken)

/-- Changing an object does not change who is kept. -/
theorem isLive_setObject (handle : Handle) (o : Object) :
    ({ s with objects := s.objects.set handle o } : Session).isLive = s.isLive := by
  funext handle'
  simp only [isLive, Store.isLive_set]

/-- Sending changes the link only, and takes the payload or fails. -/
theorem emit_cases (m : ProxyMessage) :
    (∃ payload metrics, emit m s = .ok ()
      { s with link := { s.link with outbox := s.link.outbox ++ [payload], metrics } }) ∨
    ∃ error, emit m s = .error error s := by
  unfold emit onLink Link.emitProxy Link.emitEncoded Link.emit
  cases m.encode s.link.registry s.link.features with
  | error error => exact .inr ⟨error, rfl⟩
  | ok payload =>
    cases closed : s.link.closed with
    | true => exact .inr ⟨.connectionClosed, by simp⟩
    | false =>
      exact .inl ⟨payload, s.link.metrics.frameSent (UInt64.ofNat payload.length), by simp [closed]⟩

/-- What was sent is the message as it is written under the features in force. -/
theorem emit_ok {m : ProxyMessage} (sent : emit m s = .ok () s') :
    ∃ payload metrics, m.encode s.link.registry s.link.features = .ok payload ∧
      s' = { s with link := { s.link with outbox := s.link.outbox ++ [payload], metrics } } := by
  unfold emit onLink Link.emitProxy Link.emitEncoded Link.emit at sent
  cases written : m.encode s.link.registry s.link.features with
  | error error =>
    simp only [written] at sent
    cases sent
  | ok payload =>
    simp only [written] at sent
    cases closed : s.link.closed with
    | true =>
      simp only [closed, if_true] at sent
      cases sent
    | false =>
      simp only [closed, Bool.false_eq_true, if_false] at sent
      cases sent
      exact ⟨payload, s.link.metrics.frameSent (UInt64.ofNat payload.length), rfl, by simp [closed]⟩

theorem synchronize_eq (found : s.objects.object? handle = some o) (sound : o.poisoned = false) :
    synchronize handle s =
      let added := s.repository.add s.isLive o.className o.objectName handle
      let s := { s with
        objects := s.objects.set handle { o with attached := true }
        repository := added.2 }
      if added.1 && !o.initialized then
        emit (.initRequest o.className o.objectName)
          { s with tracker := s.tracker.requested o.className o.objectName }
      else .ok () s := by
  have live := isLive_setObject (s := s) handle { o with attached := true }
  rw [synchronize, bind_ok (lock_ok found sound), bind_ok (setObject_eq ..), bind_ok (get_eq _)]
  simp only [live]
  rcases s.repository.add s.isLive o.className o.objectName handle with ⟨added, repository⟩
  simp only
  rw [bind_ok (set_eq ..)]
  split
  · rw [bind_ok (modify_eq ..)]
  · rfl

/-- When an object is synchronized and no error comes of it, its state was asked for if it was added
without one. -/
theorem synchronize_ok (ran : synchronize handle s = .ok () s') :
    ∃ o, s.objects.object? handle = some o ∧ o.poisoned = false ∧
      s'.objects = s.objects.set handle { o with attached := true } ∧
      s'.rpcHandler = s.rpcHandler ∧ s'.invokers = s.invokers ∧
      s'.repository = (s.repository.add s.isLive o.className o.objectName handle).2 ∧
      if (s.find? o.className o.objectName).isNone && !o.initialized then
        s'.tracker = s.tracker.requested o.className o.objectName ∧
          s.link.outbox.length < s'.link.outbox.length
      else s'.tracker = s.tracker ∧ s'.link = s.link := by
  rcases lock_cases s handle with held | ⟨o, found, sound, -⟩
  · rw [synchronize, bind_error held] at ran
    cases ran
  · have added := (s.repository.add_spec s.isLive o.className o.objectName handle).1
    rw [synchronize_eq found sound] at ran
    simp only [added] at ran
    refine ⟨o, found, sound, ?_⟩
    split at ran
    · next asks =>
      rcases emit_cases (s := { s with
          objects := s.objects.set handle { o with attached := true }
          repository := (s.repository.add s.isLive o.className o.objectName handle).2
          tracker := s.tracker.requested o.className o.objectName })
          (.initRequest o.className o.objectName) with ⟨payload, metrics, sent⟩ | ⟨error, refused⟩
      · rw [sent] at ran
        cases ran
        simp [find?, asks]
      · rw [refused] at ran
        cases ran
    · next quiet =>
      cases ran
      simp [find?, quiet]

theorem stop_eq (found : s.objects.object? handle = some o) (sound : o.poisoned = false) :
    stop handle s = .ok () { s with
      objects := s.objects.set handle { o with initialized := false }
      repository := (s.repository.remove s.isLive o.className o.objectName).2
      tracker := (s.tracker.received o.className o.objectName).2 } := by
  have live := isLive_setObject (s := s) handle { o with initialized := false }
  rw [stop, bind_ok (lock_ok found sound), bind_ok (setObject_eq ..), modify_eq, live]

/-- What is stopped has no state any more, is not found by its names, and is not waited for. -/
theorem stop_cases (handle : Handle) (s : Session) :
    stop handle s = .error .poisoned s ∨
      ∃ o s', s.objects.object? handle = some o ∧ o.poisoned = false ∧ stop handle s = .ok () s' ∧
        s'.objects = s.objects.set handle { o with initialized := false } ∧
        s'.rpcHandler = s.rpcHandler ∧ s'.invokers = s.invokers ∧
        s'.repository = (s.repository.remove s.isLive o.className o.objectName).2 ∧
        s'.tracker = (s.tracker.received o.className o.objectName).2 := by
  rcases lock_cases s handle with held | ⟨o, found, sound, -⟩
  · exact .inl (bind_error held)
  · exact .inr ⟨o, _, found, sound, stop_eq found sound, rfl, rfl, rfl, rfl, rfl⟩

/-- A state is dropped if nothing goes by the names it is for. If the object takes it, the tracker is
told; if not, nothing changes. -/
theorem receiveState_cases (className objectName : String) (state : Fields) (s : Session) :
    (s.find? className objectName = none ∧ receiveState className objectName state s = .ok () s) ∨
      (∃ error, receiveState className objectName state s = .error error s) ∨
      ∃ handle o o' s', s.find? className objectName = some handle ∧
        s.objects.object? handle = some o ∧ o.poisoned = false ∧ o.init state = .ok o' ∧
        receiveState className objectName state s = .ok () s' ∧
        s'.objects = s.objects.set handle o' ∧ s'.rpcHandler = s.rpcHandler ∧
        s'.invokers = s.invokers ∧ s'.repository = s.repository ∧
        s'.tracker = (s.tracker.received className objectName).2 := by
  unfold receiveState
  rw [bind_ok (get_eq s)]
  cases tracked : s.find? className objectName with
  | none => exact .inl ⟨rfl, rfl⟩
  | some handle =>
    simp only
    rcases lock_cases s handle with held | ⟨o, found, sound, held⟩
    · exact .inr (.inl ⟨.poisoned, bind_error held⟩)
    · rw [bind_ok held]
      cases taken : o.init state with
      | error error => exact .inr (.inl ⟨error, rfl⟩)
      | ok o' =>
        exact .inr (.inr ⟨handle, o, o', _, rfl, found, sound, taken, rfl, rfl, rfl, rfl, rfl, rfl⟩)

/-- Nothing changes what is known of objects. -/
structure Untouched (s s' : Session) : Prop where
  objects : s'.objects = s.objects
  repository : s'.repository = s.repository
  tracker : s'.tracker = s.tracker
  invokers : s'.invokers = s.invokers
  rpcHandler : s'.rpcHandler = s.rpcHandler

theorem Untouched.refl (s : Session) : Untouched s s := ⟨rfl, rfl, rfl, rfl, rfl⟩

theorem Untouched.trans {s s' s'' : Session} (first : Untouched s s') (second : Untouched s' s'') :
    Untouched s s'' :=
  ⟨second.objects.trans first.objects, second.repository.trans first.repository,
    second.tracker.trans first.tracker, second.invokers.trans first.invokers,
    second.rpcHandler.trans first.rpcHandler⟩

theorem untouched_emit (m : ProxyMessage) : Untouched s (endState (emit m s)) := by
  rcases emit_cases (s := s) m with ⟨payload, metrics, sent⟩ | ⟨error, refused⟩
  · rw [sent]
    exact ⟨rfl, rfl, rfl, rfl, rfl⟩
  · rw [refused]
    exact .refl s

theorem untouched_perform {e : Effect} (stays : e.renames = false) :
    Untouched s (endState (perform e s)) := by
  cases e with
  | sync target className objectName slot params =>
    cases target with
    | client => exact .refl s
    | core => exact untouched_emit _
  | rpc target slot params =>
    cases target with
    | client => exact .refl s
    | core => exact untouched_emit _
  | rekey | rename => cases stays
  | publish | backlog | listing | failListings => exact ⟨rfl, rfl, rfl, rfl, rfl⟩

theorem performAll_cons (e : Effect) (effects : List Effect) :
    performAll (e :: effects) = perform e >>= fun _ => performAll effects := rfl

theorem performAll_singleton (e : Effect) : performAll [e] = perform e := by
  funext s
  rw [performAll_cons]
  cases ran : perform e s with
  | ok _ s' =>
    rw [bind_ok ran]
    rfl
  | error error s' => rw [bind_error ran]

theorem untouched_performAll {effects : List Effect} (stay : ∀ e ∈ effects, e.renames = false) :
    Untouched s (endState (performAll effects s)) := by
  induction effects generalizing s with
  | nil => exact .refl s
  | cons e effects ih =>
    have first : Untouched s (endState (perform e s)) := untouched_perform (stay e (by simp))
    rw [performAll_cons]
    refine endState_bind first fun _ s' ran => ?_
    rw [ran] at first
    exact first.trans (ih fun e member => stay e (by simp [member]))

/-- The first effect is carried out before what follows. -/
theorem performAll_step {e : Effect} (first : perform e s = .ok () s') (effects : List Effect)
    (f : PUnit → Action Unit) :
    (performAll (e :: effects) >>= f) s = (performAll effects >>= f) s' := by
  have same : performAll (e :: effects) s = performAll effects s' := by
    rw [performAll_cons, bind_ok first]
  show EStateM.bind _ f s = EStateM.bind _ f s'
  rw [EStateM.bind, same, EStateM.bind]

/-- Effects that move nothing, and then a count. -/
theorem untouched_counted {effects : List Effect} (stay : ∀ e ∈ effects, e.renames = false)
    (f : Metrics → Metrics) :
    Untouched s (endState ((performAll effects >>= fun _ => count f) s)) := by
  have first : Untouched s (endState (performAll effects s)) := untouched_performAll stay
  refine endState_bind first fun _ s' ran => ?_
  rw [ran] at first
  exact first.trans ⟨rfl, rfl, rfl, rfl, rfl⟩

/-- An object that is put back as it was leaves nothing to do but what it asks for. -/
theorem commit_self (found : s.objects.object? handle = some o) (effects : List Effect)
    (f : PUnit → Action Unit) :
    (commit handle (.ok (o, effects)) >>= f) s = (performAll effects >>= f) s := by
  show (performAll effects >>= f) { s with objects := s.objects.set handle o } = _
  rw [Store.set_self found]

theorem rename_unknown {className oldName : String} (absent : s.find? className oldName = none)
    (newName : String) :
    rename className oldName newName s =
      .ok () { s with repository := (s.repository.rename s.isLive className oldName newName).2 } := by
  have moved := (s.repository.rename_spec s.isLive className oldName newName).1
  rw [rename, bind_ok (get_eq s)]
  rcases named : s.repository.rename s.isLive className oldName newName with ⟨result, repository⟩
  rw [named] at moved
  obtain rfl : result = none := moved.trans absent
  simp only
  rw [bind_ok (set_eq ..)]
  rfl

/-- The entry of an object that is found is moved, and then the object is told. -/
theorem rename_found {className oldName : String} (tracked : s.find? className oldName = some handle)
    (newName : String) :
    rename className oldName newName s =
      (lock handle >>= fun o => setObject handle { o with objectName := newName })
        { s with repository := (s.repository.rename s.isLive className oldName newName).2 } := by
  have moved := (s.repository.rename_spec s.isLive className oldName newName).1
  rw [rename, bind_ok (get_eq s)]
  rcases named : s.repository.rename s.isLive className oldName newName with ⟨result, repository⟩
  rw [named] at moved
  obtain rfl : result = some handle := moved.trans tracked
  simp only
  rw [bind_ok (set_eq ..)]

theorem rename_eq {className oldName : String} (tracked : s.find? className oldName = some handle)
    (found : s.objects.object? handle = some o) (sound : o.poisoned = false) (newName : String) :
    rename className oldName newName s = .ok () { s with
      objects := s.objects.set handle { o with objectName := newName }
      repository := (s.repository.rename s.isLive className oldName newName).2 } := by
  let s' := { s with repository := (s.repository.rename s.isLive className oldName newName).2 }
  have held : lock handle s' = .ok o s' := lock_ok found sound
  rw [rename_found tracked, bind_ok held, setObject_eq]

/-- A call that an object takes: its method is carried out, and the call is counted. -/
def deliver (table : MethodTable) (handle : Handle) (slot : String) (params : List Value)
    (counter : Metrics → Metrics) : Action Unit := do
  commit handle (table.invoke (← lock handle) slot params)
  count counter

theorem dispatch_rpc_eq (s : Session) (slot : String) (params : List Value) :
    dispatch (.rpc slot params) s =
      match s.invokers.get .client RpcHandler.className, s.rpcHandler with
      | .error error, _ => .error error s
      | .ok _, none => .error (.invokerNotFound RpcHandler.className) s
      | .ok table, some handle => deliver table handle slot params Metrics.rpc s := by
  unfold dispatch
  simp only
  rw [bind_ok (get_eq s)]
  cases s.invokers.get .client RpcHandler.className with
  | error error => rfl
  | ok table =>
    rw [bind_ok (ofExcept_ok table s)]
    cases s.rpcHandler <;> rfl

theorem dispatch_sync_eq (s : Session) (className objectName slot : String) (params : List Value) :
    dispatch (.sync className objectName slot params) s =
      match s.invokers.get .client className, s.find? className objectName with
      | .error error, _ => .error error s
      | .ok _, none => .error (.objectNotFound className objectName) s
      | .ok table, some handle => deliver table handle slot params Metrics.sync s := by
  unfold dispatch
  simp only
  rw [bind_ok (get_eq s)]
  cases s.invokers.get .client className with
  | error error => rfl
  | ok table =>
    rw [bind_ok (ofExcept_ok table s)]
    cases s.find? className objectName <;> rfl

section Delivery

variable (table : MethodTable) (slot : String) (params : List Value) (counter : Metrics → Metrics)

/-- A call that an object takes either changes nothing, or the object becomes what its method makes of
it and the effects follow. -/
theorem deliver_cases (s : Session) (handle : Handle) :
    (∃ error, deliver table handle slot params counter s = .error error s) ∨
      ∃ o changed, s.objects.object? handle = some o ∧ table.invoke o slot params = .ok changed ∧
        deliver table handle slot params counter s =
          (commit handle (.ok changed) >>= fun _ => count counter) s := by
  unfold deliver
  rcases lock_cases s handle with held | ⟨o, found, -, held⟩
  · exact .inl ⟨_, bind_error held⟩
  · rw [bind_ok held]
    cases invoked : table.invoke o slot params with
    | error error => exact .inl ⟨error, rfl⟩
    | ok changed => exact .inr ⟨o, changed, found, invoked, rfl⟩

variable {table slot params}

/-- A method that leaves its object as it is, has its effects and is counted. -/
theorem deliver_self (found : s.objects.object? handle = some o) (sound : o.poisoned = false)
    {effects : List Effect} (invoked : table.invoke o slot params = .ok (o, effects)) :
    deliver table handle slot params counter s =
      (performAll effects >>= fun _ => count counter) s := by
  rw [deliver, bind_ok (lock_ok found sound), invoked, commit_self found]

end Delivery

/-- A call of an object's slot either changes nothing, or the object becomes what its method makes
of it and the effects follow. -/
theorem dispatch_sync_cases (s : Session) (className objectName slot : String)
    (params : List Value) :
    (∃ error, dispatch (.sync className objectName slot params) s = .error error s) ∨
      ∃ table handle o o' effects, s.invokers.get .client className = .ok table ∧
        s.find? className objectName = some handle ∧ s.objects.object? handle = some o ∧
        table.invoke o slot params = .ok (o', effects) ∧
        dispatch (.sync className objectName slot params) s =
          (performAll effects >>= fun _ => count Metrics.sync)
            { s with objects := s.objects.set handle o' } := by
  rw [dispatch_sync_eq]
  cases listed : s.invokers.get .client className with
  | error error => exact .inl ⟨error, rfl⟩
  | ok table =>
    cases tracked : s.find? className objectName with
    | none => exact .inl ⟨_, rfl⟩
    | some handle =>
      rcases deliver_cases table slot params Metrics.sync s handle with
        refused | ⟨o, ⟨o', effects⟩, found, invoked, ran⟩
      · exact .inl refused
      · exact .inr ⟨table, handle, o, o', effects, rfl, rfl, found, invoked, ran⟩

/-- A call that belongs to no object either changes nothing, or the object that takes such calls becomes
what its method makes of it and the effects follow. -/
theorem dispatch_rpc_cases (s : Session) (slot : String) (params : List Value) :
    (∃ error, dispatch (.rpc slot params) s = .error error s) ∨
      ∃ table handle o changed, s.invokers.get .client RpcHandler.className = .ok table ∧
        s.rpcHandler = some handle ∧ s.objects.object? handle = some o ∧
        table.invoke o slot params = .ok changed ∧
        dispatch (.rpc slot params) s =
          (commit handle (.ok changed) >>= fun _ => count Metrics.rpc) s := by
  rw [dispatch_rpc_eq]
  cases listed : s.invokers.get .client RpcHandler.className with
  | error error => exact .inl ⟨error, rfl⟩
  | ok table =>
    cases taker : s.rpcHandler with
    | none => exact .inl ⟨_, rfl⟩
    | some handle =>
      rcases deliver_cases table slot params Metrics.rpc s handle with
        refused | ⟨o, changed, found, invoked, ran⟩
      · exact .inl refused
      · exact .inr ⟨table, handle, o, changed, rfl, rfl, found, invoked, ran⟩

/-- The rename that the core announces with these parameters: the class, the old and the new name.
There must be somebody to take the announcement, attached to the session. -/
def announced? (s : Session) (params : List Value) : Option (String × String × String) :=
  match s.invokers.get .client RpcHandler.className, s.rpcHandler.bind s.objects.object? with
  | .ok _, some o =>
    if !o.poisoned && Body.rpcHandler.alike o.body && o.attached then RpcHandler.renaming? params
    else none
  | _, _ => none

theorem renaming?_of_announced {params : List Value} {move : String × String × String}
    (announced : s.announced? params = some move) : RpcHandler.renaming? params = some move := by
  unfold announced? at announced
  split at announced
  · split at announced
    · exact announced
    · cases announced
  · cases announced

/-- A rename that the core announces is carried out and published; or else nothing changes that is
known of objects. -/
theorem dispatch_announced_cases
    (own : ∀ table, s.invokers.get .client RpcHandler.className = .ok table →
      table = RpcHandler.table) (params : List Value) :
    (s.announced? params = none ∧
      Untouched s (endState (dispatch (.rpc RpcHandler.objectRenamed params) s))) ∨
      ∃ className oldName newName, s.announced? params = some (className, oldName, newName) ∧
        dispatch (.rpc RpcHandler.objectRenamed params) s =
          (performAll [.rename className oldName newName,
            .publish (.objectRenamed className newName oldName)] >>= fun _ =>
              count Metrics.rpc) s := by
  rw [announced?, dispatch_rpc_eq]
  cases listed : s.invokers.get .client RpcHandler.className with
  | error error => exact .inl ⟨rfl, .refl s⟩
  | ok table =>
    rw [own table listed]
    cases s.rpcHandler with
    | none => exact .inl ⟨rfl, .refl s⟩
    | some taker =>
      simp only [Option.bind_some, deliver]
      rcases whole_or_broken s taker with ⟨o, found, sound⟩ | broken
      · rw [found, bind_ok (lock_ok found sound), RpcHandler.invoke_objectRenamed]
        simp only [sound, Bool.not_false, Bool.true_and]
        cases Body.rpcHandler.alike o.body with
        | false => exact .inl ⟨rfl, .refl s⟩
        | true =>
          simp only [if_true, Bool.true_and]
          rcases RpcHandler.renamed_cases o params with
            ⟨unread, error, refused⟩ | ⟨className, oldName, newName, read, made⟩
          · rw [unread, refused, ite_self]
            exact .inl ⟨rfl, .refl s⟩
          · rw [read, made, commit_self found]
            cases o.attached with
            | false => exact .inl ⟨rfl, untouched_counted (by simp [Effect.renames]) _⟩
            | true => exact .inr ⟨className, oldName, newName, rfl, rfl⟩
      · rw [bind_error (lock_refused broken)]
        refine .inl ⟨?_, .refl s⟩
        cases found : s.objects.object? taker with
        | none => rfl
        | some o => simp [broken o found]

def identity? (s : Session) (handle : Handle) : Option (String × String) :=
  (s.objects.object? handle).map fun o => (o.className, o.objectName)

/-- One object becomes another; what is found by which name is open. -/
structure Alters (s s' : Session) (handle : Handle) (o : Object) : Prop where
  objects : s'.objects = s.objects.set handle o
  rpcHandler : s'.rpcHandler = s.rpcHandler
  invokers : s'.invokers = s.invokers

section Alters

variable {s s' : Session} {handle : Handle} {o o' : Object}

theorem Alters.isLive (alters : Alters s s' handle o') : s'.isLive = s.isLive := by
  funext other
  simp only [Session.isLive, alters.objects, alters.rpcHandler, Store.isLive_set]

theorem Alters.find? (alters : Alters s s' handle o') (className objectName : String) :
    s'.find? className objectName = s'.repository.find? s.isLive className objectName := by
  rw [Session.find?, alters.isLive]

theorem Alters.object? (alters : Alters s s' handle o')
    (found : s.objects.object? handle = some o) (other : Handle) :
    s'.objects.object? other = if handle = other then some o' else s.objects.object? other := by
  rw [alters.objects, Store.object?_set]
  split
  · next same => rw [← same, found]; rfl
  · rfl

theorem Alters.identity? (alters : Alters s s' handle o')
    (found : s.objects.object? handle = some o) (other : Handle) :
    s'.identity? other =
      if handle = other then some (o'.className, o'.objectName) else s.identity? other := by
  rw [Session.identity?, alters.object? found]
  split <;> rfl

theorem isLive_congr (objects : s'.objects = s.objects)
    (rpcHandler : s'.rpcHandler = s.rpcHandler) : s'.isLive = s.isLive := by
  funext other
  simp only [isLive, objects, rpcHandler]

theorem identity?_of_found (found : s.objects.object? handle = some o) :
    s.identity? handle = some (o.className, o.objectName) := by
  rw [identity?, found]
  rfl

/-- An object that keeps its names changes nobody's identity. -/
theorem identity?_same (found : s.objects.object? handle = some o)
    (className : o'.className = o.className) (objectName : o'.objectName = o.objectName)
    (other : Handle) :
    (if handle = other then some (o'.className, o'.objectName) else s.identity? other) =
      s.identity? other := by
  split
  · next same => rw [← same, identity?_of_found found, className, objectName]
  · rfl

/-- What is found once an object was added under its names. -/
theorem Alters.find?_added (alters : Alters s s' handle o') (alive : s.isLive handle = true)
    (repository :
      s'.repository = (s.repository.add s.isLive o.className o.objectName handle).2)
    (className objectName : String) :
    s'.find? className objectName =
      if (s.find? o.className o.objectName).isNone ∧
          (o.className, o.objectName) = (className, objectName) then some handle
      else s.find? className objectName := by
  rw [alters.find?, repository, (Repository.add_spec ..).2, Option.filter_some, if_pos alive]
  rfl

/-- What is found once a live object was moved to the name that it has then. -/
theorem Alters.find?_moved (alters : Alters s s' handle o')
    (tracked : s.find? o.className o.objectName = some handle)
    (repository : s'.repository =
      (s.repository.rename s.isLive o.className o.objectName o'.objectName).2)
    (className objectName : String) :
    s'.find? className objectName =
      if (o.className, o'.objectName) = (className, objectName) then some handle
      else if (o.className, o.objectName) = (className, objectName) then none
      else s.find? className objectName := by
  rw [Session.find?] at tracked
  rw [alters.find?, repository, (Repository.rename_spec ..).2, tracked]
  rfl

/-- The repository is left alone. -/
theorem Alters.find?_kept (alters : Alters s s' handle o')
    (repository : s'.repository = s.repository) (className objectName : String) :
    s'.find? className objectName = s.find? className objectName := by
  rw [alters.find?, repository]
  rfl

/-- An object that is synchronized is attached, and added if its name is free. What was awaited is so
still. -/
theorem synchronize_alters (found : s.objects.object? handle = some o) (whole : o.poisoned = false) :
    let s' := endState (synchronize handle s)
    Alters s s' handle { o with attached := true } ∧
      s'.repository = (s.repository.add s.isLive o.className o.objectName handle).2 ∧
      s.tracker.pending ⊆ s'.tracker.pending := by
  rw [synchronize_eq found whole]
  dsimp only
  split
  · have sent := untouched_emit (s := { s with
        objects := s.objects.set handle { o with attached := true }
        repository := (s.repository.add s.isLive o.className o.objectName handle).2
        tracker := s.tracker.requested o.className o.objectName })
        (.initRequest o.className o.objectName)
    refine ⟨⟨sent.objects, sent.rpcHandler, sent.invokers⟩, sent.repository, fun key awaited => ?_⟩
    rw [sent.tracker]
    exact Tracker.mem_requested.mpr (.inr awaited)
  · exact ⟨⟨rfl, rfl, rfl⟩, rfl, fun _ => id⟩

end Alters

end Session
end Datastream
