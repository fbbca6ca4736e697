import Datastream.Proofs.Session.Tracking
import Datastream.Proofs.Sync.SelfNaming

/-!
# Names of objects and their entries

The name of an object is kept twice, by the object and by its entry in the repository. A rename of the
core moves the entry and then tells the object; an object that renames itself has a new name, and asks
for the entry to be moved only if it is live. So the two agree for whatever is found (`Named`), over
every run in which no object renames itself that is found but not live, or that is live while another
goes by its name (`MayRename`, `found_objects_bear_their_names`). An object that renames itself before it
has its state stays under its old name (`rename_before_state_keeps_entry`).

The two names are changed by `rename`, `rekey` and `rename_object`.
-/
namespace Datastream

theorem Store.object?_drop (s : Store) (label : String) (handle : Handle) :
    (s.drop label).2.object? handle = s.object? handle := by
  unfold drop
  cases s.handle? label with
  | none => rfl
  | some dropped =>
    simp only [object?, List.getElem?_modify]
    cases s.objects[handle]? with
    | none => rfl
    | some stored => by_cases same : dropped = handle <;> simp [same]

/-- Dropping an object makes none live. -/
theorem Store.isLive_of_drop {s : Store} {label : String} {handle : Handle}
    (live : (s.drop label).2.isLive handle = true) : s.isLive handle = true := by
  unfold drop at live
  cases labelled : s.handle? label with
  | none => simpa [labelled] using live
  | some dropped =>
    simp only [labelled, isLive, List.getElem?_modify] at live ⊢
    cases stored : s.objects[handle]? with
    | none => simp [stored] at live
    | some stored' =>
      by_cases same : dropped = handle <;> simp_all

/-- While fewer objects are live, no more is found. -/
theorem Repository.find?_of_fewer {live live' : Handle → Bool} {r : Repository}
    (fewer : ∀ handle, live' handle = true → live handle = true) {className objectName : String}
    {handle : Handle} (found : r.find? live' className objectName = some handle) :
    r.find? live className objectName = some handle := by
  rw [find?, Option.filter_eq_some_iff] at found ⊢
  exact ⟨found.1, fewer handle found.2⟩

namespace Session

/-- The object is whole and has these names. -/
def Bears (s : Session) (handle : Handle) (className objectName : String) : Prop :=
  ∃ o, s.objects.object? handle = some o ∧ o.poisoned = false ∧
    (o.className, o.objectName) = (className, objectName)

/-- Whatever is found has the names that it is found by, and methods that the core can call rename an
object only as the object would rename itself. -/
structure Named (s : Session) : Prop where
  orderly : s.invokers.Orderly
  bears : ∀ className objectName handle, s.find? className objectName = some handle →
    s.Bears handle className objectName

section Named

variable {s s' : Session} {handle : Handle} {o o' : Object}

theorem Named.key (named : Named s) (found : s.objects.object? handle = some o)
    {className objectName : String} (tracked : s.find? className objectName = some handle) :
    o.poisoned = false ∧ (o.className, o.objectName) = (className, objectName) := by
  obtain ⟨o', found', whole, names⟩ := named.bears _ _ _ tracked
  obtain rfl := Option.some.inj (found.symm.trans found')
  exact ⟨whole, names⟩

/-- Nothing becomes of the objects, and no more is found. -/
theorem Named.of_fewer (named : Named s)
    (objects : ∀ other, s'.objects.object? other = s.objects.object? other)
    (invokers : s'.invokers = s.invokers)
    (fewer : ∀ {className objectName other}, s'.find? className objectName = some other →
      s.find? className objectName = some other) : Named s' := by
  refine ⟨invokers ▸ named.orderly, fun className objectName other tracked => ?_⟩
  obtain ⟨o, found, rest⟩ := named.bears _ _ _ (fewer tracked)
  exact ⟨o, (objects other).trans found, rest⟩

theorem Named.untouched (named : Named s) (same : Untouched s s') : Named s' := by
  refine named.of_fewer (fun other => by rw [same.objects]) same.invokers fun tracked => ?_
  rwa [find?, same.repository, isLive_congr same.objects same.rpcHandler] at tracked

/-- One object becomes another; it has the names that it is found by, and the others are found as
before. -/
theorem Named.alter (named : Named s) (alters : Alters s s' handle o')
    (found : s.objects.object? handle = some o)
    (finds : ∀ {className objectName other}, s'.find? className objectName = some other →
      if handle = other then
        o'.poisoned = false ∧ (o'.className, o'.objectName) = (className, objectName)
      else s.find? className objectName = some other) : Named s' := by
  refine ⟨alters.invokers ▸ named.orderly, fun className objectName other tracked => ?_⟩
  have before := finds tracked
  unfold Bears
  rw [alters.object? found]
  split at before
  · next same => exact ⟨o', if_pos same, before⟩
  · next differs =>
    obtain ⟨o'', found'', rest⟩ := named.bears _ _ _ before
    exact ⟨o'', by rw [if_neg differs, found''], rest⟩

/-- One object becomes another of the same names, and no more is found. -/
theorem Named.alter_same (named : Named s) (alters : Alters s s' handle o')
    (found : s.objects.object? handle = some o) (className : o'.className = o.className)
    (objectName : o'.objectName = o.objectName) (poisoned : o'.poisoned = o.poisoned)
    (fewer : ∀ {className objectName other}, s'.find? className objectName = some other →
      s.find? className objectName = some other) : Named s' := by
  refine named.alter alters found fun tracked => ?_
  split
  · next same =>
    subst same
    rw [poisoned, className, objectName]
    exact named.key found (fewer tracked)
  · exact fewer tracked

/-- An object that is not found becomes another, and no more is found. -/
theorem Named.alter_unfound (named : Named s) (alters : Alters s s' handle o')
    (found : s.objects.object? handle = some o)
    (unfound : s.find? o.className o.objectName ≠ some handle)
    (fewer : ∀ {className objectName other}, s'.find? className objectName = some other →
      s.find? className objectName = some other) : Named s' := by
  refine named.alter alters found fun tracked => ?_
  split
  · next same =>
    subst same
    obtain ⟨-, names⟩ := named.key found (fewer tracked)
    obtain ⟨rfl, rfl⟩ := Prod.mk.inj names
    exact absurd (fewer tracked) unfound
  · exact fewer tracked

theorem Named.synchronize (named : Named s) (handle : Handle) :
    Named (endState (Session.synchronize handle s)) := by
  rcases lock_cases s handle with held | ⟨o, found, whole, -⟩
  · rw [Session.synchronize, bind_error held]
    exact named
  · obtain ⟨alters, repository, -⟩ := synchronize_alters found whole
    refine named.alter alters found fun {className objectName other} tracked => ?_
    rw [alters.find?, repository, (Repository.add_spec ..).2] at tracked
    split at tracked
    · next new =>
      obtain rfl : handle = other := (Option.filter_eq_some_iff.mp tracked).1 |> Option.some.inj
      rw [if_pos rfl]
      exact ⟨whole, new.2⟩
    · split
      · next same => exact named.key found (same ▸ tracked)
      · exact tracked

theorem Named.stop (named : Named s) (handle : Handle) :
    Named (endState (Session.stop handle s)) := by
  rcases stop_cases handle s with
    refused | ⟨o, s', found, whole, ran, objects, rpcHandler, invokers, repository, -⟩
  · rwa [refused]
  · have alters : Alters s s' handle { o with initialized := false } :=
      ⟨objects, rpcHandler, invokers⟩
    rw [ran]
    show Named s'
    refine named.alter_same alters found rfl rfl rfl fun tracked => ?_
    rw [alters.find?, repository, (Repository.remove_spec ..).2] at tracked
    split at tracked
    · cases tracked
    · exact tracked

theorem Named.receiveState (named : Named s) (className objectName : String) (state : Fields) :
    Named (endState (Session.receiveState className objectName state s)) := by
  rcases receiveState_cases className objectName state s with
    ⟨-, ran⟩ | ⟨error, refused⟩ |
    ⟨handle, o, o', s', -, found, -, taken, ran, objects, rpcHandler, invokers, repository, -⟩
  · rwa [ran]
  · rwa [refused]
  · obtain ⟨body, rfl⟩ := Object.init_ok taken
    have alters : Alters s s' handle { o with body, initialized := true } :=
      ⟨objects, rpcHandler, invokers⟩
    rw [ran]
    exact named.alter_same alters found rfl rfl rfl fun tracked =>
      (alters.find?_kept repository ..).symm.trans tracked

/-- A rename moves the entry of an object, and the object has the new name. -/
theorem Named.move (named : Named s) (alters : Alters s s' handle o')
    (found : s.objects.object? handle = some o) (className : o'.className = o.className)
    (poisoned : o'.poisoned = o.poisoned)
    (tracked : s.find? o.className o.objectName = some handle)
    (repository : s'.repository =
      (s.repository.rename s.isLive o.className o.objectName o'.objectName).2) : Named s' := by
  refine named.alter alters found fun {className' objectName' other} tracked' => ?_
  have present : s.repository.find? s.isLive o.className o.objectName = some handle := tracked
  rw [alters.find?, repository, (Repository.rename_spec ..).2, present] at tracked'
  dsimp only at tracked'
  split at tracked'
  · next here =>
    obtain rfl := Option.some.inj tracked'
    rw [if_pos rfl, poisoned, className]
    exact ⟨(named.key found tracked).1, here⟩
  · split at tracked'
    · cases tracked'
    · next left =>
      rw [if_neg]
      · exact tracked'
      · rintro rfl
        exact left (named.key found tracked').2

/-- Moving the entry of an object that is not found changes nothing that is found. -/
theorem find?_rename_absent {className oldName : String} (absent : s.find? className oldName = none)
    (newName className' objectName' : String) :
    (s.repository.rename s.isLive className oldName newName).2.find? s.isLive className' objectName' =
      s.find? className' objectName' := by
  have finds := (s.repository.rename_spec s.isLive className oldName newName).2 className' objectName'
  rwa [show s.repository.find? s.isLive className oldName = none from absent] at finds

theorem Named.rename (named : Named s) (className oldName newName : String) :
    Named (endState (Session.rename className oldName newName s)) := by
  cases tracked : s.find? className oldName with
  | none =>
    rw [rename_unknown tracked]
    exact named.of_fewer (fun _ => rfl) rfl fun tracked' =>
      (find?_rename_absent tracked newName ..).symm.trans tracked'
  | some handle =>
    obtain ⟨o, found, whole, names⟩ := named.bears _ _ _ tracked
    obtain ⟨rfl, rfl⟩ := Prod.mk.inj names
    rw [rename_eq tracked found whole]
    let renamed : Object := { o with objectName := newName }
    exact named.move ⟨rfl, rfl, rfl⟩ found (show renamed.className = _ from rfl) rfl tracked rfl

theorem Named.perform (named : Named s) {e : Effect} (stays : e.rekeys = false) :
    Named (endState (Session.perform e s)) := by
  cases e with
  | rename className oldName newName => exact named.rename className oldName newName
  | rekey className oldName newName => cases stays
  | _ => exact named.untouched (untouched_perform rfl)

theorem Named.performAll (named : Named s) {effects : List Effect}
    (stay : ∀ e ∈ effects, e.rekeys = false) : Named (endState (Session.performAll effects s)) := by
  induction effects generalizing s with
  | nil => exact named
  | cons e effects ih =>
    have first : Named (endState (Session.perform e s)) := named.perform (stay e (by simp))
    rw [performAll_cons]
    refine endState_bind (P := Named) first fun _ s' ran => ?_
    rw [ran] at first
    exact ih first fun e member => stay e (by simp [member])

/-- Whether an object may change its own name: not while it is found by its name and is not live, as
nobody is told then; and not while it is live and another is found by its name. -/
def MayRename (s : Session) (handle : Handle) (o : Object) : Prop :=
  ∀ holder ∈ s.find? o.className o.objectName, holder = handle ↔ o.isLive = true

instance (s : Session) (handle : Handle) (o : Object) : Decidable (s.MayRename handle o) :=
  inferInstanceAs (Decidable (∀ holder ∈ s.find? o.className o.objectName, _))

/-- An object is put back after a call that may have renamed it, and what it asked for is done. -/
theorem Named.commit (named : Named s) (found : s.objects.object? handle = some o)
    {effects : List Effect} (becomes : o.Becomes o' effects)
    (may : o'.objectName ≠ o.objectName → s.MayRename handle o) :
    Named (endState (Session.commit handle (.ok (o', effects)) s)) := by
  obtain ⟨className, poisoned, rest, rfl, stay⟩ := becomes
  show Named (endState (Session.performAll _ { s with objects := s.objects.set handle o' }))
  have alters : Alters s { s with objects := s.objects.set handle o' } handle o' :=
    ⟨rfl, rfl, rfl⟩
  by_cases sameName : o'.objectName = o.objectName
  · rw [sameName, Object.rename_self]
    refine Named.performAll ?_ stay
    exact named.alter_same alters found className sameName poisoned fun tracked =>
      (alters.find?_kept rfl ..).symm.trans tracked
  · have may := may sameName
    rw [Object.rename, if_neg (Ne.symm sameName)]
    cases live : o.isLive with
    | false =>
      refine Named.performAll (named.alter_unfound alters found (fun tracked => ?_) fun tracked =>
        (alters.find?_kept rfl ..).symm.trans tracked) stay
      have isLive := (may handle tracked).mp rfl
      rw [live] at isLive
      cases isLive
    | true =>
      let s' : Session := { s with
        objects := s.objects.set handle o'
        repository := (s.repository.rename s.isLive o.className o.objectName o'.objectName).2 }
      have rekeyed : Session.perform (.rekey o.className o.objectName o'.objectName)
          { s with objects := s.objects.set handle o' } = .ok () s' := by
        show rekey _ _ _ _ = _
        rw [rekey, modify_eq, alters.isLive]
      have alters' : Alters s s' handle o' := ⟨rfl, rfl, rfl⟩
      rw [if_pos rfl, List.singleton_append, performAll_cons, bind_ok rekeyed]
      refine Named.performAll ?_ stay
      cases tracked : s.find? o.className o.objectName with
      | none =>
        refine named.alter_unfound alters' found (by simp [tracked]) fun tracked' => ?_
        rw [alters'.find?] at tracked'
        exact (find?_rename_absent tracked ..).symm.trans tracked'
      | some holder =>
        obtain rfl := (may holder tracked).mpr live
        exact named.move alters' found className poisoned tracked rfl

end Named

/-- Something that a session does besides, which leaves alone what is known of objects. -/
structure Aside where
  act : Session → Session
  untouched : ∀ s, Untouched s (act s)

/-- What is done to the objects of a session. -/
inductive NamingMove
  | synchronize (handle : Handle)
  | stop (handle : Handle)
  /-- A message of the core: the state of an object, a rename, or a call of a method. -/
  | receive (m : ProxyMessage)
  /-- A call of the program, as when an object renames itself; but no name is set without more ado. -/
  | call (handle : Handle) (c : Object.Call) (keeps : c.names = false)
  /-- The program drops an object. -/
  | drop (label : String)
  | close
  | aside (other : Aside)

namespace NamingMove

def act : NamingMove → Session → Session
  | synchronize handle, s => endState (Session.synchronize handle s)
  | stop handle, s => endState (Session.stop handle s)
  | receive m, s => endState (dispatch m s)
  | call handle c _, s => endState (Session.call handle c s)
  | drop label, s => { s with objects := (s.objects.drop label).2 }
  | close, s => s.close
  | aside other, s => other.act s

/-- The object that a call changes, what it is and what it becomes. -/
def change? (s : Session) : NamingMove → Option (Handle × Object × Object)
  | call handle c _ => do
    let o ← s.objects.object? handle
    let (o', _) ← (o.call c).toOption
    return (handle, o, o')
  | receive (.sync className objectName slot params) => do
    let table ← (s.invokers.get .client className).toOption
    let handle ← s.find? className objectName
    let o ← s.objects.object? handle
    let (o', _) ← (table.invoke o slot params).toOption
    return (handle, o, o')
  | receive (.rpc slot params) => do
    let table ← (s.invokers.get .client RpcHandler.className).toOption
    let handle ← s.rpcHandler
    let o ← s.objects.object? handle
    let (o', _) ← (table.invoke o slot params).toOption
    return (handle, o, o')
  | _ => none

/-- An object that renames itself is one that may. -/
def Permitted (s : Session) (move : NamingMove) : Prop :=
  ∀ change ∈ move.change? s, change.2.2.objectName ≠ change.2.1.objectName →
    s.MayRename change.1 change.2.1

instance (s : Session) (move : NamingMove) : Decidable (move.Permitted s) :=
  inferInstanceAs (Decidable (∀ change ∈ move.change? s, _))

def run (s : Session) (moves : List NamingMove) : Session := moves.foldl (fun s move => move.act s) s

def AllPermitted : Session → List NamingMove → Prop
  | _, [] => True
  | s, move :: moves => move.Permitted s ∧ AllPermitted (move.act s) moves

instance decidableAllPermitted : (s : Session) → (moves : List NamingMove) → Decidable (AllPermitted s moves)
  | _, [] => isTrue trivial
  | s, move :: moves =>
    have := decidableAllPermitted (move.act s) moves
    inferInstanceAs (Decidable (move.Permitted s ∧ AllPermitted (move.act s) moves))

end NamingMove

section Named

variable {s : Session}

theorem Named.call (named : Named s) {handle : Handle} {c : Object.Call} (keeps : c.names = false)
    (permitted : (NamingMove.call handle c keeps).Permitted s) :
    Named (endState (Session.call handle c s)) := by
  unfold Session.call
  rw [bind_ok (get_eq s)]
  cases found : s.objects.object? handle with
  | none => exact named
  | some o =>
    simp only
    cases made : o.call c with
    | error error => exact named
    | ok changed =>
      obtain ⟨o', effects⟩ := changed
      refine named.commit found (Object.becomes_call keeps made) (permitted (handle, o, o') ?_)
      simp [NamingMove.change?, found, made, Except.toOption]

theorem Named.receive (named : Named s) {m : ProxyMessage} (permitted : (NamingMove.receive m).Permitted s) :
    Named (endState (dispatch m s)) := by
  have counted : ∀ {x : Action PUnit} {f : Metrics → Metrics}, Named (endState (x s)) →
      Named (endState ((x >>= fun _ => count f) s)) := by
    intro x f first
    refine endState_bind (P := Named) first fun _ s' ran => ?_
    rw [ran] at first
    exact first.untouched ⟨rfl, rfl, rfl, rfl, rfl⟩
  cases m with
  | heartBeat sent =>
    have first : Named { s with heartbeat := { s.heartbeat with received := true } } :=
      named.untouched ⟨rfl, rfl, rfl, rfl, rfl⟩
    exact first.untouched (untouched_emit _)
  | heartBeatReply sent => exact named.untouched ⟨rfl, rfl, rfl, rfl, rfl⟩
  | initData className objectName state => exact named.receiveState className objectName state
  | initRequest => exact named
  | rpc slot params =>
    rcases dispatch_rpc_cases s slot params with
      ⟨error, refused⟩ | ⟨table, handle, o, ⟨o', effects⟩, listed, taker, found, invoked, ran⟩
    · rwa [refused]
    · rw [ran]
      refine counted (named.commit found (named.orderly _ _ listed _ _ _ _ _ invoked)
        (permitted (handle, o, o') ?_))
      simp [NamingMove.change?, listed, taker, found, invoked, Except.toOption]
  | sync className objectName slot params =>
    rcases dispatch_sync_cases s className objectName slot params with
      ⟨error, refused⟩ | ⟨table, handle, o, o', effects, listed, tracked, found, invoked, ran⟩
    · rwa [refused]
    · rw [ran]
      have committed := named.commit found (named.orderly _ _ listed _ _ _ _ _ invoked)
        (permitted (handle, o, o') (by
          simp [NamingMove.change?, listed, tracked, found, invoked, Except.toOption]))
      exact counted (x := Session.commit handle (.ok (o', effects))) committed

theorem Named.drop (named : Named s) (label : String) :
    Named { s with objects := (s.objects.drop label).2 } := by
  refine named.of_fewer (fun other => Store.object?_drop ..) rfl fun tracked =>
    Repository.find?_of_fewer (fun handle live => ?_) tracked
  rw [isLive, Bool.or_eq_true] at live ⊢
  exact live.imp_left Store.isLive_of_drop

theorem Named.act (named : Named s) {move : NamingMove} (permitted : move.Permitted s) : Named (move.act s) := by
  cases move with
  | synchronize handle => exact named.synchronize handle
  | stop handle => exact named.stop handle
  | receive m => exact named.receive permitted
  | call handle c keeps => exact named.call keeps permitted
  | drop label => exact named.drop label
  | close => exact named.of_fewer (fun _ => rfl) rfl nofun
  | aside other => exact named.untouched (other.untouched s)

theorem Named.run (named : Named s) {moves : List NamingMove} (permitted : NamingMove.AllPermitted s moves) :
    Named (NamingMove.run s moves) := by
  induction moves generalizing s with
  | nil => exact named
  | cons move moves ih => exact ih (named.act permitted.1) permitted.2

end Named

/-- What is stopped is found by no name. -/
theorem Named.unfound_of_stop {s : Session} (named : Named s) {handle : Handle} {o : Object}
    (found : s.objects.object? handle = some o) (whole : o.poisoned = false) :
    ∃ stopped, Session.stop handle s = .ok () stopped ∧
      ∀ className objectName, stopped.find? className objectName ≠ some handle := by
  let stopped : Session := { s with
    objects := s.objects.set handle { o with initialized := false }
    repository := (s.repository.remove s.isLive o.className o.objectName).2
    tracker := (s.tracker.received o.className o.objectName).2 }
  have alters : Alters s stopped handle { o with initialized := false } := ⟨rfl, rfl, rfl⟩
  refine ⟨stopped, stop_eq found whole, fun className objectName tracked => ?_⟩
  rw [alters.find?, (Repository.remove_spec ..).2] at tracked
  split at tracked
  · cases tracked
  · next elsewhere => exact elsewhere (named.key found tracked).2

/-- An object that is not live changes its own name, and nothing else. -/
theorem call_rename_of_not_live {s : Session} {handle : Handle} {o : Object}
    (found : s.objects.object? handle = some o) (notLive : o.isLive = false) (newName : String) :
    Session.call handle (.rename newName) s =
      .ok () { s with objects := s.objects.set handle { o with objectName := newName } } := by
  have renamed : o.rename newName = ({ o with objectName := newName }, []) := by
    by_cases same : o.objectName = newName
    · rw [← same, Object.rename_self]
    · rw [Object.rename, if_neg same, notLive]
      rfl
  rw [Session.call, bind_ok (get_eq s), found]
  show Session.commit handle (.ok (o.rename newName)) s = _
  rw [renamed]
  rfl

theorem named_of_empty {s : Session} (empty : s.repository = {}) (orderly : s.invokers.Orderly) :
    Named s := by
  refine ⟨orderly, fun className objectName handle tracked => ?_⟩
  rw [find?, empty] at tracked
  cases tracked

/-- Whatever is found has the names that it is found by, over every run that starts with nothing
tracked and in which no object renames itself that may not. So what it sends when it is live carries the
names that it is found by, and it is found by none once it is stopped. But an object that is found and
not live tells nobody when it renames itself: it has the new name, and is found by the old one. -/
theorem found_objects_bear_their_names {s : Session} (empty : s.repository = {})
    (orderly : s.invokers.Orderly) {moves : List NamingMove} (permitted : NamingMove.AllPermitted s moves) :
    let s' := NamingMove.run s moves
    ∀ className objectName handle, s'.find? className objectName = some handle →
      s'.identity? handle = some (className, objectName) ∧
      ∃ o, s'.objects.object? handle = some o ∧
        (∀ target slot params, o.sync target slot params =
          if o.isLive then [.sync target className objectName slot params] else []) ∧
        (∃ stopped, Session.stop handle s' = .ok () stopped ∧
          ∀ className' objectName', stopped.find? className' objectName' ≠ some handle) ∧
        (o.isLive = false → ∀ newName,
          let renamed := endState (Session.call handle (.rename newName) s')
          renamed.identity? handle = some (className, newName) ∧
            renamed.find? className objectName = some handle) := by
  intro s' className objectName handle tracked
  have named : Named s' := (named_of_empty empty orderly).run permitted
  obtain ⟨o, found, whole, names⟩ := named.bears _ _ _ tracked
  obtain ⟨rfl, rfl⟩ := Prod.mk.inj names
  refine ⟨identity?_of_found found, o, found, fun _ _ _ => rfl,
    named.unfound_of_stop found whole, ?_⟩
  intro notLive newName renamed
  have alters : Alters s' renamed handle { o with objectName := newName } := by
    simp only [renamed, call_rename_of_not_live found notLive]
    exact ⟨rfl, rfl, rfl⟩
  have kept : renamed.repository = s'.repository := by
    simp only [renamed, call_rename_of_not_live found notLive]
    rfl
  refine ⟨by rw [alters.identity? found, if_pos rfl], ?_⟩
  rw [alters.find?_kept kept]
  exact tracked

/-- A counter gets its state, is renamed by the core, and then renames itself, when the core calls it and
when the program does. -/
theorem renamed_counter_found :
    let s := NamingMove.run withCounters [.synchronize 3, .receive (.initData "Counter" "old" []),
      .receive (.rpc RpcHandler.objectRenamed [.ofName "Counter", .ofText "new", .ofText "old"]),
      .receive (.sync "Counter" "new" "rename" [.ofText "mine"]), .call 3 (.rename "yours") rfl]
    s.find? "Counter" "yours" = some 3 ∧ s.identity? 3 = some ("Counter", "yours") := by
  intro s
  have orderly : withCounters.invokers.Orderly :=
    orderly_ownInvokers.register (Counter.orderly_table "Counter")
  have tracked : s.find? "Counter" "yours" = some 3 := by decide +kernel
  exact ⟨tracked, (found_objects_bear_their_names (s := withCounters) rfl orderly
    (by decide +kernel) _ _ _ tracked).1⟩

/-- A counter is tracked and renames itself before it has its state: it is found by the old name only,
and still is when it has been stopped. -/
theorem rename_before_state_keeps_entry :
    let s := NamingMove.run withCounters [.synchronize 3, .call 3 (.rename "new") rfl]
    s.isLive 3 = true ∧ s.find? "Counter" "old" = some 3 ∧ s.identity? 3 = some ("Counter", "new") ∧
      s.find? "Counter" "new" = none ∧ ((NamingMove.stop 3).act s).find? "Counter" "old" = some 3 := by
  decide +kernel

end Session
end Datastream
