import Datastream.Proofs.Session.Bystanders

/-!
# Objects that cannot be synchronized

A session attaches an object, adds it to its repository and awaits its state, and only then asks the
core for that state. There are two ways in which this fails (`synchronize_error_iff`). An object that
cannot be taken hold of leaves all as it was. But if it is the request that cannot be sent, nothing of
what came before is taken back: `synchronize_leaves_no_trace_iff` says that the object then counts as
tracked and awaited, though the core was never asked, and that the next attempt reports success
without asking either.

This is `synchronize`, which calls `add`, `requested` and `emit` in this order.
-/
namespace Datastream

/-- A name that a live object has is given to no other. -/
theorem Repository.add_of_found {live : Handle → Bool} {r : Repository}
    {className objectName : String} {other : Handle}
    (found : r.find? live className objectName = some other) (handle : Handle) :
    r.add live className objectName handle = (false, r) := by
  have taken : (r.entry? className objectName).any live = true := by
    rw [find?, Option.filter_eq_some_iff] at found
    rw [found.1]
    exact found.2
  rw [entry?_eq] at taken
  simp [add, taken]

namespace Session

def unsendable? (s : Session) (m : ProxyMessage) : Option Error :=
  match m.encode s.link.registry s.link.features with
  | .error error => some error
  | .ok _ => if s.link.closed then some .connectionClosed else none

/-- Nobody can take hold of the object. -/
def Unlockable (s : Session) (handle : Handle) : Prop :=
  ∀ o, s.objects.object? handle = some o → o.poisoned = true

def asking (s : Session) (handle : Handle) (o : Object) : Session :=
  { s with
    objects := s.objects.set handle { o with attached := true }
    repository := (s.repository.add s.isLive o.className o.objectName handle).2
    tracker := s.tracker.requested o.className o.objectName }

section

variable {s s' : Session} {handle : Handle} {o : Object} {error : Error}

theorem emit_error_iff {m : ProxyMessage} :
    emit m s = .error error s' ↔ s.unsendable? m = some error ∧ s' = s := by
  unfold emit onLink Link.emitProxy Link.emitEncoded Link.emit unsendable?
  have same {refused : Error} : (EStateM.Result.error refused s : EStateM.Result Error Session Unit) =
      .error error s' ↔ some refused = some error ∧ s' = s := by
    rw [EStateM.Result.error.injEq, Option.some_inj, eq_comm (a := s)]
  cases m.encode s.link.registry s.link.features with
  | error refused => exact same
  | ok payload =>
    cases closed : s.link.closed with
    | true => exact same
    | false => simp

theorem synchronize_error_iff :
    synchronize handle s = .error error s' ↔
      (s.Unlockable handle ∧ error = .poisoned ∧ s' = s) ∨
        ∃ o, s.objects.object? handle = some o ∧ o.poisoned = false ∧
          s.find? o.className o.objectName = none ∧ o.initialized = false ∧
          s.unsendable? (.initRequest o.className o.objectName) = some error ∧
          s' = s.asking handle o := by
  rcases whole_or_broken s handle with ⟨o, found, sound⟩ | broken
  · have lockable : ¬s.Unlockable handle := fun broken => by simp [broken o found] at sound
    have added := (s.repository.add_spec s.isLive o.className o.objectName handle).1
    constructor
    · intro failed
      rw [synchronize_eq found sound] at failed
      simp only [added] at failed
      rw [← find?] at failed
      split at failed
      · next asks =>
        simp only [Bool.and_eq_true, Option.isNone_iff_eq_none, Bool.not_eq_true'] at asks
        obtain ⟨refused, rfl⟩ := emit_error_iff.mp failed
        exact .inr ⟨o, found, sound, asks.1, asks.2, refused, rfl⟩
      · cases failed
    · rintro (⟨broken, -⟩ | ⟨o', found', -, absent, stateless, refused, rfl⟩)
      · exact absurd broken lockable
      · obtain rfl : o = o' := Option.some.inj (found.symm.trans found')
        have asks : ((s.repository.add s.isLive o.className o.objectName handle).1 &&
            !o.initialized) = true := by
          rw [added, ← find?, absent, stateless]
          rfl
        rw [synchronize_eq found sound]
        exact (if_pos asks).trans (emit_error_iff.mpr ⟨refused, rfl⟩)
  · have refused : synchronize handle s = .error .poisoned s := by
      rw [synchronize, bind_error (lock_refused broken)]
    rw [refused]
    constructor
    · rintro ⟨⟩
      exact .inl ⟨broken, rfl, rfl⟩
    · rintro (⟨-, rfl, rfl⟩ | ⟨o, found, sound, -⟩)
      · rfl
      · simp [broken o found] at sound

/-- An object is tracked, awaited and attached just as before. -/
structure NoTrace (s s' : Session) (handle : Handle) : Prop where
  repository : s'.repository = s.repository
  pending : s'.tracker.pending = s.tracker.pending
  attached : (s'.objects.object? handle).map Object.attached =
    (s.objects.object? handle).map Object.attached

/-- An object is attached, found under its names and awaited, and nothing else has changed. A further
attempt to synchronize it succeeds and does nothing. -/
structure AwaitedUnasked (s s' : Session) (handle : Handle) (o : Object) : Prop where
  object : s'.objects.object? handle = some { o with attached := true }
  others : ∀ other ≠ handle, s'.objects.object? other = s.objects.object? other
  found : ∀ className objectName, s'.find? className objectName =
    if (o.className, o.objectName) = (className, objectName) then some handle
    else s.find? className objectName
  pending : ∀ key, key ∈ s'.tracker.pending ↔
    key = (o.className, o.objectName) ∨ key ∈ s.tracker.pending
  unfinished : s'.tracker.finished = false
  rest : s' = { s with
    objects := s'.objects, repository := s'.repository, tracker := s'.tracker }
  again : synchronize handle s' = .ok () s'

theorem awaitedUnasked_asking (alive : s.isLive handle = true)
    (stored : s.objects.object? handle = some o) (sound : o.poisoned = false)
    (absent : s.find? o.className o.objectName = none) :
    AwaitedUnasked s (s.asking handle o) handle o := by
  have object : (s.asking handle o).objects.object? handle = some { o with attached := true } := by
    simp [asking, Store.object?_set, stored]
  have live : (s.asking handle o).isLive = s.isLive := isLive_setObject ..
  have found : ∀ className objectName, (s.asking handle o).find? className objectName =
      if (o.className, o.objectName) = (className, objectName) then some handle
      else s.find? className objectName := by
    intro className objectName
    rw [find?, live]
    refine ((s.repository.add_spec s.isLive o.className o.objectName handle).2 ..).trans ?_
    rw [← find?, absent]
    simp [alive, find?, Option.filter]
  have again : synchronize handle (s.asking handle o) = .ok () (s.asking handle o) := by
    have named : (s.asking handle o).find? o.className o.objectName = some handle := by
      rw [found, if_pos rfl]
    have kept := Repository.add_of_found named handle
    rw [synchronize_eq object sound]
    simp only [kept, Bool.false_and, Bool.false_eq_true, if_false]
    rw [Store.set_self object]
  exact {
    object
    others := fun other differs => by
      rw [asking, Store.object?_set, if_neg differs.symm]
    found
    pending := fun key => Tracker.mem_requested
    unfinished := rfl
    rest := rfl
    again }

/-- A synchronize that fails leaves no trace just if the object could not be taken hold of. If its
request could not be sent, the object stays attached, tracked and awaited. -/
theorem synchronize_leaves_no_trace_iff (alive : s.isLive handle = true)
    (failed : synchronize handle s = .error error s') :
    (NoTrace s s' handle ↔ s.Unlockable handle) ∧
      (s.Unlockable handle → error = .poisoned ∧ s' = s) ∧
      ∀ o, s.objects.object? handle = some o → o.poisoned = false →
        s.unsendable? (.initRequest o.className o.objectName) = some error ∧
          AwaitedUnasked s s' handle o := by
  rcases synchronize_error_iff.mp failed with
    ⟨broken, rfl, rfl⟩ | ⟨o, stored, sound, absent, -, refused, rfl⟩
  · refine ⟨iff_of_true ⟨rfl, rfl, rfl⟩ broken, fun _ => ⟨rfl, rfl⟩, fun o stored sound => ?_⟩
    simp [broken o stored] at sound
  · have lockable : ¬s.Unlockable handle := fun broken => by simp [broken o stored] at sound
    have awaited := awaitedUnasked_asking alive stored sound absent
    have traced : ¬NoTrace s (s.asking handle o) handle := fun same => by
      -- The object is found under its names, which nothing had.
      have named := awaited.found o.className o.objectName
      have live : (s.asking handle o).isLive = s.isLive := isLive_setObject ..
      rw [if_pos rfl, find?, same.repository, live, ← find?, absent] at named
      cases named
    refine ⟨iff_of_false traced lockable, fun broken => absurd broken lockable, ?_⟩
    intro o' stored' _
    obtain rfl : o = o' := Option.some.inj (stored.symm.trans stored')
    exact ⟨refused, awaited⟩

end

/-- A session whose connection is gone, with a counter `x` that it does not track. -/
def cutOff : Session :=
  let s := withCountersNamed ["x"]
  { s with link := { s.link with closed := true } }

theorem counter_awaited_unasked :
    cutOff.isLive 3 = true ∧ ∃ s' o, synchronize 3 cutOff = .error .connectionClosed s' ∧
      AwaitedUnasked cutOff s' 3 o := by
  have alive : cutOff.isLive 3 = true := by decide
  have failed : synchronize 3 cutOff =
      .error .connectionClosed (endState (synchronize 3 cutOff)) := by rfl
  obtain ⟨-, -, awaited⟩ := synchronize_leaves_no_trace_iff alive failed
  exact ⟨alive, _, ⟨"Counter", "x", false, false, false, .counter 0⟩, failed,
    (awaited _ (by decide) rfl).2⟩

/-- The request for a counter is refused, and yet the counter is attached, tracked and awaited. -/
theorem traces_of_refused_request :
    let s' := endState (synchronize 3 cutOff)
    synchronize 3 cutOff = .error .connectionClosed s' ∧
      cutOff.find? "Counter" "x" = none ∧ s'.find? "Counter" "x" = some 3 ∧
      cutOff.tracker.pending = [] ∧ s'.tracker.pending = [("Counter", "x")] ∧
      (cutOff.objects.object? 3).map Object.attached = some false ∧
      (s'.objects.object? 3).map Object.attached = some true ∧ ¬NoTrace cutOff s' 3 := by
  intro s'
  have failed : synchronize 3 cutOff = .error .connectionClosed s' := by rfl
  have pending : s'.tracker.pending = [("Counter", "x")] := by decide +kernel
  refine ⟨failed, by decide +kernel, by decide +kernel, rfl, pending, by decide +kernel,
    by decide +kernel, fun same => ?_⟩
  rw [same.pending] at pending
  cases pending

end Session
end Datastream
