import Datastream.Proofs.Session.Operations
import Datastream.Proofs.Session.Tracker

/-!
# States that are asked for

Beside a session is kept which of its objects wait for their state. While no object that waits is
moved to another name or put out of its own, the tracker holds the names of those that wait (`Kept`).
Every way in which one object can change keeps that: it is added with its state or without, it is told
to wait no more, it changes under its name, or it moves to another.

The moves of an object are made by `synchronize`, `stop_synchronize`, `rename`, `rekey` and the state
that `dispatch` brings.
-/
namespace Datastream

namespace Session

/-- Whether an object is found under any name. -/
def Tracks (s : Session) (handle : Handle) : Prop :=
  ∃ className objectName, s.find? className objectName = some handle

/-- What the program and the core do to the objects of a session. -/
inductive ObjectMove
  | synchronize (handle : Handle)
  | stop (handle : Handle)
  | initData (className objectName : String) (state : Fields)
  | sync (className objectName slot : String) (params : List Value)
  /-- The core announces a rename to the rpc handler. -/
  | renamed (className newName oldName : String)

namespace ObjectMove

def act : ObjectMove → Action Unit
  | synchronize handle => Session.synchronize handle
  | stop handle => Session.stop handle
  | initData className objectName state => dispatch (.initData className objectName state)
  | sync className objectName slot params => dispatch (.sync className objectName slot params)
  | renamed className newName oldName =>
    dispatch (.rpc RpcHandler.objectRenamed [.ofName className, .ofText newName, .ofText oldName])

end ObjectMove

/-- A session, and the objects whose state was asked for and which since then neither got it nor
were stopped. -/
structure InitRun where
  session : Session
  awaiting : List Handle := []
  /-- Whether any state was asked for. -/
  asked : Bool := false

namespace InitRun

/-- A session from which a run starts: nothing is tracked, the rpc handler has its slots, and every
object is alive and whole. -/
structure Ready (s : Session) : Prop where
  repository : s.repository = {}
  tracker : s.tracker = {}
  registered : s.invokers.get .client RpcHandler.className = .ok RpcHandler.table
  alive : ∀ handle o, s.objects.object? handle = some o → s.isLive handle = true
  whole : ∀ handle o, s.objects.object? handle = some o → o.poisoned = false

/-- Makes a move, failed or not. The state of an object was asked for when a payload went out. -/
def step (w : InitRun) (m : ObjectMove) : InitRun :=
  match m, m.act w.session with
  | .synchronize handle, .ok _ s =>
    if w.session.link.outbox.length < s.link.outbox.length then ⟨s, handle :: w.awaiting, true⟩
    else { w with session := s }
  | .stop handle, .ok _ s => { w with session := s, awaiting := w.awaiting.filter (· ≠ handle) }
  | .initData className objectName _, .ok _ s =>
    { w with
      session := s
      awaiting := w.awaiting.filter fun handle =>
        w.session.find? className objectName ≠ some handle }
  | _, result => { w with session := endState result }

def run (w : InitRun) (moves : List ObjectMove) : InitRun := moves.foldl step w

variable (w : InitRun)

/-- Moving an object to another name moves none that waits for its state, and displaces none. -/
def Spares (className oldName newName : String) : Prop :=
  oldName = newName ∨ w.session.find? className oldName = none ∨
    ∀ handle ∈ w.awaiting, w.session.find? className oldName ≠ some handle ∧
      w.session.find? className newName ≠ some handle

instance (className oldName newName : String) : Decidable (w.Spares className oldName newName) :=
  inferInstanceAs (Decidable (_ ∨ _ ∨ _))

/-- What a method makes of an object, if it changes the name only with the repository. -/
structure Orderly (o o' : Object) (effects : List Effect) : Prop where
  className : o'.className = o.className
  initialized : o'.initialized = o.initialized
  whole : o'.poisoned = false
  names : (o'.objectName = o.objectName ∧ ∀ e ∈ effects, e.renames = false) ∨
    ∃ rest, effects = .rekey o.className o.objectName o'.objectName :: rest ∧
      (∀ e ∈ rest, e.renames = false) ∧ w.Spares o.className o.objectName o'.objectName

/-- A move that keeps the objects that wait where they are; an object that is synchronized is asked
for if it has to be. -/
def Allows : ObjectMove → Prop
  | .synchronize handle => ∃ s, synchronize handle w.session = .ok () s
  | .stop _ | .initData .. => True
  | .sync className objectName slot params =>
    ∀ table handle o o' effects, w.session.invokers.get .client className = .ok table →
      w.session.find? className objectName = some handle →
      w.session.objects.object? handle = some o →
      table.invoke o slot params = .ok (o', effects) → w.Orderly o o' effects
  | .renamed className newName oldName => w.Spares className oldName newName

def AllowsAll : InitRun → List ObjectMove → Prop
  | _, [] => True
  | w, m :: moves => w.Allows m ∧ AllowsAll (w.step m) moves

/-- The rpc handler has its slots, every object is alive and whole, and is found under the names it
has. -/
structure Coherent (s : Session) : Prop where
  registered : s.invokers.get .client RpcHandler.className = .ok RpcHandler.table
  alive : ∀ handle o, s.objects.object? handle = some o → s.isLive handle = true
  whole : ∀ handle o, s.objects.object? handle = some o → o.poisoned = false
  named : ∀ {className objectName handle}, s.find? className objectName = some handle →
    s.identity? handle = some (className, objectName)

/-- The tracker holds the names of the objects that wait. -/
structure Kept (w : InitRun) : Prop where
  coherent : Coherent w.session
  unset : ∀ handle ∈ w.awaiting, ∀ o, w.session.objects.object? handle = some o →
    o.initialized = false
  sound : w.session.tracker.Sound
  asked : w.session.tracker.started ↔ w.asked = true
  pending : ∀ className objectName, (className, objectName) ∈ w.session.tracker.pending ↔
    ∃ handle ∈ w.awaiting, w.session.find? className objectName = some handle

section Coherent

variable {s s' : Session} {handle : Handle} {o o' : Object}

theorem Coherent.alter (coherent : Coherent s) (alters : Alters s s' handle o')
    (found : s.objects.object? handle = some o) (whole : o'.poisoned = false)
    (named : ∀ {className objectName other}, s'.find? className objectName = some other →
      (if handle = other then some (o'.className, o'.objectName) else s.identity? other) =
        some (className, objectName)) : Coherent s' where
  registered := by rw [alters.invokers]; exact coherent.registered
  alive other o'' found' := by
    rw [alters.isLive]
    rw [alters.object? found] at found'
    split at found'
    · next same => exact same ▸ coherent.alive handle o found
    · exact coherent.alive other o'' found'
  whole other o'' found' := by
    rw [alters.object? found] at found'
    split at found'
    · cases found'
      exact whole
    · exact coherent.whole other o'' found'
  named found' := by
    rw [alters.identity? found]
    exact named found'

end Coherent

section Kept

variable {w : InitRun} {s s' : Session} {handle : Handle} {o o' : Object}

/-- Who waits depends on the objects, on what is found and on the tracker. -/
theorem Kept.of_found (kept : w.Kept) (objects : s.objects = w.session.objects)
    (rpcHandler : s.rpcHandler = w.session.rpcHandler)
    (invokers : s.invokers = w.session.invokers) (tracker : s.tracker = w.session.tracker)
    (finds : ∀ className objectName,
      s.find? className objectName = w.session.find? className objectName) :
    ({ w with session := s } : InitRun).Kept := by
  have live := isLive_congr objects rpcHandler
  obtain ⟨⟨registered, alive, whole, named⟩, unset, sound, asked, pending⟩ := kept
  refine ⟨⟨?_, ?_, ?_, ?_⟩, ?_, ?_, ?_, ?_⟩
  · rwa [invokers]
  · rwa [objects, live]
  · rwa [objects]
  · simp only [identity?, objects, finds]
    exact named
  · simp only [objects]
    exact unset
  · rwa [tracker]
  · rwa [tracker]
  · simp only [tracker, finds]
    exact pending

theorem Kept.untouched (kept : w.Kept) (same : Untouched w.session s) :
    ({ w with session := s } : InitRun).Kept := by
  refine kept.of_found same.objects same.rpcHandler same.invokers same.tracker ?_
  intro className objectName
  simp only [find?, same.repository, isLive_congr same.objects same.rpcHandler]

/-- What a session that only one object of changed in has to keep besides. -/
theorem Kept.alter (kept : w.Kept) {w' : InitRun} (alters : Alters w.session w'.session handle o')
    (found : w.session.objects.object? handle = some o) (whole : o'.poisoned = false)
    (named : ∀ {className objectName other}, w'.session.find? className objectName = some other →
      (if handle = other then some (o'.className, o'.objectName) else w.session.identity? other) =
        some (className, objectName))
    (awaiting : ∀ other ∈ w'.awaiting,
      if handle = other then o'.initialized = false else other ∈ w.awaiting)
    (sound : w'.session.tracker.Sound) (asked : w'.session.tracker.started ↔ w'.asked = true)
    (pending : ∀ className objectName, (className, objectName) ∈ w'.session.tracker.pending ↔
      ∃ handle ∈ w'.awaiting, w'.session.find? className objectName = some handle) : w'.Kept where
  coherent := kept.coherent.alter alters found whole named
  unset other waits o'' found' := by
    have before := awaiting other waits
    rw [alters.object? found] at found'
    split at found'
    · next same =>
      cases found'
      simpa [same] using before
    · next differs =>
      rw [if_neg differs] at before
      exact kept.unset other before o'' found'
  sound := sound
  asked := asked
  pending := pending

/-- Nobody who waits is found otherwise, and the tracker is told nothing. -/
theorem Kept.untold (kept : w.Kept) (alters : Alters w.session s handle o')
    (found : w.session.objects.object? handle = some o) (whole : o'.poisoned = false)
    (named : ∀ {className objectName other}, s.find? className objectName = some other →
      (if handle = other then some (o'.className, o'.objectName) else w.session.identity? other) =
        some (className, objectName))
    (initialized : o'.initialized = o.initialized)
    (tracker : s.tracker = w.session.tracker)
    (same : ∀ className objectName, ∀ other ∈ w.awaiting,
      s.find? className objectName = some other ↔
        w.session.find? className objectName = some other) :
    ({ w with session := s } : InitRun).Kept := by
  refine kept.alter alters found whole named ?_ ?_ ?_ fun className objectName => ?_
  · intro other waits
    split
    · next same => exact initialized.trans (kept.unset other waits o (same ▸ found))
    · exact waits
  · rw [tracker]
    exact kept.sound
  · rw [tracker]
    exact kept.asked
  · rw [tracker, kept.pending]
    exact exists_congr fun other => and_congr_right fun waits =>
      (same className objectName other waits).symm

/-- An object that is found is found by its names. -/
theorem Coherent.key (coherent : Coherent s) (found : s.objects.object? handle = some o)
    {className objectName : String} (tracked : s.find? className objectName = some handle) :
    (o.className, o.objectName) = (className, objectName) := by
  have named := coherent.named tracked
  rw [identity?_of_found found] at named
  exact Option.some.inj named

/-- An object that was added is found by its names. -/
theorem Coherent.named_added (coherent : Coherent s)
    (alters : Alters s s' handle { o with attached := true })
    (found : s.objects.object? handle = some o)
    (repository :
      s'.repository = (s.repository.add s.isLive o.className o.objectName handle).2)
    {className objectName : String} {other : Handle}
    (tracked : s'.find? className objectName = some other) :
    (if handle = other then some (o.className, o.objectName) else s.identity? other) =
      some (className, objectName) := by
  rw [identity?_same found rfl rfl]
  rw [alters.find?_added (coherent.alive handle o found) repository] at tracked
  split at tracked
  · next new =>
    cases tracked
    rw [identity?_of_found found, new.2]
  · exact coherent.named tracked

/-- An object is added, and its state is asked for. -/
theorem Kept.requested (kept : w.Kept)
    (alters : Alters w.session s handle { o with attached := true })
    (found : w.session.objects.object? handle = some o) (whole : o.poisoned = false)
    (unset : o.initialized = false)
    (absent : (w.session.find? o.className o.objectName).isNone = true)
    (repository : s.repository = (w.session.repository.add w.session.isLive o.className
      o.objectName handle).2)
    (tracker : s.tracker = w.session.tracker.requested o.className o.objectName) :
    (⟨s, handle :: w.awaiting, true⟩ : InitRun).Kept := by
  have alive := kept.coherent.alive handle o found
  refine kept.alter alters found whole (kept.coherent.named_added alters found repository)
    ?_ ?_ ?_ fun className objectName => ?_
  · intro other waits
    split
    · exact unset
    · next differs => exact List.mem_of_ne_of_mem (Ne.symm differs) waits
  · rw [tracker]
    exact kept.sound.requested ..
  · rw [tracker]
    exact iff_of_true (Tracker.started_requested ..) rfl
  · rw [tracker, Tracker.mem_requested, kept.pending, alters.find?_added alive repository]
    split
    · next here => simp [here.2]
    · next elsewhere =>
      have otherKey : (className, objectName) ≠ (o.className, o.objectName) :=
        fun same => elsewhere ⟨absent, same.symm⟩
      simp only [otherKey, false_or]
      refine ⟨fun ⟨other, waits, tracked⟩ => ⟨other, List.mem_cons_of_mem _ waits, tracked⟩,
        fun ⟨other, waits, tracked⟩ => ⟨other, List.mem_of_ne_of_mem ?_ waits, tracked⟩⟩
      rintro rfl
      exact otherKey (kept.coherent.key found tracked).symm

/-- An object is added, or not, and has its state if it is. -/
theorem Kept.added (kept : w.Kept)
    (alters : Alters w.session s handle { o with attached := true })
    (found : w.session.objects.object? handle = some o) (whole : o.poisoned = false)
    (set : (w.session.find? o.className o.objectName).isNone = true → o.initialized = true)
    (repository : s.repository = (w.session.repository.add w.session.isLive o.className
      o.objectName handle).2)
    (tracker : s.tracker = w.session.tracker) : ({ w with session := s } : InitRun).Kept := by
  refine kept.untold alters found whole (kept.coherent.named_added alters found repository) rfl
    tracker fun className objectName other waits => ?_
  rw [alters.find?_added (kept.coherent.alive handle o found) repository]
  split
  · next new =>
    obtain ⟨absent, key⟩ := new
    obtain ⟨rfl, rfl⟩ := Prod.mk.inj key
    refine iff_of_false ?_ fun tracked => by simp [tracked] at absent
    rintro ⟨⟩
    exact absurd (kept.unset handle waits o found) (by simp [set absent])
  · rfl

/-- An object waits no more, and the tracker is told. -/
theorem Kept.settle (kept : w.Kept) {w' : InitRun} (alters : Alters w.session w'.session handle o')
    (found : w.session.objects.object? handle = some o) (whole : o'.poisoned = false)
    (sameClass : o'.className = o.className) (sameName : o'.objectName = o.objectName)
    (awaiting : ∀ other, other ∈ w'.awaiting ↔ other ∈ w.awaiting ∧ other ≠ handle)
    (asked : w'.asked = w.asked)
    (tracker : w'.session.tracker = (w.session.tracker.received o.className o.objectName).2)
    (others : ∀ className objectName, (o.className, o.objectName) ≠ (className, objectName) →
      w'.session.find? className objectName = w.session.find? className objectName)
    (here : ∀ other, w'.session.find? o.className o.objectName = some other → other = handle) :
    w'.Kept := by
  refine kept.alter alters found whole ?_ ?_ ?_ ?_ ?_
  · intro className objectName other found'
    rw [identity?_same found sameClass sameName]
    by_cases key : (o.className, o.objectName) = (className, objectName)
    · obtain ⟨rfl, rfl⟩ := Prod.mk.inj key
      rw [here other found', identity?_of_found found]
    · exact kept.coherent.named (others _ _ key ▸ found')
  · intro other waits
    obtain ⟨waited, differs⟩ := (awaiting other).mp waits
    rwa [if_neg (Ne.symm differs)]
  · rw [tracker]
    exact kept.sound.received ..
  · rw [tracker, asked, Tracker.started_received]
    exact kept.asked
  · intro className objectName
    rw [tracker, Tracker.mem_received kept.sound, kept.pending]
    by_cases key : (o.className, o.objectName) = (className, objectName)
    · obtain ⟨rfl, rfl⟩ := Prod.mk.inj key
      refine iff_of_false (fun both => both.1 rfl) ?_
      rintro ⟨other, waits, found'⟩
      exact ((awaiting other).mp waits).2 (here other found')
    · rw [others _ _ key]
      refine ⟨fun ⟨_, other, waits, found'⟩ => ⟨other, (awaiting other).mpr ⟨waits, ?_⟩, found'⟩,
        fun ⟨other, waits, found'⟩ => ⟨Ne.symm key, other, ((awaiting other).mp waits).1, found'⟩⟩
      rintro rfl
      exact key (kept.coherent.key found found')

/-- An object changes, but neither its names nor whether it has its state. -/
theorem Kept.change (kept : w.Kept) (alters : Alters w.session s handle o')
    (found : w.session.objects.object? handle = some o) (whole : o'.poisoned = false)
    (sameClass : o'.className = o.className) (sameName : o'.objectName = o.objectName)
    (initialized : o'.initialized = o.initialized)
    (repository : s.repository = w.session.repository)
    (tracker : s.tracker = w.session.tracker) : ({ w with session := s } : InitRun).Kept := by
  have finds : ∀ className objectName, s.find? className objectName =
      w.session.find? className objectName := by
    intro className objectName
    rw [alters.find?, repository]
    rfl
  refine kept.untold alters found whole ?_ initialized tracker fun className objectName _ _ => ?_
  · intro className objectName other tracked
    rw [identity?_same found sameClass sameName]
    exact kept.coherent.named (finds _ _ ▸ tracked)
  · rw [finds]

/-- An object that does not wait moves to another name, where no object waits. -/
theorem Kept.move (kept : w.Kept) (alters : Alters w.session s handle o')
    (found : w.session.objects.object? handle = some o) (whole : o'.poisoned = false)
    (tracked : w.session.find? o.className o.objectName = some handle)
    (sameClass : o'.className = o.className) (initialized : o'.initialized = o.initialized)
    (spares : w.Spares o.className o.objectName o'.objectName)
    (repository : s.repository = (w.session.repository.rename w.session.isLive o.className
      o.objectName o'.objectName).2)
    (tracker : s.tracker = w.session.tracker) : ({ w with session := s } : InitRun).Kept := by
  refine kept.untold alters found whole ?_ initialized tracker
    fun className objectName other waits => ?_
  · intro className objectName other tracked'
    rw [alters.find?_moved tracked repository] at tracked'
    split at tracked'
    · next new =>
      cases tracked'
      rw [if_pos rfl, sameClass, new]
    · split at tracked'
      · cases tracked'
      · next notOld =>
        have differs : handle ≠ other := by
          rintro rfl
          exact notOld (kept.coherent.key found tracked')
        rw [if_neg differs]
        exact kept.coherent.named tracked'
  · -- Only the two names of the rename are found otherwise; nobody who waits has one of them.
    rw [alters.find?_moved tracked repository]
    rcases spares with sameName | absent | apart
    · rw [← sameName]
      split
      · next here =>
        obtain ⟨rfl, rfl⟩ := Prod.mk.inj here
        rw [tracked]
      · rfl
    · cases absent.symm.trans tracked
    · obtain ⟨notMoved, notDisplaced⟩ := apart other waits
      split
      · next new =>
        obtain ⟨rfl, rfl⟩ := Prod.mk.inj new
        exact iff_of_false (tracked ▸ notMoved) notDisplaced
      · split
        · next old =>
          obtain ⟨rfl, rfl⟩ := Prod.mk.inj old
          exact iff_of_false nofun notMoved
        · rfl

end Kept

end InitRun

end Session
end Datastream
