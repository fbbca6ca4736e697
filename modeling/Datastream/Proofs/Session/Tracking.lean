import Datastream.Proofs.Session.InitRun
import Datastream.Session.Call
import Datastream.Sync.Counter

/-!
# The tracker and the objects

A tracker holds the names under which states were asked for; it is told what comes and what is
stopped, but not what is renamed. As long as no object that waits for its state is moved to another
name or put out of its own, the tracker holds the names of the objects that wait
(`pending_follows_objects`). A rename by the core in between leaves the old name behind for good
(`rename_leaves_name_pending`).

The tracker hears of `synchronize`, of `stop_synchronize` and of states that come in, but not of a
`rename` or a `rekey`.
-/
namespace Datastream

namespace Session

/-- A session with two counters that go by the names `old` and `other`; the second has its state. -/
def withCounters : Session :=
  let s := fresh .epoch
  { s with
    objects := ⟨s.objects.objects ++
      [⟨"a", ⟨"Counter", "old", false, false, false, .counter 0⟩, true, false⟩,
       ⟨"b", ⟨"Counter", "other", true, false, false, .counter 0⟩, true, false⟩]⟩
    invokers := s.invokers.register .client (Counter.table "Counter" Counter.methods) }

namespace InitRun

section Kept

variable {w : InitRun} {s : Session} {handle : Handle}

theorem Kept.synchronize (kept : w.Kept)
    (allowed : ∃ s, Session.synchronize handle w.session = .ok () s) :
    (w.step (.synchronize handle)).Kept := by
  obtain ⟨s, ran⟩ := allowed
  obtain ⟨o, found, whole, objects, rpcHandler, invokers, repository, told⟩ := synchronize_ok ran
  have alters : Alters w.session s handle { o with attached := true } :=
    ⟨objects, rpcHandler, invokers⟩
  have stepped : w.step (.synchronize handle) =
      if w.session.link.outbox.length < s.link.outbox.length then
        ⟨s, handle :: w.awaiting, true⟩
      else { w with session := s } := by
    simp only [step, ObjectMove.act, ran]
  rw [stepped]
  split at told
  · next asks =>
    obtain ⟨tracker, longer⟩ := told
    rw [Bool.and_eq_true, Bool.not_eq_true'] at asks
    rw [if_pos longer]
    exact kept.requested alters found whole asks.2 asks.1 repository tracker
  · next quiet =>
    obtain ⟨tracker, link⟩ := told
    rw [link, if_neg (Nat.lt_irrefl _)]
    refine kept.added alters found whole (fun absent => ?_) repository tracker
    simpa [absent] using quiet

theorem Kept.stop (kept : w.Kept) (handle : Handle) : (w.step (.stop handle)).Kept := by
  rcases stop_cases handle w.session with
    refused | ⟨o, s', found, whole, ran, objects, rpcHandler, invokers, repository, tracker⟩
  · have stepped : w.step (.stop handle) = w := by
      simp only [step, ObjectMove.act, refused, endState]
    rwa [stepped]
  · have stepped : w.step (.stop handle) =
        { w with session := s', awaiting := w.awaiting.filter (· ≠ handle) } := by
      simp only [step, ObjectMove.act, ran]
    have alters : Alters w.session s' handle { o with initialized := false } :=
      ⟨objects, rpcHandler, invokers⟩
    have finds : ∀ className objectName, s'.find? className objectName =
        if (o.className, o.objectName) = (className, objectName) then none
        else w.session.find? className objectName := by
      intro className objectName
      rw [alters.find?, repository, (Repository.remove_spec ..).2]
      rfl
    rw [stepped]
    refine kept.settle alters found whole rfl rfl (fun other => ?_) rfl tracker
      (fun className objectName differs => ?_) fun other found' => ?_
    · simp
    · rw [finds, if_neg differs]
    · rw [finds, if_pos rfl] at found'
      cases found'

theorem Kept.initData (kept : w.Kept) (className objectName : String) (state : Fields) :
    (w.step (.initData className objectName state)).Kept := by
  rcases receiveState_cases className objectName state w.session with
    ⟨absent, ran⟩ | ⟨error, refused⟩ |
    ⟨handle, o, o', s', tracked, found, whole, taken, ran, objects, rpcHandler, invokers, repository,
      tracker⟩
  · have stepped : w.step (.initData className objectName state) = w := by
      simp [step, ObjectMove.act, dispatch, ran, absent]
    rwa [stepped]
  · have stepped : w.step (.initData className objectName state) = w := by
      simp only [step, ObjectMove.act, dispatch, refused, endState]
    rwa [stepped]
  · have stepped : w.step (.initData className objectName state) =
        { w with session := s', awaiting := w.awaiting.filter fun other =>
          w.session.find? className objectName ≠ some other } := by
      simp only [step, ObjectMove.act, dispatch, ran]
    obtain ⟨body, rfl⟩ := Object.init_ok taken
    obtain ⟨rfl, rfl⟩ := Prod.mk.inj (kept.coherent.key found tracked)
    have alters : Alters w.session s' handle { o with body, initialized := true } :=
      ⟨objects, rpcHandler, invokers⟩
    have finds : ∀ className objectName, s'.find? className objectName =
        w.session.find? className objectName := by
      intro className objectName
      rw [alters.find?, repository]
      rfl
    rw [stepped]
    refine kept.settle alters found whole rfl rfl (fun other => ?_) rfl tracker
      (fun className objectName _ => finds className objectName) fun other found' => ?_
    · simp [tracked, eq_comm (a := handle)]
    · rw [finds, tracked] at found'
      exact (Option.some.inj found').symm

theorem Kept.sync (kept : w.Kept) {className objectName slot : String} {params : List Value}
    (allowed : w.Allows (.sync className objectName slot params)) :
    (w.step (.sync className objectName slot params)).Kept := by
  show ({ w with session := endState (dispatch (.sync className objectName slot params) w.session) }
    : InitRun).Kept
  rcases dispatch_sync_cases w.session className objectName slot params with
    ⟨error, refused⟩ | ⟨table, handle, o, o', effects, listed, tracked, found, invoked, ran⟩
  · rwa [refused]
  · obtain ⟨sameClass, initialized, whole, names⟩ :=
      allowed table handle o o' effects listed tracked found invoked
    obtain ⟨rfl, rfl⟩ := Prod.mk.inj (kept.coherent.key found tracked)
    have alters : Alters w.session { w.session with objects := w.session.objects.set handle o' }
      handle o' := ⟨rfl, rfl, rfl⟩
    rw [ran]
    rcases names with ⟨sameName, stay⟩ | ⟨rest, rfl, stay, spares⟩
    · have changed := kept.change alters found whole sameClass sameName initialized rfl rfl
      exact changed.untouched (untouched_counted stay _)
    · rw [performAll_step rfl]
      have live := alters.isLive
      have moved := kept.move (s := endState (rekey o.className o.objectName o'.objectName
        { w.session with objects := w.session.objects.set handle o' })) ⟨rfl, rfl, rfl⟩ found whole
          tracked sameClass initialized spares (by rw [← live]; rfl) rfl
      exact moved.untouched (untouched_counted stay _)

theorem Kept.rename (kept : w.Kept) {className oldName newName : String}
    (spares : w.Spares className oldName newName) :
    ∃ s, Session.rename className oldName newName w.session = .ok () s ∧
      ({ w with session := s } : InitRun).Kept := by
  cases tracked : w.session.find? className oldName with
  | none =>
    refine ⟨_, rename_unknown tracked newName, kept.of_found rfl rfl rfl rfl ?_⟩
    intro className' objectName
    have spec := (w.session.repository.rename_spec w.session.isLive className oldName newName).2
      className' objectName
    rw [find?] at tracked
    rwa [tracked] at spec
  | some handle =>
    have named := kept.coherent.named tracked
    simp only [identity?, Option.map_eq_some_iff, Prod.mk.injEq] at named
    obtain ⟨o, found, rfl, rfl⟩ := named
    have whole := kept.coherent.whole handle o found
    exact ⟨_, rename_eq tracked found whole newName,
      kept.move ⟨rfl, rfl, rfl⟩ found whole tracked rfl rfl spares rfl rfl⟩

theorem Kept.renamed (kept : w.Kept) {className newName oldName : String}
    (spares : w.Spares className oldName newName) :
    (w.step (.renamed className newName oldName)).Kept := by
  show ({ w with session := endState (dispatch (.rpc RpcHandler.objectRenamed
    [.ofName className, .ofText newName, .ofText oldName]) w.session) } : InitRun).Kept
  have quiet : ∀ e ∈ [Effect.publish (.objectRenamed className newName oldName)],
      e.renames = false := by simp [Effect.renames]
  have own : ∀ table, w.session.invokers.get .client RpcHandler.className = .ok table →
      table = RpcHandler.table := fun table listed =>
    Except.ok.inj (listed.symm.trans kept.coherent.registered)
  rcases dispatch_announced_cases own [.ofName className, .ofText newName, .ofText oldName] with
    ⟨-, untouched⟩ | ⟨className', oldName', newName', announced, ran⟩
  · exact kept.untouched untouched
  · have read := renaming?_of_announced announced
    rw [RpcHandler.renaming?_of_names] at read
    cases read
    obtain ⟨s, renamed, moved⟩ := kept.rename spares
    rw [ran, performAll_step (e := .rename className oldName newName) renamed]
    exact moved.untouched (untouched_counted quiet _)

theorem Kept.step (kept : w.Kept) {m : ObjectMove} (allowed : w.Allows m) : (w.step m).Kept := by
  cases m with
  | synchronize handle => exact kept.synchronize allowed
  | stop handle => exact kept.stop handle
  | initData className objectName state => exact kept.initData className objectName state
  | sync className objectName slot params => exact kept.sync allowed
  | renamed className newName oldName => exact kept.renamed allowed

theorem Kept.run (kept : w.Kept) {moves : List ObjectMove} (allowed : w.AllowsAll moves) :
    (w.run moves).Kept := by
  induction moves generalizing w with
  | nil => exact kept
  | cons m moves ih => exact ih (kept.step allowed.1) allowed.2

theorem kept_of_ready (ready : Ready s) : ({ session := s } : InitRun).Kept := by
  have nothing : ∀ className objectName, s.find? className objectName = none := by
    intro className objectName
    rw [find?, ready.repository]
    rfl
  refine ⟨⟨ready.registered, ready.alive, ready.whole, fun found => ?_⟩, ?_, ?_, ?_, ?_⟩
  · simp [nothing] at found
  · simp
  · rw [ready.tracker]
    exact ⟨.nil, fun _ => rfl⟩
  · rw [ready.tracker]
    simp [Tracker.started]
  · simp [ready.tracker]

end Kept

/-- The tracker follows the objects. Over every run that moves no object that waits, and displaces
none, it holds exactly the names of the tracked objects whose state was asked for and which since then
neither got it nor were stopped; and it is finished, for those who wait for that too, if and only if
something was asked for and no such object is left. -/
theorem pending_follows_objects {s : Session} (ready : Ready s) {moves : List ObjectMove}
    (allowed : AllowsAll { session := s } moves) :
    let w := run { session := s } moves
    w.session.tracker.pending.Nodup ∧
      (∀ key, key ∈ w.session.tracker.pending ↔
        ∃ handle ∈ w.awaiting, w.session.Tracks handle ∧ w.session.identity? handle = some key) ∧
      (w.session.tracker.finished = true ↔
        w.asked = true ∧ ∀ handle ∈ w.awaiting, ¬ w.session.Tracks handle) ∧
      (w.session.tracker.finished = true → w.session.tracker.pending.length = 0 ∧
        Task.allInitialized.turn w.session = (.done (.ok .initialized), w.session)) := by
  intro w
  have kept : w.Kept := (kept_of_ready ready).run allowed
  have names : ∀ key, key ∈ w.session.tracker.pending ↔
      ∃ handle ∈ w.awaiting, w.session.Tracks handle ∧ w.session.identity? handle = some key := by
    rintro ⟨className, objectName⟩
    rw [kept.pending]
    refine exists_congr fun handle => and_congr_right fun _ => ⟨fun found => ?_, fun both => ?_⟩
    · exact ⟨⟨className, objectName, found⟩, kept.coherent.named found⟩
    · obtain ⟨⟨className', objectName', found⟩, here⟩ := both
      cases here.symm.trans (kept.coherent.named found)
      exact found
  have nothing : w.session.tracker.pending = [] ↔
      ∀ handle ∈ w.awaiting, ¬ w.session.Tracks handle := by
    rw [List.eq_nil_iff_forall_not_mem]
    refine ⟨fun empty handle waits tracked => ?_, fun idle key pending => ?_⟩
    · obtain ⟨className, objectName, found⟩ := tracked
      exact empty _ ((kept.pending className objectName).mpr ⟨handle, waits, found⟩)
    · obtain ⟨handle, waits, tracked, -⟩ := (names key).mp pending
      exact idle handle waits tracked
  refine ⟨kept.sound.nodup, names, ?_, fun done => ⟨?_, ?_⟩⟩
  · rw [← nothing, ← kept.asked, Tracker.started]
    exact ⟨fun done => ⟨.inl done, kept.sound.nothing done⟩,
      fun ⟨started, empty⟩ => started.resolve_right (not_not_intro empty)⟩
  · rw [kept.sound.nothing done, List.length_nil]
  · simp only [Task.turn, done, if_true]

theorem ready_withCounters : Ready withCounters where
  repository := rfl
  tracker := rfl
  registered := rfl
  alive handle o found := by
    simp only [Store.object?, Option.map_eq_some_iff] at found
    obtain ⟨stored, listed, -⟩ := found
    have all : ∀ handle < 5, withCounters.isLive handle = true := by decide
    exact all handle (List.getElem?_eq_some_iff.mp listed).1
  whole handle o found := by
    simp only [Store.object?, Option.map_eq_some_iff] at found
    obtain ⟨stored, listed, rfl⟩ := found
    have all : ∀ stored ∈ withCounters.objects.objects, stored.object.poisoned = false := by decide
    exact all stored (List.mem_of_getElem? listed)

/-- While the first counter waits, the second is renamed by a call and then by the core. -/
def otherRenamed : List ObjectMove :=
  [.synchronize 3, .synchronize 4, .sync "Counter" "other" "rename" [.ofText "mine"],
    .renamed "Counter" "yours" "mine", .initData "Counter" "old" [], .stop 4]

theorem allows_otherRenamed : AllowsAll { session := withCounters } otherRenamed := by
  refine ⟨⟨_, rfl⟩, ⟨_, rfl⟩, ?_, ?_, trivial, trivial, trivial⟩
  · intro table handle o o' effects listed tracked found invoked
    obtain rfl : Counter.table "Counter" Counter.methods = table := Except.ok.inj listed
    obtain rfl : 4 = handle := Option.some.inj tracked
    obtain rfl : ⟨"Counter", "other", true, true, false, .counter 0⟩ = o := Option.some.inj found
    obtain ⟨rfl, rfl⟩ := Prod.mk.inj (Except.ok.inj invoked)
    refine ⟨rfl, rfl, rfl, .inr ⟨_, rfl, by simp, ?_⟩⟩
    show Spares _ _ _ _
    decide +kernel
  · show Spares _ _ _ _
    decide +kernel

theorem finished_when_other_renamed :
    let w := run { session := withCounters } otherRenamed
    w.session.tracker.pending.length = 0 ∧
      Task.allInitialized.turn w.session = (.done (.ok .initialized), w.session) := by
  intro w
  obtain ⟨-, -, finished, resolved⟩ :=
    pending_follows_objects ready_withCounters allows_otherRenamed
  have asked : w.asked = true := by decide +kernel
  have idle : w.awaiting = [] := by decide +kernel
  exact resolved (finished.mpr ⟨asked, by simp [idle, w]⟩)

/-- An object is renamed while it waits, and gets its state under the new name: nobody waits, but the
old name stays in the tracker, which is not finished. -/
theorem rename_leaves_name_pending :
    let w := run { session := withCounters }
      [.synchronize 3, .renamed "Counter" "new" "old", .initData "Counter" "new" []]
    w.asked = true ∧ w.awaiting = [] ∧ w.session.identity? 3 = some ("Counter", "new") ∧
      w.session.tracker.pending = [("Counter", "old")] ∧ w.session.tracker.finished = false := by
  decide +kernel

end InitRun

end Session
end Datastream
