import Datastream.Proofs.Listing.Course
import Datastream.Proofs.Queue.Outstanding

/-!
# Whose the waits in the queue are

A listing that enters has a wait of its own from then on, and gives it up or finds its result before it is
over or enters again. So every wait in the queue is that of a listing in progress, over every run
(`tended_run`).
-/
namespace Datastream
namespace Hearing

/-- Every wait in the queue is that of a listing in progress. -/
def Tended (w : Hearing) : Prop :=
  ∀ id ∈ w.session.listings.waits.ids, ∃ caller l, w.callers.find? caller = some l ∧ l.wait = some id

section Tended

variable {w w' : Hearing} {notes : List Note} {caller : Nat} {m : Move}

/-- The queue knows of no more waits than before, and who has one of them still has it. -/
theorem Tended.of_fewer (tended : Tended w)
    (fewer : ∀ id ∈ w'.session.listings.waits.ids, id ∈ w.session.listings.waits.ids)
    (keeps : ∀ caller l id, w.callers.find? caller = some l → l.wait = some id →
      id ∈ w'.session.listings.waits.ids → ∃ l', w'.callers.find? caller = some l' ∧ l'.wait = some id) :
    Tended w' := by
  intro id member
  obtain ⟨caller, l, calls, waits⟩ := tended id (fewer id member)
  obtain ⟨l', calls', waits'⟩ := keeps caller l id calls waits member
  exact ⟨caller, l', calls', waits'⟩

/-- The step of a call leaves the others their waits. -/
theorem Tended.of_mine (tended : Tended w) (mine : m.caller? = some caller)
    (fewer : ∀ id ∈ (w.step m).2.session.listings.waits.ids, id ∈ w.session.listings.waits.ids)
    (keeps : ∀ l id, w.callers.find? caller = some l → l.wait = some id →
      id ∈ (w.step m).2.session.listings.waits.ids →
        ∃ l', (w.step m).2.callers.find? caller = some l' ∧ l'.wait = some id) :
    Tended (w.step m).2 := by
  refine tended.of_fewer fewer fun caller' l id calls waits member => ?_
  by_cases same : caller' = caller
  · subst same
    exact keeps l id calls waits member
  · have other : m.caller? ≠ some caller' := fun made => same (Option.some.inj (made.symm.trans mine))
    exact ⟨l, (find?_step_of_other other).trans calls, waits⟩

/-- The queue makes a move by which nobody enters. -/
theorem fewer_move {q : KeyedQueue NetworkId ListingReply} (sound : q.Sound)
    {m : KeyedQueue.Move NetworkId ListingReply} (nobody : ∀ keys, m ≠ .enter keys) :
    ∀ id ∈ (q.move m).2.waits.ids, id ∈ q.waits.ids := by
  intro id member
  rcases sound.mem_ids_move member with known | ⟨keys, enters⟩
  · exact known
  · cases m with
    | enter keys' => exact absurd rfl (nobody keys')
    | _ => cases enters

/-- A report says one thing, which is served to the waits in the queue, or nothing. -/
theorem step_report (w : Hearing) (slot : String) (params : List Value) :
    w.step (.report slot params) = ([], w) ∨
      ∃ effect k, ListHelper.Says slot params effect ∧
        ((∃ network reply, k = .resume network reply) ∨ ∃ reply, k = .resumeAll reply) ∧
        w.step (.report slot params) = ([.told effect],
          { w with session := { w.session with listings := (w.session.listings.move k).2 } }) := by
  cases reported : ListHelper.reports slot params with
  | nil =>
    simp only [step, reported]
    exact .inl rfl
  | cons effect effects =>
    have said := ListHelper.said_of_mem (reported ▸ List.mem_cons_self ..)
    have lone := ListHelper.reports_of_said said
    refine .inr ⟨effect, ?_⟩
    simp only [step, lone, Session.performAll_singleton]
    cases said with
    | finished network rest =>
      exact ⟨.resume network .finished, .finished network rest, .inl ⟨_, _, rfl⟩, rfl⟩
    | channels network filters found texts rows repeated listed rest =>
      exact ⟨.resume network (.channels rows),
        .channels network filters found texts rows repeated listed rest, .inl ⟨_, _, rfl⟩, rfl⟩
    | failed text rest =>
      exact ⟨.resumeAll (.failed (text.getD "Unknown Error")), .failed text rest, .inr ⟨_, rfl⟩, rfl⟩

/-- A call gives its wait up, or has found its result. -/
theorem Tended.of_leave (kept : Kept w notes) (tended : Tended w) (mine : m.caller? = some caller)
    {l : Lister} {id : Nat} (calls : w.callers.find? caller = some l) (waits : l.wait = some id)
    {k : KeyedQueue.Move NetworkId ListingReply}
    (goes : KeyedQueue.leaves id (k, (w.session.listings.move k).1) = true)
    (moved : (w.step m).2.session.listings = (w.session.listings.move k).2) : Tended (w.step m).2 := by
  have nobody : ∀ keys, k ≠ .enter keys := by
    rintro keys rfl
    cases goes
  refine tended.of_mine mine (moved ▸ fewer_move kept.sound nobody) fun l' id' calls' waits' member => ?_
  obtain rfl := Option.some.inj (calls.symm.trans calls')
  obtain rfl := Option.some.inj (waits.symm.trans waits')
  rw [moved] at member
  exact absurd member (kept.sound.notMem_ids_move goes)

/-- A call does nothing to the queue, and has its wait as before. -/
theorem Tended.of_stay (tended : Tended w) (mine : m.caller? = some caller)
    (same : (w.step m).2.session.listings = w.session.listings)
    (keeps : ∀ l id, w.callers.find? caller = some l → l.wait = some id →
      ∃ l', (w.step m).2.callers.find? caller = some l' ∧ l'.wait = some id) :
    Tended (w.step m).2 :=
  tended.of_mine mine (fun _ member => same ▸ member) fun l id calls waits _ => keeps l id calls waits

/-- A call enters a wait, which is then its own. -/
theorem Tended.register (kept : Kept w notes) (tended : Tended w) {network : NetworkId}
    {round : ListingRound} {request : Option (List String)}
    (calls : w.callers.find? caller = some ⟨network, round, request, none⟩)
    (isOpen : w.session.listings.closed = false) :
    Tended (w.register caller ⟨network, round, request, none⟩) := by
  intro id member
  have entered : w.session.listings.move (.enter [network]) =
      (.entered w.session.listings.nextId, (w.session.listings.register [network]).2) := by
    simp [KeyedQueue.move, isOpen, KeyedQueue.register]
  have known := kept.sound.mem_ids_move (m := .enter [network]) (by rw [entered]; exact member)
  rw [entered] at known
  rcases known with old | ⟨keys, new⟩
  · obtain ⟨other, l, calls', waits⟩ := tended id old
    have differs : caller ≠ other := by
      rintro rfl
      rw [calls] at calls'
      cases calls'
      cases waits
    exact ⟨other, l, by simp [Hearing.register, Table.find?_put, differs, calls'], waits⟩
  · obtain ⟨rfl, -⟩ := Prod.mk.inj (Option.some.inj new)
    exact ⟨caller, _, find?_register .., rfl⟩

theorem Tended.send (kept : Kept w notes) (tended : Tended w) {network : NetworkId} {round : ListingRound}
    {filters : List String} {id : Nat}
    (calls : w.callers.find? caller = some ⟨network, round, some filters, some id⟩) :
    Tended (w.step (.send caller)).2 := by
  have same := (BlindToListings.request network filters).listings w.session
  cases asked : Listing.request network filters w.session with
  | ok _ session =>
    rw [asked] at same
    refine tended.of_stay rfl ?_ fun l id' calls' waits => ?_
    · simp only [Hearing.step, calls, asked]
      exact same
    · obtain rfl := Option.some.inj (calls.symm.trans calls')
      exact ⟨⟨network, round, none, some id⟩,
        by simp only [Hearing.step, calls, asked, Table.find?_put, if_true], waits⟩
  | error error session =>
    rw [asked] at same
    refine tended.of_leave kept rfl calls rfl (k := .withdraw id) (decide_eq_true rfl) ?_
    simp only [Hearing.step, calls, asked, goOn, KeyedQueue.move]
    exact congrArg (·.withdraw id) same

theorem Tended.look (kept : Kept w notes) (tended : Tended w) {network : NetworkId} {round : ListingRound}
    {id : Nat} (calls : w.callers.find? caller = some ⟨network, round, none, some id⟩) :
    Tended (w.step (.look caller)).2 := by
  cases collected : w.session.listings.collect id with
  | none =>
    have stays : w.step (.look caller) = ([], w) := by simp only [Hearing.step, calls, collected]
    rwa [stays]
  | some found =>
    obtain ⟨result, listings⟩ := found
    have moved : w.session.listings.move (.collect id) = (.found (some result), listings) := by
      simp [KeyedQueue.move, collected]
    refine tended.of_leave kept rfl calls rfl (k := .collect id) ?_ ?_
    · rw [moved]
      exact decide_eq_true rfl
    · rw [moved]
      simp only [Hearing.step, calls, collected]
      cases result with
      | error error => rfl
      | ok reply => exact congrArg (·.listings) (session_goOn _ _ _)

theorem Tended.step (kept : Kept w notes) (tended : Tended w) (m : Move) : Tended (w.step m).2 := by
  cases m with
  | call caller network filters =>
    refine tended.of_stay rfl ?_ fun l id calls waits => ?_
    · simp only [Hearing.step]
      split <;> rfl
    · exact ⟨l, by simp only [Hearing.step, calls], waits⟩
  | enter caller =>
    rcases enter_or_idle w caller with ⟨network, round, request, calls⟩ | idle
    · cases closed : w.session.listings.closed with
      | true =>
        refine tended.of_stay rfl ?_ fun l id calls' waits => ?_
        · rw [step_enter calls, closed]
          rfl
        · obtain rfl := Option.some.inj (calls.symm.trans calls')
          cases waits
      | false =>
        rw [step_enter calls, closed]
        exact tended.register kept calls closed
    · rwa [idle]
  | send caller =>
    rcases send_or_idle w caller with ⟨network, round, filters, id, calls⟩ | idle
    · exact tended.send kept calls
    · rwa [idle]
  | look caller =>
    rcases look_or_idle w caller with ⟨network, round, id, calls⟩ | idle
    · exact tended.look kept calls
    · rwa [idle]
  | giveUp caller =>
    cases calls : w.callers.find? caller with
    | none =>
      refine tended.of_stay rfl ?_ fun l id calls' => ?_
      · simp only [Hearing.step, calls]
      · rw [calls] at calls'
        cases calls'
    | some l =>
      obtain ⟨network, round, request, wait⟩ := l
      cases wait with
      | none =>
        refine tended.of_stay rfl ?_ fun l id calls' waits => ?_
        · simp only [Hearing.step, calls]
        · obtain rfl := Option.some.inj (calls.symm.trans calls')
          cases waits
      | some id =>
        refine tended.of_leave kept rfl calls rfl (k := .withdraw id) (decide_eq_true rfl) ?_
        simp only [Hearing.step, calls]
        rfl
  | report slot params =>
    rcases w.step_report slot params with nothing | ⟨effect, k, -, serves, moved⟩
    · rwa [nothing]
    · rw [moved]
      have nobody : ∀ keys, k ≠ .enter keys := by
        rcases serves with ⟨network, reply, rfl⟩ | ⟨reply, rfl⟩ <;> simp
      exact tended.of_fewer (fewer_move kept.sound nobody) fun _ l _ calls waits _ => ⟨l, calls, waits⟩
  | close =>
    exact tended.of_fewer (fewer_move kept.sound (m := .close) (by simp)) fun _ l _ calls waits _ =>
      ⟨l, calls, waits⟩
  | aside other =>
    refine tended.of_fewer ?_ fun _ l _ calls waits _ => ⟨l, calls, waits⟩
    rw [show (w.step (.aside other)).2.session.listings = w.session.listings from other.same _]
    exact fun _ member => member

theorem tended_run {s : Session} (unused : s.listings = {}) (moves : List Move) :
    Tended (run { session := s } moves).2 := by
  induction moves using List.reverseRecOn with
  | nil =>
    intro id member
    rw [show (run { session := s } []).2.session.listings = {} from unused] at member
    cases member
  | append_singleton moves m ih =>
    rw [run, noted_concat]
    exact Tended.step (kept_run unused moves) ih m

end Tended

end Hearing
end Datastream
