import Datastream.Proofs.Listing.Waiting

/-!
# What listings hear

A listing hears the first that is told about its network since it last entered, and nothing else
(`first_told_is_heard`). So what is told between two of its waits is lost to it
(`finished_lost_between_waits`). A listing between whose moves nobody comes takes a turn of the
program's listing (`look_enter_send`).
-/
namespace Datastream
namespace Hearing

def hearing (caller : Nat) (l : Lister) : Option (Except Error ListingReply) → List Note
  | none => []
  | some (.error error) => [.returned caller (.error error)]
  | some (.ok reply) => .heard caller reply ::
    match l.heed reply with
    | .done result => [.returned caller result]
    | .waiting _ => []

variable {w : Hearing} {caller : Nat} {network : NetworkId} {round : ListingRound} {id : Nat}

theorem look_notes (calls : w.callers.find? caller = some ⟨network, round, none, some id⟩) :
    (w.step (.look caller)).1 =
      hearing caller ⟨network, round, none, some id⟩ (w.session.listings.delivered.find? id) := by
  simp only [step, calls, KeyedQueue.collect]
  cases w.session.listings.delivered.find? id with
  | none => rfl
  | some result =>
    cases result with
    | error error => rfl
    | ok reply =>
      simp only [Option.map_some, hearing]
      cases Lister.heed ⟨network, round, none, some id⟩ reply <;> rfl

/-- A listing that looks finds what there is to hear. -/
theorem Kept.look_notes {notes : List Note} (kept : Kept w notes)
    (calls : w.callers.find? caller = some ⟨network, round, none, some id⟩) :
    (w.step (.look caller)).1 =
      hearing caller ⟨network, round, none, some id⟩ (toHear caller network notes) := by
  have found : w.session.listings.delivered.find? id = toHear caller network notes :=
    Waits.find?_of_stands kept.sound.proper (kept.stands calls rfl)
  rw [Hearing.look_notes calls, found]

def Agrees (caller : Nat) (after : List Note × Hearing) (turned : Listing.Outcome × Session) : Prop :=
  after.2.session = turned.2 ∧
    match turned.1 with
    | .done result =>
      .returned caller result ∈ after.1 ∧ after.2.callers.find? caller = none
    | .waiting listing =>
      ∃ network round id, listing = .waiting network round id ∧
        after.2.callers.find? caller = some ⟨network, round, none, some id⟩

def sending (network : NetworkId) : Option (List String) → Session.Action Unit
  | some filters => Listing.request network filters
  | none => pure ()

theorem await_of_closed {s : Session} (closed : s.listings.closed = true)
    (send : Session.Action Unit) :
    Listing.await network round send s = (.done (.error .connectionClosed), s) := by
  simp [Listing.await, KeyedQueue.wait, closed]

theorem await_of_open {s : Session} (isOpen : s.listings.closed = false)
    (send : Session.Action Unit) :
    Listing.await network round send s =
      match send { s with listings := (s.listings.register [network]).2 } with
      | .ok _ s' => (.waiting (.waiting network round s.listings.nextId), s')
      | .error error s' => (.done (.error error),
          { s' with listings := s'.listings.withdraw s.listings.nextId }) := by
  simp only [Listing.await, KeyedQueue.wait, isOpen, Bool.false_eq_true, if_false]
  cases send { s with listings := (s.listings.register [network]).2 } <;> rfl

theorem enter_send {request : Option (List String)}
    (calls : w.callers.find? caller = some ⟨network, round, request, none⟩) :
    Agrees caller (w.run [.enter caller, .send caller])
      (Listing.await network round (sending network request) w.session) := by
  simp only [run_cons, run_nil, List.append_nil]
  cases closed : w.session.listings.closed with
  | true =>
    rw [await_of_closed closed]
    simp [step, calls, closed, goOn, Table.find?_erase, Agrees]
  | false =>
    rw [await_of_open closed]
    have calls₁ := find?_register w caller ⟨network, round, request, none⟩
    rw [step_enter calls, closed, if_neg Bool.false_ne_true, show
      { w.session with listings := (w.session.listings.register [network]).2 } =
        (w.register caller ⟨network, round, request, none⟩).session from rfl]
    generalize w.register caller ⟨network, round, request, none⟩ = w₁ at calls₁
    dsimp only at calls₁ ⊢
    cases request with
    | none =>
      have idle : w₁.step (.send caller) = ([], w₁) := by simp only [step, calls₁]
      rw [idle]
      exact ⟨rfl, _, _, _, rfl, calls₁⟩
    | some filters =>
      simp only [step, calls₁, sending]
      cases Listing.request network filters w₁.session with
      | ok _ s => exact ⟨rfl, _, _, _, rfl, by rw [Table.find?_put, if_pos rfl]⟩
      | error error s => exact ⟨rfl, by simp [goOn], by simp [goOn, Table.find?_erase]⟩

theorem Agrees.after {notes more : List Note} {turned : Listing.Outcome × Session}
    (agrees : Agrees caller (notes, w) turned) : Agrees caller (more ++ notes, w) turned := by
  obtain ⟨session, outcome⟩ := agrees
  refine ⟨session, ?_⟩
  cases ended : turned.1 with
  | done result =>
    rw [ended] at outcome
    exact ⟨List.mem_append_right _ outcome.1, outcome.2⟩
  | waiting listing =>
    rw [ended] at outcome
    exact outcome

/-- A listing is over with a reply, or goes on with what it has yet to send. -/
theorem take_eq (network : NetworkId) (round : ListingRound) (wait : Option Nat) (reply : ListingReply)
    (s : Session) :
    Listing.take network round reply s =
      match Lister.heed ⟨network, round, none, wait⟩ reply with
      | .done result => (.done result, s)
      | .waiting l => Listing.await l.network l.round (sending l.network l.request) s := by
  cases round <;> cases reply <;> rfl

/-- A listing that looks, enters and sends without anybody coming in between takes its turn. -/
theorem look_enter_send (calls : w.callers.find? caller = some ⟨network, round, none, some id⟩) :
    Agrees caller (w.run [.look caller, .enter caller, .send caller])
      (Listing.turn (.waiting network round id) w.session) := by
  simp only [Listing.turn]
  cases collected : w.session.listings.collect id with
  | none =>
    have looks : w.step (.look caller) = ([], w) := by simp only [step, calls, collected]
    have enters : w.step (.enter caller) = ([], w) := by simp only [step, calls]
    have sends : w.step (.send caller) = ([], w) := by simp only [step, calls]
    simp only [run_cons, run_nil, looks, enters, sends]
    exact ⟨rfl, _, _, _, rfl, calls⟩
  | some found =>
    obtain ⟨result, listings⟩ := found
    cases result with
    | error error => simp [run_cons, run_nil, step, calls, collected, goOn, Table.find?_erase, Agrees]
    | ok reply =>
      simp only [take_eq network round (some id)]
      rw [run_cons]
      simp only [step, calls, collected]
      cases heeds : Lister.heed ⟨network, round, none, some id⟩ reply with
      | done result =>
        simp [goOn, run_cons, run_nil, step, Table.find?_erase, Agrees]
      | waiting l =>
        obtain ⟨network', round', request, wait⟩ := l
        obtain rfl : wait = none := heed_free heeds
        refine Agrees.after (enter_send ?_)
        simp [goOn, Table.find?_put]

/-- A listing that has something to send enters and sends it, or is over with an error. -/
theorem enter_send_notes {filters : List String}
    (calls : w.callers.find? caller = some ⟨network, round, some filters, none⟩) :
    (w.run [.enter caller, .send caller]).1 = [.entered caller, .sent caller filters] ∨
      ∃ error, .returned caller (.error error) ∈ (w.run [.enter caller, .send caller]).1 := by
  simp only [run_cons, run_nil, List.append_nil, step_enter calls]
  split
  · exact .inr ⟨.connectionClosed, by simp [goOn]⟩
  · simp only [step, find?_register]
    split
    · exact .inl rfl
    · next error s _ => exact .inr ⟨error, by simp [goOn]⟩

/-- A listing hears the first that is told about its network since it last entered, and nothing else.
Over every run on a session whose listings all belong to the run, whoever waits and whatever is told,
that is what it finds when it looks; and until it enters again, what comes later does not change it. If
it hears that its search has finished, it goes on to fetch, or ends with the error that kept it from
that. A listing that looks, enters and sends, with nobody in between, takes the turn of the program's
listing. -/
theorem first_told_is_heard {s : Session} (unused : s.listings = {}) (moves : List Move) :
    let notes := (run { session := s } moves).1
    let w := (run { session := s } moves).2
    ∀ caller network round id, w.callers.find? caller = some ⟨network, round, none, some id⟩ →
      let told := toHear caller network notes
      (w.step (.look caller)).1 = hearing caller ⟨network, round, none, some id⟩ told ∧
      (∀ more, .entered caller ∉ (w.run more).1 →
        toHear caller network (notes ++ (w.run more).1) =
          told.or ((w.run more).1.findSome? (·.tells network))) ∧
      (round = .searching → told = some (.ok .finished) →
        let after := w.run [.look caller, .enter caller, .send caller]
        after.1 = [.heard caller .finished, .entered caller, .sent caller []] ∨
          ∃ error, .returned caller (.error error) ∈ after.1) ∧
      Agrees caller (w.run [.look caller, .enter caller, .send caller])
        (Listing.turn (.waiting network round id) w.session) := by
  intro notes w caller network round id calls told
  have kept : Kept w notes := kept_run unused moves
  have found : w.session.listings.delivered.find? id = told :=
    Waits.find?_of_stands kept.sound.proper (kept.stands calls rfl)
  refine ⟨kept.look_notes calls, fun more stays => toHear_append stays network notes, ?_,
    look_enter_send calls⟩
  rintro rfl finished after
  rw [finished] at found
  obtain ⟨listings, collected⟩ : ∃ listings,
      w.session.listings.collect id = some (.ok .finished, listings) := by
    rw [KeyedQueue.collect, found]
    exact ⟨_, rfl⟩
  obtain ⟨w₁, goes, fetches⟩ : ∃ w₁, w.step (.look caller) = ([.heard caller .finished], w₁) ∧
      w₁.callers.find? caller = some ⟨network, .fetching, some [], none⟩ := by
    refine ⟨⟨{ w.session with listings }, w.callers.put caller ⟨network, .fetching, some [], none⟩⟩,
      ?_, by rw [Table.find?_put, if_pos rfl]⟩
    simp only [step, calls, collected]
    rfl
  have rest : after.1 = .heard caller .finished :: (w₁.run [.enter caller, .send caller]).1 := by
    simp only [after, run_cons _ (.look caller), goes]
    rfl
  rw [rest]
  rcases enter_send_notes fetches with sent | ⟨error, returned⟩
  · exact .inl (congrArg _ sent)
  · exact .inr ⟨error, List.mem_cons_of_mem _ returned⟩

def withHelper : Session := endState (Session.synchronize Session.listHelper (.fresh .epoch))

/-- A listing that was told that its search has finished goes on to fetch. -/
theorem fetches_when_finished :
    let w := (run { session := withHelper } [.call 0 ⟨1⟩ ["#lean"], .enter 0, .send 0,
      .report ListingReply.finishedSlot [.networkId ⟨1⟩]]).2
    (w.step (.look 0)).1 = [.heard 0 .finished] ∧
      (w.run [.look 0, .enter 0, .send 0]).1 = [.heard 0 .finished, .entered 0, .sent 0 []] := by
  intro w
  obtain ⟨looks, -, fetches, -⟩ := first_told_is_heard (s := withHelper) rfl
    [.call 0 ⟨1⟩ ["#lean"], .enter 0, .send 0,
      .report ListingReply.finishedSlot [.networkId ⟨1⟩]] 0 ⟨1⟩ .searching 0 (by decide +kernel)
  refine ⟨looks, (fetches rfl rfl).resolve_right ?_⟩
  rintro ⟨error, returned⟩
  have none_over : ∀ note ∈ (w.run [.look 0, .enter 0, .send 0]).1,
      (note matches .returned ..) = false := by decide +kernel
  cases none_over _ returned

/-- One listing fetches while another searches. What the first fetched is told to both, and that the
search of the second has finished is told before the second has entered again: it is not heard. -/
theorem finished_lost_between_waits :
    let after := run { session := withHelper } [.call 0 ⟨1⟩ [], .enter 0, .send 0,
      .report ListingReply.finishedSlot [.networkId ⟨1⟩], .look 0, .enter 0, .send 0,
      .call 1 ⟨1⟩ [], .enter 1, .send 1,
      .report ListingReply.receiveSlot [.networkId ⟨1⟩, .list [], .list []],
      .report ListingReply.finishedSlot [.networkId ⟨1⟩], .look 1, .enter 1, .send 1, .look 1]
    (after.1.drop 6 matches [.entered 1, .sent 1 [], .told (.listing _ (.channels [])),
        .told (.listing _ .finished), .heard 1 (.channels []), .entered 1]) ∧
      after.2.callers.find? 1 = some ⟨⟨1⟩, .searching, none, some 3⟩ ∧
      (after.2.step (.look 1)).1.isEmpty = true := by
  decide +kernel

end Hearing
end Datastream
