import Datastream.Proofs.Handshake.Requests
import Datastream.Proofs.Handshake.Switching

/-!
# Replies and the requests that they end

Any number of calls start the handshake, set the core up or log in, in any order, while frames are read,
time passes, calls are given up and the connection is closed (`Switching.run`). At any time every call has
a wait of its own under the kinds of message that answer it (`Matched`). So a message that is read ends all
calls that wait for its kind and no others, no call is given a message of another kind, and the error for a
message that is no reply is never the result of a call (`replies_reach_their_requests`).

The calls are `init`, `configure_core` and `login`, which wait by `request`.
-/
namespace Datastream

open KeyedQueue (Serves)

namespace Switching

def wait? (w : Switching) (caller : Nat) : Option (Nat × List String) :=
  (w.calls.find? caller).bind (·.task.wait?)

variable {notes : List Note} {w : Switching} {caller : Nat} {call : Call}
  {suits : Nat → List String → Option (Except Error HandshakeMessage) → Prop}

theorem wait?_of_find? (listed : w.calls.find? caller = some call) :
    w.wait? caller = call.task.wait? := by
  rw [wait?, listed, Option.bind_some]

def Made (notes : List Note) (w : Switching) : Prop :=
  ∀ {caller call}, w.calls.find? caller = some call →
    ∃ request, .called caller request ∈ notes ∧ call.task.ComesOf request

theorem Made.step (made : Made notes w) (m : Move) : Made (notes ++ (w.step m).1) (w.step m).2 := by
  have old {more : List Note} {caller : Nat} {call : Call} (listed : w.calls.find? caller = some call) :
      ∃ request, .called caller request ∈ notes ++ more ∧ call.task.ComesOf request :=
    have ⟨request, called, comes⟩ := made listed
    ⟨request, List.mem_append_left _ called, comes⟩
  have erased {more : List Note} {caller other : Nat} {call : Call}
      (listed : (w.calls.erase caller).find? other = some call) :
      ∃ request, .called other request ∈ notes ++ more ∧ call.task.ComesOf request := by
    rw [Table.find?_erase] at listed
    split at listed
    · cases listed
    · exact old listed
  intro other call' listed'
  cases m with
  | read | advance | close | aside => exact old listed'
  | call request timed =>
    simp only [Switching.step, Table.find?_put] at listed'
    split at listed'
    · next same =>
      cases listed'
      exact ⟨request, by simp [Switching.step, same], Task.comesOf_task request⟩
    · exact old listed'
  | giveUp caller =>
    rcases step_giveUp_cases w caller with nothing | ⟨call, -, ran⟩
    · rw [nothing] at listed'
      exact old listed'
    · rw [ran] at listed'
      exact erased listed'
  | turn caller =>
    rcases step_turn_cases w caller with nothing | ⟨call, result, session, -, -, ran⟩ |
      ⟨call, left, session, listed, turned, ran⟩
    · rw [nothing] at listed'
      exact old listed'
    · rw [ran] at listed'
      exact erased listed'
    · rw [ran, Table.find?_put] at listed'
      split at listed'
      · next same =>
        cases listed'
        obtain ⟨request, called, comes⟩ := made listed
        have still := Call.turn_of_waiting (congrArg Prod.fst turned)
        exact ⟨request, List.mem_append_left _ (same ▸ called), comes.waiting still⟩
      · exact old listed'

theorem serves_turn (made : Made notes w) (kept : Kept notes w)
    (serves : Serves suits w.session.handshake.replies w.wait?) (caller : Nat)
    (unanswered : ∀ kinds, suits caller kinds none) :
    Serves suits (w.step (.turn caller)).2.session.handshake.replies (w.step (.turn caller)).2.wait? := by
  have after {call : Call} {outcome : Turn Call (Except Error Answer)} {session : Session}
      {wait?' : Nat → Option (Nat × List String)} (listed : w.calls.find? caller = some call)
      (turned : call.turn w.now w.session = (outcome, session))
      (others : ∀ other, other ≠ caller → wait?' other = w.wait? other)
      (left : wait?' caller = Call.keptWait? outcome) : Serves suits session.handshake.replies wait?' := by
    obtain ⟨request, -, comes⟩ := made listed
    have served := Call.serves_turn comes (kept.sound listed) serves (wait?_of_find? listed) others
      (by rw [turned]; exact left) (unanswered _)
    rwa [turned] at served
  rcases step_turn_cases w caller with nothing | ⟨call, result, session, listed, turned, ran⟩ |
    ⟨call, left, session, listed, turned, ran⟩
  · rw [nothing]
    exact serves
  · rw [ran]
    apply after listed turned
    · intro other differs
      rw [wait?, wait?, Table.find?_erase, if_neg differs.symm]
    · rw [wait?, Table.find?_erase, if_pos rfl]
      rfl
  · rw [ran]
    apply after listed turned
    · intro other differs
      rw [wait?, wait?, Table.find?_put, if_neg differs.symm]
    · rw [wait?, Table.find?_put, if_pos rfl]
      rfl

/-- Every step keeps all calls served. -/
theorem serves_step (lasting : Task.Lasting suits) (made : Made notes w) (kept : Kept notes w)
    (serves : Serves suits w.session.handshake.replies w.wait?) (m : Move)
    (unanswered : ∀ caller, m = .turn caller → ∀ kinds, suits caller kinds none) :
    Serves suits (w.step m).2.session.handshake.replies (w.step m).2.wait? := by
  cases m with
  | read payload =>
    simp only [step]
    rcases heard?_cases w.session payload with ⟨fields, m, -, -, ran⟩ | ⟨-, ran⟩
    · rw [ran]
      exact Task.serves_receive lasting serves m
    · rw [ran]
      exact serves
  | call request timed =>
    refine serves.without (i := w.made) (fun other differs => ?_) ?_
    · simp only [wait?, step, Table.find?_put, if_neg differs.symm]
    · simp only [wait?, step, Table.find?_put, if_true, Option.bind_some]
      cases request <;> rfl
  | turn caller => exact serves_turn made kept serves caller (unanswered caller rfl)
  | giveUp caller =>
    rcases step_giveUp_cases w caller with nothing | ⟨call, listed, ran⟩
    · rw [nothing]
      exact serves
    · rw [ran]
      apply Task.serves_cancel serves (wait?_of_find? listed)
      · intro other differs
        rw [wait?, wait?, Table.find?_erase, if_neg differs.symm]
      · rw [wait?, Table.find?_erase, if_pos rfl]
        rfl
  | advance millis => exact serves
  | close =>
    apply serves.move .close
    · exact fun waits => lasting (serves.suited waits) rfl
    · simp
  | aside other =>
    obtain ⟨-, replies⟩ := Prod.mk.inj (other.same w.session)
    simp only [step]
    rw [replies]
    exact serves

/-- Every call comes of its request and has a wait of its own, and what there is for it is a reply to its
request. None has returned that its reply was unexpected. -/
structure Matched (notes : List Note) (w : Switching) : Prop where
  kept : Kept notes w
  made : Made notes w
  serves : Serves Task.Due w.session.handshake.replies w.wait?
  expected : ∀ {caller result features}, .returned caller result features ∈ notes →
    ∃ request, .called caller request ∈ notes ∧
      (request.awaited ≠ [] → ∀ kind, result ≠ .error (.unexpectedMessage kind))

theorem matched_start (clock : Reading) (limit : Nat) : Matched [] (start clock limit) where
  kept := kept_start clock limit
  made listed := nomatch listed
  serves := KeyedQueue.serves_empty fun _ => rfl
  expected member := nomatch member

/-- What is noted of the result of a call in a step. -/
theorem returned_of_step {m : Move} {result : Except Error Answer} {features : FeatureSet}
    (member : .returned caller result features ∈ (w.step m).1) :
    ∃ call, w.calls.find? caller = some call ∧ (call.turn w.now w.session).1 = .done result := by
  cases m with
  | read payload =>
    simp only [step, Option.mem_toList] at member
    rcases heard?_cases w.session payload with ⟨fields, m, heard, -⟩ | ⟨nothing, -⟩
    · rw [heard] at member
      cases member
    · rw [nothing] at member
      cases member
  | call | advance | close | aside => simp [step] at member
  | giveUp caller' =>
    rcases step_giveUp_cases w caller' with nothing | ⟨call, -, ran⟩
    · simp [nothing] at member
    · simp [ran] at member
  | turn caller' =>
    rcases step_turn_cases w caller' with nothing | ⟨call, result', session, listed, turned, ran⟩ |
      ⟨call, left, session, -, -, ran⟩
    · simp [nothing] at member
    · rw [ran] at member
      rcases List.mem_append.mp member with taken | returned
      · unfold took at taken
        split at taken <;> simp at taken
      · simp only [List.mem_singleton, Note.returned.injEq] at returned
        obtain ⟨rfl, rfl, -⟩ := returned
        exact ⟨call, listed, congrArg Prod.fst turned⟩
    · simp [ran] at member

theorem Matched.step (matched : Matched notes w) (m : Move) :
    Matched (notes ++ (w.step m).1) (w.step m).2 where
  kept := matched.kept.step m
  made := Made.step matched.made m
  serves := serves_step Task.lasting_due matched.made matched.kept matched.serves m
    fun _ _ _ _ told => nomatch told
  expected member := by
    rcases List.mem_append.mp member with old | new
    · obtain ⟨request, called, expected⟩ := matched.expected old
      exact ⟨request, List.mem_append_left _ called, expected⟩
    · obtain ⟨call, listed, done⟩ := returned_of_step new
      obtain ⟨request, called, comes⟩ := matched.made listed
      exact ⟨request, List.mem_append_left _ called, fun asks =>
        Call.expected comes matched.serves (wait?_of_find? listed) asks done⟩

theorem matched_run (clock : Reading) (limit : Nat) (moves : List Move) :
    Matched ((start clock limit).run moves).1 ((start clock limit).run moves).2 := by
  induction moves using List.reverseRecOn with
  | nil => exact matched_start clock limit
  | append_singleton moves m ih =>
    rw [run_concat]
    exact ih.step m

theorem find?_step_of_other (matched : Matched notes w) (listed : w.calls.find? caller = some call)
    {m : Move} (still : m ≠ .turn caller) (stays : m ≠ .giveUp caller) :
    (w.step m).2.calls.find? caller = some call := by
  cases m with
  | read | advance | close | aside => exact listed
  | call request timed =>
    obtain ⟨request', called, -⟩ := matched.made listed
    have differs : w.made ≠ caller := Nat.ne_of_gt (matched.kept.numbered called)
    rw [step, Table.find?_put, if_neg differs]
    exact listed
  | giveUp other =>
    have differs : other ≠ caller := fun same => stays (same ▸ rfl)
    rcases step_giveUp_cases w other with nothing | ⟨call', -, ran⟩
    · simpa [nothing] using listed
    · simpa [ran, Table.find?_erase, differs] using listed
  | turn other =>
    have differs : other ≠ caller := fun same => still (same ▸ rfl)
    rcases step_turn_cases w other with nothing | ⟨call', result, session, -, -, ran⟩ |
      ⟨call', left, session, -, -, ran⟩
    · simpa [nothing] using listed
    · simpa [ran, Table.find?_erase, differs] using listed
    · simpa [ran, Table.find?_put, differs] using listed

/-- While a call takes no turn and is not given up, a reply that is there for it stays there. -/
theorem received?_step_of_other (matched : Matched notes w)
    (listed : w.calls.find? caller = some call) {reply : HandshakeMessage}
    (received : call.task.received? w.session = some (.ok reply)) {m : Move}
    (still : m ≠ .turn caller) (stays : m ≠ .giveUp caller) :
    call.task.received? (w.step m).2.session = some (.ok reply) := by
  obtain ⟨request, -, comes⟩ := matched.made listed
  have here := wait?_of_find? listed
  obtain ⟨await, exchange, -⟩ := Task.received?_eq_some_iff.mp received
  cases await with
  | fresh kinds send =>
    obtain ⟨m', told⟩ := comes.received?_fresh exchange
    rw [told w.session matched.serves.sound] at received
    split at received
    · cases received
    · obtain ⟨error, -, same⟩ := Option.map_eq_some_iff.mp received
      cases same
  | waiting id =>
    rw [Task.wait?, exchange] at here
    rw [Task.received?_waiting exchange] at received ⊢
    -- That the reply is there is one of the things that last.
    let has : Nat → List String → Option (Except Error HandshakeMessage) → Prop :=
      fun caller' _ found => caller' = caller → found = some (.ok reply)
    have lasting : Task.Lasting has := by
      intro caller' kinds found result there _ same
      rw [there same, Option.some_or]
    have serves : Serves has w.session.handshake.replies w.wait? := by
      refine ⟨matched.serves.sound, matched.serves.own, matched.serves.stands, ?_⟩
      intro caller' id' kinds waits same
      rw [same, here] at waits
      cases waits
      exact received
    have after := serves_step lasting matched.made matched.kept serves m
      fun caller' same _ other => absurd (other ▸ same) still
    have there := wait?_of_find? (find?_step_of_other matched listed still stays)
    rw [Task.wait?, exchange] at there
    exact after.suited there rfl

theorem run_cons (w : Switching) (m : Move) (moves : List Move) :
    w.run (m :: moves) =
      ((w.step m).1 ++ ((w.step m).2.run moves).1, ((w.step m).2.run moves).2) := rfl

theorem reply_stays (matched : Matched notes w) (listed : w.calls.find? caller = some call)
    {reply : HandshakeMessage} (received : call.task.received? w.session = some (.ok reply))
    {moves : List Move} (still : .turn caller ∉ moves) (stays : .giveUp caller ∉ moves) :
    (w.run moves).2.calls.find? caller = some call ∧
      call.task.received? (w.run moves).2.session = some (.ok reply) := by
  induction moves generalizing w notes with
  | nil => exact ⟨listed, received⟩
  | cons m moves ih =>
    simp only [List.mem_cons, not_or] at still stays
    rw [run_cons]
    apply ih (matched.step m)
    · exact find?_step_of_other matched listed (Ne.symm still.1) (Ne.symm stays.1)
    · exact received?_step_of_other matched listed received (Ne.symm still.1) (Ne.symm stays.1)
    · exact still.2
    · exact stays.2

/-- Calls have numbers of their own. -/
theorem called_once (backed : AllBacked notes) {request request' : Request}
    (one : .called caller request ∈ notes) (two : .called caller request' ∈ notes) :
    request = request' := by
  obtain ⟨before, after, rfl⟩ := List.append_of_mem one
  have first : ∀ r, .called caller r ∉ before := backed before _ after rfl
  rcases List.mem_append.mp two with early | late
  · exact absurd early (first request')
  · rcases List.mem_cons.mp late with same | later
    · cases same
      rfl
    · obtain ⟨between, rest, rfl⟩ := List.append_of_mem later
      have second : ∀ r, .called caller r ∉ before ++ .called caller request :: between :=
        backed _ (.called caller request') rest (by simp)
      exact absurd (by simp) (second request)

/-- The next turn of a call ends it with this reply. -/
def EndsWith (w : Switching) (caller : Nat) (reply : HandshakeMessage) : Prop :=
  ∃ call result, w.calls.find? caller = some call ∧
    call.task.received? w.session = some (.ok reply) ∧
    (call.turn w.now w.session).1 = .done result

/-- However calls and messages follow one another, no call of the handshake returns that its reply was
unexpected, and what a call is given is of one of the two kinds for which it has registered. A message that
is read ends every call that waits for its kind, at its next turn and whatever comes in between; for all
other calls it changes nothing. -/
theorem replies_reach_their_requests (clock : Reading) (limit : Nat) (moves : List Move) :
    let notes := ((start clock limit).run moves).1
    let w := ((start clock limit).run moves).2
    (∀ caller request result features, .called caller request ∈ notes → request.awaited ≠ [] →
      .returned caller result features ∈ notes → ∀ kind, result ≠ .error (.unexpectedMessage kind)) ∧
    (∀ request other : Request, ∀ kind ∈ request.awaited, kind ∈ other.awaited →
      request.awaited = other.awaited) ∧
    ∀ caller call request, w.calls.find? caller = some call → .called caller request ∈ notes →
      (∀ m, call.task.received? w.session = some (.ok m) → m.kind ∈ request.awaited) ∧
      ∀ payload fields m, heard? w.session payload = some (.heard fields m) →
        let read := (w.step (.read payload)).2
        (call.task.Outstanding w.session → m.kind ∈ request.awaited →
          ∀ later, .turn caller ∉ later → .giveUp caller ∉ later →
            EndsWith (read.run later).2 caller m) ∧
        (¬(call.task.Outstanding w.session ∧ m.kind ∈ request.awaited) →
          call.task.received? read.session = call.task.received? w.session) := by
  intro notes w
  have matched : Matched notes w := matched_run clock limit moves
  have once := @called_once notes
  refine ⟨?_, fun request other kind => Request.awaited_eq_of_shared, ?_⟩
  · intro caller request result features called asks returned
    obtain ⟨request', called', expected⟩ := matched.expected returned
    exact expected (once matched.kept.backed called' called ▸ asks)
  · intro caller call request listed called
    obtain ⟨request', called', comes⟩ := matched.made listed
    obtain rfl := once matched.kept.backed called called'
    have here := wait?_of_find? listed
    rw [← comes.kinds]
    refine ⟨fun m received => ?_, fun payload fields m heard => ?_⟩
    · rcases comes.received matched.serves here received with own | ⟨_, same, -⟩
      · exact own
      · cases same
    · have ran : (w.step (.read payload)).2 =
          { w with session := { w.session with handshake := (w.session.handshake.receive m).2 } } := by
        rcases heard?_cases w.session payload with ⟨_, m', heard', -, ran⟩ | ⟨nothing, -⟩
        · rw [heard] at heard'
          cases heard'
          simp only [step, ran]
        · rw [heard] at nothing
          cases nothing
      obtain ⟨goes, others⟩ := comes.received_receive matched.serves here m
      have after := matched.step (.read payload)
      rw [ran] at after ⊢
      refine ⟨fun waits own later still stays => ?_, others⟩
      obtain ⟨listed', received⟩ := reply_stays after listed (goes waits own) still stays
      obtain ⟨result, ended⟩ := Call.turn_of_received _ received
      exact ⟨call, result, listed', received, ended⟩

/-- Two calls that log in and one that starts the handshake, all of which have sent their requests. -/
def threeWaiting : List Move :=
  [.call (.logIn "a" "b") true, .call (.init "" "" .none) true, .call (.logIn "c" "d") false,
    .turn 0, .turn 1, .turn 2]

/-- An acknowledged login ends both calls that log in, though the connection is closed in between, and not
the one that starts the handshake. -/
theorem both_logins_end :
    let w := ((start .epoch 10).run threeWaiting).2
    let frame := (HandshakeMessage.clientLoginAck.encode .standard .none).toOption.getD []
    let read := (w.step (.read frame)).2
    EndsWith (read.run [.close]).2 0 .clientLoginAck ∧ EndsWith (read.run [.close]).2 2 .clientLoginAck ∧
      ∃ call, w.calls.find? 1 = some call ∧ call.task.received? read.session = none := by
  intro w frame read
  obtain ⟨-, -, calls⟩ := replies_reach_their_requests .epoch 10 threeWaiting
  have heard : heard? w.session frame =
      some (.heard HandshakeMessage.clientLoginAck.toFields .clientLoginAck) := by
    with_unfolding_all rfl
  have first : w.calls.find? 0 = some ⟨.login (.waiting 0), some 10⟩ := by with_unfolding_all rfl
  have second : w.calls.find? 1 = some ⟨.init .none (.waiting 1), some 10⟩ := by with_unfolding_all rfl
  have third : w.calls.find? 2 = some ⟨.login (.waiting 2), none⟩ := by with_unfolding_all rfl
  have awaits (id : Nat) : w.session.handshake.replies.delivered.find? id = none := by
    have nothing : w.session.handshake.replies.delivered = [] := by with_unfolding_all rfl
    rw [nothing]
    rfl
  refine ⟨?_, ?_, _, second, ?_⟩
  · obtain ⟨-, reads⟩ := calls 0 _ (.logIn "a" "b") first (by with_unfolding_all exact .head _)
    obtain ⟨ends, -⟩ := reads frame _ _ heard
    exact ends ⟨⟨0, rfl⟩, (Task.received?_waiting rfl _).trans (awaits 0)⟩ (by decide) [.close]
      (by simp) (by simp)
  · obtain ⟨-, reads⟩ := calls 2 _ (.logIn "c" "d") third
      (by with_unfolding_all exact .tail _ (.tail _ (.head _)))
    obtain ⟨ends, -⟩ := reads frame _ _ heard
    exact ends ⟨⟨2, rfl⟩, (Task.received?_waiting rfl _).trans (awaits 2)⟩ (by decide) [.close]
      (by simp) (by simp)
  · obtain ⟨-, reads⟩ := calls 1 _ (.init "" "" .none) second
      (by with_unfolding_all exact .tail _ (.head _))
    obtain ⟨-, others⟩ := reads frame _ _ heard
    rw [others (fun both => absurd both.2 (by decide))]
    exact (Task.received?_waiting rfl _).trans (awaits 1)

end Switching
end Datastream
