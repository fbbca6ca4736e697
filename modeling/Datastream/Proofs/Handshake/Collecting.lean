import Datastream.Proofs.Action
import Datastream.Session.Call
import Mathlib.Data.List.Induction

/-!
# Calls for the description of the session

Any number of calls wait for the description with which the handshake ends. All of them see it come,
and then they race for it: a call that has seen something comes to collect it later, when another may
have taken it already. Here every order of reading, looking, collecting, giving up and closing is a run
(`Collecting.run`), and what is noted of a run tells what is left to collect (`uncollected`).

A description is handed to one call at most, and to the first that comes for it
(`descriptions_handed_out_once`).

A call is `session_init`, and looking and collecting are the two halves of `take_session`.
-/
namespace Datastream

/-- A session, and the calls for its description by their numbers. -/
structure Collecting where
  session : Session
  /-- The calls that are not over; whether each has seen that there is something to collect. -/
  callers : Table Nat Bool := []

namespace Collecting

inductive Move
  /-- The payload of a frame is read. -/
  | read (payload : Bytes)
  | call (caller : Nat)
  /-- A call that waits sees whether there is something. -/
  | look (caller : Nat)
  /-- A call that has seen something comes for it, and waits again if it is gone. -/
  | collect (caller : Nat)
  /-- A call is given up, as when its time has passed. -/
  | giveUp (caller : Nat)
  | close
  /-- The session does something that leaves its description alone. -/
  | aside (other : Aside fun s : Session => s.handshake.slot)

inductive Note
  /-- A description of the session was read. -/
  | described (state : SessionState)
  | returned (caller : Nat) (result : Except Error Answer)
  | closed

def described? (s : Session) (payload : Bytes) : Option SessionState :=
  match HandshakeMessage.decode s.link.registry s.link.features payload with
  | .ok (.sessionInit identities buffers networks) => some ⟨identities, buffers, networks⟩
  | _ => none

/-- Makes a move; a move of a call that is in no position to make it does nothing. -/
def step (w : Collecting) : Move → List Note × Collecting
  | .read payload =>
    (((described? w.session payload).map .described).toList,
      { w with session := endState (Session.readHandshake payload w.session) })
  | .call caller =>
    ([], { w with callers := match w.callers.find? caller with
      | none => w.callers.put caller false
      | some _ => w.callers })
  | .look caller =>
    ([], { w with callers := match w.callers.find? caller, w.session.handshake.slot with
      | some false, .ready _ | some false, .closed => w.callers.put caller true
      | _, _ => w.callers })
  | .collect caller =>
    match w.callers.find? caller with
    | some true =>
      match Task.turn .sessionState w.session with
      | (.done result, session) => ([.returned caller result], ⟨session, w.callers.erase caller⟩)
      | (.waiting _, session) => ([], ⟨session, w.callers.put caller false⟩)
    | _ => ([], w)
  | .giveUp caller => ([], { w with callers := w.callers.erase caller })
  | .close => ([.closed], { w with
      session := { w.session with handshake := w.session.handshake.close } })
  | .aside other => ([], { w with session := other.act w.session })

def run (w : Collecting) (moves : List Move) : List Note × Collecting := noted step w moves

theorem run_append (w : Collecting) (moves more : List Move) :
    w.run (moves ++ more) =
      ((w.run moves).1 ++ ((w.run moves).2.run more).1, ((w.run moves).2.run more).2) :=
  noted_append step w moves more

theorem run_concat (w : Collecting) (moves : List Move) (m : Move) :
    w.run (moves ++ [m]) =
      ((w.run moves).1 ++ ((w.run moves).2.step m).1, ((w.run moves).2.step m).2) :=
  noted_concat step w moves m

def turn (w : Collecting) (caller : Nat) : List Note × Collecting :=
  w.run [.look caller, .collect caller]

def start (clock : Reading) : Collecting := { session := .fresh clock }

def found? : SessionSlot → Option (Except Error Answer)
  | .pending => none
  | .ready state => some (.ok (.sessionState state))
  | .closed => some (.error .connectionClosed)

/-- What can happen to the place of the description, with what is noted of it. -/
inductive Changes : SessionSlot → List Note → SessionSlot → Prop
  | stay (slot : SessionSlot) : Changes slot [] slot
  | describe (slot : SessionSlot) (state : SessionState) :
      Changes slot [.described state] (.ready state)
  | handOut (caller : Nat) (state : SessionState) :
      Changes (.ready state) [.returned caller (.ok (.sessionState state))] .pending
  | refuse (caller : Nat) :
      Changes .closed [.returned caller (.error .connectionClosed)] .closed
  | shut : Changes .pending [.closed] .closed
  | keep {slot : SessionSlot} (taken : slot ≠ .pending) : Changes slot [.closed] slot

theorem readHandshake_changes (payload : Bytes) (s : Session) :
    Changes s.handshake.slot ((described? s payload).map Note.described).toList
      (endState (Session.readHandshake payload s)).handshake.slot := by
  unfold described? Session.readHandshake
  rw [bind_ok (show (get : Session.Action Session) s = .ok s s from rfl)]
  cases HandshakeMessage.decode s.link.registry s.link.features payload with
  | error error => exact .stay _
  | ok m =>
    cases m with
    | sessionInit identities buffers networks => exact .describe _ _
    | _ => exact .stay _

/-- The turn of the program's call is to collect what is there. -/
theorem turn_sessionState (s : Session) :
    (Task.turn .sessionState s).1 =
        (match found? s.handshake.slot with
        | some result => .done result
        | none => .waiting .sessionState) ∧
      (Task.turn .sessionState s).2.handshake.slot =
        match s.handshake.slot with
        | .ready _ => .pending
        | slot => slot := by
  cases slot : s.handshake.slot with
  | pending => simp [Task.turn, Task.collectState, Handshake.collect, slot, found?]
  | ready state =>
    simp only [Task.turn, Task.collectState, Handshake.collect, slot]
    exact ⟨rfl, rfl⟩
  | closed => simp [Task.turn, Task.collectState, Handshake.collect, slot, found?]

/-- A call that comes for the description. -/
theorem collect_eq {w : Collecting} {caller : Nat} (seen : w.callers.find? caller = some true) :
    (w.step (.collect caller)).1 =
        ((found? w.session.handshake.slot).map (Note.returned caller)).toList ∧
      (w.step (.collect caller)).2.callers.find? caller =
        (if (found? w.session.handshake.slot).isSome then none else some false) ∧
      (w.step (.collect caller)).2.session = (Task.turn .sessionState w.session).2 := by
  have ends := (turn_sessionState w.session).1
  simp only [step, seen]
  rcases turned : Task.turn .sessionState w.session with ⟨outcome, session⟩
  rw [turned] at ends
  cases found : found? w.session.handshake.slot with
  | none =>
    rw [found] at ends
    obtain rfl : outcome = .waiting .sessionState := ends
    exact ⟨rfl, by simp [Table.find?_put], rfl⟩
  | some result =>
    rw [found] at ends
    obtain rfl : outcome = .done result := ends
    exact ⟨rfl, by simp [Table.find?_erase], rfl⟩

theorem step_changes (w : Collecting) (m : Move) :
    Changes w.session.handshake.slot (w.step m).1 (w.step m).2.session.handshake.slot := by
  cases m with
  | read payload => exact readHandshake_changes payload w.session
  | call caller => exact .stay _
  | look caller => exact .stay _
  | collect caller =>
    cases seen : w.callers.find? caller with
    | none =>
      simp only [step, seen]
      exact .stay _
    | some woken =>
      cases woken with
      | false =>
        simp only [step, seen]
        exact .stay _
      | true =>
        obtain ⟨notes, -, session⟩ := collect_eq seen
        rw [notes, session, (turn_sessionState w.session).2]
        cases w.session.handshake.slot with
        | pending => exact .stay _
        | ready state => exact .handOut caller state
        | closed => exact .refuse caller
  | giveUp caller => exact .stay _
  | close =>
    simp only [step, Handshake.close]
    cases w.session.handshake.slot with
    | pending => exact .shut
    | ready state => exact .keep (by simp)
    | closed => exact .keep (by simp)
  | aside other =>
    simp only [step, show (other.act w.session).handshake.slot = _ from other.same w.session]
    exact .stay _

/-- A call's turn ends with what it finds, and nothing comes of it if there is nothing. -/
theorem turn_eq {w : Collecting} {caller : Nat} {woken : Bool}
    (calls : w.callers.find? caller = some woken) :
    (w.turn caller).1 = ((found? w.session.handshake.slot).map (Note.returned caller)).toList ∧
      (w.turn caller).2.callers.find? caller =
        if (found? w.session.handshake.slot).isSome then none else some false := by
  have session : (w.step (.look caller)).2.session = w.session := rfl
  simp only [turn, run, noted, List.append_nil]
  cases slot : w.session.handshake.slot with
  | pending =>
    have same : (w.step (.look caller)).2 = w := by
      simp only [step, slot]
      cases woken <;> simp [calls]
    rw [same]
    cases woken with
    | false => simp [step, calls, found?]
    | true =>
      obtain ⟨notes, callers, -⟩ := collect_eq calls
      rw [notes, callers, slot]
      exact ⟨rfl, rfl⟩
  | _ =>
    have seen : (w.step (.look caller)).2.callers.find? caller = some true := by
      cases woken <;> simp [step, slot, calls, Table.find?_put]
    obtain ⟨notes, callers, -⟩ := collect_eq seen
    rw [notes, callers, session, slot]
    exact ⟨rfl, rfl⟩

def Note.keeps : Note → Bool
  | .described _ | .returned _ (.ok _) => false
  | .returned _ (.error _) | .closed => true

/-- What is left to collect after one more note. -/
def Note.leaves (left : Option SessionState) : Note → Option SessionState
  | .described state => some state
  | .returned _ (.ok _) => none
  | .returned _ (.error _) | .closed => left

/-- The description that was read last, unless a call has returned with it. -/
def uncollected (notes : List Note) : Option SessionState := notes.foldl Note.leaves none

theorem uncollected_concat (notes : List Note) (note : Note) :
    uncollected (notes ++ [note]) = note.leaves (uncollected notes) := by
  simp [uncollected]

theorem getElem?_concat_eq_some {notes : List Note} {last note : Note} {k : Nat} :
    (notes ++ [last])[k]? = some note ↔ notes[k]? = some note ∨ k = notes.length ∧ last = note := by
  rcases Nat.lt_trichotomy k notes.length with before | rfl | after
  · rw [List.getElem?_append_left before]
    exact ⟨.inl, fun listed => listed.elim id fun last => by omega⟩
  · rw [List.getElem?_concat_length, List.getElem?_eq_none (Nat.le_refl _)]
    simp
  · rw [List.getElem?_eq_none (by simp; omega), List.getElem?_eq_none (by omega)]
    simp only [reduceCtorEq, false_or, false_iff]
    omega

/-- What is left is what the last note says that says anything about it. -/
theorem uncollected_eq_some_iff (notes : List Note) (state : SessionState) :
    uncollected notes = some state ↔
      ∃ j : Nat, notes[j]? = some (.described state) ∧
        ∀ k note, j < k → notes[k]? = some note → note.keeps = true := by
  induction notes using List.reverseRecOn with
  | nil => simp [uncollected]
  | append_singleton notes last ih =>
    rw [uncollected_concat]
    simp only [getElem?_concat_eq_some]
    cases keeps : last.keeps with
    | true =>
      have same : last.leaves (uncollected notes) = uncollected notes := by
        unfold Note.keeps at keeps
        split at keeps <;> first | rfl | cases keeps
      rw [same, ih]
      constructor
      · rintro ⟨j, listed, after⟩
        refine ⟨j, .inl listed, fun k note later listed' => listed'.elim (after k note later) ?_⟩
        rintro ⟨-, rfl⟩
        exact keeps
      · rintro ⟨j, listed | ⟨-, rfl⟩, after⟩
        · exact ⟨j, listed, fun k note later listed' => after k note later (.inl listed')⟩
        · cases keeps
    | false =>
      have only : last.leaves (uncollected notes) = some state ↔ last = .described state := by
        unfold Note.keeps at keeps
        split at keeps <;> simp_all [Note.leaves]
      rw [only]
      constructor
      · intro same
        refine ⟨notes.length, .inr ⟨rfl, same⟩, fun k note later listed => ?_⟩
        rcases listed with listed | ⟨rfl, -⟩
        · exact absurd (List.getElem?_eq_some_iff.mp listed).1 (Nat.lt_asymm later)
        · exact absurd later (Nat.lt_irrefl _)
      · rintro ⟨j, listed | ⟨-, same⟩, after⟩
        · have inside := (List.getElem?_eq_some_iff.mp listed).1
          rw [after _ last inside (.inr ⟨rfl, rfl⟩)] at keeps
          cases keeps
        · exact same

def kept? : SessionSlot → Option SessionState
  | .ready state => some state
  | _ => none

theorem found?_of_kept {slot : SessionSlot} {state : SessionState} (kept : kept? slot = some state) :
    found? slot = some (.ok (.sessionState state)) := by
  cases slot <;> simp_all [kept?, found?]

/-- A place that is not closed and holds no description holds nothing. -/
theorem found?_of_open {slot : SessionSlot} (isOpen : slot ≠ .closed) (kept : kept? slot = none) :
    found? slot = none := by
  cases slot <;> simp_all [kept?, found?]

theorem Changes.kept {slot slot' : SessionSlot} {notes : List Note}
    (changes : Changes slot notes slot') :
    kept? slot' = notes.foldl Note.leaves (kept? slot) := by
  cases changes <;> rfl

theorem kept_run (w : Collecting) (moves : List Move) :
    kept? (w.run moves).2.session.handshake.slot =
      (w.run moves).1.foldl Note.leaves (kept? w.session.handshake.slot) := by
  induction moves generalizing w with
  | nil => rfl
  | cons m moves ih =>
    simp only [run, noted, List.foldl_append]
    rw [← run, ih, (step_changes w m).kept]

/-- What is in its place is what is left to collect. -/
theorem kept_eq_uncollected (clock : Reading) (moves : List Move) :
    kept? ((start clock).run moves).2.session.handshake.slot =
      uncollected ((start clock).run moves).1 :=
  kept_run (start clock) moves

/-- What was read at one place is what a call returned with at a later one, and between the two nothing
was read and no call returned with anything. -/
structure HandedOut (notes : List Note) (j i : Nat) (state : SessionState) : Prop where
  described : notes[j]? = some (.described state)
  returned : ∃ caller, notes[i]? = some (.returned caller (.ok (.sessionState state)))
  earlier : j < i
  between : ∀ k note, j < k → k < i → notes[k]? = some note → note.keeps = true

theorem HandedOut.append {notes : List Note} {j i : Nat} {state : SessionState}
    (handed : HandedOut notes j i state) (more : List Note) :
    HandedOut (notes ++ more) j i state := by
  obtain ⟨described, ⟨caller, returned⟩, earlier, between⟩ := handed
  have inside := (List.getElem?_eq_some_iff.mp returned).1
  have same : ∀ k ≤ i, (notes ++ more)[k]? = notes[k]? := fun k le =>
    List.getElem?_append_left (Nat.lt_of_le_of_lt le inside)
  refine ⟨?_, ⟨caller, ?_⟩, earlier, fun k note later sooner listed => ?_⟩
  · rwa [same j (Nat.le_of_lt earlier)]
  · rwa [same i (Nat.le_refl i)]
  · rw [same k (Nat.le_of_lt sooner)] at listed
    exact between k note later sooner listed

theorem Changes.returned_ok {slot slot' : SessionSlot} {notes : List Note}
    (changes : Changes slot notes slot') {k caller : Nat} {answer : Answer}
    (listed : notes[k]? = some (.returned caller (.ok answer))) :
    ∃ state, slot = .ready state ∧ notes = [.returned caller (.ok (.sessionState state))] ∧ k = 0 := by
  cases changes with
  | stay => simp at listed
  | handOut caller' state =>
    obtain ⟨rfl, same⟩ := by simpa [List.getElem?_singleton] using listed
    obtain ⟨rfl, -⟩ := same
    exact ⟨state, rfl, rfl, rfl⟩
  | _ => simp [List.getElem?_singleton] at listed

/-- Every description that a call returned with was handed out to it. -/
theorem handedOut_of_returned (clock : Reading) (moves : List Move) {i caller : Nat}
    {answer : Answer}
    (returned : ((start clock).run moves).1[i]? = some (.returned caller (.ok answer))) :
    ∃ j state, HandedOut ((start clock).run moves).1 j i state := by
  induction moves using List.reverseRecOn with
  | nil => simp [run, noted] at returned
  | append_singleton moves m ih =>
    have place := kept_eq_uncollected clock moves
    have changes := step_changes ((start clock).run moves).2 m
    simp only [run_concat] at returned ⊢
    rcases Nat.lt_or_ge i ((start clock).run moves).1.length with inside | outside
    · rw [List.getElem?_append_left inside] at returned
      obtain ⟨j, state, handed⟩ := ih returned
      exact ⟨j, state, handed.append _⟩
    · rw [List.getElem?_append_right outside] at returned
      obtain ⟨state, ready, only, last⟩ := changes.returned_ok returned
      obtain rfl : i = ((start clock).run moves).1.length := by omega
      rw [ready] at place
      obtain ⟨j, described, after⟩ := (uncollected_eq_some_iff _ state).mp place.symm
      have inside := (List.getElem?_eq_some_iff.mp described).1
      rw [only]
      refine ⟨j, state, ?_, ⟨caller, List.getElem?_concat_length⟩, inside, ?_⟩
      · rwa [List.getElem?_append_left inside]
      · intro k note later sooner listed
        rw [List.getElem?_append_left sooner] at listed
        exact after k note later listed

/-- The program's call returns with what it finds, however late it is, and looks at the time only if
there is nothing. -/
theorem call_turn_eq (now : Nat) (deadline : Option Nat) (s : Session) :
    (Call.turn now ⟨.sessionState, deadline⟩ s).1 =
      match found? s.handshake.slot with
      | some result => .done result
      | none =>
        if deadline.any (· ≤ now) then .done (.error .timeout)
        else .waiting ⟨.sessionState, deadline⟩ := by
  have ends := (turn_sessionState s).1
  unfold Call.turn
  rcases turned : Task.turn .sessionState s with ⟨outcome, s'⟩
  rw [turned] at ends
  cases found : found? s.handshake.slot with
  | some result =>
    rw [found] at ends
    obtain rfl : outcome = .done result := ends
    rfl
  | none =>
    rw [found] at ends
    obtain rfl : outcome = .waiting .sessionState := ends
    dsimp only
    split <;> rfl

/-- No description is handed out twice. Over every run, a call that returns with a description has one
that was read before, and since it was read nothing was read and no call returned with anything; so no
two calls return with the same one. And one that was read, and has neither been returned nor followed
by another, is what the next call returns with that comes for it, whether its time has passed or not. -/
theorem descriptions_handed_out_once (clock : Reading) (moves : List Move) :
    let notes := ((start clock).run moves).1
    let w := ((start clock).run moves).2
    (∀ i caller answer, notes[i]? = some (.returned caller (.ok answer)) →
      ∃ j state, answer = .sessionState state ∧ HandedOut notes j i state) ∧
    (∀ j i i' state state', HandedOut notes j i state → HandedOut notes j i' state' → i = i') ∧
    ∀ (j : Nat) state, notes[j]? = some (.described state) →
      (∀ k note, j < k → notes[k]? = some note → note.keeps = true) →
      (∀ caller woken, w.callers.find? caller = some woken →
        (w.turn caller).1 = [.returned caller (.ok (.sessionState state))]) ∧
      ∀ now deadline, (Call.turn now ⟨.sessionState, deadline⟩ w.session).1 =
        .done (.ok (.sessionState state)) := by
  intro notes w
  refine ⟨fun i caller answer returned => ?_, fun j i i' state state' handed handed' => ?_,
    fun j state described after => ?_⟩
  · obtain ⟨j, state, handed⟩ := handedOut_of_returned clock moves returned
    obtain ⟨caller', here⟩ := handed.returned
    rw [show notes[i]? = _ from returned] at here
    cases here
    exact ⟨j, state, rfl, handed⟩
  · -- a second call would have come between the first and what both were handed
    obtain ⟨caller, returned⟩ := handed.returned
    obtain ⟨caller', returned'⟩ := handed'.returned
    rcases Nat.lt_trichotomy i i' with sooner | same | later
    · cases handed'.between i _ handed.earlier sooner returned
    · exact same
    · cases handed.between i' _ handed'.earlier later returned'
  · have left : uncollected notes = some state :=
      (uncollected_eq_some_iff notes state).mpr ⟨j, described, after⟩
    have ready : found? w.session.handshake.slot = some (.ok (.sessionState state)) :=
      found?_of_kept ((kept_eq_uncollected clock moves).trans left)
    refine ⟨fun caller woken calls => ?_, fun now deadline => ?_⟩
    · rw [(turn_eq calls).1, ready]
      rfl
    · rw [call_turn_eq, ready]

def welcome : Bytes :=
  ((HandshakeMessage.sessionInit [] [] [⟨3⟩]).encode .standard .none).toOption.getD []

/-- Two calls see a description come; the first takes it, the second waits again and gets the next. -/
theorem next_description_goes_to_other :
    let after := (start .epoch).run [.read welcome, .call 0, .call 1, .look 0, .look 1, .collect 0,
      .collect 1, .read welcome]
    (∃ state, HandedOut after.1 0 1 state) ∧
      ∃ state, (after.2.turn 1).1 = [.returned 1 (.ok (.sessionState state))] := by
  intro after
  obtain ⟨state, notes⟩ : ∃ state, after.1 = [.described state,
      .returned 0 (.ok (.sessionState state)), .described state] := ⟨_, by with_unfolding_all rfl⟩
  obtain ⟨origin, -, next⟩ := descriptions_handed_out_once .epoch [.read welcome, .call 0, .call 1,
    .look 0, .look 1, .collect 0, .collect 1, .read welcome]
  obtain ⟨j, state', -, handed⟩ := origin 1 0 (.sessionState state) (by rw [notes]; rfl)
  obtain rfl : j = 0 := Nat.lt_one_iff.mp handed.earlier
  refine ⟨⟨state', handed⟩, state, (next 2 state (by rw [notes]; rfl) ?_).1 1 false (by decide +kernel)⟩
  intro k note later listed
  have inside := (List.getElem?_eq_some_iff.mp listed).1
  rw [notes] at inside
  exact absurd inside (Nat.not_lt.mpr later)

end Collecting
end Datastream
