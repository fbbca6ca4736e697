import Datastream.Proofs.Handshake.Collecting

/-!
# Calls for the description after closing

Closing makes the calls for the description of the session fail, but for one case. A description that
nobody had collected stays, and the call that takes it leaves its place as if nothing had been closed:
the calls after it wait on (`calls_end_after_close`, `second_call_waits_after_close`).

The calls are those of `session_init`; the slot in question is emptied by `take_session` and closed by
`close`.
-/
namespace Datastream

namespace Collecting

def Note.returns : Note → Bool
  | .returned .. => true
  | .described _ | .closed => false

theorem Changes.stays_closed {notes : List Note} {slot' : SessionSlot}
    (changes : Changes .closed notes slot')
    (quiet : ∀ note ∈ notes, note.returns = true) : slot' = .closed := by
  cases changes with
  | describe state => simp [Note.returns] at quiet
  | _ => rfl

theorem Changes.stays_open {slot slot' : SessionSlot} {notes : List Note}
    (changes : Changes slot notes slot') (isOpen : slot ≠ .closed)
    (quiet : ∀ note ∈ notes, note.returns = true) : slot' ≠ .closed := by
  cases changes with
  | stay => exact isOpen
  | describe state => exact nofun
  | handOut caller state => exact nofun
  | refuse caller => exact isOpen
  | shut => simp [Note.returns] at quiet
  | keep => exact isOpen

/-- While nothing is read, what was closed stays closed, and what was not stays so. -/
theorem closed_run_iff (w : Collecting) (moves : List Move)
    (quiet : ∀ note ∈ (w.run moves).1, note.returns = true) :
    (w.run moves).2.session.handshake.slot = .closed ↔ w.session.handshake.slot = .closed := by
  induction moves generalizing w with
  | nil => rfl
  | cons m moves ih =>
    simp only [run, noted, List.mem_append] at quiet ⊢
    rw [← run, ih _ fun note member => quiet note (.inr member)]
    have changes := step_changes w m
    have quiet : ∀ note ∈ (w.step m).1, note.returns = true :=
      fun note member => quiet note (.inl member)
    constructor
    · intro closed
      by_contra isOpen
      exact changes.stays_open isOpen quiet closed
    · intro closed
      rw [closed] at changes
      exact changes.stays_closed quiet

/-- Closing closes the place unless a description is in it. -/
theorem closed_of_close (w : Collecting) :
    (w.step .close).2.session.handshake.slot = .closed ↔ kept? w.session.handshake.slot = none := by
  show w.session.handshake.close.slot = .closed ↔ _
  unfold Handshake.close
  cases w.session.handshake.slot <;> simp [kept?]

/-- While nothing is read, what is left is what was left, or nothing once a call returned with it. -/
theorem foldl_leaves_of_quiet {notes : List Note}
    (quiet : ∀ note ∈ notes, note.returns = true) (left : Option SessionState) :
    notes.foldl Note.leaves left = left ∨ notes.foldl Note.leaves left = none := by
  induction notes generalizing left with
  | nil => exact .inl rfl
  | cons note notes ih =>
    obtain ⟨here, rest⟩ := List.forall_mem_cons.mp quiet
    cases note with
    | returned caller result =>
      cases result with
      | error error => exact ih rest left
      | ok answer => exact .inr ((ih rest none).elim id id)
    | described | closed => cases here

/-- When calls end after closing. From the last closing on, with nothing read since: if there was
nothing left to collect when it was closed, or if that is still left, then every call that comes, at
any time, returns at once, with what is left or else with the error that the connection is closed. But
if what was left has been collected since, a call that comes finds nothing and waits for its time to
pass. -/
theorem calls_end_after_close (clock : Reading) (before since : List Move)
    (quiet : ∀ note ∈ (((start clock).run (before ++ [.close])).2.run since).1,
      note.returns = true) :
    let left := uncollected ((start clock).run before).1
    let notes := ((start clock).run (before ++ .close :: since)).1
    let w := ((start clock).run (before ++ .close :: since)).2
    (uncollected notes = left ∨ uncollected notes = none) ∧
    (left = none ∨ uncollected notes = left →
      let result := match left with
        | some state => .ok (.sessionState state)
        | none => .error .connectionClosed
      (∀ caller woken, w.callers.find? caller = some woken →
        (w.turn caller).1 = [.returned caller result]) ∧
      ∀ now deadline, (Call.turn now ⟨.sessionState, deadline⟩ w.session).1 = .done result) ∧
    (left ≠ none ∧ uncollected notes = none →
      (∀ caller woken, w.callers.find? caller = some woken →
        (w.turn caller).1 = [] ∧ (w.turn caller).2.callers.find? caller = some false) ∧
      ∀ now deadline, (Call.turn now ⟨.sessionState, deadline⟩ w.session).1 =
        if deadline.any (· ≤ now) then .done (.error .timeout)
        else .waiting ⟨.sessionState, deadline⟩) := by
  intro left notes w
  have split : before ++ .close :: since = (before ++ [.close]) ++ since := by simp
  have kept : kept? w.session.handshake.slot = uncollected notes := kept_eq_uncollected clock _
  have same : uncollected notes =
      (((start clock).run (before ++ [.close])).2.run since).1.foldl Note.leaves left := by
    simp only [notes, left, split, run_append _ (before ++ [.close]), run_concat, uncollected,
      List.foldl_append]
    rfl
  have closed : w.session.handshake.slot = .closed ↔ left = none := by
    simp only [w, left, split, run_append _ (before ++ [.close])]
    rw [closed_run_iff _ _ quiet, run_concat, closed_of_close, kept_eq_uncollected]
  refine ⟨same ▸ foldl_leaves_of_quiet quiet left, fun ends => ?_, ?_⟩
  · intro result
    have found : found? w.session.handshake.slot = some result := by
      cases there : left with
      | none =>
        rw [closed.mpr there]
        simp only [result, there]
        rfl
      | some state =>
        have still := ends.resolve_left (by simp [there])
        rw [found?_of_kept (kept.trans (still.trans there))]
        simp only [result, there]
    refine ⟨fun caller woken calls => ?_, fun now deadline => ?_⟩
    · rw [(turn_eq calls).1, found]
      rfl
    · rw [call_turn_eq, found]
  · rintro ⟨had, gone⟩
    have nothing : found? w.session.handshake.slot = none :=
      found?_of_open (fun shut => had (closed.mp shut)) (kept.trans gone)
    refine ⟨fun caller woken calls => ?_, fun now deadline => ?_⟩
    · obtain ⟨notes', callers⟩ := turn_eq calls
      rw [notes', callers, nothing]
      exact ⟨rfl, rfl⟩
    · rw [call_turn_eq, nothing]

/-- The description that came before the closing goes to the call that stays; and without one both
calls fail. -/
theorem calls_end_after_close_shown :
    let described := (start .epoch).run ([.call 0, .read welcome, .call 1] ++ .close :: [.giveUp 0])
    let bare := (start .epoch).run ([.call 0, .call 1] ++ .close :: [.look 0, .collect 0])
    (∃ state, uncollected described.1 = some state ∧
      (described.2.turn 1).1 = [.returned 1 (.ok (.sessionState state))]) ∧
      (bare.2.turn 1).1 = [.returned 1 (.error .connectionClosed)] := by
  intro described bare
  obtain ⟨same, ends, -⟩ := calls_end_after_close .epoch [.call 0, .read welcome, .call 1]
    [.giveUp 0] (by decide +kernel)
  obtain ⟨-, fails, -⟩ := calls_end_after_close .epoch [.call 0, .call 1] [.look 0, .collect 0]
    (by decide +kernel)
  have isLeft : (uncollected described.1).isSome = true := by decide +kernel
  have still := same.resolve_right (Option.isSome_iff_ne_none.mp isLeft)
  obtain ⟨state, left⟩ := Option.isSome_iff_exists.mp isLeft
  have returned := (ends (.inr still)).1 1 false (by decide +kernel)
  simp only [still.symm.trans left] at returned
  exact ⟨⟨state, left, returned⟩, (fails (.inl rfl)).1 1 false (by decide +kernel)⟩

/-- A description is left when it is closed. The first call after that takes it, and the second, for
which nothing is left but that it was closed, waits on. -/
theorem second_call_waits_after_close :
    let after := (start .epoch).run
      [.read welcome, .close, .call 0, .look 0, .collect 0, .call 1, .look 1, .collect 1]
    (∃ state, after.1 = [.described state, .closed, .returned 0 (.ok (.sessionState state))]) ∧
      after.2.callers = [(1, false)] ∧
      (Call.turn 0 ⟨.sessionState, some 10000⟩ after.2.session).1 =
        .waiting ⟨.sessionState, some 10000⟩ :=
  ⟨⟨_, by with_unfolding_all rfl⟩, by decide +kernel, by with_unfolding_all rfl⟩

end Collecting
end Datastream
