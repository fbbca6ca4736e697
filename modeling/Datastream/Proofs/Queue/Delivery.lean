import Datastream.Proofs.Queue.Index

/-!
# Delivery

What waits get, over every run from the empty queue. The queue behaves as the plain collection of
its waits; a wait has the first result that was granted to it since it entered, also while its
request was being sent, and collects it once; and a call is the moves that it makes
(`delivers_once_to_right_waits`).

The calls are those of `wait`, the results are granted by `resume` and `resume_all`.
-/
namespace Datastream.KeyedQueue

variable {κ ν : Type} [DecidableEq κ]

def after (moves : List (Move κ ν)) : KeyedQueue κ ν := (makeMoves move {} moves).2

theorem after_refines (moves : List (Move κ ν)) :
    (after moves).Sound ∧
      (makeMoves move {} moves).1 = (makeMoves Waits.step {} moves).1 ∧
        (after moves).waits = (makeMoves Waits.step {} moves).2 :=
  moves_refine sound_empty moves

theorem after_append (moves more : List (Move κ ν)) :
    after (moves ++ more) = (makeMoves move (after moves) more).2 := by
  rw [after, makeMoves_append, after]

theorem after_concat (moves : List (Move κ ν)) (m : Move κ ν) :
    after (moves ++ [m]) = ((after moves).move m).2 :=
  after_append moves [m]

theorem closed_after (moves : List (Move κ ν)) :
    (after moves).closed = true ↔ .close ∈ moves := by
  have same := congrArg Waits.closed (after_refines moves).2.2
  have closed := Waits.closed_makeMoves ({} : Waits κ ν) moves
  rw [← same] at closed
  simpa [waits] using closed

theorem collected_length_le_one (id : Nat) (moves : List (Move κ ν)) :
    (collected id (makeMoves move {} moves).1).length ≤ 1 := by
  rw [(after_refines moves).2.1]
  exact Waits.collected_length_le (sound_empty.proper) id moves

/-- An open queue after one more wait entered. -/
theorem after_enter {before : List (Move κ ν)} (isOpen : .close ∉ before) (keys : List κ) :
    after (before ++ [.enter keys]) = ((after before).register keys).2 := by
  have closed : (after before).closed = false := by
    rwa [← Bool.not_eq_true, closed_after]
  simp [after_concat, move, closed]

/-- What a wait finds: the first result granted to it since it entered. -/
theorem find?_delivered {before : List (Move κ ν)} (isOpen : .close ∉ before) (keys : List κ)
    (since : List (Move κ ν)) (kept : .withdraw (after before).nextId ∉ since)
    (waits : collected (after before).nextId
      (makeMoves move (after (before ++ [.enter keys])) since).1 = []) :
    (after (before ++ .enter keys :: since)).delivered.find? (after before).nextId =
      since.findSome? (·.grant keys.toFinset) := by
  obtain ⟨sound, -, -⟩ := after_refines before
  obtain ⟨entered, -, -⟩ := after_refines (before ++ [.enter keys])
  obtain ⟨-, history, same⟩ := moves_refine entered since
  have stands : (after (before ++ [.enter keys])).waits.Stands (after before).nextId
      keys.toFinset none := by
    rw [after_enter isOpen]
    exact sound.stands_register keys
  rw [history] at waits
  have result := Waits.stands_of_moves entered.proper stands since kept waits
  rw [← same, Option.none_or] at result
  have found := Waits.find?_of_stands (same ▸ (moves_refine entered since).1.proper) result
  rwa [show before ++ .enter keys :: since = before ++ [.enter keys] ++ since by simp,
    after_append]

section Calls

variable {σ : Type} {get : σ → KeyedQueue κ ν}
  {set : (KeyedQueue κ ν → KeyedQueue κ ν) → σ → σ}

theorem turn_of_closed {s : σ} (closed : (get s).closed = true) (keys : List κ)
    (send : EStateM Error σ Unit) :
    Await.turn get set (.fresh keys send) s = (.done (.error .connectionClosed), s) := by
  simp [Await.turn, wait, closed]

theorem turn_of_send_error {s s' : σ} (isOpen : (get s).closed = false) {keys : List κ}
    {send : EStateM Error σ Unit} {error : Error}
    (failed : send (set (fun q => (q.register keys).2) s) = .error error s') :
    Await.turn get set (.fresh keys send) s =
      (.done (.error error), Await.cancel set (.waiting (get s).nextId) s') := by
  simp [Await.turn, wait, isOpen, failed, Await.cancel]

theorem turn_of_send_ok {s s' : σ} (isOpen : (get s).closed = false) {keys : List κ}
    {send : EStateM Error σ Unit}
    (sent : send (set (fun q => (q.register keys).2) s) = .ok () s') :
    Await.turn get set (.fresh keys send) s =
      Await.turn get set (.waiting (get s).nextId) s' := by
  simp [Await.turn, wait, isOpen, sent]

/-- The turn of a call that waits is the move that looks for its result. -/
theorem turn_waiting (inPlace : ∀ f s, get (set f s) = f (get s)) (id : Nat) (s : σ) :
    (Await.turn get set (.waiting id) s).1 =
        (match (get s).delivered.find? id with
        | some result => .done result
        | none => .waiting (.waiting id)) ∧
      get (Await.turn get set (.waiting id) s).2 = ((get s).move (.collect id)).2 := by
  simp only [Await.turn, Await.collect, move, collect]
  cases (get s).delivered.find? id with
  | none => exact ⟨rfl, rfl⟩
  | some result => exact ⟨rfl, inPlace _ _⟩

end Calls

/-- Every run of a queue is a run of the plain collection of its waits, with the same answers, and
no wait collects twice. A wait that was not given up and has collected nothing has the first result
granted to it since it entered. A call on a closed queue fails at once and leaves everything as it
was; any other enters before its request is sent, ends with the error of the sending if that fails,
and has then withdrawn; and if the sending does not fail, what is found at once or later is what
was granted since the wait entered, the time of the sending included. -/
theorem delivers_once_to_right_waits :
    (∀ moves : List (Move κ ν),
      (makeMoves move {} moves).1 = (makeMoves Waits.step {} moves).1 ∧
      (after moves).waits = (makeMoves Waits.step {} moves).2 ∧
      ∀ id, (collected id (makeMoves move {} moves).1).length ≤ 1) ∧
    (∀ (before : List (Move κ ν)) (keys : List κ) (since : List (Move κ ν)),
      let id := (after before).nextId
      .close ∉ before → .withdraw id ∉ since →
      collected id (makeMoves move (after (before ++ [.enter keys])) since).1 = [] →
      (after (before ++ .enter keys :: since)).delivered.find? id =
        since.findSome? (·.grant keys.toFinset)) ∧
    ∀ {σ : Type} (get : σ → KeyedQueue κ ν)
      (set : (KeyedQueue κ ν → KeyedQueue κ ν) → σ → σ),
      (∀ f s, get (set f s) = f (get s)) →
      ∀ (before : List (Move κ ν)) (keys : List κ) (send : EStateM Error σ Unit) (s : σ),
      get s = after before →
      let id := (after before).nextId
      let entered := set (fun q => (q.register keys).2) s
      (.close ∈ before →
        Await.turn get set (.fresh keys send) s = (.done (.error .connectionClosed), s)) ∧
      (.close ∉ before →
        get entered = after (before ++ [.enter keys]) ∧
        (∀ error s', send entered = .error error s' →
          Await.turn get set (.fresh keys send) s =
            (.done (.error error), Await.cancel set (.waiting id) s')) ∧
        (∀ s', send entered = .ok () s' →
          Await.turn get set (.fresh keys send) s = Await.turn get set (.waiting id) s') ∧
        ∀ (since : List (Move κ ν)) (s' : σ),
          get s' = after (before ++ .enter keys :: since) →
          get (Await.cancel set (.waiting id) s') =
            after (before ++ .enter keys :: since ++ [.withdraw id]) ∧
          get (Await.turn get set (.waiting id) s').2 =
            after (before ++ .enter keys :: since ++ [.collect id]) ∧
          (.withdraw id ∉ since →
            collected id (makeMoves move (after (before ++ [.enter keys])) since).1 = [] →
            (Await.turn get set (.waiting id) s').1 =
              match since.findSome? (·.grant keys.toFinset) with
              | some result => .done result
              | none => .waiting (.waiting id))) := by
  refine ⟨fun moves => ?_, ?_, ?_⟩
  · obtain ⟨-, history, same⟩ := after_refines moves
    exact ⟨history, same, fun id => collected_length_le_one id moves⟩
  · intro before keys since id isOpen kept waits
    exact find?_delivered isOpen keys since kept waits
  · intro σ get set inPlace before keys send s here id entered
    have number : (get s).nextId = id := by rw [here]
    refine ⟨fun closed => ?_, fun isOpen => ?_⟩
    · exact turn_of_closed (by rwa [here, closed_after]) keys send
    have stillOpen : (get s).closed = false := by
      rwa [here, ← Bool.not_eq_true, closed_after]
    refine ⟨?_, fun error s' failed => ?_, fun s' sent => ?_, fun since s' there => ?_⟩
    · rw [inPlace, here, after_enter isOpen]
    · rw [turn_of_send_error stillOpen failed, number]
    · rw [turn_of_send_ok stillOpen sent, number]
    obtain ⟨found, moved⟩ := turn_waiting inPlace id s'
    refine ⟨?_, ?_, fun kept waits => ?_⟩
    · rw [Await.cancel, inPlace, there, after_concat]
      rfl
    · rw [moved, there, after_concat]
    · rw [found, there, find?_delivered isOpen keys since kept waits]

/-- A call whose request is answered while it is being sent has its result in its first turn, and a
value under another key goes past it. -/
theorem delivered_while_sending :
    let send : EStateM Error (KeyedQueue Nat Nat) Unit := fun q => .ok () (q.resume 2 7).2
    (Await.turn (fun q => q) (fun f q => f q) (.fresh [1, 2, 1] send) (after [.enter [3]])).1 =
        .done (.ok 7) ∧
      (after [.enter [3], .enter [1, 2, 1], .resume 3 5, .resume 2 7]).delivered.find? 1 =
        some (.ok 7) := by
  intro send
  obtain ⟨-, granted, calls⟩ := delivers_once_to_right_waits (κ := Nat) (ν := Nat)
  obtain ⟨-, opened⟩ := calls (fun q => q) (fun f q => f q) (fun _ _ => rfl)
    [.enter [3]] [1, 2, 1] send (after [.enter [3]]) rfl
  obtain ⟨-, -, sent, found⟩ := opened (by simp)
  refine ⟨?_, granted [.enter [3]] [1, 2, 1] [.resume 3 5, .resume 2 7] (by simp) (by simp) rfl⟩
  let resumed : KeyedQueue Nat Nat := after [.enter [3], .enter [1, 2, 1], .resume 2 7]
  rw [sent resumed rfl, (found [.resume 2 7] resumed rfl).2.2 (by simp) rfl]
  rfl

end Datastream.KeyedQueue
