import Datastream.Proofs.Action
import Datastream.Proofs.Queue.Delivery

/-!
# The waits that are outstanding

A wait is outstanding from the move by which it entered to the first move that gives it up or grants it
something, so the history of a queue says which waits its two indexes have to list (`remaining`,
`outstanding_makeMoves`). A call is over when it was given up or has found its result; a queue whose
calls are all over holds nothing (`mem_ongoing_of_mem_ids`). In every state that a queue can come to,
its indexes agree on these waits (`indexes_agree_in_every_state`).

A wait is given up by `unregister`, when its call is dropped.
-/
namespace Datastream.KeyedQueue

variable {κ ν : Type} [DecidableEq κ]

def entering : Move κ ν × Answer ν → Option (Nat × Finset κ)
  | (.enter keys, .entered id) => some (id, keys.toFinset)
  | _ => none

/-- Whether a move ends a wait: it is given up, or granted something. -/
def Move.ends (wait : Nat × Finset κ) : Move κ ν → Bool
  | withdraw id => id = wait.1
  | move => (move.grant wait.2).isSome

/-- Whether the call of a wait is over with a move: it was given up, or has found its result. -/
def leaves (id : Nat) : Move κ ν × Answer ν → Bool
  | (.withdraw id', _) => id' = id
  | (.collect id', .found (some _)) => id' = id
  | _ => false

/-- The waits that entered in a history, oldest first, but for those that have come to an end later in
it. -/
def remaining (atEnd : Nat × Finset κ → Move κ ν × Answer ν → Bool) :
    List (Move κ ν × Answer ν) → List (Nat × Finset κ)
  | [] => []
  | past :: later =>
    (entering past).toList.filter (fun wait => !later.any (atEnd wait)) ++ remaining atEnd later

/-- The waits that nothing has ended. -/
def unended : List (Move κ ν × Answer ν) → List (Nat × Finset κ) :=
  remaining fun wait past => past.1.ends wait

/-- The waits of calls that are not over. -/
def ongoing : List (Move κ ν × Answer ν) → List (Nat × Finset κ) :=
  remaining fun wait => leaves wait.1

section Histories

variable {w : Waits κ ν}

/-- A move takes away the waits that it ends, and adds the one that enters. -/
theorem outstanding_step (w : Waits κ ν) (m : Move κ ν) :
    (w.step m).2.outstanding =
      w.outstanding.filter (fun wait => !m.ends wait) ++ (entering (m, (w.step m).1)).toList := by
  cases m with
  | enter keys =>
    simp only [Waits.step]
    split <;> simp [entering, Move.ends, Move.grant]
  | withdraw id =>
    simp only [Waits.step, entering, Option.toList_none, List.append_nil, Move.ends]
    refine List.filter_congr fun wait _ => ?_
    simp [eq_comm]
  | collect id => simp [Waits.step, entering, Move.ends, Move.grant]
  | resume | resumeAll | close => simp [Waits.step, Waits.serve, entering, Move.ends]

/-- What is outstanding after some moves: what was before, and what has entered, as far as nothing has
ended it since. -/
theorem outstanding_makeMoves (w : Waits κ ν) (moves : List (Move κ ν)) :
    let history := (makeMoves Waits.step w moves).1
    (makeMoves Waits.step w moves).2.outstanding =
      w.outstanding.filter (fun wait => !history.any fun past => past.1.ends wait) ++
        unended history := by
  induction moves generalizing w with
  | nil => simp [makeMoves, unended, remaining]
  | cons m moves ih =>
    simp only [makeMoves, ih, outstanding_step, unended, remaining, List.filter_append,
      List.filter_filter, List.any_cons, Bool.not_or, List.append_assoc]
    congr 1
    exact List.filter_congr fun wait _ => Bool.and_comm _ _

/-- What a queue knows of after a move, it knew of before, or it has entered. -/
theorem mem_ids_step {m : Move κ ν} {id : Nat} (member : id ∈ (w.step m).2.ids) :
    id ∈ w.ids ∨ ∃ keys, entering (m, (w.step m).1) = some (id, keys) := by
  cases m with
  | enter keys =>
    simp only [Waits.step] at member ⊢
    split at member
    · exact .inl member
    · next isOpen =>
      simp only [Waits.ids, List.map_append, List.map_singleton, List.mem_append,
        List.mem_singleton] at member
      rcases member with (old | rfl) | result
      · exact .inl (List.mem_append_left _ old)
      · exact .inr ⟨keys.toFinset, by simp [isOpen, entering]⟩
      · exact .inl (List.mem_append_right _ result)
  | withdraw id' =>
    exact .inl (((List.filter_sublist.map _).append (List.filter_sublist.map _)).subset member)
  | collect id' =>
    exact .inl (((List.Sublist.refl _).append (List.filter_sublist.map _)).subset member)
  | resume | resumeAll | close => exact .inl ((Waits.ids_serve w _).subset member)

/-- Nothing is left of a wait whose call is over. -/
theorem notMem_ids_of_leaves (proper : w.Proper) {m : Move κ ν} {id : Nat}
    (goes : leaves id (m, (w.step m).1) = true) : id ∉ (w.step m).2.ids := by
  cases m with
  | withdraw id' =>
    obtain rfl : id' = id := of_decide_eq_true goes
    simp [Waits.step, Waits.ids]
  | collect id' =>
    cases found : w.results.find? id' with
    | none => simp [Waits.step, leaves, found] at goes
    | some result =>
      obtain rfl : id' = id := by simpa [Waits.step, leaves, found] using goes
      exact (Waits.gone_of_collect proper found).2
  | enter | resume | resumeAll | close => simp [leaves] at goes

/-- What a queue knows of belongs to calls that are not over. -/
theorem mem_ongoing_of_mem_ids (proper : w.Proper) (moves : List (Move κ ν)) {id : Nat}
    (member : id ∈ (makeMoves Waits.step w moves).2.ids) :
    let history := (makeMoves Waits.step w moves).1
    (id ∈ w.ids ∧ history.any (leaves id) = false) ∨ ∃ keys, (id, keys) ∈ ongoing history := by
  induction moves generalizing w with
  | nil => exact .inl ⟨member, rfl⟩
  | cons m moves ih =>
    simp only [makeMoves] at member ⊢
    rcases ih (Waits.proper_step proper m) member with ⟨known, stays⟩ | ⟨keys, later⟩
    · rcases mem_ids_step known with before | ⟨keys, enters⟩
      · refine .inl ⟨before, ?_⟩
        rw [List.any_cons, stays, Bool.or_false, ← Bool.not_eq_true]
        exact fun goes => notMem_ids_of_leaves proper goes known
      · refine .inr ⟨keys, List.mem_append_left _ ?_⟩
        simp [enters, stays]
    · exact .inr ⟨keys, List.mem_append_right _ later⟩

/-- A closed queue has no waits: its closing ends them, and later nobody enters. -/
theorem nobody_step (nobody : w.closed = true → w.outstanding = []) (m : Move κ ν)
    (shut : (w.step m).2.closed = true) : (w.step m).2.outstanding = [] := by
  rw [outstanding_step]
  rcases (Waits.closed_step w m).mp shut with before | rfl
  · rw [nobody before]
    cases m <;> simp [Waits.step, before, entering]
  · simp [entering, Move.ends, Move.grant]

theorem nobody_makeMoves (nobody : w.closed = true → w.outstanding = []) (moves : List (Move κ ν)) :
    (makeMoves Waits.step w moves).2.closed = true →
      (makeMoves Waits.step w moves).2.outstanding = [] := by
  induction moves generalizing w with
  | nil => exact nobody
  | cons m moves ih => exact ih (nobody_step nobody m)

end Histories

section Indexes

variable {q : KeyedQueue κ ν}

theorem nodup_dismiss {byKey : Table κ (List Nat)} (once : byKey.keys.Nodup) (id : Nat) (key : κ) :
    (dismiss byKey id key).keys.Nodup := by
  unfold dismiss
  split
  · exact once
  · dsimp only
    split
    · exact Table.nodup_keys_erase once key
    · exact Table.nodup_keys_put once key _

theorem nodup_unregister (once : q.byKey.keys.Nodup) (id : Nat) :
    (q.unregister id).byKey.keys.Nodup := by
  unfold unregister
  split
  · exact once
  · next keys _ =>
    exact List.foldlRecOn (motive := fun byKey : Table κ (List Nat) => byKey.keys.Nodup) keys _ once
      fun _ once key _ => nodup_dismiss once id key

theorem nodup_deliver (once : q.byKey.keys.Nodup) (result : Except Error ν) (id : Nat) :
    (q.deliver result id).byKey.keys.Nodup := by
  unfold deliver
  split
  · exact once
  · exact nodup_unregister once id

/-- Every key has one entry at most. -/
theorem nodup_move (once : q.byKey.keys.Nodup) (m : Move κ ν) : (q.move m).2.byKey.keys.Nodup := by
  cases m with
  | enter keys =>
    simp only [move]
    split
    · exact once
    · exact List.foldlRecOn (motive := fun byKey : Table κ (List Nat) => byKey.keys.Nodup)
        (distinct keys) _ once fun _ once key _ => Table.nodup_keys_put once key _
  | withdraw id => exact nodup_unregister once id
  | collect id => rwa [(collect_eq q id).2]
  | resume key value =>
    exact List.foldlRecOn (motive := fun q : KeyedQueue κ ν => q.byKey.keys.Nodup) _ _ once
      fun _ once id _ => nodup_deliver once (.ok value) id
  | resumeAll | close => exact List.nodup_nil

theorem nodup_makeMoves (once : q.byKey.keys.Nodup) (moves : List (Move κ ν)) :
    (makeMoves move q moves).2.byKey.keys.Nodup := by
  induction moves generalizing q with
  | nil => exact once
  | cons m moves ih => exact ih (nodup_move once m)

/-- An entry by key lists waits, and just those that list the key. -/
theorem Sound.mem_byKey_iff (sound : q.Sound) (once : q.byKey.keys.Nodup) (key : κ) (ids : List Nat) :
    (key, ids) ∈ q.byKey ↔ ids = idsUnder q.waiters key ∧ ids ≠ [] := by
  have found : (key, ids) ∈ q.byKey ↔ q.byKey.find? key = some ids :=
    ⟨Table.find?_of_mem once, Table.mem_of_find?⟩
  rw [found, sound.index, occupied]
  split
  · next nobody => simp [nobody]
  · next somebody =>
    rw [Option.some.injEq, eq_comm]
    exact ⟨fun same => ⟨same, same ▸ somebody⟩, And.left⟩

end Indexes

structure Agree (q : KeyedQueue κ ν) : Prop where
  /-- A wait stands under a key just if it lists the key. -/
  listed : ∀ key id, (∃ ids, (key, ids) ∈ q.byKey ∧ id ∈ ids) ↔
    ∃ keys, (id, keys) ∈ q.waiters ∧ key ∈ keys
  /-- It stands there once, and no key is kept that has no waits. -/
  entries : ∀ key ids, (key, ids) ∈ q.byKey → ids.Nodup ∧ ids ≠ []
  keys : q.byKey.keys.Nodup
  numbers : q.waiters.keys.Nodup
  below : ∀ id ∈ q.waiters.keys, id < q.nextId
  closed : q.closed = true → q.waiters = [] ∧ q.byKey = []

section Agreement

variable {q : KeyedQueue κ ν}

theorem Sound.agree (sound : q.Sound) (once : q.byKey.keys.Nodup)
    (closed : q.closed = true → q.waiters = []) : q.Agree where
  listed key id := by
    simp only [sound.mem_byKey_iff once, ← mem_idsUnder]
    constructor
    · rintro ⟨ids, ⟨rfl, -⟩, member⟩
      exact member
    · intro member
      exact ⟨_, ⟨rfl, List.ne_nil_of_mem member⟩, member⟩
  entries key ids entry := by
    obtain ⟨rfl, somebody⟩ := (sound.mem_byKey_iff once key _).mp entry
    exact ⟨sound.nodup_idsUnder key, somebody⟩
  keys := once
  numbers := sound.nodup_waiters
  below id member := by
    rw [← keys_waiters] at member
    exact sound.proper.started id (List.mem_append_left _ member)
  closed shut := by
    have nobody := closed shut
    refine ⟨nobody, List.eq_nil_iff_forall_not_mem.mpr ?_⟩
    rintro ⟨key, ids⟩ entry
    obtain ⟨rfl, somebody⟩ := (sound.mem_byKey_iff once key _).mp entry
    simp [nobody, idsUnder] at somebody

omit [DecidableEq κ] in
/-- Without waits, nothing is listed by key either. -/
theorem Agree.byKey_eq_nil (agree : q.Agree) (nobody : q.waiters = []) : q.byKey = [] := by
  refine List.eq_nil_iff_forall_not_mem.mpr ?_
  rintro ⟨key, ids⟩ entry
  obtain ⟨id, member⟩ := List.exists_mem_of_ne_nil ids (agree.entries key ids entry).2
  obtain ⟨keys, wait, -⟩ := (agree.listed key id).mp ⟨ids, entry, member⟩
  rw [nobody] at wait
  cases wait

/-- A wait that a move takes away, the queue knows no more. -/
theorem Sound.notMem_ids_move (sound : q.Sound) {m : Move κ ν} {id : Nat}
    (goes : leaves id (m, (q.move m).1) = true) : id ∉ (q.move m).2.waits.ids := by
  obtain ⟨-, answer, same⟩ := move_refines sound m
  rw [same]
  exact notMem_ids_of_leaves sound.proper (answer ▸ goes)

/-- What a queue knows of after a move, it knew of before, or it has entered. -/
theorem Sound.mem_ids_move (sound : q.Sound) {m : Move κ ν} {id : Nat}
    (member : id ∈ (q.move m).2.waits.ids) :
    id ∈ q.waits.ids ∨ ∃ keys, entering (m, (q.move m).1) = some (id, keys) := by
  obtain ⟨-, answer, same⟩ := move_refines sound m
  rw [same] at member
  rw [answer]
  exact mem_ids_step member

end Agreement

theorem agree_after (moves : List (Move κ ν)) : (after moves).Agree := by
  obtain ⟨sound, -, same⟩ := after_refines moves
  have once := nodup_makeMoves (q := ({} : KeyedQueue κ ν)) List.nodup_nil moves
  refine sound.agree once fun shut => ?_
  have nobody := nobody_makeMoves (w := ({} : Waits κ ν)) (fun _ => rfl) moves
  rw [← same] at nobody
  exact List.map_eq_nil_iff.mp (nobody shut)

/-- What a queue lists, by its history. -/
theorem outstanding_after (moves : List (Move κ ν)) :
    (after moves).waits.outstanding = unended (makeMoves move {} moves).1 := by
  obtain ⟨-, history, same⟩ := after_refines moves
  rw [same, history]
  exact outstanding_makeMoves {} moves

/-- A queue whose calls are all over knows of nothing. -/
theorem ids_after_eq_nil {moves : List (Move κ ν)}
    (settled : ongoing (makeMoves move {} moves).1 = []) : (after moves).waits.ids = [] := by
  obtain ⟨-, history, same⟩ := after_refines moves
  rw [history] at settled
  refine List.eq_nil_iff_forall_not_mem.mpr fun id member => ?_
  rw [same] at member
  have proper : ({} : Waits κ ν).Proper := sound_empty.proper
  rcases mem_ongoing_of_mem_ids proper moves member with ⟨known, -⟩ | ⟨keys, waits⟩
  · cases known
  · rw [settled] at waits
    cases waits

section Calls

variable {σ : Type} {get : σ → KeyedQueue κ ν}
  {set : (KeyedQueue κ ν → KeyedQueue κ ν) → σ → σ}

/-- The number under which a call waits; if it has not started, the one that it would have now. -/
def callNumber (q : KeyedQueue κ ν) : Await κ σ → Nat
  | .fresh .. => q.nextId
  | .waiting id => id

/-- To the queue, sending a request is some moves. -/
def Sends (get : σ → KeyedQueue κ ν) : Await κ σ → Prop
  | .fresh _ send => ∀ s, ∃ during, get (endState (send s)) = (makeMoves move (get s) during).2
  | .waiting _ => True

/-- A call is some moves of its queue, waits under one number, and has left nothing there when it is
over. -/
structure Behaves (get : σ → KeyedQueue κ ν) (moves : List (Move κ ν)) (id : Nat)
    (turned : Turn (Await κ σ) (Except Error ν) × σ) : Prop where
  moves : ∃ since, get turned.2 = after (moves ++ since)
  waits : ∀ call, turned.1 = .waiting call → call = .waiting id
  nothing : ∀ result, turned.1 = .done result → id ∉ (get turned.2).waits.ids

theorem notMem_ids_after {moves : List (Move κ ν)} {m : Move κ ν} {id : Nat}
    (goes : leaves id (m, ((after moves).move m).1) = true) :
    id ∉ (after (moves ++ [m])).waits.ids := by
  rw [after_concat]
  exact (after_refines moves).1.notMem_ids_move goes

theorem behaves_waiting (inPlace : ∀ f s, get (set f s) = f (get s)) {moves : List (Move κ ν)} {s : σ}
    (there : get s = after moves) (id : Nat) :
    Behaves get moves id (Await.turn get set (.waiting id) s) := by
  obtain ⟨told, moved⟩ := turn_waiting inPlace id s
  rw [there, ← after_concat] at moved
  refine ⟨⟨_, moved⟩, fun call waits => ?_, fun result done => ?_⟩
  · rw [told] at waits
    split at waits
    · cases waits
    · exact (Turn.waiting.inj waits).symm
  · rw [moved]
    refine notMem_ids_after ?_
    rw [told, there] at done
    rw [(collect_eq _ id).1]
    split at done
    · next found => simp [leaves, found]
    · cases done

theorem withdrawn_cancel (inPlace : ∀ f s, get (set f s) = f (get s)) {moves : List (Move κ ν)} {s : σ}
    (there : get s = after moves) (id : Nat) :
    get (Await.cancel set (.waiting id) s) = after (moves ++ [.withdraw id]) ∧
      id ∉ (get (Await.cancel set (.waiting id) s)).waits.ids := by
  have moved : get (Await.cancel set (.waiting id) s) = after (moves ++ [.withdraw id]) := by
    rw [Await.cancel, inPlace, there, after_concat]
    rfl
  refine ⟨moved, ?_⟩
  rw [moved]
  exact notMem_ids_after (by simp [leaves])

theorem nextId_notMem_ids (moves : List (Move κ ν)) :
    (after moves).nextId ∉ (after moves).waits.ids := fun member =>
  Nat.lt_irrefl _ ((after_refines moves).1.proper.started _ member)

theorem behaves_fresh (inPlace : ∀ f s, get (set f s) = f (get s)) {moves : List (Move κ ν)} {s : σ}
    (there : get s = after moves) (keys : List κ) {send : EStateM Error σ Unit}
    (sends : Sends get (.fresh keys send)) :
    Behaves get moves (get s).nextId (Await.turn get set (.fresh keys send) s) := by
  cases closed : (get s).closed with
  | true =>
    rw [turn_of_closed closed]
    refine ⟨⟨[], by rw [there, List.append_nil]⟩, nofun, fun _ _ => ?_⟩
    rw [there]
    exact nextId_notMem_ids moves
  | false =>
    have isOpen : .close ∉ moves := by
      rwa [← closed_after, Bool.not_eq_true, ← there]
    have entered : get (set (fun q => (q.register keys).2) s) = after (moves ++ [.enter keys]) := by
      rw [inPlace, there, after_enter isOpen]
    obtain ⟨during, sent⟩ := sends (set (fun q => (q.register keys).2) s)
    rw [entered, ← after_append] at sent
    cases run : send (set (fun q => (q.register keys).2) s) with
    | error error s' =>
      simp only [run, endState] at sent
      obtain ⟨moved, nothing⟩ := withdrawn_cancel inPlace sent (get s).nextId
      rw [turn_of_send_error closed run]
      exact ⟨⟨_, by rw [moved, List.append_assoc, List.append_assoc]⟩, nofun, fun _ _ => nothing⟩
    | ok _ s' =>
      simp only [run, endState] at sent
      rw [turn_of_send_ok closed run]
      obtain ⟨⟨since, moved⟩, waits, nothing⟩ := behaves_waiting inPlace sent (get s).nextId
      exact ⟨⟨_, by rw [moved, List.append_assoc, List.append_assoc]⟩, waits, nothing⟩

/-- A call that is given up has left nothing either. -/
theorem nothing_cancel (inPlace : ∀ f s, get (set f s) = f (get s)) {moves : List (Move κ ν)} {s : σ}
    (there : get s = after moves) (call : Await κ σ) :
    (∃ since, get (Await.cancel set call s) = after (moves ++ since)) ∧
      callNumber (get s) call ∉ (get (Await.cancel set call s)).waits.ids := by
  cases call with
  | fresh keys send =>
    refine ⟨⟨[], by rw [List.append_nil]; exact there⟩, ?_⟩
    simp only [callNumber, Await.cancel, there]
    exact nextId_notMem_ids moves
  | waiting id =>
    obtain ⟨moved, nothing⟩ := withdrawn_cancel inPlace there id
    exact ⟨⟨_, moved⟩, nothing⟩

end Calls

/-- In every state that a queue can come to, its two indexes agree: a wait stands under just the keys
that it lists, once, no key is kept without waits, numbers are distinct and below the next one, and a
queue that is closed has no waits and stays closed. The waits are those that have entered and that
nothing has ended since, so this is how many are said to be pending, and when all calls are over both
indexes are empty. A call is some moves of its queue, whatever its request does while it is sent; it
waits under one number, and once it is over, by a result, an error or because it was given up, the queue
knows that number no more. -/
theorem indexes_agree_in_every_state :
    (∀ moves : List (Move κ ν),
      let q := after moves
      let history := (makeMoves move {} moves).1
      q.Agree ∧
      (q.closed = true → ∀ more, (after (moves ++ more)).closed = true) ∧
      q.waits.outstanding = unended history ∧
      q.pending = (unended history).length ∧
      (ongoing history = [] → q.waiters = [] ∧ q.byKey = [] ∧ q.delivered = [])) ∧
    ∀ {σ : Type} (get : σ → KeyedQueue κ ν) (set : (KeyedQueue κ ν → KeyedQueue κ ν) → σ → σ),
      (∀ f s, get (set f s) = f (get s)) →
      ∀ (moves : List (Move κ ν)) (s : σ), get s = after moves →
      ∀ call : Await κ σ, Sends get call →
        let id := callNumber (get s) call
        Behaves get moves id (Await.turn get set call s) ∧
        (∃ since, get (Await.cancel set call s) = after (moves ++ since)) ∧
        id ∉ (get (Await.cancel set call s)).waits.ids := by
  refine ⟨fun moves => ?_, fun {σ} get set inPlace moves s there call sends => ?_⟩
  · intro q history
    have listed : q.waits.outstanding = unended history := outstanding_after moves
    refine ⟨agree_after moves, fun shut more => ?_, listed, ?_, fun settled => ?_⟩
    · rw [closed_after] at shut ⊢
      exact List.mem_append_left _ shut
    · rw [← listed, pending, waits, List.length_map]
    · obtain ⟨nobody, nothing⟩ := List.append_eq_nil_iff.mp (ids_after_eq_nil settled)
      have waiters : q.waiters = [] := List.map_eq_nil_iff.mp (List.map_eq_nil_iff.mp nobody)
      exact ⟨waiters, (agree_after moves).byKey_eq_nil waiters, List.map_eq_nil_iff.mp nothing⟩
  · refine ⟨?_, nothing_cancel inPlace there call⟩
    cases call with
    | fresh keys send => exact behaves_fresh inPlace there keys sends
    | waiting id => exact behaves_waiting inPlace there id

/-- Of three waits one is served, one withdrawn while it is outstanding under two keys, and one failed by
the closing; then nothing is left. A request that fails while it is sent leaves nothing, though a wait
that entered before it is still there. -/
theorem nothing_left_after_three_calls :
    let moves : List (Move Nat Nat) := [.enter [1, 2], .enter [2, 3, 2], .enter [3], .resume 1 7,
      .withdraw 1, .close, .collect 0, .collect 2, .enter [4]]
    let send : EStateM Error (KeyedQueue Nat Nat) Unit :=
      fun q => .error .connectionClosed (q.resume 2 7).2
    let turned := Await.turn (fun q => q) (fun f q => f q) (.fresh [5, 2] send) (after [.enter [3]])
    ((after moves).waiters = [] ∧ (after moves).byKey = [] ∧ (after moves).delivered = []) ∧
      turned.1 = .done (.error .connectionClosed) ∧ 1 ∉ turned.2.waits.ids ∧
      turned.2.waits.ids = [0] := by
  intro moves send turned
  obtain ⟨states, calls⟩ := indexes_agree_in_every_state (κ := Nat) (ν := Nat)
  have sends : Sends (fun q => q) (.fresh [5, 2] send) := fun q => ⟨[.resume 2 7], rfl⟩
  obtain ⟨behaves, -, -⟩ := calls (fun q => q) (fun f q => f q) (fun _ _ => rfl) [.enter [3]] _ rfl
    (.fresh [5, 2] send) sends
  exact ⟨(states moves).2.2.2.2 rfl, rfl, behaves.nothing _ rfl, rfl⟩

end Datastream.KeyedQueue
