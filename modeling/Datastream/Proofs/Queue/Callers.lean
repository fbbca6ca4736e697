import Datastream.Proofs.Action
import Datastream.Proofs.Queue.Delivery

/-!
# Callers of one queue

Any number of calls share a queue. Each of them has at most one wait there, which is its own and stands
under the keys that the call has registered (`Serves`). Whatever is done to the queue, and whatever a call
does in its turn, keeps that, and what there is for one call is not touched by the turns of the others. So
a call is only ever given what was granted to its own keys, and what a move grants goes to all calls that
wait under such keys and to no others (`Serves.find?_move`).
-/
namespace Datastream.KeyedQueue

variable {ι κ ν : Type} [DecidableEq κ]

/-- Every caller that waits has a wait of its own in the queue, under its keys, and what there is for it
suits the caller. -/
structure Serves (suits : ι → List κ → Option (Except Error ν) → Prop) (q : KeyedQueue κ ν)
    (wait? : ι → Option (Nat × List κ)) : Prop where
  sound : q.Sound
  own : ∀ {i j id keys keys'}, wait? i = some (id, keys) → wait? j = some (id, keys') → i = j
  stands : ∀ {i id keys}, wait? i = some (id, keys) →
    q.waits.Stands id keys.toFinset (q.delivered.find? id)
  suited : ∀ {i id keys}, wait? i = some (id, keys) → suits i keys (q.delivered.find? id)

section Serves

variable {suits : ι → List κ → Option (Except Error ν) → Prop} {q : KeyedQueue κ ν}
  {wait? wait?' : ι → Option (Nat × List κ)} {i : ι} {id : Nat} {keys : List κ}

theorem serves_empty (nobody : ∀ i, wait? i = none) : Serves suits ({} : KeyedQueue κ ν) wait? where
  sound := sound_empty
  own {i} _ _ _ _ waits := by simp [nobody i] at waits
  stands {i} _ _ waits := by simp [nobody i] at waits
  suited {i} _ _ waits := by simp [nobody i] at waits

/-- Some callers do not wait any more. -/
theorem Serves.fewer (serves : Serves suits q wait?)
    (before : ∀ {i wait}, wait?' i = some wait → wait? i = some wait) : Serves suits q wait?' where
  sound := serves.sound
  own waits waits' := serves.own (before waits) (before waits')
  stands waits := serves.stands (before waits)
  suited waits := serves.suited (before waits)

/-- One caller does not wait. -/
theorem Serves.without (serves : Serves suits q wait?) (others : ∀ j, j ≠ i → wait?' j = wait? j)
    (ended : wait?' i = none) : Serves suits q wait?' := by
  refine serves.fewer fun {j wait} waits => ?_
  by_cases same : j = i
  · rw [same, ended] at waits
    cases waits
  · exact (others j same).symm.trans waits

/-- A move gives a caller what it grants to the keys of the caller, if nothing was granted before. -/
theorem Serves.find?_move (serves : Serves suits q wait?) (waits : wait? i = some (id, keys))
    {m : Move κ ν} (spares : m ≠ .withdraw id ∧ m ≠ .collect id) :
    (q.move m).2.delivered.find? id = (q.delivered.find? id).or (m.grant keys.toFinset) := by
  obtain ⟨sound, -, same⟩ := move_refines serves.sound m
  have after := Waits.stands_step (serves.stands waits) spares.1 fun collects => absurd collects spares.2
  rw [← same] at after
  exact Waits.find?_of_stands sound.proper after

/-- A move takes no wait away, and what it grants to the callers suits them. -/
theorem Serves.move (serves : Serves suits q wait?) (m : Move κ ν)
    (grants : ∀ {i id keys}, wait? i = some (id, keys) →
      suits i keys ((q.delivered.find? id).or (m.grant keys.toFinset)))
    (spares : ∀ {i id keys}, wait? i = some (id, keys) → m ≠ .withdraw id ∧ m ≠ .collect id) :
    Serves suits (q.move m).2 wait? := by
  obtain ⟨sound, -, same⟩ := move_refines serves.sound m
  refine ⟨sound, serves.own, fun waits => ?_, fun waits => ?_⟩
  · rw [serves.find?_move waits (spares waits), same]
    obtain ⟨withdraw, collect⟩ := spares waits
    exact Waits.stands_step (serves.stands waits) withdraw fun collects => absurd collects collect
  · rw [serves.find?_move waits (spares waits)]
    exact grants waits

/-- A caller takes its wait away, and waits no more. -/
theorem Serves.leave (serves : Serves suits q wait?) (waits : wait? i = some (id, keys))
    (others : ∀ j, j ≠ i → wait?' j = wait? j) (ended : wait?' i = none) {m : Move κ ν}
    (leaves : m = .withdraw id ∨ m = .collect id) : Serves suits (q.move m).2 wait?' := by
  have left := serves.without others ended
  apply left.move
  · intro j id' keys' waits'
    have nothing : m.grant keys'.toFinset = none := by rcases leaves with rfl | rfl <;> rfl
    rw [nothing, Option.or_none]
    exact left.suited waits'
  · intro j id' keys' waits'
    have other : j ≠ i := by
      rintro rfl
      rw [ended] at waits'
      cases waits'
    have differs : id' ≠ id := by
      rintro rfl
      exact other (serves.own ((others j other).symm.trans waits') waits)
    rcases leaves with rfl | rfl <;> simp [Ne.symm differs]

/-- A caller enters a wait that nobody else has. -/
theorem Serves.enter (serves : Serves suits q wait?) (others : ∀ j, j ≠ i → wait?' j = wait? j)
    (free : wait? i = none) (waits : wait?' i = some (q.nextId, keys)) (isOpen : q.closed = false)
    (unanswered : suits i keys none) : Serves suits (q.register keys).2 wait?' := by
  have entered : (q.move (.enter keys)).2 = (q.register keys).2 := by simp [KeyedQueue.move, isOpen]
  have rest : Serves suits (q.register keys).2 wait? := by
    rw [← entered]
    apply serves.move
    · intro j id' keys' waits'
      rw [Move.grant, Option.or_none]
      exact serves.suited waits'
    · simp
  have fresh {j : ι} {keys' : List κ} (waits' : wait? j = some (q.nextId, keys')) : False :=
    Nat.lt_irrefl _ (serves.sound.proper.started _ (Waits.mem_ids_of_stands (serves.stands waits')))
  have stands := serves.sound.stands_register keys
  have nothing : (q.register keys).2.delivered.find? q.nextId = none :=
    Waits.find?_of_stands rest.sound.proper stands
  have before {j : ι} {id : Nat} {keys' : List κ} (waits' : wait?' j = some (id, keys')) :
      j = i ∧ id = q.nextId ∧ keys' = keys ∨ j ≠ i ∧ wait? j = some (id, keys') := by
    by_cases same : j = i
    · subst same
      rw [waits] at waits'
      cases waits'
      exact .inl ⟨rfl, rfl, rfl⟩
    · exact .inr ⟨same, (others j same).symm.trans waits'⟩
  constructor
  case sound => exact rest.sound
  case own =>
    intro j j' id keys₁ keys₂ one two
    rcases before one with ⟨rfl, rfl, -⟩ | ⟨-, one⟩
    · rcases before two with ⟨rfl, -, -⟩ | ⟨-, two⟩
      · rfl
      · exact (fresh two).elim
    · rcases before two with ⟨rfl, rfl, -⟩ | ⟨-, two⟩
      · exact (fresh one).elim
      · exact serves.own one two
  case stands =>
    intro j id keys' one
    rcases before one with ⟨rfl, rfl, rfl⟩ | ⟨-, one⟩
    · rw [nothing]
      exact stands
    · exact rest.stands one
  case suited =>
    intro j id keys' one
    rcases before one with ⟨rfl, rfl, rfl⟩ | ⟨-, one⟩
    · rw [nothing]
      exact unanswered
    · exact rest.suited one

end Serves

section Calls

variable {σ : Type} {suits : ι → List κ → Option (Except Error ν) → Prop} {get : σ → KeyedQueue κ ν}
  {set : (KeyedQueue κ ν → KeyedQueue κ ν) → σ → σ} {wait? wait?' : ι → Option (Nat × List κ)} {i : ι}
  {keys : List κ}

/-- The wait of a call that has registered these keys, if it has one. -/
def callWait? (keys : List κ) : Await κ σ → Option (Nat × List κ)
  | .fresh .. => none
  | .waiting id => some (id, keys)

def leftWait? {ρ : Type} (keys : List κ) : Turn (Await κ σ) ρ → Option (Nat × List κ)
  | .done _ => none
  | .waiting await => callWait? keys await

/-- A call that registers these keys, and does not touch the queue when it sends its request. -/
def Registers (get : σ → KeyedQueue κ ν) (keys : List κ) : Await κ σ → Prop
  | .fresh keys' send => keys' = keys ∧ ∀ s, get (endState (send s)) = get s
  | .waiting _ => True

def failure? : EStateM.Result Error σ Unit → Option Error
  | .ok _ _ => none
  | .error error _ => some error

/-- A call that sends its request in a turn finds no result in that turn. -/
theorem turn_fresh (inPlace : ∀ f s, get (set f s) = f (get s)) {s : σ} (sound : (get s).Sound)
    {send : EStateM Error σ Unit} (quiet : ∀ s, get (endState (send s)) = get s) :
    ((Await.fresh keys send).turn get set s).1 =
      if (get s).closed then .done (.error .connectionClosed)
      else match failure? (send (set (fun q => (q.register keys).2) s)) with
        | some error => .done (.error error)
        | none => .waiting (.waiting (get s).nextId) := by
  cases closed : (get s).closed with
  | true => rw [turn_of_closed closed, if_pos rfl]
  | false =>
    have sent := quiet (set (fun q => (q.register keys).2) s)
    rw [if_neg Bool.false_ne_true]
    cases ran : send (set (fun q => (q.register keys).2) s) with
    | error error s' =>
      rw [turn_of_send_error closed ran]
      rfl
    | ok _ s' =>
      rw [ran] at sent
      have registered : get s' = ((get s).register keys).2 := Eq.trans sent (inPlace _ _)
      obtain ⟨entered, -, -⟩ := move_refines sound (.enter keys)
      simp only [KeyedQueue.move, closed, Bool.false_eq_true, if_false] at entered
      have nothing : (get s').delivered.find? (get s).nextId = none := by
        rw [registered]
        exact Waits.find?_of_stands entered.proper (sound.stands_register keys)
      rw [turn_of_send_ok closed ran, (KeyedQueue.turn_waiting inPlace _ s').1, nothing]
      rfl

theorem Serves.turn_waiting (inPlace : ∀ f s, get (set f s) = f (get s)) {s : σ} {id : Nat}
    (serves : Serves suits (get s) wait?) (waits : wait? i = some (id, keys))
    (others : ∀ j, j ≠ i → wait?' j = wait? j)
    (left : wait?' i = leftWait? keys ((Await.waiting id : Await κ σ).turn get set s).1) :
    Serves suits (get ((Await.waiting id : Await κ σ).turn get set s).2) wait?' := by
  obtain ⟨told, moved⟩ := KeyedQueue.turn_waiting inPlace id s
  rw [told] at left
  rw [moved]
  cases found : (get s).delivered.find? id with
  | some result =>
    rw [found] at left
    exact serves.leave waits others left (.inr rfl)
  | none =>
    rw [found] at left
    have still : ((get s).move (.collect id)).2 = get s := by
      simp [KeyedQueue.move, collect, found]
    rw [still]
    refine serves.fewer fun {j wait} waits' => ?_
    by_cases same : j = i
    · subst same
      rw [left] at waits'
      exact waits.trans waits'
    · exact (others j same).symm.trans waits'

/-- A turn of one call keeps all of them served. -/
theorem Serves.turn (inPlace : ∀ f s, get (set f s) = f (get s)) {s : σ} {await : Await κ σ}
    (serves : Serves suits (get s) wait?) (registers : Registers get keys await)
    (here : wait? i = callWait? keys await) (others : ∀ j, j ≠ i → wait?' j = wait? j)
    (left : wait?' i = leftWait? keys (await.turn get set s).1) (unanswered : suits i keys none) :
    Serves suits (get (await.turn get set s).2) wait?' := by
  classical
  cases await with
  | waiting id => exact serves.turn_waiting inPlace here others left
  | fresh keys' send =>
    obtain ⟨rfl, quiet⟩ := registers
    cases closed : (get s).closed with
    | true =>
      rw [turn_of_closed closed] at left ⊢
      exact serves.without others left
    | false =>
      let entered := set (fun q => (q.register keys').2) s
      let wait : ι → Option (Nat × List κ) := fun j =>
        if j = i then some ((get s).nextId, keys') else wait? j
      have waits : wait i = some ((get s).nextId, keys') := if_pos rfl
      have others' : ∀ j, j ≠ i → wait?' j = wait j := fun j differs =>
        (others j differs).trans (if_neg differs).symm
      have serves' : Serves suits (get entered) wait := by
        rw [inPlace]
        exact serves.enter (fun j differs => if_neg differs) here waits closed unanswered
      have sent := quiet entered
      cases ran : send entered with
      | error error s' =>
        rw [ran] at sent
        rw [turn_of_send_error closed ran] at left ⊢
        rw [Await.cancel, inPlace, show get s' = get entered from sent]
        exact serves'.leave waits others' left (.inl rfl)
      | ok _ s' =>
        rw [ran] at sent
        rw [turn_of_send_ok closed ran] at left ⊢
        rw [← show get s' = get entered from sent] at serves'
        exact serves'.turn_waiting inPlace waits others' left

/-- A call that is given up leaves the others served. -/
theorem Serves.cancel (inPlace : ∀ f s, get (set f s) = f (get s)) {s : σ} {await : Await κ σ}
    (serves : Serves suits (get s) wait?) (here : wait? i = callWait? keys await)
    (others : ∀ j, j ≠ i → wait?' j = wait? j) (ended : wait?' i = none) :
    Serves suits (get (await.cancel set s)) wait?' := by
  cases await with
  | fresh keys' send => exact serves.without others ended
  | waiting id =>
    rw [Await.cancel, inPlace]
    exact serves.leave here others ended (.inl rfl)

end Calls

end Datastream.KeyedQueue
