import Datastream.Error

/-!
# Actions on a state

An action changes a state and may fail. Each of its steps acts on the state that the one before left,
and a step that fails ends it. Where several parties act on one state, each makes moves, and what
happens is noted (`noted`).
-/
namespace Datastream

variable {σ α β : Type}

/-- What follows has a result only if what comes first has one. -/
theorem ok_of_bind {x : Except Error α} {f : α → Except Error β} {b : β}
    (both : (x >>= f) = .ok b) : ∃ a, x = .ok a ∧ f a = .ok b := by
  cases x with
  | error error => cases both
  | ok a => exact ⟨a, rfl, both⟩

/-- Gives something with `P`, or fails on something malformed, which is at fault as `F` says. -/
def Parses (x : Except Error α) (P : α → Prop) (F : Malformation → Prop) : Prop :=
  match x with
  | .ok a => P a
  | .error error => ∃ cause, error = .malformed cause ∧ F cause

theorem Parses.imp {x : Except Error α} {P Q : α → Prop} {F : Malformation → Prop} (first : Parses x P F)
    (weaker : ∀ a, P a → Q a) : Parses x Q F := by
  cases x with
  | error error => exact first
  | ok a => exact weaker a first

theorem Parses.bind {x : Except Error α} {f : α → Except Error β} {P : α → Prop} {Q : β → Prop}
    {F G : Malformation → Prop} (first : Parses x P F) (fault : ∀ cause, F cause → G cause)
    (rest : ∀ a, P a → Parses (f a) Q G) : Parses (x >>= f) Q G := by
  cases x with
  | error error =>
    obtain ⟨cause, malformed, wrong⟩ := first
    exact ⟨cause, malformed, fault cause wrong⟩
  | ok a => exact rest a first

/-- The state that an action ends in, whether it fails or not. -/
def endState : EStateM.Result Error σ α → σ
  | .ok _ s | .error _ s => s

section Steps

variable {s s' : σ} {x : EStateM Error σ α} {f : α → EStateM Error σ β}

theorem bind_ok {a : α} (first : x s = .ok a s') : (x >>= f) s = f a s' := by
  show EStateM.bind x f s = _
  rw [EStateM.bind, first]

theorem bind_error {error : Error} (first : x s = .error error s') :
    (x >>= f) s = .error error s' := by
  show EStateM.bind x f s = _
  rw [EStateM.bind, first]

/-- What every step keeps, the whole action keeps. -/
theorem endState_bind {P : σ → Prop} (first : P (endState (x s)))
    (rest : ∀ a s', x s = .ok a s' → P (endState (f a s'))) : P (endState ((x >>= f) s)) := by
  cases run : x s with
  | ok a s' =>
    rw [bind_ok run]
    exact rest a s' run
  | error error s' =>
    rw [bind_error run]
    rwa [run] at first

end Steps

section Moves

variable {μ ν : Type} (step : σ → μ → List ν × σ)

/-- Makes moves one after another: all that is noted, and the state after the last. -/
def noted (s : σ) : List μ → List ν × σ
  | [] => ([], s)
  | m :: moves =>
    let (notes, s) := step s m
    let (rest, s) := noted s moves
    (notes ++ rest, s)

theorem noted_append (s : σ) (moves more : List μ) :
    noted step s (moves ++ more) =
      ((noted step s moves).1 ++ (noted step (noted step s moves).2 more).1,
        (noted step (noted step s moves).2 more).2) := by
  induction moves generalizing s with
  | nil => rfl
  | cons m moves ih => simp only [List.cons_append, noted, ih, List.append_assoc]

theorem noted_concat (s : σ) (moves : List μ) (m : μ) :
    noted step s (moves ++ [m]) =
      ((noted step s moves).1 ++ (step (noted step s moves).2 m).1,
        (step (noted step s moves).2 m).2) := by
  simp [noted_append, noted]

/-- A note of a run was made by one of its moves, behind what was noted before. -/
theorem noted_split {s : σ} {moves : List μ} {p q : List ν} {note : ν}
    (split : (noted step s moves).1 = p ++ note :: q) :
    ∃ earlier m later p' q', moves = earlier ++ m :: later ∧
      (step (noted step s earlier).2 m).1 = p' ++ note :: q' ∧ p = (noted step s earlier).1 ++ p' := by
  induction moves generalizing s p with
  | nil => simp [noted] at split
  | cons m moves ih =>
    simp only [noted] at split
    rcases List.append_eq_append_iff.mp split with ⟨p', rfl, rest⟩ | ⟨q', first, rest⟩
    · obtain ⟨earlier, m', later, p'', q', rfl, made, rfl⟩ := ih rest
      exact ⟨m :: earlier, m', later, p'', q', rfl, made, by simp [noted]⟩
    · cases q' with
      | nil =>
        obtain ⟨earlier, m', later, p'', q', rfl, made, nothing⟩ := ih (p := []) rest.symm
        refine ⟨m :: earlier, m', later, [], q', rfl, ?_, ?_⟩
        · obtain ⟨-, rfl⟩ := List.append_eq_nil_iff.mp nothing.symm
          exact made
        · obtain ⟨empty, -⟩ := List.append_eq_nil_iff.mp nothing.symm
          simp [noted, empty, first]
      | cons note' q' =>
        obtain ⟨rfl, -⟩ := List.cons.inj rest
        exact ⟨[], m, moves, p, q', rfl, first, rfl⟩

end Moves

/-- Something else that is done to a state, which leaves alone what one looks at. -/
structure Aside (view : σ → α) where
  act : σ → σ
  same : ∀ s, view (act s) = view s

end Datastream
