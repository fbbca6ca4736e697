/-!
# Turns

A call that has to wait is a value, which takes a turn now and then. Calls take their turns in the
order in which they were started.
-/
namespace Datastream

/-- How a call leaves its turn: with a result, or as the call that waits on. -/
inductive Turn (γ ρ : Type)
  | done (result : ρ)
  | waiting (call : γ)

namespace Turn

variable {σ ι γ ρ : Type}

/-- Gives every call a turn. Those that still wait are left, and the results of the others are
listed. -/
def all (take : γ → σ → Turn γ ρ × σ) : List (ι × γ) → σ → (List (ι × γ) × List (ι × ρ)) × σ
  | [], s => (([], []), s)
  | (name, call) :: rest, s =>
    let (turn, s) := take call s
    let ((left, results), s) := all take rest s
    match turn with
    | done result => ((left, (name, result) :: results), s)
    | waiting call => (((name, call) :: left, results), s)

end Turn
end Datastream
