import Datastream.Queue.Keyed
import Datastream.Turn

/-!
# Awaiting a reply

A request as a call: its first turn registers the wait and sends the request, later turns look for
the reply.

Models `wait` as its caller sees it.
-/
namespace Datastream

/-- A request, not sent yet or waiting for its reply. The queue lies in a state of type `σ`. -/
inductive Await (κ σ : Type)
  | fresh (keys : List κ) (send : EStateM Error σ Unit)
  | waiting (id : Nat)

namespace Await

variable {κ ν σ : Type} [DecidableEq κ] (get : σ → KeyedQueue κ ν)
  (set : (KeyedQueue κ ν → KeyedQueue κ ν) → σ → σ)

/-- Looks for the reply to a request that was sent. -/
def collect (id : Nat) (s : σ) : Turn (Await κ σ) (Except Error ν) × σ :=
  match (get s).collect id with
  | some (result, queue) => (.done result, set (fun _ => queue) s)
  | none => (.waiting (.waiting id), s)

/-- Sends the request if that was not done, and looks for the reply. -/
def turn : Await κ σ → σ → Turn (Await κ σ) (Except Error ν) × σ
  | .fresh keys send, s =>
    match KeyedQueue.wait get set keys send s with
    | .error error s => (.done (.error error), s)
    | .ok id s => collect get set id s
  | .waiting id, s => collect get set id s

def cancel : Await κ σ → σ → σ
  | .fresh .., s => s
  | .waiting id, s => set (·.withdraw id) s

end Await
end Datastream
