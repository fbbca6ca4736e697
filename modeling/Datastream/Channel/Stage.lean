import Datastream.Link

/-!
# Stages

Incoming frames go through a chain of stages, one stage at a time. A stage says when it has seen its
last frame; the frames after that go to the next one.

A stage models a handler: its `init`, `read`, `done` and `close`.
-/
namespace Datastream

/-- States of which a link is a part. -/
class Linked (σ : Type) where
  link : σ → Link
  withLink : Link → σ → σ

def Linked.count {σ : Type} [Linked σ] (f : Metrics → Metrics) (s : σ) : σ :=
  Linked.withLink ((Linked.link s).count f) s

/-- One stage in the processing of incoming frames, which acts on a state. -/
structure Stage (σ : Type) where
  name : String := ""
  /-- What it does when it becomes the current stage. -/
  init : EStateM Error σ Unit := pure ()
  /-- Takes a frame; says whether it was the stage's last one. -/
  read : Bytes → EStateM Error σ Bool
  /-- What it does after its last frame. -/
  done : σ → σ := id
  /-- What it does when the connection is gone, whether it was ever the current stage or not. -/
  close : σ → σ := id

end Datastream
