import Datastream.Sync.Store

/-!
# Recorders

A stand-in for a session that keeps what objects ask for instead of sending it.
-/
namespace Datastream

/-- What was asked for since last asked, and the objects. -/
structure Recorder where
  objects : Store := {}
  /-- Whether objects can be attached and reach the recorder. -/
  available : Bool := true
  recorded : List Effect := []

namespace Recorder

/-- Attaches an object; while the recorder is gone this does not help. -/
def attach (r : Recorder) (handle : Handle) : Recorder :=
  { r with objects := r.objects.modify handle fun o => { o with attached := r.available } }

def shut (r : Recorder) : Recorder :=
  { r with
    available := false
    objects := ⟨r.objects.objects.map fun o =>
      { o with object := { o.object with attached := false } }⟩ }

/-- Does something with an object and records what it asks for. -/
def call (r : Recorder) (handle : Handle) (c : Object.Call) : Except Error Unit × Recorder :=
  match r.objects.object? handle with
  | none => (.ok (), r)
  | some o =>
    match o.call c with
    | .error error => (.error error, r)
    | .ok (o, effects) =>
      (.ok (), { r with objects := r.objects.set handle o, recorded := r.recorded ++ effects })

end Recorder
end Datastream
