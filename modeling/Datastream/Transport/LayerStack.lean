import Datastream.Error

/-!
# Layer stacks

The layers on a stream. They are put on in one order only, TLS before compression, each at most
once, and never taken off.

Models `enable_tls` and `enable_compression`.
-/
namespace Datastream

inductive LayerStack
  | plain
  | secure
  | compressed
  | compressedSecure
  deriving DecidableEq, Repr

inductive Layer
  | tls
  | compression
  deriving DecidableEq, Repr

namespace LayerStack

def isSecure : LayerStack → Bool
  | secure | compressedSecure => true
  | _ => false

def isCompressed : LayerStack → Bool
  | compressed | compressedSecure => true
  | _ => false

def addTls : LayerStack → Except Error LayerStack
  | plain => .ok secure
  | secure => .error (.layer .tlsAlreadyEnabled)
  | compressed | compressedSecure => .error (.layer .tlsAfterCompression)

def addCompression : LayerStack → Except Error LayerStack
  | plain => .ok compressed
  | secure => .ok compressedSecure
  | compressed | compressedSecure => .error (.layer .compressionAlreadyEnabled)

def add (s : LayerStack) : Layer → Except Error LayerStack
  | .tls => s.addTls
  | .compression => s.addCompression

/-- Puts layers on, one after another, up to the first that cannot be put on. Gives the stack after
each of them. -/
def addAll (s : LayerStack) : List Layer → List (Except Error LayerStack)
  | [] => []
  | layer :: layers =>
    match s.add layer with
    | .ok s => .ok s :: s.addAll layers
    | .error reason => [.error reason]

end LayerStack
end Datastream
