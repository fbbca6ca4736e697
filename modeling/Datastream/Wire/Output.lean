import Datastream.Bytes
import Datastream.Error

/-!
# Output

What a writer leaves behind: the bytes it wrote and, if it failed, the error that stopped it. A
writer that failed writes nothing more, so outputs put together with `andThen` form a monoid whose
unit is `Output.empty`.
-/
namespace Datastream

/-- The bytes written, and the error that stopped the writing if one did. -/
structure Output where
  bytes : Bytes
  stop : Option Error
  deriving DecidableEq, Repr

namespace Output

def empty : Output := ⟨[], none⟩

/-- Bytes, written without fail. -/
def write (bytes : Bytes) : Output := ⟨bytes, none⟩

/-- Nothing but an error. -/
def fail (error : Error) : Output := ⟨[], some error⟩

/-- One output after another, unless the first was stopped. -/
def andThen (a b : Output) : Output :=
  match a.stop with
  | none => ⟨a.bytes ++ b.bytes, b.stop⟩
  | some _ => a

instance : Append Output := ⟨andThen⟩

/-- The bytes of an output that was not stopped. -/
def toExcept (a : Output) : Except Error Bytes :=
  match a.stop with
  | none => .ok a.bytes
  | some error => .error error

end Output
end Datastream
