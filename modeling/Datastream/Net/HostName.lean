import Datastream.Net.Address

/-!
# Host names

Which texts can name the host that a certificate has to be for: host names and internet addresses.

This is what `server_name` asks of a name.
-/
namespace Datastream.HostName

/-- A letter, a digit, a hyphen or a low line. -/
def isLabelChar (c : Char) : Bool := c.isAlphanum || c = '-' || c = '_'

/-- Whether a label has one to sixty-three characters, without a hyphen at either end. -/
def labelOk (label : List Char) : Bool :=
  !label.isEmpty && label.length ≤ 63 && label.all isLabelChar &&
    label.head? ≠ some '-' && label.getLast? ≠ some '-'

/-- Labels between dots; one more dot may end them. The last label is not a number, so that no name
looks like an address. -/
def nameOk (cs : List Char) : Bool :=
  let labels := HostAddress.parts '.' cs
  let labels := if labels.getLast? = some [] && 1 < labels.length then labels.dropLast else labels
  cs.length ≤ 253 && labels.all labelOk && !(labels.getLast?.getD []).all Char.isDigit

def valid (s : String) : Bool := nameOk s.toList || (HostAddress.parse? s).isSome

end Datastream.HostName
