import Datastream.Sync.Object
import Datastream.Table

/-!
# Methods

Inbound calls name a method by a text. A method table gives the methods of one class their texts;
invokers hold the tables of both ends by class.

Models `invoke` (`MethodTable.invoke`), and the invokers' `register`, `get` and `dispatch`.
-/
namespace Datastream

/-- What a method does to its object, given its parameters. -/
abbrev Method := Object → List Value → Object.Changed

/-- The methods of a class, for objects with a body like `kind`. -/
structure MethodTable where
  className : String
  kind : Body
  methods : Table String Method

namespace MethodTable

def ofList (className : String) (kind : Body) (methods : List (String × Method)) : MethodTable where
  className := className
  kind := kind
  methods := methods.foldl (fun t m => t.put m.1 m.2) []

def invoke (t : MethodTable) (o : Object) (method : String) (params : List Value) :
    Object.Changed :=
  match t.methods.find? method with
  | none => .error (.unknownMethod t.className method)
  | some run => if t.kind.alike o.body then run o params else .error (.wrongObject t.className)

/-- How a table describes itself, its methods sorted. -/
def describe (t : MethodTable) : String :=
  let names := t.methods.keys.mergeSort (fun a b => decide (a ≤ b))
  "MethodTable \x7b class_name: " ++ Quoted.quote t.className ++ ", methods: [" ++
    ", ".intercalate (names.map Quoted.quote) ++ "] \x7d"

end MethodTable

abbrev Invokers := Table (Side × String) MethodTable

namespace Invokers

/-- Adds a table, in place of the one its class had. -/
def register (i : Invokers) (side : Side) (t : MethodTable) : Invokers := i.put (side, t.className) t

def get (i : Invokers) (side : Side) (className : String) : Except Error MethodTable :=
  match i.find? (side, className) with
  | some t => .ok t
  | none => .error (.invokerNotFound className)

/-- Calls a method of an object by the table of its class. -/
def dispatch (i : Invokers) (side : Side) (o : Object) (method : String) (params : List Value) :
    Object.Changed := do
  (← i.get side o.className).invoke o method params

def describe (i : Invokers) : String := "Invokers \x7b registered: " ++ toString i.length ++ " \x7d"

end Invokers
end Datastream
