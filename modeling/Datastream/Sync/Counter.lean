import Datastream.Sync.Method

/-!
# Counters

The methods of objects that hold one number.
-/
namespace Datastream.Counter

/-- The object with another number, if it holds one. -/
def withValue (o : Object) (f : Int32 → Int32) : Object :=
  match o.body with
  | .counter value => { o with body := .counter (f value) }
  | _ => o

def set : Method := fun o params => do
  let value ← Value.param Value.int? params 0 "set"
  return (withValue o fun _ => value, [])

def add : Method := fun o params => do
  let a ← Value.param Value.int? params 0 "add"
  let b ← Value.param Value.int? params 1 "add"
  return (withValue o (· + a + b), [])

def fail : Method := fun _ _ => .error .connectionClosed

def rename : Method := fun o params => do
  return o.rename (← Value.param Value.text? params 0 "rename")

def update : Method := fun o params => do o.update (← Value.param Value.fields? params 0 "update")

def request : Method := fun o _ => .ok (o, o.requestUpdate none)

def methods : List (String × Method) :=
  [("set", set), ("add", add), ("fail", fail), ("rename", rename), ("update", update),
   ("request", request)]

def table (className : String) (methods : List (String × Method)) : MethodTable :=
  .ofList className (.counter 0) methods

end Datastream.Counter
