import Datastream.Proofs.Session.Naming

/-!
# Calls that nobody takes

A call of the core is looked up by its class, by the name of an object and by its slot, the object has
to be of the kind that the slot is for, and the slot reads its parameters. What goes wrong until then
is a failure of routing (`Error.isRouting`), which costs that one call. The slots of the session's own
objects read all their parameters before they ask for anything, and what they ask for stays inside the
session (`Method.Inward`): it fails only where an object is broken. So a call that fails in routing has
changed nothing, and while no object is broken every other call is carried out and counted
(`unrouted_call_changes_nothing`).

A call is looked up by `dispatch` and then by `invoke`.
-/
namespace Datastream

section Reading

variable {α β : Type}

/-- Fails in routing if it fails at all, and gives something with `P` otherwise. -/
def Routed (x : Except Error α) (P : α → Prop) : Prop :=
  match x with
  | .error error => error.isRouting = true
  | .ok a => P a

theorem Routed.bind {x : Except Error α} {f : α → Except Error β} {P : α → Prop} {Q : β → Prop}
    (first : Routed x P) (rest : ∀ a, P a → Routed (f a) Q) : Routed (x >>= f) Q := by
  cases x with
  | error error => exact first
  | ok a => exact rest a first

/-- A parameter that cannot be read is a failure of routing. -/
theorem routed_param (read : Value → Option α) (params : List Value) (index : Nat) (slot : String) :
    Routed (Value.param read params index slot) fun _ => True := by
  unfold Value.param
  split
  · trivial
  · rfl

/-- Reads a parameter before anything else. -/
theorem routed_param_bind {read : Value → Option α} {params : List Value} {index : Nat}
    {slot : String} {f : α → Except Error β} {Q : β → Prop} (rest : ∀ a, Routed (f a) Q) :
    Routed (Value.param read params index slot >>= f) Q :=
  (routed_param read params index slot).bind fun a _ => rest a

end Reading

def Effect.sends : Effect → Bool
  | .sync .core .. | .rpc .core .. => true
  | _ => false

/-- A method that reads its parameters first, leaves its object as it is, and asks for nothing that
reaches the core. -/
def Method.Inward (run : Method) : Prop :=
  ∀ o params, Routed (run o params) fun made => made.1 = o ∧ ∀ e ∈ made.2, e.sends = false

namespace MethodTable

def Inward (t : MethodTable) : Prop :=
  ∀ o slot params, Routed (t.invoke o slot params) fun made =>
    made.1 = o ∧ ∀ e ∈ made.2, e.sends = false

theorem inward_ofList {className : String} {kind : Body} {methods : List (String × Method)}
    (each : ∀ m ∈ methods, m.2.Inward) : (ofList className kind methods).Inward := by
  intro o slot params
  unfold invoke
  split
  · rfl
  · next run listed =>
    split
    · exact forall_ofList each _ (Table.mem_of_find? listed) o params
    · rfl

end MethodTable

namespace RpcHandler

theorem inward_publishing {α : Type} (slot : String) (read : Value → Option α) (event : α → Event) :
    Method.Inward (publishing slot read event) := by
  intro o params
  refine routed_param_bind fun value => ⟨rfl, ?_⟩
  simp [Effect.sends]

theorem inward_status : Method.Inward status := by
  intro o params
  refine routed_param_bind fun network => routed_param_bind fun message => ⟨rfl, ?_⟩
  simp [Effect.sends]

theorem inward_renamed : Method.Inward renamed := by
  intro o params
  refine routed_param_bind fun className => routed_param_bind fun newName =>
    routed_param_bind fun oldName => ⟨rfl, ?_⟩
  cases o.attached <;> simp [Effect.sends]

theorem inward_password : Method.Inward password := by
  intro o params
  refine routed_param_bind fun success => ⟨rfl, ?_⟩
  simp [Effect.sends]

theorem inward_table : table.Inward := by
  refine MethodTable.inward_ofList ?_
  simp only [List.forall_mem_cons]
  refine ⟨inward_publishing _ _ _, inward_status, inward_renamed, inward_publishing _ _ _,
    inward_publishing _ _ _, inward_publishing _ _ _, inward_publishing _ _ _,
    inward_publishing _ _ _, inward_password, ?_, List.forall_mem_nil _⟩
  intro o params
  exact ⟨rfl, by simp [Effect.sends]⟩

end RpcHandler

namespace BacklogRequest

theorem routed_typeAt (params : List Value) (index : Nat) (slot : String) :
    Routed (typeAt params index slot) fun _ => True :=
  routed_param_bind fun _ => trivial

theorem routed_flagsAt (params : List Value) (index : Nat) (slot : String) :
    Routed (flagsAt params index slot) fun _ => True :=
  routed_param_bind fun _ => trivial

/-- A reply that no request can be made of is a failure of routing. -/
theorem routed_ofReply (slot : String) (params : List Value) :
    Routed (ofReply slot params) fun _ => True := by
  unfold ofReply
  dsimp only
  split
  case h_1 =>
    iterate 5 refine routed_param_bind fun _ => ?_
    exact routed_param_bind fun _ => trivial
  case h_2 =>
    iterate 5 refine routed_param_bind fun _ => ?_
    refine (routed_typeAt ..).bind fun _ _ => (routed_flagsAt ..).bind fun _ _ => ?_
    exact routed_param_bind fun _ => trivial
  case h_3 =>
    iterate 4 refine routed_param_bind fun _ => ?_
    refine (routed_typeAt ..).bind fun _ _ => (routed_flagsAt ..).bind fun _ _ => ?_
    exact routed_param_bind fun _ => trivial
  case h_4 =>
    iterate 4 refine routed_param_bind fun _ => ?_
    exact routed_param_bind fun _ => trivial
  case h_5 =>
    iterate 4 refine routed_param_bind fun _ => ?_
    refine (routed_typeAt ..).bind fun _ _ => (routed_flagsAt ..).bind fun _ _ => ?_
    exact routed_param_bind fun _ => trivial
  case h_6 => rfl

end BacklogRequest

theorem BacklogManager.inward_table : BacklogManager.table.Inward := by
  refine MethodTable.inward_ofList fun m member => ?_
  obtain ⟨slot, -, rfl⟩ := List.mem_map.mp member
  intro o params
  refine (BacklogRequest.routed_ofReply slot params).bind fun reply _ => ⟨rfl, ?_⟩
  simp [Effect.sends]

theorem ListHelper.inward_table : ListHelper.table.Inward := by
  refine MethodTable.inward_ofList ?_
  simp only [List.forall_mem_cons]
  refine ⟨?received, ?finished, ?failed, List.forall_mem_nil _⟩
  case received =>
    intro o params
    refine routed_param_bind fun network => routed_param_bind fun filters =>
      routed_param_bind fun rows => ⟨rfl, ?_⟩
    simp [Effect.sends]
  case finished =>
    intro o params
    refine routed_param_bind fun network => ⟨rfl, ?_⟩
    simp [Effect.sends]
  case failed =>
    intro o params
    refine routed_param_bind fun reason => ⟨rfl, ?_⟩
    simp [Effect.sends]

/-- Invokers in which every class that the core may call has one of the session's own tables. -/
def Invokers.BuiltIn (i : Invokers) : Prop :=
  ∀ className table, i.get .client className = .ok table →
    table = RpcHandler.table ∨ table = BacklogManager.table ∨ table = ListHelper.table

theorem Invokers.BuiltIn.inward {i : Invokers} (builtIn : i.BuiltIn) {className : String}
    {table : MethodTable} (listed : i.get .client className = .ok table) : table.Inward := by
  rcases builtIn className table listed with rfl | rfl | rfl
  · exact RpcHandler.inward_table
  · exact BacklogManager.inward_table
  · exact ListHelper.inward_table

/-- A class without a table is a failure of routing. -/
theorem Invokers.routed_get (i : Invokers) (side : Side) (className : String) :
    Routed (i.get side className) fun table => i.get side className = .ok table := by
  unfold get
  split
  · rfl
  · rfl

def ProxyMessage.counter? : ProxyMessage → Option (Metrics → Metrics)
  | .rpc .. => some Metrics.rpc
  | .sync .. => some Metrics.sync
  | _ => none

namespace Session

variable {s s' : Session} {handle : Handle}

/-- No object is broken, and there is the one that takes the calls that belong to no object. -/
structure Sound (s : Session) : Prop where
  whole : ∀ handle o, s.objects.object? handle = some o → o.poisoned = false
  taker : ∀ handle, s.rpcHandler = some handle → ∃ o, s.objects.object? handle = some o

theorem Sound.lock (sound : s.Sound) {o : Object} (found : s.objects.object? handle = some o) :
    lock handle s = .ok o s :=
  lock_ok found (sound.whole handle o found)

/-- What is found is an object. -/
theorem Sound.object_of_find (sound : s.Sound) {className objectName : String}
    (tracked : s.find? className objectName = some handle) :
    ∃ o, s.objects.object? handle = some o := by
  have live : s.isLive handle = true := (Option.filter_eq_some_iff.mp tracked).2
  rw [isLive, Bool.or_eq_true] at live
  rcases live with kept | takes
  · unfold Store.isLive at kept
    unfold Store.object?
    cases entry : s.objects.objects[handle]? with
    | none => simp [entry] at kept
    | some stored => exact ⟨stored.object, rfl⟩
  · exact sound.taker handle (beq_iff_eq.mp takes)

theorem Sound.set (sound : s.Sound) {o : Object} (whole : o.poisoned = false)
    (repository : Repository) :
    { s with objects := s.objects.set handle o, repository }.Sound := by
  constructor
  · intro other o' found
    rw [Store.object?_set] at found
    split at found
    · obtain ⟨-, -, rfl⟩ := Option.map_eq_some_iff.mp found
      exact whole
    · exact sound.whole other o' found
  · intro other takes
    obtain ⟨o', found⟩ := sound.taker other takes
    rw [Store.object?_set, found]
    split
    · exact ⟨o, rfl⟩
    · exact ⟨o', rfl⟩

theorem rename_error {className oldName newName : String} {error : Error}
    (ran : rename className oldName newName s = .error error s') : error = .poisoned := by
  cases tracked : s.find? className oldName with
  | none =>
    rw [rename_unknown tracked] at ran
    cases ran
  | some handle =>
    rw [rename_found tracked] at ran
    rcases lock_cases { s with
        repository := (s.repository.rename s.isLive className oldName newName).2 } handle with
      refused | ⟨o, -, -, held⟩
    · rw [bind_error refused] at ran
      cases ran
      rfl
    · rw [bind_ok held, setObject_eq] at ran
      cases ran

/-- What stays inside the session fails only where an object is broken. -/
theorem perform_error {e : Effect} (stays : e.sends = false) {error : Error}
    (ran : perform e s = .error error s') : error = .poisoned := by
  cases e with
  | sync target className objectName slot params =>
    cases target with
    | client => cases ran
    | core => cases stays
  | rpc target slot params =>
    cases target with
    | client => cases ran
    | core => cases stays
  | rename className oldName newName => exact rename_error ran
  | rekey | publish | backlog | listing | failListings => cases ran

theorem performAll_error {effects : List Effect} (stay : ∀ e ∈ effects, e.sends = false)
    {error : Error} (ran : performAll effects s = .error error s') : error = .poisoned := by
  induction effects generalizing s with
  | nil => cases ran
  | cons e effects ih =>
    obtain ⟨first, rest⟩ := List.forall_mem_cons.mp stay
    rw [performAll_cons] at ran
    cases performed : perform e s with
    | error error' between =>
      rw [bind_error performed] at ran
      cases ran
      exact perform_error first performed
    | ok _ between =>
      rw [bind_ok performed] at ran
      exact ih rest ran

theorem Sound.rename (sound : s.Sound) (className oldName newName : String) :
    ∃ s', Session.rename className oldName newName s = .ok () s' ∧ s'.link = s.link ∧ s'.Sound := by
  cases tracked : s.find? className oldName with
  | none => exact ⟨_, rename_unknown tracked newName, rfl, sound.whole, sound.taker⟩
  | some handle =>
    obtain ⟨o, found⟩ := sound.object_of_find tracked
    have whole := sound.whole handle o found
    exact ⟨_, rename_eq tracked found whole newName, rfl,
      sound.set (o := { o with objectName := newName }) whole _⟩

theorem Sound.perform (sound : s.Sound) {e : Effect} (stays : e.sends = false) :
    ∃ s', Session.perform e s = .ok () s' ∧ s'.link = s.link ∧ s'.Sound := by
  cases e with
  | sync target className objectName slot params =>
    cases target with
    | client => exact ⟨s, rfl, rfl, sound⟩
    | core => cases stays
  | rpc target slot params =>
    cases target with
    | client => exact ⟨s, rfl, rfl, sound⟩
    | core => cases stays
  | rename className oldName newName => exact sound.rename className oldName newName
  | rekey | publish | backlog | listing | failListings =>
    exact ⟨_, rfl, rfl, sound.whole, sound.taker⟩

theorem Sound.performAll (sound : s.Sound) {effects : List Effect}
    (stay : ∀ e ∈ effects, e.sends = false) :
    ∃ s', Session.performAll effects s = .ok () s' ∧ s'.link = s.link ∧ s'.Sound := by
  induction effects generalizing s with
  | nil => exact ⟨s, rfl, rfl, sound⟩
  | cons e effects ih =>
    obtain ⟨first, rest⟩ := List.forall_mem_cons.mp stay
    obtain ⟨between, performed, link, sound'⟩ := sound.perform first
    obtain ⟨s', ran, link', sound''⟩ := ih sound' rest
    refine ⟨s', ?_, link'.trans link, sound''⟩
    rw [performAll_cons, bind_ok performed, ran]

/-- How a call of the core may come out: if it fails in routing, nothing has changed; and if no object is
broken, it fails in no other way, and is counted if it does not fail. -/
structure Settles (s : Session) (counter : Metrics → Metrics)
    (result : EStateM.Result Error Session Unit) : Prop where
  unchanged : ∀ error s', result = .error error s' → error.isRouting = true → s' = s
  counted : s.Sound →
    (∃ error, result = .error error s ∧ error.isRouting = true) ∨
      ∃ s', result = .ok () s' ∧ s'.link = s.link.count counter

theorem settles_refused {error : Error} (routing : error.isRouting = true)
    (counter : Metrics → Metrics) : s.Settles counter (.error error s) := by
  constructor
  · intro error' s' ran _
    cases ran
    rfl
  · intro _
    exact .inl ⟨error, rfl, routing⟩

/-- Carrying out what stays inside never fails in routing. -/
theorem settles_performed {effects : List Effect} (stay : ∀ e ∈ effects, e.sends = false)
    (counter : Metrics → Metrics) :
    s.Settles counter ((performAll effects >>= fun _ => count counter) s) := by
  constructor
  · intro error s' ran routing
    cases performed : performAll effects s with
    | error error' between =>
      rw [bind_error performed] at ran
      cases ran
      rw [performAll_error stay performed] at routing
      cases routing
    | ok _ between =>
      rw [bind_ok performed] at ran
      cases ran
  · intro sound
    obtain ⟨between, performed, link, -⟩ := sound.performAll stay
    refine .inr ⟨{ between with link := between.link.count counter }, ?_, ?_⟩
    · rw [bind_ok performed]
      rfl
    · rw [link]

theorem settles_delivered {table : MethodTable} (inward : table.Inward)
    (present : s.Sound → ∃ o, s.objects.object? handle = some o) (slot : String)
    (params : List Value) (counter : Metrics → Metrics) :
    s.Settles counter (deliver table handle slot params counter s) := by
  unfold deliver
  rcases lock_cases s handle with refused | ⟨o, found, -, held⟩
  · rw [bind_error refused]
    constructor
    · intro error s' ran routing
      cases ran
      cases routing
    · intro sound
      obtain ⟨o, found⟩ := present sound
      rw [sound.lock found] at refused
      cases refused
  · rw [bind_ok held]
    have made := inward o slot params
    cases invoked : table.invoke o slot params with
    | error error =>
      rw [invoked] at made
      exact settles_refused made counter
    | ok changed =>
      obtain ⟨o', effects⟩ := changed
      rw [invoked] at made
      obtain ⟨rfl, stay⟩ := made
      rw [commit_self found]
      exact settles_performed stay counter

theorem settles_rpc (builtIn : s.invokers.BuiltIn) (slot : String) (params : List Value) :
    s.Settles Metrics.rpc (dispatch (.rpc slot params) s) := by
  rw [dispatch_rpc_eq]
  have routed := s.invokers.routed_get .client RpcHandler.className
  cases listed : s.invokers.get .client RpcHandler.className with
  | error error =>
    rw [listed] at routed
    exact settles_refused routed _
  | ok table =>
    cases takes : s.rpcHandler with
    | none => exact settles_refused rfl _
    | some handle =>
      exact settles_delivered (builtIn.inward listed) (fun sound => sound.taker handle takes) ..

theorem settles_sync (builtIn : s.invokers.BuiltIn) (className objectName slot : String)
    (params : List Value) :
    s.Settles Metrics.sync (dispatch (.sync className objectName slot params) s) := by
  rw [dispatch_sync_eq]
  have routed := s.invokers.routed_get .client className
  cases listed : s.invokers.get .client className with
  | error error =>
    rw [listed] at routed
    exact settles_refused routed _
  | ok table =>
    cases tracked : s.find? className objectName with
    | none => exact settles_refused rfl _
    | some handle =>
      exact settles_delivered (builtIn.inward listed) (fun sound => sound.object_of_find tracked) ..

/-- A call of the core that fails in routing has changed nothing at all. And while no object is broken, a
call fails in no other way: what does not fail is carried out, counted once, and sends nothing. -/
theorem unrouted_call_changes_nothing (builtIn : s.invokers.BuiltIn) {m : ProxyMessage}
    {counter : Metrics → Metrics} (calls : m.counter? = some counter) :
    (∀ error s', dispatch m s = .error error s' → error.isRouting = true → s' = s) ∧
      (s.Sound →
        (∃ error, dispatch m s = .error error s ∧ error.isRouting = true) ∨
          ∃ s', dispatch m s = .ok () s' ∧ s'.link = s.link.count counter) := by
  cases m with
  | rpc slot params =>
    cases calls
    have settles := settles_rpc builtIn slot params
    exact ⟨settles.unchanged, settles.counted⟩
  | sync className objectName slot params =>
    cases calls
    have settles := settles_sync builtIn className objectName slot params
    exact ⟨settles.unchanged, settles.counted⟩
  | initRequest | initData | heartBeat | heartBeatReply => cases calls

/-- A reply without its messages is refused, and a status message is taken and counted. -/
theorem short_reply_refused :
    let s := endState (synchronize backlogManager (fresh .epoch))
    let reply := ProxyMessage.sync BacklogRequest.className "" "receiveBacklogAll"
      [.msgId ⟨1⟩, .msgId ⟨2⟩, .int 3, .int 4]
    let status := ProxyMessage.rpc RpcHandler.displayStatusMsg [.ofText "network", .ofText "message"]
    dispatch reply s = .error (.wrongParameter "receiveBacklogAll" 4) s ∧
      ∃ s', dispatch status s = .ok () s' ∧ s'.link = s.link.count Metrics.rpc := by
  intro s reply status
  have builtIn : s.invokers.BuiltIn :=
    forall_ownInvokers (.inl rfl) (.inr (.inl rfl)) (.inr (.inr rfl))
  have sound : s.Sound := by
    constructor
    · have all : ∀ stored ∈ s.objects.objects, stored.object.poisoned = false := by decide +kernel
      intro handle o found
      obtain ⟨stored, entry, rfl⟩ := Option.map_eq_some_iff.mp found
      exact all stored (List.mem_of_getElem? entry)
    · intro handle takes
      obtain rfl : ownRpcHandler = handle := Option.some.inj takes
      exact ⟨_, rfl⟩
  constructor
  · have failed : dispatch reply s = .error (.wrongParameter "receiveBacklogAll" 4)
        (endState (dispatch reply s)) := rfl
    have same := (unrouted_call_changes_nothing builtIn (m := reply) rfl).1 _ _ failed rfl
    rw [failed, same]
  · rcases (unrouted_call_changes_nothing builtIn (m := status) rfl).2 sound with
      ⟨error, refused, -⟩ | taken
    · have carried : dispatch status s = .ok () (endState (dispatch status s)) := rfl
      rw [carried] at refused
      cases refused
    · exact taken

end Session
end Datastream
