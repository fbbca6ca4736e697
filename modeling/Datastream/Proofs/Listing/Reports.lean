import Datastream.Proofs.Session.Operations
import Datastream.Proofs.Value.Extract
import Datastream.Listing.Search

/-!
# What the core reports about searches

The calls of the list helper's slots, and what becomes of the waits for them. A report is for those who
wait for one network or for all who wait (`Says`), and it is all that such a call does to the waits
(`dispatch_report`); asking the core for something has nothing to do with them
(`BlindToListings.request`).

The slots are `receive_channel_list`, `report_finished_list` and `report_error`.
-/
namespace Datastream

/-- An action that neither reads the waits of listings nor changes them. -/
def BlindToListings {α : Type} (act : Session.Action α) : Prop :=
  ∀ (s : Session) (q : KeyedQueue NetworkId ListingReply), act { s with listings := q } =
    match act s with
    | .ok a s' => .ok a { s' with listings := q }
    | .error error s' => .error error { s' with listings := q }

namespace BlindToListings

theorem listings {α : Type} {act : Session.Action α} (blind : BlindToListings act) (s : Session) :
    (endState (act s)).listings = s.listings := by
  have same := blind s s.listings
  rw [show { s with listings := s.listings } = s from rfl] at same
  rw [same]
  cases act s <;> rfl

theorem pure {α : Type} (a : α) : BlindToListings (Pure.pure a) := fun _ _ => rfl

theorem throw {α : Type} (error : Error) : BlindToListings (MonadExcept.throw error : Session.Action α) :=
  fun _ _ => rfl

theorem bind {α β : Type} {x : Session.Action α} {f : α → Session.Action β} (first : BlindToListings x)
    (rest : ∀ a, BlindToListings (f a)) : BlindToListings (x >>= f) := by
  intro s q
  have began := first s q
  cases run : x s with
  | ok a s' =>
    rw [run] at began
    rw [bind_ok began, bind_ok run]
    exact rest a s' q
  | error error s' =>
    rw [run] at began
    rw [bind_error began, bind_error run]

theorem lock (handle : Handle) : BlindToListings (Session.lock handle) := by
  intro s q
  unfold Session.lock
  cases s.objects.object? handle with
  | none => rfl
  | some o => cases broken : o.poisoned <;> simp [broken]

theorem emit (m : ProxyMessage) : BlindToListings (Session.emit m) := by
  intro s q
  unfold Session.emit Session.onLink
  cases Link.emitProxy m s.link <;> rfl

/-- Asking the core has nothing to do with the waits. -/
theorem request (network : NetworkId) (filters : List String) :
    BlindToListings (Listing.request network filters) := by
  refine (lock _).bind fun o => ?_
  cases o.attached with
  | false => exact throw _
  | true =>
    unfold Object.sync
    cases o.isLive with
    | false => exact pure ()
    | true => exact (emit _).bind fun _ => pure ()

end BlindToListings

namespace ListHelper

open ListingReply

/-- What the core says by calling a slot of the list helper. -/
def reports (slot : String) (params : List Value) : List Effect :=
  match table.invoke object slot params with
  | .ok (_, effects) => effects
  | .error _ => []

theorem methods_cases {slot : String} {run : Method}
    (listed : table.methods.find? slot = some run) :
    slot = receiveSlot ∧ run = received ∨ slot = finishedSlot ∧ run = finished ∨
      slot = errorSlot ∧ run = failed := by
  have member := Table.mem_of_find? listed
  rw [show table.methods = [(receiveSlot, received),
    (finishedSlot, finished), (errorSlot, failed)]
    from rfl] at member
  simpa only [List.mem_cons, Prod.mk.injEq, List.not_mem_nil, or_false] using member

/-- What a call of a slot says: that the search on a network has finished, what was found there, or why
the core has failed, which is about no network in particular. Further parameters are not looked at. -/
inductive Says : String → List Value → Effect → Prop
  | finished (network : NetworkId) (rest : List Value) :
    Says finishedSlot (.networkId network :: rest) (.listing network .finished)
  | channels (network : NetworkId) (filters found : Value) (texts : List String) (rows : List Value)
    (repeated : Value.listOf? Value.text? filters = some texts) (listed : found.list? = some rows)
    (rest : List Value) :
    Says receiveSlot (.networkId network :: filters :: found :: rest) (.listing network (.channels rows))
  | failed (text : Option String) (rest : List Value) :
    Says errorSlot (.string text :: rest) (.failListings (text.getD "Unknown Error"))

theorem reports_of_said {slot : String} {params : List Value} {effect : Effect}
    (said : Says slot params effect) : reports slot params = [effect] := by
  cases said with
  | finished network rest => rfl
  | failed text rest => rfl
  | channels network filters found texts rows repeated listed rest =>
    have taken : received object (.networkId network :: filters :: found :: rest) =
        .ok (object, [.listing network (.channels rows)]) := by
      simp only [received, Value.param, List.getElem?_cons_zero, List.getElem?_cons_succ,
        Option.bind_some, Value.networkId?, repeated, listed]
      rfl
    show (match received object _ with | .ok (_, effects) => effects | .error _ => []) = _
    rw [taken]

theorem cons_of_getElem? {params : List Value} {v : Value} (first : params[0]? = some v) :
    ∃ rest, params = v :: rest := by
  rw [← List.head?_eq_getElem?] at first
  exact List.head?_eq_some_iff.mp first

theorem said_of_mem {slot : String} {params : List Value} {effect : Effect}
    (reported : effect ∈ reports slot params) : Says slot params effect := by
  unfold reports MethodTable.invoke at reported
  cases listed : table.methods.find? slot with
  | none => simp [listed] at reported
  | some run =>
    have alike : table.kind.alike object.body = true := rfl
    simp only [listed, alike, if_true] at reported
    split at reported
    · next o effects made =>
      rcases methods_cases listed with ⟨rfl, rfl⟩ | ⟨rfl, rfl⟩ | ⟨rfl, rfl⟩
      · obtain ⟨network, first, made⟩ := ok_of_bind made
        obtain ⟨texts, second, made⟩ := ok_of_bind made
        obtain ⟨rows, third, made⟩ := ok_of_bind made
        cases made
        obtain rfl := List.mem_singleton.mp reported
        obtain ⟨v, at0, isNetwork⟩ := Value.of_param first
        obtain ⟨filters, at1, repeated⟩ := Value.of_param second
        obtain ⟨found, at2, isList⟩ := Value.of_param third
        obtain rfl := (Value.networkId?_eq_some_iff _ _).mp isNetwork
        obtain ⟨rest, rfl⟩ := cons_of_getElem? at0
        obtain ⟨rest, rfl⟩ := cons_of_getElem? (List.getElem?_cons_succ ▸ at1)
        obtain ⟨rest, rfl⟩ := cons_of_getElem? (List.getElem?_cons_succ ▸ List.getElem?_cons_succ ▸ at2)
        exact .channels network filters found texts rows repeated isList rest
      · obtain ⟨network, first, made⟩ := ok_of_bind made
        cases made
        obtain rfl := List.mem_singleton.mp reported
        obtain ⟨v, at0, isNetwork⟩ := Value.of_param first
        obtain rfl := (Value.networkId?_eq_some_iff _ _).mp isNetwork
        obtain ⟨rest, rfl⟩ := cons_of_getElem? at0
        exact .finished network rest
      · obtain ⟨text, first, made⟩ := ok_of_bind made
        cases made
        obtain rfl := List.mem_singleton.mp reported
        obtain ⟨v, at0, isText⟩ := Value.of_param first
        obtain rfl := Value.nullableText?_eq_some isText
        obtain ⟨rest, rfl⟩ := cons_of_getElem? at0
        exact .failed text rest
    · cases reported

/-- What the core says is for those who wait for one network, or for all who wait. -/
theorem reports_cases {slot : String} {params : List Value} {effect : Effect}
    (reported : effect ∈ reports slot params) :
    (∃ network reply, effect = .listing network reply) ∨
      ∃ reason, effect = .failListings reason := by
  cases said_of_mem reported with
  | finished network => exact .inl ⟨network, _, rfl⟩
  | channels network => exact .inl ⟨network, _, rfl⟩
  | failed text => exact .inr ⟨_, rfl⟩

/-- The methods of the list helper leave it as it is, and report the same whatever it is. -/
theorem invoke_eq {o : Object} (kind : o.body = .listHelper) (slot : String) (params : List Value) :
    table.invoke o slot params =
      (table.invoke object slot params).map fun made => (o, made.2) := by
  have alike : table.kind.alike o.body = true := by rw [kind]; rfl
  have alike' : table.kind.alike object.body = true := rfl
  unfold MethodTable.invoke
  cases listed : table.methods.find? slot with
  | none => rfl
  | some run =>
    simp only [alike, alike', if_true]
    rcases methods_cases listed with ⟨-, rfl⟩ | ⟨-, rfl⟩ | ⟨-, rfl⟩
    · unfold received
      cases Value.param Value.networkId? params 0 receiveSlot <;>
        cases Value.param (Value.listOf? Value.text?) params 1 receiveSlot <;>
          cases Value.param Value.list? params 2 receiveSlot <;> rfl
    · unfold finished
      cases Value.param Value.networkId? params 0 finishedSlot <;> rfl
    · unfold failed
      cases Value.param Value.nullableText? params 0 errorSlot <;> rfl

/-- What the core reports comes to the same as the call that the session takes, while the list helper is
in its place. -/
theorem dispatch_report {s : Session} {handle : Handle} {o : Object}
    (registered : s.invokers.get .client ListingReply.className = .ok table)
    (tracked : s.find? ListingReply.className "" = some handle)
    (found : s.objects.object? handle = some o) (whole : o.poisoned = false)
    (kind : o.body = .listHelper) (slot : String) (params : List Value) :
    (endState (Session.dispatch (.sync ListingReply.className "" slot params) s)).listings =
      (endState (Session.performAll (reports slot params) s)).listings := by
  rw [Session.dispatch_sync_eq, registered, tracked]
  show (endState (Session.deliver table handle slot params Metrics.sync s)).listings = _
  rw [Session.deliver, bind_ok (Session.lock_ok found whole), invoke_eq kind, reports]
  cases table.invoke object slot params with
  | error error => rfl
  | ok made =>
    rw [Except.map, Session.commit_self found]
    refine endState_bind (P := fun s' : Session => s'.listings =
      (endState (Session.performAll made.2 s)).listings) rfl fun _ s' ran => ?_
    rw [ran]
    rfl

end ListHelper
end Datastream
