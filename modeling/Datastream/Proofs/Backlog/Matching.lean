import Datastream.Proofs.Backlog.Echo

/-!
# Replies and the requests that they answer

Each of the five slots for replies reads its parameters by a layout of its own: which of them are ids,
numbers, or the list of messages. The list stands last, so no layout goes on where another one ends,
and a reply that has the layout of one slot has that of no other (`slot_eq_of_shared`). So the reply to
a request is taken by the slot of the request only, it ends the waits for that request and no others,
and it is the reply to no other request (`reply_reaches_its_request_only`).

The layouts are those that `from_reply` tells apart.
-/
namespace Datastream

inductive ParamKind
  | buffer
  | message
  | number
  | list
  | other
  deriving DecidableEq, Repr

def Value.kind : Value → ParamKind
  | .bufferId _ => .buffer
  | .msgId _ => .message
  | .int _ => .number
  | .list _ | .stringList _ => .list
  | _ => .other

namespace Value

/-- Something that is there only if the parameters from a place on begin with these kinds. -/
def Needs {α : Type} (params : List Value) (place : Nat) (kinds : List ParamKind)
    (x : Except Error α) : Prop :=
  ∀ a, x = .ok a → kinds <+: (params.drop place).map kind

section Needs

variable {α β : Type} {params : List Value} {place : Nat} {kinds : List ParamKind} {slot : String}

theorem Needs.nothing {x : Except Error α} : Needs params place [] x := fun _ _ => List.nil_prefix

/-- Reading a parameter needs one of the kind that is read. -/
theorem Needs.param {read : Value → Option α} {kind : ParamKind}
    (reads : ∀ v x, read v = some x → v.kind = kind) {f : α → Except Error β}
    (rest : ∀ x, Needs params (place + 1) kinds (f x)) :
    Needs params place (kind :: kinds) (Value.param read params place slot >>= f) := by
  intro b both
  obtain ⟨x, taken, later⟩ := ok_of_bind both
  obtain ⟨v, listed, made⟩ := Value.of_param taken
  obtain ⟨inside, rfl⟩ := List.getElem?_eq_some_iff.mp listed
  rw [List.drop_eq_getElem_cons inside, List.map_cons, reads _ _ made, List.prefix_cons_inj]
  exact rest x b later

theorem Needs.buffer {f : BufferId → Except Error β} (rest : ∀ x, Needs params (place + 1) kinds (f x)) :
    Needs params place (.buffer :: kinds) (Value.param bufferId? params place slot >>= f) :=
  .param (fun v x read => by cases v <;> first | rfl | cases read) rest

theorem Needs.message {f : MsgId → Except Error β} (rest : ∀ x, Needs params (place + 1) kinds (f x)) :
    Needs params place (.message :: kinds) (Value.param msgId? params place slot >>= f) :=
  .param (fun v x read => by cases v <;> first | rfl | cases read) rest

theorem Needs.number {f : Int32 → Except Error β} (rest : ∀ x, Needs params (place + 1) kinds (f x)) :
    Needs params place (.number :: kinds) (Value.param int? params place slot >>= f) :=
  .param (fun v x read => by cases v <;> first | rfl | cases read) rest

theorem Needs.list {f : List Value → Except Error β}
    (rest : ∀ x, Needs params (place + 1) kinds (f x)) :
    Needs params place (.list :: kinds) (Value.param list? params place slot >>= f) :=
  .param (fun v x read => by cases v <;> first | rfl | cases read) rest

end Needs
end Value

namespace BacklogRequest

open Value (Needs)

/-- The kinds of the parameters that a slot reads, in their order. -/
def layout? : String → Option (List ParamKind)
  | "receiveBacklog" => some [.buffer, .message, .message, .number, .number, .list]
  | "receiveBacklogFiltered" =>
    some [.buffer, .message, .message, .number, .number, .number, .number, .list]
  | "receiveBacklogForward" =>
    some [.buffer, .message, .message, .number, .number, .number, .list]
  | "receiveBacklogAll" => some [.message, .message, .number, .number, .list]
  | "receiveBacklogAllFiltered" =>
    some [.message, .message, .number, .number, .number, .number, .list]
  | _ => none

section Reading

variable {β : Type} {params : List Value} {place : Nat} {kinds : List ParamKind} {slot : String}

theorem needs_typeAt {f : MessageType → Except Error β}
    (rest : ∀ x, Needs params (place + 1) kinds (f x)) :
    Needs params place (.number :: kinds) (typeAt params place slot >>= f) := by
  rw [typeAt, bind_assoc]
  exact .number fun n => rest (Flags.truncate n.toBitVec)

theorem needs_flagsAt {f : MessageFlag → Except Error β}
    (rest : ∀ x, Needs params (place + 1) kinds (f x)) :
    Needs params place (.number :: kinds) (flagsAt params place slot >>= f) := by
  rw [flagsAt, bind_assoc]
  exact .number fun n => rest (Flags.truncate (n.toBitVec.truncate 8))

/-- A slot takes no parameters that do not begin with its layout. -/
theorem prefix_of_ofReply {answer : BacklogRequest × List Value}
    (taken : ofReply slot params = .ok answer) :
    ∃ kinds, layout? slot = some kinds ∧ kinds <+: params.map Value.kind := by
  suffices ∃ kinds, layout? slot = some kinds ∧ Needs params 0 kinds (ofReply slot params) by
    obtain ⟨kinds, listed, needs⟩ := this
    exact ⟨kinds, listed, needs answer taken⟩
  unfold ofReply at taken ⊢
  dsimp only at taken ⊢
  split at taken
  case h_6 => cases taken
  all_goals refine ⟨_, rfl, ?_⟩
  case h_1 =>
    exact .buffer fun _ => .message fun _ => .message fun _ => .number fun _ => .number fun _ =>
      .list fun _ => .nothing
  case h_2 =>
    exact .buffer fun _ => .message fun _ => .message fun _ => .number fun _ => .number fun _ =>
      needs_typeAt fun _ => needs_flagsAt fun _ => .list fun _ => .nothing
  case h_3 =>
    exact .buffer fun _ => .message fun _ => .message fun _ => .number fun _ =>
      needs_typeAt fun _ => needs_flagsAt fun _ => .list fun _ => .nothing
  case h_4 =>
    exact .message fun _ => .message fun _ => .number fun _ => .number fun _ =>
      .list fun _ => .nothing
  case h_5 =>
    exact .message fun _ => .message fun _ => .number fun _ => .number fun _ =>
      needs_typeAt fun _ => needs_flagsAt fun _ => .list fun _ => .nothing

end Reading

theorem mem_receiveSlots_of_layout? {slot : String} {kinds : List ParamKind}
    (listed : layout? slot = some kinds) : slot ∈ receiveSlots := by
  unfold layout? at listed
  split at listed <;> simp [receiveSlots] at listed ⊢

/-- No layout goes on where another ends. -/
theorem slot_eq_of_shared {slot slot' : String} {kinds kinds' : List ParamKind}
    (listed : layout? slot = some kinds) (listed' : layout? slot' = some kinds')
    (within : kinds <+: kinds') : slot = slot' := by
  have all : ∀ slot ∈ receiveSlots, ∀ slot' ∈ receiveSlots, ∀ kinds ∈ layout? slot,
      ∀ kinds' ∈ layout? slot', kinds <+: kinds' → slot = slot' := by decide
  exact all slot (mem_receiveSlots_of_layout? listed) slot' (mem_receiveSlots_of_layout? listed')
    kinds listed kinds' listed' within

theorem layout?_receiveSlot (r : BacklogRequest) :
    layout? r.receiveSlot = some (r.params.map Value.kind ++ [.list]) := by
  cases r <;> rfl

/-- The reply to a request is not taken by any other slot. -/
theorem ofReply_other (r : BacklogRequest) (entries extra : List Value) {slot : String}
    (other : slot ≠ r.receiveSlot) :
    ∃ error, ofReply slot (r.params ++ .list entries :: extra) = .error error := by
  cases taken : ofReply slot (r.params ++ .list entries :: extra) with
  | error error => exact ⟨error, rfl⟩
  | ok answer =>
    obtain ⟨kinds, listed, begins⟩ := prefix_of_ofReply taken
    have own : r.params.map Value.kind ++ [.list] <+:
        (r.params ++ .list entries :: extra).map Value.kind :=
      ⟨extra.map Value.kind, by simp [Value.kind]⟩
    rcases List.prefix_or_prefix_of_prefix begins own with within | within
    · exact absurd (slot_eq_of_shared listed r.layout?_receiveSlot within) other
    · exact absurd (slot_eq_of_shared r.layout?_receiveSlot listed within).symm other

/-- The filters of a request have no bits without a meaning. -/
def Known (r : BacklogRequest) : Prop :=
  ∀ filter ∈ r.filter?, Flags.all.contains filter.1 = true ∧ Flags.all.contains filter.2 = true

instance (r : BacklogRequest) : Decidable r.Known :=
  inferInstanceAs (Decidable (∀ filter ∈ r.filter?,
    Flags.all.contains filter.1 = true ∧ Flags.all.contains filter.2 = true))

/-- The reply to a request is read as that request and its messages. -/
theorem ofReply_own {r : BacklogRequest} (known : r.Known) (entries extra : List Value) :
    ofReply r.receiveSlot (r.params ++ .list entries :: extra) = .ok (r, entries) := by
  have same : r.map (·) Flags.normalize Flags.normalize = r := by
    rw [map_eq_self_iff]
    simp only [Flags.normalize_eq_self_iff]
    exact ⟨fun _ _ => trivial, known⟩
  rw [ofReply_params, same]

end BacklogRequest

namespace Session

variable {s : Session} {reg : Registry} {f : FeatureSet}

open BacklogRequest (ofReply ofReply_own ofReply_other)

/-- The reply to a request ends the waits for the request, and no other. -/
theorem dispatch_own_reply (has : s.HasBacklog reg f) {r : BacklogRequest} (known : r.Known)
    (entries extra : List Value) :
    ∃ s', dispatch (.sync BacklogRequest.className "" r.receiveSlot
        (r.params ++ .list entries :: extra)) s = .ok () s' ∧ s'.HasBacklog reg f ∧
      ∀ id waited, s.Awaits id waited →
        (waited = r → ((Task.backlog (.waiting id)).turn s').1 =
          .done (.ok (.messages (BacklogRequest.messages entries)))) ∧
        (waited ≠ r → s'.Awaits id waited ∧
          (Task.backlog (.waiting id)).turn s' = (.waiting (.backlog (.waiting id)), s')) := by
  have after := has.answered r entries
  refine ⟨_, by rw [dispatch_reply has, ofReply_own known], after, fun id waited awaits => ?_⟩
  obtain ⟨heard, unheard⟩ := resume_awaits has awaits r entries (s.link.count Metrics.sync)
  refine ⟨fun same => turn_of_granted (heard same), fun differs => ?_⟩
  have waits := unheard differs
  exact ⟨waits, turn_of_nothing (waits.nothing after)⟩

/-- The parameters of a request, a list of messages behind them, and whatever else stands there: the
slot for the replies to the request reads the request and the messages out of them, and every other
slot refuses them. So, in a session whose backlog manager is in its place, calling another slot with
them fails and changes nothing, and calling that slot ends every wait for the request, with the
messages, and no wait for any other. The reply to one request is the reply to no other. -/
theorem reply_reaches_its_request_only (r : BacklogRequest) (known : r.Known)
    (entries extra : List Value) :
    let reply := r.params ++ [.list entries] ++ extra
    (∀ slot, (slot = r.receiveSlot → ofReply slot reply = .ok (r, entries)) ∧
      (slot ≠ r.receiveSlot → ∃ error, ofReply slot reply = .error error)) ∧
    (∀ (s : Session) (reg : Registry) (f : FeatureSet), s.HasBacklog reg f → ∀ slot,
      (slot ≠ r.receiveSlot →
        ∃ error, dispatch (.sync BacklogRequest.className "" slot reply) s = .error error s) ∧
      (slot = r.receiveSlot →
        ∃ s', dispatch (.sync BacklogRequest.className "" slot reply) s = .ok () s' ∧
          s'.HasBacklog reg f ∧ ∀ id waited, s.Awaits id waited →
            (waited = r → ((Task.backlog (.waiting id)).turn s').1 =
              .done (.ok (.messages (BacklogRequest.messages entries)))) ∧
            (waited ≠ r → s'.Awaits id waited ∧
              (Task.backlog (.waiting id)).turn s' = (.waiting (.backlog (.waiting id)), s')))) ∧
    ∀ r' : BacklogRequest, r'.Known → ∀ entries' extra' : List Value,
      r'.receiveSlot = r.receiveSlot → r'.params ++ [.list entries'] ++ extra' = reply → r' = r := by
  intro reply
  have spelt : reply = r.params ++ .list entries :: extra := List.append_assoc ..
  have own := ofReply_own known entries extra
  refine ⟨fun slot => ⟨?_, fun other => ?_⟩, fun s reg f has slot => ⟨fun other => ?_, ?_⟩, ?_⟩
  · rintro rfl
    rw [spelt, own]
  · rw [spelt]
    exact ofReply_other r entries extra other
  · obtain ⟨error, refused⟩ := ofReply_other r entries extra other
    exact ⟨error, by rw [spelt, dispatch_reply has, refused]⟩
  · rintro rfl
    rw [spelt]
    exact dispatch_own_reply has known entries extra
  · intro r' known' entries' extra' slots same
    have spelt' : r'.params ++ .list entries' :: extra' = reply :=
      (List.append_assoc ..).symm.trans same
    have other := ofReply_own known' entries' extra'
    rw [spelt', slots, spelt, own] at other
    exact (congrArg Prod.fst (Except.ok.inj other)).symm

/-- Lines and notices before the hundredth message, with highlights or without. -/
def allLines : BacklogRequest := .bufferFiltered ⟨4⟩ ⟨-1⟩ ⟨100⟩ 50 0 ⟨3⟩ ⟨0⟩

/-- A session in which two requests wait that differ in a filter only. -/
def withTwoRequests : Session :=
  { withManager with
    backlog := ((withManager.backlog.register [highlights]).2.register [allLines]).2 }

theorem hasBacklog_withTwoRequests : withTwoRequests.HasBacklog .standard .none :=
  have has := hasBacklog_withManager
  ⟨has.registry, has.features, has.table, has.tracked, has.manager,
    (has.sound.register rfl [highlights]).register rfl [allLines]⟩

/-- The reply to one of the two, with something behind the messages, is heard by that one only, and no
slot for other replies takes it. -/
theorem highlights_heard_alone :
    highlights.Known ∧ withTwoRequests.HasBacklog .standard .none ∧
    withTwoRequests.Awaits 0 highlights ∧ withTwoRequests.Awaits 1 allLines ∧ allLines ≠ highlights ∧
    let reply := highlights.params ++ [.list [.message line]] ++ [.int 0]
    (∃ error, ofReply "receiveBacklog" reply = .error error) ∧
    ∃ s', dispatch (.sync BacklogRequest.className "" "receiveBacklogFiltered" reply)
        withTwoRequests = .ok () s' ∧
      ((Task.backlog (.waiting 0)).turn s').1 = .done (.ok (.messages [line])) ∧
      ((Task.backlog (.waiting 1)).turn s').1 = .waiting (.backlog (.waiting 1)) := by
  have known : highlights.Known := by decide
  have first : withTwoRequests.Awaits 0 highlights := .head _
  have second : withTwoRequests.Awaits 1 allLines := .tail _ (.head _)
  have differ : allLines ≠ highlights := by decide
  obtain ⟨read, called, -⟩ := reply_reaches_its_request_only highlights known [.message line] [.int 0]
  obtain ⟨s', taken, -, waits⟩ :=
    (called _ _ _ hasBacklog_withTwoRequests "receiveBacklogFiltered").2 rfl
  exact ⟨known, hasBacklog_withTwoRequests, first, second, differ, (read _).2 (by decide), s', taken,
    (waits 0 _ first).1 rfl, congrArg Prod.fst ((waits 1 _ second).2 differ).2⟩

end Session
end Datastream
