import Datastream.Proofs.Proxy.Grammar
import Datastream.Proofs.Wire.Carried
import Datastream.Proofs.Wire.Limits

/-!
# Session messages round trip

A message is found again in the list of its items, whatever its parameters look like, for the list spells
just that message (`spells_toList`). On the wire this holds of all messages that can be written.
-/
namespace Datastream.ProxyMessage

def values : ProxyMessage → List Value
  | sync _ _ _ params => params
  | rpc _ params => params
  | initRequest _ _ => []
  | initData _ _ state => state.map (·.2)
  | heartBeat sent => [.dateTime sent]
  | heartBeatReply sent => [.dateTime sent]

/-- The keys of a state are in order, as `Fields.insert` leaves them. -/
def InOrder : ProxyMessage → Prop
  | initData _ _ state => state.Sorted
  | _ => True

/-- The items of a message spell it, and are what it is written in. -/
theorem spells_toList (m : ProxyMessage) (inOrder : m.InOrder) : Spells m.toList m m.toList := by
  cases m with
  | sync className objectName slot params =>
    exact .sync params (Value.names_ofName className) (Value.names_ofName objectName)
      (Value.names_ofName slot)
  | rpc slot params => exact .rpc params (Value.names_ofName slot)
  | initRequest className objectName =>
    exact .initRequest [] (Value.names_ofName className) (Value.names_ofName objectName)
  | initData className objectName state =>
    have sorted : state.Sorted := inOrder
    have last := (sorted.eq_ofPairs_iff state).mp (Fields.ofPairs_of_sorted sorted).symm
    exact .initData (Value.names_ofName className) (Value.names_ofName objectName)
      (Value.alternates_flatMap state) sorted last
  | heartBeat sent => exact .heartBeat sent []
  | heartBeatReply sent => exact .heartBeatReply sent []

theorem ofList_items (m : ProxyMessage) (inOrder : m.InOrder) : ofList m.toList = .ok m :=
  ofList_of_spells (m.spells_toList inOrder)

/-- Kind and names are carried in any case. -/
theorem carried_items {f : FeatureSet} (m : ProxyMessage)
    (carried : ∀ v ∈ m.values, v.Carried f 64) : ∀ v ∈ m.toList, v.Carried f 64 := by
  have number : (Value.int m.kind).Carried f 64 := .leaf rfl rfl rfl rfl
  cases m with
  | sync className objectName slot params =>
    simp only [toList, List.forall_mem_cons]
    exact ⟨number, .name className, .name objectName, .name slot, carried⟩
  | rpc slot params =>
    simp only [toList, List.forall_mem_cons]
    exact ⟨number, .name slot, carried⟩
  | initRequest className objectName =>
    simp only [toList, List.forall_mem_cons]
    exact ⟨number, .name className, .name objectName, List.forall_mem_nil _⟩
  | initData className objectName state =>
    simp only [values, List.forall_mem_map] at carried
    simp only [toList, List.forall_mem_cons, List.mem_flatMap]
    refine ⟨number, .name className, .name objectName, ?_⟩
    rintro v ⟨entry, member, inside⟩
    rcases List.mem_cons.mp inside with rfl | inside
    · exact .name entry.1
    · exact List.mem_singleton.mp inside ▸ carried entry member
  | heartBeat sent => exact List.forall_mem_cons.mpr ⟨number, carried⟩
  | heartBeatReply sent => exact List.forall_mem_cons.mpr ⟨number, carried⟩

/-- A message is found again in its list. On the wire it is found again if all that it carries is in
normal form, and it can be written just when everything in it fits. -/
theorem ofList_and_decode (m : ProxyMessage) (inOrder : m.InOrder) :
    ofList m.toList = .ok m ∧
      ∀ f, (∀ v ∈ m.values, v.Carried f 64) →
        ((∃ b, m.encode .standard f = .ok b) ↔ Value.AllFit f m.toList) ∧
          ∀ b, m.encode .standard f = .ok b → decode .standard f b = .ok m := by
  have listed := ofList_items m inOrder
  refine ⟨listed, fun f carried => ⟨Value.encodeList_eq_ok_iff f m.toList, fun b written => ?_⟩⟩
  rw [decode, Value.decodeList_of_encodeList (m.carried_items carried) written]
  exact listed

/-- The first second of 2100, which 32 bits of seconds do not reach. -/
def farReading : Reading :=
  ⟨{ Reading.epoch.date with year := 2100, year_mem := by decide, day_mem := by decide },
    Reading.epoch.time⟩

def shown (time : Reading) : ProxyMessage :=
  rpc "2displayMsg(Message)" [.message
    { id := ⟨1⟩, time, type := ⟨1⟩, flag := ⟨0⟩, buffer := ⟨⟨1⟩, ⟨1⟩, ⟨2⟩, 0, some "#a"⟩,
      sender := "n", prefixes := "", realName := "", avatarUrl := "", content := "x" }]

theorem carried_shown (time : Reading) (whole : time.wholeSeconds = time) :
    ∀ v ∈ (shown time).values, v.Carried .none 64 := by
  simp only [shown, values, List.forall_mem_singleton]
  refine .leaf rfl rfl rfl ?_
  have kept : (if FeatureSet.none.has .longTime = true then time.wholeMillis else time.wholeSeconds) =
      time := whole
  simp only [Value.IsNormal, Value.normalize, Message.normalize, kept]
  rfl

/-- Being carried is not enough to be written: a message can be too late for its field. -/
theorem not_all_written :
    ¬ ∀ (f : FeatureSet) (m : ProxyMessage), m.InOrder → (∀ v ∈ m.values, v.Carried f 64) →
      ∃ b, m.encode .standard f = .ok b ∧ decode .standard f b = .ok m := by
  intro all
  obtain ⟨b, wrote, _⟩ := all .none (shown farReading) trivial (carried_shown farReading rfl)
  have refused : (shown farReading).encode .standard .none =
      .error (.malformed .timestampOutOfRange) := rfl
  rw [refused] at wrote
  cases wrote

/-- The same call in 1970 is found again. -/
theorem ofList_and_decode_shown :
    (shown Reading.epoch).InOrder ∧
      (∀ v ∈ (shown Reading.epoch).values, v.Carried .none 64) ∧
        (ofList (shown Reading.epoch).toList = .ok (shown Reading.epoch) ∧
          ∃ b, (shown Reading.epoch).encode .standard .none = .ok b ∧
            decode .standard .none b = .ok (shown Reading.epoch)) := by
  have carried := carried_shown Reading.epoch rfl
  obtain ⟨listed, wire⟩ := ofList_and_decode (shown Reading.epoch) trivial
  exact ⟨trivial, carried, listed, _, rfl, (wire .none carried).2 _ rfl⟩

end Datastream.ProxyMessage
