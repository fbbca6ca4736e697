import Datastream.Handshake.Message
import Datastream.Proofs.Action
import Datastream.Proofs.Value.Extract

/-!
# Descriptions of sessions

The core describes a session by a map with three lists: identities, buffers and networks. A list that is not
there has no items. Of a list that is there every element counts: it is read in full or, if one element is of
another type, the whole description is refused, and the error names the list (`description_whole_or_refused`).

The description is read by `session_state` and `optional`.
-/
namespace Datastream.HandshakeMessage

section Field

variable {α : Type} {read : Value → Option α} {fields : Fields} {key : String}

theorem required_of_get? {v : Value} {x : α} (found : fields.get? key = some v) (taken : read v = some x) :
    required read fields key = .ok x := by
  rw [required, field?, found, Option.bind_some, taken]

/-- A field that must be there is read, or else it is missing or cannot be read. -/
theorem parses_required (read : Value → Option α) (fields : Fields) (key : String) :
    Parses (required read fields key) (fun x => ∃ v, fields.get? key = some v ∧ read v = some x)
      fun cause => cause = .fieldMissing key ∧ ∀ v x, fields.get? key = some v → read v ≠ some x := by
  unfold required
  split
  · rename_i x found
    exact Option.bind_eq_some_iff.mp found
  · rename_i missing
    refine ⟨_, rfl, rfl, fun v x found taken => ?_⟩
    rw [field?, found, Option.bind_some, taken] at missing
    cases missing

end Field

section List

variable {α : Type} (make : α → Value) (state : Fields) (key : String)

/-- Under a key is a list of just these items; where the key is missing there are none. -/
inductive HasList : List α → Prop
  | absent (missing : state.get? key = none) : HasList []
  | present {v : Value} {xs : List α} (found : state.get? key = some v)
      (listed : v.elements? = some (xs.map make)) : HasList xs

/-- Under a key is something else than a list of such items. -/
def Mistyped : Prop := ∃ v, state.get? key = some v ∧ ∀ xs : List α, v.elements? ≠ some (xs.map make)

variable {make state key} {read : Value → Option α} (inverse : ∀ v x, read v = some x ↔ v = make x)

include inverse

theorem optionalList_of_hasList {xs : List α} (has : HasList make state key xs) :
    optionalList read state key = .ok xs := by
  unfold optionalList
  cases has with
  | absent missing => rw [missing]
  | present found listed =>
    rw [found]
    dsimp only
    rw [(Value.listOf?_eq_some_iff inverse _ _).mpr listed]

/-- A list is read in full, or else an element of it is of another type. -/
theorem parses_optionalList :
    Parses (optionalList read state key) (HasList make state key)
      fun cause => cause = .fieldMistyped key ∧ Mistyped make state key := by
  unfold optionalList
  split
  · rename_i missing
    exact .absent missing
  · rename_i v found
    split
    · rename_i xs taken
      exact .present found ((Value.listOf?_eq_some_iff inverse v xs).mp taken)
    · rename_i refused
      refine ⟨_, rfl, rfl, v, found, fun xs listed => ?_⟩
      rw [(Value.listOf?_eq_some_iff inverse v xs).mpr listed] at refused
      cases refused

end List

inductive IsMap (state : Fields) : Value → Prop
  | map : IsMap state (.map state)
  | record (type : RecordType) : IsMap state (.record type state)

theorem fields?_eq_some_iff (v : Value) (state : Fields) : v.fields? = some state ↔ IsMap state v := by
  constructor
  · intro read
    unfold Value.fields? at read
    split at read
    · cases read
      exact .map
    · cases read
      exact .record _
    · cases read
  · rintro (_ | type)
    · rfl
    · rfl

/-- The state of the session, as some fields have it. -/
def HasState (fields state : Fields) : Prop := ∃ v, fields.get? "SessionState" = some v ∧ IsMap state v

/-- The fields describe a session with just these identities, buffers and networks. -/
def Describes (fields : Fields) (identities : List Value) (buffers : List BufferInfo)
    (networks : List NetworkId) : Prop :=
  ∃ state, HasState fields state ∧ HasList id state "Identities" identities ∧
    HasList .bufferInfo state "BufferInfos" buffers ∧ HasList .networkId state "NetworkIds" networks

/-- What is wrong with fields that describe no session. -/
inductive Fault (fields : Fields) : Malformation → Prop
  | state (missing : ∀ state, ¬ HasState fields state) : Fault fields (.fieldMissing "SessionState")
  | identities {state : Fields} (has : HasState fields state)
      (wrong : Mistyped (id : Value → Value) state "Identities") : Fault fields (.fieldMistyped "Identities")
  | buffers {state : Fields} (has : HasState fields state)
      (wrong : Mistyped .bufferInfo state "BufferInfos") : Fault fields (.fieldMistyped "BufferInfos")
  | networks {state : Fields} (has : HasState fields state)
      (wrong : Mistyped .networkId state "NetworkIds") : Fault fields (.fieldMistyped "NetworkIds")

theorem some_inverse (v x : Value) : some v = some x ↔ v = id x := Option.some_inj

section Session

variable {fields : Fields} (session : fields.get? "MsgType" = some (.ofText "SessionInit"))

include session

/-- The state is read first, then its lists one after another. -/
theorem ofFields_session :
    ofFields fields = do
      let state ← required Value.fields? fields "SessionState"
      let identities ← optionalList some state "Identities"
      let buffers ← optionalList Value.bufferInfo? state "BufferInfos"
      let networks ← optionalList Value.networkId? state "NetworkIds"
      return sessionInit identities buffers networks := by
  have kind : field? Value.text? fields "MsgType" = some "SessionInit" := by
    rw [field?, session, Option.bind_some, Value.text?_ofText]
  unfold ofFields
  rw [kind]
  simp only [String.reduceEq, if_false, if_true]

theorem ofFields_of_describes {identities : List Value} {buffers : List BufferInfo}
    {networks : List NetworkId} (described : Describes fields identities buffers networks) :
    ofFields fields = .ok (sessionInit identities buffers networks) := by
  obtain ⟨state, ⟨v, found, isMap⟩, ids, infos, nets⟩ := described
  have read := required_of_get? found ((fields?_eq_some_iff v state).mpr isMap)
  have first := optionalList_of_hasList some_inverse ids
  have second := optionalList_of_hasList Value.bufferInfo?_eq_some_iff infos
  have third := optionalList_of_hasList Value.networkId?_eq_some_iff nets
  rw [ofFields_session session, read]
  simp only [bind, Except.bind, first, second, third]
  rfl

/-- All that the fields describe is read, or they are refused for what is wrong with them. -/
theorem parses_session :
    Parses (ofFields fields) (fun m => ∃ identities buffers networks,
      m = sessionInit identities buffers networks ∧ Describes fields identities buffers networks)
      (Fault fields) := by
  rw [ofFields_session session]
  refine (parses_required ..).bind ?_ fun state ⟨v, found, read⟩ => ?_
  · rintro _ ⟨rfl, missing⟩
    exact .state fun state ⟨v, found, isMap⟩ =>
      missing v state found ((fields?_eq_some_iff v state).mpr isMap)
  have has : HasState fields state := ⟨v, found, (fields?_eq_some_iff v state).mp read⟩
  refine (parses_optionalList some_inverse).bind ?_ fun identities ids => ?_
  · rintro _ ⟨rfl, wrong⟩
    exact .identities has wrong
  refine (parses_optionalList Value.bufferInfo?_eq_some_iff).bind ?_ fun buffers infos => ?_
  · rintro _ ⟨rfl, wrong⟩
    exact .buffers has wrong
  refine (parses_optionalList Value.networkId?_eq_some_iff).bind ?_ fun networks nets => ?_
  · rintro _ ⟨rfl, wrong⟩
    exact .networks has wrong
  exact ⟨identities, buffers, networks, rfl, state, has, ids, infos, nets⟩

/-- A description is read just if all of it has the right type, and then in full. Any other is refused, and
the error names what is wrong. -/
theorem description_whole_or_refused :
    (∀ m, ofFields fields = .ok m ↔ ∃ identities buffers networks,
      m = sessionInit identities buffers networks ∧ Describes fields identities buffers networks) ∧
    ((∀ identities buffers networks, ¬ Describes fields identities buffers networks) →
      ∃ cause, ofFields fields = .error (.malformed cause) ∧ Fault fields cause) := by
  have parses := parses_session session
  refine ⟨fun m => ⟨fun made => ?_, ?_⟩, fun undescribed => ?_⟩
  · rwa [made] at parses
  · rintro ⟨identities, buffers, networks, rfl, described⟩
    exact ofFields_of_describes session described
  · cases read : ofFields fields with
    | ok m =>
      rw [read] at parses
      obtain ⟨identities, buffers, networks, -, described⟩ := parses
      exact absurd described (undescribed identities buffers networks)
    | error error =>
      rw [read] at parses
      obtain ⟨cause, rfl, fault⟩ := parses
      exact ⟨cause, rfl, fault⟩

end Session

/-- A description with one identity, which is a string, some networks, and no buffers. -/
def describedBy (networks : List Value) : Fields :=
  [("MsgType", .ofText "SessionInit"), ("SessionState", .record .identity
    [("Identities", .stringList [some "x"]), ("NetworkIds", .list networks)])]

/-- One network is read; if what comes after it is no network, nothing is read. -/
theorem second_network_mistyped :
    (∀ networks, (describedBy networks).get? "MsgType" = some (.ofText "SessionInit")) ∧
      ofFields (describedBy [.networkId ⟨1⟩]) = .ok (sessionInit [.string (some "x")] [] [⟨1⟩]) ∧
      ∃ cause, ofFields (describedBy [.networkId ⟨1⟩, .int 2]) = .error (.malformed cause) ∧
        Fault (describedBy [.networkId ⟨1⟩, .int 2]) cause := by
  have session (networks : List Value) :
      (describedBy networks).get? "MsgType" = some (.ofText "SessionInit") := rfl
  refine ⟨session, ?_, ?_⟩
  · refine ((description_whole_or_refused (session _)).1 _).mpr ⟨_, _, _, rfl, _, ⟨_, rfl, .record _⟩, ?_⟩
    exact ⟨.present rfl rfl, .absent rfl, .present rfl rfl⟩
  · refine (description_whole_or_refused (session _)).2 fun identities buffers networks described => ?_
    obtain ⟨state, ⟨v, found, isMap⟩, -, -, listed⟩ := described
    obtain rfl := Option.some.inj found
    cases isMap
    rcases listed with missing | ⟨found, elements⟩
    · cases missing
    · obtain rfl := Option.some.inj found
      rcases networks with _ | ⟨_, _ | ⟨_, _⟩⟩ <;> cases elements

end Datastream.HandshakeMessage
