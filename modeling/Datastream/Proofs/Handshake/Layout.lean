import Datastream.Proofs.Handshake.RoundTrip
import Datastream.Proofs.Value.Pairs
import Mathlib.Data.List.Flatten

/-!
# Handshake frames by their fields

A frame of the handshake lists keys and values in turn, and each key is a byte array or a string. What the
frame says is what the map of its fields says (`decode_frame`), so it does not matter in which order and how
the keys are spelt. Of a message only the fields that its kind is written with are read (`ofFields_congr`), so
that other fields may stand anywhere among them.

The map of the fields is read by `from_map`.
-/
namespace Datastream

inductive KeyType
  | byteArray
  | string
  deriving DecidableEq

/-- A field as a frame spells it. -/
structure SpeltField where
  keyType : KeyType
  key : String
  value : Value

namespace SpeltField

def speltKey (field : SpeltField) : Value :=
  match field.keyType with
  | .byteArray => .ofName field.key
  | .string => .ofText field.key

def entry (field : SpeltField) : String × Value := (field.key, field.value)

def items (fields : List SpeltField) : List Value :=
  fields.flatMap fun field => [field.speltKey, field.value]

/-- The payload of the frame that lists some fields. -/
def frame (r : Registry) (f : FeatureSet) (fields : List SpeltField) : Except Error Bytes :=
  (Value.encodeList r f (items fields)).toExcept

def map (fields : List SpeltField) : Fields := Fields.ofPairs (fields.map entry)

theorem key?_speltKey (field : SpeltField) : HandshakeMessage.key? field.speltKey = some field.entry.1 := by
  rcases field with ⟨_ | _, key, value⟩
  · exact HandshakeMessage.key?_ofName key
  · rfl

theorem carried_items {f : FeatureSet} {fields : List SpeltField}
    (carried : ∀ field ∈ fields, field.value.Carried f 64) : ∀ v ∈ items fields, v.Carried f 64 := by
  rintro v member
  obtain ⟨field, among, inside⟩ := List.mem_flatMap.mp member
  rcases List.mem_cons.mp inside with rfl | inside
  · rcases field with ⟨_ | _, key, value⟩
    · exact .name key
    · exact .leaf rfl rfl rfl rfl
  · exact List.mem_singleton.mp inside ▸ carried field among

/-- If the frame of some fields can be written, it can be written with some of them left out. -/
theorem frame_of_sublist {r : Registry} {f : FeatureSet} {fields fewer : List SpeltField} {b : Bytes}
    (left : fewer.Sublist fields) (written : frame r f fields = .ok b) :
    ∃ b', frame r f fewer = .ok b' := by
  have inside : (items fewer).Sublist (items fields) := left.flatMap _
  obtain ⟨unstopped, -⟩ := (Output.toExcept_eq_ok_iff _ _).mp written
  obtain ⟨counted, each⟩ := (Wire.stop_encodeList r f _).mp unstopped
  refine ⟨_, (Output.toExcept_eq_ok_iff _ _).mpr ⟨(Wire.stop_encodeList r f _).mpr ⟨?_, ?_⟩, rfl⟩⟩
  · exact Nat.le_trans inside.length_le counted
  · exact fun v member => each v (inside.subset member)

end SpeltField

namespace HandshakeMessage

open SpeltField (frame)

/-- A frame says what the map of its fields says. -/
theorem decode_frame {r : Registry} {f : FeatureSet} {fields : List SpeltField} {b : Bytes}
    (carried : ∀ field ∈ fields, field.value.Carried f 64) (written : frame r f fields = .ok b) :
    decode r f b = ofFields (SpeltField.map fields) := by
  rw [decode, Value.decodeList_of_encodeList (SpeltField.carried_items carried) written]
  exact ofList_flatMap SpeltField.key?_speltKey fields

section Congr

variable {α : Type} {read : Value → Option α} {fields others : Fields} {key : String}

theorem field?_congr (same : fields.get? key = others.get? key) :
    field? read fields key = field? read others key := by
  rw [field?, field?, same]

theorem required_congr (same : fields.get? key = others.get? key) :
    required read fields key = required read others key := by
  rw [required, required, field?_congr same]

theorem featuresOf_congr (mask : fields.get? key = others.get? key)
    (names : fields.get? "FeatureList" = others.get? "FeatureList") :
    featuresOf fields key = featuresOf others key := by
  rw [featuresOf, featuresOf, field?_congr mask, field?_congr names]

end Congr

/-- Every message has a kind, and the messages of a kind are written with fields under certain keys. Of a
kind that is not known, or that is not told, no more is read. -/
def Uses (kind : Option String) (key : String) : Prop :=
  key = "MsgType" ∨ ∃ m : HandshakeMessage, kind = some m.kind ∧ key ∈ m.toFields.map (·.1)

def kind? (fields : Fields) : Option String := field? Value.text? fields "MsgType"

/-- Fields that agree under the keys that their kind uses say the same. -/
theorem ofFields_congr {fields others : Fields}
    (same : ∀ key, Uses (kind? fields) key → fields.get? key = others.get? key) :
    ofFields fields = ofFields others := by
  have kinds : kind? fields = field? Value.text? others "MsgType" := field?_congr (same _ (.inl rfl))
  unfold ofFields
  rw [← kinds, ← kind?]
  cases told : kind? fields with
  | none => rfl
  | some kind =>
    have agree (m : HandshakeMessage) (isKind : kind = m.kind) :
        ∀ key ∈ m.toFields.map (·.1), fields.get? key = others.get? key := fun key among =>
      same key (.inr ⟨m, told.trans (congrArg some isKind), among⟩)
    dsimp only
    -- Kind by kind, by a message of the kind that is written with all that is asked for.
    refine ite_congr rfl (fun isKind => ?_) fun _ => ?_
    · have uses := agree (clientInit "" "" .none) isKind
      simp only [toFields, featureNames, List.map_cons, List.forall_mem_cons] at uses
      obtain ⟨-, version, date, mask, names, -⟩ := uses
      rw [required_congr version, field?_congr date, featuresOf_congr mask names]
    refine ite_congr rfl (fun isKind => ?_) fun _ => ?_
    · have uses := agree (clientInitAck .none [] [] (some true)) isKind
      simp only [toFields, featureNames, Option.map_some, Option.toList_some, List.cons_append,
        List.nil_append, List.map_cons, List.forall_mem_cons] at uses
      obtain ⟨-, mask, backends, authenticators, configured, names, -⟩ := uses
      rw [featuresOf_congr mask names, field?_congr backends, field?_congr authenticators,
        field?_congr configured]
    refine ite_congr rfl (fun isKind => ?_) fun _ => ?_
    · rw [field?_congr (agree (clientInitReject (some "")) isKind "Error" (by decide))]
    refine ite_congr rfl (fun isKind => ?_) fun _ => ?_
    · have uses := agree (clientLogin "" "") isKind
      simp only [toFields, List.map_cons, List.forall_mem_cons] at uses
      obtain ⟨-, user, password, -⟩ := uses
      rw [required_congr user, required_congr password]
    refine ite_congr rfl (fun _ => rfl) fun _ => ?_
    refine ite_congr rfl (fun isKind => ?_) fun _ => ?_
    · rw [field?_congr (agree (clientLoginReject (some "")) isKind "Error" (by decide))]
    refine ite_congr rfl (fun isKind => ?_) fun _ => ?_
    · rw [required_congr (agree (coreSetupData "" "" "" [] "" []) isKind "SetupData" (by decide))]
    refine ite_congr rfl (fun _ => rfl) fun _ => ?_
    refine ite_congr rfl (fun isKind => ?_) fun _ => ?_
    · rw [field?_congr (agree (coreSetupReject (some "")) isKind "Error" (by decide))]
    refine ite_congr rfl (fun isKind => ?_) fun _ => rfl
    · rw [required_congr (agree (sessionInit [] [] []) isKind "SessionState" (by decide))]

/-- Of fields with distinct keys neither the order nor the types of the keys matter. Of fields with one key
the last counts, and fields under keys that their kind does not use, wherever they stand, do not. -/
theorem frame_means_its_fields (r : Registry) (f : FeatureSet) (fields : List SpeltField)
    (carried : ∀ field ∈ fields, field.value.Carried f 64) {b : Bytes}
    (written : frame r f fields = .ok b) :
    (∀ others b', (fields.map (·.key)).Nodup →
      (others.map SpeltField.entry).Perm (fields.map SpeltField.entry) → frame r f others = .ok b' →
        decode r f b' = decode r f b) ∧
    (∃ b', frame r f (lastByKey (·.key) fields) = .ok b' ∧ decode r f b' = decode r f b) ∧
    ∀ others b' (own : SpeltField → Bool), others.filter own = fields →
      (∀ field ∈ others, own field = false →
        field.value.Carried f 64 ∧ ¬ Uses (kind? (SpeltField.map fields)) field.key) →
      frame r f others = .ok b' → decode r f b' = decode r f b := by
  have meant := decode_frame carried written
  refine ⟨fun others b' distinct same written' => ?_, ?_, fun others b' own kept foreign written' => ?_⟩
  · have carried' : ∀ field ∈ others, field.value.Carried f 64 := fun field member => by
      obtain ⟨field', among, alike⟩ := List.mem_map.mp (same.subset (List.mem_map_of_mem member))
      have value : field'.value = field.value := congrArg Prod.snd alike
      exact value ▸ carried field' among
    have distinct' : ((fields.map SpeltField.entry).map Prod.fst).Nodup := by
      rwa [List.map_map]
    rw [decode_frame carried' written', meant, SpeltField.map, Fields.ofPairs_eq_of_perm distinct' same]
    rfl
  · have left := lastByKey_sublist (·.key) fields
    obtain ⟨b', written'⟩ := SpeltField.frame_of_sublist left written
    refine ⟨b', written', ?_⟩
    rw [decode_frame (fun field member => carried field (left.subset member)) written', meant]
    have pairs := map_lastByKey Prod.fst SpeltField.entry fields
    exact congrArg ofFields ((congrArg Fields.ofPairs pairs).trans (Fields.ofPairs_lastByKey _))
  · have carried' : ∀ field ∈ others, field.value.Carried f 64 := fun field member => by
      cases own' : own field with
      | true => exact carried field (kept ▸ List.mem_filter.mpr ⟨member, own'⟩)
      | false => exact (foreign field member own').1
    rw [decode_frame carried' written', meant]
    refine (ofFields_congr fun key used => ?_).symm
    subst kept
    refine Fields.get?_ofPairs_filter SpeltField.entry own fun field member own' same => ?_
    subst same
    exact (foreign field member own').2 used

def loginFields : List SpeltField :=
  [⟨.byteArray, "MsgType", .ofText "ClientLogin"⟩, ⟨.byteArray, "User", .ofText "n"⟩,
   ⟨.string, "Password", .ofText "x"⟩]

def reversedLogin : List SpeltField :=
  [⟨.byteArray, "Password", .ofText "x"⟩, ⟨.string, "User", .ofText "n"⟩,
   ⟨.string, "MsgType", .ofText "ClientLogin"⟩]

/-- A login has no field for an error. -/
theorem error_unused : ¬ Uses (some "ClientLogin") "Error" := by
  rintro (same | ⟨m, isKind, among⟩)
  · exact absurd same (by decide)
  · cases m <;> simp [kind, toFields] at isKind among

/-- The login in reverse, with a user that is replaced, and with a field for an error. -/
theorem login_in_any_layout :
    (∀ field ∈ loginFields, field.value.Carried .none 64) ∧ (loginFields.map (·.key)).Nodup ∧
    ∃ b, frame .standard .none loginFields = .ok b ∧ decode .standard .none b = .ok (clientLogin "n" "x") ∧
      (∃ b', frame .standard .none reversedLogin = .ok b' ∧
        decode .standard .none b' = .ok (clientLogin "n" "x")) ∧
      (∃ b', frame .standard .none (⟨.string, "User", .int 7⟩ :: loginFields) = .ok b' ∧
        decode .standard .none b' = .ok (clientLogin "n" "x")) ∧
      ∃ b', frame .standard .none (⟨.string, "Error", .int 7⟩ :: loginFields) = .ok b' ∧
        decode .standard .none b' = .ok (clientLogin "n" "x") := by
  have number : (Value.int 7).Carried .none 64 := .leaf rfl rfl rfl rfl
  have text (s : String) : (Value.ofText s).Carried .none 64 := .leaf rfl rfl rfl rfl
  have carried : ∀ field ∈ loginFields, field.value.Carried .none 64 := by
    simp only [loginFields, List.forall_mem_cons]
    exact ⟨text _, text _, text _, List.forall_mem_nil _⟩
  have distinct : (loginFields.map (·.key)).Nodup := by decide
  have said := decode_frame (r := .standard) carried rfl
  obtain ⟨reordered, -, extended⟩ := frame_means_its_fields .standard .none loginFields carried rfl
  obtain ⟨-, ⟨b', kept, same⟩, -⟩ := frame_means_its_fields .standard .none
    (⟨.string, "User", .int 7⟩ :: loginFields) (List.forall_mem_cons.mpr ⟨number, carried⟩) rfl
  refine ⟨carried, distinct, _, rfl, said.trans rfl, ⟨_, rfl, ?_⟩, ⟨_, rfl, ?_⟩, ⟨_, rfl, ?_⟩⟩
  · have reversed := (loginFields.map SpeltField.entry).reverse_perm
    exact (reordered reversedLogin _ distinct reversed rfl).trans (said.trans rfl)
  · cases kept
    exact same.symm.trans (said.trans rfl)
  · have others : ∀ field ∈ loginFields, (field.key != "Error") = true := by decide
    have foreign : ∀ field ∈ ⟨.string, "Error", .int 7⟩ :: loginFields, (field.key != "Error") = false →
        field.value.Carried .none 64 ∧ ¬ Uses (kind? (SpeltField.map loginFields)) field.key := by
      refine List.forall_mem_cons.mpr ⟨fun _ => ⟨number, error_unused⟩, fun field member isError => ?_⟩
      cases (others field member).symm.trans isError
    exact (extended _ _ (fun field => field.key != "Error") rfl foreign rfl).trans (said.trans rfl)

end HandshakeMessage
end Datastream
