import Datastream.Client.Basic
import Datastream.Proofs.Channel.Observation
import Datastream.Proofs.Handshake.Description
import Datastream.Proofs.Handshake.Layout
import Datastream.Proofs.Handshake.Starting

/-!
# Messages that the client does not act on

While the handshake goes on, the client acts on seven kinds of message. Three more are known to it, those that
clients send. A message of these is read like any other, so that its fields must be there, and is then ignored:
nothing changes, and the next frame is read (`foldl_take_ignored`). A message of these that lacks a field, and
every message of a kind that is not known, cannot be read, and the reading of the connection ends with it.

Messages are read by `from_map` and taken by the handler's `read`.
-/
namespace Datastream

namespace HandshakeMessage

/-- The kinds of message that the client acts on. -/
def actedOn : List String :=
  ["ClientInitAck", "ClientInitReject", "CoreSetupAck", "CoreSetupReject", "ClientLoginAck",
    "ClientLoginReject", "SessionInit"]

inductive ClientKind
  | start
  | login
  | setup

def ClientKind.name : ClientKind → String
  | start => "ClientInit"
  | login => "ClientLogin"
  | setup => "CoreSetupData"

theorem ClientKind.name_inj {k k' : ClientKind} (same : k.name = k'.name) : k = k' := by
  cases k <;> cases k' <;> first | rfl | simp [name] at same

/-- The client ignores what it does not act on. -/
theorem receive_unmatched (h : Handshake) {m : HandshakeMessage} (unmatched : m.kind ∉ actedOn) :
    h.receive m = (false, h) := by
  cases m with
  | clientInit | clientLogin | coreSetupData => rfl
  | clientInitAck | clientInitReject | coreSetupAck | coreSetupReject | clientLoginAck | clientLoginReject
  | sessionInit => simp [kind, actedOn] at unmatched

/-- Under a key is something that reads as `x`. -/
def Gives {α : Type} (read : Value → Option α) (fields : Fields) (key : String) (x : α) : Prop :=
  ∃ v, fields.get? key = some v ∧ read v = some x

theorem Gives.unique {α : Type} {read : Value → Option α} {fields : Fields} {key : String} {x y : α}
    (given : Gives read fields key x) (other : Gives read fields key y) : x = y := by
  obtain ⟨v, found, taken⟩ := given
  obtain ⟨w, found', taken'⟩ := other
  obtain rfl : v = w := Option.some.inj (found.symm.trans found')
  exact Option.some.inj (taken.symm.trans taken')

/-- The fields that must be there in a message that clients send are there. -/
inductive Complete (fields : Fields) : ClientKind → Prop
  | start {version : String} (given : Gives Value.text? fields "ClientVersion" version) : Complete fields .start
  | login {user password : String} (named : Gives Value.text? fields "User" user)
      (secret : Gives Value.text? fields "Password" password) : Complete fields .login
  | setup {data : Fields} {user password : String} (given : Gives Value.fields? fields "SetupData" data)
      (named : Gives Value.text? data "AdminUser" user)
      (secret : Gives Value.text? data "AdminPasswd" password) : Complete fields .setup

/-- The first of these fields that is not there, or that has another type. -/
inductive Lacks (fields : Fields) : ClientKind → String → Prop
  | version (missing : ∀ version, ¬ Gives Value.text? fields "ClientVersion" version) :
      Lacks fields .start "ClientVersion"
  | user (missing : ∀ user, ¬ Gives Value.text? fields "User" user) : Lacks fields .login "User"
  | password {user : String} (named : Gives Value.text? fields "User" user)
      (missing : ∀ password, ¬ Gives Value.text? fields "Password" password) :
      Lacks fields .login "Password"
  | data (missing : ∀ data, ¬ Gives Value.fields? fields "SetupData" data) : Lacks fields .setup "SetupData"
  | adminUser {data : Fields} (given : Gives Value.fields? fields "SetupData" data)
      (missing : ∀ user, ¬ Gives Value.text? data "AdminUser" user) : Lacks fields .setup "AdminUser"
  | adminPassword {data : Fields} {user : String} (given : Gives Value.fields? fields "SetupData" data)
      (named : Gives Value.text? data "AdminUser" user)
      (missing : ∀ password, ¬ Gives Value.text? data "AdminPasswd" password) :
      Lacks fields .setup "AdminPasswd"

/-- A message of this kind with these fields is read and ignored: clients send such messages. -/
def Ignored (fields : Fields) (kind : String) : Prop := ∃ k : ClientKind, kind = k.name ∧ Complete fields k

/-- Why another message that the client does not act on cannot be read. -/
inductive Refused (fields : Fields) : String → Error → Prop
  | unknown {kind : String} (strange : ∀ k : ClientKind, kind ≠ k.name) :
      Refused fields kind (.unexpectedMessage kind)
  | lacks {k : ClientKind} {key : String} (missing : Lacks fields k key) :
      Refused fields k.name (.malformed (.fieldMissing key))

section Fields

variable {fields : Fields} {k : ClientKind} {kind : String} {error : Error}

/-- A field that is lacking is none that is there. -/
theorem Lacks.not_complete {key : String} (lacks : Lacks fields k key) : ¬ Complete fields k := by
  intro complete
  cases lacks with
  | version missing =>
    cases complete with
    | start given => exact missing _ given
  | user missing =>
    cases complete with
    | login named secret => exact missing _ named
  | password _ missing =>
    cases complete with
    | login named secret => exact missing _ secret
  | data missing =>
    cases complete with
    | setup given named secret => exact missing _ given
  | adminUser given missing =>
    cases complete with
    | setup given' named secret =>
      obtain rfl := given.unique given'
      exact missing _ named
  | adminPassword given _ missing =>
    cases complete with
    | setup given' named secret =>
      obtain rfl := given.unique given'
      exact missing _ secret

theorem Refused.not_ignored (refused : Refused fields kind error) : ¬ Ignored fields kind := by
  rintro ⟨k, same, complete⟩
  cases refused with
  | unknown strange => exact strange k same
  | lacks missing =>
    obtain rfl := ClientKind.name_inj same
    exact missing.not_complete complete

/-- No refusal concerns the one message only. -/
theorem Refused.fatal (refused : Refused fields kind error) : error.isRouting = false := by
  cases refused <;> rfl

end Fields

section Kinds

variable {fields : Fields} {kind : String}

/-- Reads one field that must be there, and then the rest. -/
theorem parses_after {α β : Type} {read : Value → Option α} {fields : Fields} {key : String}
    {rest : α → Except Error β} {P : β → Prop} {lacks : String → Prop}
    (missing : (∀ x, ¬ Gives read fields key x) → lacks key)
    (found : ∀ x, Gives read fields key x →
      Parses (rest x) P fun cause => ∃ key, cause = .fieldMissing key ∧ lacks key) :
    Parses (required read fields key >>= rest) P fun cause => ∃ key, cause = .fieldMissing key ∧ lacks key := by
  apply (parses_required read fields key).bind
  · rintro _ ⟨rfl, absent⟩
    exact ⟨key, rfl, missing fun x ⟨v, stored, taken⟩ => absent v x stored taken⟩
  · exact found

/-- What clients send is read if all its fields are there. -/
theorem parses_sent {k : ClientKind} (told : kind? fields = some k.name) :
    Parses (ofFields fields) (fun m => m.kind = k.name ∧ Complete fields k)
      fun cause => ∃ key, cause = .fieldMissing key ∧ Lacks fields k key := by
  have found : field? Value.text? fields "MsgType" = some k.name := told
  unfold ofFields
  rw [found]
  cases k with
  | start =>
    simp only [ClientKind.name, if_true]
    refine parses_after .version fun version given => ?_
    exact ⟨rfl, .start given⟩
  | login =>
    simp only [ClientKind.name, String.reduceEq, if_false, if_true]
    refine parses_after .user fun user named => ?_
    refine parses_after (.password named) fun password secret => ?_
    exact ⟨rfl, .login named secret⟩
  | setup =>
    simp only [ClientKind.name, String.reduceEq, if_false, if_true]
    refine parses_after .data fun data given => ?_
    refine parses_after (.adminUser given) fun user named => ?_
    refine parses_after (.adminPassword given named) fun password secret => ?_
    exact ⟨rfl, .setup given named secret⟩

theorem ofFields_unknown (told : kind? fields = some kind) (unmatched : kind ∉ actedOn)
    (strange : ∀ k : ClientKind, kind ≠ k.name) :
    ofFields fields = .error (.unexpectedMessage kind) := by
  have found : field? Value.text? fields "MsgType" = some kind := told
  have start : kind ≠ "ClientInit" := strange .start
  have login : kind ≠ "ClientLogin" := strange .login
  have setup : kind ≠ "CoreSetupData" := strange .setup
  simp only [actedOn, List.mem_cons, List.not_mem_nil, or_false, not_or] at unmatched
  unfold ofFields
  rw [found]
  simp only [unmatched, start, login, setup, if_false]
  rfl

/-- A message that the client does not act on is read if it is one that clients send and all its fields are
there. -/
theorem ofFields_unmatched (told : kind? fields = some kind) (unmatched : kind ∉ actedOn) :
    (Ignored fields kind ∧ ∃ m, ofFields fields = .ok m ∧ m.kind = kind) ∨
      ∃ error, Refused fields kind error ∧ ofFields fields = .error error := by
  by_cases sent : ∃ k : ClientKind, kind = k.name
  · obtain ⟨k, rfl⟩ := sent
    have parses := parses_sent told
    cases made : ofFields fields with
    | ok m =>
      rw [made] at parses
      obtain ⟨same, complete⟩ := parses
      exact .inl ⟨⟨k, rfl, complete⟩, m, rfl, same⟩
    | error error =>
      rw [made] at parses
      obtain ⟨_, rfl, key, rfl, missing⟩ := parses
      exact .inr ⟨_, .lacks missing, rfl⟩
  · have strange : ∀ k : ClientKind, kind ≠ k.name := not_exists.mp sent
    exact .inr ⟨_, .unknown strange, ofFields_unknown told unmatched strange⟩

end Kinds

/-- The payload is a list in which keys and values alternate, each key a byte array or a string. The fields that
it spells say what kind of message they are, and it is none that the client acts on. -/
structure Unmatched (r : Registry) (f : FeatureSet) (payload : Bytes) (fields : Fields) (kind : String) :
    Prop where
  spells : spelt r f payload = .ok fields
  told : kind? fields = some kind
  unmatched : kind ∉ actedOn

end HandshakeMessage

open HandshakeMessage (Unmatched Ignored Refused)

section Reading

variable {payload : Bytes} {fields : Fields} {kind : String}

/-- A message that the client does not act on changes nothing, whether it can be read or not. -/
theorem Session.readHandshake_unmatched {s : Session}
    (unmatched : Unmatched s.link.registry s.link.features payload fields kind) :
    (Ignored fields kind ∧ readHandshake payload s = .ok false s) ∨
      ∃ error, Refused fields kind error ∧ readHandshake payload s = .error error s := by
  have decoded := HandshakeMessage.decode_eq s.link.registry s.link.features payload
  rw [unmatched.spells] at decoded
  rcases HandshakeMessage.ofFields_unmatched unmatched.told unmatched.unmatched with
    ⟨complete, m, made, same⟩ | ⟨error, refused, failed⟩
  · refine .inl ⟨complete, ?_⟩
    have ignored := HandshakeMessage.receive_unmatched s.handshake (same ▸ unmatched.unmatched)
    rcases s.readHandshake_cases payload with ⟨m', ok, ran⟩ | ⟨error, failed, ran⟩
    · obtain rfl : m = m' := Except.ok.inj (made.symm.trans (decoded.symm.trans ok))
      rw [ran, ignored]
    · rw [failed] at decoded
      cases made.symm.trans decoded.symm
  · refine .inr ⟨error, refused, ?_⟩
    rcases s.readHandshake_cases payload with ⟨m, ok, ran⟩ | ⟨error', failed', ran⟩
    · rw [ok] at decoded
      cases failed.symm.trans decoded.symm
    · obtain rfl : error = error' := Except.error.inj (failed.symm.trans (decoded.symm.trans failed'))
      exact ran

end Reading

section Loop

variable {c : Channel Run}

def Channel.counting (c : Channel Run) (payload : Bytes) : Channel Run :=
  { c with state := c.counted payload }

/-- What the channel makes of a frame that the client does not act on. -/
theorem Channel.take_unmatched (current : c.chain = Run.stages) {payload : Bytes} {fields : Fields}
    {kind : String} (unmatched : Unmatched c.state.session.link.registry c.state.session.link.features
      payload fields kind) :
    (Ignored fields kind ∧ c.take payload = c.counting payload) ∨
      ∃ error, Refused fields kind error ∧ c.take payload = (c.counting payload).endReading := by
  -- Counting the frame leaves the registry and the features that it is read by.
  have counted : Unmatched (c.counted payload).session.link.registry (c.counted payload).session.link.features
      payload fields kind := unmatched
  rcases Session.readHandshake_unmatched counted with ⟨ignored, ran⟩ | ⟨error, refused, ran⟩
  · refine .inl ⟨ignored, take_more current ?_⟩
    simp only [Run.perform, ran]
  · refine .inr ⟨error, refused, ?_⟩
    apply take_failed current _ refused.fatal
    simp only [Run.perform, ran]

/-- However many frames are ignored, the frames after them are read as if nothing but the count had changed. -/
theorem Channel.foldl_take_ignored (current : c.chain = Run.stages) {ignored : List Bytes}
    (each : ∀ payload ∈ ignored, ∃ fields kind, Ignored fields kind ∧
      Unmatched c.state.session.link.registry c.state.session.link.features payload fields kind)
    (more : List Bytes) :
    (ignored ++ more).foldl Channel.take c = more.foldl Channel.take (ignored.foldl Channel.counting c) := by
  induction ignored generalizing c with
  | nil => rfl
  | cons payload rest ih =>
    obtain ⟨⟨fields, kind, first, unmatched⟩, others⟩ := List.forall_mem_cons.mp each
    rcases take_unmatched current unmatched with ⟨-, taken⟩ | ⟨error, refused, -⟩
    · rw [List.cons_append, List.foldl_cons, List.foldl_cons, taken]
      exact @ih (c.counting payload) current others
    · exact absurd first refused.not_ignored

/-- A message of a kind that the client does not act on wakes no call and changes neither the description that
is kept nor the features in force. If clients send such messages and its fields are there, the next frame is
read; any other cannot be read, and the reading ends. -/
theorem unmatched_ignored_or_fatal {s : Session} {payload : Bytes} {fields : Fields} {kind : String}
    (unmatched : Unmatched s.link.registry s.link.features payload fields kind) :
    (Ignored fields kind → Session.readHandshake payload s = .ok false s) ∧
    (¬ Ignored fields kind → ∃ error, Refused fields kind error ∧
      Session.readHandshake payload s = .error error s) ∧
    ∀ c : Channel Run, c.state.session = s → c.chain = Run.stages → ∀ more : List Bytes,
      (Ignored fields kind → (payload :: more).foldl Channel.take c =
        more.foldl Channel.take (c.counting payload)) ∧
      (¬ Ignored fields kind → (payload :: more).foldl Channel.take c =
        (c.counting payload).endReading) := by
  refine ⟨fun ignored => ?_, fun strange => ?_, ?_⟩
  · rcases Session.readHandshake_unmatched unmatched with ⟨-, ran⟩ | ⟨error, refused, -⟩
    · exact ran
    · exact absurd ignored refused.not_ignored
  · rcases Session.readHandshake_unmatched unmatched with ⟨ignored, -⟩ | failed
    · exact absurd ignored strange
    · exact failed
  · rintro c rfl current more
    constructor
    · intro ignored
      apply @Channel.foldl_take_ignored c current [payload]
      simpa using ⟨fields, kind, ignored, unmatched⟩
    · intro strange
      rcases Channel.take_unmatched current unmatched with ⟨ignored, -⟩ | ⟨error, -, taken⟩
      · exact absurd ignored strange
      · have idle : (c.counting payload).endReading.Idle := ⟨rfl, rfl⟩
        rw [List.foldl_cons, taken, idle.foldl_take]

/-- A list of one key and its value, by which a message is of the kind `Foo`. -/
def strangeFrame : Bytes :=
  [0, 0, 0, 2, 0, 0, 0, 12, 0, 0, 0, 0, 7, 77, 115, 103, 84, 121, 112, 101,
    0, 0, 0, 10, 0, 0, 0, 0, 6, 0, 70, 0, 111, 0, 111]

theorem unmatched_strangeFrame :
    Unmatched .standard .none strangeFrame (Fields.ofPairs [("MsgType", .ofText "Foo")]) "Foo" :=
  ⟨by with_unfolding_all rfl, rfl, by decide⟩

/-- A client gets a login, a message of a kind that is not known, and a login again. It ignores the first of
these and stops reading at the second. -/
theorem login_ignored_until_strange_kind :
    let s := Session.fresh .epoch
    let c := Channel.start ⟨64⟩ Run.stages { session := s, limit := 10 }
    let login := ((HandshakeMessage.clientLogin "u" "p").encode .standard .none).toOption.getD []
    Session.readHandshake login s = .ok false s ∧
      [login, strangeFrame, login].foldl Channel.take c =
        ((c.counting login).counting strangeFrame).endReading := by
  intro s c login
  have unmatched : Unmatched .standard .none login
      (Fields.ofPairs (HandshakeMessage.clientLogin "u" "p").toFields) "ClientLogin" :=
    ⟨by with_unfolding_all rfl, rfl, by decide⟩
  have ignored : Ignored (Fields.ofPairs (HandshakeMessage.clientLogin "u" "p").toFields) "ClientLogin" :=
    ⟨.login, rfl, .login ⟨_, rfl, rfl⟩ ⟨_, rfl, rfl⟩⟩
  have strange : ¬ Ignored (Fields.ofPairs [("MsgType", .ofText "Foo")]) "Foo" := by
    rintro ⟨k, same, -⟩
    cases k <;> simp [HandshakeMessage.ClientKind.name] at same
  have first := @unmatched_ignored_or_fatal s _ _ _ unmatched
  have second := @unmatched_ignored_or_fatal (c.counting login).state.session _ _ _ unmatched_strangeFrame
  refine ⟨first.1 ignored, ?_⟩
  rw [(first.2.2 c rfl rfl _).1 ignored]
  exact (second.2.2 (c.counting login) rfl rfl _).2 strange

/-- Not every message of a kind that the client does not act on is ignored: neither one of a kind that is not
known, nor a login that names no user. -/
theorem strange_kind_and_bare_login_fatal :
    let s := Session.fresh .epoch
    let bare := ((SpeltField.frame .standard .none
      [⟨.string, "MsgType", .ofText "ClientLogin"⟩]).toOption).getD []
    (Unmatched .standard .none strangeFrame (Fields.ofPairs [("MsgType", .ofText "Foo")]) "Foo" ∧
      Session.readHandshake strangeFrame s = .error (.unexpectedMessage "Foo") s) ∧
    Unmatched .standard .none bare (Fields.ofPairs [("MsgType", .ofText "ClientLogin")]) "ClientLogin" ∧
      Session.readHandshake bare s = .error (.malformed (.fieldMissing "User")) s := by
  intro s bare
  refine ⟨⟨unmatched_strangeFrame, by with_unfolding_all rfl⟩, ⟨?_, rfl, by decide⟩, ?_⟩
  · with_unfolding_all rfl
  · with_unfolding_all rfl

end Loop
end Datastream
