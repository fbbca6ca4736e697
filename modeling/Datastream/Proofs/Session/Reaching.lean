import Datastream.Proofs.Session.Bystanders
import Datastream.Proofs.Session.Naming

/-!
# Objects that reach the other end

Whether the calls of an object go anywhere is told by two marks that it bears: it has its state, and it
is attached to a session. Only an object's own ends of tracking take a mark away, so an object can go on
to reach the other end that nobody tracks any more: one that the session has forgotten with all others,
one whose name another took, and one that was attached but not added as its name was in use. Unless it
was estranged like that, whatever an object sends or moves, it sends or moves while it is tracked
(`reaches_only_while_live`).

An object sends by `sync` or `rpc` and moves its entry by `rename_object`; a session forgets all
objects by `clear`.
-/
namespace Datastream

namespace Object

def Call.target? : Call → Option Side
  | .update _ => some .client
  | .requestUpdate _ => some .core
  | .sync target .. | .rpc target .. => some target
  | _ => none

/-- Whether a call is one by which an object reaches beyond itself. -/
def Call.reaches : Call → Bool
  | .rename _ => true
  | c => c.target?.isSome

end Object

namespace Session

/-- A call does more than change its object: something is sent, or an entry is moved. -/
def Reaches (s : Session) (handle : Handle) (c : Object.Call) : Prop :=
  let s' := endState (call handle c s)
  s'.link ≠ s.link ∨ s'.repository ≠ s.repository

/-- The name that an object's entry is moved to by a call. -/
def movesTo? (o : Object) : Object.Call → Option String
  | .rename newName => if o.isLive && o.objectName != newName then some newName else none
  | _ => none

section

variable {s s' : Session} {handle other : Handle} {o o' : Object}

theorem call_ok (found : s.objects.object? handle = some o) {c : Object.Call} {effects : List Effect}
    (made : o.call c = .ok (o', effects)) :
    call handle c s = performAll effects { s with objects := s.objects.set handle o' } := by
  rw [call, bind_ok (get_eq s), found]
  show commit handle (o.call c) s = _
  rw [made]
  rfl

theorem call_error (found : s.objects.object? handle = some o) {c : Object.Call} {error : Error}
    (failed : o.call c = .error error) : call handle c s = .error error s := by
  rw [call, bind_ok (get_eq s), found]
  show commit handle (o.call c) s = _
  rw [failed]
  rfl

/-- What an object asks to be sent touches nothing else, and is not sent unless the object is live and
it is for the core. -/
theorem performAll_if_live (o : Object) {e : Effect} (stays : e.renames = false) {elsewhere : Prop}
    (silent : elsewhere → (endState (perform e s)).link = s.link) :
    let s' := endState (performAll (if o.isLive then [e] else []) s)
    Untouched s s' ∧ (o.isLive = false ∨ elsewhere → s'.link = s.link) := by
  cases o.isLive with
  | false => exact ⟨.refl s, fun _ => rfl⟩
  | true =>
    rw [if_pos rfl, performAll_singleton]
    exact ⟨untouched_perform stays, fun quiet => silent (quiet.resolve_left nofun)⟩

theorem performAll_sync (o : Object) (target : Side) (slot : String) (params : List Value) (s : Session) :
    let s' := endState (performAll (o.sync target slot params) s)
    Untouched s s' ∧ (o.isLive = false ∨ target = .client → s'.link = s.link) :=
  performAll_if_live o rfl (by rintro rfl; rfl)

theorem performAll_rpc (o : Object) (target : Side) (slot : String) (params : List Value) (s : Session) :
    let s' := endState (performAll (o.rpc target slot params) s)
    Untouched s s' ∧ (o.isLive = false ∨ target = .client → s'.link = s.link) :=
  performAll_if_live o rfl (by rintro rfl; rfl)

/-- What a call leaves behind: its object with the marks it had, an entry that may have been moved, and a
link on which nothing was sent unless the object is live and the call is for the core. -/
structure Called (s s' : Session) (handle : Handle) (o o' : Object) (c : Object.Call) : Prop where
  alters : Alters s s' handle o'
  initialized : o'.initialized = o.initialized
  attached : o'.attached = o.attached
  poisoned : o'.poisoned = o.poisoned
  repository : s'.repository = match movesTo? o c with
    | some newName => (s.repository.rename s.isLive o.className o.objectName newName).2
    | none => s.repository
  link : o.isLive = false ∨ c.target? ≠ some .core → s'.link = s.link

theorem called_refl (found : s.objects.object? handle = some o) {c : Object.Call}
    (stays : movesTo? o c = none) : Called s s handle o o c where
  alters := ⟨(Store.set_self found).symm, rfl, rfl⟩
  initialized := rfl
  attached := rfl
  poisoned := rfl
  repository := by rw [stays]
  link _ := rfl

theorem called_of_untouched {c : Object.Call} (stays : movesTo? o c = none)
    (initialized : o'.initialized = o.initialized) (attached : o'.attached = o.attached)
    (poisoned : o'.poisoned = o.poisoned)
    (untouched : Untouched { s with objects := s.objects.set handle o' } s')
    (link : o.isLive = false ∨ c.target? ≠ some .core → s'.link = s.link) :
    Called s s' handle o o' c where
  alters := ⟨untouched.objects, untouched.rpcHandler, untouched.invokers⟩
  initialized := initialized
  attached := attached
  poisoned := poisoned
  repository := by rw [stays, untouched.repository]
  link := link

theorem not_core_iff (target : Side) : some target ≠ some Side.core ↔ target = .client := by
  cases target <;> simp

theorem called_update (found : s.objects.object? handle = some o) (properties : Fields) :
    ∃ o', Called s (endState (call handle (.update properties) s)) handle o o'
      (.update properties) := by
  cases taken : o.body.withProperties properties with
  | error error =>
    have failed : o.call (.update properties) = .error error := by
      rw [Object.call, Object.update, taken]
      rfl
    rw [call_error found failed]
    exact ⟨o, called_refl found rfl⟩
  | ok body =>
    have made : o.call (.update properties) =
        .ok ({ o with body }, Object.sync { o with body } .client "update" [.map properties]) := by
      rw [Object.call, Object.update, taken]
      rfl
    have sent := performAll_sync { o with body } .client "update" [.map properties]
      { s with objects := s.objects.set handle { o with body } }
    rw [call_ok found made]
    exact ⟨{ o with body }, called_of_untouched rfl rfl rfl rfl sent.1 fun _ => sent.2 (.inr rfl)⟩

/-- A live object that gets another name asks for its entry to be moved. -/
theorem called_rename (found : s.objects.object? handle = some o) (newName : String) :
    ∃ o', Called s (endState (call handle (.rename newName) s)) handle o o' (.rename newName) := by
  by_cases same : o.objectName = newName
  · have made : o.call (.rename newName) = .ok (o, []) := by
      rw [Object.call, ← same, Object.rename_self]
    rw [call_ok found made, Store.set_self found]
    exact ⟨o, called_refl found (by simp [movesTo?, same])⟩
  · let renamed : Object := { o with objectName := newName }
    cases live : o.isLive with
    | false =>
      have made : o.call (.rename newName) = .ok (renamed, []) := by
        rw [Object.call, Object.rename, if_neg same, live]
        rfl
      rw [call_ok found made]
      exact ⟨renamed, called_of_untouched (by simp [movesTo?, live]) rfl rfl rfl (.refl _)
        fun _ => rfl⟩
    | true =>
      have made : o.call (.rename newName) =
          .ok (renamed, [.rekey o.className o.objectName newName]) := by
        rw [Object.call, Object.rename, if_neg same, live]
        rfl
      have moves : movesTo? o (.rename newName) = some newName := by simp [movesTo?, live, same]
      rw [call_ok found made, performAll_singleton]
      refine ⟨renamed, ⟨rfl, rfl, rfl⟩, rfl, rfl, rfl, ?_, fun _ => rfl⟩
      rw [moves]
      show (Repository.rename _ _ _ _ _).2 = _
      rw [isLive_setObject]

/-- Whatever is called, by which an object may reach beyond itself. -/
theorem called_call (found : s.objects.object? handle = some o) {c : Object.Call}
    (reaching : c.reaches = true) :
    ∃ o', Called s (endState (call handle c s)) handle o o' c := by
  cases c with
  | update properties => exact called_update found properties
  | requestUpdate properties =>
    have sent := performAll_sync o .core "requestUpdate" [.map (properties.getD o.body.properties)]
      { s with objects := s.objects.set handle o }
    rw [call_ok found rfl]
    exact ⟨_, called_of_untouched rfl rfl rfl rfl sent.1 fun quiet =>
      sent.2 (quiet.imp_right fun elsewhere => absurd rfl elsewhere)⟩
  | sync target slot params =>
    have sent := performAll_sync o target slot params { s with objects := s.objects.set handle o }
    rw [call_ok found rfl]
    exact ⟨_, called_of_untouched rfl rfl rfl rfl sent.1 fun quiet =>
      sent.2 (quiet.imp_right (not_core_iff target).mp)⟩
  | rpc target slot params =>
    have sent := performAll_rpc o target slot params { s with objects := s.objects.set handle o }
    rw [call_ok found rfl]
    exact ⟨_, called_of_untouched rfl rfl rfl rfl sent.1 fun quiet =>
      sent.2 (quiet.imp_right (not_core_iff target).mp)⟩
  | rename newName => exact called_rename found newName
  | _ => cases reaching

/-- What a live object sends to the core is handed to the link. -/
theorem call_sync_of_live (found : s.objects.object? handle = some o) (live : o.isLive = true)
    (slot : String) (params : List Value) :
    call handle (.sync .core slot params) s = emit (.sync o.className o.objectName slot params) s := by
  have made : o.call (.sync .core slot params) =
      .ok (o, [.sync .core o.className o.objectName slot params]) := by
    rw [Object.call, Object.sync, if_pos live]
  rw [call_ok found made, Store.set_self found, performAll_singleton]
  rfl

/-- An object that reaches anything is live, and its call is not for the client. -/
theorem live_of_reaches (found : s.objects.object? handle = some o) {c : Object.Call}
    (reaching : c.reaches = true) (reaches : s.Reaches handle c) :
    o.isLive = true ∧ c.target? ≠ some .client := by
  obtain ⟨o', called⟩ := called_call found reaching
  rcases reaches with sent | moved
  · have loud : ¬(o.isLive = false ∨ c.target? ≠ some .core) := fun quiet => sent (called.link quiet)
    simp only [not_or, Bool.not_eq_false, not_not] at loud
    exact ⟨loud.1, by simp [loud.2]⟩
  · rw [called.repository] at moved
    cases c with
    | rename newName =>
      cases live : o.isLive with
      | false => simp [movesTo?, live] at moved
      | true => exact ⟨rfl, nofun⟩
    | _ => exact absurd rfl moved

/-- A rename moves an entry, and one object at most has another name then. -/
theorem rename_cases (s : Session) (className oldName newName : String) :
    let s' := endState (rename className oldName newName s)
    s'.repository = (s.repository.rename s.isLive className oldName newName).2 ∧
      s'.rpcHandler = s.rpcHandler ∧ s'.invokers = s.invokers ∧
      (s'.objects = s.objects ∨ ∃ mover o, s.objects.object? mover = some o ∧
        s'.objects = s.objects.set mover { o with objectName := newName }) := by
  cases tracked : s.find? className oldName with
  | none =>
    rw [rename_unknown tracked]
    exact ⟨rfl, rfl, rfl, .inl rfl⟩
  | some mover =>
    let moved : Session := { s with
      repository := (s.repository.rename s.isLive className oldName newName).2 }
    rw [rename_found tracked]
    rcases lock_cases moved mover with held | ⟨o, found, -, held⟩
    · rw [bind_error held]
      exact ⟨rfl, rfl, rfl, .inl rfl⟩
    · rw [bind_ok held]
      exact ⟨rfl, rfl, rfl, .inr ⟨mover, o, found, rfl⟩⟩

end

section Tracks

variable {s s' : Session} {handle other : Handle} {o o' : Object}

theorem tracks_congr (live : s'.isLive = s.isLive) (repository : s'.repository = s.repository) :
    s'.Tracks handle ↔ s.Tracks handle := by
  simp only [Tracks, find?, live, repository]

/-- Whether moving an entry puts another object's in the place of an object's. -/
def replaces (s : Session) (handle : Handle) (className oldName newName : String) : Bool :=
  (s.find? className oldName).any (· ≠ handle) && s.find? className newName == some handle

/-- An object stays tracked when an entry is moved, unless it is another's and takes its place. -/
theorem Tracks.moved {className oldName newName : String} (tracks : s.Tracks handle)
    (spared : s.replaces handle className oldName newName = false) (live : s'.isLive = s.isLive)
    (repository : s'.repository = (s.repository.rename s.isLive className oldName newName).2) :
    s'.Tracks handle := by
  by_cases moved : s.find? className oldName = some handle
  · have finds := (s.repository.rename_spec s.isLive className oldName newName).2 className newName
    have present : s.repository.find? s.isLive className oldName = some handle := moved
    rw [present] at finds
    refine ⟨className, newName, ?_⟩
    rw [find?, live, repository, finds]
    exact if_pos rfl
  · obtain ⟨className', objectName, tracked⟩ := tracks
    refine ⟨className', objectName, ?_⟩
    rw [find?, live, repository, find?_rename_iff tracked moved]
    intro taken
    obtain ⟨mover, present, same⟩ := Option.map_eq_some_iff.mp taken
    obtain ⟨rfl, rfl⟩ := Prod.mk.inj same
    have another : mover ≠ handle := by
      rintro rfl
      exact moved present
    simp [replaces, present, tracked, another] at spared

/-- An object stays tracked when a name is taken away that it is not found by. -/
theorem Tracks.removed {className objectName : String} (tracks : s.Tracks handle)
    (spared : s.find? className objectName ≠ some handle) (live : s'.isLive = s.isLive)
    (repository : s'.repository = (s.repository.remove s.isLive className objectName).2) :
    s'.Tracks handle := by
  obtain ⟨className', objectName', tracked⟩ := tracks
  refine ⟨className', objectName', ?_⟩
  rw [find?, live, repository, (Repository.remove_spec ..).2, if_neg]
  · exact tracked
  · intro same
    obtain ⟨rfl, rfl⟩ := Prod.mk.inj same
    exact spared tracked

/-- An object stays tracked when another is added. -/
theorem Tracks.added {className objectName : String} (tracks : s.Tracks handle)
    (live : s'.isLive = s.isLive)
    (repository : s'.repository = (s.repository.add s.isLive className objectName other).2) :
    s'.Tracks handle := by
  obtain ⟨className', objectName', tracked⟩ := tracks
  refine ⟨className', objectName', ?_⟩
  rw [find?, live, repository, (Repository.add_spec ..).2, if_neg]
  · exact tracked
  · rintro ⟨free, same⟩
    obtain ⟨rfl, rfl⟩ := Prod.mk.inj same
    rw [find?] at tracked
    simp [tracked] at free

/-- An object that is added is tracked, unless another has its name. -/
theorem tracks_added {className objectName : String} (alive : s.isLive handle = true)
    (free : ∀ holder ∈ s.find? className objectName, holder = handle) (live : s'.isLive = s.isLive)
    (repository : s'.repository = (s.repository.add s.isLive className objectName handle).2) :
    s'.Tracks handle := by
  refine ⟨className, objectName, ?_⟩
  rw [find?, live, repository, (Repository.add_spec ..).2]
  cases held : s.find? className objectName with
  | none =>
    have absent : s.repository.find? s.isLive className objectName = none := held
    rw [absent, if_pos ⟨rfl, rfl⟩, Option.filter_some, if_pos alive]
  | some holder =>
    obtain rfl := free holder held
    have present : s.repository.find? s.isLive className objectName = some holder := held
    rw [present, if_neg (by simp)]

end Tracks

namespace Reaching

/-- What is done to the objects of a session. -/
inductive Move
  | synchronize (handle : Handle)
  | stop (handle : Handle)
  | initData (className objectName : String) (state : Fields)
  /-- A call by which an object may reach beyond itself. -/
  | call (handle : Handle) (c : Object.Call) (reaching : c.reaches = true)
  /-- The core renames an object. -/
  | rename (className oldName newName : String)
  | clear
  | aside (other : Aside)

namespace Move

def act : Move → Session → Session
  | synchronize handle, s => endState (Session.synchronize handle s)
  | stop handle, s => endState (Session.stop handle s)
  | initData className objectName state, s =>
    endState (dispatch (.initData className objectName state) s)
  | call handle c _, s => endState (Session.call handle c s)
  | rename className oldName newName, s => endState (Session.rename className oldName newName s)
  | clear, s => s.clear
  | aside other, s => other.act s

def gives (s : Session) (handle : Handle) : Move → Bool
  | initData className objectName state =>
    s.find? className objectName == some handle &&
      (s.objects.object? handle).any fun o => (o.init state).isOk
  | _ => false

/-- An object loses its name to another, which is stopped or moved there, or all are forgotten. -/
def ousts (s : Session) (handle : Handle) : Move → Bool
  | stop other =>
    other ≠ handle && (s.objects.object? other).any fun o =>
      !o.poisoned && s.find? o.className o.objectName == some handle
  | call other c _ => (s.objects.object? other).any fun o =>
      (movesTo? o c).any (s.replaces handle o.className o.objectName ·)
  | rename className oldName newName => s.replaces handle className oldName newName
  | clear => true
  | _ => false

end Move

/-- Another goes by the name of an object. -/
def refused (s : Session) (handle : Handle) : Bool :=
  (s.objects.object? handle).any fun o => (s.find? o.className o.objectName).any (· ≠ handle)

/-- A session, and what has happened to one of its objects. -/
structure ObjectHistory where
  session : Session
  /-- Whether it had or was given its state, and was not stopped since. -/
  hasState : Bool
  /-- Whether it was synchronized. -/
  asked : Bool := false
  /-- Whether it lost its name since it was last synchronized, or was not given one then. -/
  estranged : Bool := false

variable (handle : Handle)

def ObjectHistory.step (w : ObjectHistory) (m : Move) : ObjectHistory where
  session := m.act w.session
  hasState := match m with
    | .stop other => w.hasState && other ≠ handle
    | m => w.hasState || m.gives w.session handle
  asked := match m with
    | .synchronize other => w.asked || other = handle
    | _ => w.asked
  estranged := match m with
    | .synchronize other => if other = handle then refused w.session handle else w.estranged
    | m => w.estranged || m.ousts w.session handle

def ObjectHistory.run (w : ObjectHistory) (moves : List Move) : ObjectHistory := moves.foldl (step handle) w

/-- The object bears the marks of what has happened to it, and with both of them it is tracked unless it
was estranged. -/
structure Sound (w : ObjectHistory) : Prop where
  alive : w.session.isLive handle = true
  marked : ∃ o, w.session.objects.object? handle = some o ∧ o.poisoned = false ∧
    o.initialized = w.hasState ∧ o.attached = w.asked
  tracks : w.hasState = true → w.asked = true → w.estranged = false → w.session.Tracks handle

variable {handle} {w w' : ObjectHistory}

theorem Sound.marks (sound : Sound handle w) {o : Object}
    (found : w.session.objects.object? handle = some o) :
    o.poisoned = false ∧ o.initialized = w.hasState ∧ o.attached = w.asked := by
  obtain ⟨o', found', marks⟩ := sound.marked
  obtain rfl := Option.some.inj (found.symm.trans found')
  exact marks

/-- One object changes, and with it the marks if it is the one. -/
theorem Sound.change (sound : Sound handle w) {other : Handle} {o o' : Object}
    (alters : Alters w.session w'.session other o')
    (found : w.session.objects.object? other = some o) (poisoned : o'.poisoned = o.poisoned)
    (marked : if other = handle then o'.initialized = w'.hasState ∧ o'.attached = w'.asked
      else w'.hasState = w.hasState ∧ w'.asked = w.asked)
    (tracks : w'.hasState = true → w'.asked = true → w'.estranged = false →
      w'.session.Tracks handle) : Sound handle w' := by
  refine ⟨by rw [alters.isLive, sound.alive], ?_, tracks⟩
  by_cases same : other = handle
  · subst same
    rw [if_pos rfl] at marked
    exact ⟨o', by rw [alters.object? found, if_pos rfl], poisoned.trans (sound.marks found).1, marked⟩
  · rw [if_neg same] at marked
    obtain ⟨o₀, found₀, whole, initialized, attached⟩ := sound.marked
    refine ⟨o₀, by rw [alters.object? found, if_neg same, found₀], whole, ?_⟩
    rw [marked.1, marked.2]
    exact ⟨initialized, attached⟩

/-- Nothing happens to any object. -/
theorem Sound.untouched (sound : Sound handle w) (same : Untouched w.session w'.session)
    (hasState : w'.hasState = w.hasState) (asked : w'.asked = w.asked)
    (estranged : w'.estranged = w.estranged) : Sound handle w' where
  alive := by rw [isLive_congr same.objects same.rpcHandler, sound.alive]
  marked := by
    rw [same.objects, hasState, asked]
    exact sound.marked
  tracks := by
    rw [hasState, asked, estranged,
      tracks_congr (isLive_congr same.objects same.rpcHandler) same.repository]
    exact sound.tracks

theorem Sound.synchronize (sound : Sound handle w) (other : Handle) :
    Sound handle (w.step handle (.synchronize other)) := by
  rcases lock_cases w.session other with held | ⟨o, found, whole, -⟩
  · have apart : other ≠ handle := by
      rintro rfl
      obtain ⟨o, found, whole, -⟩ := sound.marked
      rw [lock_ok found whole] at held
      cases held
    have ran : (Move.synchronize other).act w.session = w.session := by
      rw [Move.act, Session.synchronize, bind_error held]
      rfl
    refine sound.untouched ?_ (Bool.or_false _) ?_ (if_neg apart)
    · rw [ObjectHistory.step, ran]
      exact .refl _
    · simp [ObjectHistory.step, apart]
  · obtain ⟨alters, repository, -⟩ := synchronize_alters found whole
    have alters : Alters w.session (w.step handle (.synchronize other)).session other
        { o with attached := true } := alters
    refine sound.change alters found rfl ?_ ?_
    · split
      · next same =>
        subst same
        simp [ObjectHistory.step, Move.gives, (sound.marks found).2.1]
      · next apart => simp [ObjectHistory.step, Move.gives, apart]
    · intro hasState asked estranged
      by_cases same : other = handle
      · subst same
        refine tracks_added sound.alive (fun holder held => ?_) alters.isLive repository
        simpa [ObjectHistory.step, refused, found, Option.mem_def.mp held] using estranged
      · refine (sound.tracks ?_ ?_ ?_).added alters.isLive repository
        · simpa [ObjectHistory.step, Move.gives] using hasState
        · simpa [ObjectHistory.step, same] using asked
        · simpa [ObjectHistory.step, same] using estranged

theorem Sound.stop (sound : Sound handle w) (other : Handle) :
    Sound handle (w.step handle (.stop other)) := by
  rcases stop_cases other w.session with
    refused | ⟨o, s', found, whole, ran, objects, rpcHandler, invokers, repository, -⟩
  · have apart : other ≠ handle := by
      rintro rfl
      obtain ⟨o, found, whole, -⟩ := sound.marked
      rw [stop_eq found whole] at refused
      cases refused
    have spared : (Move.stop other).ousts w.session handle = false := by
      rcases whole_or_broken w.session other with ⟨o, found, whole⟩ | broken
      · rw [stop_eq found whole] at refused
        cases refused
      · cases found : w.session.objects.object? other with
        | none => simp [Move.ousts, found]
        | some o => simp [Move.ousts, found, broken o found]
    refine sound.untouched ?_ ?_ rfl ?_
    · rw [ObjectHistory.step, Move.act, refused]
      exact .refl _
    · simp [ObjectHistory.step, apart]
    · simp [ObjectHistory.step, spared]
  · have alters : Alters w.session (w.step handle (.stop other)).session other
        { o with initialized := false } := by
      rw [ObjectHistory.step, Move.act, ran]
      exact ⟨objects, rpcHandler, invokers⟩
    have removed : (w.step handle (.stop other)).session.repository =
        (w.session.repository.remove w.session.isLive o.className o.objectName).2 := by
      rw [ObjectHistory.step, Move.act, ran]
      exact repository
    refine sound.change alters found rfl ?_ ?_
    · split
      · next same =>
        subst same
        simp [ObjectHistory.step, (sound.marks found).2.2]
      · next apart => simp [ObjectHistory.step, apart]
    · intro hasState asked estranged
      have apart : w.hasState = true ∧ other ≠ handle := by simpa [ObjectHistory.step] using hasState
      have spared : w.estranged = false ∧ (Move.stop other).ousts w.session handle = false := by
        simpa [ObjectHistory.step] using estranged
      refine (sound.tracks apart.1 asked spared.1).removed ?_ alters.isLive removed
      simpa [Move.ousts, apart.2, found, whole] using spared.2

/-- A state that an object is not given for an error is not given. -/
theorem Sound.not_given (sound : Sound handle w) {className objectName : String} {state : Fields}
    {error : Error} {s : Session}
    (refused : receiveState className objectName state w.session = .error error s) :
    (Move.initData className objectName state).gives w.session handle = false := by
  obtain ⟨o, found, whole, -⟩ := sound.marked
  refine Bool.eq_false_iff.mpr fun given => ?_
  simp only [Move.gives, found, Option.any_some, Bool.and_eq_true, beq_iff_eq] at given
  obtain ⟨tracked, taken⟩ := given
  unfold receiveState at refused
  rw [bind_ok (get_eq _)] at refused
  simp only [tracked] at refused
  rw [bind_ok (lock_ok found whole)] at refused
  cases made : o.init state with
  | error error =>
    rw [made] at taken
    cases taken
  | ok o' =>
    rw [made] at refused
    cases refused

theorem Sound.initData (sound : Sound handle w) (className objectName : String) (state : Fields) :
    Sound handle (w.step handle (.initData className objectName state)) := by
  rcases receiveState_cases className objectName state w.session with
    ⟨absent, ran⟩ | ⟨error, refused⟩ |
    ⟨other, o, o', s', tracked, found, -, taken, ran, objects, rpcHandler, invokers, repository, -⟩
  · refine sound.untouched ?_ ?_ rfl (Bool.or_false _)
    · show Untouched w.session (endState (receiveState className objectName state w.session))
      rw [ran]
      exact .refl _
    · simp [ObjectHistory.step, Move.gives, absent]
  · refine sound.untouched ?_ ?_ rfl (Bool.or_false _)
    · show Untouched w.session (endState (receiveState className objectName state w.session))
      rw [refused]
      exact .refl _
    · simp [ObjectHistory.step, sound.not_given refused]
  · obtain ⟨body, rfl⟩ := Object.init_ok taken
    have alters : Alters w.session
        (w.step handle (.initData className objectName state)).session other
        { o with body, initialized := true } := by
      show Alters _ (endState (receiveState className objectName state w.session)) _ _
      rw [ran]
      exact ⟨objects, rpcHandler, invokers⟩
    have kept : (w.step handle (.initData className objectName state)).session.repository =
        w.session.repository := by
      show (endState (receiveState className objectName state w.session)).repository = _
      rw [ran]
      exact repository
    refine sound.change alters found rfl ?_ fun hasState asked estranged => ?_
    · split
      · next same =>
        subst same
        have attached := (sound.marks found).2.2
        simp [ObjectHistory.step, Move.gives, tracked, found, taken, attached, Except.isOk, Except.toBool]
      · next apart => simp [ObjectHistory.step, Move.gives, tracked, apart]
    · rw [tracks_congr alters.isLive kept]
      by_cases same : other = handle
      · exact ⟨className, objectName, same ▸ tracked⟩
      · refine sound.tracks ?_ asked ?_
        · simpa [ObjectHistory.step, Move.gives, tracked, same] using hasState
        · simpa [ObjectHistory.step, Move.ousts] using estranged

theorem Sound.call (sound : Sound handle w) (other : Handle) {c : Object.Call}
    (reaching : c.reaches = true) : Sound handle (w.step handle (.call other c reaching)) := by
  cases found : w.session.objects.object? other with
  | none =>
    have ran : (Move.call other c reaching).act w.session = w.session := by
      rw [Move.act, Session.call, bind_ok (get_eq _), found]
      rfl
    refine sound.untouched ?_ (Bool.or_false _) rfl ?_
    · show Untouched w.session ((Move.call other c reaching).act w.session)
      rw [ran]
      exact .refl _
    · simp [ObjectHistory.step, Move.ousts, found]
  | some o =>
    obtain ⟨o', called⟩ := called_call found reaching
    have alters : Alters w.session (w.step handle (.call other c reaching)).session other o' :=
      called.alters
    refine sound.change alters found called.poisoned ?_ fun hasState asked estranged => ?_
    · split
      · next same =>
        subst same
        obtain ⟨-, initialized, attached⟩ := sound.marks found
        refine ⟨called.initialized.trans ?_, called.attached.trans attached⟩
        simp [ObjectHistory.step, Move.gives, initialized]
      · simp [ObjectHistory.step, Move.gives]
    · have before : w.hasState = true := by simpa [ObjectHistory.step, Move.gives] using hasState
      have spared : w.estranged = false ∧
          (movesTo? o c).any (w.session.replaces handle o.className o.objectName ·) = false := by
        simpa [ObjectHistory.step, Move.ousts, found] using estranged
      have tracks := sound.tracks before asked spared.1
      have repository := called.repository
      cases moves : movesTo? o c with
      | none =>
        rw [moves] at repository
        exact (tracks_congr alters.isLive repository).mpr tracks
      | some newName =>
        rw [moves] at repository spared
        exact tracks.moved spared.2 alters.isLive repository

theorem Sound.rename (sound : Sound handle w) (className oldName newName : String) :
    Sound handle (w.step handle (.rename className oldName newName)) := by
  obtain ⟨o, found, -, initialized, attached⟩ := sound.marked
  have tracks : ∀ {s' : Session}, s'.isLive = w.session.isLive →
      s'.repository =
        (w.session.repository.rename w.session.isLive className oldName newName).2 →
      w.hasState = true → w.asked = true →
      (w.step handle (.rename className oldName newName)).estranged = false → s'.Tracks handle := by
    intro s' live repository hasState asked estranged
    have spared : w.estranged = false ∧ w.session.replaces handle className oldName newName = false := by
      simpa [ObjectHistory.step, Move.ousts] using estranged
    exact (sound.tracks hasState asked spared.1).moved spared.2 live repository
  obtain ⟨repository, rpcHandler, invokers, objects | ⟨mover, o', found', objects⟩⟩ :=
    rename_cases w.session className oldName newName
  · have alters : Alters w.session (w.step handle (.rename className oldName newName)).session
        handle o := ⟨objects.trans (Store.set_self found).symm, rpcHandler, invokers⟩
    refine sound.change alters found rfl ?_ fun hasState asked estranged => ?_
    · rw [if_pos rfl]
      simp [ObjectHistory.step, Move.gives, initialized, attached]
    · refine tracks alters.isLive repository ?_ asked estranged
      simpa [ObjectHistory.step, Move.gives] using hasState
  · have alters : Alters w.session (w.step handle (.rename className oldName newName)).session
        mover { o' with objectName := newName } := ⟨objects, rpcHandler, invokers⟩
    refine sound.change alters found' rfl ?_ fun hasState asked estranged => ?_
    · split
      · next same =>
        subst same
        obtain rfl := Option.some.inj (found.symm.trans found')
        simp [ObjectHistory.step, Move.gives, initialized, attached]
      · simp [ObjectHistory.step, Move.gives]
    · refine tracks alters.isLive repository ?_ asked estranged
      simpa [ObjectHistory.step, Move.gives] using hasState

theorem Sound.step (sound : Sound handle w) (m : Move) : Sound handle (w.step handle m) := by
  cases m with
  | synchronize other => exact sound.synchronize other
  | stop other => exact sound.stop other
  | initData className objectName state => exact sound.initData className objectName state
  | call other c reaching => exact sound.call other reaching
  | rename className oldName newName => exact sound.rename className oldName newName
  | clear =>
    refine ⟨sound.alive, ?_, fun _ _ estranged => ?_⟩
    · simpa [ObjectHistory.step, Move.gives] using! sound.marked
    · simp [ObjectHistory.step, Move.ousts] at estranged
  | aside other =>
    exact sound.untouched (other.untouched _) (Bool.or_false _) rfl (Bool.or_false _)

theorem Sound.run (sound : Sound handle w) (moves : List Move) : Sound handle (w.run handle moves) := by
  induction moves generalizing w with
  | nil => exact sound
  | cons m moves ih => exact ih (sound.step m)

/-- Over every run, a call of an object sends something or moves an entry only if the object was given its
state and not stopped since, was synchronized, and calls for no client; and then it is tracked, unless it
lost its name to something else than its own end, or another had its name when it was synchronized last.
The object that has its state and was synchronized does not ask whether it is tracked: what it sends to
the core is handed to the link. -/
theorem reaches_only_while_live {s : Session} {o : Object}
    (found : s.objects.object? handle = some o) (alive : s.isLive handle = true)
    (whole : o.poisoned = false) (detached : o.attached = false) (moves : List Move) :
    let w := ObjectHistory.run handle ⟨s, o.initialized, false, false⟩ moves
    (∀ c : Object.Call, c.reaches = true → w.session.Reaches handle c →
      w.hasState = true ∧ w.asked = true ∧ c.target? ≠ some .client ∧
        (w.estranged = false → w.session.Tracks handle)) ∧
      ∃ o', w.session.objects.object? handle = some o' ∧ o'.initialized = w.hasState ∧
        (w.hasState = true → w.asked = true → ∀ slot params,
          Session.call handle (.sync .core slot params) w.session =
            emit (.sync o'.className o'.objectName slot params) w.session) := by
  intro w
  have start : Sound handle ⟨s, o.initialized, false, false⟩ :=
    ⟨alive, ⟨o, found, whole, rfl, detached⟩, nofun⟩
  have sound : Sound handle w := start.run moves
  obtain ⟨o', found', -, initialized, attached⟩ := sound.marked
  refine ⟨fun c reaching reaches => ?_, o', found', initialized, fun hasState asked slot params => ?_⟩
  · obtain ⟨live, target⟩ := live_of_reaches found' reaching reaches
    rw [Object.isLive, initialized, attached, Bool.and_eq_true] at live
    exact ⟨live.1, live.2, target, sound.tracks live.1 live.2⟩
  · refine call_sync_of_live found' ?_ slot params
    rw [Object.isLive, initialized, attached, hasState, asked]
    rfl

theorem reaches_of_longer {s : Session} {c : Object.Call}
    (longer : s.link.outbox.length < (endState (Session.call handle c s)).link.outbox.length) :
    s.Reaches handle c :=
  .inl fun same => Nat.lt_irrefl _ (same ▸ longer)

/-- A counter that was given its state sends, and it is tracked. -/
theorem counter_sends_while_tracked :
    let w := ObjectHistory.run 3 ⟨withCounters, false, false, false⟩
      [.synchronize 3, .initData "Counter" "old" []]
    w.session.Reaches 3 (.requestUpdate none) ∧ w.session.Tracks 3 := by
  intro w
  have reaches : w.session.Reaches 3 (.requestUpdate none) := reaches_of_longer (by decide +kernel)
  obtain ⟨only, -⟩ := reaches_only_while_live (show withCounters.objects.object? 3 = some _ from rfl)
    (by decide +kernel) rfl rfl [.synchronize 3, .initData "Counter" "old" []]
  obtain ⟨-, -, -, tracks⟩ := only (.requestUpdate none) rfl reaches
  exact ⟨reaches, tracks (by decide +kernel)⟩

/-- The session forgets its objects, and a counter that has its state goes on to send: it is found by no
name then. -/
theorem counter_sends_when_forgotten :
    let w := ObjectHistory.run 3 ⟨withCounters, false, false, false⟩
      [.synchronize 3, .initData "Counter" "old" [], .clear]
    w.session.Reaches 3 (.requestUpdate none) ∧ ¬ w.session.Tracks 3 := by
  intro w
  refine ⟨reaches_of_longer (by decide +kernel), ?_⟩
  rintro ⟨className, objectName, tracked⟩
  cases tracked

end Reaching

end Session
end Datastream
