import Datastream.Proofs.Session.Keeping
import Datastream.Session.Run

/-!
# What calls do to a session

A call of the program registers a wait, sends its request, and later collects the reply or gives the wait
up. So what these steps leave alone, every turn of every call leaves alone (`Task.Calm.turn`); only the
start of the handshake does more when its reply is there (`Task.Calm.turn_init`), and a call that has no
part in the handshake leaves its replies alone as well (`Task.Steady.turn`). No call publishes anything
(`Task.speaks_turn`).
-/
namespace Datastream

namespace Await

variable {κ ν σ : Type} [DecidableEq κ] {get : σ → KeyedQueue κ ν}
  {set : (KeyedQueue κ ν → KeyedQueue κ ν) → σ → σ} {R : σ → σ → Prop}

/-- What is so of the sending of a request, if it was not sent yet. -/
def Sends (P : EStateM Error σ Unit → Prop) : Await κ σ → Prop
  | fresh _ send => P send
  | waiting _ => True

theorem turn_fresh_ok {keys : List κ} {send : EStateM Error σ Unit} {s s' : σ} {id : Nat}
    (ran : KeyedQueue.wait get set keys send s = .ok id s') :
    (fresh keys send).turn get set s = collect get set id s' := by
  simp only [Await.turn, ran]

theorem turn_fresh_error {keys : List κ} {send : EStateM Error σ Unit} {s s' : σ} {error : Error}
    (ran : KeyedQueue.wait get set keys send s = .error error s') :
    (fresh keys send).turn get set s = (.done (.error error), s') := by
  simp only [Await.turn, ran]

/-- A relation of states to what the steps of a wait make of them. -/
structure Calm (get : σ → KeyedQueue κ ν) (set : (KeyedQueue κ ν → KeyedQueue κ ν) → σ → σ)
    (R : σ → σ → Prop) : Prop where
  refl : ∀ s, R s s
  trans : ∀ {s s' s''}, R s s' → R s' s'' → R s s''
  enter : ∀ keys s, R s (set (fun q => (q.register keys).2) s)
  withdraw : ∀ id s, R s (set (·.withdraw id) s)
  collect : ∀ {id s result queue}, (get s).collect id = some (result, queue) →
    R s (set (fun _ => queue) s)

namespace Calm

variable (calm : Calm get set R) {send : EStateM Error σ Unit}

include calm

theorem wait (keys : List κ) (sends : ∀ s, R s (endState (send s))) (s : σ) :
    R s (endState (KeyedQueue.wait get set keys send s)) := by
  unfold KeyedQueue.wait
  split
  · exact calm.refl s
  · have entered := calm.enter keys s
    have sent := sends (set (fun q => (q.register keys).2) s)
    dsimp only
    cases ran : send (set (fun q => (q.register keys).2) s) with
    | ok _ s' =>
      rw [ran] at sent
      exact calm.trans entered sent
    | error error s' =>
      rw [ran] at sent
      exact calm.trans (calm.trans entered sent) (calm.withdraw _ s')

theorem collects (id : Nat) (s : σ) : R s (Await.collect get set id s).2 := by
  unfold Await.collect
  split
  · next result queue found => exact calm.collect found
  · exact calm.refl s

theorem turn {await : Await κ σ} (sends : await.Sends fun send => ∀ s, R s (endState (send s)))
    (s : σ) : R s (await.turn get set s).2 := by
  cases await with
  | waiting id => exact calm.collects id s
  | fresh keys send =>
    have waited := calm.wait keys sends s
    cases ran : KeyedQueue.wait get set keys send s with
    | error error s' =>
      rw [ran] at waited
      rw [turn_fresh_error ran]
      exact waited
    | ok id s' =>
      rw [ran] at waited
      rw [turn_fresh_ok ran]
      exact calm.trans waited (calm.collects id s')

theorem cancel (await : Await κ σ) (s : σ) : R s (await.cancel set s) := by
  cases await with
  | fresh => exact calm.refl s
  | waiting id => exact calm.withdraw id s

end Calm

/-- A request that waits was sent. -/
theorem sends_of_waiting {P : EStateM Error σ Unit → Prop} {await again : Await κ σ} {s : σ}
    (waits : (await.turn get set s).1 = .waiting again) : again.Sends P := by
  have sent (id : Nat) (s : σ) (waits : (Await.collect get set id s).1 = .waiting again) :
      again.Sends P := by
    unfold Await.collect at waits
    split at waits
    · cases waits
    · cases waits
      trivial
  cases await with
  | waiting id => exact sent id s waits
  | fresh keys send =>
    cases ran : KeyedQueue.wait get set keys send s with
    | error error s' =>
      rw [turn_fresh_error ran] at waits
      cases waits
    | ok id s' =>
      rw [turn_fresh_ok ran] at waits
      exact sent id s' waits

end Await

inductive Request
  | init (version date : String) (features : FeatureSet)
  | configure (adminUser adminPassword backend : String) (setup : Fields) (authenticator : String)
    (authSetup : Fields)
  | logIn (user password : String)
  | sessionState
  | openSession
  | fetch (request : BacklogRequest)
  | list (network : NetworkId) (filters : List String)
  | allInitialized

def Request.task : Request → Task
  | init version date features => .start version date features
  | configure adminUser adminPassword backend setup authenticator authSetup =>
    .configure adminUser adminPassword backend setup authenticator authSetup
  | logIn user password => .logIn user password
  | sessionState => .sessionState
  | openSession => .openSession
  | fetch request => .fetch request
  | list network filters => .list network filters
  | allInitialized => .allInitialized

namespace Task

open Session (Action Continues Speaks Silent Keeps)

/-- A task that has sent its request, or keeps the session when it does. -/
def Sound : Task → Prop
  | init _ await | setup await | login await => await.Sends (Keeps Silent)
  | backlog await => await.Sends (Keeps Silent)
  | sessionState | openSession | listing _ | allInitialized => True

theorem sound_request (request : Request) : request.task.Sound := by
  cases request with
  | init | configure | logIn => exact Session.keeps_emitHandshake _
  | fetch request => exact keeps_sendBacklog request
  | sessionState | openSession | list | allInitialized => trivial

def exchange? : Task → Option (Await String Session)
  | init _ await | setup await | login await => some await
  | sessionState | openSession | backlog _ | listing _ | allInitialized => none

/-- A relation of sessions to what calls make of them that have no part in the handshake. -/
structure Steady (R : Session → Session → Prop) : Prop where
  refl : ∀ s, R s s
  trans : ∀ {s s' s''}, R s s' → R s' s'' → R s s''
  continues : ∀ {s s'}, Continues Silent s s' → R s s'
  slot : ∀ s slot, R s { s with handshake := { s.handshake with slot } }

namespace Steady

variable {R : Session → Session → Prop} (steady : Steady R)

include steady

theorem sends {κ : Type} {await : Await κ Session} (sound : await.Sends (Keeps Silent)) :
    await.Sends fun send => ∀ s, R s (endState (send s)) := by
  cases await with
  | fresh keys send => exact fun s => steady.continues (sound s)
  | waiting => trivial

theorem backlogs : Await.Calm (·.backlog) backlogs R where
  refl := steady.refl
  trans := steady.trans
  enter _ _ := steady.continues (Session.continues_of_same rfl rfl (.refl _) rfl)
  withdraw _ _ := steady.continues (Session.continues_of_same rfl rfl (.refl _) rfl)
  collect _ := steady.continues (Session.continues_of_same rfl rfl (.refl _) rfl)

theorem listings : Await.Calm (κ := NetworkId) Session.listings
    (fun f s => { s with listings := f s.listings }) R where
  refl := steady.refl
  trans := steady.trans
  enter _ _ := steady.continues (Session.continues_of_same rfl rfl (.refl _) rfl)
  withdraw _ _ := steady.continues (Session.continues_of_same rfl rfl (.refl _) rfl)
  collect _ := steady.continues (Session.continues_of_same rfl rfl (.refl _) rfl)

/-- A listing asks and waits like any other call. -/
theorem listing (search : Listing) (s : Session) : R s (search.turn s).2 := by
  have awaits (network : NetworkId) (round : ListingRound) {send : Action Unit}
      (keeps : Keeps Silent send) (s : Session) : R s (Listing.await network round send s).2 := by
    have waited := steady.listings.wait [network] (fun s => steady.continues (keeps s)) s
    unfold Listing.await
    split
    · next id s' ran =>
      rw [ran] at waited
      exact waited
    · next error s' ran =>
      rw [ran] at waited
      exact waited
  cases search with
  | fresh network filters => exact awaits network _ (Listing.keeps_request network filters) s
  | waiting network round id =>
    simp only [Listing.turn]
    split
    · exact steady.refl s
    · next found => exact steady.listings.collect found
    · next reply queue found =>
      refine steady.trans (steady.listings.collect found) ?_
      unfold Listing.take
      split
      · exact steady.refl _
      · exact awaits network _ (Listing.keeps_request network []) _
      · exact awaits network _ (Session.keeps_pure ()) _
      · exact steady.refl _
      · exact awaits network _ (Session.keeps_pure ()) _

theorem collectState (again : Task) (after : Action Unit) (keeps : Keeps Silent after) (s : Session) :
    R s (Task.collectState again after s).2 := by
  have collected : ∃ slot, s.handshake.collect.2 = { s.handshake with slot } := by
    unfold Handshake.collect
    cases s.handshake.slot with
    | pending | closed => exact ⟨_, rfl⟩
    | ready state => exact ⟨_, rfl⟩
  obtain ⟨slot, collected⟩ := collected
  have taken := steady.slot s slot
  rw [← collected] at taken
  unfold Task.collectState
  split
  · exact steady.refl s
  · next error handshake found =>
    rw [found] at taken
    exact taken
  · next state handshake found =>
    rw [found] at taken
    have done := steady.continues (keeps { s with handshake })
    split
    · next s' ran =>
      rw [ran] at done
      exact steady.trans taken done
    · next error s' ran =>
      rw [ran] at done
      exact steady.trans taken done

/-- The task that is left has sent its request, and is one of the same kind. -/
theorem answer {α β : Type} {again : α → Task}
    {read : β → Session → Except Error Answer × Session} {turned : Turn α (Except Error β) × Session}
    {s : Session} (before : R s turned.2)
    (reads : ∀ b, turned.1 = .done (.ok b) → R turned.2 (read b turned.2).2) :
    R s (Task.answer again read turned).2 := by
  rcases turned with ⟨(error | b) | again', s'⟩
  · exact before
  · exact steady.trans before (reads b rfl)
  · exact before

theorem turn {task : Task} (sound : task.Sound) (s : Session) (other : task.exchange? = none) :
    R s (task.turn s).2 := by
  cases task with
  | init | setup | login => cases other
  | sessionState => exact steady.collectState _ (return) (Session.keeps_pure _) s
  | openSession => exact steady.collectState _ trackOwn keeps_trackOwn s
  | backlog await =>
    exact steady.answer (steady.backlogs.turn (steady.sends sound) s) fun _ _ => steady.refl _
  | listing search => exact steady.answer (steady.listing search s) fun _ _ => steady.refl _
  | allInitialized =>
    simp only [Task.turn]
    split <;> exact steady.refl s

theorem cancel {task : Task} (s : Session) (other : task.exchange? = none) :
    R s (task.cancel s) := by
  cases task with
  | init | setup | login => cases other
  | backlog await => exact steady.backlogs.cancel await s
  | listing search =>
    cases search with
    | fresh => exact steady.refl s
    | waiting network round id => exact steady.listings.withdraw id s
  | sessionState | openSession | allInitialized => exact steady.refl s

end Steady

/-- A relation of sessions to what any calls make of them. -/
structure Calm (R : Session → Session → Prop) : Prop
    extends Await.Calm (·.handshake.replies) replies R where
  continues : ∀ {s s'}, Continues Silent s s' → R s s'
  slot : ∀ s slot, R s { s with handshake := { s.handshake with slot } }

namespace Calm

variable {R : Session → Session → Prop} (calm : Calm R)

include calm

theorem steady : Steady R := ⟨calm.refl, calm.trans, calm.continues, calm.slot⟩

/-- Every turn but that in which the handshake starts. -/
theorem turn {task : Task} (sound : task.Sound) (s : Session)
    (other : ∀ features await, task ≠ .init features await) : R s (task.turn s).2 := by
  cases task with
  | init features await => exact absurd rfl (other features await)
  | setup await =>
    exact calm.steady.answer (calm.toCalm.turn (calm.steady.sends sound) s) fun _ _ => calm.refl _
  | login await =>
    exact calm.steady.answer (calm.toCalm.turn (calm.steady.sends sound) s) fun _ _ => calm.refl _
  | sessionState | openSession | backlog | listing | allInitialized => exact calm.steady.turn sound s rfl

/-- The turn in which the handshake starts, if what is done with its reply is no more than that. -/
theorem turn_init {features : FeatureSet} {await : Await String Session}
    (sound : await.Sends (Keeps Silent)) {s : Session}
    (takes : ∀ reply, (await.turn (·.handshake.replies) replies s).1 = .done (.ok reply) →
      R (await.turn (·.handshake.replies) replies s).2
        (takeInit features reply (await.turn (·.handshake.replies) replies s).2).2) :
    R s ((Task.init features await).turn s).2 :=
  calm.steady.answer (calm.toCalm.turn (calm.steady.sends sound) s) takes

theorem cancel (task : Task) (s : Session) : R s (task.cancel s) := by
  cases task with
  | init features await => exact calm.toCalm.cancel await s
  | setup await => exact calm.toCalm.cancel await s
  | login await => exact calm.toCalm.cancel await s
  | sessionState | openSession | backlog | listing | allInitialized => exact calm.steady.cancel s rfl

end Calm

theorem waiting_answer {α β : Type} {again : α → Task}
    {read : β → Session → Except Error Answer × Session} {turned : Turn α (Except Error β) × Session}
    {left : Task} (waits : (answer again read turned).1 = .waiting left) :
    ∃ await, turned.1 = .waiting await ∧ left = again await := by
  rcases turned with ⟨(error | b) | await, s'⟩
  · cases waits
  · cases waits
  · cases waits
    exact ⟨await, rfl, rfl⟩

/-- A call that waits on has sent its request. -/
theorem sound_of_waiting {task left : Task} {s : Session} (waits : (task.turn s).1 = .waiting left) :
    left.Sound := by
  cases task with
  | init features await =>
    obtain ⟨again, still, rfl⟩ := waiting_answer waits
    exact Await.sends_of_waiting still
  | setup await =>
    obtain ⟨again, still, rfl⟩ := waiting_answer waits
    exact Await.sends_of_waiting still
  | login await =>
    obtain ⟨again, still, rfl⟩ := waiting_answer waits
    exact Await.sends_of_waiting still
  | backlog await =>
    obtain ⟨again, still, rfl⟩ := waiting_answer waits
    exact Await.sends_of_waiting still
  | listing search =>
    obtain ⟨again, -, rfl⟩ := waiting_answer waits
    trivial
  | sessionState | openSession =>
    simp only [Task.turn, Task.collectState] at waits
    split at waits
    · cases waits
      trivial
    · cases waits
    · split at waits <;> cases waits
  | allInitialized =>
    simp only [Task.turn] at waits
    split at waits
    · cases waits
    · cases waits
      trivial

theorem calm_speaks : Calm (Speaks Silent) where
  refl := .refl
  trans first second := first.trans second
  enter _ _ := .of_silent rfl rfl
  withdraw _ _ := .of_silent rfl rfl
  collect _ := .of_silent rfl rfl
  continues keeps := keeps.toSpeaks
  slot _ _ := .of_silent rfl rfl

theorem speaks_takeInit (features : FeatureSet) (reply : HandshakeMessage) (s : Session) :
    Speaks Silent s (takeInit features reply s).2 := by
  cases reply <;> exact .of_silent rfl rfl

theorem speaks_turn {task : Task} (sound : task.Sound) (s : Session) :
    Speaks Silent s (task.turn s).2 := by
  by_cases start : ∃ features await, task = .init features await
  · obtain ⟨features, await, rfl⟩ := start
    exact calm_speaks.turn_init sound fun reply _ => speaks_takeInit features reply _
  · exact calm_speaks.turn sound s fun features await same => start ⟨features, await, same⟩

end Task

namespace Call

open Session (Speaks Silent)

theorem speaks_turn (now : Nat) {call : Call} (sound : call.task.Sound) (s : Session) :
    Speaks Silent s (call.turn now s).2 := by
  have turned := Task.speaks_turn sound s
  unfold Call.turn
  split
  · next result s' ran =>
    rw [ran] at turned
    exact turned
  · next task s' ran =>
    rw [ran] at turned
    split
    · exact turned.trans (Task.calm_speaks.cancel task s')
    · exact turned

theorem sound_of_waiting {now : Nat} {call left : Call} {s : Session}
    (waits : (call.turn now s).1 = .waiting left) : left.task.Sound := by
  unfold Call.turn at waits
  split at waits
  · cases waits
  · next task s' ran =>
    split at waits
    · cases waits
    · cases waits
      exact Task.sound_of_waiting (s := s) (congrArg Prod.fst ran)

end Call

namespace Run

open Session (Speaks Silent)

/-- Every call on a run has sent its request, or sends one that keeps the session. -/
def Sound (r : Run) : Prop := ∀ entry ∈ r.calls, entry.2.task.Sound

/-- Whatever the calls do in a turn, they publish nothing. -/
theorem speaks_settle {r : Run} (sound : r.Sound) :
    Speaks Silent r.session r.settle.2.session ∧ r.settle.2.Sound := by
  have all (calls : List (String × Call)) (s : Session)
      (sound : ∀ entry ∈ calls, entry.2.task.Sound) :
      Speaks Silent s (Turn.all (Call.turn r.now) calls s).2 ∧
        ∀ entry ∈ (Turn.all (Call.turn r.now) calls s).1.1, entry.2.task.Sound := by
    induction calls generalizing s with
    | nil => exact ⟨.refl s, List.forall_mem_nil _⟩
    | cons entry rest ih =>
      obtain ⟨name, call⟩ := entry
      obtain ⟨first, others⟩ := List.forall_mem_cons.mp sound
      have turned := Call.speaks_turn r.now first s
      obtain ⟨spoke, left⟩ := ih (call.turn r.now s).2 others
      have whole := turned.trans spoke
      simp only [Turn.all]
      cases ran : (call.turn r.now s).1 with
      | done result => exact ⟨whole, left⟩
      | waiting again =>
        exact ⟨whole, List.forall_mem_cons.mpr ⟨Call.sound_of_waiting ran, left⟩⟩
  exact all r.calls r.session sound

theorem sound_begin {r : Run} (sound : r.Sound) (name : String) (request : Request) (timed : Bool) :
    (r.begin name request.task timed).Sound := by
  intro entry member
  rcases List.mem_append.mp member with old | new
  · exact sound entry old
  · rw [List.mem_singleton.mp new]
    exact Task.sound_request request

theorem speaks_cancel {r : Run} (sound : r.Sound) (name : String) :
    Speaks Silent r.session (r.cancel name).session ∧ (r.cancel name).Sound := by
  unfold Run.cancel
  split
  · exact ⟨.refl _, sound⟩
  · next call _ =>
    exact ⟨Task.calm_speaks.cancel call.task r.session,
      fun entry member => sound entry (List.mem_filter.mp member).1⟩

end Run
end Datastream
