import Datastream.Proofs.Listing.Reports
import Datastream.Proofs.Queue.Index
import Mathlib.Data.Finset.Insert
import Mathlib.Data.List.DropRight

/-!
# Listings that wait

Any number of listings wait for what the core says about their networks. A listing that is told
something is taken off the queue there and then, and enters again only when it has come to see what it
was told, so more may be said in between. Here every order of saying, entering, sending, looking and
giving up is a run (`Hearing.run`).

What a listing is going to hear is the first that was told about its network since it last entered
(`toHear`), and that is how its wait stands in the queue after every run (`Kept`, `kept_run`).

A listing enters and leaves the queue by `wait`, and is told something by `resume` or `resume_all`.
-/
namespace Datastream

/-- A listing that is not over. -/
structure Lister where
  network : NetworkId
  round : ListingRound := .searching
  /-- The filters of the request that the round has yet to send. -/
  request : Option (List String)
  /-- The wait that it has entered. -/
  wait : Option Nat := none
  deriving DecidableEq

/-- How a listing leaves a reply: over, or as the listing that goes on. -/
abbrev Lister.Outcome := Turn Lister (Except Error (List FoundChannel))

def Lister.heed (l : Lister) : ListingReply → Outcome
  | .failed reason => .done (.error (.listingFailed reason))
  | .finished =>
    match l.round with
    | .searching => .waiting ⟨l.network, .fetching, some [], none⟩
    | .fetching => .waiting { l with wait := none }
  | .channels rows =>
    match l.round with
    | .searching => .waiting { l with wait := none }
    | .fetching => .done (.ok (rows.filterMap (FoundChannel.ofRow? l.network)))

def Effect.tells (network : NetworkId) : Effect → Option (Except Error ListingReply)
  | .listing network' reply => if network' = network then some (.ok reply) else none
  | .failListings reason => some (.ok (.failed reason))
  | _ => none

/-- A session, and the listings on it by their numbers. -/
structure Hearing where
  session : Session
  callers : Table Nat Lister := []

namespace Hearing

inductive Move
  | call (caller : Nat) (network : NetworkId) (filters : List String)
  /-- A listing that does not wait yet, or not any more, enters a wait. -/
  | enter (caller : Nat)
  /-- A listing that has entered sends its request. -/
  | send (caller : Nat)
  /-- A listing that waits looks for what it was told. -/
  | look (caller : Nat)
  /-- A listing is given up, as when its time has passed. -/
  | giveUp (caller : Nat)
  /-- The core calls a slot of the list helper. -/
  | report (slot : String) (params : List Value)
  | close
  /-- The session does something that leaves the waits of listings alone. -/
  | aside (other : Aside fun s : Session => s.listings)

inductive Note
  | entered (caller : Nat)
  | sent (caller : Nat) (filters : List String)
  | told (effect : Effect)
  | heard (caller : Nat) (reply : ListingReply)
  | returned (caller : Nat) (result : Except Error (List FoundChannel))
  | closed

def register (w : Hearing) (caller : Nat) (l : Lister) : Hearing :=
  let (id, listings) := w.session.listings.register [l.network]
  ⟨{ w.session with listings }, w.callers.put caller { l with wait := some id }⟩

def goOn (w : Hearing) (caller : Nat) : Lister.Outcome → List Note × Hearing
  | .done result => ([.returned caller result], { w with callers := w.callers.erase caller })
  | .waiting l => ([], { w with callers := w.callers.put caller l })

/-- Makes a move; a move of a listing that is in no position to make it does nothing. -/
def step (w : Hearing) : Move → List Note × Hearing
  | .call caller network filters =>
    match w.callers.find? caller with
    | none => ([], { w with
        callers := w.callers.put caller { network, request := some filters } })
    | some _ => ([], w)
  | .enter caller =>
    match w.callers.find? caller with
    | some { network, round, request, wait := none } =>
      if w.session.listings.closed then w.goOn caller (.done (.error .connectionClosed))
      else ([.entered caller], w.register caller { network, round, request })
    | _ => ([], w)
  | .send caller =>
    match w.callers.find? caller with
    | some { network, round, request := some filters, wait := some id } =>
      match Listing.request network filters w.session with
      | .ok _ session => ([.sent caller filters], ⟨session,
          w.callers.put caller { network, round, request := none, wait := some id }⟩)
      | .error error session =>
        goOn { w with session := { session with listings := session.listings.withdraw id } } caller
          (.done (.error error))
    | _ => ([], w)
  | .look caller =>
    match w.callers.find? caller with
    | some { network, round, request := none, wait := some id } =>
      match w.session.listings.collect id with
      | none => ([], w)
      | some (result, listings) =>
        let w := { w with session := { w.session with listings } }
        match result with
        | .error error => w.goOn caller (.done (.error error))
        | .ok reply =>
          let (notes, w) := w.goOn caller (Lister.heed ⟨network, round, none, some id⟩ reply)
          (.heard caller reply :: notes, w)
    | _ => ([], w)
  | .giveUp caller =>
    match w.callers.find? caller with
    | some { wait := some id, .. } => ([], ⟨{ w.session with
        listings := w.session.listings.withdraw id }, w.callers.erase caller⟩)
    | _ => ([], { w with callers := w.callers.erase caller })
  | .report slot params =>
    ((ListHelper.reports slot params).map .told,
      { w with session := endState (Session.performAll (ListHelper.reports slot params) w.session) })
  | .close => ([.closed], { w with session := w.session.close })
  | .aside other => ([], { w with session := other.act w.session })

theorem find?_register (w : Hearing) (caller : Nat) (l : Lister) :
    (w.register caller l).callers.find? caller =
      some { l with wait := some w.session.listings.nextId } := by
  rw [register, Table.find?_put, if_pos rfl]
  rfl

theorem step_enter {w : Hearing} {caller : Nat} {network : NetworkId} {round : ListingRound}
    {request : Option (List String)}
    (calls : w.callers.find? caller = some ⟨network, round, request, none⟩) :
    w.step (.enter caller) =
      if w.session.listings.closed then w.goOn caller (.done (.error .connectionClosed))
      else ([.entered caller], w.register caller ⟨network, round, request, none⟩) := by
  simp only [step, calls]

def run (w : Hearing) (moves : List Move) : List Note × Hearing := noted step w moves

theorem run_nil (w : Hearing) : w.run [] = ([], w) := rfl

theorem run_cons (w : Hearing) (m : Move) (moves : List Move) :
    w.run (m :: moves) =
      ((w.step m).1 ++ ((w.step m).2.run moves).1, ((w.step m).2.run moves).2) := rfl

def Note.tells (network : NetworkId) : Note → Option (Except Error ListingReply)
  | .told effect => effect.tells network
  | .closed => some (.error .connectionClosed)
  | .entered _ | .sent .. | .heard .. | .returned .. => none

def Note.enters (caller : Nat) : Note → Bool
  | .entered caller' => caller' = caller
  | .sent .. | .told _ | .heard .. | .returned .. | .closed => false

/-- The first that was told about a network since a listing last entered. -/
def toHear (caller : Nat) (network : NetworkId) (notes : List Note) :
    Option (Except Error ListingReply) :=
  (notes.rtakeWhile fun note => !note.enters caller).findSome? (·.tells network)

theorem toHear_concat (caller : Nat) (network : NetworkId) (notes : List Note) (note : Note) :
    toHear caller network (notes ++ [note]) =
      if note.enters caller then none else (toHear caller network notes).or (note.tells network) := by
  rw [toHear, List.rtakeWhile_concat]
  cases note.enters caller with
  | true => rfl
  | false =>
    simp only [Bool.not_false, if_true, List.findSome?_append, List.findSome?_singleton]
    rfl

/-- While a listing does not enter again, what it is going to hear stays. -/
theorem toHear_append {caller : Nat} {more : List Note} (stays : .entered caller ∉ more)
    (network : NetworkId) (notes : List Note) :
    toHear caller network (notes ++ more) =
      (toHear caller network notes).or (more.findSome? (·.tells network)) := by
  induction more generalizing notes with
  | nil => simp
  | cons note more ih =>
    simp only [List.mem_cons, not_or] at stays
    have other : note.enters caller = false := by
      cases note with
      | entered caller' => simpa [Note.enters, eq_comm] using stays.1
      | _ => rfl
    rw [List.append_cons, ih stays.2, toHear_concat, other, List.findSome?_cons]
    cases note.tells network <;> simp

def Note.quiet : Note → Bool
  | .sent .. | .heard .. | .returned .. => true
  | .entered _ | .told _ | .closed => false

theorem toHear_quiet {more : List Note} (quiet : ∀ note ∈ more, note.quiet = true) (caller : Nat)
    (network : NetworkId) (notes : List Note) :
    toHear caller network (notes ++ more) = toHear caller network notes := by
  have stays : .entered caller ∉ more := fun member => nomatch quiet _ member
  have nothing : more.findSome? (·.tells network) = none := by
    rw [List.findSome?_eq_none_iff]
    intro note member
    have still := quiet note member
    cases note <;> first | rfl | cases still
  rw [toHear_append stays, nothing, Option.or_none]

def Stay (before after : Table Nat Lister) : Prop :=
  ∀ caller l', after.find? caller = some l' → l'.wait ≠ none →
    ∃ l, before.find? caller = some l ∧ l.wait = l'.wait ∧ l.network = l'.network

theorem stay_refl (callers : Table Nat Lister) : Stay callers callers :=
  fun _ l here _ => ⟨l, here, rfl, rfl⟩

theorem stay_erase (callers : Table Nat Lister) (caller : Nat) :
    Stay callers (callers.erase caller) := by
  intro other l' here _
  rw [Table.find?_erase] at here
  split at here
  · cases here
  · exact ⟨l', here, rfl, rfl⟩

theorem stay_put {callers : Table Nat Lister} {caller : Nat} {l : Lister}
    (had : l.wait ≠ none →
      ∃ l₀, callers.find? caller = some l₀ ∧ l₀.wait = l.wait ∧ l₀.network = l.network) :
    Stay callers (callers.put caller l) := by
  intro other l' here waits
  rw [Table.find?_put] at here
  split at here
  · next same =>
    cases here
    exact same ▸ had waits
  · exact ⟨l', here, rfl, rfl⟩

/-- The queue is in order, every listing that has entered has a wait of its own, and the wait stands as
what there is to hear since then. -/
structure Kept (w : Hearing) (notes : List Note) : Prop where
  sound : w.session.listings.Sound
  own : ∀ {caller caller' l l' id}, w.callers.find? caller = some l → l.wait = some id →
    w.callers.find? caller' = some l' → l'.wait = some id → caller = caller'
  stands : ∀ {caller l id}, w.callers.find? caller = some l → l.wait = some id →
    w.session.listings.waits.Stands id {l.network} (toHear caller l.network notes)

section Kept

variable {w w' : Hearing} {notes more : List Note}

theorem Kept.of_stands (kept : Kept w notes) (stay : Stay w.callers w'.callers)
    (sound : w'.session.listings.Sound)
    (stands : ∀ {caller l' id}, w'.callers.find? caller = some l' → l'.wait = some id →
      w.session.listings.waits.Stands id {l'.network} (toHear caller l'.network notes) →
      w'.session.listings.waits.Stands id {l'.network} (toHear caller l'.network (notes ++ more))) :
    Kept w' (notes ++ more) := by
  refine ⟨sound, fun here waits there waits' => ?_, fun here waits => ?_⟩
  · obtain ⟨l, before, same, -⟩ := stay _ _ here (by simp [waits])
    obtain ⟨l', before', same', -⟩ := stay _ _ there (by simp [waits'])
    exact kept.own before (same.trans waits) before' (same'.trans waits')
  · obtain ⟨l, before, same, network⟩ := stay _ _ here (by simp [waits])
    exact stands here waits (network ▸ kept.stands before (same.trans waits))

/-- The queue makes one move, which takes no wait away from the listings that stay. -/
theorem Kept.move (kept : Kept w notes) (stay : Stay w.callers w'.callers)
    (m : KeyedQueue.Move NetworkId ListingReply)
    (moved : w'.session.listings = (w.session.listings.move m).2)
    (spares : ∀ {caller l' id}, w'.callers.find? caller = some l' → l'.wait = some id →
      m ≠ .withdraw id ∧ m ≠ .collect id)
    (hears : ∀ {caller l'}, w'.callers.find? caller = some l' → ∀ network,
      toHear caller network (notes ++ more) =
        (toHear caller network notes).or (m.grant {network})) : Kept w' (notes ++ more) := by
  obtain ⟨sound, -, same⟩ := KeyedQueue.move_refines kept.sound m
  rw [← moved] at sound same
  refine kept.of_stands stay sound fun here waits stands => ?_
  obtain ⟨withdraw, collect⟩ := spares here waits
  rw [same, hears here]
  exact Waits.stands_step stands withdraw fun same => absurd same collect

/-- The queue does not move, and nothing is told. -/
theorem Kept.still (kept : Kept w notes) (stay : Stay w.callers w'.callers)
    (same : w'.session.listings = w.session.listings)
    (quiet : ∀ note ∈ more, note.quiet = true) : Kept w' (notes ++ more) := by
  refine kept.of_stands stay (same ▸ kept.sound) fun here waits stands => ?_
  rw [same, toHear_quiet quiet]
  exact stands

/-- The wait of one listing is taken away, and it has none any more. -/
theorem Kept.leave (kept : Kept w notes) {caller : Nat} {l : Lister} {id : Nat}
    (calls : w.callers.find? caller = some l) (waits : l.wait = some id)
    (stay : Stay w.callers w'.callers)
    (left : ∀ l', w'.callers.find? caller = some l' → l'.wait = none)
    (m : KeyedQueue.Move NetworkId ListingReply) (leaves : m = .withdraw id ∨ m = .collect id)
    (moved : w'.session.listings = (w.session.listings.move m).2)
    (quiet : ∀ note ∈ more, note.quiet = true) : Kept w' (notes ++ more) := by
  refine kept.move stay m moved (fun {other l' id'} here waits' => ?_) fun _ network => ?_
  · have differs : id' ≠ id := by
      rintro rfl
      obtain ⟨l₀, before, same, -⟩ := stay _ _ here (by simp [waits'])
      obtain rfl := kept.own calls waits before (same.trans waits')
      rw [left l' here] at waits'
      cases waits'
    rcases leaves with rfl | rfl <;> simp [Ne.symm differs]
  · rw [toHear_quiet quiet]
    rcases leaves with rfl | rfl <;> simp [KeyedQueue.Move.grant]

/-- A listing goes on without a wait, or is over. -/
theorem goOn_spec (w : Hearing) (caller : Nat) (outcome : Lister.Outcome)
    (free : ∀ l, outcome = .waiting l → l.wait = none) :
    (w.goOn caller outcome).2.session = w.session ∧
      Stay w.callers (w.goOn caller outcome).2.callers ∧
      (∀ l, (w.goOn caller outcome).2.callers.find? caller = some l → l.wait = none) ∧
      ∀ note ∈ (w.goOn caller outcome).1, note.quiet = true := by
  cases outcome with
  | done result =>
    refine ⟨rfl, stay_erase _ _, fun l here => ?_, by simp [goOn, Note.quiet]⟩
    simp [goOn, Table.find?_erase] at here
  | waiting l =>
    have none : l.wait = none := free l rfl
    refine ⟨rfl, stay_put fun some => absurd none some, fun l' here => ?_, by simp [goOn]⟩
    simp only [goOn, Table.find?_put, if_true, Option.some.injEq] at here
    exact here ▸ none

/-- A listing enters a wait that nobody else has. -/
theorem Kept.enter (kept : Kept w notes) (caller : Nat) (l : Lister)
    (isOpen : w.session.listings.closed = false) :
    Kept (w.register caller l) (notes ++ [.entered caller]) := by
  have registers : (w.session.listings.move (.enter [l.network])).2 =
      (w.session.listings.register [l.network]).2 := by
    simp [KeyedQueue.move, isOpen]
  have others : Kept ⟨{ w.session with listings := (w.session.listings.register [l.network]).2 },
      w.callers.erase caller⟩ (notes ++ [.entered caller]) := by
    refine kept.move (stay_erase _ _) (.enter [l.network]) registers.symm (by simp) ?_
    intro other l' here network
    have differs : caller ≠ other := by
      rintro rfl
      simp [Table.find?_erase] at here
    simp [toHear_concat, Note.enters, differs, Note.tells, KeyedQueue.Move.grant]
  have fresh : ∀ {other l' id}, w.callers.find? other = some l' → l'.wait = some id →
      id ≠ w.session.listings.nextId := fun here waits =>
    Nat.ne_of_lt (kept.sound.proper.started _ (Waits.mem_ids_of_stands (kept.stands here waits)))
  refine ⟨others.sound, fun {other other' l₁ l₂ id} here waits there waits' => ?_,
    fun {other l' id} here waits => ?_⟩
  · simp only [register, Table.find?_put] at here there
    split at here <;> split at there
    · next same same' => exact same.symm.trans same'
    · cases here
      exact absurd (Option.some.inj waits).symm (fresh there waits')
    · cases there
      exact absurd (Option.some.inj waits').symm (fresh here waits)
    · exact kept.own here waits there waits'
  · simp only [register, Table.find?_put] at here
    split at here
    · next same =>
      cases here
      cases waits
      have enters : Note.enters other (.entered caller) = true := decide_eq_true same
      rw [toHear_concat, enters, register, KeyedQueue.waits_register kept.sound]
      exact List.mem_append_right _ (List.mem_singleton.mpr rfl)
    · next differs =>
      have left : (w.callers.erase caller).find? other = some l' := by
        rwa [Table.find?_erase, if_neg differs]
      exact others.stands left waits

theorem heed_free {l l' : Lister} {reply : ListingReply} (goesOn : l.heed reply = .waiting l') :
    l'.wait = none := by
  cases reply with
  | failed reason => cases goesOn
  | _ =>
    unfold Lister.heed at goesOn
    cases round : l.round <;> rw [round] at goesOn <;> cases goesOn <;> rfl

/-- What the core says is a move on the queue. -/
theorem Kept.perform (kept : Kept w notes) {effect : Effect}
    (reported : (∃ network reply, effect = .listing network reply) ∨
      ∃ reason, effect = .failListings reason) :
    ∃ s, Session.perform effect w.session = .ok () s ∧
      Kept { w with session := s } (notes ++ [.told effect]) := by
  rcases reported with ⟨network, reply, rfl⟩ | ⟨reason, rfl⟩
  · refine ⟨_, rfl, kept.move (stay_refl _) (.resume network reply) rfl (by simp) ?_⟩
    intro _ _ _ network'
    simp [toHear_concat, Note.enters, Note.tells, Effect.tells, KeyedQueue.Move.grant]
  · refine ⟨_, rfl, kept.move (stay_refl _) (.resumeAll (.failed reason)) rfl (by simp) ?_⟩
    intro _ _ _ network'
    simp [toHear_concat, Note.enters, Note.tells, Effect.tells, KeyedQueue.Move.grant]

theorem Kept.performAll (kept : Kept w notes) {effects : List Effect}
    (reported : ∀ effect ∈ effects, (∃ network reply, effect = .listing network reply) ∨
      ∃ reason, effect = .failListings reason) :
    Kept { w with session := endState (Session.performAll effects w.session) }
      (notes ++ effects.map .told) := by
  induction effects generalizing w notes with
  | nil => exact (List.append_nil notes).symm ▸ kept
  | cons effect effects ih =>
    obtain ⟨s, ran, kept'⟩ := kept.perform (reported effect (by simp))
    rw [Session.performAll_cons, bind_ok ran, List.map_cons, List.append_cons]
    exact ih kept' fun effect member => reported effect (by simp [member])

theorem Kept.step (kept : Kept w notes) (m : Move) : Kept (w.step m).2 (notes ++ (w.step m).1) := by
  cases m with
  | call caller network filters =>
    simp only [Hearing.step]
    split
    · exact kept.still (stay_put fun waits => absurd rfl waits) rfl (List.forall_mem_nil _)
    · exact kept.still (stay_refl _) rfl (List.forall_mem_nil _)
  | enter caller =>
    simp only [Hearing.step]
    split
    · next network round request calls =>
      split
      · next closed =>
        obtain ⟨session, stay, -, quiet⟩ :=
          w.goOn_spec caller (.done (.error .connectionClosed)) (by simp)
        exact kept.still stay (congrArg _ session) quiet
      · next isOpen =>
        exact kept.enter caller ⟨network, round, request, none⟩ (Bool.not_eq_true _ ▸ isOpen)
    · exact kept.still (stay_refl _) rfl (List.forall_mem_nil _)
  | send caller =>
    simp only [Hearing.step]
    split
    · next network round filters id calls =>
      have same := (BlindToListings.request network filters).listings w.session
      split
      · next session ran =>
        rw [ran] at same
        refine kept.still (stay_put fun _ => ⟨_, calls, rfl, rfl⟩) same ?_
        simp [Note.quiet]
      · next error session ran =>
        rw [ran] at same
        obtain ⟨left, stay, free, quiet⟩ := goOn_spec
          { w with session := { session with listings := session.listings.withdraw id } } caller
          (.done (.error error)) (by simp)
        refine kept.leave calls rfl stay free (.withdraw id) (.inl rfl) ?_ quiet
        rw [left, KeyedQueue.move, ← same]
        rfl
    · exact kept.still (stay_refl _) rfl (List.forall_mem_nil _)
  | look caller =>
    simp only [Hearing.step]
    split
    · next network round id calls =>
      split
      · exact kept.still (stay_refl _) rfl (List.forall_mem_nil _)
      · next result listings collected =>
        have moved : listings = (w.session.listings.move (.collect id)).2 := by
          simp [KeyedQueue.move, collected]
        cases result with
        | error error =>
          obtain ⟨session, stay, free, quiet⟩ := goOn_spec
            { w with session := { w.session with listings } } caller (.done (.error error)) (by simp)
          refine kept.leave calls rfl stay free (.collect id) (.inr rfl) ?_ quiet
          rw [session, ← moved]
        | ok reply =>
          obtain ⟨session, stay, free, quiet⟩ := goOn_spec
            { w with session := { w.session with listings } } caller
            (Lister.heed ⟨network, round, none, some id⟩ reply) fun l => heed_free
          refine kept.leave calls rfl stay free (.collect id) (.inr rfl) ?_ ?_
          · dsimp only
            rw [session, ← moved]
          · exact List.forall_mem_cons.mpr ⟨rfl, quiet⟩
    · exact kept.still (stay_refl _) rfl (List.forall_mem_nil _)
  | giveUp caller =>
    simp only [Hearing.step]
    split
    · next calls =>
      refine kept.leave calls rfl (stay_erase _ _) (fun l' here => ?_) (.withdraw _) (.inl rfl) rfl
        (List.forall_mem_nil _)
      simp [Table.find?_erase] at here
    · exact kept.still (stay_erase _ _) rfl (List.forall_mem_nil _)
  | report slot params => exact kept.performAll fun effect => ListHelper.reports_cases
  | close =>
    refine kept.move (stay_refl _) .close rfl (by simp) fun _ network => ?_
    simp [Hearing.step, toHear_concat, Note.enters, Note.tells, KeyedQueue.Move.grant]
  | aside other => exact kept.still (stay_refl _) (other.same _) (List.forall_mem_nil _)

theorem Kept.run (kept : Kept w notes) (moves : List Move) :
    Kept (w.run moves).2 (notes ++ (w.run moves).1) := by
  induction moves generalizing w notes with
  | nil => rwa [run_nil, List.append_nil]
  | cons m moves ih =>
    rw [run_cons, ← List.append_assoc]
    exact ih (kept.step m)

end Kept

theorem kept_run {s : Session} (unused : s.listings = {}) (moves : List Move) :
    Kept (run { session := s } moves).2 (run { session := s } moves).1 := by
  have start : Kept { session := s } [] := ⟨unused ▸ KeyedQueue.sound_empty, nofun, nofun⟩
  exact start.run moves

end Hearing
end Datastream
