import Datastream.Proofs.Listing.Tending

/-!
# What reaches a listing

A listing hears what the core says about its network while it waits, and nothing else (`heard_spec`); what
is said about other networks changes nothing for it (`step_elsewhere`). Together with the course of a call
and with whose the waits in the queue are, that is what a listing does, over every run of any number of
them (`listing_follows_its_rounds`).
-/
namespace Datastream
namespace Hearing

/-- A reply is the first that was told about a network since the last note of some kind. -/
def Reaches (mark : Note → Bool) (network : NetworkId) (reply : ListingReply) (notes : List Note) : Prop :=
  ∃ before note after, notes = before ++ note :: after ∧ mark note = true ∧
    (∀ later ∈ after, mark later = false) ∧ after.findSome? (·.tells network) = some (.ok reply)

/-- A history in which there is a note of some kind is cut at the last of them. -/
theorem cut_at_last (mark : Note → Bool) {notes : List Note} (marked : ∃ note ∈ notes, mark note = true) :
    ∃ before note after, notes = before ++ note :: after ∧ mark note = true ∧
      ∀ later ∈ after, mark later = false := by
  induction notes using List.reverseRecOn with
  | nil => simp at marked
  | append_singleton notes note ih =>
    cases last : mark note with
    | true => exact ⟨notes, note, [], rfl, last, List.forall_mem_nil _⟩
    | false =>
      obtain ⟨note', member, here⟩ := marked
      have inside : note' ∈ notes := by
        rcases List.mem_append.mp member with inside | same
        · exact inside
        · obtain rfl := List.mem_singleton.mp same
          exact absurd here (Bool.eq_false_iff.mp last)
      obtain ⟨before, first, after, rfl, marks, stays⟩ := ih ⟨note', inside, here⟩
      refine ⟨before, first, after ++ [note], by simp, marks, fun later member => ?_⟩
      rcases List.mem_append.mp member with old | same
      · exact stays later old
      · exact List.mem_singleton.mp same ▸ last

section Reaching

variable {caller : Nat} {network : NetworkId} {reply : ListingReply} {notes : List Note}

theorem cut_at_entering (entered : .entered caller ∈ notes) :
    ∃ before after, notes = before ++ .entered caller :: after ∧
      ∀ later ∈ after, later.enters caller = false := by
  obtain ⟨before, note, after, rfl, enters, stays⟩ :=
    cut_at_last (Note.enters caller) ⟨_, entered, decide_eq_true rfl⟩
  cases note with
  | entered caller' =>
    obtain rfl : caller' = caller := of_decide_eq_true enters
    exact ⟨before, after, rfl, stays⟩
  | _ => cases enters

/-- From its entering on, what a call is going to hear is the first that is told. -/
theorem toHear_since_entered {after : List Note} (stays : ∀ later ∈ after, later.enters caller = false)
    (network : NetworkId) (before : List Note) :
    toHear caller network (before ++ .entered caller :: after) = after.findSome? (·.tells network) := by
  have enters : Note.enters caller (.entered caller) = true := decide_eq_true rfl
  have absent : .entered caller ∉ after := fun member => absurd (stays _ member) (by simp [enters])
  rw [List.append_cons, toHear_append absent, toHear_concat, if_pos enters, Option.none_or]

/-- What a call is going to hear does not depend on what was before it entered. -/
theorem toHear_of_entered (entered : .entered caller ∈ notes) (network : NetworkId) (past : List Note) :
    toHear caller network (past ++ notes) = toHear caller network notes := by
  obtain ⟨before, after, rfl, stays⟩ := cut_at_entering entered
  rw [← List.append_assoc, toHear_since_entered stays, toHear_since_entered stays]

theorem reaches_of_toHear (entered : .entered caller ∈ notes)
    (hears : toHear caller network notes = some (.ok reply)) :
    Reaches (Note.enters caller) network reply notes := by
  obtain ⟨before, after, rfl, stays⟩ := cut_at_entering entered
  rw [toHear_since_entered stays] at hears
  exact ⟨before, _, after, rfl, decide_eq_true rfl, stays, hears⟩

/-- A call sends whenever it has entered, before anything else is noted. -/
def SendsAtOnce (caller : Nat) (notes : List Note) : Prop :=
  ∀ before after filters, notes = before ++ .sent caller filters :: after →
    ∃ earlier, before = earlier ++ [.entered caller]

/-- A call that sends at once is told what it hears after it has entered and also sent. -/
theorem reaches_since_own (hears : toHear caller network notes = some (.ok reply))
    (last : ∃ earlier note, own caller notes = earlier ++ [note] ∧
      (note = .entered caller ∨ ∃ filters, note = .sent caller filters))
    (atOnce : SendsAtOnce caller notes) : Reaches (Note.concerns caller) network reply notes := by
  obtain ⟨earlier, note', ends, kind⟩ := last
  have mine : note' ∈ own caller notes := by simp [ends]
  obtain ⟨before, note, after, rfl, made, others⟩ :=
    cut_at_last (Note.concerns caller) ⟨note', List.mem_filter.mp mine⟩
  refine ⟨before, note, after, rfl, made, others, ?_⟩
  have stays : ∀ later ∈ after, later.enters caller = false := by
    intro later member
    have other := others later member
    cases later with
    | entered caller' => exact other
    | _ => rfl
  have nothing : own caller after = [] := List.filter_eq_nil_iff.mpr fun later member => by
    simp [others later member]
  have lone : own caller [note] = [note] := List.filter_cons_of_pos made
  rw [List.append_cons, own_append, nothing, List.append_nil, own_append, lone] at ends
  obtain rfl : note = note' := List.singleton_inj.mp (List.append_inj_right' ends rfl)
  rcases kind with rfl | ⟨filters, rfl⟩
  · rwa [toHear_since_entered stays] at hears
  · obtain ⟨first, rfl⟩ := atOnce before after filters rfl
    rw [List.append_assoc, List.singleton_append, toHear_since_entered] at hears
    · exact hears
    · exact List.forall_mem_cons.mpr ⟨rfl, stays⟩

end Reaching

section Steps

variable {w : Hearing} {notes : List Note} {caller : Nat} {m : Move}

/-- What is told is what the core says by a report. -/
theorem told_step {effect : Effect} (told : .told effect ∈ (w.step m).1) :
    ∃ slot params, m = .report slot params ∧ ListHelper.Says slot params effect := by
  cases made : m.caller? with
  | some caller => cases (touches_step made).notes _ told
  | none =>
    cases m with
    | report slot params =>
      obtain ⟨effect', member, same⟩ := List.mem_map.mp told
      cases same
      exact ⟨slot, params, rfl, ListHelper.said_of_mem member⟩
    | close => simp [step] at told
    | aside => cases told
    | call | enter | send | look | giveUp => cases made

theorem heard_of_mem_hearing {caller' : Nat} {l : Lister} {told : Option (Except Error ListingReply)}
    {reply : ListingReply} (heard : .heard caller reply ∈ hearing caller' l told) :
    caller' = caller ∧ told = some (.ok reply) ∧
      ∃ rest, hearing caller' l told = .heard caller reply :: rest ∧ .heard caller reply ∉ rest := by
  cases told with
  | none => cases heard
  | some result =>
    cases result with
    | error error => simp [hearing] at heard
    | ok reply' =>
      simp only [hearing, List.mem_cons, Note.heard.injEq] at heard ⊢
      rcases heard with ⟨rfl, rfl⟩ | later
      · refine ⟨rfl, rfl, _, rfl, ?_⟩
        cases l.heed reply <;> simp
      · cases outcome : l.heed reply' <;> simp [outcome] at later

/-- A call hears when it looks: the first that was told about its network since it entered. -/
theorem heard_step (kept : Kept w notes) {reply : ListingReply}
    (heard : .heard caller reply ∈ (w.step m).1) :
    ∃ network round id rest, w.callers.find? caller = some ⟨network, round, none, some id⟩ ∧
      toHear caller network notes = some (.ok reply) ∧
      (w.step m).1 = .heard caller reply :: rest ∧ .heard caller reply ∉ rest := by
  cases m with
  | look caller' =>
    rcases look_or_idle w caller' with ⟨network, round, id, calls⟩ | idle
    · rw [kept.look_notes calls] at heard ⊢
      obtain ⟨rfl, told, rest, same, new⟩ := heard_of_mem_hearing heard
      exact ⟨network, round, id, rest, calls, told, same, new⟩
    · rw [idle] at heard
      cases heard
  | enter caller' =>
    simp only [step] at heard
    split at heard
    · split at heard <;> simp [goOn] at heard
    · cases heard
  | send caller' =>
    simp only [step] at heard
    split at heard
    · split at heard <;> simp [goOn] at heard
    · cases heard
  | call | giveUp =>
    simp only [step] at heard
    split at heard <;> cases heard
  | report slot params => simp [step] at heard
  | close => simp [step] at heard
  | aside => cases heard

/-- What somebody else tells a call that waits to no purpose so far, it is going to hear. -/
theorem run_of_others {moves : List Move} (others : ∀ m ∈ moves, m.caller? ≠ some caller) :
    own caller (w.run moves).1 = [] ∧
      (w.run moves).2.callers.find? caller = w.callers.find? caller := by
  induction moves generalizing w with
  | nil => exact ⟨rfl, rfl⟩
  | cons m moves ih =>
    have first := others m (by simp)
    obtain ⟨nothing, same⟩ := ih (w := (w.step m).2) fun m member => others m (by simp [member])
    rw [run_cons, own_append, own_step_of_other first, nothing, same, find?_step_of_other first]
    exact ⟨rfl, rfl⟩

end Steps

section Call

variable {s : Session} {before since : List Move} {caller : Nat} {network : NetworkId}
  {filters : List String}

/-- A call that waits has entered. -/
theorem At.entered {l : Lister} {notes : List Note}
    (place : At caller network filters l (own caller notes)) (waits : l.wait ≠ none) :
    .entered caller ∈ notes := by
  have mine : .entered caller ∈ own caller notes := by
    generalize own caller notes = mine at place
    cases place <;> simp_all [searchRound, course]
  exact List.mem_of_mem_filter mine

theorem call_notes (w : Hearing) (caller : Nat) (network : NetworkId) (filters : List String) :
    (w.step (.call caller network filters)).1 = [] := by
  simp only [step]
  split <;> rfl

/-- At the moment when a call hears a reply, it has entered and perhaps sent last, and the reply is the
first that was told about its network since it entered. -/
theorem heard_spec (unused : s.listings = {})
    (isFree : (run { session := s } before).2.callers.find? caller = none)
    (once : ∀ network filters, .call caller network filters ∉ since) {p q : List Note}
    {reply : ListingReply}
    (split : ((run { session := s } before).2.run (.call caller network filters :: since)).1 =
      p ++ .heard caller reply :: q) :
    .entered caller ∈ p ∧ toHear caller network p = some (.ok reply) ∧
      ∃ earlier note, own caller p = earlier ++ [note] ∧
        (note = .entered caller ∨ ∃ filters, note = .sent caller filters) := by
  -- the run is cut at the move that noted it, and what is known of every run is used up to there
  obtain ⟨earlier, m, later, p', q', moves, made, rfl⟩ := noted_split step split
  cases earlier with
  | nil =>
    obtain ⟨rfl, rfl⟩ := List.cons.inj moves
    have nothing := call_notes (run { session := s } before).2 caller network filters
    simp [noted, nothing] at made
  | cons first earlier =>
    obtain ⟨rfl, rfl⟩ := List.cons.inj moves
    have kept := (kept_run unused before).run (.call caller network filters :: earlier)
    have progress : Progress caller network filters _ _ :=
      progress_run isFree (fun network filters member => once network filters
        (List.mem_append_left (m :: later) member))
    obtain ⟨network', round, id, rest, calls, hears, made', new⟩ :=
      heard_step kept (m := m) (made ▸ List.mem_append_right p' (List.mem_cons_self ..))
    have same : .heard caller reply :: rest = p' ++ .heard caller reply :: q' := made'.symm.trans made
    obtain rfl : p' = [] := by
      cases p' with
      | nil => rfl
      | cons note p' =>
        obtain ⟨-, rfl⟩ := List.cons.inj same
        simp at new
    rw [List.append_nil]
    rw [calls] at progress
    obtain ⟨place⟩ := progress
    obtain rfl : network' = network := place.network_eq
    have entered := place.entered (by simp)
    rw [toHear_of_entered entered] at hears
    exact ⟨entered, hears, place.last⟩

end Call

section Elsewhere

variable {w w' : Hearing} {notes : List Note} {caller : Nat} {network : NetworkId}

/-- What a call does next depends on the queue only by whether it is closed, the number of the next wait
and the result of its own. -/
theorem step_alike (callers : w'.callers = w.callers)
    (session : w'.session = { w.session with listings := w'.session.listings })
    (nextId : w'.session.listings.nextId = w.session.listings.nextId)
    (closed : w'.session.listings.closed = w.session.listings.closed)
    (found : ∀ l id, w.callers.find? caller = some l → l.wait = some id →
      w'.session.listings.delivered.find? id = w.session.listings.delivered.find? id)
    {m : Move} (mine : m.caller? = some caller) :
    (w'.step m).1 = (w.step m).1 ∧ (w'.step m).2.callers = (w.step m).2.callers := by
  cases m with
  | report | close | aside => cases mine
  | call caller' network filters =>
    simp only [step, callers]
    cases w.callers.find? caller' <;> exact ⟨rfl, by simp [callers]⟩
  | enter caller' =>
    simp only [step, callers, closed]
    split
    · split
      · exact ⟨rfl, by simp [goOn, callers]⟩
      · exact ⟨rfl, by simp [register, KeyedQueue.register, nextId, callers]⟩
    · exact ⟨rfl, callers⟩
  | send caller' =>
    simp only [step, callers]
    split
    · next network round filters id calls =>
      have asked := BlindToListings.request network filters w.session w'.session.listings
      rw [← session] at asked
      rw [asked]
      cases Listing.request network filters w.session <;> exact ⟨rfl, rfl⟩
    · exact ⟨rfl, callers⟩
  | look caller' =>
    obtain rfl : caller' = caller := Option.some.inj mine
    simp only [step, callers]
    split
    · next network round id calls =>
      simp only [KeyedQueue.collect, found _ id calls rfl]
      cases w.session.listings.delivered.find? id with
      | none => exact ⟨rfl, callers⟩
      | some result =>
        cases result with
        | error error => exact ⟨rfl, rfl⟩
        | ok reply =>
          simp only [Option.map_some]
          cases Lister.heed ⟨network, round, none, some id⟩ reply <;> exact ⟨rfl, rfl⟩
    · exact ⟨rfl, callers⟩
  | giveUp caller' =>
    simp only [step, callers]
    split <;> exact ⟨rfl, rfl⟩

/-- A report that says nothing about the network of a call leaves the call as it is, and what it does
next. -/
theorem step_elsewhere (kept : Kept w notes) {slot : String} {params : List Value}
    (elsewhere : ∀ effect, ListHelper.Says slot params effect → effect.tells network = none)
    (there : ∀ l, w.callers.find? caller = some l → l.network = network) {m : Move}
    (mine : m.caller? = some caller) :
    ((w.step (.report slot params)).2.step m).1 = (w.step m).1 ∧
      ((w.step (.report slot params)).2.step m).2.callers = (w.step m).2.callers := by
  have kept' := kept.step (.report slot params)
  rcases w.step_report slot params with nothing | ⟨effect, k, said, serves, moved⟩
  · rw [nothing]
    exact ⟨rfl, rfl⟩
  rw [moved] at kept' ⊢
  obtain ⟨-, -, same⟩ := KeyedQueue.move_refines kept.sound k
  have started : (w.session.listings.move k).2.nextId = w.session.listings.nextId := by
    refine (congrArg Waits.started same).trans ?_
    rcases serves with ⟨_, _, rfl⟩ | ⟨_, rfl⟩ <;> rfl
  have closed : (w.session.listings.move k).2.closed = w.session.listings.closed := by
    refine (congrArg Waits.closed same).trans ?_
    rcases serves with ⟨_, _, rfl⟩ | ⟨_, rfl⟩ <;> rfl
  refine step_alike ?_ ?_ started closed (fun l id calls waits => ?_) mine
  · rfl
  · rfl
  obtain rfl := there l calls
  have later := Waits.find?_of_stands kept'.sound.proper (kept'.stands calls waits)
  rw [toHear_concat, if_neg (by simp [Note.enters]), Note.tells, elsewhere effect said,
    Option.or_none] at later
  exact later.trans (Waits.find?_of_stands kept.sound.proper (kept.stands calls waits)).symm

end Elsewhere

/-- A failure that is reported while a call waits, before anything else is told it, ends the call when it
looks next, whatever others do until then. -/
theorem failure_ends {w : Hearing} {notes : List Note} (kept : Kept w notes) {caller : Nat}
    {network : NetworkId} {round : ListingRound} {id : Nat}
    (calls : w.callers.find? caller = some ⟨network, round, none, some id⟩)
    (nothing : toHear caller network notes = none) {slot : String} {params : List Value} {reason : String}
    (said : ListHelper.Says slot params (.failListings reason)) {more : List Move}
    (others : ∀ m ∈ more, m.caller? ≠ some caller) :
    let w' := (w.run (.report slot params :: more)).2
    (w'.step (.look caller)).1 =
        [.heard caller (.failed reason), .returned caller (.error (.listingFailed reason))] ∧
      (w'.step (.look caller)).2.callers.find? caller = none := by
  intro w'
  have others' : ∀ m ∈ Move.report slot params :: more, m.caller? ≠ some caller :=
    List.forall_mem_cons.mpr ⟨by simp [Move.caller?], others⟩
  obtain ⟨quiet, same⟩ := run_of_others (w := w) others'
  have calls' : w'.callers.find? caller = some ⟨network, round, none, some id⟩ := same.trans calls
  have stays : .entered caller ∉ (w.run (.report slot params :: more)).1 := fun member =>
    List.filter_eq_nil_iff.mp quiet _ member (decide_eq_true rfl)
  have first : (w.run (.report slot params :: more)).1 =
      .told (.failListings reason) :: ((w.step (.report slot params)).2.run more).1 := by
    rw [run_cons]
    simp only [step, ListHelper.reports_of_said said]
    rfl
  have hears : toHear caller network (notes ++ (w.run (.report slot params :: more)).1) =
      some (.ok (.failed reason)) := by
    rw [toHear_append stays, nothing, Option.none_or, first]
    rfl
  have looks : (w'.step (.look caller)).1 =
      [.heard caller (.failed reason), .returned caller (.error (.listingFailed reason))] := by
    rw [(kept.run _).look_notes calls', hears]
    rfl
  refine ⟨looks, ?_⟩
  have acts : Acts caller (w'.callers.find? caller) (own caller (w'.step (.look caller)).1)
      ((w'.step (.look caller)).2.callers.find? caller) := acts_step (by simp)
  exact acts.of_returned (List.mem_filter.mpr
    ⟨looks ▸ List.mem_cons_of_mem _ (List.mem_cons_self ..), decide_eq_true rfl⟩)

theorem over_of_giveUp {w : Hearing} {caller : Nat} {network : NetworkId} {filters : List String}
    {since : List Move} (once : ∀ network filters, .call caller network filters ∉ since)
    (givesUp : .giveUp caller ∈ since) :
    (w.run (.call caller network filters :: since)).2.callers.find? caller = none := by
  obtain ⟨earlier, later, rfl⟩ := List.append_of_mem givesUp
  rw [← List.cons_append, run, noted_append]
  refine over_run (w := (Hearing.step _ (.giveUp caller)).2) ?_ fun network filters member => ?_
  · simp only [step]
    split <;> simp [Table.find?_erase]
  · exact once network filters (by simp [member])

/-- What a listing does, over every run of any number of them with every order of reports. A call follows
its two rounds (`Follows`): it asks for a search with its own filters before it hears anything, and once
at most; it asks once at most to fetch, without filters, and only when it has heard that its search has
finished; and it returns channels only when it hears of them after that, the rows of three columns in
their order. What it hears is the first that was told about its network since it entered; if it sends
whenever it enters, that was told after it had sent. What is told is what the core reports. A failure
reported while it waits ends it in either round, with the text of the report. Every wait in the queue is
that of a listing in progress, which a call that has returned or was given up is not. A report that says
nothing about its network leaves it as it is, and what it does next. -/
theorem listing_follows_its_rounds {s : Session} (unused : s.listings = {}) (before : List Move)
    (caller : Nat) (isFree : (run { session := s } before).2.callers.find? caller = none)
    (network : NetworkId) (filters : List String) (since : List Move)
    (once : ∀ network filters, .call caller network filters ∉ since) :
    let notes := ((run { session := s } before).2.run (.call caller network filters :: since)).1
    let w := ((run { session := s } before).2.run (.call caller network filters :: since)).2
    Follows caller network filters (own caller notes) ∧
    (∀ p reply q, notes = p ++ .heard caller reply :: q →
      Reaches (Note.enters caller) network reply p ∧
      (SendsAtOnce caller p → Reaches (Note.concerns caller) network reply p)) ∧
    (∀ effect, .told effect ∈ notes →
      ∃ slot params, .report slot params ∈ since ∧ ListHelper.Says slot params effect) ∧
    (∀ round id, w.callers.find? caller = some ⟨network, round, none, some id⟩ →
      toHear caller network notes = none →
      ∀ slot params reason, ListHelper.Says slot params (.failListings reason) →
      ∀ more : List Move, (∀ m ∈ more, m.caller? ≠ some caller) →
        let w' := (w.run (.report slot params :: more)).2
        (w'.step (.look caller)).1 =
            [.heard caller (.failed reason), .returned caller (.error (.listingFailed reason))] ∧
          (w'.step (.look caller)).2.callers.find? caller = none) ∧
    (∀ id ∈ w.session.listings.waits.ids,
      ∃ caller l, w.callers.find? caller = some l ∧ l.wait = some id) ∧
    ((∃ result, .returned caller result ∈ notes) ∨ .giveUp caller ∈ since →
      w.callers.find? caller = none) ∧
    ∀ slot params, (∀ effect, ListHelper.Says slot params effect → effect.tells network = none) →
      ∀ m, m.caller? = some caller →
        ((w.step (.report slot params)).2.step m).1 = (w.step m).1 ∧
        ((w.step (.report slot params)).2.step m).2.callers = (w.step m).2.callers := by
  intro notes w
  have progress : Progress caller network filters (w.callers.find? caller) (own caller notes) :=
    progress_run isFree once
  have kept : Kept w ((run { session := s } before).1 ++ notes) := (kept_run unused before).run _
  refine ⟨progress.follows, fun p reply q split => ?_, fun effect told => ?_, ?_, ?_,
    ?_, ?_⟩
  · obtain ⟨entered, hears, last⟩ := heard_spec unused isFree once split
    exact ⟨reaches_of_toHear entered hears, reaches_since_own hears last⟩
  · obtain ⟨p, q, split⟩ := List.append_of_mem told
    obtain ⟨earlier, m, later, p', q', moves, made, -⟩ := noted_split step split
    obtain ⟨slot, params, rfl, said⟩ :=
      told_step (made ▸ List.mem_append_right p' (List.mem_cons_self ..))
    have member : .report slot params ∈ .call caller network filters :: since :=
      moves ▸ List.mem_append_right earlier (List.mem_cons_self ..)
    rcases List.mem_cons.mp member with same | member
    · cases same
    · exact ⟨slot, params, member, said⟩
  · intro round id calls nothing slot params reason said more others
    rw [calls] at progress
    obtain ⟨place⟩ := progress
    have entered := place.entered (by simp)
    exact failure_ends kept calls (toHear_of_entered entered network _ ▸ nothing) said others
  · have tended := tended_run unused (before ++ .call caller network filters :: since)
    rwa [run, noted_append] at tended
  · rintro (⟨result, returned⟩ | givesUp)
    · exact progress.returned (List.mem_filter.mpr ⟨returned, decide_eq_true rfl⟩)
    · exact over_of_giveUp once givesUp
  · intro slot params elsewhere m mine
    refine step_elsewhere kept elsewhere (fun l calls => ?_) mine
    rw [calls] at progress
    obtain ⟨place⟩ := progress
    exact place.network_eq

def otherSearch : List Move := [.call 1 ⟨2⟩ [], .enter 1, .send 1]

/-- A listing on another one, which passes over what somebody else has fetched. -/
def threeRows : List Move := [.enter 0, .send 0,
  .report ListingReply.receiveSlot [.networkId ⟨1⟩, .list [], .list []], .look 0, .enter 0,
  .report ListingReply.finishedSlot [.networkId ⟨2⟩],
  .report ListingReply.finishedSlot [.networkId ⟨1⟩], .look 0, .enter 0, .send 0,
  .report ListingReply.receiveSlot [.networkId ⟨1⟩, .list [],
    .list [.list [.string "#lean", .uint 3, .string none], .list [], .string "x"]], .look 0]

def searched : List Note × Hearing :=
  (run { session := withHelper } otherSearch).2.run (.call 0 ⟨1⟩ ["#lean"] :: threeRows)

def Note.found? : Note → Option (Nat × List FoundChannel)
  | .returned caller result => result.toOption.map (caller, ·)
  | .entered _ | .sent .. | .told _ | .heard .. | .closed => none

/-- A listing finds one channel in three rows, and is over then. The listing elsewhere would end with a
failure of which no more is known. -/
theorem one_channel_in_three_rows :
    (own 0 searched.1 matches [.entered _, .sent _ [_], .heard _ (.channels []), .entered _,
        .heard _ .finished, .entered _, .sent _ [], .heard _ (.channels [_, _, _]), .returned ..]) ∧
      searched.1.filterMap Note.found? = [(0, [⟨⟨1⟩, "#lean", 3, ""⟩])] ∧
      Follows 0 ⟨1⟩ ["#lean"] (own 0 searched.1) ∧ searched.2.callers.find? 0 = none ∧
      (((run { session := withHelper } otherSearch).2.run
        [.report ListingReply.errorSlot [.string none], .call 0 ⟨1⟩ []]).2.step (.look 1)).1 =
        [.heard 1 (.failed "Unknown Error"), .returned 1 (.error (.listingFailed "Unknown Error"))] := by
  have found : searched.1.filterMap Note.found? = [(0, [⟨⟨1⟩, "#lean", 3, ""⟩])] := by decide +kernel
  have returned : ∃ result, .returned 0 result ∈ searched.1 := by
    obtain ⟨note, member, here⟩ := List.mem_filterMap.mp (found ▸ List.mem_singleton_self _)
    cases note with
    | returned caller result =>
      obtain ⟨channels, -, same⟩ := Option.map_eq_some_iff.mp here
      cases same
      exact ⟨result, member⟩
    | _ => cases here
  obtain ⟨follows, -, -, -, -, gone, -⟩ := listing_follows_its_rounds (s := withHelper) rfl otherSearch 0
    (by decide +kernel) ⟨1⟩ ["#lean"] threeRows (by simp [threeRows])
  obtain ⟨-, -, -, fails, -⟩ := listing_follows_its_rounds (s := withHelper) rfl [] 1 rfl ⟨2⟩ []
    [.enter 1, .send 1] (by simp)
  refine ⟨by decide +kernel, found, ?_⟩
  -- written out, the run is the one that the theorem speaks of
  unfold searched at returned ⊢
  refine ⟨follows, gone (.inl returned), ?_⟩
  exact (fails .searching 0 (by decide +kernel) rfl _ _ _ (.failed none []) [.call 0 ⟨1⟩ []]
    (by simp [Move.caller?])).1

end Hearing
end Datastream
