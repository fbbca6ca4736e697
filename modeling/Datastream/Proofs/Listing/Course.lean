import Datastream.Proofs.Listing.Hearing

/-!
# The course of a listing

What one call does in a run, whatever others do in between. It enters, sends its search and hears replies,
entering again after each that it passes over; when it hears that its search has finished it enters, sends
its fetch and hears replies in the same way (`course`). A step of the run does one thing for the call at
most (`acts_step`), so the call is at one place of its course until it is over (`At`, `Progress.step`), and
all that it does follows its two rounds (`progress_run`).

The course is that of `search_and_fetch`.
-/
namespace Datastream

def Value.hasThreeColumns (row : Value) : Bool := row.list?.any (·.length = 3)

namespace FoundChannel

/-- What a listing on a network makes of a row of three columns. -/
def Describes (network : NetworkId) (row : Value) (channel : FoundChannel) : Prop :=
  ∃ name users topic, row.list? = some [name, users, topic] ∧
    channel = ⟨network, name.text?.getD "", users.uint?.getD 0, topic.text?.getD ""⟩

theorem ofRow?_cases (network : NetworkId) (row : Value) :
    (row.hasThreeColumns = true ∧ ∃ channel, ofRow? network row = some channel ∧
      Describes network row channel) ∨
    row.hasThreeColumns = false ∧ ofRow? network row = none := by
  unfold ofRow? Value.hasThreeColumns
  split
  · next name users topic columns =>
    exact .inl ⟨by rw [columns]; rfl, _, rfl, name, users, topic, columns, rfl⟩
  · next others =>
    refine .inr ⟨?_, rfl⟩
    cases columns : row.list? with
    | none => rfl
    | some items =>
      match items with
      | [name, users, topic] => exact absurd columns (others name users topic)
      | [] | [_] | [_, _] => rfl
      | _ :: _ :: _ :: _ :: _ => simp

/-- The rows of three columns are described, in their order, and the others are left out. -/
theorem describes_rows (network : NetworkId) (rows : List Value) :
    List.Forall₂ (Describes network) (rows.filter Value.hasThreeColumns)
      (rows.filterMap (ofRow? network)) := by
  induction rows with
  | nil => exact .nil
  | cons row rows ih =>
    rcases ofRow?_cases network row with ⟨three, channel, made, describes⟩ | ⟨other, nothing⟩
    · rw [List.filter_cons_of_pos three, List.filterMap_cons_some made]
      exact .cons describes ih
    · rw [List.filter_cons_of_neg (Bool.not_eq_true _ ▸ other), List.filterMap_cons_none nothing]
      exact ih

end FoundChannel

namespace Hearing

/-- Whether a note is of something that a call did or that came to it. -/
def Note.concerns (caller : Nat) : Note → Bool
  | .entered caller' | .sent caller' _ | .heard caller' _ | .returned caller' _ => caller' = caller
  | .told _ | .closed => false

def own (caller : Nat) (notes : List Note) : List Note := notes.filter (·.concerns caller)

def Move.caller? : Move → Option Nat
  | .call caller _ _ | .enter caller | .send caller | .look caller | .giveUp caller => some caller
  | .report .. | .close | .aside _ => none

/-- What one step can do for a call: nothing, or one thing that the call itself does. -/
inductive Acts (caller : Nat) : Option Lister → List Note → Option Lister → Prop
  | rests (l : Option Lister) : Acts caller l [] l
  | enters (network : NetworkId) (round : ListingRound) (request : Option (List String)) (id : Nat) :
    Acts caller (some ⟨network, round, request, none⟩) [.entered caller]
      (some ⟨network, round, request, some id⟩)
  | sends (network : NetworkId) (round : ListingRound) (filters : List String) (id : Nat) :
    Acts caller (some ⟨network, round, some filters, some id⟩) [.sent caller filters]
      (some ⟨network, round, none, some id⟩)
  | goesOn {network : NetworkId} {round : ListingRound} {id : Nat} {reply : ListingReply} {l : Lister}
    (heeds : Lister.heed ⟨network, round, none, some id⟩ reply = .waiting l) :
    Acts caller (some ⟨network, round, none, some id⟩) [.heard caller reply] (some l)
  | ends {network : NetworkId} {round : ListingRound} {id : Nat} {reply : ListingReply}
    {result : Except Error (List FoundChannel)}
    (heeds : Lister.heed ⟨network, round, none, some id⟩ reply = .done result) :
    Acts caller (some ⟨network, round, none, some id⟩)
      [.heard caller reply, .returned caller result] none
  | fails (l : Lister) (error : Error) : Acts caller (some l) [.returned caller (.error error)] none
  | givenUp (l : Option Lister) : Acts caller l [] none

theorem Acts.of_none {caller : Nat} {notes : List Note} {l : Option Lister}
    (acts : Acts caller none notes l) : l = none := by
  cases acts <;> rfl

theorem Acts.of_returned {caller : Nat} {notes : List Note} {l l' : Option Lister}
    {result : Except Error (List FoundChannel)} (acts : Acts caller l notes l')
    (returned : .returned caller result ∈ notes) : l' = none := by
  cases acts <;> first | rfl | simp at returned

section Steps

variable {w : Hearing} {caller : Nat} {m : Move}

theorem own_append (caller : Nat) (notes more : List Note) :
    own caller (notes ++ more) = own caller notes ++ own caller more :=
  List.filter_append ..

/-- A call that does not wait enters; any other move to enter does nothing. -/
theorem enter_or_idle (w : Hearing) (caller : Nat) :
    (∃ network round request, w.callers.find? caller = some ⟨network, round, request, none⟩) ∨
      w.step (.enter caller) = ([], w) := by
  simp only [step]
  split
  · next network round request calls => exact .inl ⟨network, round, request, calls⟩
  · exact .inr rfl

theorem send_or_idle (w : Hearing) (caller : Nat) :
    (∃ network round filters id,
      w.callers.find? caller = some ⟨network, round, some filters, some id⟩) ∨
      w.step (.send caller) = ([], w) := by
  simp only [step]
  split
  · next network round filters id calls => exact .inl ⟨network, round, filters, id, calls⟩
  · exact .inr rfl

theorem look_or_idle (w : Hearing) (caller : Nat) :
    (∃ network round id, w.callers.find? caller = some ⟨network, round, none, some id⟩) ∨
      w.step (.look caller) = ([], w) := by
  simp only [step]
  split
  · next network round id calls => exact .inl ⟨network, round, id, calls⟩
  · exact .inr rfl

theorem session_goOn (w : Hearing) (caller : Nat) (outcome : Lister.Outcome) :
    (w.goOn caller outcome).2.session = w.session := by
  cases outcome <;> rfl

/-- What one call leaves behind: notes of its own, and the other calls as they were. -/
structure Touches (w : Hearing) (caller : Nat) (after : List Note × Hearing) : Prop where
  notes : ∀ note ∈ after.1, note.concerns caller = true
  others : ∀ other, other ≠ caller → after.2.callers.find? other = w.callers.find? other

theorem touches_nothing (w : Hearing) (caller : Nat) : Touches w caller ([], w) :=
  ⟨List.forall_mem_nil _, fun _ _ => rfl⟩

theorem touches_put {notes : List Note} (noted : ∀ note ∈ notes, note.concerns caller = true)
    (s : Session) (l : Lister) : Touches w caller (notes, ⟨s, w.callers.put caller l⟩) :=
  ⟨noted, fun other differs => by simp [Table.find?_put, Ne.symm differs]⟩

theorem touches_erase {notes : List Note} (noted : ∀ note ∈ notes, note.concerns caller = true)
    (s : Session) : Touches w caller (notes, ⟨s, w.callers.erase caller⟩) :=
  ⟨noted, fun other differs => by simp [Table.find?_erase, Ne.symm differs]⟩

theorem touches_goOn (s : Session) (outcome : Lister.Outcome) :
    Touches w caller (goOn ⟨s, w.callers⟩ caller outcome) := by
  cases outcome with
  | done result => exact touches_erase (by simp [Note.concerns]) s
  | waiting l => exact touches_put (List.forall_mem_nil _) s l

theorem touches_step (mine : m.caller? = some caller) : Touches w caller (w.step m) := by
  cases m with
  | report | close | aside => cases mine
  | call caller' network filters =>
    obtain rfl : caller' = caller := Option.some.inj mine
    simp only [step]
    split
    · exact touches_put (List.forall_mem_nil _) _ _
    · exact touches_nothing w _
  | enter caller' =>
    obtain rfl : caller' = caller := Option.some.inj mine
    simp only [step]
    split
    · split
      · exact touches_goOn _ _
      · exact touches_put (by simp [Note.concerns]) _ _
    · exact touches_nothing w _
  | send caller' =>
    obtain rfl : caller' = caller := Option.some.inj mine
    simp only [step]
    split
    · split
      · exact touches_put (by simp [Note.concerns]) _ _
      · exact touches_goOn _ _
    · exact touches_nothing w _
  | look caller' =>
    obtain rfl : caller' = caller := Option.some.inj mine
    simp only [step]
    split
    · split
      · exact touches_nothing w _
      · next result listings _ =>
        cases result with
        | error error => exact touches_goOn _ _
        | ok reply =>
          obtain ⟨notes, others⟩ := touches_goOn { w.session with listings } (Lister.heed _ reply)
          exact ⟨List.forall_mem_cons.mpr ⟨decide_eq_true rfl, notes⟩, others⟩
    · exact touches_nothing w _
  | giveUp caller' =>
    obtain rfl : caller' = caller := Option.some.inj mine
    simp only [step]
    split <;> exact touches_erase (List.forall_mem_nil _) _

theorem find?_step_of_other (other : m.caller? ≠ some caller) :
    (w.step m).2.callers.find? caller = w.callers.find? caller := by
  cases made : m.caller? with
  | some caller' => exact (touches_step made).others caller fun same => other (same ▸ made)
  | none =>
    cases m with
    | report | close | aside => rfl
    | call | enter | send | look | giveUp => cases made

/-- What somebody else does is nothing to a call. -/
theorem own_step_of_other (other : m.caller? ≠ some caller) : own caller (w.step m).1 = [] := by
  refine List.filter_eq_nil_iff.mpr fun note member mine => ?_
  cases made : m.caller? with
  | none =>
    cases m with
    | report slot params =>
      obtain ⟨effect, -, rfl⟩ := List.mem_map.mp member
      cases mine
    | close =>
      obtain rfl := List.mem_singleton.mp member
      cases mine
    | aside => cases member
    | call | enter | send | look | giveUp => cases made
  | some caller' =>
    have theirs := (touches_step made).notes note member
    have same : caller' = caller := by
      cases note with
      | told | closed => cases mine
      | entered | sent | heard | returned =>
        exact (of_decide_eq_true theirs).symm.trans (of_decide_eq_true mine)
    exact other (same ▸ made)

/-- A step does one thing for a call at most. -/
theorem acts_step (called : ∀ network filters, m ≠ .call caller network filters) :
    Acts caller (w.callers.find? caller) (own caller (w.step m).1)
      ((w.step m).2.callers.find? caller) := by
  by_cases mine : m.caller? = some caller
  case neg =>
    rw [own_step_of_other mine, find?_step_of_other mine]
    exact .rests _
  cases m with
  | call caller' network filters =>
    cases mine
    exact absurd rfl (called network filters)
  | enter caller' =>
    cases mine
    simp only [step]
    split
    · next network round request calls =>
      rw [calls]
      split
      · simpa [goOn, own, Note.concerns, Table.find?_erase] using Acts.fails _ _
      · rw [find?_register]
        simpa [own, Note.concerns] using Acts.enters network round request _
    · exact .rests _
  | send caller' =>
    cases mine
    simp only [step]
    split
    · next network round filters id calls =>
      rw [calls]
      split
      · simpa [own, Note.concerns, Table.find?_put] using Acts.sends network round filters id
      · simpa [goOn, own, Note.concerns, Table.find?_erase] using Acts.fails _ _
    · exact .rests _
  | look caller' =>
    cases mine
    simp only [step]
    split
    · next network round id calls =>
      rw [calls]
      split
      · rw [calls]
        exact .rests _
      · next result listings _ =>
        cases result with
        | error error => simpa [goOn, own, Note.concerns, Table.find?_erase] using Acts.fails _ _
        | ok reply =>
          cases heeds : Lister.heed ⟨network, round, none, some id⟩ reply with
          | done result =>
            simp only [heeds]
            simpa [goOn, own, Note.concerns, Table.find?_erase] using Acts.ends heeds
          | waiting l =>
            simp only [heeds]
            simpa [goOn, own, Note.concerns, Table.find?_put] using Acts.goesOn heeds
    · exact .rests _
  | giveUp caller' =>
    cases mine
    simp only [step]
    split <;> simpa [own, Table.find?_erase] using Acts.givenUp _
  | report | close | aside => cases mine

end Steps

/-- The first round of a listing, in which it has passed over what others have fetched. -/
def searchRound (caller : Nat) (filters : List String) (others : List (List Value)) : List Note :=
  [.entered caller, .sent caller filters] ++
    others.flatMap fun rows => [.heard caller (.channels rows), .entered caller]

/-- The second round, in which it has passed over that other searches have finished. -/
def fetchRound (caller again : Nat) : List Note :=
  [.entered caller, .sent caller []] ++
    (List.replicate again [.heard caller .finished, .entered caller]).flatten

/-- All that a listing does before its last reply. -/
def course (caller : Nat) (filters : List String) (others : List (List Value)) (again : Nat) :
    List Note :=
  searchRound caller filters others ++ .heard caller .finished :: fetchRound caller again

/-- What a call does follows its rounds. It may be on its way or given up; it ends with an error that
keeps it from entering or sending, or when it is told that it is closed; it ends when it hears of a
failure, in either round; and in the second with the channels that it hears. -/
inductive Follows (caller : Nat) (network : NetworkId) (filters : List String) : List Note → Prop
  | onWay {notes : List Note} (others : List (List Value)) (again : Nat)
    (part : notes <+: course caller filters others again) : Follows caller network filters notes
  | refused {notes : List Note} (others : List (List Value)) (again : Nat)
    (part : notes <+: course caller filters others again) (error : Error) :
    Follows caller network filters (notes ++ [.returned caller (.error error)])
  | failed {notes : List Note} (others : List (List Value)) (again : Nat)
    (waits : notes = searchRound caller filters others ∨ notes = course caller filters others again)
    (reason : String) :
    Follows caller network filters (notes ++
      [.heard caller (.failed reason), .returned caller (.error (.listingFailed reason))])
  | found (others : List (List Value)) (again : Nat) (rows : List Value) (channels : List FoundChannel)
    (describes : List.Forall₂ (FoundChannel.Describes network) (rows.filter Value.hasThreeColumns)
      channels) :
    Follows caller network filters (course caller filters others again ++
      [.heard caller (.channels rows), .returned caller (.ok channels)])

/-- The place of a call in its course, by what it has done. -/
inductive At (caller : Nat) (network : NetworkId) (filters : List String) : Lister → List Note → Prop
  | called : At caller network filters ⟨network, .searching, some filters, none⟩ []
  | searches (id : Nat) :
    At caller network filters ⟨network, .searching, some filters, some id⟩ [.entered caller]
  | searched (id : Nat) (others : List (List Value)) :
    At caller network filters ⟨network, .searching, none, some id⟩ (searchRound caller filters others)
  | passed (others : List (List Value)) (rows : List Value) :
    At caller network filters ⟨network, .searching, none, none⟩
      (searchRound caller filters others ++ [.heard caller (.channels rows)])
  | finished (others : List (List Value)) :
    At caller network filters ⟨network, .fetching, some [], none⟩
      (searchRound caller filters others ++ [.heard caller .finished])
  | fetches (id : Nat) (others : List (List Value)) :
    At caller network filters ⟨network, .fetching, some [], some id⟩
      (searchRound caller filters others ++ [.heard caller .finished, .entered caller])
  | fetched (id : Nat) (others : List (List Value)) (again : Nat) :
    At caller network filters ⟨network, .fetching, none, some id⟩ (course caller filters others again)
  | repeated (others : List (List Value)) (again : Nat) :
    At caller network filters ⟨network, .fetching, none, none⟩
      (course caller filters others again ++ [.heard caller .finished])

inductive Progress (caller : Nat) (network : NetworkId) (filters : List String) :
    Option Lister → List Note → Prop
  | goes {l : Lister} {notes : List Note} (place : At caller network filters l notes) :
    Progress caller network filters (some l) notes
  | ended {notes : List Note} (follows : Follows caller network filters notes) :
    Progress caller network filters none notes

section Rounds

variable {caller : Nat} {network : NetworkId} {filters : List String}

theorem searchRound_concat (others : List (List Value)) (rows : List Value) :
    searchRound caller filters others ++ [.heard caller (.channels rows), .entered caller] =
      searchRound caller filters (others ++ [rows]) := by
  simp [searchRound]

theorem fetchRound_succ (again : Nat) :
    fetchRound caller again ++ [.heard caller .finished, .entered caller] =
      fetchRound caller (again + 1) := by
  simp [fetchRound, List.replicate_succ']

theorem course_succ (others : List (List Value)) (again : Nat) :
    course caller filters others again ++ [.heard caller .finished, .entered caller] =
      course caller filters others (again + 1) := by
  rw [course, List.append_assoc, List.cons_append, fetchRound_succ, course]

theorem At.part {l : Lister} {notes : List Note} (place : At caller network filters l notes) :
    ∃ others again, notes <+: course caller filters others again := by
  cases place with
  | called => exact ⟨[], 0, List.nil_prefix⟩
  | searches id => exact ⟨[], 0, ⟨_, rfl⟩⟩
  | searched id others => exact ⟨others, 0, ⟨_, rfl⟩⟩
  | passed others rows =>
    refine ⟨others ++ [rows], 0, ?_⟩
    rw [course, ← searchRound_concat]
    exact ⟨_, by rw [List.append_assoc, List.append_assoc]; rfl⟩
  | finished others => exact ⟨others, 0, ⟨_, List.append_assoc ..⟩⟩
  | fetches id others => exact ⟨others, 0, ⟨_, List.append_assoc ..⟩⟩
  | fetched id others again => exact ⟨others, again, List.prefix_rfl⟩
  | repeated others again =>
    refine ⟨others, again + 1, ?_⟩
    rw [← course_succ]
    exact ⟨_, List.append_assoc ..⟩

/-- A call that has returned is over. -/
theorem Progress.returned {l : Option Lister} {notes : List Note}
    (progress : Progress caller network filters l notes) {result : Except Error (List FoundChannel)}
    (returned : .returned caller result ∈ notes) : l = none := by
  cases progress with
  | ended => rfl
  | goes place =>
    obtain ⟨others, again, part⟩ := place.part
    have member := part.subset returned
    simp [course, searchRound, fetchRound] at member

/-- A call that has entered waits at one of four places. -/
theorem At.enter {round : ListingRound} {request : Option (List String)} {notes : List Note}
    (place : At caller network filters ⟨network, round, request, none⟩ notes) (id : Nat) :
    At caller network filters ⟨network, round, request, some id⟩ (notes ++ [.entered caller]) := by
  cases place with
  | called => exact .searches id
  | passed others rows =>
    rw [List.append_assoc, List.singleton_append, searchRound_concat]
    exact .searched id _
  | finished others =>
    rw [List.append_assoc]
    exact .fetches id others
  | repeated others again =>
    rw [List.append_assoc, List.singleton_append, course_succ]
    exact .fetched id others _

theorem At.send {round : ListingRound} {filters' : List String} {id : Nat} {notes : List Note}
    (place : At caller network filters ⟨network, round, some filters', some id⟩ notes) :
    At caller network filters ⟨network, round, none, some id⟩ (notes ++ [.sent caller filters']) := by
  cases place with
  | searches => exact .searched id []
  | fetches _ others =>
    have sends : searchRound caller filters others ++ [.heard caller .finished, .entered caller] ++
        [.sent caller []] = course caller filters others 0 := by simp [course, fetchRound]
    exact sends ▸ .fetched id others 0

/-- A call hears its reply where it waits for it, in one round or the other. -/
theorem At.waits {round : ListingRound} {id : Nat} {notes : List Note}
    (place : At caller network filters ⟨network, round, none, some id⟩ notes) :
    (round = .searching ∧ ∃ others, notes = searchRound caller filters others) ∨
      round = .fetching ∧ ∃ others again, notes = course caller filters others again := by
  cases place with
  | searched _ others => exact .inl ⟨rfl, others, rfl⟩
  | fetched _ others again => exact .inr ⟨rfl, others, again, rfl⟩

/-- What a call does last before it hears a reply is to enter or to send. -/
theorem At.last {round : ListingRound} {id : Nat} {notes : List Note}
    (place : At caller network filters ⟨network, round, none, some id⟩ notes) :
    ∃ earlier note, notes = earlier ++ [note] ∧
      (note = .entered caller ∨ ∃ filters', note = .sent caller filters') := by
  rcases place.waits with ⟨-, others, rfl⟩ | ⟨-, others, again, rfl⟩
  · induction others using List.reverseRecOn with
    | nil => exact ⟨[.entered caller], _, rfl, .inr ⟨filters, rfl⟩⟩
    | append_singleton others rows _ =>
      rw [← searchRound_concat, ← List.singleton_append, ← List.append_assoc]
      exact ⟨_, _, rfl, .inl rfl⟩
  · cases again with
    | zero =>
      refine ⟨searchRound caller filters others ++ [.heard caller .finished, .entered caller], _, ?_,
        .inr ⟨[], rfl⟩⟩
      simp [course, fetchRound]
    | succ again =>
      rw [← course_succ, ← List.singleton_append, ← List.append_assoc]
      exact ⟨_, _, rfl, .inl rfl⟩

theorem At.goOn {round : ListingRound} {id : Nat} {notes : List Note} {reply : ListingReply} {l : Lister}
    (place : At caller network filters ⟨network, round, none, some id⟩ notes)
    (heeds : Lister.heed ⟨network, round, none, some id⟩ reply = .waiting l) :
    At caller network filters l (notes ++ [.heard caller reply]) := by
  rcases place.waits with ⟨rfl, others, rfl⟩ | ⟨rfl, others, again, rfl⟩
  · cases reply with
    | finished => cases heeds; exact .finished others
    | channels rows => cases heeds; exact .passed others rows
    | failed reason => cases heeds
  · cases reply with
    | finished => cases heeds; exact .repeated others again
    | channels rows => cases heeds
    | failed reason => cases heeds

theorem At.ends {round : ListingRound} {id : Nat} {notes : List Note} {reply : ListingReply}
    {result : Except Error (List FoundChannel)}
    (place : At caller network filters ⟨network, round, none, some id⟩ notes)
    (heeds : Lister.heed ⟨network, round, none, some id⟩ reply = .done result) :
    Follows caller network filters (notes ++ [.heard caller reply, .returned caller result]) := by
  rcases place.waits with ⟨rfl, others, rfl⟩ | ⟨rfl, others, again, rfl⟩
  · cases reply with
    | failed reason => cases heeds; exact .failed others 0 (.inl rfl) reason
    | finished => cases heeds
    | channels rows => cases heeds
  · cases reply with
    | failed reason => cases heeds; exact .failed others again (.inr rfl) reason
    | finished => cases heeds
    | channels rows =>
      cases heeds
      exact .found others again rows _ (FoundChannel.describes_rows network rows)

theorem At.network_eq {l : Lister} {notes : List Note} (place : At caller network filters l notes) :
    l.network = network := by
  cases place <;> rfl

theorem Progress.step {l l' : Option Lister} {notes more : List Note}
    (progress : Progress caller network filters l notes) (acts : Acts caller l more l') :
    Progress caller network filters l' (notes ++ more) := by
  cases acts with
  | rests => rwa [List.append_nil]
  | enters network' round request id =>
    obtain ⟨place⟩ := progress
    obtain rfl : network' = network := place.network_eq
    exact .goes (place.enter id)
  | sends network' round filters' id =>
    obtain ⟨place⟩ := progress
    obtain rfl : network' = network := place.network_eq
    exact .goes place.send
  | goesOn heeds =>
    obtain ⟨place⟩ := progress
    obtain rfl := place.network_eq
    exact .goes (place.goOn heeds)
  | ends heeds =>
    obtain ⟨place⟩ := progress
    obtain rfl := place.network_eq
    exact .ended (place.ends heeds)
  | fails l error =>
    obtain ⟨place⟩ := progress
    obtain ⟨others, again, part⟩ := place.part
    exact .ended (.refused others again part error)
  | givenUp =>
    rw [List.append_nil]
    cases progress with
    | goes place =>
      obtain ⟨others, again, part⟩ := place.part
      exact .ended (.onWay others again part)
    | ended follows => exact .ended follows

/-- What a call does follows its rounds, over and also while it goes on. -/
theorem Progress.follows {l : Option Lister} {notes : List Note}
    (progress : Progress caller network filters l notes) : Follows caller network filters notes := by
  cases progress with
  | goes place =>
    obtain ⟨others, again, part⟩ := place.part
    exact .onWay others again part
  | ended follows => exact follows

/-- A call that is over stays over, as long as its number is not used again. -/
theorem over_run {w : Hearing} (gone : w.callers.find? caller = none) {moves : List Move}
    (once : ∀ network filters, .call caller network filters ∉ moves) :
    (w.run moves).2.callers.find? caller = none := by
  induction moves generalizing w with
  | nil => exact gone
  | cons m moves ih =>
    have acts : Acts caller (w.callers.find? caller) (own caller (w.step m).1)
        ((w.step m).2.callers.find? caller) :=
      acts_step fun network filters same => once network filters (same ▸ List.mem_cons_self ..)
    rw [gone] at acts
    exact ih acts.of_none fun network filters member =>
      once network filters (List.mem_cons_of_mem _ member)

/-- A call from its start on, over any run in which its number is not used again. -/
theorem progress_run {w : Hearing} (isFree : w.callers.find? caller = none) {since : List Move}
    (once : ∀ network filters, .call caller network filters ∉ since) :
    Progress caller network filters
      ((w.run (.call caller network filters :: since)).2.callers.find? caller)
      (own caller (w.run (.call caller network filters :: since)).1) := by
  induction since using List.reverseRecOn with
  | nil =>
    have calls : w.step (.call caller network filters) = ([], { w with
        callers := w.callers.put caller { network, request := some filters } }) := by
      simp only [Hearing.step, isFree]
    rw [run_cons, calls, run_nil]
    simp only [Table.find?_put, if_true]
    exact .goes .called
  | append_singleton since m ih =>
    have before := ih fun network filters member => once network filters (by simp [member])
    rw [← List.cons_append, run, noted_concat, own_append]
    refine before.step (acts_step fun network filters same => ?_)
    exact once network filters (by simp [same])

end Rounds
end Hearing
end Datastream
