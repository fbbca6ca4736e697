import Datastream.Proofs.Queue.Waits
import Datastream.Queue.Await

/-!
# The indexes of a keyed queue

A queue finds its waits by number and by key. The index by key lists, for every key, the outstanding
waits that list the key, in the order in which they entered, and no key without waits (`Sound`).
Every move keeps that and does to the queue what it does to a plain collection of waits
(`move_refines`).
-/
namespace Datastream.KeyedQueue

variable {κ ν : Type} [DecidableEq κ]

/-- The plain collection that a queue stands for. -/
def waits (q : KeyedQueue κ ν) : Waits κ ν where
  started := q.nextId
  outstanding := q.waiters.map fun wait => (wait.1, wait.2.toFinset)
  results := q.delivered
  closed := q.closed

def move (q : KeyedQueue κ ν) : Move κ ν → Answer ν × KeyedQueue κ ν
  | .enter keys =>
    if q.closed then (.refused, q) else (.entered (q.register keys).1, (q.register keys).2)
  | .withdraw id => (.done, q.withdraw id)
  | .collect id =>
    match q.collect id with
    | some (result, q) => (.found (some result), q)
    | none => (.found none, q)
  | .resume key value => (.woken (q.resume key value).1, (q.resume key value).2)
  | .resumeAll value => (.woken (q.resumeAll value).1, (q.resumeAll value).2)
  | .close => (.done, q.close)

/-- The outstanding waits that list a key. -/
def idsUnder (waiters : Table Nat (List κ)) (key : κ) : List Nat :=
  (waiters.filter (key ∈ ·.2)).map (·.1)

/-- The entry of an index for these waits: none, if there are none. -/
def occupied (ids : List Nat) : Option (List Nat) := if ids = [] then none else some ids

/-- The two indexes agree, and the numbers of waits are in order. -/
structure Sound (q : KeyedQueue κ ν) : Prop where
  index : ∀ key, q.byKey.find? key = occupied (idsUnder q.waiters key)
  proper : q.waits.Proper

theorem sound_empty : Sound ({} : KeyedQueue κ ν) where
  index _ := rfl
  proper := ⟨List.nodup_nil, fun _ member => nomatch member⟩

theorem getD_occupied (ids : List Nat) : (occupied ids).getD [] = ids := by
  unfold occupied
  split
  · next empty => exact empty.symm
  · rfl

theorem mem_foldl_distinct (keys seen : List κ) (key : κ) :
    key ∈ keys.foldl (fun seen key => if key ∈ seen then seen else seen ++ [key]) seen ↔
      key ∈ seen ∨ key ∈ keys := by
  induction keys generalizing seen with
  | nil => simp
  | cons first keys ih =>
    rw [List.foldl_cons, ih]
    by_cases known : first ∈ seen
    · simp only [known, if_true, List.mem_cons]
      constructor
      · rintro (old | new)
        · exact .inl old
        · exact .inr (.inr new)
      · rintro (old | rfl | new)
        · exact .inl old
        · exact .inl known
        · exact .inr new
    · simp [known, or_assoc]

theorem nodup_foldl_distinct (keys : List κ) {seen : List κ} (once : seen.Nodup) :
    (keys.foldl (fun seen key => if key ∈ seen then seen else seen ++ [key]) seen).Nodup := by
  induction keys generalizing seen with
  | nil => exact once
  | cons key keys ih =>
    rw [List.foldl_cons]
    apply ih
    split
    · exact once
    · next new => exact List.nodup_append.mpr ⟨once, by simp, by grind⟩

theorem mem_distinct (keys : List κ) (key : κ) : key ∈ distinct keys ↔ key ∈ keys := by
  simp [distinct, mem_foldl_distinct]

theorem nodup_distinct (keys : List κ) : (distinct keys).Nodup :=
  nodup_foldl_distinct keys List.nodup_nil

theorem toFinset_distinct (keys : List κ) : (distinct keys).toFinset = keys.toFinset := by
  ext key
  simp [mem_distinct]

theorem find?_enroll (byKey : Table κ (List Nat)) (id : Nat) (key key' : κ) :
    (enroll byKey id key).find? key' =
      if key = key' then some ((byKey.find? key').getD [] ++ [id]) else byKey.find? key' := by
  rw [enroll, Table.find?_put]
  split
  · next same => rw [same]
  · rfl

theorem find?_foldl_enroll (byKey : Table κ (List Nat)) (id : Nat) {keys : List κ}
    (once : keys.Nodup) (key : κ) :
    (keys.foldl (fun byKey key => enroll byKey id key) byKey).find? key =
      if key ∈ keys then some ((byKey.find? key).getD [] ++ [id]) else byKey.find? key := by
  induction keys generalizing byKey with
  | nil => rfl
  | cons first keys ih =>
    obtain ⟨new, once⟩ := List.nodup_cons.mp once
    rw [List.foldl_cons, ih _ once, find?_enroll]
    by_cases same : first = key
    · subst same
      simp [new]
    · simp [same, Ne.symm same]

theorem find?_dismiss (byKey : Table κ (List Nat)) (id : Nat) (key key' : κ) :
    (dismiss byKey id key).find? key' =
      if key = key' then occupied (((byKey.find? key').getD []).filter (· ≠ id))
      else byKey.find? key' := by
  unfold dismiss
  split
  · next absent =>
    split
    · next same => rw [← same, absent]; rfl
    · rfl
  · next ids present =>
    by_cases same : key = key'
    · subst same
      simp only [present, Option.getD_some, if_true, List.isEmpty_iff]
      split
      · next empty => rw [Table.find?_erase, if_pos rfl, occupied, if_pos empty]
      · next some_left => rw [Table.find?_put, if_pos rfl, occupied, if_neg some_left]
    · simp only [if_neg same]
      split
      · rw [Table.find?_erase, if_neg same]
      · rw [Table.find?_put, if_neg same]

theorem find?_foldl_dismiss (byKey : Table κ (List Nat)) (id : Nat) (keys : List κ) (key : κ) :
    (keys.foldl (fun byKey key => dismiss byKey id key) byKey).find? key =
      if key ∈ keys then occupied (((byKey.find? key).getD []).filter (· ≠ id))
      else byKey.find? key := by
  induction keys generalizing byKey with
  | nil => rfl
  | cons first keys ih =>
    rw [List.foldl_cons, ih, find?_dismiss]
    by_cases same : first = key
    · subst same
      by_cases again : first ∈ keys
      · simp [again, getD_occupied]
      · simp [again]
    · simp [same, Ne.symm same]

theorem mem_idsUnder {waiters : Table Nat (List κ)} {key : κ} {id : Nat} :
    id ∈ idsUnder waiters key ↔ ∃ keys, (id, keys) ∈ waiters ∧ key ∈ keys := by
  simp [idsUnder]

theorem idsUnder_append (waiters : Table Nat (List κ)) (id : Nat) (keys : List κ) (key : κ) :
    idsUnder (waiters ++ [(id, keys)]) key =
      idsUnder waiters key ++ if key ∈ keys then [id] else [] := by
  by_cases listed : key ∈ keys <;> simp [idsUnder, List.filter_append, listed]

theorem idsUnder_filter (waiters : Table Nat (List κ)) (id : Nat) (key : κ) :
    idsUnder (waiters.filter (·.1 ≠ id)) key = (idsUnder waiters key).filter (· ≠ id) := by
  simp only [idsUnder, List.filter_map, List.filter_filter]
  congr 1
  apply List.filter_congr
  intro wait _
  exact Bool.and_comm _ _

section Operations

variable {q : KeyedQueue κ ν}

theorem keys_waiters (q : KeyedQueue κ ν) : q.waits.outstanding.map (·.1) = q.waiters.keys := by
  simp [waits, Table.keys]

theorem Sound.nodup_waiters (sound : q.Sound) : q.waiters.keys.Nodup := by
  have distinct := (List.nodup_append.mp sound.proper.distinct).1
  rwa [keys_waiters] at distinct

theorem Sound.nextId_notMem (sound : q.Sound) : q.nextId ∉ q.waiters.keys := by
  intro member
  rw [← keys_waiters] at member
  exact Nat.lt_irrefl _ (sound.proper.started _ (List.mem_append_left _ member))

theorem Sound.not_delivered (sound : q.Sound) {id : Nat} (outstanding : id ∈ q.waiters.keys) :
    id ∉ q.delivered.keys := by
  intro member
  rw [← keys_waiters] at outstanding
  exact (List.nodup_append.mp sound.proper.distinct).2.2 id outstanding id member rfl

theorem waits_register (sound : q.Sound) (keys : List κ) :
    (q.register keys).2.waits = { q.waits with
      started := q.nextId + 1
      outstanding := q.waits.outstanding ++ [(q.nextId, keys.toFinset)] } := by
  simp [register, waits, Table.put_of_not_mem sound.nextId_notMem, toFinset_distinct]

/-- A wait that has entered is outstanding under its keys. -/
theorem Sound.stands_register (sound : q.Sound) (keys : List κ) :
    (q.register keys).2.waits.Stands q.nextId keys.toFinset none := by
  rw [waits_register sound]
  exact List.mem_append_right _ (List.mem_singleton.mpr rfl)

theorem index_register (sound : q.Sound) (keys : List κ) (key : κ) :
    (q.register keys).2.byKey.find? key =
      occupied (idsUnder (q.register keys).2.waiters key) := by
  simp only [register, Table.put_of_not_mem sound.nextId_notMem, idsUnder_append,
    find?_foldl_enroll _ _ (nodup_distinct keys), sound.index, getD_occupied]
  split
  · simp [occupied]
  · simp

theorem waiters_unregister (q : KeyedQueue κ ν) (id : Nat) :
    (q.unregister id).waiters = q.waiters.filter (·.1 ≠ id) := by
  unfold unregister
  split
  · next absent =>
    exact (Table.filter_of_not_mem ((Table.find?_eq_none_iff _ _).mp absent)).symm
  · exact Table.erase_eq_filter _ _

theorem unregister_rest (q : KeyedQueue κ ν) (id : Nat) :
    (q.unregister id).nextId = q.nextId ∧ (q.unregister id).delivered = q.delivered ∧
      (q.unregister id).closed = q.closed := by
  unfold unregister
  split <;> exact ⟨rfl, rfl, rfl⟩

theorem waits_unregister (q : KeyedQueue κ ν) (id : Nat) :
    (q.unregister id).waits =
      { q.waits with outstanding := q.waits.outstanding.filter (·.1 ≠ id) } := by
  obtain ⟨nextId, delivered, closed⟩ := unregister_rest q id
  simp only [waits, waiters_unregister, nextId, delivered, closed, List.filter_map]
  rfl

theorem index_unregister (sound : q.Sound) (id : Nat) (key : κ) :
    (q.unregister id).byKey.find? key = occupied (idsUnder (q.unregister id).waiters key) := by
  rw [waiters_unregister, idsUnder_filter]
  unfold unregister
  split
  · next absent =>
    rw [Table.find?_eq_none_iff] at absent
    have nobody : ∀ other ∈ idsUnder q.waiters key, other ≠ id := by
      rintro other member rfl
      obtain ⟨keys, entry, _⟩ := mem_idsUnder.mp member
      exact absent (List.mem_map.mpr ⟨_, entry, rfl⟩)
    rw [List.filter_eq_self.mpr (by simpa using nobody)]
    exact sound.index key
  · next keys present =>
    simp only [find?_foldl_dismiss, sound.index, getD_occupied]
    split
    · rfl
    · next unlisted =>
      -- the wait is registered once, so it stands under no other key
      have nobody : ∀ other ∈ idsUnder q.waiters key, other ≠ id := by
        rintro other member rfl
        obtain ⟨keys', entry, listed⟩ := mem_idsUnder.mp member
        have same := (Table.find?_of_mem sound.nodup_waiters entry).symm.trans present
        exact unlisted (Option.some.inj same ▸ listed)
      rw [List.filter_eq_self.mpr (by simpa using nobody)]

theorem waits_withdraw (q : KeyedQueue κ ν) (id : Nat) :
    (q.withdraw id).waits = { q.waits with
      outstanding := q.waits.outstanding.filter (·.1 ≠ id)
      results := q.waits.results.filter (·.1 ≠ id) } := by
  have gone := waits_unregister q id
  simp only [waits, Waits.mk.injEq] at gone
  simp only [withdraw, waits, gone, Table.erase_eq_filter]

theorem waits_deliver (sound : q.Sound) {id : Nat} (outstanding : id ∈ q.waiters.keys)
    (result : Except Error ν) :
    (q.deliver result id).waits = { q.waits with
      outstanding := q.waits.outstanding.filter (·.1 ≠ id)
      results := q.waits.results ++ [(id, result)] } := by
  have gone := waits_unregister q id
  simp only [waits, Waits.mk.injEq] at gone
  unfold deliver
  split
  · next absent => exact absurd outstanding ((Table.find?_eq_none_iff _ _).mp absent)
  · simp only [waits, gone, Table.put_of_not_mem (sound.not_delivered outstanding)]

theorem sound_deliver (sound : q.Sound) {id : Nat} (outstanding : id ∈ q.waiters.keys)
    (result : Except Error ν) : (q.deliver result id).Sound where
  index key := by
    unfold deliver
    split
    · exact sound.index key
    · exact index_unregister sound id key
  proper := by
    rw [waits_deliver sound outstanding]
    exact sound.proper.settle (by rwa [keys_waiters]) result

/-- Several outstanding waits get the same result. -/
theorem foldl_deliver (result : Except Error ν) {ids : List Nat} (once : ids.Nodup)
    (outstanding : ∀ id ∈ ids, id ∈ q.waiters.keys) (sound : q.Sound) :
    (ids.foldl (deliver · result) q).Sound ∧
      (ids.foldl (deliver · result) q).waits = { q.waits with
        outstanding := q.waits.outstanding.filter (·.1 ∉ ids)
        results := q.waits.results ++ ids.map (·, result) } := by
  induction ids generalizing q with
  | nil => exact ⟨sound, by simp⟩
  | cons id ids ih =>
    obtain ⟨new, once⟩ := List.nodup_cons.mp once
    have here : id ∈ q.waiters.keys := outstanding id (by simp)
    have one := waits_deliver sound here result
    have others : ∀ other ∈ ids, other ∈ (q.deliver result id).waiters.keys := by
      intro other member
      have differs : other ≠ id := fun same => new (same ▸ member)
      obtain ⟨wait, entry, rfl⟩ := List.mem_map.mp
        (keys_waiters q ▸ outstanding other (by simp [member]))
      rw [← keys_waiters, one]
      exact List.mem_map.mpr ⟨wait, List.mem_filter.mpr ⟨entry, by simpa using differs⟩, rfl⟩
    obtain ⟨sound', rest⟩ := ih once others (sound_deliver sound here result)
    refine ⟨sound', ?_⟩
    rw [List.foldl_cons, rest, one]
    simp only [List.filter_filter, List.map_cons, List.append_assoc, List.singleton_append,
      Waits.mk.injEq, true_and, and_true]
    refine List.filter_congr fun wait _ => ?_
    by_cases same : wait.1 = id <;> simp [same, new]

theorem Sound.nodup_idsUnder (sound : q.Sound) (key : κ) : (idsUnder q.waiters key).Nodup :=
  sound.nodup_waiters.sublist (List.filter_sublist.map _)

/-- A value resumed under a key serves the waits that list the key. -/
theorem resume_serves (sound : q.Sound) (key : κ) (value : ν) :
    (q.resume key value).2.Sound ∧
      (q.resume key value).1 = (q.waits.serve (.resume key value)).1 ∧
        (q.resume key value).2.waits = (q.waits.serve (.resume key value)).2 := by
  have found : (q.byKey.find? key).getD [] = idsUnder q.waiters key := by
    rw [sound.index, getD_occupied]
  have outstanding : ∀ id ∈ idsUnder q.waiters key, id ∈ q.waiters.keys := by
    intro id member
    obtain ⟨keys, entry, _⟩ := mem_idsUnder.mp member
    exact List.mem_map.mpr ⟨_, entry, rfl⟩
  obtain ⟨sound', woken⟩ := foldl_deliver (.ok value) (sound.nodup_idsUnder key) outstanding sound
  have granted : q.waits.outstanding.filterMap
      (fun wait => ((Move.resume key value).grant wait.2).map (wait.1, ·)) =
        (idsUnder q.waiters key).map fun id => (id, (.ok value : Except Error ν)) := by
    simp only [waits, idsUnder, Move.grant, ← List.filterMap_eq_filter, ← List.filterMap_eq_map,
      List.filterMap_filterMap]
    refine List.filterMap_congr fun wait _ => ?_
    by_cases listed : key ∈ wait.2 <;> simp [listed, Option.guard]
  have left : q.waits.outstanding.filter (fun wait => wait.1 ∉ idsUnder q.waiters key) =
      q.waits.outstanding.filter fun wait => ((Move.resume key value).grant wait.2).isNone := by
    refine List.filter_congr fun wait member => ?_
    obtain ⟨⟨id, keys⟩, entry, rfl⟩ := List.mem_map.mp member
    have listed : id ∈ idsUnder q.waiters key ↔ key ∈ keys := by
      rw [mem_idsUnder]
      constructor
      · rintro ⟨keys', entry', there⟩
        have same := (Table.find?_of_mem sound.nodup_waiters entry').symm.trans
          (Table.find?_of_mem sound.nodup_waiters entry)
        exact Option.some.inj same ▸ there
      · exact fun there => ⟨keys, entry, there⟩
    by_cases there : key ∈ keys <;> simp [Move.grant, listed, there]
  simp only [resume, found, Waits.serve, granted, List.length_map]
  refine ⟨sound', ?_, ?_⟩
  · rw [List.filter_eq_self.mpr]
    intro id member
    rw [Option.isSome_iff_ne_none]
    exact fun absent => (Table.find?_eq_none_iff _ _).mp absent (outstanding id member)
  · rw [woken, left]

/-- Results of waits that have none yet are put behind the others. -/
theorem foldl_put (result : Except Error ν) {ids : List Nat} (once : ids.Nodup)
    {delivered : Table Nat (Except Error ν)} (apart : ∀ id ∈ ids, id ∉ delivered.keys) :
    ids.foldl (fun delivered id => delivered.put id result) delivered =
      delivered ++ ids.map (·, result) := by
  induction ids generalizing delivered with
  | nil => simp
  | cons id ids ih =>
    obtain ⟨new, once⟩ := List.nodup_cons.mp once
    rw [List.foldl_cons, Table.put_of_not_mem (apart id (by simp)), ih once]
    · simp
    · intro other member
      have differs : other ≠ id := fun same => new (same ▸ member)
      simpa [Table.keys, differs] using apart other (by simp [member])

/-- A result for every outstanding wait serves them all. -/
theorem deliverAll_serves (sound : q.Sound) (move : Move κ ν) {result : Except Error ν}
    (all : ∀ keys, move.grant keys = some result) :
    (q.deliverAll result).Sound ∧ (q.deliverAll result).waits = (q.waits.serve move).2 ∧
      q.waiters.length = (q.waits.serve move).1 := by
  have granted : q.waits.outstanding.filterMap (fun wait => (move.grant wait.2).map (wait.1, ·)) =
      q.waiters.keys.map (·, result) := by
    simp only [waits, Table.keys, all, Option.map_some, ← List.filterMap_eq_map,
      List.filterMap_filterMap]
    rfl
  have left : q.waits.outstanding.filter (fun wait => (move.grant wait.2).isNone) = [] := by
    simp [all]
  have served : (q.deliverAll result).waits = (q.waits.serve move).2 := by
    simp only [Waits.serve, granted, left]
    simp only [deliverAll, waits, List.map_nil,
      foldl_put result sound.nodup_waiters fun id outstanding => sound.not_delivered outstanding]
  refine ⟨⟨fun key => rfl, ?_⟩, served, ?_⟩
  · rw [served]
    exact Waits.proper_serve move sound.proper
  · simp [Waits.serve, granted, Table.keys]

theorem collect_eq (q : KeyedQueue κ ν) (id : Nat) :
    (q.move (.collect id)).1 = .found (q.delivered.find? id) ∧
      (q.move (.collect id)).2 = { q with delivered := q.delivered.filter (·.1 ≠ id) } := by
  simp only [move, collect]
  cases found : q.delivered.find? id with
  | some result => exact ⟨rfl, by rw [Table.erase_eq_filter]; rfl⟩
  | none =>
    rw [Table.filter_of_not_mem ((Table.find?_eq_none_iff _ _).mp found)]
    exact ⟨rfl, rfl⟩

/-- A move does to a queue what it does to the collection that the queue stands for. -/
theorem move_refines (sound : q.Sound) (m : Move κ ν) :
    (q.move m).2.Sound ∧ (q.move m).1 = (q.waits.step m).1 ∧
      (q.move m).2.waits = (q.waits.step m).2 := by
  suffices (∀ key, (q.move m).2.byKey.find? key = occupied (idsUnder (q.move m).2.waiters key)) ∧
      (q.move m).1 = (q.waits.step m).1 ∧ (q.move m).2.waits = (q.waits.step m).2 by
    obtain ⟨index, answer, same⟩ := this
    exact ⟨⟨index, same ▸ Waits.proper_step sound.proper m⟩, answer, same⟩
  cases m with
  | enter keys =>
    cases closed : q.closed with
    | true => simpa [move, Waits.step, waits, closed] using sound.index
    | false =>
      have same := waits_register sound keys
      simp only [move, Waits.step, closed, waits] at same ⊢
      exact ⟨index_register sound keys, rfl, same⟩
  | withdraw id => exact ⟨index_unregister sound id, rfl, waits_withdraw q id⟩
  | collect id =>
    obtain ⟨answer, same⟩ := collect_eq q id
    rw [answer, same]
    exact ⟨sound.index, rfl, rfl⟩
  | resume key value =>
    obtain ⟨sound', count, same⟩ := resume_serves sound key value
    exact ⟨sound'.index, congrArg Answer.woken count, same⟩
  | resumeAll value =>
    obtain ⟨sound', same, count⟩ := deliverAll_serves sound (.resumeAll value) fun _ => rfl
    exact ⟨sound'.index, congrArg Answer.woken count, same⟩
  | close =>
    obtain ⟨sound', same, _⟩ := deliverAll_serves sound .close fun _ => rfl
    refine ⟨sound'.index, rfl, ?_⟩
    simp only [Waits.step, ← same]
    rfl

/-- An open queue is in order after one more wait entered. -/
theorem Sound.register (sound : q.Sound) (isOpen : q.closed = false) (keys : List κ) :
    (q.register keys).2.Sound := by
  have moved := (move_refines sound (.enter keys)).1
  simpa [move, isOpen] using moved

end Operations

/-- The same of any moves. -/
theorem moves_refine {q : KeyedQueue κ ν} (sound : q.Sound) (moves : List (Move κ ν)) :
    (makeMoves move q moves).2.Sound ∧
      (makeMoves move q moves).1 = (makeMoves Waits.step q.waits moves).1 ∧
        (makeMoves move q moves).2.waits = (makeMoves Waits.step q.waits moves).2 := by
  induction moves generalizing q with
  | nil => exact ⟨sound, rfl, rfl⟩
  | cons m moves ih =>
    obtain ⟨sound', answer, same⟩ := move_refines sound m
    obtain ⟨sound'', history, same'⟩ := ih sound'
    rw [same] at history same'
    exact ⟨sound'', by simp only [makeMoves, answer, history], same'⟩

end Datastream.KeyedQueue
