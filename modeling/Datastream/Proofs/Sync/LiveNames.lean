import Datastream.Proofs.Action
import Datastream.Proofs.Sync.Repository
import Mathlib.Data.List.Nodup
import Mathlib.Data.Prod.Basic

/-!
# Names of live objects

A repository keeps the entries of objects that have died until something takes their place or they are
pruned. None of that shows: whatever is called and whenever objects die, the answers are those of a
plain table of live objects, from which an object disappears as soon as it is dropped
(`answers_as_plain_table`). Pruning is no more than throwing away what cannot be seen.

The calls are those of `add`, `find`, `remove`, `rename`, `prune` and `clear`.
-/
namespace Datastream

namespace Repository

/-- Every class stands once, and every name once in its class. -/
structure Sound (r : Repository) : Prop where
  classes : r.classes.keys.Nodup
  names : ∀ entry ∈ r.classes, entry.2.keys.Nodup

variable {live : Handle → Bool} {r : Repository}

theorem Sound.found (sound : r.Sound) {className : String} {names : Table String Handle}
    (listed : r.classes.find? className = some names) : names.keys.Nodup :=
  sound.names _ (Table.mem_of_find? listed)

theorem Sound.put (sound : r.Sound) (className : String) {names : Table String Handle}
    (once : names.keys.Nodup) : Sound ⟨r.classes.put className names⟩ where
  classes := Table.nodup_keys_put sound.classes ..
  names entry member := by
    rcases Table.mem_of_mem_put member with same | old
    · rwa [same]
    · exact sound.names entry old

theorem sound_empty : Sound {} := ⟨.nil, List.forall_mem_nil _⟩

theorem Sound.add (sound : r.Sound) (className objectName : String) (handle : Handle) :
    (r.add live className objectName handle).2.Sound := by
  unfold Repository.add
  dsimp only
  split
  · exact sound
  · refine sound.put className (Table.nodup_keys_put ?_ ..)
    cases listed : r.classes.find? className with
    | none => exact .nil
    | some names => exact sound.found listed

theorem Sound.remove (sound : r.Sound) (className objectName : String) :
    (r.remove live className objectName).2.Sound := by
  unfold Repository.remove
  cases listed : r.classes.find? className with
  | none => exact sound
  | some names =>
    dsimp only
    split
    · refine ⟨Table.nodup_keys_erase sound.classes className, fun entry member => ?_⟩
      rw [Table.erase_eq_filter] at member
      exact sound.names entry (List.mem_filter.mp member).1
    · exact sound.put className (Table.nodup_keys_erase (sound.found listed) objectName)

theorem Sound.rename (sound : r.Sound) (className oldName newName : String) :
    (r.rename live className oldName newName).2.Sound := by
  unfold Repository.rename
  cases listed : r.classes.find? className with
  | none => exact sound
  | some names =>
    cases entry : names.find? oldName with
    | none => simpa only [entry] using sound
    | some handle =>
      have left := Table.nodup_keys_erase (sound.found listed) oldName
      simp only [entry]
      split
      · exact sound.put className (Table.nodup_keys_put left ..)
      · exact sound.put className left

theorem Sound.prune (sound : r.Sound) : (r.prune live).2.Sound where
  classes := by
    refine Table.nodup_keys_filter ?_ _
    rw [Table.keys, List.map_map]
    exact sound.classes
  names entry member := by
    obtain ⟨before, listed, rfl⟩ := List.mem_map.mp (List.mem_filter.mp member).1
    exact Table.nodup_keys_filter (sound.names before listed) _

theorem mem_entries (sound : r.Sound) {className objectName : String} {handle : Handle} :
    (className, objectName, handle) ∈ r.entries ↔ r.entry? className objectName = some handle := by
  simp only [entries, List.mem_flatMap, List.mem_map, entry?, Option.bind_eq_some_iff]
  constructor
  · rintro ⟨⟨name, names⟩, listed, entry, member, same⟩
    obtain ⟨rfl, rfl⟩ := Prod.mk.inj same
    exact ⟨names, Table.find?_of_mem sound.classes listed,
      Table.find?_of_mem (sound.names _ listed) member⟩
  · rintro ⟨names, listed, entry⟩
    exact ⟨(className, names), Table.mem_of_find? listed, (objectName, handle),
      Table.mem_of_find? entry, rfl⟩

def liveEntries (live : Handle → Bool) (r : Repository) : List (String × String × Handle) :=
  r.entries.filter fun entry => live entry.2.2

/-- What is found is what the entries of live objects say. -/
theorem find?_eq_some_iff (sound : r.Sound) {className objectName : String} {handle : Handle} :
    r.find? live className objectName = some handle ↔
      (className, objectName, handle) ∈ r.liveEntries live := by
  rw [find?, Option.filter_eq_some_iff, liveEntries, List.mem_filter, mem_entries sound]

/-- Pruning leaves just the entries of live objects. -/
theorem entries_prune (live : Handle → Bool) (r : Repository) :
    (r.prune live).2.entries = r.liveEntries live := by
  obtain ⟨classes⟩ := r
  simp only [prune, liveEntries, entries]
  induction classes with
  | nil => rfl
  | cons names rest ih =>
    simp only [List.flatMap_cons, List.filter_append, List.filter_map, ← ih, List.map_cons,
      List.filter_cons]
    cases kept : names.2.filter fun entry => live entry.2 with
    | nil => simp [Function.comp_def, kept]
    | cons first others => simp [Function.comp_def, kept]

/-- What pruning tells is how many entries it throws away. -/
theorem length_prune (live : Handle → Bool) (r : Repository) :
    (r.prune live).1 + (r.prune live).2.entries.length = r.entries.length := by
  rw [entries_prune, Nat.add_comm]
  exact (List.length_eq_length_filter_add (l := r.entries) fun entry => live entry.2.2).symm

theorem find?_prune (sound : r.Sound) (className objectName : String) :
    (r.prune live).2.find? live className objectName = r.find? live className objectName := by
  refine Option.ext fun handle => ?_
  rw [find?_eq_some_iff sound.prune, find?_eq_some_iff sound, liveEntries, entries_prune,
    liveEntries, List.filter_filter]
  simp

/-- No two entries have one name. -/
theorem nodup_names (sound : r.Sound) :
    (r.entries.map fun entry => (entry.1, entry.2.1)).Nodup := by
  have each : (r.entries.map fun entry => (entry.1, entry.2.1)) =
      r.classes.flatMap fun names => names.2.keys.map (Prod.mk names.1) := by
    simp [entries, List.map_flatMap, Table.keys, Function.comp_def]
  rw [each, List.nodup_flatMap]
  refine ⟨fun names member => (sound.names names member).map (Prod.mk_right_injective _), ?_⟩
  refine (List.pairwise_map.mp sound.classes).imp fun apart name here there => ?_
  obtain ⟨_, -, rfl⟩ := List.mem_map.mp here
  obtain ⟨_, -, same⟩ := List.mem_map.mp there
  exact apart (Prod.mk.inj same).1.symm

/-- What is done with a repository, and what becomes of the objects. -/
inductive Move
  | add (className objectName : String) (handle : Handle)
  | find (className objectName : String)
  | remove (className objectName : String)
  | rename (className oldName newName : String)
  | size
  | isEmpty
  | prune
  | clear
  /-- Nobody keeps the object any longer. -/
  | drop (handle : Handle)
  deriving DecidableEq

inductive Answer
  | truth (answer : Bool)
  | object (handle : Option Handle)
  | number (count : Nat)
  deriving DecidableEq

def without (live : Handle → Bool) (dropped : Handle) : Handle → Bool :=
  fun handle => live handle && handle != dropped

/-- A repository, and which objects are alive. -/
structure Setting where
  live : Handle → Bool
  repository : Repository := {}

/-- Makes a move. What pruning tells is about dead entries and no answer here. -/
def Setting.step : Setting → Move → List Answer × Setting
  | ⟨live, r⟩, .add className objectName handle =>
    let (added, r) := r.add live className objectName handle
    ([.truth added], ⟨live, r⟩)
  | ⟨live, r⟩, .find className objectName => ([.object (r.find? live className objectName)], ⟨live, r⟩)
  | ⟨live, r⟩, .remove className objectName =>
    let (removed, r) := r.remove live className objectName
    ([.object removed], ⟨live, r⟩)
  | ⟨live, r⟩, .rename className oldName newName =>
    let (renamed, r) := r.rename live className oldName newName
    ([.object renamed], ⟨live, r⟩)
  | ⟨live, r⟩, .size => ([.number (r.size live)], ⟨live, r⟩)
  | ⟨live, r⟩, .isEmpty => ([.truth (r.isEmpty live)], ⟨live, r⟩)
  | ⟨live, r⟩, .prune => ([], ⟨live, (r.prune live).2⟩)
  | ⟨live, _⟩, .clear => ([], ⟨live, Repository.clear⟩)
  | ⟨live, r⟩, .drop handle => ([], ⟨without live handle, r⟩)

/-- A plain table of live objects by class and name, and which objects are alive. -/
structure LiveTable where
  live : Handle → Bool
  names : Table (String × String) Handle := []

/-- Makes a move. A name is given only if it is free, and to no object that is dead; a live object is
moved over what goes by its new name; an object that is dropped goes by no name. -/
def LiveTable.step : LiveTable → Move → List Answer × LiveTable
  | ⟨live, names⟩, .add className objectName handle =>
    if (names.find? (className, objectName)).isSome then ([.truth false], ⟨live, names⟩)
    else ([.truth true],
      ⟨live, if live handle then names.put (className, objectName) handle else names⟩)
  | ⟨live, names⟩, .find className objectName =>
    ([.object (names.find? (className, objectName))], ⟨live, names⟩)
  | ⟨live, names⟩, .remove className objectName =>
    ([.object (names.find? (className, objectName))], ⟨live, names.erase (className, objectName)⟩)
  | ⟨live, names⟩, .rename className oldName newName =>
    match names.find? (className, oldName) with
    | none => ([.object none], ⟨live, names⟩)
    | some handle =>
      ([.object (some handle)],
        ⟨live, (names.erase (className, oldName)).put (className, newName) handle⟩)
  | ⟨live, names⟩, .size => ([.number names.length], ⟨live, names⟩)
  | ⟨live, names⟩, .isEmpty => ([.truth names.isEmpty], ⟨live, names⟩)
  | ⟨live, names⟩, .prune => ([], ⟨live, names⟩)
  | ⟨live, _⟩, .clear => ([], ⟨live, []⟩)
  | ⟨live, names⟩, .drop handle =>
    ([], ⟨without live handle, names.filter fun entry => entry.2 != handle⟩)

/-- A repository finds what a plain table has. -/
structure Shows (h : Setting) (p : LiveTable) : Prop where
  sound : h.repository.Sound
  once : p.names.keys.Nodup
  live : p.live = h.live
  finds : ∀ className objectName,
    p.names.find? (className, objectName) = h.repository.find? h.live className objectName

section Shows

variable {s : Setting} {t : LiveTable}

/-- There are as many live objects with names as the table has entries. -/
theorem Shows.size (shows : Shows s t) : s.repository.size s.live = t.names.length := by
  have names : ((s.repository.liveEntries s.live).map fun entry => (entry.1, entry.2.1)).Perm
      t.names.keys := by
    refine (List.perm_ext_iff_of_nodup ?_ shows.once).mpr fun (className, objectName) => ?_
    · exact (nodup_names shows.sound).sublist (List.filter_sublist.map _)
    · rw [← not_iff_not, ← Table.find?_eq_none_iff, shows.finds, Option.eq_none_iff_forall_ne_some]
      simp [find?_eq_some_iff shows.sound]
  have lengths := names.length_eq
  rwa [List.length_map, Table.keys, List.length_map] at lengths

theorem shows_of_finds {live : Handle → Bool} {r : Repository}
    {names : Table (String × String) Handle} (sound : r.Sound) (once : names.keys.Nodup)
    (finds : ∀ className objectName,
      names.find? (className, objectName) = r.find? live className objectName) :
    Shows ⟨live, r⟩ ⟨live, names⟩ :=
  ⟨sound, once, rfl, finds⟩

/-- A name that nobody live has is given to an object, but stays free if the object is dead. -/
theorem shows_add {live : Handle → Bool} {r : Repository} {names : Table (String × String) Handle}
    (sound : r.Sound) (once : names.keys.Nodup)
    (finds : ∀ className objectName,
      names.find? (className, objectName) = r.find? live className objectName)
    (className objectName : String) (handle : Handle) :
    let m := Move.add className objectName handle
    (Setting.step ⟨live, r⟩ m).1 = (LiveTable.step ⟨live, names⟩ m).1 ∧
      Shows (Setting.step ⟨live, r⟩ m).2 (LiveTable.step ⟨live, names⟩ m).2 := by
  obtain ⟨added, found⟩ := r.add_spec live className objectName handle
  simp only [Setting.step, LiveTable.step, finds, added]
  cases taken : r.find? live className objectName with
  | some holder =>
    refine ⟨rfl, shows_of_finds (sound.add ..) once fun className' objectName' => ?_⟩
    rw [finds, found, taken, if_neg (by simp)]
  | none =>
    refine ⟨rfl, shows_of_finds (sound.add ..) ?_ fun className' objectName' => ?_⟩
    · split
      · exact Table.nodup_keys_put once ..
      · exact once
    · rw [found, taken]
      cases alive : live handle with
      | true => simp [Table.find?_put, finds, Option.filter, alive]
      | false =>
        have absent : r.find? live className objectName = none := taken
        by_cases here : (className, objectName) = (className', objectName')
        · obtain ⟨rfl, rfl⟩ := Prod.mk.inj here
          simp [finds, Option.filter, alive, absent]
        · simp [finds, here]

/-- Whatever is done, the answers are the same, and the repository goes on to find what the table has. -/
theorem Shows.step (shows : Shows s t) (m : Move) :
    (s.step m).1 = (t.step m).1 ∧ Shows (s.step m).2 (t.step m).2 := by
  have size := shows.size
  obtain ⟨live, r⟩ := s
  obtain ⟨live, names⟩ := t
  obtain ⟨sound, once, rfl, finds⟩ := shows
  simp only at size sound once finds
  cases m with
  | add className objectName handle => exact shows_add sound once finds className objectName handle
  | find className objectName =>
    exact ⟨by rw [Setting.step, LiveTable.step, finds], shows_of_finds sound once finds⟩
  | remove className objectName =>
    obtain ⟨removed, found⟩ := r.remove_spec live className objectName
    simp only [Setting.step, LiveTable.step, finds, removed]
    refine ⟨trivial, shows_of_finds (sound.remove ..) (Table.nodup_keys_erase once _)
      fun className' objectName' => ?_⟩
    rw [found, Table.find?_erase, finds]
  | rename className oldName newName =>
    obtain ⟨renamed, found⟩ := r.rename_spec live className oldName newName
    simp only [Setting.step, LiveTable.step, finds, renamed]
    cases moved : r.find? live className oldName with
    | none =>
      refine ⟨rfl, shows_of_finds (sound.rename ..) once fun className' objectName' => ?_⟩
      rw [finds, found, moved]
    | some handle =>
      refine ⟨rfl, shows_of_finds (sound.rename ..)
        (Table.nodup_keys_put (Table.nodup_keys_erase once _) ..) fun className' objectName' => ?_⟩
      rw [found, moved, Table.find?_put, Table.find?_erase, finds]
  | size => exact ⟨by rw [Setting.step, LiveTable.step, size], shows_of_finds sound once finds⟩
  | isEmpty =>
    refine ⟨?_, shows_of_finds sound once finds⟩
    rw [Setting.step, LiveTable.step, Repository.isEmpty, size]
    cases names <;> rfl
  | prune =>
    refine ⟨rfl, shows_of_finds sound.prune once fun className objectName => ?_⟩
    rw [finds, find?_prune sound]
  | clear => exact ⟨rfl, shows_of_finds sound_empty .nil fun _ _ => rfl⟩
  | drop handle =>
    refine ⟨rfl, shows_of_finds sound (Table.nodup_keys_filter once _)
      fun className objectName => ?_⟩
    rw [Table.find?_filter once (· != handle), finds, find?, find?, Option.filter_filter]
    rfl

theorem shows_run (shows : Shows s t) (moves : List Move) :
    (noted Setting.step s moves).1 = (noted LiveTable.step t moves).1 ∧
      Shows (noted Setting.step s moves).2 (noted LiveTable.step t moves).2 := by
  induction moves generalizing s t with
  | nil => exact ⟨rfl, shows⟩
  | cons m moves ih =>
    obtain ⟨answers, after⟩ := shows.step m
    obtain ⟨rest, last⟩ := ih after
    exact ⟨congrArg₂ _ answers rest, last⟩

end Shows

/-- The table does not notice that a repository is pruned. -/
theorem LiveTable.noted_unpruned (t : LiveTable) (moves : List Move) :
    noted LiveTable.step t (moves.filter (· ≠ .prune)) = noted LiveTable.step t moves := by
  induction moves generalizing t with
  | nil => rfl
  | cons m moves ih =>
    by_cases pruned : m = .prune
    · subst pruned
      exact ih t
    · rw [List.filter_cons_of_pos (by simpa using pruned)]
      simp only [noted, ih]

/-- Whatever is called on a repository, and whenever objects are dropped in between, the answers are those
of a plain table of live objects. They are the same without the calls that prune, wherever these stood; and
a call that prunes tells how many entries it throws away, which are those of dead objects. -/
theorem answers_as_plain_table (live : Handle → Bool) (moves : List Move) :
    let (answers, s) := noted Setting.step { live } moves
    answers = (noted LiveTable.step { live } moves).1 ∧
      answers = (noted Setting.step { live } (moves.filter (· ≠ .prune))).1 ∧
      let (thrown, left) := s.repository.prune s.live
      left.entries = s.repository.liveEntries s.live ∧
        thrown + left.entries.length = s.repository.entries.length := by
  have fresh : Shows { live } { live } := shows_of_finds sound_empty .nil fun _ _ => rfl
  have answers := (shows_run fresh moves).1
  have unpruned := (shows_run fresh (moves.filter (· ≠ .prune))).1
  rw [LiveTable.noted_unpruned] at unpruned
  exact ⟨answers, answers.trans unpruned.symm, entries_prune .., length_prune ..⟩

/-- The name of an object that is dropped is free at once, and pruning then finds nothing to throw away. -/
example :
    (noted Setting.step { live := fun _ => true }
      [.add "Counter" "clicks" 0, .drop 0, .find "Counter" "clicks", .add "Counter" "clicks" 1, .prune,
        .find "Counter" "clicks", .size]).1 =
      [.truth true, .object none, .truth true, .object (some 1), .number 1] := by
  decide

end Repository
end Datastream
