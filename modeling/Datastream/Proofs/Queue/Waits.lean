import Datastream.Queue.Keyed
import Mathlib.Data.Finset.Dedup

/-!
# Waits

What a keyed queue stands for: the outstanding waits, each with the set of its keys, and the results
that were not collected yet. A move either grants a wait its result or leaves it as it is
(`Move.grant`), and that is all there is to it: a wait stands outstanding until the first move that
grants it something, and has that result from then on (`Waits.stands_of_moves`); nobody collects
twice (`Waits.collected_length_le`).
-/
namespace Datastream

/-- Makes moves one after another: each move with its answer, and the state after the last. -/
def makeMoves {σ μ α : Type} (step : σ → μ → α × σ) (s : σ) : List μ → List (μ × α) × σ
  | [] => ([], s)
  | move :: moves =>
    let (answer, s) := step s move
    let (history, s) := makeMoves step s moves
    ((move, answer) :: history, s)

theorem makeMoves_append {σ μ α : Type} (step : σ → μ → α × σ) (s : σ) (moves more : List μ) :
    makeMoves step s (moves ++ more) =
      ((makeMoves step s moves).1 ++ (makeMoves step (makeMoves step s moves).2 more).1,
        (makeMoves step (makeMoves step s moves).2 more).2) := by
  induction moves generalizing s with
  | nil => rfl
  | cons move moves ih => simp only [List.cons_append, makeMoves, ih]

namespace KeyedQueue

/-- What is done to a queue without interruption. A call that waits is several moves: it enters,
sends its request, which may be any moves, and then looks for its result now and then. -/
inductive Move (κ ν : Type)
  /-- A wait is registered, unless the queue is closed. -/
  | enter (keys : List κ)
  /-- A wait is given up: its request could not be sent, or its call was dropped. -/
  | withdraw (id : Nat)
  /-- A wait looks for its result. -/
  | collect (id : Nat)
  | resume (key : κ) (value : ν)
  | resumeAll (value : ν)
  | close

inductive Answer (ν : Type)
  | done
  | refused
  | entered (id : Nat)
  | woken (count : Nat)
  | found (result : Option (Except Error ν))

variable {κ ν : Type} [DecidableEq κ]

/-- What a move grants to an outstanding wait with these keys. -/
def Move.grant : Move κ ν → Finset κ → Option (Except Error ν)
  | resume key value, keys => if key ∈ keys then some (.ok value) else none
  | resumeAll value, _ => some (.ok value)
  | close, _ => some (.error .connectionClosed)
  | enter _, _ | withdraw _, _ | collect _, _ => none

/-- The result that a wait gets by a move with this answer. -/
def Move.yields (id : Nat) : Move κ ν → Answer ν → Option (Except Error ν)
  | collect id', .found result => if id' = id then result else none
  | _, _ => none

/-- The results that a wait has collected in a history. -/
def collected (id : Nat) (history : List (Move κ ν × Answer ν)) : List (Except Error ν) :=
  history.filterMap fun past => past.1.yields id past.2

omit [DecidableEq κ] in
theorem yields_of_ne {id : Nat} {move : Move κ ν} (other : move ≠ .collect id)
    (answer : Answer ν) : move.yields id answer = none := by
  unfold Move.yields
  split
  · rename_i id' result
    exact if_neg fun same : id' = id => other (same ▸ rfl)
  · rfl

omit [DecidableEq κ] in
theorem collected_makeMoves_cons {σ : Type} (step : σ → Move κ ν → Answer ν × σ) (s : σ) (id : Nat)
    (move : Move κ ν) (moves : List (Move κ ν)) :
    collected id (makeMoves step s (move :: moves)).1 =
      (move.yields id (step s move).1).toList ++
        collected id (makeMoves step (step s move).2 moves).1 := by
  simp only [makeMoves, collected, List.filterMap_cons]
  cases move.yields id (step s move).1 <;> rfl

end KeyedQueue

open KeyedQueue

/-- A plain collection of waits. -/
structure Waits (κ ν : Type) where
  /-- How many waits were started; the number of the next one. -/
  started : Nat := 0
  /-- The outstanding waits with their keys, oldest first. -/
  outstanding : List (Nat × Finset κ) := []
  /-- The results that were granted and not collected. -/
  results : Table Nat (Except Error ν) := []
  closed : Bool := false

namespace Waits

variable {κ ν : Type} [DecidableEq κ]

/-- Every outstanding wait to which the move grants something has that as its result and is
outstanding no more. Says how many there were. -/
def serve (w : Waits κ ν) (move : Move κ ν) : Nat × Waits κ ν :=
  let woken := w.outstanding.filterMap fun wait => (move.grant wait.2).map (wait.1, ·)
  (woken.length, { w with
    outstanding := w.outstanding.filter fun wait => (move.grant wait.2).isNone
    results := w.results ++ woken })

def step (w : Waits κ ν) : Move κ ν → Answer ν × Waits κ ν
  | .enter keys =>
    if w.closed then (.refused, w)
    else (.entered w.started, { w with
      started := w.started + 1
      outstanding := w.outstanding ++ [(w.started, keys.toFinset)] })
  | .withdraw id => (.done, { w with
      outstanding := w.outstanding.filter (·.1 ≠ id)
      results := w.results.filter (·.1 ≠ id) })
  | .collect id => (.found (w.results.find? id), { w with results := w.results.filter (·.1 ≠ id) })
  | .close => (.done, { (w.serve .close).2 with closed := true })
  | move => (.woken (w.serve move).1, (w.serve move).2)

def ids (w : Waits κ ν) : List Nat := w.outstanding.map (·.1) ++ w.results.map (·.1)

/-- A wait is outstanding or has a result, not both, and has a number of its own. -/
structure Proper (w : Waits κ ν) : Prop where
  distinct : w.ids.Nodup
  started : ∀ id ∈ w.ids, id < w.started

/-- A wait with these keys is outstanding, or has the result that was granted to it. -/
def Stands (w : Waits κ ν) (id : Nat) (keys : Finset κ) : Option (Except Error ν) → Prop
  | none => (id, keys) ∈ w.outstanding
  | some result => (id, result) ∈ w.results

/-- A wait that was started is over. -/
def Gone (w : Waits κ ν) (id : Nat) : Prop := id < w.started ∧ id ∉ w.ids

section Serving

variable (w : Waits κ ν) (move : Move κ ν)

theorem ids_serve : (w.serve move).2.ids.Perm w.ids := by
  obtain ⟨started, outstanding, results, closed⟩ := w
  simp only [serve, ids, List.map_append]
  induction outstanding with
  | nil => simp
  | cons wait rest ih =>
    cases granted : move.grant wait.2 with
    | none =>
      simp only [List.filter_cons, List.filterMap_cons, granted, Option.isNone_none, if_true,
        Option.map_none, List.map_cons, List.cons_append]
      exact ih.cons wait.1
    | some result =>
      simp only [List.filter_cons, List.filterMap_cons, granted, Option.isNone_some,
        Bool.false_eq_true, if_false, Option.map_some, List.map_cons, List.cons_append]
      refine List.Perm.trans ?_ (ih.cons wait.1)
      rw [← List.append_assoc, ← List.append_assoc]
      exact List.perm_middle

theorem proper_serve {w : Waits κ ν} (proper : w.Proper) : (w.serve move).2.Proper where
  distinct := (ids_serve w move).nodup_iff.mpr proper.distinct
  started id member := proper.started id ((ids_serve w move).subset member)

end Serving

omit [DecidableEq κ] in
/-- Fewer waits, or results, are as proper as before. -/
theorem Proper.of_sublist {w w' : Waits κ ν} (proper : w.Proper) (fewer : w'.ids.Sublist w.ids)
    (same : w'.started = w.started) : w'.Proper where
  distinct := proper.distinct.sublist fewer
  started id member := same ▸ proper.started id (fewer.subset member)

omit [DecidableEq κ] in
/-- An outstanding wait that has a result instead is counted once, as before. -/
theorem Proper.settle {w : Waits κ ν} (proper : w.Proper) {id : Nat}
    (outstanding : id ∈ w.outstanding.map (·.1)) (result : Except Error ν) :
    ({ w with
      outstanding := w.outstanding.filter (·.1 ≠ id)
      results := w.results ++ [(id, result)] } : Waits κ ν).Proper := by
  have once := (List.nodup_append.mp proper.distinct).1
  have left : (w.outstanding.filter (·.1 ≠ id)).map (·.1) = (w.outstanding.map (·.1)).erase id := by
    rw [once.erase_eq_filter, List.filter_map]
    congr 1
    exact List.filter_congr fun wait _ => by by_cases same : wait.1 = id <;> simp [same]
  have same : ((w.outstanding.filter (·.1 ≠ id)).map (·.1) ++
      (w.results ++ [(id, result)]).map (·.1)).Perm w.ids := by
    rw [left, List.map_append, List.map_singleton, ← List.append_assoc]
    refine List.perm_append_singleton .. |>.trans ?_
    exact (List.perm_cons_erase outstanding).symm.append_right _
  exact ⟨same.nodup_iff.mpr proper.distinct, fun id member => proper.started id (same.subset member)⟩

theorem proper_step {w : Waits κ ν} (proper : w.Proper) (move : Move κ ν) :
    (w.step move).2.Proper := by
  cases move with
  | enter keys =>
    by_cases closed : w.closed
    · simpa only [step, closed, if_true] using proper
    · simp only [step, closed]
      have fresh : w.started ∉ w.ids := fun member => Nat.lt_irrefl _ (proper.started _ member)
      have more : ({ w with
          started := w.started + 1
          outstanding := w.outstanding ++ [(w.started, keys.toFinset)] } : Waits κ ν).ids.Perm
            (w.started :: w.ids) := by
        simp only [ids, List.map_append, List.map_cons, List.map_nil, List.append_assoc,
          List.cons_append, List.nil_append]
        exact List.perm_middle
      refine ⟨more.nodup_iff.mpr (List.nodup_cons.mpr ⟨fresh, proper.distinct⟩), ?_⟩
      intro id member
      rcases List.mem_cons.mp (more.subset member) with rfl | old
      · exact Nat.lt_succ_self _
      · exact Nat.lt_succ_of_lt (proper.started id old)
  | withdraw id =>
    exact proper.of_sublist
      ((List.filter_sublist.map _).append (List.filter_sublist.map _)) rfl
  | collect id =>
    exact proper.of_sublist ((List.Sublist.refl _).append (List.filter_sublist.map _)) rfl
  | resume key value => exact proper_serve (.resume key value) proper
  | resumeAll value => exact proper_serve (.resumeAll value) proper
  | close =>
    have served := proper_serve .close proper
    exact ⟨served.distinct, served.started⟩

theorem closed_step (w : Waits κ ν) (move : Move κ ν) :
    (w.step move).2.closed = true ↔ w.closed = true ∨ move = .close := by
  cases move with
  | enter keys =>
    rw [step]
    split <;> simp_all
  | _ => simp [step, serve]

/-- A collection is closed from the first closing on. -/
theorem closed_makeMoves (w : Waits κ ν) (moves : List (Move κ ν)) :
    (makeMoves step w moves).2.closed = true ↔ w.closed = true ∨ .close ∈ moves := by
  induction moves generalizing w with
  | nil => simp [makeMoves]
  | cons move moves ih =>
    simp only [makeMoves, ih, closed_step, List.mem_cons, or_assoc, @eq_comm _ Move.close]

omit [DecidableEq κ] in
theorem find?_of_stands {w : Waits κ ν} (proper : w.Proper) {id : Nat} {keys : Finset κ}
    {granted : Option (Except Error ν)} (stands : w.Stands id keys granted) :
    w.results.find? id = granted := by
  obtain ⟨_, once, apart⟩ := List.nodup_append.mp proper.distinct
  cases granted with
  | none =>
    rw [Table.find?_eq_none_iff]
    intro member
    exact apart id (List.mem_map.mpr ⟨_, stands, rfl⟩) id member rfl
  | some result => exact Table.find?_of_mem once stands

omit [DecidableEq κ] in
theorem mem_ids_of_stands {w : Waits κ ν} {id : Nat} {keys : Finset κ}
    {granted : Option (Except Error ν)} (stands : w.Stands id keys granted) : id ∈ w.ids := by
  cases granted with
  | none => exact List.mem_append_left _ (List.mem_map.mpr ⟨_, stands, rfl⟩)
  | some result => exact List.mem_append_right _ (List.mem_map.mpr ⟨_, stands, rfl⟩)

/-- A wait stands as it did if a move grants it nothing, and has what a move grants it. -/
theorem stands_serve {w : Waits κ ν} {id : Nat} {keys : Finset κ}
    {granted : Option (Except Error ν)} (stands : w.Stands id keys granted) (move : Move κ ν) :
    (w.serve move).2.Stands id keys (granted.or (move.grant keys)) := by
  cases granted with
  | some result => exact List.mem_append_left _ stands
  | none =>
    simp only [Option.none_or]
    cases grant : move.grant keys with
    | none =>
      have kept : (move.grant (id, keys).2).isNone = true := by simp [grant]
      exact List.mem_filter.mpr ⟨stands, kept⟩
    | some result =>
      refine List.mem_append_right _ (List.mem_filterMap.mpr ⟨(id, keys), stands, ?_⟩)
      simp [grant]

theorem stands_step {w : Waits κ ν} {id : Nat} {keys : Finset κ}
    {granted : Option (Except Error ν)} (stands : w.Stands id keys granted) {move : Move κ ν}
    (kept : move ≠ .withdraw id) (waits : move = .collect id → granted = none) :
    (w.step move).2.Stands id keys (granted.or (move.grant keys)) := by
  cases move with
  | enter keys' =>
    rw [Move.grant, Option.or_none, step]
    split
    · exact stands
    · cases granted with
      | none => exact List.mem_append_left _ stands
      | some result => exact stands
  | withdraw id' =>
    have other : id ≠ id' := fun same => kept (same ▸ rfl)
    rw [Move.grant, Option.or_none]
    cases granted with
    | none => exact List.mem_filter.mpr ⟨stands, by simpa using other⟩
    | some result => exact List.mem_filter.mpr ⟨stands, by simpa using other⟩
  | collect id' =>
    rw [Move.grant, Option.or_none]
    cases granted with
    | none => exact stands
    | some result =>
      have other : id ≠ id' := fun same => by cases waits (same ▸ rfl)
      exact List.mem_filter.mpr ⟨stands, by simpa using other⟩
  | resume key value => exact stands_serve stands (.resume key value)
  | resumeAll value => exact stands_serve stands (.resumeAll value)
  | close => exact stands_serve stands .close

theorem yields_step (w : Waits κ ν) (id : Nat) :
    Move.yields id (.collect id : Move κ ν) (w.step (.collect id)).1 = w.results.find? id :=
  if_pos rfl

/-- A wait that was not given up and has collected nothing has the first result that a move granted
it since it entered. -/
theorem stands_of_moves {w : Waits κ ν} (proper : w.Proper) {id : Nat} {keys : Finset κ}
    {granted : Option (Except Error ν)} (stands : w.Stands id keys granted)
    (moves : List (Move κ ν)) (kept : .withdraw id ∉ moves)
    (waits : collected id (makeMoves step w moves).1 = []) :
    (makeMoves step w moves).2.Stands id keys
      (granted.or (moves.findSome? (·.grant keys))) := by
  induction moves generalizing w granted with
  | nil => simpa only [makeMoves, List.findSome?_nil, Option.or_none] using stands
  | cons move moves ih =>
    simp only [List.mem_cons, not_or] at kept
    rw [collected_makeMoves_cons, List.append_eq_nil_iff, Option.toList_eq_nil_iff] at waits
    have idle : move = .collect id → granted = none := by
      rintro rfl
      rw [← find?_of_stands proper stands, ← yields_step w id]
      exact waits.1
    have next := ih (proper_step proper move)
      (stands_step stands (fun same => kept.1 same.symm) idle) kept.2 waits.2
    rw [Option.or_assoc] at next
    rw [List.findSome?_cons]
    cases grant : move.grant keys with
    | none => simpa only [makeMoves, grant, Option.none_or] using next
    | some result => simpa only [makeMoves, grant, Option.some_or] using next

theorem gone_step {w : Waits κ ν} {id : Nat} (gone : w.Gone id) (move : Move κ ν) :
    (w.step move).2.Gone id := by
  obtain ⟨started, absent⟩ := gone
  cases move with
  | enter keys =>
    rw [step]
    split
    · exact ⟨started, absent⟩
    · refine ⟨Nat.lt_succ_of_lt started, ?_⟩
      have other : id ≠ w.started := Nat.ne_of_lt started
      simp only [ids, List.mem_append, not_or] at absent
      simp [ids, absent.1, absent.2, other]
  | withdraw id' =>
    refine ⟨started, fun member => absent ?_⟩
    exact ((List.filter_sublist.map _).append (List.filter_sublist.map _)).subset member
  | collect id' =>
    refine ⟨started, fun member => absent ?_⟩
    exact ((List.Sublist.refl _).append (List.filter_sublist.map _)).subset member
  | resume key value => exact ⟨started, fun member => absent ((ids_serve w _).subset member)⟩
  | resumeAll value => exact ⟨started, fun member => absent ((ids_serve w _).subset member)⟩
  | close => exact ⟨started, fun member => absent ((ids_serve w _).subset member)⟩

omit [DecidableEq κ] in
theorem find?_of_gone {w : Waits κ ν} {id : Nat} (gone : w.Gone id) : w.results.find? id = none :=
  (Table.find?_eq_none_iff _ _).mpr fun member => gone.2 (List.mem_append_right _ member)

theorem collected_of_gone {w : Waits κ ν} {id : Nat} (gone : w.Gone id) (moves : List (Move κ ν)) :
    collected id (makeMoves step w moves).1 = [] := by
  induction moves generalizing w with
  | nil => rfl
  | cons move moves ih =>
    rw [collected_makeMoves_cons, ih (gone_step gone move), List.append_nil,
      Option.toList_eq_nil_iff]
    by_cases collects : move = .collect id
    · rw [collects, yields_step, find?_of_gone gone]
    · exact yields_of_ne collects _

/-- Who collects a result is over. -/
theorem gone_of_collect {w : Waits κ ν} (proper : w.Proper) {id : Nat} {result : Except Error ν}
    (found : w.results.find? id = some result) : (w.step (.collect id)).2.Gone id := by
  have listed : id ∈ w.results.map (·.1) := List.mem_map.mpr ⟨_, Table.mem_of_find? found, rfl⟩
  refine ⟨proper.started id (List.mem_append_right _ listed), ?_⟩
  simp only [step, ids, List.mem_append, not_or]
  refine ⟨fun member => (List.nodup_append.mp proper.distinct).2.2 id member id listed rfl, ?_⟩
  simp

/-- A wait collects one result at most. -/
theorem collected_length_le {w : Waits κ ν} (proper : w.Proper) (id : Nat)
    (moves : List (Move κ ν)) : (collected id (makeMoves step w moves).1).length ≤ 1 := by
  induction moves generalizing w with
  | nil => simp [makeMoves, collected]
  | cons move moves ih =>
    rw [collected_makeMoves_cons]
    cases yielded : move.yields id (w.step move).1 with
    | none => exact ih (proper_step proper move)
    | some result =>
      have collects : move = .collect id := by
        by_contra other
        rw [yields_of_ne other] at yielded
        cases yielded
      subst collects
      rw [yields_step] at yielded
      rw [collected_of_gone (gone_of_collect proper yielded) moves]
      exact Nat.le_refl 1

end Waits
end Datastream
