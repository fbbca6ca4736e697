import Datastream.Session.Tracker
import Mathlib.Data.List.Nodup

/-!
# Trackers

What a tracker holds after a state was asked for or came.
-/
namespace Datastream

namespace Tracker

variable {t : Tracker}

/-- A tracker holds no name twice, and is finished only if it holds none. -/
structure Sound (t : Tracker) : Prop where
  nodup : t.pending.Nodup
  nothing : t.finished = true → t.pending = []

def started (t : Tracker) : Prop := t.finished = true ∨ t.pending ≠ []

theorem mem_requested {className objectName : String} {key : String × String} :
    key ∈ (t.requested className objectName).pending ↔
      key = (className, objectName) ∨ key ∈ t.pending := by
  simp only [requested, List.mem_insert_iff]

theorem Sound.requested (sound : t.Sound) (className objectName : String) :
    (t.requested className objectName).Sound where
  nodup := List.Nodup.insert sound.nodup
  nothing := nofun

theorem started_requested (className objectName : String) :
    (t.requested className objectName).started :=
  .inr (List.ne_nil_of_mem (mem_requested.mpr (.inl rfl)))

theorem received_pending (className objectName : String) :
    (t.received className objectName).2.pending = t.pending.erase (className, objectName) := by
  unfold received
  dsimp only
  split <;> rfl

theorem mem_received (sound : t.Sound) {className objectName : String} {key : String × String} :
    key ∈ (t.received className objectName).2.pending ↔
      key ≠ (className, objectName) ∧ key ∈ t.pending := by
  rw [received_pending, sound.nodup.mem_erase_iff]

theorem Sound.received (sound : t.Sound) (className objectName : String) :
    (t.received className objectName).2.Sound where
  nodup := by
    rw [received_pending]
    exact sound.nodup.erase _
  nothing done := by
    rw [received_pending]
    unfold Tracker.received at done
    dsimp only at done
    split at done
    · next last => simpa using last.2
    · rw [sound.nothing done]
      rfl

theorem started_received {className objectName : String} :
    (t.received className objectName).2.started ↔ t.started := by
  unfold received started
  dsimp only
  by_cases member : (className, objectName) ∈ t.pending
  · have some : t.pending ≠ [] := List.ne_nil_of_mem member
    by_cases last : (t.pending.erase (className, objectName)).isEmpty = true
    · simp [member, last, some]
    · simp only [member, last]
      simp_all
  · rw [List.erase_of_not_mem member]
    simp [member]

end Tracker

end Datastream
