import Datastream.Proofs.Bytes
import Datastream.Wire.Output
import Datastream.Wire.Reader
import Mathlib.Data.List.Forall2

/-!
# Reading what was written

`Reads r b a` says that a reader takes just the bytes `b` off whatever input begins with them, and
gives `a`. `o.ReadBy r a` says it of the bytes of an output that was not stopped. Both hold of a
sequence when they hold of its parts, so a round trip of a record is one of its fields in turn.
-/
namespace Datastream

/-- From every input that begins with `b`, the reader takes `b` and gives `a`. -/
def Reads {α : Type} (read : Reader α) (b : Bytes) (a : α) : Prop :=
  ∀ rest, read (b ++ rest) = .ok a rest

section Reads

variable {α β : Type} {read : Reader α} {next : α → Reader β} {b c : Bytes} {a : α} {x : β}

theorem Reader.bind_of_ok {input rest : Bytes} (h : read input = .ok a rest) :
    (read >>= next) input = next a rest := by
  change EStateM.bind read next input = _
  simp only [EStateM.bind, h]

theorem Reads.pure (a : α) : Reads (pure a) [] a := fun _ => rfl

theorem Reads.bind (first : Reads read b a) (second : Reads (next a) c x) :
    Reads (read >>= next) (b ++ c) x := by
  intro rest
  have taken := first (c ++ rest)
  rw [← List.append_assoc] at taken
  rw [Reader.bind_of_ok taken]
  exact second rest

theorem Reads.map (f : α → β) (h : Reads read b a) : Reads (f <$> read) b (f a) := by
  intro rest
  change EStateM.map f read (b ++ rest) = _
  simp only [EStateM.map, h rest]

theorem Reads.take (b : Bytes) : Reads (Reader.take b.length) b b := by
  intro rest
  simp only [Reader.take, Bytes.cut_append]

/-- A number of fixed width reads as what of it fits the width. -/
theorem Reads.number (width n : Nat) :
    Reads (Reader.number width) (Bytes.ofNat width n) (n % Nat.pow 256 width) := by
  have taken : Reads (Reader.take width) (Bytes.ofNat width n) (Bytes.ofNat width n) := by
    intro rest
    simp only [Reader.take, Bytes.cut_ofNat_append]
  rw [← Bytes.toNat_ofNat]
  exact taken.map Bytes.toNat

/-- Making sure that bytes are there which are about to be read changes nothing. -/
theorem Reads.ensure_bind {next : Unit → Reader α} {n : Nat} (enough : n ≤ b.length)
    (body : Reads (next ()) b a) : Reads (Reader.ensure n >>= next) b a := by
  intro rest
  have there : Reader.ensure n (b ++ rest) = .ok () (b ++ rest) :=
    if_pos ((Bytes.holds_iff ..).mpr (by rw [List.length_append]; omega))
  rw [Reader.bind_of_ok there]
  exact body rest

theorem Reads.number_of_lt (width : Nat) {n : Nat} (fits : n < Nat.pow 256 width) :
    Reads (Reader.number width) (Bytes.ofNat width n) n := by
  have read := Reads.number width n
  rwa [Nat.mod_eq_of_lt fits] at read

end Reads

namespace Output

theorem stop_append (a b : Output) :
    (a ++ b).stop = none ↔ a.stop = none ∧ b.stop = none := by
  change (andThen a b).stop = none ↔ _
  unfold andThen
  split <;> simp_all

theorem bytes_append {a b : Output} (unstopped : a.stop = none) :
    (a ++ b).bytes = a.bytes ++ b.bytes := by
  change (andThen a b).bytes = _
  simp [andThen, unstopped]

theorem append_assoc (a b c : Output) : a ++ b ++ c = a ++ (b ++ c) := by
  change andThen (andThen a b) c = andThen a (andThen b c)
  obtain ⟨front, stop⟩ := a
  obtain ⟨middle, stop'⟩ := b
  cases stop <;> cases stop' <;> simp [andThen, List.append_assoc]

theorem append_empty (a : Output) : a ++ empty = a := by
  change andThen a empty = a
  unfold andThen
  split
  · rename_i unstopped
    simp [empty, ← unstopped]
  · rfl

theorem write_append (b c : Bytes) : write (b ++ c) = write b ++ write c := rfl

theorem toExcept_eq_ok_iff (a : Output) (b : Bytes) :
    a.toExcept = .ok b ↔ a.stop = none ∧ a.bytes = b := by
  unfold toExcept
  split <;> simp_all

/-- What is written for the items of a list, one after the other. -/
def each {α : Type} (write : α → Output) : List α → Output
  | [] => empty
  | x :: xs => write x ++ each write xs

theorem stop_each {α : Type} (write : α → Output) (xs : List α) :
    (each write xs).stop = none ↔ ∀ x ∈ xs, (write x).stop = none := by
  induction xs with
  | nil => simp [each, empty]
  | cons x xs ih => simp [each, stop_append, ih]

theorem each_congr {α : Type} {write write' : α → Output} {xs : List α}
    (same : ∀ x ∈ xs, write x = write' x) : each write xs = each write' xs := by
  induction xs with
  | nil => rfl
  | cons x xs ih =>
    have later := ih fun y member => same y (List.mem_cons_of_mem x member)
    rw [each, each, same x List.mem_cons_self, later]

/-- Unless it was stopped, the output is read as `a`, and nothing beyond it is touched. -/
def ReadBy {α : Type} (o : Output) (read : Reader α) (a : α) : Prop :=
  o.stop = none → Reads read o.bytes a

section ReadBy

variable {α β γ : Type} {o o' : Output} {read : Reader α} {next : α → Reader β} {a : α} {x : β}

theorem ReadBy.write {b : Bytes} (h : Reads read b a) : (Output.write b).ReadBy read a := fun _ => h

theorem ReadBy.fail (error : Error) : (Output.fail error).ReadBy read a := fun unstopped => by
  cases unstopped

theorem ReadBy.pure (a : α) : empty.ReadBy (Pure.pure a) a := fun _ => Reads.pure a

theorem ReadBy.bind (first : o.ReadBy read a) (second : o'.ReadBy (next a) x) :
    (o ++ o').ReadBy (read >>= next) x := by
  intro unstopped
  obtain ⟨front, back⟩ := (stop_append o o').mp unstopped
  rw [bytes_append front]
  exact (first front).bind (second back)

/-- The last field of a record: after it nothing is read. -/
theorem ReadBy.bind_pure (last : o.ReadBy read a) (value : next a = Pure.pure x) :
    o.ReadBy (read >>= next) x := by
  have whole : (o ++ empty).ReadBy (read >>= next) x := last.bind (value ▸ ReadBy.pure x)
  rwa [append_empty] at whole

theorem ReadBy.map (f : α → β) (h : o.ReadBy read a) : o.ReadBy (f <$> read) (f a) :=
  fun unstopped => (h unstopped).map f

/-- As many items as were written are read, each as what it comes back as. `done` holds those
before. -/
theorem ReadBy.times_go {write : γ → Output} {xs : List γ} {values : List α}
    (items : List.Forall₂ (fun x a => (write x).ReadBy read a) xs values) (done : List α) :
    (each write xs).ReadBy (Reader.times.go read xs.length done) (done.reverse ++ values) := by
  induction items generalizing done with
  | nil =>
    rw [List.append_nil]
    exact ReadBy.pure done.reverse
  | @cons x value xs values first _ ih =>
    have later := ih (value :: done)
    rw [List.reverse_cons, List.append_assoc, List.singleton_append] at later
    exact first.bind later

theorem ReadBy.times_forall₂ {write : γ → Output} {xs : List γ} {values : List α}
    (items : List.Forall₂ (fun x a => (write x).ReadBy read a) xs values) :
    (each write xs).ReadBy (Reader.times xs.length read) values :=
  ReadBy.times_go items []

theorem ReadBy.times {write : γ → Output} (value : γ → α) (xs : List γ)
    (items : ∀ x ∈ xs, (write x).ReadBy read (value x)) :
    (each write xs).ReadBy (Reader.times xs.length read) (xs.map value) :=
  ReadBy.times_forall₂ (List.forall₂_map_right_iff.mpr (List.forall₂_same.mpr items))

end ReadBy

end Output
end Datastream
