import Datastream.Bytes

/-!
# Fixed-width numbers

`toNat` undoes `ofNat` up to the width, a number is spelt by its own bytes, and what was put in
front of a byte string is cut off again.
-/
namespace Datastream.Bytes

theorem foldl_ofNat (width n start : Nat) :
    (ofNat width n).foldl (fun m x => m * 256 + x.toNat) start =
      start * Nat.pow 256 width + n % Nat.pow 256 width := by
  induction width generalizing start with
  | zero => simp [ofNat, Nat.mod_one]
  | succ width ih =>
    have digit : (UInt8.ofNat (n / Nat.pow 256 width)).toNat = n / Nat.pow 256 width % 256 := by simp
    have whole : Nat.pow 256 (width + 1) = 256 * Nat.pow 256 width := Nat.mul_comm _ 256
    have split : n % Nat.pow 256 (width + 1) =
        n % Nat.pow 256 width + Nat.pow 256 width * (n / Nat.pow 256 width % 256) :=
      Nat.mod_pow_succ
    rw [ofNat, List.foldl_cons, ih, digit, split, whole, Nat.add_mul, Nat.mul_assoc,
      Nat.mul_comm (n / Nat.pow 256 width % 256)]
    omega

/-- Reading a number of some width gives what of it fits that width. -/
theorem toNat_ofNat (width n : Nat) : toNat (ofNat width n) = n % Nat.pow 256 width := by
  rw [toNat, foldl_ofNat]
  omega

theorem toNat_ofNat_of_lt {width n : Nat} (fits : n < Nat.pow 256 width) :
    toNat (ofNat width n) = n := by
  rw [toNat_ofNat, Nat.mod_eq_of_lt fits]

theorem ofNat_one (n : UInt8) : ofNat 1 n.toNat = [n] := by simp [ofNat]

theorem u16_eq (n : UInt16) : u16 n = [UInt8.ofNat (n.toNat / 256), UInt8.ofNat n.toNat] := by
  simp [u16, ofNat]

/-- A wide number is its high digits and its low digits. -/
theorem ofNat_add (high low n : Nat) :
    ofNat (high + low) n = ofNat high (n / Nat.pow 256 low) ++ ofNat low n := by
  induction high with
  | zero => simp [ofNat]
  | succ high ih =>
    have place : Nat.pow 256 low * Nat.pow 256 high = Nat.pow 256 (high + low) := by
      rw [Nat.add_comm high low]
      exact (Nat.pow_add 256 low high).symm
    rw [Nat.add_right_comm, ofNat, ofNat, List.cons_append, ih, Nat.div_div_eq_div_mul, place]

theorem cut_append (b rest : Bytes) : (b ++ rest).cut b.length = some (b, rest) := by
  rw [cut_eq, if_pos (by simp), List.take_left, List.drop_left]

theorem cut_ofNat_append (width n : Nat) (rest : Bytes) :
    (ofNat width n ++ rest).cut width = some (ofNat width n, rest) := by
  have exact_cut := cut_append (ofNat width n) rest
  rwa [length_ofNat] at exact_cut

/-- A cut leaves behind what it does not take. -/
theorem eq_append_of_cut {n : Nat} {b front rest : Bytes} (h : b.cut n = some (front, rest)) :
    b = front ++ rest ∧ front.length = n := by
  rw [cut_eq] at h
  split at h
  · rename_i enough
    obtain ⟨rfl, rfl⟩ := Prod.mk.inj (Option.some.inj h)
    exact ⟨(List.take_append_drop n b).symm, List.length_take_of_le enough⟩
  · cases h

/-- More input behind what is cut changes only what is left. -/
theorem cut_append_of_cut {n : Nat} {b front rest : Bytes} (h : b.cut n = some (front, rest))
    (more : Bytes) : (b ++ more).cut n = some (front, rest ++ more) := by
  obtain ⟨rfl, rfl⟩ := eq_append_of_cut h
  rw [List.append_assoc, cut_append]

end Datastream.Bytes
