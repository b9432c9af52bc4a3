import UpfBpf.Lib.Bytes
import Mathlib.Algebra.BigOperators.Group.List.Basic

/-!
# One's-complement sums

The sum of half words in which a carry out of the top is added back in at the bottom. Such a sum is
the total modulo `2^16 - 1`, with two images of zero: it is `0` only when there was nothing to add,
and `2^16 - 1` otherwise (`sum_eq_allOnes_iff`). A header with a checksum in it is valid when its
sum is all ones.

Exchanging the bytes of every word multiplies the total by `2^8` modulo `2^16 - 1`, and this is
invertible there. So a checksum can be computed and checked in the byte order of the host or in that
of the network (`sum_map_swab16_eq_allOnes_iff`).
-/

namespace OnesComplement

open Bytes

/-- Adds two half words, and the carry. -/
def add (v w : UInt16) : UInt16 :=
  UInt16.ofNat ((v.toNat + w.toNat) % 2^16 + (v.toNat + w.toNat) / 2^16)

/-- The one's-complement sum. -/
def sum (ws : List UInt16) : UInt16 := ws.foldr add 0

/-- The sum as a number. -/
def total (ws : List UInt16) : ℕ := (ws.map UInt16.toNat).sum

@[simp] theorem total_cons (w : UInt16) (ws : List UInt16) :
    total (w :: ws) = w.toNat + total ws := rfl

@[simp] theorem total_append (vs ws : List UInt16) : total (vs ++ ws) = total vs + total ws := by
  rw [total, total, total, List.map_append, List.sum_append]

/-- The value of a sum of two half words. -/
theorem toNat_add (v w : UInt16) :
    (add v w).toNat = (v.toNat + w.toNat) % 2^16 + (v.toNat + w.toNat) / 2^16 := by
  have hv := v.toNat_lt
  have hw := w.toNat_lt
  rw [add, UInt16.toNat_ofNat']
  apply Nat.mod_eq_of_lt
  omega

/-- The sum is the total modulo `2^16 - 1`, and is zero only if the total is. -/
theorem sum_spec (ws : List UInt16) :
    (sum ws).toNat % (2^16 - 1) = total ws % (2^16 - 1) ∧ ((sum ws).toNat = 0 ↔ total ws = 0) := by
  induction ws with
  | nil => exact ⟨rfl, iff_of_true rfl rfl⟩
  | cons w ws ih =>
    obtain ⟨hmod, hzero⟩ := ih
    have hw := w.toNat_lt
    have hs := (sum ws).toNat_lt
    have hcons : (sum (w :: ws)).toNat = (w.toNat + (sum ws).toNat) % 2^16 +
        (w.toNat + (sum ws).toNat) / 2^16 := toNat_add w (sum ws)
    rw [hcons, total_cons]
    -- The carry has the weight `2^16`, which is one modulo `2^16 - 1`.
    refine ⟨?_, ?_⟩
    · omega
    · omega

/-- The sum is all ones exactly when the total is a multiple of `2^16 - 1`, and not zero. -/
theorem sum_eq_allOnes_iff (ws : List UInt16) :
    sum ws = 0xFFFF ↔ total ws ≠ 0 ∧ total ws % (2^16 - 1) = 0 := by
  obtain ⟨hmod, hzero⟩ := sum_spec ws
  have hs := (sum ws).toNat_lt
  rw [← UInt16.toNat_inj, ← hmod, ne_eq, ← hzero]
  show (sum ws).toNat = 65535 ↔ _
  omega

/-- Exchanging the bytes of every word. -/
theorem total_map_swab16 (ws : List UInt16) :
    total (ws.map swab16) % (2^16 - 1) = 2^8 * total ws % (2^16 - 1) ∧
      (total (ws.map swab16) = 0 ↔ total ws = 0) := by
  induction ws with
  | nil => exact ⟨rfl, iff_of_true rfl rfl⟩
  | cons w ws ih =>
    obtain ⟨hmod, hzero⟩ := ih
    have hw := w.toNat_lt
    rw [List.map_cons, total_cons, total_cons, toNat_swab16]
    refine ⟨?_, ?_⟩
    · omega
    · omega

/-- A sum is all ones in one byte order exactly when it is in the other. -/
theorem sum_map_swab16_eq_allOnes_iff (ws : List UInt16) :
    sum (ws.map swab16) = 0xFFFF ↔ sum ws = 0xFFFF := by
  obtain ⟨hmod, hzero⟩ := total_map_swab16 ws
  rw [sum_eq_allOnes_iff, sum_eq_allOnes_iff, ne_eq, ne_eq, hzero, hmod]
  -- `2^8` is its own inverse modulo `2^16 - 1`.
  refine and_congr_right fun _ => ?_
  omega

/-- The half words of a buffer, as a little-endian host reads them. -/
def words : List UInt8 → List UInt16
  | a :: b :: bs => UInt16.ofNat (a.toNat + 2^8 * b.toNat) :: words bs
  | _ => []

/-- The half words of a buffer in the order of the network. -/
def networkWords (bs : List UInt8) : List UInt16 := (words bs).map swab16

/-- A buffer of whole words in front of another one. -/
theorem words_append {n : ℕ} {bs cs : List UInt8} (h : bs.length = 2 * n) :
    words (bs ++ cs) = words bs ++ words cs := by
  induction n generalizing bs with
  | zero =>
    rw [List.eq_nil_of_length_eq_zero h]
    rfl
  | succ n ih =>
    match bs, h with
    | a :: b :: bs, h =>
      have hl : bs.length = 2 * n := by
        simp only [List.length_cons] at h
        omega
      show _ :: words (bs ++ cs) = _ :: words bs ++ words cs
      rw [ih hl, List.cons_append]

/-- The half word of an image. -/
theorem words_le16 (w : UInt16) : words (le16 w) = [w] := by
  have hload : load16 (le16 w) 0 = w := by
    rw [← List.append_nil (le16 w), load16_le16]
  exact congrArg (fun v => [v]) hload

end OnesComplement
