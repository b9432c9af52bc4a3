import Mathlib.Tactic.Ring
import Mathlib.Data.List.Basic

/-!
# Byte buffers

A buffer is a list of bytes, addressed by offset. `slice` and `byte` read it, and `store` overwrites
a run of bytes in place. Words are stored in the byte order of a little-endian host: `le16` and
`le32` are the images of a word in memory, `load16` and `load32` read one back. The network's byte
order is the host's with the two bytes of a half word exchanged (`swab16`), so `be16` is the image
of a half word that was converted before it was stored.

A program that fills a header from its first field to its last only ever appends to what it has
written: `store_append` is the step of that argument, and `byte_append_drop` says that what lies
behind the header stays.
-/

namespace Bytes

/-- The `n` bytes from offset `off`. -/
def slice (bs : List UInt8) (off n : ℕ) : List UInt8 := (bs.drop off).take n

/-- The byte at `off`; a reader checks the bounds before it reads. -/
def byte (bs : List UInt8) (off : ℕ) : UInt8 := bs.getD off 0

/-- `bs` with the bytes from `off` overwritten by `w`. -/
def store (bs : List UInt8) (off : ℕ) (w : List UInt8) : List UInt8 :=
  bs.take off ++ (w ++ bs.drop (off + w.length))

/-- The image of a half word. -/
def le16 (w : UInt16) : List UInt8 := [UInt8.ofNat w.toNat, UInt8.ofNat (w.toNat / 2^8)]

/-- The image of a word. -/
def le32 (w : UInt32) : List UInt8 :=
  [UInt8.ofNat w.toNat, UInt8.ofNat (w.toNat / 2^8), UInt8.ofNat (w.toNat / 2^16),
    UInt8.ofNat (w.toNat / 2^24)]

/-- The half word at `off`. -/
def load16 (bs : List UInt8) (off : ℕ) : UInt16 :=
  UInt16.ofNat ((byte bs off).toNat + 2^8 * (byte bs (off + 1)).toNat)

/-- The word at `off`. -/
def load32 (bs : List UInt8) (off : ℕ) : UInt32 :=
  UInt32.ofNat ((byte bs off).toNat + 2^8 * (byte bs (off + 1)).toNat +
    2^16 * (byte bs (off + 2)).toNat + 2^24 * (byte bs (off + 3)).toNat)

/-- A half word with its bytes exchanged. -/
def swab16 (w : UInt16) : UInt16 := UInt16.ofNat (w.toNat % 2^8 * 2^8 + w.toNat / 2^8)

/-- The image of the half word `n` in network order; bits at and above `2^16` are dropped. -/
def be16 (n : ℕ) : List UInt8 := [UInt8.ofNat (n / 2^8), UInt8.ofNat n]

/-! ## Lengths -/

@[simp] theorem length_le16 (w : UInt16) : (le16 w).length = 2 := rfl

@[simp] theorem length_le32 (w : UInt32) : (le32 w).length = 4 := rfl

@[simp] theorem length_be16 (n : ℕ) : (be16 n).length = 2 := rfl

@[simp] theorem length_slice (bs : List UInt8) (off n : ℕ) :
    (slice bs off n).length = min n (bs.length - off) := by
  simp [slice]

/-- A store inside the buffer keeps its length. -/
theorem length_store {bs w : List UInt8} {off : ℕ} (h : off + w.length ≤ bs.length) :
    (store bs off w).length = bs.length := by
  simp only [store, List.length_append, List.length_take, List.length_drop]
  omega

/-! ## Stores -/

/-- A store right behind a prefix replaces the bytes that follow the prefix. -/
theorem store_append {a b w : List UInt8} {off : ℕ} (h : a.length = off) :
    store (a ++ b) off w = (a ++ w) ++ b.drop w.length := by
  subst h
  simp [store, List.drop_append]

/-- The next store, when `k` bytes of what followed the prefix at first are overwritten already. -/
theorem store_append_drop {a r w : List UInt8} {off : ℕ} (k : ℕ) (h : a.length = off) :
    store (a ++ r.drop k) off w = (a ++ w) ++ r.drop (k + w.length) := by
  rw [store_append h, List.drop_drop]

/-- A store at the front replaces the first bytes. -/
theorem store_zero (bs w : List UInt8) : store bs 0 w = w ++ bs.drop w.length := by
  simp [store]

/-- What lies at and behind a store: the stored bytes, then the rest of the buffer. -/
theorem drop_store {bs w : List UInt8} {off : ℕ} (h : off ≤ bs.length) :
    (store bs off w).drop off = w ++ bs.drop (off + w.length) := by
  have hl : (bs.take off).length = off := by simp [h]
  rw [store, List.drop_append, hl]
  simp

/-! ## Reading a concatenation -/

theorem byte_append_right {a b : List UInt8} {i : ℕ} (h : a.length ≤ i) :
    byte (a ++ b) i = byte b (i - a.length) := by
  simp [byte, List.getD_eq_getElem?_getD, List.getElem?_append_right h]

/-- A byte of what follows an offset. -/
theorem byte_drop (bs : List UInt8) (off i : ℕ) : byte (bs.drop off) i = byte bs (off + i) := by
  simp [byte, List.getD_eq_getElem?_getD]

/-- A word of what follows an offset. -/
theorem load32_drop (bs : List UInt8) (off i : ℕ) :
    load32 (bs.drop off) i = load32 bs (off + i) := by
  simp only [load32, byte_drop, add_assoc]

/-- A half word of what follows an offset. -/
theorem load16_drop (bs : List UInt8) (off i : ℕ) :
    load16 (bs.drop off) i = load16 bs (off + i) := by
  simp only [load16, byte_drop, add_assoc]

/-- When `k` bytes of what follows a prefix are overwritten, what is read behind them stays. -/
theorem byte_append_drop {p q r : List UInt8} {k i : ℕ} (h : q.length = p.length + k)
    (hi : q.length ≤ i) : byte (q ++ r.drop k) i = byte (p ++ r) i := by
  rw [byte_append_right hi, byte_drop, byte_append_right (by omega)]
  congr 1
  omega

theorem load16_append_drop {p q r : List UInt8} {k i : ℕ} (h : q.length = p.length + k)
    (hi : q.length ≤ i) : load16 (q ++ r.drop k) i = load16 (p ++ r) i := by
  rw [load16, load16, byte_append_drop h hi, byte_append_drop h (by omega)]

theorem load16_append_right {a b : List UInt8} {i : ℕ} (h : a.length ≤ i) :
    load16 (a ++ b) i = load16 b (i - a.length) := by
  rw [load16, load16, byte_append_right h, byte_append_right (by omega),
    Nat.sub_add_comm h]

theorem load32_append_right {a b : List UInt8} {i : ℕ} (h : a.length ≤ i) :
    load32 (a ++ b) i = load32 b (i - a.length) := by
  rw [load32, load32, byte_append_right h, byte_append_right (by omega),
    byte_append_right (by omega), byte_append_right (by omega), Nat.sub_add_comm h,
    Nat.sub_add_comm h, Nat.sub_add_comm h]

/-! ## Words and their images -/

/-- A word is read back from its image. -/
theorem load32_le32 (w : UInt32) (bs : List UInt8) : load32 (le32 w ++ bs) 0 = w := by
  apply UInt32.toNat_inj.mp
  have hw := w.toNat_lt
  simp only [load32, byte, le32, List.cons_append, List.getD_cons_zero, List.getD_cons_succ,
    zero_add, UInt8.toNat_ofNat', UInt32.toNat_ofNat']
  omega

/-- A half word is read back from its image. -/
theorem load16_le16 (w : UInt16) (bs : List UInt8) : load16 (le16 w ++ bs) 0 = w := by
  apply UInt16.toNat_inj.mp
  have hw := w.toNat_lt
  simp only [load16, byte, le16, List.cons_append, List.getD_cons_zero, List.getD_cons_succ,
    zero_add, UInt8.toNat_ofNat', UInt16.toNat_ofNat']
  omega

/-- The value of a half word with its bytes exchanged. -/
theorem toNat_swab16 (w : UInt16) :
    (swab16 w).toNat = w.toNat % 2^8 * 2^8 + w.toNat / 2^8 := by
  have hw := w.toNat_lt
  rw [swab16, UInt16.toNat_ofNat']
  apply Nat.mod_eq_of_lt
  omega

/-- Exchanging the bytes twice gives the half word back. -/
theorem swab16_swab16 (w : UInt16) : swab16 (swab16 w) = w := by
  apply UInt16.toNat_inj.mp
  have hw := w.toNat_lt
  rw [toNat_swab16, toNat_swab16]
  omega

/-- The image of a converted half word is its network order. -/
theorem le16_swab16 (n : ℕ) : le16 (swab16 (UInt16.ofNat n)) = be16 n := by
  obtain ⟨q, r, hr, hn⟩ : ∃ q r, r < 2^8 ∧ n = 2^8 * q + r :=
    ⟨n / 2^8, n % 2^8, Nat.mod_lt _ (by norm_num), (Nat.div_add_mod n _).symm⟩
  have hsw : (swab16 (UInt16.ofNat n)).toNat = r * 2^8 + q % 2^8 := by
    rw [toNat_swab16, UInt16.toNat_ofNat']
    omega
  have hq : q % 2^8 < 2^8 := Nat.mod_lt _ (by norm_num)
  have hdiv : n / 2^8 = q := by
    rw [hn, Nat.mul_add_div (by norm_num), Nat.div_eq_of_lt hr, add_zero]
  have hmod : n % 2^8 = r := by rw [hn, Nat.mul_add_mod, Nat.mod_eq_of_lt hr]
  simp only [le16, be16, List.cons.injEq, and_true]
  constructor
  · apply UInt8.toNat_inj.mp
    rw [UInt8.toNat_ofNat', UInt8.toNat_ofNat', hsw, hdiv, Nat.mul_add_mod', Nat.mod_mod]
  · apply UInt8.toNat_inj.mp
    rw [UInt8.toNat_ofNat', UInt8.toNat_ofNat', hsw, hmod, mul_comm r,
      Nat.mul_add_div (by norm_num), Nat.div_eq_of_lt hq, add_zero, Nat.mod_eq_of_lt hr]

/-- The image of a half word is the network order of the converted one. -/
theorem le16_eq_be16 (w : UInt16) : le16 w = be16 (swab16 w).toNat := by
  rw [← le16_swab16, UInt16.ofNat_toNat, swab16_swab16]

/-- What stands between a prefix and the rest. -/
theorem slice_append {p w q : List UInt8} {off n : ℕ} (hp : p.length = off) (hw : w.length = n) :
    slice (p ++ w ++ q) off n = w := by
  rw [slice, List.append_assoc, List.drop_left' hp, List.take_left' hw]

/-- A slice of what stands between a prefix and the rest. -/
theorem slice_append_add {p w q : List UInt8} {k off n : ℕ} (hp : p.length = k)
    (h : off + n ≤ w.length) : slice (p ++ w ++ q) (k + off) n = slice w off n := by
  have hd : (p ++ (w ++ q)).drop (k + off) = w.drop off ++ q := by
    rw [← List.drop_drop, List.drop_left' hp, List.drop_append_of_le_length (by omega)]
  rw [slice, slice, List.append_assoc, hd,
    List.take_append_of_le_length (by rw [List.length_drop]; omega)]

/-- A slice in two parts. -/
theorem slice_add (bs : List UInt8) (off m n : ℕ) :
    slice bs off (m + n) = slice bs off m ++ slice bs (off + m) n := by
  rw [slice, List.take_add, List.drop_drop]
  rfl

/-- The two bytes at `off`. -/
theorem slice_two {bs : List UInt8} {off : ℕ} (h : off + 2 ≤ bs.length) :
    slice bs off 2 = [byte bs off, byte bs (off + 1)] := by
  have h0 : off < bs.length := by omega
  have h1 : off + 1 < bs.length := by omega
  rw [slice, List.drop_eq_getElem_cons h0, List.drop_eq_getElem_cons h1, byte, byte,
    List.getD_eq_getElem?_getD, List.getD_eq_getElem?_getD, List.getElem?_eq_getElem h0,
    List.getElem?_eq_getElem h1]
  rfl

/-- The image of the half word at `off` is the two bytes there. -/
theorem le16_load16 {bs : List UInt8} {off : ℕ} (h : off + 2 ≤ bs.length) :
    le16 (load16 bs off) = slice bs off 2 := by
  have hb0 := (byte bs off).toNat_lt
  have hb1 := (byte bs (off + 1)).toNat_lt
  rw [slice_two h]
  simp only [le16, load16, UInt16.toNat_ofNat', List.cons.injEq, and_true]
  constructor <;> apply UInt8.toNat_inj.mp <;> simp only [UInt8.toNat_ofNat'] <;> omega

/-- A byte of a slice. -/
theorem byte_slice {bs : List UInt8} {off n i : ℕ} (h : i < n) :
    byte (slice bs off n) i = byte bs (off + i) := by
  simp [byte, slice, List.getD_eq_getElem?_getD, h]

/-- The word whose image stands at `off`. -/
theorem load32_of_slice {bs : List UInt8} {off : ℕ} {w : UInt32} (h : slice bs off 4 = le32 w) :
    load32 bs off = w := by
  have e : load32 (slice bs off 4) 0 = load32 bs off := by
    simp [load32, byte_slice]
  rw [← e, h, ← List.append_nil (le32 w), load32_le32]

/-- The half word whose network order stands at `off`. -/
theorem swab16_load16_of_slice {bs : List UInt8} {off n : ℕ} (h : slice bs off 2 = be16 n) :
    swab16 (load16 bs off) = UInt16.ofNat n := by
  have e : load16 (slice bs off 2) 0 = load16 bs off := by
    simp [load16, byte_slice]
  rw [← e, h, ← le16_swab16, ← List.append_nil (le16 _), load16_le16, swab16_swab16]

/-- A half word is told by its network order. -/
theorem be16_toNat_injective {v w : UInt16} (h : be16 v.toNat = be16 w.toNat) : v = w := by
  have hv : swab16 (load16 (be16 v.toNat) 0) = UInt16.ofNat v.toNat := swab16_load16_of_slice rfl
  have hw : swab16 (load16 (be16 w.toNat) 0) = UInt16.ofNat w.toNat := swab16_load16_of_slice rfl
  rw [UInt16.ofNat_toNat] at hv hw
  rw [← hv, h, hw]

end Bytes
