import UpfBpf.Lib.OnesComplement
import UpfBpf.Datapath.Forward

/-!
# The outer header

What stands in the fields of the outer IPv4 header that the rule program writes. Every encapsulation
that gets to its end leaves one frame (`completed_eq`), also when the kernel has refused to move
`data` and the headers are written over the packet, and both results read their fields off it.

The checksum is computed over the header with a zero in its place, as a one's-complement sum of the
words as they stand in memory. The helper `bpf_csum_diff` returns that sum in 32 bits, of which only
the residue modulo `2^16 - 1` is fixed; adding with the carry, folding, and the complement of
`src/bpf/utils/csum.h` all keep the residue, so that it comes out right (`outer_checksum_valid`).

The three length fields are made of the total length that the packet claims, and `htons` drops the
carry. They fit together exactly when there is none (`lengthsFit_iff`).
-/

namespace UpfBpf

open Bytes OnesComplement

/-! ## Checksums -/

/-- Adding with the carry keeps the residue. -/
theorem pcnCsumAdd_mod (csum addend : UInt32) :
    (pcnCsumAdd csum addend).toNat % (2^16 - 1) = (csum.toNat + addend.toNat) % (2^16 - 1) := by
  have hc := csum.toNat_lt
  have ha := addend.toNat_lt
  have hres := UInt32.toNat_add csum addend
  unfold pcnCsumAdd
  dsimp only
  -- The sum comes out below the addend exactly when there was a carry.
  split_ifs with hlt
  · rw [UInt32.lt_iff_toNat_lt] at hlt
    rw [UInt32.toNat_add, UInt32.toNat_one]
    omega
  · rw [UInt32.lt_iff_toNat_lt] at hlt
    rw [UInt32.toNat_add, UInt32.toNat_zero]
    omega

/-- A fold keeps the residue. -/
theorem fold_mod (n : ℕ) : (n % 2^16 + n / 2^16) % (2^16 - 1) = n % (2^16 - 1) := by
  omega

/-- Folding twice and complementing negates the residue. -/
theorem pcnCsumFold_mod (csum : UInt32) :
    ((pcnCsumFold csum).toNat + csum.toNat) % (2^16 - 1) = 0 := by
  have hc := csum.toNat_lt
  unfold pcnCsumFold
  dsimp only
  rw [UInt16.toNat_ofNat']
  have h1 := fold_mod csum.toNat
  have hb1 : csum.toNat % 2^16 + csum.toNat / 2^16 ≤ 2 * (2^16 - 1) := by omega
  generalize csum.toNat % 2^16 + csum.toNat / 2^16 = once at h1 hb1
  have h2 := fold_mod once
  -- The second fold has no carry left.
  have hb2 : once % 2^16 + once / 2^16 < 2^16 := by omega
  generalize once % 2^16 + once / 2^16 = twice at h2 hb2
  rw [Nat.mod_eq_of_lt hb2]
  have hneg : 2^16 - 1 - twice + twice = 2^16 - 1 := Nat.sub_add_cancel (by omega)
  generalize 2^16 - 1 - twice = neg at hneg
  omega

/-- The checksum of a field that was zero: the negated residue of the difference. -/
theorem pcnCsumReplaceByDiff_mod (diff : UInt32) :
    ((pcnCsumReplaceByDiff 0 diff).toNat + diff.toNat) % (2^16 - 1) = 0 := by
  have hadd := pcnCsumAdd_mod diff (~~~pcnCsumUnfold 0)
  have hfold := pcnCsumFold_mod (pcnCsumAdd diff (~~~pcnCsumUnfold 0))
  -- The complement of zero is a multiple of `2^16 - 1`.
  have hones : (~~~pcnCsumUnfold 0).toNat = 2^32 - 1 := rfl
  rw [hones] at hadd
  rw [pcnCsumReplaceByDiff]
  omega

/-- What is assumed of `bpf_csum_diff(0, 0, p, 20, 0)`: its residue is that of the half words at
`p`. -/
def IsCsumDiff (bpf_csum_diff : List UInt8 → UInt32) : Prop :=
  ∀ bs, bs.length = ipLen →
    (bpf_csum_diff bs).toNat % (2^16 - 1) = total (words bs) % (2^16 - 1)

/-- The checksum field adds its own value, and a header is never all zero. -/
theorem total_words_outerIpHeader (tot_len : ℕ) (check : UInt16) (daddr : UInt32) :
    total (words (outerIpHeader tot_len check daddr)) =
        total (words (outerIpHeader tot_len 0 daddr)) + check.toNat ∧
      total (words (outerIpHeader tot_len 0 daddr)) ≠ 0 := by
  -- The first word is `0x0045`; `m` are the four in front of the field, and `q` those behind it.
  generalize hm : be16 tot_len ++ ([0, 0] ++ [0x40, 0] ++ [64, ipprotoUdp]) = m
  generalize hq : le32 localIp ++ le32 daddr = q
  have hml : m.length = 2 * 4 := by simp [← hm]
  have hsplit : ∀ c, total (words (outerIpHeader tot_len c daddr)) =
      0x45 + (total (words m) + (c.toNat + total (words q))) := by
    intro c
    have hfirst : outerIpHeader tot_len c daddr = [0x45, 0] ++ (m ++ (le16 c ++ q)) := by
      simp [outerIpHeader, ← hm, ← hq]
    rw [hfirst, words_append (n := 1) rfl, words_append hml, words_append (n := 1) rfl, words_le16,
      total_append, total_append, total_append]
    rfl
  have hzero : (0 : UInt16).toNat = 0 := rfl
  rw [hsplit check, hsplit 0, hzero]
  refine ⟨?_, ?_⟩
  · omega
  · omega

/-- The header with the checksum that is computed for it. -/
theorem sum_words_outerIpHeader {bpf_csum_diff : List UInt8 → UInt32} (h : IsCsumDiff bpf_csum_diff)
    (far : PfcpFarT) (tot_len : ℕ) :
    sum (words (outerIpHeader (tot_len + gtpEncapsulatedSize) (checkOf bpf_csum_diff far tot_len)
      far.outer_header_creation.ipv4_address)) = 0xFFFF := by
  obtain ⟨htotal, hne⟩ := total_words_outerIpHeader (tot_len + gtpEncapsulatedSize)
    (checkOf bpf_csum_diff far tot_len) far.outer_header_creation.ipv4_address
  have hdiff := h (outerIpHeader (tot_len + gtpEncapsulatedSize) 0
    far.outer_header_creation.ipv4_address) rfl
  have hcheck := pcnCsumReplaceByDiff_mod (bpf_csum_diff (outerIpHeader
    (tot_len + gtpEncapsulatedSize) 0 far.outer_header_creation.ipv4_address))
  have hdef : checkOf bpf_csum_diff far tot_len = pcnCsumReplaceByDiff 0 (bpf_csum_diff
    (outerIpHeader (tot_len + gtpEncapsulatedSize) 0
      far.outer_header_creation.ipv4_address)) := rfl
  rw [← hdef] at hcheck
  rw [sum_eq_allOnes_iff, htotal]
  refine ⟨?_, ?_⟩
  · omega
  · omega

/-! ## The frame that is left -/

section Completed

variable {bpf_csum_diff : List UInt8 → UInt32} {m_arp_table : ArpTable} {ctx : XdpMd}
  {far : PfcpFarT}

/-- The frame that the encapsulation writes on: moved, or where it was when the kernel refuses. -/
def shiftedFrame (ctx : XdpMd) : List UInt8 :=
  (bpfXdpAdjustHead ctx (-(gtpEncapsulatedSize : ℤ))).2.data

/-- An encapsulation that gets to its end, whether or not `data` was moved. -/
theorem completed_eq (h : (createOuterHeaderGtpuIpv4 bpf_csum_diff m_arp_table ctx far).1 = none) :
    gtpEncapsulatedSize + ethLen + ipLen ≤ (shiftedFrame ctx).length ∧
      ∃ mac, m_arp_table.lookup far.outer_header_creation.ipv4_address = some mac ∧
        (createOuterHeaderGtpuIpv4 bpf_csum_diff m_arp_table ctx far).2.data =
          writtenFrame (checkOf bpf_csum_diff far (innerTotLen (shiftedFrame ctx))) mac far
            (shiftedFrame ctx) := by
  by_cases hl : (shiftedFrame ctx).length < gtpEncapsulatedSize + ethLen + ipLen
  · rw [createOuterHeaderGtpuIpv4_short bpf_csum_diff m_arp_table far rfl hl] at h
    cases h
  · rw [not_lt] at hl
    refine ⟨hl, ?_⟩
    obtain ⟨unfinished, e⟩ := createOuterHeaderGtpuIpv4_shifted bpf_csum_diff m_arp_table far rfl hl
    rw [e] at h ⊢
    cases hm : m_arp_table.lookup far.outer_header_creation.ipv4_address with
    | none =>
      rw [hm] at h
      cases h
    | some mac => exact ⟨mac, rfl, rfl⟩

end Completed

/-- The outer IPv4 header of an encapsulation that gets to its end has ten words, and their
one's-complement sum is all ones, in the order of the network and as the host reads them. -/
theorem outer_checksum_valid {bpf_csum_diff : List UInt8 → UInt32} (hd : IsCsumDiff bpf_csum_diff)
    (m_arp_table : ArpTable) (ctx : XdpMd) (far : PfcpFarT)
    (h : (createOuterHeaderGtpuIpv4 bpf_csum_diff m_arp_table ctx far).1 = none) :
    let header := slice (createOuterHeaderGtpuIpv4 bpf_csum_diff m_arp_table ctx far).2.data 14 20
    (networkWords header).length = 10 ∧ sum (networkWords header) = 0xFFFF ∧
      sum (words header) = 0xFFFF := by
  obtain ⟨hl, mac, -, e⟩ := completed_eq h
  have hheader : slice (createOuterHeaderGtpuIpv4 bpf_csum_diff m_arp_table ctx far).2.data 14 20 =
      outerIpHeader (innerTotLen (shiftedFrame ctx) + gtpEncapsulatedSize)
        (checkOf bpf_csum_diff far (innerTotLen (shiftedFrame ctx)))
        far.outer_header_creation.ipv4_address := by
    have hml := length_writtenEthHeader (d := shiftedFrame ctx) mac (by omega)
    rw [e, writtenFrame, outerHeaders, List.append_assoc (outerIpHeader _ _ _),
      ← List.append_assoc (mac.bytes ++ _), List.append_assoc _ _ ((shiftedFrame ctx).drop 50)]
    exact slice_append hml (length_outerIpHeader _ _ _)
  intro header
  have hsum : sum (words header) = 0xFFFF := by
    rw [show header = _ from hheader]
    exact sum_words_outerIpHeader hd far _
  refine ⟨?_, (sum_map_swab16_eq_allOnes_iff _).2 hsum, hsum⟩
  rw [show header = _ from hheader]
  rfl

/-- `csum_partial` of the kernel over a buffer of whole words: they are added with the carry. -/
def csumPartial : List UInt8 → UInt32
  | a :: b :: c :: d :: bs => pcnCsumAdd (csumPartial bs) (load32 [a, b, c, d] 0)
  | _ => 0

theorem csumPartial_mod {n : ℕ} {bs : List UInt8} (h : bs.length = 4 * n) :
    (csumPartial bs).toNat % (2^16 - 1) = total (words bs) % (2^16 - 1) := by
  induction n generalizing bs with
  | zero =>
    rw [List.eq_nil_of_length_eq_zero h]
    rfl
  | succ n ih =>
    match bs, h with
    | a :: b :: c :: d :: bs, h =>
      have hl : bs.length = 4 * n := by
        simp only [List.length_cons] at h
        omega
      have hadd := pcnCsumAdd_mod (csumPartial bs) (load32 [a, b, c, d] 0)
      have hword : (load32 [a, b, c, d] 0).toNat =
          a.toNat + 2^8 * b.toNat + 2^16 * (c.toNat + 2^8 * d.toNat) := by
        have ha := a.toNat_lt
        have hb := b.toNat_lt
        have hc := c.toNat_lt
        have hd := d.toNat_lt
        simp only [load32, byte, List.getD_cons_zero, List.getD_cons_succ, zero_add,
          UInt32.toNat_ofNat']
        omega
      have htotal : total (words (a :: b :: c :: d :: bs)) =
          (a.toNat + 2^8 * b.toNat) + ((c.toNat + 2^8 * d.toNat) + total (words bs)) := by
        have hhalf : ∀ v w : UInt8, (UInt16.ofNat (v.toNat + 2^8 * w.toNat)).toNat =
            v.toNat + 2^8 * w.toNat := by
          intro v w
          have hv := v.toNat_lt
          have hw := w.toNat_lt
          rw [UInt16.toNat_ofNat']
          omega
        rw [words, words, total_cons, total_cons, hhalf, hhalf]
      have ih' := ih hl
      rw [csumPartial, htotal]
      omega

/-- A packet of 20 bytes towards 10.1.3.27. -/
theorem outer_checksum_valid_sample :
    let ctx : XdpMd := ⟨List.replicate 36 0, List.replicate 34 7⟩
    (createOuterHeaderGtpuIpv4 csumPartial accessArp ctx accessFar).1 = none ∧
      sum (networkWords (slice
        (createOuterHeaderGtpuIpv4 csumPartial accessArp ctx accessFar).2.data 14 20)) =
          0xFFFF := by
  intro ctx
  have hd : IsCsumDiff csumPartial := fun bs hl => csumPartial_mod (n := 5) hl
  have h : (createOuterHeaderGtpuIpv4 csumPartial accessArp ctx accessFar).1 = none := by decide
  exact ⟨h, (outer_checksum_valid hd accessArp ctx accessFar h).2.1⟩

/-! ## Lengths -/

/-- The length fields of an encapsulated frame, as numbers. -/
structure LengthsFit (out : List UInt8) : Prop where
  /-- The total length of the outer IPv4 header is that of the header and of the UDP packet. -/
  ip : (swab16 (load16 out 16)).toNat = 20 + (swab16 (load16 out 38)).toNat
  /-- The UDP length is that of the two headers and of the message. -/
  udp : (swab16 (load16 out 38)).toNat = 16 + (swab16 (load16 out 44)).toNat
  /-- The message length is the total length of the inner packet. -/
  gtp : (swab16 (load16 out 44)).toNat = innerTotLen out

/-- The total length that the packet claims, in the IPv4 header that comes behind the outer ones. -/
def claimedTotLen (ctx : XdpMd) : ℕ := innerTotLen (shiftedFrame ctx)

section Lengths

variable {bpf_csum_diff : List UInt8 → UInt32} {m_arp_table : ArpTable} {m : RedirectInterfaces}
  {ctx : XdpMd} {far : PfcpFarT}

/-- With headroom, this is the IPv4 header of the frame. -/
theorem claimedTotLen_eq (hh : gtpEncapsulatedSize ≤ ctx.headroom.length)
    (hl : ethLen ≤ ctx.data.length) : claimedTotLen ctx = totLen ctx.data := by
  have hhl : (ctx.headroom.drop (ctx.headroom.length - gtpEncapsulatedSize)).length =
      gtpEncapsulatedSize := by
    rw [List.length_drop]
    omega
  rw [claimedTotLen, shiftedFrame, bpfXdpAdjustHead_back ctx (by decide) hh hl]
  dsimp only
  rw [innerTotLen, totLen, load16_append_right (by rw [hhl]; decide), hhl]
  rfl

/-- A length field of the outer headers. -/
theorem load16_writtenFrame {d : List UInt8} (check : UInt16) (mac : Mac)
    (hd : gtpEncapsulatedSize + ethLen ≤ d.length) (off : ℕ) {n : ℕ}
    (hoff : off + 2 ≤ gtpEncapsulatedSize)
    (h : slice (outerHeaders check far (innerTotLen d)) off 2 = be16 n) :
    (swab16 (load16 (writtenFrame check mac far d) (14 + off))).toNat = n % 2^16 := by
  have hs : slice (writtenFrame check mac far d) (14 + off) 2 = be16 n := by
    rw [writtenFrame, slice_append_add (length_writtenEthHeader mac hd) hoff, h]
  rw [swab16_load16_of_slice hs, UInt16.toNat_ofNat']

/-- The packet is left where it is. -/
theorem innerTotLen_writtenFrame {d : List UInt8} (check : UInt16) (mac : Mac)
    (hd : gtpEncapsulatedSize + ethLen ≤ d.length) :
    innerTotLen (writtenFrame check mac far d) = innerTotLen d := by
  have hl : ((mac.bytes ++ slice d 42 8) ++ outerHeaders check far (innerTotLen d)).length =
      50 := by
    rw [List.length_append, length_writtenEthHeader mac hd]
    rfl
  rw [innerTotLen, innerTotLen, writtenFrame, load16_append_right (by rw [hl]; decide), hl,
    load16_drop]

/-- The lengths in a written frame fit together exactly when no sum has a carry. -/
theorem lengthsFit_writtenFrame_iff {d : List UInt8} (check : UInt16) (mac : Mac)
    (hd : gtpEncapsulatedSize + ethLen ≤ d.length) :
    LengthsFit (writtenFrame check mac far d) ↔ innerTotLen d ≤ 65535 - 36 := by
  have hlt : innerTotLen d < 2^16 := (swab16 _).toNat_lt
  -- The three fields that are written, and the one that is left where it is.
  have hip : (swab16 (load16 (writtenFrame check mac far d) 16)).toNat =
      (innerTotLen d + 36) % 2^16 := load16_writtenFrame check mac hd 2 (by decide) rfl
  have hudp : (swab16 (load16 (writtenFrame check mac far d) 38)).toNat =
      (innerTotLen d + 8 + 8) % 2^16 := load16_writtenFrame check mac hd 24 (by decide) rfl
  have hgtp : (swab16 (load16 (writtenFrame check mac far d) 44)).toNat =
      innerTotLen d % 2^16 := load16_writtenFrame check mac hd 30 (by decide) rfl
  have hinner : innerTotLen (writtenFrame check mac far d) = innerTotLen d :=
    innerTotLen_writtenFrame check mac hd
  constructor
  · rintro ⟨h1, h2, -⟩
    rw [hip, hudp] at h1
    rw [hudp, hgtp] at h2
    omega
  · intro h
    refine ⟨?_, ?_, ?_⟩
    · rw [hip, hudp]
      omega
    · rw [hudp, hgtp]
      omega
    · rw [hgtp, hinner]
      omega

/-- The lengths in a frame that is encapsulated and redirected fit together exactly when the total
length that the packet claims leaves room for the outer headers in 16 bits. -/
theorem lengthsFit_iff
    (hr : (pfcpFarApply bpf_csum_diff m_arp_table m ctx (some far)).1 = .redirect .DOWNLINK)
    (hc : (createOuterHeaderGtpuIpv4 bpf_csum_diff m_arp_table ctx far).1 = none) :
    LengthsFit (pfcpFarApply bpf_csum_diff m_arp_table m ctx (some far)).2.data ↔
      claimedTotLen ctx ≤ 65535 - 36 := by
  obtain ⟨_, hfar, hs, hl⟩ := selectsEncap_of_redirect hr
  cases hfar
  obtain ⟨hd, mac, -, e⟩ := completed_eq hc
  rw [pfcpFarApply_of_selectsEncap hs hl]
  dsimp only
  rw [e]
  exact lengthsFit_writtenFrame_iff _ mac (by omega)

end Lengths

/-- A frame of 34 bytes whose packet claims to have `tot_len`. -/
def claimingFrame (tot_len : ℕ) : List UInt8 :=
  List.replicate 12 2 ++ be16 0x0800 ++ ([0x45, 0] ++ be16 tot_len) ++ List.replicate 16 0

/-- A packet that claims 20 bytes. -/
theorem lengthsFit_iff_sample :
    let m := (SlotArray.empty.set 0 (some 3)).getD SlotArray.empty
    let ctx : XdpMd := ⟨List.replicate 36 0, claimingFrame 20⟩
    LengthsFit (pfcpFarApply csumPartial accessArp m ctx (some accessFar)).2.data := by
  intro m ctx
  have hr : (pfcpFarApply csumPartial accessArp m ctx (some accessFar)).1 =
      .redirect .DOWNLINK := by decide
  have hc : (createOuterHeaderGtpuIpv4 csumPartial accessArp ctx accessFar).1 = none := by decide
  exact (lengthsFit_iff hr hc).2 (by decide)

/-- One that claims 65500: the frame is encapsulated and redirected, and the total length in the
outer IPv4 header is 0. -/
theorem not_lengthsFit_of_long_packet :
    let m := (SlotArray.empty.set 0 (some 3)).getD SlotArray.empty
    let ctx : XdpMd := ⟨List.replicate 36 0, claimingFrame 65500⟩
    let r := pfcpFarApply csumPartial accessArp m ctx (some accessFar)
    r.1 = .redirect .DOWNLINK ∧
      (createOuterHeaderGtpuIpv4 csumPartial accessArp ctx accessFar).1 = none ∧
      (swab16 (load16 r.2.data 16)).toNat = 0 ∧ ¬ LengthsFit r.2.data := by
  intro m ctx r
  have hip : (swab16 (load16 r.2.data 16)).toNat = 0 := by decide +kernel
  refine ⟨by decide, by decide, hip, fun h => ?_⟩
  have hsum := h.ip
  rw [hip] at hsum
  omega

end UpfBpf
