import UpfBpf.Lib.Bytes
import UpfBpf.Lib.Tables
import UpfBpf.Rules

/-!
# The key of the detector's map

`m_next_rule_prog_index` is looked up by a `struct next_rule_prog_index_key`
(`src/bpf/next_prog_rule_key.h`), and the kernel compares all of its 12 bytes: the TEID at offset 0,
the source interface at 4, three bytes of padding, and the address at 8. This file follows the
bytes. `KeyStorage` is the memory of one such object, and `assign` writes the members and nothing
else, as an initialiser or a memberwise copy does. The three objects of the sources are the one that
`createPipeline` initialises, the one that `removePipeline` gets after the copies through
`SessionPrograms`, and the one that `tail_call_next_prog` clears first.

`keysAgree_iff` says when the three have the same bytes: exactly when the memory behind the first
two had zeros where the padding lies. The other modules take that for granted and use keys by their
members: `Represents` relates the two views of the map, and every operation keeps them related.
-/

namespace UpfBpf

open Bytes

/-- `struct next_rule_prog_index_key`, by its members. -/
structure NextRuleProgIndexKey where
  /-- The TEID. -/
  teid : UInt32
  /-- The source interface. -/
  source_value : UInt8
  /-- The UE's address. -/
  ipv4_address : UInt32
  deriving DecidableEq, Repr

/-- The memory of a `struct next_rule_prog_index_key`. -/
structure KeyStorage where
  /-- The bytes. -/
  bytes : List UInt8
  /-- `sizeof(struct next_rule_prog_index_key)`. -/
  length_eq : bytes.length = 12

namespace KeyStorage

/-- The padding behind `source_value`. -/
def padding (o : KeyStorage) : List UInt8 := slice o.bytes 5 3

/-- The members that the memory holds. -/
def key (o : KeyStorage) : NextRuleProgIndexKey :=
  ⟨load32 o.bytes 0, byte o.bytes 4, load32 o.bytes 8⟩

/-- The bytes after the members have been written one by one. -/
def assignBytes (o : KeyStorage) (k : NextRuleProgIndexKey) : List UInt8 :=
  store (store (store o.bytes 0 (le32 k.teid)) 4 [k.source_value]) 8 (le32 k.ipv4_address)

/-- The members' bytes with the padding between them. -/
theorem assignBytes_eq (o : KeyStorage) (k : NextRuleProgIndexKey) :
    o.assignBytes k = le32 k.teid ++ ([k.source_value] ++ (o.padding ++ le32 k.ipv4_address)) := by
  obtain ⟨bs, h⟩ := o
  match bs, h with
  | [_, _, _, _, _, _, _, _, _, _, _, _], _ => rfl

/-- There are three bytes of padding. -/
theorem length_padding (o : KeyStorage) : o.padding.length = 3 := by
  simp [padding, o.length_eq]

/-- The members are written, and the padding stays. -/
def assign (o : KeyStorage) (k : NextRuleProgIndexKey) : KeyStorage :=
  ⟨o.assignBytes k, by simp [assignBytes_eq, length_padding]⟩

/-- The memory after `__builtin_memset` with zero. -/
def memset : KeyStorage := ⟨List.replicate 12 0, rfl⟩

/-- The members that were written are read back. -/
@[simp] theorem key_assign (o : KeyStorage) (k : NextRuleProgIndexKey) : (o.assign k).key = k := by
  have h4 : byte (o.assignBytes k) 4 = k.source_value := by
    rw [assignBytes_eq, byte_append_right (by simp)]
    simp [byte]
  have h8 : load32 (o.assignBytes k) 8 = k.ipv4_address := by
    have e : (o.assignBytes k).drop 8 = le32 k.ipv4_address ++ [] := by
      rw [assignBytes_eq, ← List.append_assoc, ← List.append_assoc,
        List.drop_left' (by simp [length_padding]), List.append_nil]
    have h := load32_drop (o.assignBytes k) 8 0
    rw [e, load32_le32] at h
    exact h.symm
  have h0 : load32 (o.assignBytes k) 0 = k.teid := by rw [assignBytes_eq, load32_le32]
  simp only [key, assign, h0, h4, h8]

/-- The bytes of two objects with the same members agree when their padding does. -/
theorem assign_bytes_eq_iff (o o' : KeyStorage) (k : NextRuleProgIndexKey) :
    (o.assign k).bytes = (o'.assign k).bytes ↔ o.padding = o'.padding := by
  simp only [assign, assignBytes_eq, List.append_cancel_left_eq, List.append_cancel_right_eq]

end KeyStorage

/-! ## The three objects of the sources -/

/-- The key that `createPipeline` initialises on its stack and passes to `update`. -/
def createPipelineKey (stack : KeyStorage) (k : NextRuleProgIndexKey) : KeyStorage := stack.assign k

/-- The copies of a key between `createPipeline` and `removePipeline`: the constructor's parameter,
the member `mKey`, and the result of `getKey`. Each copies the members into memory of its own. -/
def removePipelineKey (param member result : KeyStorage) (created : KeyStorage) : KeyStorage :=
  result.assign (member.assign (param.assign created.key).key).key

/-- The key that `tail_call_next_prog` builds: cleared memory, then the members. -/
def tailCallNextProgKey (k : NextRuleProgIndexKey) : KeyStorage := KeyStorage.memset.assign k

/-- The control plane and the datapath agree on the bytes of the key `k`, whatever memory the
control plane's objects were given. So a published entry is found by the datapath and can be
removed. -/
structure KeysAgree (k : NextRuleProgIndexKey) (stack param member result : KeyStorage) : Prop where
  /-- The published key is the looked-up one. -/
  create_eq : (createPipelineKey stack k).bytes = (tailCallNextProgKey k).bytes
  /-- The removed key is the looked-up one. -/
  remove_eq : (removePipelineKey param member result (createPipelineKey stack k)).bytes =
    (tailCallNextProgKey k).bytes
  /-- An entry published under the first key is found under the looked-up one, and the removal
  finds it. -/
  found : ∀ (m : BoundedMap 10 (List UInt8) UInt32) (id : UInt32),
    m.lookup (createPipelineKey stack k).bytes = some id →
      m.lookup (tailCallNextProgKey k).bytes = some id ∧
        m.delete (removePipelineKey param member result (createPipelineKey stack k)).bytes ≠ none

/-- The three keys have the same bytes exactly when the padding of the object that `createPipeline`
initialises and that of the object that `removePipeline` gets from `getKey` are zero. -/
theorem keysAgree_iff (k : NextRuleProgIndexKey) (stack param member result : KeyStorage) :
    KeysAgree k stack param member result ↔
      stack.padding = [0, 0, 0] ∧ result.padding = [0, 0, 0] := by
  have hc : (createPipelineKey stack k).bytes = (tailCallNextProgKey k).bytes ↔
      stack.padding = [0, 0, 0] :=
    KeyStorage.assign_bytes_eq_iff stack KeyStorage.memset k
  have hr : (removePipelineKey param member result (createPipelineKey stack k)).bytes =
      (tailCallNextProgKey k).bytes ↔ result.padding = [0, 0, 0] := by
    simp only [removePipelineKey, createPipelineKey, KeyStorage.key_assign]
    exact KeyStorage.assign_bytes_eq_iff result KeyStorage.memset k
  constructor
  · intro h
    exact ⟨hc.1 h.create_eq, hr.1 h.remove_eq⟩
  · rintro ⟨hs, hp⟩
    have ec := hc.2 hs
    have er := hr.2 hp
    refine ⟨ec, er, fun m id hm => ?_⟩
    rw [ec] at hm
    rw [er, ne_eq, BoundedMap.delete_eq_none_iff, hm]
    simp

/-- Memory that held anything else: the published key is not the one that the datapath looks up. -/
theorem not_keysAgree_of_dirty_stack :
    ¬ KeysAgree ⟨100, interfaceValueAccess, 0x0a0a0a0a⟩ ⟨List.replicate 12 0xff, rfl⟩
      KeyStorage.memset KeyStorage.memset KeyStorage.memset := by
  intro h
  have hne : (createPipelineKey ⟨List.replicate 12 0xff, rfl⟩
      ⟨100, interfaceValueAccess, 0x0a0a0a0a⟩).bytes ≠
        (tailCallNextProgKey ⟨100, interfaceValueAccess, 0x0a0a0a0a⟩).bytes := by decide
  exact hne h.create_eq

/-! ## Keys by their members -/

/-- The bytes of a key with zero padding. -/
def keyImage (k : NextRuleProgIndexKey) : List UInt8 := (tailCallNextProgKey k).bytes

/-- With zero padding, keys with the same bytes have the same members. -/
theorem keyImage_injective : Function.Injective keyImage := by
  intro k k' h
  have hk := KeyStorage.key_assign KeyStorage.memset k
  have hk' := KeyStorage.key_assign KeyStorage.memset k'
  have e : KeyStorage.memset.assign k = KeyStorage.memset.assign k' := by
    rw [KeyStorage.mk.injEq]
    exact h
  rw [← hk, e, hk']

/-- The kernel's map by bytes carries the map by members: zero padding, the same keys, as many of
them. -/
structure Represents (mb : BoundedMap 10 (List UInt8) UInt32)
    (mk : BoundedMap 10 NextRuleProgIndexKey UInt32) : Prop where
  /-- A key's value. -/
  lookup_eq : ∀ k, mb.lookup (keyImage k) = mk.lookup k
  /-- The number of keys. -/
  size_eq : mb.size = mk.size

namespace Represents

variable {mb mb' : BoundedMap 10 (List UInt8) UInt32}
  {mk mk' : BoundedMap 10 NextRuleProgIndexKey UInt32} {k : NextRuleProgIndexKey} {id : UInt32}

/-- The two views agree when nothing was published. -/
theorem empty : Represents BoundedMap.empty BoundedMap.empty := ⟨fun _ => rfl, rfl⟩

/-- An update is refused in both views or in none. -/
theorem update_eq_none_iff (h : Represents mb mk) :
    mb.update (keyImage k) id = none ↔ mk.update k id = none := by
  rw [BoundedMap.update_eq_none_iff, BoundedMap.update_eq_none_iff, h.lookup_eq, h.size_eq]

/-- An update keeps the two views in agreement. -/
theorem update (h : Represents mb mk) (hb : mb.update (keyImage k) id = some mb')
    (hk : mk.update k id = some mk') : Represents mb' mk' where
  lookup_eq l := by
    -- Two keys have one image only when they are one key.
    have hiff : keyImage l = keyImage k ↔ l = k := keyImage_injective.eq_iff
    rw [BoundedMap.lookup_update hb, BoundedMap.lookup_update hk, h.lookup_eq]
    simp only [hiff]
  size_eq := by
    rw [BoundedMap.size_update hb, BoundedMap.size_update hk, h.lookup_eq, h.size_eq]

/-- A removal is refused in both views or in none. -/
theorem delete_eq_none_iff (h : Represents mb mk) :
    mb.delete (keyImage k) = none ↔ mk.delete k = none := by
  rw [BoundedMap.delete_eq_none_iff, BoundedMap.delete_eq_none_iff, h.lookup_eq]

/-- A removal keeps the two views in agreement. -/
theorem delete (h : Represents mb mk) (hb : mb.delete (keyImage k) = some mb')
    (hk : mk.delete k = some mk') : Represents mb' mk' where
  lookup_eq l := by
    have hiff : keyImage l = keyImage k ↔ l = k := keyImage_injective.eq_iff
    rw [BoundedMap.lookup_delete hb, BoundedMap.lookup_delete hk, h.lookup_eq]
    simp only [hiff]
  size_eq := by
    rw [BoundedMap.size_delete hb, BoundedMap.size_delete hk, h.size_eq]

end Represents

end UpfBpf
