import Retrace.Guest.Memory

namespace Retrace.Guest.Memory

structure SameRange (m m' : Memory) : Prop where
  base : m.base = m'.base
  length : m.bytes.length = m'.bytes.length

theorem SameRange.offset? {m m' : Memory} (h : m.SameRange m') (addr : UInt64) (length : Nat) :
    m.offset? addr length = m'.offset? addr length := by
  rw [Memory.offset?, Memory.offset?, h.base, h.length]

theorem offset?_eq_some {m : Memory} {addr : UInt64} {length start : Nat}
    (h : m.offset? addr length = some start) :
    m.base ≤ addr ∧ start = addr.toNat - m.base.toNat ∧ start + length ≤ m.bytes.length := by
  rw [offset?] at h
  split at h
  · rename_i hrange
    cases h
    exact ⟨hrange.1, rfl, hrange.2⟩
  · cases h

theorem read?_eq_some {m : Memory} {addr : UInt64} {length : Nat} {bytes : Bytes}
    (h : m.read? addr length = some bytes) :
    ∃ start, m.offset? addr length = some start ∧ bytes = Bytes.slice start length m.bytes := by
  rw [read?] at h
  obtain ⟨start, hoffset, hbytes⟩ := Option.map_eq_some_iff.mp h
  exact ⟨start, hoffset, hbytes.symm⟩

theorem length_of_read? {m : Memory} {addr : UInt64} {length : Nat} {bytes : Bytes}
    (h : m.read? addr length = some bytes) : bytes.length = length := by
  obtain ⟨start, hoffset, rfl⟩ := read?_eq_some h
  obtain ⟨_, _, hroom⟩ := offset?_eq_some hoffset
  rw [Bytes.slice, List.length_take, List.length_drop]
  omega

theorem write_eq {m : Memory} {addr : UInt64} {bytes : Bytes} {start : Nat}
    (h : m.offset? addr bytes.length = some start) :
    m.write addr bytes =
      ⟨m.base, m.bytes.take start ++ (bytes ++ (m.bytes.drop start).drop bytes.length)⟩ := by
  rw [write, h]
  rfl

theorem read?_write {m : Memory} {addr : UInt64} {start : Nat} (bytes : Bytes)
    (h : m.offset? addr bytes.length = some start) :
    (m.write addr bytes).read? addr bytes.length = some bytes := by
  obtain ⟨hbase, hstart, hroom⟩ := offset?_eq_some h
  have hfront : (m.bytes.take start).length = start := List.length_take_of_le (by omega)
  have hwrite := write_eq h
  have hoffset : (m.write addr bytes).offset? addr bytes.length = some start := by
    rw [hwrite, offset?]
    apply (if_pos _).trans
    · rw [hstart]
    · refine ⟨hbase, ?_⟩
      simp only [List.length_append, List.length_drop, hfront]
      omega
  rw [read?, hoffset, hwrite, Option.map_some, Bytes.slice, List.drop_left' hfront,
    List.take_left' rfl]

theorem write_of_read? {m : Memory} {addr : UInt64} {length : Nat} {bytes : Bytes}
    (h : m.read? addr length = some bytes) : m.write addr bytes = m := by
  have hlength := length_of_read? h
  obtain ⟨start, hoffset, hbytes⟩ := read?_eq_some h
  have hrest : Bytes.overwrite bytes (m.bytes.drop start) = m.bytes.drop start := by
    rw [Bytes.overwrite, hlength, hbytes, Bytes.slice, List.take_append_drop]
  rw [write, hlength, hoffset]
  dsimp only
  rw [hrest, List.take_append_drop]

/-- A memory of the same range, with the same bytes but from one address on and below another one. -/
structure SameOutside (low high : Nat) (m m' : Memory) : Prop where
  range : m.SameRange m'
  bytes : ∀ i, m.base.toNat + i < low ∨ high ≤ m.base.toNat + i → m'.bytes[i]? = m.bytes[i]?

theorem SameOutside.refl (low high : Nat) (m : Memory) : m.SameOutside low high m :=
  ⟨⟨rfl, rfl⟩, fun _ _ => rfl⟩

theorem write_sameOutside {m : Memory} {addr : UInt64} {bytes : Bytes} {start : Nat}
    (h : m.offset? addr bytes.length = some start) :
    SameOutside addr.toNat (addr.toNat + bytes.length) m (m.write addr bytes) := by
  obtain ⟨hbase, hstart, hroom⟩ := offset?_eq_some h
  have hbelow : m.base.toNat ≤ addr.toNat := UInt64.le_iff_toNat_le.mp hbase
  have hfront : (m.bytes.take start).length = start := List.length_take_of_le (by omega)
  rw [write_eq h]
  refine ⟨⟨rfl, ?_⟩, ?_⟩
  · simp only [List.length_append, List.length_drop, hfront]
    omega
  · intro i houtside
    dsimp only
    rcases Nat.lt_or_ge i start with hlt | hge
    · rw [List.getElem?_append_left (by rw [hfront]; exact hlt), List.getElem?_take_of_lt hlt]
    · have hbehind : start + bytes.length ≤ i := by omega
      rw [List.getElem?_append_right (by rw [hfront]; exact hge), hfront,
        List.getElem?_append_right (by omega), List.getElem?_drop, List.getElem?_drop]
      congr 1
      omega

end Retrace.Guest.Memory
