import Retrace.Proofs.Log.Appending
import Mathlib.Algebra.GroupWithZero.Nat
import Mathlib.Control.Monad.Basic

namespace Retrace.Log

def extent (records : List (Entry × Bytes)) : Nat :=
  (records.map fun r => recordSize + r.2.length).sum

/-- What is wrong with an entry of which only the first bytes are there. -/
def Entry.cutShort (e : Entry) (present : Nat) : LogError :=
  if present < recordSize then .truncated recordSize present
  else .truncated e.payloadLength (present - recordSize)

/-- The first `k` entries are all that fit in the first `n` bytes. -/
structure LongestFit (records : List (Entry × Bytes)) (n k : Nat) : Prop where
  le_length : k ≤ records.length
  fits : extent (records.take k) ≤ n
  longest : ∀ j ≤ records.length, extent (records.take j) ≤ n → j ≤ k

theorem extent_take_le (records : List (Entry × Bytes)) {i j : Nat} (h : i ≤ j) :
    extent (records.take i) ≤ extent (records.take j) := by
  induction records generalizing i j with
  | nil => simp
  | cons r records ih =>
    cases i with
    | zero => simp [extent]
    | succ i =>
      cases j with
      | zero => omega
      | succ j =>
        have hle := ih (Nat.le_of_succ_le_succ h)
        simp only [extent, List.take_succ_cons, List.map_cons, List.sum_cons] at hle ⊢
        omega

theorem extent_logged (passages : List Passage) :
    extent (passages.map Passage.logged) = (Passage.join passages).length := by
  induction passages with
  | nil => rfl
  | cons p passages ih =>
    rw [Passage.join_cons, List.length_append, Passage.length_bytes, ← ih]
    rfl

theorem Passage.exists_cut (passages : List Passage) (n : Nat) :
    ∃ front back, passages = front ++ back ∧ (join front).length ≤ n ∧
      ∀ p rest, back = p :: rest → n < (join front).length + p.size := by
  induction passages generalizing n with
  | nil => exact ⟨[], [], rfl, Nat.zero_le n, fun _ _ h => nomatch h⟩
  | cons p passages ih =>
    by_cases hsize : p.size ≤ n
    · obtain ⟨front, back, rfl, hle, hback⟩ := ih (n - p.size)
      have hjoin : (join (p :: front)).length = p.size + (join front).length := by
        rw [join_cons, List.length_append, length_bytes]
      refine ⟨p :: front, back, rfl, by omega, ?_⟩
      intro q rest hq
      have := hback q rest hq
      omega
    · refine ⟨[], p :: passages, rfl, Nat.zero_le n, ?_⟩
      intro q rest hq
      cases hq
      simpa using hsize

theorem longestFit_of_cut {front back : List Passage} {n : Nat}
    (hle : (Passage.join front).length ≤ n)
    (hback : ∀ p rest, back = p :: rest → n < (Passage.join front).length + p.size) :
    LongestFit ((front ++ back).map Passage.logged) n front.length := by
  have htake : ((front ++ back).map Passage.logged).take front.length =
      front.map Passage.logged := by
    rw [List.map_append, List.take_left' (List.length_map _)]
  refine ⟨by simp, by rwa [htake, extent_logged], ?_⟩
  intro j hj hfits
  cases back with
  | nil => simpa using hj
  | cons p rest =>
    have hlt := hback p rest rfl
    have hnext : ((front ++ p :: rest).map Passage.logged).take (front.length + 1) =
        (front ++ [p]).map Passage.logged := by
      rw [List.append_cons, List.map_append, List.take_left' (by simp)]
    have hextent := extent_logged (front ++ [p])
    rw [Passage.join_append, List.length_append, Passage.join_cons, Passage.join_nil,
      List.append_nil, Passage.length_bytes] at hextent
    -- Were `j` greater, the passage behind the cut would fit as well.
    apply Nat.le_of_not_lt
    intro hgt
    have hmono := extent_take_le ((front ++ p :: rest).map Passage.logged)
      (Nat.succ_le_of_lt hgt)
    rw [Nat.succ_eq_add_one, hnext] at hmono
    omega

theorem Cursor.plain_walk_torn (p : Passage) {n : Nat} (hpos : 0 < n) (hlt : n < p.size)
    (index offset : Nat) :
    (plain (p.bytes.take n) index offset).walk =
      ([.error (p.entry.cutShort n)], stuck index offset n) := by
  have hlen : (p.bytes.take n).length = n := by
    rw [List.length_take, Passage.length_bytes]
    omega
  by_cases hrecord : n < recordSize
  · have hpresent : 0 < (p.bytes.take n).length := by omega
    rw [plain_walk_short_record hpresent (by omega), hlen, Entry.cutShort, if_pos hrecord]
  · have htake : p.bytes.take n = p.record ++ p.payload.take (n - recordSize) := by
      have hle : p.record.length ≤ n := by
        rw [p.length_record]
        omega
      rw [Passage.bytes, List.take_append, List.take_of_length_le hle, p.length_record]
    have hpresent : (p.payload.take (n - recordSize)).length = n - recordSize := by
      rw [Passage.size] at hlt
      rw [List.length_take]
      omega
    have hshort : (p.payload.take (n - recordSize)).length < p.entry.payloadLength := by
      rw [← p.length_payload, hpresent]
      rw [Passage.size] at hlt
      omega
    have hn : recordSize + (n - recordSize) = n := by omega
    rw [htake, plain_walk_short_payload p.length_record p.decode_record hshort, hpresent,
      Entry.cutShort, if_neg hrecord, hn]

theorem Cursor.plain_walk_cut {front back : List Passage} {n : Nat}
    (hle : (Passage.join front).length ≤ n) (hn : n ≤ (Passage.join (front ++ back)).length)
    (hback : ∀ p rest, back = p :: rest → n < (Passage.join front).length + p.size) :
    ∃ torn last,
      (plain ((Passage.join (front ++ back)).take n) 0 0).walk =
        ((layOut 0 0 (front.map Passage.logged)).map .ok ++ torn, last) ∧
      last.offset = (Passage.join front).length ∧ last.next.1 = none ∧
      (((Passage.join front).length = n ∧ torn = []) ∨
        ∃ p rest, back = p :: rest ∧ (Passage.join front).length < n ∧
          torn = [.error (p.entry.cutShort (n - (Passage.join front).length))]) := by
  have hcut : (Passage.join (front ++ back)).take n =
      Passage.join front ++ (Passage.join back).take (n - (Passage.join front).length) := by
    rw [Passage.join_append, List.take_append, List.take_of_length_le hle]
  rw [hcut, plain_walk_join, Nat.zero_add, Nat.zero_add]
  have hlast : ∀ index offset, (plain [] index offset).next.1 = none := by
    intro index offset
    rw [plain_next_nil]
  rcases Nat.eq_or_lt_of_le hle with hend | hlt
  · -- The cut is between two passages.
    rw [hend, Nat.sub_self, List.take_zero, plain_walk_nil]
    exact ⟨[], _, rfl, rfl, hlast _ _, .inl ⟨rfl, rfl⟩⟩
  · cases back with
    | nil =>
      rw [List.append_nil] at hn
      omega
    | cons p rest =>
      have hsize := hback p rest rfl
      have htake : (Passage.join (p :: rest)).take (n - (Passage.join front).length) =
          p.bytes.take (n - (Passage.join front).length) := by
        rw [Passage.join_cons, List.take_append_of_le_length]
        rw [Passage.length_bytes]
        omega
      rw [htake, plain_walk_torn p (by omega) (by omega)]
      exact ⟨_, _, rfl, rfl, rfl, .inr ⟨p, rest, rfl, hlt, rfl⟩⟩

theorem Writer.items_of_appendAll {records : List (Entry × Bytes)} {w : Writer}
    (h : ({ sink := {} } : Writer).appendAll records = (.ok (), w)) :
    Cursor.items (.ofBytes w.sink.held) = (layOut 0 0 records).map .ok := by
  obtain ⟨passages, rfl, hheld⟩ := appendAll_ok h
  rw [hheld]
  exact Cursor.items_join passages

theorem Writer.eq_of_held_eq {records records' : List (Entry × Bytes)} {w w' : Writer}
    (h : ({ sink := {} } : Writer).appendAll records = (.ok (), w))
    (h' : ({ sink := {} } : Writer).appendAll records' = (.ok (), w'))
    (hheld : w'.sink.held = w.sink.held) : records' = records := by
  have hitems := items_of_appendAll h'
  rw [hheld, items_of_appendAll h] at hitems
  have hlayOut := List.map_inj_right (fun _ _ => Except.ok.inj) |>.mp hitems
  rw [← map_layOut 0 0 records, hlayOut, map_layOut]

/-- Cutting a log keeps the longest front of its entries that fits. The walk ends there if the cut is
between two entries, and else in one error that tells how much of the next entry is left. Without a
cut all entries are read back, so no two logs are alike. -/
theorem Writer.walk_of_cut {records : List (Entry × Bytes)} {w : Writer}
    (h : ({ sink := {} } : Writer).appendAll records = (.ok (), w)) :
    (∀ n ≤ w.sink.held.length, ∃ k torn last,
      LongestFit records n k ∧
      (Cursor.start (.ofBytes (w.sink.held.take n))).walk =
        ((layOut 0 0 (records.take k)).map .ok ++ torn, last) ∧
      last.offset = extent (records.take k) ∧ last.next.1 = none ∧
      ((extent (records.take k) = n ∧ torn = []) ∨
        ∃ entry payload, records[k]? = some (entry, payload) ∧ extent (records.take k) < n ∧
          torn = [.error (entry.cutShort (n - extent (records.take k)))])) ∧
    Cursor.items (.ofBytes w.sink.held) = (layOut 0 0 records).map .ok ∧
    ∀ records' w', ({ sink := {} } : Writer).appendAll records' = (.ok (), w') →
      w'.sink.held = w.sink.held → records' = records := by
  refine ⟨?_, items_of_appendAll h, fun _ _ => eq_of_held_eq h⟩
  intro n hn
  obtain ⟨passages, rfl, hheld⟩ := appendAll_ok h
  obtain ⟨front, back, rfl, hle, hback⟩ := Passage.exists_cut passages n
  have hheld : w.sink.held = Passage.join (front ++ back) := hheld
  rw [hheld] at hn ⊢
  obtain ⟨torn, last, hwalk, hoffset, hnext, htorn⟩ := Cursor.plain_walk_cut hle hn hback
  have htake : ((front ++ back).map Passage.logged).take front.length =
      front.map Passage.logged := by
    rw [List.map_append, List.take_left' (List.length_map _)]
  refine ⟨front.length, torn, last, longestFit_of_cut hle hback, ?_⟩
  rw [htake, extent_logged]
  refine ⟨hwalk, hoffset, hnext, ?_⟩
  rcases htorn with hend | ⟨p, rest, rfl, hlt, htorn⟩
  · exact .inl hend
  · exact .inr ⟨p.entry, p.payload, by simp [Passage.logged], hlt, htorn⟩

def sampleRecords : List (Entry × Bytes) :=
  [(.acquire .main .normal, []), (.data .main 3 0x1000, [1, 2, 3])]

theorem Writer.walk_of_cut_sample :
    let w := (({ sink := {} } : Writer).appendAll sampleRecords).2
    ({ sink := {} } : Writer).appendAll sampleRecords = (.ok (), w) ∧ 50 ≤ w.sink.held.length ∧
      ∃ k torn last, LongestFit sampleRecords 50 k ∧
        (Cursor.start (.ofBytes (w.sink.held.take 50))).walk =
          ((layOut 0 0 (sampleRecords.take k)).map .ok ++ torn, last) ∧
        last.offset = extent (sampleRecords.take k) := by
  have hok : (({ sink := {} } : Writer).appendAll sampleRecords).1 = .ok () := by decide +kernel
  have happend : ({ sink := {} } : Writer).appendAll sampleRecords =
      (.ok (), (({ sink := {} } : Writer).appendAll sampleRecords).2) := Prod.ext hok rfl
  have hlen : 50 ≤ (({ sink := {} } : Writer).appendAll sampleRecords).2.sink.held.length := by
    decide +kernel
  obtain ⟨k, torn, last, hfit, hwalk, hoffset, _⟩ := (Writer.walk_of_cut happend).1 50 hlen
  exact ⟨happend, hlen, k, torn, last, hfit, hwalk, hoffset⟩

end Retrace.Log
