import Mathlib.Data.List.Nodup
import Retrace.Inspect.Statistics
import Retrace.Proofs.Log.Walking

namespace Retrace.Inspect

namespace Counts

/-- Counts say how often each name stands in a list: each is there once, in the order in which the names
first occur. -/
structure Tally (names : List String) (counts : Counts) : Prop where
  nodup : counts.names.Nodup
  mem_iff : ∀ name, name ∈ counts.names ↔ name ∈ names
  inOrder : counts.names.Pairwise fun a b => names.idxOf a < names.idxOf b
  value_eq : ∀ entry ∈ counts, entry.2 = names.count entry.1
  total_eq : counts.total = names.length

theorem names_append (front back : Counts) : (front ++ back).names = front.names ++ back.names :=
  List.map_append

theorem add_cases (name : String) (counts : Counts) :
    (name ∉ counts.names ∧ counts.add name = counts ++ [(name, 1)]) ∨
      ∃ front n back, counts = front ++ (name, n) :: back ∧
        counts.add name = front ++ (name, n + 1) :: back := by
  induction counts with
  | nil => exact .inl ⟨List.not_mem_nil, rfl⟩
  | cons first rest ih =>
    obtain ⟨key, n⟩ := first
    by_cases h : key = name
    · subst h
      exact .inr ⟨[], n, rest, rfl, if_pos rfl⟩
    · have hadd : add name ((key, n) :: rest) = (key, n) :: add name rest := if_neg h
      rcases ih with ⟨hnew, hrest⟩ | ⟨front, m, back, rfl, hrest⟩
      · apply Or.inl
        constructor
        · intro hmem
          rcases List.mem_cons.mp hmem with hfirst | hbehind
          · exact h hfirst.symm
          · exact hnew hbehind
        · rw [hadd, hrest]
          rfl
      · refine .inr ⟨(key, n) :: front, m, back, rfl, ?_⟩
        rw [hadd, hrest]
        rfl

section tally

variable {names : List String} {counts : Counts}

theorem tally_nil : Tally [] [] where
  nodup := List.nodup_nil
  mem_iff := fun _ => Iff.rfl
  inOrder := List.Pairwise.nil
  value_eq := nofun
  total_eq := rfl

theorem Tally.inOrder_add (h : Tally names counts) (name : String) :
    (counts.add name).names.Pairwise fun a b =>
      (names ++ [name]).idxOf a < (names ++ [name]).idxOf b := by
  have hknown : counts.names.Pairwise fun a b =>
      (names ++ [name]).idxOf a < (names ++ [name]).idxOf b := by
    apply h.inOrder.imp_of_mem
    intro a b ha hb hlt
    rw [List.idxOf_append_of_mem ((h.mem_iff a).mp ha), List.idxOf_append_of_mem ((h.mem_iff b).mp hb)]
    exact hlt
  rw [names_add]
  split
  · exact hknown
  · rename_i hnew
    apply List.pairwise_append.mpr
    refine ⟨hknown, List.pairwise_singleton _ _, ?_⟩
    intro a ha b hb
    have hbefore : a ∈ names := (h.mem_iff a).mp ha
    have hlast : name ∉ names := fun hmem => hnew ((h.mem_iff name).mpr hmem)
    rw [List.mem_singleton.mp hb, List.idxOf_append_of_mem hbefore, List.idxOf_append_of_notMem hlast]
    exact Nat.lt_add_right _ (List.idxOf_lt_length_iff.mpr hbefore)

theorem Tally.value_add (h : Tally names counts) (name : String) :
    ∀ entry ∈ counts.add name, entry.2 = (names ++ [name]).count entry.1 := by
  have hother {entry : String × Nat} (hmem : entry ∈ counts) (hne : entry.1 ≠ name) :
      entry.2 = (names ++ [name]).count entry.1 := by
    rw [List.count_append, List.count_singleton, if_neg (by simpa using hne.symm), Nat.add_zero]
    exact h.value_eq entry hmem
  intro entry hentry
  rcases add_cases name counts with ⟨hnew, hadd⟩ | ⟨front, n, back, hcounts, hadd⟩
  · rw [hadd] at hentry
    rcases List.mem_append.mp hentry with hmem | hmem
    · apply hother hmem
      rintro rfl
      exact hnew (List.mem_map_of_mem hmem)
    · have hzero : names.count name = 0 :=
        List.count_eq_zero.mpr (fun hmem => hnew ((h.mem_iff name).mpr hmem))
      rw [List.mem_singleton.mp hmem, List.count_append, hzero, List.count_singleton_self]
  · have hnodup := h.nodup
    rw [hcounts, names_append] at hnodup
    obtain ⟨_, hback, hfront⟩ := List.nodup_append.mp hnodup
    rw [hadd] at hentry
    rcases List.mem_append.mp hentry with hmem | hlater
    · apply hother (hcounts ▸ List.mem_append_left _ hmem)
      exact hfront _ (List.mem_map_of_mem hmem) name List.mem_cons_self
    · rcases List.mem_cons.mp hlater with rfl | hmem
      · have hvalue := h.value_eq (name, n) (hcounts ▸ List.mem_append_right _ List.mem_cons_self)
        rw [List.count_append, List.count_singleton_self, ← hvalue]
      · apply hother (hcounts ▸ List.mem_append_right _ (List.mem_cons_of_mem _ hmem))
        have hbehind : entry.1 ∈ Counts.names back := List.mem_map_of_mem hmem
        intro hname
        rw [hname] at hbehind
        exact (List.nodup_cons.mp hback).1 hbehind

theorem Tally.add (h : Tally names counts) (name : String) :
    Tally (names ++ [name]) (counts.add name) where
  nodup := by
    rw [names_add]
    split
    · exact h.nodup
    · rename_i hnew
      apply List.nodup_append.mpr
      refine ⟨h.nodup, List.nodup_singleton _, ?_⟩
      intro a ha b hb
      rw [List.mem_singleton.mp hb]
      rintro rfl
      exact hnew ha
  mem_iff := by
    intro other
    rw [names_add, List.mem_append, List.mem_singleton]
    split
    · rename_i hknown
      rw [h.mem_iff]
      constructor
      · exact .inl
      · rintro (hmem | rfl)
        · exact hmem
        · exact (h.mem_iff _).mp hknown
    · rw [List.mem_append, List.mem_singleton, h.mem_iff]
  inOrder := h.inOrder_add name
  value_eq := h.value_add name
  total_eq := by
    rw [total_add, h.total_eq, List.length_append, List.length_singleton]

def addAll (counts : Counts) (more : List String) : Counts :=
  more.foldl (fun counts name => counts.add name) counts

theorem Tally.addAll (h : Tally names counts) (more : List String) :
    Tally (names ++ more) (counts.addAll more) := by
  induction more generalizing names counts with
  | nil =>
    rw [List.append_nil]
    exact h
  | cons name more ih =>
    have hmore := ih (h.add name)
    rw [List.append_assoc] at hmore
    exact hmore

theorem tally_addAll (names : List String) : Tally names (addAll [] names) := tally_nil.addAll names

theorem Tally.lookup_eq (h : Tally names counts) (name : String) :
    (counts.lookup name).getD 0 = names.count name := by
  cases hlookup : counts.lookup name with
  | none =>
    have habsent : name ∉ names := by
      intro hmem
      obtain ⟨entry, hentry, rfl⟩ := List.mem_map.mp ((h.mem_iff name).mpr hmem)
      have hne := List.lookup_eq_none_iff.mp hlookup entry hentry
      exact absurd hne (by simp)
    exact (List.count_eq_zero.mpr habsent).symm
  | some n =>
    obtain ⟨front, back, hcounts, _⟩ := List.lookup_eq_some_iff.mp hlookup
    exact h.value_eq (name, n) (hcounts ▸ List.mem_append_right _ List.mem_cons_self)

end tally

end Counts

end Retrace.Inspect

namespace Retrace.Log.Entry

def releasedAs? (e : Entry) : Option String :=
  match e.body with
  | .release tag => some tag.text
  | _ => none

theorem isSome_releasedAs? (e : Entry) : e.releasedAs?.isSome = (e.kind.name == "release") := by
  obtain ⟨thread, body⟩ := e
  cases body <;> rfl

end Retrace.Log.Entry

namespace Retrace.Inspect.Statistics

open Log

theorem foldl_add (s : Statistics) (entries : List Entry) :
    entries.foldl add s =
      { s with
        entries := s.entries + entries.length
        byKind := s.byKind.addAll (entries.map (·.kind.name))
        byThread := s.byThread.addAll (entries.map (·.thread.text))
        releases := s.releases.addAll (entries.filterMap (·.releasedAs?)) } := by
  induction entries generalizing s with
  | nil => rfl
  | cons e entries ih =>
    have hlength : s.entries + 1 + entries.length = s.entries + (entries.length + 1) := by omega
    rw [List.foldl_cons, ih, List.length_cons, ← hlength]
    obtain ⟨thread, body⟩ := e
    cases body <;> rfl

/-- Statistics tell of the entries that were found, in order, and of the error behind them. -/
structure TellOf (found : List Recorded) (ending : Option LogError) (s : Statistics) : Prop where
  entries_eq : s.entries = found.length
  bytes_eq : s.bytes = (found.getLast?.map Recorded.stop).getD 0
  byKind : Counts.Tally (found.map (·.entry.kind.name)) s.byKind
  byThread : Counts.Tally (found.map (·.entry.thread.text)) s.byThread
  releases : Counts.Tally (found.filterMap (·.entry.releasedAs?)) s.releases
  sum_byKind : s.byKind.total = s.entries
  sum_byThread : s.byThread.total = s.entries
  sum_releases : s.releases.total = (s.byKind.lookup "release").getD 0
  error_eq : s.error = ending

theorem foldl_addItem {items : List (Except LogError Recorded)} {found : List Recorded}
    {ending : Option LogError} (h : items = found.map .ok ++ (ending.map .error).toList) :
    items.foldl addItem {} =
      { entries := found.length
        byKind := Counts.addAll [] (found.map (·.entry.kind.name))
        byThread := Counts.addAll [] (found.map (·.entry.thread.text))
        releases := Counts.addAll [] (found.filterMap (·.entry.releasedAs?))
        error := ending } := by
  have hfound : (found.map .ok).foldl addItem {} = (found.map (·.entry)).foldl add {} := by
    rw [List.foldl_map, List.foldl_map]
    rfl
  rw [h, List.foldl_append, hfound, foldl_add, List.map_map, List.map_map, List.filterMap_map,
    List.length_map, Nat.zero_add]
  cases ending with
  | none => rfl
  | some e => rfl

theorem count_release (found : List Recorded) :
    (found.map (·.entry.kind.name)).count "release" = (found.filterMap (·.entry.releasedAs?)).length := by
  rw [List.length_filterMap_eq_countP, List.count_eq_countP, List.countP_map]
  apply List.countP_congr
  intro r _
  rw [Function.comp_apply, Entry.isSome_releasedAs?]

/-- Statistics are made of the entries of a walk, of the place where it ended, and of the error there. -/
theorem ofSource_eq {source : Source} {found : List Recorded} {ending : Option LogError}
    (h : Cursor.items source = found.map .ok ++ (ending.map .error).toList) :
    ofSource source =
      ({ entries := found.length
         bytes := (Cursor.start source).walk.2.offset
         byKind := Counts.addAll [] (found.map (·.entry.kind.name))
         byThread := Counts.addAll [] (found.map (·.entry.thread.text))
         releases := Counts.addAll [] (found.filterMap (·.entry.releasedAs?))
         error := ending }, (ending.map .malformedTail).toList) := by
  have hsource : ofSource source =
      ({ (Cursor.items source).foldl addItem {} with bytes := (Cursor.start source).walk.2.offset },
        ((Cursor.items source).foldl addItem {}).error.toList.map .malformedTail) := rfl
  rw [hsource, foldl_addItem h]
  cases ending with
  | none => rfl
  | some e => rfl

/-- The statistics of a log are exact, whatever the log holds and however it is read: they count every
entry that is found once, and report the error behind the entries with one warning. -/
theorem ofSource_exact (source : Source) :
    ∃ (found : List Recorded) (ending : Option LogError),
      Cursor.items source = found.map .ok ++ (ending.map .error).toList ∧
      TellOf found ending (ofSource source).1 ∧
      (ofSource source).2 = (ending.map .malformedTail).toList := by
  obtain ⟨found, ending, hitems, hoffset, _⟩ := (Cursor.start source).walk_found
  have hkinds : Counts.Tally (found.map (·.entry.kind.name)) _ := Counts.tally_addAll _
  have hthreads : Counts.Tally (found.map (·.entry.thread.text)) _ := Counts.tally_addAll _
  have hreleases : Counts.Tally (found.filterMap (·.entry.releasedAs?)) _ := Counts.tally_addAll _
  refine ⟨found, ending, hitems, ?_, ?_⟩
  · rw [ofSource_eq hitems, hoffset]
    constructor
    case entries_eq => rfl
    case bytes_eq => rfl
    case byKind => exact hkinds
    case byThread => exact hthreads
    case releases => exact hreleases
    case sum_byKind => rw [hkinds.total_eq, List.length_map]
    case sum_byThread => rw [hthreads.total_eq, List.length_map]
    case sum_releases => rw [hreleases.total_eq, hkinds.lookup_eq, count_release]
    case error_eq => rfl
  · rw [ofSource_eq hitems]

end Retrace.Inspect.Statistics
