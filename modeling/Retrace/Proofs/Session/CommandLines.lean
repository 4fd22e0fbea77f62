import Retrace.Proofs.Session.FaithfulReplay

namespace Retrace

open Log

namespace Guest.CommandLine

theorem foldl_args (text : String) (args : List String) :
    args.foldl (fun text arg => text ++ " " ++ arg) text =
      text ++ args.foldl (fun text arg => text ++ " " ++ arg) "" := by
  induction args generalizing text with
  | nil => simp
  | cons arg args ih =>
    rw [List.foldl_cons, List.foldl_cons, ih, ih ("" ++ " " ++ arg)]
    simp only [String.append_assoc, String.empty_append]

theorem joined_eq_empty_iff {c : CommandLine} : c.joined = "" ↔ c = ⟨"", []⟩ := by
  obtain ⟨exe, args⟩ := c
  rw [joined, foldl_args]
  cases args with
  | nil => simp
  | cons arg args =>
    rw [List.foldl_cons, foldl_args]
    simp

end Guest.CommandLine

namespace Session

/-- An open session that records to a sink without a bound. -/
structure RecordsFreely (s : Session) : Prop where
  channel : ∃ w, s.channel = .record w ∧ w.sink.room = none
  notClosed : s.isClosed = false

theorem clientCmdline_of_long {s : Session} (h : s.RecordsFreely) {recorded : Guest.CommandLine}
    (hlong : cmdlineLimit ≤ (Utf8.encodeText recorded.joined).length) :
    s.clientCmdline recorded =
      (.error (.cmdlineTooLong (Utf8.encodeText recorded.joined).length), s) := by
  obtain ⟨⟨w, hs, _⟩, hopen⟩ := h
  rw [clientCmdline, hopen, if_neg Bool.false_ne_true, hs]
  exact if_pos hlong

def cmdlineBytes (running : ThreadId) (recorded : Guest.CommandLine) : Bytes :=
  let text := Utf8.encodeText recorded.joined
  Entry.encode ⟨running, .clientCmdline (UInt32.ofNat text.length)⟩ ++ text

theorem toNat_length_of_lt {text : Bytes} (h : text.length < cmdlineLimit) :
    (UInt32.ofNat text.length).toNat = text.length :=
  UInt32.toNat_ofNat_of_lt' (Nat.lt_trans h (by decide))

theorem clientCmdline_of_short {s : Session} (h : s.RecordsFreely) {recorded : Guest.CommandLine}
    (hshort : (Utf8.encodeText recorded.joined).length < cmdlineLimit) :
    ∃ next, s.clientCmdline recorded = (.ok recorded, next) ∧
      next.held = s.held ++ cmdlineBytes s.running recorded := by
  obtain ⟨⟨w, hs, hroom⟩, hopen⟩ := h
  have hlen : Entry.payloadLength ⟨s.running,
      .clientCmdline (UInt32.ofNat (Utf8.encodeText recorded.joined).length)⟩ =
        (Utf8.encodeText recorded.joined).length := toNat_length_of_lt hshort
  obtain ⟨w', happend, _⟩ := Writer.append_of_unbounded hroom hlen
  obtain ⟨hpayload, hheld, _⟩ := Writer.append_ok happend
  rw [clientCmdline, hopen, if_neg Bool.false_ne_true, hs]
  dsimp only
  rw [if_neg (Nat.not_le_of_lt hshort), happend]
  refine ⟨_, rfl, ?_⟩
  rw [held, held, hs]
  exact hheld

/-- A session whose whole log is a command line that is not empty reads it, whatever it is brought. -/
theorem clientCmdline_reads_back {s : Session} (h : s.Replays) (hopen : s.isClosed = false)
    {recorded : Guest.CommandLine} (hne : recorded ≠ ⟨"", []⟩)
    (hshort : (Utf8.encodeText recorded.joined).length < cmdlineLimit)
    (hunread : s.unread = cmdlineBytes s.running recorded) (live : Guest.CommandLine) :
    ∃ next, s.clientCmdline live = (.ok (.parse (Utf8.encodeText recorded.joined)), next) ∧
      next.unread = [] := by
  obtain ⟨filled, hfaces, _⟩ := h.exists_faces hopen
  have hlen : (Utf8.encodeText recorded.joined).length = Entry.payloadLength ⟨s.running,
      .clientCmdline (UInt32.ofNat (Utf8.encodeText recorded.joined).length)⟩ :=
    (toNat_length_of_lt hshort).symm
  rw [hunread, ← List.append_nil (cmdlineBytes s.running recorded)] at hfaces
  have hjoined : recorded.joined ≠ "" := fun h => hne (Guest.CommandLine.joined_eq_empty_iff.mp h)
  have hfront : s.Faces ((Passage.ofEntry _ _ hlen).bytes ++ []) filled := hfaces
  obtain ⟨next, hcall, hreaches⟩ := clientCmdline_replays hfront hjoined hshort rfl live
  exact ⟨next, hcall, hreaches.faces.unread_eq⟩

theorem clientCmdline_refuses_empty {s : Session} (h : s.Replays) (hopen : s.isClosed = false)
    (hunread : s.unread = cmdlineBytes s.running ⟨"", []⟩) (live : Guest.CommandLine) :
    (s.clientCmdline live).1 = .error (.desync (.cmdlineLength 0)) := by
  obtain ⟨rest, offset, resolved, hs⟩ := h
  let p : Passage := .ofEntry ⟨s.running, .clientCmdline 0⟩ [] rfl
  have hrest : rest = p.bytes ++ [] := by
    rw [unread, hs] at hunread
    rw [List.append_nil]
    exact hunread
  have hsettle : Entry.settle ⟨s.running, .clientCmdline 0⟩ p.entry = .ok p.entry :=
    Entry.settle_eq_ok_iff.mpr ⟨rfl, rfl, .clientCmdline 0 0⟩
  have hresolve : ((Reader.plain (p.bytes ++ []) offset resolved).resolveCmdline
      ⟨s.running, .clientCmdline 0⟩).1 = .error (.cmdlineLength 0) := by
    rw [Reader.resolveCmdline, if_neg (fun h => h rfl), Reader.settleNext_passage, hsettle]
    rfl
  rw [clientCmdline, hopen, if_neg Bool.false_ne_true, hs, hrest]
  dsimp only
  split <;> rename_i hanswer
  · rw [hanswer] at hresolve
    cases hresolve
  · rw [hanswer] at hresolve
    cases hresolve
    rfl

/-- Recording takes a command line if its text has fewer than 4096 bytes, and else writes nothing. A
session that replays what was written gives the command line back, whatever it is brought, with one
exception: the command line without a text, which recording takes and replaying refuses. -/
theorem cmdline_read_back_unless_empty {s : Session} (h : s.RecordsFreely)
    (recorded : Guest.CommandLine) :
    let text := Utf8.encodeText recorded.joined
    ((s.clientCmdline recorded).1.isOk ↔ text.length < 4096) ∧
    ((s.clientCmdline recorded).1 = .error (.cmdlineTooLong text.length) ↔ 4096 ≤ text.length) ∧
    (4096 ≤ text.length → (s.clientCmdline recorded).2 = s) ∧
    ((s.clientCmdline recorded).1.isOk →
      ∃ written, (s.clientCmdline recorded).2.held = s.held ++ written ∧
        ∀ (replay : Session) (live : Guest.CommandLine), replay.Replays →
          replay.isClosed = false → replay.running = s.running → replay.unread = written →
          if recorded = ⟨"", []⟩ then
            (replay.clientCmdline live).1 = .error (.desync (.cmdlineLength 0))
          else
            (replay.clientCmdline live).1 = .ok (.parse text) ∧
              (replay.clientCmdline live).2.unread = []) := by
  rcases Nat.lt_or_ge (Utf8.encodeText recorded.joined).length 4096 with hshort | hlong
  · obtain ⟨next, hcall, hheld⟩ := clientCmdline_of_short h hshort
    rw [hcall]
    refine ⟨⟨fun _ => hshort, fun _ => rfl⟩, ⟨nofun, ?_⟩, ?_, ?_⟩
    · intro hlong
      exact absurd hshort (Nat.not_lt.mpr hlong)
    · intro hlong
      exact absurd hshort (Nat.not_lt.mpr hlong)
    · intro _
      refine ⟨_, hheld, ?_⟩
      intro replay live hreplays hopen hrunning hunread
      rw [← hrunning] at hunread
      split
      · rename_i hempty
        rw [hempty] at hunread
        exact clientCmdline_refuses_empty hreplays hopen hunread live
      · rename_i hne
        obtain ⟨next', hcall', hrest⟩ :=
          clientCmdline_reads_back hreplays hopen hne hshort hunread live
        rw [hcall']
        exact ⟨rfl, hrest⟩
  · rw [clientCmdline_of_long h hlong]
    refine ⟨⟨nofun, ?_⟩, ⟨fun _ => hlong, fun _ => rfl⟩, fun _ => rfl, nofun⟩
    intro hshort
    exact absurd hshort (Nat.not_lt.mpr hlong)

def fresh : Session := recording {} {}

theorem fresh_recordsFreely : fresh.RecordsFreely := ⟨⟨{ sink := {} }, rfl, rfl⟩, rfl⟩

theorem cmdline_read_back_sample :
    fresh.RecordsFreely ∧ ∃ written,
      (fresh.clientCmdline ⟨"ls", ["-l"]⟩).2.held = written ∧
      ((replaying (.ofBytes written) {}).clientCmdline ⟨"cat", []⟩).1 = .ok ⟨"ls", ["-l"]⟩ ∧
      ((replaying (.ofBytes written) {}).clientCmdline ⟨"cat", []⟩).2.unread = [] := by
  obtain ⟨hshort, _, _, hback⟩ :=
    cmdline_read_back_unless_empty fresh_recordsFreely ⟨"ls", ["-l"]⟩
  obtain ⟨written, hheld, hreplay⟩ := hback (hshort.mpr (by decide +kernel))
  have hparse : Guest.CommandLine.parse (Utf8.encodeText (Guest.CommandLine.joined ⟨"ls", ["-l"]⟩)) =
      ⟨"ls", ["-l"]⟩ := by
    decide +kernel
  have hread := hreplay (replaying (.ofBytes written) {}) ⟨"cat", []⟩ ⟨written, 0, 0, rfl⟩ rfl rfl rfl
  rw [if_neg (by decide), hparse] at hread
  exact ⟨fresh_recordsFreely, written, hheld, hread⟩

/-- A command line that is recorded and cannot be replayed: no program and no arguments. -/
theorem empty_cmdline_lost :
    (fresh.clientCmdline ⟨"", []⟩).1 = .ok ⟨"", []⟩ ∧
      ((replaying (.ofBytes (fresh.clientCmdline ⟨"", []⟩).2.held) {}).clientCmdline ⟨"", []⟩).1 =
        .error (.desync (.cmdlineLength 0)) := by
  decide +kernel

end Session

end Retrace
