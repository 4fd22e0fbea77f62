import Retrace.Proofs.Log.Succession
import Retrace.Session.Schedule

namespace Retrace

open Log

/-- What a thread logs while it runs. A turn that goes on has no release yet. -/
structure Turn.Logged where
  runner : ThreadId
  callerClass : CallerClass
  events : List Entry
  tag : Option ReleaseTag
  stretch : Stretch runner events

namespace Turn.Logged

def entries (turn : Logged) : List Entry :=
  turn.events ++ (turn.tag.map (Entry.release turn.runner)).toList

def announced (turn : Logged) : List Entry :=
  .acquire turn.runner turn.callerClass :: turn.entries

def admission (turn : Logged) : ThreadId × CallerClass := (turn.runner, turn.callerClass)

def begin (runner : ThreadId) (callerClass : CallerClass) : Logged :=
  ⟨runner, callerClass, [], none, .nil⟩

def log (turn : Logged) (more : List Entry) (h : Stretch turn.runner more) : Logged :=
  { turn with events := turn.events ++ more, stretch := turn.stretch.append h }

def finish (turn : Logged) (tag : ReleaseTag) : Logged := { turn with tag := some tag }

theorem entries_log {turn : Logged} {more : List Entry} (h : Stretch turn.runner more)
    (hgoesOn : turn.tag = none) : (turn.log more h).entries = turn.entries ++ more := by
  rw [entries, entries, log, hgoesOn]
  exact (List.append_nil _).trans (congrArg (· ++ more) (List.append_nil _).symm)

theorem entries_finish {turn : Logged} (hgoesOn : turn.tag = none) (tag : ReleaseTag) :
    (turn.finish tag).entries = turn.entries ++ [.release turn.runner tag] := by
  rw [entries, entries, finish, hgoesOn]
  exact congrArg (· ++ [Entry.release turn.runner tag]) (List.append_nil _).symm

end Turn.Logged

/-- The entries of a log by turns. The first turn is not announced. -/
def Log.byTurns (setup : List Entry) : List Turn.Logged → List Entry
  | [] => setup
  | first :: later => setup ++ first.entries ++ later.flatMap Turn.Logged.announced

/-- What is told by a recorded log: what nobody logged in front of the first turn, which is that of the
main thread, and the turns. None but the last may go on. -/
structure Chronicle where
  setup : List Entry
  turns : List Turn.Logged
  quiet : Stretch .nobody setup
  main_first : ∀ first ∈ turns.head?, first.runner = .main
  ended : ∀ turn ∈ turns.dropLast, turn.tag.isSome

namespace Chronicle

def blank : Chronicle where
  setup := []
  turns := []
  quiet := .nil
  main_first := by
    intro first h
    cases h
  ended := by
    intro turn h
    cases h

def entries (c : Chronicle) : List Entry := byTurns c.setup c.turns

def admissions (c : Chronicle) : List (ThreadId × CallerClass) :=
  c.turns.map Turn.Logged.admission

def setUp (c : Chronicle) (more : List Entry) (h : Stretch .nobody more) : Chronicle :=
  { c with setup := c.setup ++ more, quiet := c.quiet.append h }

theorem entries_setUp {c : Chronicle} {more : List Entry} (h : Stretch .nobody more)
    (hturns : c.turns = []) : (c.setUp more h).entries = c.entries ++ more := by
  change byTurns (c.setup ++ more) c.turns = byTurns c.setup c.turns ++ more
  rw [hturns]
  rfl

def begin (c : Chronicle) (turn : Turn.Logged) (hmain : c.turns = [] → turn.runner = .main)
    (hended : ∀ turn ∈ c.turns, turn.tag.isSome) : Chronicle where
  setup := c.setup
  turns := c.turns ++ [turn]
  quiet := c.quiet
  main_first := by
    have hfirst := c.main_first
    cases hturns : c.turns with
    | nil =>
      intro first h
      cases Option.mem_some.mp h
      exact hmain hturns
    | cons first later =>
      rw [hturns] at hfirst
      exact hfirst
  ended := by
    rw [List.dropLast_concat]
    exact hended

def goOn (c : Chronicle) {earlier : List Turn.Logged} {current : Turn.Logged}
    (hturns : c.turns = earlier ++ [current]) (turn : Turn.Logged)
    (hrunner : turn.runner = current.runner) : Chronicle where
  setup := c.setup
  turns := earlier ++ [turn]
  quiet := c.quiet
  main_first := by
    have hfirst := c.main_first
    rw [hturns] at hfirst
    cases earlier with
    | nil =>
      intro first h
      cases Option.mem_some.mp h
      exact hrunner.trans (hfirst current rfl)
    | cons first later => exact hfirst
  ended := by
    have hended := c.ended
    rw [hturns, List.dropLast_concat] at hended
    rw [List.dropLast_concat]
    exact hended

theorem byTurns_concat (setup : List Entry) {turns : List Turn.Logged} (h : turns ≠ [])
    (turn : Turn.Logged) :
    byTurns setup (turns ++ [turn]) = byTurns setup turns ++ turn.announced := by
  cases turns with
  | nil => cases h rfl
  | cons first later =>
    simp only [byTurns, List.cons_append, List.flatMap_append, List.flatMap_singleton,
      List.append_assoc]

theorem entries_goOn {c : Chronicle} {earlier : List Turn.Logged} {current turn : Turn.Logged}
    (hturns : c.turns = earlier ++ [current]) (hadmission : turn.admission = current.admission)
    {more : List Entry} (hentries : turn.entries = current.entries ++ more) :
    (c.goOn hturns turn (congrArg Prod.fst hadmission)).entries = c.entries ++ more := by
  have hannounced : turn.announced = current.announced ++ more := by
    obtain ⟨hrunner, hclass⟩ := Prod.mk.inj hadmission
    rw [Turn.Logged.announced, Turn.Logged.announced, hentries, hrunner, hclass]
    rfl
  rw [entries, entries, hturns]
  change byTurns c.setup (earlier ++ [turn]) = byTurns c.setup (earlier ++ [current]) ++ more
  cases earlier with
  | nil =>
    change c.setup ++ turn.entries ++ [] = c.setup ++ current.entries ++ [] ++ more
    rw [hentries, List.append_nil, List.append_nil, List.append_assoc]
  | cons first later =>
    have hne : first :: later ≠ [] := List.cons_ne_nil _ _
    rw [byTurns_concat _ hne, byTurns_concat _ hne, hannounced, List.append_assoc]

theorem admissions_goOn {c : Chronicle} {earlier : List Turn.Logged} {current turn : Turn.Logged}
    (hturns : c.turns = earlier ++ [current]) (hadmission : turn.admission = current.admission) :
    (c.goOn hturns turn (congrArg Prod.fst hadmission)).admissions = c.admissions := by
  have hlast : (earlier ++ [turn]).map Turn.Logged.admission =
      (earlier ++ [current]).map Turn.Logged.admission := by
    rw [List.map_append, List.map_append, List.map_singleton, List.map_singleton, hadmission]
  rw [admissions, admissions, hturns]
  exact hlast

end Chronicle

theorem Turn.Logged.inRow {turn : Logged} {rest : List Entry} (hopen : turn.tag = none → rest = [])
    (hrest : ∀ tag, InRow (some (.release turn.runner tag)) rest) :
    ∀ before, Calm before → InRow before (turn.entries ++ rest) := by
  intro before hbefore
  rw [entries, List.append_assoc]
  apply turn.stretch.inRow _ before hbefore
  intro before hbefore
  cases htag : turn.tag with
  | none =>
    rw [hopen htag]
    exact .cons_cons (hbefore.follows nofun) (.singleton _)
  | some tag =>
    have hrelease : Follows before (some (.release turn.runner tag)) := by
      apply hbefore.follows
      rintro _ ⟨⟩
      exact nofun
    exact .cons hrelease (hrest tag)

theorem Turn.Logged.ended_cons {turn : Logged} {later : List Logged}
    (h : ∀ ended ∈ (turn :: later).dropLast, ended.tag.isSome) :
    (turn.tag = none → later = []) ∧ ∀ ended ∈ later.dropLast, ended.tag.isSome := by
  cases later with
  | nil => exact ⟨fun _ => rfl, nofun⟩
  | cons next later =>
    constructor
    · intro htag
      have hsome := h turn List.mem_cons_self
      rw [htag] at hsome
      cases hsome
    · exact fun ended hmem => h ended (List.mem_cons_of_mem _ hmem)

theorem Turn.Logged.inRow_later {later : List Logged} (thread : ThreadId) (tag : ReleaseTag)
    (hended : ∀ turn ∈ later.dropLast, turn.tag.isSome) :
    InRow (some (.release thread tag)) (later.flatMap announced) := by
  induction later generalizing thread tag with
  | nil => exact .cons_cons (follows_release (.inl rfl)) (.singleton _)
  | cons turn later ih =>
    obtain ⟨hopen, hlater⟩ := ended_cons hended
    have hacquire : Calm (some (.acquire turn.runner turn.callerClass)) := by
      rintro _ ⟨⟩
      exact ⟨nofun, nofun, nofun⟩
    apply InRow.cons (follows_release (.inr ⟨_, rfl, rfl⟩))
    apply turn.inRow _ _ _ hacquire
    · intro htag
      rw [hopen htag]
      rfl
    · exact fun tag => ih turn.runner tag hlater

/-- In a recorded log an acquisition stands directly behind a release and a release in front of an
acquisition, and two entries of one call stand together. -/
theorem Chronicle.inRow (c : Chronicle) : InRow none c.entries := by
  have hended := c.ended
  have hcalm : Calm none := nofun
  rw [entries]
  cases hturns : c.turns with
  | nil =>
    rw [byTurns, ← List.append_nil c.setup]
    apply c.quiet.inRow _ none hcalm
    exact fun before hbefore => .cons_cons (hbefore.follows nofun) (.singleton _)
  | cons first later =>
    rw [hturns] at hended
    obtain ⟨hopen, hlater⟩ := Turn.Logged.ended_cons hended
    rw [byTurns, List.append_assoc]
    apply c.quiet.inRow _ none hcalm
    apply first.inRow
    · intro htag
      rw [hopen htag]
      rfl
    · exact fun tag => Turn.Logged.inRow_later first.runner tag hlater

end Retrace
