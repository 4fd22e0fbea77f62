import Mathlib.Data.List.Chain
import Retrace.Log.Entry

namespace Retrace

open Log

/-- Whether a call logs an entry of the kind with no other one behind it. -/
def Log.Kind.standsAlone : Kind → Bool
  | syscallArgs | initClientStack | acquire | release => false
  | _ => true

/-- Entries that a thread logs by its calls. -/
inductive Log.Stretch (runner : ThreadId) : List Entry → Prop
  | nil : Stretch runner []
  | single {body : Body} {rest : List Entry} (alone : body.kind.standsAlone = true)
      (behind : Stretch runner rest) : Stretch runner (⟨runner, body⟩ :: rest)
  | syscallArgs {sysno : UInt32} {len : Nat} {rest : List Entry} (behind : Stretch runner rest) :
    Stretch runner (.syscallArgs runner sysno :: .snapshot runner len :: rest)
  | initClientStack {size : UInt32} {auxv addr : UInt64} {rest : List Entry}
      (behind : Stretch runner rest) :
    Stretch runner (⟨runner, .initClientStack size auxv⟩ :: .data runner size.toNat addr :: rest)

theorem Log.Stretch.append {runner : ThreadId} {xs ys : List Entry} (h : Stretch runner xs)
    (h' : Stretch runner ys) : Stretch runner (xs ++ ys) := by
  induction h with
  | nil => exact h'
  | single halone _ ih => exact .single halone ih
  | syscallArgs _ ih => exact .syscallArgs ih
  | initClientStack _ ih => exact .initClientStack ih

/-- What may stand directly behind what in a recorded log, where nothing stands in front of the first
entry and behind the last. -/
structure Log.Follows (before after : Option Entry) : Prop where
  acquire : ∀ entry, after = some entry → entry.kind = .acquire →
    ∃ last, before = some last ∧ last.kind = .release
  release : ∀ entry, before = some entry → entry.kind = .release →
    after = none ∨ ∃ next, after = some next ∧ next.kind = .acquire
  syscallArgs : ∀ thread caller sysno, before = some ⟨thread, .syscallArgs caller sysno⟩ →
    caller = thread ∧ ∃ len, after = some (.snapshot thread len)
  initClientStack : ∀ thread size auxv, before = some ⟨thread, .initClientStack size auxv⟩ →
    ∃ addr, after = some (.data thread size.toNat addr)

def Log.InRow (before : Option Entry) (entries : List Entry) : Prop :=
  List.IsChain Follows (before :: (entries.map some ++ [none]))

/-- Behind which a call logs its entries. -/
def Log.Calm (before : Option Entry) : Prop :=
  ∀ entry ∈ before, entry.kind ≠ .release ∧ entry.kind ≠ .syscallArgs ∧ entry.kind ≠ .initClientStack

theorem Log.Calm.follows {before after : Option Entry} (h : Calm before)
    (hafter : ∀ entry ∈ after, entry.kind ≠ .acquire) : Follows before after := by
  constructor
  case acquire => exact fun entry hentry hkind => (hafter entry hentry hkind).elim
  case release => exact fun entry hentry hkind => ((h entry hentry).1 hkind).elim
  case syscallArgs => exact fun _ _ _ hentry => ((h _ hentry).2.1 rfl).elim
  case initClientStack => exact fun _ _ _ hentry => ((h _ hentry).2.2 rfl).elim

theorem Log.InRow.cons {before : Option Entry} {entry : Entry} {rest : List Entry}
    (hentry : Follows before (some entry)) (hrest : InRow (some entry) rest) :
    InRow before (entry :: rest) := .cons_cons hentry hrest

theorem Log.Kind.standsAlone_ne {kind : Kind} (h : kind.standsAlone = true) :
    kind ≠ .acquire ∧ kind ≠ .release ∧ kind ≠ .syscallArgs ∧ kind ≠ .initClientStack := by
  cases kind with
  | acquire => cases h
  | release => cases h
  | syscallArgs => cases h
  | initClientStack => cases h
  | _ => exact ⟨nofun, nofun, nofun, nofun⟩

/-- What may stand behind calm may stand behind a stretch of calls, which ends in calm. -/
theorem Log.Stretch.inRow {runner : ThreadId} {events rest : List Entry}
    (h : Stretch runner events) (hrest : ∀ before, Calm before → InRow before rest) :
    ∀ before, Calm before → InRow before (events ++ rest) := by
  have hcalm (entry : Entry) (halone : entry.kind.standsAlone = true) : Calm (some entry) := by
    rintro _ ⟨⟩
    exact (Kind.standsAlone_ne halone).2
  have hother (entry : Entry) (hkind : entry.kind ≠ .acquire) :
      ∀ entry' ∈ some entry, entry'.kind ≠ .acquire := by
    rintro _ ⟨⟩
    exact hkind
  induction h with
  | nil => exact hrest
  | single halone _ ih =>
    intro before hbefore
    have hfollows := hbefore.follows (hother ⟨runner, _⟩ (Kind.standsAlone_ne halone).1)
    exact .cons hfollows (ih _ (hcalm _ halone))
  | @syscallArgs sysno len rest' _ ih =>
    intro before hbefore
    have himage : Follows (some (.syscallArgs runner sysno)) (some (.snapshot runner len)) := by
      constructor
      case acquire => rintro _ ⟨⟩ ⟨⟩
      case release => rintro _ ⟨⟩ ⟨⟩
      case syscallArgs =>
        rintro _ _ _ ⟨⟩
        exact ⟨rfl, len, rfl⟩
      case initClientStack => nofun
    exact .cons (hbefore.follows (hother _ nofun)) (.cons himage (ih _ (hcalm _ rfl)))
  | @initClientStack size auxv addr rest' _ ih =>
    intro before hbefore
    have hstack : Follows (some ⟨runner, .initClientStack size auxv⟩)
        (some (.data runner size.toNat addr)) := by
      constructor
      case acquire => rintro _ ⟨⟩ ⟨⟩
      case release => rintro _ ⟨⟩ ⟨⟩
      case syscallArgs => nofun
      case initClientStack =>
        rintro _ _ _ ⟨⟩
        exact ⟨addr, rfl⟩
    exact .cons (hbefore.follows (hother _ nofun)) (.cons hstack (ih _ (hcalm _ rfl)))

theorem Log.follows_release {thread : ThreadId} {tag : ReleaseTag} {after : Option Entry}
    (h : after = none ∨ ∃ next, after = some next ∧ next.kind = .acquire) :
    Follows (some (.release thread tag)) after where
  acquire := fun _ _ _ => ⟨_, rfl, rfl⟩
  release := fun _ _ _ => h
  syscallArgs := nofun
  initClientStack := nofun

end Retrace
