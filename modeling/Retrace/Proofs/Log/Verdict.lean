import Retrace.Proofs.Log.Cutting

namespace Retrace.Log

/-- Why the fields of a recorded body do not go with those of a template of its kind. -/
inductive Body.Clash : Body → Body → Desync → Prop
  | sysno {caller caller' : ThreadId} {sysno sysno' : UInt32} (h : sysno ≠ sysno') :
    Clash (.syscallArgs caller sysno) (.syscallArgs caller' sysno') (.syscallMismatch sysno sysno')
  /-- The system call goes before the thread that makes it. -/
  | caller {caller caller' : ThreadId} {sysno : UInt32} (h : caller ≠ caller') :
    Clash (.syscallArgs caller sysno) (.syscallArgs caller' sysno)
      (.threadMismatch .syscallArgs caller caller')
  | tag {tag tag' : ReleaseTag} (h : tag.bytes ≠ tag'.bytes) :
    Clash (.release tag) (.release tag') (.releaseTagMismatch tag tag')
  | phase {before before' : Bool} {counter counter' : UInt64} (h : before ≠ before') :
    Clash (.dispatchCounter before counter) (.dispatchCounter before' counter')
      (.dispatchPhaseMismatch before before')
  /-- Only the recorded slot must be in the tables. -/
  | child {child child' : ThreadId} {kernel kernel' : KernelTid} (h : slotLimit ≤ child'.index) :
    Clash (.threadCreate child kernel) (.threadCreate child' kernel') (.slotOutOfRange child'.slot)
  | holder {holder holder' : ThreadId} {callerClass callerClass' : CallerClass}
      (h : slotLimit ≤ holder'.index) :
    Clash (.acquire holder callerClass) (.acquire holder' callerClass') (.slotOutOfRange holder'.slot)
  | dataLength {len len' addr addr' : UInt64} (h : len ≠ len') :
    Clash (.data len addr) (.data len' addr') (.lengthMismatch .data len len')
  | imageLength {len len' : UInt64} (h : len ≠ len') :
    Clash (.snapshot len) (.snapshot len') (.lengthMismatch .snapshot len len')

/-- The thread whose slot an entry names besides its header. -/
def Body.named? : Body → Option ThreadId
  | threadCreate child _ => some child
  | acquire holder _ => some holder
  | _ => none

namespace Body

theorem Clash.settle {template recorded : Body} {e : Desync} (h : Clash template recorded e) :
    template.settle recorded = .error e := by
  cases h with
  | sysno h => exact if_pos h
  | caller h => exact (if_neg (fun hne => hne rfl)).trans (if_pos h)
  | tag h => exact if_pos (fun heq => h (congrArg ReleaseTag.bytes heq))
  | phase h => exact if_pos h
  | child h => exact if_neg (Nat.not_lt.mpr h)
  | holder h => exact if_neg (Nat.not_lt.mpr h)
  | dataLength h => exact if_pos h
  | imageLength h => exact if_pos h

theorem clash_or_settles {template recorded : Body} (hkind : recorded.kind = template.kind) :
    (∃ e, Clash template recorded e) ∨ ∃ result, Settles template recorded result := by
  cases template <;> cases recorded <;> cases hkind
  case syscallArgs.syscallArgs caller sysno caller' sysno' =>
    by_cases hsysno : sysno = sysno'
    · by_cases hcaller : caller = caller'
      · subst hsysno hcaller
        exact .inr ⟨_, .syscallArgs _ _⟩
      · subst hsysno
        exact .inl ⟨_, .caller hcaller⟩
    · exact .inl ⟨_, .sysno hsysno⟩
  case dispatchCounter.dispatchCounter before counter before' counter' =>
    by_cases hphase : before = before'
    · subst hphase
      exact .inr ⟨_, .dispatchCounter _ _ _⟩
    · exact .inl ⟨_, .phase hphase⟩
  case threadCreate.threadCreate child kernel child' kernel' =>
    by_cases hslot : child'.index < slotLimit
    · exact .inr ⟨_, .threadCreate _ _ _ _ hslot⟩
    · exact .inl ⟨_, .child (Nat.le_of_not_lt hslot)⟩
  case acquire.acquire holder callerClass holder' callerClass' =>
    by_cases hslot : holder'.index < slotLimit
    · exact .inr ⟨_, .acquire _ _ _ _ hslot⟩
    · exact .inl ⟨_, .holder (Nat.le_of_not_lt hslot)⟩
  case release.release tag tag' =>
    by_cases htag : tag = tag'
    · subst htag
      exact .inr ⟨_, .release _⟩
    · refine .inl ⟨_, .tag ?_⟩
      intro hbytes
      cases tag
      cases tag'
      cases hbytes
      exact htag rfl
  case data.data len addr len' addr' =>
    by_cases hlen : len = len'
    · subst hlen
      exact .inr ⟨_, .data _ _ _⟩
    · exact .inl ⟨_, .dataLength hlen⟩
  case snapshot.snapshot len len' =>
    by_cases hlen : len = len'
    · subst hlen
      exact .inr ⟨_, .snapshot _⟩
    · exact .inl ⟨_, .imageLength hlen⟩
  all_goals
    right
    constructor
    constructor

theorem settle_eq_error_iff {template recorded : Body} (hkind : recorded.kind = template.kind)
    {e : Desync} : template.settle recorded = .error e ↔ Clash template recorded e := by
  constructor
  · intro h
    rcases clash_or_settles hkind with ⟨e', hclash⟩ | ⟨result, hsettles⟩
    · cases h.symm.trans hclash.settle
      exact hclash
    · cases h.symm.trans hsettles.settle
  · exact Clash.settle

theorem kind_ne_of_kindMismatch {template recorded : Body} {expected found : Kind}
    (h : template.settle recorded = .error (.kindMismatch expected found)) :
    recorded.kind ≠ template.kind := by
  intro hkind
  cases (settle_eq_error_iff hkind).mp h

/-- What a template becomes is what was recorded; only of data it keeps its own place. -/
theorem Settles.result_eq {template recorded result : Body} (h : Settles template recorded result) :
    result = if template.kind = .data then template else recorded := by
  cases h with
  | data => exact (if_pos rfl).symm
  | _ => exact (if_neg Kind.noConfusion).symm

theorem Settles.not_clash {template recorded result : Body} (h : Settles template recorded result)
    (e : Desync) : ¬Clash template recorded e := by
  intro hclash
  cases h.settle.symm.trans hclash.settle

theorem settle_self_iff (body : Body) :
    body.settle body = .ok body ↔ ∀ thread ∈ body.named?, thread.index < slotLimit := by
  have hslot (thread : ThreadId) (hsettle : body.settle body = checkSlot thread body)
      (hnamed : body.named? = some thread) :
      body.settle body = .ok body ↔ ∀ thread ∈ body.named?, thread.index < slotLimit := by
    rw [hsettle, checkSlot, hnamed]
    split <;> rename_i hlt
    · refine iff_of_true rfl ?_
      intro other hother
      cases hother
      exact hlt
    · refine iff_of_false ?_ (fun h => hlt (h thread rfl))
      intro hok
      cases hok
  have hfree (hsettle : Settles body body body) (hnamed : body.named? = none) :
      body.settle body = .ok body ↔ ∀ thread ∈ body.named?, thread.index < slotLimit := by
    rw [hnamed]
    refine iff_of_true hsettle.settle ?_
    intro other hother
    cases hother
  cases body with
  | threadCreate child => exact hslot child rfl rfl
  | acquire holder => exact hslot holder rfl rfl
  | _ =>
    refine hfree ?_ rfl
    constructor

end Body

/-- Why a recorded entry is refused by a template: for its kind, else for its thread, else for its
fields. -/
inductive Entry.Clash (template recorded : Entry) : Desync → Prop
  | kind (h : recorded.kind ≠ template.kind) :
    Clash template recorded (.kindMismatch template.kind recorded.kind)
  | thread (kind : recorded.kind = template.kind) (h : recorded.thread ≠ template.thread) :
    Clash template recorded (.threadMismatch template.kind template.thread recorded.thread)
  | fields (kind : recorded.kind = template.kind) (thread : recorded.thread = template.thread)
      {e : Desync} (h : template.body.Clash recorded.body e) : Clash template recorded e

/-- A reader resolves a template by the entry that it read last: whichever way the template's kind is
resolved, what the check decides is what it answers, and it reads a payload only if the entry is taken. -/
def Reader.GoesBy (r r' : Reader) (template : Entry) (verdict : Except Desync Entry) : Prop :=
  (template.kind.hasPayload = false → r.resolve template = (verdict, r')) ∧
  (template.kind = .data ∨ template.kind = .snapshot →
    ∀ buffer : Bytes, buffer.length = template.payloadLength →
      r.resolveData template buffer = match verdict with
        | .error e => (.error e, buffer, r')
        | .ok entry => r'.readFor entry buffer) ∧
  (template.kind = .clientCmdline →
    r.resolveCmdline template = match verdict with
      | .error e => (.error e, r')
      | .ok entry => r'.readText entry)

namespace Entry

section verdict

variable {template recorded : Entry}

theorem settle_of_kind (hkind : recorded.kind = template.kind)
    (hthread : recorded.thread = template.thread) :
    template.settle recorded =
      (template.body.settle recorded.body).map fun body => ⟨template.thread, body⟩ := by
  rw [settle, if_neg (fun h => h hkind), if_neg (fun h => h hthread)]

theorem Clash.settle {e : Desync} (h : template.Clash recorded e) :
    template.settle recorded = .error e := by
  cases h with
  | kind h => exact if_pos h
  | thread hkind h => exact (if_neg (fun hne => hne hkind)).trans (if_pos h)
  | fields hkind hthread h =>
    rw [settle_of_kind hkind hthread, h.settle]
    rfl

theorem clash_or_settle (template recorded : Entry) :
    (∃ e, template.Clash recorded e) ∨
      ((∀ e, ¬template.Clash recorded e) ∧
        template.settle recorded = .ok (if template.kind = .data then template else recorded)) := by
  by_cases hkind : recorded.kind = template.kind
  · by_cases hthread : recorded.thread = template.thread
    · rcases Body.clash_or_settles hkind with ⟨e, hclash⟩ | ⟨result, hsettles⟩
      · exact .inl ⟨e, .fields hkind hthread hclash⟩
      · right
        constructor
        · intro e hclash
          cases hclash with
          | kind h => exact h hkind
          | thread _ h => exact h hthread
          | fields _ _ h => exact hsettles.not_clash e h
        · rw [settle_of_kind hkind hthread, hsettles.settle, hsettles.result_eq, Entry.kind]
          obtain ⟨thread, body⟩ := recorded
          cases hthread
          split
          · rfl
          · rfl
    · exact .inl ⟨_, .thread hkind hthread⟩
  · exact .inl ⟨_, .kind hkind⟩

theorem settle_eq_error_iff {e : Desync} :
    template.settle recorded = .error e ↔ template.Clash recorded e := by
  constructor
  · intro h
    rcases clash_or_settle template recorded with ⟨e', hclash⟩ | ⟨_, hsettle⟩
    · cases h.symm.trans hclash.settle
      exact hclash
    · cases h.symm.trans hsettle
  · exact Clash.settle

end verdict

end Entry

theorem Reader.goesBy_settle {r r' : Reader} {recorded : Entry} (h : r.nextEntry = (.ok recorded, r'))
    (template : Entry) : r.GoesBy r' template (template.settle recorded) := by
  have hsettle : r.settleNext template = (template.settle recorded, r') := by
    rw [settleNext, h]
  refine ⟨?plain, ?data, ?cmdline⟩
  case plain =>
    intro hplain
    rw [resolve, hplain, if_neg Bool.false_ne_true, hsettle]
  case data =>
    intro hdata buffer hbuffer
    have hkinds : ¬(template.kind ≠ .data ∧ template.kind ≠ .snapshot) := by
      rintro ⟨hnotData, hnotSnapshot⟩
      exact hdata.elim hnotData hnotSnapshot
    rw [resolveData_eq hkinds hbuffer, hsettle]
    cases template.settle recorded with
    | error e => rfl
    | ok entry => rfl
  case cmdline =>
    intro hcmdline
    rw [resolveCmdline_eq hcmdline, hsettle]
    cases template.settle recorded with
    | error e => rfl
    | ok entry => rfl

/-- What the check decides, for every template and every recorded entry. It fails for the first clash in
the order kind, thread, fields, and otherwise gives the recorded entry, or the template if that is about
data. Where the kinds agree it does not come to the case that is left for two kinds. An entry is taken by
itself exactly if the slot that it names, if any, is in the tables. Each way to resolve an entry goes by
this. -/
theorem Entry.settles_unless_clash (template recorded : Entry) :
    (∀ e, template.settle recorded = .error e ↔ template.Clash recorded e) ∧
    (∀ result, template.settle recorded = .ok result ↔
      (∀ e, ¬template.Clash recorded e) ∧
        result = if template.kind = .data then template else recorded) ∧
    (∀ expected found, template.body.settle recorded.body = .error (.kindMismatch expected found) →
      recorded.kind ≠ template.kind) ∧
    (template.settle template = .ok template ↔
      ∀ thread ∈ template.body.named?, thread.index < 500) ∧
    ∀ r r' : Reader, r.nextEntry = (.ok recorded, r') →
      r.GoesBy r' template (template.settle recorded) := by
  refine ⟨fun e => settle_eq_error_iff, ?_, fun _ _ => Body.kind_ne_of_kindMismatch, ?_, ?_⟩
  · intro result
    rcases clash_or_settle template recorded with ⟨e, hclash⟩ | ⟨hfree, hsettle⟩
    · rw [hclash.settle]
      exact iff_of_false nofun (fun h => h.1 e hclash)
    · rw [hsettle]
      constructor
      · rintro ⟨⟩
        exact ⟨hfree, rfl⟩
      · rintro ⟨_, rfl⟩
        rfl
  · rw [settle_of_kind rfl rfl]
    refine Iff.trans ?_ (Body.settle_self_iff template.body)
    cases template.body.settle template.body with
    | error e => exact iff_of_false nofun nofun
    | ok body =>
      constructor
      · intro h
        exact congrArg (Except.map Entry.body) h
      · rintro ⟨⟩
        rfl
  · intro r r' hnext
    exact Reader.goesBy_settle hnext template

theorem Entry.settles_unless_clash_sysno :
    let recorded := Entry.syscallArgs ⟨2⟩ 7
    let template : Entry := ⟨⟨2⟩, .syscallArgs ⟨3⟩ 8⟩
    let r := Reader.plain recorded.encode 0 0
    r.nextEntry = (.ok recorded, .plain [] 24 1) ∧
      (r.resolve template).1 = .error (.syscallMismatch 8 7) := by
  intro recorded template r
  have hnext : r.nextEntry = (.ok recorded, .plain [] 24 1) := by
    have hplain := Reader.plain_nextEntry_ok recorded.length_encode recorded.decode_encode [] 0 0
    rwa [List.append_nil] at hplain
  obtain ⟨hrefused, _, _, _, hreader⟩ := settles_unless_clash template recorded
  have hkind : recorded.kind = template.kind := rfl
  have hthread : recorded.thread = template.thread := rfl
  have hsysno : template.body.Clash recorded.body (.syscallMismatch 8 7) := .sysno (by decide)
  refine ⟨hnext, ?_⟩
  rw [(hreader _ _ hnext).1 rfl]
  exact (hrefused _).mpr (.fields hkind hthread hsysno)

end Retrace.Log
