import CamAdmiral.Grouping
import CamAdmiral.HealthCore

/-!
The pools of the background checks stay bounded over every run of cycles, whatever the cycles are
told and however they end.
-/

namespace CamAdmiral

/-- A pool has a free worker for each of its checks, and one check for each key. -/
def PoolBounded (probeWorkers : Int) (kind : CheckKind) (pending : List (String × PendingCheck)) :
    Prop :=
  pending.length ≤ checkCapacity probeWorkers ∧
    (pending.map fun entry => kind.key entry.2.source).Nodup

/-- The pools are bounded now and were after everything that has happened, each finished check
was recorded for its stream while the source it was submitted with was the current one, and a
check was submitted only when every earlier one for its key had been collected. -/
structure BoundedAndCurrent (probeWorkers : Int) (checks : Checks) : Prop where
  bounded : ∀ kind, PoolBounded probeWorkers kind (checks.pools.pending kind)
  passed : ∀ entry ∈ checks.journal, ∀ kind,
    PoolBounded probeWorkers kind (entry.pools.pending kind)
  recorded : ∀ future streamUuid status current,
    .recorded future streamUuid status current ∈ checks.events →
      ∃ kind source, checks.submissions[future]? = some (kind, source) ∧
        source.streamUuid = streamUuid ∧ current = some source
  single : ∀ before after future, checks.events = before ++ .submitted future :: after →
    ∀ kind source earlier other, checks.submissions[future]? = some (kind, source) →
      .submitted earlier ∈ before → checks.submissions[earlier]? = some (kind, other) →
      kind.key other = kind.key source → .collected earlier ∈ before

/-- Each pending check is filed under its key and keeps the source of its future, and what is no
longer pending has been collected. -/
structure ChecksInvariant (probeWorkers : Int) (checks : Checks) : Prop
    extends BoundedAndCurrent probeWorkers checks where
  keyed : ∀ kind, ∀ entry ∈ checks.pools.pending kind, entry.1 = kind.key entry.2.source
  known : ∀ kind, ∀ entry ∈ checks.pools.pending kind,
    checks.submissions[entry.2.future]? = some (kind, entry.2.source)
  uncollected : ∀ kind future source, checks.submissions[future]? = some (kind, source) →
    .collected future ∈ checks.events ∨
      (kind.key source, ⟨future, source⟩) ∈ checks.pools.pending kind
  submitted : ∀ future, .submitted future ∈ checks.events → future < checks.submissions.length

theorem checksInvariant_empty (probeWorkers : Int) : ChecksInvariant probeWorkers {} := by
  have nothing (kind : CheckKind) : ({} : CheckPools).pending kind = [] := by
    cases kind <;> rfl
  refine {
    bounded := ?bounded
    passed := ?passed
    recorded := ?recorded
    single := ?single
    keyed := ?keyed
    known := ?known
    uncollected := ?uncollected
    submitted := ?submitted }
  case bounded =>
    intro kind
    rw [nothing, PoolBounded]
    exact ⟨Nat.zero_le _, List.nodup_nil⟩
  case keyed =>
    intro kind entry member
    rw [nothing] at member
    cases member
  case known =>
    intro kind entry member
    rw [nothing] at member
    cases member
  case uncollected => intro kind future source isKnown; cases isKnown
  case passed => intro entry member; cases member
  case recorded => intro future streamUuid status current member; cases member
  case submitted => intro future member; cases member
  case single =>
    intro before after future split
    exact absurd split (by simp [Checks.events])

theorem note_events (checks : Checks) (event : CheckEvent) :
    (checks.note event).events = checks.events ++ [event] := by
  rw [Checks.events, Checks.note, List.map_append]
  rfl

/-- An event at the end of the journal is not before another one. -/
theorem split_concat {events before after : List CheckEvent} {event other : CheckEvent}
    (split : events ++ [event] = before ++ other :: after) :
    (before = events ∧ other = event) ∨ ∃ rest, events = before ++ other :: rest := by
  rcases List.eq_nil_or_concat' after with rfl | ⟨rest, last, rfl⟩
  · obtain ⟨sameBefore, sameEvent⟩ := List.append_inj' split rfl
    exact .inl ⟨sameBefore.symm, (List.singleton_inj.mp sameEvent).symm⟩
  · right
    refine ⟨rest, ?_⟩
    have assembled : events ++ [event] = (before ++ other :: rest) ++ [last] := by
      rw [split, List.append_assoc, List.cons_append]
    exact (List.append_inj' assembled rfl).1

theorem pending_replace (pools : CheckPools) (pending : List (String × PendingCheck))
    (kind other : CheckKind) :
    (pools.replace pending kind).pending other =
      if other = kind then pending else pools.pending other := by
  cases kind <;> cases other <;> rfl

variable {probeWorkers : Int} {checks : Checks}

theorem ChecksInvariant.same_key (invariant : ChecksInvariant probeWorkers checks)
    {kind : CheckKind} {first second : String × PendingCheck}
    (isFirst : first ∈ checks.pools.pending kind) (isSecond : second ∈ checks.pools.pending kind)
    (same : first.1 = second.1) : first = second := by
  refine List.inj_on_of_nodup_map (invariant.bounded kind).2 isFirst isSecond ?_
  rw [← invariant.keyed kind first isFirst, ← invariant.keyed kind second isSecond, same]

/-- An event that submits nothing, with what the pools are after it. -/
theorem ChecksInvariant.noted (invariant : ChecksInvariant probeWorkers checks)
    {pools : CheckPools} {event : CheckEvent} (notSubmitted : ∀ future, event ≠ .submitted future)
    (subset : ∀ kind, (pools.pending kind).Sublist (checks.pools.pending kind))
    (uncollected : ∀ kind, ∀ entry ∈ checks.pools.pending kind,
      entry ∈ pools.pending kind ∨ event = .collected entry.2.future)
    (recorded : ∀ future streamUuid status current,
      event = .recorded future streamUuid status current →
        ∃ kind source, checks.submissions[future]? = some (kind, source) ∧
          source.streamUuid = streamUuid ∧ current = some source) :
    ChecksInvariant probeWorkers ({ checks with pools := pools }.note event) := by
  have bounded (kind : CheckKind) : PoolBounded probeWorkers kind (pools.pending kind) :=
    ⟨(subset kind).length_le.trans (invariant.bounded kind).1,
      (invariant.bounded kind).2.sublist ((subset kind).map _)⟩
  have events : (Checks.note { checks with pools := pools } event).events =
      checks.events ++ [event] := note_events _ _
  refine {
    bounded := ?bounded
    passed := ?passed
    recorded := ?recorded
    single := ?single
    keyed := ?keyed
    known := ?known
    uncollected := ?uncollected
    submitted := ?submitted }
  case bounded => exact bounded
  case keyed =>
    exact fun kind entry member => invariant.keyed kind entry ((subset kind).subset member)
  case known =>
    exact fun kind entry member => invariant.known kind entry ((subset kind).subset member)
  case uncollected =>
    intro kind future source isKnown
    rw [events]
    rcases invariant.uncollected kind future source isKnown with isCollected | isPending
    · exact .inl (List.mem_append_left _ isCollected)
    · rcases uncollected kind _ isPending with stays | rfl
      · exact .inr stays
      · exact .inl (List.mem_append_right _ (List.mem_singleton.mpr rfl))
  case passed =>
    intro entry member
    rcases List.mem_append.mp member with isOld | isNew
    · exact invariant.passed entry isOld
    · rw [List.mem_singleton.mp isNew]
      exact bounded
  case recorded =>
    intro future streamUuid status current member
    rw [events, List.mem_append, List.mem_singleton] at member
    rcases member with isOld | isNew
    · exact invariant.recorded future streamUuid status current isOld
    · exact recorded future streamUuid status current isNew.symm
  case submitted =>
    intro future member
    rw [events, List.mem_append, List.mem_singleton] at member
    rcases member with isOld | isNew
    · exact invariant.submitted future isOld
    · exact absurd isNew.symm (notSubmitted future)
  case single =>
    intro before after future split
    rw [events] at split
    rcases split_concat split with ⟨_, isNew⟩ | ⟨rest, isOld⟩
    · exact absurd isNew.symm (notSubmitted future)
    · exact invariant.single before rest future isOld

theorem ChecksInvariant.recording (invariant : ChecksInvariant probeWorkers checks)
    {kind : CheckKind} {check : PendingCheck}
    (isKnown : checks.submissions[check.future]? = some (kind, check.source))
    (status : ProbeStatus) {current : Option ManagedSource}
    (isCurrent : current = some check.source) :
    ChecksInvariant probeWorkers
      (checks.note (.recorded check.future check.source.streamUuid status current)) := by
  refine @ChecksInvariant.noted _ _ invariant checks.pools _
    (fun future => CheckEvent.noConfusion)
    (fun kind => List.Sublist.refl _) (fun kind entry member => .inl member) ?_
  intro future streamUuid noted shown same
  cases same
  exact ⟨kind, check.source, isKnown, rfl, isCurrent⟩

theorem collect_pending (checks : Checks) (kind other : CheckKind)
    (entry : String × PendingCheck) :
    (checks.collect kind entry).pools.pending other =
      if other = kind then eraseKey (checks.pools.pending kind) entry.1
      else checks.pools.pending other :=
  pending_replace _ _ _ _

/-- Collecting a pending check leaves the others where they are. -/
theorem ChecksInvariant.collecting (invariant : ChecksInvariant probeWorkers checks)
    {kind : CheckKind} {entry : String × PendingCheck}
    (isPending : entry ∈ checks.pools.pending kind) :
    ChecksInvariant probeWorkers (checks.collect kind entry) := by
  refine invariant.noted (fun future => CheckEvent.noConfusion) ?_ ?_ ?_
  · intro other
    rw [pending_replace]
    split
    · rename_i same
      rw [same]
      exact List.filter_sublist
    · exact List.Sublist.refl _
  · intro other check member
    rw [pending_replace]
    split
    · rename_i same
      rw [same] at member
      by_cases isKey : check.1 = entry.1
      · rw [invariant.same_key member isPending isKey]
        exact .inr rfl
      · exact .inl (mem_eraseKey.mpr ⟨member, isKey⟩)
    · exact .inl member
  · intro future streamUuid status current isRecorded
    cases isRecorded

/-- Submitting a check to a free worker for a key without one. -/
theorem ChecksInvariant.submitting (invariant : ChecksInvariant probeWorkers checks)
    {kind : CheckKind} {source : ManagedSource}
    (free : (checks.pools.pending kind).length < checkCapacity probeWorkers)
    (fresh : (checks.pools.pending kind).lookup (kind.key source) = none) :
    ChecksInvariant probeWorkers (checks.submit kind source) := by
  have added := setKey_fresh fresh (⟨checks.submissions.length, source⟩ : PendingCheck)
  have pending (other : CheckKind) : (checks.submit kind source).pools.pending other =
      if other = kind then checks.pools.pending kind ++
        [(kind.key source, ⟨checks.submissions.length, source⟩)]
      else checks.pools.pending other := by
    rw [← added]
    exact pending_replace _ _ _ _
  have absent : ∀ entry ∈ checks.pools.pending kind, kind.key entry.2.source ≠ kind.key source := by
    intro entry member same
    have listed := List.lookup_eq_none_iff.mp fresh entry member
    rw [invariant.keyed kind entry member, same] at listed
    simp at listed
  have older {future : Nat} {submission : CheckKind × ManagedSource}
      (isKnown : checks.submissions[future]? = some submission) :
      (checks.submissions ++ [(kind, source)])[future]? = some submission := by
    rw [List.getElem?_append_left (List.getElem?_eq_some_iff.mp isKnown).1, isKnown]
  have newer {future : Nat} {other : CheckKind} {submitted : ManagedSource}
      (isKnown : (checks.submissions ++ [(kind, source)])[future]? = some (other, submitted)) :
      checks.submissions[future]? = some (other, submitted) ∨
        future = checks.submissions.length ∧ other = kind ∧ submitted = source := by
    rcases Nat.lt_trichotomy future checks.submissions.length with before | rfl | after
    · rw [List.getElem?_append_left before] at isKnown
      exact .inl isKnown
    · rw [List.getElem?_concat_length] at isKnown
      cases isKnown
      exact .inr ⟨rfl, rfl, rfl⟩
    · rw [List.getElem?_eq_none (by simp; omega)] at isKnown
      cases isKnown
  have bounded (other : CheckKind) :
      PoolBounded probeWorkers other ((checks.submit kind source).pools.pending other) := by
    rw [pending]
    split
    · rename_i same
      subst same
      obtain ⟨_, distinct⟩ := invariant.bounded other
      rw [PoolBounded, List.length_append, List.map_append]
      refine ⟨free, List.nodup_append.mpr ⟨distinct, List.nodup_singleton _, ?_⟩⟩
      intro key isKey last isLast same
      obtain ⟨entry, member, rfl⟩ := List.mem_map.mp isKey
      exact absent entry member (same.trans (List.mem_singleton.mp isLast))
    · exact invariant.bounded other
  have events : (checks.submit kind source).events =
      checks.events ++ [.submitted checks.submissions.length] := note_events _ _
  refine {
    bounded := ?bounded
    passed := ?passed
    recorded := ?recorded
    single := ?single
    keyed := ?keyed
    known := ?known
    uncollected := ?uncollected
    submitted := ?submitted }
  case bounded => exact bounded
  case keyed =>
    intro other entry member
    rw [pending] at member
    split at member
    · rename_i same
      subst same
      rcases List.mem_append.mp member with isOld | isNew
      · exact invariant.keyed other entry isOld
      · rw [List.mem_singleton.mp isNew]
    · exact invariant.keyed other entry member
  case known =>
    intro other entry member
    rw [pending] at member
    split at member
    · rename_i same
      subst same
      rcases List.mem_append.mp member with isOld | isNew
      · exact older (invariant.known other entry isOld)
      · rw [List.mem_singleton.mp isNew]
        exact List.getElem?_concat_length
    · exact older (invariant.known other entry member)
  case uncollected =>
    intro other future submitted isKnown
    rw [events, pending]
    rcases newer isKnown with isOld | ⟨rfl, rfl, rfl⟩
    · rcases invariant.uncollected other future submitted isOld with isCollected | isPending
      · exact .inl (List.mem_append_left _ isCollected)
      · right
        split
        · rename_i same
          exact List.mem_append_left _ (same ▸ isPending)
        · exact isPending
    · rw [if_pos rfl]
      exact .inr (List.mem_append_right _ (List.mem_singleton.mpr rfl))
  case passed =>
    intro entry member
    rcases List.mem_append.mp member with isOld | isNew
    · exact invariant.passed entry isOld
    · rw [List.mem_singleton.mp isNew]
      exact bounded
  case recorded =>
    intro future streamUuid status current member
    rw [events, List.mem_append, List.mem_singleton] at member
    rcases member with isOld | isNew
    · obtain ⟨other, submitted, isKnown, shown⟩ :=
        invariant.recorded future streamUuid status current isOld
      exact ⟨other, submitted, older isKnown, shown⟩
    · cases isNew
  case submitted =>
    intro future member
    have longer : (checks.submit kind source).submissions.length =
        checks.submissions.length + 1 := List.length_append
    rw [longer]
    rw [events, List.mem_append, List.mem_singleton] at member
    rcases member with isOld | isNew
    · exact (invariant.submitted future isOld).trans (Nat.lt_succ_self _)
    · cases isNew
      exact Nat.lt_succ_self _
  case single =>
    intro before after future split other submitted earlier sibling isKnown isEarlier isSibling same
    rw [events] at split
    rcases split_concat split with ⟨rfl, isNew⟩ | ⟨rest, isOld⟩
    · -- The new check: an uncollected one of its key would still be pending.
      cases isNew
      obtain ⟨rfl, rfl⟩ : other = kind ∧ submitted = source := by
        rcases newer isKnown with isOld | ⟨_, isKind, isSource⟩
        · exact absurd (List.getElem?_eq_some_iff.mp isOld).1 (lt_irrefl _)
        · exact ⟨isKind, isSource⟩
      rcases newer isSibling with isOld | ⟨isLast, _⟩
      · rcases invariant.uncollected other earlier sibling isOld with isCollected | isPending
        · exact isCollected
        · exact absurd same (absent _ isPending)
      · exact absurd (invariant.submitted earlier isEarlier) (isLast ▸ lt_irrefl _)
    · have within {number : Nat} (member : .submitted number ∈ checks.events)
          {submission : CheckKind × ManagedSource}
          (found : (checks.submissions ++ [(kind, source)])[number]? = some submission) :
          checks.submissions[number]? = some submission := by
        rwa [List.getElem?_append_left (invariant.submitted number member)] at found
      have isSubmitted : .submitted future ∈ checks.events := by
        rw [isOld]
        exact List.mem_append_right _ List.mem_cons_self
      have wasSubmitted : .submitted earlier ∈ checks.events := by
        rw [isOld]
        exact List.mem_append_left _ isEarlier
      exact invariant.single before rest future isOld other submitted earlier sibling
        (within isSubmitted isKnown) isEarlier (within wasSubmitted isSibling) same

/-! The loops of a cycle. -/

open Program

def Held (options : HealthOptions) (monitor : RelayHealthMonitor) : Prop :=
  ChecksInvariant options.probeWorkers monitor.checks

/-- The entries that a loop has yet to look at are still in the pool. -/
structure PoolLeft (options : HealthOptions) (kind : CheckKind)
    (left : List (String × PendingCheck)) (monitor : RelayHealthMonitor) : Prop where
  held : Held options monitor
  distinct : (left.map Prod.fst).Nodup
  inPool : left ⊆ monitor.checks.pools.pending kind

variable {options : HealthOptions} {kind : CheckKind} {monitor : RelayHealthMonitor}

theorem Held.poolLeft (held : Held options monitor) (kind : CheckKind) :
    PoolLeft options kind (monitor.checks.pools.pending kind) monitor := by
  refine ⟨held, ?_, List.Subset.refl _⟩
  have keys : (monitor.checks.pools.pending kind).map Prod.fst =
      (monitor.checks.pools.pending kind).map fun entry => kind.key entry.2.source :=
    List.map_congr_left (held.keyed kind)
  rw [keys]
  exact (held.bounded kind).2

theorem PoolLeft.tail {first : String × PendingCheck} {rest : List (String × PendingCheck)}
    (left : PoolLeft options kind (first :: rest) monitor) : PoolLeft options kind rest monitor :=
  ⟨left.held, (List.nodup_cons.mp left.distinct).2,
    fun _ member => left.inPool (List.mem_cons_of_mem _ member)⟩

theorem PoolLeft.collect {first : String × PendingCheck} {rest : List (String × PendingCheck)}
    (left : PoolLeft options kind (first :: rest) monitor) :
    PoolLeft options kind rest
      { monitor with checks := monitor.checks.collect kind first } := by
  obtain ⟨unlisted, distinct⟩ := List.nodup_cons.mp left.distinct
  refine ⟨left.held.collecting (left.inPool List.mem_cons_self), distinct, ?_⟩
  intro entry member
  show entry ∈ (monitor.checks.collect kind first).pools.pending kind
  rw [collect_pending, if_pos rfl, mem_eraseKey]
  exact ⟨left.inPool (List.mem_cons_of_mem _ member),
    fun same => unlisted (List.mem_map.mpr ⟨entry, member, same⟩)⟩

/-- The future was submitted with the source of the check. -/
def Known (kind : CheckKind) (check : PendingCheck) (monitor : RelayHealthMonitor) : Prop :=
  monitor.checks.submissions[check.future]? = some (kind, check.source)

theorem changeChecks_spec {before : RelayHealthMonitor → Prop} {done : RelayHealthMonitor → Prop}
    {failed : RelayHealthMonitor → Prop} (change : Checks → Checks)
    (holds : ∀ monitor, before monitor → done { monitor with checks := change monitor.checks }) :
    Triple before (changeChecks change) (fun _ => done) failed :=
  triple_modify _ holds

theorem changeRetries_spec {before : RelayHealthMonitor → Prop}
    {done : RelayHealthMonitor → Prop} {failed : RelayHealthMonitor → Prop}
    (change : List String → List String)
    (holds : ∀ monitor, before monitor →
      done { monitor with frameProbeRetries := change monitor.frameProbeRetries }) :
    Triple before (changeRetries change) (fun _ => done) failed :=
  triple_modify _ holds

theorem collectLogin_left (cycle : HealthCycle) (first : String × PendingCheck)
    (rest : List (String × PendingCheck)) (sources : List (String × ManagedSource)) :
    Triple (PoolLeft options .login (first :: rest)) (collectLogin cycle sources first)
      (fun _ => PoolLeft options .login rest) (Held options) := by
  unfold collectLogin
  split
  · exact triple_pure sources fun _ left => left.tail
  · rename_i verdict _
    refine Triple.bind
      (fun _ monitor => PoolLeft options .login rest monitor ∧ Known .login first.2 monitor)
      (changeChecks_spec _ fun monitor left => ?_) fun _ => ?_
    · exact ⟨left.collect, left.held.known .login first (left.inPool List.mem_cons_self)⟩
    · by_cases isCurrent : (decide (sources.lookup first.2.source.streamUuid =
          some first.2.source) && decide (verdict = .decoded)) = true
      · simp only [isCurrent, if_true]
        rw [Bool.and_eq_true, decide_eq_true_eq, decide_eq_true_eq] at isCurrent
        refine Triple.bind
          (fun _ monitor => PoolLeft options .login rest monitor ∧ Known .login first.2 monitor)
          (triple_ofExcept (fun _ _ _ => id) fun _ both => both.1.held) fun _ => ?_
        refine Triple.bind (fun _ => PoolLeft options .login rest)
          (changeChecks_spec _ fun monitor both => ?_) fun _ => triple_pure _ fun _ => id
        exact ⟨both.1.held.recording both.2 .ready isCurrent.1, both.1.distinct, both.1.inPool⟩
      · simp only [isCurrent]
        exact triple_pure _ fun _ both => both.1

theorem submitLogin_held (cycle : HealthCycle) (schedule : List (String × ℚ))
    (entry : String × ManagedSource) :
    Triple (fun monitor => Held options monitor ∧
        monitor.checks.pools.pendingAuth.length < checkCapacity options.probeWorkers)
      (submitLogin cycle schedule entry) (fun _ => Held options) (Held options) := by
  unfold submitLogin
  refine Triple.bind
    (fun pending monitor => (Held options monitor ∧
        monitor.checks.pools.pendingAuth.length < checkCapacity options.probeWorkers) ∧
      pending = monitor.checks.pools.pendingAuth)
    (triple_read _ fun monitor free => ⟨free, rfl⟩) fun pending => ?_
  by_cases skipped : ((pending.lookup entry.2.cameraUuid).isSome ||
      decide (cycle.retryTime < scheduledAt schedule entry.1)) = true
  · simp only [skipped, if_true]
    exact triple_pure _ fun _ free => free.1.1
  · simp only [skipped]
    rw [Bool.or_eq_true, not_or, Option.not_isSome_iff_eq_none] at skipped
    refine Triple.bind
      (fun _ monitor => (Held options monitor ∧
          monitor.checks.pools.pendingAuth.length < checkCapacity options.probeWorkers) ∧
        pending = monitor.checks.pools.pendingAuth)
      (triple_ofExcept (fun _ _ _ => id) fun _ free => free.1.1) fun claimed => ?_
    cases claimed with
    | false => exact triple_pure _ fun _ free => free.1.1
    | true =>
        refine Triple.bind
          (fun _ monitor => (Held options monitor ∧
              monitor.checks.pools.pendingAuth.length < checkCapacity options.probeWorkers) ∧
            pending = monitor.checks.pools.pendingAuth)
          (triple_ofExcept (fun _ _ _ => id) fun _ free => free.1.1) fun _ => ?_
        refine changeChecks_spec _ fun monitor free => ?_
        obtain ⟨⟨held, isFree⟩, rfl⟩ := free
        exact held.submitting isFree skipped.1

theorem submitLogins_held (cycle : HealthCycle) (schedule : List (String × ℚ))
    (entries : List (String × ManagedSource)) :
    Preserves (Held options) (submitLogins options cycle schedule entries) := by
  induction entries with
  | nil => exact preserves_pure ()
  | cons entry rest ih =>
      unfold submitLogins
      refine Triple.bind
        (fun pending monitor => Held options monitor ∧
          pending = monitor.checks.pools.pendingAuth)
        (triple_read _ fun monitor held => ⟨held, rfl⟩) fun pending => ?_
      by_cases isFull : checkCapacity options.probeWorkers ≤ pending.length
      · simp only [isFull, if_true]
        exact triple_pure _ fun _ held => held.1
      · simp only [isFull, if_false]
        refine Triple.bind (fun _ => Held options)
          ((submitLogin_held cycle schedule entry).weaken ?_ (fun _ _ => id) fun _ => id)
          fun _ => ih
        rintro monitor ⟨held, rfl⟩
        exact ⟨held, Nat.lt_of_not_le isFull⟩

theorem retryAuthentication_held (cycle : HealthCycle) :
    Preserves (Held options) (retryAuthentication options cycle) := by
  unfold retryAuthentication
  refine (preserves_ofExcept _).bind fun schedule => ?_
  refine Triple.bind
    (fun pending monitor => Held options monitor ∧ pending = monitor.checks.pools.pendingAuth)
    (triple_read _ fun monitor held => ⟨held, rfl⟩) fun pending => ?_
  by_cases nothing : (decide (schedule = []) && decide (pending = [])) = true
  · simp only [nothing, if_true]
    exact triple_pure _ fun _ held => held.1
  · simp only [nothing]
    refine Triple.bind
      (fun _ monitor => Held options monitor ∧ pending = monitor.checks.pools.pendingAuth)
      (triple_ofExcept (fun _ _ _ => id) fun _ held => held.1) fun listed => ?_
    have collected (sources : List (String × ManagedSource)) :=
      @triple_eachWith _ _ _ _ _ (collectLogin cycle) (fun left _ => PoolLeft options .login left)
        (collectLogin_left cycle) pending sources
    refine Triple.bind (fun _ => PoolLeft options .login [])
      ((collected _).weaken ?_ (fun _ _ => id) fun _ => id) fun sources => ?_
    · rintro monitor ⟨held, rfl⟩
      exact held.poolLeft .login
    · exact (submitLogins_held cycle schedule _).weaken (fun _ left => left.held)
        (fun _ _ => id) fun _ => id

/-! Snapshots. -/

/-- The results that come from checks are those of sources that are still current. -/
def Backed (current : List (String × ManagedSource)) (results : CheckResults)
    (monitor : RelayHealthMonitor) : Prop :=
  ∀ entry ∈ results, ∀ check, entry.2.check = some check →
    Known .snapshot check monitor ∧ check.source.streamUuid = entry.1 ∧
      current.lookup entry.1 = some check.source

theorem Backed.setKey {current : List (String × ManagedSource)} {results : CheckResults}
    (backed : Backed current results monitor) {streamUuid : String} {check : PendingCheck}
    (isKnown : Known .snapshot check monitor) (isStream : check.source.streamUuid = streamUuid)
    (isCurrent : current.lookup streamUuid = some check.source) (status : ProbeStatus) :
    Backed current (CamAdmiral.setKey results streamUuid ⟨status, some check⟩) monitor := by
  intro entry member other isCheck
  rcases mem_setKey member with isOld | rfl
  · exact backed entry isOld other isCheck
  · obtain rfl := Option.some.inj isCheck
    exact ⟨isKnown, isStream, isCurrent⟩

theorem collectSnapshot_left (current : List (String × ManagedSource))
    (verdicts : Nat → Option ProbeVerdict) (first : String × PendingCheck)
    (rest : List (String × PendingCheck)) (results : CheckResults) :
    Triple (fun monitor => PoolLeft options .snapshot (first :: rest) monitor ∧
        Backed current results monitor)
      (collectSnapshot current verdicts results first)
      (fun results monitor => PoolLeft options .snapshot rest monitor ∧
        Backed current results monitor) (Held options) := by
  unfold collectSnapshot
  split
  · exact triple_pure results fun _ both => ⟨both.1.tail, both.2⟩
  · rename_i verdict _
    refine Triple.bind
      (fun _ monitor => (PoolLeft options .snapshot rest monitor ∧
          Backed current results monitor) ∧
        Known .snapshot first.2 monitor ∧ first.2.source.streamUuid = first.1)
      (changeChecks_spec _ fun monitor both => ?_) fun _ => ?_
    · have inPool := both.1.inPool List.mem_cons_self
      exact ⟨⟨both.1.collect, both.2⟩, both.1.held.known .snapshot first inPool,
        (both.1.held.keyed .snapshot first inPool).symm⟩
    · by_cases isCurrent : current.lookup first.1 = some first.2.source
      · rw [if_pos isCurrent]
        have kept (change : List String → List String) :
            Triple (fun monitor => (PoolLeft options .snapshot rest monitor ∧
                Backed current results monitor) ∧
              Known .snapshot first.2 monitor ∧ first.2.source.streamUuid = first.1)
            (changeRetries change)
            (fun _ monitor => (PoolLeft options .snapshot rest monitor ∧
                Backed current results monitor) ∧
              Known .snapshot first.2 monitor ∧ first.2.source.streamUuid = first.1)
            (Held options) :=
          changeRetries_spec change fun monitor all =>
            ⟨⟨⟨all.1.1.held, all.1.1.distinct, all.1.1.inPool⟩, all.1.2⟩, all.2⟩
        cases verdict with
        | decoded =>
            exact (kept _).bind _ fun _ => triple_pure _ fun monitor all =>
              ⟨all.1.1, all.1.2.setKey all.2.1 all.2.2 isCurrent .ready⟩
        | busy => exact (kept _).bind _ fun _ => triple_pure _ fun monitor all => all.1
        | failed =>
            exact (kept _).bind _ fun _ => triple_pure _ fun monitor all =>
              ⟨all.1.1, all.1.2.setKey all.2.1 all.2.2 isCurrent .failed⟩
      · rw [if_neg isCurrent]
        exact triple_pure _ fun _ all => all.1

theorem collectPending_backed (current : List (String × ManagedSource))
    (verdicts : Nat → Option ProbeVerdict) (results : CheckResults) :
    Triple (fun monitor => Held options monitor ∧ Backed current results monitor)
      (collectPending current verdicts results)
      (fun results monitor => Held options monitor ∧ Backed current results monitor)
      (Held options) := by
  unfold collectPending
  refine Triple.bind
    (fun pending monitor => (Held options monitor ∧ Backed current results monitor) ∧
      pending = monitor.checks.pools.pendingSnapshots)
    (triple_read _ fun monitor both => ⟨both, rfl⟩) fun pending => ?_
  have collected := @triple_eachWith _ _ _ _ _ (collectSnapshot current verdicts)
    (fun left results monitor => PoolLeft options .snapshot left monitor ∧
      Backed current results monitor)
    (collectSnapshot_left current verdicts) pending results
  refine collected.weaken ?_ (fun _ _ both => ⟨both.1.held, both.2⟩) fun _ => id
  rintro monitor ⟨⟨held, backed⟩, rfl⟩
  exact ⟨held.poolLeft .snapshot, backed⟩

/-- There is a free worker for each of the sources, and none of them is pending. -/
structure FramesLeft (options : HealthOptions) (current : List (String × ManagedSource))
    (results : CheckResults) (left : List ManagedSource) (monitor : RelayHealthMonitor) :
    Prop where
  held : Held options monitor
  backed : Backed current results monitor
  free : monitor.checks.pools.pendingSnapshots.length + left.length ≤
    checkCapacity options.probeWorkers
  distinct : (left.map ManagedSource.streamUuid).Nodup
  notPending : ∀ source ∈ left,
    monitor.checks.pools.pendingSnapshots.lookup source.streamUuid = none

theorem submitFrame_left (cycle : HealthCycle) (current : List (String × ManagedSource))
    (results : CheckResults) (first : ManagedSource) (rest : List ManagedSource) :
    Triple (FramesLeft options current results (first :: rest)) (submitFrame cycle first)
      (fun _ => FramesLeft options current results rest) (Held options) := by
  unfold submitFrame
  refine Triple.bind (fun _ => FramesLeft options current results (first :: rest))
    (triple_modify _ fun monitor left => ⟨left.held, left.backed, left.free, left.distinct,
      left.notPending⟩) fun _ => ?_
  refine Triple.bind (fun _ => FramesLeft options current results (first :: rest))
    (changeRetries_spec _ fun monitor left => ⟨left.held, left.backed, left.free, left.distinct,
      left.notPending⟩) fun _ => ?_
  refine Triple.bind (fun _ => FramesLeft options current results (first :: rest))
    (triple_ofExcept (fun _ _ _ => id) fun _ left => left.held) fun _ => ?_
  refine changeChecks_spec _ fun monitor left => ?_
  have isFree := left.free
  rw [List.length_cons] at isFree
  have fresh := left.notPending first List.mem_cons_self
  obtain ⟨unlisted, distinct⟩ := List.nodup_cons.mp left.distinct
  have pending : (monitor.checks.submit .snapshot first).pools.pendingSnapshots =
      setKey monitor.checks.pools.pendingSnapshots first.streamUuid
        ⟨monitor.checks.submissions.length, first⟩ := rfl
  constructor
  case held =>
    refine left.held.submitting ?_ fresh
    show monitor.checks.pools.pendingSnapshots.length < _
    omega
  case backed =>
    intro entry member check isCheck
    obtain ⟨isKnown, shown⟩ := left.backed entry member check isCheck
    have longer := @List.getElem?_append_left _ _ [(CheckKind.snapshot, first)] _
      (List.getElem?_eq_some_iff.mp isKnown).1
    exact ⟨longer.trans isKnown, shown⟩
  case free =>
    show (monitor.checks.submit .snapshot first).pools.pendingSnapshots.length + _ ≤ _
    rw [pending, setKey_fresh fresh, List.length_append, List.length_singleton]
    omega
  case distinct => exact distinct
  case notPending =>
    intro source member
    show (monitor.checks.submit .snapshot first).pools.pendingSnapshots.lookup _ = none
    rw [pending, lookup_setKey, if_neg]
    · exact left.notPending source (List.mem_cons_of_mem _ member)
    · exact fun same => unlisted (List.mem_map.mpr ⟨source, member, same⟩)

theorem sourcesByStream_keyed (sources : List ManagedSource) :
    ((sourcesByStream sources).map Prod.fst).Nodup ∧
      ∀ entry ∈ sourcesByStream sources, entry.1 = entry.2.streamUuid := by
  suffices general : ∀ found : List (String × ManagedSource),
      ((found.map Prod.fst).Nodup ∧ ∀ entry ∈ found, entry.1 = entry.2.streamUuid) →
      ((sources.foldl (fun found source => setKey found source.streamUuid source) found).map
          Prod.fst).Nodup ∧
        ∀ entry ∈ sources.foldl (fun found source => setKey found source.streamUuid source) found,
          entry.1 = entry.2.streamUuid from
    general [] ⟨List.nodup_nil, fun entry member => absurd member List.not_mem_nil⟩
  induction sources with
  | nil => exact fun found keyed => keyed
  | cons source rest ih =>
      intro found keyed
      refine ih _ ⟨nodup_setKey keyed.1 _ _, fun entry member => ?_⟩
      rcases mem_setKey member with isOld | rfl
      · exact keyed.2 entry isOld
      · rfl

/-- The due sources fit into the free workers and are not pending. -/
theorem dueSources_left (sources : List ManagedSource) {results : CheckResults} (now : ℚ)
    (held : Held options monitor)
    (backed : Backed (sourcesByStream sources) results monitor) :
    FramesLeft options (sourcesByStream sources) results
      (dueSources options monitor (sourcesByStream sources) results now) monitor := by
  obtain ⟨distinct, keyed⟩ := sourcesByStream_keyed sources
  generalize sourcesByStream sources = current at *
  have isBounded := (held.bounded .snapshot).1
  have sorted : (dueSources options monitor current results now).Sublist
      (((current.filter fun entry => isDue options monitor results now entry.1).map
        Prod.snd).mergeSort (dueOrder monitor)) := List.take_sublist _ _
  have member {source : ManagedSource}
      (isDue' : source ∈ dueSources options monitor current results now) :
      ∃ entry ∈ current, isDue options monitor results now entry.1 = true ∧
        entry.2 = source := by
    obtain ⟨entry, isEntry, rfl⟩ := List.mem_map.mp (List.mem_mergeSort.mp (sorted.subset isDue'))
    exact ⟨entry, (List.mem_filter.mp isEntry).1, (List.mem_filter.mp isEntry).2, rfl⟩
  constructor
  case held => exact held
  case backed => exact backed
  case free =>
    have taken : (dueSources options monitor current results now).length ≤
        (min (max 1 options.frameProbeBatchSize)
          ((checkCapacity options.probeWorkers : Int) -
            monitor.checks.pools.pendingSnapshots.length)).toNat := List.length_take_le _ _
    have inPool : monitor.checks.pools.pendingSnapshots.length ≤
        checkCapacity options.probeWorkers := isBounded
    omega
  case distinct =>
    refine List.Nodup.sublist (sorted.map _) ?_
    have perm := (List.mergeSort_perm ((current.filter fun entry =>
      isDue options monitor results now entry.1).map Prod.snd) (dueOrder monitor)).map
        ManagedSource.streamUuid
    rw [perm.nodup_iff, List.map_map]
    have keys : (current.filter fun entry => isDue options monitor results now entry.1).map
        (ManagedSource.streamUuid ∘ Prod.snd) =
          (current.filter fun entry => isDue options monitor results now entry.1).map Prod.fst :=
      List.map_congr_left fun entry isEntry => (keyed entry (List.mem_filter.mp isEntry).1).symm
    rw [keys]
    exact distinct.sublist (List.filter_sublist.map _)
  case notPending =>
    intro source isListed
    obtain ⟨entry, isEntry, due, rfl⟩ := member isListed
    rw [isDue, Bool.and_eq_true, Bool.and_eq_true] at due
    rw [← keyed entry isEntry]
    exact Option.isNone_iff_eq_none.mp due.1.1

theorem samplePeriodicSources_backed (cycle : HealthCycle) (sources : List ManagedSource) :
    Triple (Held options) (samplePeriodicSources options cycle sources)
      (fun results monitor => Held options monitor ∧
        Backed (sourcesByStream sources) results monitor) (Held options) := by
  unfold samplePeriodicSources
  refine Triple.bind
    (fun results monitor => Held options monitor ∧
      Backed (sourcesByStream sources) results monitor)
    ((collectPending_backed _ _ _).weaken
      (fun monitor held => ⟨held, fun entry member => absurd member List.not_mem_nil⟩)
      (fun _ _ => id) fun _ => id) fun collected => ?_
  refine Triple.bind (FramesLeft options (sourcesByStream sources) collected)
    (triple_read _ fun monitor both =>
      dueSources_left sources cycle.frameTime both.1 both.2) fun due => ?_
  refine Triple.bind (fun _ => FramesLeft options (sourcesByStream sources) collected [])
    (triple_each (submitFrame_left cycle _ collected) due) fun _ => ?_
  exact (collectPending_backed _ _ _).weaken (fun monitor left => ⟨left.held, left.backed⟩)
    (fun _ _ => id) fun _ => id

/-! Cycles. -/

/-- The relay's samples come from no check. -/
theorem sampleVideo_unchecked (runtime : List (String × Option RelayStream))
    (sources : List ManagedSource) (state : List (String × (String × Int)) × CheckResults)
    (unchecked : ∀ entry ∈ state.2, entry.2.check = none) :
    ∀ entry ∈ (sources.foldl (sampleVideo runtime) state).2, entry.2.check = none := by
  induction sources generalizing state with
  | nil => exact unchecked
  | cons source rest ih =>
      refine ih _ fun entry member => ?_
      unfold sampleVideo at member
      simp only at member
      split at member
      · rcases mem_setKey member with isOld | rfl
        · exact unchecked entry isOld
        · rfl
      · exact unchecked entry member

theorem mergeCheck_backed {current : List (String × ManagedSource)}
    {active periodic : CheckResults} (state : CheckResults × List String)
    (merged : Backed current state.1 monitor) (backed : Backed current periodic monitor) :
    Backed current (periodic.foldl (mergeCheck active) state).1 monitor := by
  induction periodic generalizing state with
  | nil => exact merged
  | cons first rest ih =>
      refine ih _ ?_ fun entry member => backed entry (List.mem_cons_of_mem _ member)
      have added : Backed current (setKey state.1 first.1 first.2) monitor := by
        intro entry member check isCheck
        rcases mem_setKey member with isOld | rfl
        · exact merged entry isOld check isCheck
        · exact backed first List.mem_cons_self check isCheck
      unfold mergeCheck
      split
      · split
        · exact added
        · exact merged
      · exact added

theorem rejections_backed {cycle : HealthCycle} {current suspects : List (String × ManagedSource)}
    {results rejections : CheckResults} (backed : Backed current results monitor)
    (diagnosed : diagnoseSources options cycle suspects = .ok rejections) :
    Backed current
      (rejections.foldl (fun results entry => setKey results entry.1 entry.2) results) monitor := by
  have unchecked : ∀ entry ∈ rejections, entry.2.check = none := by
    unfold diagnoseSources at diagnosed
    split at diagnosed
    · cases diagnosed
      exact fun entry member => absurd member List.not_mem_nil
    · split at diagnosed
      · cases diagnosed
      · cases diagnosed
        intro entry member
        obtain ⟨suspect, _, isRejected⟩ := List.mem_filterMap.mp member
        split at isRejected
        · rw [← Option.some.inj isRejected]
        · cases isRejected
  clear diagnosed
  induction rejections generalizing results with
  | nil => exact backed
  | cons first rest ih =>
      refine ih (fun entry member check isCheck => ?_) fun entry member =>
        unchecked entry (List.mem_cons_of_mem _ member)
      rcases mem_setKey member with isOld | rfl
      · exact backed entry isOld check isCheck
      · have isNone := unchecked first List.mem_cons_self
        rw [isCheck] at isNone
        cases isNone

theorem noteResults_held {current : List (String × ManagedSource)} (results : CheckResults) :
    Triple (fun monitor => Held options monitor ∧ Backed current results monitor)
      (each (noteResult current) results) (fun _ => Held options) (Held options) := by
  refine (@triple_each _ _ _ _ (noteResult current)
    (fun left monitor => Held options monitor ∧ Backed current left monitor)
    (fun first rest => ?_) results).weaken (fun _ => id) (fun _ _ both => both.1) fun _ => id
  unfold noteResult
  split
  · exact triple_pure () fun monitor both =>
      ⟨both.1, fun entry member => both.2 entry (List.mem_cons_of_mem _ member)⟩
  · rename_i check isCheck
    refine changeChecks_spec _ fun monitor both => ?_
    obtain ⟨isKnown, isStream, isCurrent⟩ := both.2 first List.mem_cons_self check isCheck
    constructor
    · rw [← isStream] at isCurrent ⊢
      exact both.1.recording isKnown first.2.status isCurrent
    · exact fun entry member => both.2 entry (List.mem_cons_of_mem _ member)

theorem probe_held (cycle : HealthCycle) : Preserves (Held options) (probe options cycle) := by
  unfold probe
  refine (retryAuthentication_held cycle).bind fun _ => ?_
  refine (preserves_ofExcept _).bind fun sources => (preserves_ofExcept _).bind fun runtime => ?_
  refine (preserves_read _).bind fun samples => ?_
  have unchecked := sampleVideo_unchecked runtime sources (samples, [])
    fun entry member => absurd member List.not_mem_nil
  generalize sources.foldl (sampleVideo runtime) (samples, []) = sampled at unchecked
  obtain ⟨samples, active⟩ := sampled
  refine Triple.bind (fun _ => Held options) (triple_modify _ fun _ => id) fun _ => ?_
  refine (preserves_ofExcept _).bind fun _ => ?_
  refine Triple.bind _ (samplePeriodicSources_backed cycle sources) fun periodic => ?_
  generalize sourcesByStream sources = current
  refine Triple.bind
    (fun _ monitor => Held options monitor ∧ Backed current periodic monitor)
    (triple_read _ fun _ => id) fun retries => ?_
  have merged {monitor : RelayHealthMonitor} (backed : Backed current periodic monitor) :
      Backed current (periodic.foldl (mergeCheck active) (active, retries)).1 monitor := by
    refine mergeCheck_backed _ (fun entry member check isCheck => ?_) backed
    rw [unchecked entry member] at isCheck
    cases isCheck
  generalize periodic.foldl (mergeCheck active) (active, retries) = observed at merged
  obtain ⟨results, retries⟩ := observed
  refine Triple.bind (fun _ monitor => Held options monitor ∧ Backed current results monitor)
    (changeRetries_spec _ fun monitor both => ⟨both.1, merged both.2⟩) fun _ => ?_
  refine Triple.bind (fun _ monitor => Held options monitor ∧ Backed current results monitor)
    (triple_read _ fun _ => id) fun failures => ?_
  generalize results.foldl (countCheck current) (failures, []) = counted
  obtain ⟨failures, suspects⟩ := counted
  refine Triple.bind (fun _ monitor => Held options monitor ∧ Backed current results monitor)
    (triple_modify _ fun _ => id) fun _ => ?_
  refine Triple.bind
    (fun rejections monitor => Held options monitor ∧ Backed current
      (rejections.foldl (fun results entry => setKey results entry.1 entry.2) results) monitor)
    (triple_ofExcept (fun rejections diagnosed monitor both =>
      ⟨both.1, rejections_backed both.2 diagnosed⟩) fun _ both => both.1) fun rejections => ?_
  generalize rejections.foldl (fun results entry => setKey results entry.1 entry.2) results =
    results
  refine Triple.bind (fun _ monitor => Held options monitor ∧ Backed current results monitor)
    (triple_modify _ fun _ => id) fun _ => ?_
  refine Triple.bind (fun _ monitor => Held options monitor ∧ Backed current results monitor)
    (triple_ofExcept (fun _ _ _ => id) fun _ both => both.1) fun _ => ?_
  exact Triple.bind _ (noteResults_held results) fun _ => triple_pure results fun _ => id

theorem after_held (options : HealthOptions) (cycles : List HealthCycle) :
    Held options (({} : RelayHealthMonitor).after options cycles) := by
  suffices general : ∀ monitor, Held options monitor →
      Held options (monitor.after options cycles) from
    general {} (checksInvariant_empty options.probeWorkers)
  induction cycles with
  | nil => exact fun monitor held => held
  | cons cycle rest ih => exact fun monitor held => ih _ ((probe_held cycle).holds held)

theorem background_checks_bounded (options : HealthOptions) (cycles : List HealthCycle) :
    BoundedAndCurrent options.probeWorkers
      (({} : RelayHealthMonitor).after options cycles).checks :=
  (after_held options cycles).toBoundedAndCurrent

end CamAdmiral
