import CamAdmiral.RelayConvergence
import Mathlib.Data.List.Chain

/-!
The journal of media revisions over runs. A call records the configuration it wants before it
talks to go2rtc and settles the record afterwards, so a revision that is marked as applied was
served at that time, and what is settled never changes.
-/

namespace CamAdmiral

open Program

/-! The table. -/

/-- Rows in the order of their ids. -/
def InOrder (revisions : List RevisionRow) : Prop :=
  revisions.Pairwise fun older newer => older.revisionId < newer.revisionId

/-- A revision is recorded again only after it has failed. -/
def Alternating (revisions : List RevisionRow) : Prop :=
  revisions.IsChain fun older newer =>
    older.desiredHash = newer.desiredHash → older.status = .failed

theorem latestRevision_snoc {older : List RevisionRow} {last : RevisionRow}
    (ordered : InOrder (older ++ [last])) : latestRevision (older ++ [last]) = some last := by
  rw [latestRevision, List.argmax_concat]
  cases isLatest : older.argmax RevisionRow.revisionId with
  | none => rfl
  | some latest =>
      have before := (List.pairwise_append.mp ordered).2.2 latest
        (List.argmax_mem isLatest) last List.mem_cons_self
      exact if_pos before

/-- A row with what a completion makes of it. -/
def RevisionRow.completed (row : RevisionRow) (status : RevisionStatus)
    (errorCode : Option String) : RevisionRow :=
  if row.status = .desired then { row with status := status, errorCode := errorCode } else row

/-- Only the latest row has its id. -/
theorem completeRevision_snoc {older : List RevisionRow} {last : RevisionRow}
    (ordered : InOrder (older ++ [last])) (status : RevisionStatus) (errorCode : Option String) :
    completeRevision (older ++ [last]) last.revisionId status errorCode =
      older ++ [last.completed status errorCode] := by
  rw [completeRevision, List.map_append]
  congr 1
  · refine (List.map_congr_left fun row member => if_neg ?_).trans (List.map_id' _)
    have before := (List.pairwise_append.mp ordered).2.2 row member last List.mem_cons_self
    rw [Bool.and_eq_true, decide_eq_true_eq]
    exact fun same => absurd same.1 (Nat.ne_of_lt before)
  · simp [RevisionRow.completed]

/-- Nothing but the outcome of a row changes, and that only once. -/
structure RowKept (older newer : RevisionRow) : Prop where
  revisionId : newer.revisionId = older.revisionId
  desiredHash : newer.desiredHash = older.desiredHash
  config : newer.config = older.config
  settled : older.status ≠ .desired → newer = older

theorem RowKept.refl (row : RevisionRow) : RowKept row row := ⟨rfl, rfl, rfl, fun _ => rfl⟩

theorem RowKept.trans {first second third : RevisionRow} (early : RowKept first second)
    (late : RowKept second third) : RowKept first third where
  revisionId := late.revisionId.trans early.revisionId
  desiredHash := late.desiredHash.trans early.desiredHash
  config := late.config.trans early.config
  settled isSettled := by
    obtain rfl := early.settled isSettled
    exact late.settled isSettled

theorem RowKept.completed (row : RevisionRow) (status : RevisionStatus)
    (errorCode : Option String) : RowKept row (row.completed status errorCode) := by
  unfold RevisionRow.completed
  split
  case isTrue isDesired => exact ⟨rfl, rfl, rfl, fun isSettled => absurd isDesired isSettled⟩
  case isFalse => exact .refl row

/-- Rows are added at the end, and no row but the last is ever changed. -/
def Grows (before after : List RevisionRow) : Prop :=
  ∀ older row, before = older ++ [row] →
    ∃ later added, after = older ++ later :: added ∧ RowKept row later

theorem Grows.refl (revisions : List RevisionRow) : Grows revisions revisions :=
  fun _ row isBefore => ⟨row, [], isBefore, .refl row⟩

theorem Grows.trans {first second third : List RevisionRow} (early : Grows first second)
    (late : Grows second third) : Grows first third := by
  intro older row isFirst
  obtain ⟨later, added, isSecond, kept⟩ := early older row isFirst
  rcases List.eq_nil_or_concat' added with rfl | ⟨between, last, rfl⟩
  · obtain ⟨last, added, isThird, keptLast⟩ := late older later isSecond
    exact ⟨last, added, isThird, kept.trans keptLast⟩
  · obtain ⟨newer, added, isThird, _⟩ := late (older ++ later :: between) last (by simp [isSecond])
    exact ⟨later, between ++ newer :: added, by simp [isThird], kept⟩

theorem Grows.snoc (older : List RevisionRow) (row : RevisionRow) :
    Grows older (older ++ [row]) := by
  rintro earlier last rfl
  exact ⟨last, [row], by simp, .refl last⟩

theorem Grows.last {older : List RevisionRow} {row later : RevisionRow}
    (kept : RowKept row later) : Grows (older ++ [row]) (older ++ [later]) := by
  intro earlier last same
  obtain ⟨rfl, isLast⟩ := List.append_inj' same rfl
  obtain rfl := List.cons.inj isLast |>.1
  exact ⟨later, [], rfl, kept⟩

/-! The journal. -/

section
variable {σ : Type} [TextCase] [MediaDigest]

/-- What a completion says: every source was served from its URI, or a recovery had saved those
that it replaced. -/
def Completion.Truthful (go2rtc : Go2rtc σ) (completion : Completion σ) : Prop :=
  let relay := go2rtc.state completion.relay
  match completion.recovered with
  | none => ∀ source ∈ completion.sources, Relay.Given relay source
  | some recovered => ∀ source ∈ recovered, Relay.Saved relay source

/-- The configuration of a revision is that of these sources. -/
def RevisionRow.IsOf (row : RevisionRow) (sources : List ManagedSource) : Prop :=
  (mediaConfig sources).map MediaDigest.digest = some row.desiredHash

structure Journal (go2rtc : Go2rtc σ) (session : MediaSession σ) : Prop where
  ordered : InOrder session.revisions
  alternating : Alternating session.revisions
  hashed : ∀ row ∈ session.revisions, row.desiredHash = MediaDigest.digest row.config
  coded : ∀ row ∈ session.revisions, row.errorCode.isSome = true ↔ row.status = .failed
  completed : ∀ row ∈ session.revisions, row.status = .applied →
    ∃ completion ∈ session.completions, completion.revisionId = row.revisionId ∧
      row.IsOf completion.sources
  truthful : ∀ completion ∈ session.completions, completion.Truthful go2rtc

/-- The row that a call has recorded, or found. -/
def LatestIs (sources : List ManagedSource) (revision : Nat × RevisionStatus)
    (revisions : List RevisionRow) : Prop :=
  ∃ older last, revisions = older ++ [last] ∧ last.revisionId = revision.1 ∧
    last.status = revision.2 ∧ last.IsOf sources

variable {go2rtc : Go2rtc σ} {session : MediaSession σ}

theorem Journal.relay (journal : Journal go2rtc session) (now : σ) :
    Journal go2rtc { session with relay := now } :=
  ⟨journal.ordered, journal.alternating, journal.hashed, journal.coded, journal.completed,
    journal.truthful⟩

/-- A new row has an id above the others, and the row before it has failed or is another. -/
theorem Journal.snoc (journal : Journal go2rtc session) (config : MediaConfig)
    (isNew : ∀ latest ∈ latestRevision session.revisions,
      latest.desiredHash = MediaDigest.digest config → latest.status = .failed) :
    Journal go2rtc { session with
      revisions := session.revisions ++ [{
        revisionId := nextRevisionId session.revisions
        desiredHash := MediaDigest.digest config
        config := config }] } := by
  obtain ⟨ordered, alternating, hashed, coded, completed, truthful⟩ := journal
  have above : ∀ row ∈ session.revisions, row.revisionId < nextRevisionId session.revisions := by
    intro row member
    rcases List.eq_nil_or_concat' session.revisions with isNil | ⟨older, last, isSnoc⟩
    · rw [isNil] at member
      cases member
    · rw [isSnoc] at ordered member ⊢
      rw [nextRevisionId, latestRevision_snoc ordered]
      rcases List.mem_append.mp member with isOlder | isLast
      · exact Nat.lt_succ_of_lt ((List.pairwise_append.mp ordered).2.2 row isOlder last
          List.mem_cons_self)
      · rw [List.mem_singleton.mp isLast]
        exact Nat.lt_succ_self _
  refine ⟨?_, ?_, ?_, ?_, ?_, truthful⟩
  · refine List.pairwise_append.mpr ⟨ordered, List.pairwise_singleton _ _, ?_⟩
    intro row member new isNew
    rw [List.mem_singleton.mp isNew]
    exact above row member
  · refine List.isChain_append.mpr ⟨alternating, List.isChain_singleton _, ?_⟩
    intro last isLast new isAdded same
    obtain rfl := Option.some.inj isAdded
    obtain ⟨older, isSnoc⟩ := List.getLast?_eq_some_iff.mp isLast
    refine isNew last ?_ same
    rw [isSnoc] at ordered ⊢
    exact latestRevision_snoc ordered
  all_goals
    intro row member
    rcases List.mem_append.mp member with isOld | isAdded
  · exact hashed row isOld
  · rw [List.mem_singleton.mp isAdded]
  · exact coded row isOld
  · rw [List.mem_singleton.mp isAdded]
    exact ⟨fun never => Bool.noConfusion never, fun never => RevisionStatus.noConfusion never⟩
  · exact completed row isOld
  · rw [List.mem_singleton.mp isAdded]
    exact fun never => RevisionStatus.noConfusion never

theorem triple_recordRevision (start : List RevisionRow) (sources : List ManagedSource) :
    Triple (fun session => Journal go2rtc session ∧ Grows start session.revisions)
      (Relay.recordDesiredMediaRevision sources)
      (fun revision session => (Journal go2rtc session ∧ Grows start session.revisions) ∧
        LatestIs sources revision session.revisions)
      (fun session => Journal go2rtc session ∧ Grows start session.revisions) := by
  intro session holds
  obtain ⟨journal, extended⟩ := holds
  unfold Relay.recordDesiredMediaRevision
  split
  case h_1 => exact ⟨journal, extended⟩
  case h_2 config isConfig =>
    have isOf {row : RevisionRow} (isHash : row.desiredHash = MediaDigest.digest config) :
        row.IsOf sources := by rw [RevisionRow.IsOf, isConfig, Option.map_some, isHash]
    dsimp only [Ends, desiredRevision]
    split
    case h_1 latest isKnown =>
      obtain ⟨isLatest, isSame⟩ := Option.filter_eq_some_iff.mp isKnown
      rw [Bool.and_eq_true, decide_eq_true_eq, decide_eq_true_eq] at isSame
      refine ⟨⟨journal, extended⟩, ?_⟩
      rcases List.eq_nil_or_concat' session.revisions with isNil | ⟨older, last, isSnoc⟩
      · rw [isNil] at isLatest
        cases isLatest
      · have ordered := isSnoc ▸ journal.ordered
        rw [isSnoc, latestRevision_snoc ordered] at isLatest
        obtain rfl := Option.some.inj isLatest
        exact ⟨older, last, isSnoc, rfl, rfl, isOf isSame.1⟩
    case h_2 isUnknown =>
      refine ⟨⟨journal.snoc config fun latest isLatest same => ?_, ?_⟩, ?_⟩
      · rw [Option.filter_eq_none_iff] at isUnknown
        have differs := isUnknown latest isLatest
        rw [Bool.and_eq_true, decide_eq_true_eq, decide_eq_true_eq] at differs
        by_contra notFailed
        exact differs ⟨same, notFailed⟩
      · exact extended.trans (.snoc _ _)
      · exact ⟨session.revisions, _, rfl, rfl, rfl, isOf rfl⟩

/-- The latest row is settled, with a completion if it is marked as applied. -/
theorem Journal.settle (journal : Journal go2rtc session) {older : List RevisionRow}
    {last : RevisionRow} (isSnoc : session.revisions = older ++ [last])
    (status : RevisionStatus) (errorCode : Option String) (added : List (Completion σ))
    (isCoded : errorCode.isSome = true ↔ status = .failed)
    (isCompleted : status = .applied → ∃ completion ∈ added,
      completion.revisionId = last.revisionId ∧ last.IsOf completion.sources)
    (truthful : ∀ completion ∈ added, completion.Truthful go2rtc) :
    Journal go2rtc { session with
      revisions := completeRevision session.revisions last.revisionId status errorCode
      completions := session.completions ++ added } := by
  have kept := RowKept.completed last status errorCode
  have ordered := isSnoc ▸ journal.ordered
  have alternating := isSnoc ▸ journal.alternating
  obtain ⟨_, _, hashed, coded, completed, earlier⟩ := journal
  have isHeld : last ∈ session.revisions := isSnoc ▸ List.mem_append_right _ List.mem_cons_self
  have others {row : RevisionRow} (member : row ∈ older) : row ∈ session.revisions :=
    isSnoc ▸ List.mem_append_left _ member
  rw [isSnoc, completeRevision_snoc ordered]
  refine ⟨?_, ?_, ?_, ?_, ?_, ?_⟩
  · obtain ⟨first, _, before⟩ := List.pairwise_append.mp ordered
    refine List.pairwise_append.mpr ⟨first, List.pairwise_singleton _ _, ?_⟩
    intro row member settled isSettled
    rw [List.mem_singleton.mp isSettled, kept.revisionId]
    exact before row member last List.mem_cons_self
  · obtain ⟨first, _, before⟩ := List.isChain_append.mp alternating
    refine List.isChain_append.mpr ⟨first, List.isChain_singleton _, ?_⟩
    intro row isLast settled isSettled
    obtain rfl := Option.some.inj isSettled
    rw [kept.desiredHash]
    exact before row isLast last rfl
  · intro row member
    rcases List.mem_append.mp member with isOlder | isLast
    · exact hashed row (others isOlder)
    · rw [List.mem_singleton.mp isLast, kept.desiredHash, kept.config]
      exact hashed last isHeld
  · intro row member
    rcases List.mem_append.mp member with isOlder | isLast
    · exact coded row (others isOlder)
    · rw [List.mem_singleton.mp isLast, RevisionRow.completed]
      split
      · exact isCoded
      · exact coded last isHeld
  · intro row member isApplied
    rcases List.mem_append.mp member with isOlder | isLast
    · obtain ⟨completion, isCompletion, facts⟩ := completed row (others isOlder) isApplied
      exact ⟨completion, List.mem_append_left _ isCompletion, facts⟩
    · obtain rfl := List.mem_singleton.mp isLast
      unfold RevisionRow.IsOf
      rw [kept.revisionId, kept.desiredHash]
      rw [RevisionRow.completed] at isApplied
      split at isApplied
      · obtain ⟨completion, isCompletion, facts⟩ := isCompleted isApplied
        exact ⟨completion, List.mem_append_right _ isCompletion, facts⟩
      · obtain ⟨completion, isCompletion, facts⟩ := completed last isHeld isApplied
        exact ⟨completion, List.mem_append_left _ isCompletion, facts⟩
  · intro completion isCompletion
    rcases List.mem_append.mp isCompletion with isOld | isAdded
    · exact earlier completion isOld
    · exact truthful completion isAdded

omit [TextCase] [MediaDigest] in
theorem Grows.complete {start revisions older : List RevisionRow} {last : RevisionRow}
    (extended : Grows start revisions) (ordered : InOrder revisions)
    (isSnoc : revisions = older ++ [last]) (status : RevisionStatus) (errorCode : Option String) :
    Grows start (completeRevision revisions last.revisionId status errorCode) := by
  subst isSnoc
  rw [completeRevision_snoc ordered]
  exact extended.trans (.last (.completed last status errorCode))

/-! The calls. -/

/-- The journal is in order and has only grown; the call has recorded what it wants. -/
def Pending (go2rtc : Go2rtc σ) (start : List RevisionRow) (sources : List ManagedSource)
    (revision : Nat × RevisionStatus) (session : MediaSession σ) : Prop :=
  (Journal go2rtc session ∧ Grows start session.revisions) ∧
    LatestIs sources revision session.revisions

theorem pending_requests {restarts : Bool} (start : List RevisionRow)
    (sources : List ManagedSource) (revision : Nat × RevisionStatus) :
    Relay.RequestsKeep go2rtc restarts (Pending go2rtc start sources revision) :=
  Relay.blind_requests fun _ now pending => ⟨⟨pending.1.1.relay now, pending.1.2⟩, pending.2⟩

theorem triple_failDesired {start : List RevisionRow} {sources : List ManagedSource}
    {revision : Nat × RevisionStatus} (errorCode : String) :
    Triple (Pending go2rtc start sources revision) (Relay.failDesired revision errorCode)
      (fun _ session => Journal go2rtc session ∧ Grows start session.revisions)
      (fun session => Journal go2rtc session ∧ Grows start session.revisions) := by
  unfold Relay.failDesired
  split
  · refine triple_modify _ fun session pending => ?_
    obtain ⟨⟨journal, extended⟩, older, last, isSnoc, isId, _⟩ := pending
    rw [← isId]
    have settled := journal.settle isSnoc .failed (some errorCode) [] (by simp)
      (fun never => RevisionStatus.noConfusion never) fun _ never => absurd never List.not_mem_nil
    rw [List.append_nil] at settled
    exact ⟨settled, extended.complete journal.ordered isSnoc _ _⟩
  · exact triple_pure () fun _ pending => pending.1

theorem triple_applyRevision {start : List RevisionRow} {sources : List ManagedSource}
    {revision : Nat × RevisionStatus} {recovered : Option (List ManagedSource)}
    {condition : RelayState → Prop} (isTrue : ∀ now, condition (go2rtc.state now) →
      Completion.Truthful go2rtc ⟨revision.1, sources, recovered, now⟩) :
    Triple (fun session => Pending go2rtc start sources revision session ∧
        Relay.On go2rtc condition session)
      (Relay.applyRevision revision.1 sources recovered)
      (fun _ session => Journal go2rtc session ∧ Grows start session.revisions)
      (fun session => Journal go2rtc session ∧ Grows start session.revisions) := by
  refine triple_modify _ fun session holds => ?_
  obtain ⟨⟨⟨journal, extended⟩, older, last, isSnoc, isId, _, isOf⟩, holds⟩ := holds
  rw [← isId]
  have noted : Completion.Truthful go2rtc
      ⟨last.revisionId, sources, recovered, session.relay⟩ :=
    isId ▸ isTrue session.relay holds
  refine ⟨journal.settle isSnoc .applied none [_] (by simp)
    (fun _ => ⟨_, List.mem_cons_self, rfl, isOf⟩) fun completion member => ?_,
    extended.complete journal.ordered isSnoc _ _⟩
  exact List.mem_singleton.mp member ▸ noted

theorem triple_applyDesired {start : List RevisionRow} {sources : List ManagedSource}
    {revision : Nat × RevisionStatus} {recovered : Option (List ManagedSource)}
    {condition : RelayState → Prop} (isTrue : ∀ now, condition (go2rtc.state now) →
      Completion.Truthful go2rtc ⟨revision.1, sources, recovered, now⟩) :
    Triple (fun session => Pending go2rtc start sources revision session ∧
        Relay.On go2rtc condition session)
      (Relay.applyDesired revision sources recovered)
      (fun _ session => Journal go2rtc session ∧ Grows start session.revisions)
      (fun session => Journal go2rtc session ∧ Grows start session.revisions) := by
  unfold Relay.applyDesired
  split
  · exact triple_applyRevision isTrue
  · exact triple_pure () fun _ holds => holds.1.1

/-! What a replacement leaves behind. -/

omit [TextCase] [MediaDigest] in
theorem lookup_mergeKeys_agree {held added : StreamMap} {name : String} {value : List String}
    (agree : ∀ entry ∈ added, entry.1 = name → entry.2 = value)
    (given : (∃ entry ∈ added, entry.1 = name) ∨ held.lookup name = some value) :
    (mergeKeys held added).lookup name = some value := by
  induction added generalizing held with
  | nil =>
      rcases given with ⟨entry, never, _⟩ | isHeld
      · cases never
      · exact isHeld
  | cons first rest ih =>
      refine ih (fun entry member => agree entry (List.mem_cons_of_mem _ member)) ?_
      rw [lookup_setKey]
      by_cases same : first.1 = name
      · rw [if_pos same.symm, agree first List.mem_cons_self same]
        exact .inr rfl
      · rw [if_neg (Ne.symm same)]
        refine given.imp_left fun ⟨entry, member, isName⟩ => ?_
        rcases List.mem_cons.mp member with rfl | isRest
        · exact absurd isName same
        · exact ⟨entry, isRest, isName⟩

omit [MediaDigest] in
/-- What `replace_streams` writes has every source. -/
theorem lookup_persisted {sources : List ManagedSource} (keys : ManagedKeys sources)
    {persisted : StreamMap} (isPersisted : Relay.persistedStreams sources = .ok persisted)
    {source : ManagedSource} (member : source ∈ sources) :
    ∃ uri, source.relayUri = some uri ∧
      ∀ held, (mergeKeys held persisted).lookup source.streamKey = some [uri] := by
  obtain ⟨entries, isEntries, isMerged⟩ := except_bind isPersisted
  obtain rfl := Except.ok.inj isMerged
  have readable {other : ManagedSource} {entry : String × List String}
      (isEntry : (do
        let uri ← Relay.readableUri other
        pure (other.streamKey, [uri]) : Except RelayFailure (String × List String)) = .ok entry) :
      ∃ uri, other.relayUri = some uri ∧ entry = (other.streamKey, [uri]) := by
    obtain ⟨uri, isUri, isEntry⟩ := except_bind isEntry
    refine ⟨uri, ?_, (Except.ok.inj isEntry).symm⟩
    unfold Relay.readableUri at isUri
    split at isUri
    · obtain rfl := Except.ok.inj isUri
      assumption
    · cases isUri
  obtain ⟨own, isOwn, isEntry⟩ := mapM_ok_of_mem isEntries member
  obtain ⟨uri, isUri, rfl⟩ := readable isEntry
  refine ⟨uri, isUri, fun held => ?_⟩
  have agree : ∀ entry ∈ entries, entry.1 = source.streamKey → entry.2 = [uri] := by
    intro entry isMember sameKey
    obtain ⟨other, isOther, isEntry⟩ := mem_mapM_ok isEntries isMember
    obtain ⟨otherUri, isOtherUri, rfl⟩ := readable isEntry
    obtain rfl := keys.unique.eq isOther member sameKey
    rw [isUri] at isOtherUri
    rw [Option.some.inj isOtherUri]
  have inMerged : (mergeKeys [] entries).lookup source.streamKey = some [uri] :=
    lookup_mergeKeys_agree agree (.inl ⟨_, isOwn, rfl⟩)
  refine lookup_mergeKeys_agree (fun entry isMember sameKey => ?_)
    (.inl ⟨_, mem_of_lookup inMerged, rfl⟩)
  rcases mem_mergeKeys isMember with never | isNew
  · cases never
  · exact agree entry isNew sameKey

omit [TextCase] [MediaDigest] in
/-- The end of a replacement. -/
theorem preserves_restart {condition : RelayState → Prop}
    (kept : ∀ relay now, condition relay → Partly relay (RelayWrite.restart.apply relay) now →
      condition now) :
    Preserves (Relay.On go2rtc condition) (do
      catching (· = .connection) (Relay.send go2rtc .restart) fun _ => pure ()
      Relay.waitForGo2rtc go2rtc 50) :=
  (Relay.preserves_catching (Relay.preserves_sendOn kept) fun _ => preserves_pure ()).bind
    fun _ => Relay.preserves_waitForGo2rtc (Relay.preserves_askOn .api) 50

omit [MediaDigest] in
theorem triple_replaceStreams_saved {sources : List ManagedSource} (keys : ManagedKeys sources) :
    Triple (fun _ => True) (Relay.replaceStreams go2rtc sources)
      (fun _ => Relay.On go2rtc fun relay => ∀ source ∈ sources, Relay.Saved relay source)
      (fun _ => True) := by
  have waits : Preserves (Relay.On go2rtc fun _ => True) (Relay.waitForGo2rtc go2rtc 20) :=
    Relay.preserves_waitForGo2rtc (Relay.preserves_askOn .api) 20
  refine Triple.bind _ waits fun _ => triple_ofExcept_bind (fun persisted isPersisted => ?_)
    fun _ _ _ => id
  split
  case isTrue isEmpty =>
    refine triple_pure () fun session _ source member => ?_
    obtain ⟨uri, _, found⟩ := lookup_persisted keys isPersisted member
    rw [List.isEmpty_iff] at isEmpty
    subst isEmpty
    cases found []
  case isFalse =>
    refine (Relay.triple_sendOn fun relay _ source member => ?_).weaken (fun _ => id)
      (fun _ _ => id) (fun _ _ => trivial) |>.bind _ fun _ =>
        (preserves_restart fun relay now saved partly source member => ?_).weaken (fun _ => id)
          (fun _ _ => id) fun _ _ => trivial
    · obtain ⟨uri, isUri, found⟩ := lookup_persisted keys isPersisted member
      exact ⟨uri, isUri, found _⟩
    · obtain ⟨uri, isUri, isSaved⟩ := saved source member
      refine ⟨uri, isUri, ?_⟩
      rcases partly.saved with same | same
      · rw [same]
        exact isSaved
      · rw [same]
        exact isSaved

omit [MediaDigest] in
theorem preserves_replaceStreams_given {sources : List ManagedSource} (keys : ManagedKeys sources) :
    Preserves (Relay.On go2rtc fun relay => ∀ source ∈ sources, Relay.Given relay source)
      (Relay.replaceStreams go2rtc sources) := by
  refine (Relay.preserves_waitForGo2rtc (Relay.preserves_askOn .api) 20).bind fun _ =>
    preserves_ofExcept_bind fun persisted isPersisted => ?_
  split
  · exact preserves_pure ()
  · refine (Relay.preserves_sendOn fun relay now given partly source member => ?_).bind fun _ =>
      preserves_restart fun relay now given partly source member => ?_
    · obtain ⟨uri, isUri, served, saved⟩ := given source member
      obtain ⟨other, isOther, found⟩ := lookup_persisted keys isPersisted member
      rw [isUri] at isOther
      obtain rfl := Option.some.inj isOther
      refine ⟨uri, isUri, ?_, ?_⟩
      · rcases partly.served with same | same
        · rw [same]
          exact served
        · rw [same]
          exact served
      · rcases partly.saved with same | same
        · rw [same]
          exact saved
        · rw [same]
          exact found _
    · obtain ⟨uri, isUri, served, saved⟩ := given source member
      refine ⟨uri, isUri, ?_, ?_⟩
      · rcases partly.served with same | same
        · rw [same]
          exact served
        · rw [same]
          exact saved
      · rcases partly.saved with same | same
        · rw [same]
          exact saved
        · rw [same]
          exact saved

/-! What a call does to the journal. -/

/-- The journal is in order, and has grown. -/
def JournalFrom (go2rtc : Go2rtc σ) (start : List RevisionRow) (session : MediaSession σ) :
    Prop :=
  Journal go2rtc session ∧ Grows start session.revisions

variable {start : List RevisionRow} {sources : List ManagedSource}

theorem journal_reconcileAndProbe (keys : ManagedKeys sources) :
    Preserves (JournalFrom go2rtc start) (Relay.reconcileAndProbe go2rtc sources) := by
  refine Triple.bind _ (triple_recordRevision start sources) fun revision => ?_
  have keep : Relay.RequestsKeep go2rtc false (Pending go2rtc start sources revision) :=
    pending_requests start sources revision
  have serves := (Relay.preserves_serveSources keep keys).and (Relay.triple_serveSources keys)
  refine Triple.bind (fun _ session => Pending go2rtc start sources revision session ∧
    Relay.On go2rtc (Relay.Converged go2rtc sources) session) ?_ fun _ => ?_
  · refine Relay.triple_catching (serves.weaken (fun _ pending => ⟨pending, trivial⟩)
      (fun _ _ => id) fun _ => And.left) (fun failure _ => ?_) fun _ => And.left
    exact (triple_failDesired _).bind _ fun _ => triple_fail failure fun _ => id
  · exact triple_applyDesired fun now converged => converged.given

theorem journal_reconcileRuntimeDrift (keys : ManagedKeys sources) :
    Preserves (JournalFrom go2rtc start) (Relay.reconcileRuntimeDrift go2rtc sources) := by
  have keep : Relay.RequestsKeep go2rtc false (JournalFrom go2rtc start) :=
    Relay.blind_requests fun _ now kept => ⟨kept.1.relay now, kept.2⟩
  refine (Relay.preserves_runtimeStreamKeys keep).bind fun names => ?_
  dsimp only
  split
  · exact preserves_pure false
  · exact (journal_reconcileAndProbe keys).bind fun _ => preserves_pure true

theorem journal_setCameraStreamSettings (keys : ManagedKeys sources) :
    Preserves (JournalFrom go2rtc start) (Relay.setCameraStreamSettings go2rtc sources) := by
  refine Triple.bind _ (triple_recordRevision start sources) fun revision => ?_
  have keep : Relay.RequestsKeep go2rtc true (Pending go2rtc start sources revision) :=
    pending_requests start sources revision
  have puts := (Relay.preserves_reconcileStreams keep keys).and (Relay.triple_reconcileStreams keys)
  have replaces := (Relay.preserves_replaceStreams keep keys).and
    (preserves_replaceStreams_given keys)
  refine (puts.weaken (fun _ pending => ⟨pending, trivial⟩) (fun _ _ => id)
    fun _ fails => fails.1.1).bind _ fun _ => ?_
  refine (replaces.weaken (fun _ holds => ⟨holds.1, holds.2.1⟩) (fun _ _ => id)
    fun _ fails => fails.1.1).bind _ fun _ => ?_
  exact triple_applyRevision fun now given => given

theorem journal_recoverInventoryAddresses {runtimeSources : List ManagedSource}
    (keys : ManagedKeys runtimeSources) (verified : Bool) :
    Preserves (JournalFrom go2rtc start)
      (Relay.recoverInventoryAddresses go2rtc sources runtimeSources verified) := by
  refine Triple.bind _ (triple_recordRevision start sources) fun revision => ?_
  have keep : Relay.RequestsKeep go2rtc true (Pending go2rtc start sources revision) :=
    pending_requests start sources revision
  have replaces := (Relay.preserves_replaceStreams keep keys).and (triple_replaceStreams_saved keys)
  refine Triple.bind (fun _ session => Pending go2rtc start sources revision session ∧
    Relay.On go2rtc (fun relay => ∀ source ∈ runtimeSources, Relay.Saved relay source) session)
    ?_ fun _ => ?_
  · refine Relay.triple_catching ((replaces.weaken (fun _ pending => ⟨pending, trivial⟩)
      (fun _ _ => id) fun _ => And.left).bind _ fun _ => ?_) (fun failure _ => ?_) fun _ => And.left
    · split
      · exact triple_pure () fun _ => id
      · exact triple_fail _ fun _ => And.left
    · exact (triple_failDesired _).bind _ fun _ => triple_fail failure fun _ => id
  · exact triple_applyDesired fun now saved => saved

end

/-! Runs. -/

section
variable {σ : Type} [TextCase] [UrlText] [MediaDigest] {go2rtc : Go2rtc σ}
  {start : List RevisionRow} {middle system : MediaSystem σ}

theorem mediaStep_journal {action : MediaAction σ} (keys : ManagedKeys system.sources)
    (kept : JournalFrom go2rtc start system.session) :
    JournalFrom go2rtc start (mediaStep go2rtc system action).session := by
  cases action with
  | repository call => exact kept
  | relay now => exact ⟨kept.1.relay now, kept.2⟩
  | reconcileAndProbe => exact (journal_reconcileAndProbe keys).holds kept
  | reconcileRuntimeDrift => exact (journal_reconcileRuntimeDrift keys).holds kept
  | setCameraStreamSettings => exact (journal_setCameraStreamSettings keys).holds kept
  | recoverInventoryAddresses cameras verified =>
      exact (journal_recoverInventoryAddresses (keys.filter _) verified).holds kept
  | rollBackRuntime cameras =>
      have keep : Relay.RequestsKeep go2rtc true (JournalFrom go2rtc start) :=
        Relay.blind_requests fun _ now kept => ⟨kept.1.relay now, kept.2⟩
      exact (Relay.preserves_catching (Relay.preserves_replaceStreams keep (keys.filter _))
        fun _ => preserves_pure ()).holds kept

theorem MediaRun.journal (run : MediaRun go2rtc (fun _ _ => True) middle system)
    (schema : Schema middle.history.repository)
    (kept : JournalFrom go2rtc start middle.session) :
    JournalFrom go2rtc start system.session := by
  refine (run.invariant (fun system => Schema system.history.repository ∧
    JournalFrom go2rtc start system.session) ⟨schema, kept⟩ ?_).2
  rintro system action _ ⟨schema, kept⟩ ⟨fresh, _⟩ rfl
  exact ⟨mediaStep_schema schema fresh,
    mediaStep_journal (managedStreamSources_keys schema {}) kept⟩

omit [UrlText] in
theorem journal_new (relay : σ) : Journal go2rtc (MediaSystem.new relay).session :=
  ⟨List.Pairwise.nil, List.isChain_nil, fun _ never => absurd never List.not_mem_nil,
    fun _ never => absurd never List.not_mem_nil, fun _ never => absurd never List.not_mem_nil,
    fun _ never => absurd never List.not_mem_nil⟩

omit [TextCase] [UrlText] [MediaDigest] in
theorem Grows.mem {before after : List RevisionRow} (grows : Grows before after)
    {row : RevisionRow} (member : row ∈ before) : ∃ later ∈ after, RowKept row later := by
  rcases List.eq_nil_or_concat' before with rfl | ⟨older, last, rfl⟩
  · cases member
  · obtain ⟨later, added, rfl, kept⟩ := grows older last rfl
    rcases List.mem_append.mp member with isOlder | isLast
    · exact ⟨row, List.mem_append_left _ isOlder, .refl row⟩
    · exact ⟨later, by simp, List.mem_singleton.mp isLast ▸ kept⟩

/-- Through all runs, with requests that fail and calls that are cut short anywhere: the journal
only grows, a settled revision never changes, and whatever is marked as applied, so also the
last known good revision, was served at that time, or saved by a recovery. -/
theorem media_revisions_truthful {relay : σ}
    (early : MediaRun go2rtc (fun _ _ => True) (.new relay) middle)
    (late : MediaRun go2rtc (fun _ _ => True) middle system) :
    Journal go2rtc system.session ∧
      Grows middle.session.revisions system.session.revisions ∧
      ∀ good, lastKnownGoodMediaRevision middle.session.revisions = some good →
        ∃ later, lastKnownGoodMediaRevision system.session.revisions = some later ∧
          good.revisionId ≤ later.revisionId := by
  have schema := early.schema schema_empty
  have atMiddle := early.journal schema_empty ⟨journal_new relay, .refl _⟩
  obtain ⟨journal, grows⟩ := late.journal schema ⟨atMiddle.1, .refl _⟩
  refine ⟨journal, grows, fun good isGood => ?_⟩
  obtain ⟨isHeld, isApplied⟩ := List.mem_filter.mp (List.argmax_mem isGood)
  rw [decide_eq_true_eq] at isApplied
  obtain ⟨row, member, kept⟩ := grows.mem isHeld
  have isSettled : good.status ≠ .desired := by
    rw [isApplied]
    exact fun never => RevisionStatus.noConfusion never
  obtain rfl := kept.settled isSettled
  have isLater : row ∈ system.session.revisions.filter (·.status = .applied) :=
    List.mem_filter.mpr ⟨member, decide_eq_true isApplied⟩
  cases isLatest : lastKnownGoodMediaRevision system.session.revisions with
  | none =>
      rw [lastKnownGoodMediaRevision, latestRevision, List.argmax_eq_none] at isLatest
      rw [isLatest] at isLater
      cases isLater
  | some later => exact ⟨later, rfl, List.le_of_mem_argmax isLater isLatest⟩

end

/-- go2rtc loses everything after the front door was served. -/
theorem front_revisions_kept :
    let _ := asciiCase
    let _ := plainUrls
    let _ := plainDigest
    let adopted := mediaStep plainRelay sharedRelay
      (.repository ⟨.adopt frontDoor, 1, uuidSupply 'a'⟩)
    let served := mediaStep plainRelay adopted .reconcileAndProbe
    let restored := mediaStep plainRelay (mediaStep plainRelay served (.relay {}))
      .reconcileRuntimeDrift
    Journal plainRelay restored.session ∧
      Grows served.session.revisions restored.session.revisions := by
  intro text urls hashes adopted served restored
  have fresh : FreshCall sharedRelay.history ⟨.adopt frontDoor, 1, uuidSupply 'a'⟩ :=
    freshCall_uuidSupply _ (by simp [usedUuids, sharedRelay, MediaSystem.new]) (Nat.zero_le 1)
  have early : MediaRun plainRelay (fun _ _ => True) sharedRelay served :=
    (Reaches.start.step (.repository ⟨.adopt frontDoor, 1, uuidSupply 'a'⟩)
      ⟨fresh, trivial⟩ rfl).step .reconcileAndProbe ⟨trivial, trivial⟩ rfl
  have late : MediaRun plainRelay (fun _ _ => True) served restored :=
    (Reaches.start.step (.relay {}) ⟨trivial, trivial⟩ rfl).step .reconcileRuntimeDrift
      ⟨trivial, trivial⟩ rfl
  obtain ⟨journal, grows, _⟩ := media_revisions_truthful early late
  exact ⟨journal, grows⟩

end CamAdmiral
