import CamAdmiral.FrigateRemoval
import CamAdmiral.ImportSync
import CamAdmiral.RelayCore
import Mathlib.Data.List.Dedup

/-!
What the calls to go2rtc send. Every program of requests keeps what its requests keep, and
these name managed streams only; so whatever happens, what does not carry the prefix of a
managed stream is left alone.
-/

namespace CamAdmiral

open Program

/-! The sources of a repository. -/

/-- Names of their own, all with the prefix. -/
structure ManagedKeys (sources : List ManagedSource) : Prop where
  unique : Unique ManagedSource.streamKey sources
  managed : ∀ source ∈ sources, startsWith source.streamKey Relay.streamPrefix = true

theorem ManagedKeys.filter {sources : List ManagedSource} (keys : ManagedKeys sources)
    (keep : ManagedSource → Bool) : ManagedKeys (sources.filter keep) :=
  ⟨keys.unique.filter keep, fun source member => keys.managed source (List.mem_filter.mp member).1⟩

theorem Unique.filterMap {α β κ : Type*} {key : α → κ} {resultKey : β → κ} {rows : List α}
    (unique : Unique key rows) {find : α → Option β}
    (sameKey : ∀ row ∈ rows, ∀ result, find row = some result → resultKey result = key row) :
    Unique resultKey (rows.filterMap find) := by
  refine List.Nodup.sublist ?_ unique
  clear unique
  induction rows with
  | nil => exact .slnil
  | cons row rest ih =>
      have tail := ih fun other member => sameKey other (List.mem_cons_of_mem _ member)
      cases found : find row with
      | none =>
          rw [List.filterMap_cons_none found]
          exact tail.cons _
      | some result =>
          rw [List.filterMap_cons_some found, List.map_cons, List.map_cons,
            sameKey row List.mem_cons_self result found]
          exact tail.cons_cons _

section
variable [TextCase] [UrlText]

omit [TextCase] in
theorem managedSource_key {repository : Repository} {options : SourceOptions}
    {stream : StreamRow} {source : ManagedSource}
    (isSource : managedSource repository options stream = some source) :
    source.streamKey = stream.streamKey := by
  simp only [managedSource, Option.bind_eq_bind, Option.bind_eq_some_iff] at isSource
  obtain ⟨profile, _, camera, _, credential, _, selected⟩ := isSource
  split at selected
  · obtain rfl := Option.some.inj selected
    rfl
  · cases selected

omit [TextCase] in
theorem managedStreamSources_keys {repository : Repository} (schema : Schema repository)
    (options : SourceOptions) : ManagedKeys (managedStreamSources repository options) := by
  constructor
  · have streamKeys : Unique StreamRow.streamKey repository.streams := by
      refine List.Nodup.map_on (fun one isOne two isTwo same => ?_)
        (List.Nodup.of_map _ schema.streamIds)
      rw [schema.streamKey one isOne, schema.streamKey two isTwo] at same
      exact schema.streamIds.eq isOne isTwo ((String.append_right_inj "stream_").mp same)
    have own : Unique ManagedSource.streamKey
        (repository.streams.filterMap (managedSource repository options)) :=
      streamKeys.filterMap fun _ _ _ => managedSource_key
    exact ((List.perm_insertionSort _ _).map _).nodup_iff.mpr own
  · intro source member
    rw [managedStreamSources, List.mem_insertionSort, List.mem_filterMap] at member
    obtain ⟨stream, isStream, isSource⟩ := member
    rw [managedSource_key isSource, schema.streamKey stream isStream]
    exact startsWith_longer _ (by decide)

end

namespace Relay

variable {σ α : Type} {go2rtc : Go2rtc σ}

/-! What a request does. -/

/-- A condition on go2rtc alone. -/
def On (go2rtc : Go2rtc σ) (condition : RelayState → Prop) (session : MediaSession σ) : Prop :=
  condition (go2rtc.state session.relay)

theorem triple_ask {request : RelayRead} {before failed : MediaSession σ → Prop}
    {done : Listing → MediaSession σ → Prop}
    (reads : ∀ session listing now, before session →
      go2rtc.read request session.relay = (.ok listing, now) →
        done listing { session with relay := now })
    (fails : ∀ session failure now, before session →
      go2rtc.read request session.relay = (.error failure, now) →
        failed { session with relay := now }) :
    Triple before (ask go2rtc request) done failed := by
  intro session holds
  unfold ask
  cases isAnswer : go2rtc.read request session.relay with
  | mk result now =>
      cases result with
      | ok listing => exact reads session listing now holds isAnswer
      | error failure => exact fails session failure now holds isAnswer

theorem triple_send {request : RelayWrite} {before failed : MediaSession σ → Prop}
    {done : Unit → MediaSession σ → Prop}
    (succeeds : ∀ session now, before session →
      go2rtc.write request session.relay = (.ok (), now) →
        done () { session with relay := now })
    (fails : ∀ session failure now, before session →
      go2rtc.write request session.relay = (.error failure, now) →
        failed { session with relay := now }) :
    Triple before (send go2rtc request) done failed := by
  intro session holds
  unfold send
  cases isAnswer : go2rtc.write request session.relay with
  | mk result now =>
      cases result with
      | ok _ => exact succeeds session now holds isAnswer
      | error failure => exact fails session failure now holds isAnswer

theorem read_same {request : RelayRead} {relay now : σ} {result : Except RelayFailure Listing}
    (isAnswer : go2rtc.read request relay = (result, now)) :
    go2rtc.state now = go2rtc.state relay := by
  have same := go2rtc.read_state request relay
  rwa [isAnswer] at same

theorem write_applied {request : RelayWrite} {relay now : σ}
    (isAnswer : go2rtc.write request relay = (.ok (), now)) :
    go2rtc.state now = request.apply (go2rtc.state relay) := by
  have done := go2rtc.write_done request relay
  rw [isAnswer] at done
  exact done rfl

theorem write_partly {request : RelayWrite} {relay now : σ} {result : Except RelayFailure Unit}
    (isAnswer : go2rtc.write request relay = (result, now)) :
    Partly (go2rtc.state relay) (request.apply (go2rtc.state relay)) (go2rtc.state now) := by
  have partly := go2rtc.write_failed request relay
  rwa [isAnswer] at partly

variable {failed : MediaSession σ → Prop}

theorem triple_catching {program : MediaTalk σ α} {caught : RelayFailure → Bool}
    {handler : RelayFailure → MediaTalk σ α} {before thrown : MediaSession σ → Prop}
    {done : α → MediaSession σ → Prop} (early : Triple before program done thrown)
    (late : ∀ failure, caught failure = true → Triple thrown (handler failure) done failed)
    (uncaught : ∀ session, thrown session → failed session) :
    Triple before (catching caught program handler) done failed := by
  refine early.handle fun failure => ?_
  by_cases isCaught : caught failure = true
  · rw [if_pos isCaught]
    exact late failure isCaught
  · rw [if_neg isCaught]
    exact triple_fail failure uncaught

theorem preserves_catching {program : MediaTalk σ α} {caught : RelayFailure → Bool}
    {handler : RelayFailure → MediaTalk σ α} {invariant : MediaSession σ → Prop}
    (early : Preserves invariant program)
    (late : ∀ failure, Preserves invariant (handler failure)) :
    Preserves invariant (catching caught program handler) :=
  triple_catching early (fun failure _ => late failure) fun _ => id

theorem preserves_askOn {condition : RelayState → Prop} (request : RelayRead) :
    Preserves (On go2rtc condition) (ask go2rtc request) :=
  triple_ask
    (fun session _ now holds isAnswer => by
      rw [On, read_same isAnswer]
      exact holds)
    (fun session _ now holds isAnswer => by
      rw [On, read_same isAnswer]
      exact holds)

/-- A condition that a request keeps, whatever part of it is done. -/
theorem preserves_sendOn {condition : RelayState → Prop} {request : RelayWrite}
    (kept : ∀ relay now, condition relay → Partly relay (request.apply relay) now →
      condition now) : Preserves (On go2rtc condition) (send go2rtc request) :=
  triple_send (fun _ _ holds isAnswer => kept _ _ holds (write_partly isAnswer))
    fun _ _ _ holds isAnswer => kept _ _ holds (write_partly isAnswer)

/-! Every program of requests keeps what its requests keep. -/

/-- A write that names managed streams only. -/
def ManagedWrite (restarts : Bool) : RelayWrite → Prop
  | .putStream name _ | .deleteStream name | .putPreload name | .deletePreload name =>
      startsWith name streamPrefix = true
  | .patchConfig streams => restarts = true ∧
      ∀ stream ∈ streams, startsWith stream.1 streamPrefix = true
  | .restart => restarts = true

structure RequestsKeep (go2rtc : Go2rtc σ) (restarts : Bool)
    (invariant : MediaSession σ → Prop) : Prop where
  asks : ∀ request, Preserves invariant (ask go2rtc request)
  sends : ∀ request, ManagedWrite restarts request → Preserves invariant (send go2rtc request)

section
variable {restarts : Bool} {invariant : MediaSession σ → Prop}

theorem preserves_waitForGo2rtc (asks : Preserves invariant (ask go2rtc .api)) (attempts : Nat) :
    Preserves invariant (waitForGo2rtc go2rtc attempts) := by
  induction attempts with
  | zero => exact preserves_pure ()
  | succ remaining ih =>
      refine preserves_catching (asks.bind fun _ => preserves_pure ()) fun failure => ?_
      split
      · exact preserves_fail failure
      · exact ih

theorem preserves_runtimeStreamKeys (keep : RequestsKeep go2rtc restarts invariant) :
    Preserves invariant (runtimeStreamKeys go2rtc) :=
  (keep.asks _).bind fun _ => preserves_ofExcept _

theorem preserves_dropStale (keep : RequestsKeep go2rtc restarts invariant)
    (desired : List String) (item : Option String) :
    Preserves invariant (dropStale go2rtc desired item) := by
  unfold dropStale
  split
  · exact preserves_fail _
  · split
    case isTrue isStale => exact keep.sends _ (Bool.and_eq_true_iff.mp isStale).1
    case isFalse => exact preserves_pure ()

theorem preserves_reconcilePreloads (keep : RequestsKeep go2rtc restarts invariant)
    {sources : List ManagedSource} (keys : ManagedKeys sources) :
    Preserves invariant (reconcilePreloads go2rtc sources) := by
  have listed : Preserves invariant (preloadStreamKeys go2rtc) :=
    (keep.asks _).bind fun _ => preserves_ofExcept _
  refine listed.bind fun current => Preserves.bind (preserves_each fun streamKey _ => ?_)
    fun _ => preserves_each fun streamKey member => ?_
  · split
    case isTrue isManaged => exact keep.sends _ isManaged
    case isFalse => exact preserves_pure ()
  · have isKey : streamKey ∈ sources.map (·.streamKey) := by
      rw [sortedNames, List.mem_mergeSort, List.mem_filter, List.mem_dedup] at member
      exact member.1
    obtain ⟨source, isSource, rfl⟩ := List.mem_map.mp isKey
    have sends := keep.sends (.putPreload source.streamKey) (keys.managed source isSource)
    exact (preserves_catching (sends.bind fun _ => preserves_pure true)
      fun _ => preserves_pure false).bind fun _ => preserves_pure ()

variable [TextCase]

theorem preserves_reconcileStreams (keep : RequestsKeep go2rtc restarts invariant)
    {sources : List ManagedSource} (keys : ManagedKeys sources) :
    Preserves invariant (reconcileStreams go2rtc sources) := by
  refine (preserves_waitForGo2rtc (keep.asks _) 20).bind fun _ => (keep.asks _).bind fun listing =>
    (preserves_ofExcept _).bind fun current =>
      (preserves_each fun item _ => preserves_dropStale keep _ item).bind fun _ =>
        preserves_each fun source member => ?_
  exact (preserves_ofExcept _).bind fun uri => keep.sends _ (keys.managed source member)

omit [TextCase] in
theorem mergeKeys_managed {names : StreamMap} {held : StreamMap}
    (isManaged : ∀ stream ∈ names, startsWith stream.1 streamPrefix = true)
    (isHeld : ∀ stream ∈ held, startsWith stream.1 streamPrefix = true) :
    ∀ stream ∈ mergeKeys held names, startsWith stream.1 streamPrefix = true := by
  intro stream member
  rcases mem_mergeKeys member with isOld | isNew
  · exact isHeld stream isOld
  · exact isManaged stream isNew

theorem persistedStreams_managed {sources : List ManagedSource} (keys : ManagedKeys sources)
    {persisted : StreamMap} (isPersisted : persistedStreams sources = .ok persisted) :
    ∀ stream ∈ persisted, startsWith stream.1 streamPrefix = true := by
  obtain ⟨entries, isEntries, isMerged⟩ := except_bind isPersisted
  obtain rfl := Except.ok.inj isMerged
  refine mergeKeys_managed (fun entry member => ?_) fun _ never => absurd never List.not_mem_nil
  obtain ⟨source, isSource, isEntry⟩ := mem_mapM_ok isEntries member
  obtain ⟨uri, _, isEntry⟩ := except_bind isEntry
  obtain rfl := Except.ok.inj isEntry
  exact keys.managed source isSource

theorem preserves_replaceStreams (keep : RequestsKeep go2rtc true invariant)
    {sources : List ManagedSource} (keys : ManagedKeys sources) :
    Preserves invariant (replaceStreams go2rtc sources) := by
  refine (preserves_waitForGo2rtc (keep.asks _) 20).bind fun _ =>
    preserves_ofExcept_bind fun persisted isPersisted => ?_
  split
  · exact preserves_pure ()
  · have patches := keep.sends (.patchConfig persisted)
      ⟨rfl, persistedStreams_managed keys isPersisted⟩
    exact patches.bind fun _ => (preserves_catching (keep.sends .restart rfl)
      fun _ => preserves_pure ()).bind fun _ => preserves_waitForGo2rtc (keep.asks _) 50

end

/-! What does not belong to CamAdmiral. -/

/-- What has no prefix is as it was, or as it was saved if go2rtc may be restarted. -/
structure ForeignKept (restarts : Bool) (before after : RelayState) : Prop where
  served : ∀ name, startsWith name streamPrefix = false →
    after.served.lookup name = before.served.lookup name ∨
      restarts = true ∧ after.served.lookup name = before.saved.lookup name
  saved : ∀ name, startsWith name streamPrefix = false →
    after.saved.lookup name = before.saved.lookup name
  preloads : ∀ name, startsWith name streamPrefix = false →
    (name ∈ after.preloads ↔ name ∈ before.preloads)

theorem ForeignKept.refl (restarts : Bool) (relay : RelayState) :
    ForeignKept restarts relay relay :=
  ⟨fun _ _ => .inl rfl, fun _ _ => rfl, fun _ _ => .rfl⟩

theorem managed_ne {name other : String} (isManaged : startsWith name streamPrefix = true)
    (isForeign : startsWith other streamPrefix = false) : other ≠ name := by
  rintro rfl
  rw [isManaged] at isForeign
  cases isForeign

theorem lookup_mergeKeys_foreign {added held : StreamMap} {name : String}
    (isManaged : ∀ stream ∈ added, startsWith stream.1 streamPrefix = true)
    (isForeign : startsWith name streamPrefix = false) :
    (mergeKeys held added).lookup name = held.lookup name := by
  induction added generalizing held with
  | nil => rfl
  | cons first rest ih =>
      have other := managed_ne (isManaged first List.mem_cons_self) isForeign
      refine (ih fun stream member => isManaged stream (List.mem_cons_of_mem _ member)).trans ?_
      rw [lookup_setKey, if_neg other]

theorem ForeignKept.apply {restarts : Bool} {start relay : RelayState} {request : RelayWrite}
    (kept : ForeignKept restarts start relay) (isManaged : ManagedWrite restarts request) :
    ForeignKept restarts start (request.apply relay) := by
  obtain ⟨served, saved, preloads⟩ := kept
  cases request with
  | putStream name source =>
      refine ⟨fun other isForeign => ?_, fun other isForeign => ?_, preloads⟩
      · rw [RelayWrite.apply, lookup_setKey, if_neg (managed_ne isManaged isForeign)]
        exact served other isForeign
      · rw [RelayWrite.apply, lookup_setKey, if_neg (managed_ne isManaged isForeign)]
        exact saved other isForeign
  | deleteStream name =>
      refine ⟨fun other isForeign => ?_, fun other isForeign => ?_, preloads⟩
      · rw [RelayWrite.apply, lookup_eraseKey, if_neg (managed_ne isManaged isForeign)]
        exact served other isForeign
      · rw [RelayWrite.apply, lookup_eraseKey, if_neg (managed_ne isManaged isForeign)]
        exact saved other isForeign
  | putPreload name =>
      refine ⟨served, saved, fun other isForeign => ?_⟩
      have isOther := managed_ne isManaged isForeign
      rw [← preloads other isForeign]
      simp [RelayWrite.apply, isOther]
  | deletePreload name =>
      refine ⟨served, saved, fun other isForeign => ?_⟩
      have isOther := managed_ne isManaged isForeign
      rw [← preloads other isForeign]
      simp [RelayWrite.apply, isOther]
  | patchConfig streams =>
      refine ⟨served, fun other isForeign => ?_, preloads⟩
      exact (lookup_mergeKeys_foreign isManaged.2 isForeign).trans (saved other isForeign)
  | restart =>
      exact ⟨fun other isForeign => .inr ⟨isManaged, saved other isForeign⟩, saved, preloads⟩

theorem ForeignKept.partly {restarts : Bool} {start relay applied now : RelayState}
    (kept : ForeignKept restarts start relay) (isApplied : ForeignKept restarts start applied)
    (partly : Partly relay applied now) : ForeignKept restarts start now := by
  refine ⟨?_, ?_, ?_⟩
  · rcases partly.served with same | same
    · exact same ▸ kept.served
    · exact same ▸ isApplied.served
  · rcases partly.saved with same | same
    · exact same ▸ kept.saved
    · exact same ▸ isApplied.saved
  · rcases partly.preloads with same | same
    · exact same ▸ kept.preloads
    · exact same ▸ isApplied.preloads

theorem foreignKept_requests (restarts : Bool) (start : RelayState) :
    RequestsKeep go2rtc restarts (On go2rtc (ForeignKept restarts start)) where
  asks := preserves_askOn
  sends _ isManaged := preserves_sendOn fun _ _ kept => kept.partly (kept.apply isManaged)

/-- A condition that does not look at go2rtc. -/
theorem blind_requests {restarts : Bool} {invariant : MediaSession σ → Prop}
    (blind : ∀ session now, invariant session → invariant { session with relay := now }) :
    RequestsKeep go2rtc restarts invariant where
  asks _ := triple_ask (fun session _ now holds _ => blind session now holds)
    fun session _ now holds _ => blind session now holds
  sends _ _ := triple_send (fun session now holds _ => blind session now holds)
    fun session _ now holds _ => blind session now holds

end Relay

end CamAdmiral
