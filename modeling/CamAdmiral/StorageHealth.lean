import Mathlib.Data.List.Chain
import CamAdmiral.StorageSettings

/-!
The event log and the incidents of a camera agree with the health that its rows give, over
every run of the repository.
-/

namespace CamAdmiral

/-! The health of a camera comes from its own rows. -/

theorem Schema.boundStates_own {repository : Repository} (schema : Schema repository)
    (cameraUuid : String) :
    boundStates repository cameraUuid =
      ((((repository.streams.filter fun row => row.cameraUuid = cameraUuid).filter
        fun stream => (repository.bindings.filter fun row => row.cameraUuid = cameraUuid).any
          (·.streamUuid = stream.streamUuid)).map (·.healthStatus)).dedup) := by
  rw [boundStates, List.filter_filter]
  congr 2
  apply List.filter_congr
  intro stream member
  by_cases owned : stream.cameraUuid = cameraUuid
  · simp only [owned, decide_true, Bool.true_and, Bool.and_true]
    rw [Bool.eq_iff_iff]
    simp only [List.any_eq_true, List.mem_filter, decide_eq_true_eq]
    constructor
    · rintro ⟨binding, isBinding, same⟩
      obtain ⟨bound, isBound, boundUuid, boundCamera⟩ := schema.bindingStream binding isBinding
      have sameStream := schema.streamIds.eq isBound member (boundUuid.trans same)
      exact ⟨binding, ⟨isBinding, by rw [← boundCamera, sameStream, owned]⟩, same⟩
    · rintro ⟨binding, ⟨isBinding, _⟩, same⟩
      exact ⟨binding, isBinding, same⟩
  · simp [owned]

theorem SameCamera.cameraHealthState {before after : Repository} {cameraUuid : String}
    (same : SameCamera before after cameraUuid) (schemaBefore : Schema before)
    (schemaAfter : Schema after) :
    cameraHealthState after cameraUuid = cameraHealthState before cameraUuid := by
  rw [CamAdmiral.cameraHealthState, CamAdmiral.cameraHealthState, same.camera,
    schemaAfter.boundStates_own, same.streams, same.bindings, ← schemaBefore.boundStates_own]

/-! Sorted event logs. -/

theorem latestOf_append (events : List HealthEvent) (event : HealthEvent) :
    latestOf (events ++ [event]) = match latestOf events with
      | some newest => if newest.observedAt ≤ event.observedAt then some event else some newest
      | none => some event := by
  rw [latestOf, List.foldl_append]
  rfl

/-- In a log without a step back the newest row is the last one. -/
theorem latestOf_sorted {events : List HealthEvent}
    (sorted : events.Pairwise fun earlier later => earlier.observedAt ≤ later.observedAt) :
    latestOf events = events.getLast? := by
  induction events using List.reverseRecOn with
  | nil => rfl
  | append_singleton earlier event ih =>
      obtain ⟨earlierSorted, _, bounded⟩ := List.pairwise_append.mp sorted
      rw [latestOf_append, ih earlierSorted, List.getLast?_concat]
      cases last : earlier.getLast? with
      | none => rfl
      | some newest =>
          simp only
          rw [if_pos (bounded newest (List.mem_of_getLast? last) event (by simp))]

/-- The log of one camera: in order of time, and every row tells something new. -/
structure EventLog (events : List HealthEvent) : Prop where
  sorted : events.Pairwise fun earlier later => earlier.observedAt ≤ later.observedAt
  changes : events.IsChain fun earlier later =>
    (earlier.state, earlier.reason) ≠ (later.state, later.reason)

theorem EventLog.record {events : List HealthEvent} (log : EventLog events)
    (event : HealthEvent) (own : ∀ earlier ∈ events, earlier.cameraUuid = event.cameraUuid)
    (clock : ∀ earlier ∈ events, earlier.observedAt ≤ event.observedAt) :
    EventLog (recordEvent events event) ∧
      (latestOf (recordEvent events event)).map (fun row => (row.state, row.reason)) =
        some (event.state, event.reason) := by
  have allOwn : events.filter (·.cameraUuid = event.cameraUuid) = events := by
    rw [List.filter_eq_self]
    intro earlier member
    simpa using own earlier member
  have appended (news : ∀ last ∈ events.getLast?,
      (last.state, last.reason) ≠ (event.state, event.reason)) :
      EventLog (events ++ [event]) ∧
        (latestOf (events ++ [event])).map (fun row => (row.state, row.reason)) =
          some (event.state, event.reason) := by
    have sorted : (events ++ [event]).Pairwise fun earlier later =>
        earlier.observedAt ≤ later.observedAt := by
      refine List.pairwise_append.mpr ⟨log.sorted, List.pairwise_singleton _ _, ?_⟩
      intro earlier member later isNew
      rw [List.mem_singleton.mp isNew]
      exact clock earlier member
    refine ⟨⟨sorted, log.changes.append (List.isChain_singleton event) ?_⟩, ?_⟩
    · intro last isLast later isNew
      obtain rfl : event = later := by simpa using isNew
      exact news last isLast
    · rw [latestOf_sorted sorted, List.getLast?_concat]
      rfl
  simp only [recordEvent, allOwn, latestOf_sorted log.sorted]
  cases last : events.getLast? with
  | none => exact appended (by simp [last])
  | some previous =>
      simp only
      split
      · rename_i repeated
        simp only [Bool.and_eq_true, decide_eq_true_eq] at repeated
        refine ⟨log, ?_⟩
        rw [latestOf_sorted log.sorted, last, Option.map_some, repeated.1, repeated.2]
      · rename_i differs
        refine appended ?_
        intro other isLast same
        obtain rfl : previous = other := by simpa [last] using isLast
        simp only [Prod.mk.injEq] at same
        exact differs (by simp [same.1, same.2])

theorem cameraEvents_record (events : List HealthEvent) (event : HealthEvent) :
    (recordEvent events event).filter (·.cameraUuid = event.cameraUuid) =
      recordEvent (events.filter (·.cameraUuid = event.cameraUuid)) event := by
  simp only [recordEvent, List.filter_filter, Bool.and_self]
  split
  · split
    · rfl
    · simp
  · simp

/-! Open health incidents. -/

def openKinds (incidents : List Incident) (cameraUuid : String) : List IncidentKind :=
  (incidents.filter (·.opened cameraUuid)).map (·.kind)

theorem openKinds_own (incidents : List Incident) (cameraUuid : String) :
    openKinds incidents cameraUuid =
      openKinds (incidents.filter fun row => row.cameraUuid = cameraUuid) cameraUuid := by
  rw [openKinds, openKinds, List.filter_filter]
  congr 1
  apply List.filter_congr
  intro incident _
  by_cases owned : incident.cameraUuid = cameraUuid <;> simp [Incident.opened, owned]

/-- Resolving the only open incident of a camera leaves none open. -/
theorem openKinds_resolved {incidents : List Incident} {cameraUuid : String}
    {opened : Incident} (only : incidents.filter (·.opened cameraUuid) = [opened])
    (timestamp : Nat) (reason : ResolutionReason) :
    openKinds (resolveIncident incidents opened.incidentUuid timestamp reason) cameraUuid =
      [] := by
  rw [openKinds, List.map_eq_nil_iff, List.filter_eq_nil_iff]
  intro incident member
  obtain ⟨original, isOriginal, rfl⟩ := List.mem_map.mp member
  split
  · simp [Incident.opened]
  · rename_i skipped
    intro isOpen
    have isOnly : original ∈ incidents.filter (·.opened cameraUuid) :=
      List.mem_filter.mpr ⟨isOriginal, isOpen⟩
    rw [only, List.mem_singleton] at isOnly
    subst isOnly
    simp only [Incident.opened, Bool.and_eq_true] at isOpen
    exact skipped (by simp [isOpen.1.2])

theorem openKinds_append (incidents : List Incident) (cameraUuid fresh : String)
    {kind : IncidentKind} (health : kind.health = true) (timestamp : Nat) :
    openKinds (incidents ++ [⟨fresh, cameraUuid, kind, timestamp, timestamp, none, none⟩])
      cameraUuid = openKinds incidents cameraUuid ++ [kind] := by
  simp [openKinds, Incident.opened, health]

/-- The kinds open after the incidents are reconciled with the state of the camera. -/
def reconciledKinds (state : CameraState) (before : List IncidentKind) : List IncidentKind :=
  match desiredKind state with
  | some kind => [kind]
  | none => if state = .healthy ∨ state = .disabled then [] else before

theorem openKinds_reconcile {incidents : List Incident} {cameraUuid : String}
    (single : (openKinds incidents cameraUuid).length ≤ 1) (state : CameraState)
    (timestamp : Nat) (fresh : String) :
    openKinds (reconcileIncidents incidents cameraUuid state timestamp fresh) cameraUuid =
      reconciledKinds state (openKinds incidents cameraUuid) := by
  have only {opened : Incident} (found : incidents.find? (·.opened cameraUuid) = some opened) :
      incidents.filter (·.opened cameraUuid) = [opened] := by
    rw [← List.head?_filter] at found
    rw [openKinds, List.length_map] at single
    cases listed : incidents.filter (·.opened cameraUuid) with
    | nil => simp [listed] at found
    | cons first rest =>
        rw [listed, List.head?_cons, Option.some.injEq] at found
        rw [listed, List.length_cons] at single
        rw [found, List.eq_nil_of_length_eq_zero (by omega : rest.length = 0)]
  simp only [reconcileIncidents, reconciledKinds]
  cases desired : desiredKind state with
  | some kind =>
      have health := desiredKind_health desired
      cases found : incidents.find? (·.opened cameraUuid) with
      | some opened =>
          simp only
          split
          · rename_i sameKind
            have kept : openKinds (incidents.map fun row =>
                if row.incidentUuid = opened.incidentUuid then
                  { row with lastObservedAt := timestamp }
                else
                  row) cameraUuid = openKinds incidents cameraUuid := by
              simp only [openKinds, List.filter_map, List.map_map]
              congr 1
              · funext row
                simp only [Function.comp_apply]
                split <;> rfl
              · apply List.filter_congr
                intro row _
                simp only [Function.comp_apply]
                split <;> rfl
            rw [kept, openKinds, only found, List.map_singleton, sameKind]
          · rw [openKinds_append _ _ _ health, openKinds_resolved (only found), List.nil_append]
      | none =>
          have nothing : openKinds incidents cameraUuid = [] := by
            rw [← List.head?_filter, List.head?_eq_none_iff] at found
            rw [openKinds, found, List.map_nil]
          rw [openKinds_append _ _ _ health, nothing, List.nil_append]
  | none =>
      cases found : incidents.find? (·.opened cameraUuid) with
      | some opened =>
          by_cases healthy : state = .healthy
          · simp [healthy, openKinds_resolved (only found)]
          · by_cases disabled : state = .disabled
            · simp [disabled, openKinds_resolved (only found)]
            · simp [healthy, disabled]
      | none =>
          have nothing : openKinds incidents cameraUuid = [] := by
            rw [← List.head?_filter, List.head?_eq_none_iff] at found
            rw [openKinds, found, List.map_nil]
          simp [nothing]

/-! The invariant of one camera. -/

/-- What the rows of a camera satisfy even while its health is not recorded yet. -/
structure HealthLog (repository : Repository) (cameraUuid : String) : Prop where
  log : EventLog (cameraEvents repository cameraUuid)
  single : (openKinds repository.incidents cameraUuid).length ≤ 1

structure HealthConsistent (repository : Repository) (cameraUuid : String) : Prop
    extends HealthLog repository cameraUuid where
  newest : (latestOf (cameraEvents repository cameraUuid)).map
    (fun event => (event.state, event.reason)) = cameraHealthState repository cameraUuid
  failing : ∀ state reason, cameraHealthState repository cameraUuid = some (state, reason) →
    ∀ kind, desiredKind state = some kind → openKinds repository.incidents cameraUuid = [kind]
  settled : ∀ state reason, cameraHealthState repository cameraUuid = some (state, reason) →
    state = .healthy ∨ state = .disabled → openKinds repository.incidents cameraUuid = []

theorem SameCamera.openKinds {before after : Repository} {cameraUuid : String}
    (same : SameCamera before after cameraUuid) :
    openKinds after.incidents cameraUuid = openKinds before.incidents cameraUuid := by
  rw [openKinds_own, same.incidents, ← openKinds_own]

theorem SameCamera.healthLog {before after : Repository} {cameraUuid : String}
    (same : SameCamera before after cameraUuid) (log : HealthLog before cameraUuid) :
    HealthLog after cameraUuid :=
  ⟨by rw [same.events]; exact log.log, by rw [same.openKinds]; exact log.single⟩

theorem SameCamera.healthConsistent {before after : Repository} {cameraUuid : String}
    (same : SameCamera before after cameraUuid) (schemaBefore : Schema before)
    (schemaAfter : Schema after) (consistent : HealthConsistent before cameraUuid) :
    HealthConsistent after cameraUuid := by
  have sameHealth := same.cameraHealthState schemaBefore schemaAfter
  refine ⟨same.healthLog consistent.toHealthLog, ?_, ?_, ?_⟩
  · rw [same.events, sameHealth, consistent.newest]
  · rw [sameHealth, same.openKinds]
    exact consistent.failing
  · rw [sameHealth, same.openKinds]
    exact consistent.settled

/-- A camera that does not exist has neither events nor incidents. -/
theorem Schema.unknownCamera {repository : Repository} (schema : Schema repository)
    {cameraUuid : String} (unknown : repository.camera cameraUuid = none) :
    HealthConsistent repository cameraUuid := by
  have unnamed := rowAt_none.mp unknown
  have noEvents : cameraEvents repository cameraUuid = [] := by
    rw [cameraEvents, List.filter_eq_nil_iff]
    intro event member owned
    obtain ⟨camera, isCamera, same⟩ := schema.eventCamera event member
    exact unnamed camera isCamera (same.trans (of_decide_eq_true owned))
  have noIncidents : openKinds repository.incidents cameraUuid = [] := by
    rw [openKinds, List.map_eq_nil_iff, List.filter_eq_nil_iff]
    intro incident member isOpen
    obtain ⟨camera, isCamera, same⟩ := schema.incidentCamera incident member
    simp only [Incident.opened, Bool.and_eq_true, decide_eq_true_eq] at isOpen
    exact unnamed camera isCamera (same.trans isOpen.1.1)
  have noHealth : cameraHealthState repository cameraUuid = none := by
    rw [cameraHealthState, unknown, Option.map_none]
  refine ⟨⟨?_, by simp [noIncidents]⟩, by simp [noEvents, noHealth, latestOf], ?_, ?_⟩
  · rw [noEvents]
    exact ⟨List.Pairwise.nil, List.isChain_nil⟩
  · simp [noHealth]
  · simp [noHealth]

/-- Recording the health of a camera makes its rows consistent. -/
theorem transition_consistent {repository : Repository} (schema : Schema repository)
    {cameraUuid : String} (log : HealthLog repository cameraUuid) {timestamp : Nat}
    (clock : ∀ event ∈ repository.healthEvents, event.observedAt ≤ timestamp)
    (fresh : String) :
    HealthConsistent (recordCameraHealthTransition repository cameraUuid timestamp fresh)
      cameraUuid := by
  cases known : repository.camera cameraUuid with
  | none =>
      rw [transition_unknown known]
      exact schema.unknownCamera known
  | some camera =>
      obtain ⟨state, reason, health⟩ := transition_known known
      simp only [recordCameraHealthTransition, health]
      generalize hAfter : ({ repository with
        healthEvents :=
          recordEvent repository.healthEvents ⟨cameraUuid, state, reason, timestamp⟩
        incidents := reconcileIncidents repository.incidents cameraUuid state timestamp fresh } :
          Repository) = after
      have events : cameraEvents after cameraUuid =
          recordEvent (cameraEvents repository cameraUuid)
            ⟨cameraUuid, state, reason, timestamp⟩ := by
        rw [← hAfter]
        exact cameraEvents_record repository.healthEvents
          ⟨cameraUuid, state, reason, timestamp⟩
      have kinds : openKinds after.incidents cameraUuid =
          reconciledKinds state (openKinds repository.incidents cameraUuid) := by
        rw [← hAfter]
        exact openKinds_reconcile log.single state timestamp fresh
      have sameHealth : cameraHealthState after cameraUuid = some (state, reason) := by
        rw [← hAfter]
        exact health
      obtain ⟨recorded, newest⟩ := log.log.record ⟨cameraUuid, state, reason, timestamp⟩
        (fun earlier member => of_decide_eq_true (List.mem_filter.mp member).2)
        (fun earlier member => clock earlier (List.mem_filter.mp member).1)
      refine ⟨⟨events ▸ recorded, ?_⟩, by rw [events, newest, sameHealth], ?_, ?_⟩
      · rw [kinds, reconciledKinds]
        split
        · simp
        · split
          · simp
          · exact log.single
      · intro other otherReason isOther kind desired
        rw [sameHealth, Option.some.injEq, Prod.mk.injEq] at isOther
        rw [kinds, reconciledKinds, isOther.1, desired]
      · intro other otherReason isOther settled
        rw [sameHealth, Option.some.injEq, Prod.mk.injEq] at isOther
        rw [kinds, reconciledKinds, isOther.1]
        rcases settled with rfl | rfl <;> rfl

/-! Operations. -/

theorem clock_transition {repository : Repository} {timestamp : Nat}
    (clock : ∀ event ∈ repository.healthEvents, event.observedAt ≤ timestamp)
    (cameraUuid fresh : String) :
    ∀ event ∈ (recordCameraHealthTransition repository cameraUuid timestamp fresh).healthEvents,
      event.observedAt ≤ timestamp := by
  intro event member
  simp only [recordCameraHealthTransition] at member
  split at member
  · exact clock event member
  · rcases mem_recordEvent member with isOld | rfl
    · exact clock event isOld
    · exact Nat.le_refl timestamp

/-- Recording the health of every affected camera makes all cameras consistent. -/
theorem transitions_consistent {uuids : Nat → String} (distinct : Function.Injective uuids)
    {timestamp : Nat} {affected : List String} {repository : Repository} {position : Nat}
    (schema : Schema repository) (unused : UnusedIncidents repository uuids position)
    (clock : ∀ event ∈ repository.healthEvents, event.observedAt ≤ timestamp)
    (logs : ∀ cameraUuid, HealthLog repository cameraUuid)
    (settled : ∀ cameraUuid, cameraUuid ∉ affected → HealthConsistent repository cameraUuid) :
    (∀ cameraUuid, HealthConsistent
      (recordTransitions repository timestamp uuids affected position) cameraUuid) ∧
    ∀ event ∈ (recordTransitions repository timestamp uuids affected position).healthEvents,
      event.observedAt ≤ timestamp := by
  induction affected generalizing repository position with
  | nil => exact ⟨fun cameraUuid => settled cameraUuid (by simp), clock⟩
  | cons first rest ih =>
      have nextSchema := schema.transition first timestamp (unused position (by omega))
      have recorded := transition_consistent schema (logs first) clock (uuids position)
      have others {other : String} (differs : first ≠ other) :=
        sameCamera_transition schema differs timestamp (uuids position)
      refine ih nextSchema (unused.transition distinct first timestamp)
        (clock_transition clock first (uuids position)) ?_ ?_
      · intro cameraUuid
        by_cases isFirst : first = cameraUuid
        · exact isFirst ▸ recorded.toHealthLog
        · exact (others isFirst).healthLog (logs cameraUuid)
      · intro cameraUuid outside
        by_cases isFirst : first = cameraUuid
        · exact isFirst ▸ recorded
        · exact (others isFirst).healthConsistent schema nextSchema
            (settled cameraUuid (by simp [Ne.symm isFirst, outside]))

/-- Every camera is consistent and no event lies ahead of the clock. -/
structure HealthRecorded (repository : Repository) (clock : Nat) : Prop where
  schema : Schema repository
  consistent : ∀ cameraUuid, HealthConsistent repository cameraUuid
  clock : ∀ event ∈ repository.healthEvents, event.observedAt ≤ clock

theorem Recorded.health {before after changed : Repository} {call : RepositoryCall}
    {affected : List String} {first clock : Nat} (health : HealthRecorded before clock)
    (unused : UnusedUuids before call.uuids) (later : clock ≤ call.timestamp)
    (recorded : Recorded before after call changed affected first) :
    HealthRecorded after call.timestamp := by
  have schemaAfter := recorded.schema unused
  obtain ⟨touches, rfl⟩ := recorded
  obtain ⟨distinct, unusedIncidents⟩ := unused.drawn first touches
  have clocked : ∀ event ∈ changed.healthEvents, event.observedAt ≤ call.timestamp := by
    intro event member
    rw [touches.events] at member
    exact (health.clock event member).trans later
  have logs : ∀ cameraUuid, HealthLog changed cameraUuid := by
    intro cameraUuid
    have log := (health.consistent cameraUuid).toHealthLog
    refine ⟨?_, by rw [touches.incidents]; exact log.single⟩
    rw [cameraEvents, touches.events]
    exact log.log
  have settled : ∀ cameraUuid, cameraUuid ∉ affected → HealthConsistent changed cameraUuid := by
    intro cameraUuid outside
    exact (touches.others cameraUuid outside).healthConsistent health.schema touches.schema
      (health.consistent cameraUuid)
  obtain ⟨consistent, clockedAfter⟩ :=
    transitions_consistent distinct touches.schema unusedIncidents clocked logs settled
  exact ⟨schemaAfter, consistent, clockedAfter⟩

theorem Removed.health {before after : Repository} {cameraUuid : String} {clock timestamp : Nat}
    (health : HealthRecorded before clock) (later : clock ≤ timestamp)
    (removed : Removed before after cameraUuid) : HealthRecorded after timestamp := by
  refine ⟨removed.schema, ?_, ?_⟩
  · intro other
    by_cases isRemoved : other = cameraUuid
    · exact removed.schema.unknownCamera (isRemoved ▸ removed.camera)
    · exact (removed.others other isRemoved).healthConsistent health.schema removed.schema
        (health.consistent other)
  · intro event member
    obtain ⟨camera, isCamera, same⟩ := removed.schema.eventCamera event member
    have differs : event.cameraUuid ≠ cameraUuid := by
      rw [← same]
      exact rowAt_none.mp removed.camera camera isCamera
    have own : event ∈ cameraEvents after event.cameraUuid :=
      List.mem_filter.mpr ⟨member, by simp⟩
    rw [(removed.others event.cameraUuid differs).events] at own
    exact (health.clock event (List.mem_filter.mp own).1).trans later

theorem Effect.health {before after : Repository} {call : RepositoryCall} {clock : Nat}
    (effect : Effect before call after) (health : HealthRecorded before clock)
    (unused : UnusedUuids before call.uuids) (later : clock ≤ call.timestamp) :
    HealthRecorded after call.timestamp := by
  cases effect with
  | quiet recorded _ => exact recorded.health health unused later
  | adopted _ recorded _ => exact recorded.health health unused later
  | chosen _ recorded _ => exact recorded.health health unused later
  | removed _ removed => exact removed.health health later

variable [TextCase] [UrlText]

theorem storageRun_health {history : StorageHistory} (run : StorageRun FreshCall {} history) :
    HealthRecorded history.repository history.clock := by
  apply run.invariant fun history => HealthRecorded history.repository history.clock
  · exact ⟨schema_empty, fun _ => schema_empty.unknownCamera rfl, by simp⟩
  · rintro history call _ health fresh rfl
    exact (commit_effect health.schema fresh).health health fresh.unused fresh.clock

/-- In every run the newest event of a camera has the state and reason its rows give, no event
repeats the one before, and the open health incidents are those of that state. -/
theorem camera_health_consistent {history : StorageHistory}
    (run : StorageRun FreshCall {} history) :
    ∀ camera ∈ history.repository.cameras,
      let events := cameraEvents history.repository camera.cameraUuid
      let kinds := openKinds history.repository.incidents camera.cameraUuid
      ∃ state reason,
        cameraHealthState history.repository camera.cameraUuid = some (state, reason) ∧
        (latestOf events).map (fun event => (event.state, event.reason)) =
          some (state, reason) ∧
        events.Pairwise (fun earlier later => earlier.observedAt ≤ later.observedAt) ∧
        events.IsChain (fun earlier later =>
          (earlier.state, earlier.reason) ≠ (later.state, later.reason)) ∧
        (state = .offline → kinds = [.mediaOffline]) ∧
        (state = .authFailed → kinds = [.authenticationFailed]) ∧
        (state = .healthy ∨ state = .disabled → kinds = []) := by
  intro camera member events kinds
  have health := storageRun_health run
  have consistent := health.consistent camera.cameraUuid
  obtain ⟨state, reason, known⟩ :=
    transition_known (health.schema.cameraIds.rowAt_eq member)
  refine ⟨state, reason, known, consistent.newest.trans known, consistent.log.sorted,
    consistent.log.changes, ?_, ?_, consistent.settled state reason known⟩
  · rintro rfl
    exact consistent.failing _ reason known _ rfl
  · rintro rfl
    exact consistent.failing _ reason known _ rfl

/-- The main stream of the front door fails three probes in a row. -/
def mainProbed (letter : Char) (timestamp : Nat) : RepositoryCall :=
  ⟨.recordProbeResults [("aaaaa", .failed), ("aaaaaaa", .failed)], timestamp, uuidSupply letter⟩

omit [TextCase] [UrlText] in
theorem front_door_offline :
    let _ := asciiCase
    let _ := plainUrls
    let failed := ((adoptedOnce.call (mainProbed 'b' 2)).call (mainProbed 'c' 3)).call
      (mainProbed 'd' 4)
    cameraHealthState failed.repository "a" = some (.offline, .allStreamsOffline) ∧
      openKinds failed.repository.incidents "a" = [.mediaOffline] := by
  intro text urls failed
  have run : StorageRun FreshCall {} failed :=
    ((adoptedOnce_run.step (mainProbed 'b' 2)
      (freshCall_uuidSupply _ (by decide +kernel) (by decide +kernel)) rfl).step
        (mainProbed 'c' 3)
        (freshCall_uuidSupply _ (by decide +kernel) (by decide +kernel)) rfl).step
          (mainProbed 'd' 4)
          (freshCall_uuidSupply _ (by decide +kernel) (by decide +kernel)) rfl
  have offline : cameraHealthState failed.repository "a" =
      some (.offline, .allStreamsOffline) := by decide +kernel
  obtain ⟨camera, member, isCamera⟩ : ∃ camera ∈ failed.repository.cameras,
      camera.cameraUuid = "a" := by decide +kernel
  obtain ⟨state, reason, known, _, _, _, isOffline, _⟩ :=
    camera_health_consistent run camera member
  rw [isCamera, offline, Option.some.injEq, Prod.mk.injEq] at known
  rw [isCamera] at isOffline
  exact ⟨offline, isOffline known.1.symm⟩

end CamAdmiral
