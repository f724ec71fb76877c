import CamAdmiral.NotificationsCore

/-!
What the operations keep about the outbox: every alert about a resolved incident that still
waits stands behind the alert about its opening.
-/

namespace CamAdmiral

theorem pair_sublist_take {α : Type*} {first second : α} {rows : List α} (distinct : rows.Nodup)
    (ordered : List.Sublist [first, second] rows) {count : Nat} (taken : second ∈ rows.take count) :
    List.Sublist [first, second] (rows.take count) := by
  rw [← List.take_append_drop count rows] at ordered distinct
  obtain ⟨front, back, split, inFront, inBack⟩ := List.sublist_append_iff.mp ordered
  have apart := (List.nodup_append.mp distinct).2.2
  cases back with
  | nil =>
      rw [List.append_nil] at split
      exact split ▸ inFront
  | cons head tail =>
      -- The second element would be behind the cut as well.
      have behind : second ∈ head :: tail := by
        have isLast := congrArg List.getLast? split
        rw [List.getLast?_append_of_ne_nil _ (List.cons_ne_nil head tail)] at isLast
        exact List.mem_of_getLast? isLast.symm
      exact absurd rfl (apart second taken second (inBack.subset behind))

/-- The key of the alert about the opening of an incident. -/
abbrev openedKey (incidentUuid : String) : IdempotencyKey :=
  .incident incidentUuid .incidentOpened

abbrev resolvedKey (incidentUuid : String) : IdempotencyKey :=
  .incident incidentUuid .incidentResolved

/-- The invariant of the tables. `used` are the uuids drawn so far. -/
structure StoreInvariant (store : AlertStore) (clock : Nat) (used : List String) : Prop where
  incidents : Unique Incident.incidentUuid store.incidents
  incidentsUsed : ∀ incident ∈ store.incidents, incident.incidentUuid ∈ used
  keys : Unique OutboxRow.idempotencyKey store.outbox
  uuids : Unique OutboxRow.outboxUuid store.outbox
  rowsUsed : ∀ row ∈ store.outbox, row.outboxUuid ∈ used
  keysUsed : ∀ row ∈ store.outbox, ∀ incidentUuid eventType,
    row.idempotencyKey = .incident incidentUuid eventType → incidentUuid ∈ used
  created : ∀ row ∈ store.outbox, row.createdAt ≤ clock
  pending : ∀ row ∈ store.outbox, row.status = .pending → row.nextAttemptAt = row.createdAt
  /-- An alert that has lost its incident is about one that is gone. -/
  named : ∀ row ∈ store.outbox, ∀ incidentUuid eventType,
    row.idempotencyKey = .incident incidentUuid eventType →
      row.incidentUuid = some incidentUuid ∨
        row.incidentUuid = none ∧
          ∀ incident ∈ store.incidents, incident.incidentUuid ≠ incidentUuid
  paired : ∀ row ∈ store.outbox, row.waiting = true → ∀ incidentUuid,
    row.idempotencyKey = resolvedKey incidentUuid →
      ∃ opened, opened.idempotencyKey = openedKey incidentUuid ∧
        List.Sublist [opened, row] store.outbox ∧ opened.createdAt ≤ row.createdAt

/-- Every row was there, with its key, uuid and status, or it is new. -/
def OutboxGrows (before after : AlertStore) (used : List String) : Prop :=
  ∀ row ∈ after.outbox,
    (∃ old ∈ before.outbox, old.idempotencyKey = row.idempotencyKey ∧
      old.outboxUuid = row.outboxUuid ∧ old.status = row.status) ∨
    row.outboxUuid ∉ used ∧ row.status = .pending ∧
      ∀ incidentUuid, row.idempotencyKey = openedKey incidentUuid → incidentUuid ∉ used

theorem OutboxGrows.same {before after : AlertStore} (used : List String)
    (outbox : after.outbox = before.outbox) : OutboxGrows before after used := by
  intro row member
  exact .inl ⟨row, outbox ▸ member, rfl, rfl, rfl⟩

theorem OutboxGrows.trans {first second third : AlertStore} {used : List String}
    (one : OutboxGrows first second used) (two : OutboxGrows second third used) :
    OutboxGrows first third used := by
  intro row member
  rcases two row member with ⟨old, isOld, sameKey, sameUuid, sameStatus⟩ | isNew
  · rcases one old isOld with ⟨older, isOlder, key, uuid, status⟩ | isNew
    · exact .inl ⟨older, isOlder, key.trans sameKey, uuid.trans sameUuid, status.trans sameStatus⟩
    · exact .inr ⟨sameUuid ▸ isNew.1, sameStatus ▸ isNew.2.1, by rw [← sameKey]; exact isNew.2.2⟩
  · exact .inr isNew

/-! Statements on the incidents. -/

theorem StoreInvariant.mono {store : AlertStore} {clock later : Nat} {used more : List String}
    (invariant : StoreInvariant store clock used) (order : clock ≤ later) (grown : used ⊆ more) :
    StoreInvariant store later more :=
  { invariant with
    incidentsUsed := fun incident member => grown (invariant.incidentsUsed incident member)
    rowsUsed := fun row member => grown (invariant.rowsUsed row member)
    keysUsed := fun row member incidentUuid eventType isKey =>
      grown (invariant.keysUsed row member incidentUuid eventType isKey)
    created := fun row member => (invariant.created row member).trans order }

/-- A change of the incidents that keeps the rows and their uuids. -/
theorem StoreInvariant.changeIncidents {store : AlertStore} {clock : Nat} {used : List String}
    (invariant : StoreInvariant store clock used) (change : Incident → Incident)
    (sameUuid : ∀ incident, (change incident).incidentUuid = incident.incidentUuid) :
    StoreInvariant { store with incidents := store.incidents.map change } clock used := by
  have mapped (Property : String → Prop) (each : ∀ incident ∈ store.incidents,
      Property incident.incidentUuid) :
      ∀ incident ∈ store.incidents.map change, Property incident.incidentUuid := by
    intro incident member
    obtain ⟨original, isOriginal, rfl⟩ := List.mem_map.mp member
    rw [sameUuid]
    exact each original isOriginal
  exact { invariant with
    incidents := invariant.incidents.map change sameUuid
    incidentsUsed := mapped (· ∈ used) invariant.incidentsUsed
    named := fun row member incidentUuid eventType isKey =>
      (invariant.named row member incidentUuid eventType isKey).imp_right fun gone =>
        ⟨gone.1, mapped (· ≠ incidentUuid) gone.2⟩ }

theorem StoreInvariant.addIncident {store : AlertStore} {clock : Nat} {used : List String}
    (invariant : StoreInvariant store clock used) {incident : Incident}
    (fresh : incident.incidentUuid ∉ used) :
    StoreInvariant { store with incidents := store.incidents ++ [incident] } clock
      (used ++ [incident.incidentUuid]) := by
  have grown : used ⊆ used ++ [incident.incidentUuid] := List.subset_append_left _ _
  have larger := invariant.mono le_rfl grown
  refine { larger with incidents := ?_, incidentsUsed := ?_, named := ?_ }
  · apply invariant.incidents.append
    intro other member same
    exact fresh (same ▸ invariant.incidentsUsed other member)
  · intro other member
    rcases List.mem_append.mp member with isOld | isNew
    · exact larger.incidentsUsed other isOld
    · simp [List.mem_singleton.mp isNew]
  · intro row member incidentUuid eventType isKey
    refine (invariant.named row member incidentUuid eventType isKey).imp_right ?_
    rintro ⟨lost, gone⟩
    refine ⟨lost, fun other isOther same => ?_⟩
    rcases List.mem_append.mp isOther with isOld | isNew
    · exact gone other isOld same
    · obtain rfl := List.mem_singleton.mp isNew
      exact fresh (same ▸ invariant.keysUsed row member incidentUuid eventType isKey)

/-! Statements on the outbox. -/

theorem StoreInvariant.insertOutbox {store : AlertStore} {clock : Nat} {used : List String}
    (invariant : StoreInvariant store clock used) {added : OutboxRow}
    (isUsed : added.outboxUuid ∈ used) (created : added.createdAt ≤ clock)
    (next : added.nextAttemptAt = added.createdAt)
    (named : ∀ incidentUuid eventType, added.idempotencyKey = .incident incidentUuid eventType →
      added.incidentUuid = some incidentUuid ∧ incidentUuid ∈ used)
    (paired : ∀ incidentUuid, added.idempotencyKey = resolvedKey incidentUuid →
      ∃ opened ∈ store.outbox, opened.idempotencyKey = openedKey incidentUuid ∧
        opened.createdAt ≤ added.createdAt) :
    StoreInvariant (store.insertOutbox added) clock used := by
  rw [AlertStore.insertOutbox]
  split
  · exact invariant
  rename_i isNew
  simp only [List.any_eq_true, Bool.or_eq_true, decide_eq_true_eq, not_exists, not_and,
    not_or] at isNew
  have eachRow {Property : OutboxRow → Prop} (old : ∀ row ∈ store.outbox, Property row)
      (new : Property added) : ∀ row ∈ store.outbox ++ [added], Property row := by
    intro row member
    rcases List.mem_append.mp member with isOld | isAdded
    · exact old row isOld
    · exact List.mem_singleton.mp isAdded ▸ new
  exact {
    incidents := invariant.incidents
    incidentsUsed := invariant.incidentsUsed
    keys := invariant.keys.append fun row member => (isNew row member).1
    uuids := invariant.uuids.append fun row member => (isNew row member).2
    rowsUsed := eachRow invariant.rowsUsed isUsed
    keysUsed := eachRow invariant.keysUsed fun incidentUuid eventType isKey =>
      (named incidentUuid eventType isKey).2
    created := eachRow invariant.created created
    pending := eachRow invariant.pending fun _ => next
    named := eachRow invariant.named fun incidentUuid eventType isKey =>
      .inl (named incidentUuid eventType isKey).1
    paired := by
      apply eachRow
      · intro row member waits incidentUuid isKey
        obtain ⟨opened, key, ordered, order⟩ := invariant.paired row member waits incidentUuid isKey
        exact ⟨opened, key, ordered.trans (List.sublist_append_left _ _), order⟩
      · intro _ incidentUuid isKey
        obtain ⟨opened, member, key, order⟩ := paired incidentUuid isKey
        exact ⟨opened, key, (List.singleton_sublist.mpr member).append (List.Sublist.refl _),
          order⟩ }

theorem OutboxGrows.insertOutbox (store : AlertStore) {added : OutboxRow} {used : List String}
    (fresh : added.outboxUuid ∉ used) (pending : added.status = .pending)
    (freshKey : ∀ incidentUuid, added.idempotencyKey = openedKey incidentUuid →
      incidentUuid ∉ used) : OutboxGrows store (store.insertOutbox added) used := by
  rw [AlertStore.insertOutbox]
  split
  · exact .same used rfl
  · intro row member
    rcases List.mem_append.mp member with isOld | isAdded
    · exact .inl ⟨row, isOld, rfl, rfl, rfl⟩
    · obtain rfl := List.mem_singleton.mp isAdded
      exact .inr ⟨fresh, pending, freshKey⟩

/-- Rows that change nothing but the columns of delivery. -/
theorem StoreInvariant.changeRows {store : AlertStore} {clock : Nat} {used : List String}
    (invariant : StoreInvariant store clock used) (change : OutboxRow → OutboxRow)
    (sameKey : ∀ row, (change row).idempotencyKey = row.idempotencyKey)
    (sameUuid : ∀ row, (change row).outboxUuid = row.outboxUuid)
    (sameIncident : ∀ row, (change row).incidentUuid = row.incidentUuid)
    (sameCreated : ∀ row, (change row).createdAt = row.createdAt)
    (stillWaiting : ∀ row ∈ store.outbox, (change row).waiting = true → row.waiting = true)
    (pending : ∀ row ∈ store.outbox, (change row).status = .pending → change row = row) :
    StoreInvariant { store with outbox := store.outbox.map change } clock used := by
  refine { invariant with
    keys := invariant.keys.map change sameKey
    uuids := invariant.uuids.map change sameUuid
    rowsUsed := ?_, keysUsed := ?_, created := ?_, pending := ?_, named := ?_, paired := ?_ } <;>
    rw [List.forall_mem_map]
  · intro row member
    rw [sameUuid]
    exact invariant.rowsUsed row member
  · intro row member
    rw [sameKey]
    exact invariant.keysUsed row member
  · intro row member
    rw [sameCreated]
    exact invariant.created row member
  · intro row member isPending
    have same := pending row member isPending
    rw [same] at isPending ⊢
    exact invariant.pending row member isPending
  · intro row member
    rw [sameKey, sameIncident]
    exact invariant.named row member
  · intro row member waits incidentUuid isKey
    rw [sameKey] at isKey
    obtain ⟨opened, key, ordered, order⟩ :=
      invariant.paired row member (stillWaiting row member waits) incidentUuid isKey
    refine ⟨change opened, (sameKey opened).trans key, ordered.map change, ?_⟩
    rw [sameCreated, sameCreated]
    exact order

theorem OutboxGrows.filter (store : AlertStore) (keep : OutboxRow → Bool) (used : List String) :
    OutboxGrows store { store with outbox := store.outbox.filter keep } used := by
  intro row member
  exact .inl ⟨row, (List.mem_filter.mp member).1, rfl, rfl, rfl⟩

/-! The operations. -/

/-- An operation has kept the invariant and added only rows of its own. -/
structure StoreStep (before after : AlertStore) (clock : Nat) (used more : List String) :
    Prop where
  invariant : StoreInvariant after clock more
  grows : OutboxGrows before after used

theorem StoreStep.mono {before after : AlertStore} {clock : Nat} {used more most : List String}
    (step : StoreStep before after clock used more) (grown : more ⊆ most) :
    StoreStep before after clock used most :=
  ⟨step.invariant.mono le_rfl grown, step.grows⟩

theorem StoreInvariant.enqueue {store : AlertStore} {clock : Nat} {used more : List String}
    (invariant : StoreInvariant store clock more) {incidentUuid outboxUuid : String}
    (incidentUsed : incidentUuid ∈ more) (uuidUsed : outboxUuid ∈ more)
    (fresh : outboxUuid ∉ used) (cameraUuid : String) (kind : IncidentKind)
    (eventType : EventType) (freshIncident : eventType = .incidentOpened → incidentUuid ∉ used) :
    StoreStep store (store.enqueueIncidentNotification incidentUuid cameraUuid kind eventType
      clock outboxUuid) clock used more := by
  rw [AlertStore.enqueueIncidentNotification]
  split
  · exact ⟨invariant, .same used rfl⟩
  split
  · exact ⟨invariant, .same used rfl⟩
  rename_i camera _ known
  constructor
  · refine invariant.insertOutbox uuidUsed le_rfl rfl ?_ ?_
    · intro other otherType isKey
      obtain ⟨rfl, rfl⟩ := IdempotencyKey.incident.inj isKey
      exact ⟨rfl, incidentUsed⟩
    · intro other isKey
      obtain ⟨rfl, rfl⟩ := IdempotencyKey.incident.inj isKey
      simp only [decide_true, Bool.true_and, Bool.not_eq_true', Bool.not_eq_false,
        List.any_eq_true, decide_eq_true_eq] at known
      obtain ⟨opened, member, isOpened⟩ := known
      exact ⟨opened, member, isOpened, invariant.created opened member⟩
  · refine .insertOutbox store fresh rfl ?_
    intro other isKey
    obtain ⟨rfl, rfl⟩ := IdempotencyKey.incident.inj isKey
    exact freshIncident rfl

theorem StoreInvariant.resolve {store : AlertStore} {clock : Nat} {used more : List String}
    (invariant : StoreInvariant store clock more) {incidentUuid outboxUuid : String}
    (uuidUsed : outboxUuid ∈ more) (fresh : outboxUuid ∉ used) (reason : ResolutionReason) :
    StoreStep store (store.resolveIncident incidentUuid clock reason outboxUuid) clock used
      more := by
  rw [AlertStore.resolveIncident]
  split
  · exact ⟨invariant, .same used rfl⟩
  · rename_i incident found
    obtain ⟨member, rfl⟩ := rowAt_some found
    have changed := invariant.changeIncidents (fun row =>
      if row.incidentUuid = incident.incidentUuid && row.resolvedAt.isNone then
        { row with
          lastObservedAt := clock
          resolvedAt := some clock
          resolutionReason := some reason }
      else
        row) (by intro row; split <;> rfl)
    have step := changed.enqueue (invariant.incidentsUsed incident member) uuidUsed fresh
      incident.cameraUuid incident.kind .incidentResolved (by simp)
    exact ⟨step.invariant, step.grows⟩

theorem StoreInvariant.openIncident {store : AlertStore} {clock : Nat} {used more : List String}
    (invariant : StoreInvariant store clock more) {incidentUuid outboxUuid : String}
    (freshIncident : incidentUuid ∉ more) (older : used ⊆ more) (fresh : outboxUuid ∉ used)
    (cameraUuid : String) (kind : IncidentKind) :
    StoreStep store (store.openIncident incidentUuid cameraUuid kind clock outboxUuid) clock used
      (more ++ [incidentUuid, outboxUuid]) := by
  let incident : Incident := ⟨incidentUuid, cameraUuid, kind, clock, clock, none, none⟩
  have freshUuid : incident.incidentUuid ∉ more := freshIncident
  have added := (invariant.addIncident freshUuid).mono le_rfl
    (show more ++ [incidentUuid] ⊆ more ++ [incidentUuid, outboxUuid] by grind)
  have step := added.enqueue (by simp) (by simp) fresh cameraUuid kind .incidentOpened
    fun _ isUsed => freshIncident (older isUsed)
  exact ⟨step.invariant, step.grows⟩

theorem StoreInvariant.touch {store : AlertStore} {clock : Nat} {used : List String}
    (invariant : StoreInvariant store clock used) (incidentUuid : String) (timestamp : Nat) :
    StoreInvariant (store.touchIncident incidentUuid timestamp) clock used :=
  invariant.changeIncidents _ fun row => by split <;> rfl

/-- The uuids of a call were never drawn. -/
structure UnusedSupply (used : List String) (uuids : Nat → String) : Prop where
  unused : ∀ position, uuids position ∉ used
  distinct : Function.Injective uuids

def drawn (uuids : Nat → String) : List String := [uuids 0, uuids 1, uuids 2]

theorem reconcile_step {store : AlertStore} {clock : Nat} {used : List String}
    {uuids : Nat → String} (invariant : StoreInvariant store clock used)
    (fresh : UnusedSupply used uuids) (cameraUuid : String) (state : CameraState) :
    StoreStep store (store.reconcileCameraIncident cameraUuid state clock uuids) clock used
      (used ++ drawn uuids) := by
  have withUuid := invariant.mono le_rfl (show used ⊆ used ++ [uuids 1] by simp)
  have unchanged : StoreStep store store clock used used := ⟨invariant, .same used rfl⟩
  have wider : used ⊆ used ++ drawn uuids := List.subset_append_left _ _
  have isFresh : uuids 0 ∉ used ++ [uuids 1] := by
    have differs : uuids 0 ≠ uuids 1 := fun same => absurd (fresh.distinct same) (by decide)
    simp [fresh.unused 0, differs]
  have resolved (incidentUuid : String) (reason : ResolutionReason) :
      StoreStep store (store.resolveIncident incidentUuid clock reason (uuids 1)) clock used
        (used ++ [uuids 1]) :=
    withUuid.resolve (by simp) (fresh.unused 1) reason
  rw [AlertStore.reconcileCameraIncident]
  split
  · rename_i kind incident _ _
    split
    · exact ⟨(invariant.touch _ _).mono le_rfl wider, .same used rfl⟩
    · have first := resolved incident.incidentUuid .causeChanged
      have second := first.invariant.openIncident isFresh (List.subset_append_left _ _)
        (fresh.unused 2) cameraUuid kind
      exact StoreStep.mono ⟨second.invariant, first.grows.trans second.grows⟩
        (by grind [drawn])
  · rename_i kind _ _
    exact (invariant.openIncident (fresh.unused 0) (List.Subset.refl used) (fresh.unused 2)
      cameraUuid kind).mono (by grind [drawn])
  · split
    · exact (resolved _ _).mono (by grind [drawn])
    split
    · exact (resolved _ _).mono (by grind [drawn])
    · exact unchanged.mono wider
  · exact unchanged.mono wider

theorem openAddress_step {store : AlertStore} {clock : Nat} {used : List String}
    {uuids : Nat → String} (invariant : StoreInvariant store clock used)
    (fresh : UnusedSupply used uuids) (cameraUuid : String) :
    StoreStep store (store.openCameraAddressIncident cameraUuid clock uuids) clock used
      (used ++ drawn uuids) := by
  simp only [AlertStore.openCameraAddressIncident]
  split
  · exact ⟨(invariant.touch _ _).mono le_rfl (List.subset_append_left _ _), .same used rfl⟩
  · exact (invariant.openIncident (fresh.unused 0) (List.Subset.refl used) (fresh.unused 2)
      cameraUuid .cameraAddressChanged).mono (by grind [drawn])

theorem resolveAddress_step {store : AlertStore} {clock : Nat} {used : List String}
    {uuids : Nat → String} (invariant : StoreInvariant store clock used)
    (fresh : UnusedSupply used uuids) (incidentUuid : String) :
    StoreStep store (store.resolveCameraAddressIncident incidentUuid clock uuids) clock used
      (used ++ drawn uuids) := by
  have wider : used ⊆ used ++ drawn uuids := List.subset_append_left _ _
  have unchanged : StoreStep store store clock used (used ++ drawn uuids) :=
    ⟨invariant.mono le_rfl wider, .same used rfl⟩
  rw [AlertStore.resolveCameraAddressIncident]
  split
  · exact unchanged
  split
  · exact unchanged
  · exact unchanged.invariant.resolve (by simp [drawn]) (fresh.unused 1) .streamRecovered

theorem silence_step {store : AlertStore} {clock : Nat} {used : List String}
    (invariant : StoreInvariant store clock used) (cameraUuid : String) (silenced : Bool) :
    StoreStep store (store.setCameraNotificationsSilenced cameraUuid silenced) clock used
      used := by
  simp only [AlertStore.setCameraNotificationsSilenced]
  split
  · refine ⟨?_, .filter store _ used⟩
    have fromOld {Property : OutboxRow → Prop} {keep : OutboxRow → Bool}
        (old : ∀ row ∈ store.outbox, Property row) :
        ∀ row ∈ store.outbox.filter keep, Property row :=
      fun row member => old row (List.mem_filter.mp member).1
    refine { invariant with
      keys := invariant.keys.filter _
      uuids := invariant.uuids.filter _
      rowsUsed := fromOld invariant.rowsUsed
      keysUsed := fromOld invariant.keysUsed
      created := fromOld invariant.created
      pending := fromOld invariant.pending
      named := fromOld invariant.named
      paired := ?_ }
    intro row member waits incidentUuid isKey
    obtain ⟨isOld, kept⟩ := List.mem_filter.mp member
    obtain ⟨opened, key, ordered, order⟩ := invariant.paired row isOld waits incidentUuid isKey
    refine ⟨opened, key, ?_, order⟩
    have openedMember : opened ∈ store.outbox := ordered.subset List.mem_cons_self
    -- The opening alert is dropped only for an incident that drops the other alert as well.
    have openedKept : (!(opened.waiting && store.concerns cameraUuid opened)) = true := by
      by_contra dropped
      simp only [Bool.not_eq_true', Bool.not_eq_false, Bool.and_eq_true, AlertStore.concerns,
        List.any_eq_true, decide_eq_true_eq] at dropped
      obtain ⟨_, incident, isIncident, ofCamera, isNamed⟩ := dropped
      rcases invariant.named opened openedMember _ _ key with same | ⟨lost, _⟩
      · obtain rfl := Option.some.inj (same.symm.trans isNamed)
        rcases invariant.named row isOld _ _ isKey with rowNamed | ⟨_, gone⟩
        · simp only [waits, Bool.true_and, Bool.not_eq_true', AlertStore.concerns,
            List.any_eq_false, Bool.and_eq_true, decide_eq_true_eq, not_and] at kept
          exact kept incident isIncident ofCamera rowNamed
        · exact gone incident isIncident rfl
      · simp [lost] at isNamed
    have filtered := ordered.filter fun row => !(row.waiting && store.concerns cameraUuid row)
    simpa only [List.filter_cons, openedKept, kept, if_true, List.filter_nil] using filtered
  · exact ⟨{ invariant with }, .same used rfl⟩

/-- Nothing but the incident of the row changes. -/
theorem detached_same (store : AlertStore) (cameraUuid : String) (row : OutboxRow) :
    (store.detached cameraUuid row).idempotencyKey = row.idempotencyKey ∧
      (store.detached cameraUuid row).outboxUuid = row.outboxUuid ∧
      (store.detached cameraUuid row).status = row.status ∧
      (store.detached cameraUuid row).createdAt = row.createdAt ∧
      (store.detached cameraUuid row).nextAttemptAt = row.nextAttemptAt := by
  rw [AlertStore.detached]
  split <;> exact ⟨rfl, rfl, rfl, rfl, rfl⟩

theorem StoreInvariant.detached_named {store : AlertStore} {clock : Nat} {used : List String}
    (invariant : StoreInvariant store clock used) (cameraUuid : String) {row : OutboxRow}
    (member : row ∈ store.outbox) {incidentUuid : String} {eventType : EventType}
    (isKey : row.idempotencyKey = .incident incidentUuid eventType) :
    (store.detached cameraUuid row).incidentUuid = some incidentUuid ∨
      (store.detached cameraUuid row).incidentUuid = none ∧
        ∀ incident ∈ store.incidents.filter (·.cameraUuid ≠ cameraUuid),
          incident.incidentUuid ≠ incidentUuid := by
  have named := invariant.named row member incidentUuid eventType isKey
  rw [AlertStore.detached]
  split
  · rename_i detached
    simp only [AlertStore.concerns, List.any_eq_true, Bool.and_eq_true,
      decide_eq_true_eq] at detached
    obtain ⟨incident, isIncident, ofCamera, isNamed⟩ := detached
    refine .inr ⟨rfl, ?_⟩
    rcases named with same | ⟨lost, _⟩
    · obtain rfl := Option.some.inj (same.symm.trans isNamed)
      intro other isOther same
      obtain ⟨otherMember, otherCamera⟩ := List.mem_filter.mp isOther
      obtain rfl := invariant.incidents.eq otherMember isIncident same
      simp [ofCamera] at otherCamera
    · simp [lost] at isNamed
  · refine named.imp_right fun ⟨lost, gone⟩ => ⟨lost, ?_⟩
    exact fun incident isIncident => gone incident (List.mem_filter.mp isIncident).1

theorem removeCamera_step {store : AlertStore} {clock : Nat} {used : List String}
    (invariant : StoreInvariant store clock used) (cameraUuid : String) :
    StoreStep store (store.removeCamera cameraUuid) clock used used := by
  have same := detached_same store cameraUuid
  constructor
  · refine {
      incidents := invariant.incidents.filter _
      incidentsUsed := fun incident member =>
        invariant.incidentsUsed incident (List.mem_filter.mp member).1
      keys := invariant.keys.map _ fun row => (same row).1
      uuids := invariant.uuids.map _ fun row => (same row).2.1
      rowsUsed := ?_, keysUsed := ?_, created := ?_, pending := ?_, named := ?_, paired := ?_ } <;>
      simp only [AlertStore.removeCamera] <;> rw [List.forall_mem_map] <;> intro row member <;>
      obtain ⟨sameKey, sameUuid, sameStatus, sameCreated, sameNext⟩ := same row
    · exact sameUuid ▸ invariant.rowsUsed row member
    · intro incidentUuid eventType isKey
      exact invariant.keysUsed row member incidentUuid eventType (sameKey.symm.trans isKey)
    · exact sameCreated ▸ invariant.created row member
    · intro isPending
      rw [sameNext, sameCreated]
      exact invariant.pending row member (sameStatus.symm.trans isPending)
    · intro incidentUuid eventType isKey
      exact invariant.detached_named cameraUuid member (sameKey.symm.trans isKey)
    · intro waits incidentUuid isKey
      have rowWaits : row.waiting = true := by
        simpa only [OutboxRow.waiting, sameStatus] using waits
      obtain ⟨opened, key, ordered, order⟩ := invariant.paired row member rowWaits incidentUuid
        (sameKey.symm.trans isKey)
      obtain ⟨openedKey, _, _, openedCreated, _⟩ := same opened
      refine ⟨_, openedKey.trans key, ordered.map _, ?_⟩
      rw [openedCreated, sameCreated]
      exact order
  · intro row member
    obtain ⟨old, isOld, rfl⟩ := List.mem_map.mp member
    obtain ⟨sameKey, sameUuid, sameStatus, _, _⟩ := same old
    exact .inl ⟨old, isOld, sameKey.symm, sameUuid.symm, sameStatus.symm⟩

theorem enqueueMessage_step {store : AlertStore} {clock : Nat} {used : List String}
    {uuids : Nat → String} (invariant : StoreInvariant store clock used)
    (fresh : UnusedSupply used uuids) (eventType : EventType) :
    StoreStep store (store.enqueueMessage eventType clock (uuids 0)) clock used
      (used ++ drawn uuids) := by
  have wider := invariant.mono le_rfl (List.subset_append_left used (drawn uuids))
  refine ⟨?_, .insertOutbox store (fresh.unused 0) rfl ?_⟩
  · refine wider.insertOutbox (by simp [drawn]) le_rfl rfl ?_ ?_
    · intro incidentUuid other isKey
      cases isKey
    · intro incidentUuid isKey
      cases isKey
  · intro incidentUuid isKey
    cases isKey

/-- The incidents change as in the camera repository. -/
theorem reconcileCameraIncident_incidents {store : AlertStore} {cameraUuid : String}
    {state : CameraState} {timestamp : Nat} {uuids : Nat → String} :
    (store.reconcileCameraIncident cameraUuid state timestamp uuids).incidents =
      reconcileIncidents store.incidents cameraUuid state timestamp (uuids 0) := by
  have enqueued (incidentUuid camera : String) (kind : IncidentKind) (eventType : EventType)
      (outboxUuid : String) (other : AlertStore) :
      (other.enqueueIncidentNotification incidentUuid camera kind eventType timestamp
        outboxUuid).incidents = other.incidents := by
    rw [AlertStore.enqueueIncidentNotification]
    split
    · rfl
    split
    · rfl
    · rw [AlertStore.insertOutbox]
      split <;> rfl
  have resolved (reason : ResolutionReason) {incident : Incident}
      (found : store.incidents.find? (·.opened cameraUuid) = some incident) :
      (store.resolveIncident incident.incidentUuid timestamp reason (uuids 1)).incidents =
        resolveIncident store.incidents incident.incidentUuid timestamp reason := by
    obtain ⟨row, isRow⟩ : ∃ row, rowAt Incident.incidentUuid store.incidents
        incident.incidentUuid = some row := rowAt_isSome (List.mem_of_find?_eq_some found)
    simp only [AlertStore.resolveIncident, isRow, enqueued]
  rw [AlertStore.reconcileCameraIncident, reconcileIncidents]
  cases desiredKind state with
  | none =>
      cases found : store.incidents.find? (·.opened cameraUuid) with
      | none => rfl
      | some incident =>
          dsimp only
          split
          · exact resolved _ found
          split
          · exact resolved _ found
          · rfl
  | some kind =>
      cases found : store.incidents.find? (·.opened cameraUuid) with
      | none => exact enqueued _ _ _ _ _ _
      | some incident =>
          dsimp only
          split
          · rfl
          · rw [AlertStore.openIncident, enqueued, resolved _ found]

end CamAdmiral
