import CamAdmiral.NotificationOutbox
import CamAdmiral.Runs

/-!
The order of the alerts about one incident, over runs of everything that touches the outbox.
-/

namespace CamAdmiral

/-- An alert about a resolved incident comes after the alert about its opening, and no alert
about its opening comes after it. -/
def AlertsOrdered (log : List IdempotencyKey) : Prop :=
  ∀ before after incidentUuid, log = before ++ resolvedKey incidentUuid :: after →
    openedKey incidentUuid ∈ before ∧ openedKey incidentUuid ∉ after

theorem AlertsOrdered.nil : AlertsOrdered [] := by
  intro before after incidentUuid split
  simp at split

/-- Appending a message keeps the order if it does not come too early or too late. -/
theorem AlertsOrdered.append {log : List IdempotencyKey} (ordered : AlertsOrdered log)
    {key : IdempotencyKey}
    (notEarly : ∀ incidentUuid, key = resolvedKey incidentUuid → openedKey incidentUuid ∈ log)
    (notLate : ∀ incidentUuid, key = openedKey incidentUuid → resolvedKey incidentUuid ∉ log) :
    AlertsOrdered (log ++ [key]) := by
  intro before after incidentUuid split
  rcases List.eq_nil_or_concat after with rfl | ⟨front, last, rfl⟩
  · obtain ⟨rfl, same⟩ := List.append_inj' split rfl
    exact ⟨notEarly incidentUuid (List.cons.inj same).1, List.not_mem_nil⟩
  · rw [List.concat_eq_append, ← List.cons_append, ← List.append_assoc] at split
    obtain ⟨earlier, same⟩ := List.append_inj' split rfl
    obtain ⟨inBefore, notInFront⟩ := ordered before front incidentUuid earlier
    refine ⟨inBefore, ?_⟩
    rw [List.concat_eq_append, List.mem_append, not_or]
    refine ⟨notInFront, ?_⟩
    rw [List.mem_singleton, ← (List.cons.inj same).1]
    intro isOpened
    exact notLate incidentUuid isOpened.symm (earlier ▸ by simp)

/-- The alert about the opening has been delivered and is settled for good. -/
structure OpeningSettled (system : AlertSystem) (incidentUuid : String) : Prop where
  logged : openedKey incidentUuid ∈ system.log
  sent : ∀ row ∈ system.store.outbox, row.idempotencyKey = openedKey incidentUuid →
    row.status = .sent
  notQueued : ∀ row ∈ system.queue, row.idempotencyKey ≠ openedKey incidentUuid
  notSettling : ∀ item ∈ system.settling, item.1.idempotencyKey ≠ openedKey incidentUuid

/-- The alert about the opening is being sent, and either accepted or the cycle ends. -/
def OpeningSent (system : AlertSystem) (incidentUuid : String) : Prop :=
  ∃ item outcome, system.settling = some (item, outcome) ∧
    item.idempotencyKey = openedKey incidentUuid ∧
    ((∃ messageId, outcome = .accepted messageId ∧ openedKey incidentUuid ∈ system.log) ∨
      ∃ delivered, outcome = .crashed delivered)

/-- A fetched row and its row in the outbox have the same key and uuid. -/
structure Fetched (store : AlertStore) (used : List String) (item : OutboxRow) : Prop where
  isUsed : item.outboxUuid ∈ used
  keyUsed : ∀ incidentUuid eventType,
    item.idempotencyKey = .incident incidentUuid eventType → incidentUuid ∈ used
  sameKey : ∀ row ∈ store.outbox, row.outboxUuid = item.outboxUuid →
    row.idempotencyKey = item.idempotencyKey ∧ row.waiting = true
  sameUuid : ∀ incidentUuid, item.idempotencyKey = openedKey incidentUuid →
    ∀ row ∈ store.outbox, row.idempotencyKey = openedKey incidentUuid →
      row.outboxUuid = item.outboxUuid

/-- The rows the loop holds. -/
def AlertSystem.held (system : AlertSystem) : List OutboxRow :=
  system.queue ++ (system.settling.map Prod.fst).toList

/-- The invariant of the loop next to the tables. -/
structure AlertInvariant (system : AlertSystem) : Prop where
  store : StoreInvariant system.store system.clock system.used
  sentLogged : ∀ row ∈ system.store.outbox, ∀ incidentUuid,
    row.idempotencyKey = openedKey incidentUuid → row.status = .sent →
      openedKey incidentUuid ∈ system.log
  logUsed : ∀ incidentUuid eventType, .incident incidentUuid eventType ∈ system.log →
    incidentUuid ∈ system.used
  fetched : ∀ item ∈ system.held, Fetched system.store system.used item
  distinct : (system.held.map (·.idempotencyKey)).Nodup
  settlingLogged : ∀ item ∈ system.settling, item.2.delivered = true →
    item.1.idempotencyKey ∈ system.log
  behind : ∀ row ∈ system.queue, ∀ incidentUuid,
    row.idempotencyKey = resolvedKey incidentUuid →
      (∃ opened, opened.idempotencyKey = openedKey incidentUuid ∧
        List.Sublist [opened, row] system.queue) ∨
      OpeningSent system incidentUuid ∨ OpeningSettled system incidentUuid
  settled : ∀ incidentUuid, resolvedKey incidentUuid ∈ system.log →
    OpeningSettled system incidentUuid
  ordered : AlertsOrdered system.log

/-- The uuids a call draws are new, and the clock does not go back. -/
structure AlertFresh (system : AlertSystem) (call : AlertCall) : Prop where
  uuids : UnusedSupply system.used call.uuids
  clock : system.clock ≤ call.timestamp

/-- No alert about a resolved incident is fetched while the alert about its opening waits for
a retry or has failed, and none is fetched together with one whose attempt then fails. -/
structure AlertOrderly (system : AlertSystem) (call : AlertCall) : Prop where
  poll : call.action = .poll →
    ∀ row ∈ system.store.dueNotifications call.timestamp, ∀ incidentUuid,
      row.idempotencyKey = resolvedKey incidentUuid →
        ∀ opened ∈ system.store.outbox, opened.idempotencyKey = openedKey incidentUuid →
          opened.status ≠ .retry ∧ opened.status ≠ .failed
  send : ∀ delivered code retryAfterSeconds,
    call.action = .send (.rejected delivered code retryAfterSeconds) →
      ∀ item rest, system.queue = item :: rest → ∀ incidentUuid,
        item.idempotencyKey = openedKey incidentUuid →
          ∀ row ∈ rest, row.idempotencyKey ≠ resolvedKey incidentUuid

/-! Steps that leave the loop alone. -/

theorem Fetched.grows {before after : AlertStore} {used more : List String} {item : OutboxRow}
    (fetched : Fetched before used item) (grows : OutboxGrows before after used)
    (grown : used ⊆ more) : Fetched after more item := by
  refine ⟨grown fetched.isUsed, fun incidentUuid eventType isKey =>
    grown (fetched.keyUsed incidentUuid eventType isKey), ?_, ?_⟩
  · intro row isRow isUuid
    rcases grows row isRow with ⟨old, isOld, key, uuid, status⟩ | ⟨isNew, _⟩
    · have same := fetched.sameKey old isOld (uuid.trans isUuid)
      simp only [OutboxRow.waiting, status] at same
      exact ⟨key ▸ same.1, same.2⟩
    · exact absurd (isUuid ▸ fetched.isUsed) isNew
  · intro incidentUuid isKey row isRow rowKey
    rcases grows row isRow with ⟨old, isOld, key, uuid, _⟩ | ⟨_, _, isNew⟩
    · exact uuid ▸ fetched.sameUuid incidentUuid isKey old isOld (key.trans rowKey)
    · exact absurd (fetched.keyUsed _ _ isKey) (isNew incidentUuid rowKey)

theorem OpeningSettled.grows {before after : AlertSystem} {incidentUuid : String}
    (settled : OpeningSettled before incidentUuid)
    (grows : OutboxGrows before.store after.store before.used) (isUsed : incidentUuid ∈ before.used)
    (sameLog : after.log = before.log) (sameQueue : after.queue = before.queue)
    (sameSettling : after.settling = before.settling) : OpeningSettled after incidentUuid := by
  refine ⟨sameLog ▸ settled.logged, ?_, sameQueue ▸ settled.notQueued,
    sameSettling ▸ settled.notSettling⟩
  intro row member isKey
  rcases grows row member with ⟨old, isOld, sameKey, _, sameStatus⟩ | ⟨_, _, isNew⟩
  · exact sameStatus ▸ settled.sent old isOld (sameKey.trans isKey)
  · exact absurd isUsed (isNew incidentUuid isKey)

/-- A step on the tables keeps the invariant of the loop. -/
theorem AlertInvariant.storeStep {system : AlertSystem} (invariant : AlertInvariant system)
    {store : AlertStore} {timestamp : Nat} {used : List String}
    (step : StoreStep system.store store timestamp system.used used)
    (grown : system.used ⊆ used) :
    AlertInvariant { system with store, clock := timestamp, used } := by
  refine {
    store := step.invariant
    sentLogged := ?_
    logUsed := fun incidentUuid eventType logged =>
      grown (invariant.logUsed incidentUuid eventType logged)
    fetched := fun item member => (invariant.fetched item member).grows step.grows grown
    distinct := invariant.distinct
    settlingLogged := invariant.settlingLogged
    behind := ?_
    settled := fun incidentUuid logged => (invariant.settled incidentUuid logged).grows step.grows
      (invariant.logUsed _ _ logged) rfl rfl rfl
    ordered := invariant.ordered }
  · intro row member incidentUuid isKey isSent
    rcases step.grows row member with ⟨old, isOld, sameKey, _, sameStatus⟩ | ⟨_, pending, _⟩
    · exact invariant.sentLogged old isOld incidentUuid (sameKey.trans isKey)
        (sameStatus.trans isSent)
    · cases pending.symm.trans isSent
  · intro row member incidentUuid isKey
    rcases invariant.behind row member incidentUuid isKey with waiting | sent | settled
    · exact .inl waiting
    · exact .inr (.inl sent)
    · exact .inr (.inr (settled.grows step.grows (invariant.logUsed _ _ settled.logged)
        rfl rfl rfl))

/-! The steps of the loop. -/

theorem AlertStore.mem_due {store : AlertStore} {now : Nat} {row : OutboxRow}
    (member : row ∈ store.dueNotifications now) :
    row ∈ store.outbox ∧ row.waiting = true ∧ row.nextAttemptAt ≤ now := by
  have sorted := List.mem_of_mem_take member
  rw [List.mem_insertionSort, List.mem_filter, Bool.and_eq_true, decide_eq_true_eq] at sorted
  exact ⟨sorted.1, sorted.2.1, sorted.2.2⟩

theorem StoreInvariant.due_distinct {store : AlertStore} {clock : Nat} {used : List String}
    (invariant : StoreInvariant store clock used) (now : Nat) :
    ((store.dueNotifications now).map (·.idempotencyKey)).Nodup := by
  have due := (invariant.keys.filter fun row => row.waiting && row.nextAttemptAt ≤ (now : Int))
  have sorted := ((List.perm_insertionSort (fun first second : OutboxRow =>
    first.createdAt ≤ second.createdAt) _).map OutboxRow.idempotencyKey).nodup_iff.mpr due
  exact sorted.sublist ((List.take_sublist _ _).map _)

/-- An alert that is due is fetched behind the alert about the opening, if that waits for its
first attempt. -/
theorem StoreInvariant.due_behind {store : AlertStore} {clock now : Nat} {used : List String}
    (invariant : StoreInvariant store clock used) (order : clock ≤ now) {opened row : OutboxRow}
    (ordered : List.Sublist [opened, row] store.outbox) (created : opened.createdAt ≤ row.createdAt)
    (pending : opened.status = .pending) (due : row ∈ store.dueNotifications now) :
    List.Sublist [opened, row] (store.dueNotifications now) := by
  obtain ⟨_, waits, isDue⟩ := AlertStore.mem_due due
  have isOpened : opened ∈ store.outbox := ordered.subset List.mem_cons_self
  have openedDue : opened.nextAttemptAt ≤ (now : Int) := by
    have next := invariant.pending opened isOpened pending
    have early := invariant.created opened isOpened
    omega
  have filtered := ordered.filter fun row => row.waiting && row.nextAttemptAt ≤ (now : Int)
  have openedWaits : opened.waiting = true := by simp [OutboxRow.waiting, pending]
  simp only [List.filter_cons, openedWaits, openedDue, waits, isDue, decide_true, Bool.and_self,
    if_true, List.filter_nil] at filtered
  have sorted := List.pair_sublist_insertionSort
    (r := fun first second : OutboxRow => first.createdAt ≤ second.createdAt) created filtered
  refine pair_sublist_take ?_ sorted due
  have distinct := invariant.keys.filter fun row =>
    row.waiting && row.nextAttemptAt ≤ (now : Int)
  exact (List.perm_insertionSort _ _).nodup_iff.mpr (List.Nodup.of_map _ distinct)

theorem AlertInvariant.poll {system : AlertSystem} (invariant : AlertInvariant system)
    (idle : system.settling = none) {now : Nat} (order : system.clock ≤ now)
    (orderly : ∀ row ∈ system.store.dueNotifications now, ∀ incidentUuid,
      row.idempotencyKey = resolvedKey incidentUuid →
        ∀ opened ∈ system.store.outbox, opened.idempotencyKey = openedKey incidentUuid →
          opened.status ≠ .retry ∧ opened.status ≠ .failed) :
    AlertInvariant { system with queue := system.store.dueNotifications now } := by
  have store := invariant.store
  have notSettling {incidentUuid : String} :
      ∀ item ∈ system.settling, item.1.idempotencyKey ≠ openedKey incidentUuid := by
    simp [idle]
  -- A row that is sent is not due.
  have notDue {opened : OutboxRow} {incidentUuid : String} (member : opened ∈ system.store.outbox)
      (isKey : opened.idempotencyKey = openedKey incidentUuid) (sent : opened.status = .sent) :
      ∀ row ∈ system.store.dueNotifications now,
        row.idempotencyKey ≠ openedKey incidentUuid := by
    intro row isDue rowKey
    obtain ⟨isRow, waits, _⟩ := AlertStore.mem_due isDue
    obtain rfl := store.keys.eq isRow member (rowKey.trans isKey.symm)
    simp [OutboxRow.waiting, sent] at waits
  refine { invariant with fetched := ?_, distinct := ?_, behind := ?_, settled := ?_ }
  · intro item member
    simp only [AlertSystem.held, idle, Option.map_none, Option.toList_none,
      List.append_nil] at member
    obtain ⟨isItem, waits, _⟩ := AlertStore.mem_due member
    refine ⟨store.rowsUsed item isItem, store.keysUsed item isItem, ?_, ?_⟩
    · intro row isRow same
      rw [store.uuids.eq isRow isItem same]
      exact ⟨rfl, waits⟩
    · intro incidentUuid isKey row isRow rowKey
      rw [store.keys.eq isRow isItem (rowKey.trans isKey.symm)]
  · simp only [AlertSystem.held, idle, Option.map_none, Option.toList_none, List.append_nil]
    exact store.due_distinct now
  · intro row member incidentUuid isKey
    obtain ⟨isRow, waits, _⟩ := AlertStore.mem_due member
    obtain ⟨opened, openedIs, ordered, created⟩ := store.paired row isRow waits incidentUuid isKey
    have isOpened : opened ∈ system.store.outbox := ordered.subset List.mem_cons_self
    obtain ⟨notRetry, notFailed⟩ := orderly row member incidentUuid isKey opened isOpened openedIs
    cases status : opened.status with
    | pending =>
        exact .inl ⟨opened, openedIs, store.due_behind order ordered created status member⟩
    | retry => exact absurd status notRetry
    | failed => exact absurd status notFailed
    | sent =>
        refine .inr (.inr ⟨invariant.sentLogged opened isOpened _ openedIs status, ?_,
          notDue isOpened openedIs status, notSettling⟩)
        intro other isOther otherKey
        rw [store.keys.eq isOther isOpened (otherKey.trans openedIs.symm)]
        exact status
  · intro incidentUuid logged
    have settled := invariant.settled incidentUuid logged
    refine ⟨settled.logged, settled.sent, ?_, notSettling⟩
    intro row isDue rowKey
    obtain ⟨isRow, waits, _⟩ := AlertStore.mem_due isDue
    have sent := settled.sent row isRow rowKey
    simp [OutboxRow.waiting, sent] at waits

theorem OpeningSettled.send {system : AlertSystem} {incidentUuid : String} {item : OutboxRow}
    {rest : List OutboxRow} (settled : OpeningSettled system incidentUuid)
    (queue : system.queue = item :: rest) (outcome : SendOutcome) :
    OpeningSettled { system with
      queue := rest
      settling := some (item, outcome)
      log := if outcome.delivered then system.log ++ [item.idempotencyKey] else system.log }
      incidentUuid := by
  refine ⟨?_, settled.sent, ?_, ?_⟩
  · split
    · exact List.mem_append_left _ settled.logged
    · exact settled.logged
  · intro row member
    exact settled.notQueued row (queue ▸ List.mem_cons_of_mem _ member)
  · intro other isOther
    obtain rfl := Option.some.inj isOther
    exact settled.notQueued item (queue ▸ List.mem_cons_self)

/-- The first row of the queue is sent only after the alert about the opening is settled. -/
theorem AlertInvariant.head_settled {system : AlertSystem} (invariant : AlertInvariant system)
    (idle : system.settling = none) {item : OutboxRow} {rest : List OutboxRow}
    (queue : system.queue = item :: rest) {incidentUuid : String}
    (isKey : item.idempotencyKey = resolvedKey incidentUuid) :
    OpeningSettled system incidentUuid := by
  have notInRest : item ∉ rest := by
    have distinct := invariant.distinct
    simp only [AlertSystem.held, idle, queue, Option.map_none, Option.toList_none,
      List.append_nil, List.map_cons, List.nodup_cons] at distinct
    exact fun member => distinct.1 (List.mem_map_of_mem member)
  rcases invariant.behind item (queue ▸ List.mem_cons_self) incidentUuid isKey with
    ⟨opened, openedIs, ordered⟩ | ⟨other, outcome, settling, _⟩ | settled
  · rw [queue] at ordered
    cases ordered with
    | cons _ inRest => exact absurd (inRest.subset (by simp)) notInRest
    | cons_cons _ inRest => exact absurd (inRest.subset (by simp)) notInRest
  · simp [idle] at settling
  · exact settled

theorem AlertInvariant.send {system : AlertSystem} (invariant : AlertInvariant system)
    (idle : system.settling = none) {item : OutboxRow} {rest : List OutboxRow}
    (queue : system.queue = item :: rest) (outcome : SendOutcome)
    (orderly : ∀ delivered code retryAfterSeconds,
      outcome = .rejected delivered code retryAfterSeconds → ∀ incidentUuid,
        item.idempotencyKey = openedKey incidentUuid →
          ∀ row ∈ rest, row.idempotencyKey ≠ resolvedKey incidentUuid) :
    AlertInvariant { system with
      queue := rest
      settling := some (item, outcome)
      log := if outcome.delivered then system.log ++ [item.idempotencyKey] else system.log } := by
  have heldBefore : system.held = item :: rest := by
    simp [AlertSystem.held, idle, queue]
  have isHeld : item ∈ system.held := heldBefore ▸ List.mem_cons_self
  -- What is in the new log was there or is this message.
  have logged {key : IdempotencyKey} (member : key ∈
      if outcome.delivered then system.log ++ [item.idempotencyKey] else system.log) :
      key ∈ system.log ∨ outcome.delivered = true ∧ item.idempotencyKey = key := by
    split at member
    · rename_i delivered
      rcases List.mem_append.mp member with isOld | isNew
      · exact .inl isOld
      · exact .inr ⟨delivered, (List.mem_singleton.mp isNew).symm⟩
    · exact .inl member
  have keeps {key : IdempotencyKey} (member : key ∈ system.log) : key ∈
      if outcome.delivered then system.log ++ [item.idempotencyKey] else system.log := by
    split
    · exact List.mem_append_left _ member
    · exact member
  refine {
    store := invariant.store
    sentLogged := fun row member incidentUuid isKey isSent =>
      keeps (invariant.sentLogged row member incidentUuid isKey isSent)
    logUsed := ?_, fetched := ?_, distinct := ?_, settlingLogged := ?_, behind := ?_
    settled := ?_, ordered := ?_ }
  · intro incidentUuid eventType member
    rcases logged member with isOld | ⟨_, isKey⟩
    · exact invariant.logUsed incidentUuid eventType isOld
    · exact (invariant.fetched item isHeld).keyUsed incidentUuid eventType isKey
  · intro other member
    apply invariant.fetched
    simp only [AlertSystem.held, Option.map_some, Option.toList_some, List.mem_append,
      List.mem_singleton] at member
    rw [heldBefore, List.mem_cons]
    exact member.symm
  · have distinct := invariant.distinct
    rw [heldBefore] at distinct
    have rotated : (rest ++ [item]).Perm (item :: rest) := List.perm_append_singleton item rest
    exact (rotated.map _).nodup_iff.mpr distinct
  · intro other isOther delivered
    obtain rfl := Option.some.inj isOther
    simp [show outcome.delivered = true from delivered]
  · intro row member incidentUuid isKey
    rcases invariant.behind row (queue ▸ List.mem_cons_of_mem _ member) incidentUuid isKey with
      ⟨opened, openedIs, ordered⟩ | ⟨other, _, settling, _⟩ | settled
    · rw [queue] at ordered
      cases ordered with
      | cons _ inRest => exact .inl ⟨opened, openedIs, inRest⟩
      | cons_cons _ inRest =>
          refine .inr (.inl ⟨item, outcome, rfl, openedIs, ?_⟩)
          cases outcome with
          | accepted messageId =>
              exact .inl ⟨messageId, rfl, by simp [SendOutcome.delivered, openedIs]⟩
          | rejected delivered code retryAfterSeconds =>
              exact absurd isKey (orderly _ _ _ rfl incidentUuid openedIs row member)
          | crashed delivered => exact .inr ⟨delivered, rfl⟩
    · simp [idle] at settling
    · exact .inr (.inr (settled.send queue outcome))
  · intro incidentUuid member
    rcases logged member with isOld | ⟨_, isKey⟩
    · exact (invariant.settled incidentUuid isOld).send queue outcome
    · exact (invariant.head_settled idle queue isKey).send queue outcome
  · dsimp only
    split
    · apply invariant.ordered.append
      · intro incidentUuid isKey
        exact (invariant.head_settled idle queue isKey).logged
      · intro incidentUuid isKey isLogged
        exact (invariant.settled incidentUuid isLogged).notQueued item
          (queue ▸ List.mem_cons_self) isKey
    · exact invariant.ordered

/-! Settling changes the row of the message that was sent and no other. -/

theorem completeNotificationDelivery_invariant {store : AlertStore} {clock : Nat}
    {used : List String} (invariant : StoreInvariant store clock used)
    (outboxUuid messageId : String) :
    StoreInvariant (store.completeNotificationDelivery outboxUuid messageId) clock used := by
  apply invariant.changeRows
  · intro row
    split <;> rfl
  · intro row
    split <;> rfl
  · intro row
    split <;> rfl
  · intro row
    split <;> rfl
  · intro row _ waits
    split at waits
    · simp [OutboxRow.waiting] at waits
    · exact waits
  · intro row _ pending
    split at pending
    · simp at pending
    · rename_i differs
      rw [if_neg differs]

theorem failNotificationDelivery_invariant {store : AlertStore} {clock : Nat}
    {used : List String} (invariant : StoreInvariant store clock used) {outboxUuid : String}
    (waits : ∀ row ∈ store.outbox, row.outboxUuid = outboxUuid → row.waiting = true)
    (errorCode : String) (retryAfterSeconds : Option Int) (now : Nat) :
    StoreInvariant (store.failNotificationDelivery outboxUuid errorCode retryAfterSeconds now)
      clock used := by
  apply invariant.changeRows
  · intro row
    split <;> rfl
  · intro row
    split <;> rfl
  · intro row
    split <;> rfl
  · intro row
    split <;> rfl
  · intro row member stillWaits
    split at stillWaits
    · rename_i isRow
      exact waits row member isRow
    · exact stillWaits
  · intro row _ pending
    split at pending
    · simp only at pending
      split at pending <;> cases pending
    · rename_i differs
      rw [if_neg differs]

/-- What settling makes of a row. -/
structure SettledRow (item : OutboxRow) (outcome : SendOutcome) (old row : OutboxRow) : Prop where
  sameKey : old.idempotencyKey = row.idempotencyKey
  sameUuid : old.outboxUuid = row.outboxUuid
  others : old.outboxUuid ≠ item.outboxUuid → row = old
  accepted : old.outboxUuid = item.outboxUuid →
    ∀ messageId, outcome = .accepted messageId → row.status = .sent
  sent : row.status = .sent → row = old ∨ ∃ messageId, outcome = .accepted messageId

theorem settleDelivery_rows {store : AlertStore} {item row : OutboxRow} {now : Nat}
    {outcome : SendOutcome} (member : row ∈ (settleDelivery store item now outcome).outbox) :
    ∃ old ∈ store.outbox, SettledRow item outcome old row := by
  cases outcome with
  | accepted messageId =>
      obtain ⟨old, isOld, rfl⟩ := List.mem_map.mp member
      refine ⟨old, isOld, ?_⟩
      split
      · rename_i same
        exact ⟨rfl, rfl, fun differs => absurd same differs, fun _ _ _ => rfl,
          fun _ => .inr ⟨messageId, rfl⟩⟩
      · rename_i differs
        exact ⟨rfl, rfl, fun _ => rfl, fun same => absurd same differs, fun _ => .inl rfl⟩
  | rejected delivered code retryAfterSeconds =>
      obtain ⟨old, isOld, rfl⟩ := List.mem_map.mp member
      refine ⟨old, isOld, ?_⟩
      split
      · rename_i same
        refine ⟨rfl, rfl, fun differs => absurd same differs, by simp, ?_⟩
        intro sent
        simp only at sent
        split at sent <;> cases sent
      · exact ⟨rfl, rfl, fun _ => rfl, by simp, fun _ => .inl rfl⟩
  | crashed delivered =>
      exact ⟨row, member, rfl, rfl, fun _ => rfl, by simp, fun _ => .inl rfl⟩

theorem settleDelivery_invariant {store : AlertStore} {clock : Nat} {used : List String}
    (invariant : StoreInvariant store clock used) {item : OutboxRow}
    (fetched : Fetched store used item) (now : Nat) (outcome : SendOutcome) :
    StoreInvariant (settleDelivery store item now outcome) clock used := by
  cases outcome with
  | accepted messageId => exact completeNotificationDelivery_invariant invariant _ _
  | rejected delivered code retryAfterSeconds =>
      exact failNotificationDelivery_invariant invariant
        (fun row isRow same => (fetched.sameKey row isRow same).2) _ _ _
  | crashed delivered => exact invariant

/-- The rows the loop still holds are not the settled one. -/
theorem AlertInvariant.other_uuid {system : AlertSystem} (invariant : AlertInvariant system)
    {item : OutboxRow} {outcome : SendOutcome} (settling : system.settling = some (item, outcome))
    {other row : OutboxRow} (queued : other ∈ system.queue) (isRow : row ∈ system.store.outbox)
    (same : row.outboxUuid = other.outboxUuid) : row.outboxUuid ≠ item.outboxUuid := by
  intro isItem
  have held : system.held = system.queue ++ [item] := by simp [AlertSystem.held, settling]
  have otherHeld : other ∈ system.held := held ▸ List.mem_append_left _ queued
  have itemHeld : item ∈ system.held := held ▸ List.mem_append_right _ (List.mem_singleton_self _)
  have otherKey := ((invariant.fetched other otherHeld).sameKey row isRow same).1
  have itemKey := ((invariant.fetched item itemHeld).sameKey row isRow isItem).1
  have distinct := invariant.distinct
  rw [held, List.map_append, List.nodup_append] at distinct
  exact distinct.2.2 _ (List.mem_map_of_mem queued) item.idempotencyKey (by simp)
    (otherKey.symm.trans itemKey)

theorem AlertInvariant.settle {system : AlertSystem} (invariant : AlertInvariant system)
    {item : OutboxRow} {outcome : SendOutcome} (settling : system.settling = some (item, outcome))
    (now : Nat) {queue : List OutboxRow}
    (remaining : queue = system.queue ∨ queue = [] )
    (cleared : ∀ delivered, outcome = .crashed delivered → queue = []) :
    AlertInvariant { system with
      store := settleDelivery system.store item now outcome
      settling := none
      queue := queue } := by
  have held : system.held = system.queue ++ [item] := by simp [AlertSystem.held, settling]
  have itemHeld : item ∈ system.held := held ▸ List.mem_append_right _ (List.mem_singleton_self _)
  have isFetched := invariant.fetched item itemHeld
  have queued {row : OutboxRow} (member : row ∈ queue) : row ∈ system.queue := by
    rcases remaining with rfl | rfl
    · exact member
    · cases member
  have heldAfter {row : OutboxRow} (member : row ∈ queue ++ ((none : Option (OutboxRow ×
      SendOutcome)).map Prod.fst).toList) : row ∈ system.queue := by
    rw [Option.map_none, Option.toList_none, List.append_nil] at member
    exact queued member
  -- Once settled, an opening stays settled, for its row is not the one of this message.
  have stays {incidentUuid : String} (settled : OpeningSettled system incidentUuid) :
      OpeningSettled { system with
        store := settleDelivery system.store item now outcome
        settling := none
        queue := queue } incidentUuid := by
    refine ⟨settled.logged, ?_, fun row member => settled.notQueued row (queued member), by simp⟩
    intro row member isKey
    obtain ⟨old, isOld, change⟩ := settleDelivery_rows member
    have oldKey := change.sameKey.trans isKey
    have differs : old.outboxUuid ≠ item.outboxUuid := by
      intro same
      exact settled.notSettling _ settling
        (((isFetched.sameKey old isOld same).1).symm.trans oldKey)
    rw [change.others differs]
    exact settled.sent old isOld oldKey
  refine {
    store := settleDelivery_invariant invariant.store isFetched now outcome
    sentLogged := ?_
    logUsed := invariant.logUsed
    fetched := ?_, distinct := ?_
    settlingLogged := by simp
    behind := ?_
    settled := fun incidentUuid logged => stays (invariant.settled incidentUuid logged)
    ordered := invariant.ordered }
  · intro row member incidentUuid isKey isSent
    obtain ⟨old, isOld, change⟩ := settleDelivery_rows member
    rcases change.sent isSent with rfl | ⟨messageId, rfl⟩
    · exact invariant.sentLogged row isOld incidentUuid isKey isSent
    · by_cases same : old.outboxUuid = item.outboxUuid
      · have logged := invariant.settlingLogged _ settling rfl
        rwa [← (isFetched.sameKey old isOld same).1, change.sameKey, isKey] at logged
      · rw [change.others same] at isSent isKey
        exact invariant.sentLogged old isOld incidentUuid isKey isSent
  · intro other member
    have isQueued := heldAfter member
    have before := invariant.fetched other (held ▸ List.mem_append_left _ isQueued)
    refine ⟨before.isUsed, before.keyUsed, ?_, ?_⟩
    · intro row isRow same
      obtain ⟨old, isOld, change⟩ := settleDelivery_rows isRow
      have oldSame := change.sameUuid.trans same
      rw [change.others (invariant.other_uuid settling isQueued isOld oldSame)]
      exact before.sameKey old isOld oldSame
    · intro incidentUuid isKey row isRow rowKey
      obtain ⟨old, isOld, change⟩ := settleDelivery_rows isRow
      exact change.sameUuid.symm.trans
        (before.sameUuid incidentUuid isKey old isOld (change.sameKey.trans rowKey))
  · have distinct := invariant.distinct
    rw [held, List.map_append] at distinct
    have shorter : (system.queue.map (·.idempotencyKey)).Nodup :=
      distinct.sublist (List.sublist_append_left _ _)
    rcases remaining with rfl | rfl
    · simpa [AlertSystem.held] using shorter
    · simp [AlertSystem.held]
  · intro row member incidentUuid isKey
    have kept : queue = system.queue := by
      rcases remaining with same | rfl
      · exact same
      · cases member
    rcases invariant.behind row (queued member) incidentUuid isKey with
      ⟨opened, openedIs, ordered⟩ | ⟨other, result, isSettling, openedIs, sent⟩ | settled
    · exact .inl ⟨opened, openedIs, kept ▸ ordered⟩
    · obtain ⟨rfl, rfl⟩ := Prod.mk.inj (Option.some.inj (settling.symm.trans isSettling))
      rcases sent with ⟨messageId, rfl, logged⟩ | ⟨delivered, rfl⟩
      · refine .inr (.inr ⟨logged, ?_, ?_, by simp⟩)
        · intro changed isRow rowKey
          obtain ⟨old, isOld, change⟩ := settleDelivery_rows isRow
          have same := isFetched.sameUuid incidentUuid openedIs old isOld
            (change.sameKey.trans rowKey)
          exact change.accepted same messageId rfl
        · intro other isOther otherKey
          have distinct := invariant.distinct
          rw [held, List.map_append, List.nodup_append] at distinct
          exact distinct.2.2 _ (List.mem_map_of_mem (queued isOther)) item.idempotencyKey
            (by simp) (otherKey.trans openedIs.symm)
      · rw [cleared delivered rfl] at member
        cases member
    · exact .inr (.inr (stays settled))

/-! Runs. -/

theorem alertStep_invariant {system : AlertSystem} (invariant : AlertInvariant system)
    {call : AlertCall} (fresh : AlertFresh system call) (orderly : AlertOrderly system call) :
    AlertInvariant (alertStep system call) := by
  obtain ⟨action, timestamp, uuids⟩ := call
  have wider : system.used ⊆ system.used ++ drawn uuids := List.subset_append_left _ _
  have ticked := invariant.store.mono fresh.clock (List.Subset.refl system.used)
  have quiet {store : AlertStore}
      (step : StoreStep system.store store timestamp system.used system.used) :
      AlertInvariant { system with
        store, clock := timestamp, used := system.used ++ drawn uuids } :=
    invariant.storeStep (step.mono wider) wider
  have unchanged := quiet ⟨ticked, .same system.used rfl⟩
  cases action with
  | reconcile cameraUuid state =>
      exact invariant.storeStep (reconcile_step ticked fresh.uuids cameraUuid state) wider
  | openAddress cameraUuid =>
      exact invariant.storeStep (openAddress_step ticked fresh.uuids cameraUuid) wider
  | resolveAddress incidentUuid =>
      exact invariant.storeStep (resolveAddress_step ticked fresh.uuids incidentUuid) wider
  | silence cameraUuid silenced => exact quiet (silence_step ticked cameraUuid silenced)
  | configure settings => exact quiet ⟨{ ticked with }, .same system.used rfl⟩
  | adopt camera => exact quiet ⟨{ ticked with }, .same system.used rfl⟩
  | removeCamera cameraUuid => exact quiet (removeCamera_step ticked cameraUuid)
  | enqueueMessage eventType =>
      exact invariant.storeStep (enqueueMessage_step ticked fresh.uuids eventType) wider
  | poll =>
      simp only [alertStep]
      split
      · rename_i idle
        simp only [Bool.and_eq_true, Option.isNone_iff_eq_none] at idle
        exact unchanged.poll idle.1.2 le_rfl (orderly.poll rfl)
      · exact unchanged
  | send outcome =>
      simp only [alertStep]
      split
      · rename_i item rest idle queue
        refine unchanged.send idle queue outcome ?_
        rintro delivered code retryAfterSeconds rfl incidentUuid isKey
        exact orderly.send _ _ _ rfl item rest queue incidentUuid isKey
      · exact unchanged
  | settle =>
      simp only [alertStep]
      split
      · exact unchanged
      · rename_i item outcome settling
        refine unchanged.settle settling timestamp ?_ ?_
        · cases outcome with
          | accepted messageId => exact .inl rfl
          | rejected delivered code retryAfterSeconds => exact .inl rfl
          | crashed delivered => exact .inr rfl
        · rintro delivered rfl
          rfl

abbrev AlertRun (allowed : AlertSystem → AlertCall → Prop) : AlertSystem → Prop :=
  Reaches (fun system call next => next = alertStep system call) allowed {}

/-- In a run whose steps are orderly the alerts of an incident are delivered in order. -/
theorem orderly_alerts_ordered {system : AlertSystem}
    (run : AlertRun (fun state call => AlertFresh state call ∧ AlertOrderly state call) system) :
    AlertsOrdered system.log := by
  have initial : AlertInvariant {} := {
    store := {
      incidents := List.nodup_nil
      incidentsUsed := by simp
      keys := List.nodup_nil
      uuids := List.nodup_nil
      rowsUsed := by simp
      keysUsed := by simp
      created := by simp
      pending := by simp
      named := by simp
      paired := by simp }
    sentLogged := by simp
    logUsed := by simp
    fetched := by simp [AlertSystem.held]
    distinct := by simp [AlertSystem.held]
    settlingLogged := by simp
    behind := by simp
    settled := by simp
    ordered := .nil }
  refine (run.invariant AlertInvariant initial ?_).ordered
  rintro state call _ invariant ⟨fresh, orderly⟩ rfl
  exact alertStep_invariant invariant fresh orderly

/-! An outage of one camera, with the alerts delivered at once or only after a retry. -/

theorem unusedSupply_letter {used : List String} {letter : Char}
    (unused : ∀ uuid ∈ used, uuid.toList.head? ≠ some letter) :
    UnusedSupply used (uuidSupply letter) :=
  ⟨fun position isUsed => unused _ isUsed (uuidSupply_head letter position),
    uuidSupply_injective letter⟩

def alertsConfigured : AlertSystem :=
  let adopted := alertStep {} ⟨.adopt ⟨"front", "Front door", false⟩, 1, uuidSupply 'a'⟩
  alertStep adopted ⟨.configure ⟨true, some "token", some "chat"⟩, 1, uuidSupply 'b'⟩

/-- The camera goes offline and the alert about it is sent with this outcome. -/
def outageAlerted (outcome : SendOutcome) : AlertSystem :=
  let offline := alertStep alertsConfigured ⟨.reconcile "front" .offline, 2, uuidSupply 'c'⟩
  let fetched := alertStep offline ⟨.poll, 3, uuidSupply 'd'⟩
  let sent := alertStep fetched ⟨.send outcome, 3, uuidSupply 'e'⟩
  alertStep sent ⟨.settle, 3, uuidSupply 'f'⟩

/-- It recovers soon after, and the alert about that is accepted. -/
def outageOver (outcome : SendOutcome) : AlertSystem :=
  let healthy := alertStep (outageAlerted outcome)
    ⟨.reconcile "front" .healthy, 10, uuidSupply 'g'⟩
  let fetched := alertStep healthy ⟨.poll, 11, uuidSupply 'h'⟩
  alertStep fetched ⟨.send (.accepted "message"), 11, uuidSupply 'i'⟩

theorem AlertOrderly.quiet {system : AlertSystem} {call : AlertCall}
    (notPoll : call.action ≠ .poll)
    (notRejected : ∀ delivered code retryAfterSeconds,
      call.action ≠ .send (.rejected delivered code retryAfterSeconds)) :
    AlertOrderly system call :=
  ⟨fun isPoll => absurd isPoll notPoll,
    fun _ _ _ isSend => absurd isSend (notRejected _ _ _)⟩

theorem AlertOrderly.poll_quiet {system : AlertSystem} {timestamp : Nat} {uuids : Nat → String}
    (noFailure : ∀ row ∈ system.store.outbox, row.status ≠ .retry ∧ row.status ≠ .failed) :
    AlertOrderly system ⟨.poll, timestamp, uuids⟩ :=
  ⟨fun _ _ _ _ _ opened isOpened _ => noFailure opened isOpened, by simp⟩

theorem prompt_outage_ordered :
    (outageOver (.accepted "message")).log =
      [openedKey (uuidSupply 'c' 0), resolvedKey (uuidSupply 'c' 0)] ∧
      AlertsOrdered (outageOver (.accepted "message")).log := by
  have step {system : AlertSystem}
      (run : AlertRun (fun state call => AlertFresh state call ∧ AlertOrderly state call) system)
      (action : AlertAction) (timestamp : Nat) (letter : Char)
      (unused : ∀ uuid ∈ system.used, uuid.toList.head? ≠ some letter)
      (clock : system.clock ≤ timestamp)
      (orderly : AlertOrderly system ⟨action, timestamp, uuidSupply letter⟩) :
      AlertRun (fun state call => AlertFresh state call ∧ AlertOrderly state call)
        (alertStep system ⟨action, timestamp, uuidSupply letter⟩) :=
    run.step _ ⟨⟨unusedSupply_letter unused, clock⟩, orderly⟩ rfl
  have adopted := step Reaches.start (.adopt ⟨"front", "Front door", false⟩) 1 'a'
    (by decide +kernel) (by decide +kernel) (.quiet (by simp) (by simp))
  have configured := step adopted (.configure ⟨true, some "token", some "chat"⟩) 1 'b'
    (by decide +kernel) (by decide +kernel) (.quiet (by simp) (by simp))
  have offline := step configured (.reconcile "front" .offline) 2 'c'
    (by decide +kernel) (by decide +kernel) (.quiet (by simp) (by simp))
  have fetched := step offline .poll 3 'd'
    (by decide +kernel) (by decide +kernel) (.poll_quiet (by decide +kernel))
  have sent := step fetched (.send (.accepted "message")) 3 'e'
    (by decide +kernel) (by decide +kernel) (.quiet (by simp) (by simp))
  have alerted := step sent .settle 3 'f'
    (by decide +kernel) (by decide +kernel) (.quiet (by simp) (by simp))
  have healthy := step alerted (.reconcile "front" .healthy) 10 'g'
    (by decide +kernel) (by decide +kernel) (.quiet (by simp) (by simp))
  have refetched := step healthy .poll 11 'h'
    (by decide +kernel) (by decide +kernel) (.poll_quiet (by decide +kernel))
  have finished := step refetched (.send (.accepted "message")) 11 'i'
    (by decide +kernel) (by decide +kernel) (.quiet (by simp) (by simp))
  exact ⟨by decide +kernel, orderly_alerts_ordered finished⟩

/-- While the alert about the outage waits for its retry, the one about its end is sent. -/
theorem retried_alert_overtaken :
    ¬ ∀ system, AlertRun AlertFresh system → AlertsOrdered system.log := by
  intro claimed
  have step {system : AlertSystem} (run : AlertRun AlertFresh system) (action : AlertAction)
      (timestamp : Nat) (letter : Char)
      (unused : ∀ uuid ∈ system.used, uuid.toList.head? ≠ some letter)
      (clock : system.clock ≤ timestamp) :
      AlertRun AlertFresh (alertStep system ⟨action, timestamp, uuidSupply letter⟩) :=
    run.step _ ⟨unusedSupply_letter unused, clock⟩ rfl
  have adopted := step Reaches.start (.adopt ⟨"front", "Front door", false⟩) 1 'a'
    (by decide +kernel) (by decide +kernel)
  have configured := step adopted (.configure ⟨true, some "token", some "chat"⟩) 1 'b'
    (by decide +kernel) (by decide +kernel)
  have offline := step configured (.reconcile "front" .offline) 2 'c'
    (by decide +kernel) (by decide +kernel)
  have fetched := step offline .poll 3 'd' (by decide +kernel) (by decide +kernel)
  have sent := step fetched (.send (.rejected false "telegram_unavailable" (some 60))) 3 'e'
    (by decide +kernel) (by decide +kernel)
  have alerted := step sent .settle 3 'f' (by decide +kernel) (by decide +kernel)
  have healthy := step alerted (.reconcile "front" .healthy) 10 'g'
    (by decide +kernel) (by decide +kernel)
  have refetched := step healthy .poll 11 'h' (by decide +kernel) (by decide +kernel)
  have finished := step refetched (.send (.accepted "message")) 11 'i'
    (by decide +kernel) (by decide +kernel)
  have ordered := claimed _ finished
  have log : (outageOver (.rejected false "telegram_unavailable" (some 60))).log =
      [] ++ resolvedKey (uuidSupply 'c' 0) :: [] := by decide +kernel
  have early := (ordered [] [] (uuidSupply 'c' 0) log).1
  exact List.not_mem_nil early

end CamAdmiral
