import CamAdmiral.NotificationOrder

/-!
Two parties that deliver the same outbox: the notification loop, and requests for a test
message, each of which inserts a row of its own and delivers it. Neither of them marks a row
that it is about to send.
-/

namespace CamAdmiral

/-- A test request after its insertion; `outcome` is what its attempt to send has ended in. -/
structure TestRequest where
  item : OutboxRow
  outcome : Option SendOutcome := none
  deriving DecidableEq, Repr

/-- `accepted` are the rows whose message Telegram has accepted, each time it has. -/
structure DeliverySystem where
  alerts : AlertSystem := {}
  requests : List TestRequest := []
  accepted : List String := []

inductive DeliveryAction
  /-- An operation on the tables or a step of the loop. -/
  | alert (action : AlertAction)
  | requestTest
  | sendTest (outboxUuid : String) (outcome : SendOutcome)
  | settleTest (outboxUuid : String)
  deriving DecidableEq, Repr

structure DeliveryCall where
  action : DeliveryAction
  timestamp : Nat
  uuids : Nat → String

def SendOutcome.isAccepted : SendOutcome → Bool
  | .accepted _ => true
  | _ => false

/-- The row of an attempt that was accepted. -/
def acceptedRows (item : OutboxRow) (outcome : SendOutcome) : List String :=
  if outcome.isAccepted then [item.outboxUuid] else []

/-- The row that the loop sends in this step. -/
def loopAccepted (alerts : AlertSystem) : AlertAction → List String
  | .send outcome =>
      match alerts.settling, alerts.queue with
      | none, item :: _ => acceptedRows item outcome
      | _, _ => []
  | _ => []

def TestRequest.outboxUuid (request : TestRequest) : String := request.item.outboxUuid

def DeliverySystem.request (system : DeliverySystem) (outboxUuid : String) : Option TestRequest :=
  rowAt TestRequest.outboxUuid system.requests outboxUuid

def deliveryStep (system : DeliverySystem) (call : DeliveryCall) : DeliverySystem :=
  let system := { system with alerts := { system.alerts with clock := call.timestamp } }
  match call.action with
  | .alert action =>
      { system with
        alerts := alertStep system.alerts ⟨action, call.timestamp, call.uuids⟩
        accepted := system.accepted ++ loopAccepted system.alerts action }
  | .requestTest =>
      if system.alerts.store.settings.any fun settings =>
          textOf settings.botToken ≠ "" && textOf settings.chatId ≠ "" then
        let alerts := alertStep system.alerts ⟨.enqueueMessage .test, call.timestamp, call.uuids⟩
        -- What the request reads back never changes.
        match rowAt OutboxRow.outboxUuid alerts.store.outbox (call.uuids 0) with
        | none => { system with alerts := alerts }
        | some item =>
            { system with alerts := alerts, requests := system.requests ++ [⟨item, none⟩] }
      else
        system
  | .sendTest outboxUuid outcome =>
      match system.request outboxUuid with
      | some ⟨item, none⟩ =>
          { system with
            requests := updateRow TestRequest.outboxUuid outboxUuid
              (fun request => { request with outcome := some outcome }) system.requests
            accepted := system.accepted ++ acceptedRows item outcome }
      | _ => system
  | .settleTest outboxUuid =>
      match system.request outboxUuid with
      | some ⟨item, some outcome⟩ =>
          { system with
            alerts := { system.alerts with
              store := settleDelivery system.alerts.store item call.timestamp outcome }
            requests := system.requests.filter (·.outboxUuid ≠ outboxUuid) }
      | _ => system

/-! What is being delivered. -/

/-- A row that somebody holds, and what became of its message. -/
abbrev Delivery := OutboxRow × Option SendOutcome

def Delivery.uuid (delivery : Delivery) : String := delivery.1.outboxUuid

def AlertSystem.deliveries (alerts : AlertSystem) : List Delivery :=
  (alerts.settling.map fun (item, outcome) => (item, some outcome)).toList ++
    alerts.queue.map fun item => (item, none)

def DeliverySystem.deliveries (system : DeliverySystem) : List Delivery :=
  system.alerts.deliveries ++ system.requests.map fun request => (request.item, request.outcome)

/-- Nobody else holds a row that is held, and a row that was accepted is either marked or about
to be marked by the one who sent it. -/
structure HeldOnce (outbox : List OutboxRow) (used : List String) (deliveries : List Delivery)
    (accepted : List String) : Prop where
  distinct : (deliveries.map Delivery.uuid).Nodup
  held : ∀ delivery ∈ deliveries, delivery.uuid ∈ used
  waiting : ∀ delivery ∈ deliveries, ∀ row ∈ outbox, row.outboxUuid = delivery.uuid →
    row.waiting = true
  once : accepted.Nodup
  acceptedUsed : ∀ uuid ∈ accepted, uuid ∈ used
  acceptedHeld : ∀ delivery ∈ deliveries, delivery.uuid ∈ accepted →
    ∃ outcome, delivery.2 = some outcome ∧ outcome.isAccepted = true
  acceptedSent : ∀ row ∈ outbox, row.outboxUuid ∈ accepted →
    row.status = .sent ∨ ∃ delivery ∈ deliveries, delivery.uuid = row.outboxUuid

namespace HeldOnce

variable {outbox : List OutboxRow} {used : List String} {deliveries : List Delivery}
  {accepted : List String}

theorem perm (holds : HeldOnce outbox used deliveries accepted) {reordered : List Delivery}
    (same : reordered.Perm deliveries) : HeldOnce outbox used reordered accepted where
  distinct := (same.map Delivery.uuid).nodup_iff.mpr holds.distinct
  held delivery member := holds.held delivery (same.subset member)
  waiting delivery member := holds.waiting delivery (same.subset member)
  once := holds.once
  acceptedUsed := holds.acceptedUsed
  acceptedHeld delivery member := holds.acceptedHeld delivery (same.subset member)
  acceptedSent row member isAccepted := (holds.acceptedSent row member isAccepted).imp_right
    fun ⟨delivery, isHeld, isRow⟩ => ⟨delivery, same.symm.subset isHeld, isRow⟩

/-- The tables have changed, but no status. -/
theorem grows {before after : AlertStore} {more : List String}
    (holds : HeldOnce before.outbox used deliveries accepted)
    (grows : OutboxGrows before after used) (grown : used ⊆ more) :
    HeldOnce after.outbox more deliveries accepted := by
  refine { holds with
    held := fun delivery member => grown (holds.held delivery member)
    waiting := ?_
    acceptedUsed := fun uuid member => grown (holds.acceptedUsed uuid member)
    acceptedSent := ?_ }
  · intro delivery member row isRow isHeld
    rcases grows row isRow with ⟨old, isOld, _, sameUuid, sameStatus⟩ | ⟨isNew, _, _⟩
    · have waits := holds.waiting delivery member old isOld (sameUuid.trans isHeld)
      rw [OutboxRow.waiting, sameStatus] at waits
      exact waits
    · exact absurd (isHeld ▸ holds.held delivery member) isNew
  · intro row isRow isAccepted
    rcases grows row isRow with ⟨old, isOld, _, sameUuid, sameStatus⟩ | ⟨isNew, _, _⟩
    · rw [← sameUuid] at isAccepted ⊢
      rw [← sameStatus]
      exact holds.acceptedSent old isOld isAccepted
    · exact absurd (holds.acceptedUsed _ isAccepted) isNew

/-- Rows that wait and that nobody holds are taken. -/
theorem take (holds : HeldOnce outbox used deliveries accepted)
    (unique : Unique OutboxRow.outboxUuid outbox) (isUsed : ∀ row ∈ outbox, row.outboxUuid ∈ used)
    {taken : List OutboxRow} (distinct : (taken.map (·.outboxUuid)).Nodup)
    (inOutbox : ∀ item ∈ taken, item ∈ outbox) (waits : ∀ item ∈ taken, item.waiting = true)
    (apart : ∀ item ∈ taken, ∀ delivery ∈ deliveries, delivery.uuid ≠ item.outboxUuid) :
    HeldOnce outbox used (taken.map (fun item => (item, none)) ++ deliveries) accepted := by
  have notAccepted (item : OutboxRow) (member : item ∈ taken) : item.outboxUuid ∉ accepted := by
    intro isAccepted
    rcases holds.acceptedSent item (inOutbox item member) isAccepted with
      isSent | ⟨delivery, isHeld, isItem⟩
    · have isWaiting := waits item member
      simp [OutboxRow.waiting, isSent] at isWaiting
    · exact apart item member delivery isHeld isItem
  have split {Property : Delivery → Prop}
      (isTaken : ∀ item ∈ taken, Property (item, none))
      (isHeld : ∀ delivery ∈ deliveries, Property delivery) :
      ∀ delivery ∈ taken.map (fun item => (item, none)) ++ deliveries, Property delivery := by
    intro delivery member
    rcases List.mem_append.mp member with isNew | isOld
    · obtain ⟨item, isItem, rfl⟩ := List.mem_map.mp isNew
      exact isTaken item isItem
    · exact isHeld delivery isOld
  refine {
    distinct := ?_
    held := split (fun item member => isUsed item (inOutbox item member)) holds.held
    waiting := split ?_ holds.waiting
    once := holds.once
    acceptedUsed := holds.acceptedUsed
    acceptedHeld := split (fun item member isAccepted =>
      absurd isAccepted (notAccepted item member)) holds.acceptedHeld
    acceptedSent := fun row member isAccepted =>
      (holds.acceptedSent row member isAccepted).imp_right <|
        Exists.imp fun _ => And.imp_left (List.mem_append_right _) }
  · rw [List.map_append, List.map_map, List.nodup_append]
    refine ⟨distinct, holds.distinct, ?_⟩
    rintro _ isTaken _ isHeld rfl
    obtain ⟨item, isItem, rfl⟩ := List.mem_map.mp isTaken
    obtain ⟨delivery, isDelivery, same⟩ := List.mem_map.mp isHeld
    exact apart item isItem delivery isDelivery same
  · intro item member row isRow same
    rw [List.inj_on_of_nodup_map unique isRow (inOutbox item member) same]
    exact waits item member

theorem send {item : OutboxRow} {rest : List Delivery}
    (holds : HeldOnce outbox used ((item, none) :: rest) accepted) (outcome : SendOutcome) :
    HeldOnce outbox used ((item, some outcome) :: rest)
      (accepted ++ acceptedRows item outcome) := by
  have notAccepted : item.outboxUuid ∉ accepted := by
    intro isAccepted
    obtain ⟨_, never, _⟩ := holds.acceptedHeld _ List.mem_cons_self isAccepted
    cases never
  have distinct := holds.distinct
  rw [List.map_cons, List.nodup_cons] at distinct
  have isItem {uuid : String} (member : uuid ∈ acceptedRows item outcome) :
      uuid = item.outboxUuid ∧ outcome.isAccepted = true := by
    unfold acceptedRows at member
    split at member
    case isTrue isAccepted => exact ⟨List.mem_singleton.mp member, isAccepted⟩
    case isFalse => cases member
  refine {
    distinct := holds.distinct
    held := List.forall_mem_cons.mpr (List.forall_mem_cons.mp holds.held)
    waiting := List.forall_mem_cons.mpr (List.forall_mem_cons.mp holds.waiting)
    once := ?_
    acceptedUsed := ?_
    acceptedHeld := ?_
    acceptedSent := ?_ }
  · refine List.nodup_append.mpr ⟨holds.once, ?_, ?_⟩
    · unfold acceptedRows
      split <;> simp
    · rintro _ isAccepted _ isNew rfl
      exact notAccepted ((isItem isNew).1 ▸ isAccepted)
  · intro uuid member
    rcases List.mem_append.mp member with isOld | isNew
    · exact holds.acceptedUsed uuid isOld
    · rw [(isItem isNew).1]
      exact holds.held _ List.mem_cons_self
  · refine List.forall_mem_cons.mpr ⟨fun member => ?_, fun delivery isHeld member => ?_⟩
    · rcases List.mem_append.mp member with isOld | isNew
      · exact absurd isOld notAccepted
      · exact ⟨outcome, rfl, (isItem isNew).2⟩
    · rcases List.mem_append.mp member with isOld | isNew
      · exact holds.acceptedHeld delivery (List.mem_cons_of_mem _ isHeld) isOld
      · have isUuid : delivery.uuid = item.outboxUuid := (isItem isNew).1
        exact absurd (List.mem_map.mpr ⟨delivery, isHeld, isUuid⟩) distinct.1
  · intro row isRow member
    rcases List.mem_append.mp member with isOld | isNew
    · refine (holds.acceptedSent row isRow isOld).imp_right ?_
      rintro ⟨delivery, isHeld, same⟩
      rcases List.mem_cons.mp isHeld with rfl | isRest
      · exact ⟨_, List.mem_cons_self, same⟩
      · exact ⟨delivery, List.mem_cons_of_mem _ isRest, same⟩
    · exact .inr ⟨_, List.mem_cons_self, (isItem isNew).1.symm⟩

/-- Rows that were not accepted are let go. -/
theorem drop {dropped rest : List Delivery}
    (holds : HeldOnce outbox used (dropped ++ rest) accepted)
    (notAccepted : ∀ delivery ∈ dropped, ∀ outcome, delivery.2 = some outcome →
      outcome.isAccepted = false) : HeldOnce outbox used rest accepted := by
  have later {delivery : Delivery} (member : delivery ∈ rest) : delivery ∈ dropped ++ rest :=
    List.mem_append_right _ member
  refine {
    distinct := holds.distinct.sublist ((List.sublist_append_right _ _).map _)
    held := fun delivery member => holds.held delivery (later member)
    waiting := fun delivery member => holds.waiting delivery (later member)
    once := holds.once
    acceptedUsed := holds.acceptedUsed
    acceptedHeld := fun delivery member => holds.acceptedHeld delivery (later member)
    acceptedSent := ?_ }
  intro row isRow isAccepted
  refine (holds.acceptedSent row isRow isAccepted).imp_right ?_
  rintro ⟨delivery, isHeld, same⟩
  rcases List.mem_append.mp isHeld with isDropped | isRest
  · obtain ⟨outcome, isOutcome, accepts⟩ :=
      holds.acceptedHeld delivery isHeld (same ▸ isAccepted)
    exact absurd ((notAccepted delivery isDropped outcome isOutcome).symm.trans accepts) nofun
  · exact ⟨delivery, isRest, same⟩

theorem settle {store : AlertStore} {item : OutboxRow} {outcome : SendOutcome}
    {rest : List Delivery}
    (holds : HeldOnce store.outbox used ((item, some outcome) :: rest) accepted) (now : Nat) :
    HeldOnce (settleDelivery store item now outcome).outbox used rest accepted := by
  have distinct := holds.distinct
  rw [List.map_cons, List.nodup_cons] at distinct
  have later {delivery : Delivery} (member : delivery ∈ rest) :
      delivery ∈ (item, some outcome) :: rest := List.mem_cons_of_mem _ member
  refine {
    distinct := distinct.2
    held := fun delivery member => holds.held delivery (later member)
    waiting := ?_
    once := holds.once
    acceptedUsed := holds.acceptedUsed
    acceptedHeld := fun delivery member => holds.acceptedHeld delivery (later member)
    acceptedSent := ?_ }
  · intro delivery member row isRow same
    obtain ⟨old, isOld, settled⟩ := settleDelivery_rows isRow
    have isOther : old.outboxUuid ≠ item.outboxUuid := by
      intro isItem
      refine distinct.1 (List.mem_map.mpr ⟨delivery, member, ?_⟩)
      exact same.symm.trans (settled.sameUuid.symm.trans isItem)
    rw [settled.others isOther] at same ⊢
    exact holds.waiting delivery (later member) old isOld same
  · intro row isRow isAccepted
    obtain ⟨old, isOld, settled⟩ := settleDelivery_rows isRow
    rw [← settled.sameUuid] at isAccepted ⊢
    by_cases isItem : old.outboxUuid = item.outboxUuid
    · rw [isItem] at isAccepted
      obtain ⟨_, ⟨⟩, accepts⟩ := holds.acceptedHeld _ List.mem_cons_self isAccepted
      cases outcome with
      | accepted messageId => exact .inl (settled.accepted isItem messageId rfl)
      | rejected delivered code retryAfterSeconds => cases accepts
      | crashed delivered => cases accepts
    · rw [settled.others isItem]
      refine (holds.acceptedSent old isOld isAccepted).imp_right ?_
      rintro ⟨delivery, isHeld, same⟩
      rcases List.mem_cons.mp isHeld with rfl | isRest
      · exact absurd same.symm isItem
      · exact ⟨delivery, isRest, same⟩

end HeldOnce

/-! Steps. -/

structure DeliveryInvariant (system : DeliverySystem) : Prop where
  store : StoreInvariant system.alerts.store system.alerts.clock system.alerts.used
  heldOnce : HeldOnce system.alerts.store.outbox system.alerts.used system.deliveries
    system.accepted

/-- What a step may do to the deliveries: nothing, take rows, send one, or settle one. -/
inductive Delivers (before after : DeliverySystem) (now : Nat) : Prop
  | tables (step : StoreStep before.alerts.store after.alerts.store now before.alerts.used
        after.alerts.used)
      (deliveries : after.deliveries = before.deliveries)
      (accepted : after.accepted = before.accepted)
  | taken (items : List OutboxRow)
      (step : StoreStep before.alerts.store after.alerts.store now before.alerts.used
        after.alerts.used)
      (deliveries : after.deliveries.Perm
        (items.map (fun item => (item, none)) ++ before.deliveries))
      (distinct : (items.map (·.outboxUuid)).Nodup)
      (inOutbox : ∀ item ∈ items, item ∈ after.alerts.store.outbox)
      (waits : ∀ item ∈ items, item.waiting = true)
      (apart : ∀ item ∈ items, ∀ delivery ∈ before.deliveries, delivery.uuid ≠ item.outboxUuid)
      (accepted : after.accepted = before.accepted)
  | sent (item : OutboxRow) (outcome : SendOutcome) (rest : List Delivery)
      (store : after.alerts.store = before.alerts.store)
      (held : before.deliveries.Perm ((item, none) :: rest))
      (deliveries : after.deliveries.Perm ((item, some outcome) :: rest))
      (accepted : after.accepted = before.accepted ++ acceptedRows item outcome)
  | settled (item : OutboxRow) (outcome : SendOutcome) (dropped : List Delivery)
      (store : after.alerts.store = settleDelivery before.alerts.store item now outcome)
      (held : before.deliveries.Perm ((item, some outcome) :: (dropped ++ after.deliveries)))
      (unsent : ∀ delivery ∈ dropped, delivery.2 = none)
      (accepted : after.accepted = before.accepted)

theorem DeliveryInvariant.delivers {before after : DeliverySystem} {now : Nat}
    (invariant : DeliveryInvariant before) (delivers : Delivers before after now)
    (clock : before.alerts.clock ≤ now) (isClock : after.alerts.clock = now)
    (grown : before.alerts.used ⊆ after.alerts.used) : DeliveryInvariant after := by
  have ticked := invariant.store.mono clock grown
  have wider := invariant.heldOnce.grows (.same _ rfl) grown
  cases delivers with
  | tables step deliveries accepted =>
      refine ⟨isClock ▸ step.invariant, ?_⟩
      rw [deliveries, accepted]
      exact invariant.heldOnce.grows step.grows grown
  | taken items step deliveries distinct inOutbox waits apart accepted =>
      refine ⟨isClock ▸ step.invariant, ?_⟩
      rw [accepted]
      have held := invariant.heldOnce.grows step.grows grown
      exact (held.take step.invariant.uuids step.invariant.rowsUsed distinct inOutbox waits
        apart).perm deliveries
  | sent item outcome rest store held deliveries accepted =>
      refine ⟨?_, ?_⟩
      · rw [store, isClock]
        exact ticked
      · rw [store, accepted]
        exact ((wider.perm held.symm).send outcome).perm deliveries
  | settled item outcome dropped store held unsent accepted =>
      have reordered := wider.perm held.symm
      have waits (row : OutboxRow) (isRow : row ∈ before.alerts.store.outbox)
          (isItem : row.outboxUuid = item.outboxUuid) : row.waiting = true :=
        reordered.waiting _ List.mem_cons_self row isRow isItem
      refine ⟨?_, ?_⟩
      · rw [store, isClock]
        cases outcome with
        | accepted messageId => exact completeNotificationDelivery_invariant ticked _ _
        | rejected delivered code retryAfterSeconds =>
            exact failNotificationDelivery_invariant ticked waits _ _ _
        | crashed delivered => exact ticked
      · rw [store, accepted]
        refine (reordered.settle now).drop fun delivery member outcome isOutcome => ?_
        exact absurd ((unsent delivery member).symm.trans isOutcome) nofun

/-- A row that is marked as sent is held by nobody, so no step changes it. -/
theorem DeliveryInvariant.sent_stays {before after : DeliverySystem} {now : Nat}
    (invariant : DeliveryInvariant before) (delivers : Delivers before after now)
    {outboxUuid : String} (isUsed : outboxUuid ∈ before.alerts.used)
    (isSent : ∀ row ∈ before.alerts.store.outbox, row.outboxUuid = outboxUuid →
      row.status = .sent) :
    ∀ row ∈ after.alerts.store.outbox, row.outboxUuid = outboxUuid → row.status = .sent := by
  have grown (grows : OutboxGrows before.alerts.store after.alerts.store before.alerts.used)
      (row : OutboxRow) (isRow : row ∈ after.alerts.store.outbox)
      (isUuid : row.outboxUuid = outboxUuid) : row.status = .sent := by
    rcases grows row isRow with ⟨old, isOld, _, sameUuid, sameStatus⟩ | ⟨isNew, _, _⟩
    · rw [← sameStatus]
      exact isSent old isOld (sameUuid.trans isUuid)
    · exact absurd (isUuid ▸ isUsed) isNew
  intro row isRow isUuid
  cases delivers with
  | tables step => exact grown step.grows row isRow isUuid
  | taken items step => exact grown step.grows row isRow isUuid
  | sent item outcome rest store =>
      rw [store] at isRow
      exact isSent row isRow isUuid
  | settled item outcome dropped store held =>
      rw [store] at isRow
      obtain ⟨old, isOld, settled⟩ := settleDelivery_rows isRow
      have sent := isSent old isOld (settled.sameUuid.trans isUuid)
      by_cases isItem : old.outboxUuid = item.outboxUuid
      · have waits := (invariant.heldOnce.perm held.symm).waiting _ List.mem_cons_self old isOld
          isItem
        simp [OutboxRow.waiting, sent] at waits
      · rw [settled.others isItem]
        exact sent

/-- The loop fetches no row that a test request is still delivering. -/
def LoopApart (system : DeliverySystem) (call : DeliveryCall) : Prop :=
  call.action = .alert .poll →
    ∀ row ∈ system.alerts.store.dueNotifications call.timestamp,
      ∀ request ∈ system.requests, request.outboxUuid ≠ row.outboxUuid

/-- The uuids a call draws are new, and the clock does not go back. -/
def DeliveryFresh (system : DeliverySystem) (call : DeliveryCall) : Prop :=
  UnusedSupply system.alerts.used call.uuids ∧ system.alerts.clock ≤ call.timestamp

theorem Unique.perm_row {α κ : Type*} [DecidableEq κ] {key : α → κ} {rows : List α} {row : α}
    (unique : Unique key rows) (member : row ∈ rows) :
    rows.Perm (row :: rows.filter fun other => key other ≠ key row) := by
  induction rows with
  | nil => cases member
  | cons head rest ih =>
      have apart := List.nodup_cons.mp unique
      rcases List.mem_cons.mp member with rfl | isRest
      · have others : rest.filter (fun other => key other ≠ key row) = rest := by
          refine List.filter_eq_self.mpr fun other isOther => decide_eq_true fun same => ?_
          exact apart.1 (same ▸ List.mem_map_of_mem isOther)
        rw [List.filter_cons_of_neg (by simp), others]
      · have isOther : key head ≠ key row := fun same =>
          apart.1 (same ▸ List.mem_map_of_mem isRest)
        rw [List.filter_cons_of_pos (by simpa using isOther)]
        exact ((ih apart.2 isRest).cons head).trans (.swap ..)

theorem Unique.perm_updateRow {α κ : Type*} [DecidableEq κ] {key : α → κ} {rows : List α}
    {row : α} (unique : Unique key rows) (member : row ∈ rows) (change : α → α) :
    (CamAdmiral.updateRow key (key row) change rows).Perm
      (change row :: rows.filter fun other => key other ≠ key row) := by
  have changed := (unique.perm_row member).map fun other =>
    if key other = key row then change other else other
  rw [List.map_cons, if_pos rfl] at changed
  refine changed.trans (.of_eq (congrArg _ ?_))
  refine (List.map_congr_left fun other isOther => ?_).trans (List.map_id _)
  exact if_neg (of_decide_eq_true (List.mem_filter.mp isOther).2)

/-! The loop, and the operations on the tables. -/

theorem StoreInvariant.due_apart {store : AlertStore} {clock : Nat} {used : List String}
    (invariant : StoreInvariant store clock used) (now : Nat) :
    ((store.dueNotifications now).map (·.outboxUuid)).Nodup := by
  have due := invariant.uuids.filter fun row => row.waiting && row.nextAttemptAt ≤ (now : Int)
  have sorted := ((List.perm_insertionSort (fun first second : OutboxRow =>
    first.createdAt ≤ second.createdAt) _).map OutboxRow.outboxUuid).nodup_iff.mpr due
  exact sorted.sublist ((List.take_sublist _ _).map _)

theorem alertStep_delivers {system : DeliverySystem} (invariant : DeliveryInvariant system)
    {action : AlertAction} {timestamp : Nat} {uuids : Nat → String}
    (fresh : DeliveryFresh system ⟨.alert action, timestamp, uuids⟩)
    (apart : LoopApart system ⟨.alert action, timestamp, uuids⟩) :
    Delivers system (deliveryStep system ⟨.alert action, timestamp, uuids⟩) timestamp := by
  have wider : system.alerts.used ⊆ system.alerts.used ++ drawn uuids :=
    List.subset_append_left _ _
  have ticked := invariant.store.mono fresh.2 (List.Subset.refl system.alerts.used)
  have quiet {store : AlertStore}
      (step : StoreStep system.alerts.store store timestamp system.alerts.used
        system.alerts.used) :
      StoreStep system.alerts.store store timestamp system.alerts.used
        (system.alerts.used ++ drawn uuids) := step.mono wider
  have unchanged := quiet ⟨ticked, .same _ rfl⟩
  have noneAccepted : system.accepted ++ [] = system.accepted := List.append_nil _
  cases action with
  | reconcile cameraUuid state =>
      exact .tables (reconcile_step ticked fresh.1 cameraUuid state) rfl noneAccepted
  | openAddress cameraUuid =>
      exact .tables (openAddress_step ticked fresh.1 cameraUuid) rfl noneAccepted
  | resolveAddress incidentUuid =>
      exact .tables (resolveAddress_step ticked fresh.1 incidentUuid) rfl noneAccepted
  | silence cameraUuid silenced =>
      exact .tables (quiet (silence_step ticked cameraUuid silenced)) rfl noneAccepted
  | configure settings =>
      exact .tables (quiet ⟨{ ticked with }, .same _ rfl⟩) rfl noneAccepted
  | adopt camera => exact .tables (quiet ⟨{ ticked with }, .same _ rfl⟩) rfl noneAccepted
  | removeCamera cameraUuid =>
      exact .tables (quiet (removeCamera_step ticked cameraUuid)) rfl noneAccepted
  | enqueueMessage eventType =>
      exact .tables (enqueueMessage_step ticked fresh.1 eventType) rfl noneAccepted
  | poll =>
      simp only [deliveryStep, alertStep, loopAccepted]
      split
      · rename_i idle
        simp only [Bool.and_eq_true, List.isEmpty_iff, Option.isNone_iff_eq_none] at idle
        obtain ⟨⟨queue, settling⟩, _⟩ := idle
        have requests : system.deliveries =
            system.requests.map fun request => (request.item, request.outcome) := by
          simp [DeliverySystem.deliveries, AlertSystem.deliveries, queue, settling]
        refine .taken (system.alerts.store.dueNotifications timestamp) unchanged ?_
          (invariant.store.due_apart timestamp) (fun item member => (AlertStore.mem_due member).1)
          (fun item member => (AlertStore.mem_due member).2.1) ?_ noneAccepted
        · rw [requests]
          simp [DeliverySystem.deliveries, AlertSystem.deliveries, settling]
        · intro item member delivery held
          rw [requests] at held
          obtain ⟨request, isRequest, rfl⟩ := List.mem_map.mp held
          exact apart rfl item member request isRequest
      · exact .tables unchanged rfl noneAccepted
  | send outcome =>
      simp only [deliveryStep, alertStep, loopAccepted]
      cases settling : system.alerts.settling with
      | some delivery =>
          refine .tables unchanged ?_ noneAccepted
          simp [DeliverySystem.deliveries, AlertSystem.deliveries, settling]
      | none =>
          cases queue : system.alerts.queue with
          | nil =>
              refine .tables unchanged ?_ noneAccepted
              simp [DeliverySystem.deliveries, AlertSystem.deliveries, settling, queue]
          | cons item rest =>
              refine .sent item outcome ((rest.map fun item => (item, none)) ++
                system.requests.map fun request => (request.item, request.outcome)) rfl ?_ ?_ rfl
              · simp [DeliverySystem.deliveries, AlertSystem.deliveries, settling, queue]
              · simp [DeliverySystem.deliveries, AlertSystem.deliveries]
  | settle =>
      simp only [deliveryStep, alertStep, loopAccepted]
      split
      · exact .tables unchanged rfl noneAccepted
      · rename_i item outcome settling
        cases outcome with
        | crashed delivered =>
            refine .settled item (.crashed delivered)
              (system.alerts.queue.map fun item => (item, none)) rfl ?_ ?_ noneAccepted
            · simp [DeliverySystem.deliveries, AlertSystem.deliveries, settling]
            · intro delivery member
              obtain ⟨queued, _, rfl⟩ := List.mem_map.mp member
              rfl
        | accepted messageId =>
            refine .settled item (.accepted messageId) [] rfl ?_ (by simp) noneAccepted
            simp [DeliverySystem.deliveries, AlertSystem.deliveries, settling]
        | rejected delivered code retryAfterSeconds =>
            refine .settled item (.rejected delivered code retryAfterSeconds) [] rfl ?_ (by simp)
              noneAccepted
            simp [DeliverySystem.deliveries, AlertSystem.deliveries, settling]

/-! Test requests. -/

theorem DeliverySystem.request_deliveries {system : DeliverySystem}
    (invariant : DeliveryInvariant system) {outboxUuid : String} {request : TestRequest}
    (found : system.request outboxUuid = some request) (change : TestRequest → TestRequest) :
    let others := system.requests.filter fun other => other.outboxUuid ≠ outboxUuid
    let pair (request : TestRequest) : Delivery := (request.item, request.outcome)
    system.deliveries.Perm
      (pair request :: (system.alerts.deliveries ++ others.map pair)) ∧
    (system.alerts.deliveries ++ (updateRow TestRequest.outboxUuid outboxUuid change
      system.requests).map pair).Perm
      (pair (change request) :: (system.alerts.deliveries ++ others.map pair)) := by
  intro others pair
  obtain ⟨member, rfl⟩ := rowAt_some found
  have unique : Unique TestRequest.outboxUuid system.requests := by
    have distinct := invariant.heldOnce.distinct
    rw [DeliverySystem.deliveries, List.map_append, List.map_map] at distinct
    exact (List.nodup_append.mp distinct).2.1
  have moved {requests : List TestRequest} {first : TestRequest}
      (same : requests.Perm (first :: others)) :
      (system.alerts.deliveries ++ requests.map pair).Perm
        (pair first :: (system.alerts.deliveries ++ others.map pair)) :=
    ((same.map pair).append_left _).trans List.perm_middle
  exact ⟨moved (unique.perm_row member), moved (unique.perm_updateRow member change)⟩

theorem deliveryStep_delivers {system : DeliverySystem} (invariant : DeliveryInvariant system)
    {call : DeliveryCall} (fresh : DeliveryFresh system call) (apart : LoopApart system call) :
    Delivers system (deliveryStep system call) call.timestamp := by
  obtain ⟨action, timestamp, uuids⟩ := call
  have ticked := invariant.store.mono fresh.2 (List.Subset.refl system.alerts.used)
  have unchanged : Delivers system
      { system with alerts := { system.alerts with clock := timestamp } } timestamp :=
    .tables ⟨ticked, .same _ rfl⟩ rfl rfl
  cases action with
  | alert action => exact alertStep_delivers invariant fresh apart
  | requestTest =>
      have step := enqueueMessage_step ticked fresh.1 .test
      simp only [deliveryStep]
      split
      · split
        · exact .tables step rfl rfl
        · rename_i item found
          obtain ⟨isRow, isUuid⟩ := rowAt_some found
          have isNew : item.outboxUuid ∉ system.alerts.used := isUuid ▸ fresh.1.unused 0
          have waits : item.waiting = true := by
            rcases step.grows item isRow with ⟨old, isOld, _, sameUuid, _⟩ | ⟨_, pending, _⟩
            · exact absurd (sameUuid ▸ invariant.store.rowsUsed old isOld) isNew
            · simp [OutboxRow.waiting, pending]
          refine .taken [item] step ?_ (List.nodup_singleton _)
            (List.forall_mem_singleton.mpr isRow) (List.forall_mem_singleton.mpr waits)
            (List.forall_mem_singleton.mpr fun delivery held same => ?_) rfl
          · simp only [DeliverySystem.deliveries, List.map_append, List.map_cons, List.map_nil,
              List.singleton_append, ← List.append_assoc]
            exact List.perm_append_singleton _ _
          · exact isNew (same ▸ invariant.heldOnce.held delivery held)
      · exact unchanged
  | sendTest outboxUuid outcome =>
      simp only [deliveryStep]
      split
      · rename_i item found
        have pairs := system.request_deliveries invariant found
          fun request => { request with outcome := some outcome }
        exact .sent item outcome _ rfl pairs.1 pairs.2 rfl
      · exact unchanged
  | settleTest outboxUuid =>
      simp only [deliveryStep]
      split
      · rename_i item outcome found
        have pairs := system.request_deliveries invariant found id
        exact .settled item outcome [] rfl pairs.1 (by simp) rfl
      · exact unchanged

/-! Runs. -/

theorem deliveryStep_grown (system : DeliverySystem) (call : DeliveryCall) :
    (deliveryStep system call).alerts.clock = call.timestamp ∧
      system.alerts.used ⊆ (deliveryStep system call).alerts.used := by
  obtain ⟨action, timestamp, uuids⟩ := call
  have stays : system.alerts.used ⊆ system.alerts.used := List.Subset.refl _
  have grows : system.alerts.used ⊆ system.alerts.used ++ drawn uuids :=
    List.subset_append_left _ _
  cases action with
  | alert action =>
      cases action with
      | poll | send | settle =>
          simp only [deliveryStep, alertStep]
          split <;> exact ⟨rfl, grows⟩
      | _ => exact ⟨rfl, grows⟩
  | requestTest =>
      simp only [deliveryStep]
      split
      · split <;> exact ⟨rfl, grows⟩
      · exact ⟨rfl, stays⟩
  | sendTest | settleTest =>
      simp only [deliveryStep]
      split <;> exact ⟨rfl, stays⟩

theorem deliveryStep_invariant {system : DeliverySystem} (invariant : DeliveryInvariant system)
    {call : DeliveryCall} (fresh : DeliveryFresh system call) (apart : LoopApart system call) :
    DeliveryInvariant (deliveryStep system call) := by
  obtain ⟨isClock, grown⟩ := deliveryStep_grown system call
  exact invariant.delivers (deliveryStep_delivers invariant fresh apart) fresh.2 isClock grown

/-- The systems that a run leads to. -/
abbrev DeliveryRun (allowed : DeliverySystem → DeliveryCall → Prop) :
    DeliverySystem → DeliverySystem → Prop :=
  Reaches (fun system call next => next = deliveryStep system call) allowed

theorem HeldOnce.nothing (outbox : List OutboxRow) : HeldOnce outbox [] [] [] where
  distinct := List.nodup_nil
  held := by simp
  waiting := by simp
  once := List.nodup_nil
  acceptedUsed := by simp
  acceptedHeld := by simp
  acceptedSent := by simp

theorem deliveryRun_invariant {system : DeliverySystem}
    (run : DeliveryRun (fun state call => DeliveryFresh state call ∧ LoopApart state call) {}
      system) : DeliveryInvariant system := by
  have initial : DeliveryInvariant {} := {
    store := {
      incidents := List.nodup_nil
      incidentsUsed := by simp
      keys := List.nodup_nil
      uuids := List.nodup_nil
      rowsUsed := by simp
      keysUsed := by simp
      created := by simp
      pending := by simp
      named := by simp
      paired := by simp }
    heldOnce := .nothing [] }
  refine run.invariant DeliveryInvariant initial ?_
  rintro state call _ invariant ⟨fresh, apart⟩ rfl
  exact deliveryStep_invariant invariant fresh apart

/-- As long as the loop leaves the rows of unfinished test requests alone, the message of a row
is accepted at most once, and a row that is marked as sent stays so. -/
theorem one_send_per_row {system later : DeliverySystem}
    (run : DeliveryRun (fun state call => DeliveryFresh state call ∧ LoopApart state call) {}
      system)
    (continued : DeliveryRun (fun state call => DeliveryFresh state call ∧ LoopApart state call)
      system later) :
    system.accepted.Nodup ∧
      ∀ row ∈ system.alerts.store.outbox, row.status = .sent →
        ∀ other ∈ later.alerts.store.outbox, other.outboxUuid = row.outboxUuid →
          other.status = .sent := by
  have invariant := deliveryRun_invariant run
  refine ⟨invariant.heldOnce.once, fun row isRow isSent => ?_⟩
  let Kept (state : DeliverySystem) : Prop :=
    DeliveryInvariant state ∧ row.outboxUuid ∈ state.alerts.used ∧
      ∀ other ∈ state.alerts.store.outbox, other.outboxUuid = row.outboxUuid →
        other.status = .sent
  have initial : Kept system := by
    refine ⟨invariant, invariant.store.rowsUsed row isRow, fun other isOther same => ?_⟩
    rw [invariant.store.uuids.eq isOther isRow same]
    exact isSent
  refine (continued.invariant Kept initial ?_).2.2
  rintro state call _ ⟨holds, isUsed, stays⟩ ⟨fresh, apart⟩ rfl
  exact ⟨deliveryStep_invariant holds fresh apart, (deliveryStep_grown state call).2 isUsed,
    holds.sent_stays (deliveryStep_delivers holds fresh apart) isUsed stays⟩

/-! One test message, and what the loop may do to it. -/

def telegramConnected : DeliverySystem :=
  deliveryStep {} ⟨.alert (.configure ⟨true, some "token", some "chat"⟩), 1, uuidSupply 'a'⟩

def testRequested : DeliverySystem :=
  deliveryStep telegramConnected ⟨.requestTest, 2, uuidSupply 'b'⟩

def testSent (outcome : SendOutcome) (system : DeliverySystem) : DeliverySystem :=
  deliveryStep system ⟨.sendTest (uuidSupply 'b' 0) outcome, 3, uuidSupply 'z'⟩

def testSettled (system : DeliverySystem) : DeliverySystem :=
  deliveryStep system ⟨.settleTest (uuidSupply 'b' 0), 3, uuidSupply 'z'⟩

/-- A cycle of the loop while the request is between its insertion and its attempt. -/
def testTakenByLoop : DeliverySystem :=
  let fetched := deliveryStep testRequested ⟨.alert .poll, 2, uuidSupply 'c'⟩
  let sent := deliveryStep fetched ⟨.alert (.send (.accepted "first")), 2, uuidSupply 'd'⟩
  deliveryStep sent ⟨.alert .settle, 2, uuidSupply 'e'⟩

theorem deliveryFresh_letter {system : DeliverySystem} {action : DeliveryAction}
    {timestamp : Nat} {letter : Char}
    (unused : ∀ uuid ∈ system.alerts.used, uuid.toList.head? ≠ some letter)
    (clock : system.alerts.clock ≤ timestamp) :
    DeliveryFresh system ⟨action, timestamp, uuidSupply letter⟩ :=
  ⟨unusedSupply_letter unused, clock⟩

theorem test_message_sent_once :
    (testSettled (testSent (.accepted "only") testRequested)).accepted = [uuidSupply 'b' 0] ∧
    (testSettled (testSent (.accepted "only") testRequested)).accepted.Nodup := by
  have quiet {system : DeliverySystem} {action : DeliveryAction} {timestamp : Nat}
      {uuids : Nat → String} (notPoll : action ≠ .alert .poll) :
      LoopApart system ⟨action, timestamp, uuids⟩ := fun isPoll => absurd isPoll notPoll
  have connected : DeliveryRun (fun state call => DeliveryFresh state call ∧
      LoopApart state call) {} telegramConnected :=
    Reaches.start.step _ ⟨deliveryFresh_letter (by decide +kernel) (by decide +kernel),
      quiet (by decide)⟩ rfl
  have requested := connected.step ⟨.requestTest, 2, uuidSupply 'b'⟩
    ⟨deliveryFresh_letter (by decide +kernel) (by decide +kernel), quiet (by decide)⟩ rfl
  have sent := requested.step ⟨.sendTest (uuidSupply 'b' 0) (.accepted "only"), 3, uuidSupply 'z'⟩
    ⟨deliveryFresh_letter (by decide +kernel) (by decide +kernel), quiet (by decide)⟩ rfl
  have settled := sent.step ⟨.settleTest (uuidSupply 'b' 0), 3, uuidSupply 'z'⟩
    ⟨deliveryFresh_letter (by decide +kernel) (by decide +kernel), quiet (by decide)⟩ rfl
  exact ⟨by decide +kernel, (one_send_per_row settled .start).1⟩

/-- The loop and the request both send the message; the mark of the one that ends first is
overwritten by the other. -/
theorem test_message_sent_twice :
    ∃ system, DeliveryRun DeliveryFresh {} system ∧
      (∃ row ∈ system.alerts.store.outbox, row.status = .sent) ∧
      (∃ later, DeliveryRun DeliveryFresh system later ∧ ¬ later.accepted.Nodup) ∧
      ∃ later, DeliveryRun DeliveryFresh system later ∧
        ∀ row ∈ later.alerts.store.outbox, row.status = .failed := by
  have connected : DeliveryRun DeliveryFresh {} telegramConnected :=
    Reaches.start.step _ (deliveryFresh_letter (by decide +kernel) (by decide +kernel)) rfl
  have requested := connected.step ⟨.requestTest, 2, uuidSupply 'b'⟩
    (deliveryFresh_letter (by decide +kernel) (by decide +kernel)) rfl
  have fetched := requested.step ⟨.alert .poll, 2, uuidSupply 'c'⟩
    (deliveryFresh_letter (by decide +kernel) (by decide +kernel)) rfl
  have sent := fetched.step ⟨.alert (.send (.accepted "first")), 2, uuidSupply 'd'⟩
    (deliveryFresh_letter (by decide +kernel) (by decide +kernel)) rfl
  have taken : DeliveryRun DeliveryFresh {} testTakenByLoop := sent.step
    ⟨.alert .settle, 2, uuidSupply 'e'⟩
    (deliveryFresh_letter (by decide +kernel) (by decide +kernel)) rfl
  have again (outcome : SendOutcome) : DeliveryRun DeliveryFresh testTakenByLoop
      (testSent outcome testTakenByLoop) :=
    Reaches.start.step _ (deliveryFresh_letter (by decide +kernel) (by decide +kernel)) rfl
  have failed := (again (.rejected false "telegram_rejected" none)).step
    ⟨.settleTest (uuidSupply 'b' 0), 3, uuidSupply 'z'⟩
    (deliveryFresh_letter (by decide +kernel) (by decide +kernel)) rfl
  exact ⟨testTakenByLoop, taken, by decide +kernel,
    ⟨_, again (.accepted "second"), by decide +kernel⟩, _, failed, by decide +kernel⟩

end CamAdmiral
