import CamAdmiral.Knowledge
import CamAdmiral.Mapping
import CamAdmiral.RecoveryCore

/-!
The identity history of the cameras: one row for each period in which nothing contradicted
what was known of a camera's address, MAC and ONVIF identity. Adoption, recovery, the
inventory and the binding of a verified device all observe through the same routine.
-/

namespace CamAdmiral

inductive IdentityField
  | ip
  | mac
  | onvif
  deriving DecidableEq, Repr

@[ext] structure Identity where
  ip : Option String := none
  mac : Option String := none
  onvif : Option String := none
  deriving DecidableEq, Repr

def Identity.known (identity : Identity) : IdentityField → Option String
  | .ip => identity.ip
  | .mac => identity.mac
  | .onvif => identity.onvif

/-- A row of `camera_identity_periods`. `opened` is no column: it records what the period was
opened with. -/
structure PeriodRow where
  periodUuid : String
  cameraUuid : String
  identity : Identity
  startedAt : Nat
  endedAt : Option Nat := none
  opened : Identity
  deriving DecidableEq, Repr

def PeriodRow.finish (timestamp : Nat) (row : PeriodRow) : PeriodRow :=
  { row with endedAt := some timestamp }

def PeriodRow.learn (identity : Identity) (row : PeriodRow) : PeriodRow :=
  { row with identity := identity }

/-- An observation that was applied, with the periods directly after it. -/
structure Applied where
  cameraUuid : String
  carried : Identity
  periods : List PeriodRow
  deriving DecidableEq, Repr

/-- The tables behind the history, the time of each camera's last observation and every
observation ever applied. -/
structure IdentityStore where
  repository : Repository := {}
  periods : List PeriodRow := []
  links : List (String × Device) := []
  clocks : String → Nat := fun _ => 0
  applied : List Applied := []

/-- `text or None`. -/
def orNone (text : String) : Option String := if text = "" then none else some text

theorem orNone_eq_some {text value : String} :
    orNone text = some value ↔ text = value ∧ text ≠ "" := by
  by_cases empty : text = ""
  · simp [orNone, empty]
  · simp [orNone, empty]

theorem orNone_eq_none {text : String} : orNone text = none ↔ text = "" := by
  by_cases empty : text = ""
  · simp [orNone, empty]
  · simp [orNone, empty]

theorem orNone_inj {first second : String} : orNone first = orNone second ↔ first = second := by
  constructor
  · intro same
    by_cases empty : second = ""
    · rw [empty]
      exact orNone_eq_none.mp (same.trans (orNone_eq_none.mpr empty))
    · exact (orNone_eq_some.mp (same.trans (orNone_eq_some.mpr ⟨rfl, empty⟩))).1
  · rintro rfl
    rfl

def conflicts (observed previous : Identity) : Bool :=
  [IdentityField.ip, .mac, .onvif].any fun field =>
    (observed.known field).isSome && (previous.known field).isSome &&
      observed.known field ≠ previous.known field

/-- `observed if previous is None else previous`, field by field. -/
def enriched (observed previous : Identity) : Identity where
  ip := previous.ip <|> observed.ip
  mac := previous.mac <|> observed.mac
  onvif := previous.onvif <|> observed.onvif

def openPeriod (periods : List PeriodRow) (cameraUuid : String) : Option PeriodRow :=
  periods.find? fun row => row.cameraUuid = cameraUuid && row.endedAt.isNone

/-- The periods after an observation, and whether they changed; `fresh` is the value of
`uuid.uuid4()`. -/
def observedPeriods (periods : List PeriodRow) (cameraUuid : String) (identity : Identity)
    (timestamp : Nat) (fresh : String) : List PeriodRow × Bool :=
  let added : PeriodRow := ⟨fresh, cameraUuid, identity, timestamp, none, identity⟩
  if identity = {} then
    (periods, false)
  else
    match openPeriod periods cameraUuid with
    | none => (periods ++ [added], true)
    | some current =>
        if conflicts identity current.identity then
          (updateRow PeriodRow.periodUuid current.periodUuid (PeriodRow.finish timestamp) periods ++
            [added], true)
        else if enriched identity current.identity = current.identity then
          (periods, false)
        else
          (updateRow PeriodRow.periodUuid current.periodUuid
            (PeriodRow.learn (enriched identity current.identity)) periods, true)

section
variable [TextCase] [UrlText]

/-- `_candidate_stable_identity`: the ONVIF identity and the MAC. -/
def candidateStableIdentity (candidate : Sighting) : Option String × Option String :=
  (orNone (normalized (candidate.onvif.bind Onvif.endpointReference)),
    orNone (normalized candidate.mac))

def candidateIdentity (candidate : Sighting) : Identity where
  ip := orNone (strip candidate.ip)
  mac := (candidateStableIdentity candidate).2
  onvif := (candidateStableIdentity candidate).1

/-- `_observe_camera_identity` of a candidate; `carried` is what the caller was given. -/
def IdentityStore.observe (store : IdentityStore) (cameraUuid : String)
    (candidate carried : Sighting) (timestamp : Nat) (fresh : String) : IdentityStore × Bool :=
  let next := observedPeriods store.periods cameraUuid (candidateIdentity candidate) timestamp fresh
  ({ store with
      periods := next.1
      clocks := fun other => if other = cameraUuid then timestamp else store.clocks other
      applied := store.applied ++ [⟨cameraUuid, candidateIdentity carried, next.1⟩] }, next.2)

/-! The four callers. -/

/-- `adopt`, whose transaction also observes the candidate of a discovered camera. -/
def IdentityStore.adoptCandidate (store : IdentityStore) (candidate : Device)
    (request : AdoptRequest) (timestamp : Nat) (uuids : Nat → String) (fresh : String) :
    Except StorageError IdentityStore := do
  let name := firstText candidate.displayName (some candidate.ip)
  let request := { request with
    candidateUuid := candidate.candidateUuid
    displayName := if name = "" then "Camera" else name }
  let cameraUuid := adoptedUuid store.repository request.candidateUuid (uuids 0)
  let repository ← adopt store.repository request timestamp uuids
  let adopted := { store with repository := repository }
  if request.cameraOrigin = "discovery" then
    pure (adopted.observe cameraUuid candidate.toSighting candidate.toSighting timestamp fresh).1
  else
    pure adopted

def IdentityStore.observeCameraIdentity (store : IdentityStore) (cameraUuid : String)
    (candidate : Sighting) (timestamp : Nat) (fresh : String) : IdentityStore × Bool :=
  match store.repository.camera cameraUuid with
  | none => (store, false)
  | some _ => store.observe cameraUuid candidate candidate timestamp fresh

/-- The loop of `observe_inventory_identities`, with the cameras that have a period. -/
def observeListed (advanceExisting : List String) (timestamp : Nat) (uuids : Nat → String) :
    IdentityStore → List String → List (String × Device) → Nat → IdentityStore
  | store, _, [], _ => store
  | store, initialized, (cameraUuid, candidate) :: rest, position =>
      if (store.repository.camera cameraUuid).isNone ||
          (cameraUuid ∈ initialized && cameraUuid ∉ advanceExisting) then
        observeListed advanceExisting timestamp uuids store initialized rest (position + 1)
      else
        let next := store.observe cameraUuid candidate.toSighting candidate.toSighting
          timestamp (uuids position)
        observeListed advanceExisting timestamp uuids next.1
          (if next.2 then cameraUuid :: initialized else initialized) rest (position + 1)

def IdentityStore.observeInventoryIdentities (store : IdentityStore)
    (observations : List (String × Device)) (advanceExisting : List String) (timestamp : Nat)
    (uuids : Nat → String) : IdentityStore :=
  let initialized := (store.periods.filter (·.endedAt.isNone)).map (·.cameraUuid)
  observeListed advanceExisting timestamp uuids store initialized observations 0

/-- The candidate with the keys of the saved identity that it lacks. -/
def withSavedKeys (saved candidate : Device) : Device :=
  let (oldEndpoint, oldMac) := candidateStableIdentity saved.toSighting
  let (endpoint, mac) := candidateStableIdentity candidate.toSighting
  let onvif : Onvif := candidate.onvif.getD { endpointReference := none }
  { candidate with
    onvif :=
      if oldEndpoint.isSome && endpoint.isNone then
        some { onvif with endpointReference := oldEndpoint }
      else
        candidate.onvif
    mac := if oldMac.isSome && mac.isNone then oldMac else candidate.mac }

/-- The identity the open period has, as `same_identity` reads it. -/
def periodSighting (period : PeriodRow) : Sighting where
  ip := ""
  mac := period.identity.mac
  onvif := some { endpointReference := period.identity.onvif }

def IdentityStore.bindCameraIdentity (store : IdentityStore) (cameraUuid : String)
    (candidate : Device) (timestamp : Nat) (fresh : String) :
    Except StorageError IdentityStore := do
  let (endpoint, mac) := candidateStableIdentity candidate.toSighting
  if candidate.candidateUuid = "" || (endpoint.isNone && mac.isNone) ||
      candidate.identityConflict then
    throw (.value "A unique verified device identity is required")
  if (store.repository.camera cameraUuid).isNone then
    throw (.value "Camera not found")
  if let some period := openPeriod store.periods cameraUuid then
    if (period.identity.onvif.isSome || period.identity.mac.isSome) &&
        !sameIdentity (periodSighting period) candidate.toSighting then
      throw (.value "The detected device differs from the observed camera identity")
  let value ← match store.links.lookup cameraUuid with
    | none => pure candidate
    | some saved =>
        if sameIdentity saved.toSighting candidate.toSighting then
          pure (withSavedKeys saved candidate)
        else
          throw (.value "The detected device differs from the saved camera identity")
  let linked := { store with links := setKey store.links cameraUuid value }
  pure (linked.observe cameraUuid value.toSighting candidate.toSighting timestamp fresh).1

inductive IdentityAction
  | adopt (candidate : Device) (request : AdoptRequest)
  | observeCamera (cameraUuid : String) (candidate : Sighting)
  | observeInventory (observations : List (String × Device)) (advanceExisting : List String)
  | bind (cameraUuid : String) (candidate : Device)

/-- An action with its time; `uuids` are those of an adoption, `periodUuids` those of periods. -/
structure IdentityCall where
  action : IdentityAction
  timestamp : Nat
  uuids : Nat → String
  periodUuids : Nat → String

/-- The cameras that the action may observe. -/
def IdentityCall.cameras (call : IdentityCall) (store : IdentityStore) : List String :=
  match call.action with
  | .adopt candidate _ =>
      [adoptedUuid store.repository candidate.candidateUuid (call.uuids 0)]
  | .observeCamera cameraUuid _ => [cameraUuid]
  | .observeInventory observations _ => observations.map (·.1)
  | .bind cameraUuid _ => [cameraUuid]

/-- An exception rolls the transaction back. -/
def IdentityStore.call (store : IdentityStore) (call : IdentityCall) : IdentityStore :=
  match call.action with
  | .adopt candidate request =>
      match store.adoptCandidate candidate request call.timestamp call.uuids
          (call.periodUuids 0) with
      | .ok next => next
      | .error _ => store
  | .observeCamera cameraUuid candidate =>
      (store.observeCameraIdentity cameraUuid candidate call.timestamp (call.periodUuids 0)).1
  | .observeInventory observations advanceExisting =>
      store.observeInventoryIdentities observations advanceExisting call.timestamp
        call.periodUuids
  | .bind cameraUuid candidate =>
      match store.bindCameraIdentity cameraUuid candidate call.timestamp (call.periodUuids 0) with
      | .ok next => next
      | .error _ => store

end

end CamAdmiral
