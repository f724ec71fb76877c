import CamAdmiral.RecoveryPlanning
import CamAdmiral.StorageRuns

/-!
The open address incidents of the store. Health transitions leave them alone, an opening adds
one for a camera that has none, a resolution takes one away, and a removed camera takes its
own along.
-/

namespace CamAdmiral

/-- The uuid and the camera of an open address incident. -/
def Incident.addressEntry (incident : Incident) : Option (String × String) :=
  if incident.kind = .cameraAddressChanged && incident.resolvedAt.isNone then
    some (incident.incidentUuid, incident.cameraUuid)
  else
    none

def openIncidents (incidents : List Incident) : List (String × String) :=
  incidents.filterMap Incident.addressEntry

def openAddresses (repository : Repository) : List (String × String) :=
  openIncidents repository.incidents

theorem openIncidents_map {incidents : List Incident} {change : Incident → Incident}
    (sameEntry : ∀ incident ∈ incidents,
      (change incident).addressEntry = incident.addressEntry) :
    openIncidents (incidents.map change) = openIncidents incidents := by
  rw [openIncidents, List.filterMap_map]
  exact List.filterMap_congr sameEntry

theorem openIncidents_touch (incidents : List Incident) (incidentUuid : String)
    (timestamp : Nat) :
    openIncidents (incidents.map fun row =>
      if row.incidentUuid = incidentUuid then { row with lastObservedAt := timestamp } else row) =
      openIncidents incidents := by
  apply openIncidents_map
  intro incident _
  split <;> rfl

theorem openIncidents_append (incidents : List Incident) (added : Incident) :
    openIncidents (incidents ++ [added]) =
      openIncidents incidents ++ added.addressEntry.toList := by
  rw [openIncidents, List.filterMap_append, List.filterMap_cons, List.filterMap_nil]
  cases added.addressEntry <;> rfl

theorem addressEntry_resolved (incident : Incident) (incidentUuid : String) (timestamp : Nat)
    (reason : ResolutionReason) :
    (if incident.incidentUuid = incidentUuid && incident.resolvedAt.isNone then
      { incident with
        lastObservedAt := timestamp
        resolvedAt := some timestamp
        resolutionReason := some reason }
      else incident).addressEntry =
        incident.addressEntry.filter fun entry => entry.1 ≠ incidentUuid := by
  by_cases isOpen :
      (incident.kind = .cameraAddressChanged && incident.resolvedAt.isNone) = true
  · obtain ⟨isAddress, unresolved⟩ := Bool.and_eq_true_iff.mp isOpen
    have isKind : incident.kind = .cameraAddressChanged := of_decide_eq_true isAddress
    by_cases same : incident.incidentUuid = incidentUuid
    · simp [same, unresolved, Incident.addressEntry, isKind, Option.filter]
    · simp [same, unresolved, Incident.addressEntry, isKind, Option.filter]
  · have noEntry : incident.addressEntry = none := if_neg isOpen
    rw [noEntry]
    split
    · simp [Incident.addressEntry]
    · exact noEntry

theorem openIncidents_resolve (incidents : List Incident) (incidentUuid : String)
    (timestamp : Nat) (reason : ResolutionReason) :
    openIncidents (resolveIncident incidents incidentUuid timestamp reason) =
      (openIncidents incidents).filter fun entry => entry.1 ≠ incidentUuid := by
  rw [openIncidents, resolveIncident, List.filterMap_map, openIncidents, List.filter_filterMap]
  apply List.filterMap_congr
  intro incident _
  exact addressEntry_resolved incident incidentUuid timestamp reason

/-- An open health incident is none of them. -/
theorem addressEntry_opened {incident : Incident} {cameraUuid : String}
    (opened : incident.opened cameraUuid = true) : incident.addressEntry = none := by
  simp only [Incident.opened, Bool.and_eq_true] at opened
  have health := opened.2
  cases kind : incident.kind with
  | cameraAddressChanged =>
      rw [kind] at health
      exact absurd health (by decide)
  | mediaOffline => simp [Incident.addressEntry, kind]
  | authenticationFailed => simp [Incident.addressEntry, kind]

/-- Its resolution resolves no address incident: uuids are unique. -/
theorem openIncidents_resolve_opened {incidents : List Incident} {opened : Incident}
    {cameraUuid : String} (unique : Unique Incident.incidentUuid incidents)
    (found : incidents.find? (·.opened cameraUuid) = some opened) (timestamp : Nat)
    (reason : ResolutionReason) :
    openIncidents (resolveIncident incidents opened.incidentUuid timestamp reason) =
      openIncidents incidents := by
  rw [openIncidents_resolve, List.filter_eq_self]
  rintro ⟨incidentUuid, owner⟩ member
  obtain ⟨incident, isIncident, entry⟩ := List.mem_filterMap.mp member
  simp only [ne_eq, decide_not, Bool.not_eq_true', decide_eq_false_iff_not]
  intro same
  have uuid : incident.incidentUuid = incidentUuid := by
    simp only [Incident.addressEntry] at entry
    split at entry
    · exact congrArg Prod.fst (Option.some.inj entry)
    · cases entry
  obtain rfl := unique.eq isIncident (List.mem_of_find?_eq_some found) (uuid.trans same)
  have opened : incident.opened cameraUuid = true := by simpa using List.find?_some found
  rw [addressEntry_opened opened] at entry
  cases entry

theorem openIncidents_reconcile {incidents : List Incident} {cameraUuid fresh : String}
    (unique : Unique Incident.incidentUuid incidents) (state : CameraState) (timestamp : Nat) :
    openIncidents (reconcileIncidents incidents cameraUuid state timestamp fresh) =
      openIncidents incidents := by
  have noEntry {kind : IncidentKind} (desired : desiredKind state = some kind) :
      (Incident.mk fresh cameraUuid kind timestamp timestamp none none).addressEntry = none := by
    have opened : (Incident.mk fresh cameraUuid kind timestamp timestamp none none).opened
        cameraUuid = true := by
      simp [Incident.opened, desiredKind_health desired]
    exact addressEntry_opened opened
  simp only [reconcileIncidents]
  split
  · rename_i kind opened desired found
    split
    · exact openIncidents_touch incidents opened.incidentUuid timestamp
    · rw [openIncidents_append, noEntry desired, openIncidents_resolve_opened unique found]
      simp
  · rename_i kind desired _
    rw [openIncidents_append, noEntry desired]
    simp
  · rename_i found
    split
    · exact openIncidents_resolve_opened unique found timestamp _
    · split
      · exact openIncidents_resolve_opened unique found timestamp _
      · rfl
  · rfl

/-- An incident added to the table, or none. -/
def AddsIncident (before after : Repository) (fresh : String) : Prop :=
  ∀ incident ∈ after.incidents, incident.incidentUuid = fresh ∨
    ∃ original ∈ before.incidents, original.incidentUuid = incident.incidentUuid

theorem transition_adds (repository : Repository) (cameraUuid : String) (timestamp : Nat)
    (fresh : String) : AddsIncident repository
      (recordCameraHealthTransition repository cameraUuid timestamp fresh) fresh := by
  intro incident member
  simp only [recordCameraHealthTransition] at member
  split at member
  · exact .inr ⟨incident, member, rfl⟩
  · rcases mem_reconcileIncidents member with ⟨original, isOriginal, same, _⟩ | ⟨isNew, _⟩
    · exact .inr ⟨original, isOriginal, same.symm⟩
    · exact .inl isNew

theorem openAddresses_transition {repository : Repository} (schema : Schema repository)
    (cameraUuid : String) (timestamp : Nat) (fresh : String) :
    openAddresses (recordCameraHealthTransition repository cameraUuid timestamp fresh) =
      openAddresses repository := by
  simp only [recordCameraHealthTransition]
  split
  · rfl
  · exact openIncidents_reconcile schema.incidentIds _ timestamp

theorem openAddresses_transitions {uuids : Nat → String} (distinct : Function.Injective uuids)
    {timestamp : Nat} {affected : List String} {repository : Repository}
    (schema : Schema repository) {position : Nat}
    (unused : UnusedIncidents repository uuids position) :
    openAddresses (recordTransitions repository timestamp uuids affected position) =
      openAddresses repository := by
  induction affected generalizing repository position with
  | nil => rfl
  | cons cameraUuid rest ih =>
      rw [recordTransitions, ih (schema.transition cameraUuid timestamp
          (unused position (by omega))) (unused.transition distinct cameraUuid timestamp),
        openAddresses_transition schema]

theorem Touches.openAddresses {before after : Repository} {affected : List String}
    (touches : Touches before after affected) : openAddresses after = openAddresses before := by
  rw [CamAdmiral.openAddresses, touches.incidents]
  rfl

/-- An update of the sources writes no address incident. -/
theorem updateProfileSources_addresses [TextCase] [UrlText] {repository next : Repository}
    {cameraUuid fresh : String} {sources : List (String × String)} {timestamp : Nat}
    (schema : Schema repository)
    (unused : ∀ incident ∈ repository.incidents, incident.incidentUuid ≠ fresh)
    (done : updateProfileSources repository cameraUuid sources timestamp fresh = .ok next) :
    Schema next ∧ openAddresses next = openAddresses repository ∧
      AddsIncident repository next fresh := by
  rcases updateProfileSources_effect schema done with rfl | ⟨changed, touches, _, rfl⟩
  · exact ⟨schema, rfl, fun incident member => .inr ⟨incident, member, rfl⟩⟩
  · refine ⟨touches.schema.transition cameraUuid timestamp (touches.incidents ▸ unused), ?_, ?_⟩
    · rw [openAddresses_transition touches.schema, touches.openAddresses]
    · intro incident member
      rw [← touches.incidents]
      exact transition_adds changed cameraUuid timestamp fresh incident member

theorem updateProfileSources_cameras [UrlText] {repository next : Repository}
    {cameraUuid fresh : String} {sources : List (String × String)} {timestamp : Nat}
    (done : updateProfileSources repository cameraUuid sources timestamp fresh = .ok next) :
    next.cameras = repository.cameras := by
  simp only [updateProfileSources] at done
  split at done
  · rw [← Except.ok.inj done]
  split at done
  · cases done
  split at done
  · cases done
  · rename_i parsed _
    obtain ⟨events, incidents, tables⟩ := transition_tables
      (saveSources repository cameraUuid parsed) cameraUuid timestamp fresh
    rw [← Except.ok.inj done, tables]
    rfl

theorem recordProbeResults_addresses {repository : Repository} {uuids : Nat → String}
    (schema : Schema repository) (distinct : Function.Injective uuids)
    (unused : UnusedIncidents repository uuids 0) (results : List (String × ProbeStatus))
    (timestamp : Nat) :
    Schema (recordProbeResults repository results timestamp uuids) ∧
      openAddresses (recordProbeResults repository results timestamp uuids) =
        openAddresses repository := by
  obtain ⟨_, touches, _⟩ := storeProbeResults_touches results schema []
  have stillUnused : UnusedIncidents (storeProbeResults repository [] results).1 uuids 0 := by
    intro later bound incident member
    exact unused later bound incident (touches.incidents ▸ member)
  constructor
  · exact touches.schema.transitions distinct stillUnused
  · rw [recordProbeResults, openAddresses_transitions distinct touches.schema stillUnused,
      touches.openAddresses]

/-- The rows of a removed camera go, and its entries with them. -/
theorem openIncidents_without (incidents : List Incident) (cameraUuid : String) :
    openIncidents (incidents.filter fun row => row.cameraUuid ≠ cameraUuid) =
      (openIncidents incidents).filter fun entry => entry.2 ≠ cameraUuid := by
  rw [openIncidents, openIncidents, List.filterMap_filter, List.filter_filterMap]
  apply List.filterMap_congr
  intro incident _
  by_cases isOpen :
      (incident.kind = .cameraAddressChanged && incident.resolvedAt.isNone) = true
  · have entry : incident.addressEntry = some (incident.incidentUuid, incident.cameraUuid) :=
      if_pos isOpen
    by_cases owned : incident.cameraUuid = cameraUuid
    · simp [entry, owned, Option.filter]
    · simp [entry, owned, Option.filter]
  · have noEntry : incident.addressEntry = none := if_neg isOpen
    simp [noEntry]

theorem unadoptCamera_incidents {repository result : Repository} {existed : Bool}
    {cameraUuid : String} (done : unadoptCamera repository cameraUuid = .ok (result, existed)) :
    result.incidents = repository.incidents ∨
      result.incidents = repository.incidents.filter fun row => row.cameraUuid ≠ cameraUuid := by
  simp only [unadoptCamera, pure, Except.pure, throw, throwThe, MonadExceptOf.throw] at done
  split at done
  · exact .inl (congrArg (·.1.incidents) (Except.ok.inj done)).symm
  split at done
  · cases done
  split at done
  · cases done
  · exact .inr (congrArg (·.1.incidents) (Except.ok.inj done)).symm

/-- Every entry belongs to an incident of the table. -/
theorem mem_openAddresses {repository : Repository} {entry : String × String} :
    entry ∈ openAddresses repository ↔ ∃ incident ∈ repository.incidents,
      incident.kind = .cameraAddressChanged ∧ incident.resolvedAt = none ∧
        entry = (incident.incidentUuid, incident.cameraUuid) := by
  simp only [openAddresses, openIncidents, List.mem_filterMap, Incident.addressEntry,
    Option.ite_none_right_eq_some, Bool.and_eq_true, decide_eq_true_eq, Option.isNone_iff_eq_none,
    Option.some.injEq]
  constructor
  · rintro ⟨incident, member, ⟨isAddress, unresolved⟩, rfl⟩
    exact ⟨incident, member, isAddress, unresolved, rfl⟩
  · rintro ⟨incident, member, isAddress, unresolved, rfl⟩
    exact ⟨incident, member, ⟨isAddress, unresolved⟩, rfl⟩

theorem Schema.openAddresses_camera {repository : Repository} (schema : Schema repository)
    {entry : String × String} (member : entry ∈ openAddresses repository) :
    ∃ camera ∈ repository.cameras, camera.cameraUuid = entry.2 := by
  obtain ⟨incident, isIncident, _, _, rfl⟩ := mem_openAddresses.mp member
  exact schema.incidentCamera incident isIncident

/-! Opening and resolving. -/

/-- Opening finds the camera's open incident or adds one. -/
theorem openAddressIncident_entries (repository : Repository) (cameraUuid : String)
    (timestamp : Nat) (fresh : String) :
    ((openAddressIncident repository cameraUuid timestamp fresh).2, cameraUuid) ∈
        openAddresses (openAddressIncident repository cameraUuid timestamp fresh).1 ∧
      openAddresses (openAddressIncident repository cameraUuid timestamp fresh).1 =
        if cameraUuid ∈ (openAddresses repository).map Prod.snd then
          openAddresses repository
        else
          openAddresses repository ++ [(fresh, cameraUuid)] := by
  simp only [openAddressIncident]
  split
  · rename_i incident found
    have isOpen := List.find?_some found
    simp only [Bool.and_eq_true, decide_eq_true_eq, Option.isNone_iff_eq_none] at isOpen
    obtain ⟨⟨owned, isAddress⟩, unresolved⟩ := isOpen
    have listed : (incident.incidentUuid, cameraUuid) ∈ openAddresses repository :=
      mem_openAddresses.mpr ⟨incident, List.mem_of_find?_eq_some found, isAddress, unresolved,
        by rw [owned]⟩
    rw [if_pos (List.mem_map_of_mem (f := Prod.snd) listed)]
    simp only [openAddresses, openIncidents_touch]
    exact ⟨listed, trivial⟩
  · rename_i missing
    have unlisted : cameraUuid ∉ (openAddresses repository).map Prod.snd := by
      intro listed
      obtain ⟨entry, isEntry, owner⟩ := List.mem_map.mp listed
      obtain ⟨incident, member, isAddress, unresolved, rfl⟩ := mem_openAddresses.mp isEntry
      have notOpen := List.find?_eq_none.mp missing incident member
      simp only [isAddress, unresolved, decide_true, Option.isNone_none, Bool.and_true,
        decide_eq_true_eq] at notOpen
      exact notOpen owner
    rw [if_neg unlisted]
    simp [openAddresses, openIncidents_append, Incident.addressEntry]

theorem openAddressIncident_adds (repository : Repository) (cameraUuid : String)
    (timestamp : Nat) (fresh : String) : AddsIncident repository
      (openAddressIncident repository cameraUuid timestamp fresh).1 fresh := by
  intro incident member
  simp only [openAddressIncident] at member
  split at member
  · obtain ⟨original, isOriginal, rfl⟩ := List.mem_map.mp member
    refine .inr ⟨original, isOriginal, ?_⟩
    split <;> rfl
  · rcases List.mem_append.mp member with isOld | isNew
    · exact .inr ⟨incident, isOld, rfl⟩
    · obtain rfl := List.mem_singleton.mp isNew
      exact .inl rfl

theorem Schema.openAddressIncident {repository : Repository} (schema : Schema repository)
    {cameraUuid fresh : String}
    (listed : ∃ camera ∈ repository.cameras, camera.cameraUuid = cameraUuid)
    (unused : ∀ incident ∈ repository.incidents, incident.incidentUuid ≠ fresh)
    (timestamp : Nat) :
    Schema (openAddressIncident repository cameraUuid timestamp fresh).1 := by
  simp only [CamAdmiral.openAddressIncident]
  split
  · refine { schema with incidentIds := ?_, incidentCamera := ?_ }
    · apply schema.incidentIds.map
      intro incident
      split <;> rfl
    · intro incident member
      obtain ⟨original, isOriginal, rfl⟩ := List.mem_map.mp member
      obtain ⟨camera, isCamera, same⟩ := schema.incidentCamera original isOriginal
      refine ⟨camera, isCamera, ?_⟩
      split <;> exact same
  · refine { schema with incidentIds := schema.incidentIds.append unused, incidentCamera := ?_ }
    intro incident member
    rcases List.mem_append.mp member with isOld | isNew
    · exact schema.incidentCamera incident isOld
    · obtain rfl := List.mem_singleton.mp isNew
      exact listed

theorem Schema.resolveAddressIncident {repository : Repository} (schema : Schema repository)
    (incidentUuid : String) (timestamp : Nat) :
    Schema (resolveAddressIncident repository incidentUuid timestamp) := by
  simp only [CamAdmiral.resolveAddressIncident]
  split
  · split
    · exact schema
    · refine { schema with
        incidentIds := schema.incidentIds.resolveIncident _ _ _, incidentCamera := ?_ }
      intro incident member
      obtain ⟨original, isOriginal, _, sameCamera⟩ := mem_resolveIncident member
      obtain ⟨camera, isCamera, same⟩ := schema.incidentCamera original isOriginal
      exact ⟨camera, isCamera, same.trans sameCamera.symm⟩
  · exact schema

theorem openAddresses_resolved {repository : Repository} (schema : Schema repository)
    {incidentUuid cameraUuid : String}
    (listed : (incidentUuid, cameraUuid) ∈ openAddresses repository) (timestamp : Nat) :
    openAddresses (resolveAddressIncident repository incidentUuid timestamp) =
      (openAddresses repository).filter fun entry => entry.1 ≠ incidentUuid := by
  obtain ⟨incident, member, isAddress, unresolved, same⟩ := mem_openAddresses.mp listed
  obtain ⟨rfl, rfl⟩ := Prod.mk.inj same
  rw [resolveAddressIncident, schema.incidentIds.rowAt_eq member]
  simp only [isAddress, unresolved, ne_eq, not_true_eq_false, decide_false, Option.isSome_none,
    Bool.or_self, Bool.false_eq_true, if_false]
  exact openIncidents_resolve repository.incidents incident.incidentUuid timestamp _

end CamAdmiral
