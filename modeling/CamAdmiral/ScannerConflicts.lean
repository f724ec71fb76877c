import CamAdmiral.InventoryMatching
import CamAdmiral.ScannerCore

/-!
Which scans leave exact identity conflicts. Annotating a whole list is exact; three modes
annotate the list they write. The explicit address mode only annotates the devices it
reconciles, and its theorem says when that is enough.
-/

namespace CamAdmiral

/-- Among the elements that satisfy `predicate` one is at `index`, so there are two exactly
if there is one elsewhere. -/
theorem one_lt_countP_iff {α : Type*} {elements : List α} {predicate : α → Bool} {index : Nat}
    {element : α} (get : elements[index]? = some element) (holds : predicate element = true) :
    1 < elements.countP predicate ↔
      ∃ other element, other ≠ index ∧ elements[other]? = some element ∧
        predicate element = true := by
  obtain ⟨bound, rfl⟩ := List.getElem?_eq_some_iff.mp get
  rw [← (List.getElem_cons_eraseIdx_perm bound).countP_eq, List.countP_cons_of_pos holds]
  simp only [Nat.lt_add_left_iff_pos, List.countP_pos_iff, List.mem_eraseIdx_iff_getElem?]
  constructor
  · rintro ⟨element, ⟨other, elsewhere, otherGet⟩, isOther⟩
    exact ⟨other, element, elsewhere, otherGet, isOther⟩
  · rintro ⟨other, element, elsewhere, otherGet, isOther⟩
    exact ⟨element, ⟨other, elsewhere, otherGet⟩, isOther⟩

section
variable [TextCase]

def normalizedEndpoint (device : Sighting) : String :=
  normalized (device.onvif.bind Onvif.endpointReference)

/-- The same normalized MAC or the same normalized endpoint reference. -/
def SharesIdentity (first second : Sighting) : Prop :=
  (normalized first.mac ≠ "" ∧ normalized second.mac = normalized first.mac) ∨
    (normalizedEndpoint first ≠ "" ∧ normalizedEndpoint second = normalizedEndpoint first)

/-- A device is marked exactly if another device of the list shares an identity with it. -/
def ConflictsExact (devices : List Device) : Prop :=
  ∀ (index : Nat) (device : Device), devices[index]? = some device →
    (device.identityConflict = true ↔ ∃ (other : Nat) (second : Device), other ≠ index ∧
      devices[other]? = some second ∧ SharesIdentity device.toSighting second.toSighting)

theorem mem_stableKeys {device : Sighting} {key : StableKey} :
    key ∈ stableKeys device ↔
      (normalized device.mac ≠ "" ∧ key = .mac (normalized device.mac)) ∨
        (normalizedEndpoint device ≠ "" ∧ key = .onvif (normalizedEndpoint device)) := by
  simp only [stableKeys, macKey, onvifKey, normalizedEndpoint, List.mem_append, Option.mem_toList,
    Option.ite_none_left_eq_some, Option.some.injEq, eq_comm (a := key), ne_eq]

theorem sharesIdentity_iff {first second : Sighting} :
    SharesIdentity first second ↔ ∃ key ∈ stableKeys first, key ∈ stableKeys second := by
  constructor
  · rintro (⟨named, same⟩ | ⟨named, same⟩)
    · exact ⟨.mac (normalized first.mac), mem_stableKeys.mpr (.inl ⟨named, rfl⟩),
        mem_stableKeys.mpr (.inl ⟨same ▸ named, by rw [same]⟩)⟩
    · exact ⟨.onvif (normalizedEndpoint first), mem_stableKeys.mpr (.inr ⟨named, rfl⟩),
        mem_stableKeys.mpr (.inr ⟨same ▸ named, by rw [same]⟩)⟩
  · rintro ⟨key, isFirst, isSecond⟩
    rcases mem_stableKeys.mp isFirst with ⟨named, rfl⟩ | ⟨named, rfl⟩
    · rcases mem_stableKeys.mp isSecond with ⟨_, same⟩ | ⟨_, same⟩
      · exact .inl ⟨named, (StableKey.mac.inj same).symm⟩
      · simp at same
    · rcases mem_stableKeys.mp isSecond with ⟨_, same⟩ | ⟨_, same⟩
      · simp at same
      · exact .inr ⟨named, (StableKey.onvif.inj same).symm⟩

/-- Some key of the identity has two owners in the list. -/
def Contested (devices : List Device) (identity : List StableKey) : Prop :=
  ∃ key ∈ identity, 1 < ownerCount devices key

theorem conflictsExact_iff {devices : List Device} :
    ConflictsExact devices ↔ ∀ device ∈ devices,
      (device.identityConflict = true ↔ Contested devices (stableKeys device.toSighting)) := by
  have contested (index : Nat) (device : Device) (get : devices[index]? = some device) :
      Contested devices (stableKeys device.toSighting) ↔
        ∃ (other : Nat) (second : Device), other ≠ index ∧ devices[other]? = some second ∧
          SharesIdentity device.toSighting second.toSighting := by
    simp only [Contested, sharesIdentity_iff]
    constructor
    · rintro ⟨key, isKey, twice⟩
      obtain ⟨other, second, elsewhere, otherGet, owns⟩ :=
        (one_lt_countP_iff get (by simpa using isKey)).mp twice
      exact ⟨other, second, elsewhere, otherGet, key, isKey, by simpa using owns⟩
    · rintro ⟨other, second, elsewhere, otherGet, key, isKey, owns⟩
      exact ⟨key, isKey, (one_lt_countP_iff get (by simpa using isKey)).mpr
        ⟨other, second, elsewhere, otherGet, by simpa using owns⟩⟩
  constructor
  · intro exact device member
    obtain ⟨index, get⟩ := List.getElem?_of_mem member
    exact (exact index device get).trans (contested index device get).symm
  · intro exact index device get
    exact (exact device (List.mem_of_getElem? get)).trans (contested index device get)

theorem conflictsExact_perm {devices reordered : List Device} (order : reordered.Perm devices) :
    ConflictsExact reordered ↔ ConflictsExact devices := by
  simp only [conflictsExact_iff, Contested, ownerCount, order.countP_eq, order.mem_iff]

/-! Annotation. -/

theorem ownerCount_map (devices : List Device) (change : Device → Device) (key : StableKey)
    (sameKeys : ∀ device, stableKeys (change device).toSighting = stableKeys device.toSighting) :
    ownerCount (devices.map change) key = ownerCount devices key := by
  simp [ownerCount, List.countP_map, Function.comp_def, sameKeys]

theorem annotateConflict_flag (devices : List Device) (device : Device) :
    (annotateConflict devices device).identityConflict = true ↔
      Contested devices (stableKeys device.toSighting) := by
  simp [annotateConflict, conflictLabels, Contested, List.filter_eq_nil_iff]

theorem annotated_exact (devices : List Device) :
    ConflictsExact (annotateIdentityConflicts devices) := by
  rw [conflictsExact_iff]
  intro device member
  obtain ⟨original, _, rfl⟩ := List.mem_map.mp member
  rw [annotateConflict_flag]
  have sameCount (key : StableKey) :=
    ownerCount_map devices (annotateConflict devices) key fun _ => rfl
  simp only [Contested, annotateIdentityConflicts, sameCount]
  rfl

theorem displayOrder_exact (devices : List Device) :
    ConflictsExact (displayOrder (annotateIdentityConflicts devices)) :=
  (conflictsExact_perm (List.perm_insertionSort _ _)).mpr (annotated_exact devices)

/-! The explicit address mode. -/

/-- The keys of the entry an observation leaves; a device it matched at its own address lends
it an ONVIF identity if it has none. -/
def mergedKeys (previous : Option Device) (current : Observation) : List StableKey :=
  let known := previous.filter fun device => device.ip = current.ip
  stableKeys { current.toSighting with onvif := current.onvif <|> known.bind (·.onvif) }

/-- The keys that the observations and the devices none of them matches end up with. -/
def keysAfter (previous : List Device) (current : List Observation) : List (List StableKey) :=
  let found := matchObservations previous current
  (current.zip found).map (fun (observation, index) =>
      mergedKeys (index.bind (previous[·]?)) observation) ++
    (previous.zipIdx.filter fun (_, index) => !found.contains (some index)).map
      fun (old, _) => stableKeys old.toSighting

theorem reconciledEntries_keys (previous : List Device) (current : List Observation)
    (seenAt : String) (reachable : List String) (uuids : Nat → String) :
    (reconciledEntries previous current seenAt reachable uuids).map
      (fun entry => stableKeys entry.toSighting) = keysAfter previous current := by
  have unobserved (old : Device) (fresh : String) :
      stableKeys (markUnobserved reachable old seenAt fresh).toSighting =
        stableKeys old.toSighting := by
    unfold markUnobserved
    split <;> rfl
  simp only [reconciledEntries, keysAfter, List.map_append, List.map_map, List.contains_eq_mem,
    decide_not]
  congr 1
  · have dropPosition := congrArg (List.map fun (observation, index) =>
        mergedKeys (index.bind (previous[·]?)) observation)
      (List.zipIdx_map_fst 0 (current.zip (matchObservations previous current)))
    rw [List.map_map] at dropPosition
    exact dropPosition
  · exact List.map_congr_left fun pair _ => unobserved pair.1 _

/-- What the untouched devices and the keys left on the touched ones must satisfy. -/
structure FlagsHold (untouched : List Device) (touched : List (List StableKey)) : Prop where
  /-- The flag stored on an untouched device already counts the touched ones. -/
  stored : ∀ device ∈ untouched, device.identityConflict = true ↔
    ∃ key ∈ stableKeys device.toSighting,
      1 < ownerCount untouched key ∨ ∃ identity ∈ touched, key ∈ identity
  /-- A key shared with an untouched device is found in conflict among the touched ones. -/
  visible : ∀ identity ∈ touched,
    (∃ key ∈ identity, ∃ device ∈ untouched, key ∈ stableKeys device.toSighting) →
    ∃ key ∈ identity, 1 < touched.countP (key ∈ ·)

theorem ownerCount_pos {devices : List Device} {key : StableKey} :
    0 < ownerCount devices key ↔ ∃ device ∈ devices, key ∈ stableKeys device.toSighting := by
  simp [ownerCount, List.countP_pos_iff]

theorem ownerCount_keys (devices : List Device) (key : StableKey) :
    (devices.map fun device => stableKeys device.toSighting).countP (key ∈ ·) =
      ownerCount devices key := by
  simp [ownerCount, List.countP_map, Function.comp_def]

theorem ownerCount_append_annotated (untouched entries : List Device) (key : StableKey) :
    ownerCount (untouched ++ annotateIdentityConflicts entries) key =
      ownerCount untouched key + ownerCount entries key := by
  rw [ownerCount, List.countP_append]
  exact congrArg _ (ownerCount_map entries (annotateConflict entries) key fun _ => rfl)

theorem contested_untouched {untouched entries : List Device} {device : Device}
    (member : device ∈ untouched) :
    Contested (untouched ++ annotateIdentityConflicts entries) (stableKeys device.toSighting) ↔
      ∃ key ∈ stableKeys device.toSighting, 1 < ownerCount untouched key ∨
        ∃ identity ∈ entries.map (fun entry => stableKeys entry.toSighting), key ∈ identity := by
  apply exists_congr
  intro key
  apply and_congr_right
  intro isKey
  have positive : 0 < ownerCount untouched key := ownerCount_pos.mpr ⟨device, member, isKey⟩
  have touched : 0 < ownerCount entries key ↔
      ∃ identity ∈ entries.map (fun entry => stableKeys entry.toSighting), key ∈ identity := by
    simp [ownerCount_pos]
  rw [ownerCount_append_annotated, ← touched]
  omega

/-- An entry's own annotation misses exactly the untouched owners of its keys. -/
theorem contested_entry {untouched entries : List Device} {entry : Device}
    (member : entry ∈ entries) :
    (Contested entries (stableKeys entry.toSighting) ↔
      Contested (untouched ++ annotateIdentityConflicts entries) (stableKeys entry.toSighting)) ↔
      ((∃ key ∈ stableKeys entry.toSighting, ∃ device ∈ untouched,
          key ∈ stableKeys device.toSighting) →
        Contested entries (stableKeys entry.toSighting)) := by
  have positive {key : StableKey} (isKey : key ∈ stableKeys entry.toSighting) :
      0 < ownerCount entries key := ownerCount_pos.mpr ⟨entry, member, isKey⟩
  constructor
  · rintro same ⟨key, isKey, shared⟩
    apply same.mpr
    have untouchedOwner := ownerCount_pos.mpr shared
    have touchedOwner := positive isKey
    refine ⟨key, isKey, ?_⟩
    rw [ownerCount_append_annotated]
    omega
  · intro visible
    constructor
    · rintro ⟨key, isKey, twice⟩
      refine ⟨key, isKey, ?_⟩
      rw [ownerCount_append_annotated]
      omega
    · rintro ⟨key, isKey, twice⟩
      rw [ownerCount_append_annotated] at twice
      by_cases shared : 0 < ownerCount untouched key
      · exact visible ⟨key, isKey, ownerCount_pos.mp shared⟩
      · exact ⟨key, isKey, by omega⟩

/-- Devices that keep their flags beside devices annotated among themselves. -/
theorem append_exact_iff (untouched entries : List Device) :
    ConflictsExact (untouched ++ annotateIdentityConflicts entries) ↔
      FlagsHold untouched (entries.map fun entry => stableKeys entry.toSighting) := by
  have entriesExact : (∀ device ∈ annotateIdentityConflicts entries,
      (device.identityConflict = true ↔
        Contested (untouched ++ annotateIdentityConflicts entries)
          (stableKeys device.toSighting))) ↔
      ∀ identity ∈ entries.map fun entry => stableKeys entry.toSighting,
        (∃ key ∈ identity, ∃ device ∈ untouched, key ∈ stableKeys device.toSighting) →
        ∃ key ∈ identity, 1 < (entries.map fun entry =>
          stableKeys entry.toSighting).countP (key ∈ ·) := by
    simp only [annotateIdentityConflicts, List.forall_mem_map, annotateConflict_flag,
      ownerCount_keys]
    exact forall₂_congr fun entry member => contested_entry member
  rw [conflictsExact_iff, List.forall_mem_append, entriesExact]
  constructor
  · rintro ⟨untouchedExact, visible⟩
    exact ⟨fun device member =>
      (untouchedExact device member).trans (contested_untouched member), visible⟩
  · rintro ⟨stored, visible⟩
    exact ⟨fun device member =>
      (stored device member).trans (contested_untouched member).symm, visible⟩

theorem scanAddress_exact_iff (previous : List Device) (result : ScanResult) (address : String)
    (uuids : Nat → String) :
    ConflictsExact (scanAddress previous result address uuids) ↔
      FlagsHold (addressUntouched previous result.devices address)
        (keysAfter (addressTargets previous result.devices address) result.devices) := by
  rw [← reconciledEntries_keys _ _ result.completedAt [] uuids, ← append_exact_iff]
  exact conflictsExact_perm ((List.perm_insertionSort _ _).append_left _)

/-- Every scan leaves exact conflicts, an explicit address scan exactly if the flags of the
devices it does not touch hold and no shared key hides behind them. -/
theorem scan_conflicts_exact_iff {request : ScanRequest} {previous written : List Device}
    {result : ScanResult} {uuids : Nat → String}
    (done : scannedDevices request previous result uuids = some written) :
    ConflictsExact written ↔ (request.mode = some "address" →
      FlagsHold (addressUntouched previous result.devices (textOf request.address))
        (keysAfter (addressTargets previous result.devices (textOf request.address))
          result.devices)) := by
  simp only [scannedDevices] at done
  split at done
  · rename_i isAddress
    obtain rfl := Option.some.inj done
    simp only [isAddress, forall_const]
    exact scanAddress_exact_iff previous result _ uuids
  · rename_i notAddress
    suffices exact : ConflictsExact written by simp [exact, notAddress]
    split at done
    · obtain rfl := Option.some.inj done
      exact displayOrder_exact _
    · split at done
      · rename_i subnets _
        cases parsed : subnets.mapM ipv4Network with
        | none => simp [reconcileScannedSubnets, parsed] at done
        | some networks =>
            simp only [reconcileScannedSubnets, parsed, Option.bind_eq_bind, Option.bind_some,
              Option.pure_def, Option.some.injEq] at done
            subst written
            exact displayOrder_exact _
      · obtain rfl := Option.some.inj done
        exact displayOrder_exact _

end

def sharedMacInventory : List Device :=
  [{ ip := "192.168.1.20", mac := some "aa:bb:cc:dd:ee:01", candidateUuid := "x",
     identityConflict := true },
   { ip := "192.168.1.21", mac := some "aa:bb:cc:dd:ee:01", candidateUuid := "y",
     identityConflict := true }]

def replacedCamera : ScanResult where
  devices := [{ ip := "192.168.1.20", mac := some "aa:bb:cc:dd:ee:02",
                displayName := "192.168.1.20" }]
  completedAt := "t1"

theorem full_scan_conflicts_exact :
    let _ := asciiCase
    ConflictsExact (reconcileInventory sharedMacInventory replacedCamera.devices "t1" []
      fun _ => "new") := by
  intro text
  have done : scannedDevices { scanId := some "s1" } sharedMacInventory replacedCamera
      (fun _ => "new") = some _ := rfl
  refine (scan_conflicts_exact_iff done).mpr ?_
  intro isAddress
  exact absurd isAddress (by decide)

/-- The camera the scan looked for keeps its MAC but loses the flag, though the untouched
camera still carries the same MAC. -/
theorem address_scan_misses_conflict :
    ¬ ∀ (_ : TextCase) (request : ScanRequest) (previous written : List Device)
        (result : ScanResult) (uuids : Nat → String),
      scannedDevices request previous result uuids = some written → ConflictsExact written := by
  intro exact
  let _ := asciiCase
  have marked := (exact asciiCase
    { scanId := some "s1", mode := some "address", address := some "192.168.1.20" }
    sharedMacInventory _ replacedCamera (fun _ => "new") rfl 2 _ rfl).mpr
      ⟨0, _, by decide, rfl, .inl ⟨by decide +kernel, by decide +kernel⟩⟩
  exact absurd marked (by decide +kernel)

end CamAdmiral
