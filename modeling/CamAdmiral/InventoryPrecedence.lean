import CamAdmiral.InventoryRescan

/-!
Which previous device an observation inherits. The scan lists the observations in the order
of their addresses, and the first that leads to a device takes it, by whichever key it has.
Precedence therefore holds for the first of the observations that lead to one device, and
the order of the scan is irrelevant exactly while no two observations prefer one device.
-/

namespace CamAdmiral

section
variable [TextCase]

/-- A key of the observation, or the address of a keyless one, leads to the device. -/
def LeadsTo (previous : List Device) (current : List Observation) (observation : Observation)
    (index : Nat) : Prop :=
  Identifies previous current observation index ∨
    (stableKeys observation.toSighting = [] ∧ ipIndex previous observation.ip = some index)

def FirstToLead (previous : List Device) (current : List Observation) (position index : Nat) :
    Prop :=
  ∀ earlier < position, ∀ observation, current[earlier]? = some observation →
    ¬ LeadsTo previous current observation index

/-- The ONVIF reference of the observation occurs once on both sides and names the device. -/
def NamedByOnvif (previous : List Device) (current : List Observation)
    (observation : Observation) (index : Nat) : Prop :=
  ∃ key, onvifKey observation.toSighting = some key ∧
    previousStableIndices previous key = [index] ∧ currentStableCount current key = 1

/-- The same for its MAC. -/
def NamedByMac (previous : List Device) (current : List Observation)
    (observation : Observation) (index : Nat) : Prop :=
  ∃ key, macKey observation.toSighting = some key ∧
    previousStableIndices previous key = [index] ∧ currentStableCount current key = 1

/-- The entry of the observation at `position` continues the device at `index` and keeps its
candidate. -/
structure Inherits (previous : List Device) (current : List Observation)
    (position index : Nat) : Prop where
  matched : (matchObservations previous current)[position]? = some (some index)
  candidate : ∀ device seenAt reachable uuids, previous[index]? = some device →
    device.candidateUuid ≠ "" →
    ((reconciledEntries previous current seenAt reachable uuids)[position]?).map
      (·.candidateUuid) = some device.candidateUuid

theorem inherits_of_matched {previous : List Device} {current : List Observation}
    {position index : Nat}
    (matched : (matchObservations previous current)[position]? = some (some index)) :
    Inherits previous current position index := by
  refine ⟨matched, ?_⟩
  intro device seenAt reachable uuids get named
  have inside := (List.getElem?_eq_some_iff.mp matched).1
  rw [matchObservations, matchFrom_length] at inside
  rw [reconciledEntries_matched previous seenAt reachable uuids
    (List.getElem?_eq_getElem inside) matched]
  simp [mergeOnline, get, Option.filter, named]

theorem namedByOnvif_iff {previous : List Device} {current : List Observation}
    {observation : Observation} {index : Nat} :
    NamedByOnvif previous current observation index ↔
      (onvifKey observation.toSighting).bind (stableIndex previous current) = some index := by
  simp [NamedByOnvif, Option.bind_eq_some_iff, stableIndex_eq_some]

theorem namedByMac_iff {previous : List Device} {current : List Observation}
    {observation : Observation} {index : Nat} :
    NamedByMac previous current observation index ↔
      (macKey observation.toSighting).bind (stableIndex previous current) = some index := by
  simp [NamedByMac, Option.bind_eq_some_iff, stableIndex_eq_some]

/-- What the first observation to lead to a device would take with nothing taken, it gets. -/
theorem first_inherits {previous : List Device} {current : List Observation}
    {observation : Observation} {position index : Nat}
    (get : current[position]? = some observation)
    (wanted : previousIndex previous current [] observation = some index)
    (first : FirstToLead previous current position index) :
    Inherits previous current position index := by
  obtain ⟨before, here, members⟩ := matchObservations_at previous get
  have free : index ∉ before := by
    intro isTaken
    obtain ⟨earlier, bound, found⟩ := (members index).mp isTaken
    have inside := (List.getElem?_eq_some_iff.mp found).1
    rw [matchObservations, matchFrom_length] at inside
    have earlierGet := List.getElem?_eq_getElem inside
    exact first earlier bound _ earlierGet (matchObservations_some earlierGet found)
  rw [(previousIndex_firstCome previous current).first wanted free] at here
  exact inherits_of_matched here

theorem wanted_by_onvif {previous : List Device} {current : List Observation}
    {observation : Observation} {index : Nat}
    (named : NamedByOnvif previous current observation index) :
    previousIndex previous current [] observation = some index := by
  simp [previousIndex, namedByOnvif_iff.mp named]

theorem wanted_by_mac {previous : List Device} {current : List Observation}
    {observation : Observation} {index : Nat}
    (named : NamedByMac previous current observation index)
    (noOnvif : ∀ other, ¬ NamedByOnvif previous current observation other) :
    previousIndex previous current [] observation = some index := by
  have unnamed : (onvifKey observation.toSighting).bind (stableIndex previous current) = none := by
    apply Option.eq_none_iff_forall_ne_some.mpr
    intro other found
    exact noOnvif other (namedByOnvif_iff.mpr found)
  simp [previousIndex, unnamed, namedByMac_iff.mp named]

/-! The order of the scan. -/

/-- What the observations inherit, each named by its position in the scan, if they are listed
in the order of `order`. -/
def inheritance (previous : List Device) (order : List (Observation × Nat)) :
    List (Nat × Option Nat) :=
  (order.map Prod.snd).zip (matchObservations previous (order.map Prod.fst))

def ScanOrderIndependent (previous : List Device) (current : List Observation) : Prop :=
  ∀ order, order.Perm current.zipIdx →
    (inheritance previous order).Perm (inheritance previous current.zipIdx)

/-- No two observations take the same device while nothing is taken. -/
def DistinctPreferences (previous : List Device) (current : List Observation) : Prop :=
  (current.filterMap (previousIndex previous current [])).Nodup

/-- The counts of the keys ignore the order, and so does every preference. -/
theorem previousIndex_perm {previous : List Device} {current shuffled : List Observation}
    (reordered : shuffled.Perm current) :
    previousIndex previous shuffled = previousIndex previous current := by
  have counts (key : StableKey) :
      currentStableCount shuffled key = currentStableCount current key := by
    simp only [currentStableCount]
    exact List.Perm.count_eq (List.Perm.flatMap_right _ reordered) key
  have indices : stableIndex previous shuffled = stableIndex previous current := by
    funext key
    simp only [stableIndex, counts]
  funext taken observation
  simp only [previousIndex, indices]

theorem inheritance_eq_assignment {previous : List Device} {current : List Observation}
    {order : List (Observation × Nat)} (reordered : order.Perm current.zipIdx) :
    inheritance previous order = assignment (previousIndex previous current) order := by
  have same : (order.map Prod.fst).Perm current := by simpa using reordered.map Prod.fst
  rw [inheritance, matchObservations, matchFrom_eq_greedy, previousIndex_perm same, assignment]

theorem scan_order_independent_iff (previous : List Device) (current : List Observation) :
    ScanOrderIndependent previous current ↔ DistinctPreferences previous current := by
  rw [DistinctPreferences, ← (previousIndex_firstCome previous current).order_independent_iff]
  apply forall₂_congr
  intro order reordered
  rw [inheritance_eq_assignment reordered, inheritance_eq_assignment (List.Perm.refl _)]

/-! Precedence. -/

/-- Each observation that its ONVIF reference names, where `Admitted` admits it, inherits. -/
def OnvifInherits (previous : List Device) (current : List Observation)
    (Admitted : Nat → Observation → Nat → Prop) : Prop :=
  ∀ position observation index, current[position]? = some observation →
    NamedByOnvif previous current observation index → Admitted position observation index →
    Inherits previous current position index

/-- So does each that its MAC names, if no ONVIF reference names the device; no keyless
observation then inherits that device. -/
def MacInherits (previous : List Device) (current : List Observation)
    (Admitted : Nat → Observation → Nat → Prop) : Prop :=
  ∀ position observation index, current[position]? = some observation →
    NamedByMac previous current observation index →
    (∀ other ∈ current, ¬ NamedByOnvif previous current other index) →
    Admitted position observation index →
    Inherits previous current position index ∧
      ∀ elsewhere other, current[elsewhere]? = some other →
        stableKeys other.toSighting = [] → ¬ Inherits previous current elsewhere index

/-- An observation inherits what its ONVIF reference names, or else what its MAC names, if
it is the first to lead there, and the order of the scan is irrelevant exactly if no two
observations prefer the same device. -/
theorem matching_precedence (previous : List Device) (current : List Observation) :
    OnvifInherits previous current
        (fun position _ index => FirstToLead previous current position index) ∧
      MacInherits previous current
        (fun position observation index => FirstToLead previous current position index ∧
          ∀ other, ¬ NamedByOnvif previous current observation other) ∧
      (ScanOrderIndependent previous current ↔ DistinctPreferences previous current) := by
  refine ⟨?_, ?_, scan_order_independent_iff previous current⟩
  · intro position observation index get named first
    exact first_inherits get (wanted_by_onvif named) first
  · intro position observation index get named _ admitted
    have inherited := first_inherits get (wanted_by_mac named admitted.2) admitted.1
    refine ⟨inherited, ?_⟩
    intro elsewhere other otherGet keyless also
    obtain rfl := matchObservations_injective inherited.matched also.matched
    obtain rfl := Option.some.inj (get.symm.trans otherGet)
    obtain ⟨key, isKey, _⟩ := named
    simp [stableKeys, isKey] at keyless

end

/-- A camera with an ONVIF endpoint reference. -/
def onvifCameraAt (ip mac endpointReference : String) : Observation :=
  { cameraAt ip mac with onvif := some { endpointReference := some endpointReference } }

def storedCamera (candidateUuid ip mac endpointReference : String) : Device where
  candidateUuid := candidateUuid
  ip := ip
  mac := some mac
  onvif := some { endpointReference := some endpointReference }

/-- The MAC of one camera, seen with the ONVIF reference of another, follows the reference; a
bare address, or a MAC listed first, takes the device another reference or MAC names. -/
theorem earlier_observation_takes_device :
    letI := asciiCase
    let first := storedCamera "a" "192.168.1.20" "02:00:00:00:00:20" "urn:a"
    let second := storedCamera "b" "192.168.1.21" "02:00:00:00:00:21" "urn:b"
    let bare : Observation := { ip := "192.168.1.20", displayName := "192.168.1.20" }
    let moved := onvifCameraAt "192.168.1.99" "02:00:00:00:00:99" "urn:a"
    ¬ MacInherits [first, second]
        [onvifCameraAt "192.168.1.99" "02:00:00:00:00:21" "urn:a"] (fun _ _ _ => True) ∧
      ¬ MacInherits [first] [bare, cameraAt "192.168.1.30" "02:00:00:00:00:20"]
        (fun _ _ _ => True) ∧
      ¬ OnvifInherits [first] [cameraAt "192.168.1.30" "02:00:00:00:00:20", moved]
        (fun _ _ _ => True) ∧
      ¬ ScanOrderIndependent [first]
        [cameraAt "192.168.1.30" "02:00:00:00:00:20", moved] := by
  let _ := asciiCase
  intro first second bare moved
  refine ⟨?_, ?_, ?_, ?_⟩
  · intro inherits
    have wrong := (inherits 0 _ 1 rfl ⟨.mac "02:00:00:00:00:21", by decide +kernel,
      by decide +kernel, by decide +kernel⟩ (by
        simp only [List.mem_singleton, forall_eq, namedByOnvif_iff]
        decide +kernel) trivial).1.matched
    exact absurd wrong (by decide +kernel)
  · intro inherits
    have wrong := (inherits 1 _ 0 rfl ⟨.mac "02:00:00:00:00:20", by decide +kernel,
      by decide +kernel, by decide +kernel⟩ (by
        simp only [List.mem_cons, List.not_mem_nil, or_false, forall_eq_or_imp, forall_eq,
          namedByOnvif_iff]
        decide +kernel) trivial).1.matched
    exact absurd wrong (by decide +kernel)
  · intro inherits
    have wrong := (inherits 1 _ 0 rfl ⟨.onvif "urn:a", by decide +kernel, by decide +kernel,
      by decide +kernel⟩ trivial).matched
    exact absurd wrong (by decide +kernel)
  · rw [scan_order_independent_iff, DistinctPreferences]
    decide +kernel

end CamAdmiral
