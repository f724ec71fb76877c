import CamAdmiral.InventoryPrecedence

/-!
What a scan that misses a key leaves of it. An observation carries every field, and one the
scan did not learn is null; the merge lays that null over the stored value. Only the ONVIF
data of an unmoved device survive, and only if the observation has none at all.
-/

namespace CamAdmiral

section
variable [TextCase]

/-- The key the merged device has where the observation has none. -/
def KeepsKey (key : Sighting → Option StableKey) (old : Device) (seen : Observation)
    (merged : Device) : Prop :=
  key seen.toSighting = none → key old.toSighting ≠ none →
    key merged.toSighting = key old.toSighting

def KeepsIdentity (old : Device) (seen : Observation) (merged : Device) : Prop :=
  KeepsKey macKey old seen merged ∧ KeepsKey onvifKey old seen merged

instance (old : Device) (seen : Observation) (merged : Device) :
    Decidable (KeepsIdentity old seen merged) :=
  inferInstanceAs (Decidable ((_ → _ → _) ∧ (_ → _ → _)))

theorem macKey_mergeOnline (previous : Option Device) (seen : Observation)
    (seenAt fresh : String) :
    macKey (mergeOnline previous seen seenAt fresh).toSighting = macKey seen.toSighting :=
  rfl

theorem onvifKey_mergeOnline_seen {seen : Observation} (present : seen.onvif ≠ none)
    (previous : Option Device) (seenAt fresh : String) :
    onvifKey (mergeOnline previous seen seenAt fresh).toSighting = onvifKey seen.toSighting := by
  obtain ⟨onvif, isOnvif⟩ := Option.ne_none_iff_exists'.mp present
  simp [onvifKey, mergeOnline, isOnvif]

theorem onvifKey_mergeOnline_unseen {old : Device} {seen : Observation}
    (absent : seen.onvif = none) (seenAt fresh : String) :
    onvifKey (mergeOnline (some old) seen seenAt fresh).toSighting =
      if old.ip = seen.ip then onvifKey old.toSighting else none := by
  by_cases unmoved : old.ip = seen.ip
  · simp [onvifKey, mergeOnline, absent, Option.filter, unmoved]
  · simp [onvifKey, mergeOnline, absent, Option.filter, unmoved, normalized_none]

theorem keepsKey_mac_iff (old : Device) (seen : Observation) (seenAt fresh : String) :
    KeepsKey macKey old seen (mergeOnline (some old) seen seenAt fresh) ↔
      (macKey old.toSighting ≠ none → macKey seen.toSighting ≠ none) := by
  rw [KeepsKey, macKey_mergeOnline]
  constructor
  · intro keeps known missing
    exact known ((keeps missing known).symm.trans missing)
  · intro complete missing known
    exact (complete known missing).elim

theorem keepsKey_onvif_iff (old : Device) (seen : Observation) (seenAt fresh : String) :
    KeepsKey onvifKey old seen (mergeOnline (some old) seen seenAt fresh) ↔
      (onvifKey old.toSighting ≠ none → onvifKey seen.toSighting ≠ none ∨
        (old.ip = seen.ip ∧ seen.onvif = none)) := by
  by_cases present : seen.onvif = none
  · rw [KeepsKey, onvifKey_mergeOnline_unseen present]
    have missing : onvifKey seen.toSighting = none := by
      simp [onvifKey, present, normalized_none]
    by_cases unmoved : old.ip = seen.ip
    · simp [unmoved, present]
    · simp only [missing, unmoved, false_and, ne_eq, not_true_eq_false, or_self, if_false,
        forall_const, imp_false, not_not]
      constructor
      · intro keeps
        by_contra known
        exact known (keeps known).symm
      · intro unknown known
        exact (known unknown).elim
  · rw [KeepsKey, onvifKey_mergeOnline_seen present]
    simp only [present, and_false, or_false]
    constructor
    · intro keeps known missing
      exact known ((keeps missing known).symm.trans missing)
    · intro complete missing known
      exact (complete known missing).elim

/-- However the observation was matched, its entry keeps the identity of the device exactly
if the scan missed no key, save the ONVIF reference of a device that has not moved and whose
observation has no ONVIF data. -/
theorem merged_identity_kept_iff {previous : List Device} {current : List Observation}
    {observation : Observation} {old : Device} {position index : Nat} (seenAt : String)
    (reachable : List String) (uuids : Nat → String)
    (observed : current[position]? = some observation)
    (matched : (matchObservations previous current)[position]? = some (some index))
    (known : previous[index]? = some old) :
    (∃ entry, (reconciledEntries previous current seenAt reachable uuids)[position]? =
        some entry ∧
      annotateConflict (reconciledEntries previous current seenAt reachable uuids) entry ∈
        reconcileInventory previous current seenAt reachable uuids ∧
      KeepsIdentity old observation (annotateConflict
        (reconciledEntries previous current seenAt reachable uuids) entry)) ↔
      (macKey old.toSighting ≠ none → macKey observation.toSighting ≠ none) ∧
      (onvifKey old.toSighting ≠ none → onvifKey observation.toSighting ≠ none ∨
        (old.ip = observation.ip ∧ observation.onvif = none)) := by
  have listed := reconciledEntries_matched previous seenAt reachable uuids observed matched
  rw [Option.bind_some, known] at listed
  rw [← keepsKey_mac_iff old observation seenAt (uuids position),
    ← keepsKey_onvif_iff old observation seenAt (uuids position)]
  constructor
  · rintro ⟨entry, get, _, keeps⟩
    obtain rfl := Option.some.inj (get.symm.trans listed)
    exact keeps
  · intro keeps
    exact ⟨_, listed, mem_reconcileInventory (List.mem_of_getElem? listed), keeps⟩

end

theorem complete_rescan_keeps_identity :
    letI := asciiCase
    let old := storedCamera "a" "192.168.1.20" "02:00:00:00:00:20" "urn:a"
    let seen := cameraAt "192.168.1.20" "02:00:00:00:00:20"
    ∃ entry, (reconciledEntries [old] [seen] "t2" [] (uuidSupply 'b'))[0]? = some entry ∧
      KeepsIdentity old seen
        (annotateConflict (reconciledEntries [old] [seen] "t2" [] (uuidSupply 'b')) entry) := by
  let _ := asciiCase
  intro old seen
  have matched : (matchObservations [old] [seen])[0]? = some (some 0) := by decide +kernel
  obtain ⟨entry, get, _, keeps⟩ :=
    (merged_identity_kept_iff "t2" [] (uuidSupply 'b') rfl matched rfl).mpr
      ⟨fun _ => by decide +kernel, fun _ => .inr ⟨rfl, rfl⟩⟩
  exact ⟨entry, get, keeps⟩

/-- A known camera that answers at its address while its ARP entry is missing loses its MAC;
one that answers only RTSP at a new address loses its ONVIF reference. -/
theorem partial_rescan_forgets_identity :
    letI := asciiCase
    let old := storedCamera "a" "192.168.1.20" "02:00:00:00:00:20" "urn:a"
    let unresolved : Observation := { ip := "192.168.1.20", displayName := "192.168.1.20" }
    let moved := cameraAt "192.168.1.30" "02:00:00:00:00:20"
    (matchObservations [old] [unresolved] = [some 0] ∧
        ∀ entry ∈ reconcileInventory [old] [unresolved] "t2" [] (uuidSupply 'b'),
          entry.candidateUuid = "a" ∧ ¬ KeepsIdentity old unresolved entry) ∧
      (matchObservations [old] [moved] = [some 0] ∧
        ∀ entry ∈ reconcileInventory [old] [moved] "t2" [] (uuidSupply 'b'),
          entry.candidateUuid = "a" ∧ ¬ KeepsIdentity old moved entry) := by
  decide +kernel

end CamAdmiral
