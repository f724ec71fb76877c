import CamAdmiral.NetworkSettings
import CamAdmiral.Programs

/-!
What a later reading makes of a save. Both keep networks as texts that are read back as the
same network, so a subnet is selected by one of two rules, by whether it is connected then.
-/

namespace CamAdmiral

/-! Texts that are read back. -/

theorem subnetOf_canonical (network range : Ipv4Network) :
    network.canonical.subnetOf range = network.subnetOf range := by
  simp only [Ipv4Network.subnetOf, Ipv4Network.broadcastAddress, canonical_networkAddress]
  rfl

theorem isPrivate_canonical (network : Ipv4Network) :
    network.canonical.isPrivate = network.isPrivate := by
  simp only [Ipv4Network.isPrivate, List.any_eq, subnetOf_canonical]

theorem normalize_text {network : Ipv4Network} (valid : network.Valid)
    (isPrivate : network.isPrivate = true) :
    normalizePrivateScanSubnet network.text = .ok network.canonical := by
  simp [normalizePrivateScanSubnet, strip_text valid, ipv4Network_text valid,
    isPrivate_canonical, canonical_canonical, isPrivate]

theorem normalize_text_public {network : Ipv4Network} (valid : network.Valid)
    (isPublic : network.isPrivate = false) :
    normalizePrivateScanSubnet network.text =
      .error "Only private IPv4 subnets can be scanned" := by
  simp [normalizePrivateScanSubnet, strip_text valid, ipv4Network_text valid,
    isPrivate_canonical, isPublic]

/-- A network that is read back is printed as it was. -/
theorem normalize_text_same {network other : Ipv4Network} (valid : network.Valid)
    (normalized : normalizePrivateScanSubnet network.text = .ok other) :
    other.text = network.text := by
  cases isPrivate : network.isPrivate with
  | true =>
      rw [normalize_text valid isPrivate] at normalized
      obtain rfl := Except.ok.inj normalized
      exact canonical_text network
  | false =>
      rw [normalize_text_public valid isPrivate] at normalized
      cases normalized

structure ScanSubnet (network : Ipv4Network) : Prop where
  valid : network.Valid
  isPrivate : network.isPrivate = true
  canonical : network.canonical = network

theorem normalize_ok {value : String} {network : Ipv4Network}
    (normalized : normalizePrivateScanSubnet value = .ok network) : ScanSubnet network := by
  simp only [normalizePrivateScanSubnet] at normalized
  split at normalized
  · cases normalized
  · rename_i parsed isParsed
    split at normalized
    · rename_i isPrivate
      obtain rfl := Except.ok.inj normalized
      exact ⟨(ipv4Network_valid isParsed).canonical, (isPrivate_canonical _).trans isPrivate,
        canonical_canonical _⟩
    · cases normalized

theorem ScanSubnet.reread {network : Ipv4Network} (subnet : ScanSubnet network) :
    normalizePrivateScanSubnet network.text = .ok network := by
  rw [normalize_text subnet.valid subnet.isPrivate, subnet.canonical]

section
variable {maxScanHosts : Nat}

theorem custom_ok_iff {value : String} {network : Ipv4Network} :
    customScanSubnet maxScanHosts value = .ok network ↔
      normalizePrivateScanSubnet value = .ok network ∧
        network.numAddresses - 2 ≤ maxScanHosts := by
  simp only [customScanSubnet, bind, Except.bind]
  cases normalizePrivateScanSubnet value with
  | error _ => simp
  | ok parsed =>
      dsimp only
      by_cases large : maxScanHosts < parsed.numAddresses - 2
      · rw [if_pos large]
        constructor
        · intro impossible
          cases impossible
        · rintro ⟨same, small⟩
          obtain rfl := Except.ok.inj same
          omega
      · rw [if_neg large]
        constructor
        · intro same
          obtain rfl := Except.ok.inj same
          exact ⟨rfl, by omega⟩
        · exact fun same => same.1

theorem custom_reread {value : String} {network : Ipv4Network}
    (parsed : customScanSubnet maxScanHosts value = .ok network) :
    customScanSubnet maxScanHosts network.text = .ok network := by
  obtain ⟨normalized, small⟩ := custom_ok_iff.mp parsed
  exact custom_ok_iff.mpr ⟨(normalize_ok normalized).reread, small⟩

theorem mem_parsedSubnets {parse : String → Except String Ipv4Network} {values : List String}
    {subnet : String} : subnet ∈ parsedSubnets parse values ↔
      ∃ value ∈ values, ∃ network, parse value = .ok network ∧ network.text = subnet := by
  simp only [parsedSubnets, List.mem_filterMap, Option.map_eq_some_iff]
  constructor
  · rintro ⟨value, member, network, isParsed, isText⟩
    cases parsed : parse value with
    | error _ =>
        rw [parsed] at isParsed
        cases isParsed
    | ok other =>
        rw [parsed] at isParsed
        obtain rfl := Option.some.inj isParsed
        exact ⟨value, member, _, parsed, isText⟩
  · rintro ⟨value, member, network, parsed, isText⟩
    exact ⟨value, member, network, by rw [parsed]; rfl, isText⟩

theorem parsedSubnets_cons {parse : String → Except String Ipv4Network} {value : String}
    {network : Ipv4Network} (parsed : parse value = .ok network) (values : List String) :
    parsedSubnets parse (value :: values) = network.text :: parsedSubnets parse values := by
  simp [parsedSubnets, parsed, Except.toOption]

/-- Texts that are read back are all kept by a reading. -/
theorem mem_parsedSubnets_of_readable {parse : String → Except String Ipv4Network}
    {values : List String}
    (readable : ∀ value ∈ values, ∃ network, parse value = .ok network ∧ network.text = value)
    (subnet : String) : subnet ∈ parsedSubnets parse values ↔ subnet ∈ values := by
  rw [mem_parsedSubnets]
  constructor
  · rintro ⟨value, member, network, parsed, isText⟩
    obtain ⟨other, alsoParsed, same⟩ := readable value member
    obtain rfl := Except.ok.inj (parsed.symm.trans alsoParsed)
    rw [← isText, same]
    exact member
  · intro member
    exact ⟨subnet, member, readable subnet member⟩

/-- Of texts of networks, a reading keeps the private ones. -/
theorem mem_parsedSubnets_of_texts {values : List String}
    (texts : ∀ value ∈ values, ∃ network : Ipv4Network, network.Valid ∧ network.text = value)
    (subnet : String) : subnet ∈ parsedSubnets normalizePrivateScanSubnet values ↔
      subnet ∈ values ∧ ∃ network, normalizePrivateScanSubnet subnet = .ok network := by
  rw [mem_parsedSubnets]
  constructor
  · rintro ⟨value, member, other, normalized, isText⟩
    obtain ⟨network, valid, rfl⟩ := texts value member
    rw [normalize_text_same valid normalized] at isText
    subst isText
    exact ⟨member, other, normalized⟩
  · rintro ⟨member, other, normalized⟩
    obtain ⟨network, valid, rfl⟩ := texts subnet member
    exact ⟨_, member, other, normalized, normalize_text_same valid normalized⟩

/-! A reading. -/

theorem connectedBySubnet_keys (connected : List LanInterface) (subnet : String) :
    ((connectedBySubnet connected).lookup subnet).isSome = true ↔
      subnet ∈ connected.map (·.network.text) := by
  suffices collected : ∀ mapping : List (String × LanInterface),
      ((connected.foldl (fun mapping interface =>
        setKey mapping interface.network.text interface) mapping).lookup subnet).isSome = true ↔
        (mapping.lookup subnet).isSome = true ∨ subnet ∈ connected.map (·.network.text) by
    simpa [connectedBySubnet] using collected []
  induction connected with
  | nil => simp
  | cons interface rest ih =>
      intro mapping
      rw [List.foldl_cons, ih, lookup_setKey, List.map_cons, List.mem_cons]
      by_cases same : subnet = interface.network.text
      · simp [same]
      · simp [same]

theorem mem_connectedBySubnet (connected : List LanInterface) (subnet : String) :
    (∃ interface, (subnet, interface) ∈ connectedBySubnet connected) ↔
      subnet ∈ connected.map (·.network.text) := by
  rw [← connectedBySubnet_keys, List.lookup_isSome_iff]
  constructor
  · rintro ⟨interface, member⟩
    exact ⟨_, member, beq_self_eq_true _⟩
  · rintro ⟨entry, member, same⟩
    obtain rfl := eq_of_beq same
    exact ⟨entry.2, member⟩

theorem customRow_cidr (route : Ipv4Network → Option LanInterface) (excludedCustom : List String)
    (subnet : String) (network : Ipv4Network) :
    (customRow route excludedCustom subnet network).cidr = subnet := by
  rw [customRow]
  split <;> rfl

theorem customRow_selected (route : Ipv4Network → Option LanInterface)
    (excludedCustom : List String) (subnet : String) (network : Ipv4Network) :
    (customRow route excludedCustom subnet network).selected = true ↔
      subnet ∉ excludedCustom := by
  rw [customRow]
  split <;> exact decide_eq_true_iff

/-- The two rules: connected networks are selected unless excluded as detected, the other
custom ones unless excluded as custom. -/
theorem mem_selectedDiscoverySubnets {settings : NetworkSettings} {lan : Lan}
    {subnet : String} :
    subnet ∈ selectedDiscoverySubnets maxScanHosts settings lan ↔
      (subnet ∈ lan.connected.map (·.network.text) ∧
        subnet ∉ parsedSubnets normalizePrivateScanSubnet settings.excludedDetectedSubnets) ∨
      (subnet ∉ lan.connected.map (·.network.text) ∧
        subnet ∈ parsedSubnets (customScanSubnet maxScanHosts) settings.customSubnets ∧
        subnet ∉ parsedSubnets (customScanSubnet maxScanHosts)
          settings.excludedCustomSubnets) := by
  have connected := mem_connectedBySubnet lan.connected subnet
  have absent : (connectedBySubnet lan.connected).lookup subnet = none ↔
      subnet ∉ lan.connected.map (·.network.text) := by
    rw [← connectedBySubnet_keys, Bool.not_eq_true, Option.isSome_eq_false_iff,
      Option.isNone_iff_eq_none]
  simp only [selectedDiscoverySubnets, discoveryNetworkConfiguration, List.filter_append,
    List.map_append, List.mem_append, List.mem_map, List.mem_filter, List.mem_filterMap,
    List.mem_eraseDups, Option.isNone_iff_eq_none, Option.map_eq_some_iff]
  apply or_congr
  · rw [List.mem_map] at connected
    rw [← connected]
    constructor
    · rintro ⟨row, ⟨⟨⟨cidr, interface⟩, member, rfl⟩, isSelected⟩, rfl⟩
      exact ⟨⟨interface, member⟩, of_decide_eq_true isSelected⟩
    · rintro ⟨⟨interface, member⟩, kept⟩
      exact ⟨_, ⟨⟨_, member, rfl⟩, decide_eq_true kept⟩, rfl⟩
  · rw [← List.mem_map, ← absent]
    constructor
    · rintro ⟨row, ⟨⟨cidr, ⟨listed, notConnected⟩, network, _, rfl⟩, isSelected⟩, isCidr⟩
      rw [customRow_cidr] at isCidr
      subst isCidr
      exact ⟨notConnected, listed, (customRow_selected ..).mp isSelected⟩
    · rintro ⟨notConnected, listed, kept⟩
      obtain ⟨_, _, network, parsed, isText⟩ := mem_parsedSubnets.mp listed
      have reread := custom_reread parsed
      rw [isText] at reread
      refine ⟨_, ⟨⟨subnet, ⟨listed, notConnected⟩, network, ?_, rfl⟩,
        (customRow_selected ..).mpr kept⟩, customRow_cidr ..⟩
      rw [reread]
      rfl

/-! A save. -/

/-- What a save takes as selected, and that all of it is a subnet to scan. -/
theorem normalizedSelection_ok {detected values selected : List String}
    (normalized : normalizedSelection maxScanHosts detected values = .ok selected) :
    (∀ subnet, subnet ∈ selected ↔ subnet ∈ parsedSubnets normalizePrivateScanSubnet values) ∧
      ∀ subnet ∈ selected, subnet ∉ detected →
        ∃ network, customScanSubnet maxScanHosts subnet = .ok network ∧
          network.text = subnet := by
  suffices collected : ∀ already : List String,
      values.foldlM (fun selected value => do
        let network ← normalizePrivateScanSubnet value
        if network.text ∉ detected then
          let _ ← customScanSubnet maxScanHosts network.text
        pure (addValue selected network.text)) already = .ok selected →
      (∀ subnet, subnet ∈ selected ↔
        subnet ∈ already ∨ subnet ∈ parsedSubnets normalizePrivateScanSubnet values) ∧
      ∀ subnet ∈ selected, subnet ∉ already → subnet ∉ detected →
        ∃ network, customScanSubnet maxScanHosts subnet = .ok network ∧
          network.text = subnet by
    obtain ⟨members, scanned⟩ := collected [] normalized
    exact ⟨fun subnet => by simpa using members subnet,
      fun subnet member => scanned subnet member List.not_mem_nil⟩
  clear normalized
  induction values with
  | nil =>
      intro already done
      obtain rfl := Except.ok.inj done
      exact ⟨by simp [parsedSubnets], fun subnet member absent => (absent member).elim⟩
  | cons value rest ih =>
      intro already done
      rw [List.foldlM_cons] at done
      obtain ⟨added, isAdded, done⟩ := except_bind done
      obtain ⟨network, parsed, isAdded⟩ := except_bind isAdded
      have checked : added = addValue already network.text ∧ (network.text ∉ detected →
          ∃ custom, customScanSubnet maxScanHosts network.text = .ok custom) := by
        by_cases isDetected : network.text ∈ detected
        · simp only [isDetected, not_true_eq_false, if_false] at isAdded
          exact ⟨(Except.ok.inj isAdded).symm, fun absent => (absent isDetected).elim⟩
        · simp only [isDetected, not_false_eq_true, if_true] at isAdded
          obtain ⟨custom, isCustom, isAdded⟩ := except_bind isAdded
          exact ⟨(Except.ok.inj isAdded).symm, fun _ => ⟨custom, isCustom⟩⟩
      obtain ⟨rfl, isCustom⟩ := checked
      obtain ⟨members, scanned⟩ := ih _ done
      constructor
      · intro subnet
        rw [members, mem_addValue, parsedSubnets_cons parsed, List.mem_cons, or_assoc]
      · intro subnet member notAlready absent
        by_cases same : subnet = network.text
        · subst same
          obtain ⟨custom, isCustom⟩ := isCustom absent
          have reread := (normalize_ok parsed).reread
          obtain rfl := Except.ok.inj ((custom_ok_iff.mp isCustom).1.symm.trans reread)
          exact ⟨_, isCustom, rfl⟩
        · exact scanned subnet member (by simp [mem_addValue, notAlready, same]) absent

theorem normalizedCustom_ok {detected values custom : List String}
    (normalized : normalizedCustom maxScanHosts detected values = .ok custom) (subnet : String) :
    subnet ∈ custom ↔ subnet ∉ detected ∧
      subnet ∈ parsedSubnets (customScanSubnet maxScanHosts) values := by
  suffices collected : ∀ already : List String,
      values.foldlM (fun custom value => do
        let network ← customScanSubnet maxScanHosts value
        pure (if network.text ∉ detected then addValue custom network.text else custom))
        already = .ok custom →
      (subnet ∈ custom ↔ subnet ∈ already ∨ subnet ∉ detected ∧
        subnet ∈ parsedSubnets (customScanSubnet maxScanHosts) values) by
    simpa using collected [] normalized
  clear normalized
  induction values with
  | nil =>
      intro already done
      obtain rfl := Except.ok.inj done
      simp [parsedSubnets]
  | cons value rest ih =>
      intro already done
      rw [List.foldlM_cons] at done
      obtain ⟨added, isAdded, done⟩ := except_bind done
      obtain ⟨network, parsed, isAdded⟩ := except_bind isAdded
      obtain rfl := Except.ok.inj isAdded
      rw [ih _ done, parsedSubnets_cons parsed, List.mem_cons]
      by_cases isDetected : network.text ∈ detected
      · simp only [isDetected, not_true_eq_false, if_false]
        constructor
        · rintro (member | ⟨absent, member⟩)
          · exact .inl member
          · exact .inr ⟨absent, .inr member⟩
        · rintro (member | ⟨absent, rfl | member⟩)
          · exact .inl member
          · exact (absent isDetected).elim
          · exact .inr ⟨absent, member⟩
      · simp only [isDetected, not_false_eq_true, if_true, mem_addValue]
        constructor
        · rintro ((member | rfl) | ⟨absent, member⟩)
          · exact .inl member
          · exact .inr ⟨isDetected, .inl rfl⟩
          · exact .inr ⟨absent, .inr member⟩
        · rintro (member | ⟨absent, rfl | member⟩)
          · exact .inl (.inl member)
          · exact .inl (.inr rfl)
          · exact .inr ⟨absent, member⟩

/-- The selection that was saved, as the texts of its networks. -/
def savedSelection (request : NetworksRequest) : List String :=
  parsedSubnets normalizePrivateScanSubnet request.selectedSubnets

/-- What a reading finds of a save. -/
structure Saved (maxScanHosts : Nat) (existing : NetworkSettings) (connected : List LanInterface)
    (request : NetworksRequest) (settings : NetworkSettings) : Prop where
  custom : ∀ subnet, subnet ∈ settings.customSubnets ↔
    subnet ∉ connected.map (·.network.text) ∧ (subnet ∈ savedSelection request ∨
      subnet ∈ parsedSubnets (customScanSubnet maxScanHosts) (request.customSubnets.getD []))
  readable : ∀ subnet ∈ settings.customSubnets, ∃ network,
    customScanSubnet maxScanHosts subnet = .ok network ∧ network.text = subnet
  excluded : ∀ subnet,
    subnet ∈ parsedSubnets normalizePrivateScanSubnet settings.excludedDetectedSubnets ↔
      subnet ∉ savedSelection request ∧
        (if subnet ∈ connected.map (·.network.text) then
          ∃ network, normalizePrivateScanSubnet subnet = .ok network
        else subnet ∈
          parsedSubnets normalizePrivateScanSubnet existing.excludedDetectedSubnets)
  excludedCustom : ∀ subnet, subnet ∈ settings.excludedCustomSubnets ↔
    subnet ∈ settings.customSubnets ∧ subnet ∉ savedSelection request

theorem updateDiscoveryNetworks_saved {existing settings : NetworkSettings}
    {connected : List LanInterface} {request : NetworksRequest}
    (saved : updateDiscoveryNetworks maxScanHosts existing connected request = .ok settings) :
    Saved maxScanHosts existing connected request settings := by
  obtain ⟨selected, isSelected, saved⟩ := except_bind saved
  obtain ⟨requested, isRequested, saved⟩ := except_bind saved
  obtain rfl := Except.ok.inj saved
  obtain ⟨selection, scanned⟩ := normalizedSelection_ok isSelected
  have requestedIff := normalizedCustom_ok isRequested
  have custom (subnet : String) : subnet ∈ (selected.filter
        (· ∉ connected.map (·.network.text))).foldl addValue requested ↔
      subnet ∉ connected.map (·.network.text) ∧ (subnet ∈ selected ∨
        subnet ∈ parsedSubnets (customScanSubnet maxScanHosts)
          (request.customSubnets.getD [])) := by
    rw [mem_foldl_addValue, requestedIff, List.mem_filter, decide_eq_true_iff]
    cases request.customSubnets with
    | some values => simp only [Option.getD_some]; tauto
    | none =>
        have listed : subnet ∈ parsedSubnets (customScanSubnet maxScanHosts)
            (selected.filter (· ∉ connected.map (·.network.text))) →
              subnet ∈ selected := by
          rw [mem_parsedSubnets_of_readable fun value member => ?_]
          · exact fun member => (List.mem_filter.mp member).1
          · obtain ⟨isSelected, absent⟩ := List.mem_filter.mp member
            exact scanned value isSelected (of_decide_eq_true absent)
        simp only [Option.getD_none]
        have nothing : subnet ∉ parsedSubnets (customScanSubnet maxScanHosts) [] := by
          simp [parsedSubnets]
        tauto
  constructor
  · intro subnet
    rw [savedSelection, ← selection, custom]
  · intro subnet member
    obtain ⟨absent, isSelected | isCustom⟩ := (custom subnet).mp member
    · exact scanned subnet isSelected absent
    · obtain ⟨_, _, network, parsed, rfl⟩ := mem_parsedSubnets.mp isCustom
      exact ⟨network, custom_reread parsed, rfl⟩
  · intro subnet
    have priorText (value : String) (member : value ∈
        parsedSubnets normalizePrivateScanSubnet existing.excludedDetectedSubnets) :
        ∃ network : Ipv4Network, network.Valid ∧ network.text = value ∧
          normalizePrivateScanSubnet value = .ok network := by
      obtain ⟨_, _, network, parsed, rfl⟩ := mem_parsedSubnets.mp member
      exact ⟨network, (normalize_ok parsed).valid, rfl, (normalize_ok parsed).reread⟩
    rw [mem_parsedSubnets_of_texts, savedSelection, ← selection]
    · simp only [List.mem_mergeSort, List.mem_eraseDups, List.mem_append, List.mem_filter,
        decide_eq_true_iff]
      by_cases isDetected : subnet ∈ connected.map (·.network.text)
      · simp only [isDetected, not_true_eq_false, false_and, and_false, true_and, false_or,
          if_true]
      · simp only [isDetected, not_false_eq_true, true_and, false_and, or_false, if_false]
        constructor
        · exact fun excluded => ⟨excluded.1.2, excluded.1.1⟩
        · rintro ⟨notSelected, isPrior⟩
          obtain ⟨network, _, _, normalized⟩ := priorText subnet isPrior
          exact ⟨⟨isPrior, notSelected⟩, network, normalized⟩
    · intro value member
      simp only [List.mem_mergeSort, List.mem_eraseDups, List.mem_append, List.mem_filter,
        List.mem_map] at member
      rcases member with ⟨isPrior, _⟩ | ⟨⟨interface, _, rfl⟩, _⟩
      · obtain ⟨network, valid, isText, _⟩ := priorText value isPrior
        exact ⟨network, valid, isText⟩
      · exact ⟨interface.network, interface.valid, rfl⟩
  · intro subnet
    rw [List.mem_filter, decide_eq_true_iff, savedSelection, ← selection]

theorem Saved.parsedCustom {existing settings : NetworkSettings} {connected : List LanInterface}
    {request : NetworksRequest} (saved : Saved maxScanHosts existing connected request settings)
    (subnet : String) :
    subnet ∈ parsedSubnets (customScanSubnet maxScanHosts) settings.customSubnets ↔
      subnet ∈ settings.customSubnets :=
  mem_parsedSubnets_of_readable saved.readable subnet

theorem Saved.parsedExcludedCustom {existing settings : NetworkSettings}
    {connected : List LanInterface} {request : NetworksRequest}
    (saved : Saved maxScanHosts existing connected request settings) (subnet : String) :
    subnet ∈ parsedSubnets (customScanSubnet maxScanHosts) settings.excludedCustomSubnets ↔
      subnet ∈ settings.customSubnets ∧ subnet ∉ savedSelection request := by
  rw [mem_parsedSubnets_of_readable, saved.excludedCustom]
  exact fun value member => saved.readable value ((saved.excludedCustom value).mp member).1

/-- What was listed and left out is never selected, and what was selected is selected, exactly
if every network that was left out can be excluded while it is detected. -/
theorem deselected_stays_iff {existing settings : NetworkSettings} {lan : Lan}
    {request : NetworksRequest}
    (isSaved : updateDiscoveryNetworks maxScanHosts existing lan.connected request =
      .ok settings) :
    ((∀ later : Lan, ∀ subnet, subnet ∈ lan.connected.map (·.network.text) ∨
          subnet ∈ settings.customSubnets → subnet ∉ savedSelection request →
        subnet ∉ selectedDiscoverySubnets maxScanHosts settings later) ∧
      ∀ subnet, subnet ∈ selectedDiscoverySubnets maxScanHosts settings lan ↔
        subnet ∈ savedSelection request) ↔
      (∀ interface ∈ lan.connected, interface.network.text ∉ savedSelection request →
        interface.network.isPrivate = true) ∧
      ∀ subnet ∈ parsedSubnets (customScanSubnet maxScanHosts) (request.customSubnets.getD []),
        subnet ∉ lan.connected.map (·.network.text) → subnet ∉ savedSelection request →
        subnet ∈ parsedSubnets normalizePrivateScanSubnet existing.excludedDetectedSubnets := by
  have saved := updateDiscoveryNetworks_saved isSaved
  constructor
  · rintro ⟨staysOut, _⟩
    constructor
    · intro interface member leftOut
      have connected := List.mem_map_of_mem (f := (·.network.text)) member
      have notSelected := staysOut lan _ (.inl connected) leftOut
      rw [mem_selectedDiscoverySubnets, not_or] at notSelected
      have excluded := (saved.excluded _).mp
        (not_not.mp fun kept => notSelected.1 ⟨connected, kept⟩)
      rw [if_pos connected] at excluded
      obtain ⟨_, network, normalized⟩ := excluded
      by_contra isPublic
      rw [normalize_text_public interface.valid (Bool.not_eq_true _ ▸ isPublic)] at normalized
      cases normalized
    · intro subnet listed absent leftOut
      obtain ⟨_, _, network, parsed, isText⟩ := mem_parsedSubnets.mp listed
      -- The subnet is the network of an interface that is connected later.
      let later : Lan := ⟨[⟨"eth1", network.address, network,
        (normalize_ok (custom_ok_iff.mp parsed).1).valid, true⟩], fun _ => none⟩
      have connected : subnet ∈ later.connected.map (·.network.text) := by
        simp [later, isText]
      have notSelected := staysOut later subnet
        (.inr ((saved.custom subnet).mpr ⟨absent, .inr listed⟩)) leftOut
      rw [mem_selectedDiscoverySubnets, not_or] at notSelected
      have excluded := (saved.excluded subnet).mp
        (not_not.mp fun kept => notSelected.1 ⟨connected, kept⟩)
      rw [if_neg absent] at excluded
      exact excluded.2
  · rintro ⟨allPrivate, excludedBefore⟩
    have staysOut (later : Lan) (subnet : String)
        (listed : subnet ∈ lan.connected.map (·.network.text) ∨ subnet ∈ settings.customSubnets)
        (leftOut : subnet ∉ savedSelection request) :
        subnet ∉ selectedDiscoverySubnets maxScanHosts settings later := by
      rw [mem_selectedDiscoverySubnets]
      rintro (⟨_, kept⟩ | ⟨_, isCustom, kept⟩)
      · apply kept
        rw [saved.excluded]
        refine ⟨leftOut, ?_⟩
        by_cases connected : subnet ∈ lan.connected.map (·.network.text)
        · rw [if_pos connected]
          obtain ⟨interface, member, rfl⟩ := List.mem_map.mp connected
          exact ⟨_, normalize_text interface.valid (allPrivate interface member leftOut)⟩
        · rw [if_neg connected]
          obtain ⟨_, isSelected | isRequested⟩ :=
            (saved.custom subnet).mp (listed.resolve_left connected)
          · exact (leftOut isSelected).elim
          · exact excludedBefore subnet isRequested connected leftOut
      · rw [saved.parsedExcludedCustom] at kept
        exact kept ⟨(saved.parsedCustom subnet).mp isCustom, leftOut⟩
    refine ⟨staysOut, ?_⟩
    intro subnet
    constructor
    · intro isSelected
      by_contra leftOut
      have listed : subnet ∈ lan.connected.map (·.network.text) ∨
          subnet ∈ settings.customSubnets := by
        rcases mem_selectedDiscoverySubnets.mp isSelected with
          ⟨connected, _⟩ | ⟨_, isCustom, _⟩
        · exact .inl connected
        · exact .inr ((saved.parsedCustom subnet).mp isCustom)
      exact staysOut lan subnet listed leftOut isSelected
    · intro isSelected
      rw [mem_selectedDiscoverySubnets, saved.excluded, saved.parsedCustom,
        saved.parsedExcludedCustom]
      by_cases connected : subnet ∈ lan.connected.map (·.network.text)
      · exact .inl ⟨connected, fun excluded => excluded.1 isSelected⟩
      · exact .inr ⟨connected, (saved.custom subnet).mpr ⟨connected, .inl isSelected⟩,
          fun excluded => excluded.2 isSelected⟩

end

/-! A home network, and one that is reached through a router until it is connected. -/

def homeInterface : LanInterface :=
  ⟨"eth0", 3232245762, ⟨3232245760, 24⟩, ⟨by decide, by decide⟩, true⟩

def routedInterface : LanInterface :=
  ⟨"eth1", 167823874, ⟨167823872, 24⟩, ⟨by decide, by decide⟩, true⟩

/-- The address is private to `ipaddress`, its network is in none of the ranges to scan. -/
def benchmarkInterface : LanInterface :=
  ⟨"eth2", 3323068418, ⟨3323068416, 24⟩, ⟨by decide, by decide⟩, true⟩

def homeLan : Lan := ⟨[homeInterface], fun _ => none⟩

def withRoutedSubnet : NetworksRequest where
  selectedSubnets := ["192.168.40.0/24"]
  customSubnets := some ["10.0.202.0/24"]

theorem home_deselection_stays :
    ∃ settings, updateDiscoveryNetworks 1024 {} homeLan.connected {} = .ok settings ∧
      ∀ later, "192.168.40.0/24" ∉ selectedDiscoverySubnets 1024 settings later := by
  have isSaved : updateDiscoveryNetworks 1024 {} homeLan.connected {} =
      .ok ⟨[], ["192.168.40.0/24"], []⟩ := by decide +kernel
  refine ⟨_, isSaved, ?_⟩
  have stays := (deselected_stays_iff isSaved).mpr ⟨by decide +kernel, by decide +kernel⟩
  exact fun later => stays.1 later _ (.inl (by decide +kernel)) (by decide +kernel)

/-- A custom subnet that is left out is selected once it is connected; a connected network
outside of the private ranges stays selected. -/
theorem deselected_subnets_return :
    (∃ settings, updateDiscoveryNetworks 1024 {} [homeInterface] withRoutedSubnet =
        .ok settings ∧
      "10.0.202.0/24" ∈ settings.customSubnets ∧
      "10.0.202.0/24" ∉ savedSelection withRoutedSubnet ∧
      "10.0.202.0/24" ∈ selectedDiscoverySubnets 1024 settings
        ⟨[homeInterface, routedInterface], fun _ => none⟩) ∧
      ∃ settings, updateDiscoveryNetworks 1024 {} [homeInterface, benchmarkInterface]
          withRoutedSubnet = .ok settings ∧
        "198.18.0.0/24" ∉ savedSelection withRoutedSubnet ∧
        "198.18.0.0/24" ∈ selectedDiscoverySubnets 1024 settings
          ⟨[homeInterface, benchmarkInterface], fun _ => none⟩ := by
  refine ⟨⟨⟨["10.0.202.0/24"], [], ["10.0.202.0/24"]⟩, ?_⟩,
    ⟨["10.0.202.0/24"], ["198.18.0.0/24"], ["10.0.202.0/24"]⟩, ?_⟩
  · decide +kernel
  · decide +kernel

end CamAdmiral
