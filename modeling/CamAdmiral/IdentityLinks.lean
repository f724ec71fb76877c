import CamAdmiral.IdentityHistory
import CamAdmiral.TextLaws

/-!
The link of a camera to a physical device. A link is compared by the ONVIF endpoint where both
sides have one and by the MAC otherwise, so what a link is accepted for changes with what it
already holds; the keys it holds do not.
-/

namespace CamAdmiral

/-- What one call leaves of a link's endpoint and MAC. -/
structure LinkStep (before after : Option String × Option String) : Prop where
  endpoint : ∀ endpoint, before.1 = some endpoint → after.1 = some endpoint
  mac : before.1 = none → after.2 = before.2
  macStays : before.2.isSome → after.2.isSome

/-- What any number of calls leaves of them. -/
structure LinkKept (before after : Option String × Option String) : Prop where
  endpoint : ∀ endpoint, before.1 = some endpoint → after.1 = some endpoint
  mac : after.1 = none → after.2 = before.2
  macStays : before.2.isSome → after.2.isSome

theorem LinkStep.refl (link : Option String × Option String) : LinkStep link link :=
  ⟨fun _ same => same, fun _ => rfl, fun known => known⟩

theorem LinkKept.refl (link : Option String × Option String) : LinkKept link link :=
  ⟨fun _ same => same, fun _ => rfl, fun known => known⟩

theorem LinkKept.step {first second third : Option String × Option String}
    (kept : LinkKept first second) (step : LinkStep second third) : LinkKept first third := by
  refine ⟨fun endpoint isFirst => step.endpoint endpoint (kept.endpoint endpoint isFirst), ?_,
    fun known => step.macStays (kept.macStays known)⟩
  intro absent
  -- An endpoint that is missing now was missing before.
  have absentBefore : second.1 = none := by
    cases known : second.1 with
    | none => rfl
    | some endpoint =>
        rw [step.endpoint endpoint known] at absent
        cases absent
  rw [step.mac absentBefore, kept.mac absentBefore]

section
variable [TextCase]

/-- The endpoint and the MAC of the stored link, as `_candidate_stable_identity` reads them. -/
def IdentityStore.linkIdentity (store : IdentityStore) (cameraUuid : String) :
    Option (Option String × Option String) :=
  (store.links.lookup cameraUuid).map fun saved => candidateStableIdentity saved.toSighting

/-! One call. -/

theorem normalized_normalized [LawfulTextCase] (value : Option String) :
    normalized (some (normalized value)) = normalized value := by
  simp only [normalized, textOf, Option.getD_some]
  rw [LawfulTextCase.strip_lower _ (strip_strip _), LawfulTextCase.lower_lower]

/-- A key that was read once reads the same again. -/
theorem reread_key [LawfulTextCase] {value : Option String} {key : String}
    (isKey : orNone (normalized value) = some key) : orNone (normalized (some key)) = some key := by
  obtain ⟨rfl, nonempty⟩ := orNone_eq_some.mp isKey
  rw [normalized_normalized]
  exact isKey

theorem withSavedKeys_identity [LawfulTextCase] (saved candidate : Device) :
    candidateStableIdentity (withSavedKeys saved candidate).toSighting =
      ((candidateStableIdentity candidate.toSighting).1 <|>
          (candidateStableIdentity saved.toSighting).1,
        (candidateStableIdentity candidate.toSighting).2 <|>
          (candidateStableIdentity saved.toSighting).2) := by
  apply Prod.ext
  · cases known : (candidateStableIdentity candidate.toSighting).1 with
    | some endpoint =>
        have unchanged : (withSavedKeys saved candidate).onvif = candidate.onvif := by
          simp [withSavedKeys, known]
        rw [candidateStableIdentity, unchanged]
        exact known
    | none =>
        cases old : (candidateStableIdentity saved.toSighting).1 with
        | some endpoint =>
            have carried : (withSavedKeys saved candidate).onvif.bind Onvif.endpointReference =
                some endpoint := by
              simp [withSavedKeys, known, old]
            rw [candidateStableIdentity, carried]
            exact reread_key old
        | none =>
            have unchanged : (withSavedKeys saved candidate).onvif = candidate.onvif := by
              simp [withSavedKeys, old]
            rw [candidateStableIdentity, unchanged]
            exact known
  · cases known : (candidateStableIdentity candidate.toSighting).2 with
    | some mac =>
        have unchanged : (withSavedKeys saved candidate).mac = candidate.mac := by
          simp [withSavedKeys, known]
        rw [candidateStableIdentity, unchanged]
        exact known
    | none =>
        cases old : (candidateStableIdentity saved.toSighting).2 with
        | some mac =>
            have carried : (withSavedKeys saved candidate).mac = some mac := by
              simp [withSavedKeys, known, old]
            rw [candidateStableIdentity, carried]
            exact reread_key old
        | none =>
            have unchanged : (withSavedKeys saved candidate).mac = candidate.mac := by
              simp [withSavedKeys, old]
            rw [candidateStableIdentity, unchanged]
            exact known

/-- The endpoints decide where both are known, the MACs elsewhere. -/
theorem sameIdentity_keys {saved candidate : Device}
    (same : sameIdentity saved.toSighting candidate.toSighting = true) :
    (∃ endpoint, (candidateStableIdentity saved.toSighting).1 = some endpoint ∧
        (candidateStableIdentity candidate.toSighting).1 = some endpoint) ∨
      (((candidateStableIdentity saved.toSighting).1 = none ∨
          (candidateStableIdentity candidate.toSighting).1 = none) ∧
        ∃ mac, (candidateStableIdentity saved.toSighting).2 = some mac ∧
          (candidateStableIdentity candidate.toSighting).2 = some mac) := by
  simp only [sameIdentity] at same
  simp only [candidateStableIdentity]
  generalize normalized (saved.onvif.bind Onvif.endpointReference) = endpoint at *
  generalize normalized (candidate.onvif.bind Onvif.endpointReference) = newEndpoint at *
  generalize normalized saved.mac = mac at *
  generalize normalized candidate.mac = newMac at *
  by_cases both : endpoint ≠ "" ∧ newEndpoint ≠ ""
  · simp only [both.1, both.2, ne_eq, not_false_eq_true, decide_true, Bool.and_self, if_true,
      decide_eq_true_eq] at same
    subst same
    exact .inl ⟨endpoint, orNone_eq_some.mpr ⟨rfl, both.1⟩, orNone_eq_some.mpr ⟨rfl, both.1⟩⟩
  · have notBoth : (decide (endpoint ≠ "") && decide (newEndpoint ≠ "")) = false := by
      rw [← Bool.not_eq_true, Bool.and_eq_true, decide_eq_true_eq, decide_eq_true_eq]
      exact both
    rw [notBoth, if_neg Bool.false_ne_true] at same
    simp only [Bool.and_eq_true, decide_eq_true_eq] at same
    obtain ⟨⟨known, _⟩, rfl⟩ := same
    refine .inr ⟨?_, mac, orNone_eq_some.mpr ⟨rfl, known⟩, orNone_eq_some.mpr ⟨rfl, known⟩⟩
    by_cases missing : endpoint = ""
    · exact .inl (by simp [orNone, missing])
    · exact .inr (by simpa [orNone, missing] using both)

/-- An accepted candidate changes neither the endpoint nor, without one, the MAC. -/
theorem linkStep_withSavedKeys [LawfulTextCase] {saved candidate : Device}
    (same : sameIdentity saved.toSighting candidate.toSighting = true) :
    LinkStep (candidateStableIdentity saved.toSighting)
      (candidateStableIdentity (withSavedKeys saved candidate).toSighting) := by
  rw [withSavedKeys_identity]
  obtain ⟨endpoint, known, newKnown⟩ | ⟨missing, mac, known, newKnown⟩ := sameIdentity_keys same
  · refine ⟨fun other isOther => ?_, fun absent => ?_, fun isMac => ?_⟩
    · rw [known, Option.some.injEq] at isOther
      simp [newKnown, isOther]
    · rw [known] at absent
      cases absent
    · cases (candidateStableIdentity candidate.toSighting).2 with
      | some _ => rfl
      | none => simpa using isMac
  · refine ⟨fun other isOther => ?_, fun _ => ?_, fun _ => ?_⟩
    · rcases missing with absent | absent
      · rw [absent] at isOther
        cases isOther
      · simp [absent, isOther]
    · simp [newKnown, known]
    · simp [newKnown]

/-- What a binding that commits stores. -/
theorem bindCameraIdentity_link {store next : IdentityStore} {cameraUuid : String}
    {candidate : Device} {timestamp : Nat} {fresh : String}
    (done : store.bindCameraIdentity cameraUuid candidate timestamp fresh = .ok next) :
    ∃ value, next.links = setKey store.links cameraUuid value ∧
      ∀ saved, store.links.lookup cameraUuid = some saved →
        sameIdentity saved.toSighting candidate.toSighting = true ∧
          value = withSavedKeys saved candidate := by
  simp only [IdentityStore.bindCameraIdentity, bind, Except.bind, pure, Except.pure, throw,
    throwThe, MonadExceptOf.throw] at done
  cases isSaved : store.links.lookup cameraUuid with
  | none =>
      refine ⟨candidate, ?_, by simp⟩
      simp only [isSaved] at done
      split at done
      · cases done
      split at done
      · cases done
      split at done
      · split at done
        · cases done
        · obtain rfl := Except.ok.inj done
          rfl
      · obtain rfl := Except.ok.inj done
        rfl
  | some saved =>
      simp only [isSaved] at done
      cases same : sameIdentity saved.toSighting candidate.toSighting with
      | false =>
          simp only [same, Bool.false_eq_true, if_false] at done
          split at done
          · cases done
          split at done
          · cases done
          split at done
          · split at done <;> cases done
          · cases done
      | true =>
          refine ⟨withSavedKeys saved candidate, ?_, ?_⟩
          · simp only [same, if_true] at done
            split at done
            · cases done
            split at done
            · cases done
            split at done
            · split at done
              · cases done
              · obtain rfl := Except.ok.inj done
                rfl
            · obtain rfl := Except.ok.inj done
              rfl
          · intro other isOther
            obtain rfl := Option.some.inj isOther
            exact ⟨same, rfl⟩

theorem observeListed_links {advanceExisting : List String} {timestamp : Nat}
    {uuids : Nat → String} (observations : List (String × Device)) (store : IdentityStore)
    (initialized : List String) (position : Nat) :
    (observeListed advanceExisting timestamp uuids store initialized observations
      position).links = store.links := by
  induction observations generalizing store initialized position with
  | nil => rfl
  | cons observation rest ih =>
      obtain ⟨cameraUuid, candidate⟩ := observation
      simp only [observeListed]
      split
      · exact ih store initialized (position + 1)
      · exact ih _ _ (position + 1)

section
variable [UrlText]

/-- Only a binding changes links, and only that of its camera. -/
theorem linkStep_call [LawfulTextCase] (store : IdentityStore) (call : IdentityCall)
    {cameraUuid : String} {link : Option String × Option String}
    (linked : store.linkIdentity cameraUuid = some link) :
    ∃ next, (store.call call).linkIdentity cameraUuid = some next ∧ LinkStep link next := by
  have unchanged {next : IdentityStore} (same : next.links = store.links) :
      ∃ later, next.linkIdentity cameraUuid = some later ∧ LinkStep link later := by
    refine ⟨link, ?_, .refl link⟩
    rw [IdentityStore.linkIdentity, same]
    exact linked
  obtain ⟨action, timestamp, uuids, periodUuids⟩ := call
  cases action with
  | adopt candidate request =>
      simp only [IdentityStore.call]
      cases done : store.adoptCandidate candidate request timestamp uuids (periodUuids 0) with
      | error _ => exact unchanged rfl
      | ok next =>
          obtain ⟨repository, rfl | rfl⟩ := adoptCandidate_cases done
          · exact unchanged rfl
          · exact unchanged rfl
  | observeCamera observedUuid candidate =>
      simp only [IdentityStore.call, IdentityStore.observeCameraIdentity]
      cases store.repository.camera observedUuid with
      | none => exact unchanged rfl
      | some _ => exact unchanged rfl
  | observeInventory observations advanceExisting =>
      exact unchanged (observeListed_links observations store _ 0)
  | bind boundUuid candidate =>
      simp only [IdentityStore.call]
      cases done : store.bindCameraIdentity boundUuid candidate timestamp (periodUuids 0) with
      | error _ => exact unchanged rfl
      | ok next =>
          obtain ⟨value, links, accepted⟩ := bindCameraIdentity_link done
          by_cases isBound : cameraUuid = boundUuid
          · subst isBound
            obtain ⟨saved, isSaved, rfl⟩ := Option.map_eq_some_iff.mp linked
            obtain ⟨same, rfl⟩ := accepted saved isSaved
            refine ⟨_, ?_, linkStep_withSavedKeys same⟩
            simp only [IdentityStore.linkIdentity, links, lookup_setKey, if_true,
              Option.map_some]
          · refine ⟨link, ?_, .refl link⟩
            simp only [IdentityStore.linkIdentity, links, lookup_setKey, if_neg isBound]
            exact linked

/-! Runs. -/

theorem identity_link_keeps_device [LawfulTextCase] {start store : IdentityStore}
    (run : Reaches (fun state call next => next = state.call call) (fun _ _ => True) start store)
    {cameraUuid : String} {link : Option String × Option String}
    (linked : start.linkIdentity cameraUuid = some link) :
    (∃ later, store.linkIdentity cameraUuid = some later ∧ LinkKept link later ∧
        ∀ call, ∃ next, (store.call call).linkIdentity cameraUuid = some next ∧
          LinkStep later next) ∧
      ∀ candidate timestamp uuids periodUuids problem,
        store.bindCameraIdentity cameraUuid candidate timestamp (periodUuids 0) =
            .error problem →
          store.call ⟨.bind cameraUuid candidate, timestamp, uuids, periodUuids⟩ = store := by
  have kept : ∃ later, store.linkIdentity cameraUuid = some later ∧ LinkKept link later := by
    apply run.invariant (fun state => ∃ later, state.linkIdentity cameraUuid = some later ∧
      LinkKept link later) ⟨link, linked, .refl link⟩
    rintro state call _ ⟨later, isLater, kept⟩ _ rfl
    obtain ⟨next, isNext, step⟩ := linkStep_call state call isLater
    exact ⟨next, isNext, kept.step step⟩
  obtain ⟨later, isLater, laterKept⟩ := kept
  refine ⟨⟨later, isLater, laterKept, fun call => linkStep_call store call isLater⟩, ?_⟩
  intro candidate timestamp uuids periodUuids problem raised
  simp only [IdentityStore.call, raised]

end

end

/-! The front door, bound by its MAC first and with its endpoint later. -/

def frontDoorBound : IdentityStore :=
  let _ := asciiCase
  let _ := plainUrls
  [⟨.adopt (frontDoorSighting "02:00:00:00:00:05") frontDoor, 1, uuidSupply 'a', uuidSupply 'p'⟩,
    ⟨.bind "a" (frontDoorSighting "02:00:00:00:00:05"), 2, uuidSupply 'b', uuidSupply 'q'⟩].foldl
    IdentityStore.call {}

def frontDoorEndpoint : Device :=
  { frontDoorSighting "02:00:00:00:00:05 " with
    onvif := some { endpointReference := some "URN:front" } }

theorem frontDoorBound_keeps_device :
    let _ := asciiCase
    let _ := plainUrls
    let later := [⟨.bind "a" frontDoorEndpoint, 3, uuidSupply 'c', uuidSupply 'r'⟩,
      ⟨.bind "a" (frontDoorSighting "02:00:00:00:00:06"), 4, uuidSupply 'd',
        uuidSupply 's'⟩].foldl IdentityStore.call frontDoorBound
    frontDoorBound.linkIdentity "a" = some (none, some "02:00:00:00:00:05") ∧
      later.linkIdentity "a" = some (some "urn:front", some "02:00:00:00:00:05") ∧
      ∃ link, later.linkIdentity "a" = some link ∧
        LinkKept (none, some "02:00:00:00:00:05") link := by
  let _ := asciiCase
  let _ := plainUrls
  have lawful : LawfulTextCase := asciiCase_lawful
  have linked : frontDoorBound.linkIdentity "a" = some (none, some "02:00:00:00:00:05") := by
    decide +kernel
  refine ⟨linked, by decide +kernel, ?_⟩
  obtain ⟨⟨link, isLink, kept, _⟩, _⟩ :=
    identity_link_keeps_device (Reaches.of_actions frontDoorBound _) linked
  exact ⟨link, isLink, kept⟩

end CamAdmiral
