import CamAdmiral.Mapping
import CamAdmiral.PartialFold
import CamAdmiral.RecoveryCore
import CamAdmiral.StorageIntegrity

/-!
What the planning of a recovery hands to the attempt: plans for different adopted cameras,
whose updates and previous sources belong to streams of the camera.
-/

namespace CamAdmiral

/-! The streams of a camera. -/

theorem mem_cameraStreams {repository : Repository} {cameraUuid : String}
    {stream : StreamRow} {profile : ProfileRow} :
    (stream, profile) ∈ cameraStreams repository cameraUuid ↔
      stream ∈ repository.streams ∧ stream.cameraUuid = cameraUuid ∧
        rowAt ProfileRow.profileUuid repository.profiles stream.profileUuid = some profile := by
  simp only [cameraStreams, List.mem_insertionSort, List.mem_filterMap, List.mem_filter,
    decide_eq_true_eq, Option.map_eq_some_iff, Prod.mk.injEq]
  constructor
  · rintro ⟨_, ⟨member, owned⟩, _, found, rfl, rfl⟩
    exact ⟨member, owned, found⟩
  · rintro ⟨member, owned, found⟩
    exact ⟨stream, ⟨member, owned⟩, profile, found, rfl, rfl⟩

theorem Schema.cameraStreams_profile {repository : Repository} (schema : Schema repository)
    {cameraUuid : String} {pair : AdoptedStream}
    (member : pair ∈ cameraStreams repository cameraUuid) :
    pair.2 ∈ repository.profiles ∧ pair.2.cameraUuid = cameraUuid := by
  obtain ⟨isStream, owned, found⟩ := mem_cameraStreams.mp member
  obtain ⟨isProfile, sameUuid⟩ := rowAt_some found
  obtain ⟨owner, isOwner, ownerUuid, ownerCamera⟩ := schema.streamProfile pair.1 isStream
  have same := schema.profileIds.eq isOwner isProfile (ownerUuid.trans sameUuid.symm)
  exact ⟨isProfile, by rw [← same, ownerCamera, owned]⟩

/-- A token names one profile of the camera. -/
theorem Schema.profile_unique {repository : Repository} (schema : Schema repository)
    {first second : ProfileRow} (firstMember : first ∈ repository.profiles)
    (secondMember : second ∈ repository.profiles)
    (sameCamera : first.cameraUuid = second.cameraUuid)
    (sameToken : first.profileToken = second.profileToken) : first = second :=
  schema.profileKeys.eq firstMember secondMember (Prod.ext sameCamera sameToken)

/-! What a plan holds. -/

/-- The previous sources are the URIs of the camera's streams, and the updates belong to its
streams. -/
structure Planned (repository : Repository) (plan : RecoveryPlan) : Prop where
  previous : ∀ token uri, plan.previousSources.lookup token = some uri →
    ∃ pair ∈ cameraStreams repository plan.cameraUuid,
      pair.2.profileToken = token ∧ pair.2.givenUri = some uri
  unlisted : ∀ pair ∈ cameraStreams repository plan.cameraUuid,
    plan.previousSources.lookup pair.2.profileToken = none → pair.2.givenUri = none
  updates : ∀ item ∈ plan.updates, ∃ pair ∈ cameraStreams repository plan.cameraUuid,
    pair.2.profileToken = item.1 ∧ (pair.2.givenUri = none → item.2 ≠ "")

/-- A verdict on the camera. -/
def Concerns (repository : Repository) (camera : CameraRow) : Verdict → Prop
  | .skipped => True
  | .rejected result => result.cameraUuid = camera.cameraUuid
  | .planned plan => plan.cameraUuid = camera.cameraUuid ∧ Planned repository plan

section
variable [TextCase] [UrlText]

omit [TextCase] in
theorem proposeUpdates_streams {world : RecoveryWorld} {candidate : Device}
    {streams : List AdoptedStream} {username password : String}
    {updates : List (String × String)}
    (proposed : proposeUpdates world candidate streams username password = .updates updates) :
    ∀ item ∈ updates, ∃ pair ∈ streams,
      pair.2.profileToken = item.1 ∧ (pair.2.givenUri = none → item.2 ≠ "") := by
  intro item member
  simp only [proposeUpdates] at proposed
  split at proposed
  · simp only [proposeOnvif] at proposed
    split at proposed
    · cases proposed
    · cases proposed
    split at proposed
    · cases proposed
    split at proposed
    · cases proposed
    · obtain rfl := Proposed.updates.inj proposed
      obtain ⟨token, isToken, found⟩ := List.mem_filterMap.mp member
      obtain ⟨uri, isUri, rfl⟩ := Option.map_eq_some_iff.mp found
      obtain ⟨pair, isPair, rfl⟩ := List.mem_map.mp isToken
      have discovered := List.mem_filter.mp (List.mem_reverse.mp (mem_of_lookup isUri))
      refine ⟨pair, isPair, rfl, fun _ => ?_⟩
      simpa using (Bool.and_eq_true_iff.mp discovered.2).2
  split at proposed
  · simp only [proposeRtsp] at proposed
    split at proposed
    · rename_i moved isMoved
      obtain rfl := Proposed.updates.inj proposed
      obtain ⟨source, isSource, replaced⟩ := mem_mapM isMoved member
      obtain ⟨pair, isPair, given⟩ := List.mem_filterMap.mp isSource
      obtain ⟨uri, isUri, rfl⟩ := Option.map_eq_some_iff.mp given
      obtain ⟨_, _, rfl⟩ := Option.map_eq_some_iff.mp replaced
      refine ⟨pair, isPair, rfl, fun absent => ?_⟩
      rw [absent] at isUri
      cases isUri
    · cases proposed
  · cases proposed

omit [TextCase] in
theorem planMove_planned {repository : Repository} {world : RecoveryWorld}
    {camera : CameraRow} {candidate : Device} {previous : String} {verdict : Verdict}
    (done : planMove repository world camera candidate previous = some verdict) :
    Concerns repository camera verdict := by
  simp only [planMove] at done
  split at done
  · obtain rfl := Option.some.inj done
    trivial
  split at done
  · cases done
  · obtain rfl := Option.some.inj done
    rfl
  rename_i updates proposed
  split at done
  · obtain rfl := Option.some.inj done
    rfl
  · obtain rfl := Option.some.inj done
    refine ⟨rfl, ?_, ?_, proposeUpdates_streams proposed⟩
    · intro token uri found
      obtain ⟨pair, isPair, given⟩ := List.mem_filterMap.mp (mem_of_lookup found)
      obtain ⟨other, isUri, same⟩ := Option.map_eq_some_iff.mp given
      simp only [Prod.mk.injEq] at same
      exact ⟨pair, isPair, same.1, by rw [isUri, same.2]⟩
    · intro pair isPair absent
      cases given : pair.2.givenUri with
      | none => rfl
      | some uri =>
          have listed := List.lookup_eq_none_iff.mp absent (pair.2.profileToken, uri)
            (List.mem_filterMap.mpr ⟨pair, isPair, by rw [given]; rfl⟩)
          simp at listed

theorem assess_planned {repository : Repository} {world : RecoveryWorld}
    {inventory : List Device} {links : List (String × Device)} {camera : CameraRow}
    {verdict : Verdict}
    (done : assess repository world inventory links camera = some verdict) :
    Concerns repository camera verdict := by
  have skipped (isSkipped : some Verdict.skipped = some verdict) :
      Concerns repository camera verdict := by
    obtain rfl := Option.some.inj isSkipped
    trivial
  simp only [assess] at done
  split at done
  · exact skipped done
  split at done
  · exact skipped done
  split at done
  · exact skipped done
  split at done
  · split at done
    · exact skipped done
    · exact planMove_planned done
  · exact skipped done

/-- The verdicts on the cameras: every plan is for a camera of its own, and no other verdict
concerns that camera. -/
structure Assessed (repository : Repository) (cameras : List CameraRow)
    (verdicts : List Verdict) : Prop where
  planned : ∀ plan ∈ plansOf verdicts, Planned repository plan
  plans : ((plansOf verdicts).map (·.cameraUuid)).Sublist (cameras.map (·.cameraUuid))
  rejections : ∀ result ∈ rejectionsOf verdicts, ∃ camera ∈ cameras,
    camera.cameraUuid = result.cameraUuid
  apart : ∀ plan ∈ plansOf verdicts, ∀ result ∈ rejectionsOf verdicts,
    result.cameraUuid ≠ plan.cameraUuid

theorem assessCameras_assessed {repository : Repository} {world : RecoveryWorld}
    {inventory : List Device} {links : List (String × Device)} {cameras : List CameraRow}
    {verdicts : List Verdict} (distinct : Unique CameraRow.cameraUuid cameras)
    (done : assessCameras repository world inventory links cameras = some verdicts) :
    Assessed repository cameras verdicts := by
  induction cameras generalizing verdicts with
  | nil =>
      obtain rfl : [] = verdicts := by simpa [assessCameras] using done
      exact ⟨by simp [plansOf], by simp [plansOf], by simp [rejectionsOf], by simp [plansOf]⟩
  | cons camera rest ih =>
      simp only [assessCameras, Option.bind_eq_bind, Option.bind_eq_some_iff,
        Option.some.injEq] at done
      obtain ⟨verdict, isVerdict, later, isLater, rfl⟩ := done
      rw [Unique, List.map_cons, List.nodup_cons] at distinct
      have assessed := ih distinct.2 isLater
      have concerns := assess_planned isVerdict
      have foreign {cameraUuid : String}
          (listed : ∃ other ∈ rest, other.cameraUuid = cameraUuid) :
          cameraUuid ≠ camera.cameraUuid := by
        rintro rfl
        obtain ⟨other, member, same⟩ := listed
        exact distinct.1 (same ▸ List.mem_map_of_mem member)
      have planForeign {plan : RecoveryPlan} (member : plan ∈ plansOf later) :
          plan.cameraUuid ≠ camera.cameraUuid := by
        obtain ⟨other, isOther, same⟩ :=
          List.mem_map.mp (assessed.plans.subset (List.mem_map_of_mem member))
        exact foreign ⟨other, isOther, same⟩
      have widened {result : RecoveryResult} (member : result ∈ rejectionsOf later) :
          ∃ other ∈ camera :: rest, other.cameraUuid = result.cameraUuid := by
        obtain ⟨other, isOther, same⟩ := assessed.rejections result member
        exact ⟨other, List.mem_cons_of_mem _ isOther, same⟩
      cases verdict with
      | skipped =>
          exact ⟨assessed.planned, assessed.plans.cons _, fun _ member => widened member,
            assessed.apart⟩
      | rejected result =>
          have isCamera : result.cameraUuid = camera.cameraUuid := concerns
          refine ⟨assessed.planned, assessed.plans.cons _, ?_, ?_⟩
          · intro other member
            rcases List.mem_cons.mp member with rfl | isLater
            · exact ⟨camera, List.mem_cons_self, isCamera.symm⟩
            · exact widened isLater
          · intro plan isPlan other member
            rcases List.mem_cons.mp member with rfl | isLater
            · rw [isCamera]
              exact Ne.symm (planForeign isPlan)
            · exact assessed.apart plan isPlan other isLater
      | planned plan =>
          have isCamera : plan.cameraUuid = camera.cameraUuid := concerns.1
          refine ⟨?_, ?_, fun _ member => widened member, ?_⟩
          · intro other member
            rcases List.mem_cons.mp member with rfl | isLater
            · exact concerns.2
            · exact assessed.planned other isLater
          · show ((plan :: plansOf later).map (·.cameraUuid)).Sublist _
            rw [List.map_cons, isCamera]
            exact assessed.plans.cons_cons _
          · intro other isPlan result member
            rcases List.mem_cons.mp isPlan with rfl | isLater
            · rw [isCamera]
              exact foreign (assessed.rejections result member)
            · exact assessed.apart other isLater result member

end

end CamAdmiral
