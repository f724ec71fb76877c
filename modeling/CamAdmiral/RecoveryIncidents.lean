import CamAdmiral.AddressIncidents
import CamAdmiral.RecoveryAtomicity
import Mathlib.Data.Nat.Pairing

/-!
When the address incidents of a camera are closed. An attempt writes its incidents, the new
sources and the resolutions one after the other and may stop between any two writes; the
next call plans nothing for a camera that is at its address. An incident is therefore open
exactly while the camera's last attempt has not come to its end.
-/

namespace CamAdmiral

/-- The store, and the cameras whose last recovery attempt has begun and not ended. -/
structure RecoverySystem where
  repository : Repository := {}
  unfinished : List String := []

/-- A call of `recover_inventory_addresses`; the process may stop after so many writes of its
attempt. -/
structure RecoveryCall where
  world : RecoveryWorld
  devices : List Device
  links : List (String × Device)
  fault : Option RecoveryStep
  timestamp : Nat
  uuids : Nat → Nat → String
  stop : Option Nat

inductive RecoveryAction
  | operation (call : RepositoryCall)
  | recover (call : RecoveryCall)

def began (unfinished : List String) (cameraUuid : String) : List String :=
  if cameraUuid ∈ unfinished then unfinished else unfinished ++ [cameraUuid]

section
variable [TextCase] [UrlText]

/-! The states between the writes of an attempt. -/

def updateTrace (fault : Option RecoveryStep) (timestamp : Nat) (uuids : Nat → String) :
    RecoverySystem → List RecoveryPlan → Nat → List RecoverySystem
  | _, [], _ => []
  | system, plan :: rest, position =>
      if fault = some (.openIncident plan.cameraUuid) then
        []
      else
        let opened : RecoverySystem := {
          repository := (openAddressIncident system.repository plan.cameraUuid timestamp
            (uuids position)).1
          unfinished := began system.unfinished plan.cameraUuid }
        if fault = some (.updateSources plan.cameraUuid) then
          [opened]
        else
          match updateProfileSources opened.repository plan.cameraUuid plan.updates timestamp
              (uuids (position + 1)) with
          | .error _ => [opened]
          | .ok next =>
              let updated := { opened with repository := next }
              opened :: updated :: updateTrace fault timestamp uuids updated rest (position + 2)

def resolveTrace (timestamp : Nat) :
    RecoverySystem → List (RecoveryPlan × String) → List RecoverySystem
  | _, [] => []
  | system, (plan, incidentUuid) :: rest =>
      let resolved : RecoverySystem := {
        repository := resolveAddressIncident system.repository incidentUuid timestamp
        unfinished := system.unfinished.filter (· ≠ plan.cameraUuid) }
      resolved :: resolveTrace timestamp resolved rest

def rollbackTrace (timestamp : Nat) (uuids : Nat → String) :
    RecoverySystem → List RecoveryPlan → Nat → List RecoverySystem
  | _, [], _ => []
  | system, plan :: rest, position =>
      match updateProfileSources system.repository plan.cameraUuid plan.previousSources
          timestamp (uuids position) with
      | .error _ => []
      | .ok next =>
          let restored := { system with repository := next }
          restored :: rollbackTrace timestamp uuids restored rest (position + 1)

def attemptTrace (system : RecoverySystem) (plans : List RecoveryPlan)
    (fault : Option RecoveryStep) (timestamp : Nat) (uuids : Nat → Nat → String) :
    List RecoverySystem :=
  let progress := updatePlans fault timestamp (uuids 0) system.repository plans 0
  let updates := updateTrace fault timestamp (uuids 0) system plans 0
  let reached := updates.getLastD system
  updates ++
    if progress.finished && !laterSteps.any (fault = some ·) then
      let recorded := { reached with
        repository := recordProbeResults reached.repository
          (empiricalResults system.repository plans) timestamp (uuids 1) }
      recorded :: resolveTrace timestamp recorded (plans.zip progress.incidents)
    else
      rollbackTrace timestamp (uuids 1) reached progress.updated 0

def RecoverySystem.recover (system : RecoverySystem) (call : RecoveryCall) : RecoverySystem :=
  match planRecovery system.repository call.world call.devices call.links with
  | none => system
  | some verdicts =>
      if (plansOf verdicts).isEmpty then
        system
      else
        let trace := attemptTrace system (plansOf verdicts) call.fault call.timestamp call.uuids
        match call.stop with
        | none => trace.getLastD system
        | some writes => (trace.take writes).getLastD system

/-- A camera that is no longer adopted has no attempt left to end. -/
def RecoverySystem.act (system : RecoverySystem) : RecoveryAction → RecoverySystem
  | .operation call =>
      let repository := commit system.repository call
      ⟨repository, system.unfinished.filter fun cameraUuid =>
        (repository.camera cameraUuid).isSome⟩
  | .recover call => system.recover call

/-! The trace ends where the attempt ends. -/

omit [TextCase] [UrlText] in
theorem last_of_append {α : Type} (first second : List α) (start : α) :
    (first ++ second).getLastD start = second.getLastD (first.getLastD start) := by
  induction first generalizing start with
  | nil => rfl
  | cons element rest ih => rw [List.cons_append, List.getLastD_cons, List.getLastD_cons, ih]

omit [TextCase] in
theorem updateTrace_reaches (fault : Option RecoveryStep) (timestamp : Nat)
    (uuids : Nat → String) (plans : List RecoveryPlan) (system : RecoverySystem)
    (position : Nat) :
    ((updateTrace fault timestamp uuids system plans position).getLastD system).repository =
      (updatePlans fault timestamp uuids system.repository plans position).repository := by
  induction plans generalizing system position with
  | nil => rfl
  | cons plan rest ih =>
      simp only [updateTrace, updatePlans]
      split
      · rfl
      split
      · rfl
      cases updateProfileSources (openAddressIncident system.repository plan.cameraUuid timestamp
          (uuids position)).1 plan.cameraUuid plan.updates timestamp (uuids (position + 1)) with
      | error problem => rfl
      | ok next =>
          simp only [List.getLastD_cons]
          exact ih { repository := next, unfinished := began system.unfinished plan.cameraUuid } _

omit [TextCase] [UrlText] in
theorem resolveTrace_reaches (timestamp : Nat) (plans : List RecoveryPlan)
    (incidents : List String) (sameLength : incidents.length = plans.length)
    (system : RecoverySystem) :
    ((resolveTrace timestamp system (plans.zip incidents)).getLastD system).repository =
      incidents.foldl (resolveAddressIncident · · timestamp) system.repository := by
  induction plans generalizing incidents system with
  | nil =>
      obtain rfl : incidents = [] := List.eq_nil_of_length_eq_zero sameLength
      rfl
  | cons plan rest ih =>
      cases incidents with
      | nil => simp at sameLength
      | cons incidentUuid later =>
          rw [List.zip_cons_cons, resolveTrace, List.getLastD_cons, List.foldl_cons]
          exact ih later (by simpa using sameLength) _

omit [TextCase] in
theorem rollbackTrace_reaches {timestamp : Nat} {uuids : Nat → String}
    {plans : List RecoveryPlan} {system : RecoverySystem} {position : Nat}
    {after : Repository}
    (done : rollbackPlans timestamp uuids system.repository plans position = some after) :
    ((rollbackTrace timestamp uuids system plans position).getLastD system).repository =
      after := by
  induction plans generalizing system position with
  | nil => exact Option.some.inj done
  | cons plan rest ih =>
      simp only [rollbackPlans] at done
      simp only [rollbackTrace]
      cases stored : updateProfileSources system.repository plan.cameraUuid plan.previousSources
          timestamp (uuids position) with
      | error problem =>
          rw [stored] at done
          cases done
      | ok next =>
          rw [stored] at done
          simp only [List.getLastD_cons]
          exact ih done

omit [TextCase] in
theorem updatePlans_incidents (fault : Option RecoveryStep) (timestamp : Nat)
    (uuids : Nat → String) (plans : List RecoveryPlan) (repository : Repository)
    (position : Nat)
    (finished : (updatePlans fault timestamp uuids repository plans position).finished = true) :
    (updatePlans fault timestamp uuids repository plans position).incidents.length =
      plans.length := by
  induction plans generalizing repository position with
  | nil => rfl
  | cons plan rest ih =>
      simp only [updatePlans] at finished ⊢
      split at finished
      · cases finished
      rename_i opens
      rw [if_neg opens]
      split at finished
      · cases finished
      rename_i updates
      rw [if_neg updates]
      split at finished
      · cases finished
      · rename_i next done
        exact congrArg (· + 1) (ih next (position + 2) finished)

/-- A call that is not stopped leaves the store that the function leaves. -/
theorem recover_repository {system : RecoverySystem} {call : RecoveryCall}
    {after : Repository} {results : List RecoveryResult} (unstopped : call.stop = none)
    (done : recoverInventoryAddresses system.repository call.world call.devices call.links
      call.fault call.timestamp call.uuids = some (after, results)) :
    (system.recover call).repository = after := by
  simp only [recoverInventoryAddresses, Option.bind_eq_bind, Option.bind_eq_some_iff] at done
  obtain ⟨verdicts, planning, ended⟩ := done
  simp only [RecoverySystem.recover, planning, unstopped]
  split at ended
  · rename_i empty
    obtain ⟨rfl, _⟩ := Prod.mk.inj (Option.some.inj ended)
    rw [if_pos empty]
  rename_i planned
  rw [if_neg planned]
  simp only [Option.bind_eq_some_iff, Option.some.injEq, Prod.mk.injEq] at ended
  obtain ⟨⟨stored, attempted⟩, attempt, rfl, _⟩ := ended
  have reaches := updateTrace_reaches call.fault call.timestamp (call.uuids 0)
    (plansOf verdicts) system 0
  simp only [attemptRecovery] at attempt
  simp only [attemptTrace, last_of_append]
  split at attempt
  · rename_i smooth
    rw [if_pos smooth, List.getLastD_cons]
    obtain ⟨rfl, _⟩ := Prod.mk.inj (Option.some.inj attempt)
    have sameLength := updatePlans_incidents call.fault call.timestamp (call.uuids 0)
      (plansOf verdicts) system.repository 0 (Bool.and_eq_true_iff.mp smooth).1
    rw [resolveTrace_reaches call.timestamp _ _ sameLength, reaches]
  · rename_i raised
    rw [if_neg raised]
    simp only [Option.map_eq_some_iff, Prod.mk.injEq] at attempt
    obtain ⟨restored, rolledBack, rfl, _⟩ := attempt
    exact rollbackTrace_reaches (reaches ▸ rolledBack)

/-! What the writes keep. -/

/-- The cameras with an open address incident are those with an unfinished attempt. -/
structure Tracked (system : RecoverySystem) : Prop where
  schema : Schema system.repository
  single : system.unfinished.Nodup
  cameras : (openAddresses system.repository).map Prod.snd = system.unfinished

omit [TextCase] [UrlText] in
theorem Tracked.write {system : RecoverySystem} (tracked : Tracked system)
    {after : Repository} (schema : Schema after)
    (same : openAddresses after = openAddresses system.repository) :
    Tracked { system with repository := after } :=
  ⟨schema, tracked.single, by rw [← tracked.cameras, same]⟩

omit [TextCase] [UrlText] in
theorem Tracked.open {system : RecoverySystem} (tracked : Tracked system)
    {cameraUuid fresh : String}
    (listed : ∃ camera ∈ system.repository.cameras, camera.cameraUuid = cameraUuid)
    (unused : ∀ incident ∈ system.repository.incidents, incident.incidentUuid ≠ fresh)
    (timestamp : Nat) :
    Tracked {
      repository := (openAddressIncident system.repository cameraUuid timestamp fresh).1
      unfinished := began system.unfinished cameraUuid } := by
  have entries := (openAddressIncident_entries system.repository cameraUuid timestamp fresh).2
  rw [tracked.cameras] at entries
  refine ⟨tracked.schema.openAddressIncident listed unused timestamp, ?_, ?_⟩
  · simp only [began]
    split
    · exact tracked.single
    · rename_i new
      exact List.nodup_append.mpr ⟨tracked.single, List.nodup_singleton _, by
        intro other member same isNew different
        simp_all⟩
  · simp only [began, entries]
    split
    · exact tracked.cameras
    · rw [List.map_append, tracked.cameras]
      rfl

omit [TextCase] [UrlText] in
/-- An entry is named by its uuid and by its camera. -/
theorem Tracked.entry_unique {system : RecoverySystem} (tracked : Tracked system)
    {first second : String × String} (firstMember : first ∈ openAddresses system.repository)
    (secondMember : second ∈ openAddresses system.repository) :
    first.1 = second.1 ↔ first.2 = second.2 := by
  constructor
  · intro same
    obtain ⟨one, isOne, _, _, rfl⟩ := mem_openAddresses.mp firstMember
    obtain ⟨two, isTwo, _, _, rfl⟩ := mem_openAddresses.mp secondMember
    rw [tracked.schema.incidentIds.eq isOne isTwo same]
  · intro same
    have distinct : ((openAddresses system.repository).map Prod.snd).Nodup := by
      rw [tracked.cameras]
      exact tracked.single
    rw [List.inj_on_of_nodup_map distinct firstMember secondMember same]

omit [TextCase] [UrlText] in
theorem Tracked.resolve {system : RecoverySystem} (tracked : Tracked system)
    {incidentUuid cameraUuid : String}
    (listed : (incidentUuid, cameraUuid) ∈ openAddresses system.repository) (timestamp : Nat) :
    Tracked {
      repository := resolveAddressIncident system.repository incidentUuid timestamp
      unfinished := system.unfinished.filter (· ≠ cameraUuid) } := by
  refine ⟨tracked.schema.resolveAddressIncident incidentUuid timestamp,
    tracked.single.filter _, ?_⟩
  rw [openAddresses_resolved tracked.schema listed, ← tracked.cameras, List.filter_map]
  congr 1
  apply List.filter_congr
  intro entry member
  exact decide_eq_decide.mpr (not_congr (tracked.entry_unique member listed))

theorem Tracked.update {system : RecoverySystem} (tracked : Tracked system)
    {cameraUuid fresh : String} {sources : List (String × String)} {timestamp : Nat}
    {next : Repository} (unused : ∀ incident ∈ system.repository.incidents,
      incident.incidentUuid ≠ fresh)
    (done : updateProfileSources system.repository cameraUuid sources timestamp fresh =
      .ok next) :
    Tracked { system with repository := next } := by
  obtain ⟨schema, same, _⟩ := updateProfileSources_addresses tracked.schema unused done
  exact tracked.write schema same

/-! The uuids an attempt has yet to draw from its two supplies. -/

def Undrawn (first second : Nat) (draw : Nat × Nat) : Prop :=
  (draw.1 = 0 ∧ first ≤ draw.2) ∨ (draw.1 = 1 ∧ second ≤ draw.2)

/-- No incident has one of them. -/
def Unspent (repository : Repository) (uuids : Nat → Nat → String) (first second : Nat) : Prop :=
  ∀ draw, Undrawn first second draw → ∀ incident ∈ repository.incidents,
    incident.incidentUuid ≠ uuids draw.1 draw.2

omit [TextCase] [UrlText] in
theorem Unspent.spend {before after : Repository} {uuids : Nat → Nat → String}
    {first second nextFirst nextSecond : Nat} (spent : Nat × Nat)
    (distinct : Function.Injective fun draw : Nat × Nat => uuids draw.1 draw.2)
    (unspent : Unspent before uuids first second)
    (adds : AddsIncident before after (uuids spent.1 spent.2))
    (fewer : ∀ draw, Undrawn nextFirst nextSecond draw →
      Undrawn first second draw ∧ draw ≠ spent) :
    Unspent after uuids nextFirst nextSecond := by
  intro draw undrawn incident member same
  obtain ⟨before, differs⟩ := fewer draw undrawn
  rcases adds incident member with isNew | ⟨original, isOriginal, sameUuid⟩
  · exact differs (distinct (same.symm.trans isNew))
  · exact unspent draw before original isOriginal (sameUuid.trans same)

omit [TextCase] [UrlText] in
theorem undrawn_first {first second : Nat} {draw : Nat × Nat}
    (undrawn : Undrawn (first + 1) second draw) :
    Undrawn first second draw ∧ draw ≠ (0, first) := by
  obtain ⟨supply, position⟩ := draw
  simp only [Undrawn, ne_eq, Prod.mk.injEq] at undrawn ⊢
  omega

omit [TextCase] [UrlText] in
theorem undrawn_second {first second : Nat} {draw : Nat × Nat}
    (undrawn : Undrawn first (second + 1) draw) :
    Undrawn first second draw ∧ draw ≠ (1, second) := by
  obtain ⟨supply, position⟩ := draw
  simp only [Undrawn, ne_eq, Prod.mk.injEq] at undrawn ⊢
  omega

/-! The attempt. -/

/-- Every planned camera is adopted. -/
def Listed (repository : Repository) (plans : List RecoveryPlan) : Prop :=
  ∀ plan ∈ plans, ∃ camera ∈ repository.cameras, camera.cameraUuid = plan.cameraUuid

omit [TextCase] [UrlText] in
theorem openAddressIncident_cameras (repository : Repository) (cameraUuid : String)
    (timestamp : Nat) (fresh : String) :
    (openAddressIncident repository cameraUuid timestamp fresh).1.cameras =
      repository.cameras := by
  simp only [openAddressIncident]
  split <;> rfl

/-- What the loop over the plans leaves for the rest of the attempt. -/
structure LoopEnds (before reached : RecoverySystem) (uuids : Nat → Nat → String)
    (plans : List RecoveryPlan) (progress : UpdateProgress) : Prop where
  unspent : ∃ drawn, Unspent reached.repository uuids drawn 0
  kept : openAddresses before.repository ⊆ openAddresses reached.repository
  opened : progress.finished = true → ∀ pair ∈ plans.zip progress.incidents,
    (pair.2, pair.1.cameraUuid) ∈ openAddresses reached.repository

theorem updateTrace_tracked (fault : Option RecoveryStep) (timestamp : Nat)
    {uuids : Nat → Nat → String} {plans : List RecoveryPlan} {system : RecoverySystem}
    {position : Nat}
    (distinct : Function.Injective fun draw : Nat × Nat => uuids draw.1 draw.2)
    (tracked : Tracked system) (listed : Listed system.repository plans)
    (unspent : Unspent system.repository uuids position 0) :
    (∀ state ∈ updateTrace fault timestamp (uuids 0) system plans position, Tracked state) ∧
      LoopEnds system
        ((updateTrace fault timestamp (uuids 0) system plans position).getLastD system) uuids
        plans (updatePlans fault timestamp (uuids 0) system.repository plans position) := by
  induction plans generalizing system position with
  | nil => exact ⟨by simp [updateTrace], ⟨position, unspent⟩, List.Subset.refl _, by simp⟩
  | cons plan rest ih =>
      -- The first write: the incident of this plan.
      have unused := unspent (0, position) (.inl ⟨rfl, Nat.le_refl _⟩)
      have opens := tracked.open (listed plan List.mem_cons_self) unused timestamp
      obtain ⟨entry, entries⟩ := openAddressIncident_entries system.repository plan.cameraUuid
        timestamp (uuids 0 position)
      have adds := openAddressIncident_adds system.repository plan.cameraUuid timestamp
        (uuids 0 position)
      have sameCameras := openAddressIncident_cameras system.repository plan.cameraUuid timestamp
        (uuids 0 position)
      simp only [updateTrace, updatePlans]
      generalize openAddressIncident system.repository plan.cameraUuid timestamp
        (uuids 0 position) = result at opens entry entries adds sameCameras ⊢
      have kept : openAddresses system.repository ⊆ openAddresses result.1 := by
        rw [entries]
        split
        · exact List.Subset.refl _
        · exact List.subset_append_left _ _
      have unspentOpened : Unspent result.1 uuids (position + 1) 0 :=
        unspent.spend (0, position) distinct adds fun _ => undrawn_first
      split
      · exact ⟨by simp, ⟨position, unspent⟩, List.Subset.refl _, by simp⟩
      split
      · exact ⟨by simpa using opens, ⟨position + 1, unspentOpened⟩, kept, by simp⟩
      cases done : updateProfileSources result.1 plan.cameraUuid plan.updates timestamp
          (uuids 0 (position + 1)) with
      | error problem =>
          exact ⟨by simpa using opens, ⟨position + 1, unspentOpened⟩, kept, by simp⟩
      | ok next =>
          -- The second write: its sources. The loop goes on from there.
          have unusedNext := unspentOpened (0, position + 1) (.inl ⟨rfl, Nat.le_refl _⟩)
          have updates := opens.update unusedNext done
          obtain ⟨_, sameEntries, addsNext⟩ :=
            updateProfileSources_addresses opens.schema unusedNext done
          have listedNext : Listed next rest := by
            intro other member
            rw [updateProfileSources_cameras done, sameCameras]
            exact listed other (List.mem_cons_of_mem _ member)
          obtain ⟨later, ends⟩ := ih updates listedNext
            (unspentOpened.spend (0, position + 1) distinct addsNext
              fun _ => undrawn_first)
          simp only [List.getLastD_cons]
          refine ⟨?_, ends.unspent, ?_, ?_⟩
          · intro state member
            rcases List.mem_cons.mp member with rfl | member
            · exact opens
            · rcases List.mem_cons.mp member with rfl | isLater
              · exact updates
              · exact later state isLater
          · exact List.Subset.trans kept (sameEntries ▸ ends.kept)
          · intro finished pair member
            rcases List.mem_cons.mp member with rfl | isLater
            · exact ends.kept (sameEntries.symm ▸ entry)
            · exact ends.opened finished pair isLater

omit [TextCase] [UrlText] in
/-- Each resolution leaves the incidents of the plans after it open. -/
theorem resolveTrace_tracked {timestamp : Nat} {pairs : List (RecoveryPlan × String)}
    {system : RecoverySystem} (tracked : Tracked system)
    (opened : ∀ pair ∈ pairs, (pair.2, pair.1.cameraUuid) ∈ openAddresses system.repository)
    (apart : (pairs.map fun pair => pair.1.cameraUuid).Nodup) :
    ∀ state ∈ resolveTrace timestamp system pairs, Tracked state := by
  induction pairs generalizing system with
  | nil => simp [resolveTrace]
  | cons pair rest ih =>
      obtain ⟨plan, incidentUuid⟩ := pair
      have isOpen := opened (plan, incidentUuid) List.mem_cons_self
      have resolves := tracked.resolve isOpen timestamp
      rw [List.map_cons, List.nodup_cons] at apart
      have stillOpen : ∀ other ∈ rest, (other.2, other.1.cameraUuid) ∈
          openAddresses (resolveAddressIncident system.repository incidentUuid timestamp) := by
        intro other member
        have otherOpen := opened other (List.mem_cons_of_mem _ member)
        rw [openAddresses_resolved tracked.schema isOpen]
        refine List.mem_filter.mpr ⟨otherOpen, decide_eq_true ?_⟩
        intro same
        have sameCamera := (tracked.entry_unique otherOpen isOpen).mp same
        exact apart.1 (List.mem_map.mpr ⟨other, member, sameCamera⟩)
      intro state member
      rcases List.mem_cons.mp member with rfl | isLater
      · exact resolves
      · exact ih resolves stillOpen apart.2 state isLater

theorem rollbackTrace_tracked {timestamp : Nat} {uuids : Nat → Nat → String}
    {plans : List RecoveryPlan} {system : RecoverySystem} {drawn position : Nat}
    (distinct : Function.Injective fun draw : Nat × Nat => uuids draw.1 draw.2)
    (tracked : Tracked system) (unspent : Unspent system.repository uuids drawn position) :
    ∀ state ∈ rollbackTrace timestamp (uuids 1) system plans position, Tracked state := by
  induction plans generalizing system position with
  | nil => simp [rollbackTrace]
  | cons plan rest ih =>
      have unused := unspent (1, position) (.inr ⟨rfl, Nat.le_refl _⟩)
      simp only [rollbackTrace]
      split
      · simp
      · rename_i next done
        have restores := tracked.update unused done
        obtain ⟨_, _, adds⟩ := updateProfileSources_addresses tracked.schema unused done
        intro state member
        rcases List.mem_cons.mp member with rfl | isLater
        · exact restores
        · exact ih restores (unspent.spend (1, position) distinct adds
            fun _ => undrawn_second) state isLater

omit [TextCase] [UrlText] in
theorem last_of_all {α : Type} (Holds : α → Prop) {states : List α} {start : α}
    (first : Holds start) (all : ∀ state ∈ states, Holds state) :
    Holds (states.getLastD start) := by
  rcases List.mem_cons.mp (List.getLastD_mem_cons (l := states) (a := start)) with same | member
  · rw [same]
    exact first
  · exact all _ member

theorem attemptTrace_tracked {system : RecoverySystem} {plans : List RecoveryPlan}
    (fault : Option RecoveryStep) (timestamp : Nat) {uuids : Nat → Nat → String}
    (distinct : Function.Injective fun draw : Nat × Nat => uuids draw.1 draw.2)
    (tracked : Tracked system) (listed : Listed system.repository plans)
    (unspent : Unspent system.repository uuids 0 0)
    (apart : (plans.map (·.cameraUuid)).Nodup) :
    ∀ state ∈ attemptTrace system plans fault timestamp uuids, Tracked state := by
  obtain ⟨updates, ends⟩ := updateTrace_tracked fault timestamp distinct tracked listed unspent
  have reached := last_of_all Tracked tracked updates
  obtain ⟨drawn, left⟩ := ends.unspent
  intro state member
  simp only [attemptTrace, List.mem_append] at member
  rcases member with isUpdate | isRest
  · exact updates state isUpdate
  split at isRest
  · rename_i smooth
    have supply : Function.Injective (uuids 1) := by
      intro one two same
      have drawn : (1, one) = (1, two) := distinct same
      exact (Prod.mk.inj drawn).2
    have unused : UnusedIncidents ((updateTrace fault timestamp (uuids 0) system plans
        0).getLastD system).repository (uuids 1) 0 := by
      intro later bound incident isIncident
      exact left (1, later) (.inr ⟨rfl, bound⟩) incident isIncident
    obtain ⟨schema, same⟩ := recordProbeResults_addresses reached.schema supply unused
      (empiricalResults system.repository plans) timestamp
    have records := reached.write schema same
    rcases List.mem_cons.mp isRest with rfl | isResolve
    · exact records
    · refine resolveTrace_tracked records ?_ ?_ state isResolve
      · intro pair isPair
        rw [same]
        exact ends.opened (Bool.and_eq_true_iff.mp smooth).1 pair isPair
      · have sameLength := updatePlans_incidents fault timestamp (uuids 0) plans
          system.repository 0 (Bool.and_eq_true_iff.mp smooth).1
        have firsts : (plans.zip (updatePlans fault timestamp (uuids 0) system.repository plans
            0).incidents).map Prod.fst = plans := List.map_fst_zip (by omega)
        have cameras := congrArg (List.map RecoveryPlan.cameraUuid) firsts
        rw [List.map_map] at cameras
        rw [← cameras] at apart
        exact apart
  · exact rollbackTrace_tracked distinct reached left state isRest

/-! Runs. -/

/-- The uuids a call draws are all different and no row has one of them. -/
def FreshAction (system : RecoverySystem) : RecoveryAction → Prop
  | .operation call => UnusedUuids system.repository call.uuids
  | .recover call =>
      Function.Injective (fun draw : Nat × Nat => call.uuids draw.1 draw.2) ∧
        ∀ supply position, ∀ incident ∈ system.repository.incidents,
          incident.incidentUuid ≠ call.uuids supply position

theorem recover_tracked {system : RecoverySystem} (tracked : Tracked system)
    {call : RecoveryCall} (fresh : FreshAction system (.recover call)) :
    Tracked (system.recover call) := by
  simp only [RecoverySystem.recover]
  split
  · exact tracked
  rename_i verdicts planning
  split
  · exact tracked
  have assessed : Assessed system.repository system.repository.cameras verdicts :=
    assessCameras_assessed tracked.schema.cameraIds planning
  have listed : Listed system.repository (plansOf verdicts) := by
    intro plan member
    exact List.mem_map.mp (assessed.plans.subset (List.mem_map_of_mem member))
  have trace := attemptTrace_tracked call.fault call.timestamp fresh.1 tracked listed
    (fun draw _ => fresh.2 draw.1 draw.2) (assessed.plans.nodup tracked.schema.cameraIds)
  split
  · exact last_of_all Tracked tracked trace
  · rename_i writes _
    exact last_of_all Tracked tracked fun state member => trace state (List.mem_of_mem_take member)

/-- An operation that commits keeps the entries, or removes a camera with its own. -/
theorem perform_addresses {repository after : Repository} {call : RepositoryCall}
    (schema : Schema repository) (unused : UnusedUuids repository call.uuids)
    (done : perform repository call = .ok after) :
    openAddresses after = openAddresses repository ∨
      ∃ cameraUuid, after.camera cameraUuid = none ∧ openAddresses after =
        (openAddresses repository).filter fun entry => entry.2 ≠ cameraUuid := by
  have recorded {changed : Repository} {affected : List String} {first : Nat}
      (effect : Recorded repository after call changed affected first) :
      openAddresses after = openAddresses repository := by
    obtain ⟨touches, rfl⟩ := effect
    obtain ⟨distinct, unusedIncidents⟩ := unused.drawn first touches
    rw [openAddresses_transitions distinct touches.schema unusedIncidents, touches.openAddresses]
  cases perform_effect schema unused done with
  | quiet effect _ => exact .inl (recorded effect)
  | adopted _ effect _ => exact .inl (recorded effect)
  | chosen _ effect _ => exact .inl (recorded effect)
  | removed isUnadopt removed =>
      rename_i cameraUuid
      simp only [perform, isUnadopt] at done
      cases deleted : unadoptCamera repository cameraUuid with
      | error problem => simp [deleted, Except.map] at done
      | ok result =>
          obtain ⟨remaining, existed⟩ := result
          obtain rfl : remaining = after := by simpa [deleted, Except.map] using done
          rcases unadoptCamera_incidents deleted with same | filtered
          · exact .inl (congrArg openIncidents same)
          · refine .inr ⟨cameraUuid, removed.camera, ?_⟩
            rw [openAddresses, filtered, openIncidents_without]
            rfl

theorem operation_tracked {system : RecoverySystem} (tracked : Tracked system)
    {call : RepositoryCall} (fresh : FreshAction system (.operation call)) :
    Tracked (system.act (.operation call)) := by
  simp only [RecoverySystem.act, commit]
  -- Whatever an operation has done, an entry that is left belongs to an adopted camera.
  have present {repository : Repository} (schema : Schema repository) {entry : String × String}
      (member : entry ∈ openAddresses repository) :
      (repository.camera entry.2).isSome = true := by
    obtain ⟨camera, isCamera, same⟩ := schema.openAddresses_camera member
    rw [← same, Repository.camera, schema.cameraIds.rowAt_eq isCamera]
    rfl
  have kept {after : Repository} (schema : Schema after)
      (entries : openAddresses after = (openAddresses system.repository).filter
        fun entry => (after.camera entry.2).isSome) :
      Tracked ⟨after, system.unfinished.filter fun cameraUuid =>
        (after.camera cameraUuid).isSome⟩ := by
    refine ⟨schema, tracked.single.filter _, ?_⟩
    rw [entries, ← tracked.cameras, List.filter_map]
    rfl
  split
  · rename_i after done
    have schema := (perform_effect tracked.schema fresh done).schema fresh
    refine kept schema ?_
    rcases perform_addresses tracked.schema fresh done with same | ⟨cameraUuid, gone, entries⟩
    · rw [same, eq_comm, List.filter_eq_self]
      intro entry member
      exact present schema (same ▸ member)
    · rw [entries]
      apply List.filter_congr
      intro entry member
      by_cases owned : entry.2 = cameraUuid
      · simp [owned, gone]
      · have isLeft : entry ∈ openAddresses after := by
          rw [entries]
          exact List.mem_filter.mpr ⟨member, decide_eq_true owned⟩
        rw [present schema isLeft]
        exact decide_eq_true owned
  · refine kept tracked.schema ?_
    rw [eq_comm, List.filter_eq_self]
    exact fun entry member => present tracked.schema member

/-- The states that operations and recovery calls lead to. -/
abbrev RecoveryRun : RecoverySystem → Prop :=
  Reaches (fun system action next => next = system.act action) FreshAction {}

theorem recoveryRun_tracked {system : RecoverySystem} (run : RecoveryRun system) :
    Tracked system := by
  apply run.invariant Tracked ⟨schema_empty, List.nodup_nil, rfl⟩
  rintro system action _ tracked fresh rfl
  cases action with
  | operation call => exact operation_tracked tracked fresh
  | recover call => exact recover_tracked tracked fresh

/-! Cameras that a call does not plan. -/

omit [TextCase] [UrlText] in
theorem mem_began {unfinished : List String} {cameraUuid other : String} :
    other ∈ began unfinished cameraUuid ↔ other = cameraUuid ∨ other ∈ unfinished := by
  unfold began
  by_cases known : cameraUuid ∈ unfinished
  · simp only [known, if_true]
    constructor
    · exact .inr
    · rintro (rfl | member)
      · exact known
      · exact member
  · simp [known, or_comm]

/-- The unfinished attempts of one camera in each of the states. -/
def LeavesCamera (before : RecoverySystem) (cameraUuid : String) (states : List RecoverySystem) :
    Prop :=
  ∀ state ∈ states, cameraUuid ∈ state.unfinished ↔ cameraUuid ∈ before.unfinished

omit [TextCase] in
theorem updateTrace_leaves (fault : Option RecoveryStep) (timestamp : Nat)
    (uuids : Nat → String) {plans : List RecoveryPlan} {cameraUuid : String}
    (unplanned : ∀ plan ∈ plans, plan.cameraUuid ≠ cameraUuid) (system : RecoverySystem)
    (position : Nat) :
    LeavesCamera system cameraUuid (updateTrace fault timestamp uuids system plans position) := by
  induction plans generalizing system position with
  | nil => simp [updateTrace, LeavesCamera]
  | cons plan rest ih =>
      rw [List.forall_mem_cons] at unplanned
      have same : cameraUuid ∈ began system.unfinished plan.cameraUuid ↔
          cameraUuid ∈ system.unfinished := by
        rw [mem_began, or_iff_right (Ne.symm unplanned.1)]
      simp only [updateTrace, LeavesCamera]
      split
      · simp
      split
      · simpa using same
      split
      · simpa using same
      · intro state member
        rcases List.mem_cons.mp member with rfl | member
        · exact same
        · rcases List.mem_cons.mp member with rfl | isLater
          · exact same
          · exact (ih unplanned.2 _ (position + 2) state isLater).trans same

omit [TextCase] [UrlText] in
theorem resolveTrace_leaves (timestamp : Nat) {pairs : List (RecoveryPlan × String)}
    {cameraUuid : String} (unplanned : ∀ pair ∈ pairs, pair.1.cameraUuid ≠ cameraUuid)
    (system : RecoverySystem) :
    LeavesCamera system cameraUuid (resolveTrace timestamp system pairs) := by
  induction pairs generalizing system with
  | nil => simp [resolveTrace, LeavesCamera]
  | cons pair rest ih =>
      rw [List.forall_mem_cons] at unplanned
      have same : cameraUuid ∈ system.unfinished.filter (· ≠ pair.1.cameraUuid) ↔
          cameraUuid ∈ system.unfinished := by
        simp [Ne.symm unplanned.1]
      intro state member
      rcases List.mem_cons.mp member with rfl | isLater
      · exact same
      · exact (ih unplanned.2 _ state isLater).trans same

omit [TextCase] in
theorem rollbackTrace_leaves (timestamp : Nat) (uuids : Nat → String)
    (plans : List RecoveryPlan) (cameraUuid : String) (system : RecoverySystem)
    (position : Nat) :
    LeavesCamera system cameraUuid (rollbackTrace timestamp uuids system plans position) := by
  induction plans generalizing system position with
  | nil => simp [rollbackTrace, LeavesCamera]
  | cons plan rest ih =>
      simp only [rollbackTrace, LeavesCamera]
      split
      · simp
      · rename_i next _
        intro state member
        rcases List.mem_cons.mp member with rfl | isLater
        · rfl
        · exact ih { system with repository := next } (position + 1) state isLater

omit [TextCase] [UrlText] in
theorem LeavesCamera.last {before : RecoverySystem} {cameraUuid : String}
    {states : List RecoverySystem} (leaves : LeavesCamera before cameraUuid states) :
    cameraUuid ∈ (states.getLastD before).unfinished ↔ cameraUuid ∈ before.unfinished := by
  rcases List.mem_cons.mp (List.getLastD_mem_cons (l := states) (a := before)) with same | member
  · rw [same]
  · exact leaves _ member

omit [TextCase] in
theorem attemptTrace_leaves {plans : List RecoveryPlan} {cameraUuid : String}
    (unplanned : ∀ plan ∈ plans, plan.cameraUuid ≠ cameraUuid) (system : RecoverySystem)
    (fault : Option RecoveryStep) (timestamp : Nat) (uuids : Nat → Nat → String) :
    LeavesCamera system cameraUuid (attemptTrace system plans fault timestamp uuids) := by
  have updates := updateTrace_leaves fault timestamp (uuids 0) unplanned system 0
  intro state member
  simp only [attemptTrace, List.mem_append] at member
  rcases member with isUpdate | isRest
  · exact updates state isUpdate
  rw [← updates.last]
  split at isRest
  · rcases List.mem_cons.mp isRest with rfl | isResolve
    · rfl
    · have resolved := resolveTrace_leaves timestamp
        (fun pair isPair => unplanned pair.1 (List.of_mem_zip isPair).1) _ state isResolve
      exact resolved
  · exact rollbackTrace_leaves timestamp (uuids 1) _ cameraUuid _ 0 state isRest

/-! Which attempts of a call that is not stopped end. -/

omit [TextCase] in
theorem updateTrace_begins {fault : Option RecoveryStep} {timestamp : Nat}
    {uuids : Nat → String} {plans : List RecoveryPlan} {cameraUuid : String}
    {system : RecoverySystem} {position : Nat}
    (begins : cameraUuid ∈ system.unfinished ∨ ∃ plan ∈
      (updatePlans fault timestamp uuids system.repository plans position).updated,
        plan.cameraUuid = cameraUuid) :
    cameraUuid ∈
      ((updateTrace fault timestamp uuids system plans position).getLastD system).unfinished := by
  induction plans generalizing system position with
  | nil => simpa [updateTrace, updatePlans] using begins
  | cons plan rest ih =>
      have opened (listed : cameraUuid ∈ system.unfinished) :
          cameraUuid ∈ began system.unfinished plan.cameraUuid := mem_began.mpr (.inr listed)
      simp only [updateTrace, updatePlans] at begins ⊢
      split
      · rename_i isFault
        simpa [isFault] using begins
      rename_i opens
      rw [if_neg opens] at begins
      split
      · rename_i isFault
        exact opened (by simpa [isFault] using begins)
      rename_i updates
      rw [if_neg updates] at begins
      split
      · rename_i problem failed
        exact opened (by simpa [failed] using begins)
      · rename_i next done
        rw [List.getLastD_cons, List.getLastD_cons]
        apply ih
        simp only [done, List.mem_cons, exists_eq_or_imp] at begins
        rcases begins with listed | isFirst | isLater
        · exact .inl (opened listed)
        · exact .inl (mem_began.mpr (.inl isFirst.symm))
        · exact .inr isLater

omit [TextCase] [UrlText] in
theorem resolveTrace_ends (timestamp : Nat) (pairs : List (RecoveryPlan × String))
    (system : RecoverySystem) (cameraUuid : String) :
    cameraUuid ∈ ((resolveTrace timestamp system pairs).getLastD system).unfinished ↔
      cameraUuid ∈ system.unfinished ∧ ∀ pair ∈ pairs, pair.1.cameraUuid ≠ cameraUuid := by
  induction pairs generalizing system with
  | nil => simp [resolveTrace]
  | cons pair rest ih =>
      rw [resolveTrace, List.getLastD_cons, ih, List.forall_mem_cons]
      simp only [List.mem_filter, decide_eq_true_eq]
      constructor
      · rintro ⟨⟨listed, differs⟩, others⟩
        exact ⟨listed, Ne.symm differs, others⟩
      · rintro ⟨listed, differs, others⟩
        exact ⟨⟨listed, Ne.symm differs⟩, others⟩

/-- An attempt that raises leaves the attempts of the cameras it has moved unfinished; one
that does not ends all of them. -/
theorem recover_unfinished {system : RecoverySystem} {call : RecoveryCall}
    {verdicts : List Verdict} (schema : Schema system.repository)
    (unstopped : call.stop = none)
    (planning : planRecovery system.repository call.world call.devices call.links =
      some verdicts) :
    ∀ plan ∈ committedPlans call.fault (plansOf verdicts),
      (plan.cameraUuid ∈ (system.recover call).unfinished ↔
        attemptRaises call.fault (plansOf verdicts) = true) := by
  intro plan committed
  have member : plan ∈ plansOf verdicts := List.takeWhile_subset _ committed
  have assessed : Assessed system.repository system.repository.cameras verdicts :=
    assessCameras_assessed schema.cameraIds planning
  obtain ⟨updated, finished, _⟩ := updatePlans_written call.fault call.timestamp (call.uuids 0) 0
    (assessed.plans.nodup schema.cameraIds)
    fun plan member => (assessed.planned plan member).knownTokens schema
  have planned : ¬ (plansOf verdicts).isEmpty = true := by
    rw [List.isEmpty_iff]
    exact List.ne_nil_of_mem member
  simp only [RecoverySystem.recover, planning, unstopped]
  rw [if_neg planned, attemptTrace, last_of_append]
  split
  · rename_i smooth
    obtain ⟨done, quiet⟩ := Bool.and_eq_true_iff.mp smooth
    have sameLength := updatePlans_incidents call.fault call.timestamp (call.uuids 0)
      (plansOf verdicts) system.repository 0 done
    have notRaised : attemptRaises call.fault (plansOf verdicts) = false := by
      rw [finished] at done
      simp only [Bool.not_eq_true'] at done quiet
      rw [attemptRaises, done, quiet, Bool.or_self]
    rw [List.getLastD_cons, resolveTrace_ends, notRaised]
    simp only [Bool.false_eq_true, iff_false, not_and, not_forall]
    intro _
    have firsts : ((plansOf verdicts).zip (updatePlans call.fault call.timestamp (call.uuids 0)
        system.repository (plansOf verdicts) 0).incidents).map Prod.fst = plansOf verdicts :=
      List.map_fst_zip (by omega)
    rw [← firsts] at member
    obtain ⟨pair, isPair, same⟩ := List.mem_map.mp member
    exact ⟨pair, isPair, fun differs => differs (congrArg RecoveryPlan.cameraUuid same)⟩
  · rename_i raised
    have isRaised : attemptRaises call.fault (plansOf verdicts) = true := by
      rw [finished, ← Bool.not_or, Bool.not_eq_true', Bool.not_eq_false] at raised
      exact raised
    have begun := updateTrace_begins (.inr ⟨plan, updated ▸ committed, rfl⟩)
    rw [isRaised]
    simp only [iff_true]
    exact (rollbackTrace_leaves _ _ _ plan.cameraUuid _ _).last.mpr begun

/-- The inventory shows the enabled camera online and unconflicted at the address of all its
sources. -/
def FoundAtAddress (repository : Repository) (call : RecoveryCall) (camera : CameraRow) : Prop :=
  camera ∈ repository.cameras ∧ camera.enabled = true ∧
    ∃ candidate, linkedCandidate (recoveryInventory call.devices) call.links camera =
        some candidate ∧
      candidate.status = some .online ∧ candidate.identityConflict = false ∧
      previousHosts (cameraStreams repository camera.cameraUuid) = [candidate.ip]

theorem planned_assessed {repository : Repository} {world : RecoveryWorld}
    {inventory : List Device} {links : List (String × Device)} {cameras : List CameraRow}
    {verdicts : List Verdict} {plan : RecoveryPlan}
    (done : assessCameras repository world inventory links cameras = some verdicts)
    (planned : plan ∈ plansOf verdicts) :
    ∃ camera ∈ cameras, assess repository world inventory links camera =
      some (.planned plan) := by
  induction cameras generalizing verdicts with
  | nil =>
      obtain rfl : [] = verdicts := by simpa [assessCameras] using done
      simp [plansOf] at planned
  | cons camera rest ih =>
      simp only [assessCameras, Option.bind_eq_bind, Option.bind_eq_some_iff,
        Option.some.injEq] at done
      obtain ⟨verdict, isVerdict, later, isLater, rfl⟩ := done
      have among (isRest : plan ∈ plansOf later) : ∃ other ∈ camera :: rest,
          assess repository world inventory links other = some (.planned plan) := by
        obtain ⟨other, member, assessed⟩ := ih isLater isRest
        exact ⟨other, List.mem_cons_of_mem _ member, assessed⟩
      cases verdict with
      | skipped => exact among planned
      | rejected result => exact among planned
      | planned first =>
          rcases List.mem_cons.mp planned with rfl | isRest
          · exact ⟨camera, List.mem_cons_self, isVerdict⟩
          · exact among isRest

theorem FoundAtAddress.skipped {repository : Repository} {call : RecoveryCall}
    {camera : CameraRow} (found : FoundAtAddress repository call camera) :
    assess repository call.world (recoveryInventory call.devices) call.links camera =
      some .skipped := by
  obtain ⟨_, enabled, candidate, linked, _, _, hosts⟩ := found
  simp only [assess, enabled, linked, hosts, Bool.not_true, Bool.false_eq_true, if_false]
  split
  · rfl
  · simp

theorem FoundAtAddress.unplanned {repository : Repository} {call : RecoveryCall}
    {camera : CameraRow} {verdicts : List Verdict} (schema : Schema repository)
    (found : FoundAtAddress repository call camera)
    (planning : planRecovery repository call.world call.devices call.links = some verdicts) :
    ∀ plan ∈ plansOf verdicts, plan.cameraUuid ≠ camera.cameraUuid := by
  intro plan member same
  obtain ⟨other, isOther, planned⟩ := planned_assessed planning member
  have owner : plan.cameraUuid = other.cameraUuid := (assess_planned planned).1
  obtain rfl := schema.cameraIds.eq isOther found.1 (owner.symm.trans same)
  rw [found.skipped] at planned
  cases planned

theorem FoundAtAddress.left {system : RecoverySystem} {call : RecoveryCall}
    {camera : CameraRow} (schema : Schema system.repository)
    (found : FoundAtAddress system.repository call camera) :
    camera.cameraUuid ∈ (system.recover call).unfinished ↔
      camera.cameraUuid ∈ system.unfinished := by
  simp only [RecoverySystem.recover]
  split
  · rfl
  rename_i verdicts planning
  split
  · rfl
  have leaves := attemptTrace_leaves (found.unplanned schema planning) system call.fault
    call.timestamp call.uuids
  split
  · exact leaves.last
  · rename_i writes _
    have shorter : LeavesCamera system camera.cameraUuid ((attemptTrace system
        (plansOf verdicts) call.fault call.timestamp call.uuids).take writes) :=
      fun state member => leaves state (List.mem_of_mem_take member)
    exact shorter.last

/-- The call leaves no address incident open of a camera it finds at its address. -/
def ClosesIncidents (system : RecoverySystem) (call : RecoveryCall) : Prop :=
  ∀ camera, FoundAtAddress system.repository call camera →
    ∀ incident ∈ (system.recover call).repository.incidents,
      incident.cameraUuid = camera.cameraUuid → incident.kind = .cameraAddressChanged →
      incident.resolvedAt ≠ none

/-- In every run, that is so exactly if none of these cameras has an unfinished attempt. -/
theorem address_incidents_closed_iff {system : RecoverySystem} (run : RecoveryRun system)
    {call : RecoveryCall} (fresh : FreshAction system (.recover call)) :
    ClosesIncidents system call ↔
      ∀ camera, FoundAtAddress system.repository call camera →
        camera.cameraUuid ∉ system.unfinished := by
  have before := recoveryRun_tracked run
  have after := recover_tracked before fresh
  apply forall₂_congr
  intro camera found
  rw [← found.left before.schema, ← after.cameras, List.mem_map]
  constructor
  · rintro closed ⟨entry, member, owner⟩
    obtain ⟨incident, isIncident, isAddress, unresolved, rfl⟩ := mem_openAddresses.mp member
    exact closed incident isIncident owner isAddress unresolved
  · intro none incident isIncident owner isAddress unresolved
    exact none ⟨_, mem_openAddresses.mpr ⟨incident, isIncident, isAddress, unresolved, rfl⟩,
      owner⟩

end

/-! The front door, which moves and comes back. -/

def pairedSupply (letter : Char) (supply position : Nat) : String :=
  uuidSupply letter (Nat.pair supply position)

theorem freshRecovery_pairedSupply {system : RecoverySystem} {call : RecoveryCall}
    {letter : Char} (draws : call.uuids = pairedSupply letter)
    (unused : ∀ incident ∈ system.repository.incidents,
      incident.incidentUuid.toList.head? ≠ some letter) :
    FreshAction system (.recover call) := by
  constructor
  · intro first second same
    rw [draws] at same
    obtain ⟨supply, position⟩ := Nat.pair_eq_pair.mp (uuidSupply_injective letter same)
    exact Prod.ext supply position
  · intro supply position incident member same
    rw [draws] at same
    exact unused incident member (same ▸ uuidSupply_head letter _)

def adoptFrontDoor : RepositoryCall := ⟨.adopt frontDoor, 1, uuidSupply 'a'⟩

/-- A call that finds the front door at an address. -/
def frontDoorAt (ip : String) (fault : Option RecoveryStep) (stop : Option Nat) (letter : Char) :
    RecoveryCall where
  world := atNewAddress
  devices := [{ movedDevice with ip := ip }]
  links := []
  fault := fault
  timestamp := 5
  uuids := pairedSupply letter
  stop := stop

/-- The front door after its adoption and one call. -/
def frontDoorAfter (call : RecoveryCall) : RecoverySystem :=
  let _ := asciiCase
  let _ := plainUrls
  (RecoverySystem.act {} (.operation adoptFrontDoor)).recover call

theorem frontDoorAfter_run {call : RecoveryCall} (draws : call.uuids = pairedSupply 'b') :
    let _ := asciiCase
    let _ := plainUrls
    RecoveryRun (frontDoorAfter call) := by
  intro text urls
  have unused : FreshCall {} adoptFrontDoor :=
    freshCall_uuidSupply (.adopt frontDoor) (by simp [usedUuids]) (Nat.zero_le 1)
  have adopts : FreshAction {} (.operation adoptFrontDoor) := unused.unused
  refine (Reaches.start.step _ adopts rfl).step (.recover call) ?_ rfl
  exact freshRecovery_pairedSupply draws (by decide +kernel)

theorem finished_move_closed :
    let _ := asciiCase
    let _ := plainUrls
    ClosesIncidents (frontDoorAfter (frontDoorAt "10.0.0.9" none none 'b'))
      (frontDoorAt "10.0.0.9" none none 'c') := by
  intro text urls
  have fresh : FreshAction (frontDoorAfter (frontDoorAt "10.0.0.9" none none 'b'))
      (.recover (frontDoorAt "10.0.0.9" none none 'c')) :=
    freshRecovery_pairedSupply rfl (by decide +kernel)
  refine (address_incidents_closed_iff (frontDoorAfter_run rfl) fresh).mpr ?_
  have finished : (frontDoorAfter (frontDoorAt "10.0.0.9" none none 'b')).unfinished = [] := by
    decide +kernel
  intro camera _
  rw [finished]
  exact List.not_mem_nil

/-- The relay refuses the moved camera and the camera comes back, or the process stops once
the new sources are stored: the next call finds the camera at its address and leaves the
incident open. -/
theorem unfinished_move_stays_open :
    let _ := asciiCase
    let _ := plainUrls
    let refused := frontDoorAfter (frontDoorAt "10.0.0.9" (some .replaceStreams) none 'b')
    let stopped := frontDoorAfter (frontDoorAt "10.0.0.9" none (some 2) 'b')
    (RecoveryRun refused ∧ ¬ ClosesIncidents refused (frontDoorAt "10.0.0.5" none none 'c')) ∧
      RecoveryRun stopped ∧
        ¬ ClosesIncidents stopped (frontDoorAt "10.0.0.9" none none 'c') := by
  intro text urls refused stopped
  let camera : CameraRow := ⟨"a", "front", "Front door", "aa", true, false⟩
  let incident : Incident := ⟨"b", "a", .cameraAddressChanged, 5, 5, none, none⟩
  refine ⟨⟨frontDoorAfter_run rfl, ?_⟩, frontDoorAfter_run rfl, ?_⟩
  · intro closes
    have found : FoundAtAddress refused.repository (frontDoorAt "10.0.0.5" none none 'c')
        camera :=
      ⟨by decide +kernel, rfl, { movedDevice with ip := "10.0.0.5" }, by decide +kernel, rfl, rfl,
        by decide +kernel⟩
    have isOpen : incident ∈
        (refused.recover (frontDoorAt "10.0.0.5" none none 'c')).repository.incidents := by
      decide +kernel
    exact closes camera found incident isOpen rfl rfl rfl
  · intro closes
    have found : FoundAtAddress stopped.repository (frontDoorAt "10.0.0.9" none none 'c')
        camera :=
      ⟨by decide +kernel, rfl, movedDevice, by decide +kernel, rfl, rfl, by decide +kernel⟩
    have isOpen : incident ∈
        (stopped.recover (frontDoorAt "10.0.0.9" none none 'c')).repository.incidents := by
      decide +kernel
    exact closes camera found incident isOpen rfl rfl rfl

end CamAdmiral
