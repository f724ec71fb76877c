import CamAdmiral.Eviction
import CamAdmiral.Grouping
import Mathlib

/-!
The thumbnails that the relay health monitor holds: the latest frame of each camera, within a
limit on their number and one on their size. The clock that stamps a frame is any linear order.
-/

namespace CamAdmiral

variable {τ : Type*}

structure CachedFrame (τ : Type*) where
  content : List UInt8
  capturedAt : τ
  deriving DecidableEq, Repr

/-- The frames by camera: a camera that is cached again keeps its place. -/
abbrev FrameCache (τ : Type*) := List (String × CachedFrame τ)

structure ThumbnailLimits where
  items : Nat
  bytes : Nat
  items_pos : 1 ≤ items
  bytes_pos : 1 ≤ bytes

def thumbnailLimits (thumbnailCacheItems thumbnailCacheMaxBytes : Int) : ThumbnailLimits where
  items := (max 1 thumbnailCacheItems).toNat
  bytes := (max 1 thumbnailCacheMaxBytes).toNat
  items_pos := by omega
  bytes_pos := by omega

def totalBytes (frames : FrameCache τ) : Nat :=
  (frames.map fun entry => entry.2.content.length).sum

def overLimits (limits : ThumbnailLimits) (frames : FrameCache τ) : Bool :=
  decide (limits.items < frames.length) || decide (limits.bytes < totalBytes frames)

/-- The frame and the frames held after it; the smallest of no frames raises. -/
def cacheFrame [LinearOrder τ] (limits : ThumbnailLimits) (frames : FrameCache τ)
    (cameraUuid : String) (content : List UInt8) (now : τ) :
    Option (CachedFrame τ × FrameCache τ) :=
  let frame : CachedFrame τ := ⟨content, now⟩
  if limits.bytes < content.length then
    some (frame, eraseKey frames cameraUuid)
  else
    (evictOldest (overLimits limits) CachedFrame.capturedAt
      (setKey frames cameraUuid frame)).map fun kept => (frame, kept)

def cachedFrame (frames : FrameCache τ) (cameraUuid : String) : Option (CachedFrame τ) :=
  frames.lookup cameraUuid

/-- What a cycle of the monitor leaves: the frames of the cameras it observed. -/
def dropInactive (frames : FrameCache τ) (activeCameraIds : List String) : FrameCache τ :=
  frames.filter fun entry => decide (entry.1 ∈ activeCameraIds)

/-! Runs. -/

/-- What touches the frames: a new frame, or the end of a cycle. -/
inductive FrameStep (τ : Type*)
  | captured (cameraUuid : String) (content : List UInt8) (now : τ)
  | observed (activeCameraIds : List String)
  deriving DecidableEq, Repr

def FrameStep.clock : FrameStep τ → Option τ
  | .captured _ _ now => some now
  | .observed _ => none

def frameStep [LinearOrder τ] (limits : ThumbnailLimits) (frames : FrameCache τ) :
    FrameStep τ → Option (FrameCache τ)
  | .captured cameraUuid content now =>
      (cacheFrame limits frames cameraUuid content now).map Prod.snd
  | .observed activeCameraIds => some (dropInactive frames activeCameraIds)

def frameRun [LinearOrder τ] (limits : ThumbnailLimits) (steps : List (FrameStep τ))
    (frames : FrameCache τ) : Option (FrameCache τ) :=
  steps.foldlM (frameStep limits) frames

/-! What the frames satisfy: one frame a camera, within the limits. -/

theorem overLimits_iff {limits : ThumbnailLimits} {frames : FrameCache τ} :
    overLimits limits frames = false ↔
      frames.length ≤ limits.items ∧ totalBytes frames ≤ limits.bytes := by
  simp [overLimits]

theorem overLimits_nil (limits : ThumbnailLimits) :
    overLimits limits ([] : FrameCache τ) = false := by
  simp [overLimits, totalBytes]

theorem overLimits_single {limits : ThumbnailLimits} {cameraUuid : String}
    {frame : CachedFrame τ} (fits : frame.content.length ≤ limits.bytes) :
    overLimits limits [(cameraUuid, frame)] = false := by
  refine overLimits_iff.mpr ⟨limits.items_pos, ?_⟩
  simpa [totalBytes] using fits

theorem totalBytes_le_of_sublist {kept frames : FrameCache τ} (fewer : kept.Sublist frames) :
    totalBytes kept ≤ totalBytes frames :=
  (fewer.map _).sum_le_sum fun _ _ => Nat.zero_le _

structure BoundedFrames (limits : ThumbnailLimits) (frames : FrameCache τ) : Prop where
  distinct : (frames.map Prod.fst).Nodup
  ended : overLimits limits frames = false

theorem BoundedFrames.empty (limits : ThumbnailLimits) : BoundedFrames limits ([] : FrameCache τ) :=
  ⟨List.nodup_nil, overLimits_nil limits⟩

theorem BoundedFrames.sublist {limits : ThumbnailLimits} {kept frames : FrameCache τ}
    (bounded : BoundedFrames limits frames) (fewer : kept.Sublist frames) :
    BoundedFrames limits kept := by
  obtain ⟨fewItems, fewBytes⟩ := overLimits_iff.mp bounded.ended
  refine ⟨bounded.distinct.sublist (fewer.map _), overLimits_iff.mpr ⟨?_, ?_⟩⟩
  · exact fewer.length_le.trans fewItems
  · exact (totalBytes_le_of_sublist fewer).trans fewBytes

/-! Single steps. -/

variable [LinearOrder τ] {limits : ThumbnailLimits} {frames : FrameCache τ}

/-- Every frame that is held was captured before `now`. -/
def CapturedBefore (frames : FrameCache τ) (now : τ) : Prop :=
  ∀ entry ∈ frames, entry.2.capturedAt < now

/-- What a call leaves behind, where the clock has moved on since the frames it finds. -/
structure CacheCall (limits : ThumbnailLimits) (frames : FrameCache τ) (cameraUuid : String)
    (frame : CachedFrame τ) (kept : FrameCache τ) : Prop where
  bounded : BoundedFrames limits kept
  held : cachedFrame kept cameraUuid =
    if limits.bytes < frame.content.length then none else some frame
  source : ∀ entry ∈ kept, entry ∈ frames ∨ entry = (cameraUuid, frame)

omit [LinearOrder τ] in
/-- A frame too large takes the camera's earlier one with it. -/
theorem cacheFrame_oversized (bounded : BoundedFrames limits frames) (cameraUuid : String)
    {content : List UInt8} {now : τ} (oversized : limits.bytes < content.length) :
    CacheCall limits frames cameraUuid ⟨content, now⟩ (eraseKey frames cameraUuid) where
  bounded := bounded.sublist List.filter_sublist
  held := by
    rw [if_pos oversized, cachedFrame, lookup_eraseKey, if_pos rfl]
  source entry member := .inl (mem_eraseKey.mp member).1

/-- The loop over the frames with the new one set leaves the new one. -/
theorem cacheFrame_fitting (bounded : BoundedFrames limits frames) {cameraUuid : String}
    {frame : CachedFrame τ} (earlier : CapturedBefore frames frame.capturedAt)
    (fits : frame.content.length ≤ limits.bytes) {kept : FrameCache τ}
    (result : evictOldest (overLimits limits) CachedFrame.capturedAt
      (setKey frames cameraUuid frame) = some kept)
    (ended : overLimits limits kept = false) :
    CacheCall limits frames cameraUuid frame kept := by
  have distinct := nodup_setKey bounded.distinct cameraUuid frame
  have isSet : (cameraUuid, frame) ∈ setKey frames cameraUuid frame := by
    apply mem_of_lookup
    rw [lookup_setKey, if_pos rfl]
  have older (entry : String × CachedFrame τ) (member : entry ∈ setKey frames cameraUuid frame)
      (other : entry ≠ (cameraUuid, frame)) : entry.2.capturedAt < frame.capturedAt := by
    rcases mem_setKey member with isHeld | isNew
    · exact earlier entry isHeld
    · exact absurd isNew other
  have fewer := evictOldest_sublist (overLimits_nil limits) result
  have stays := evictOldest_keeps_newest (overLimits_nil limits) (overLimits_single fits)
    distinct isSet older result
  have keptDistinct : (kept.map Prod.fst).Nodup := distinct.sublist (fewer.map _)
  refine ⟨⟨keptDistinct, ended⟩, ?_, ?_⟩
  · rw [if_neg (Nat.not_lt.mpr fits), cachedFrame]
    exact (mem_iff_lookup keptDistinct).mp stays
  · exact fun entry member => mem_setKey (fewer.subset member)

/-- One call: the loop ends, and the frame it caches is the one it returns. -/
theorem cacheFrame_spec (bounded : BoundedFrames limits frames) (cameraUuid : String)
    (content : List UInt8) {now : τ} (earlier : CapturedBefore frames now) :
    ∃ kept, cacheFrame limits frames cameraUuid content now = some (⟨content, now⟩, kept) ∧
      CacheCall limits frames cameraUuid ⟨content, now⟩ kept := by
  by_cases oversized : limits.bytes < content.length
  · refine ⟨_, ?_, cacheFrame_oversized bounded cameraUuid oversized⟩
    rw [cacheFrame, if_pos oversized]
  · obtain ⟨kept, result, ended⟩ := evictOldest_ends CachedFrame.capturedAt
      (overLimits_nil limits) (setKey frames cameraUuid ⟨content, now⟩)
    refine ⟨kept, ?_, ?_⟩
    · rw [cacheFrame, if_neg oversized, result, Option.map_some]
    · exact cacheFrame_fitting bounded earlier (Nat.not_lt.mp oversized) result ended

/-- A frame that a call evicts is no newer than any that stays. -/
theorem cacheFrame_keeps_newer (bounded : BoundedFrames limits frames) {cameraUuid : String}
    {content : List UInt8} {now : τ} {frame : CachedFrame τ} {kept : FrameCache τ}
    (result : cacheFrame limits frames cameraUuid content now = some (frame, kept))
    {gone stays : String × CachedFrame τ} (listed : gone ∈ frames)
    (other : gone.1 ≠ cameraUuid) (isGone : gone ∉ kept) (isKept : stays ∈ kept) :
    gone.2.capturedAt ≤ stays.2.capturedAt := by
  unfold cacheFrame at result
  split at result
  · obtain ⟨-, rfl⟩ := Prod.mk.inj (Option.some.inj result)
    exact absurd (mem_eraseKey.mpr ⟨listed, other⟩) isGone
  · obtain ⟨evicted, ended, same⟩ := Option.map_eq_some_iff.mp result
    obtain ⟨-, rfl⟩ := Prod.mk.inj same
    have distinct := nodup_setKey bounded.distinct cameraUuid ⟨content, now⟩
    have isSet : gone ∈ setKey frames cameraUuid ⟨content, now⟩ := by
      apply (mem_iff_lookup distinct).mpr
      rw [lookup_setKey, if_neg other]
      exact (mem_iff_lookup bounded.distinct).mp listed
    exact evictOldest_keeps_newer (overLimits_nil limits) distinct ended isSet isGone isKept

omit [LinearOrder τ] in
theorem dropInactive_spec (bounded : BoundedFrames limits frames) (activeCameraIds : List String) :
    BoundedFrames limits (dropInactive frames activeCameraIds) ∧
      ∀ entry ∈ dropInactive frames activeCameraIds, entry ∈ frames :=
  ⟨bounded.sublist List.filter_sublist, fun _ member => (List.mem_filter.mp member).1⟩

/-! Whole runs. -/

/-- A step keeps the bounds; the frames it adds are stamped by its clock. -/
theorem frameStep_spec (bounded : BoundedFrames limits frames) (step : FrameStep τ)
    (earlier : ∀ now ∈ step.clock, CapturedBefore frames now) :
    ∃ kept, frameStep limits frames step = some kept ∧ BoundedFrames limits kept ∧
      ∀ entry ∈ kept, entry ∈ frames ∨ entry.2.capturedAt ∈ step.clock := by
  cases step with
  | captured cameraUuid content now =>
      obtain ⟨kept, result, call⟩ := cacheFrame_spec bounded cameraUuid content (earlier now rfl)
      refine ⟨kept, ?_, call.bounded, ?_⟩
      · rw [frameStep, result, Option.map_some]
      · intro entry member
        rcases call.source entry member with isHeld | rfl
        · exact .inl isHeld
        · exact .inr rfl
  | observed activeCameraIds =>
      obtain ⟨keptBounds, isHeld⟩ := dropInactive_spec bounded activeCameraIds
      exact ⟨_, rfl, keptBounds, fun entry member => .inl (isHeld entry member)⟩

/-- The run never raises, keeps the bounds, and holds frames stamped by the clocks of its steps. -/
theorem frameRun_spec (steps : List (FrameStep τ)) (bounded : BoundedFrames limits frames)
    (clock : (steps.filterMap FrameStep.clock).Pairwise (· < ·))
    (earlier : ∀ now ∈ steps.filterMap FrameStep.clock, CapturedBefore frames now) :
    ∃ kept, frameRun limits steps frames = some kept ∧ BoundedFrames limits kept ∧
      ∀ entry ∈ kept,
        entry ∈ frames ∨ entry.2.capturedAt ∈ steps.filterMap FrameStep.clock := by
  induction steps generalizing frames with
  | nil => exact ⟨frames, rfl, bounded, fun entry member => .inl member⟩
  | cons step rest ih =>
      have clocks : (step :: rest).filterMap FrameStep.clock =
          step.clock.toList ++ rest.filterMap FrameStep.clock := by
        cases isClock : step.clock <;> simp [isClock]
      rw [clocks] at clock earlier ⊢
      obtain ⟨-, restClock, later⟩ := List.pairwise_append.mp clock
      obtain ⟨next, result, nextBounded, source⟩ := frameStep_spec bounded step
        fun now isNow => earlier now (List.mem_append_left _ (Option.mem_toList.mpr isNow))
      have nextEarlier (now : τ) (isLater : now ∈ rest.filterMap FrameStep.clock) :
          CapturedBefore next now := by
        intro entry member
        rcases source entry member with isHeld | isNew
        · exact earlier now (List.mem_append_right _ isLater) entry isHeld
        · exact later _ (Option.mem_toList.mpr isNew) now isLater
      obtain ⟨kept, restResult, keptBounded, restSource⟩ := ih nextBounded restClock nextEarlier
      refine ⟨kept, ?_, keptBounded, ?_⟩
      · rw [frameRun, List.foldlM_cons, result]
        exact restResult
      · intro entry member
        rcases restSource entry member with isNext | isLater
        · rcases source entry isNext with isHeld | isNew
          · exact .inl isHeld
          · exact .inr (List.mem_append_left _ (Option.mem_toList.mpr isNew))
        · exact .inr (List.mem_append_right _ isLater)

/-- After any run the next call leaves the cache within both limits, and holding its frame unless
that frame alone is too large. -/
theorem cache_keeps_limits_and_newest (limits : ThumbnailLimits) (steps : List (FrameStep τ))
    (cameraUuid : String) (content : List UInt8) (now : τ)
    (clock : ((steps ++ [FrameStep.captured cameraUuid content now]).filterMap
      FrameStep.clock).Pairwise (· < ·)) :
    ∃ frames kept, frameRun limits steps [] = some frames ∧
      cacheFrame limits frames cameraUuid content now = some (⟨content, now⟩, kept) ∧
      kept.length ≤ limits.items ∧ totalBytes kept ≤ limits.bytes ∧
      overLimits limits kept = false ∧
      cachedFrame kept cameraUuid =
        if limits.bytes < content.length then none else some ⟨content, now⟩ := by
  rw [List.filterMap_append] at clock
  obtain ⟨stepClock, -, before⟩ := List.pairwise_append.mp clock
  obtain ⟨frames, run, bounded, source⟩ := frameRun_spec steps (BoundedFrames.empty limits)
    stepClock fun _ _ entry member => absurd member List.not_mem_nil
  have earlier : CapturedBefore frames now := by
    intro entry member
    rcases source entry member with isHeld | isStamped
    · exact absurd isHeld List.not_mem_nil
    · exact before _ isStamped now (List.mem_singleton.mpr rfl)
  obtain ⟨kept, result, call⟩ := cacheFrame_spec bounded cameraUuid content earlier
  obtain ⟨fewItems, fewBytes⟩ := overLimits_iff.mp call.bounded.ended
  exact ⟨frames, kept, run, result, fewItems, fewBytes, call.bounded.ended, call.held⟩

/-- The second frame of the front camera takes the first one's place, but leaves after the yard's;
the gate's then needs its room. -/
theorem front_frame_makes_room :
    ∃ frames kept, frameRun (thumbnailLimits 2 4)
        [.captured "front" [1, 2] 10, .captured "yard" [3, 4] 11,
          .captured "front" [5, 6, 7] 12] [] = some frames ∧
      cacheFrame (thumbnailLimits 2 4) frames "gate" [8, 9] (13 : Nat) =
        some (⟨[8, 9], 13⟩, kept) ∧
      kept.length ≤ 2 ∧ totalBytes kept ≤ 4 ∧
      overLimits (thumbnailLimits 2 4) kept = false ∧
      cachedFrame kept "gate" = some ⟨[8, 9], 13⟩ :=
  cache_keeps_limits_and_newest (thumbnailLimits 2 4)
    [.captured "front" [1, 2] 10, .captured "yard" [3, 4] 11, .captured "front" [5, 6, 7] 12]
    "gate" [8, 9] 13 (by decide)

end CamAdmiral
