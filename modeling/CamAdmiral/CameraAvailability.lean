import CamAdmiral.Rounding
import CamAdmiral.StorageCore
import CamAdmiral.Timeline
import CamAdmiral.Timestamps

/-!
The availability of a camera over a window. The events are selected and sorted by the text of
their timestamps; the boundaries of the buckets are exact.
-/

namespace CamAdmiral

/-! Events and windows. -/

structure HealthEventRow where
  eventId : Nat
  cameraUuid : String
  state : CameraState
  reason : String
  observedAt : Moment

/-- A window of whole hours before its end. -/
structure AvailabilityWindow where
  hours : Int
  start : Moment
  finish : Moment
  spans : (start.instant : Int) + hours * 3600 * 10 ^ 6 = finish.instant

/-- The time of a moment in microseconds. -/
def timeOf (moment : Moment) : ℚ := moment.instant

/-- `ORDER BY observed_at, event_id`. -/
def eventOrder (first second : HealthEventRow) : Bool :=
  isoformat first.observedAt < isoformat second.observedAt ||
    (isoformat first.observedAt = isoformat second.observedAt && first.eventId ≤ second.eventId)

/-- The last event before the window. -/
def previousEvent (events : List HealthEventRow) (cameraUuid : String) (start : Moment) :
    Option HealthEventRow :=
  ((events.filter fun event =>
    event.cameraUuid = cameraUuid && isoformat event.observedAt < isoformat start).mergeSort
      fun first second => eventOrder second first).head?

/-- The events in the window. -/
def windowEvents (events : List HealthEventRow) (cameraUuid : String) (start finish : Moment) :
    List HealthEventRow :=
  (events.filter fun event =>
    event.cameraUuid = cameraUuid && isoformat start ≤ isoformat event.observedAt &&
      isoformat event.observedAt ≤ isoformat finish).mergeSort eventOrder

abbrev HealthStretch := Stretch ℚ (CameraState × String)

/-! The segments. -/

/-- What the loop over the rows has gathered: the cursor, the state and reason that hold there,
and the segments up to it. -/
structure SegmentLoop where
  cursor : ℚ
  value : CameraState × String
  segments : List HealthStretch := []

/-- The body of the loop. -/
def segmentStep (start finish : ℚ) (gathered : SegmentLoop) (row : HealthEventRow) :
    SegmentLoop :=
  let observedAt := min finish (max start (timeOf row.observedAt))
  {
    cursor := observedAt
    value := (row.state, row.reason)
    segments :=
      if gathered.cursor < observedAt then
        gathered.segments ++ [⟨gathered.cursor, observedAt, gathered.value⟩]
      else
        gathered.segments }

def availabilitySegments (events : List HealthEventRow) (cameraUuid : String)
    (window : AvailabilityWindow) : List HealthStretch :=
  let start := timeOf window.start
  let finish := timeOf window.finish
  let value :=
    match previousEvent events cameraUuid window.start with
    | some previous => (previous.state, previous.reason)
    | none => (.unknown, "no_observation")
  let gathered := (windowEvents events cameraUuid window.start window.finish).foldl
    (segmentStep start finish) { cursor := start, value := value }
  if gathered.cursor < finish then
    gathered.segments ++ [⟨gathered.cursor, finish, gathered.value⟩]
  else
    gathered.segments

/-! The buckets. -/

structure BucketSegment where
  start : ℚ
  finish : ℚ
  state : CameraState
  reason : String
  seconds : ℚ
  deriving DecidableEq

structure AvailabilityBucket where
  start : ℚ
  finish : ℚ
  state : CameraState
  reason : String
  segments : List BucketSegment
  deriving DecidableEq

def bucketSegments (segments : List HealthStretch) (start finish : ℚ) : List BucketSegment :=
  (segments.filter fun segment => segment.start < finish && start < segment.finish).filterMap
    fun segment =>
      let clippedStart := max segment.start start
      let clippedEnd := min segment.finish finish
      if clippedEnd ≤ clippedStart then none
      else some {
        start := clippedStart
        finish := clippedEnd
        state := segment.value.1
        reason := segment.value.2
        seconds := roundPlaces 3 ((clippedEnd - clippedStart) / 10 ^ 6) }

def availabilityBucket (segments : List HealthStretch) (start length : ℚ) (position : Nat) :
    AvailabilityBucket :=
  let bucketStart := start + length * position
  let bucketEnd := start + length * (position + 1 : Nat)
  let parts := bucketSegments segments bucketStart bucketEnd
  {
    start := bucketStart
    finish := bucketEnd
    state := (parts.getLast?.map BucketSegment.state).getD .unknown
    reason := (parts.getLast?.map BucketSegment.reason).getD "no_observation"
    segments := parts }

structure Availability where
  window : String
  start : String
  finish : String
  availabilityPercent : Option ℚ
  observedSeconds : ℚ
  buckets : List AvailabilityBucket

def isObservedState (value : CameraState × String) : Bool :=
  value.1 ∈ [CameraState.healthy, .degraded, .offline, .authFailed]

def isHealthyState (value : CameraState × String) : Bool :=
  isObservedState value && value.1 = .healthy

/-- The observed and the healthy time in seconds. -/
def observedSeconds (segments : List HealthStretch) : ℚ :=
  countedTime isObservedState segments / 10 ^ 6

def healthySeconds (segments : List HealthStretch) : ℚ :=
  countedTime isHealthyState segments / 10 ^ 6

/-- `camera_availability`; no result where the camera is not known. -/
def cameraAvailability (cameras : List String) (events : List HealthEventRow)
    (cameraUuid : String) (window : AvailabilityWindow) (bucketCount : Int) :
    Except String (Option Availability) :=
  if window.hours ≤ 0 || bucketCount ≤ 0 then .error "Availability window must be positive"
  else if cameraUuid ∉ cameras then .ok none
  else
    let segments := availabilitySegments events cameraUuid window
    let start := timeOf window.start
    let length := (timeOf window.finish - start) / bucketCount
    .ok (some {
      window := toString window.hours ++ "h"
      start := isoformat window.start
      finish := isoformat window.finish
      availabilityPercent :=
        if 0 < observedSeconds segments then
          some (roundPlaces 2 (healthySeconds segments * 100 / observedSeconds segments))
        else
          none
      observedSeconds := roundPlaces 3 (observedSeconds segments)
      buckets := (List.range bucketCount.toNat).map (availabilityBucket segments start length) })

/-! What the log shows. -/

/-- The event is the last one of the camera at or before a time. -/
def LatestAt (events : List HealthEventRow) (cameraUuid : String) (time : ℚ)
    (event : HealthEventRow) : Prop :=
  event ∈ events ∧ event.cameraUuid = cameraUuid ∧ timeOf event.observedAt ≤ time ∧
    ∀ other ∈ events, other.cameraUuid = cameraUuid → timeOf other.observedAt ≤ time →
      timeOf other.observedAt < timeOf event.observedAt ∨
        timeOf other.observedAt = timeOf event.observedAt ∧ other.eventId ≤ event.eventId

/-- The value is that of the latest event, or of no observation. -/
def ShowsLog (events : List HealthEventRow) (cameraUuid : String) (time : ℚ)
    (value : CameraState × String) : Prop :=
  (∃ event, LatestAt events cameraUuid time event ∧ value = (event.state, event.reason)) ∨
    (∀ event ∈ events, event.cameraUuid = cameraUuid → time < timeOf event.observedAt) ∧
      value = (.unknown, "no_observation")

/-! Texts of timestamps select and sort like times. -/

theorem timeOf_lt {first second : Moment} :
    isoformat first < isoformat second ↔ timeOf first < timeOf second := by
  rw [isoformat_lt_iff, timeOf, timeOf, Nat.cast_lt]

theorem timeOf_eq {first second : Moment} :
    isoformat first = isoformat second ↔ timeOf first = timeOf second := by
  rw [(isoformat_order first second).2.1, timeOf, timeOf, Nat.cast_inj]

theorem timeOf_le {first second : Moment} :
    isoformat first ≤ isoformat second ↔ timeOf first ≤ timeOf second := by
  rw [← not_lt, ← not_lt, timeOf_lt]

theorem eventOrder_iff (first second : HealthEventRow) :
    eventOrder first second = true ↔
      timeOf first.observedAt < timeOf second.observedAt ∨
        timeOf first.observedAt = timeOf second.observedAt ∧ first.eventId ≤ second.eventId := by
  rw [eventOrder, Bool.or_eq_true, Bool.and_eq_true, decide_eq_true_eq, decide_eq_true_eq,
    decide_eq_true_eq, timeOf_lt, timeOf_eq]

theorem eventOrder_trans (first second third : HealthEventRow)
    (before : eventOrder first second = true) (after : eventOrder second third = true) :
    eventOrder first third = true := by
  rw [eventOrder_iff] at *
  rcases before with earlier | ⟨sameTime, ids⟩
  · rcases after with later | ⟨sameTime', ids'⟩
    · exact .inl (earlier.trans later)
    · exact .inl (earlier.trans_eq sameTime')
  · rcases after with later | ⟨sameTime', ids'⟩
    · exact .inl (sameTime.trans_lt later)
    · exact .inr ⟨sameTime.trans sameTime', ids.trans ids'⟩

theorem eventOrder_total (first second : HealthEventRow) :
    (eventOrder first second || eventOrder second first) = true := by
  rw [Bool.or_eq_true, eventOrder_iff, eventOrder_iff]
  rcases lt_trichotomy (timeOf first.observedAt) (timeOf second.observedAt) with
    earlier | same | later
  · exact .inl (.inl earlier)
  · exact (Nat.le_total first.eventId second.eventId).imp (fun ids => .inr ⟨same, ids⟩)
      fun ids => .inr ⟨same.symm, ids⟩
  · exact .inr (.inl later)

theorem mem_windowEvents {events : List HealthEventRow} {cameraUuid : String}
    {start finish : Moment} {event : HealthEventRow} :
    event ∈ windowEvents events cameraUuid start finish ↔
      event ∈ events ∧ event.cameraUuid = cameraUuid ∧
        timeOf start ≤ timeOf event.observedAt ∧ timeOf event.observedAt ≤ timeOf finish := by
  rw [windowEvents, List.mem_mergeSort, List.mem_filter, Bool.and_eq_true, Bool.and_eq_true,
    decide_eq_true_eq, decide_eq_true_eq, decide_eq_true_eq, timeOf_le, timeOf_le, and_assoc]

theorem windowEvents_sorted (events : List HealthEventRow) (cameraUuid : String)
    (start finish : Moment) :
    (windowEvents events cameraUuid start finish).Pairwise fun first second =>
      eventOrder first second = true :=
  List.pairwise_mergeSort eventOrder_trans eventOrder_total _

/-- The member that the query sorts first is not before any other. -/
theorem previousEvent_some {events : List HealthEventRow} {cameraUuid : String} {start : Moment}
    {event : HealthEventRow} (found : previousEvent events cameraUuid start = some event) :
    (event ∈ events ∧ event.cameraUuid = cameraUuid ∧
        timeOf event.observedAt < timeOf start) ∧
      ∀ other ∈ events, other.cameraUuid = cameraUuid →
        timeOf other.observedAt < timeOf start → eventOrder other event = true := by
  rw [previousEvent] at found
  have selected (other : HealthEventRow) : other ∈ events.filter (fun event =>
      event.cameraUuid = cameraUuid && isoformat event.observedAt < isoformat start) ↔
      other ∈ events ∧ other.cameraUuid = cameraUuid ∧
        timeOf other.observedAt < timeOf start := by
    rw [List.mem_filter, Bool.and_eq_true, decide_eq_true_eq, decide_eq_true_eq, timeOf_lt]
  generalize events.filter _ = before at found selected
  have sorted := @List.pairwise_mergeSort _ (fun first second => eventOrder second first)
    (fun first second third after before => eventOrder_trans third second first before after)
    (fun first second => eventOrder_total second first) before
  have member : event ∈ before := List.mem_mergeSort.mp (List.mem_of_head? found)
  refine ⟨(selected event).mp member, fun other isOther same earlier => ?_⟩
  have isSorted : other ∈ before.mergeSort fun first second => eventOrder second first :=
    List.mem_mergeSort.mpr ((selected other).mpr ⟨isOther, same, earlier⟩)
  obtain ⟨rest, split⟩ := List.head?_eq_some_iff.mp found
  rw [split] at sorted isSorted
  rcases List.mem_cons.mp isSorted with rfl | later
  · exact (eventOrder_iff _ _).mpr (.inr ⟨rfl, le_refl _⟩)
  · exact (List.pairwise_cons.mp sorted).1 other later

theorem previousEvent_none {events : List HealthEventRow} {cameraUuid : String} {start : Moment}
    (missing : previousEvent events cameraUuid start = none) {event : HealthEventRow}
    (member : event ∈ events) (same : event.cameraUuid = cameraUuid) :
    timeOf start ≤ timeOf event.observedAt := by
  rw [previousEvent, List.head?_eq_none_iff] at missing
  by_contra earlier
  rw [not_le, ← timeOf_lt] at earlier
  have selected : event ∈ ([] : List HealthEventRow) := by
    rw [← missing, List.mem_mergeSort, List.mem_filter, Bool.and_eq_true, decide_eq_true_eq,
      decide_eq_true_eq]
    exact ⟨member, same, earlier⟩
  cases selected

/-! The segments are the stretches of the log. -/

def logEntry (row : HealthEventRow) : ℚ × (CameraState × String) :=
  (timeOf row.observedAt, (row.state, row.reason))

/-- The value that holds at the start of the window. -/
def valueBefore (events : List HealthEventRow) (cameraUuid : String) (start : Moment) :
    CameraState × String :=
  match previousEvent events cameraUuid start with
  | some previous => (previous.state, previous.reason)
  | none => (.unknown, "no_observation")

/-- The loop adds the stretches of the rows to what it has gathered. -/
theorem foldl_segmentStep {start finish : ℚ} {rows : List HealthEventRow}
    (bounds : ∀ row ∈ rows, start ≤ timeOf row.observedAt ∧ timeOf row.observedAt ≤ finish)
    (gathered : SegmentLoop) :
    (if (rows.foldl (segmentStep start finish) gathered).cursor < finish then
        (rows.foldl (segmentStep start finish) gathered).segments ++
          [⟨(rows.foldl (segmentStep start finish) gathered).cursor, finish,
            (rows.foldl (segmentStep start finish) gathered).value⟩]
      else
        (rows.foldl (segmentStep start finish) gathered).segments) =
      gathered.segments ++
        logStretches finish gathered.cursor gathered.value (rows.map logEntry) := by
  induction rows generalizing gathered with
  | nil =>
      rw [List.foldl_nil, List.map_nil, logStretches]
      by_cases before : gathered.cursor < finish
      · rw [if_pos before, if_pos before]
      · rw [if_neg before, if_neg before, List.append_nil]
  | cons row rest ih =>
      obtain ⟨after, before⟩ := bounds row List.mem_cons_self
      have clamped : min finish (max start (timeOf row.observedAt)) = timeOf row.observedAt := by
        rw [max_eq_right after, min_eq_right before]
      have stepped := ih (fun other member => bounds other (List.mem_cons_of_mem _ member))
        (segmentStep start finish gathered row)
      rw [List.foldl_cons, stepped, segmentStep, clamped, List.map_cons, logEntry, logStretches]
      simp only
      split
      · rw [List.append_assoc]
      · rw [List.nil_append]

theorem inWindow {events : List HealthEventRow} {cameraUuid : String}
    {window : AvailabilityWindow} {entry : ℚ × (CameraState × String)}
    (member : entry ∈ (windowEvents events cameraUuid window.start window.finish).map logEntry) :
    timeOf window.start ≤ entry.1 ∧ entry.1 ≤ timeOf window.finish := by
  obtain ⟨row, isRow, rfl⟩ := List.mem_map.mp member
  exact (mem_windowEvents.mp isRow).2.2

theorem availabilitySegments_eq (events : List HealthEventRow) (cameraUuid : String)
    (window : AvailabilityWindow) :
    availabilitySegments events cameraUuid window =
      logStretches (timeOf window.finish) (timeOf window.start)
        (valueBefore events cameraUuid window.start)
        ((windowEvents events cameraUuid window.start window.finish).map logEntry) := by
  have bounds : ∀ row ∈ windowEvents events cameraUuid window.start window.finish,
      timeOf window.start ≤ timeOf row.observedAt ∧
        timeOf row.observedAt ≤ timeOf window.finish :=
    fun row member => (mem_windowEvents.mp member).2.2
  have looped := foldl_segmentStep bounds {
    cursor := timeOf window.start
    value := valueBefore events cameraUuid window.start }
  rw [List.nil_append] at looped
  exact looped

theorem entries_ordered (events : List HealthEventRow) (cameraUuid : String)
    (start finish : Moment) :
    ((windowEvents events cameraUuid start finish).map logEntry).Pairwise
      fun earlier later => earlier.1 ≤ later.1 := by
  rw [List.pairwise_map]
  refine (windowEvents_sorted events cameraUuid start finish).imp ?_
  intro first second sorted
  rcases (eventOrder_iff first second).mp sorted with earlier | ⟨same, _⟩
  · exact earlier.le
  · exact same.le

/-- The value of the log is that of the latest event, which may be before the window. -/
theorem logValue_shows (events : List HealthEventRow) (cameraUuid : String)
    (window : AvailabilityWindow) {time : ℚ} (after : timeOf window.start ≤ time)
    (before : time < timeOf window.finish) :
    ShowsLog events cameraUuid time
      (logValue (valueBefore events cameraUuid window.start)
        ((windowEvents events cameraUuid window.start window.finish).map logEntry) time) := by
  have sorted := (windowEvents_sorted events cameraUuid window.start window.finish).filter
    fun row => timeOf row.observedAt ≤ time
  have member (row : HealthEventRow) :
      row ∈ (windowEvents events cameraUuid window.start window.finish).filter
        (fun row => timeOf row.observedAt ≤ time) ↔
      (row ∈ events ∧ row.cameraUuid = cameraUuid ∧ timeOf window.start ≤ timeOf row.observedAt ∧
        timeOf row.observedAt ≤ timeOf window.finish) ∧ timeOf row.observedAt ≤ time := by
    rw [List.mem_filter, mem_windowEvents, decide_eq_true_eq]
  have mapped : ((windowEvents events cameraUuid window.start window.finish).map logEntry).filter
      (fun entry => entry.1 ≤ time) =
        ((windowEvents events cameraUuid window.start window.finish).filter
          fun row => timeOf row.observedAt ≤ time).map logEntry := by
    rw [List.filter_map]
    rfl
  rw [logValue, mapped, List.getLast?_map]
  generalize (windowEvents events cameraUuid window.start window.finish).filter _ = rows
    at sorted member
  cases isLast : rows.getLast? with
  | some last =>
      obtain ⟨others, split⟩ := List.getLast?_eq_some_iff.mp isLast
      have isRow : last ∈ rows := split ▸ List.mem_append_right others (List.mem_singleton.mpr rfl)
      obtain ⟨⟨inLog, same, inside, _⟩, notLater⟩ := (member last).mp isRow
      refine .inl ⟨last, ⟨inLog, same, notLater, fun other isOther ofCamera early => ?_⟩, rfl⟩
      by_cases outside : timeOf other.observedAt < timeOf window.start
      · exact .inl (outside.trans_le inside)
      · have listed := (member other).mpr
          ⟨⟨isOther, ofCamera, not_lt.mp outside, (early.trans_lt before).le⟩, early⟩
        rw [split, List.mem_append, List.mem_singleton] at listed
        rw [split] at sorted
        rcases listed with earlier | rfl
        · exact (eventOrder_iff other last).mp
            ((List.pairwise_append.mp sorted).2.2 other earlier last (List.mem_singleton.mpr rfl))
        · exact .inr ⟨rfl, le_refl _⟩
  | none =>
      rw [List.getLast?_eq_none_iff] at isLast
      subst isLast
      -- No event lies between the start of the window and the time.
      have outside : ∀ event ∈ events, event.cameraUuid = cameraUuid →
          timeOf event.observedAt ≤ time → timeOf event.observedAt < timeOf window.start := by
        intro event isEvent ofCamera early
        by_contra inside
        cases (member event).mpr
          ⟨⟨isEvent, ofCamera, not_lt.mp inside, (early.trans_lt before).le⟩, early⟩
      rw [Option.map_none, Option.map_none, Option.getD_none, valueBefore]
      cases found : previousEvent events cameraUuid window.start with
      | some previous =>
          obtain ⟨⟨inLog, same, earlier⟩, first⟩ := previousEvent_some found
          exact .inl ⟨previous, ⟨inLog, same, (earlier.trans_le after).le,
            fun other isOther ofCamera early => (eventOrder_iff other previous).mp
              (first other isOther ofCamera (outside other isOther ofCamera early))⟩, rfl⟩
      | none =>
          refine .inr ⟨fun event isEvent ofCamera => ?_, rfl⟩
          by_contra early
          exact absurd (outside event isEvent ofCamera (not_lt.mp early))
            (not_lt.mpr (previousEvent_none found isEvent ofCamera))

/-! The buckets. -/

def BucketSegment.ofStretch (stretch : HealthStretch) : BucketSegment where
  start := stretch.start
  finish := stretch.finish
  state := stretch.value.1
  reason := stretch.value.2
  seconds := roundPlaces 3 ((stretch.finish - stretch.start) / 10 ^ 6)

def AvailabilityBucket.span (bucket : AvailabilityBucket) : Stretch ℚ Unit :=
  ⟨bucket.start, bucket.finish, ()⟩

/-- A segment without overlap has nothing left to clip, so that its selection decides nothing. -/
theorem bucketSegments_eq (segments : List HealthStretch) (start finish : ℚ) :
    bucketSegments segments start finish =
      (segments.filterMap (clip start finish)).map BucketSegment.ofStretch := by
  rw [bucketSegments, List.filterMap_filter, List.map_filterMap]
  refine congrArg (segments.filterMap ·) (funext fun segment => ?_)
  by_cases overlap : max segment.start start < min segment.finish finish
  · have selected : segment.start < finish ∧ start < segment.finish :=
      ⟨(le_max_left _ _).trans_lt (overlap.trans_le (min_le_right _ _)),
        (le_max_right _ _).trans_lt (overlap.trans_le (min_le_left _ _))⟩
    simp only [clip, selected, overlap, not_le.mpr overlap, if_true, if_false, decide_true,
      Bool.and_self, Option.map_some, BucketSegment.ofStretch]
  · simp only [clip, overlap, not_lt.mp overlap, if_true, if_false, ite_self, Option.map_none]

theorem buckets_tile (segments : List HealthStretch) (start : ℚ) {length : ℚ}
    (positive : 0 < length) (count : Nat) :
    Tiles start (start + length * count)
      (((List.range count).map (availabilityBucket segments start length)).map
        AvailabilityBucket.span) := by
  induction count with
  | zero =>
      rw [Nat.cast_zero, mul_zero, add_zero]
      exact rfl
  | succ count ih =>
      have longer : start + length * count < start + length * (count + 1 : Nat) := by
        push_cast
        linarith
      rw [List.range_succ, List.map_append, List.map_append]
      exact ih.concat longer ()

/-! The view. -/

theorem window_length (window : AvailabilityWindow) :
    timeOf window.finish - timeOf window.start = window.hours * 3600 * 10 ^ 6 := by
  have spans : ((window.start.instant : Int) : ℚ) + window.hours * 3600 * 10 ^ 6 =
      ((window.finish.instant : Int) : ℚ) := by
    rw [← window.spans]
    push_cast
    ring
  rw [timeOf, timeOf, sub_eq_iff_eq_add, add_comm]
  exact_mod_cast spans.symm

theorem window_nonempty {window : AvailabilityWindow} (positive : 0 < window.hours) :
    timeOf window.start < timeOf window.finish := by
  have hours : (0 : ℚ) < window.hours := Int.cast_pos.mpr positive
  have spans := window_length window
  linarith

theorem availabilitySegments_tiles (events : List HealthEventRow) (cameraUuid : String)
    {window : AvailabilityWindow} (positive : 0 < window.hours) :
    Tiles (timeOf window.start) (timeOf window.finish)
      (availabilitySegments events cameraUuid window) := by
  rw [availabilitySegments_eq]
  exact logStretches_tiles _ (entries_ordered events cameraUuid window.start window.finish)
    (fun entry member => inWindow member) (window_nonempty positive).le

/-- The segment that covers a time shows the log. -/
theorem availabilitySegments_show {events : List HealthEventRow} {cameraUuid : String}
    {window : AvailabilityWindow} (positive : 0 < window.hours) {segment : HealthStretch}
    (member : segment ∈ availabilitySegments events cameraUuid window) {time : ℚ}
    (covers : segment.Covers time) : ShowsLog events cameraUuid time segment.value := by
  obtain ⟨after, _, before⟩ :=
    (availabilitySegments_tiles events cameraUuid positive).within member
  rw [availabilitySegments_eq] at member
  rw [logStretches_value (entries_ordered events cameraUuid window.start window.finish)
    (fun entry isEntry => inWindow isEntry) member covers]
  exact logValue_shows events cameraUuid window (after.trans covers.1)
    (covers.2.trans_le before)

/-- The view of the log as a step function over a window. -/
structure AvailabilityView (events : List HealthEventRow) (cameraUuid : String)
    (window : AvailabilityWindow) (bucketCount : Int) (view : Availability) : Prop where
  tiles : Tiles (timeOf window.start) (timeOf window.finish)
    (availabilitySegments events cameraUuid window)
  shows : ∀ time, timeOf window.start ≤ time → time < timeOf window.finish →
    ∃ segment ∈ availabilitySegments events cameraUuid window, segment.Covers time ∧
      (∀ other ∈ availabilitySegments events cameraUuid window,
        other.Covers time → other = segment) ∧
      ShowsLog events cameraUuid time segment.value
  bucketCount : (view.buckets.length : Int) = bucketCount
  bucketsTile : Tiles (timeOf window.start) (timeOf window.finish)
    (view.buckets.map AvailabilityBucket.span)
  clipped : ∀ bucket ∈ view.buckets,
    bucket.segments = ((availabilitySegments events cameraUuid window).filterMap
        (clip bucket.start bucket.finish)).map BucketSegment.ofStretch ∧
      Tiles bucket.start bucket.finish ((availabilitySegments events cameraUuid window).filterMap
        (clip bucket.start bucket.finish))
  healthyWithinObserved :
    healthySeconds (availabilitySegments events cameraUuid window) ≤
      observedSeconds (availabilitySegments events cameraUuid window)
  observedWithinWindow :
    observedSeconds (availabilitySegments events cameraUuid window) ≤ window.hours * 3600
  reported : view.observedSeconds ≤ window.hours * 3600 ∧
    ∀ percent, view.availabilityPercent = some percent → percent ≤ 100

theorem healthySeconds_le {segments : List HealthStretch} {start finish : ℚ}
    (tiles : Tiles start finish segments) : healthySeconds segments ≤ observedSeconds segments := by
  refine div_le_div_of_nonneg_right (tiles.countedTime_mono fun value healthy => ?_) (by norm_num)
  rw [isHealthyState, Bool.and_eq_true] at healthy
  exact healthy.1

theorem observedSeconds_le {segments : List HealthStretch} {window : AvailabilityWindow}
    (tiles : Tiles (timeOf window.start) (timeOf window.finish) segments) :
    observedSeconds segments ≤ window.hours * 3600 := by
  rw [observedSeconds, div_le_iff₀ (by norm_num), ← window_length]
  exact tiles.countedTime_le isObservedState

theorem percent_le {healthy observed : ℚ} (within : healthy ≤ observed)
    (positive : 0 < observed) : roundPlaces 2 (healthy * 100 / observed) ≤ 100 := by
  have below : healthy * 100 / observed ≤ (100 : Int) := by
    rw [div_le_iff₀ positive]
    push_cast
    linarith
  exact_mod_cast roundPlaces_le below

/-- The view of a known camera shows its log, and its buckets hold the parts of the segments. -/
theorem availability_shows_log (cameras : List String) (events : List HealthEventRow)
    (cameraUuid : String) (window : AvailabilityWindow) (bucketCount : Int)
    (known : cameraUuid ∈ cameras) (positive : 0 < window.hours) (counted : 0 < bucketCount) :
    ∃ view, cameraAvailability cameras events cameraUuid window bucketCount = .ok (some view) ∧
      AvailabilityView events cameraUuid window bucketCount view := by
  have tiles := availabilitySegments_tiles events cameraUuid positive
  have nonempty := window_nonempty positive
  have count : (0 : ℚ) < bucketCount := Int.cast_pos.mpr counted
  have length : 0 < (timeOf window.finish - timeOf window.start) / bucketCount :=
    div_pos (sub_pos.mpr nonempty) count
  have bucketsTile := buckets_tile (availabilitySegments events cameraUuid window)
    (timeOf window.start) length bucketCount.toNat
  have whole : timeOf window.start + (timeOf window.finish - timeOf window.start) / bucketCount *
      bucketCount.toNat = timeOf window.finish := by
    have sameCount : ((bucketCount.toNat : Int) : ℚ) = bucketCount := by
      rw [Int.toNat_of_nonneg counted.le]
    rw [← Int.cast_natCast, sameCount, div_mul_cancel₀ _ count.ne']
    ring
  rw [whole] at bucketsTile
  rw [cameraAvailability, if_neg (by simp [positive, counted]), if_neg (not_not.mpr known)]
  refine ⟨_, rfl, ?_⟩
  constructor
  case tiles => exact tiles
  case shows =>
    intro time after before
    obtain ⟨segment, member, covers, only⟩ := tiles.covered after before
    exact ⟨segment, member, covers, only, availabilitySegments_show positive member covers⟩
  case bucketCount =>
    simp only [List.length_map, List.length_range]
    exact Int.toNat_of_nonneg counted.le
  case bucketsTile => exact bucketsTile
  case clipped =>
    intro bucket isBucket
    obtain ⟨after, inner, before⟩ :=
      bucketsTile.within (List.mem_map_of_mem (f := AvailabilityBucket.span) isBucket)
    have cut := (tiles.clipped inner before).2 (after.trans_lt inner)
    rw [max_eq_right after] at cut
    obtain ⟨position, _, rfl⟩ := List.mem_map.mp isBucket
    exact ⟨bucketSegments_eq _ _ _, cut⟩
  case healthyWithinObserved => exact healthySeconds_le tiles
  case observedWithinWindow => exact observedSeconds_le tiles
  case reported =>
    constructor
    · have below : observedSeconds (availabilitySegments events cameraUuid window) ≤
          (window.hours * 3600 : Int) := by
        push_cast
        exact observedSeconds_le tiles
      exact_mod_cast roundPlaces_le below
    · intro percent shown
      simp only at shown
      split at shown
      · rename_i observed
        rw [← Option.some.inj shown]
        exact percent_le (healthySeconds_le tiles) observed
      · cases shown

/-- A full hour of one day. -/
def fullHour (hour : Fin 24) : Moment where
  year := 2026
  month := 3
  day := 14
  hour := hour
  minute := 0
  second := 0
  microsecond := 0
  validYear := by decide
  validMonth := by decide
  validDay := by decide
  validTime := ⟨hour.isLt, by decide⟩

def morning : AvailabilityWindow where
  hours := 6
  start := fullHour 6
  finish := fullHour 12
  spans := by decide

/-- A log with an event before the window, two at one time and one at its end. -/
def morningEvents : List HealthEventRow := [
  ⟨1, "front-door", .healthy, "first_probe", fullHour 2⟩,
  ⟨2, "front-door", .offline, "probe_failed", fullHour 8⟩,
  ⟨3, "front-door", .healthy, "probe_passed", fullHour 8⟩,
  ⟨4, "front-door", .degraded, "relay_stalled", fullHour 12⟩]

theorem morning_shows_log :
    ∃ view, cameraAvailability ["front-door"] morningEvents "front-door" morning 4 =
        .ok (some view) ∧
      AvailabilityView morningEvents "front-door" morning 4 view :=
  availability_shows_log ["front-door"] morningEvents "front-door" morning 4
    (List.mem_singleton.mpr rfl) (by decide) (by decide)

end CamAdmiral
