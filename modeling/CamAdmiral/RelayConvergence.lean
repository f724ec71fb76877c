import CamAdmiral.RelayRequests

/-!
What a call to go2rtc that returns has achieved: every managed source is served from its
current URI, and no other managed stream is. A go2rtc that answers every request makes the call
return.
-/

namespace CamAdmiral

open Program

namespace Relay

variable {σ : Type} {go2rtc : Go2rtc σ}

/-- The listing of streams is an object with their names. -/
def ListsStreams (go2rtc : Go2rtc σ) : Prop :=
  ∀ now listing, (go2rtc.read .streams now).1 = .ok listing → ∃ names, listing = .mapping names

/-- No request fails, and listings are objects. -/
structure Responds (go2rtc : Go2rtc σ) : Prop where
  reads : ∀ request now, ∃ names, (go2rtc.read request now).1 = .ok (.mapping names)
  writes : ∀ request now, (go2rtc.write request now).1 = .ok ()

/-- A reply to a request, given in this state. -/
def Listed (go2rtc : Go2rtc σ) (request : RelayRead) (listing : Listing) (relay : RelayState) :
    Prop :=
  ∃ now, go2rtc.state now = relay ∧ (go2rtc.read request now).1 = .ok listing

variable {condition : RelayState → Prop}

theorem triple_askOn {request : RelayRead} :
    Triple (On go2rtc condition) (ask go2rtc request)
      (fun listing => On go2rtc fun relay =>
        condition relay ∧ Listed go2rtc request listing relay)
      (fun session => On go2rtc condition session ∧ ¬ Responds go2rtc) := by
  refine triple_ask (fun session listing now holds isAnswer => ?_)
    fun session failure now holds isAnswer => ⟨?_, fun responds => ?_⟩
  · refine ⟨?_, session.relay, (read_same isAnswer).symm, congrArg Prod.fst isAnswer⟩
    rw [read_same isAnswer]
    exact holds
  · rw [On, read_same isAnswer]
    exact holds
  · obtain ⟨names, isListing⟩ := responds.reads request session.relay
    rw [isAnswer] at isListing
    cases isListing

theorem triple_sendOn {request : RelayWrite} {after : RelayState → Prop}
    (succeeds : ∀ relay, condition relay → after (request.apply relay)) :
    Triple (On go2rtc condition) (send go2rtc request) (fun _ => On go2rtc after)
      (fun _ => ¬ Responds go2rtc) := by
  refine triple_send (fun session now holds isAnswer => ?_)
    fun session failure now _ isAnswer responds => ?_
  · rw [On, write_applied isAnswer]
    exact succeeds _ holds
  · have isDone := responds.writes request session.relay
    rw [isAnswer] at isDone
    cases isDone

theorem Listed.streams {names : List String} {relay : RelayState}
    (listed : Listed go2rtc .streams (.mapping names) relay) (name : String) :
    name ∈ names ↔ (relay.served.lookup name).isSome = true := by
  obtain ⟨now, rfl, isListing⟩ := listed
  exact go2rtc.read_streams now names isListing name

theorem Listed.preloads {names : List String} {relay : RelayState}
    (listed : Listed go2rtc .preloads (.mapping names) relay) (name : String) :
    name ∈ names ↔ name ∈ relay.preloads := by
  obtain ⟨now, rfl, isListing⟩ := listed
  exact go2rtc.read_preloads now names isListing name

theorem Listed.mapping {request : RelayRead} {listing : Listing} {relay : RelayState}
    (listed : Listed go2rtc request listing relay) (responds : Responds go2rtc) :
    ∃ names, listing = .mapping names := by
  obtain ⟨now, _, isListing⟩ := listed
  obtain ⟨names, isMapping⟩ := responds.reads request now
  exact ⟨names, Except.ok.inj (isListing.symm.trans isMapping)⟩

theorem triple_waitForGo2rtc (attempts : Nat) :
    Triple (On go2rtc condition) (waitForGo2rtc go2rtc attempts) (fun _ => On go2rtc condition)
      (fun session => On go2rtc condition session ∧ ¬ Responds go2rtc) := by
  induction attempts with
  | zero => exact triple_pure () fun _ => id
  | succ remaining ih =>
      refine triple_catching (Triple.bind _ triple_askOn fun _ =>
        triple_pure () fun session holds => And.left holds) (fun failure _ => ?_) fun _ => id
      split
      · exact triple_fail failure fun _ => id
      · exact ih.weaken (fun _ => And.left) (fun _ _ => id) fun _ => id

/-! What go2rtc has been given. -/

section
variable [TextCase]

/-- The file has the source, with its credentials. -/
def Saved (relay : RelayState) (source : ManagedSource) : Prop :=
  ∃ uri, source.relayUri = some uri ∧ relay.saved.lookup source.streamKey = some [uri]

/-- The source is served as well. -/
def Given (relay : RelayState) (source : ManagedSource) : Prop :=
  ∃ uri, source.relayUri = some uri ∧ relay.served.lookup source.streamKey = some [uri] ∧
    relay.saved.lookup source.streamKey = some [uri]

/-- No managed stream is served but these. -/
def ServesOnly (keys : List String) (relay : RelayState) : Prop :=
  ∀ name, startsWith name streamPrefix = true → (relay.served.lookup name).isSome = true →
    name ∈ keys

/-- Every source has a URI that can be read. -/
def Readable (sources : List ManagedSource) : Prop :=
  ∀ source ∈ sources, source.relayUri.isSome = true

/-- With these items of the listing left to go through. -/
def LeftToDrop (go2rtc : Go2rtc σ) (desired : List String) (items : List (Option String)) :
    MediaSession σ → Prop :=
  On go2rtc fun relay => (Responds go2rtc → none ∉ items) ∧ (ListsStreams go2rtc →
    ∀ name, startsWith name streamPrefix = true → (relay.served.lookup name).isSome = true →
      name ∈ desired ∨ some name ∈ items)

/-- With these sources left to put. -/
def LeftToPut (go2rtc : Go2rtc σ) (sources left : List ManagedSource) :
    MediaSession σ → Prop :=
  On go2rtc fun relay => (∀ source ∈ left, source ∈ sources) ∧
    (ListsStreams go2rtc → ServesOnly (sources.map (·.streamKey)) relay) ∧
    ∀ source ∈ sources, source ∈ left ∨ Given relay source

omit [TextCase] in
theorem triple_dropStale {desired : List String} (first : Option String)
    (rest : List (Option String)) :
    Triple (LeftToDrop go2rtc desired (first :: rest)) (dropStale go2rtc desired first)
      (fun _ => LeftToDrop go2rtc desired rest) (fun _ => ¬ Responds go2rtc) := by
  unfold dropStale
  cases first with
  | none =>
      exact triple_fail _ fun _ holds responds => holds.1 responds List.mem_cons_self
  | some item =>
      have later (holds : Responds go2rtc → none ∉ some item :: rest)
          (responds : Responds go2rtc) : none ∉ rest :=
        fun member => holds responds (List.mem_cons_of_mem _ member)
      dsimp only
      split
      case isTrue =>
        refine triple_sendOn fun relay holds => ⟨later holds.1, ?_⟩
        intro lists name isManaged isServed
        rw [RelayWrite.apply, lookup_eraseKey] at isServed
        split at isServed
        · cases isServed
        case isFalse isOther =>
          refine (holds.2 lists name isManaged isServed).imp_right fun member => ?_
          rcases List.mem_cons.mp member with same | isRest
          · exact absurd (Option.some.inj same) isOther
          · exact isRest
      case isFalse notStale =>
        refine triple_pure () fun session holds => ⟨later holds.1, ?_⟩
        intro lists name isManaged isServed
        rcases holds.2 lists name isManaged isServed with isDesired | member
        · exact .inl isDesired
        · rcases List.mem_cons.mp member with same | isRest
          · obtain rfl := Option.some.inj same
            rw [isManaged, Bool.true_and, decide_eq_true_eq, not_not] at notStale
            exact .inl notStale
          · exact .inr isRest

theorem triple_putSource {sources : List ManagedSource} (keys : ManagedKeys sources)
    (first : ManagedSource) (rest : List ManagedSource) :
    Triple (LeftToPut go2rtc sources (first :: rest)) (putSource go2rtc first)
      (fun _ => LeftToPut go2rtc sources rest)
      (fun _ => ¬ (Responds go2rtc ∧ Readable sources)) := by
  unfold putSource readableUri
  cases isUri : first.relayUri with
  | none =>
      refine triple_fail _ fun session holds excused => ?_
      have isReadable := excused.2 first (holds.1 first List.mem_cons_self)
      rw [isUri] at isReadable
      cases isReadable
  | some uri =>
      refine (triple_sendOn fun relay holds => ?_).weaken (fun _ => id) (fun _ _ => id)
        fun _ fails excused => fails excused.1
      obtain ⟨isSource, only, given⟩ := holds
      have firstSource := isSource first List.mem_cons_self
      refine ⟨fun source member => isSource source (List.mem_cons_of_mem _ member), ?_, ?_⟩
      · intro lists name isManaged isServed
        rw [RelayWrite.apply, lookup_setKey] at isServed
        split at isServed
        case isTrue same =>
          rw [same]
          exact List.mem_map_of_mem firstSource
        case isFalse => exact only lists name isManaged isServed
      · intro source member
        by_cases same : source.streamKey = first.streamKey
        · obtain rfl := keys.unique.eq member firstSource same
          exact .inr ⟨uri, isUri, by rw [RelayWrite.apply, lookup_setKey, if_pos rfl],
            by rw [RelayWrite.apply, lookup_setKey, if_pos rfl]⟩
        · rcases given source member with isLeft | ⟨held, isHeld, served, saved⟩
          · rcases List.mem_cons.mp isLeft with rfl | isRest
            · exact absurd rfl same
            · exact .inl isRest
          · exact .inr ⟨held, isHeld, by rw [RelayWrite.apply, lookup_setKey, if_neg same, served],
              by rw [RelayWrite.apply, lookup_setKey, if_neg same, saved]⟩

theorem triple_reconcileStreams {sources : List ManagedSource} (keys : ManagedKeys sources) :
    Triple (fun _ => True) (reconcileStreams go2rtc sources)
      (fun _ => On go2rtc fun relay => (∀ source ∈ sources, Given relay source) ∧
        (ListsStreams go2rtc → ServesOnly (sources.map (·.streamKey)) relay))
      (fun _ => ¬ (Responds go2rtc ∧ Readable sources)) := by
  let desired := sources.map (·.streamKey)
  have excused {condition : RelayState → Prop} (session : MediaSession σ) :
      On go2rtc condition session ∧ ¬ Responds go2rtc →
        ¬ (Responds go2rtc ∧ Readable sources) := fun fails both => fails.2 both.1
  have waits : Triple (On go2rtc fun _ => True) (waitForGo2rtc go2rtc 20)
      (fun _ => On go2rtc fun _ => True)
      (fun session => On go2rtc (fun _ => True) session ∧ ¬ Responds go2rtc) :=
    triple_waitForGo2rtc 20
  refine (waits.weaken (fun _ => id) (fun _ _ => id) excused).bind _ fun _ =>
    (triple_askOn.weaken (fun _ => id) (fun _ _ => id) excused).bind _ fun listing => ?_
  refine triple_ofExcept_bind (fun items isItems => ?_)
    fun failure isFailure session holds both => ?_
  · have goneThrough (session : MediaSession σ)
        (holds : On go2rtc (fun relay => True ∧ Listed go2rtc .streams listing relay) session) :
        LeftToDrop go2rtc desired items session := by
      constructor
      · intro responds never
        obtain ⟨names, rfl⟩ := holds.2.mapping responds
        obtain rfl := Except.ok.inj isItems
        obtain ⟨name, _, isNone⟩ := List.mem_map.mp never
        cases isNone
      · intro lists name _ isServed
        obtain ⟨now, _, isListing⟩ := holds.2
        obtain ⟨names, rfl⟩ := lists now listing isListing
        obtain rfl := Except.ok.inj isItems
        exact .inr (List.mem_map_of_mem ((holds.2.streams name).mpr isServed))
    have drops : Triple (LeftToDrop go2rtc desired items)
        (Program.each (dropStale go2rtc desired) items)
        (fun _ => LeftToDrop go2rtc desired []) (fun _ => ¬ Responds go2rtc) :=
      triple_each triple_dropStale items
    refine (drops.weaken goneThrough (fun _ _ => id) fun _ fails both =>
      fails both.1).bind _ fun _ => ?_
    have puts : Triple (LeftToPut go2rtc sources sources)
        (Program.each (putSource go2rtc) sources) (fun _ => LeftToPut go2rtc sources [])
        (fun _ => ¬ (Responds go2rtc ∧ Readable sources)) :=
      triple_each (triple_putSource keys) sources
    refine puts.weaken (fun session holds => ?_) (fun _ session holds => ?_) fun _ => id
    · refine ⟨fun _ => id, fun lists name isManaged isServed => ?_, fun _ => .inl⟩
      exact (holds.2 lists name isManaged isServed).resolve_right List.not_mem_nil
    · refine ⟨fun source member => ?_, holds.2.1⟩
      exact (holds.2.2 source member).resolve_left List.not_mem_nil
  · obtain ⟨names, rfl⟩ := holds.2.mapping both.1
    cases isFailure

/-! The rest of the attempt. -/

/-- What go2rtc serves is what it should serve. -/
structure Converged (go2rtc : Go2rtc σ) (sources : List ManagedSource) (relay : RelayState) :
    Prop where
  given : ∀ source ∈ sources, Given relay source
  only : ListsStreams go2rtc → ServesOnly (sources.map (·.streamKey)) relay
  preloads : ∀ name ∈ relay.preloads, startsWith name streamPrefix = false

omit [TextCase] in
theorem triple_runtimeStreamKeys {condition : RelayState → Prop} :
    Triple (On go2rtc condition) (runtimeStreamKeys go2rtc)
      (fun names => On go2rtc fun relay => condition relay ∧
        ∀ name, name ∈ names ↔ (relay.served.lookup name).isSome = true)
      (fun _ => ¬ Responds go2rtc) := by
  refine (triple_askOn.weaken (fun _ => id) (fun _ _ => id) fun _ => And.right).bind _
    fun listing => ?_
  cases listing with
  | mapping names =>
      exact triple_pure names fun session holds => ⟨holds.1, fun name => holds.2.streams name⟩
  | unreadable | sequence | other =>
      refine triple_fail _ fun session holds responds => ?_
      obtain ⟨names, isMapping⟩ := holds.2.mapping responds
      cases isMapping

/-- With these preloads left to delete. -/
def LeftToUnload (go2rtc : Go2rtc σ) (condition : RelayState → Prop) (names : List String) :
    MediaSession σ → Prop :=
  On go2rtc fun relay => condition relay ∧
    ∀ name ∈ relay.preloads, startsWith name streamPrefix = true → name ∈ names

omit [TextCase] in
/-- Without sources, every managed preload is deleted. -/
theorem triple_reconcilePreloads {condition : RelayState → Prop}
    (stable : ∀ relay preloads, condition relay → condition { relay with preloads }) :
    Triple (On go2rtc condition) (reconcilePreloads go2rtc [])
      (fun _ => On go2rtc fun relay => condition relay ∧
        ∀ name ∈ relay.preloads, startsWith name streamPrefix = false)
      (fun _ => ¬ Responds go2rtc) := by
  have listed : Triple (On go2rtc condition) (preloadStreamKeys go2rtc)
      (fun names => LeftToUnload go2rtc condition names) (fun _ => ¬ Responds go2rtc) := by
    refine (triple_askOn.weaken (fun _ => id) (fun _ _ => id) fun _ => And.right).bind _
      fun listing => ?_
    cases listing with
    | mapping names =>
        exact triple_pure names fun session holds =>
          ⟨holds.1, fun name member _ => (holds.2.preloads name).mpr member⟩
    | unreadable | sequence | other =>
        refine triple_fail _ fun session holds responds => ?_
        obtain ⟨names, isMapping⟩ := holds.2.mapping responds
        cases isMapping
  refine listed.bind _ fun current => ?_
  have drops (first : String) (rest : List String) :
      Triple (LeftToUnload go2rtc condition (first :: rest))
        (if startsWith first streamPrefix then send go2rtc (.deletePreload first) else pure ())
        (fun _ => LeftToUnload go2rtc condition rest) (fun _ => ¬ Responds go2rtc) := by
    split
    case isTrue =>
      refine triple_sendOn fun relay holds =>
        ⟨stable relay _ holds.1, fun name member managed => ?_⟩
      obtain ⟨isHeld, isOther⟩ := List.mem_filter.mp member
      have inItems := List.mem_cons.mp (holds.2 name isHeld managed)
      exact inItems.resolve_left (of_decide_eq_true isOther)
    case isFalse notManaged =>
      refine triple_pure () fun session holds => ⟨holds.1, fun name member managed => ?_⟩
      refine (List.mem_cons.mp (holds.2 name member managed)).resolve_left fun same => ?_
      exact notManaged (same ▸ managed)
  have all : current.dedup.filter (· ∉ ([] : List ManagedSource).map (·.streamKey)) =
      current.dedup := List.filter_eq_self.mpr fun _ _ => by simp
  refine Triple.bind (fun _ => LeftToUnload go2rtc condition []) ?_ fun _ => ?_
  · rw [all]
    refine (triple_each drops (sortedNames current.dedup)).weaken (fun session holds => ?_)
      (fun _ _ => id) fun _ => id
    refine ⟨holds.1, fun name member managed => ?_⟩
    rw [sortedNames, List.mem_mergeSort, List.mem_dedup]
    exact holds.2 name member managed
  · have none : sortedNames ((([] : List ManagedSource).map (·.streamKey)).dedup.filter
        (· ∉ current)) = [] := List.mergeSort_nil
    rw [none]
    refine triple_pure () fun session holds => ⟨holds.1, fun name member => ?_⟩
    exact Bool.eq_false_iff.mpr fun managed => List.not_mem_nil (holds.2 name member managed)

/-- The attempt of `reconcile_and_probe`. -/
theorem triple_serveSources {sources : List ManagedSource} (keys : ManagedKeys sources) :
    Triple (fun _ => True) (serveSources go2rtc sources)
      (fun _ => On go2rtc (Converged go2rtc sources))
      (fun _ => ¬ (Responds go2rtc ∧ Readable sources)) := by
  have excused (session : MediaSession σ) :
      ¬ Responds go2rtc → ¬ (Responds go2rtc ∧ Readable sources) := fun fails both => fails both.1
  refine (triple_reconcileStreams keys).bind _ fun _ => ?_
  refine ((triple_reconcilePreloads fun relay preloads given => given).weaken (fun _ => id)
    (fun _ _ => id) excused).bind _ fun _ => ?_
  refine (triple_runtimeStreamKeys.weaken (fun _ => id) (fun _ _ => id) excused).bind _
    fun names => ?_
  split
  · exact triple_pure () fun session holds => ⟨holds.1.1.1, holds.1.1.2, holds.1.2⟩
  case isFalse missing =>
    refine triple_fail _ fun session holds => absurd (List.all_eq_true.mpr fun source member => ?_)
      missing
    obtain ⟨uri, _, served, _⟩ := holds.1.1.1 source member
    exact decide_eq_true ((holds.2 source.streamKey).mpr (Option.isSome_of_eq_some served))

/-! The calls. -/

theorem typedSource_readable {source : ManagedSource} (isReadable : source.relayUri.isSome = true) :
    (typedSource source).isSome = true := by
  obtain ⟨text, isText⟩ := Option.isSome_iff_exists.mp isReadable
  obtain ⟨uri, isUri, _⟩ := Option.map_eq_some_iff.mp isText
  simp only [authenticatedRtspUri, Option.bind_eq_bind, Option.bind_eq_some_iff] at isUri
  obtain ⟨parsed, isParsed, isUri⟩ := isUri
  split at isUri
  · cases isUri
  · obtain ⟨port, isPort, _⟩ := Option.bind_eq_some_iff.mp isUri
    simp only [typedSource, Option.bind_eq_bind, isParsed, isPort, Option.bind_some,
      Option.isSome_some]

theorem mediaConfig_readable {sources : List ManagedSource} (isReadable : Readable sources) :
    ∃ config, mediaConfig sources = some config := by
  have each : ∀ source ∈ sources.mergeSort fun one two => one.streamKey ≤ two.streamKey,
      ∃ typed, typedSource source = some typed := by
    intro source member
    have isSource := isReadable source (List.mem_mergeSort.mp member)
    exact Option.isSome_iff_exists.mp (typedSource_readable isSource)
  unfold mediaConfig
  generalize sources.mergeSort (fun one two => one.streamKey ≤ two.streamKey) = sorted at each ⊢
  induction sorted with
  | nil => exact ⟨[], rfl⟩
  | cons first rest ih =>
      obtain ⟨typed, isTyped⟩ := each first List.mem_cons_self
      obtain ⟨others, isOthers⟩ := ih fun source member =>
        each source (List.mem_cons_of_mem _ member)
      exact ⟨typed :: others, by rw [List.mapM_cons, isTyped, isOthers]; rfl⟩

variable [MediaDigest]

theorem triple_recordDesired (sources : List ManagedSource) :
    Triple (fun _ => True) (recordDesiredMediaRevision sources)
      (fun _ (_ : MediaSession σ) => True) (fun _ => ¬ Readable sources) := by
  intro session _
  unfold recordDesiredMediaRevision
  split
  case h_1 isConfig =>
    intro isReadable
    obtain ⟨config, isSome⟩ := mediaConfig_readable isReadable
    rw [isConfig] at isSome
    cases isSome
  case h_2 => trivial

theorem triple_reconcileAndProbe {sources : List ManagedSource} (keys : ManagedKeys sources) :
    Triple (fun _ => True) (reconcileAndProbe go2rtc sources)
      (fun _ => On go2rtc (Converged go2rtc sources))
      (fun _ => ¬ (Responds go2rtc ∧ Readable sources)) := by
  refine ((triple_recordDesired sources).weaken (fun _ => id) (fun _ _ => id)
    fun _ fails both => fails both.2).bind _ fun revision => ?_
  refine Triple.bind (fun _ => On go2rtc (Converged go2rtc sources)) ?_ fun _ => ?_
  · refine triple_catching (triple_serveSources keys) (fun failure _ => ?_) fun _ => id
    refine Triple.bind (fun _ _ => ¬ (Responds go2rtc ∧ Readable sources)) ?_
      fun _ => triple_fail failure fun _ => id
    unfold failDesired
    split
    · exact triple_modify _ fun _ => id
    · exact triple_pure () fun _ => id
  · unfold applyDesired
    split
    · exact triple_modify _ fun _ => id
    · exact triple_pure () fun _ => id

/-- A check finds that nothing is missing and nothing is left over, or it sees to that. -/
theorem triple_reconcileRuntimeDrift {sources : List ManagedSource} (keys : ManagedKeys sources) :
    Triple (fun _ => True) (reconcileRuntimeDrift go2rtc sources)
      (fun drifted => On go2rtc fun relay => if drifted then Converged go2rtc sources relay else
        ∀ name, startsWith name streamPrefix = true →
          ((relay.served.lookup name).isSome = true ↔ name ∈ sources.map (·.streamKey)))
      (fun _ => ¬ (Responds go2rtc ∧ Readable sources)) := by
  have listed : Triple (On go2rtc fun _ => True) (runtimeStreamKeys go2rtc) _ _ :=
    triple_runtimeStreamKeys
  refine (listed.weaken (fun _ => id) (fun _ _ => id)
    fun _ fails (both : Responds go2rtc ∧ Readable sources) => fails both.1).bind _ fun names => ?_
  dsimp only
  split
  case isTrue same =>
    rw [Bool.and_eq_true, decide_eq_true_eq, decide_eq_true_eq] at same
    refine triple_pure false fun session holds => fun name isManaged => ?_
    rw [← holds.2 name]
    constructor
    · exact fun member => same.1 (List.mem_filter.mpr ⟨member, isManaged⟩)
    · exact fun isKey => (List.mem_filter.mp (same.2 isKey)).1
  case isFalse =>
    refine ((triple_reconcileAndProbe keys).weaken (fun _ _ => trivial) (fun _ _ => id)
      fun _ => id).bind _ fun _ => ?_
    exact triple_pure true fun session converged => converged

/-! What the calls leave alone. -/

section
variable {restarts : Bool} {condition : RelayState → Prop}

theorem preserves_recordDesired (sources : List ManagedSource) :
    Preserves (On go2rtc condition) (recordDesiredMediaRevision sources) := by
  intro session holds
  unfold recordDesiredMediaRevision
  split
  · exact holds
  · exact holds

omit [TextCase] [MediaDigest] in
theorem preserves_failDesired (revision : Nat × RevisionStatus) (errorCode : String) :
    Preserves (On go2rtc condition) (failDesired revision errorCode) := by
  unfold failDesired
  split
  · exact triple_modify _ fun _ => id
  · exact preserves_pure ()

omit [TextCase] [MediaDigest] in
theorem preserves_applyDesired (revision : Nat × RevisionStatus) (sources : List ManagedSource)
    (recovered : Option (List ManagedSource)) :
    Preserves (On go2rtc condition) (applyDesired revision sources recovered) := by
  unfold applyDesired
  split
  · exact triple_modify _ fun _ => id
  · exact preserves_pure ()

omit [MediaDigest] in
theorem preserves_serveSources {invariant : MediaSession σ → Prop}
    (keep : RequestsKeep go2rtc restarts invariant) {sources : List ManagedSource}
    (keys : ManagedKeys sources) : Preserves invariant (serveSources go2rtc sources) := by
  have noKeys : ManagedKeys [] := ⟨List.nodup_nil, fun _ never => absurd never List.not_mem_nil⟩
  refine (preserves_reconcileStreams keep keys).bind fun _ =>
    (preserves_reconcilePreloads keep noKeys).bind fun _ =>
      (preserves_runtimeStreamKeys keep).bind fun served => ?_
  split
  · exact preserves_pure ()
  · exact preserves_fail _

theorem preserves_reconcileAndProbe (keep : RequestsKeep go2rtc restarts (On go2rtc condition))
    {sources : List ManagedSource} (keys : ManagedKeys sources) :
    Preserves (On go2rtc condition) (reconcileAndProbe go2rtc sources) :=
  (preserves_recordDesired sources).bind fun revision =>
    (preserves_catching (preserves_serveSources keep keys) fun failure =>
      (preserves_failDesired revision _).bind fun _ => preserves_fail failure).bind fun _ =>
        preserves_applyDesired revision _ _

theorem preserves_reconcileRuntimeDrift
    (keep : RequestsKeep go2rtc restarts (On go2rtc condition)) {sources : List ManagedSource}
    (keys : ManagedKeys sources) :
    Preserves (On go2rtc condition) (reconcileRuntimeDrift go2rtc sources) := by
  refine (preserves_runtimeStreamKeys keep).bind fun names => ?_
  dsimp only
  split
  · exact preserves_pure false
  · exact (preserves_reconcileAndProbe keep keys).bind fun _ => preserves_pure true

theorem preserves_setCameraStreamSettings
    (keep : RequestsKeep go2rtc true (On go2rtc condition)) {sources : List ManagedSource}
    (keys : ManagedKeys sources) :
    Preserves (On go2rtc condition) (setCameraStreamSettings go2rtc sources) :=
  (preserves_recordDesired sources).bind fun _ => (preserves_reconcileStreams keep keys).bind
    fun _ => (preserves_replaceStreams keep keys).bind fun _ => triple_modify _ fun _ => id

theorem preserves_recoverInventoryAddresses
    (keep : RequestsKeep go2rtc true (On go2rtc condition)) (sources : List ManagedSource)
    {runtimeSources : List ManagedSource} (keys : ManagedKeys runtimeSources) (verified : Bool) :
    Preserves (On go2rtc condition)
      (recoverInventoryAddresses go2rtc sources runtimeSources verified) := by
  refine (preserves_recordDesired sources).bind fun revision => ?_
  refine (preserves_catching ((preserves_replaceStreams keep keys).bind fun _ => ?_)
    fun failure => (preserves_failDesired revision _).bind fun _ =>
      preserves_fail failure).bind fun _ => preserves_applyDesired revision _ _
  split
  · exact preserves_pure ()
  · exact preserves_fail _

end

end

end Relay

/-! Runs. -/

section
variable {σ : Type} [TextCase] [UrlText] [MediaDigest] {go2rtc : Go2rtc σ}
  {allowed : MediaSystem σ → MediaAction σ → Prop} {start system : MediaSystem σ}

theorem mediaStep_schema {action : MediaAction σ} (schema : Schema system.history.repository)
    (fresh : action.Fresh system) :
    Schema (mediaStep go2rtc system action).history.repository := by
  cases action with
  | repository call => exact schema_call schema fresh
  | _ => exact schema

theorem MediaRun.schema (run : MediaRun go2rtc allowed start system)
    (schema : Schema start.history.repository) : Schema system.history.repository := by
  refine run.invariant (fun system => Schema system.history.repository) schema ?_
  rintro system action _ schema ⟨fresh, _⟩ rfl
  exact mediaStep_schema schema fresh

/-- What a call has done, whether it returns or not. -/
structure CallConverges {α : Type} (go2rtc : Go2rtc σ) (sources : List ManagedSource)
    (before : MediaSession σ) (done : α → RelayState → Prop)
    (outcome : Except RelayFailure α × MediaSession σ) : Prop where
  foreign : Relay.ForeignKept false (go2rtc.state before.relay) (go2rtc.state outcome.2.relay)
  returned : ∀ value, outcome.1 = .ok value → done value (go2rtc.state outcome.2.relay)
  returns : Relay.Responds go2rtc → Relay.Readable sources → ∃ value, outcome.1 = .ok value

omit [UrlText] [MediaDigest] in
theorem CallConverges.of_triple {α : Type} {sources : List ManagedSource}
    {session : MediaSession σ} {program : MediaTalk σ α} {done : α → RelayState → Prop}
    (triple : Triple (fun _ => True) program (fun value => Relay.On go2rtc (done value))
      (fun _ => ¬ (Relay.Responds go2rtc ∧ Relay.Readable sources)))
    (keeps : Preserves (Relay.On go2rtc
      (Relay.ForeignKept false (go2rtc.state session.relay))) program) :
    CallConverges go2rtc sources session done (program session) := by
  have ends := triple session trivial
  refine ⟨keeps.holds (.refl false _), fun value isValue => ?_, fun responds readable => ?_⟩
  · match program session, ends, isValue with
    | (.ok _, _), isDone, rfl => exact isDone
  · match program session, ends with
    | (.ok value, _), _ => exact ⟨value, rfl⟩
    | (.error _, _), fails => exact absurd ⟨responds, readable⟩ fails

theorem MediaRun.keys {relay : σ} (run : MediaRun go2rtc allowed (.new relay) system) :
    ManagedKeys system.sources :=
  managedStreamSources_keys (run.schema schema_empty) {}

/-- Whatever has happened to go2rtc, a reconciliation that returns has made it serve the
managed sources and no other managed streams, and leaves the others alone; it returns if every
request is answered. A check for drift returns `False` only if the names agree. -/
theorem relay_runs_converge {relay : σ}
    (run : MediaRun go2rtc (fun _ _ => True) (.new relay) system) :
    CallConverges go2rtc system.sources system.session
        (fun _ => Relay.Converged go2rtc system.sources)
        (Relay.reconcileAndProbe go2rtc system.sources system.session) ∧
      CallConverges go2rtc system.sources system.session
        (fun drifted relay => if drifted then Relay.Converged go2rtc system.sources relay else
          ∀ name, startsWith name Relay.streamPrefix = true →
            ((relay.served.lookup name).isSome = true ↔
              name ∈ system.sources.map (·.streamKey)))
        (Relay.reconcileRuntimeDrift go2rtc system.sources system.session) := by
  have foreign : Relay.RequestsKeep go2rtc false (Relay.On go2rtc
      (Relay.ForeignKept false (go2rtc.state system.session.relay))) :=
    Relay.foreignKept_requests false _
  exact ⟨.of_triple (Relay.triple_reconcileAndProbe run.keys)
      (Relay.preserves_reconcileAndProbe foreign run.keys),
    .of_triple (Relay.triple_reconcileRuntimeDrift run.keys)
      (Relay.preserves_reconcileRuntimeDrift foreign run.keys)⟩

theorem mediaStep_foreign {start : RelayState} {action : MediaAction σ}
    (keys : ManagedKeys system.sources) (isCall : action.IsCall)
    (kept : Relay.ForeignKept true start (go2rtc.state system.session.relay)) :
    Relay.ForeignKept true start
      (go2rtc.state (mediaStep go2rtc system action).session.relay) := by
  have keep : Relay.RequestsKeep go2rtc true (Relay.On go2rtc (Relay.ForeignKept true start)) :=
    Relay.foreignKept_requests true start
  cases action with
  | repository call => exact kept
  | relay now => cases isCall
  | reconcileAndProbe => exact (Relay.preserves_reconcileAndProbe keep keys).holds kept
  | reconcileRuntimeDrift => exact (Relay.preserves_reconcileRuntimeDrift keep keys).holds kept
  | setCameraStreamSettings =>
      exact (Relay.preserves_setCameraStreamSettings keep keys).holds kept
  | recoverInventoryAddresses cameras verified =>
      exact (Relay.preserves_recoverInventoryAddresses keep system.sources (keys.filter _)
        verified).holds kept
  | rollBackRuntime cameras =>
      exact (Relay.preserves_catching (Relay.preserves_replaceStreams keep (keys.filter _))
        fun _ => preserves_pure ()).holds kept

/-- As long as nobody else talks to go2rtc, what does not carry the prefix of a managed stream
stays as it was, through every failed request and every crash in the middle of a call; after
a restart it is served as it was saved. -/
theorem relay_runs_spare_foreign {relay : σ}
    (early : MediaRun go2rtc (fun _ _ => True) (.new relay) start)
    (late : MediaRun go2rtc (fun _ action => action.IsCall) start system) :
    Relay.ForeignKept true (go2rtc.state start.session.relay)
      (go2rtc.state system.session.relay) := by
  refine (late.invariant (fun system => Schema system.history.repository ∧
    Relay.ForeignKept true (go2rtc.state start.session.relay) (go2rtc.state system.session.relay))
    ⟨early.schema schema_empty, .refl true _⟩ ?_).2
  rintro system action _ ⟨schema, kept⟩ ⟨fresh, isCall⟩ rfl
  exact ⟨mediaStep_schema schema fresh,
    mediaStep_foreign (managedStreamSources_keys schema {}) isCall kept⟩

end

/-! A go2rtc with a stream of somebody else and one of a camera that is gone. -/

def sharedStreams : StreamMap :=
  [("porch", ["rtsp://192.0.2.9/porch"]), ("stream_old", ["rtsp://192.0.2.8/old"])]

def sharedRelay : MediaSystem RelayState :=
  .new { served := sharedStreams, saved := sharedStreams }

/-- The configuration itself stands for its hash. -/
@[reducible] def plainDigest : MediaDigest where
  digest config := (repr config).pretty

theorem plainRelay_responds : Relay.Responds plainRelay where
  reads _ _ := ⟨_, rfl⟩
  writes _ _ := rfl

theorem plainRelay_lists : Relay.ListsStreams plainRelay := fun _ _ isListing =>
  ⟨_, (Except.ok.inj isListing).symm⟩

theorem shared_relay_converges :
    let _ := asciiCase
    let _ := plainUrls
    let _ := plainDigest
    let system := mediaStep plainRelay sharedRelay
      (.repository ⟨.adopt frontDoor, 1, uuidSupply 'a'⟩)
    let later := (Relay.reconcileAndProbe plainRelay system.sources system.session).2.relay
    later.served.lookup "porch" = some ["rtsp://192.0.2.9/porch"] ∧
      later.served.lookup "stream_old" = none ∧
      ∀ source ∈ system.sources, Relay.Given later source := by
  intro text urls hashes system later
  have fresh : FreshCall sharedRelay.history ⟨.adopt frontDoor, 1, uuidSupply 'a'⟩ :=
    freshCall_uuidSupply _ (by simp [usedUuids, sharedRelay, MediaSystem.new]) (Nat.zero_le 1)
  have run : MediaRun plainRelay (fun _ _ => True) sharedRelay system :=
    Reaches.start.step (.repository ⟨.adopt frontDoor, 1, uuidSupply 'a'⟩) ⟨fresh, trivial⟩ rfl
  have converges := (relay_runs_converge run).1
  have readable : Relay.Readable system.sources := by
    unfold Relay.Readable
    decide +kernel
  obtain ⟨value, isValue⟩ := converges.returns plainRelay_responds readable
  have converged := converges.returned value isValue
  refine ⟨?_, ?_, converged.given⟩
  · rcases converges.foreign.served "porch" (by decide) with same | ⟨never, _⟩
    · exact same
    · cases never
  · by_contra isServed
    have isKey := converged.only plainRelay_lists "stream_old" (by decide)
      (Option.isSome_iff_ne_none.mpr isServed)
    exact absurd isKey (by decide +kernel)

theorem shared_relay_spares_porch :
    let _ := asciiCase
    let _ := plainUrls
    let _ := plainDigest
    let adopted := mediaStep plainRelay sharedRelay
      (.repository ⟨.adopt frontDoor, 1, uuidSupply 'a'⟩)
    let settled := mediaStep plainRelay adopted .setCameraStreamSettings
    settled.session.relay.saved.lookup "porch" = some ["rtsp://192.0.2.9/porch"] := by
  intro text urls hashes adopted settled
  have fresh : FreshCall sharedRelay.history ⟨.adopt frontDoor, 1, uuidSupply 'a'⟩ :=
    freshCall_uuidSupply _ (by simp [usedUuids, sharedRelay, MediaSystem.new]) (Nat.zero_le 1)
  have run : MediaRun plainRelay (fun _ action => action.IsCall) sharedRelay settled :=
    (Reaches.start.step (.repository ⟨.adopt frontDoor, 1, uuidSupply 'a'⟩)
      ⟨fresh, trivial⟩ rfl).step .setCameraStreamSettings ⟨trivial, trivial⟩ rfl
  have spared := relay_runs_spare_foreign .start run
  exact spared.saved "porch" (by decide)

end CamAdmiral
