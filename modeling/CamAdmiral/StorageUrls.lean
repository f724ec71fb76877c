import CamAdmiral.StorageRuns

/-!
The identifiers that downstream consumers hold: the uuid of a candidate's camera and the
uuid and key of the stream behind a profile token, over every run of the repository.
-/

namespace CamAdmiral

theorem Recorded.sameSettings {before after changed : Repository} {call : RepositoryCall}
    {affected : List String} {first : Nat}
    (recorded : Recorded before after call changed affected first) :
    SameSettings changed after := by
  obtain ⟨_, rfl⟩ := recorded
  exact sameSettings_transitions call.timestamp _ affected 0 changed

theorem SameSettings.stream {before after : Repository} (same : SameSettings before after)
    {cameraUuid token : String} {stream : StreamRow}
    (found : streamAt after cameraUuid token = some stream) :
    ∃ original, streamAt before cameraUuid token = some original ∧
      SameStream original stream := by
  have shown := same.streams cameraUuid token
  rw [found, Option.map_some] at shown
  obtain ⟨original, isOriginal, sameShown⟩ := Option.map_eq_some_iff.mp shown.symm
  exact ⟨original, isOriginal, SameStream.of_shown sameShown.symm⟩

/-- A stored token keeps its stream, and a new one gets a uuid that the call draws. -/
def StreamKept (before : Option StreamRow) (uuids : Nat → String) (after : StreamRow) : Prop :=
  match before with
  | some old => after.streamUuid = old.streamUuid ∧ after.streamKey = old.streamKey
  | none => ∃ position, after.streamUuid = uuids position

theorem Adopted.streamKept {before after : Repository} {request : AdoptRequest}
    {cameraUuid : String} {custom : Bool} {uuids : Nat → String}
    (adopted : Adopted before after request cameraUuid custom uuids) {owner token : String}
    {stream : StreamRow} (found : streamAt after owner token = some stream) :
    StreamKept (streamAt before owner token) uuids stream := by
  by_cases isOwner : owner = cameraUuid
  · subst isOwner
    cases earlier : streamAt before owner token with
    | some old =>
        have same := adopted.kept token old stream earlier found
        exact ⟨same.streamUuid, same.streamKey⟩
    | none => exact (adopted.added token stream earlier found).2
  · rw [adopted.otherStreams owner token isOwner] at found
    rw [found]
    exact ⟨rfl, rfl⟩

theorem Effect.streamKept {before after : Repository} {call : RepositoryCall}
    (effect : Effect before call after) {owner token : String} {stream : StreamRow}
    (found : streamAt after owner token = some stream) :
    StreamKept (streamAt before owner token) call.uuids stream := by
  cases effect with
  | quiet recorded same =>
      obtain ⟨old, isOld, sameStream⟩ := (same.trans recorded.sameSettings).stream found
      rw [isOld]
      exact ⟨sameStream.streamUuid, sameStream.streamKey⟩
  | adopted _ recorded adopted =>
      obtain ⟨changed, isChanged, sameStream⟩ := recorded.sameSettings.stream found
      have kept := adopted.streamKept isChanged
      simp only [StreamKept, sameStream.streamUuid, sameStream.streamKey] at kept ⊢
      exact kept
  | chosen _ recorded isChosen =>
      obtain ⟨changed, isChanged, sameStream⟩ := recorded.sameSettings.stream found
      rw [isChosen.streams] at isChanged
      obtain ⟨old, isOld, rfl⟩ := Option.map_eq_some_iff.mp isChanged
      rw [isOld]
      refine ⟨sameStream.streamUuid.trans ?_, sameStream.streamKey.trans ?_⟩ <;>
        split <;> rfl
  | removed _ removed =>
      rw [removed.streams] at found
      split at found
      · cases found
      · rw [found]
        exact ⟨rfl, rfl⟩

/-- A candidate keeps its camera until that camera is deleted. -/
theorem Effect.cameraKept {before after : Repository} {call : RepositoryCall}
    (effect : Effect before call after) {candidateUuid cameraUuid : String}
    (known : cameraOf before candidateUuid = some cameraUuid) :
    cameraOf after candidateUuid = some cameraUuid ∨
      (call.action = .unadoptCamera cameraUuid ∧ cameraOf after candidateUuid = none) := by
  cases effect with
  | quiet recorded same =>
      exact .inl (((same.trans recorded.sameSettings).cameras candidateUuid).trans known)
  | adopted _ recorded adopted =>
      rw [recorded.sameSettings.cameras, adopted.cameras]
      split
      · rename_i isCandidate
        exact .inl (by rw [adoptedUuid, isCandidate, known, Option.getD_some])
      · exact .inl known
  | chosen _ recorded isChosen =>
      exact .inl (by rw [recorded.sameSettings.cameras, isChosen.cameras, known])
  | @removed deleted isUnadopt removed =>
      rw [removed.cameras, known]
      by_cases isDeleted : cameraUuid = deleted
      · exact .inr ⟨isDeleted ▸ isUnadopt, by simp [Option.filter, isDeleted]⟩
      · exact .inl (by simp [Option.filter, isDeleted])

/-! Every stream ever stored. -/

structure StoredOnce (history : StorageHistory) : Prop where
  current : storedStreams history.repository ⊆ history.stored
  keys : ∀ stored ∈ history.stored, stored.streamKey = "stream_" ++ stored.streamUuid
  once : ∀ first ∈ history.stored, ∀ second ∈ history.stored,
    first.streamUuid = second.streamUuid → first = second

variable [TextCase] [UrlText]

/-- A stream of the new tables was stored before or has a uuid the call draws. -/
theorem stored_call {history : StorageHistory} {call : RepositoryCall}
    (schema : Schema history.repository) (fresh : FreshCall history call)
    (stored : StoredOnce history) {entry : StoredStream}
    (member : entry ∈ storedStreams (history.call call).repository) :
    entry ∈ history.stored ∨ ∃ position, entry.streamUuid = call.uuids position := by
  obtain ⟨cameraUuid, token, streamUuid, streamKey⟩ := entry
  obtain ⟨stream, found, rfl, rfl⟩ := (mem_storedStreams (schema_call schema fresh)).mp member
  have kept := (commit_effect schema fresh).streamKept found
  cases earlier : streamAt history.repository cameraUuid token with
  | some old =>
      rw [earlier] at kept
      refine .inl (stored.current ((mem_storedStreams schema).mpr ?_))
      exact ⟨old, earlier, kept.1.symm, kept.2.symm⟩
  | none =>
      rw [earlier] at kept
      exact .inr kept

omit [TextCase] [UrlText] in
theorem storedStreams_once {repository : Repository} (schema : Schema repository)
    {first second : StoredStream} (firstMember : first ∈ storedStreams repository)
    (secondMember : second ∈ storedStreams repository)
    (same : first.streamUuid = second.streamUuid) : first = second := by
  obtain ⟨firstCamera, firstToken, firstUuid, firstKey⟩ := first
  obtain ⟨secondCamera, secondToken, secondUuid, secondKey⟩ := second
  obtain ⟨one, oneFound, rfl, rfl⟩ := (mem_storedStreams schema).mp firstMember
  obtain ⟨two, twoFound, rfl, rfl⟩ := (mem_storedStreams schema).mp secondMember
  obtain ⟨rfl, rfl⟩ := Prod.mk.inj (schema.streamAt_injective oneFound twoFound same)
  rw [oneFound, Option.some.injEq] at twoFound
  rw [twoFound]

theorem storedOnce_call {history : StorageHistory} {call : RepositoryCall}
    (schema : Schema history.repository) (fresh : FreshCall history call)
    (stored : StoredOnce history) : StoredOnce (history.call call) := by
  have schemaAfter := schema_call schema fresh
  -- An entry that was not stored before has a uuid no stored entry has.
  have unstored {old new : StoredStream} (isOld : old ∈ history.stored)
      (isNew : new ∈ storedStreams (history.call call).repository)
      (same : old.streamUuid = new.streamUuid) : old = new := by
    rcases stored_call schema fresh stored isNew with again | ⟨position, drawn⟩
    · exact stored.once old isOld new again same
    · exact absurd (same.trans drawn) (fresh.unstored position old isOld)
  refine ⟨List.subset_append_right _ _, ?_, ?_⟩
  · intro entry member
    rcases List.mem_append.mp member with isOld | isNew
    · exact stored.keys entry isOld
    · obtain ⟨cameraUuid, token, streamUuid, streamKey⟩ := entry
      obtain ⟨stream, found, rfl, rfl⟩ := (mem_storedStreams schemaAfter).mp isNew
      exact schemaAfter.streamKey stream (streamAt_some found).1
  · intro first firstMember second secondMember same
    rcases List.mem_append.mp firstMember with firstOld | firstNew <;>
      rcases List.mem_append.mp secondMember with secondOld | secondNew
    · exact stored.once first firstOld second secondOld same
    · exact unstored firstOld secondNew same
    · exact (unstored secondOld firstNew same.symm).symm
    · exact storedStreams_once schemaAfter firstNew secondNew same

theorem storageRun_storedOnce {history : StorageHistory}
    (run : StorageRun FreshCall {} history) :
    Schema history.repository ∧ StoredOnce history := by
  apply run.invariant fun history => Schema history.repository ∧ StoredOnce history
  · exact ⟨schema_empty, by simp [storedStreams], by simp, by simp⟩
  · rintro history call _ ⟨schema, stored⟩ fresh rfl
    exact ⟨schema_call schema fresh, storedOnce_call schema fresh stored⟩

theorem cameraOf_run {start history : StorageHistory} {candidateUuid cameraUuid : String}
    (schema : Schema start.repository)
    (known : cameraOf start.repository candidateUuid = some cameraUuid)
    (run : StorageRun (fun history call => FreshCall history call ∧
      call.action ≠ .unadoptCamera cameraUuid) start history) :
    cameraOf history.repository candidateUuid = some cameraUuid := by
  refine (run.invariant (fun history => Schema history.repository ∧
    cameraOf history.repository candidateUuid = some cameraUuid) ⟨schema, known⟩ ?_).2
  rintro history call _ ⟨schema, known⟩ ⟨fresh, adopted⟩ rfl
  refine ⟨schema_call schema fresh, ?_⟩
  rcases (commit_effect schema fresh).cameraKept known with kept | ⟨isUnadopt, _⟩
  · exact kept
  · exact absurd isUnadopt adopted

/-- In every run a candidate keeps its camera while it stays adopted, every call leaves the
uuid and key of a stored token as they are, and no two tokens ever share either. -/
theorem downstream_urls_stable {history : StorageHistory}
    (run : StorageRun FreshCall {} history) :
    (∀ candidateUuid cameraUuid, cameraOf history.repository candidateUuid = some cameraUuid →
      ∀ later, StorageRun (fun history call => FreshCall history call ∧
        call.action ≠ .unadoptCamera cameraUuid) history later →
          cameraOf later.repository candidateUuid = some cameraUuid) ∧
    (∀ call, FreshCall history call → ∀ cameraUuid token before after,
      streamAt history.repository cameraUuid token = some before →
      streamAt (history.call call).repository cameraUuid token = some after →
        after.streamUuid = before.streamUuid ∧ after.streamKey = before.streamKey) ∧
    (∀ cameraUuid token stream, streamAt history.repository cameraUuid token = some stream →
      ⟨cameraUuid, token, stream.streamUuid, stream.streamKey⟩ ∈ history.stored) ∧
    ∀ first ∈ history.stored, ∀ second ∈ history.stored,
      first.streamUuid = second.streamUuid ∨ first.streamKey = second.streamKey →
        (first.cameraUuid, first.token) = (second.cameraUuid, second.token) := by
  obtain ⟨schema, stored⟩ := storageRun_storedOnce run
  refine ⟨?_, ?_, ?_, ?_⟩
  · intro candidateUuid cameraUuid known later continued
    exact cameraOf_run schema known continued
  · intro call fresh cameraUuid token before after isBefore isAfter
    have kept := (commit_effect schema fresh).streamKept isAfter
    rw [isBefore] at kept
    exact kept
  · intro cameraUuid token stream found
    exact stored.current ((mem_storedStreams schema).mpr ⟨stream, found, rfl, rfl⟩)
  · intro first firstMember second secondMember same
    have sameUuid : first.streamUuid = second.streamUuid := by
      rcases same with sameUuid | sameKey
      · exact sameUuid
      · rw [stored.keys first firstMember, stored.keys second secondMember] at sameKey
        exact (String.append_right_inj "stream_").mp sameKey
    rw [stored.once first firstMember second secondMember sameUuid]

omit [TextCase] [UrlText] in
theorem front_door_urls_stable :
    let _ := asciiCase
    let _ := plainUrls
    cameraOf adoptedOnce.repository "front" = some "a" ∧
      adoptedOnce.stored.map (·.token) = ["main", "sub"] ∧
      ∀ first ∈ adoptedOnce.stored, ∀ second ∈ adoptedOnce.stored,
        first.streamKey = second.streamKey → first.token = second.token := by
  intro text urls
  refine ⟨by decide +kernel, by decide +kernel, ?_⟩
  intro first firstMember second secondMember sameKey
  obtain ⟨_, _, _, once⟩ := downstream_urls_stable adoptedOnce_run
  exact congrArg Prod.snd (once first firstMember second secondMember (.inr sameKey))

end CamAdmiral
