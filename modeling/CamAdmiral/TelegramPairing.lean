import CamAdmiral.PairingCore

/-!
A stored chat belongs to the stored bot and answers the pairing token that the row held, and
the stored offset is about the stored bot, as long as no poll writes over newer settings.
-/

namespace CamAdmiral

structure BoundRight (stored : StoredTelegram) : Prop where
  chat : ∀ chatId, stored.row.chatId = some chatId →
    ∃ origin pairingToken chatLabel, stored.chatFrom = some origin ∧
      stored.row.botToken = some origin.botToken ∧ origin.rowToken = some pairingToken ∧
      pairingMessage origin.update pairingToken = some (chatId, chatLabel)
  offset : ∀ updateOffset, stored.row.updateOffset = some updateOffset →
    ∃ botToken, stored.offsetFrom = some botToken ∧ stored.row.botToken = some botToken

/-- A poll that stores a chat finds the bot and the pairing token it has read, and one that
stores an offset the bot. -/
def PollCurrent (system : PairingSystem) (action : PairingAction) : Prop :=
  action = .finishPoll → ∀ poll ∈ system.poll, ∀ updates ∈ poll.updates,
    ∀ stored ∈ system.stored,
      (pollWrite poll.credentials updates).fits stored.row poll.credentials

structure PairingInvariant (system : PairingSystem) : Prop where
  stored : ∀ stored ∈ system.stored, BoundRight stored
  selected : ∀ request ∈ system.requests, ∀ existing ∈ request.selected,
    ∀ stored ∈ existing, BoundRight stored
  polling : ∀ poll ∈ system.poll, ∃ now, poll.credentials.awaitsPairing now = true

theorem awaitsPairing_tokens {row : TelegramRow} {now : Nat}
    (awaits : row.awaitsPairing now = true) :
    row.botToken = some (textOf row.botToken) ∧
      row.pairingToken = some (textOf row.pairingToken) := by
  have known {value : Option String} (isText : textOf value ≠ "") :
      value = some (textOf value) := by
    cases value with
    | none => exact absurd rfl isText
    | some text => rfl
  simp only [TelegramRow.awaitsPairing, Bool.and_eq_true, decide_eq_true_eq] at awaits
  obtain ⟨⟨⟨hasBot, hasToken⟩, _⟩, _⟩ := awaits
  exact ⟨known hasBot, known hasToken⟩

/-- A chat that is stored has sent the pairing message. -/
theorem scanUpdates_pair {pairingToken : String} {known next : Option Int}
    {updates : List TelegramUpdate} {update : TelegramUpdate} {chatId chatLabel : String}
    {updateOffset : Int}
    (isPair : scanUpdates pairingToken known updates next =
      .pair update chatId chatLabel updateOffset) :
    pairingMessage update pairingToken = some (chatId, chatLabel) := by
  induction updates generalizing next with
  | nil =>
      unfold scanUpdates at isPair
      split at isPair
      · split at isPair <;> cases isPair
      · cases isPair
  | cons first rest ih =>
      unfold scanUpdates at isPair
      dsimp only at isPair
      cases isMessage : pairingMessage first pairingToken with
      | none =>
          rw [isMessage] at isPair
          exact ih isPair
      | some found =>
          rw [isMessage] at isPair
          obtain ⟨rfl, rfl, rfl, _⟩ := PollWrite.pair.inj isPair
          exact isMessage

/-- A message carries one pairing token. -/
theorem pairingMessage_token {update : TelegramUpdate} {first second : String}
    {found other : String × String} (isFirst : pairingMessage update first = some found)
    (isSecond : pairingMessage update second = some other) : first = second := by
  obtain ⟨message, isMessage, isFirst⟩ := Option.bind_eq_some_iff.mp isFirst
  obtain ⟨same, isSame, isSecond⟩ := Option.bind_eq_some_iff.mp isSecond
  obtain rfl := Option.some.inj (isMessage.symm.trans isSame)
  dsimp only at isFirst isSecond
  split at isFirst
  · cases isFirst
  rename_i accepted
  split at isSecond
  · cases isSecond
  rename_i acceptedToo
  simp only [Bool.or_eq_true, decide_eq_true_eq, not_or,
    Decidable.not_not] at accepted acceptedToo
  exact accepted.2.symm.trans acceptedToo.2

theorem BoundRight.poll {stored : StoredTelegram} (right : BoundRight stored)
    {credentials : TelegramRow} {updates : List TelegramUpdate} {now : Nat}
    (awaits : credentials.awaitsPairing now = true)
    (current : (pollWrite credentials updates).fits stored.row credentials) :
    BoundRight (stored.poll (textOf credentials.botToken) (pollWrite credentials updates)) := by
  obtain ⟨hasBot, hasToken⟩ := awaitsPairing_tokens awaits
  cases isWrite : pollWrite credentials updates with
  | pair update chatId chatLabel updateOffset =>
      rw [isWrite] at current
      have sameBot := current.1.trans hasBot
      refine ⟨fun other isChat => ?_, fun offset _ => ⟨_, rfl, sameBot⟩⟩
      obtain rfl := Option.some.inj isChat
      exact ⟨_, _, _, rfl, sameBot, current.2.trans hasToken, scanUpdates_pair isWrite⟩
  | offset updateOffset =>
      rw [isWrite] at current
      exact ⟨right.chat, fun offset _ => ⟨_, rfl, current.trans hasBot⟩⟩
  | nothing => exact right

theorem saveTelegramSettings_right {existing : Option StoredTelegram}
    (right : ∀ stored ∈ existing, BoundRight stored) (botToken : Option String)
    (disconnected : Bool) (saved : SavedBot) :
    BoundRight (saveTelegramSettings existing botToken disconnected saved) := by
  cases botToken with
  | some token => exact ⟨nofun, nofun⟩
  | none =>
      cases existing with
      | none => exact ⟨nofun, nofun⟩
      | some stored =>
          have held := right stored rfl
          exact ⟨held.chat, held.offset⟩

theorem pairingAct_invariant {system : PairingSystem} (invariant : PairingInvariant system)
    {action : PairingAction} (current : PollCurrent system action) :
    PairingInvariant (pairingAct system action) := by
  cases action with
  | startPoll now =>
      unfold pairingAct
      dsimp only
      split
      · split
        · rename_i awaits
          refine { invariant with polling := ?_ }
          rintro _ ⟨⟩
          exact ⟨now, awaits⟩
        · exact invariant
      · exact invariant
  | receive updates =>
      unfold pairingAct
      dsimp only
      split
      · rename_i credentials isPoll
        refine { invariant with polling := ?_ }
        intro poll isMapped
        obtain ⟨received, _, rfl⟩ := Option.map_eq_some_iff.mp isMapped
        exact invariant.polling ⟨credentials, none⟩ isPoll
      · exact invariant
  | finishPoll =>
      unfold pairingAct
      dsimp only
      split
      · rename_i credentials updates isPoll
        refine { stored := ?_, selected := invariant.selected, polling := by simp }
        intro later isMapped
        obtain ⟨stored, isStored, rfl⟩ := Option.map_eq_some_iff.mp isMapped
        obtain ⟨now, awaits⟩ := invariant.polling _ isPoll
        exact (invariant.stored stored isStored).poll awaits
          (current rfl _ isPoll updates rfl stored isStored)
      · exact invariant
  | startUpdate telegramBotToken =>
      refine { invariant with selected := ?_ }
      intro request member existing isSelected
      rcases List.mem_append.mp member with isOld | isNew
      · exact invariant.selected request isOld existing isSelected
      · unfold startUpdate at isNew
        dsimp only at isNew
        split at isNew
        · cases isNew
        · obtain rfl := List.mem_singleton.mp isNew
          cases isSelected
  | selectSettings position =>
      refine { invariant with selected := ?_ }
      intro request member existing isSelected
      obtain ⟨index, isRequest⟩ := List.getElem?_of_mem member
      rw [pairingAct, List.getElem?_modify] at isRequest
      obtain ⟨old, isOld, rfl⟩ := Option.map_eq_some_iff.mp isRequest
      by_cases isPosition : position = index
      · rw [if_pos isPosition] at isSelected
        obtain rfl := Option.some.inj isSelected
        exact invariant.stored
      · rw [if_neg isPosition] at isSelected
        exact invariant.selected old (List.mem_of_getElem? isOld) existing isSelected
  | saveSettings position saved =>
      unfold pairingAct
      dsimp only
      split
      · rename_i botToken disconnected existing isRequest
        refine { invariant with stored := ?_, selected := ?_ }
        · rintro _ ⟨⟩
          exact saveTelegramSettings_right (invariant.selected _ (List.mem_of_getElem? isRequest)
            existing rfl) botToken disconnected saved
        · exact fun request member =>
            invariant.selected request (List.mem_of_mem_eraseIdx member)
      · exact invariant
  | abandon position =>
      exact { invariant with
        selected := fun request member =>
          invariant.selected request (List.mem_of_mem_eraseIdx member) }

abbrev PairingRun (allowed : PairingSystem → PairingAction → Prop) :
    PairingSystem → PairingSystem → Prop :=
  Reaches (fun system action next => next = pairingAct system action) allowed

/-- In every run whose polls write to the row they have read, a stored chat has sent the
pairing token of the stored bot to that bot, and a stored offset is about its updates. -/
theorem pairing_binds_right_chat {system : PairingSystem}
    (run : PairingRun PollCurrent {} system) :
    ∀ stored ∈ system.stored, BoundRight stored := by
  have initial : PairingInvariant {} := ⟨by simp, by simp, by simp⟩
  refine (run.invariant PairingInvariant initial ?_).stored
  rintro state action _ invariant current rfl
  exact pairingAct_invariant invariant current

/-- The condition is exact: a poll that does not meet it leaves a row that is bound wrong. -/
theorem stale_poll_bound_wrong {stored : StoredTelegram} {credentials : TelegramRow}
    {updates : List TelegramUpdate} {now : Nat} (awaits : credentials.awaitsPairing now = true)
    (stale : ¬ (pollWrite credentials updates).fits stored.row credentials) :
    ¬ BoundRight (stored.poll (textOf credentials.botToken) (pollWrite credentials updates)) := by
  obtain ⟨hasBot, hasToken⟩ := awaitsPairing_tokens awaits
  intro right
  cases isWrite : pollWrite credentials updates with
  | pair update chatId chatLabel updateOffset =>
      rw [isWrite] at stale right
      obtain ⟨origin, pairingToken, label, isOrigin, sameBot, isRow, isMessage⟩ :=
        right.chat chatId rfl
      obtain rfl := Option.some.inj isOrigin
      refine stale ⟨sameBot.trans hasBot.symm, isRow.trans ?_⟩
      rw [hasToken]
      exact congrArg some (pairingMessage_token isMessage (scanUpdates_pair isWrite))
  | offset updateOffset =>
      rw [isWrite] at stale right
      obtain ⟨botToken, isFrom, sameBot⟩ := right.offset updateOffset rfl
      obtain rfl := Option.some.inj isFrom
      exact stale (sameBot.trans hasBot.symm)
  | nothing =>
      rw [isWrite] at stale
      exact stale trivial

/-! Two bots. -/

def pairingUpdate (pairingToken chatId : String) : TelegramUpdate where
  updateId := some 7
  message := some {
    text := some ("/start " ++ pairingToken)
    chat := some { id := some chatId } }

/-- A request with a bot token, from its start to its save. -/
def installBot (botToken pairingToken : String) : List PairingAction :=
  [.startUpdate (some botToken), .selectSettings 0,
    .saveSettings 0 { pairingToken, pairingExpiresAt := 900 }]

def installedThenPaired : List PairingAction :=
  installBot "first" "secret" ++
    [.startPoll 1, .receive (some [pairingUpdate "secret" "chat"]), .finishPoll]

/-- The second bot is installed while the poll for the first one is under way. -/
def replacedWhilePolling (updates : List TelegramUpdate) : List PairingAction :=
  installBot "first" "secret" ++ [.startPoll 1, .receive (some updates)] ++
    installBot "second" "other" ++ [.finishPoll]

theorem installed_bot_paired :
    ∃ stored, (installedThenPaired.foldl pairingAct {}).stored = some stored ∧
      stored.row.chatId = some "chat" ∧ BoundRight stored := by
  have paired : (installedThenPaired.foldl pairingAct {}).stored.any
      (·.row.chatId = some "chat") = true := by
    decide +kernel
  have current : Permitted pairingAct PollCurrent {} installedThenPaired := by
    unfold installedThenPaired installBot PollCurrent
    decide +kernel
  obtain ⟨stored, isStored, isChat⟩ := (Option.any_eq_true _ _).mp paired
  exact ⟨stored, isStored, of_decide_eq_true isChat,
    pairing_binds_right_chat (Reaches.of_permitted current) stored isStored⟩

theorem BoundRight.sameBot {stored : StoredTelegram} (right : BoundRight stored) :
    (stored.row.chatId.isSome = true →
      stored.chatFrom.map (·.botToken) = stored.row.botToken) ∧
    (stored.row.updateOffset.isSome = true → stored.offsetFrom = stored.row.botToken) := by
  refine ⟨fun hasChat => ?_, fun hasOffset => ?_⟩
  · obtain ⟨chatId, isChat⟩ := Option.isSome_iff_exists.mp hasChat
    obtain ⟨origin, _, _, isOrigin, sameBot, _⟩ := right.chat chatId isChat
    rw [isOrigin, sameBot, Option.map_some]
  · obtain ⟨updateOffset, isOffset⟩ := Option.isSome_iff_exists.mp hasOffset
    obtain ⟨botToken, isFrom, sameBot⟩ := right.offset updateOffset isOffset
    rw [isFrom, sameBot]

/-- The new bot is paired with the chat of the old one, or gets its offset. -/
theorem replaced_bot_bound_wrong :
    (∃ system, PairingRun (fun _ _ => True) {} system ∧ ∃ stored ∈ system.stored,
      stored.row.botToken = some "second" ∧ stored.row.chatId = some "chat" ∧
        stored.row.pairingToken = none ∧ ¬ BoundRight stored) ∧
    ∃ system, PairingRun (fun _ _ => True) {} system ∧ ∃ stored ∈ system.stored,
      stored.row.botToken = some "second" ∧ stored.row.updateOffset = some 8 ∧
        ¬ BoundRight stored := by
  have run (updates : List TelegramUpdate) : PairingRun (fun _ _ => True) {}
      ((replacedWhilePolling updates).foldl pairingAct {}) := .of_actions _ _
  refine ⟨⟨_, run [pairingUpdate "secret" "chat"], ?_⟩,
    ⟨_, run [pairingUpdate "unknown" "chat"], ?_⟩⟩
  · have found : ((replacedWhilePolling [pairingUpdate "secret" "chat"]).foldl pairingAct
        {}).stored.any (fun stored => stored.row.botToken = some "second" &&
          stored.row.chatId = some "chat" && stored.row.pairingToken = none &&
          stored.chatFrom.map (·.botToken) ≠ stored.row.botToken) = true := by
      decide +kernel
    obtain ⟨stored, isStored, isWrong⟩ := (Option.any_eq_true _ _).mp found
    simp only [Bool.and_eq_true, decide_eq_true_eq] at isWrong
    obtain ⟨⟨⟨isBot, isChat⟩, isCleared⟩, isOther⟩ := isWrong
    exact ⟨stored, isStored, isBot, isChat, isCleared,
      fun right => isOther (right.sameBot.1 (by rw [isChat]; rfl))⟩
  · have found : ((replacedWhilePolling [pairingUpdate "unknown" "chat"]).foldl pairingAct
        {}).stored.any (fun stored => stored.row.botToken = some "second" &&
          stored.row.updateOffset = some 8 && stored.offsetFrom ≠ stored.row.botToken) =
        true := by
      decide +kernel
    obtain ⟨stored, isStored, isWrong⟩ := (Option.any_eq_true _ _).mp found
    simp only [Bool.and_eq_true, decide_eq_true_eq] at isWrong
    obtain ⟨⟨isBot, isOffset⟩, isOther⟩ := isWrong
    exact ⟨stored, isStored, isBot, isOffset,
      fun right => isOther (right.sameBot.2 (by rw [isOffset]; rfl))⟩

end CamAdmiral
