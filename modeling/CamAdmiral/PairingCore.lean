import CamAdmiral.Runs
import CamAdmiral.TextCore

/-!
Pairing with Telegram: the poll that waits for the pairing message works on the credentials
it has read, while requests change the settings. Beside the row of the settings stands where
its chat and its offset come from.
-/

namespace CamAdmiral

structure TelegramChat where
  id : Option String
  title : Option String := none
  firstName : Option String := none
  lastName : Option String := none
  username : Option String := none
  deriving DecidableEq, Repr

structure TelegramMessage where
  text : Option String := none
  chat : Option TelegramChat := none
  deriving DecidableEq, Repr

structure TelegramUpdate where
  updateId : Option Int := none
  message : Option TelegramMessage := none
  deriving DecidableEq, Repr

def TelegramChat.label (chat : TelegramChat) : String :=
  let names := [textOf chat.firstName, textOf chat.lastName].filter (· ≠ "")
  let candidates := [textOf chat.title, " ".intercalate names, textOf chat.username,
    "Telegram chat"]
  String.ofList (((candidates.find? (· ≠ "")).getD "").toList.take 160)

/-- The chat and its label, if the update is `/start` with the pairing token. -/
def pairingMessage (update : TelegramUpdate) (pairingToken : String) :
    Option (String × String) := do
  let message ← update.message
  let text := (strip (textOf message.text)).toList
  let command := text.takeWhile (· ≠ ' ')
  let supplied := (text.dropWhile (· ≠ ' ')).drop 1
  if command.takeWhile (· ≠ '@') ≠ "/start".toList ||
      strip (String.ofList supplied) ≠ pairingToken then
    none
  else
    let chat ← message.chat
    let id ← chat.id
    pure (id, chat.label)

/-- The row of `notification_settings`, decrypted. -/
structure TelegramRow where
  enabled : Bool
  botToken : Option String
  botId : Option String := none
  botUsername : Option String := none
  chatId : Option String := none
  chatLabel : Option String := none
  pairingToken : Option String := none
  pairingExpiresAt : Option Nat := none
  updateOffset : Option Int := none
  deriving DecidableEq, Repr

/-- The bot that received the message behind a chat, and the pairing token of the row when the
chat was stored. -/
structure ChatOrigin where
  botToken : String
  update : TelegramUpdate
  rowToken : Option String
  deriving DecidableEq, Repr

structure StoredTelegram where
  row : TelegramRow
  chatFrom : Option ChatOrigin := none
  /-- The bot whose updates the offset is about. -/
  offsetFrom : Option String := none
  deriving DecidableEq, Repr

/-! The poll. -/

inductive PollWrite
  | pair (update : TelegramUpdate) (chatId chatLabel : String) (updateOffset : Int)
  | offset (updateOffset : Int)
  | nothing
  deriving DecidableEq, Repr

/-- The loop over the updates, with `next_offset`. -/
def scanUpdates (pairingToken : String) (known : Option Int) :
    List TelegramUpdate → Option Int → PollWrite
  | [], next =>
      match next with
      | some offset => if next ≠ known then .offset offset else .nothing
      | none => .nothing
  | update :: rest, next =>
      let next := match update.updateId with
        | some updateId => some (max (next.getD 0) (updateId + 1))
        | none => next
      match pairingMessage update pairingToken with
      | some (chatId, chatLabel) => .pair update chatId chatLabel (next.getD 0)
      | none => scanUpdates pairingToken known rest next

/-- `_poll_telegram_pairing` goes on with these credentials at this time. -/
def TelegramRow.awaitsPairing (row : TelegramRow) (now : Nat) : Bool :=
  textOf row.botToken ≠ "" && textOf row.pairingToken ≠ "" && textOf row.chatId = "" &&
    row.pairingExpiresAt.any (now < ·)

/-- What a poll with these credentials writes. -/
def pollWrite (credentials : TelegramRow) (updates : List TelegramUpdate) : PollWrite :=
  scanUpdates (textOf credentials.pairingToken) credentials.updateOffset updates
    credentials.updateOffset

/-- `complete_telegram_pairing`. -/
def StoredTelegram.completePairing (stored : StoredTelegram) (botToken : String)
    (update : TelegramUpdate) (chatId chatLabel : String) (updateOffset : Int) :
    StoredTelegram where
  row := { stored.row with
    chatId := some chatId
    chatLabel := some chatLabel
    pairingToken := none
    pairingExpiresAt := none
    updateOffset := some updateOffset }
  chatFrom := some ⟨botToken, update, stored.row.pairingToken⟩
  offsetFrom := some botToken

/-- `update_telegram_offset`. -/
def StoredTelegram.updateOffset (stored : StoredTelegram) (botToken : String)
    (updateOffset : Int) : StoredTelegram :=
  { stored with
    row := { stored.row with updateOffset := some updateOffset }
    offsetFrom := some botToken }

def StoredTelegram.poll (stored : StoredTelegram) (botToken : String) :
    PollWrite → StoredTelegram
  | .pair update chatId chatLabel updateOffset =>
      stored.completePairing botToken update chatId chatLabel updateOffset
  | .offset updateOffset => stored.updateOffset botToken updateOffset
  | .nothing => stored

/-- The row is the one that the credentials were read from, as far as the write needs it. -/
def PollWrite.fits (write : PollWrite) (row credentials : TelegramRow) : Prop :=
  match write with
  | .pair .. => row.botToken = credentials.botToken ∧ row.pairingToken = credentials.pairingToken
  | .offset _ => row.botToken = credentials.botToken
  | .nothing => True

instance (row credentials : TelegramRow) : (write : PollWrite) →
    Decidable (write.fits row credentials)
  | .pair .. => inferInstanceAs (Decidable (_ ∧ _))
  | .offset _ => inferInstanceAs (Decidable (row.botToken = credentials.botToken))
  | .nothing => instDecidableTrue

/-! The requests. -/

/-- The bot of a new token, and the pairing token with its expiry. -/
structure SavedBot where
  botId : String := ""
  botUsername : String := ""
  pairingToken : String
  pairingExpiresAt : Nat
  deriving DecidableEq, Repr

/-- The upsert of `save_telegram_settings`, from the row that it has selected before. -/
def saveTelegramSettings (existing : Option StoredTelegram) (botToken : Option String)
    (disconnected : Bool) (saved : SavedBot) : StoredTelegram :=
  let held := existing.map (·.row)
  let pairingToken := if disconnected then some saved.pairingToken else
    held.bind (·.pairingToken)
  let pairingExpiresAt := if disconnected then some saved.pairingExpiresAt else
    held.bind (·.pairingExpiresAt)
  match botToken with
  | some token => {
      row := {
        enabled := true
        botToken := some token
        botId := some saved.botId
        botUsername := some saved.botUsername
        pairingToken
        pairingExpiresAt } }
  | none => {
      row := {
        enabled := true
        botToken := held.bind (·.botToken)
        botId := held.bind (·.botId)
        botUsername := held.bind (·.botUsername)
        chatId := held.bind (·.chatId)
        chatLabel := held.bind (·.chatLabel)
        pairingToken
        pairingExpiresAt
        updateOffset := held.bind (·.updateOffset) }
      chatFrom := existing.bind (·.chatFrom)
      offsetFrom := existing.bind (·.offsetFrom) }

/-- A request that goes on to save: its token, if it brings one, whether it pairs anew, and
the row that the save has selected. -/
structure SettingsRequest where
  botToken : Option String
  disconnected : Bool
  selected : Option (Option StoredTelegram) := none
  deriving DecidableEq, Repr

/-- `telegram_bot_token.strip()`; an empty text is no token. -/
def requestedToken (telegramBotToken : Option String) : Option String :=
  if textOf telegramBotToken = "" then none else some (strip (textOf telegramBotToken))

/-- `update_notification_settings` up to the calls of Telegram. -/
def startUpdate (credentials : Option TelegramRow) (telegramBotToken : Option String) :
    Option SettingsRequest :=
  let token := requestedToken telegramBotToken
  if token.isNone && textOf (credentials.bind (·.botToken)) = "" then
    none
  else
    some {
      botToken := token
      disconnected := token.isSome || textOf (credentials.bind (·.chatId)) = "" }

/-! Both, in any order. -/

/-- The credentials of the poll, and the updates once it has them. -/
structure PairingPoll where
  credentials : TelegramRow
  updates : Option (List TelegramUpdate) := none
  deriving DecidableEq, Repr

structure PairingSystem where
  stored : Option StoredTelegram := none
  poll : Option PairingPoll := none
  requests : List SettingsRequest := []
  deriving DecidableEq, Repr

inductive PairingAction
  | startPoll (now : Nat)
  /-- `none` is a `TelegramError`. -/
  | receive (updates : Option (List TelegramUpdate))
  | finishPoll
  | startUpdate (telegramBotToken : Option String)
  | selectSettings (position : Nat)
  | saveSettings (position : Nat) (saved : SavedBot)
  /-- Telegram refuses the token, or the request fails. -/
  | abandon (position : Nat)
  deriving DecidableEq, Repr

def PairingSystem.credentials (system : PairingSystem) : Option TelegramRow :=
  system.stored.map (·.row)

def pairingAct (system : PairingSystem) : PairingAction → PairingSystem
  | .startPoll now =>
      match system.poll, system.credentials with
      | none, some credentials =>
          if credentials.awaitsPairing now then
            { system with poll := some { credentials } }
          else
            system
      | _, _ => system
  | .receive updates =>
      match system.poll with
      | some ⟨credentials, none⟩ =>
          { system with
            poll := updates.map fun updates => { credentials, updates := some updates } }
      | _ => system
  | .finishPoll =>
      match system.poll with
      | some ⟨credentials, some updates⟩ =>
          { system with
            poll := none
            stored := system.stored.map fun stored =>
              stored.poll (textOf credentials.botToken) (pollWrite credentials updates) }
      | _ => system
  | .startUpdate telegramBotToken =>
      { system with
        requests := system.requests ++
          (startUpdate system.credentials telegramBotToken).toList }
  | .selectSettings position =>
      { system with
        requests := system.requests.modify position fun request =>
          { request with selected := some system.stored } }
  | .saveSettings position saved =>
      match system.requests[position]? with
      | some ⟨botToken, disconnected, some existing⟩ =>
          { system with
            stored := some (saveTelegramSettings existing botToken disconnected saved)
            requests := system.requests.eraseIdx position }
      | _ => system
  | .abandon position => { system with requests := system.requests.eraseIdx position }

end CamAdmiral
