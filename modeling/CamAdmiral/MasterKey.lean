import CamAdmiral.Base64
import CamAdmiral.TextLaws

/-!
The master key in its file. The white space around the content of a secret file is dropped
before the format of the key is guessed, so raw bytes are read back only if they do not start
or end with a byte that counts as white space.
-/

namespace CamAdmiral

/-! Secret files. -/

/-- What a secret file holds when it is read. -/
inductive SecretFile
  | missing
  | unreadable
  | content (bytes : List UInt8)
  deriving DecidableEq, Repr

/-- `bytes.strip`. -/
def stripBytes (bytes : List UInt8) : List UInt8 :=
  ((bytes.dropWhile isByteSpace).reverse.dropWhile isByteSpace).reverse

def readSecretFile (file : SecretFile) (required : Bool) : Except String (Option (List UInt8)) :=
  match file with
  | .missing =>
      if required then .error "Configured secret file does not exist" else .ok none
  | .unreadable => .error "Cannot read configured secret file"
  | .content bytes =>
      if stripBytes bytes = [] then .error "Configured secret file is empty"
      else .ok (some (stripBytes bytes))

/-! The formats of a key. -/

def toUrlsafe (byte : UInt8) : UInt8 := if byte = 43 then 45 else if byte = 47 then 95 else byte

def fromUrlsafe (byte : UInt8) : UInt8 := if byte = 45 then 43 else if byte = 95 then 47 else byte

def urlsafeB64encode (bytes : List UInt8) : List UInt8 := (b64encode bytes).map toUrlsafe

def urlsafeB64decode (text : List UInt8) : Option (List UInt8) :=
  a2bBase64 false (text.map fromUrlsafe)

/-- The text, and the text with its padding where some is missing. -/
def keyCandidates (text : List UInt8) : List (List UInt8) :=
  text :: if text.length % 4 = 0 then []
    else [text ++ List.replicate (4 - text.length % 4) base64Pad]

def ofKeySize (decoded : Option (List UInt8)) : Option (List UInt8) :=
  decoded.filter (·.length = 32)

/-- `_decode_key`; an error without a text is a `UnicodeDecodeError`. -/
def decodeKey (value : List UInt8) : Except (Option String) (List UInt8) :=
  if value.length = 32 then .ok value
  else if value.any fun byte => 128 ≤ byte.toNat then .error none
  else
    match (keyCandidates value).findSome? fun candidate =>
        ofKeySize (urlsafeB64decode candidate) with
    | some decoded => .ok decoded
    | none =>
        match ofKeySize (fromHex value) with
        | some decoded => .ok decoded
        | none => .error (some "CamAdmiral master key must contain exactly 32 random bytes")

def decodedKey (value : List UInt8) : Except String (List UInt8) :=
  match decodeKey value with
  | .ok key => .ok key
  | .error none => .error "CamAdmiral master key has an invalid format"
  | .error (some message) => .error message

/-- The key of a secret file. -/
def readKey (file : SecretFile) (required : Bool) : Except String (Option (List UInt8)) :=
  match readSecretFile file required with
  | .error message => .error message
  | .ok none => .ok none
  | .ok (some value) => (decodedKey value).map some

/-! The key that is generated. -/

/-- What happens to the new file: it may be there already, it may not be created, and what is
written may be cut off. -/
inductive Creation
  | created
  | taken (existing : SecretFile)
  | refused
  | unwritten (written : List UInt8)
  deriving DecidableEq, Repr

/-- `_generate_master_key`, and the file it leaves. -/
def generateMasterKey (creation : Creation) (random : List UInt8) :
    Except String (List UInt8) × SecretFile :=
  match creation with
  | .created => (.ok random, .content (urlsafeB64encode random ++ [10]))
  | .taken existing =>
      match readKey existing true with
      | .ok (some key) => (.ok key, existing)
      | .ok none => (.error "Configured secret file does not exist", existing)
      | .error message => (.error message, existing)
  | .refused => (.error "Cannot create persistent CamAdmiral master key", .missing)
  | .unwritten written =>
      (.error "Cannot write persistent CamAdmiral master key", .content written)

structure KeyStorage where
  mounted : SecretFile
  mountedExplicit : Bool
  generated : SecretFile
  database : Bool
  deriving DecidableEq, Repr

def loadMasterKey (storage : KeyStorage) (creation : Creation) (random : List UInt8) :
    Except String (List UInt8) × KeyStorage :=
  match readKey storage.mounted storage.mountedExplicit with
  | .error message => (.error message, storage)
  | .ok (some key) => (.ok key, storage)
  | .ok none =>
      match readKey storage.generated false with
      | .error message => (.error message, storage)
      | .ok (some key) => (.ok key, storage)
      | .ok none =>
          if storage.database then
            (.error "CamAdmiral master key is missing for the existing database", storage)
          else
            let result := generateMasterKey creation random
            (result.1, { storage with generated := result.2 })

/-! White space around the content. -/

/-- Neither end counts as white space. -/
def KeepsEnds (bytes : List UInt8) : Prop :=
  (∀ byte ∈ bytes.head?, isByteSpace byte = false) ∧
    ∀ byte ∈ bytes.getLast?, isByteSpace byte = false

theorem stripBytes_eq_self {bytes : List UInt8} : stripBytes bytes = bytes ↔ KeepsEnds bytes :=
  dropEnds_eq_self

theorem stripBytes_sublist (bytes : List UInt8) : (stripBytes bytes).Sublist bytes := by
  have started := List.dropWhile_sublist (l := bytes) isByteSpace
  have ended := List.dropWhile_sublist (l := (bytes.dropWhile isByteSpace).reverse) isByteSpace
  have reversed := List.reverse_sublist.mpr ended
  rw [List.reverse_reverse] at reversed
  exact reversed.trans started

/-- A line end after the content makes no difference. -/
theorem stripBytes_newline (bytes : List UInt8) :
    stripBytes (bytes ++ [10]) = stripBytes bytes := by
  rw [stripBytes, stripBytes, List.dropWhile_append]
  by_cases empty : bytes.dropWhile isByteSpace = []
  · rw [empty]
    rfl
  · rw [if_neg (by simpa using empty), List.reverse_append]
    rfl

theorem plain_keepsEnds {bytes : List UInt8} (plain : ∀ byte ∈ bytes, isByteSpace byte = false) :
    KeepsEnds bytes :=
  ⟨fun byte isFirst => plain byte (List.mem_of_mem_head? isFirst),
    fun byte isLast => plain byte (List.mem_of_mem_getLast? isLast)⟩

/-! What a decoded key needs. -/

theorem ofKeySize_eq_some {decoded : Option (List UInt8)} {key : List UInt8} :
    ofKeySize decoded = some key ↔ decoded = some key ∧ key.length = 32 := by
  rw [ofKeySize, Option.filter_eq_some_iff, decide_eq_true_eq]

/-- A key is no longer than the text it is decoded from. -/
theorem decodedKey_length {value key : List UInt8} (isKey : decodedKey value = .ok key) :
    32 ≤ value.length := by
  by_contra short
  have notWhole : value.length ≠ 32 := by omega
  have unpaddedSize (pads : Nat) :
      ((value ++ List.replicate pads base64Pad).map fromUrlsafe).countP (· ≠ base64Pad) ≤
        value.length := by
    rw [List.map_append, List.countP_append, List.map_replicate, List.countP_replicate]
    have counted := List.countP_le_length (l := value.map fromUrlsafe) (p := (· ≠ base64Pad))
    rw [List.length_map] at counted
    simpa [fromUrlsafe, base64Pad] using counted
  have fromText (pads : Nat) :
      ofKeySize (urlsafeB64decode (value ++ List.replicate pads base64Pad)) = none := by
    cases isDecoded : ofKeySize (urlsafeB64decode (value ++ List.replicate pads base64Pad)) with
    | none => rfl
    | some decoded =>
        obtain ⟨decodes, size⟩ := ofKeySize_eq_some.mp isDecoded
        rw [urlsafeB64decode, a2bBase64, if_neg (by simp)] at decodes
        have := length_decodeGroups decodes
        have := unpaddedSize pads
        omega
  have noCandidate : (keyCandidates value).findSome?
      (fun candidate => ofKeySize (urlsafeB64decode candidate)) = none := by
    rw [List.findSome?_eq_none_iff]
    intro candidate member
    rw [keyCandidates, List.mem_cons] at member
    rcases member with rfl | member
    · have same := fromText 0
      rwa [List.replicate_zero, List.append_nil] at same
    · split at member
      · cases member
      · rw [List.mem_singleton] at member
        rw [member]
        exact fromText _
  have noHex : ofKeySize (fromHex value) = none := by
    cases isDecoded : ofKeySize (fromHex value) with
    | none => rfl
    | some decoded =>
        obtain ⟨decodes, size⟩ := ofKeySize_eq_some.mp isDecoded
        have := length_fromHex decodes
        omega
  rw [decodedKey, decodeKey, if_neg notWhole, noCandidate, noHex] at isKey
  by_cases outside : (value.any fun byte => 128 ≤ byte.toNat) = true
  · rw [if_pos outside] at isKey
    cases isKey
  · rw [if_neg outside] at isKey
    cases isKey

/-! The formats are read back. -/

inductive KeyEncoding
  | raw
  | padded
  | unpadded
  | hexadecimal
  deriving DecidableEq, Repr

inductive KeyText (key : List UInt8) : KeyEncoding → List UInt8 → Prop
  | raw : KeyText key .raw key
  | padded : KeyText key .padded (urlsafeB64encode key)
  | unpadded : KeyText key .unpadded (unpadded (urlsafeB64encode key))
  | hexadecimal {text : List UInt8} (isHex : HexText key text) : KeyText key .hexadecimal text

/-- The bytes of a key's text. -/
structure TextByte (byte : UInt8) : Prop where
  space : isByteSpace byte = false
  ascii : byte.toNat < 128

/-- Digits and pads survive the change of the alphabet. -/
theorem urlsafe_digit {byte : UInt8}
    (isText : (base64Digit byte).isSome = true ∨ byte = base64Pad) :
    fromUrlsafe (toUrlsafe byte) = byte ∧ TextByte (toUrlsafe byte) ∧
      (toUrlsafe byte = base64Pad ↔ byte = base64Pad) := by
  have all : ∀ code < 256, (base64Digit (UInt8.ofNat code)).isSome = true ∨
      UInt8.ofNat code = base64Pad →
        fromUrlsafe (toUrlsafe (UInt8.ofNat code)) = UInt8.ofNat code ∧
        (isByteSpace (toUrlsafe (UInt8.ofNat code)) = false ∧
          (toUrlsafe (UInt8.ofNat code)).toNat < 128) ∧
        (toUrlsafe (UInt8.ofNat code) = base64Pad ↔ UInt8.ofNat code = base64Pad) := by
    decide +kernel
  have known := all byte.toNat byte.toNat_lt
  rw [UInt8.ofNat_toNat] at known
  obtain ⟨back, ⟨space, ascii⟩, isPad⟩ := known isText
  exact ⟨back, ⟨space, ascii⟩, isPad⟩

theorem fromUrlsafe_digit {byte : UInt8} (isDigit : (base64Digit byte).isSome = true) :
    fromUrlsafe byte = byte := by
  have notDash : byte ≠ 45 := by
    rintro rfl
    exact absurd isDigit (by decide)
  have notLow : byte ≠ 95 := by
    rintro rfl
    exact absurd isDigit (by decide)
  rw [fromUrlsafe, if_neg notDash, if_neg notLow]

theorem b64encode_byte (bytes : List UInt8) {byte : UInt8} (member : byte ∈ b64encode bytes) :
    (base64Digit byte).isSome = true ∨ byte = base64Pad := by
  by_cases isPad : byte = base64Pad
  · exact .inr isPad
  · exact .inl (unpadded_encode_digits bytes byte
      (List.mem_filter.mpr ⟨member, decide_eq_true isPad⟩))

theorem urlsafeB64decode_encode (bytes : List UInt8) :
    urlsafeB64decode (urlsafeB64encode bytes) = some bytes := by
  have back : (urlsafeB64encode bytes).map fromUrlsafe = b64encode bytes := by
    rw [urlsafeB64encode, List.map_map]
    conv_rhs => rw [← List.map_id (b64encode bytes)]
    exact List.map_congr_left fun byte member => (urlsafe_digit (b64encode_byte bytes member)).1
  rw [urlsafeB64decode, back, a2bBase64, if_neg (by simp)]
  exact decodeGroups_encoded false 0 0 bytes

theorem urlsafeB64encode_byte {bytes : List UInt8} {byte : UInt8}
    (member : byte ∈ urlsafeB64encode bytes) : TextByte byte := by
  obtain ⟨digit, inText, rfl⟩ := List.mem_map.mp member
  exact (urlsafe_digit (b64encode_byte bytes inText)).2.1

/-- The encoding of a key has one pad. -/
theorem urlsafeB64encode_key {key : List UInt8} (size : key.length = 32) :
    urlsafeB64encode key = unpadded (urlsafeB64encode key) ++ [base64Pad] ∧
      (unpadded (urlsafeB64encode key)).length = 43 ∧
      unpadded (urlsafeB64encode key) = (unpadded (b64encode key)).map toUrlsafe := by
  have same : unpadded (urlsafeB64encode key) = (unpadded (b64encode key)).map toUrlsafe := by
    rw [unpadded, unpadded, urlsafeB64encode, List.filter_map]
    congr 1
    apply List.filter_congr
    intro byte member
    exact decide_eq_decide.mpr (not_congr (urlsafe_digit (b64encode_byte key member)).2.2)
  obtain ⟨pads, split, counted, few, whole⟩ := b64encode_padding key
  obtain rfl : pads = 1 := by omega
  refine ⟨?_, ?_, same⟩
  · rw [same]
    conv_lhs => rw [urlsafeB64encode, split]
    rw [List.map_append]
    rfl
  · rw [same, List.length_map]
    omega

/-- What a text that is no key itself is decoded to. -/
theorem decodedKey_text {text key : List UInt8} (notKey : text.length ≠ 32)
    (isText : ∀ byte ∈ text, TextByte byte)
    (decodes : (keyCandidates text).findSome?
        (fun candidate => ofKeySize (urlsafeB64decode candidate)) = some key ∨
      ((keyCandidates text).findSome?
        (fun candidate => ofKeySize (urlsafeB64decode candidate)) = none ∧
          ofKeySize (fromHex text) = some key)) : decodedKey text = .ok key := by
  have ascii : ¬ (text.any fun byte => 128 ≤ byte.toNat) = true := by
    rw [List.any_eq_true]
    rintro ⟨byte, member, high⟩
    have low := (isText byte member).ascii
    rw [decide_eq_true_eq] at high
    omega
  rw [decodedKey, decodeKey, if_neg notKey, if_neg ascii]
  rcases decodes with found | ⟨none, found⟩
  · rw [found]
  · rw [none, found]

/-- Every encoding but the raw bytes is text that is decoded to the key. -/
theorem keyText_decoded {key text : List UInt8} {encoding : KeyEncoding} (size : key.length = 32)
    (encoded : KeyText key encoding text) (isText : encoding ≠ .raw) :
    decodedKey text = .ok key ∧ ∀ byte ∈ text, TextByte byte := by
  have whole : ofKeySize (urlsafeB64decode (urlsafeB64encode key)) = some key :=
    ofKeySize_eq_some.mpr ⟨urlsafeB64decode_encode key, size⟩
  obtain ⟨split, digits, same⟩ := urlsafeB64encode_key size
  have length : (urlsafeB64encode key).length = 44 := by
    rw [split, List.length_append, digits]
    rfl
  cases encoded with
  | raw => exact absurd rfl isText
  | padded =>
      have bytes : ∀ byte ∈ urlsafeB64encode key, TextByte byte :=
        fun byte member => urlsafeB64encode_byte member
      refine ⟨decodedKey_text (by omega) bytes (.inl ?_), bytes⟩
      rw [keyCandidates, List.findSome?_cons, whole]
  | unpadded =>
      have bytes : ∀ byte ∈ unpadded (urlsafeB64encode key), TextByte byte :=
        fun byte member => urlsafeB64encode_byte (List.mem_filter.mp member).1
      refine ⟨decodedKey_text (by omega) bytes (.inl ?_), bytes⟩
      have incomplete : urlsafeB64decode (unpadded (urlsafeB64encode key)) = none := by
        have back : (unpadded (urlsafeB64encode key)).map fromUrlsafe =
            unpadded (b64encode key) := by
          rw [same, List.map_map]
          conv_rhs => rw [← List.map_id (unpadded (b64encode key))]
          exact List.map_congr_left fun byte member =>
            (urlsafe_digit (.inl (unpadded_encode_digits key byte member))).1
        have counted := @decodeGroups_digits false 0 (by decide) 0 0 _
          (unpadded_encode_digits key)
        rw [same, List.length_map] at digits
        rw [if_neg (by omega)] at counted
        rw [urlsafeB64decode, back, a2bBase64, if_neg (by simp)]
        exact Option.map_eq_none_iff.mp counted
      have candidates : keyCandidates (unpadded (urlsafeB64encode key)) =
          [unpadded (urlsafeB64encode key), urlsafeB64encode key] := by
        have missing : (4 - 43 % 4) = 1 := by decide
        rw [keyCandidates, digits, if_neg (by decide), missing, List.replicate_one, ← split]
      rw [candidates, List.findSome?_cons, incomplete, List.findSome?_cons, whole]
      rfl
  | hexadecimal isHex =>
      have bytes : ∀ byte ∈ text, TextByte byte := by
        intro byte member
        obtain ⟨space, isDigit⟩ := isHex.digits byte member
        exact ⟨space, base64Digit_ascii isDigit⟩
      have long := isHex.length
      refine ⟨decodedKey_text (by omega) bytes (.inr ⟨?_, ?_⟩), bytes⟩
      · have back : text.map fromUrlsafe = text := by
          conv_rhs => rw [← List.map_id text]
          exact List.map_congr_left fun byte member =>
            fromUrlsafe_digit (isHex.digits byte member).2
        have counted := @decodeGroups_digits false 0 (by decide) 0 0 text
          fun byte member => (isHex.digits byte member).2
        rw [if_pos (by omega)] at counted
        have wrongSize : ofKeySize (urlsafeB64decode text) = none := by
          cases isDecoded : ofKeySize (urlsafeB64decode text) with
          | none => rfl
          | some decoded =>
              obtain ⟨decodes, isSize⟩ := ofKeySize_eq_some.mp isDecoded
              rw [urlsafeB64decode, back, a2bBase64, if_neg (by simp)] at decodes
              rw [decodes, Option.map_some, Option.some.injEq] at counted
              omega
        rw [keyCandidates, if_pos (by omega), List.findSome?_cons, wrongSize]
        rfl
      · exact ofKeySize_eq_some.mpr ⟨isHex.decoded, size⟩

theorem readKey_newline (bytes : List UInt8) (newline required : Bool) :
    readKey (.content (bytes ++ if newline then [10] else [])) required =
      readKey (.content bytes) required := by
  cases newline with
  | false => rw [if_neg Bool.false_ne_true, List.append_nil]
  | true => rw [if_pos rfl, readKey, readKey, readSecretFile, readSecretFile, stripBytes_newline]

theorem readKey_content {bytes : List UInt8} (nonempty : stripBytes bytes ≠ []) (required : Bool) :
    readKey (.content bytes) required = (decodedKey (stripBytes bytes)).map some := by
  rw [readKey, readSecretFile, if_neg nonempty]

/-- Text that is decoded to the key is read back. -/
theorem readKey_text {key text : List UInt8} {encoding : KeyEncoding} (size : key.length = 32)
    (encoded : KeyText key encoding text) (isText : encoding ≠ .raw) (newline required : Bool) :
    readKey (.content (text ++ if newline then [10] else [])) required = .ok (some key) := by
  obtain ⟨decodes, bytes⟩ := keyText_decoded size encoded isText
  have long := decodedKey_length decodes
  have kept : stripBytes text = text :=
    stripBytes_eq_self.mpr (plain_keepsEnds fun byte member => (bytes byte member).space)
  have nonempty : stripBytes text ≠ [] := by
    rw [kept]
    rintro rfl
    exact absurd long (by decide)
  rw [readKey_newline, readKey_content nonempty, kept, decodes]
  rfl

/-- Raw bytes are read back exactly if they keep their ends. -/
theorem readKey_raw {key : List UInt8} (size : key.length = 32) (newline required : Bool) :
    readKey (.content (key ++ if newline then [10] else [])) required = .ok (some key) ↔
      KeepsEnds key := by
  rw [readKey_newline]
  constructor
  · intro isRead
    rw [← stripBytes_eq_self]
    apply (stripBytes_sublist key).eq_of_length_le
    by_cases empty : stripBytes key = []
    · rw [readKey, readSecretFile, if_pos empty] at isRead
      cases isRead
    · rw [readKey_content empty] at isRead
      cases decodes : decodedKey (stripBytes key) with
      | error message =>
          rw [decodes] at isRead
          cases isRead
      | ok decoded =>
          rw [size]
          exact decodedKey_length decodes
  · intro keeps
    have kept := stripBytes_eq_self.mpr keeps
    have nonempty : stripBytes key ≠ [] := by
      rw [kept]
      rintro rfl
      exact absurd size (by decide)
    rw [readKey_content nonempty, kept, decodedKey, decodeKey, if_pos size]
    rfl

/-! The next start. -/

theorem readKey_required {file : SecretFile} {key : List UInt8}
    (isRead : readKey file true = .ok (some key)) (required : Bool) :
    readKey file required = .ok (some key) := by
  cases file with
  | missing => cases isRead
  | unreadable => cases isRead
  | content bytes => exact isRead

/-- The file of a generated key holds it. -/
theorem generateMasterKey_file {creation : Creation} {random key : List UInt8}
    (size : random.length = 32) (generated : (generateMasterKey creation random).1 = .ok key) :
    readKey (generateMasterKey creation random).2 false = .ok (some key) := by
  cases creation with
  | created =>
      obtain rfl : random = key := Except.ok.inj generated
      exact readKey_text size .padded (by decide) true false
  | taken existing =>
      rw [generateMasterKey] at generated ⊢
      split at generated
      · rename_i found isRead
        rw [← Except.ok.inj generated]
        exact readKey_required isRead false
      · cases generated
      · cases generated
  | refused => cases generated
  | unwritten written => cases generated

/-- A key that was loaded is loaded again, however the start after it goes. -/
theorem loadMasterKey_again {storage : KeyStorage} {creation : Creation}
    {random key : List UInt8} (size : random.length = 32)
    (loaded : (loadMasterKey storage creation random).1 = .ok key) (database : Bool)
    (nextCreation : Creation) (nextRandom : List UInt8) :
    (loadMasterKey { (loadMasterKey storage creation random).2 with database := database }
      nextCreation nextRandom).1 = .ok key := by
  rw [loadMasterKey] at loaded
  rw [loadMasterKey, loadMasterKey]
  cases mounted : readKey storage.mounted storage.mountedExplicit with
  | error message =>
      simp only [mounted] at loaded
      cases loaded
  | ok found =>
      cases found with
      | some first =>
          simp only [mounted] at loaded ⊢
          exact loaded
      | none =>
          simp only [mounted] at loaded
          cases isGenerated : readKey storage.generated false with
          | error message =>
              simp only [isGenerated] at loaded
              cases loaded
          | ok kept =>
              cases kept with
              | some second =>
                  simp only [isGenerated] at loaded
                  simp only [mounted, isGenerated]
                  exact loaded
              | none =>
                  simp only [isGenerated] at loaded
                  split at loaded
                  · cases loaded
                  · rename_i fresh
                    have stored := generateMasterKey_file size loaded
                    simp only [mounted, if_neg fresh, stored]

/-- A key of 32 bytes is read back from every accepted encoding exactly if raw bytes keep their
ends; a key that is generated is loaded at the next start. -/
theorem master_key_loads_iff {key : List UInt8} (size : key.length = 32) :
    (∀ encoding text, KeyText key encoding text → ∀ newline required : Bool,
      readKey (.content (text ++ if newline then [10] else [])) required = .ok (some key) ↔
        (encoding = .raw → KeepsEnds key)) ∧
    ∀ storage : KeyStorage, (loadMasterKey storage .created key).1 = .ok key →
      ∀ database creation random,
        (loadMasterKey { (loadMasterKey storage .created key).2 with database := database }
          creation random).1 = .ok key := by
  refine ⟨?_, fun storage loaded => loadMasterKey_again size loaded⟩
  intro encoding text encoded newline required
  by_cases isRaw : encoding = .raw
  · subst isRaw
    cases encoded with
    | raw =>
        rw [readKey_raw size]
        exact ⟨fun keeps _ => keeps, fun keeps => keeps rfl⟩
  · exact iff_of_true (readKey_text size encoded isRaw newline required)
      fun same => absurd same isRaw

def countingKey : List UInt8 := (List.range 32).map fun index => UInt8.ofNat (index + 100)

theorem counting_key_loads :
    readKey (.content (urlsafeB64encode countingKey ++ [10])) true = .ok (some countingKey) := by
  have size : countingKey.length = 32 := by decide
  exact ((master_key_loads_iff size).1 .padded _ .padded true true).mpr nofun

/-- A raw key that ends in a line feed loses it and is too short to be a key. -/
theorem raw_key_cut :
    ¬ ∀ key : List UInt8, key.length = 32 → ∀ encoding text, KeyText key encoding text →
      ∀ newline required : Bool,
        readKey (.content (text ++ if newline then [10] else [])) required = .ok (some key) := by
  intro always
  have isRead := always (List.replicate 31 200 ++ [10]) (by decide) .raw _ .raw false true
  exact absurd isRead (by decide +kernel)

end CamAdmiral
