import CamAdmiral.TextCore
import Mathlib.Data.List.Basic

/-!
IPv4 networks as text: `str` of an `IPv4Network`, and that `IPv4Network` reads it back as the
same network with its host bits cleared.
-/

namespace CamAdmiral

/-- What `IPv4Network` can build. -/
structure Ipv4Network.Valid (network : Ipv4Network) : Prop where
  address : network.address < 2 ^ 32
  prefixLength : network.prefixLength ≤ 32

def Ipv4Network.numAddresses (network : Ipv4Network) : Nat := 2 ^ (32 - network.prefixLength)

def Ipv4Network.networkAddress (network : Ipv4Network) : Nat :=
  network.address / network.numAddresses * network.numAddresses

def Ipv4Network.broadcastAddress (network : Ipv4Network) : Nat :=
  network.networkAddress + (network.numAddresses - 1)

def Ipv4Network.subnetOf (network range : Ipv4Network) : Bool :=
  range.networkAddress ≤ network.networkAddress &&
    network.broadcastAddress ≤ range.broadcastAddress

/-- The network with its host bits cleared, as `strict=False` keeps it. -/
def Ipv4Network.canonical (network : Ipv4Network) : Ipv4Network where
  address := network.networkAddress
  prefixLength := network.prefixLength

def octets (address : Nat) : List Nat :=
  [address / 256 ^ 3, address / 256 ^ 2 % 256, address / 256 % 256, address % 256]

def dotted (address : Nat) : List Char :=
  ['.'].intercalate ((octets address).map (Nat.toDigits 10))

/-- `str(address)`. -/
def addressText (address : Nat) : String := String.ofList (dotted address)

def Ipv4Network.chars (network : Ipv4Network) : List Char :=
  ['/'].intercalate [dotted network.networkAddress, Nat.toDigits 10 network.prefixLength]

/-- `str(network)`. -/
def Ipv4Network.text (network : Ipv4Network) : String := String.ofList network.chars

/-! Numbers below 256 in decimal. -/

structure OctetText (octet : Nat) (digits : List Char) : Prop where
  parsed : parseOctet digits = some octet
  decimal : isDecimal digits = true ∧ CamAdmiral.decimal digits = octet
  separators : '.' ∉ digits ∧ '/' ∉ digits
  spaces : ∀ character ∈ digits, isSpace character = false

def checkOctet (octet : Nat) : Bool :=
  let digits := Nat.toDigits 10 octet
  parseOctet digits == some octet && isDecimal digits && CamAdmiral.decimal digits == octet &&
    digits.all fun character => character != '.' && character != '/' && !isSpace character

theorem octetText {octet : Nat} (bound : octet < 256) :
    OctetText octet (Nat.toDigits 10 octet) := by
  have checked : (List.range 256).all checkOctet = true := by decide +kernel
  have isChecked := List.all_eq_true.mp checked octet (List.mem_range.mpr bound)
  simp only [checkOctet, Bool.and_eq_true, beq_iff_eq, List.all_eq_true, bne_iff_ne, ne_eq,
    Bool.not_eq_true'] at isChecked
  obtain ⟨⟨⟨parsed, isNumber⟩, value⟩, characters⟩ := isChecked
  exact ⟨parsed, ⟨isNumber, value⟩,
    ⟨fun member => (characters _ member).1.1 rfl, fun member => (characters _ member).1.2 rfl⟩,
    fun character member => (characters character member).2⟩

theorem octets_bound {address octet : Nat} (bound : address < 2 ^ 32)
    (member : octet ∈ octets address) : octet < 256 := by
  simp only [octets, List.mem_cons, List.not_mem_nil, or_false] at member
  omega

/-- A character of a dotted address belongs to an octet or is a dot. -/
theorem dotted_char {address : Nat} {character : Char} (member : character ∈ dotted address) :
    character = '.' ∨ ∃ octet ∈ octets address, character ∈ Nat.toDigits 10 octet := by
  simp only [dotted, octets, List.map_cons, List.map_nil, List.intercalate, List.intersperse,
    List.flatten_cons, List.flatten_nil, List.mem_append, List.mem_singleton,
    List.not_mem_nil, or_false] at member
  simp only [octets, List.mem_cons, List.not_mem_nil, or_false, exists_eq_or_imp,
    exists_eq_left]
  tauto

theorem ipv4Value_dotted {address : Nat} (bound : address < 2 ^ 32) :
    ipv4Value (dotted address) = some address := by
  have parsed {octet : Nat} (member : octet ∈ octets address) :
      parseOctet (Nat.toDigits 10 octet) = some octet :=
    (octetText (octets_bound bound member)).parsed
  have pieces : (dotted address).splitOn '.' = (octets address).map (Nat.toDigits 10) := by
    apply List.splitOn_intercalate
    · intro digits member
      obtain ⟨octet, isOctet, rfl⟩ := List.mem_map.mp member
      exact (octetText (octets_bound bound isOctet)).separators.1
    · simp [octets]
  simp only [octets, List.mem_cons, List.not_mem_nil, or_false, forall_eq_or_imp,
    forall_eq] at parsed
  obtain ⟨first, second, third, fourth⟩ := parsed
  simp only [octets, List.map_cons, List.map_nil] at pieces
  simp only [ipv4Value, pieces, first, second, third, fourth, Option.bind_eq_bind,
    Option.bind_some, Option.pure_def, Option.some.injEq]
  omega

/-! The text of a network. -/

theorem networkAddress_le (network : Ipv4Network) : network.networkAddress ≤ network.address :=
  Nat.div_mul_le_self _ _

theorem canonical_networkAddress (network : Ipv4Network) :
    network.canonical.networkAddress = network.networkAddress := by
  have positive : 0 < network.numAddresses := Nat.two_pow_pos _
  change network.address / network.numAddresses * network.numAddresses / network.numAddresses *
    network.numAddresses = network.networkAddress
  rw [Nat.mul_div_cancel _ positive]
  rfl

theorem Ipv4Network.Valid.canonical {network : Ipv4Network} (valid : network.Valid) :
    network.canonical.Valid :=
  ⟨Nat.lt_of_le_of_lt (networkAddress_le network) valid.address, valid.prefixLength⟩

theorem canonical_text (network : Ipv4Network) : network.canonical.text = network.text := by
  simp only [Ipv4Network.text, Ipv4Network.chars, canonical_networkAddress]
  rfl

theorem canonical_canonical (network : Ipv4Network) :
    network.canonical.canonical = network.canonical := by
  rw [Ipv4Network.canonical, canonical_networkAddress]
  rfl

theorem ipv4Network_text {network : Ipv4Network} (valid : network.Valid) :
    ipv4Network network.text = some network.canonical := by
  have bound : network.networkAddress < 2 ^ 32 :=
    Nat.lt_of_le_of_lt (networkAddress_le network) valid.address
  have lengthBound := valid.prefixLength
  have length : OctetText network.prefixLength _ := octetText (by omega)
  have pieces : network.chars.splitOn '/' =
      [dotted network.networkAddress, Nat.toDigits 10 network.prefixLength] := by
    apply List.splitOn_intercalate
    · intro piece member
      rcases List.mem_cons.mp member with rfl | isLength
      · intro slash
        rcases dotted_char slash with isDot | ⟨octet, isOctet, inside⟩
        · revert isDot
          decide
        · exact (octetText (octets_bound bound isOctet)).separators.2 inside
      · obtain rfl := List.mem_singleton.mp isLength
        exact length.separators.2
    · simp
  simp only [ipv4Network, Ipv4Network.text, String.toList_ofList, pieces, ipv4Value_dotted bound,
    parseNetmask, length.decimal.1, length.decimal.2, lengthBound, decide_true, Bool.and_self,
    if_true, Option.bind_eq_bind, Option.bind_some, Option.pure_def, Ipv4Network.canonical]

theorem strip_text {network : Ipv4Network} (valid : network.Valid) :
    strip network.text = network.text := by
  have bound : network.networkAddress < 2 ^ 32 :=
    Nat.lt_of_le_of_lt (networkAddress_le network) valid.address
  have lengthBound := valid.prefixLength
  have visible : ∀ character ∈ network.chars, isSpace character = false := by
    intro character member
    simp only [Ipv4Network.chars, List.intercalate, List.intersperse, List.flatten_cons,
      List.flatten_nil, List.mem_append, List.mem_singleton, List.not_mem_nil, or_false] at member
    rcases member with inAddress | isSlash | inLength
    · rcases dotted_char inAddress with rfl | ⟨octet, isOctet, inside⟩
      · decide
      · exact (octetText (octets_bound bound isOctet)).spaces character inside
    · subst isSlash
      decide
    · exact (octetText (by omega)).spaces character inLength
  have unchanged {characters : List Char}
      (visible : ∀ character ∈ characters, isSpace character = false) :
      characters.dropWhile isSpace = characters := by
    cases characters with
    | nil => rfl
    | cons first rest =>
        rw [List.dropWhile_cons_of_neg (by simp [visible first List.mem_cons_self])]
  rw [strip, Ipv4Network.text, String.toList_ofList, unchanged visible, unchanged (by simpa),
    List.reverse_reverse]

/-! Every network that is read is one `IPv4Network` can build. -/

theorem parseOctet_bound {digits : List Char} {octet : Nat}
    (parsed : parseOctet digits = some octet) : octet < 256 := by
  simp only [parseOctet, Option.ite_none_right_eq_some, Bool.and_eq_true, decide_eq_true_eq,
    Option.some.injEq] at parsed
  omega

theorem ipv4Value_bound {characters : List Char} {address : Nat}
    (parsed : ipv4Value characters = some address) : address < 2 ^ 32 := by
  simp only [ipv4Value] at parsed
  split at parsed
  · simp only [Option.bind_eq_bind, Option.bind_eq_some_iff, Option.pure_def,
      Option.some.injEq] at parsed
    obtain ⟨first, isFirst, second, isSecond, third, isThird, fourth, isFourth, rfl⟩ := parsed
    have firstBound := parseOctet_bound isFirst
    have secondBound := parseOctet_bound isSecond
    have thirdBound := parseOctet_bound isThird
    have fourthBound := parseOctet_bound isFourth
    omega
  · cases parsed

theorem maskPrefix_bound {mask length : Nat} (found : maskPrefix mask = some length) :
    length ≤ 32 := by
  have member := List.mem_range.mp (List.mem_of_find?_eq_some found)
  omega

theorem parseNetmask_bound {characters : List Char} {length : Nat}
    (parsed : parseNetmask characters = some length) : length ≤ 32 := by
  simp only [parseNetmask] at parsed
  split at parsed
  · rename_i small
    simp only [Bool.and_eq_true, decide_eq_true_eq] at small
    obtain rfl := Option.some.inj parsed
    exact small.2
  · simp only [Option.bind_eq_bind, Option.bind_eq_some_iff, Option.orElse_eq_orElse,
      Option.orElse_eq_or, Option.or_eq_some_iff] at parsed
    obtain ⟨mask, _, found | ⟨_, found⟩⟩ := parsed
    · exact maskPrefix_bound found
    · exact maskPrefix_bound found

theorem ipv4Network_valid {text : String} {network : Ipv4Network}
    (parsed : ipv4Network text = some network) : network.Valid := by
  simp only [ipv4Network] at parsed
  split at parsed
  · obtain ⟨address, isAddress, rfl⟩ := Option.map_eq_some_iff.mp parsed
    exact ⟨ipv4Value_bound isAddress, Nat.le_refl 32⟩
  · simp only [Option.bind_eq_bind, Option.bind_eq_some_iff, Option.pure_def,
      Option.some.injEq] at parsed
    obtain ⟨address, isAddress, length, isLength, rfl⟩ := parsed
    exact ⟨ipv4Value_bound isAddress, parseNetmask_bound isLength⟩
  · cases parsed

end CamAdmiral
