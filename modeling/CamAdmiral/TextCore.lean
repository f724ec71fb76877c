import Mathlib.Algebra.Group.Nat.Defs

/-!
The string and address operations that the scanner takes from Python: `str.strip`,
`str.lower` and the parsing half of `ipaddress`. Case folding depends on the Unicode
tables of the interpreter, so it stays a parameter of everything built on it.
-/

namespace CamAdmiral

/-- `str.lower`. -/
class TextCase where
  lower : String → String
  lower_empty : lower "" = ""

attribute [simp] TextCase.lower_empty

/-- `str.lower` on ASCII text, for concrete runs. -/
@[reducible] def asciiCase : TextCase where
  lower text := String.ofList (text.toList.map Char.toLower)
  lower_empty := rfl

/-- The characters `str.isspace` accepts. -/
def isSpace (character : Char) : Bool :=
  let code := character.toNat
  (9 ≤ code && code ≤ 13) || (28 ≤ code && code ≤ 32) || code == 0x85 || code == 0xA0 ||
    code == 0x1680 || (0x2000 ≤ code && code ≤ 0x200A) || code == 0x2028 || code == 0x2029 ||
    code == 0x202F || code == 0x205F || code == 0x3000

def strip (text : String) : String :=
  String.ofList (((text.toList.dropWhile isSpace).reverse.dropWhile isSpace).reverse)

/-- `str(value or "")` for a field that may be absent, null or empty. -/
def textOf (value : Option String) : String := value.getD ""

def startsWith (text start : String) : Bool := start.toList.isPrefixOf text.toList

/-! The address grammar of `ipaddress.IPv4Address` and `IPv4Network(strict=False)`. -/

def decimal (digits : List Char) : Nat :=
  digits.foldl (fun value digit => value * 10 + (digit.toNat - '0'.toNat)) 0

def isDecimal (digits : List Char) : Bool :=
  !digits.isEmpty && digits.all fun digit => '0' ≤ digit && digit ≤ '9'

def parseOctet (octet : List Char) : Option Nat :=
  if isDecimal octet && octet.length ≤ 3 && (octet == ['0'] || octet.head? != some '0') &&
      decimal octet ≤ 255 then
    some (decimal octet)
  else
    none

def ipv4Value (text : List Char) : Option Nat :=
  match text.splitOn '.' with
  | [first, second, third, fourth] => do
      let a ← parseOctet first
      let b ← parseOctet second
      let c ← parseOctet third
      let d ← parseOctet fourth
      pure (((a * 256 + b) * 256 + c) * 256 + d)
  | _ => none

/-- `IPv4Address(text)`; `none` is `AddressValueError`. -/
def ipv4Address (text : String) : Option Nat :=
  if text.toList.contains '/' then none else ipv4Value text.toList

/-- The prefix length of a contiguous mask. -/
def maskPrefix (mask : Nat) : Option Nat :=
  (List.range 33).find? fun length => mask == (2 ^ length - 1) * 2 ^ (32 - length)

/-- A prefix length in digits, or a netmask or hostmask in dotted form. -/
def parseNetmask (text : List Char) : Option Nat :=
  if isDecimal text && decimal text ≤ 32 then
    some (decimal text)
  else do
    let mask ← ipv4Value text
    maskPrefix mask <|> maskPrefix (2 ^ 32 - 1 - mask)

structure Ipv4Network where
  address : Nat
  prefixLength : Nat
  deriving DecidableEq, Repr

/-- `IPv4Network(text, strict=False)`; `none` is a `ValueError`. -/
def ipv4Network (text : String) : Option Ipv4Network :=
  match text.toList.splitOn '/' with
  | [address] => (ipv4Value address).map fun value => ⟨value, 32⟩
  | [address, mask] => do
      let value ← ipv4Value address
      let length ← parseNetmask mask
      pure ⟨value, length⟩
  | _ => none

def Ipv4Network.contains (network : Ipv4Network) (address : Nat) : Bool :=
  address / 2 ^ (32 - network.prefixLength) == network.address / 2 ^ (32 - network.prefixLength)

example : (ipv4Network "192.168.40.0/24").map (·.contains 3232245780) = some true := by decide

/-! A supply of distinct uuids for concrete runs. -/

def uuidSupply (letter : Char) (position : Nat) : String :=
  String.ofList (List.replicate (position + 1) letter)

theorem uuidSupply_head (letter : Char) (position : Nat) :
    (uuidSupply letter position).toList.head? = some letter := by
  simp [uuidSupply, List.replicate_succ]

theorem uuidSupply_injective (letter : Char) : Function.Injective (uuidSupply letter) := by
  intro first second same
  have sameLength := congrArg (fun uuid => uuid.toList.length) same
  simpa [uuidSupply] using sameLength

end CamAdmiral
