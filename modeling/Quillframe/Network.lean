import Quillframe.Error

/-!
# Addresses

The addresses of the standard library, the networks they belong to and how they are read.
-/
namespace Quillframe

structure Ipv4Addr where
  bits : BitVec 32
  deriving DecidableEq, Repr

structure Ipv6Addr where
  bits : BitVec 128
  deriving DecidableEq, Repr

inductive IpAddr where
  | v4 (ip : Ipv4Addr)
  | v6 (ip : Ipv6Addr)
  deriving DecidableEq, Repr

/-- `Ipv4Addr::new`. -/
def Ipv4Addr.new (a b c d : ℕ) : Ipv4Addr :=
  ⟨BitVec.ofNat 32 (((a * 256 + b) * 256 + c) * 256 + d)⟩

/-- The groups of 16 bits, the first one first. -/
def Ipv6Addr.ofSegments (segments : List ℕ) : Ipv6Addr :=
  ⟨BitVec.ofNat 128 (segments.foldl (fun value segment => value * 65536 + segment) 0)⟩

/-- `ip.octets()[index]`. -/
def Ipv4Addr.octet (ip : Ipv4Addr) (index : ℕ) : ℕ := ip.bits.toNat / 256 ^ (3 - index) % 256

def Ipv6Addr.octet (ip : Ipv6Addr) (index : ℕ) : ℕ := ip.bits.toNat / 256 ^ (15 - index) % 256

/-! ## Networks -/

namespace Ipv4Addr

def isLoopback (ip : Ipv4Addr) : Bool := ip.octet 0 = 127

def isPrivate (ip : Ipv4Addr) : Bool :=
  ip.octet 0 = 10 || (ip.octet 0 = 172 && 16 ≤ ip.octet 1 && ip.octet 1 ≤ 31) ||
    (ip.octet 0 = 192 && ip.octet 1 = 168)

def isLinkLocal (ip : Ipv4Addr) : Bool := ip.octet 0 = 169 && ip.octet 1 = 254

def isMulticast (ip : Ipv4Addr) : Bool := 224 ≤ ip.octet 0 && ip.octet 0 ≤ 239

def isUnspecified (ip : Ipv4Addr) : Bool := ip.bits = 0

/-- `Ipv4Addr::BROADCAST`. -/
def broadcast : Ipv4Addr := Ipv4Addr.new 255 255 255 255

end Ipv4Addr

namespace Ipv6Addr

def isLoopback (ip : Ipv6Addr) : Bool := ip.bits = 1

def isUnspecified (ip : Ipv6Addr) : Bool := ip.bits = 0

def isMulticast (ip : Ipv6Addr) : Bool := ip.octet 0 = 255

/-- The upper 96 bits are those of `::ffff:0:0`. -/
def mapped (ip : Ipv6Addr) : Option Ipv4Addr :=
  if ip.bits.toNat / 2 ^ 32 = 65535 then some ⟨ip.bits.setWidth 32⟩ else none

/-- The upper 96 bits are zero. -/
def compatible (ip : Ipv6Addr) : Option Ipv4Addr :=
  if ip.bits.toNat / 2 ^ 32 = 0 then some ⟨ip.bits.setWidth 32⟩ else none

end Ipv6Addr

def IpAddr.isLoopback : IpAddr → Bool
  | .v4 ip => ip.isLoopback
  | .v6 ip => ip.isLoopback

/-! ## Reading -/

/-- A parser takes characters from the front of a text, or nothing. -/
abbrev AddrParser (α : Type) := List Char → Option (α × List Char)

def digitValue (radix : ℕ) (c : Char) : Option ℕ :=
  let value := if c.isDigit then some (c.toNat - '0'.toNat)
    else if 'a' ≤ c ∧ c ≤ 'f' then some (c.toNat - 'a'.toNat + 10)
    else if 'A' ≤ c ∧ c ≤ 'F' then some (c.toNat - 'A'.toNat + 10) else none
  value.filter (· < radix)

/-- The digits at the front and their value. -/
def readDigits (radix : ℕ) : List Char → ℕ → ℕ → ℕ × ℕ × List Char
  | [], value, count => (value, count, [])
  | c :: rest, value, count =>
    match digitValue radix c with
    | some digit => readDigits radix rest (value * radix + digit) (count + 1)
    | none => (value, count, c :: rest)

/-- `read_number`, for numbers up to `bound`. -/
def readNumber (radix maxDigits bound : ℕ) (allowZeroPrefix : Bool) : AddrParser ℕ := fun input =>
  let (value, count, rest) := readDigits radix input 0 0
  if count = 0 ∨ maxDigits < count ∨ bound < value ∨
      (¬ allowZeroPrefix ∧ input.head? = some '0' ∧ 1 < count) then none
  else some (value, rest)

/-- `read_separator`: nothing comes before the first item. -/
def readSeparator {α : Type} (separator : Char) (index : ℕ) (parser : AddrParser α) :
    AddrParser α := fun input =>
  if index = 0 then parser input
  else match input with
    | c :: rest => if c = separator then parser rest else none
    | [] => none

def readIpv4Addr : AddrParser Ipv4Addr := fun input => do
  let (a, input) ← readSeparator '.' 0 (readNumber 10 3 255 false) input
  let (b, input) ← readSeparator '.' 1 (readNumber 10 3 255 false) input
  let (c, input) ← readSeparator '.' 2 (readNumber 10 3 255 false) input
  let (d, input) ← readSeparator '.' 3 (readNumber 10 3 255 false) input
  return (Ipv4Addr.new a b c d, input)

/-- `read_groups`: at most `left` groups, and whether the last two were an IPv4 address. -/
def readGroups : ℕ → ℕ → List ℕ → List Char → List ℕ × Bool × List Char
  | 0, _, groups, input => (groups, false, input)
  | left + 1, index, groups, input =>
    -- an embedded address needs two groups
    match (if left = 0 then none else readSeparator ':' index readIpv4Addr input) with
    | some (ip, rest) =>
      (groups ++ [ip.octet 0 * 256 + ip.octet 1, ip.octet 2 * 256 + ip.octet 3], true, rest)
    | none =>
      match readSeparator ':' index (readNumber 16 4 65535 true) input with
      | some (group, rest) => readGroups left (index + 1) (groups ++ [group]) rest
      | none => (groups, false, input)

def readIpv6Addr : AddrParser Ipv6Addr := fun input =>
  let (head, headIpv4, rest) := readGroups 8 0 [] input
  if head.length = 8 then some (Ipv6Addr.ofSegments head, rest)
  else if headIpv4 then none
  else match rest with
    | ':' :: ':' :: rest =>
      let (tail, _, rest) := readGroups (7 - head.length) 0 [] rest
      let zeros := List.replicate (8 - head.length - tail.length) 0
      some (Ipv6Addr.ofSegments (head ++ zeros ++ tail), rest)
    | _ => none

/-- `value.parse::<IpAddr>()`: the whole text is one address. -/
def parseIpAddr (value : String) : Option IpAddr :=
  let address := match readIpv4Addr value.toList with
    | some (ip, rest) => some (IpAddr.v4 ip, rest)
    | none => (readIpv6Addr value.toList).map fun (ip, rest) => (IpAddr.v6 ip, rest)
  (address.filter fun (_, rest) => rest = []).map Prod.fst

example : parseIpAddr "127.0.0.1" = some (.v4 (Ipv4Addr.new 127 0 0 1)) ∧
    parseIpAddr "127.0.0.01" = none ∧
    parseIpAddr "::ffff:10.0.0.1" = some (.v6 ⟨0xffff0a000001⟩) ∧
    parseIpAddr "[::1]" = none := by decide +kernel

end Quillframe
