import TlsIdentity.Address.IPv6
import TlsIdentity.HostName
import TlsIdentity.Text.Quoted

/-!
# Names of peers

A connection is made to a peer by a DNS name, which keeps the spelling it was given in, or by an IP
address. `hostText` is the text under which host sets know the peer.
-/

namespace TlsIdentity

/-- How a client names the server it connects to. -/
inductive PeerName where
  /-- A DNS name, as given. -/
  | dns (name : String)
  | ipv4 (address : IPv4)
  | ipv6 (address : IPv6)
  deriving DecidableEq

namespace PeerName

/-! ## DNS names -/

/-- Whether a label of a DNS name may hold this character. -/
def isLabelChar (c : Char) : Bool :=
  c.isAlphanum || c = '_' || c = '-'

/-- Whether a label may stand in a DNS name: one to 63 characters, no hyphen at either end. -/
def isDnsLabel (label : List Char) : Bool :=
  label ≠ [] && label.length ≤ 63 && label.all isLabelChar
    && label.head? ≠ some '-' && label.getLast? ≠ some '-'

/-- Whether a text is a DNS name: at most 253 characters, and labels of which the last is not a number.
    One trailing dot is allowed. -/
def isDnsName (text : String) : Bool :=
  let labels := (HostName.dropFinalDot text.toList).splitOn '.'
  text.toList.length ≤ 253 && labels.all isDnsLabel
    && labels.getLast?.any fun label => !label.all Char.isDigit

/-! ## Reading and writing -/

/-- The peer that a text names. -/
def ofText? (text : String) : Option PeerName :=
  if isDnsName text then some (.dns text)
  else ((IPv4.ofChars? text.toList).map .ipv4) <|> ((IPv6.ofChars? text.toList).map .ipv6)

/-- The name as text: a DNS name as given, an address in its canonical form. -/
def toText : PeerName → String
  | .dns name => name
  | .ipv4 address => address.toText
  | .ipv6 address => address.toText

/-- The text under which host sets know the peer: a DNS name in canonical form, an address in its own. -/
def hostText : PeerName → String
  | .dns name => HostName.canonical name
  | .ipv4 address => address.toText
  | .ipv6 address => address.toText

/-- The name that a client tells the server it wants to reach; an address is not told. -/
def indicated? : PeerName → Option String
  | .dns name => some (HostName.canonical name)
  | .ipv4 _ => none
  | .ipv6 _ => none

/-! ## Description -/

/-- The octets of an address in decimal, as messages show them. -/
def octetsText (octets : List UInt8) : String :=
  "[" ++ ", ".intercalate (octets.map fun octet => toString octet.toNat) ++ "]"

/-- The name as messages show it, with its kind. -/
def describe : PeerName → String
  | .dns name => "DnsName(" ++ Text.quoted name ++ ")"
  | .ipv4 address => "IpAddress(V4(Ipv4Addr(" ++ octetsText address.octets ++ ")))"
  | .ipv6 address => "IpAddress(V6(Ipv6Addr(" ++ octetsText address.octets ++ ")))"

end PeerName

end TlsIdentity
