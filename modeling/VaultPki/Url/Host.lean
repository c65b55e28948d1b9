import VaultPki.Text.Quoted
import VaultPki.Url.DomainName
import VaultPki.Url.Ipv6

/-!
# Hosts

The host of an address is a name or an address of numbers. In the special schemes names are domain
names; in others a name is any text without the characters that end a host.
-/

namespace VaultPki.Url

inductive Problem where
  | missingScheme
  | emptyHost
  | invalidDomainName
  | invalidHostCharacter
  | invalidIpv4
  | invalidIpv6
  | invalidPort
  deriving DecidableEq, Repr

def Problem.message : Problem → String
  | .missingScheme => "relative URL without a base"
  | .emptyHost => "empty host"
  | .invalidDomainName => "invalid international domain name"
  | .invalidHostCharacter => "invalid domain character"
  | .invalidIpv4 => "invalid IPv4 address"
  | .invalidIpv6 => "invalid IPv6 address"
  | .invalidPort => "invalid port number"

inductive Host where
  | domain (name : String)
  | ipv4 (address : UInt32)
  | ipv6 (pieces : List Nat)
  deriving DecidableEq

namespace Host

/-- Characters that cannot stand in the name of a host. -/
def isForbidden (c : Char) : Bool :=
  c.toNat == 0 || c == '\t' || c == '\n' || c == '\r' || c == ' ' || c == '#' || c == '/' ||
    c == ':' || c == '<' || c == '>' || c == '?' || c == '@' || c == '[' || c == '\\' ||
    c == ']' || c == '^' || c == '|'

def ofBracketed (inner : List Char) : Except Problem Host :=
  if inner.getLast? == some ']' then
    match Ipv6.ofText? inner.dropLast with
    | some pieces => .ok (.ipv6 pieces)
    | none => .error .invalidIpv6
  else .error .invalidIpv6

/-- The host that a text stands for in a special scheme. -/
def ofDomain (text : List Char) : Except Problem Host :=
  match DomainName.ofText? text with
  | none => .error .invalidDomainName
  | some name =>
    if name.isEmpty then .error .emptyHost
    else if Ipv4.endsInNumber name then
      match Ipv4.ofText? name with
      | some address => .ok (.ipv4 address)
      | none => .error .invalidIpv4
    else .ok (.domain (String.ofList name))

/-- The host that a text stands for in other schemes. -/
def ofName (text : List Char) : Except Problem Host :=
  if text.any isForbidden then .error .invalidHostCharacter
  else .ok (.domain (String.ofList (Percent.encode Percent.isControl text)))

def ofText (special : Bool) (text : List Char) : Except Problem Host :=
  match text with
  | '[' :: inner => ofBracketed inner
  | _ => if special then ofDomain text else ofName text

def toText : Host → String
  | .domain name => name
  | .ipv4 address => Ipv4.toText address
  | .ipv6 pieces => "[" ++ Ipv6.toText pieces ++ "]"

def shown : Host → String
  | .domain name => "Domain(" ++ Text.quoted name ++ ")"
  | .ipv4 address => "Ipv4(" ++ Ipv4.toText address ++ ")"
  | .ipv6 pieces => "Ipv6(" ++ Ipv6.mappedText pieces ++ ")"

end Host

end VaultPki.Url
