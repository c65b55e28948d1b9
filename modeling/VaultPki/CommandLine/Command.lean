import VaultPki.CommandLine.Switch
import VaultPki.Record.Codec
import VaultPki.Text.Ascii

/-!
# Commands

The commands of the tool with the switches and words that each takes. A command with its own words
sorted is turned into a value.
-/

namespace VaultPki

/-- How an issued certificate is printed. -/
inductive OutputFormat where
  | text
  | json
  deriving DecidableEq, Repr

/-- What the tool is asked to do. -/
inductive Command where
  | ca
  | caChain
  | crl
  | rotateCrl
  | certs
  | cert (serial : String)
  | issue (role : String) (commonName : Option String) (names addresses uris : List String)
      (ttl : Option String) (format : OutputFormat)
  | revoke (serial : String)
  | roles
  | role (name : String)
  | writeRole (name : String) (domains : List String) (subdomains : Bool)
      (ttl maxTtl keyType : Option String) (keyBits : Option UInt32)
  | deleteRole (name : String)
  | generateRoot (commonName : String) (organization country : List String)
      (ttl keyType : Option String) (keyBits : Option UInt32) (maxPathLength : Option Int32)
      (exported : Bool)
  | deleteRoot (confirmed : Bool)
  | tidy (store revoked : Bool) (safetyBuffer : Option String)
  | enable (description : String) (defaultTtl maxTtl : Option String)
  | disable (confirmed : Bool)
  | status
  deriving DecidableEq

namespace CommandLine

def anyValue (_ : String) : Bool := true

def bare (name : String) : Switch :=
  ⟨name, none, .bare⟩

def one (name : String) : Switch :=
  ⟨name, none, .one anyValue⟩

def many (name : String) : Switch :=
  ⟨name, none, .many⟩

def number? (s : String) : Option Int :=
  Text.Ascii.signedDecimal? s.toList

def bits? (s : String) : Option UInt32 :=
  (number? s).bind Record.Codec.narrowUInt32

def length? (s : String) : Option Int32 :=
  (number? s).bind Record.Codec.narrowInt32

def format? (s : String) : Option OutputFormat :=
  if s == "text" then some .text else if s == "json" then some .json else none

def keyBits : Switch :=
  ⟨"key-bits", none, .one fun s => (bits? s).isSome⟩

/-- The words and switches that a command takes, and the command that they make. -/
structure Form where
  name : String
  room : Nat
  switches : List Switch
  command? : Found → Option Command

def plain (name : String) (c : Command) : Form :=
  ⟨name, 0, [], fun _ => some c⟩

def worded (name : String) (switches : List Switch) (f : String → Found → Command) : Form :=
  ⟨name, 1, switches, fun found => found.words.head?.map fun w => f w found⟩

def forms : List Form := [
  plain "ca" .ca,
  plain "ca-chain" .caChain,
  plain "crl" .crl,
  plain "rotate-crl" .rotateCrl,
  plain "certs" .certs,
  worded "cert" [] fun w _ => .cert w,
  worded "issue"
    [one "common-name", many "alt-name", many "ip-san", many "uri-san", one "ttl",
      ⟨"format", none, .one fun s => (format? s).isSome⟩]
    fun w f =>
      .issue w (f.value? "common-name") (f.values "alt-name") (f.values "ip-san")
        (f.values "uri-san") (f.value? "ttl") (((f.value? "format").bind format?).getD .text),
  worded "revoke" [] fun w _ => .revoke w,
  plain "roles" .roles,
  worded "role" [] fun w _ => .role w,
  worded "write-role"
    [many "allowed-domain", bare "allow-subdomains", one "ttl", one "max-ttl", one "key-type",
      keyBits]
    fun w f =>
      .writeRole w (f.values "allowed-domain") (f.has "allow-subdomains") (f.value? "ttl")
        (f.value? "max-ttl") (f.value? "key-type") ((f.value? "key-bits").bind bits?),
  worded "delete-role" [] fun w _ => .deleteRole w,
  ⟨"generate-root", 0,
    [one "common-name", many "organization", many "country", one "ttl", one "key-type", keyBits,
      ⟨"max-path-length", none, .one fun s => (length? s).isSome⟩, bare "export"],
    fun f => (f.value? "common-name").map fun name =>
      .generateRoot name (f.values "organization") (f.values "country") (f.value? "ttl")
        (f.value? "key-type") ((f.value? "key-bits").bind bits?)
        ((f.value? "max-path-length").bind length?) (f.has "export")⟩,
  ⟨"delete-root", 0, [bare "yes"], fun f => some (.deleteRoot (f.has "yes"))⟩,
  ⟨"tidy", 0, [bare "cert-store", bare "revoked", one "safety-buffer"],
    fun f => some (.tidy (f.has "cert-store") (f.has "revoked") (f.value? "safety-buffer"))⟩,
  ⟨"enable", 0, [one "description", one "default-lease-ttl", one "max-lease-ttl"],
    fun f => some (.enable ((f.value? "description").getD "") (f.value? "default-lease-ttl")
      (f.value? "max-lease-ttl"))⟩,
  ⟨"disable", 0, [bare "yes"], fun f => some (.disable (f.has "yes"))⟩,
  plain "status" .status]

end CommandLine

end VaultPki
