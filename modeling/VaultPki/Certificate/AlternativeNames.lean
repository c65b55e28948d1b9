import VaultPki.Record.Layout
import VaultPki.Text.Commas

/-!
# Alternative names

The names of a certificate beside its common name. Names of the three common sorts are sent as one
text with commas, other names as a list. Certificates are asked for in PEM and keys in PKCS #8.
-/

namespace VaultPki

open Record

def certificateFormat : String := "pem"

def keyFormat : String := "pkcs8"

/-- The alternative names of a certificate: names of hosts and mail addresses, addresses of hosts,
identifiers of resources, and names of other sorts. -/
structure AlternativeNames where
  names : Option (List String) := none
  addresses : Option (List String) := none
  uris : Option (List String) := none
  others : Option (List String) := none
  excludeCommonName : Option Bool := none
  deriving DecidableEq

namespace AlternativeNames

structure Wire where
  names : Option String
  addresses : Option String
  uris : Option String
  others : Option (List String)
  excludeCommonName : Option Bool
  deriving DecidableEq

namespace Wire

def fields : List Field := [
  .optional "alt_names" .text,
  .optional "ip_sans" .text,
  .optional "uri_sans" .text,
  .optional "other_sans" (.list .text),
  .optional "exclude_cn_from_sans" .flag]

def row (w : Wire) : Row fields :=
  (w.names, w.addresses, w.uris, w.others, w.excludeCommonName, ())

def ofRow : Row fields → Wire :=
  fun (names, addresses, uris, others, excludeCommonName, ()) =>
    ⟨names, addresses, uris, others, excludeCommonName⟩

def layout : Layout Wire :=
  .plain fields row ofRow (fun _ => rfl) (fun _ => rfl)

end Wire

def wire (n : AlternativeNames) : Wire where
  names := n.names.map Text.Commas.join
  addresses := n.addresses.map Text.Commas.join
  uris := n.uris.map Text.Commas.join
  others := n.others
  excludeCommonName := n.excludeCommonName

end AlternativeNames

end VaultPki
