import VaultPki.Record.Layout

/-!
# Subjects of authorities

The distinguished name of an authority beside its common name. Every part that may have several
values is a list, in the model and on the wire.
-/

namespace VaultPki

open Record

/-- The distinguished name of an authority. -/
structure Subject where
  organization : Option (List String) := none
  unit : Option (List String) := none
  street : Option (List String) := none
  postalCode : Option (List String) := none
  locality : Option (List String) := none
  province : Option (List String) := none
  country : Option (List String) := none
  serial : Option String := none
  deriving DecidableEq

namespace Subject

def fields : List Field := [
  .optional "organization" (.list .text),
  .optional "ou" (.list .text),
  .optional "street_address" (.list .text),
  .optional "postal_code" (.list .text),
  .optional "locality" (.list .text),
  .optional "province" (.list .text),
  .optional "country" (.list .text),
  .optional "serial_number" .text]

def row (s : Subject) : Row fields :=
  (s.organization, s.unit, s.street, s.postalCode, s.locality, s.province, s.country, s.serial, ())

def ofRow : Row fields → Subject :=
  fun (organization, unit, street, postalCode, locality, province, country, serial, ()) =>
    ⟨organization, unit, street, postalCode, locality, province, country, serial⟩

def layout : Layout Subject :=
  .plain fields row ofRow (fun _ => rfl) (fun _ => rfl)

end Subject

end VaultPki
