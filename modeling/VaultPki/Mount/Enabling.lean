import VaultPki.Record.Layout

/-!
# Enabling a mount

The body of the request that mounts an engine: its type, a description, and how long leases last.
-/

namespace VaultPki

open Record

def engineType : String := "pki"

/-- How long leases last unless asked otherwise, and at most. -/
structure LeaseOptions where
  defaultTtl : Option String
  maxTtl : Option String
  deriving DecidableEq

def LeaseOptions.layout : Layout LeaseOptions :=
  .plain [.optional "default_lease_ttl" .text, .optional "max_lease_ttl" .text]
    (fun o => (o.defaultTtl, o.maxTtl, ())) (fun (defaultTtl, maxTtl, ()) => ⟨defaultTtl, maxTtl⟩)
    (fun _ => rfl) (fun _ => rfl)

/-- A request to mount an engine. -/
structure Enabling where
  engine : String
  description : String
  leases : LeaseOptions
  deriving DecidableEq

namespace Enabling

def layout : Layout Enabling :=
  .plain [
      .required "type" .text,
      .required "description" .text,
      .required "config" LeaseOptions.layout.codec]
    (fun e => (e.engine, e.description, e.leases, ()))
    (fun (engine, description, leases, ()) => ⟨engine, description, leases⟩)
    (fun _ => rfl) (fun _ => rfl)

def ofOptions (description : String) (o : LeaseOptions) : Enabling :=
  ⟨engineType, description, o⟩

end Enabling

end VaultPki
