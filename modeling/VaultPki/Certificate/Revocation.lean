import VaultPki.Calendar.Instant
import VaultPki.Record.Layout

/-!
# Revoking certificates

A certificate is revoked by its serial number, and the answer says when that happened. The list of
revoked certificates can be rebuilt at once.
-/

namespace VaultPki

open Record

namespace Revocation

structure Body where
  serial : String
  deriving DecidableEq

def Body.layout : Layout Body :=
  .plain [.required "serial_number" .text] (fun b => (b.serial, ()))
    (fun (serial, ()) => ⟨serial⟩) (fun _ => rfl) (fun _ => rfl)

structure Data where
  time : Int64
  deriving DecidableEq

def Data.layout : Layout Data :=
  .plain [.required "revocation_time" .int64] (fun d => (d.time, ()))
    (fun (time, ()) => ⟨time⟩) (fun _ => rfl) (fun _ => rfl)

def Data.toInstant (d : Data) : Except Error Instant :=
  Instant.ofSeconds d.time.toInt

end Revocation

/-- The data of an answer to rebuilding the list of revoked certificates. -/
structure Rotation where
  success : Bool
  deriving DecidableEq

def Rotation.layout : Layout Rotation :=
  .plain [.defaulted "success" .flag false] (fun d => (d.success, ()))
    (fun (success, ()) => ⟨success⟩) (fun _ => rfl) (fun _ => rfl)

end VaultPki
