import VaultPki.Record.Layout

/-!
# Installing authorities

Bodies of the two requests that install an authority: a bundle with its key, and a certificate that
was signed elsewhere.
-/

namespace VaultPki

open Record

structure AuthorityBundle where
  pem : String
  deriving DecidableEq

def AuthorityBundle.layout : Layout AuthorityBundle :=
  .plain [.required "pem_bundle" .text] (fun b => (b.pem, ()))
    (fun (pem, ()) => ⟨pem⟩) (fun _ => rfl) (fun _ => rfl)

structure SignedIntermediate where
  certificate : String
  deriving DecidableEq

def SignedIntermediate.layout : Layout SignedIntermediate :=
  .plain [.required "certificate" .text] (fun b => (b.certificate, ()))
    (fun (certificate, ()) => ⟨certificate⟩) (fun _ => rfl) (fun _ => rfl)

end VaultPki
