import VaultPki.Client.Basic
import VaultPki.Proofs.Pem.Bundle

/-!
# Trusting the certificates of bundles

A client that is to believe the certificates of bundles finds those that stand in them, and no
others. It is not made if it finds none in one of them.
-/

namespace VaultPki

namespace Pem

variable {text : List UInt8} {found : List (List UInt8)}

theorem requireCertificates_eq_ok_iff :
    requireCertificates text = .ok found ↔ certificates text = found ∧ found ≠ [] := by
  rw [requireCertificates]
  cases certificates text with
  | nil => simp [eq_comm]
  | cons c cs =>
    rw [Except.ok.injEq, iff_self_and]
    rintro rfl
    exact List.cons_ne_nil c cs

theorem requireCertificates_eq_error_iff {e : Error} :
    requireCertificates text = .error e ↔ certificates text = [] ∧ e = .noCertificates := by
  rw [requireCertificates]
  cases certificates text with
  | nil => simp [eq_comm]
  | cons c cs => simp

theorem certificates_flatMap_textOf {bundles : List (List Block)}
    {found : List (List (List UInt8))}
    (h : List.Forall₂ (fun blocks cs => requireCertificates (textOf blocks) = .ok cs) bundles found)
    (text : List UInt8) :
    certificates (bundles.flatMap textOf ++ text) = found.flatten ++ certificates text := by
  induction h with
  | nil => rfl
  | @cons blocks cs bundles found hcs _ ih =>
    have hblocks : certificatesOf blocks = cs := by
      rw [← certificates_of_isTextOf (.inl rfl), (requireCertificates_eq_ok_iff.1 hcs).1]
    rw [List.flatMap_cons, List.append_assoc, certificates_textOf_append, ih, hblocks,
      List.flatten_cons, List.append_assoc]

theorem exists_certificates_eq_nil_iff {bundles : List (List Block)} {pems : List (List UInt8)}
    (h : List.Forall₂ IsTextOf bundles pems) :
    (∃ pem ∈ pems, certificates pem = []) ↔ ∃ blocks ∈ bundles, certificatesOf blocks = [] := by
  induction h with
  | nil => simp
  | cons hpem _ ih =>
    simp only [List.exists_mem_cons_iff, certificates_of_isTextOf hpem, ih]

end Pem

namespace Client

theorem checkTrust_bundles (pems : List (List UInt8)) :
    checkTrust (.bundles pems) =
      if ∃ pem ∈ pems, Pem.certificates pem = [] then .error .noCertificates else .ok () := by
  induction pems with
  | nil => rfl
  | cons pem pems ih =>
    rw [checkTrust] at ih ⊢
    rw [List.forM_cons, ih]
    cases hpem : Pem.requireCertificates pem with
    | error e =>
      obtain ⟨hnone, rfl⟩ := Pem.requireCertificates_eq_error_iff.1 hpem
      have hmissing : ∃ p ∈ pem :: pems, Pem.certificates p = [] :=
        ⟨pem, List.mem_cons_self, hnone⟩
      exact (if_pos hmissing).symm
    | ok found =>
      have hsome : Pem.certificates pem ≠ [] := by
        obtain ⟨rfl, hne⟩ := Pem.requireCertificates_eq_ok_iff.1 hpem
        exact hne
      simp only [List.exists_mem_cons_iff, hsome, false_or]
      rfl

theorem eq_invalidIdentity_of_checkIdentity {identity : Option Identity} {e : Error}
    (h : checkIdentity identity = .error e) : e = .invalidIdentity := by
  cases identity with
  | none => cases h
  | some i =>
    rw [checkIdentity] at h
    split at h <;> cases h
    rfl

/-- Whom to believe is settled first, so that a missing certificate is complained about whatever the
identity is. -/
theorem ofConfig_eq_noCertificates_iff {c : Config} {pems : List (List UInt8)}
    (h : c.trust = .bundles pems) :
    (ofConfig c).result = .error .noCertificates ↔ ∃ pem ∈ pems, Pem.certificates pem = [] := by
  have htrust := checkTrust_bundles pems
  rw [← h] at htrust
  unfold ofConfig
  split at htrust
  · rename_i hmissing
    rw [htrust]
    exact iff_of_true rfl hmissing
  · rename_i hmissing
    rw [htrust]
    refine iff_of_false (fun herror => ?_) hmissing
    cases hidentity : checkIdentity c.identity with
    | ok _ =>
      rw [hidentity] at herror
      cases herror
    | error e =>
      rw [hidentity, eq_invalidIdentity_of_checkIdentity hidentity] at herror
      have hdetail : Error.invalidIdentity = .noCertificates := Except.error.inj herror
      exact absurd hdetail (by decide)

end Client

open Pem in
/-- The certificates of a bundle are what its certificate blocks stand for, in order, whatever
blocks stand between them; standard Base64 stands for what it was written from, however it is cut
into lines. Where there is none reading fails, and no client is made that is to believe such a
bundle, whatever its identity is. -/
theorem Pem.certificates_of_blocks :
    (∀ text content, (text.filter fun b => !Base64.isBlank b) = Base64.encode content →
      Base64.Denotes text content) ∧
    (∀ blocks text, IsTextOf blocks text →
      (certificatesOf blocks ≠ [] → requireCertificates text = .ok (certificatesOf blocks)) ∧
      (requireCertificates text = .error (.tls "No certificates found in PEM data") ↔
        certificatesOf blocks = [])) ∧
    (∀ bundles found text last,
      List.Forall₂ (fun blocks cs => requireCertificates (textOf blocks) = .ok cs) bundles found →
      requireCertificates text = .ok last →
      requireCertificates (bundles.flatMap textOf ++ text) = .ok (found.flatten ++ last)) ∧
    ∀ (c : Config) bundles pems, c.trust = .bundles pems → List.Forall₂ IsTextOf bundles pems →
      ((Client.ofConfig c).result = .error (.tls "No certificates found in PEM data") ↔
        ∃ blocks ∈ bundles, certificatesOf blocks = []) := by
  refine ⟨fun text content => Base64.denotes_of_filter, fun blocks text htext => ?_,
    fun bundles found text last hbundles htext => ?_, fun c bundles pems htrust hpems => ?_⟩
  · have hcertificates := certificates_of_isTextOf htext
    refine ⟨fun hne => requireCertificates_eq_ok_iff.2 ⟨hcertificates, hne⟩, ?_⟩
    rw [← Error.noCertificates, requireCertificates_eq_error_iff, hcertificates]
    exact and_iff_left rfl
  · obtain ⟨hlast, hne⟩ := requireCertificates_eq_ok_iff.1 htext
    rw [requireCertificates_eq_ok_iff, certificates_flatMap_textOf hbundles, hlast]
    exact ⟨rfl, List.append_ne_nil_of_right_ne_nil _ hne⟩
  · rw [← Error.noCertificates, Client.ofConfig_eq_noCertificates_iff htrust]
    exact exists_certificates_eq_nil_iff hpems

namespace Pem

/-- The lines of a bundle in which a certificate stands behind a line of text, a section that cannot
be read and one with another label. -/
def mixedBlocks : List Block := [
  .text ⟨Text.Utf8.encode "subject=a", .lf, by decide⟩ (by decide),
  .damaged .lf .lf [⟨Text.Utf8.encode "QQ=", .lf, by decide⟩]
    (List.forall_mem_singleton.2 ⟨by decide, by decide⟩)
    (fun content h => by cases Base64.decode?_eq_some_iff.2 h),
  .foreign ⟨Text.Utf8.encode "PUBLIC KEY", by decide⟩ (by decide) .lf .lf
    [⟨Text.Utf8.encode "BAUG", .lf, by decide⟩]
    (List.forall_mem_singleton.2 ⟨by decide, by decide⟩),
  .certificate .crlf .crlf
    [⟨Text.Utf8.encode "AQ", .crlf, by decide⟩, ⟨Text.Utf8.encode "ID", .crlf, by decide⟩]
    [1, 2, 3] (Base64.denotes_of_filter (by decide))]

def plainBlock : Block :=
  .text ⟨Text.Utf8.encode "none", .lf, by decide⟩ (by decide)

/-- A configuration that trusts two bundles, of which one holds no certificate. -/
def halfTrusting : Config :=
  { Config.standard with
    trust := .bundles [textOf mixedBlocks, Text.Utf8.encode "none"]
    identity := some ⟨[], []⟩ }

theorem certificates_of_mixedBlocks :
    requireCertificates (textOf mixedBlocks) = .ok [[1, 2, 3]] ∧
      requireCertificates (textOf mixedBlocks ++ textOf mixedBlocks) = .ok [[1, 2, 3], [1, 2, 3]] ∧
      (Client.ofConfig halfTrusting).result =
        .error (.tls "No certificates found in PEM data") := by
  obtain ⟨-, hblocks, happend, hclient⟩ := certificates_of_blocks
  have hmixed : requireCertificates (textOf mixedBlocks) = .ok [[1, 2, 3]] :=
    (hblocks mixedBlocks _ (.inl rfl)).1 (by decide)
  have hbundles : List.Forall₂ (fun blocks cs => requireCertificates (textOf blocks) = .ok cs)
      [mixedBlocks] [[[1, 2, 3]]] := .cons hmixed .nil
  have hpems : List.Forall₂ IsTextOf [mixedBlocks, [plainBlock]]
      [textOf mixedBlocks, Text.Utf8.encode "none"] :=
    .cons (.inl rfl) (.cons (.inr ⟨.lf, rfl⟩) .nil)
  refine ⟨hmixed, ?_, (hclient halfTrusting _ _ rfl hpems).2 ⟨[plainBlock], by simp, rfl⟩⟩
  have happended := happend _ _ _ _ hbundles hmixed
  rwa [List.flatMap_singleton] at happended

end Pem

end VaultPki
