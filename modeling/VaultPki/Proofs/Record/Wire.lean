import VaultPki.Proofs.Record.Faithful
import VaultPki.WireRecord

/-!
# Every record survives being written and read

The fields of each record are faithful and have different names, also where a body spreads the
fields of a subject and of alternative names among its own. An envelope and a request to mount an
engine hold another record in one of their fields, whose codec is faithful in turn.
-/

namespace VaultPki

open Record
open Json (Document)
open Text.Utf8 (encode)

theorem Envelope.layout_isFaithful {α : Type} {c : Codec α} {depth : Nat}
    (hc : c.IsSolid (depth + 1)) : (layout c).IsFaithful (depth + 1) where
  field_isFaithful := by simp [layout, Layout.plain, fields, hc]
  nodup_names := by
    show ["data", "warnings", "errors"].Nodup
    decide

theorem LeaseOptions.layout_isFaithful : layout.IsFaithful 0 where
  field_isFaithful := by simp [layout, Layout.plain]
  nodup_names := by decide

theorem Enabling.layout_isFaithful : layout.IsFaithful 1 where
  field_isFaithful := by
    simp [layout, Layout.plain, LeaseOptions.layout_isFaithful.codec_isSolid]
  nodup_names := by decide

theorem AnswerRecord.layout_isFaithful (k : AnswerRecord) : k.layout.IsFaithful 1 where
  field_isFaithful := by
    cases k with
    | storedCertificate => simp [layout, StoredCertificate.layout, Layout.plain]
    | listing => simp [layout, Listing.layout, Layout.plain]
    | issuance => simp [layout, Issuance.Data.layout, Layout.plain]
    | signing => simp [layout, Signing.Data.layout, Layout.plain]
    | revocation => simp [layout, Revocation.Data.layout, Layout.plain]
    | publishedUrls => simp [layout, PublishedUrls.layout, Layout.plain]
    | revocationListSettings => simp [layout, RevocationListSettings.layout, Layout.plain]
    | rotation => simp [layout, Rotation.layout, Layout.plain]
    | storedRole => simp [layout, StoredRole.layout, StoredRole.fields, Layout.plain]
    | root => simp [layout, RootGeneration.Data.layout, Layout.plain]
    | request => simp [layout, RequestGeneration.Data.layout, Layout.plain]
  nodup_names := by cases k <;> decide

theorem AnswerRecord.envelope_isFaithful (k : AnswerRecord) : k.envelope.IsFaithful 2 :=
  Envelope.layout_isFaithful k.layout_isFaithful.codec_isSolid

namespace WireRecord

theorem nodup_names_layout (k : WireRecord) : k.layout.names.Nodup := by
  cases k with
  | answer k => exact k.layout_isFaithful.nodup_names
  | envelope k => exact k.envelope_isFaithful.nodup_names
  | _ => decide

theorem field_isFaithful (k : WireRecord) :
    ∀ f ∈ k.layout.own ++ k.layout.spread, f.IsFaithful 2 := by
  cases k with
  | answer k => exact (k.layout_isFaithful.mono (Nat.le_succ 1)).field_isFaithful
  | envelope k => exact k.envelope_isFaithful.field_isFaithful
  | leases => exact (LeaseOptions.layout_isFaithful.mono (Nat.zero_le 2)).field_isFaithful
  | enabling => exact (Enabling.layout_isFaithful.mono (Nat.le_succ 1)).field_isFaithful
  | alternativeNames =>
    simp [layout, AlternativeNames.Wire.layout, AlternativeNames.Wire.fields, Layout.plain]
  | subject => simp [layout, Subject.layout, Subject.fields, Layout.plain]
  | issuanceBody => simp [layout, Issuance.Body.layout, AlternativeNames.Wire.fields]
  | signingBody => simp [layout, Signing.Body.layout, AlternativeNames.Wire.fields]
  | revocationBody => simp [layout, Revocation.Body.layout, Layout.plain]
  | authorityBundle => simp [layout, AuthorityBundle.layout, Layout.plain]
  | tidying => simp [layout, TidyOptions.layout, Layout.plain]
  | rootBody =>
    simp [layout, RootGeneration.Body.layout, Subject.fields, AlternativeNames.Wire.fields]
  | requestBody =>
    simp [layout, RequestGeneration.Body.layout, Subject.fields, AlternativeNames.Wire.fields]
  | intermediateBody =>
    simp [layout, IntermediateSigning.Body.layout, Subject.fields, AlternativeNames.Wire.fields]
  | signedIntermediate => simp [layout, SignedIntermediate.layout, Layout.plain]

theorem layout_isFaithful (k : WireRecord) : k.layout.IsFaithful 2 where
  field_isFaithful := k.field_isFaithful
  nodup_names := k.nodup_names_layout

/-- Every value of every record is written as an object whose members have different names and
is read back from it, from the document as well as from the bytes. No member is `null` whose name is
that of a field with values that are left out. Three levels are enough: an envelope, the record in
it, and the lists of that. -/
theorem write_round_trip (k : WireRecord) (v : k.Value) :
    ∃ ms, k.layout.write v = .object ms ∧
      (ms.map Prod.fst).Nodup ∧
      (∀ f ∈ k.layout.own ++ k.layout.spread, (∃ v', f.omits v' = true) →
        (f.name, Json.null) ∉ ms) ∧
      (∀ levels, k.layout.read (levels + 3) (.ofJson (.object ms)) = .ok v) ∧
      k.layout.decode (encode (Json.object ms).compact) = .ok v := by
  have hlayout := k.layout_isFaithful
  refine ⟨k.layout.members v, rfl, hlayout.nodup_members v, ?_, fun levels => ?_, ?_⟩
  · rintro f hf ⟨v', hv'⟩
    exact hlayout.null_not_mem_members hf hv' v
  · exact hlayout.codec_isSolid.read_write (levels + 3) (Nat.le_add_left 3 levels) v
  · exact hlayout.codec_isSolid.decode_write (by decide) v

end WireRecord

end VaultPki
