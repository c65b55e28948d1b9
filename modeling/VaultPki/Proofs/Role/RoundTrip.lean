import VaultPki.Mount.Settings
import VaultPki.Proofs.Name.Vocabulary
import VaultPki.Proofs.Record.Faithful
import VaultPki.Proofs.Text.Commas
import VaultPki.Role.Stored

/-!
# Roles and settings survive being written and read

What is written of a role is stored under 38 names. Reading fills every one of them again, and the
stored form stands for the role it came from: names of key types and usages are recognised, and the
parts of the subject are joined to the texts that were split.
-/

namespace VaultPki

open Record Vocabulary
open Json (Document)
open Text.Utf8 (encode)

theorem StoredRole.layout_isFaithful : layout.IsFaithful 1 where
  field_isFaithful := by simp [layout, Layout.plain, fields]
  nodup_names := by decide

theorem PublishedUrls.layout_isFaithful : layout.IsFaithful 1 where
  field_isFaithful := by simp [layout, Layout.plain]
  nodup_names := by decide

theorem RevocationListSettings.layout_isFaithful : layout.IsFaithful 1 where
  field_isFaithful := by simp [layout, Layout.plain]
  nodup_names := by decide

theorem StoredRole.codec_isFaithful : layout.codec.IsFaithful 2 :=
  layout_isFaithful.codec_isSolid.toIsFaithful

theorem PublishedUrls.codec_isFaithful : layout.codec.IsFaithful 2 :=
  layout_isFaithful.codec_isSolid.toIsFaithful

theorem RevocationListSettings.codec_isFaithful : layout.codec.IsFaithful 2 :=
  layout_isFaithful.codec_isSolid.toIsFaithful

private theorem map_join_map_split (o : Option String) :
    (o.map Text.Commas.split).map Text.Commas.join = o := by
  cases o with
  | none => rfl
  | some s => exact congrArg some (Text.Commas.join_split s)

/-- The stored form of a role stands for that role. -/
theorem StoredRole.toRole_stored (role : Role) : role.stored.toRole = .ok role := by
  have htype : ofOptionalName role.stored.keyType = .ok role.keyType :=
    KeyType.ofOptionalName_map_wire role.keyType
  have husages : ofOptionalNames role.stored.keyUsages = .ok role.keyUsages :=
    ofOptionalNames_map_names KeyUsage.isRecognised role.keyUsages
  have hextended : ofOptionalNames role.stored.extendedKeyUsages = .ok role.extendedKeyUsages :=
    ofOptionalNames_map_names ExtendedKeyUsage.isRecognised role.extendedKeyUsages
  rw [StoredRole.toRole, htype, husages, hextended]
  simp only [Role.stored, map_join_map_split]
  rfl

theorem Role.stored_inj {role role' : Role} : role.stored = role'.stored ↔ role = role' := by
  constructor
  · intro h
    have hrole := StoredRole.toRole_stored role
    rw [h, StoredRole.toRole_stored role'] at hrole
    exact (Except.ok.inj hrole).symm
  · rintro rfl
    rfl

/-- Reading what was written gives back every role, every set of addresses and all settings of the
list of revoked certificates. The bytes are read as well as the document that they stand for, for
which two levels are enough: an object, and the lists in it. -/
theorem read_back (levels : Nat) :
    (∀ role : Role,
      (StoredRole.layout.read (levels + 2)
        (.ofJson (StoredRole.layout.write role.stored))).map StoredRole.toRole = .ok (.ok role) ∧
      (StoredRole.layout.decode
        (encode (StoredRole.layout.write role.stored).compact)).map StoredRole.toRole =
          .ok (.ok role)) ∧
    (∀ urls : PublishedUrls,
      PublishedUrls.layout.read (levels + 2) (.ofJson (PublishedUrls.layout.write urls)) =
        .ok urls ∧
      PublishedUrls.layout.decode (encode (PublishedUrls.layout.write urls).compact) = .ok urls) ∧
    ∀ settings : RevocationListSettings,
      RevocationListSettings.layout.read (levels + 2)
        (.ofJson (RevocationListSettings.layout.write settings)) = .ok settings ∧
      RevocationListSettings.layout.decode
        (encode (RevocationListSettings.layout.write settings).compact) = .ok settings := by
  have hlevels : 2 ≤ levels + 2 := Nat.le_add_left 2 levels
  refine ⟨fun role => ?_, fun urls => ?_, fun settings => ?_⟩
  · have hread : StoredRole.layout.read (levels + 2)
        (.ofJson (StoredRole.layout.write role.stored)) = .ok role.stored :=
      StoredRole.codec_isFaithful.read_write (levels + 2) hlevels role.stored
    have hdecode : StoredRole.layout.decode
        (encode (StoredRole.layout.write role.stored).compact) = .ok role.stored :=
      StoredRole.codec_isFaithful.decode_write (by decide) role.stored
    constructor
    · rw [hread, Except.map, StoredRole.toRole_stored]
    · rw [hdecode, Except.map, StoredRole.toRole_stored]
  · exact ⟨PublishedUrls.codec_isFaithful.read_write (levels + 2) hlevels urls,
      PublishedUrls.codec_isFaithful.decode_write (by decide) urls⟩
  · exact ⟨RevocationListSettings.codec_isFaithful.read_write (levels + 2) hlevels settings,
      RevocationListSettings.codec_isFaithful.decode_write (by decide) settings⟩

end VaultPki
