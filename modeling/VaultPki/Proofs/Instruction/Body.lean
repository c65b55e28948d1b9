import VaultPki.Engine.Call
import VaultPki.Proofs.Record.Entries
import VaultPki.Proofs.Record.Wire

/-!
# What is sent of options

The calls with options send them in a body. Every option has a member of its own, or none if it is
absent. Alternative names have the same members wherever they are sent.
-/

namespace VaultPki

open Record

/-- The calls that send options: a certificate for a role, an authority or a request for one, and
what is written about a role, the mount or the engine there. -/
inductive Instruction where
  | issue (role : String)
  | sign (role : String)
  | generateRoot
  | generateRequest
  | signIntermediate
  | writeRole (name : String)
  | writeUrls
  | writeRevocationListSettings
  | tidy
  | enable

namespace Instruction

/-- What is told besides the name of a role; with it the request that is signed, or a
description. -/
def Options : Instruction → Type
  | issue _ => LeafOptions
  | sign _ => String × LeafOptions
  | generateRoot => RootOptions
  | generateRequest => RequestOptions
  | signIntermediate => String × IntermediateOptions
  | writeRole _ => Role
  | writeUrls => PublishedUrls
  | writeRevocationListSettings => RevocationListSettings
  | tidy => TidyOptions
  | enable => String × LeaseOptions

def call : (k : Instruction) → k.Options → Call
  | issue role, o => .issue role o
  | sign role, (request, o) => .sign role request o
  | generateRoot, o => .generateRoot o
  | generateRequest, o => .generateRequest o
  | signIntermediate, (request, o) => .signIntermediate request o
  | writeRole name, role => .writeRole name role
  | writeUrls, urls => .writeUrls urls
  | writeRevocationListSettings, settings => .writeRevocationListSettings settings
  | tidy, o => .tidy o
  | enable, (description, leases) => .enable description leases

end Instruction

/-! ## What is sent -/

/-- The texts that names are sent as. -/
def AlternativeNames.entries (n : AlternativeNames) : List (String × Option Json) := [
  ("alt_names", n.names.map fun ss => .text (Text.Commas.join ss)),
  ("ip_sans", n.addresses.map fun ss => .text (Text.Commas.join ss)),
  ("uri_sans", n.uris.map fun ss => .text (Text.Commas.join ss)),
  ("other_sans", n.others.map Json.texts),
  ("exclude_cn_from_sans", n.excludeCommonName.map .bool)]

/-- The names of those members. -/
def AlternativeNames.isMember (name : String) : Bool :=
  ["alt_names", "ip_sans", "uri_sans", "other_sans", "exclude_cn_from_sans"].contains name

def Subject.entries (s : Subject) : List (String × Option Json) := [
  ("organization", s.organization.map Json.texts),
  ("ou", s.unit.map Json.texts),
  ("street_address", s.street.map Json.texts),
  ("postal_code", s.postalCode.map Json.texts),
  ("locality", s.locality.map Json.texts),
  ("province", s.province.map Json.texts),
  ("country", s.country.map Json.texts),
  ("serial_number", s.serial.map .text)]

def Role.entries (r : Role) : List (String × Option Json) := [
  ("ttl", r.ttl.map .text),
  ("max_ttl", r.maxTtl.map .text),
  ("allow_localhost", r.allowLocalhost.map .bool),
  ("allowed_domains", r.allowedDomains.map Json.texts),
  ("allowed_domains_template", r.allowedDomainsTemplate.map .bool),
  ("allow_bare_domains", r.allowBareDomains.map .bool),
  ("allow_subdomains", r.allowSubdomains.map .bool),
  ("allow_glob_domains", r.allowGlobDomains.map .bool),
  ("allow_any_name", r.allowAnyName.map .bool),
  ("enforce_hostnames", r.enforceHostnames.map .bool),
  ("allow_ip_sans", r.allowAddresses.map .bool),
  ("allowed_uri_sans", r.allowedUris.map Json.texts),
  ("allowed_other_sans", r.allowedOtherNames.map Json.texts),
  ("server_flag", r.serverFlag.map .bool),
  ("client_flag", r.clientFlag.map .bool),
  ("code_signing_flag", r.codeSigningFlag.map .bool),
  ("email_protection_flag", r.emailProtectionFlag.map .bool),
  ("key_type", r.keyType.map fun k => .text k.wire),
  ("key_bits", r.keyBits.map fun n => .integer n.toNat),
  ("key_usage", r.keyUsages.map fun us => Json.texts (Vocabulary.names us)),
  ("ext_key_usage", r.extendedKeyUsages.map fun us => Json.texts (Vocabulary.names us)),
  ("ext_key_usage_oids", r.extendedKeyUsageIds.map Json.texts),
  ("use_csr_common_name", r.useRequestCommonName.map .bool),
  ("use_csr_sans", r.useRequestNames.map .bool),
  ("organization", r.organization.map fun s => Json.texts (Text.Commas.split s)),
  ("ou", r.unit.map fun s => Json.texts (Text.Commas.split s)),
  ("street_address", r.street.map fun s => Json.texts (Text.Commas.split s)),
  ("postal_code", r.postalCode.map fun s => Json.texts (Text.Commas.split s)),
  ("locality", r.locality.map fun s => Json.texts (Text.Commas.split s)),
  ("province", r.province.map fun s => Json.texts (Text.Commas.split s)),
  ("country", r.country.map fun s => Json.texts (Text.Commas.split s)),
  ("allowed_serial_numbers", r.allowedSerials.map Json.texts),
  ("generate_lease", r.generateLease.map .bool),
  ("no_store", r.noStore.map .bool),
  ("require_cn", r.requireCommonName.map .bool),
  ("policy_identifiers", r.policyIdentifiers.map Json.texts),
  ("basic_constraints_valid_for_non_ca", r.leafConstraintsValid.map .bool),
  ("not_before_duration", r.notBefore.map .text)]

@[simp] theorem AlternativeNames.entries_wire (n : AlternativeNames) :
    Row.entries AlternativeNames.Wire.fields n.wire.row = n.entries := by
  simp [Wire.fields, Wire.row, Row.entries, entries, wire, Function.comp_def]

@[simp] theorem Subject.entries_row (s : Subject) :
    Row.entries Subject.fields s.row = s.entries := by
  simp [fields, row, Row.entries, entries]

theorem LeaseOptions.write_eq (o : LeaseOptions) :
    LeaseOptions.layout.codec.write o = .object (present [
      ("default_lease_ttl", o.defaultTtl.map .text), ("max_lease_ttl", o.maxTtl.map .text)]) := by
  show LeaseOptions.layout.write o = _
  rw [Layout.write_eq_present]
  simp [layout, Layout.plain, Layout.entries, Row.entries]

theorem LeaseOptions.codec_isTidy : LeaseOptions.layout.codec.IsTidy :=
  Layout.codec_isTidy layout_isFaithful (by simp [layout, Layout.plain])

namespace Instruction

/-- What is sent under which name: nothing for an absent option. -/
def entries : (k : Instruction) → k.Options → List (String × Option Json)
  | issue _, o => [
      ("common_name", o.commonName.map .text),
      ("ttl", o.ttl.map .text),
      ("format", some (.text "pem")),
      ("private_key_format", some (.text "pkcs8"))] ++
    o.alternativeNames.entries
  | sign _, (request, o) => [
      ("csr", some (.text request)),
      ("common_name", o.commonName.map .text),
      ("ttl", o.ttl.map .text),
      ("format", some (.text "pem"))] ++
    o.alternativeNames.entries
  | generateRoot, o => [
      ("common_name", o.commonName.map .text),
      ("ttl", o.ttl.map .text),
      ("key_type", o.key.keyType.map fun k => .text k.wire),
      ("key_bits", o.key.bits.map fun n => .integer n.toNat),
      ("max_path_length", o.maxPathLength.map fun n => .integer n.toInt),
      ("permitted_dns_domains", o.permittedDomains.map Json.texts),
      ("format", some (.text "pem")),
      ("private_key_format", some (.text "pkcs8"))] ++
    o.subject.entries ++ o.alternativeNames.entries
  | generateRequest, o => [
      ("common_name", o.commonName.map .text),
      ("key_type", o.key.keyType.map fun k => .text k.wire),
      ("key_bits", o.key.bits.map fun n => .integer n.toNat),
      ("format", some (.text "pem")),
      ("private_key_format", some (.text "pkcs8"))] ++
    o.subject.entries ++ o.alternativeNames.entries
  | signIntermediate, (request, o) => [
      ("csr", some (.text request)),
      ("common_name", o.commonName.map .text),
      ("ttl", o.ttl.map .text),
      ("max_path_length", o.maxPathLength.map fun n => .integer n.toInt),
      ("use_csr_values", o.keepRequested.map .bool),
      ("permitted_dns_domains", o.permittedDomains.map Json.texts),
      ("format", some (.text "pem"))] ++
    o.subject.entries ++ o.alternativeNames.entries
  | writeRole _, role => role.entries
  | writeUrls, urls => [
      ("issuing_certificates", urls.issuers.map Json.texts),
      ("crl_distribution_points", urls.revocationLists.map Json.texts),
      ("ocsp_servers", urls.statusServers.map Json.texts)]
  | writeRevocationListSettings, settings => [
      ("expiry", settings.expiry.map .text),
      ("disable", settings.disable.map .bool)]
  | tidy, o => [
      ("tidy_cert_store", o.store.map .bool),
      ("tidy_revoked_certs", o.revoked.map .bool),
      ("safety_buffer", o.safetyBuffer.map .text)]
  | enable, (description, leases) => [
      ("type", some (.text "pki")),
      ("description", some (.text description)),
      ("config", some (.object (present [
        ("default_lease_ttl", leases.defaultTtl.map .text),
        ("max_lease_ttl", leases.maxTtl.map .text)])))]

/-- The record that the body is made of. -/
def record : Instruction → WireRecord
  | issue _ => .issuanceBody
  | sign _ => .signingBody
  | generateRoot => .rootBody
  | generateRequest => .requestBody
  | signIntermediate => .intermediateBody
  | writeRole _ => .answer .storedRole
  | writeUrls => .answer .publishedUrls
  | writeRevocationListSettings => .answer .revocationListSettings
  | tidy => .tidying
  | enable => .enabling

def value : (k : Instruction) → k.Options → k.record.Value
  | issue _, o => Issuance.Body.ofOptions o
  | sign _, (request, o) => Signing.Body.ofOptions request o
  | generateRoot, o => RootGeneration.Body.ofOptions o
  | generateRequest, o => RequestGeneration.Body.ofOptions o
  | signIntermediate, (request, o) => IntermediateSigning.Body.ofOptions request o
  | writeRole _, role => role.stored
  | writeUrls, urls => urls
  | writeRevocationListSettings, settings => settings
  | tidy, o => o
  | enable, (description, leases) => Enabling.ofOptions description leases

theorem operation_call (k : Instruction) (o : k.Options) (mount : String) :
    ((k.call o).operation mount).verb = .write ∧
      ((k.call o).operation mount).body = some (k.record.layout.write (k.value o)) := by
  cases k <;> exact ⟨rfl, rfl⟩

theorem entries_eq (k : Instruction) (o : k.Options) :
    k.record.layout.entries (k.value o) = k.entries o := by
  cases k with
  | issue role =>
    simp [record, value, WireRecord.layout, Issuance.Body.layout, Layout.entries, Row.entries,
      Issuance.Body.ofOptions, entries, certificateFormat, keyFormat]
  | sign role =>
    obtain ⟨request, o⟩ := o
    simp [record, value, WireRecord.layout, Signing.Body.layout, Layout.entries, Row.entries,
      Signing.Body.ofOptions, entries, certificateFormat]
  | generateRoot =>
    simp [record, value, WireRecord.layout, RootGeneration.Body.layout, Layout.entries,
      Row.entries, RootGeneration.Body.ofOptions, entries, certificateFormat, keyFormat,
      Function.comp_def]
  | generateRequest =>
    simp [record, value, WireRecord.layout, RequestGeneration.Body.layout, Layout.entries,
      Row.entries, RequestGeneration.Body.ofOptions, entries, certificateFormat, keyFormat,
      Function.comp_def]
  | signIntermediate =>
    obtain ⟨request, o⟩ := o
    simp [record, value, WireRecord.layout, IntermediateSigning.Body.layout, Layout.entries,
      Row.entries, IntermediateSigning.Body.ofOptions, entries, certificateFormat]
  | writeRole name =>
    simp [record, value, WireRecord.layout, AnswerRecord.layout, StoredRole.layout, StoredRole.row,
      StoredRole.fields, Layout.plain, Layout.entries, Row.entries, Role.stored, entries,
      Role.entries, Function.comp_def]
  | writeUrls =>
    simp [record, value, WireRecord.layout, AnswerRecord.layout, PublishedUrls.layout, Layout.plain,
      Layout.entries, Row.entries, entries]
  | writeRevocationListSettings =>
    simp [record, value, WireRecord.layout, AnswerRecord.layout, RevocationListSettings.layout,
      Layout.plain, Layout.entries, Row.entries, entries]
  | tidy =>
    simp [record, value, WireRecord.layout, TidyOptions.layout, Layout.plain, Layout.entries,
      Row.entries, entries]
  | enable =>
    obtain ⟨description, leases⟩ := o
    simp [record, value, WireRecord.layout, Enabling.layout, Layout.plain, Layout.entries,
      Row.entries, Enabling.ofOptions, engineType, entries, LeaseOptions.write_eq]

theorem record_isTidy (k : Instruction) : k.record.layout.codec.IsTidy := by
  apply Layout.codec_isTidy k.record.layout_isFaithful
  cases k with
  | issue role =>
    simp [record, WireRecord.layout, Issuance.Body.layout, AlternativeNames.Wire.fields]
  | sign role =>
    simp [record, WireRecord.layout, Signing.Body.layout, AlternativeNames.Wire.fields]
  | generateRoot =>
    simp [record, WireRecord.layout, RootGeneration.Body.layout, Subject.fields,
      AlternativeNames.Wire.fields]
  | generateRequest =>
    simp [record, WireRecord.layout, RequestGeneration.Body.layout, Subject.fields,
      AlternativeNames.Wire.fields]
  | signIntermediate =>
    simp [record, WireRecord.layout, IntermediateSigning.Body.layout, Subject.fields,
      AlternativeNames.Wire.fields]
  | writeRole name =>
    simp [record, WireRecord.layout, AnswerRecord.layout, StoredRole.layout, StoredRole.fields,
      Layout.plain]
  | writeUrls =>
    simp [record, WireRecord.layout, AnswerRecord.layout, PublishedUrls.layout, Layout.plain]
  | writeRevocationListSettings =>
    simp [record, WireRecord.layout, AnswerRecord.layout, RevocationListSettings.layout,
      Layout.plain]
  | tidy => simp [record, WireRecord.layout, TidyOptions.layout, Layout.plain]
  | enable =>
    simp [record, WireRecord.layout, Enabling.layout, Layout.plain, LeaseOptions.codec_isTidy]

/-! ## Members -/

/-- The alternative names among options, where there are any. -/
def alternativeNames? : (k : Instruction) → k.Options → Option AlternativeNames
  | issue _, o => some o.alternativeNames
  | sign _, (_, o) => some o.alternativeNames
  | generateRoot, o => some o.alternativeNames
  | generateRequest, o => some o.alternativeNames
  | signIntermediate, (_, o) => some o.alternativeNames
  | _, _ => none

/-- A body that is made of options: its members are those of the options that are there. None is
`null`, no two have one name, an absent option has none, and what is said of alternative names is
the same for all. -/
structure IsBody (k : Instruction) (o : k.Options) (ms : List (String × Json)) : Prop where
  eq_present : ms = present (k.entries o)
  isTidy : (Json.object ms).IsTidy
  lookup_eq : ∀ e ∈ k.entries o, ms.lookup e.1 = e.2
  names_eq : ∀ n, k.alternativeNames? o = some n →
    ms.filter (fun m => AlternativeNames.isMember m.1) = present n.entries

theorem nodup_names_entries (k : Instruction) (o : k.Options) :
    ((k.entries o).map Prod.fst).Nodup := by
  rw [← entries_eq, Layout.map_fst_entries]
  exact k.record.nodup_names_layout

theorem filter_entries {k : Instruction} {o : k.Options} {n : AlternativeNames}
    (h : k.alternativeNames? o = some n) :
    (k.entries o).filter (fun e => AlternativeNames.isMember e.1) = n.entries := by
  cases k with
  | issue _ | sign _ | generateRoot | generateRequest | signIntermediate =>
    cases h
    rfl
  | _ => cases h

theorem exists_isBody (k : Instruction) (o : k.Options) :
    ∃ ms, k.record.layout.write (k.value o) = .object ms ∧ k.IsBody o ms := by
  have hwrite : k.record.layout.write (k.value o) = .object (present (k.entries o)) := by
    rw [Layout.write_eq_present, entries_eq]
  refine ⟨_, hwrite, rfl, ?_, fun e he => ?_, fun n hn => ?_⟩
  · rw [← hwrite]
    exact k.record_isTidy (k.value o)
  · exact lookup_present (k.nodup_names_entries o) he
  · rw [filter_present, filter_entries hn]

end Instruction

end VaultPki
