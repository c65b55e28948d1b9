import VaultPki.Record.Layout
import VaultPki.Role.Basic
import VaultPki.Text.Commas

/-!
# Stored roles

A role as the server stores it: names of key types and usages are texts, and the parts of the
subject are lists. Durations may come as numbers of seconds. Writing a role is always possible;
reading one fails at the first name that is unknown.
-/

namespace VaultPki

open Record

structure StoredRole where
  ttl : Option String
  maxTtl : Option String
  allowLocalhost : Option Bool
  allowedDomains : Option (List String)
  allowedDomainsTemplate : Option Bool
  allowBareDomains : Option Bool
  allowSubdomains : Option Bool
  allowGlobDomains : Option Bool
  allowAnyName : Option Bool
  enforceHostnames : Option Bool
  allowAddresses : Option Bool
  allowedUris : Option (List String)
  allowedOtherNames : Option (List String)
  serverFlag : Option Bool
  clientFlag : Option Bool
  codeSigningFlag : Option Bool
  emailProtectionFlag : Option Bool
  keyType : Option String
  keyBits : Option UInt32
  keyUsages : Option (List String)
  extendedKeyUsages : Option (List String)
  extendedKeyUsageIds : Option (List String)
  useRequestCommonName : Option Bool
  useRequestNames : Option Bool
  organization : Option (List String)
  unit : Option (List String)
  street : Option (List String)
  postalCode : Option (List String)
  locality : Option (List String)
  province : Option (List String)
  country : Option (List String)
  allowedSerials : Option (List String)
  generateLease : Option Bool
  noStore : Option Bool
  requireCommonName : Option Bool
  policyIdentifiers : Option (List String)
  leafConstraintsValid : Option Bool
  notBefore : Option String
  deriving DecidableEq

namespace StoredRole

def fields : List Field := [
  .duration "ttl",
  .duration "max_ttl",
  .optionalLast "allow_localhost" .flag,
  .optionalLast "allowed_domains" (.list .text),
  .optionalLast "allowed_domains_template" .flag,
  .optionalLast "allow_bare_domains" .flag,
  .optionalLast "allow_subdomains" .flag,
  .optionalLast "allow_glob_domains" .flag,
  .optionalLast "allow_any_name" .flag,
  .optionalLast "enforce_hostnames" .flag,
  .optionalLast "allow_ip_sans" .flag,
  .optionalLast "allowed_uri_sans" (.list .text),
  .optionalLast "allowed_other_sans" (.list .text),
  .optionalLast "server_flag" .flag,
  .optionalLast "client_flag" .flag,
  .optionalLast "code_signing_flag" .flag,
  .optionalLast "email_protection_flag" .flag,
  .optionalLast "key_type" .text,
  .optionalLast "key_bits" .uint32,
  .optionalLast "key_usage" (.list .text),
  .optionalLast "ext_key_usage" (.list .text),
  .optionalLast "ext_key_usage_oids" (.list .text),
  .optionalLast "use_csr_common_name" .flag,
  .optionalLast "use_csr_sans" .flag,
  .optionalLast "organization" (.list .text),
  .optionalLast "ou" (.list .text),
  .optionalLast "street_address" (.list .text),
  .optionalLast "postal_code" (.list .text),
  .optionalLast "locality" (.list .text),
  .optionalLast "province" (.list .text),
  .optionalLast "country" (.list .text),
  .optionalLast "allowed_serial_numbers" (.list .text),
  .optionalLast "generate_lease" .flag,
  .optionalLast "no_store" .flag,
  .optionalLast "require_cn" .flag,
  .optionalLast "policy_identifiers" (.list .text),
  .optionalLast "basic_constraints_valid_for_non_ca" .flag,
  .duration "not_before_duration"]

def row (r : StoredRole) : Row fields :=
  (r.ttl, r.maxTtl, r.allowLocalhost, r.allowedDomains, r.allowedDomainsTemplate,
  r.allowBareDomains, r.allowSubdomains, r.allowGlobDomains, r.allowAnyName, r.enforceHostnames,
  r.allowAddresses, r.allowedUris, r.allowedOtherNames, r.serverFlag, r.clientFlag,
  r.codeSigningFlag, r.emailProtectionFlag, r.keyType, r.keyBits, r.keyUsages,
  r.extendedKeyUsages, r.extendedKeyUsageIds, r.useRequestCommonName, r.useRequestNames,
  r.organization, r.unit, r.street, r.postalCode, r.locality, r.province, r.country,
  r.allowedSerials, r.generateLease, r.noStore, r.requireCommonName, r.policyIdentifiers,
  r.leafConstraintsValid, r.notBefore, ())

def ofRow : Row fields → StoredRole :=
  fun
    (ttl, maxTtl, allowLocalhost, allowedDomains, allowedDomainsTemplate, allowBareDomains,
    allowSubdomains, allowGlobDomains, allowAnyName, enforceHostnames, allowAddresses,
    allowedUris, allowedOtherNames, serverFlag, clientFlag, codeSigningFlag, emailProtectionFlag,
    keyType, keyBits, keyUsages, extendedKeyUsages, extendedKeyUsageIds, useRequestCommonName,
    useRequestNames, organization, unit, street, postalCode, locality, province, country,
    allowedSerials, generateLease, noStore, requireCommonName, policyIdentifiers,
    leafConstraintsValid, notBefore, ()) =>
      ⟨ttl, maxTtl, allowLocalhost, allowedDomains, allowedDomainsTemplate, allowBareDomains,
      allowSubdomains, allowGlobDomains, allowAnyName, enforceHostnames, allowAddresses,
      allowedUris, allowedOtherNames, serverFlag, clientFlag, codeSigningFlag,
      emailProtectionFlag, keyType, keyBits, keyUsages, extendedKeyUsages, extendedKeyUsageIds,
      useRequestCommonName, useRequestNames, organization, unit, street, postalCode, locality,
      province, country, allowedSerials, generateLease, noStore, requireCommonName,
      policyIdentifiers, leafConstraintsValid, notBefore⟩

def layout : Layout StoredRole :=
  .plain fields row ofRow (fun _ => rfl) (fun _ => rfl)

end StoredRole

def Role.stored (r : Role) : StoredRole where
  ttl := r.ttl
  maxTtl := r.maxTtl
  allowLocalhost := r.allowLocalhost
  allowedDomains := r.allowedDomains
  allowedDomainsTemplate := r.allowedDomainsTemplate
  allowBareDomains := r.allowBareDomains
  allowSubdomains := r.allowSubdomains
  allowGlobDomains := r.allowGlobDomains
  allowAnyName := r.allowAnyName
  enforceHostnames := r.enforceHostnames
  allowAddresses := r.allowAddresses
  allowedUris := r.allowedUris
  allowedOtherNames := r.allowedOtherNames
  serverFlag := r.serverFlag
  clientFlag := r.clientFlag
  codeSigningFlag := r.codeSigningFlag
  emailProtectionFlag := r.emailProtectionFlag
  keyType := r.keyType.map KeyType.wire
  keyBits := r.keyBits
  keyUsages := r.keyUsages.map Vocabulary.names
  extendedKeyUsages := r.extendedKeyUsages.map Vocabulary.names
  extendedKeyUsageIds := r.extendedKeyUsageIds
  useRequestCommonName := r.useRequestCommonName
  useRequestNames := r.useRequestNames
  organization := r.organization.map Text.Commas.split
  unit := r.unit.map Text.Commas.split
  street := r.street.map Text.Commas.split
  postalCode := r.postalCode.map Text.Commas.split
  locality := r.locality.map Text.Commas.split
  province := r.province.map Text.Commas.split
  country := r.country.map Text.Commas.split
  allowedSerials := r.allowedSerials
  generateLease := r.generateLease
  noStore := r.noStore
  requireCommonName := r.requireCommonName
  policyIdentifiers := r.policyIdentifiers
  leafConstraintsValid := r.leafConstraintsValid
  notBefore := r.notBefore

/-- The role that was stored. Key type, usages and extended usages are read in this order. -/
def StoredRole.toRole (d : StoredRole) : Except Error Role := do
  let keyType ← Vocabulary.ofOptionalName d.keyType
  let keyUsages ← Vocabulary.ofOptionalNames d.keyUsages
  let extendedKeyUsages ← Vocabulary.ofOptionalNames d.extendedKeyUsages
  return {
    ttl := d.ttl
    maxTtl := d.maxTtl
    allowLocalhost := d.allowLocalhost
    allowedDomains := d.allowedDomains
    allowedDomainsTemplate := d.allowedDomainsTemplate
    allowBareDomains := d.allowBareDomains
    allowSubdomains := d.allowSubdomains
    allowGlobDomains := d.allowGlobDomains
    allowAnyName := d.allowAnyName
    enforceHostnames := d.enforceHostnames
    allowAddresses := d.allowAddresses
    allowedUris := d.allowedUris
    allowedOtherNames := d.allowedOtherNames
    serverFlag := d.serverFlag
    clientFlag := d.clientFlag
    codeSigningFlag := d.codeSigningFlag
    emailProtectionFlag := d.emailProtectionFlag
    keyType
    keyBits := d.keyBits
    keyUsages
    extendedKeyUsages
    extendedKeyUsageIds := d.extendedKeyUsageIds
    useRequestCommonName := d.useRequestCommonName
    useRequestNames := d.useRequestNames
    organization := d.organization.map Text.Commas.join
    unit := d.unit.map Text.Commas.join
    street := d.street.map Text.Commas.join
    postalCode := d.postalCode.map Text.Commas.join
    locality := d.locality.map Text.Commas.join
    province := d.province.map Text.Commas.join
    country := d.country.map Text.Commas.join
    allowedSerials := d.allowedSerials
    generateLease := d.generateLease
    noStore := d.noStore
    requireCommonName := d.requireCommonName
    policyIdentifiers := d.policyIdentifiers
    leafConstraintsValid := d.leafConstraintsValid
    notBefore := d.notBefore }

end VaultPki
