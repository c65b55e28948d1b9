import VaultPki.Name.KeyType
import VaultPki.Name.KeyUsage

/-!
# Roles

A role says which certificates a mount issues: their names, their lifetime, their keys and their
subjects. Every part may be left open. The parts of the subject are texts with commas between their
values.
-/

namespace VaultPki

structure Role where
  ttl : Option String := none
  maxTtl : Option String := none
  allowLocalhost : Option Bool := none
  allowedDomains : Option (List String) := none
  allowedDomainsTemplate : Option Bool := none
  allowBareDomains : Option Bool := none
  allowSubdomains : Option Bool := none
  allowGlobDomains : Option Bool := none
  allowAnyName : Option Bool := none
  enforceHostnames : Option Bool := none
  allowAddresses : Option Bool := none
  allowedUris : Option (List String) := none
  allowedOtherNames : Option (List String) := none
  serverFlag : Option Bool := none
  clientFlag : Option Bool := none
  codeSigningFlag : Option Bool := none
  emailProtectionFlag : Option Bool := none
  keyType : Option KeyType := none
  keyBits : Option UInt32 := none
  keyUsages : Option (List KeyUsage) := none
  extendedKeyUsages : Option (List ExtendedKeyUsage) := none
  extendedKeyUsageIds : Option (List String) := none
  useRequestCommonName : Option Bool := none
  useRequestNames : Option Bool := none
  organization : Option String := none
  unit : Option String := none
  street : Option String := none
  postalCode : Option String := none
  locality : Option String := none
  province : Option String := none
  country : Option String := none
  allowedSerials : Option (List String) := none
  generateLease : Option Bool := none
  noStore : Option Bool := none
  requireCommonName : Option Bool := none
  policyIdentifiers : Option (List String) := none
  leafConstraintsValid : Option Bool := none
  notBefore : Option String := none
  deriving DecidableEq

end VaultPki
