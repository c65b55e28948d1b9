import VaultPki.Proofs.Name.Vocabulary
import VaultPki.Proofs.Text.Commas
import VaultPki.Role.Stored

/-!
# Which stored roles can be read

A stored role holds names of three vocabularies: of the type of its keys, of their usages and of
their extended usages. If all of them are known, the role is read as a whole; if not, nothing of it
is, and the error quotes the first name that is unknown.
-/

namespace VaultPki

open Attempt Vocabulary

/-- What a name in a stored role is a name of. -/
inductive NameKind where
  | keyType
  | keyUsage
  | extendedKeyUsage

namespace NameKind

def text : NameKind → String
  | keyType => "key type"
  | keyUsage => "key usage"
  | extendedKeyUsage => "extended key usage"

/-- Whether a text is such a name, whatever the case of its ASCII letters. -/
def Knows : NameKind → String → Prop
  | keyType => IsKnown KeyType
  | keyUsage => IsKnown KeyUsage
  | extendedKeyUsage => IsKnown ExtendedKeyUsage

end NameKind

namespace StoredRole

/-- The names in a stored role in order: that of the type of its keys, those of their usages and
those of their extended usages. -/
def namesInOrder (d : StoredRole) : List (NameKind × String) :=
  d.keyType.toList.map (Prod.mk .keyType) ++ (d.keyUsages.getD []).map (Prod.mk .keyUsage) ++
    (d.extendedKeyUsages.getD []).map (Prod.mk .extendedKeyUsage)

/-- Whether a stored role stands for a role. Values are named in order, a part of the subject is one
text with commas between the elements of the list that is stored, and all else is the same. -/
structure StandsFor (d : StoredRole) (role : Role) : Prop where
  ttl : role.ttl = d.ttl
  maxTtl : role.maxTtl = d.maxTtl
  allowLocalhost : role.allowLocalhost = d.allowLocalhost
  allowedDomains : role.allowedDomains = d.allowedDomains
  allowedDomainsTemplate : role.allowedDomainsTemplate = d.allowedDomainsTemplate
  allowBareDomains : role.allowBareDomains = d.allowBareDomains
  allowSubdomains : role.allowSubdomains = d.allowSubdomains
  allowGlobDomains : role.allowGlobDomains = d.allowGlobDomains
  allowAnyName : role.allowAnyName = d.allowAnyName
  enforceHostnames : role.enforceHostnames = d.enforceHostnames
  allowAddresses : role.allowAddresses = d.allowAddresses
  allowedUris : role.allowedUris = d.allowedUris
  allowedOtherNames : role.allowedOtherNames = d.allowedOtherNames
  serverFlag : role.serverFlag = d.serverFlag
  clientFlag : role.clientFlag = d.clientFlag
  codeSigningFlag : role.codeSigningFlag = d.codeSigningFlag
  emailProtectionFlag : role.emailProtectionFlag = d.emailProtectionFlag
  keyType : Option.Rel Spells d.keyType role.keyType
  keyBits : role.keyBits = d.keyBits
  keyUsages : Option.Rel (List.Forall₂ Spells) d.keyUsages role.keyUsages
  extendedKeyUsages :
    Option.Rel (List.Forall₂ Spells) d.extendedKeyUsages role.extendedKeyUsages
  extendedKeyUsageIds : role.extendedKeyUsageIds = d.extendedKeyUsageIds
  useRequestCommonName : role.useRequestCommonName = d.useRequestCommonName
  useRequestNames : role.useRequestNames = d.useRequestNames
  organization : role.organization = d.organization.map ",".intercalate
  unit : role.unit = d.unit.map ",".intercalate
  street : role.street = d.street.map ",".intercalate
  postalCode : role.postalCode = d.postalCode.map ",".intercalate
  locality : role.locality = d.locality.map ",".intercalate
  province : role.province = d.province.map ",".intercalate
  country : role.country = d.country.map ",".intercalate
  allowedSerials : role.allowedSerials = d.allowedSerials
  generateLease : role.generateLease = d.generateLease
  noStore : role.noStore = d.noStore
  requireCommonName : role.requireCommonName = d.requireCommonName
  policyIdentifiers : role.policyIdentifiers = d.policyIdentifiers
  leafConstraintsValid : role.leafConstraintsValid = d.leafConstraintsValid
  notBefore : role.notBefore = d.notBefore

variable {d : StoredRole} {role : Role} {e : Error}

/-! ## Success -/

private theorem map_join_eq (o : Option (List String)) :
    o.map Text.Commas.join = o.map ",".intercalate :=
  congrArg (o.map ·) (funext Text.Commas.join_eq_intercalate)

/-- What is read of a stored role: the values that are named, and beside them what it holds. -/
theorem toRole_eq_ok_iff : d.toRole = .ok role ↔ d.StandsFor role := by
  simp only [toRole, Attempt.bind_eq_ok_iff, ofOptionalName_eq_ok_iff KeyType.isRecognised,
    ofOptionalNames_eq_ok_iff KeyUsage.isRecognised,
    ofOptionalNames_eq_ok_iff ExtendedKeyUsage.isRecognised, map_join_eq]
  constructor
  · rintro ⟨keyType, hkeyType, usages, husages, extended, hextended, hrole⟩
    obtain rfl := Except.ok.inj hrole
    -- Of the names the values that were found are put in, all other fields are copied.
    constructor <;> first | rfl | assumption
  · intro h
    refine ⟨_, h.keyType, _, h.keyUsages, _, h.extendedKeyUsages, ?_⟩
    cases role
    cases h
    simp_all only
    rfl

/-! ## Failure -/

theorem forall_mem_namesInOrder_iff :
    (∀ n ∈ d.namesInOrder, n.1.Knows n.2) ↔
      (∀ s ∈ d.keyType, IsKnown KeyType s) ∧
      (∀ ss ∈ d.keyUsages, ∀ s ∈ ss, IsKnown KeyUsage s) ∧
      ∀ ss ∈ d.extendedKeyUsages, ∀ s ∈ ss, IsKnown ExtendedKeyUsage s := by
  simp only [namesInOrder, List.forall_mem_append, List.forall_mem_map, NameKind.Knows, and_assoc]
  cases d.keyType <;> cases d.keyUsages <;> cases d.extendedKeyUsages <;> simp

theorem toRole_failsAtFirst (d : StoredRole) :
    FailsAtFirst (fun n => n.1.Knows n.2)
      (fun n => .encoding ("unknown " ++ n.1.text ++ " '" ++ n.2 ++ "'")) d.namesInOrder
      d.toRole := by
  have hkeyType := ofOptionalName_failsAtFirst KeyType.isRecognised d.keyType
  have husages := ofOptionalNames_failsAtFirst KeyUsage.isRecognised d.keyUsages
  have hextended := ofOptionalNames_failsAtFirst ExtendedKeyUsage.isRecognised d.extendedKeyUsages
  rw [namesInOrder, List.append_assoc]
  refine FailsAtFirst.bind (.of_map hkeyType) fun keyType => ?_
  refine FailsAtFirst.bind (.of_map husages) fun usages => ?_
  exact FailsAtFirst.bind_return (.of_map hextended)

/-- A stored role is read as a whole, or nothing of it is. It is read exactly if all its names are
known, and stands for the role that is read. If not, the error quotes the first name that is unknown
as it is, whatever else is stored. -/
theorem toRole_all_or_nothing (d : StoredRole) :
    ((∃ role, d.toRole = .ok role) ↔
      (∀ s ∈ d.keyType, IsKnown KeyType s) ∧
      (∀ ss ∈ d.keyUsages, ∀ s ∈ ss, IsKnown KeyUsage s) ∧
      ∀ ss ∈ d.extendedKeyUsages, ∀ s ∈ ss, IsKnown ExtendedKeyUsage s) ∧
    (∀ role, d.toRole = .ok role ↔ d.StandsFor role) ∧
    ∀ e, d.toRole = .error e ↔
      ∃ kind s, IsFirstWithout (fun n => n.1.Knows n.2) d.namesInOrder (kind, s) ∧
        e = .encoding ("unknown " ++ kind.text ++ " '" ++ s ++ "'") := by
  have hfails := d.toRole_failsAtFirst
  refine ⟨?_, fun role => toRole_eq_ok_iff, fun e => ?_⟩
  · rw [hfails.exists_ok_iff, forall_mem_namesInOrder_iff]
  · rw [hfails e, Prod.exists]

end StoredRole

end VaultPki
