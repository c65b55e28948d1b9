import VaultPki.Proofs.Record.Flat
import VaultPki.Proofs.Record.Shapes
import VaultPki.Proofs.Record.Wire

/-!
# Which objects are answers

What the members of an object must be for it to be read as one of the records that answers carry,
or as an envelope around one, and which record it is then. A record in an envelope may also be the
list of its values.
-/

namespace VaultPki

open Record
open Json (Document Problem)
open Text.Utf8 (encode)

/-- Whether bytes are an object with given members, none of which is broken. -/
structure Json.IsObject (bytes : List UInt8) (ms : Members) : Prop where
  ofBytes_eq : Json.Text.ofBytes bytes = ⟨.object ms none, true⟩
  areWhole : ms.AreWhole

namespace AnswerRecord

/-- What the members of an object say that a record is. Where no member has the name of a field,
the text, list or flag there is the empty one, a value that may be `null` is absent, and the time of
a revocation is refused. -/
def Reads : (k : AnswerRecord) → Members → k.Data → Prop
  | storedCertificate, ms, d => MayHold ms "certificate" IsText d.certificate
  | listing, ms, d => Holds ms "keys" (IsListOf IsText) (some []) d.keys
  | issuance, ms, d =>
    Holds ms "certificate" IsText (some "") d.certificate ∧
    Holds ms "issuing_ca" IsText (some "") d.issuer ∧
    MayHold ms "ca_chain" (IsListOf IsText) d.chain ∧
    Holds ms "serial_number" IsText (some "") d.serial ∧
    MayHold ms "private_key_type" IsText d.keyType ∧
    MayHold ms "private_key" IsText d.key
  | signing, ms, d =>
    Holds ms "certificate" IsText (some "") d.certificate ∧
    Holds ms "issuing_ca" IsText (some "") d.issuer ∧
    MayHold ms "ca_chain" (IsListOf IsText) d.chain ∧
    Holds ms "serial_number" IsText (some "") d.serial
  | revocation, ms, d => Holds ms "revocation_time" IsInt64 none d.time
  | publishedUrls, ms, d =>
    MayHold ms "issuing_certificates" (IsListOf IsText) d.issuers ∧
    MayHold ms "crl_distribution_points" (IsListOf IsText) d.revocationLists ∧
    MayHold ms "ocsp_servers" (IsListOf IsText) d.statusServers
  | revocationListSettings, ms, d =>
    MayHold ms "expiry" IsDuration d.expiry ∧
    MayHold ms "disable" IsFlag d.disable
  | rotation, ms, d => Holds ms "success" IsFlag (some false) d.success
  | storedRole, ms, d =>
    MayHold ms "ttl" IsDuration d.ttl ∧
    MayHold ms "max_ttl" IsDuration d.maxTtl ∧
    MayHold ms "allow_localhost" IsFlag d.allowLocalhost ∧
    MayHold ms "allowed_domains" (IsListOf IsText) d.allowedDomains ∧
    MayHold ms "allowed_domains_template" IsFlag d.allowedDomainsTemplate ∧
    MayHold ms "allow_bare_domains" IsFlag d.allowBareDomains ∧
    MayHold ms "allow_subdomains" IsFlag d.allowSubdomains ∧
    MayHold ms "allow_glob_domains" IsFlag d.allowGlobDomains ∧
    MayHold ms "allow_any_name" IsFlag d.allowAnyName ∧
    MayHold ms "enforce_hostnames" IsFlag d.enforceHostnames ∧
    MayHold ms "allow_ip_sans" IsFlag d.allowAddresses ∧
    MayHold ms "allowed_uri_sans" (IsListOf IsText) d.allowedUris ∧
    MayHold ms "allowed_other_sans" (IsListOf IsText) d.allowedOtherNames ∧
    MayHold ms "server_flag" IsFlag d.serverFlag ∧
    MayHold ms "client_flag" IsFlag d.clientFlag ∧
    MayHold ms "code_signing_flag" IsFlag d.codeSigningFlag ∧
    MayHold ms "email_protection_flag" IsFlag d.emailProtectionFlag ∧
    MayHold ms "key_type" IsText d.keyType ∧
    MayHold ms "key_bits" IsUInt32 d.keyBits ∧
    MayHold ms "key_usage" (IsListOf IsText) d.keyUsages ∧
    MayHold ms "ext_key_usage" (IsListOf IsText) d.extendedKeyUsages ∧
    MayHold ms "ext_key_usage_oids" (IsListOf IsText) d.extendedKeyUsageIds ∧
    MayHold ms "use_csr_common_name" IsFlag d.useRequestCommonName ∧
    MayHold ms "use_csr_sans" IsFlag d.useRequestNames ∧
    MayHold ms "organization" (IsListOf IsText) d.organization ∧
    MayHold ms "ou" (IsListOf IsText) d.unit ∧
    MayHold ms "street_address" (IsListOf IsText) d.street ∧
    MayHold ms "postal_code" (IsListOf IsText) d.postalCode ∧
    MayHold ms "locality" (IsListOf IsText) d.locality ∧
    MayHold ms "province" (IsListOf IsText) d.province ∧
    MayHold ms "country" (IsListOf IsText) d.country ∧
    MayHold ms "allowed_serial_numbers" (IsListOf IsText) d.allowedSerials ∧
    MayHold ms "generate_lease" IsFlag d.generateLease ∧
    MayHold ms "no_store" IsFlag d.noStore ∧
    MayHold ms "require_cn" IsFlag d.requireCommonName ∧
    MayHold ms "policy_identifiers" (IsListOf IsText) d.policyIdentifiers ∧
    MayHold ms "basic_constraints_valid_for_non_ca" IsFlag d.leafConstraintsValid ∧
    MayHold ms "not_before_duration" IsDuration d.notBefore
  | root, ms, d =>
    Holds ms "certificate" IsText (some "") d.certificate ∧
    Holds ms "issuing_ca" IsText (some "") d.issuer ∧
    Holds ms "serial_number" IsText (some "") d.serial ∧
    MayHold ms "private_key_type" IsText d.keyType ∧
    MayHold ms "private_key" IsText d.key
  | request, ms, d =>
    Holds ms "csr" IsText (some "") d.request ∧
    MayHold ms "private_key_type" IsText d.keyType ∧
    MayHold ms "private_key" IsText d.key

/-- Which documents stand for a record: objects that say what it is, and the lists of its values,
one for each field in order, of which the last may be missing where an object need not have
them. -/
def Denotes (k : AnswerRecord) (d : Document) (v : k.Data) : Prop :=
  (∃ ms : Members, d = .object ms none ∧ ms.AreWhole ∧ k.Reads ms v) ∨
    ∃ items, d = .list items none ∧ items.length ≤ k.layout.names.length ∧
      k.Reads (inOrder k.layout.names items) v

/-- What the members of an object say that an envelope is. -/
structure ReadsEnvelope (k : AnswerRecord) (ms : Members) (e : Envelope k.Data) : Prop where
  data : MayHold ms "data" k.Denotes e.data
  warnings : MayHold ms "warnings" (IsListOf IsText) e.warnings
  errors : MayHold ms "errors" (IsListOf IsText) e.errors

/-- The names of the fields that are durations. -/
def durations : AnswerRecord → List String
  | revocationListSettings => ["expiry"]
  | storedRole => ["ttl", "max_ttl", "not_before_duration"]
  | _ => []

/-- Whether nothing but its kind can be wrong with the value of a field. Durations are read in full
first, so they must not nest too deep. -/
def IsLegible (k : AnswerRecord) (levels : Nat) (name : String) (d : Document) : Prop :=
  d.IsLegible ∧ (name ∈ k.durations → d.IsReadable levels)

/-- Whether nothing but the kinds of values can be wrong with what stands in the place of a record:
names are texts, and a list is not too long. -/
def IsLegibleRecord (k : AnswerRecord) (levels : Nat) : Document → Prop
  | .object ms _ => (∀ m ∈ ms, ∃ name, m.1 = .ok name) ∧
      ∀ name ∈ k.layout.names, ∀ d ∈ named name ms, k.IsLegible levels name d
  | .list items _ => items.length ≤ k.layout.names.length ∧
      ∀ name ∈ k.layout.names, ∀ d ∈ named name (inOrder k.layout.names items),
        k.IsLegible levels name d
  | d => d.refusal = .mismatch

/-- Whether nothing but its kind can be wrong with the value of a field of an envelope. -/
def IsLegibleInEnvelope (k : AnswerRecord) (levels : Nat) (name : String) (d : Document) : Prop :=
  if name = "data" then k.IsLegibleRecord levels d else d.IsLegible

variable {levels : Nat} (k : AnswerRecord)

theorem isFlat : k.layout.IsFlat where
  spread_eq_nil := by cases k <;> rfl
  nodup_names := k.layout_isFaithful.nodup_names

theorem takes_iff {ms : Members} {v : k.Data} :
    Row.Takes (levels + 1) ms k.layout.own (k.layout.row v).1 ↔ k.Reads ms v := by
  cases k with
  | storedCertificate => simp [layout, StoredCertificate.layout, Layout.plain, Row.Takes, Reads]
  | listing => simp [layout, Listing.layout, Layout.plain, Row.Takes, Reads]
  | issuance => simp [layout, Issuance.Data.layout, Layout.plain, Row.Takes, Reads]
  | signing => simp [layout, Signing.Data.layout, Layout.plain, Row.Takes, Reads]
  | revocation => simp [layout, Revocation.Data.layout, Layout.plain, Row.Takes, Reads]
  | publishedUrls => simp [layout, PublishedUrls.layout, Layout.plain, Row.Takes, Reads]
  | revocationListSettings =>
    simp [layout, RevocationListSettings.layout, Layout.plain, Row.Takes, Reads]
  | rotation => simp [layout, Rotation.layout, Layout.plain, Row.Takes, Reads]
  | storedRole =>
    simp [layout, StoredRole.layout, StoredRole.fields, StoredRole.row, Layout.plain, Row.Takes,
      Reads]
  | root => simp [layout, RootGeneration.Data.layout, Layout.plain, Row.Takes, Reads]
  | request => simp [layout, RequestGeneration.Data.layout, Layout.plain, Row.Takes, Reads]

theorem isRegular : ∀ f ∈ k.layout.own, f.IsRegular k.durations := by
  cases k with
  | storedCertificate => simp [layout, StoredCertificate.layout, Layout.plain]
  | listing => simp [layout, Listing.layout, Layout.plain]
  | issuance => simp [layout, Issuance.Data.layout, Layout.plain]
  | signing => simp [layout, Signing.Data.layout, Layout.plain]
  | revocation => simp [layout, Revocation.Data.layout, Layout.plain]
  | publishedUrls => simp [layout, PublishedUrls.layout, Layout.plain]
  | revocationListSettings => simp [layout, RevocationListSettings.layout, Layout.plain, durations]
  | rotation => simp [layout, Rotation.layout, Layout.plain]
  | storedRole => simp [layout, StoredRole.layout, StoredRole.fields, Layout.plain, durations]
  | root => simp [layout, RootGeneration.Data.layout, Layout.plain]
  | request => simp [layout, RequestGeneration.Data.layout, Layout.plain]

/-- A document in which nothing is broken is read as a record exactly if it stands for one. -/
theorem codec_denotes_iff {d : Document} (hskim : d.skim = none) {v : k.Data} :
    k.layout.codec.Denotes (levels + 2) d v ↔ k.Denotes d v := by
  have hshort : ∀ f ∈ k.layout.own, f.short = f.absent :=
    fun f hf => (k.isRegular f hf).short_eq_absent
  rw [k.isFlat.denotes_iff hshort hskim, Denotes]
  simp only [takes_iff]

theorem judges_of_isLegible {d : Document} {f : Field} (hf : f ∈ k.layout.own)
    (hd : k.IsLegible (levels + 1) f.name d) : f.codec.Judges (levels + 1) d :=
  (k.isRegular f hf).judges levels d hd.1 hd.2

theorem codec_judges {d : Document} (hskim : d.skim = none)
    (hd : k.IsLegibleRecord (levels + 1) d) : k.layout.codec.Judges (levels + 2) d := by
  have hname {f : Field} (hf : f ∈ k.layout.own) : f.name ∈ k.layout.names := k.isFlat.name_mem hf
  cases d with
  | object ms stop =>
    obtain ⟨hnames, hlegible⟩ := hd
    obtain ⟨rfl, hdocs⟩ := Document.skimMembers_eq_none_iff.1 hskim
    apply k.isFlat.object_judges fun m hm => ⟨hnames m hm, hdocs m hm⟩
    intro f hf d hd
    exact k.judges_of_isLegible hf (hlegible f.name (hname hf) d hd)
  | list items stop =>
    obtain ⟨hlength, hlegible⟩ := hd
    obtain ⟨rfl, -⟩ := Document.skimItems_eq_none_iff.1 hskim
    apply k.isFlat.list_judges hlength
    intro f hf d hd
    exact k.judges_of_isLegible hf (hlegible f.name (hname hf) d hd)
  | _ =>
    intro p hread
    exact (Except.error.inj hread).symm.trans hd

theorem takes_envelope_iff {ms : Members} (hwhole : ms.AreWhole) {e : Envelope k.Data} :
    Row.Takes (levels + 2) ms k.envelope.own (k.envelope.row e).1 ↔ k.ReadsEnvelope ms e := by
  have hdata : MayHold ms "data" (k.layout.codec.Denotes (levels + 2)) e.data ↔
      MayHold ms "data" k.Denotes e.data := by
    apply MayHold.congr
    intro d hd v
    exact k.codec_denotes_iff (hwhole _ (mem_of_mem_named hd)).2
  have htakes : Row.Takes (levels + 2) ms k.envelope.own (k.envelope.row e).1 ↔
      MayHold ms "data" (k.layout.codec.Denotes (levels + 2)) e.data ∧
        MayHold ms "warnings" (IsListOf IsText) e.warnings ∧
        MayHold ms "errors" (IsListOf IsText) e.errors := by
    simp [envelope, Envelope.layout, Envelope.fields, Layout.plain, Row.Takes]
  rw [htakes, hdata]
  exact ⟨fun h => ⟨h.1, h.2.1, h.2.2⟩, fun h => ⟨h.data, h.warnings, h.errors⟩⟩

theorem envelope_isFlat : k.envelope.IsFlat where
  spread_eq_nil := rfl
  nodup_names := k.envelope_isFaithful.nodup_names

end AnswerRecord

/-! ## Decoding -/

namespace Record.Layout

variable {ρ : Type}

/-- Whether it is known what is read from bytes that are an object. `Reads` says of which records,
and where there is none although the documents under the names of fields are legible, one of them is
of the wrong kind, missing or there twice. Other members are no matter, nor is the order of all. -/
structure IsDecidedBy (l : Layout ρ) (Reads : Members → ρ → Prop)
    (IsLegible : String → Document → Prop) (bytes : List UInt8) (ms : Members) : Prop where
  decode_eq_ok_iff : ∀ r, l.decode bytes = .ok r ↔ Reads ms r
  eq_mismatch : (∀ name ∈ l.names, ∀ d ∈ named name ms, IsLegible name d) →
    ∀ p, l.decode bytes = .error p → p = .mismatch
  decode_congr : ∀ bytes' ms', Json.IsObject bytes' ms' →
    (∀ name ∈ l.names, (named name ms').Perm (named name ms)) →
      (∀ r, l.decode bytes' = .ok r ↔ l.decode bytes = .ok r) ∧
        ((∀ name ∈ l.names, ∀ d ∈ named name ms, IsLegible name d) →
          l.decode bytes' = l.decode bytes)

variable {l : Layout ρ} {bytes : List UInt8} {ms : Members}

theorem decode_of_isObject (h : Json.IsObject bytes ms) :
    l.decode bytes = l.read 127 (.object ms none) := by
  rw [decode_of_ofBytes h.ofBytes_eq]
  cases l.read 127 (.object ms none) <;> rfl

theorem IsFlat.isDecidedBy {Reads : Members → ρ → Prop} {IsLegible : String → Document → Prop}
    (hflat : l.IsFlat)
    (hreads : ∀ {ms : Members}, ms.AreWhole → ∀ r,
      Row.Takes 126 ms l.own (l.row r).1 ↔ Reads ms r)
    (hjudges : ∀ {d : Document}, d.skim = none → ∀ f ∈ l.own, IsLegible f.name d →
      f.codec.Judges 126 d)
    (h : Json.IsObject bytes ms) : l.IsDecidedBy Reads IsLegible bytes ms := by
  have hname {f : Field} (hf : f ∈ l.own) : f.name ∈ l.names := hflat.name_mem hf
  have hok {bytes : List UInt8} {ms : Members} (h : Json.IsObject bytes ms) (r : ρ) :
      l.decode bytes = .ok r ↔ Reads ms r := by
    rw [decode_of_isObject h, ← hreads h.areWhole]
    exact hflat.read_object_iff h.areWhole
  have hmismatch {bytes : List UInt8} {ms : Members} (h : Json.IsObject bytes ms)
      (hlegible : ∀ name ∈ l.names, ∀ d ∈ named name ms, IsLegible name d) :
      ∀ p, l.decode bytes = .error p → p = .mismatch := by
    rw [decode_of_isObject h]
    apply hflat.object_judges h.areWhole
    intro f hf d hd
    exact hjudges (h.areWhole _ (mem_of_mem_named hd)).2 f hf (hlegible f.name (hname hf) d hd)
  refine ⟨hok h, hmismatch h, fun bytes' ms' h' hnamed => ?_⟩
  have hsame (r : ρ) : l.decode bytes' = .ok r ↔ l.decode bytes = .ok r := by
    rw [hok h, hok h', ← hreads h.areWhole, ← hreads h'.areWhole]
    exact Row.takes_congr fun f hf => hnamed f.name (hname hf)
  refine ⟨hsame, fun hlegible => Attempt.eq_of_ok_iff hsame (hmismatch h' ?_) (hmismatch h hlegible)⟩
  intro name hn d hd
  exact hlegible name hn d ((hnamed name hn).mem_iff.1 hd)

end Record.Layout

namespace AnswerRecord

/-- The names of the fields whose values are never `null`. -/
def solidNames : AnswerRecord → List String
  | listing => ["keys"]
  | issuance | signing | root => ["certificate", "issuing_ca", "serial_number"]
  | revocation => ["revocation_time"]
  | rotation => ["success"]
  | request => ["csr"]
  | storedCertificate | publishedUrls | revocationListSettings | storedRole => []

theorem null_not_mem_of_reads {k : AnswerRecord} {ms : Members} {v : k.Data} (h : k.Reads ms v)
    {name : String} (hname : name ∈ k.solidNames) : .null ∉ named name ms := by
  suffices hnames : ∀ name ∈ k.solidNames, .null ∉ named name ms from hnames name hname
  cases k with
  | listing =>
    have hkeys : ¬ IsListOf IsText .null v.keys := by
      rintro ⟨items, hnull, -⟩
      cases hnull
    simp [solidNames, h.null_not_mem hkeys]
  | issuance =>
    obtain ⟨hcertificate, hissuer, -, hserial, -⟩ := h
    simp [solidNames, hcertificate.null_not_mem nofun, hissuer.null_not_mem nofun,
      hserial.null_not_mem nofun]
  | signing =>
    obtain ⟨hcertificate, hissuer, -, hserial⟩ := h
    simp [solidNames, hcertificate.null_not_mem nofun, hissuer.null_not_mem nofun,
      hserial.null_not_mem nofun]
  | root =>
    obtain ⟨hcertificate, hissuer, hserial, -⟩ := h
    simp [solidNames, hcertificate.null_not_mem nofun, hissuer.null_not_mem nofun,
      hserial.null_not_mem nofun]
  | request => simp [solidNames, h.1.null_not_mem nofun]
  | revocation => simp [solidNames, h.null_not_mem nofun]
  | rotation => simp [solidNames, h.null_not_mem nofun]
  | storedCertificate | publishedUrls | revocationListSettings | storedRole => simp [solidNames]

/-- Exactly which objects are read as a record, and as an envelope around one. Every field has what
the one member of its name stands for, or its own value where there is none; members of other names
and the order of all are no matter. Where the values of fields are legible, what is refused is of
the wrong kind, missing or there twice. A `null` stands for none of the values that are always
there. -/
theorem decode_object (k : AnswerRecord) {bytes : List UInt8} {ms : Members}
    (h : Json.IsObject bytes ms) :
    k.layout.IsDecidedBy k.Reads (k.IsLegible 126) bytes ms ∧
      k.envelope.IsDecidedBy k.ReadsEnvelope (k.IsLegibleInEnvelope 125) bytes ms ∧
      ∀ name ∈ k.solidNames, .null ∈ named name ms → ∀ r, k.layout.decode bytes ≠ .ok r := by
  have hrecord : k.layout.IsDecidedBy k.Reads (k.IsLegible 126) bytes ms := by
    apply k.isFlat.isDecidedBy (fun _ r => k.takes_iff) _ h
    exact fun _ f hf hd => k.judges_of_isLegible hf hd
  have htexts : (Codec.nullable (.list .text)).IsFair :=
    Codec.nullable_isFair (Codec.list_isFair Codec.text_isScalar)
  refine ⟨hrecord, ?_, fun name hname hnull r hr => ?_⟩
  · apply k.envelope_isFlat.isDecidedBy (fun hwhole _ => k.takes_envelope_iff hwhole) _ h
    intro d hskim f hf hd
    have hf : f ∈ Envelope.fields k.layout.codec := hf
    simp only [Envelope.fields, List.mem_cons, List.not_mem_nil, or_false] at hf
    rcases hf with rfl | rfl | rfl
    · exact Codec.nullable_judges (k.codec_judges hskim hd)
    · exact htexts 125 d hd
    · exact htexts 125 d hd
  · exact null_not_mem_of_reads ((hrecord.decode_eq_ok_iff r).1 hr) hname hnull

/-- Settings with a number of seconds and without a flag, among members of another name. -/
theorem decode_object_of_settings :
    RevocationListSettings.layout.decode
        (encode "\x7b\"build\":[null],\"disable\":null,\"expiry\":259200\x7d") =
      .ok ⟨some "259200", none⟩ := by
  let ms : Members :=
    [(.ok "build", .list [.null] none), (.ok "disable", .null), (.ok "expiry", .integer 259200)]
  have hobject : Json.IsObject
      (encode "\x7b\"build\":[null],\"disable\":null,\"expiry\":259200\x7d") ms := by
    constructor
    · cbv
    · simp [ms, Members.AreWhole, Document.skim, Document.skimItems]
  have hduration : IsDuration (.integer 259200) "259200" := .inr ⟨259200, rfl, rfl⟩
  have hexpiry : MayHold ms "expiry" IsDuration (some "259200") :=
    .inr ⟨.integer 259200, rfl, .inr ⟨by simp, "259200", hduration, rfl⟩⟩
  have hdisable : MayHold ms "disable" IsFlag none :=
    .inr ⟨.null, rfl, .inl ⟨rfl, rfl⟩⟩
  exact ((decode_object revocationListSettings hobject).1.decode_eq_ok_iff _).2 ⟨hexpiry, hdisable⟩

/-- A record in an envelope may be the list of its values. One value too many is no value of the
wrong kind but a defect, and so is a string that says nothing as text. -/
theorem envelope_of_list :
    Json.IsObject (encode "\x7b\"data\":[\"x\",\"y\"]\x7d")
      [(.ok "data", .list [.text (.ok "x"), .text (.ok "y")] none)] ∧
    storedCertificate.envelope.decode (encode "\x7b\"data\":[\"x\",\"y\"]\x7d") =
      .error (.defect .malformed) ∧
    storedCertificate.envelope.decode (encode "\x7b\"data\":[\"x\"]\x7d") =
      .ok ⟨some ⟨some "x"⟩, none, none⟩ ∧
    storedCertificate.layout.decode (encode "\x7b\"certificate\":\"\\ud800\"\x7d") =
      .error (.defect .malformed) := by
  refine ⟨⟨?_, ?_⟩, ?_, ?_, ?_⟩
  · cbv
  · simp [Members.AreWhole, Document.skim, Document.skimItems]
  · cbv
  · cbv
  · cbv

end AnswerRecord

end VaultPki
