import VaultPki.Proofs.Arrival

/-!
# Serial numbers with colons

A listing surfaces the serial numbers that the server gives with a colon in the place of each
hyphen. A certificate that is issued, signed or generated surfaces its serial number as the server
writes it, so that one is in colon form exactly if the server wrote no hyphen.
-/

namespace VaultPki

open Record

/-! ## Hyphens and colons -/

namespace Serial

/-- Whether a serial number is another one with a colon in the place of each hyphen. -/
def IsColonFormOf (s wire : String) : Prop :=
  List.Forall₂ (fun c w => c = if w = '-' then ':' else w) s.toList wire.toList

variable {s wire : String} {surfaced wires : List String}

private theorem forall₂_eq_iff_eq_map {α β : Type} {f : β → α} {as : List α} {bs : List β} :
    List.Forall₂ (fun a b => a = f b) as bs ↔ as = bs.map f := by
  rw [← List.forall₂_map_right_iff, List.forall₂_eq_eq_eq]

private theorem map_eq_self_iff {α : Type} {f : α → α} {as : List α} :
    as.map f = as ↔ ∀ a ∈ as, f a = a := by
  rw [← List.map_inj_left, List.map_id']

theorem toList_withColons (s : String) :
    (withColons s).toList = s.toList.map fun c => if c = '-' then ':' else c :=
  String.toList_ofList

theorem isColonFormOf_iff : IsColonFormOf s wire ↔ s = withColons wire := by
  rw [IsColonFormOf, forall₂_eq_iff_eq_map, ← toList_withColons, String.toList_inj]

theorem hyphen_not_mem_withColons (s : String) : '-' ∉ (withColons s).toList := by
  rw [toList_withColons]
  intro hmem
  obtain ⟨c, -, hc⟩ := List.mem_map.1 hmem
  split at hc
  · cases hc
  · contradiction

theorem withColons_eq_self_iff : withColons s = s ↔ '-' ∉ s.toList := by
  constructor
  · intro h
    rw [← h]
    exact hyphen_not_mem_withColons s
  · intro h
    rw [← String.toList_inj, toList_withColons, map_eq_self_iff]
    rintro c hc
    apply if_neg
    rintro rfl
    exact h hc

theorem forall₂_isColonFormOf_iff :
    List.Forall₂ IsColonFormOf surfaced wires ↔ surfaced = wires.map withColons := by
  have hform : IsColonFormOf = fun s wire => s = withColons wire := by
    ext s wire
    exact isColonFormOf_iff
  rw [hform, forall₂_eq_iff_eq_map]

theorem map_withColons_eq_self_iff :
    wires.map withColons = wires ↔ ∀ w ∈ wires, '-' ∉ w.toList := by
  rw [map_eq_self_iff]
  simp only [withColons_eq_self_iff]

end Serial

/-! ## Results of calls -/

namespace Call

/-- The data in the body of an answer, if it holds any. -/
def dataOf? {ρ : Type} (l : Layout ρ) (body : List UInt8) : Option ρ :=
  ((Envelope.layout l.codec).decode body).toOption.bind Envelope.data

theorem dataOf?_eq_some_iff {ρ : Type} {l : Layout ρ} {body : List UInt8} {d : ρ} :
    dataOf? l body = some d ↔
      ∃ e, (Envelope.layout l.codec).decode body = .ok e ∧ e.data = some d := by
  rw [dataOf?]
  cases (Envelope.layout l.codec).decode body with
  | error problem => simp [Except.toOption]
  | ok e => simp [Except.toOption]

/-- The serial numbers that the body of an answer gives: the keys of a listing, or the one of a
certificate. -/
def wireSerials? (body : List UInt8) : Call → Option (List String)
  | listCertificates => (dataOf? Listing.layout body).map Listing.keys
  | issue _ _ => (dataOf? Issuance.Data.layout body).map fun d => [d.serial]
  | sign _ _ _ | signIntermediate _ _ => (dataOf? Signing.Data.layout body).map fun d => [d.serial]
  | generateRoot _ => (dataOf? RootGeneration.Data.layout body).map fun d => [d.serial]
  | _ => none

/-- The serial numbers in the result of a call. -/
def surfacedSerials? : (call : Call) → call.Result → Option (List String)
  | listCertificates, serials => some serials
  | issue _ _, c => some [IssuedCertificate.serial c]
  | sign _ _ _, c | signIntermediate _ _, c => some [SignedCertificate.serial c]
  | generateRoot _, c => some [RootCertificate.serial c]
  | _, _ => none

variable {call : Call} {c : Client} {net : Http.Network} {mount : String}
  {answer : Except Error String}

/-- Where no failure stands for a result, a result is what the body of a success comes to. -/
theorem exists_gives_of_result {p : Payload call.Result} {v : call.Result}
    (hp : call.payload? mount = some p) (hsettled : ∀ x, call.settled x = x)
    (hrefusal : ∀ r, ∃ e, call.refusal r = .error e)
    (h : (call.perform c net mount answer).result = .ok v) :
    ∃ r, call.Receives c net mount answer r ∧ r.isSuccess = true ∧ p.Gives r (.ok v) := by
  by_cases hreceives : ∃ r, call.Receives c net mount answer r
  · obtain ⟨r, hr⟩ := hreceives
    cases hsuccess : r.isSuccess with
    | false =>
      obtain ⟨e, he⟩ := hrefusal r
      rw [perform_result_of_receives hr, read_of_refusal mount call hsuccess, he] at h
      cases h
    | true =>
      obtain ⟨x, hx, hresult⟩ := exists_gives_of_receives hp hr hsuccess
      rw [hresult, hsettled] at h
      exact ⟨r, hr, hsuccess, h ▸ hx⟩
  · obtain ⟨e, he, -⟩ := perform_of_not_receives (not_exists.1 hreceives)
    rw [he, hsettled] at h
    cases h

/-- Such a result was read from the data of an answer. -/
theorem exists_data_of_result {p : Payload call.Result} {v : call.Result}
    (hp : call.payload? mount = some p) (hsettled : ∀ x, call.settled x = x)
    (hrefusal : ∀ r, ∃ e, call.refusal r = .error e)
    (h : (call.perform c net mount answer).result = .ok v) :
    ∃ r d, call.Receives c net mount answer r ∧ dataOf? p.layout r.body = some d ∧
      p.interpret d = .ok v := by
  obtain ⟨r, hr, -, hgives⟩ := exists_gives_of_result hp hsettled hrefusal h
  obtain ⟨x, hx, hgives⟩ : ∃ x, x = .ok v ∧ p.Gives r x := ⟨_, rfl, hgives⟩
  cases hgives with
  | @data e d hc hb hd hs => exact ⟨r, d, hr, dataOf?_eq_some_iff.2 ⟨e, hd, hs⟩, hx⟩
  | _ => cases hx

theorem serial_of_issuance {d : Issuance.Data} {v : IssuedCertificate}
    (h : d.toCertificate = .ok v) : v.serial = d.serial := by
  obtain ⟨keyType, -, hv⟩ := Attempt.bind_eq_ok_iff.1 h
  rw [← Except.ok.inj hv]

theorem serial_of_rootGeneration {d : RootGeneration.Data} {v : RootCertificate}
    (h : d.toCertificate = .ok v) : v.serial = d.serial := by
  obtain ⟨keyType, -, hv⟩ := Attempt.bind_eq_ok_iff.1 h
  rw [← Except.ok.inj hv]

/-- What a call surfaces comes from an answer, and only a listing changes it. -/
theorem exists_wireSerials {v : call.Result} {surfaced : List String}
    (h : (call.perform c net mount answer).result = .ok v)
    (hsurfaced : call.surfacedSerials? v = some surfaced) :
    ∃ r wires, call.Receives c net mount answer r ∧ call.wireSerials? r.body = some wires ∧
      (call = .listCertificates → surfaced = wires.map Serial.withColons) ∧
      (call ≠ .listCertificates → surfaced = wires) := by
  have hread (p : Payload call.Result) (hp : call.payload? mount = some p)
      (hsettled : ∀ x, call.settled x = x) (hrefusal : ∀ r, ∃ e, call.refusal r = .error e) :=
    exists_data_of_result hp hsettled hrefusal h
  cases call with
  | listCertificates =>
    obtain ⟨r, d, hr, hdata, hv⟩ := hread _ rfl (fun _ => rfl) fun _ => ⟨_, rfl⟩
    obtain rfl : d.serials = v := Except.ok.inj hv
    obtain rfl : d.serials = surfaced := Option.some.inj hsurfaced
    exact ⟨r, d.keys, hr, congrArg (Option.map Listing.keys) hdata, fun _ => rfl,
      fun hne => absurd rfl hne⟩
  | issue role o =>
    obtain ⟨r, d, hr, hdata, hv⟩ := hread _ rfl (fun _ => rfl) fun _ => ⟨_, rfl⟩
    obtain rfl : [IssuedCertificate.serial v] = surfaced := Option.some.inj hsurfaced
    exact ⟨r, [d.serial], hr, congrArg (Option.map fun d => [Issuance.Data.serial d]) hdata, nofun,
      fun _ => congrArg (fun s => [s]) (serial_of_issuance hv)⟩
  | sign role request o | signIntermediate request o =>
    obtain ⟨r, d, hr, hdata, hv⟩ := hread _ rfl (fun _ => rfl) fun _ => ⟨_, rfl⟩
    obtain rfl : d.toCertificate = v := Except.ok.inj hv
    obtain rfl : [d.serial] = surfaced := Option.some.inj hsurfaced
    exact ⟨r, [d.serial], hr, congrArg (Option.map fun d => [Signing.Data.serial d]) hdata, nofun,
      fun _ => rfl⟩
  | generateRoot o =>
    obtain ⟨r, d, hr, hdata, hv⟩ := hread _ rfl (fun _ => rfl) fun _ => ⟨_, rfl⟩
    obtain rfl : [RootCertificate.serial v] = surfaced := Option.some.inj hsurfaced
    exact ⟨r, [d.serial], hr, congrArg (Option.map fun d => [RootGeneration.Data.serial d]) hdata,
      nofun, fun _ => congrArg (fun s => [s]) (serial_of_rootGeneration hv)⟩
  | _ => cases hsurfaced

/-- The serial numbers that a call surfaces are those in the data of an answer. In a listing they
are in colon form, and so they hold no hyphen and are in colon form already. In a certificate they
are as the server writes them, which is in colon form exactly if it writes no hyphen. -/
theorem surfaced_serials {v : call.Result} {surfaced : List String}
    (h : (call.perform c net mount answer).result = .ok v)
    (hsurfaced : call.surfacedSerials? v = some surfaced) :
    ∃ r wires, call.Receives c net mount answer r ∧ call.wireSerials? r.body = some wires ∧
      (call = .listCertificates →
        List.Forall₂ Serial.IsColonFormOf surfaced wires ∧
        (∀ s ∈ surfaced, '-' ∉ s.toList) ∧
        surfaced.map Serial.withColons = surfaced) ∧
      (call ≠ .listCertificates →
        surfaced = wires ∧
        (List.Forall₂ Serial.IsColonFormOf surfaced wires ↔ ∀ w ∈ wires, '-' ∉ w.toList)) := by
  obtain ⟨r, wires, hr, hwires, hlisting, hcertificate⟩ := exists_wireSerials h hsurfaced
  refine ⟨r, wires, hr, hwires, fun hcall => ?_, fun hcall => ?_⟩
  · obtain rfl := hlisting hcall
    have hclean : ∀ s ∈ wires.map Serial.withColons, '-' ∉ s.toList := by
      intro s hs
      obtain ⟨w, -, rfl⟩ := List.mem_map.1 hs
      exact Serial.hyphen_not_mem_withColons w
    exact ⟨Serial.forall₂_isColonFormOf_iff.2 rfl, hclean,
      Serial.map_withColons_eq_self_iff.2 hclean⟩
  · obtain rfl := hcertificate hcall
    refine ⟨rfl, ?_⟩
    rw [Serial.forall₂_isColonFormOf_iff, eq_comm, Serial.map_withColons_eq_self_iff]

/-- A listing of two serial numbers with hyphens. -/
def hyphenatedListing : Http.Response :=
  ⟨200, Text.Utf8.encode "\x7b\"data\":\x7b\"keys\":[\"1A-2B-3C\",\"4d\"]\x7d\x7d", true⟩

theorem listCertificates_of_hyphens :
    (listCertificates.perform Client.standard (fun _ => .answered hyphenatedListing) "pki"
        (.ok "s.token")).result = .ok ["1A:2B:3C", "4d"] ∧
      listCertificates.wireSerials? hyphenatedListing.body = some ["1A-2B-3C", "4d"] ∧
      List.Forall₂ Serial.IsColonFormOf ["1A:2B:3C", "4d"] ["1A-2B-3C", "4d"] := by
  have hwires : listCertificates.wireSerials? hyphenatedListing.body =
      some ["1A-2B-3C", "4d"] := by cbv
  have hread : ((listCertificates.operation "pki").exit.read hyphenatedListing).result =
      .ok ["1A:2B:3C", "4d"] := by cbv
  have hreceives : listCertificates.Receives Client.standard
      (fun _ => .answered hyphenatedListing) "pki" (.ok "s.token") hyphenatedListing :=
    receives_of_canAsk (Client.standard_canAsk (by decide)) fun _ => rfl
  have hresult := (perform_result_of_receives hreceives).trans hread
  obtain ⟨r, wires, hr, hsent, hlisting, -⟩ := surfaced_serials hresult rfl
  obtain rfl := hreceives.unique hr
  obtain rfl := Option.some.inj (hwires.symm.trans hsent)
  exact ⟨hresult, hwires, (hlisting rfl).1⟩

/-- An answer with a certificate whose serial number has a hyphen. -/
def hyphenatedCertificate : Http.Response :=
  ⟨200, Text.Utf8.encode "\x7b\"data\":\x7b\"serial_number\":\"1a-2b\"\x7d\x7d", true⟩

/-- The hyphen of an issued certificate's serial number stays. -/
theorem issue_keeps_hyphen :
    ((issue "web" {}).perform Client.standard (fun _ => .answered hyphenatedCertificate) "pki"
        (.ok "s.token")).result = .ok ⟨"1a-2b", "", "", [], none, none⟩ ∧
      (issue "web" {}).wireSerials? hyphenatedCertificate.body = some ["1a-2b"] ∧
      ¬Serial.IsColonFormOf "1a-2b" "1a-2b" ∧ Serial.IsColonFormOf "1a:2b" "1a-2b" := by
  have hread : (((issue "web" {}).operation "pki").exit.read hyphenatedCertificate).result =
      .ok ⟨"1a-2b", "", "", [], none, none⟩ := by cbv
  have hreceives : (issue "web" {}).Receives Client.standard
      (fun _ => .answered hyphenatedCertificate) "pki" (.ok "s.token") hyphenatedCertificate :=
    receives_of_canAsk (Client.standard_canAsk (by decide)) fun _ => rfl
  refine ⟨(perform_result_of_receives hreceives).trans hread, by cbv, ?_, ?_⟩
  · rw [Serial.isColonFormOf_iff]
    decide
  · rw [Serial.isColonFormOf_iff]
    decide

end Call

end VaultPki
