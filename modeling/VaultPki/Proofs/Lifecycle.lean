import VaultPki.Engine.Backend
import VaultPki.Proofs.Endpoint
import VaultPki.Proofs.Record.Wire
import VaultPki.Proofs.Session

/-!
# The life of an authority

On a backend that keeps authorities, reading the authority of a mount gives what the last call left
there that makes, installs or deletes one. No other call matters, on this mount or another: each
request reaches the endpoint that its call means, and all other endpoints leave the backend as it
is.
-/

namespace VaultPki

open Url.Percent (pathSet encode)
open Url.Path (IsPlain IsSettled slashed)

/-! ## Where requests arrive -/

theorem IsWord.isPlain {s : String} (h : IsWord s) : IsPlain s.toList := by
  have hnot {c : Char} (hc : Url.Path.isWordChar c = false) : c ∉ s.toList := by
    intro hmem
    rw [List.all_eq_true.1 h.2 c hmem] at hc
    cases hc
  exact {
    noPercent := hnot (by decide)
    noBackslash := hnot (by decide)
    noTab := hnot (by decide)
    noLineFeed := hnot (by decide)
    noReturn := hnot (by decide)
    noDots := by
      have hdot : '.' ∉ s.toList := hnot (by decide)
      intro part hpart
      rw [Text.Commas.splitAt_of_not_mem (hnot (by decide)), List.mem_singleton] at hpart
      subst hpart
      constructor
      · intro heq
        exact hdot (heq ▸ List.mem_cons_self)
      · intro heq
        exact hdot (heq ▸ List.mem_cons_self) }

theorem Config.pathText_address_word {c : Config} {mount path : String}
    (hweb : c.server.scheme = "http" ∨ c.server.scheme = "https")
    (hpath : c.server.path = .rooted [""]) (hmount : IsWord mount) (hplain : IsPlain path.toList) :
    (c.address (Call.mountPath mount path)).pathText.toList =
      "/v1/".toList ++ mount.toList ++ '/' :: encode pathSet path.toList := by
  have hsettled : ∀ s ∈ ["v1".toList, mount.toList], IsSettled s := by
    intro s hs
    rcases List.mem_cons.1 hs with rfl | hs
    · exact Url.Path.isSettled_of_word (by decide)
    · rw [List.mem_singleton.1 hs]
      exact hmount.isSettled
  have hbase : trimEndSlashes c.server.pathText = [] := by
    rw [Url.pathText, hpath]
    decide
  have htext : trimEndSlashes c.server.pathText ++ '/' :: apiSegment.toList ++ '/' ::
      (Call.mountPath mount path).toList.dropWhile (· == '/') =
        slashed ["v1".toList, mount.toList] ++ '/' :: path.toList := by
    have hdrop : (Call.mountPath mount path).toList.dropWhile (· == '/') =
        mount.toList ++ '/' :: path.toList := by
      rw [Call.mountPath, hmount.trimMount, ← hmount.dropWhile_slash_append]
      simp
    rw [hdrop, hbase]
    simp [apiSegment, slashed]
  rw [address, htext, Url.pathText_withPath_plain hweb hpath hsettled hplain]
  simp [slashed]

namespace Backend

variable {b : Backend} {c : Client} {q : Http.Request} {mount endpoint path : String}

theorem pathOf_append {target : String} {cs rest : List Char}
    (h : target.toList = cs ++ rest) (hcs : '?' ∉ cs)
    (hrest : rest = [] ∨ ∃ query, rest = '?' :: query) : pathOf target = cs := by
  have hall : ∀ c ∈ cs, (c != '?') = true := by
    intro c hc
    rw [bne_iff_ne]
    rintro rfl
    exact hcs hc
  rw [pathOf, h, List.takeWhile_append_of_pos hall]
  rcases hrest with rfl | ⟨query, rfl⟩
  · exact List.append_nil cs
  · rw [List.takeWhile_cons_of_neg (by decide), List.append_nil]

theorem place?_word (hmount : IsWord mount) (cs : List Char) :
    place? ("/v1/".toList ++ mount.toList ++ '/' :: cs) = some (mount, String.ofList cs) := by
  have hall : ∀ c ∈ mount.toList, (c != '/') = true := by
    intro c hc
    rw [bne_iff_ne]
    rintro rfl
    exact hmount.isSettled.noSlash hc
  have hapi : "/v1/".toList ++ mount.toList ++ '/' :: cs =
      '/' :: 'v' :: '1' :: '/' :: (mount.toList ++ '/' :: cs) := by simp
  rw [hapi, place?, List.dropWhile_append_of_pos hall, List.takeWhile_append_of_pos hall]
  simp

/-- A request for a plain path at a mount arrives there. -/
theorem handle_request {verb : Verb} {token : String} {body : Option Json} (hweb : c.IsOnWeb)
    (hpath : c.config.server.path = .rooted [""]) (hmount : IsWord mount)
    (hplain : IsPlain path.toList)
    (hq : c.request verb (c.config.address (Call.mountPath mount path)) token body = .ok q) :
    b.handle q = b.handleAt q mount (String.ofList (encode pathSet path.toList)) := by
  obtain ⟨headers, rfl⟩ := Client.exists_headers_of_request hq
  obtain ⟨rest, htarget, hrest⟩ := Client.exists_target_destination verb
    (c.config.address (Call.mountPath mount path))
  rw [Config.pathText_address_word hweb hpath hmount hplain] at htarget
  have hquestion : '?' ∉ "/v1/".toList ++ mount.toList ++ '/' :: encode pathSet path.toList := by
    have hword : '?' ∉ mount.toList := by
      intro h
      exact absurd (List.all_eq_true.1 hmount.2 '?' h) (by decide)
    simp [hword, Call.question_not_mem_encode]
  rw [handle, pathOf_append htarget hquestion hrest, place?_word hmount]

/-! ## What requests leave -/

/-- The endpoints where a request can change the authority of a mount. -/
def changing : List String :=
  ["root/generate/internal", "root/generate/exported", "root", "intermediate/set-signed"]

theorem handleAt_snd_of_not_mem (h : endpoint ∉ changing) : (b.handleAt q mount endpoint).2 = b := by
  simp only [changing, List.mem_cons, List.not_mem_nil, or_false, not_or] at h
  obtain ⟨hinternal, hexported, hroot, hinstall⟩ := h
  unfold handleAt
  split
  · rfl
  · rfl
  · exact absurd rfl hinternal
  · exact absurd rfl hexported
  · exact absurd rfl hroot
  · rfl
  · rfl
  · split <;> rfl
  · exact absurd rfl hinstall
  · rfl

theorem handleAt_root {exported : Bool} (h : q.method = .post) :
    (b.handleAt q mount (FixedEndpoint.generateRoot exported).path).2 =
      b.leave mount (some rootPem) := by
  have hinternal : (FixedEndpoint.generateRoot false).path = "root/generate/internal" := by decide
  have hexported : (FixedEndpoint.generateRoot true).path = "root/generate/exported" := by decide
  cases exported with
  | false => simp only [hinternal, handleAt, h]
  | true => simp only [hexported, handleAt, h]

/-- No name behind an endpoint makes one of these of it. -/
theorem not_mem_changing_of_front {front name : List Char}
    (hfront : ∀ e ∈ changing, ¬front <+: e.toList) (hkept : encode pathSet front = front) :
    String.ofList (encode pathSet (front ++ name)) ∉ changing := by
  intro h
  apply hfront _ h
  rw [String.toList_ofList, encode, List.flatMap_append]
  exact ⟨_, congrArg (· ++ _) hkept.symm⟩

end Backend

namespace Call

/-- What a call leaves as the authority of its mount, if it changes that at all. -/
def leaves? : Call → Option (Option String)
  | generateRoot _ => some (some Backend.rootPem)
  | deleteRoot => some none
  | installIntermediate pem => some (some pem)
  | _ => none

end Call

/-- The backend after a call on a mount. -/
def Backend.afterCall (b : Backend) (mount : String) (call : Call) : Backend :=
  match call.leaves? with
  | some pem => b.leave mount pem
  | none => b

namespace FixedEndpoint

theorem encode_path : ∀ e : FixedEndpoint, encode pathSet e.path.toList = e.path.toList := by
  decide

private theorem path_mem_changing : ∀ e : FixedEndpoint, e.path ∈ Backend.changing →
    e ∈ [generateRoot true, generateRoot false, deleteRoot, installIntermediate] := by
  decide

end FixedEndpoint

private theorem NamedEndpoint.front_not_prefix_changing (e : NamedEndpoint) :
    (∀ path ∈ Backend.changing, ¬e.front.toList <+: path.toList) ∧
      encode pathSet e.front.toList = e.front.toList := by
  cases e <;> decide

namespace Call

variable {call : Call}

/-- Whether the request for a path arrives at an endpoint that changes nothing. -/
def IsQuiet (path : String) : Prop :=
  ∃ mount endpoint, path = mountPath mount endpoint ∧ IsWord mount ∧ IsPlain endpoint.toList ∧
    String.ofList (encode pathSet endpoint.toList) ∉ Backend.changing

/-- Mounts are enabled and disabled below a mount of the system. -/
theorem isQuiet_systemPath {mount : String} (h : IsWord mount) : IsQuiet (systemPath mount) := by
  have hsystem : IsWord "sys" := by
    unfold IsWord
    decide
  have hpath : ("mounts/" ++ mount).toList = "mounts".toList ++ '/' :: mount.toList := by
    rw [String.toList_append]
    rfl
  refine ⟨"sys", "mounts/" ++ mount, ?_, hsystem, ?_, ?_⟩
  · rw [systemPath, mountPath, h.trimMount, hsystem.trimMount, ← String.append_assoc]
    rfl
  · rw [hpath]
    exact IsPlain.append_slash (by decide) h.isPlain
  · rw [String.toList_append]
    exact Backend.not_mem_changing_of_front (by decide) (by decide)

theorem isQuiet_of_leaves_nothing {mount : String} (hmount : IsWord mount)
    (hname : call.HasPlainName) (h : call.leaves? = none) :
    IsQuiet (call.operation mount).path := by
  cases he : call.endpoint? with
  | some e =>
    have hplain := isPlain_path_of_endpoint he hname
    refine ⟨mount, e.path, (operation_of_endpoint mount he).2, hmount, hplain, ?_⟩
    cases e with
    | named n name =>
      obtain ⟨hfront, hkept⟩ := n.front_not_prefix_changing
      rw [Endpoint.path, String.toList_append]
      exact Backend.not_mem_changing_of_front hfront hkept
    | fixed f =>
      intro hmem
      rw [Endpoint.path, f.encode_path, String.ofList_toList] at hmem
      have hf := f.path_mem_changing hmem
      cases call <;> cases he <;> first
        | exact absurd hf (by decide)
        | (cases h; done)
        | simp at hf
  | none =>
    cases call with
    | isEnabled =>
      refine ⟨mount, "config/urls", rfl, hmount, by decide, ?_⟩
      decide
    | enable description leases =>
      exact isQuiet_systemPath hmount
    | disable => exact isQuiet_systemPath hmount
    | _ => cases he

end Call

namespace Backend

variable {b : Backend} {c : Client} {q : Http.Request} {mount token : String} {call : Call}

theorem handle_fixed {f : FixedEndpoint} (hweb : c.IsOnWeb)
    (hpath : c.config.server.path = .rooted [""]) (hmount : IsWord mount)
    (he : call.endpoint? = some (.fixed f))
    (hq : (call.operation mount).request c token = .ok q) :
    b.handle q = b.handleAt q mount f.path := by
  rw [Operation.request, (Call.operation_of_endpoint mount he).2] at hq
  have hplain : IsPlain f.path.toList := Call.isPlain_path_of_endpoint he (by
    intro endpoint name hname
    cases call <;> cases he <;> cases hname)
  rw [handle_request hweb hpath hmount hplain hq, f.encode_path, String.ofList_toList]

/-- A call leaves the backend as it says. -/
theorem handle_snd_of_call (hweb : c.IsOnWeb) (hpath : c.config.server.path = .rooted [""])
    (hmount : IsWord mount) (hname : call.HasPlainName)
    (hq : (call.operation mount).request c token = .ok q) :
    (b.handle q).2 = b.afterCall mount call := by
  cases hleaves : call.leaves? with
  | none =>
    obtain ⟨m, path, hplace, hm, hplain, hquiet⟩ :=
      Call.isQuiet_of_leaves_nothing hmount hname hleaves
    rw [Operation.request, hplace] at hq
    rw [handle_request hweb hpath hm hplain hq, handleAt_snd_of_not_mem hquiet, afterCall, hleaves]
  | some pem =>
    cases call with
    | generateRoot o =>
      have hmethod : q.method = .post := by
        obtain ⟨headers, rfl⟩ := Client.exists_headers_of_request hq
        rfl
      rw [handle_fixed hweb hpath hmount rfl hq, handleAt_root hmethod]
      rfl
    | deleteRoot =>
      rw [handle_fixed hweb hpath hmount rfl hq]
      obtain ⟨headers, rfl⟩ := Client.exists_headers_of_request hq
      rfl
    | installIntermediate pem =>
      rw [handle_fixed hweb hpath hmount rfl hq]
      obtain ⟨headers, rfl⟩ := Client.exists_headers_of_request hq
      rfl
    | _ => cases hleaves

/-! ## Reading an authority -/

theorem hasIntegers_granted {data : List (String × Json)} (h : ∀ m ∈ data, m.2.HasIntegers) :
    (envelope (.object data)).HasIntegers := by
  apply Json.HasIntegers.object
  intro m hm
  simp only [List.mem_cons, List.not_mem_nil, or_false] at hm
  rcases hm with rfl | rfl | rfl | rfl | rfl | rfl | rfl
  · exact .object h
  · exact .null
  · exact .integer ⟨by decide, by decide⟩
  · exact .text _
  · exact .bool false
  · exact .text _
  · exact .null

theorem granted_not_blank (data : List (String × Json)) :
    (granted data).body.all Text.Ascii.isBlankByte = false := by
  have hbytes : (granted data).body = Json.bytes (Json.write (envelope (.object data))) := by
    rw [granted, answer, Text.Utf8.encode, Json.compact, String.toList_ofList, Json.bytes]
  obtain ⟨bytes, hobject⟩ : ∃ bytes, Json.bytes (Json.write (envelope (.object data))) =
      123 :: bytes := by
    refine ⟨_, (List.append_nil _).symm.trans (Json.Reader.bytes_write_object _ [])⟩
  rw [hbytes, hobject]
  rfl

theorem decode_storedCertificate (pem : String) :
    (Envelope.layout StoredCertificate.layout.codec).decode (storedCertificate pem).body =
      .ok ⟨some ⟨some pem⟩, none, none⟩ := by
  have hintegers : (envelope (.object [("certificate", .text pem)])).HasIntegers := by
    apply hasIntegers_granted
    intro m hm
    rw [List.mem_singleton.1 hm]
    exact .text pem
  rw [Record.Layout.decode, storedCertificate, granted, answer,
    Record.Codec.decode_compact hintegers]
  rfl

/-- Reading an authority gives what the backend has for the mount, unless that is blank. -/
theorem readAuthority_result (hask : c.CanAsk token) (hpath : c.config.server.path = .rooted [""])
    (hmount : IsWord mount) :
    (Call.readAuthority.perform c b.network mount (.ok token)).result =
      Call.fixed mount Serial.authority ⟨b.authority? mount⟩ := by
  obtain ⟨q, hq⟩ := (Call.readAuthority.operation mount).exists_request hask
  obtain ⟨pem, hpem⟩ : ∃ pem, (b.authority? mount).getD "" = pem := ⟨_, rfl⟩
  have hanswer : b.network q = .answered (storedCertificate pem) := by
    have hplain : IsPlain "cert/ca".toList := by decide
    have hkept : encode pathSet "cert/ca".toList = "cert/ca".toList := by decide
    have hhandle := handle_request (b := b) hask.onWeb hpath hmount hplain hq
    obtain ⟨headers, rfl⟩ := Client.exists_headers_of_request hq
    rw [hkept, String.ofList_toList] at hhandle
    rw [network, hhandle, ← hpem]
    rfl
  have hread : (Exit.read (storedCertificate pem) (Call.readAuthority.operation mount).exit).result =
      Call.fixed mount Serial.authority ⟨some pem⟩ := by
    have hgives := Payload.gives_readData
      ⟨_, StoredCertificate.layout, Call.fixed mount Serial.authority⟩
      (show (storedCertificate pem).isSuccess = true from rfl)
    exact hgives.unique (.data rfl (granted_not_blank _) (decode_storedCertificate pem) rfl)
  rw [Call.perform_result_of_answered hq hanswer, hread, ← hpem]
  -- The backend answers with the empty text where it has nothing, and that is blank.
  cases b.authority? mount <;> rfl

end Backend

theorem Call.fixed_eq_ok_iff {mount serial pem : String} {stored : StoredCertificate} :
    fixed mount serial stored = .ok pem ↔
      stored.certificate = some pem ∧ Text.isBlankText pem = false := by
  rw [fixed_eq_ok_iff_present?, StoredCertificate.present?, Option.filter_eq_some_iff,
    Bool.not_eq_true']

theorem Call.fixed_of_not_ok {mount serial : String} {stored : StoredCertificate}
    (h : ∀ pem, fixed mount serial stored ≠ .ok pem) :
    fixed mount serial stored = .error (.noData ("No " ++ serial ++ " stored in " ++ mount)) := by
  simp only [ne_eq, fixed_eq_ok_iff_present?] at h
  exact fixed_eq_error_iff.2 ⟨Option.eq_none_iff_forall_ne_some.2 h, rfl⟩

/-! ## Sessions on the backend -/

namespace Backend

variable {b : Backend} {mount : String} {call : Call} {calls : List (String × Call)}

/-- The backend after calls on mounts. -/
def afterCalls (b : Backend) (calls : List (String × Call)) : Backend :=
  calls.foldl (fun b x => b.afterCall x.1 x.2) b

/-- A call reports what it does on the network of the backend, and leaves it as it says. -/
theorem after_requests {c : Client} {token : String} (hask : c.CanAsk token)
    (hpath : c.config.server.path = .rooted [""]) (hmount : IsWord mount)
    (hname : call.HasPlainName) :
    b.after (call.perform c b.network mount (.ok token)).requests = b.afterCall mount call := by
  obtain ⟨q, hq⟩ := (call.operation mount).exists_request hask
  rw [Call.perform_ok, Call.settle_requests, Operation.perform_requests b.network hq]
  exact handle_snd_of_call hask.onWeb hpath hmount hname hq

theorem authority?_afterCall (b : Backend) (mount : String) (call : Call) (m : String) :
    (b.afterCall mount call).authority? m =
      if m = mount then call.leaves?.getD (b.authority? m) else b.authority? m := by
  rw [afterCall]
  cases call.leaves? with
  | none => simp
  | some pem => simp [leave]

end Backend

/-- Whether the last call on a mount that changes its authority leaves a given one, or none. -/
def LastLeaves (mount : String) (calls : List (String × Call)) (left : Option String) : Prop :=
  ∃ before call after, calls = before ++ (mount, call) :: after ∧ call.leaves? = some left ∧
    ∀ x ∈ after, x.1 = mount → x.2.leaves? = none

theorem lastLeaves_cons_iff {mount : String} {x : String × Call} {calls : List (String × Call)}
    {left : Option String} :
    LastLeaves mount (x :: calls) left ↔
      LastLeaves mount calls left ∨ x.1 = mount ∧ x.2.leaves? = some left ∧
        ∀ y ∈ calls, y.1 = mount → y.2.leaves? = none := by
  constructor
  · rintro ⟨before, call, after, hcalls, hleaves, hquiet⟩
    cases before with
    | nil =>
      obtain ⟨rfl, rfl⟩ := List.cons.inj hcalls
      exact .inr ⟨rfl, hleaves, hquiet⟩
    | cons y before =>
      obtain ⟨rfl, rfl⟩ := List.cons.inj hcalls
      exact .inl ⟨before, call, after, rfl, hleaves, hquiet⟩
  · rintro (⟨before, call, after, rfl, hleaves, hquiet⟩ | ⟨rfl, hleaves, hquiet⟩)
    · exact ⟨x :: before, call, after, rfl, hleaves, hquiet⟩
    · exact ⟨[], x.2, calls, rfl, hleaves, hquiet⟩

/-- After calls a mount has what the last of them that changes it leaves, or what it had. -/
theorem Backend.authority?_afterCalls_iff {b : Backend} {calls : List (String × Call)}
    {mount : String} {left : Option String} :
    (b.afterCalls calls).authority? mount = left ↔
      LastLeaves mount calls left ∨
        (∀ x ∈ calls, x.1 = mount → x.2.leaves? = none) ∧ b.authority? mount = left := by
  -- The backend is general, because the calls behind the first start from what that leaves.
  induction calls generalizing b with
  | nil =>
    have hnever : ¬LastLeaves mount [] left := by
      rintro ⟨before, call, after, hnil, -, -⟩
      exact absurd hnil.symm (List.append_ne_nil_of_right_ne_nil _ (List.cons_ne_nil _ _))
    simp [afterCalls, hnever]
  | cons x calls ih =>
    show ((b.afterCall x.1 x.2).afterCalls calls).authority? mount = left ↔ _
    rw [ih, lastLeaves_cons_iff, authority?_afterCall, List.forall_mem_cons]
    by_cases hmount : x.1 = mount
    · cases hleaves : x.2.leaves? with
      | none => simp [hmount]
      | some pem => simp [hmount, eq_comm, and_comm]
    · simp [hmount, Ne.symm hmount]

namespace Session

variable {client : Client} {b : Backend} {tokens : TokenSource} {calls : List (String × Call)}

/-- In a session on a backend each call reports what it does on the backend that the calls in front
of it have left. -/
theorem runOn_getElem? (hpath : client.config.server.path = .rooted [""])
    (htokens : ∀ n < calls.length, ∃ token, tokens.answer n = .ok token ∧ client.CanAsk token)
    (hmounts : ∀ x ∈ calls, IsWord x.1) (hnames : ∀ x ∈ calls, x.2.HasPlainName) (i : Nat) :
    (runOn client b tokens calls)[i]? = calls[i]?.map fun x =>
      ⟨.call x.1 x.2,
        x.2.perform client (b.afterCalls (calls.take i)).network x.1 (tokens.answer i)⟩ := by
  induction calls generalizing b tokens i with
  | nil => rfl
  | cons x calls ih =>
    obtain ⟨mount, call⟩ := x
    have hentry : runOn client b tokens ((mount, call) :: calls) =
        ⟨.call mount call, call.perform client b.network mount (tokens.answer 0)⟩ ::
          runOn client
            (b.after (call.perform client b.network mount (tokens.answer 0)).requests)
            tokens.next.2 calls := by
      rw [← tokens.next_fst]
      rfl
    obtain ⟨token, htoken, hask⟩ := htokens 0 (Nat.succ_pos _)
    have hleft := Backend.after_requests (b := b) hask hpath (hmounts _ List.mem_cons_self)
      (hnames _ List.mem_cons_self)
    rw [hentry, htoken, hleft]
    cases i with
    | zero =>
      rw [htoken]
      rfl
    | succ i =>
      have hrest : ∀ n < calls.length, ∃ token, tokens.next.2.answer n = .ok token ∧
          client.CanAsk token := by
        intro n hn
        rw [tokens.answer_next_snd]
        exact htokens (n + 1) (Nat.succ_lt_succ hn)
      rw [List.getElem?_cons_succ, ih hrest (fun x hx => hmounts x (List.mem_cons_of_mem _ hx))
        (fun x hx => hnames x (List.mem_cons_of_mem _ hx)), tokens.answer_next_snd]
      rfl

/-- Reading the authority of a mount gives a certificate exactly if it is not blank and the last
call on that mount before which makes, installs or deletes an authority has left it there. In all
other cases reading says that there is none, whether there was one before or not. -/
theorem readAuthority_on_backend (client : Client) (tokens : TokenSource)
    (calls : List (String × Call)) (hpath : client.config.server.path = .rooted [""])
    (htokens : ∀ n < calls.length, ∃ token, tokens.answer n = .ok token ∧ client.CanAsk token)
    (hmounts : ∀ x ∈ calls, IsWord x.1) (hnames : ∀ x ∈ calls, x.2.HasPlainName)
    (i : Nat) (mount : String) (hread : calls[i]? = some (mount, .readAuthority)) :
    ∃ report, (runOn client .empty tokens calls)[i]? = some ⟨.call mount .readAuthority, report⟩ ∧
      (∀ pem, report.result = .ok pem ↔
        LastLeaves mount (calls.take i) (some pem) ∧ Text.isBlankText pem = false) ∧
      ((∀ pem, report.result ≠ .ok pem) →
        report.result = .error (.noData ("No ca stored in " ++ mount))) := by
  obtain ⟨hi, hcall⟩ := List.getElem?_eq_some_iff.1 hread
  obtain ⟨token, htoken, hask⟩ := htokens i hi
  have hmount : IsWord mount := hmounts (mount, .readAuthority) (hcall ▸ List.getElem_mem hi)
  refine ⟨_, by rw [runOn_getElem? hpath htokens hmounts hnames, hread]; rfl, ?_⟩
  have hresult := Backend.readAuthority_result (b := Backend.empty.afterCalls (calls.take i)) hask
    hpath hmount
  show (∀ pem, Report.result (Call.perform _ _ _ _ (tokens.answer i)) = _ ↔ _) ∧ _
  rw [htoken, hresult]
  constructor
  · intro pem
    rw [Call.fixed_eq_ok_iff, Backend.authority?_afterCalls_iff]
    simp [Backend.empty]
  · exact Call.fixed_of_not_ok

/-- A root on one mount and a blank certificate on another, in between. -/
def twoMounts : List (String × Call) := [
  ("pki", .generateRoot {}),
  ("pki-int", .deleteRoot),
  ("pki-int", .installIntermediate " "),
  ("pki", .readAuthority)]

theorem readAuthority_of_twoMounts :
    Client.standard.config.server.path = .rooted [""] ∧
      (∀ n < twoMounts.length, ∃ token,
        (TokenSource.fixed "s.token").answer n = .ok token ∧ Client.standard.CanAsk token) ∧
      (∀ x ∈ twoMounts, IsWord x.1) ∧ (∀ x ∈ twoMounts, x.2.HasPlainName) ∧
      twoMounts[3]? = some ("pki", .readAuthority) ∧
      ∃ report, (runOn Client.standard .empty (.fixed "s.token") twoMounts)[3]? =
          some ⟨.call "pki" .readAuthority, report⟩ ∧
        report.result = .ok Backend.rootPem := by
  have htokens : ∀ n < twoMounts.length, ∃ token,
      (TokenSource.fixed "s.token").answer n = .ok token ∧ Client.standard.CanAsk token :=
    fun n _ => ⟨"s.token", rfl, Client.standard_canAsk (by decide)⟩
  have hmounts : ∀ x ∈ twoMounts, IsWord x.1 := by
    unfold IsWord
    simp only [twoMounts, List.forall_mem_cons]
    decide
  have hnames : ∀ x ∈ twoMounts, x.2.HasPlainName := by
    simp only [twoMounts, List.forall_mem_cons]
    exact ⟨nofun, nofun, nofun, nofun, List.forall_mem_nil _⟩
  obtain ⟨report, hentry, hresult, -⟩ := readAuthority_on_backend Client.standard
    (.fixed "s.token") twoMounts rfl htokens hmounts hnames 3 "pki" rfl
  have hroot : LastLeaves "pki" (twoMounts.take 3) (some Backend.rootPem) := by
    refine ⟨[], .generateRoot {}, _, rfl, rfl, ?_⟩
    simp
  exact ⟨rfl, htokens, hmounts, hnames, rfl, report, hentry,
    (hresult Backend.rootPem).2 ⟨hroot, by decide⟩⟩

end Session

end VaultPki
