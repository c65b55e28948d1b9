import VaultPki.Proofs.Endpoint
import VaultPki.Proofs.Headers

/-!
# What cannot be smuggled into a request

Mounts, names, paths, tokens, the namespace and added headers are any texts. In a target whatever is
not visible ASCII is encoded, and so are the characters that would end the path; in the value of a
header there is no control but tabs, or else nothing is sent.
-/

namespace VaultPki

/-! ## Targets -/

namespace Url

open Percent (IsKept pathSet)
open VaultPki.Url.Path (IsSettled slashed)

/-- Visible ASCII characters that end no path. -/
def IsPathChar (c : Char) : Prop :=
  0x21 ≤ c.toNat ∧ c.toNat ≤ 0x7E ∧ c ≠ '#' ∧ c ≠ '?'

theorem isPathChar_of_kept {c : Char} (h : IsKept pathSet c) : IsPathChar c := by
  obtain ⟨hset, hascii⟩ := h
  simp only [pathSet, Percent.fragmentSet, Percent.isControl, Bool.or_eq_false_iff,
    decide_eq_false_iff_not, beq_eq_false_iff_ne] at hset
  obtain ⟨⟨⟨⟨⟨⟨⟨⟨⟨⟨hlow, hdelete⟩, hspace⟩, -⟩, -⟩, -⟩, -⟩, hhash⟩, hquestion⟩, -⟩, -⟩ := hset
  have hspace : c.toNat ≠ 0x20 := fun h => hspace (Char.toNat_inj.1 h)
  exact ⟨by omega, by omega, hhash, hquestion⟩

theorem isPathChar_of_mem_slashed {segments : List (List Char)}
    (h : ∀ s ∈ segments, IsSettled s) : ∀ c ∈ slashed segments, IsPathChar c := by
  intro c hc
  obtain ⟨s, hs, hmem⟩ := List.mem_flatMap.1 hc
  rcases List.mem_cons.1 hmem with rfl | hmem
  · unfold IsPathChar
    decide
  · rw [← (h s hs).isEncoded] at hmem
    exact isPathChar_of_kept (Percent.isKept_of_mem_encode hmem)

/-- Whatever path is given to an address on the web, it begins with a slash, and every character of
it is visible and goes on with it. -/
theorem exists_pathText_of_web {u : Url} (hweb : u.scheme = "http" ∨ u.scheme = "https")
    {own : List String} (hpath : u.path = .rooted own) (text : List Char) :
    ∃ path, (u.withPath text).pathText.toList = '/' :: path ∧ ∀ c ∈ path, IsPathChar c := by
  obtain ⟨segments, hne, hsettled, htext⟩ := pathText_withPath hweb hpath text
  have hchars := isPathChar_of_mem_slashed hsettled
  rw [htext]
  cases segments with
  | nil => exact absurd rfl hne
  | cons s segments =>
    rw [Path.slashed_cons] at hchars ⊢
    exact ⟨s ++ slashed segments, rfl, fun c hc => hchars c (List.mem_cons_of_mem _ hc)⟩

end Url

/-! ## Values of headers -/

/-- Whether a text holds no control but tabs. -/
def IsClean (s : String) : Prop :=
  ∀ b ∈ Text.Utf8.encode s, b = 9 ∨ 32 ≤ b ∧ b ≠ 127

theorem isValueChar_iff (c : Char) :
    Http.isValueChar c = true ↔ ∀ b ∈ String.utf8EncodeChar c, b = 9 ∨ 32 ≤ b ∧ b ≠ 127 := by
  have htab : c = '\t' ↔ c.toNat = 9 := Char.toNat_inj.symm
  have hchar : Http.isValueChar c = true ↔ c.toNat = 9 ∨ 32 ≤ c.toNat ∧ c.toNat ≠ 127 := by
    simp [Http.isValueChar, htab]
  simp only [hchar, ← UInt8.toNat_inj, UInt8.le_iff_toNat_le, UInt8.reduceToNat, ne_eq]
  by_cases hascii : c.toNat < 0x80
  · rw [Text.Utf8.utf8EncodeChar_of_ascii hascii]
    simp only [List.mem_singleton, forall_eq,
      Text.Utf8.toNat_ofNat_of_lt (show c.toNat < 256 by omega)]
  · refine ⟨fun _ b hb => ?_, fun _ => ?_⟩
    · have hle := Text.Utf8.le_of_mem_utf8EncodeChar (Nat.le_of_not_lt hascii) hb
      omega
    · omega

/-- The texts that can be values of headers are those without controls but tabs. -/
theorem isHeaderValue_iff_isClean (s : String) : Http.isHeaderValue s = true ↔ IsClean s := by
  rw [Http.isHeaderValue, List.all_eq_true, IsClean, Text.Utf8.encode]
  simp only [isValueChar_iff, List.mem_flatMap]
  constructor
  · intro h b hb
    obtain ⟨c, hc, hb⟩ := hb
    exact h c hc b hb
  · intro h c hc b hb
    exact h b ⟨c, hc, hb⟩

/-! ## Requests -/

namespace Client

variable {config : Config} {c : Client} {token path : String} {verb : Verb}
  {body : Option Json} {q : Http.Request}

theorem isClean_of_mem_defaultHeaders {added : List (String × String)} :
    ∀ h ∈ defaultHeaders added, IsClean h.2 := by
  refine forall_mem_defaultHeaders (fun h hmem => ?_) fun h _ hvalid => ?_
  · rw [← isHeaderValue_iff_isClean]
    revert h
    decide
  · rw [isHeader, Bool.and_eq_true] at hvalid
    exact (isHeaderValue_iff_isClean h.2).1 hvalid.2

theorem isClean_of_mem_ownHeaders (hask : c.CanAsk token) :
    ∀ h ∈ ownHeaders c.config token body, IsClean h.2 := by
  intro h hmem
  rw [← isHeaderValue_iff_isClean]
  rcases mem_ownHeaders hmem with rfl | ⟨s, hs, rfl⟩ | ⟨-, rfl⟩
  · exact hask.validToken
  · exact hask.validNamespace s hs
  · show Http.isHeaderValue "application/json" = true
    decide

theorem target_of_request {text : String} (hserver : Url.ofText text = .ok c.config.server)
    (hquery : c.config.server.query = none)
    (h : c.request verb (c.config.address path) token body = .ok q) :
    ∃ rest, q.target.toList = '/' :: rest ++ Call.parameters verb ∧
      ∀ ch ∈ rest, Url.IsPathChar ch := by
  have hweb := (canAsk_of_request h).onWeb
  obtain ⟨own, hpath, -⟩ := Url.exists_settled_of_ofText hserver hweb
  have haddress : ∃ rest, (c.config.address path).pathText.toList = '/' :: rest ∧
      ∀ ch ∈ rest, Url.IsPathChar ch := Url.exists_pathText_of_web hweb hpath _
  obtain ⟨rest, hrest, hchars⟩ := haddress
  obtain ⟨headers, rfl⟩ := exists_headers_of_request h
  refine ⟨rest, ?_, hchars⟩
  rw [Call.target_destination verb (by rw [query_address, hquery])]
  exact congrArg (· ++ Call.parameters verb) hrest

/-- Whatever texts a step is given, the target of what it sends begins with a slash and goes on in
visible ASCII without a number sign, and without a question mark but that of a listing; the values
of its headers hold no controls but tabs. With a token or a namespace that does, nothing is sent. -/
theorem requests_are_clean {text : String} (hserver : Url.ofText text = .ok config.server)
    (huser : config.server.username = "") (hpassword : config.server.password = none)
    (hquery : config.server.query = none) (hclient : (ofConfig config).result = .ok c)
    (step : Step) (net : Http.Network) (tokens : TokenSource) :
    (∀ q ∈ (step.perform c net tokens).1.requests,
      (∃ verb rest, step.verb? = some verb ∧
        q.target.toList = '/' :: rest ++ (if verb = .list then "?list=true".toList else []) ∧
        ∀ ch ∈ rest, Url.IsPathChar ch) ∧
      ∀ h ∈ q.headers, IsClean h.2) ∧
    ∀ token, step.token? tokens = some token →
      (¬IsClean token ∨ ∃ s, config.serverNamespace = some s ∧ ¬IsClean s) →
        (step.perform c net tokens).1.requests = [] := by
  obtain rfl := eq_of_ofConfig hclient
  refine ⟨fun q hq => ?_, fun token htoken hunclean => ?_⟩
  · obtain ⟨verb, path, token, body, hverb, -, hrequest⟩ := Step.exists_request_of_mem hq
    obtain ⟨rest, htarget, hrest⟩ := target_of_request hserver hquery hrequest
    obtain ⟨-, hheaders⟩ := headers_of_request huser hpassword hrequest
    have hparameters : Call.parameters verb =
        if verb = .list then "?list=true".toList else [] := by cases verb <;> rfl
    refine ⟨⟨verb, rest, hverb, by rw [htarget, hparameters], hrest⟩, fun h hmem => ?_⟩
    rw [hheaders] at hmem
    rcases Http.Headers.mem_withDefaults hmem with hmem | hmem
    · exact isClean_of_mem_ownHeaders (canAsk_of_request hrequest) h hmem
    · exact isClean_of_mem_defaultHeaders h hmem
  · rw [List.eq_nil_iff_forall_not_mem]
    intro q hq
    obtain ⟨verb, path, token', body, -, htoken', hrequest⟩ := Step.exists_request_of_mem hq
    cases htoken.symm.trans htoken'
    have hask := canAsk_of_request hrequest
    rcases hunclean with hunclean | ⟨s, hs, hunclean⟩
    · exact hunclean ((isHeaderValue_iff_isClean token).1 hask.validToken)
    · exact hunclean ((isHeaderValue_iff_isClean s).1 (hask.validNamespace s hs))

/-- A role name that looks like the rest of a request, and a token with a line break. -/
theorem readRole_of_request_text :
    Url.ofText "http://[::1]:8200/vault/" = .ok Call.loopback.config.server ∧
      Call.loopback.config.server.username = "" ∧ Call.loopback.config.server.password = none ∧
      Call.loopback.config.server.query = none ∧
      (ofConfig Call.loopback.config).result = .ok Call.loopback ∧
      (∃ q rest, ((Step.call "pki" (.readRole "web HTTP/1.1\r\nHost: x?#")).perform Call.loopback
          (fun _ => .closed) (.fixed "s.token")).1.requests = [q] ∧
        q.target.toList = '/' :: rest ∧ ∀ ch ∈ rest, Url.IsPathChar ch) ∧
      ((Step.call "pki" (.readRole "web")).perform Call.loopback (fun _ => .closed)
        (.fixed "s.token\r\nx: y")).1.requests = [] := by
  have hclient : (ofConfig Call.loopback.config).result = .ok Call.loopback := rfl
  have hclean := requests_are_clean Call.ofText_loopback rfl rfl rfl hclient
  refine ⟨Call.ofText_loopback, rfl, rfl, rfl, hclient, ?_, ?_⟩
  · obtain ⟨q, hq⟩ := Call.exists_request_of_closed (.readRole "web HTTP/1.1\r\nHost: x?#") "pki"
    obtain ⟨⟨verb, rest, hverb, htarget, hrest⟩, -⟩ := (hclean
      (.call "pki" (.readRole "web HTTP/1.1\r\nHost: x?#")) (fun _ => .closed)
      (.fixed "s.token")).1 q (hq ▸ List.mem_singleton_self q)
    have hverb : verb = .read := (Option.some.inj hverb).symm
    rw [hverb, if_neg (by decide), List.append_nil] at htarget
    exact ⟨q, rest, hq, htarget, hrest⟩
  · refine (hclean _ _ _).2 "s.token\r\nx: y" rfl (.inl ?_)
    rw [← isHeaderValue_iff_isClean]
    decide

end Client

end VaultPki
