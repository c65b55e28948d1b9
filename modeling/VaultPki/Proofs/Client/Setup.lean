import VaultPki.Proofs.Client.Config
import VaultPki.Proofs.CommandLine.Connection
import VaultPki.Proofs.Containment

/-!
# Setting up a client

The environment of a process and a command line say the same about a configuration: the server, and
perhaps a namespace, a file of certificates and that anyone is trusted. That comes last and so wins
over the file, which is read nevertheless.
-/

namespace VaultPki

open Config Config.Directive

namespace Config

/-- What is said about a client that is set up with an address, a namespace, the certificates of a
file and a switch to trust anyone. -/
def setup (address : String) (serverNamespace : Option String) (bundle : Option (List UInt8))
    (insecure : Bool) : List Directive :=
  .serverText address :: serverNamespace.toList.map .serverNamespace ++
    bundle.toList.map (fun bytes => .trustBundles [bytes]) ++
    if insecure then [.trustAnyone] else []

variable {address : String} {u : Url}

theorem mapM_setup (hu : Url.ofText address = .ok u) (serverNamespace : Option String)
    (bundle : Option (List UInt8)) (insecure : Bool) :
    (setup address serverNamespace bundle insecure).mapM Directive.setting =
      .ok (.server u :: serverNamespace.toList.map Setting.serverNamespace ++
        bundle.toList.map (fun bytes => .trust (.bundles [bytes])) ++
        if insecure then [.trust .anyone] else []) := by
  have hserver : (Directive.serverText address).setting = .ok (.server u) := by
    rw [Directive.setting, Setting.serverText, hu]
  rw [setup, List.cons_append, List.cons_append, List.mapM_cons, hserver]
  cases serverNamespace <;> cases bundle <;> cases insecure <;> rfl

theorem ofDirectives_setup (hu : Url.ofText address = .ok u) (serverNamespace : Option String)
    (bundle : Option (List UInt8)) (insecure : Bool) :
    ofDirectives (setup address serverNamespace bundle insecure) = .ok {
      server := u
      serverNamespace
      identity := none
      trust :=
        if insecure then .anyone
        else (bundle.map fun bytes => Trust.bundles [bytes]).getD .publicRoots
      timeout := .ofSeconds 30
      headers := [] } := by
  rw [ofDirectives, mapM_setup hu]
  cases serverNamespace <;> cases bundle <;> cases insecure <;> rfl

end Config

namespace Environment

variable {env : Environment} {address : String} {u : Url}

/-- Whether verification is switched off by a variable. -/
def SkipsVerification (env : Environment) : Prop :=
  ∃ s, env.value? "VAULT_SKIP_VERIFY" = some s ∧
    (Text.Ascii.lower s = "1" ∨ Text.Ascii.lower s = "true" ∨ Text.Ascii.lower s = "yes")

theorem any_isSwitchedOn_iff :
    (env.value? "VAULT_SKIP_VERIFY").any isSwitchedOn = true ↔ env.SkipsVerification := by
  rw [SkipsVerification]
  cases env.value? "VAULT_SKIP_VERIFY" with
  | none => simp
  | some s => simp [isSwitchedOn, or_assoc]

theorem config_of_unreadable {path : String} (haddress : env.value? "VAULT_ADDR" = some address)
    (hu : Url.ofText address = .ok u) (hpath : env.value? "VAULT_CACERT" = some path)
    (hfile : env.file? path = none) : env.config = .error (.file .notFound) := by
  simp only [config, settings, haddress, Setting.serverText, hu, hpath, trustFile, read, hfile]
  rfl

theorem config_eq {bundle : Option (List UInt8)} {insecure : Bool}
    (haddress : env.value? "VAULT_ADDR" = some address) (hu : Url.ofText address = .ok u)
    (hbundle : (env.value? "VAULT_CACERT").map env.file? = bundle.map some)
    (hinsecure : insecure = true ↔ env.SkipsVerification) :
    env.config =
      ofDirectives (setup address (env.value? "VAULT_NAMESPACE") bundle insecure) := by
  have hswitch : (env.value? "VAULT_SKIP_VERIFY").any isSwitchedOn = insecure := by
    rw [Bool.eq_iff_iff, any_isSwitchedOn_iff, hinsecure]
  rw [ofDirectives, mapM_setup hu]
  unfold config settings
  rw [haddress]
  cases hpath : env.value? "VAULT_CACERT" with
  | none =>
    rw [hpath] at hbundle
    cases bundle with
    | none =>
      simp only [Setting.serverText, hu, hswitch]
      rfl
    | some bytes => cases hbundle
  | some path =>
    rw [hpath] at hbundle
    cases bundle with
    | none => cases hbundle
    | some bytes =>
      have hfile : env.file? path = some bytes := Option.some.inj hbundle
      simp only [Setting.serverText, hu, hswitch, trustFile, read, hfile]
      rfl

end Environment

namespace CommandLine

variable {env : Environment} {inv : Invocation} {address token : String} {u : Url}

theorem connect_of_unreadable {path : String} (haddress : inv.address = some address)
    (htoken : inv.token = some token) (hu : Url.ofText address = .ok u)
    (hpath : inv.authorityFile = some path) (hfile : env.file? path = none) :
    connect env inv = .error (.file .notFound) := by
  apply connect_of_settings_error haddress htoken
  simp only [settings, hu, hpath, Environment.trustFile, Environment.read, hfile]
  rfl

theorem connect_eq {bundle : Option (List UInt8)} (haddress : inv.address = some address)
    (htoken : inv.token = some token) (hu : Url.ofText address = .ok u)
    (hbundle : inv.authorityFile.map env.file? = bundle.map some) :
    ∃ c, ofDirectives (setup address inv.serverNamespace bundle inv.insecure) = .ok c ∧
      connect env inv = .ok (Client.ofConfig c, token) := by
  refine ⟨_, ofDirectives_setup hu _ _ _, ?_⟩
  cases hpath : inv.authorityFile with
  | none =>
    rw [hpath] at hbundle
    cases bundle with
    | none =>
      refine connect_of_settings _ haddress htoken (settings_of_no_file hu hpath) ?_
      cases inv.insecure <;> rfl
    | some bytes => cases hbundle
  | some path =>
    rw [hpath] at hbundle
    cases bundle with
    | none => cases hbundle
    | some bytes =>
      have hfile : env.file? path = some bytes := Option.some.inj hbundle
      refine connect_of_settings _ haddress htoken (settings_of_file hu hpath hfile) ?_
      cases inv.insecure <;> rfl

end CommandLine

/-- Of what is said about a part of a configuration the last counts, and all headers are kept in
order. Only a server must be named, and exchanging neighbours that are about different parts changes
nothing. The environment and the command line say such a sequence, at whose end a switch to trust
anyone takes the place of a file of certificates; that file must be readable nevertheless. -/
theorem Config.last_word_counts :
    (∀ ds, AreReadable ds →
      (ofDirectives ds = .error (.config "server_url is required") ↔
        ∀ x ∈ ds, x.part ≠ .server) ∧
      ((∃ x ∈ ds, x.part = .server) → ∃ c, ofDirectives ds = .ok c ∧
        lastOf server? ds = some c.server ∧
        c.serverNamespace = lastOf serverNamespace? ds ∧
        c.identity = lastOf identity? ds ∧
        c.trust = (lastOf trust? ds).getD .publicRoots ∧
        c.timeout = (lastOf timeout? ds).getD (.ofSeconds 30) ∧
        c.headers = ds.filterMap header?) ∧
      ∀ ds', Rearranged ds ds' → ofDirectives ds' = ofDirectives ds) ∧
    (∀ (env : Environment) (address : String) (u : Url), env.value? "VAULT_ADDR" = some address →
      Url.ofText address = .ok u →
      (∀ path, env.value? "VAULT_CACERT" = some path → env.file? path = none →
        env.config = .error (.file .notFound)) ∧
      ∀ (bundle : Option (List UInt8)) (insecure : Bool),
        (env.value? "VAULT_CACERT").map env.file? = bundle.map some →
        (insecure = true ↔ env.SkipsVerification) →
        env.config = ofDirectives (setup address (env.value? "VAULT_NAMESPACE") bundle insecure)) ∧
    (∀ (env : Environment) (inv : Invocation) (address token : String) (u : Url),
      inv.address = some address → inv.token = some token → Url.ofText address = .ok u →
      (∀ path, inv.authorityFile = some path → env.file? path = none →
        CommandLine.connect env inv = .error (.file .notFound)) ∧
      ∀ bundle, inv.authorityFile.map env.file? = bundle.map some →
        ∃ c, ofDirectives (setup address inv.serverNamespace bundle inv.insecure) = .ok c ∧
          CommandLine.connect env inv = .ok (Client.ofConfig c, token)) ∧
    ∀ (address : String) (u : Url) (serverNamespace : Option String)
      (bundle : Option (List UInt8)) (insecure : Bool), Url.ofText address = .ok u →
      ∃ c, ofDirectives (setup address serverNamespace bundle insecure) = .ok c ∧
        c.server = u ∧ c.serverNamespace = serverNamespace ∧
        c.trust =
          if insecure then .anyone
          else (bundle.map fun bytes => Trust.bundles [bytes]).getD .publicRoots := by
  refine ⟨fun ds hds => ⟨?_, fun hserver => ?_, fun ds' h => h.ofDirectives_eq hds⟩, ?_, ?_, ?_⟩
  · rw [ofDirectives_eq hds, ← lastOf_server_eq_none_iff hds]
    cases lastOf server? ds <;> simp
  · cases hlast : lastOf server? ds with
    | none =>
      obtain ⟨x, hx, hpart⟩ := hserver
      exact absurd hpart ((lastOf_server_eq_none_iff hds).1 hlast x hx)
    | some server =>
      refine ⟨_, by rw [ofDirectives_eq hds, hlast], rfl, rfl, rfl, rfl, rfl, rfl⟩
  · intro env address u haddress hu
    exact ⟨fun path => Environment.config_of_unreadable haddress hu,
      fun bundle insecure => Environment.config_eq haddress hu⟩
  · intro env inv address token u haddress htoken hu
    exact ⟨fun path => CommandLine.connect_of_unreadable haddress htoken hu,
      fun bundle => CommandLine.connect_eq haddress htoken hu⟩
  · intro address u serverNamespace bundle insecure hu
    exact ⟨_, ofDirectives_setup hu _ _ _, rfl, rfl, rfl⟩

/-- What is said twice about trust, with a header that is repeated. -/
def wordyDirectives : List Directive :=
  [.trustBundles [], .serverText "http://[::1]:8200/vault/", .header "a" "1", .trustAnyone,
    .header "a" "1"]

/-- An environment in which a file is named that is overruled by a switch. -/
def overruledFile : Environment where
  value? name :=
    [("VAULT_ADDR", "http://[::1]:8200/vault/"), ("VAULT_CACERT", "ca.pem"),
      ("VAULT_SKIP_VERIFY", "YES")].lookup name
  file? path := if path = "ca.pem" then some [1, 2] else none

/-- A command line on which a file is named that is not there. -/
def missingFile : Invocation where
  address := some "http://[::1]:8200/vault/"
  token := some "s.token"
  mount := "pki"
  serverNamespace := none
  authorityFile := some "other.pem"
  insecure := true
  quiet := false
  command := .tidy false true none

theorem Config.last_word_of_overruledFile :
    (AreReadable wordyDirectives ∧ ∃ c, ofDirectives wordyDirectives = .ok c ∧
      c.trust = .anyone ∧ c.headers = [("a", "1"), ("a", "1")]) ∧
    (overruledFile.SkipsVerification ∧ ∃ c, overruledFile.config = .ok c ∧ c.trust = .anyone) ∧
    CommandLine.connect overruledFile missingFile = .error (.file .notFound) := by
  obtain ⟨hdirectives, henv, hinvocation, hsetup⟩ := last_word_counts
  have hu := Call.ofText_loopback
  have hskips : overruledFile.SkipsVerification := ⟨"YES", rfl, .inr (.inr (by decide))⟩
  refine ⟨?_, ⟨hskips, ?_⟩, ?_⟩
  · have hreadable : AreReadable wordyDirectives := by
      intro s hs
      simp only [wordyDirectives, List.mem_cons, reduceCtorEq, List.not_mem_nil, or_false,
        false_or, serverText.injEq] at hs
      exact ⟨_, hs ▸ hu⟩
    obtain ⟨c, hc, -, -, -, htrust, -, hheaders⟩ := (hdirectives _ hreadable).2.1
      ⟨.serverText "http://[::1]:8200/vault/", by simp [wordyDirectives], rfl⟩
    exact ⟨hreadable, c, hc, htrust, hheaders⟩
  · have hconfig := (henv overruledFile _ _ rfl hu).2 (some [1, 2]) true rfl
      (iff_of_true rfl hskips)
    obtain ⟨c, hc, -, -, htrust⟩ := hsetup _ _ none (some [1, 2]) true hu
    exact ⟨c, hconfig.trans hc, htrust⟩
  · exact (hinvocation overruledFile missingFile _ _ _ rfl rfl hu).1 "other.pem" rfl rfl

end VaultPki
