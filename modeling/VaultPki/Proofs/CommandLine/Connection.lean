import VaultPki.CommandLine.Execution
import VaultPki.Proofs.Attempt

/-!
# The client of a command line

Before a command is looked at, a client is made from the switches that all commands have. Either
something is missing or wrong, and then nothing is sent, or the client asks the server at the given
address, in the given namespace, and believes whom it is told to believe.
-/

namespace VaultPki

open CommandLine

namespace Invocation

/-- Whom the client of an invocation believes. -/
inductive Trusts (env : Environment) (inv : Invocation) : Trust → Prop
  | publicRoots (hi : inv.insecure = false) (hf : inv.authorityFile = none) :
    Trusts env inv .publicRoots
  | bundle {path : String} {bytes : List UInt8} (hi : inv.insecure = false)
      (hf : inv.authorityFile = some path) (hb : env.file? path = some bytes)
      (hc : Pem.certificates bytes ≠ []) : Trusts env inv (.bundles [bytes])
  | anyone (hi : inv.insecure = true)
      (hf : ∀ path, inv.authorityFile = some path → ∃ bytes, env.file? path = some bytes) :
    Trusts env inv .anyone

/-- The client of an invocation for a server. -/
def client (inv : Invocation) (server : Url) (trust : Trust) : Client where
  config := {
    server
    serverNamespace := inv.serverNamespace
    identity := none
    trust
    timeout := Config.defaultTimeout
    headers := [] }
  defaults := Client.builtInHeaders

/-- Whether an invocation has everything that is needed to ask a server. -/
inductive Connects (env : Environment) (inv : Invocation) : Client → String → Prop
  | intro {address token : String} {server : Url} {trust : Trust}
      (ha : inv.address = some address) (hu : Url.ofText address = .ok server)
      (ht : inv.token = some token) (htrust : inv.Trusts env trust) :
    Connects env inv (inv.client server trust) token

/-- Why an invocation has no client. -/
inductive LacksClient (env : Environment) (inv : Invocation) : Prop
  | noAddress (h : inv.address = none)
  | noToken (h : inv.token = none)
  | badAddress {address : String} {problem : Url.Problem} (ha : inv.address = some address)
      (hu : Url.ofText address = .error problem)
  | unreadableFile {path : String} (hf : inv.authorityFile = some path)
      (hb : env.file? path = none)
  | noCertificate {path : String} {bytes : List UInt8} (hi : inv.insecure = false)
      (hf : inv.authorityFile = some path) (hb : env.file? path = some bytes)
      (hc : Pem.certificates bytes = [])

variable {env : Environment} {inv : Invocation}

/-- An invocation that lacks something never has a client. -/
theorem not_connects_of_lacksClient (h : inv.LacksClient env) {c : Client} {token : String} :
    ¬inv.Connects env c token := by
  rintro ⟨ha, hu, ht, htrust⟩
  cases h with
  | noAddress h => cases ha.symm.trans h
  | noToken h => cases ht.symm.trans h
  | badAddress ha' hu' =>
    cases ha.symm.trans ha'
    cases hu.symm.trans hu'
  | unreadableFile hf hb =>
    cases htrust with
    | publicRoots _ hf' => cases hf.symm.trans hf'
    | bundle _ hf' hb' _ =>
      cases hf.symm.trans hf'
      cases hb.symm.trans hb'
    | anyone _ hfile =>
      obtain ⟨bytes, hb'⟩ := hfile _ hf
      cases hb.symm.trans hb'
  | noCertificate hi hf hb hc =>
    cases htrust with
    | publicRoots _ hf' => cases hf.symm.trans hf'
    | bundle _ hf' hb' hc' =>
      cases hf.symm.trans hf'
      cases hb.symm.trans hb'
      exact hc' hc
    | anyone hi' _ => cases hi.symm.trans hi'

theorem exists_trust (env : Environment) (inv : Invocation) :
    (∃ trust, inv.Trusts env trust) ∨ inv.LacksClient env := by
  cases hf : inv.authorityFile with
  | none =>
    left
    cases hi : inv.insecure with
    | false => exact ⟨_, .publicRoots hi hf⟩
    | true => exact ⟨_, .anyone hi fun path hf' => nomatch hf.symm.trans hf'⟩
  | some path =>
    cases hb : env.file? path with
    | none => exact .inr (.unreadableFile hf hb)
    | some bytes =>
      cases hi : inv.insecure with
      | false =>
        by_cases hc : Pem.certificates bytes = []
        · exact .inr (.noCertificate hi hf hb hc)
        · exact .inl ⟨_, .bundle hi hf hb hc⟩
      | true =>
        refine .inl ⟨_, .anyone hi fun path' hf' => ?_⟩
        cases hf.symm.trans hf'
        exact ⟨bytes, hb⟩

theorem connects_or_lacksClient (env : Environment) (inv : Invocation) :
    (∃ c token, inv.Connects env c token) ∨ inv.LacksClient env := by
  cases ha : inv.address with
  | none => exact .inr (.noAddress ha)
  | some address =>
    cases ht : inv.token with
    | none => exact .inr (.noToken ht)
    | some token =>
      cases hu : Url.ofText address with
      | error problem => exact .inr (.badAddress ha hu)
      | ok server =>
        rcases inv.exists_trust env with ⟨trust, htrust⟩ | h
        · exact .inl ⟨_, _, ha, hu, ht, htrust⟩
        · exact .inr h

end Invocation

namespace CommandLine

variable {env : Environment} {inv : Invocation}

/-- Of what is said about trust the last counts. -/
theorem foldl_apply_trust (trusts : List Trust) (d : Config.Draft) :
    (trusts.map Config.Setting.trust).foldl Config.Draft.apply d =
      { d with trust := trusts.getLast?.or d.trust } := by
  induction trusts generalizing d with
  | nil => rfl
  | cons trust rest ih =>
    rw [List.map_cons, List.foldl_cons, ih, List.getLast?_cons]
    cases rest.getLast? <;> rfl

theorem ofSettings_eq (inv : Invocation) (server : Url) (trusts : List Trust) :
    Config.ofSettings (.server server ::
        inv.serverNamespace.toList.map Config.Setting.serverNamespace ++
        trusts.map Config.Setting.trust) =
      .ok (inv.client server (trusts.getLast?.getD .publicRoots)).config := by
  rw [Config.ofSettings, Config.Draft.ofSettings, List.foldl_append, foldl_apply_trust]
  unfold Invocation.client
  cases inv.serverNamespace <;> cases trusts.getLast? <;> rfl

theorem settings_of_file {address path : String} {server : Url} {bytes : List UInt8}
    (hu : Url.ofText address = .ok server) (hf : inv.authorityFile = some path)
    (hb : env.file? path = some bytes) :
    settings env inv address = .ok (.server server ::
        inv.serverNamespace.toList.map Config.Setting.serverNamespace ++
        (Trust.bundles [bytes] :: if inv.insecure then [.anyone] else []).map
          Config.Setting.trust) := by
  unfold settings
  simp only [hu, hf, Environment.trustFile, Environment.read, hb]
  cases inv.insecure <;> simp <;> rfl

theorem settings_of_no_file {address : String} {server : Url}
    (hu : Url.ofText address = .ok server) (hf : inv.authorityFile = none) :
    settings env inv address = .ok (.server server ::
        inv.serverNamespace.toList.map Config.Setting.serverNamespace ++
        (if inv.insecure then [Trust.anyone] else []).map Config.Setting.trust) := by
  unfold settings
  simp only [hu, hf]
  cases inv.insecure <;> simp <;> rfl

theorem connect_of_settings {address token : String} {server : Url} {trusts : List Trust}
    (trust : Trust) (ha : inv.address = some address) (ht : inv.token = some token)
    (hs : settings env inv address = .ok (.server server ::
      inv.serverNamespace.toList.map Config.Setting.serverNamespace ++
      trusts.map Config.Setting.trust)) (htrust : trusts.getLast?.getD .publicRoots = trust) :
    connect env inv = .ok (Client.ofConfig (inv.client server trust).config, token) := by
  subst htrust
  unfold connect
  rw [ha, ht]
  show (do let settings ← settings env inv address; _) = _
  rw [hs]
  show (do let config ← (Config.ofSettings _).mapError Complaint.failed; _) = _
  rw [ofSettings_eq]
  rfl

theorem connect_of_settings_error {address token : String} {complaint : Complaint}
    (ha : inv.address = some address) (ht : inv.token = some token)
    (hs : settings env inv address = .error complaint) : connect env inv = .error complaint := by
  unfold connect
  rw [ha, ht]
  show (do let settings ← settings env inv address; _) = _
  rw [hs]
  rfl

theorem checkTrust_bundle {bytes : List UInt8} (hc : Pem.certificates bytes ≠ []) :
    Client.checkTrust (.bundles [bytes]) = .ok () := by
  rw [Client.checkTrust, List.forM_cons, List.forM_nil, Pem.requireCertificates]
  cases hcs : Pem.certificates bytes with
  | nil => exact absurd hcs hc
  | cons c cs => rfl

theorem checkTrust_of_no_certificate {bytes : List UInt8} (hc : Pem.certificates bytes = []) :
    Client.checkTrust (.bundles [bytes]) = .error .noCertificates := by
  rw [Client.checkTrust, List.forM_cons, Pem.requireCertificates, hc]
  rfl

theorem ofConfig_of_no_certificate {server : Url} {bytes : List UInt8}
    (hc : Pem.certificates bytes = []) :
    Client.ofConfig (inv.client server (.bundles [bytes])).config =
      ⟨.error .noCertificates, [], []⟩ := by
  have hcheck : Client.checkTrust (inv.client server (.bundles [bytes])).config.trust =
      .error .noCertificates := checkTrust_of_no_certificate hc
  rw [Client.ofConfig, hcheck]
  rfl

theorem ofConfig_client {server : Url} {trust : Trust} (h : Client.checkTrust trust = .ok ()) :
    Client.ofConfig (inv.client server trust).config =
      ⟨.ok (inv.client server trust), [], []⟩ := by
  have hcheck : Client.checkTrust (inv.client server trust).config.trust = .ok () := h
  rw [Client.ofConfig, hcheck]
  rfl

theorem connect_of_connects {c : Client} {token : String} (h : inv.Connects env c token) :
    connect env inv = .ok (⟨.ok c, [], []⟩, token) := by
  obtain ⟨ha, hu, ht, htrust⟩ := h
  cases htrust with
  | publicRoots hi hf =>
    rw [connect_of_settings .publicRoots ha ht (settings_of_no_file hu hf) (by rw [hi]; rfl)]
    rfl
  | bundle hi hf hb hc =>
    rw [connect_of_settings (.bundles [_]) ha ht (settings_of_file hu hf hb) (by rw [hi]; rfl),
      ofConfig_client (checkTrust_bundle hc)]
  | anyone hi hf =>
    cases hfile : inv.authorityFile with
    | none =>
      rw [connect_of_settings .anyone ha ht (settings_of_no_file hu hfile) (by rw [hi]; rfl)]
      rfl
    | some path =>
      obtain ⟨bytes, hb⟩ := hf path hfile
      rw [connect_of_settings .anyone ha ht (settings_of_file hu hfile hb) (by rw [hi]; rfl)]
      rfl

theorem run_of_connects (net : Http.Network) {c : Client} {token : String}
    (h : inv.Connects env c token) :
    run env net inv =
      execute (fun call => call.perform c net inv.mount (TokenSource.fixed token).next.1) inv := by
  rw [run, connect_of_connects h]
  rfl

theorem run_of_connect_error {net : Http.Network} {complaint : Complaint}
    (h : connect env inv = .error complaint) : run env net inv = .refused complaint := by
  rw [run, h]

/-- Without a client nothing is sent. -/
theorem run_of_lacksClient (net : Http.Network) (h : inv.LacksClient env) :
    ∃ complaint, run env net inv = .refused complaint := by
  cases ha : inv.address with
  | none =>
    refine ⟨.noAddress, run_of_connect_error ?_⟩
    rw [connect, ha]
    rfl
  | some address =>
    cases ht : inv.token with
    | none =>
      refine ⟨.noToken, run_of_connect_error ?_⟩
      rw [connect, ha, ht]
      rfl
    | some token =>
      cases hu : Url.ofText address with
      | error problem =>
        refine ⟨.url problem, run_of_connect_error (connect_of_settings_error ha ht ?_)⟩
        rw [settings, hu]
        rfl
      | ok server =>
        cases h with
        | noAddress h => cases ha.symm.trans h
        | noToken h => cases ht.symm.trans h
        | badAddress ha' hu' =>
          cases ha.symm.trans ha'
          cases hu.symm.trans hu'
        | unreadableFile hf hb =>
          refine ⟨.file .notFound, run_of_connect_error (connect_of_settings_error ha ht ?_)⟩
          simp only [settings, hu, hf, Environment.trustFile, Environment.read, hb]
          rfl
        | noCertificate hi hf hb hc =>
          refine ⟨.failed .noCertificates, ?_⟩
          rw [run, connect_of_settings (.bundles [_]) ha ht (settings_of_file hu hf hb)
            (by rw [hi]; rfl), ofConfig_of_no_certificate hc]
          rfl

end CommandLine

end VaultPki
