import VaultPki.Client.Config
import VaultPki.Proofs.Attempt

/-!
# The last word on a configuration

What directives say about a part of a configuration counts if nothing behind them says anything
about the same part. Only headers are collected. So the order of directives matters only among those
for one part, and a configuration comes about whenever a server is named.
-/

namespace VaultPki.Config

/-- The parts of a configuration. -/
inductive Part where
  | server
  | serverNamespace
  | identity
  | trust
  | timeout
  | headers
  deriving DecidableEq

namespace Directive

/-- The part about which a directive says something. -/
def part : Directive → Part
  | .serverText _ | .server _ => .server
  | .serverNamespace _ => .serverNamespace
  | .identity _ | .identityParts _ _ => .identity
  | .trustPublicRoots | .trustBundles _ | .trustAnyone => .trust
  | .timeout _ => .timeout
  | .header _ _ => .headers

/-! ## What a directive says -/

def server? : Directive → Option Url
  | .serverText s => (Url.ofText s).toOption
  | .server u => some u
  | _ => none

def serverNamespace? : Directive → Option String
  | .serverNamespace s => some s
  | _ => none

def identity? : Directive → Option Identity
  | .identity i => some i
  | .identityParts certificate key => some ⟨certificate, key⟩
  | _ => none

def trust? : Directive → Option Trust
  | .trustPublicRoots => some .publicRoots
  | .trustBundles pems => some (.bundles pems)
  | .trustAnyone => some .anyone
  | _ => none

def timeout? : Directive → Option Duration
  | .timeout d => some d
  | _ => none

def header? : Directive → Option (String × String)
  | .header name value => some (name, value)
  | _ => none

/-- A directive says nothing about the other parts. -/
theorem says_nothing (x : Directive) :
    (x.part ≠ .server → x.server? = none) ∧
      (x.part ≠ .serverNamespace → x.serverNamespace? = none) ∧
      (x.part ≠ .identity → x.identity? = none) ∧ (x.part ≠ .trust → x.trust? = none) ∧
      (x.part ≠ .timeout → x.timeout? = none) ∧ (x.part ≠ .headers → x.header? = none) := by
  cases x <;> simp [part, server?, serverNamespace?, identity?, trust?, timeout?, header?]

/-- The last of what directives say. -/
def lastOf {α : Type} (f : Directive → Option α) (ds : List Directive) : Option α :=
  (ds.filterMap f).getLast?

theorem lastOf_cons {α : Type} (f : Directive → Option α) (x : Directive) (ds : List Directive) :
    lastOf f (x :: ds) = (lastOf f ds).or (f x) := by
  unfold lastOf
  cases hx : f x with
  | none => rw [List.filterMap_cons_none hx, Option.or_none]
  | some a =>
    rw [List.filterMap_cons_some hx, List.getLast?_cons]
    cases (ds.filterMap f).getLast? <;> rfl

/-- Whether every text of a server is an address. -/
def AreReadable (ds : List Directive) : Prop :=
  ∀ s, .serverText s ∈ ds → ∃ u, Url.ofText s = .ok u

theorem AreReadable.exists_setting {x : Directive} {ds : List Directive}
    (h : AreReadable (x :: ds)) : ∃ s, x.setting = .ok s := by
  cases x with
  | serverText s =>
    obtain ⟨u, hu⟩ := h s List.mem_cons_self
    exact ⟨.server u, by rw [setting, Setting.serverText, hu]⟩
  | _ => exact ⟨_, rfl⟩

theorem AreReadable.tail {x : Directive} {ds : List Directive} (h : AreReadable (x :: ds)) :
    AreReadable ds :=
  fun s hs => h s (List.mem_cons_of_mem x hs)

end Directive

open Directive

variable {ds ds' : List Directive}

/-! ## Drafts -/

/-- What is said takes the place of what was said before. -/
theorem Draft.apply_setting {x : Directive} {s : Setting} (h : x.setting = .ok s) (d : Draft) :
    d.apply s = {
      server := x.server?.or d.server
      serverNamespace := x.serverNamespace?.or d.serverNamespace
      identity := x.identity?.or d.identity
      trust := x.trust?.or d.trust
      timeout := x.timeout?.or d.timeout
      headers := d.headers ++ x.header?.toList } := by
  cases x with
  | serverText text =>
    cases hu : Url.ofText text with
    | error p =>
      rw [setting, Setting.serverText, hu] at h
      cases h
    | ok u =>
      rw [setting, Setting.serverText, hu] at h
      cases h
      simp [Draft.apply, server?, serverNamespace?, identity?, trust?, timeout?, header?, hu,
        Except.toOption]
  | _ =>
    cases h
    simp [Draft.apply, server?, serverNamespace?, identity?, trust?, timeout?, header?]

/-- Of directives that can all be followed the last for each part counts. -/
theorem exists_settings (h : AreReadable ds) :
    ∃ settings, ds.mapM Directive.setting = .ok settings ∧ ∀ d : Draft,
      settings.foldl Draft.apply d = {
        server := (lastOf server? ds).or d.server
        serverNamespace := (lastOf serverNamespace? ds).or d.serverNamespace
        identity := (lastOf identity? ds).or d.identity
        trust := (lastOf trust? ds).or d.trust
        timeout := (lastOf timeout? ds).or d.timeout
        headers := d.headers ++ ds.filterMap header? } := by
  induction ds with
  | nil => exact ⟨[], rfl, fun d => by simp [lastOf]⟩
  | cons x ds ih =>
    obtain ⟨s, hs⟩ := h.exists_setting
    obtain ⟨settings, hsettings, hfold⟩ := ih h.tail
    refine ⟨s :: settings, ?_, fun d => ?_⟩
    · rw [List.mapM_cons, hs, hsettings]
      rfl
    · rw [List.foldl_cons, hfold, Draft.apply_setting hs]
      simp only [lastOf_cons, Option.or_assoc]
      cases hx : x.header? with
      | none => rw [List.filterMap_cons_none hx, Option.toList_none, List.append_nil]
      | some a =>
        rw [List.filterMap_cons_some hx, Option.toList_some, List.append_assoc,
          List.singleton_append]

theorem ofDirectives_eq (h : AreReadable ds) :
    ofDirectives ds =
      match lastOf server? ds with
      | none => .error (.config "server_url is required")
      | some server => .ok {
          server
          serverNamespace := lastOf serverNamespace? ds
          identity := lastOf identity? ds
          trust := (lastOf trust? ds).getD .publicRoots
          timeout := (lastOf timeout? ds).getD (.ofSeconds 30)
          headers := ds.filterMap header? } := by
  obtain ⟨settings, hsettings, hfold⟩ := exists_settings h
  unfold ofDirectives
  rw [hsettings]
  show (settings.foldl Draft.apply {}).build = _
  rw [hfold, Draft.build]
  simp only [Option.or_none, List.nil_append]
  rfl

theorem lastOf_server_eq_none_iff (h : AreReadable ds) :
    lastOf server? ds = none ↔ ∀ x ∈ ds, x.part ≠ .server := by
  rw [lastOf, List.getLast?_eq_none_iff, List.filterMap_eq_nil_iff]
  refine forall₂_congr fun x hx => ⟨fun hnone hpart => ?_, x.says_nothing.1⟩
  cases x with
  | serverText s =>
    obtain ⟨u, hu⟩ := h s hx
    rw [server?, hu] at hnone
    cases hnone
  | server u => cases hnone
  | _ => cases hpart

/-! ## The order of directives -/

/-- Whether directives are the same but for exchanges of neighbours that say something about
different parts. -/
inductive Rearranged : List Directive → List Directive → Prop
  | refl (ds : List Directive) : Rearranged ds ds
  | swap (front : List Directive) {x y : Directive} (h : x.part ≠ y.part) (rest : List Directive) :
    Rearranged (front ++ x :: y :: rest) (front ++ y :: x :: rest)
  | trans {ds ds' ds'' : List Directive} (h : Rearranged ds ds') (h' : Rearranged ds' ds'') :
    Rearranged ds ds''

theorem filterMap_swap {α : Type} {f : Directive → Option α} {x y : Directive}
    (h : f x = none ∨ f y = none) (front rest : List Directive) :
    (front ++ x :: y :: rest).filterMap f = (front ++ y :: x :: rest).filterMap f := by
  rcases h with h | h <;> simp only [List.filterMap_append, List.filterMap_cons, h]

/-- Rearranged directives say the same about every part. -/
theorem Rearranged.filterMap_eq (h : Rearranged ds ds') {α : Type} {f : Directive → Option α}
    {p : Part} (hf : ∀ x : Directive, x.part ≠ p → f x = none) :
    ds.filterMap f = ds'.filterMap f := by
  induction h with
  | refl ds => rfl
  | @swap front x y hparts rest =>
    apply filterMap_swap
    by_cases hx : x.part = p
    · exact .inr (hf y fun hy => hparts (hx.trans hy.symm))
    · exact .inl (hf x hx)
  | trans _ _ ih ih' => exact ih.trans ih'

theorem Rearranged.areReadable (h : Rearranged ds ds') (hds : AreReadable ds) :
    AreReadable ds' := by
  induction h with
  | refl ds => exact hds
  | @swap front x y _ rest =>
    intro s hs
    apply hds s
    simp only [List.mem_append, List.mem_cons] at hs ⊢
    tauto
  | trans _ _ ih ih' => exact ih' (ih hds)

theorem Rearranged.ofDirectives_eq (h : Rearranged ds ds') (hds : AreReadable ds) :
    ofDirectives ds' = ofDirectives ds := by
  have hsaid {α : Type} {f : Directive → Option α} {p : Part}
      (hf : ∀ x : Directive, x.part ≠ p → f x = none) : lastOf f ds' = lastOf f ds :=
    congrArg List.getLast? (h.filterMap_eq hf).symm
  rw [Config.ofDirectives_eq hds, Config.ofDirectives_eq (h.areReadable hds),
    hsaid fun x => x.says_nothing.1, hsaid fun x => x.says_nothing.2.1,
    hsaid fun x => x.says_nothing.2.2.1, hsaid fun x => x.says_nothing.2.2.2.1,
    hsaid fun x => x.says_nothing.2.2.2.2.1, h.filterMap_eq fun x => x.says_nothing.2.2.2.2.2]

end VaultPki.Config
