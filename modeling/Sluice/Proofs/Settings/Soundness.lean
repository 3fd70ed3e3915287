import Sluice.Plan
import Sluice.Proofs.Endpoint.Validity
import Sluice.Proofs.Float
import Sluice.Proofs.Quota.Log
import Sluice.Proofs.Rules.Checked

open List

namespace Sluice

structure QuotaSettings.Sound (q : QuotaSettings) : Prop where
  window : q.windowMs ≠ 0
  limit  : q.maxRequests ≠ 0

instance (q : QuotaSettings) : Decidable q.Sound :=
  decidable_of_iff (q.windowMs ≠ 0 ∧ q.maxRequests ≠ 0) ⟨fun h => ⟨h.left, h.right⟩, fun h => ⟨h.window, h.limit⟩⟩

def QuotaSettings.terms (q : QuotaSettings) : Duration × Nat := (.ofMillis q.windowMs, q.maxRequests)

def Quota.terms (q : Quota) : Duration × Nat := (q.window, q.limit)

theorem Duration.ofMillis_eq_zero {ms : Nat} : Duration.ofMillis ms = .zero ↔ ms = 0 := by
  simp [Duration.ofMillis, Duration.zero]

theorem QuotaSettings.exists_check_iff {q : QuotaSettings} : (∃ quota, q.check = .ok quota) ↔ q.Sound := by
  have hw : (Duration.ofMillis q.windowMs).nanos = 0 ↔ q.windowMs = 0 := by simp [Duration.ofMillis]
  rw [check, Quota.make]
  constructor
  case mp =>
    rintro ⟨quota, h⟩
    split at h
    case isTrue => cases h
    case isFalse hp =>
      split at h
      case isTrue     => cases h
      case isFalse hl => exact ⟨mt hw.mpr hp, hl⟩
  case mpr =>
    intro h
    rw [dif_neg (mt hw.mp h.window), dif_neg h.limit]
    exact ⟨_, rfl⟩

theorem QuotaSettings.terms_of_check {q : QuotaSettings} {quota : Quota} (h : q.check = .ok quota) :
    quota.terms = q.terms := by
  have ⟨hw, hl⟩ := Quota.make_eq_ok h
  rw [Quota.terms, terms, hw, hl]

theorem QuotaSettings.terms_eq {q? : Option QuotaSettings} {quota? : Option Quota} (h : q?.mapM check = .ok quota?) :
    quota?.map Quota.terms = q?.map terms := by
  cases mapM_eq_ok_rel.mp h
  case some hq => rw [Option.map_some, Option.map_some, terms_of_check hq]
  case none    => rfl

-- The method that a business key is about: as it is given, behind a slash if it does not begin with one.
def BusinessKeySettings.path (b : BusinessKeySettings) : String :=
  match b.method.toList with
  | '/' :: _ => b.method
  | name     => .ofList ('/' :: name)

theorem BusinessKeySettings.rooted_method (b : BusinessKeySettings) : Call.rooted b.method = b.path := by
  rw [Call.rooted, path]
  split
  case isTrue h =>
    obtain ⟨rest, hr⟩ := head?_eq_some_iff.mp h
    simp only [hr]
  case isFalse h =>
    split
    case h_1 hr => exact absurd (hr ▸ rfl) h
    case h_2    => exact String.toList_inj.mp (by simp)

structure RateLimitSettings.Sound (r : RateLimitSettings) : Prop where
  address      : r.store = .redis → ∃ url ∈ r.redisUrl, url ≠ ""
  global       : ∀ q ∈ r.global, q.Sound
  services     : ∀ v ∈ r.services, v.stem ≠ "" ∧ v.quota.Sound
  stems        : (r.services.map (·.stem)).Nodup
  businessKeys : ∀ b ∈ r.businessKeys, b.field ≠ "" ∧ b.quota.Sound
  methods      : (r.businessKeys.map (·.path)).Nodup

def RateLimitSettings.place (r : RateLimitSettings) : Shelf :=
  match r.store with
  | .memory => .memory
  | .redis  => .redis (r.redisUrl.getD "")

-- Rules as settings ask for them, in the order in which they stand there.
structure Rules.Follows (rules : Rules) (r : RateLimitSettings) : Prop where
  shelf        : rules.shelf = r.place
  keyStem      : rules.keyStem = r.keyStem
  onError      : rules.onError = r.onError
  reach        : rules.reach = r.reach
  global       : rules.global.map Quota.terms = r.global.map QuotaSettings.terms
  services     : rules.services.map (fun v => (v.stem, v.quota.terms)) = r.services.map fun v => (v.stem, v.quota.terms)
  businessKeys : rules.businessKeys.map (fun b => (b.method, b.field, b.quota.terms)) =
                   r.businessKeys.map fun b => (b.path, b.field, b.quota.terms)

theorem ServiceSettings.exists_check_iff {v : ServiceSettings} :
    (∃ rule, v.check = .ok rule) ↔ v.stem ≠ "" ∧ v.quota.Sound := by
  simp only [check_eq_ok, ← QuotaSettings.exists_check_iff]
  constructor
  case mp  => rintro ⟨_, hs, quota, hq, _⟩; exact ⟨hs, quota, hq⟩
  case mpr => rintro ⟨hs, quota, hq⟩; exact ⟨_, hs, quota, hq, rfl⟩

theorem BusinessKeySettings.exists_check_iff {b : BusinessKeySettings} :
    (∃ rule, b.check = .ok rule) ↔ b.field ≠ "" ∧ b.quota.Sound := by
  simp only [check_eq_ok, ← QuotaSettings.exists_check_iff]
  constructor
  case mp  => rintro ⟨_, hf, quota, hq, _⟩; exact ⟨hf, quota, hq⟩
  case mpr => rintro ⟨hf, quota, hq⟩; exact ⟨_, hf, quota, hq, rfl⟩

theorem ServiceSettings.rules_eq {vs : List ServiceSettings} {rules : List ServiceRule}
    (h : Forall₂ (·.check = .ok ·) vs rules) :
    rules.map (fun v => (v.stem, v.quota.terms)) = vs.map fun v => (v.stem, v.quota.terms) := by
  refine map_eq_map_of_forall₂ h fun v rule hr => ?_
  obtain ⟨_, quota, hq, rfl⟩ := check_eq_ok.mp hr
  rw [QuotaSettings.terms_of_check hq]

theorem ServiceSettings.stems_eq {vs : List ServiceSettings} {rules : List ServiceRule}
    (h : Forall₂ (·.check = .ok ·) vs rules) : rules.map (·.stem) = vs.map (·.stem) := by
  simpa only [map_map, Function.comp_def] using congrArg (map Prod.fst) (rules_eq h)

theorem BusinessKeySettings.rules_eq {bs : List BusinessKeySettings} {rules : List BusinessKeyRule}
    (h : Forall₂ (·.check = .ok ·) bs rules) :
    rules.map (fun b => (b.method, b.field, b.quota.terms)) = bs.map fun b => (b.path, b.field, b.quota.terms) := by
  refine map_eq_map_of_forall₂ h fun b rule hr => ?_
  obtain ⟨_, quota, hq, rfl⟩ := check_eq_ok.mp hr
  rw [QuotaSettings.terms_of_check hq, rooted_method]

theorem BusinessKeySettings.methods_eq {bs : List BusinessKeySettings} {rules : List BusinessKeyRule}
    (h : Forall₂ (·.check = .ok ·) bs rules) : rules.map (·.method) = bs.map (·.path) := by
  simpa only [map_map, Function.comp_def] using congrArg (map Prod.fst) (rules_eq h)

namespace RateLimitSettings

variable {s : RateLimitSettings} {r : Rules}

theorem exists_shelf_iff : (∃ shelf, s.shelf = .ok shelf) ↔ (s.store = .redis → ∃ url ∈ s.redisUrl, url ≠ "") := by
  rw [shelf]
  cases s.store
  case memory => simp
  case redis =>
    cases s.redisUrl
    case none     => simp [shelf.missing]
    case some url => by_cases hu : url = "" <;> simp [shelf.missing, hu]

theorem shelf_eq {shelf : Shelf} (h : s.shelf = .ok shelf) : shelf = s.place := by
  unfold RateLimitSettings.shelf at h
  unfold place
  generalize s.store = store at h ⊢
  cases store
  case memory => exact (Except.ok.inj h).symm
  case redis =>
    generalize s.redisUrl = url? at h ⊢
    cases url?
    case none     => cases h
    case some url =>
      have ⟨_, hu⟩ := ite_error_eq_ok.mp h
      exact (Except.ok.inj hu).symm

theorem follows_of_check (h : s.check = .ok r) : r.Follows s := by
  have ⟨hs, hg, hv, _, hb, _, hk, he, hr⟩ := check_eq_ok.mp h
  exact ⟨shelf_eq hs, hk, he, hr, QuotaSettings.terms_eq hg, ServiceSettings.rules_eq hv,
    BusinessKeySettings.rules_eq hb⟩

theorem follows_of_mapM {s? : Option RateLimitSettings} {r? : Option Rules} (h : s?.mapM check = .ok r?) :
    Option.Rel Rules.Follows r? s? := by
  cases mapM_eq_ok_rel.mp h
  case some hc => exact .some (follows_of_check hc)
  case none    => exact .none

theorem exists_check_iff : (∃ r, s.check = .ok r) ↔ s.Sound := by
  constructor
  case mp =>
    rintro ⟨r, h⟩
    have ⟨hs, hg, hv, hd, hb, hm, _⟩ := check_eq_ok.mp h
    have hg := exists_mapM_eq_ok_option.mp ⟨_, hg⟩
    have hvs := exists_mapM_eq_ok.mp ⟨_, mapM_eq_ok.mpr hv⟩
    have hbs := exists_mapM_eq_ok.mp ⟨_, mapM_eq_ok.mpr hb⟩
    exact {
      address           := exists_shelf_iff.mp ⟨_, hs⟩
      global q hq       := QuotaSettings.exists_check_iff.mp (hg q hq)
      services v hv     := ServiceSettings.exists_check_iff.mp (hvs v hv)
      stems             := ServiceSettings.stems_eq hv ▸ hd
      businessKeys b hb := BusinessKeySettings.exists_check_iff.mp (hbs b hb)
      methods           := BusinessKeySettings.methods_eq hb ▸ hm }
  case mpr =>
    intro h
    have ⟨shelf, hs⟩ := exists_shelf_iff.mpr h.address
    have ⟨global, hg⟩ := exists_mapM_eq_ok_option.mpr fun q hq => QuotaSettings.exists_check_iff.mpr (h.global q hq)
    have ⟨services, hv⟩ := exists_mapM_eq_ok.mpr fun v hm => ServiceSettings.exists_check_iff.mpr (h.services v hm)
    have ⟨businessKeys, hb⟩ := exists_mapM_eq_ok.mpr fun b hm =>
      BusinessKeySettings.exists_check_iff.mpr (h.businessKeys b hm)
    rw [mapM_eq_ok] at hv hb
    have hd := ServiceSettings.stems_eq hv ▸ h.stems
    have hm := BusinessKeySettings.methods_eq hb ▸ h.methods
    exact ⟨⟨shelf, s.keyStem, s.onError, s.reach, global, services, businessKeys⟩,
      check_eq_ok.mpr ⟨hs, hg, hv, hd, hb, hm, rfl, rfl, rfl⟩⟩

end RateLimitSettings

structure RetrySettings.Sound (r : RetrySettings) : Prop where
  attempts   : 1 ≤ r.maxAttempts
  finite     : r.multiplier.isFinite
  multiplier : 1 ≤ r.multiplier
  backoff    : r.initialBackoffMs ≤ r.maxBackoffMs

theorem RetrySettings.default_sound : default.Sound :=
  ⟨by decide, by decide, by decide, by decide⟩

def RetrySettings.policy (r : RetrySettings) : RetryPolicy where
  maxAttempts    := r.maxAttempts
  initialBackoff := .ofMillis r.initialBackoffMs
  maxBackoff     := .ofMillis r.maxBackoffMs
  multiplier     := r.multiplier
  retryable      := r.retryableCodes

theorem Duration.ofMillis_lt_ofMillis {a b : Nat} : Duration.ofMillis a < .ofMillis b ↔ a < b :=
  Nat.mul_lt_mul_right (by decide)

theorem RetrySettings.check_eq_ok {r : RetrySettings} {p : RetryPolicy} : r.check = .ok p ↔ r.Sound ∧ r.policy = p := by
  have hone : (1 : Float).isFinite := by decide
  rw [check, RetryPolicy.make, ite_error_eq_ok, ite_error_eq_ok, ite_error_eq_ok, Except.ok.injEq,
    Duration.ofMillis_lt_ofMillis, not_lt]
  simp only [Bool.or_eq_true, Bool.not_eq_true', decide_eq_true_eq, not_or, Bool.not_eq_false]
  constructor
  case mp =>
    rintro ⟨ha, ⟨hf, hm⟩, hb, hp⟩
    exact ⟨⟨Nat.pos_of_ne_zero ha, hf, (not_lt_iff_le hf hone).mp hm, hb⟩, hp⟩
  case mpr =>
    rintro ⟨⟨ha, hf, hm, hb⟩, hp⟩
    exact ⟨Nat.pos_iff_ne_zero.mp ha, ⟨hf, (not_lt_iff_le hf hone).mpr hm⟩, hb, hp⟩

structure DiscoverySettings.Sound (d : DiscoverySettings) : Prop where
  leaseTtl     : d.leaseTtlMs ≠ 0
  reapInterval : d.reapIntervalMs ≠ 0

theorem DiscoverySettings.default_sound : default.Sound :=
  ⟨by decide, by decide⟩

-- Settings that a server can be run by: where something is left out, the value that stands for it is meant.
structure Settings.Sound (s : Settings) : Prop where
  nodes_ne_nil   : s.nodes ≠ []
  listen         : ∃ a, SocketAddress.parse? (s.listen.getD "127.0.0.1:8100") = some a
  nodes          : ∀ n ∈ s.nodes, ∃ e, Endpoint.make n.address n.weight = .ok e
  requestTimeout : s.requestTimeoutMs.getD 10000 ≠ 0
  maxConcurrent  : s.maxConcurrentRequests.getD 1000 ≠ 0
  rateLimit      : ∀ r ∈ s.rateLimit, r.Sound
  retry          : (s.retry.getD ⟨4, 10, 100, 2, [.unavailable]⟩).Sound
  discovery      : (s.discovery.getD ⟨5000, 1000⟩).Sound

-- A plan in which every value is the one that was given, or the one that stands for it.
structure Plan.Follows (plan : Plan) (s : Settings) : Prop where
  listen         : some plan.listen = SocketAddress.parse? (s.listen.getD "127.0.0.1:8100")
  nodes          : plan.nodes.map (fun e => (e.address, (e.weight : Int))) = s.nodes.map fun n => (n.address, n.weight)
  maxBodySize    : plan.maxBodySize = s.maxBodySize.getD 1048576
  requestTimeout : plan.requestTimeout = .ofMillis (s.requestTimeoutMs.getD 10000)
  connectTimeout : plan.connectTimeout = .ofMillis (s.connectTimeoutMs.getD 5000)
  idleTimeout    : plan.idleTimeout = .ofMillis (s.poolIdleTimeoutMs.getD 60000)
  maxIdlePerHost : plan.maxIdlePerHost = s.poolMaxIdlePerHost.getD 32
  maxConcurrent  : plan.maxConcurrent = s.maxConcurrentRequests.getD 1000
  rules          : Option.Rel Rules.Follows plan.rules s.rateLimit
  retry          : plan.retry = (s.retry.getD ⟨4, 10, 100, 2, [.unavailable]⟩).policy
  leaseTtl       : plan.leaseTtl = .ofMillis (s.discovery.getD ⟨5000, 1000⟩).leaseTtlMs
  reapInterval   : plan.reapInterval = .ofMillis (s.discovery.getD ⟨5000, 1000⟩).reapIntervalMs

namespace Settings

variable {s : Settings} {plan : Plan}

theorem checkListen_eq_ok {a : SocketAddress} :
    s.checkListen = .ok a ↔ SocketAddress.parse? (s.listen.getD Plan.defaultListen) = some a := by
  rw [checkListen]
  split <;> simp_all

theorem exists_check_iff : (∃ plan, s.check = .ok plan) ↔ s.Sound := by
  simp only [check, bind_eq_ok, throw_eq_error, error_bind, ite_error_eq_ok, pure, Except.pure, List.isEmpty_iff,
    Bool.or_eq_true, decide_eq_true_eq, not_or]
  constructor
  case mp =>
    rintro ⟨plan, hne, listen, hl, nodes, hn, ht, hc, rules, hr, retry, hp, hd, _⟩
    exact {
      nodes_ne_nil   := hne
      listen         := ⟨listen, checkListen_eq_ok.mp hl⟩
      nodes          := exists_mapM_eq_ok.mp ⟨nodes, hn⟩
      requestTimeout := mt Duration.ofMillis_eq_zero.mpr ht
      maxConcurrent  := hc
      rateLimit r hm := RateLimitSettings.exists_check_iff.mp (exists_mapM_eq_ok_option.mp ⟨rules, hr⟩ r hm)
      retry          := (RetrySettings.check_eq_ok.mp hp).left
      discovery      := ⟨hd.left, hd.right⟩ }
  case mpr =>
    intro h
    have ⟨listen, hl⟩ := h.listen
    have ⟨nodes, hn⟩ := exists_mapM_eq_ok.mpr h.nodes
    have ⟨rules, hr⟩ := exists_mapM_eq_ok_option.mpr fun r hm =>
      RateLimitSettings.exists_check_iff.mpr (h.rateLimit r hm)
    have hp := RetrySettings.check_eq_ok.mpr ⟨h.retry, rfl⟩
    have ht := mt Duration.ofMillis_eq_zero.mp h.requestTimeout
    exact ⟨_, h.nodes_ne_nil, listen, checkListen_eq_ok.mpr hl, nodes, hn, ht, h.maxConcurrent, rules, hr, _, hp,
      ⟨h.discovery.leaseTtl, h.discovery.reapInterval⟩, rfl⟩

theorem nodes_eq {nodes : List Endpoint} (h : s.nodes.mapM (fun n => Endpoint.make n.address n.weight) = .ok nodes) :
    nodes.map (fun e => (e.address, (e.weight : Int))) = s.nodes.map fun n => (n.address, n.weight) := by
  refine map_eq_map_of_forall₂ (mapM_eq_ok.mp h) fun n e he => ?_
  have ⟨ha, hw⟩ := Endpoint.make_keeps he
  rw [ha, hw]

theorem follows_of_check (h : s.check = .ok plan) : plan.Follows s := by
  simp only [check, bind_eq_ok, throw_eq_error, error_bind, ite_error_eq_ok, pure, Except.pure] at h
  obtain ⟨_, listen, hl, nodes, hn, _, _, rules, hr, retry, hp, _, h⟩ := h
  cases h
  exact {
    listen         := (checkListen_eq_ok.mp hl).symm
    nodes          := nodes_eq hn
    maxBodySize    := rfl
    requestTimeout := rfl
    connectTimeout := rfl
    idleTimeout    := rfl
    maxIdlePerHost := rfl
    maxConcurrent  := rfl
    rules          := RateLimitSettings.follows_of_mapM hr
    retry          := (RetrySettings.check_eq_ok.mp hp).right.symm
    leaseTtl       := rfl
    reapInterval   := rfl }

-- A plan is made of exactly the settings that a server can be run by, and it says what they say.
theorem check_iff_sound (s : Settings) :
    ((∃ plan, s.check = .ok plan) ↔ s.Sound) ∧ ∀ plan, s.check = .ok plan → plan.Follows s :=
  ⟨exists_check_iff, fun _ => follows_of_check⟩

-- Settings that name nodes and leave out everything else.
def ofNodes (nodes : List NodeSettings) : Settings :=
  ⟨none, nodes, none, none, none, none, none, none, none, none, none⟩

-- Whatever stands for a value that is left out is accepted.
theorem ofNodes_sound_iff {nodes : List NodeSettings} : (ofNodes nodes).Sound ↔
    nodes ≠ [] ∧ ∀ n ∈ nodes, ∃ e, Endpoint.make n.address n.weight = .ok e := by
  constructor
  case mp  => exact fun h => ⟨h.nodes_ne_nil, h.nodes⟩
  case mpr =>
    intro ⟨hne, hn⟩
    have hl : (SocketAddress.parse? Plan.defaultListen).isSome := by decide
    exact {
      nodes_ne_nil   := hne
      listen         := Option.isSome_iff_exists.mp hl
      nodes          := hn
      requestTimeout := Nat.succ_ne_zero _
      maxConcurrent  := Nat.succ_ne_zero _
      rateLimit      := nofun
      retry          := RetrySettings.default_sound
      discovery      := DiscoverySettings.default_sound }

-- Rate limits and settings that are in every respect at the edge of what is accepted.
def barelyLimited : RateLimitSettings where
  store        := .redis
  redisUrl     := some "r"
  keyStem      := ""
  onError      := .failOpen
  reach        := .both
  global       := some ⟨1, 1⟩
  services     := [⟨"/A/", ⟨1, 1⟩⟩, ⟨"/A", ⟨1, 1⟩⟩]
  businessKeys := [⟨"A/x", "id", ⟨1, 1⟩⟩, ⟨"//A/x", "/", ⟨1, 1⟩⟩]

def barely : Settings where
  listen                := some "[::]:0"
  nodes                 := [⟨"http://a:1", 4294967295⟩, ⟨"x://b", 1⟩]
  maxBodySize           := some 0
  connectTimeoutMs      := some 0
  requestTimeoutMs      := some 1
  poolIdleTimeoutMs     := none
  poolMaxIdlePerHost    := some 0
  maxConcurrentRequests := some 1
  rateLimit             := some barelyLimited
  retry                 := some ⟨1, 100, 100, 1, []⟩
  discovery             := some ⟨1, 1⟩

theorem barelyLimited_sound : barelyLimited.Sound where
  address _      := ⟨"r", rfl, by decide⟩
  global _ hq    := Option.some.inj hq ▸ ⟨by decide, by decide⟩
  services       := by decide
  stems          := by decide
  businessKeys   := by decide
  methods        := by decide

theorem barely_sound : barely.Sound where
  nodes_ne_nil   := by decide
  listen         := ⟨_, rfl⟩
  nodes          := forall_mem_cons.mpr ⟨⟨_, rfl⟩, forall_mem_singleton.mpr ⟨_, rfl⟩⟩
  requestTimeout := by decide
  maxConcurrent  := by decide
  rateLimit _ hr := Option.some.inj hr ▸ barelyLimited_sound
  retry          := ⟨by decide, by decide, by decide, by decide⟩
  discovery      := ⟨by decide, by decide⟩

-- The second method is the first one with the slash in front.
def twiceNamed : Settings :=
  { barely with rateLimit := some { barelyLimited with
      businessKeys := [⟨"A/x", "id", ⟨1, 1⟩⟩, ⟨"/A/x", "/", ⟨1, 1⟩⟩] } }

theorem check_iff_sound_barely :
    (barely.Sound ∧ ∃ plan, barely.check = .ok plan ∧
      plan.nodes.map (fun e => (e.address, (e.weight : Int))) = [("http://a:1", 4294967295), ("x://b", 1)] ∧
      plan.maxBodySize = 0 ∧ plan.idleTimeout = .ofMillis 60000 ∧
      ∃ r ∈ plan.rules, r.businessKeys.map (·.method) = ["/A/x", "//A/x"]) ∧
    ¬∃ plan, twiceNamed.check = .ok plan := by
  have ⟨hs, hf⟩ := check_iff_sound barely
  have ⟨plan, hp⟩ := hs.mpr barely_sound
  have hb := hf plan hp
  have hm : ∃ r ∈ plan.rules, r.businessKeys.map (·.method) = ["/A/x", "//A/x"] := by
    have hr : Option.Rel Rules.Follows plan.rules (some barelyLimited) := hb.rules
    generalize plan.rules = rules at hr ⊢
    cases hr
    case some r hr =>
      have hm : r.businessKeys.map (·.method) = barelyLimited.businessKeys.map (·.path) := by
        simpa only [map_map, Function.comp_def] using congrArg (map Prod.fst) hr.businessKeys
      exact ⟨r, rfl, hm.trans (by decide)⟩
  have hn : ¬twiceNamed.Sound := by
    intro h
    exact absurd (h.rateLimit _ rfl).methods (by decide)
  exact ⟨⟨barely_sound, plan, hp, hb.nodes, hb.maxBodySize, hb.idleTimeout, hm⟩,
    mt (check_iff_sound twiceNamed).left.mp hn⟩

end Settings

end Sluice
