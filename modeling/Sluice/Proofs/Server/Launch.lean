import Sluice.Proofs.Endpoint.Validity
import Sluice.Proofs.Pool.Balance
import Sluice.Proofs.Rules.Checked
import Sluice.Proofs.Rules.Windows
import Sluice.Server

open List

namespace Sluice

namespace Pool

variable {p : Pool} {es : List Endpoint} {seen : List String} {a : String}

-- Endpoints are inserted one after the other, up to the first whose address is already there.
theorem foldlM_insert_of_repeated (hs : ∀ b, b ∈ seen ↔ b ∈ p.addresses)
    (h : firstRepeated?.go seen (es.map Endpoint.address) = some a) :
    es.foldlM insert p = .error (.config s!"node {a} is already registered") := by
  induction es generalizing p seen
  case nil => cases h
  case cons e es hi =>
    rw [map_cons, firstRepeated?.go] at h
    rw [foldlM_cons, insert]
    by_cases he : e.address ∈ p.addresses
    case pos =>
      rw [if_pos (by simpa [hs] using he)] at h
      cases h
      rw [if_pos ((p.contains_iff _).mpr he)]
      rfl
    case neg =>
      rw [if_neg (by simpa [hs] using he)] at h
      rw [if_neg (mt (p.contains_iff _).mp he)]
      refine hi (fun b => ?_) h
      simp [addresses, Node.fresh, Node.address, hs, or_comm]

theorem ofEndpoints_of_repeated (h : firstRepeated? (es.map Endpoint.address) = some a) :
    ofEndpoints es = .error (.config s!"node {a} is already registered") :=
  foldlM_insert_of_repeated (by simp [empty, addresses]) h

end Pool

namespace Rules

variable {r : Rules} {side : Side} {check : Check Limiter}

theorem admission_charges (r : Rules) (side : Side) :
    (r.admission.chain side).checks.map (fun c => (c.scope, c.limiter.quota)) =
      if r.reach.covers side then r.scopes else [] := by
  rw [admission_checks]
  split
  case isTrue =>
    conv_rhs => rw [← zipIdx_map_fst (r.first side) r.scopes]
    simp only [checks, checksFrom, map_map]
    rfl
  case isFalse => rfl

theorem admission_onError (hc : r.reach.covers side) : (r.admission.chain side).onError = r.onError := by
  cases side <;> cases hr : r.reach <;> rw [hr] at hc <;>
    simp_all [Admission.chain, admission, chain, Reach.covers, Reach.coversServer, Reach.coversClient]

theorem mem_limiters (h : check ∈ (r.admission.chain side).checks) : check.limiter ∈ r.admission.limiters := by
  rw [admission_limiters]
  refine mem_map_of_mem (mem_append.mpr ?_)
  cases side
  case server => exact .inl h
  case client => exact .inr h

-- Every limiter has a window of its own if windows are kept in memory.
theorem window_of_limiter (hm : r.shelf = .memory) {l : Limiter} (h : l ∈ r.admission.limiters) :
    r.windows[l.slot]? = some (.make l.quota) := by
  have ⟨i, hi⟩ := getElem?_of_mem h
  rw [slot_of_getElem? hi, windows_memory hm, getElem?_map, hi]
  rfl

end Rules

theorem RateLimitSettings.shelf_of_check {s : RateLimitSettings} {r : Rules} (h : s.check = .ok r)
    (hs : s.store = .memory) : r.shelf = .memory := by
  have hm := (check_eq_ok.mp h).left
  rw [shelf, hs] at hm
  exact (Except.ok.inj hm).symm

namespace Settings

-- What is known of the nodes and rules of settings that have been checked.
structure Yields (s : Settings) (plan : Plan) : Prop where
  nodes : Forall₂ (fun n e => Endpoint.make n.address n.weight = .ok e) s.nodes plan.nodes
  rules : s.rateLimit.mapM RateLimitSettings.check = .ok plan.rules

variable {s : Settings} {plan : Plan}

theorem yields_of_check (h : s.check = .ok plan) : s.Yields plan := by
  simp only [check, bind_eq_ok, throw_eq_error, error_bind, ite_error_eq_ok, mapM_eq_ok] at h
  obtain ⟨_, _, _, nodes, hn, _, _, rules, hr, _, _, _, hp⟩ := h
  cases hp
  exact ⟨hn, hr⟩

theorem Yields.addresses (h : s.Yields plan) : plan.nodes.map Endpoint.address = s.nodes.map (·.address) := by
  have hm : Forall₂ (fun n e => e.address = n.address) s.nodes plan.nodes :=
    h.nodes.imp fun _ _ he => Endpoint.make_address he
  rw [← forall₂_eq_eq_eq, forall₂_map_left_iff, forall₂_map_right_iff]
  exact hm.flip

theorem Yields.memory (h : s.Yields plan) (hs : ∀ r ∈ s.rateLimit, r.store = .memory) :
    ∀ r ∈ plan.rules, r.shelf = .memory := by
  intro r hr
  have hc := h.rules
  rw [Option.mem_def.mp hr, mapM_eq_ok_some] at hc
  have ⟨l, hl, hc⟩ := hc
  exact RateLimitSettings.shelf_of_check hc (hs l hl)

end Settings

def Server.chain (server : Server) : Side → Chain Limiter
  | .server => server.gateway.chain
  | .client => server.gateway.client.chain

namespace Plan

-- The chains for the rules of a plan; without rules every call is admitted.
def admission (plan : Plan) : Admission :=
  (plan.rules.map Rules.admission).getD .permissive

-- What calls are charged to on a side, in the order of the checks.
def charges (plan : Plan) (side : Side) : List (Scope × Quota) :=
  match plan.rules with
  | none   => []
  | some r => if r.reach.covers side then r.scopes else []

-- A server as a plan describes it. Its pool has the plan's nodes, none of which was selected yet and none of which
-- holds a lease. Its chains have a check for each of the rules, and the limiter of each check has a window of its own.
structure RunBy (plan : Plan) (server : Server) : Prop where
  directory     : server.directory = ⟨.fresh plan.nodes, plan.nodes.map Endpoint.address, plan.leaseTtl, []⟩
  policy        : server.gateway.client.policy = plan.retry
  timeout       : server.gateway.client.timeout = plan.requestTimeout
  maxBody       : server.gateway.maxBody = plan.maxBodySize
  maxConcurrent : server.maxConcurrent = plan.maxConcurrent
  reapInterval  : server.reapInterval = plan.reapInterval
  checks        : ∀ side, (server.chain side).checks.map (fun c => (c.scope, c.limiter.quota)) = plan.charges side
  onError       : ∀ side, ∀ r ∈ plan.rules, r.reach.covers side → (server.chain side).onError = r.onError
  windows       : ∀ side, ∀ check ∈ (server.chain side).checks,
    server.windows[check.limiter.slot]? = some (.make check.limiter.quota)

variable {plan : Plan} {side : Side} {check : Check Limiter}

theorem admission_charges (plan : Plan) (side : Side) :
    (plan.admission.chain side).checks.map (fun c => (c.scope, c.limiter.quota)) = plan.charges side := by
  rw [admission, charges]
  cases plan.rules
  case none   => cases side <;> rfl
  case some r => exact r.admission_charges side

theorem admission_onError {r : Rules} (h : r ∈ plan.rules) (hc : r.reach.covers side) :
    (plan.admission.chain side).onError = r.onError := by
  rw [admission, Option.mem_def.mp h]
  exact Rules.admission_onError hc

section

variable (hr : ∀ r ∈ plan.rules, r.shelf = .memory)

include hr

theorem build_memory : (plan.rules.map Rules.build).getD (.ok .permissive) = .ok plan.admission := by
  rw [admission]
  cases hs : plan.rules
  case none   => rfl
  case some r => exact Rules.build_memory (hr r hs)

theorem window_of_check (h : check ∈ (plan.admission.chain side).checks) :
    ((plan.rules.map Rules.windows).getD [])[check.limiter.slot]? = some (.make check.limiter.quota) := by
  rw [admission] at h
  cases hs : plan.rules <;> rw [hs] at h
  case none   => cases side <;> cases h
  case some r => exact Rules.window_of_limiter (hr r hs) (Rules.mem_limiters h)

theorem start_of_distinct (hn : (plan.nodes.map Endpoint.address).Nodup) :
    ∃ server, plan.start = .ok server ∧ plan.RunBy server := by
  rw [start, Pool.ofEndpoints_eq_ok.mpr ⟨hn, rfl⟩, build_memory hr]
  refine ⟨_, rfl, ?_⟩
  exact {
    directory     := by rw [Directory.make, Pool.fresh_addresses]
    policy        := rfl
    timeout       := rfl
    maxBody       := rfl
    maxConcurrent := rfl
    reapInterval  := rfl
    checks        := plan.admission_charges
    onError       := fun _ _ => admission_onError
    windows       := fun _ _ => window_of_check hr }

end

theorem start_of_repeated {a : String} (h : firstRepeated? (plan.nodes.map Endpoint.address) = some a) :
    plan.start = .error (.config s!"node {a} is already registered") := by
  rw [start, Pool.ofEndpoints_of_repeated h]
  rfl

end Plan

namespace Settings

variable {s : Settings} {plan : Plan}

-- A server starts from settings that were checked if no two nodes have the same address, which only its pool looks at,
-- and it runs by the plan that was made of them. Otherwise the first address that is repeated is reported. All this is
-- said of servers that are to let in no more requests at once than can be counted.
theorem launch_of_check (hs : ∀ r ∈ s.rateLimit, r.store = .memory) (h : s.check = .ok plan)
    (hm : plan.maxConcurrent < 2 ^ 61) :
    plan.nodes.map Endpoint.address = s.nodes.map (·.address) ∧
    ((s.nodes.map (·.address)).Nodup → ∃ server, plan.launch = .serving server ∧ plan.RunBy server) ∧
    ∀ before a after, s.nodes.map (·.address) = before ++ a :: after → before.Nodup → a ∈ before →
      plan.launch = .refused (.config s!"node {a} is already registered") := by
  have hy := yields_of_check h
  rw [← hy.addresses]
  have hl : plan.maxConcurrent ≤ Server.countLimit := Nat.le_of_lt_succ hm
  refine ⟨rfl, fun hn => ?_, fun before a after he hn ha => ?_⟩
  · have ⟨server, hr, hb⟩ := Plan.start_of_distinct (hy.memory hs) hn
    refine ⟨server, ?_, hb⟩
    rw [Plan.launch, hr]
    exact if_pos (hb.maxConcurrent ▸ hl)
  · rw [Plan.launch, Plan.start_of_repeated (he ▸ firstRepeated?_append hn ha)]

def bare : Settings :=
  ⟨none, [⟨"http://a:1", 1⟩, ⟨"http://b:1", 2⟩], none, none, none, none, none, none, none, none, none⟩

-- Every call is charged to one quota as it arrives.
def metered : Settings :=
  { bare with rateLimit := some { RateLimitSettings.default with global := some ⟨1000, 5⟩ } }

def twins : Settings :=
  { bare with nodes := [⟨"http://a:1", 1⟩, ⟨"http://b:1", 2⟩, ⟨"http://a:1", 3⟩] }

def crowded : Settings :=
  { bare with maxConcurrentRequests := some (UInt64.size - 1) }

theorem launch_of_check_metered : ∃ plan, metered.check = .ok plan ∧ plan.maxConcurrent < 2 ^ 61 ∧
    ∃ server, plan.launch = .serving server ∧
      (server.chain .server).checks.map (·.scope) = [.everything "global"] := by
  have hf : metered.check.toOption.map (fun plan => (plan.maxConcurrent, (plan.charges .server).map Prod.fst)) =
      some (1000, [.everything "global"]) := by decide +kernel
  have ⟨plan, hc, hp⟩ := toOption_map_eq_some.mp hf
  have ⟨hm, hx⟩ := Prod.mk.inj hp
  have hl : plan.maxConcurrent < 2 ^ 61 := hm ▸ (by decide)
  have ⟨_, hd, _⟩ := launch_of_check (by simp [metered, RateLimitSettings.default]) hc hl
  have ⟨server, hs, hb⟩ := hd (by decide)
  refine ⟨plan, hc, hl, server, hs, ?_⟩
  rw [← hx, ← hb.checks, map_map]
  rfl

-- Neither a node that is named twice nor a number that cannot be counted is found when settings are checked.
theorem not_all_launch :
    (∃ plan, twins.check = .ok plan ∧
      plan.launch = .refused (.config "node http://a:1 is already registered")) ∧
    ∃ plan, crowded.check = .ok plan ∧ plan.launch = .broken := by
  constructor
  case left =>
    have hf : twins.check.toOption.map (·.nodes.map Endpoint.address) =
        some ["http://a:1", "http://b:1", "http://a:1"] := by decide +kernel
    have ⟨plan, hc, hn⟩ := toOption_map_eq_some.mp hf
    refine ⟨plan, hc, ?_⟩
    rw [Plan.launch, Plan.start_of_repeated (a := "http://a:1") (hn ▸ (by decide))]
    rfl
  case right =>
    have hf : crowded.check.toOption.map (fun plan => (plan.maxConcurrent, plan.rules.isSome)) =
        some (UInt64.size - 1, false) := by decide +kernel
    have ⟨plan, hc, hp⟩ := toOption_map_eq_some.mp hf
    have ⟨hm, hr⟩ := Prod.mk.inj hp
    have hn : (plan.nodes.map Endpoint.address).Nodup := (yields_of_check hc).addresses ▸ (by decide)
    have ⟨server, hs, hb⟩ := Plan.start_of_distinct (by simp_all) hn
    refine ⟨plan, hc, ?_⟩
    rw [Plan.launch, hs]
    exact if_neg (by rw [hb.maxConcurrent, hm]; decide)

end Settings

end Sluice
