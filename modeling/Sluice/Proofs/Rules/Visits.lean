import Sluice.Proofs.Rules.Windows

open List

namespace Sluice

namespace Admission

-- A call comes to the chain of its side.
def visit (a : Admission) (v : Visit) (ws : List SlidingWindow) : Except Fault Unit × List SlidingWindow :=
  (a.chain v.side).screen v.ask v.call ws

-- The windows after calls have come one after another, to either side.
def visits (a : Admission) (vs : List Visit) (ws : List SlidingWindow) : List SlidingWindow :=
  vs.foldl (fun ws v => (a.visit v ws).2) ws

theorem visits_snoc (a : Admission) (vs : List Visit) (v : Visit) (ws : List SlidingWindow) :
    a.visits (vs ++ [v]) ws = (a.visit v (a.visits vs ws)).2 := by
  rw [visits, foldl_append]
  rfl

end Admission

-- Calls that come in the order of their times, which stay below the limit.
structure Punctual (vs : List Visit) : Prop where
  ordered : vs.Pairwise (·.now ≤ ·.now)
  bounded : ∀ v ∈ vs, v.now < Quota.timeLimit

namespace Punctual

variable {vs vs' : List Visit} {v : Visit}

theorem sublist (h : Punctual vs) (hs : vs' <+ vs) : Punctual vs' where
  ordered      := h.ordered.sublist hs
  bounded v hv := h.bounded v (hs.mem hv)

theorem last_lt (h : Punctual (vs ++ [v])) : v.now < Quota.timeLimit :=
  h.bounded v (by simp)

theorem le_last (h : Punctual (vs ++ [v])) : ∀ u ∈ vs, u.now ≤ v.now :=
  fun u hu => (pairwise_append.mp h.ordered).right.right u hu v (mem_singleton_self v)

end Punctual

namespace Rules

variable {r : Rules} {ledger : Ledger} {now t : Nat} {ws : List SlidingWindow} {v : Visit} {earlier : List Visit}

-- The windows of all limiters keep what a ledger says.
def Keeps (r : Rules) (ledger : Ledger) (now : Nat) (ws : List SlidingWindow) : Prop :=
  ∀ side, r.reach.covers side → KeptFrom r.scopes (r.first side) 0 ledger side now ws

theorem Keeps.mono (h : r.Keeps ledger now ws) (ht : now ≤ t) : r.Keeps ledger t ws := by
  intro side hc i x hx
  have ⟨w, hs, hk⟩ := h side hc i x hx
  exact ⟨w, hs, hk.mono ht⟩

theorem keeps_windows (hm : r.shelf = .memory) (now : Nat) : r.Keeps [] now r.windows := by
  intro side hc i x hx
  refine ⟨.make x.2, ?_, .fresh ..⟩
  rw [Nat.zero_add, windows_memory hm, getElem?_map, limiters_getElem? hc hx]
  rfl

-- The places of one side are not those of the other.
theorem first_apart {side other : Side} {i : Nat} (hs : side ≠ other) (hc : r.reach.covers side)
    (ho : r.reach.covers other) (hi : i < r.scopes.length) :
    r.first side + i < r.first other ∨ r.first other + r.scopes.length ≤ r.first side + i := by
  cases side <;> cases other <;> simp_all [first, Reach.covers]

theorem visit_keeps (hb : v.now < Quota.timeLimit) (h : r.Keeps ledger v.now ws) :
    (r.admission.visit v ws).1 = outcome (refusal? ledger v (r.dues v)) ∧
    r.Keeps (ledger ++ used ledger v (r.dues v)) v.now (r.admission.visit v ws).2 := by
  by_cases hc : r.reach.covers v.side
  case neg =>
    have hv : r.admission.visit v ws = (.ok (), ws) := by
      rw [Admission.visit, Chain.screen, admission_checks, if_neg hc, Chain.screenChecks]
    rw [hv, dues_eq, if_neg hc]
    exact ⟨rfl, by rwa [used, takeWhile_nil, map_nil, append_nil]⟩
  case pos =>
    have hv : r.admission.visit v ws =
        Chain.screenChecks v.ask (r.admission.chain v.side).onError v.call
          (r.checks v.side) ws := by
      rw [Admission.visit, Chain.screen, admission_checks, if_pos hc]
    have he := screen_entered (r.keyStem ++ v.side.name ++ ":") (r.admission.chain v.side).onError hb (h v.side hc)
    rw [hv, dues_eq, if_pos hc]
    refine ⟨he.verdict, fun side hs => ?_⟩
    by_cases hv : side = v.side
    case pos => exact hv ▸ he.kept
    case neg =>
      refine (h side hs).congr (fun i _ key => ?_) fun i hi => he.frame _ ?_
      · have hn : Ledger.times (used ledger v (Sluice.dues v.call r.scopes 0)) side i key = [] :=
          Ledger.times_eq_nil fun g hg hg' => absurd (hg'.symm.trans (mem_used hg).left) hv
        rw [Ledger.times_append, hn, append_nil]
      · simpa using first_apart hv hs hc hi

theorem visits_keeps (hm : r.shelf = .memory) (hp : Punctual earlier) (ht : ∀ v ∈ earlier, v.now ≤ t) :
    r.Keeps (r.ledger earlier) t (r.admission.visits earlier r.windows) := by
  induction earlier using reverseRecOn generalizing t
  case nil => exact keeps_windows hm t
  case append_singleton vs v hi =>
    rw [Admission.visits_snoc, ledger_snoc]
    have hk := hi (hp.sublist (sublist_append_left ..)) hp.le_last
    exact (visit_keeps hp.last_lt hk).right.mono (ht v (by simp))

-- The chains that rules build are a ledger of used slots: each rule counts the calls of its own side and its own
-- key, in windows that no other limiter writes to, and the first rule that has no room refuses the call.
theorem visits_account (r : Rules) (hm : r.shelf = .memory) : ∃ a, r.build = .ok a ∧
    a.limiters = (a.server.checks ++ a.client.checks).map (·.limiter) ∧
    a.limiters.map (·.slot) = range r.windows.length ∧
    (∀ l ∈ a.limiters, r.windows[l.slot]? = some (.make l.quota)) ∧
    (∀ l ∈ a.limiters, ∀ i ≠ l.slot, ∀ key now ws, (l.ask key now ws).2[i]? = ws[i]?) ∧
    ∀ earlier v, Punctual (earlier ++ [v]) →
      let ledger := r.ledger earlier
      let later := r.ledger (earlier ++ [v])
      let out := a.visit v (a.visits earlier r.windows)
      (out.1 = .ok () ↔ ∀ c ∈ r.dues v, c.hasRoom ledger v) ∧
      (out.1 = .ok () → later = ledger ++ (r.dues v).map (·.grant v)) ∧
      (∀ e, out.1 = .error e ↔ ∃ before c after,
        r.dues v = before ++ c :: after ∧ (∀ b ∈ before, b.hasRoom ledger v) ∧ ¬c.hasRoom ledger v ∧
        e = .limited c.tier ∧ later = ledger ++ before.map (·.grant v)) ∧
      (∀ side rule check, (a.chain side).checks[rule]? = some check → ∃ w, out.2[check.limiter.slot]? = some w ∧
        ∀ key, w.live key v.now =
          (later.times side rule key).filter (v.now < · + check.limiter.quota.window.millis)) ∧
      (r.reach.covers v.side = false → out.1 = .ok ()) ∧
      out.1 = (a.visit v (a.visits (earlier.filter (·.side = v.side)) r.windows)).1 := by
  refine ⟨r.admission, build_memory hm, admission_limiters r, ?_, ?_, ?_, ?_⟩
  · rw [windows_memory hm, length_map, admission_slots]
  · intro l hl
    have ⟨i, hi⟩ := getElem?_of_mem hl
    rw [windows_memory hm, getElem?_map, slot_of_getElem? hi, hi]
    rfl
  · exact fun l _ i hi key now ws => l.ask_getElem?_ne hi.symm key now
  intro earlier v hp ledger later out
  have hk : r.Keeps ledger v.now (r.admission.visits earlier r.windows) :=
    visits_keeps hm (hp.sublist (sublist_append_left ..)) hp.le_last
  have ⟨ho, hl⟩ := visit_keeps hp.last_lt hk
  have hs : later = ledger ++ used ledger v (r.dues v) := ledger_snoc ..
  rw [← hs] at hl
  refine ⟨?_, ?_, ?_, ?_, ?_, ?_⟩
  · rw [ho, outcome_eq_ok]
  · rw [ho, outcome_eq_ok]
    exact fun hr => by rw [hs, used_of_room hr]
  · intro e
    rw [ho, outcome_eq_error]
    constructor
    case mp =>
      rintro ⟨before, c, after, he, hb, hc, rfl⟩
      exact ⟨before, c, after, he, hb, hc, rfl, by rw [hs, he, used_append_of_full hb hc]⟩
    case mpr =>
      rintro ⟨before, c, after, he, hb, hc, rfl, _⟩
      exact ⟨before, c, after, he, hb, hc, rfl⟩
  · intro side rule check hc
    obtain ⟨hv, x, hx, rfl⟩ := checks_getElem?.mp hc
    have ⟨w, hw, hk⟩ := hl side hv rule x hx
    rw [Nat.zero_add] at hw hk
    exact ⟨w, hw, hk.live_eq hp.last_lt⟩
  · intro hc
    rw [ho, dues_eq, hc]
    rfl
  · have hf : Punctual (earlier.filter (·.side = v.side)) := hp.sublist (filter_sublist.trans (sublist_append_left ..))
    have hk' := visits_keeps hm hf fun u hu => hp.le_last u (filter_sublist.mem hu)
    rw [ho, (visit_keeps hp.last_lt hk').left, ledger_filter_side, refusal?_filter_side]

-- Four calls a second on each side, three of them to the users, and one for each user.
def frugal : Rules where
  shelf        := .memory
  keyStem      := "sluice:"
  onError      := .failClosed
  reach        := .both
  global       := some ⟨.ofMillis 1000, 4, by decide, by decide⟩
  services     := [⟨"/UserService", ⟨.ofMillis 1000, 3, by decide, by decide⟩⟩]
  businessKeys := [⟨"/UserService/GetById", "id", ⟨.ofMillis 1000, 1, by decide, by decide⟩⟩]

def userCall (side : Side) (id now : Nat) : Visit :=
  { side, call := ⟨"/UserService/GetById", .obj [("id", .int id)], []⟩, now }

-- The second call for a user is refused, but it uses up slots of the users and of all calls. So then does the call for
-- another user, and the next one finds no slot for users left. The other side does not notice, and a second after
-- the first call there is room again.
theorem visits_account_frugal : frugal.shelf = .memory ∧ ∃ a, frugal.build = .ok a ∧
    let ws₁ := a.visits [userCall .server 7 0] frugal.windows
    let ws₃ := a.visits [userCall .server 7 0, userCall .server 7 10, userCall .server 8 20] frugal.windows
    (a.visit (userCall .server 7 10) ws₁).1 = .error (.limited .businessKey) ∧
    (a.visit (userCall .server 9 30) ws₃).1 = .error (.limited .service) ∧
    (a.visit (userCall .client 7 30) ws₃).1 = .ok () ∧
    (a.visit (userCall .server 7 1000) ws₃).1 = .ok () := by
  have ⟨a, ha, _, _, _, _, hv⟩ := visits_account frugal rfl
  let earlier := [userCall .server 7 0, userCall .server 7 10, userCall .server 8 20]
  have hk := hv [userCall .server 7 0] (userCall .server 7 10) ⟨by decide, by decide⟩
  have hs := hv earlier (userCall .server 9 30) ⟨by decide, by decide⟩
  have hc := hv earlier (userCall .client 7 30) ⟨by decide, by decide⟩
  have hl := hv earlier (userCall .server 7 1000) ⟨by decide, by decide⟩
  refine ⟨rfl, a, ha, ?_, ?_, hc.left.mpr (by decide), hl.left.mpr (by decide)⟩
  · exact (hk.right.right.left _).mpr ⟨[_, _], _, _, rfl, by decide, by decide, rfl, by decide⟩
  · exact (hs.right.right.left _).mpr ⟨[_], _, _, rfl, by decide, by decide, rfl, by decide⟩

end Rules

end Sluice
