import Sluice.Proofs.Admission.Screening
import Sluice.Proofs.Quota.History
import Sluice.Proofs.Rules.Ledger

open List

namespace Sluice

namespace Rules

variable {r : Rules} {side : Side} {rule : Nat} {scope : Scope} {quota : Quota}

theorem checksFrom_getElem? (stem : String) (scopes : List (Scope × Quota)) (first i : Nat) :
    (checksFrom stem scopes first)[i]? =
      scopes[i]?.map fun x => ⟨x.1, { slot := first + i, quota := x.2, keyStem := stem }⟩ := by
  simp only [checksFrom, getElem?_map, getElem?_zipIdx, Option.map_map]
  rfl

theorem checksFrom_slots (stem : String) (scopes : List (Scope × Quota)) (first : Nat) :
    (checksFrom stem scopes first).map (·.limiter.slot) = range' first scopes.length := by
  rw [← zipIdx_map_snd]
  simp only [checksFrom, map_map]
  rfl

theorem first_client (r : Rules) : r.first .client = (r.admission.chain .server).checks.length := by
  rw [admission_checks]
  cases h : r.reach.covers .server <;> simp_all [first, Reach.covers, checks]

-- Each limiter has a place of its own, and no place is left out.
theorem admission_slots (r : Rules) :
    r.admission.limiters.map (·.slot) = range r.admission.limiters.length := by
  have hs (side : Side) : (r.admission.chain side).checks.map (·.limiter.slot) =
      range' (r.first side) (r.admission.chain side).checks.length := by
    rw [admission_checks]
    split <;> simp [checks, checksFrom_slots]
  have h₁ := hs .server
  have h₂ := hs .client
  rw [first_client] at h₂
  rw [admission_limiters, length_map, map_map, map_append, length_append, range_eq_range', ← range'_append_1,
    Nat.zero_add]
  exact congrArg₂ _ h₁ h₂

theorem slot_of_getElem? {l : Limiter} {i : Nat} (h : r.admission.limiters[i]? = some l) : l.slot = i := by
  have hi := (List.getElem?_eq_some_iff.mp h).fst
  have hs := congrArg (·[i]?) (admission_slots r)
  simpa [h, getElem?_range hi] using hs

-- The check of a rule has the limiter in the place of the rule, counted from where the side begins.
theorem checks_getElem? {check : Check Limiter} : (r.admission.chain side).checks[rule]? = some check ↔
    r.reach.covers side ∧ ∃ x, r.scopes[rule]? = some x ∧
      check = ⟨x.1, { slot := r.first side + rule, quota := x.2, keyStem := r.keyStem ++ side.name ++ ":" }⟩ := by
  rw [admission_checks]
  split
  case isTrue hc  => simp [hc, checks, checksFrom_getElem?, eq_comm]
  case isFalse hc => simp [hc]

theorem limiters_getElem? (hc : r.reach.covers side) (hx : r.scopes[rule]? = some (scope, quota)) :
    r.admission.limiters[r.first side + rule]? =
      some { slot := r.first side + rule, quota, keyStem := r.keyStem ++ side.name ++ ":" } := by
  have hs : (r.admission.chain side).checks[rule]? =
      some ⟨scope, { slot := r.first side + rule, quota, keyStem := r.keyStem ++ side.name ++ ":" }⟩ :=
    checks_getElem?.mpr ⟨hc, _, hx, rfl⟩
  rw [admission_limiters, getElem?_map]
  cases side
  case server =>
    have hi := (List.getElem?_eq_some_iff.mp hs).fst
    rw [first, Nat.zero_add, getElem?_append_left hi, hs]
    simp [first]
  case client =>
    rw [first_client, getElem?_append_right (Nat.le_add_right ..), Nat.add_sub_cancel_left, hs, first_client]
    rfl

theorem windows_memory (hm : r.shelf = .memory) : r.windows = r.admission.limiters.map fun l => .make l.quota := by
  rw [windows, hm]

end Rules

theorem Limiter.ask_of_window {ws : List SlidingWindow} {l : Limiter} {w : SlidingWindow} (h : ws[l.slot]? = some w)
    (key : String) (now : Nat) : l.ask key now ws =
      (if (w.ask key now).1 then .deny else .allow, ws.set l.slot (w.ask key now).2) := by
  rw [ask, h]

-- A limiter writes to its own place only.
theorem Limiter.ask_getElem?_ne {ws : List SlidingWindow} {l : Limiter} {i : Nat} (h : l.slot ≠ i) (key : String)
    (now : Nat) : (l.ask key now ws).2[i]? = ws[i]? := by
  rw [ask]
  split
  case h_1 => rfl
  case h_2 => exact getElem?_set_ne h

open SlidingWindow in
-- A window that has kept what a ledger says of a rule.
structure Kept (ledger : Ledger) (side : Side) (rule : Nat) (quota : Quota) (now : Nat) (w : SlidingWindow) : Prop where
  quota  : w.quota = quota
  tracks : ∀ key, Tracks w key (ledger.times side rule key) now

namespace Kept

variable {ledger more : Ledger} {side : Side} {rule now t : Nat} {quota : Quota} {w : SlidingWindow} {key : String}
         {v : Visit} {c : Charge}

theorem fresh (side : Side) (rule : Nat) (quota : Quota) (now : Nat) : Kept [] side rule quota now (.make quota) where
  quota := rfl
  tracks key := { split := ⟨[], rfl, by simp⟩, sorted := .nil, le := by simp [Ledger.times] }

theorem mono (h : Kept ledger side rule quota now w) (ht : now ≤ t) : Kept ledger side rule quota t w where
  quota      := h.quota
  tracks key := (h.tracks key).mono ht

theorem congr (h : Kept ledger side rule quota now w)
    (hl : ∀ key, more.times side rule key = ledger.times side rule key) : Kept more side rule quota now w where
  quota      := h.quota
  tracks key := hl key ▸ h.tracks key

theorem live_eq (h : Kept ledger side rule quota now w) (hb : now < Quota.timeLimit) (key : String) :
    w.live key now = (ledger.times side rule key).filter (now < · + quota.window.millis) := by
  rw [(h.tracks key).live_eq, h.quota]
  refine filter_congr fun t _ => ?_
  rw [decide_eq_decide, Quota.lt_expiry_iff hb, Quota.windowMs]
  omega

-- What a window says is what the ledger says.
theorem ask_eq (h : Kept ledger v.side c.rule c.quota v.now w) (hb : v.now < Quota.timeLimit) :
    (w.ask c.key v.now).1 = !c.hasRoom ledger v := by
  simp only [SlidingWindow.ask_fst, h.live_eq hb, h.quota, Charge.hasRoom, ← decide_not, not_lt]

theorem ask_of_full (h : Kept ledger side rule quota now w) (ha : (w.ask key now).1 = true) :
    Kept ledger side rule quota now (w.ask key now).2 where
  quota := by rw [SlidingWindow.ask_quota, h.quota]
  tracks other := by
    by_cases hk : other = key
    case pos => simpa [SlidingWindow.admits, hk, ha] using (h.tracks key).ask_self
    case neg => exact (h.tracks other).ask_other hk

theorem ask_of_room (h : Kept ledger v.side c.rule quota v.now w) (ha : (w.ask c.key v.now).1 = false) :
    Kept (ledger ++ [c.grant v]) v.side c.rule quota v.now (w.ask c.key v.now).2 where
  quota := by rw [SlidingWindow.ask_quota, h.quota]
  tracks other := by
    by_cases hk : other = c.key
    case pos => simpa [SlidingWindow.admits, hk, ha, Ledger.times, Charge.grant] using (h.tracks c.key).ask_self
    case neg =>
      have hn : Ledger.times [c.grant v] v.side c.rule other = [] :=
        Ledger.times_eq_nil (by simpa [Charge.grant] using Ne.symm hk)
      rw [Ledger.times_append, hn, append_nil]
      exact (h.tracks other).ask_other hk

end Kept

-- The windows of rules that are numbered from `rule` on.
def KeptFrom (scopes : List (Scope × Quota)) (first rule : Nat) (ledger : Ledger) (side : Side) (now : Nat)
    (ws : List SlidingWindow) : Prop :=
  ∀ i x, scopes[i]? = some x → ∃ w, ws[first + (rule + i)]? = some w ∧ Kept ledger side (rule + i) x.2 now w

section

variable {scopes : List (Scope × Quota)} {x : Scope × Quota} {first rule now : Nat} {ledger more : Ledger} {side : Side}
         {ws ws' : List SlidingWindow} {v : Visit}

theorem keptFrom_cons : KeptFrom (x :: scopes) first rule ledger side now ws ↔
    (∃ w, ws[first + rule]? = some w ∧ Kept ledger side rule x.2 now w) ∧
    KeptFrom scopes first (rule + 1) ledger side now ws := by
  have hs (i : Nat) : rule + 1 + i = rule + (i + 1) := by omega
  simp only [KeptFrom, hs]
  constructor
  case mp => exact fun h => ⟨h 0 x rfl, fun i y hy => h (i + 1) y hy⟩
  case mpr =>
    rintro ⟨h, ht⟩ i y hy
    cases i
    case zero   => cases hy; exact h
    case succ i => exact ht i y hy

-- Slots of other rules and windows in other places do not matter.
theorem KeptFrom.congr (h : KeptFrom scopes first rule ledger side now ws)
    (hl : ∀ i ≥ rule, ∀ key, more.times side i key = ledger.times side i key)
    (hw : ∀ i < scopes.length, ws'[first + (rule + i)]? = ws[first + (rule + i)]?) :
    KeptFrom scopes first rule more side now ws' := by
  intro i x hx
  have ⟨w, hs, hk⟩ := h i x hx
  exact ⟨w, (hw i (List.getElem?_eq_some_iff.mp hx).fst).trans hs, hk.congr (hl _ (Nat.le_add_right ..))⟩

theorem times_used_eq_nil {cs : List Charge} {i : Nat} {key : String} (h : ∀ c ∈ cs, i ≠ c.rule) :
    Ledger.times (used ledger v cs) side i key = [] := by
  refine Ledger.times_eq_nil fun g hg _ hr => ?_
  have ⟨_, c, hc, he⟩ := mem_used hg
  exact absurd (hr.symm.trans he) (h c hc)

-- What checks of rules that are numbered from `rule` on come to: the verdict and the windows after it are what the
-- ledger says, and windows in other places are left alone.
structure Entered (scopes : List (Scope × Quota)) (first rule : Nat) (ledger : Ledger) (v : Visit)
    (ws : List SlidingWindow) (out : Except Fault Unit × List SlidingWindow) : Prop where
  verdict : out.1 = outcome (refusal? ledger v (dues v.call scopes rule))
  kept    : KeptFrom scopes first rule (ledger ++ used ledger v (dues v.call scopes rule)) v.side v.now out.2
  frame   : ∀ i, (i < first + rule ∨ first + rule + scopes.length ≤ i) → out.2[i]? = ws[i]?

namespace Entered

variable {scope : Scope} {quota : Quota} {c : Charge} {w : SlidingWindow} {out : Except Fault Unit × List SlidingWindow}

-- The rules behind a rule do not use up slots of it.
theorem times_eq_nil (ledger : Ledger) (v : Visit) (scopes : List (Scope × Quota)) (rule : Nat) (key : String) :
    Ledger.times (used ledger v (dues v.call scopes (rule + 1))) v.side rule key = [] :=
  times_used_eq_nil fun _ hc => Nat.ne_of_lt (le_rule hc)

theorem done : Entered [] first rule ledger v ws (.ok (), ws) where
  verdict := rfl
  kept    := by simp [KeptFrom]
  frame   := by simp

theorem skip (hs : scope.key? v.call = none) (hw : ws[first + rule]? = some w)
    (hk : Kept ledger v.side rule quota v.now w) (h : Entered scopes first (rule + 1) ledger v ws out) :
    Entered ((scope, quota) :: scopes) first rule ledger v ws out where
  verdict := by
    rw [dues_cons_of_none hs]
    exact h.verdict
  kept    := by
    rw [dues_cons_of_none hs]
    refine keptFrom_cons.mpr ⟨⟨w, ?_, ?_⟩, h.kept⟩
    · rw [h.frame _ (by omega), hw]
    · exact hk.congr fun key => by rw [Ledger.times_append, times_eq_nil, append_nil]
  frame i hi := h.frame i (by rw [length_cons] at hi; omega)

theorem refuse (hs : scope.key? v.call = some c.key) (ht : scope.tier = c.tier) (hr : c.hasRoom ledger v = false)
    (hw : (ws.set (first + c.rule) w)[first + c.rule]? = some w) (hk : Kept ledger v.side c.rule c.quota v.now w)
    (h : KeptFrom scopes first (c.rule + 1) ledger v.side v.now (ws.set (first + c.rule) w)) :
    Entered ((scope, c.quota) :: scopes) first c.rule ledger v ws
      (.error (.limited c.tier), ws.set (first + c.rule) w) where
  verdict := by rw [dues_cons_of_key hs ht, refusal?_cons_of_full hr, outcome]
  kept    := by
    rw [dues_cons_of_key hs ht, used_cons_of_full hr, append_nil]
    exact keptFrom_cons.mpr ⟨⟨w, hw, hk⟩, h⟩
  frame i hi := getElem?_set_ne (by rw [length_cons] at hi; omega)

theorem proceed (hs : scope.key? v.call = some c.key) (ht : scope.tier = c.tier) (hr : c.hasRoom ledger v)
    (hw : (ws.set (first + c.rule) w)[first + c.rule]? = some w)
    (hk : Kept (ledger ++ [c.grant v]) v.side c.rule c.quota v.now w)
    (h : Entered scopes first (c.rule + 1) ledger v (ws.set (first + c.rule) w) out) :
    Entered ((scope, c.quota) :: scopes) first c.rule ledger v ws out where
  verdict := by
    rw [dues_cons_of_key hs ht, refusal?_cons_of_room hr]
    exact h.verdict
  kept    := by
    rw [dues_cons_of_key hs ht, used_cons_of_room hr, append_cons]
    refine keptFrom_cons.mpr ⟨⟨w, ?_, ?_⟩, h.kept.congr (fun i hi key => ?_) fun _ _ => rfl⟩
    · rw [h.frame _ (by omega), hw]
    · exact hk.congr fun key => by rw [Ledger.times_append, times_eq_nil, append_nil]
    · have hg : Ledger.times [c.grant v] v.side i key = [] :=
        Ledger.times_eq_nil (by simp [Charge.grant]; omega)
      rw [Ledger.times_append, Ledger.times_append, Ledger.times_append, hg, append_nil]
  frame i hi := by
    rw [length_cons] at hi
    exact (h.frame i (by omega)).trans (getElem?_set_ne (by omega))

end Entered

-- The limiters are asked at the time of the call.
def Visit.ask (v : Visit) (l : Limiter) (key : String) (ws : List SlidingWindow) : Verdict × List SlidingWindow :=
  l.ask key v.now ws

theorem screen_cons_of_none {scope : Scope} {quota : Quota} (hs : scope.key? v.call = none) (stem : String)
    (policy : FailPolicy) (ws : List SlidingWindow) :
    Chain.screenChecks v.ask policy v.call (Rules.checksFrom stem ((scope, quota) :: scopes) (first + rule)) ws =
      Chain.screenChecks v.ask policy v.call (Rules.checksFrom stem scopes (first + (rule + 1))) ws := by
  rw [Rules.checksFrom, zipIdx_cons, map_cons, Chain.screenChecks, hs]
  rfl

theorem screen_cons_of_key {scope : Scope} {quota : Quota} {w : SlidingWindow} {key : String}
    (hs : scope.key? v.call = some key) (hw : ws[first + rule]? = some w) (stem : String) (policy : FailPolicy) :
    Chain.screenChecks v.ask policy v.call (Rules.checksFrom stem ((scope, quota) :: scopes) (first + rule)) ws =
      let later := ws.set (first + rule) (w.ask key v.now).2
      if (w.ask key v.now).1 then (.error (.limited scope.tier), later)
      else Chain.screenChecks v.ask policy v.call (Rules.checksFrom stem scopes (first + (rule + 1))) later := by
  have ha : v.ask { slot := first + rule, quota, keyStem := stem } key ws = _ := Limiter.ask_of_window hw key v.now
  rw [Rules.checksFrom, zipIdx_cons, map_cons, Chain.screenChecks, hs]
  simp only [ha]
  cases (w.ask key v.now).1 <;> rfl

-- A chain says what the ledger says, and its windows keep what the call uses up.
theorem screen_entered (stem : String) (policy : FailPolicy) (hb : v.now < Quota.timeLimit)
    (h : KeptFrom scopes first rule ledger v.side v.now ws) :
    Entered scopes first rule ledger v ws
      (Chain.screenChecks v.ask policy v.call (Rules.checksFrom stem scopes (first + rule)) ws) := by
  induction scopes generalizing rule ws
  case nil => exact .done
  case cons x scopes hi =>
    obtain ⟨scope, quota⟩ := x
    have ⟨⟨w, hw, hk⟩, ht⟩ := keptFrom_cons.mp h
    cases hs : scope.key? v.call
    case none =>
      rw [screen_cons_of_none hs]
      exact .skip hs hw hk (hi ht)
    case some key =>
      let c : Charge := ⟨rule, scope.tier, quota, key⟩
      have ha : (w.ask key v.now).1 = !c.hasRoom ledger v := Kept.ask_eq (c := c) hk hb
      have hself : (ws.set (first + rule) (w.ask key v.now).2)[first + rule]? = some (w.ask key v.now).2 :=
        getElem?_set_self (List.getElem?_eq_some_iff.mp hw).fst
      have hlater : KeptFrom scopes first (rule + 1) ledger v.side v.now (ws.set (first + rule) (w.ask key v.now).2) :=
        ht.congr (fun _ _ _ => rfl) fun i _ => getElem?_set_ne (by omega)
      simp only [screen_cons_of_key hs hw, ha]
      cases hr : c.hasRoom ledger v
      case false => exact .refuse (c := c) hs rfl hr hself (hk.ask_of_full (by rw [ha, hr]; rfl)) hlater
      case true  =>
        have hw' := Kept.ask_of_room (c := c) hk (by rw [ha, hr]; rfl)
        exact .proceed (c := c) hs rfl hr hself hw' (hi hlater)

end

end Sluice
