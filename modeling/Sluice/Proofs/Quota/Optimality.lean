import Sluice.Proofs.Quota.Spacing

open List

namespace Sluice.SlidingWindow

-- A request, and whether some plan lets it through.
structure Planned where
  time   : Nat
  chosen : Bool

-- The times of the requests that a plan lets through.
def chosen (plan : List Planned) : List Nat :=
  (plan.filter (·.chosen)).map (·.time)

variable {q : Quota} {key : String} {limit now : Nat} {times : List Nat} {plan before within : List Planned}
         {p : Planned}

theorem chosen_append (plan plan' : List Planned) : chosen (plan ++ plan') = chosen plan ++ chosen plan' := by
  simp [chosen]

theorem mem_chosen {t : Nat} (h : t ∈ chosen plan) : t ∈ plan.map (·.time) := by
  simp only [chosen, mem_map, mem_filter] at h ⊢
  have ⟨p, hp, ht⟩ := h
  exact ⟨p, hp.left, ht⟩

theorem admitted_isPrefix (q : Quota) (key : String) (times later : List Nat) :
    admitted q key times <+: admitted q key (times ++ later) := by
  induction later using reverseRecOn
  case nil => simp
  case append_singleton later now hi =>
    rw [← append_assoc, admitted_snoc]
    exact hi.trans (prefix_append ..)

-- A request is only refused once the limit has been reached by requests that still count, and this leaves out all that
-- were let through too long before it.
theorem length_admitted_of_full {gone live : List Nat} (hs : (gone ++ live ++ [now]).Pairwise (· ≤ ·))
    (hb : ∀ t ∈ gone ++ live ++ [now], t < Quota.timeLimit) (hgone : ∀ t ∈ gone, t + q.windowMs ≤ now)
    (hfull : q.limit ≤ (((make q).run ((gone ++ live).map (.ask key))).live key now).length) :
    (admitted q key gone).length + q.limit ≤ (admitted q key (gone ++ live)).length := by
  have ho : Orderly ((gone ++ live).map (.ask key) ++ [.ask key now]) := by
    simpa using orderly_asks hs hb
  have ⟨rest, hrest⟩ := admitted_isPrefix q key gone live
  have hnone : (admitted q key gone).filter (now < · + q.windowMs) = [] := by
    simpa using fun t ht => hgone t (mem_admitted ht)
  have hle := length_filter_le (now < · + q.windowMs) rest
  rw [live_run ho, ← admitted, ← hrest, filter_append, hnone, nil_append] at hfull
  rw [← hrest, length_append]
  omega

-- The requests that still count at some moment are in one window.
theorem Fits.length_chosen_le {length : Nat} (h : Fits length limit (chosen plan))
    (hc : ∀ r ∈ plan, r.time ≤ now ∧ now < r.time + length) : (chosen plan).length ≤ limit := by
  refine h.length_le (now + 1 - length) fun t ht => ?_
  obtain ⟨r, hr, rfl⟩ := mem_map.mp (mem_chosen ht)
  have := hc r hr
  omega

theorem exists_split (hs : (plan.map (·.time)).Pairwise (· ≤ ·)) (length now : Nat) :
    ∃ before within, plan = before ++ within ∧
      (∀ r ∈ before, r.time + length ≤ now) ∧ ∀ r ∈ within, now < r.time + length := by
  induction plan
  case nil => exact ⟨[], [], rfl, by simp, by simp⟩
  case cons hd tl hi =>
    have ⟨hle, htl⟩ := pairwise_cons.mp hs
    by_cases hd.time + length ≤ now
    case pos h =>
      have ⟨before, within, he, hb, hw⟩ := hi htl
      exact ⟨hd :: before, within, by simp [he], by simpa [h] using hb, hw⟩
    case neg h =>
      refine ⟨[], hd :: tl, rfl, by simp, fun r hr => ?_⟩
      obtain rfl | hr := mem_cons.mp hr
      · omega
      · have : hd.time ≤ r.time := hle r.time (mem_map_of_mem hr)
        omega

-- Where the limiter refuses a request that the plan lets through, the limiter has let through as many requests of the
-- window as any plan can, and it was not behind when the window began.
theorem length_chosen_le_of_full (hw : 0 < q.windowMs)
    (hs : ((before ++ within).map (·.time) ++ [p.time]).Pairwise (· ≤ ·))
    (hb : ∀ t ∈ (before ++ within).map (·.time) ++ [p.time], t < Quota.timeLimit)
    (hf : Fits q.windowMs q.limit (chosen (before ++ within ++ [p])))
    (hgone : ∀ r ∈ before, r.time + q.windowMs ≤ p.time) (hlive : ∀ r ∈ within, p.time < r.time + q.windowMs)
    (hfull : q.limit ≤ (((make q).run (((before ++ within).map (·.time)).map (.ask key))).live key p.time).length)
    (hstart : (chosen before).length ≤ (admitted q key (before.map (·.time))).length) :
    (chosen (before ++ within ++ [p])).length ≤ (admitted q key ((before ++ within).map (·.time))).length := by
  have hlast : ∀ r ∈ within, r.time ≤ p.time := by
    intro r hr
    exact (pairwise_append.mp hs).right.right r.time (mem_map_of_mem (mem_append_right _ hr)) p.time (by simp)
  have hcount : ∀ r ∈ within ++ [p], r.time ≤ p.time ∧ p.time < r.time + q.windowMs := by
    simp only [forall_mem_append, forall_mem_singleton]
    exact ⟨fun r hr => ⟨hlast r hr, hlive r hr⟩, le_rfl, by omega⟩
  rw [append_assoc, chosen_append] at hf ⊢
  rw [map_append] at hs hb hfull ⊢
  have hplan := (hf.sublist (sublist_append_right ..)).length_chosen_le hcount
  have hlimiter := length_admitted_of_full hs hb (by simpa using hgone) hfull
  rw [length_append]
  omega

theorem length_chosen_snoc_le (hw : 0 < q.windowMs) (hs : ((plan ++ [p]).map (·.time)).Pairwise (· ≤ ·))
    (hb : ∀ t ∈ (plan ++ [p]).map (·.time), t < Quota.timeLimit) (hf : Fits q.windowMs q.limit (chosen (plan ++ [p])))
    (hi : ∀ part, part <+: plan → (chosen part).length ≤ (admitted q key (part.map (·.time))).length) :
    (chosen (plan ++ [p])).length ≤ (admitted q key ((plan ++ [p]).map (·.time))).length := by
  rw [map_append, map_singleton] at hs hb ⊢
  rw [admitted_snoc]
  split
  case isFalse =>
    have hplan := hi plan prefix_rfl
    have hp : (chosen [p]).length ≤ 1 := (length_map _).trans_le (length_filter_le _ _)
    rw [chosen_append, length_append, length_append, length_singleton]
    omega
  case isTrue hfull =>
    obtain ⟨before, within, rfl, hgone, hlive⟩ := exists_split (pairwise_append.mp hs).left q.windowMs p.time
    rw [append_nil]
    exact length_chosen_le_of_full hw hs hb hf hgone hlive hfull (hi before (prefix_append ..))

-- A plan is never ahead of the limiter.
theorem length_chosen_le (key : String) (hw : 0 < q.windowMs) (hs : (plan.map (·.time)).Pairwise (· ≤ ·))
    (hb : ∀ t ∈ plan.map (·.time), t < Quota.timeLimit) (hf : Fits q.windowMs q.limit (chosen plan)) :
    ∀ part, part <+: plan → (chosen part).length ≤ (admitted q key (part.map (·.time))).length := by
  induction plan using reverseRecOn
  case nil =>
    intro part hp
    simp [prefix_nil.mp hp, chosen]
  case append_singleton plan p hi =>
    have hplan := hi (hs.sublist ((sublist_append_left ..).map _)) (fun t ht => hb t (by simp_all))
      (hf.sublist (chosen_append plan [p] ▸ sublist_append_left ..))
    intro part hp
    obtain rfl | hp := prefix_concat_iff.mp hp
    · exact length_chosen_snoc_le hw hs hb hf hplan
    · exact hplan part hp

theorem exists_planned (q : Quota) (key : String) (times : List Nat) :
    ∃ plan : List Planned, plan.map (·.time) = times ∧ chosen plan = admitted q key times := by
  induction times using reverseRecOn
  case nil => exact ⟨[], rfl, rfl⟩
  case append_singleton times now hi =>
    have ⟨plan, ht, hc⟩ := hi
    rw [admitted_snoc]
    split
    case isTrue  => exact ⟨plan ++ [⟨now, false⟩], by simp [ht], by rw [chosen_append, hc]; rfl⟩
    case isFalse => exact ⟨plan ++ [⟨now, true⟩], by simp [ht], by rw [chosen_append, hc]; rfl⟩

-- The limiter throttles no more than the quota demands: at no time has any plan that keeps to the quota let more of the
-- requests through. What is let through under one quota is such a plan under a more generous one.
theorem admitted_most {ms : Nat} (hq : Quota.make (.ofMillis ms) limit = .ok q) (key : String)
    (hs : times.Pairwise (· ≤ ·)) (hb : ∀ t ∈ times, t < Quota.timeLimit) (k : Nat) :
    (∀ plan : List Planned, plan.map (·.time) = times → Fits ms limit (chosen plan) →
      (chosen (plan.take k)).length ≤ (admitted q key (times.take k)).length) ∧
    ∀ {ms' limit' q'}, Quota.make (.ofMillis ms') limit' = .ok q' → limit ≤ limit' → ms' ≤ ms →
      (admitted q key (times.take k)).length ≤ (admitted q' key (times.take k)).length := by
  have ⟨hwindow, hlimit⟩ := Quota.make_eq_ok hq
  have hms := Quota.windowMs_eq_min hwindow
  refine ⟨fun plan hp hf => ?_, fun {ms' limit' q'} hq' hlimit' hms' => ?_⟩
  · subst hp
    rw [← map_take]
    refine length_chosen_le key (q.windowMs_pos hwindow) hs hb (hf.mono ?_ hlimit.ge) _ <| take_prefix k plan
    rw [hms]
    exact min_le_left ..
  · have ⟨hwindow', hl'⟩ := Quota.make_eq_ok hq'
    have hs' := hs.sublist (take_sublist k times)
    have hb' : ∀ t ∈ times.take k, t < Quota.timeLimit := fun t ht => hb t (mem_of_mem_take ht)
    obtain ⟨plan, hp, hc⟩ := exists_planned q key (times.take k)
    have hf : Fits q'.windowMs q'.limit (chosen plan) := by
      rw [hc]
      refine (admitted_fits q key hs' hb').mono ?_ (by rwa [hlimit, hl'])
      rw [hms, Quota.windowMs_eq_min hwindow']
      exact min_le_min_right _ hms'
    rw [← hp] at hs' hb'
    have hle := length_chosen_le key (q'.windowMs_pos hwindow') hs' hb' hf plan prefix_rfl
    rwa [hc, hp] at hle

-- Two requests a second, of which the first that comes is not taken.
def patient : List Planned :=
  [⟨0, false⟩, ⟨600, true⟩, ⟨999, true⟩, ⟨1000, false⟩, ⟨1500, false⟩, ⟨1700, true⟩]

theorem admitted_most_patient :
    ∃ q q', Quota.make (.ofMillis 1000) 2 = .ok q ∧ Quota.make (.ofMillis 500) 3 = .ok q' ∧
      let times := patient.map (·.time)
      times.Pairwise (· ≤ ·) ∧ (∀ t ∈ times, t < Quota.timeLimit) ∧ Fits 1000 2 (chosen patient) ∧
      ∀ k, (chosen (patient.take k)).length ≤ (admitted q "k" (times.take k)).length ∧
        (admitted q "k" (times.take k)).length ≤ (admitted q' "k" (times.take k)).length := by
  have hs : (patient.map (·.time)).Pairwise (· ≤ ·) := by decide
  have hb : ∀ t ∈ patient.map (·.time), t < Quota.timeLimit := by decide
  have hf : Fits 1000 2 (chosen patient) := by
    intro start
    have hc : chosen patient = [600, 999, 1700] := rfl
    simp only [hc, filter_cons, filter_nil]
    split_ifs <;> simp_all; omega
  refine ⟨_, _, rfl, rfl, hs, hb, hf, fun k => ?_⟩
  have ⟨hplan, hquota⟩ := admitted_most (rfl : Quota.make (.ofMillis 1000) 2 = .ok _) "k" hs hb k
  exact ⟨hplan patient rfl hf, hquota (rfl : Quota.make (.ofMillis 500) 3 = .ok _) (by decide) (by decide)⟩

end Sluice.SlidingWindow
