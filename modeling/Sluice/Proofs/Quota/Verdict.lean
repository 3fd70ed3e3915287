import Sluice.Proofs.Quota.History

open List

namespace Sluice.SlidingWindow

variable {q : Quota} {key : String} {now t : Nat} {e : Event} {es : List Event}

theorem admits_self (w : SlidingWindow) :
    w.admits key (.ask key now) = if w.quota.limit ≤ (w.live key now).length then [] else [now] := by
  simp only [admits, ask_fst]
  split <;> simp_all

theorem live_run (h : Orderly (es ++ [.ask key now])) :
    ((make q).run es).live key now = (admissions key (make q) es).filter (now < · + q.windowMs) := by
  have hb : now < Quota.timeLimit := h.bounded (.ask key now) (by simp) rfl
  have tr : Tracks _ key _ now := run_tracks q key h.left (h.time_le rfl)
  rw [tr.live_eq]
  simp [make, Quota.lt_expiry_iff hb]

-- A request is over the quota exactly when so many requests of its key have been let through within the
-- window before it.
theorem ask_run_iff (h : Orderly (es ++ [.ask key now])) :
    (((make q).run es).ask key now).1 ↔
      q.limit ≤ ((admissions key (make q) es).filter (now < · + q.windowMs)).length := by
  rw [ask_fst, live_run h]
  simp [make]

-- No window of the length of the quota's has more admissions in it than the quota says: at the last of
-- them, all the others counted.
theorem admissions_window_le (h : Orderly es) (start : Nat) :
    ((admissions key (make q) es).filter fun t => start ≤ t ∧ t < start + q.windowMs).length ≤ q.limit := by
  induction es using reverseRecOn
  case nil => simp [admissions]
  case append_singleton es e hi =>
    have hl := hi h.left
    rw [admissions_snoc, filter_append, length_append]
    cases e
    case sweep => simpa [admits] using hl
    case ask k now =>
      by_cases hk : k = key
      case neg => simpa [admits, hk] using hl
      case pos =>
        subst hk
        rw [admits_self, live_run h, run_quota, show (make q).quota = q from rfl]
        split
        case isTrue        => simpa using hl
        case isFalse hroom =>
          by_cases hin : start ≤ now ∧ now < start + q.windowMs
          case neg => simpa [hin] using hl
          case pos =>
            have hsub : ((admissions k (make q) es).filter fun t => start ≤ t ∧ t < start + q.windowMs).length ≤
                ((admissions k (make q) es).filter (now < · + q.windowMs)).length := by
              refine (monotone_filter_right _ fun t ht => ?_).length_le
              simp only [decide_eq_true_eq] at ht ⊢
              omega
            simp only [hin, and_self, decide_true, filter_cons_of_pos, filter_nil, length_singleton]
            omega

theorem mem_admissions (h : t ∈ admissions key (make q) es) : .ask key t ∈ es := by
  induction es using reverseRecOn
  case nil => simp [admissions] at h
  case append_singleton es e hi =>
    rw [admissions_snoc, mem_append] at h
    rw [mem_append, mem_singleton]
    cases h
    case inl h => exact .inl (hi h)
    case inr h =>
      cases e <;> simp only [admits] at h
      case sweep => simp at h
      case ask   => split at h <;> simp_all

theorem Orderly.admitted (h : Orderly (es ++ [.ask key now])) :
    Orderly ((admissions key (make q) es).map (.ask key) ++ [.ask key now]) where
  ordered := by
    have tr : Tracks _ key _ now := run_tracks q key h.left (h.time_le rfl)
    simpa [pairwise_append, pairwise_map, Event.time, Event.isAsk] using ⟨tr.sorted, tr.le⟩
  bounded e he _ := by
    simp only [mem_append, mem_map, mem_singleton] at he
    obtain ⟨t, ht, rfl⟩ | rfl := he
    · exact h.left.bounded (.ask key t) (mem_admissions ht) rfl
    · exact h.bounded (.ask key now) (by simp) rfl

-- Played again alone, the requests that were let through are let through.
theorem admissions_replay (h : Orderly es) :
    admissions key (make q) ((admissions key (make q) es).map (.ask key)) = admissions key (make q) es := by
  induction es using reverseRecOn
  case nil => rfl
  case append_singleton es e hi =>
    have hl := hi h.left
    rw [admissions_snoc]
    cases e
    case sweep => simpa [admits] using hl
    case ask k now =>
      by_cases hk : k = key
      case neg => simpa [admits, hk] using hl
      case pos =>
        subst hk
        rw [admits_self]
        split
        case isTrue  => simpa using hl
        case isFalse hroom =>
          have hroom' : ¬ q.limit ≤ (((make q).run ((admissions k (make q) es).map (.ask k))).live k now).length := by
            rw [live_run h.admitted, hl, ← live_run h]
            simpa [make] using hroom
          rw [map_append, map_singleton, admissions_snoc, hl, admits_self, run_quota, show (make q).quota = q from rfl,
            if_neg hroom']

-- The verdict on a request is a matter of the requests of its key that were let through before it and of
-- nothing else: not of other keys, of requests that were refused, or of sweeps.
theorem verdict_iff_history {ms limit : Nat} (hq : Quota.make (.ofMillis ms) limit = .ok q)
    (hm : ms ≤ Quota.timeLimit) (h : Orderly es) (key : String) :
    (∀ earlier now later, es = earlier ++ .ask key now :: later →
      let history := admissions key (make q) earlier
      ((((make q).run earlier).ask key now).1 ↔ limit ≤ (history.filter (now < · + ms)).length) ∧
      (((make q).run earlier).ask key now).1 = (((make q).run (history.map (.ask key))).ask key now).1) ∧
    ∀ start, ((admissions key (make q) es).filter fun t => start ≤ t ∧ t < start + ms).length ≤ limit := by
  have ⟨hw, hl⟩ := Quota.make_eq_ok hq
  have hms := Quota.windowMs_ofMillis hw hm
  rw [← hms, ← hl]
  refine ⟨fun earlier now later he => ?_, admissions_window_le h⟩
  have ho : Orderly (earlier ++ [.ask key now]) := by
    rw [he, ← singleton_append, ← append_assoc] at h
    exact h.left
  refine ⟨ask_run_iff ho, ?_⟩
  rw [Bool.eq_iff_iff, ask_run_iff ho, ask_run_iff ho.admitted, admissions_replay ho.left]

-- Two requests a second: other keys, refused requests and early sweeps come in between.
def twoPerSecond : List Event :=
  [.ask "k" 0, .ask "k" 600, .ask "j" 700, .sweep 650, .ask "k" 999, .sweep 1000, .ask "k" 1000, .ask "k" 1500]

theorem verdict_twoPerSecond : ∃ q, Quota.make (.ofMillis 1000) 2 = .ok q ∧ 1000 ≤ Quota.timeLimit ∧ Orderly twoPerSecond ∧
    (((make q).run (twoPerSecond.take 6)).ask "k" 1000).1 = false ∧
    (((make q).run (twoPerSecond.take 7)).ask "k" 1500).1 = true ∧
    ∀ start, ((admissions "k" (make q) twoPerSecond).filter fun t => start ≤ t ∧ t < start + 1000).length ≤ 2 := by
  have ho : Orderly twoPerSecond := ⟨by decide, by decide⟩
  have hv := verdict_iff_history (rfl : Quota.make (.ofMillis 1000) 2 = .ok _) (by decide) ho "k"
  refine ⟨_, rfl, by decide, ho, ?_, ?_, hv.right⟩
  · rw [Bool.eq_false_iff, ne_eq, (hv.left _ _ _ rfl).left]
    decide
  · rw [(hv.left _ _ _ rfl).left]
    decide

end Sluice.SlidingWindow
