import Sluice.Proofs.Quota.Forgetting

open List

namespace Sluice

namespace Quota

variable {q : Quota} {ms s t : Nat}

-- Below the limit of times it does not matter that windows in milliseconds stop there, too.
theorem lt_add_windowMs_iff (hw : q.window = .ofMillis ms) (ht : t < timeLimit) :
    t < s + q.windowMs ↔ t < s + ms := by
  rw [windowMs_eq_min hw]
  omega

end Quota

namespace SlidingWindow

-- Everything happens in the order of its time and below the limit of times, sweeps too.
structure InTime (es : List Event) : Prop where
  ordered : es.Pairwise (·.time ≤ ·.time)
  bounded : ∀ e ∈ es, e.time < Quota.timeLimit

-- How many times are kept for all keys together.
def entries (w : SlidingWindow) : Nat := (w.logs.map (·.2.length)).sum

-- No log has more in it than the quota says.
def Short (w : SlidingWindow) : Prop := ∀ key, (w.log key).length ≤ w.quota.limit

variable {w : SlidingWindow} {q : Quota} {key other : String} {now t : Nat} {e : Event} {es init : List Event}

namespace InTime

theorem orderly (h : InTime es) : Orderly es where
  ordered      := h.ordered.imp fun {e e'} (hle : e.time ≤ e'.time) (_ : e'.isAsk) => hle
  bounded e he := fun _ => h.bounded e he

theorem left (h : InTime (init ++ [e])) : InTime init where
  ordered      := (pairwise_append.mp h.ordered).left
  bounded e he := h.bounded e (mem_append_left _ he)

theorem sorted_log (h : InTime es) (q : Quota) (key : String) : (((make q).run es).log key).Pairwise (· ≤ ·) :=
  (run_tracks q key h.orderly fun e he => (h.bounded e he).le).sorted_log

theorem time_lt (h : InTime (init ++ [e])) : e.time < Quota.timeLimit :=
  h.bounded e (by simp)

theorem time_le (h : InTime (init ++ [e])) : ∀ e' ∈ init, e'.time ≤ e.time :=
  fun e' he => (pairwise_append.mp h.ordered).right.right e' he e (mem_singleton_self e)

theorem tracks (h : InTime (init ++ [e])) (q : Quota) (key : String) :
    Tracks ((make q).run init) key (admissions key (make q) init) e.time :=
  run_tracks q key h.left.orderly h.time_le

end InTime

namespace Short

theorem make (q : Quota) : (make q).Short := fun _ => Nat.zero_le _

theorem ask (h : w.Short) : (w.ask other now).2.Short := by
  intro key
  rw [ask_quota]
  by_cases hk : key = other
  case neg => exact (log_ask_other hk).symm ▸ h key
  case pos =>
    have hl : (w.live other now).length ≤ w.quota.limit := live_isSuffix.length_le.trans (h other)
    rw [hk, log_ask_self]
    split
    case isTrue      => exact hl
    case isFalse hlt => simpa using Nat.lt_of_not_le hlt

theorem sweep (h : w.Short) (hw : w.Keyed) : (w.sweep now).Short := by
  intro key
  rw [log_sweep hw]
  split
  case isTrue  => exact h key
  case isFalse => exact Nat.zero_le _

theorem run (h : w.Short) (hw : w.Keyed) : (w.run es).Short := by
  induction es using reverseRecOn
  case nil => exact h
  case append_singleton es e hi =>
    rw [run_snoc]
    cases e
    case ask   => exact hi.ask
    case sweep => exact hi.sweep hw.run

end Short

theorem lookup_of_mem {logs : List (String × List Nat)} {log : List Nat} (hn : (logs.map Prod.fst).Nodup)
    (h : (key, log) ∈ logs) : logs.lookup key = some log := by
  induction logs
  case nil => cases h
  case cons hd tl hi =>
    obtain ⟨k, l⟩ := hd
    have ⟨hk, htl⟩ := nodup_cons.mp hn
    rw [lookup_cons_eq]
    cases mem_cons.mp h
    case inl he => cases he; exact if_pos rfl
    case inr hm =>
      have hk' : key ∈ tl.map Prod.fst := mem_map_of_mem hm
      have hne : key ≠ k := fun he => hk (he ▸ hk')
      rw [if_neg hne, hi htl hm]

theorem entries_le (hs : w.Short) (hw : w.Keyed) : w.entries ≤ w.quota.limit * w.trackedKeys := by
  have hl : ∀ n ∈ w.logs.map (·.2.length), n ≤ w.quota.limit := by
    intro n hn
    have ⟨⟨key, log⟩, hm, he⟩ := mem_map.mp hn
    have hlog : w.log key = log := by rw [SlidingWindow.log, lookup_of_mem hw hm, Option.getD_some]
    rw [← he, ← hlog]
    exact hs key
  have hsum := sum_le_card_nsmul _ _ hl
  rwa [length_map, smul_eq_mul, Nat.mul_comm] at hsum

theorem mem_keys_of_mem_log (h : t ∈ w.log key) : key ∈ w.keys := by
  rw [mem_keys_iff]
  rw [SlidingWindow.log] at h
  cases hl : w.logs.lookup key
  case none => simp [hl] at h
  case some => rfl

-- What is in a log right after a request of its key has not left the window at that time.
theorem mem_log_ask (h : InTime (init ++ [.ask key now])) (hw : 0 < q.windowMs)
    (ht : t ∈ ((make q).run (init ++ [.ask key now])).log key) : t ≤ now ∧ now < t + q.windowMs := by
  have tr : Tracks _ key _ now := h.tracks q key
  rw [run_snoc, step, log_ask, tr.live_eq, mem_append, mem_filter] at ht
  cases ht
  case inl ht =>
    have hx : now < q.expiry t := by simpa using ht.right
    exact ⟨tr.le t ht.left, (Quota.lt_expiry_iff h.time_lt).mp hx⟩
  case inr ht =>
    rw [eq_now_of_mem_admits ht]
    exact ⟨le_rfl, Nat.lt_add_of_pos_right hw⟩

-- A sweep leaves the keys that have been let through lately, since what is no longer in a log has left the window.
theorem mem_keys_after_sweep (h : InTime (init ++ [.sweep now])) :
    key ∈ ((make q).run (init ++ [.sweep now])).keys ↔ ∃ t ∈ admissions key (make q) init, now < t + q.windowMs := by
  have tr : Tracks _ key _ now := h.tracks q key
  obtain ⟨gone, hs, hg⟩ := tr.split
  rw [run_quota, make_quota] at hg
  rw [run_snoc, step, mem_keys_sweep (keyed_make q).run]
  constructor
  case mp =>
    rintro ⟨hk, hst⟩
    obtain ⟨last, hl, _⟩ := last_of_mem_keys hk
    have hx : now < q.expiry last := by simpa using (stays_iff hl).mp hst
    exact ⟨last, hs ▸ mem_append_right _ (mem_of_getLast? hl), (Quota.lt_expiry_iff h.time_lt).mp hx⟩
  case mpr =>
    rintro ⟨t, ht, hx⟩
    replace hx : now < q.expiry t := (Quota.lt_expiry_iff h.time_lt).mpr hx
    have hm : t ∈ ((make q).run init).log key := by
      rw [hs, mem_append] at ht
      exact ht.resolve_left fun ht => (hg t ht).not_gt hx
    have hk := mem_keys_of_mem_log hm
    obtain ⟨last, hl, _⟩ := last_of_mem_keys hk
    have hle := q.expiry_mono (le_getLast? tr.sorted_log hl t hm)
    exact ⟨hk, (stays_iff hl).mpr (by simpa using hx.trans_le hle)⟩

-- No key has two logs, and each log has something in it, oldest first, but no more than the quota says.
structure WellKept (w : SlidingWindow) (limit : Nat) : Prop where
  keyed  : w.keys.Nodup
  filled : ∀ key ∈ w.keys, w.log key ≠ []
  sorted : ∀ key ∈ w.keys, (w.log key).Pairwise (· ≤ ·)
  short  : ∀ key ∈ w.keys, (w.log key).length ≤ limit

-- At any point of a run, which is the end of a shorter one, nothing is kept without need: a request brings the log of
-- its key up to date, and a sweep leaves the keys alone that were let through within the window. So each of these keys
-- takes as much memory as the quota says at most.
theorem run_well_kept {ms limit : Nat} (hq : Quota.make (.ofMillis ms) limit = .ok q) (h : InTime es) :
    let w := (make q).run es
    w.WellKept limit ∧ w.entries ≤ limit * w.trackedKeys ∧
    (∀ init key now, es = init ++ [.ask key now] → ∀ t ∈ w.log key, t ≤ now ∧ now < t + ms) ∧
    ∀ init now, es = init ++ [.sweep now] →
      ∀ key, key ∈ w.keys ↔ ∃ t ∈ admissions key (make q) init, now < t + ms := by
  intro w
  have ⟨hw, hl⟩ := Quota.make_eq_ok hq
  have hk : w.Keyed := (keyed_make q).run
  have hs : w.Short := (Short.make q).run (keyed_make q)
  have hwl : w.quota.limit = limit := by rw [run_quota, make_quota, hl]
  refine ⟨?_, ?_, ?_, ?_⟩
  case refine_1 =>
    exact ⟨hk, (filled_make q).run (keyed_make q), fun key _ => h.sorted_log q key, fun key _ => hwl ▸ hs key⟩
  case refine_2 => exact hwl ▸ entries_le hs hk
  case refine_3 =>
    rintro init key now rfl t ht
    have ⟨hle, hlt⟩ := mem_log_ask h (q.windowMs_pos hw) ht
    exact ⟨hle, (Quota.lt_add_windowMs_iff hw h.time_lt).mp hlt⟩
  case refine_4 =>
    rintro init now rfl key
    have hlt {t : Nat} : now < t + q.windowMs ↔ now < t + ms := Quota.lt_add_windowMs_iff hw h.time_lt
    rw [show w = (make q).run (init ++ [.sweep now]) from rfl, mem_keys_after_sweep h]
    simp only [hlt]

-- The last request of one key is out of the window when the sweep comes, and that of another one is not.
def idleAndBusy : List Event :=
  [.ask "idle" 0, .ask "idle" 600, .ask "busy" 700, .ask "idle" 900, .sweep 1650]

theorem run_well_kept_idleAndBusy : ∃ q, Quota.make (.ofMillis 1000) 2 = .ok q ∧ InTime idleAndBusy ∧
    ((make q).run idleAndBusy).WellKept 2 ∧ "busy" ∈ ((make q).run idleAndBusy).keys ∧
    "idle" ∉ ((make q).run idleAndBusy).keys := by
  have ht : InTime idleAndBusy := ⟨by decide, by decide⟩
  have ⟨hk, _, _, hs⟩ := run_well_kept (rfl : Quota.make (.ofMillis 1000) 2 = .ok _) ht
  have hs := hs (idleAndBusy.take 4) 1650 rfl
  refine ⟨_, rfl, ht, hk, (hs "busy").mpr ⟨700, by decide, by decide⟩, fun hm => ?_⟩
  have ⟨t, ha, hc⟩ := (hs "idle").mp hm
  have hle : ∀ t ∈ [0, 600], t + 1000 ≤ 1650 := by decide
  exact (hle t ha).not_gt hc

end SlidingWindow

end Sluice
