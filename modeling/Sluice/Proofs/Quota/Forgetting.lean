import Sluice.Proofs.Quota.History

open List

namespace Sluice

-- A request that was let through at `t` has left the window.
def Quota.HasLeft (q : Quota) (t now : Nat) : Prop := t + q.windowMs ≤ now

theorem Quota.expiry_le {q : Quota} {t : Nat} : q.expiry t ≤ Quota.timeLimit := min_le_right _ _

theorem Quota.expiry_le_iff {q : Quota} {t now : Nat} :
    q.expiry t ≤ now ↔ q.HasLeft t now ∨ Quota.timeLimit ≤ now := by
  unfold Quota.expiry Quota.HasLeft
  omega

namespace SlidingWindow

-- The keys that have a log.
def keys (w : SlidingWindow) : List String := w.logs.map Prod.fst

-- A sweep at that time takes away the log that the key has.
def Forgets (w : SlidingWindow) (key : String) (now : Nat) : Prop :=
  key ∈ w.keys ∧ key ∉ (w.sweep now).keys

-- Logs are never empty, since a request for which nothing counts is always let through.
def Filled (w : SlidingWindow) : Prop := ∀ key ∈ w.keys, w.log key ≠ []

variable {w : SlidingWindow} {q : Quota} {key other : String} {now last : Nat} {es : List Event}

theorem mem_keys_iff : key ∈ w.keys ↔ (w.logs.lookup key).isSome := by
  rw [← not_iff_not, Option.not_isSome_iff_eq_none, lookup_eq_none_iff]
  simp only [keys, mem_map, bne_iff_ne]
  grind

theorem mem_keys_sweep (h : w.Keyed) : key ∈ (w.sweep now).keys ↔ key ∈ w.keys ∧ w.stays (w.log key) now := by
  have hl : (w.sweep now).logs.lookup key = (w.logs.lookup key).filter (w.stays · now) :=
    lookup_filter_snd h (w.stays · now)
  rw [mem_keys_iff, mem_keys_iff, hl, log]
  cases w.logs.lookup key <;> simp [Option.filter]

theorem mem_keys_ask (h : key ∈ (w.ask other now).2.keys) : key = other ∨ key ∈ w.keys := by
  rw [ask_eq] at h
  split at h <;> exact fst_mem_record h

theorem live_isSuffix : w.live key now <:+ w.log key := dropWhile_suffix _

theorem log_ask_ne_nil (w : SlidingWindow) (key : String) (now : Nat) : (w.ask key now).2.log key ≠ [] := by
  rw [log_ask_self]
  split
  case isTrue h =>
    have := w.quota.limit_pos
    exact ne_nil_of_length_pos (by omega)
  case isFalse  => simp

namespace Filled

theorem ask (h : w.Filled) : (w.ask other now).2.Filled := by
  intro key hk
  by_cases ho : key = other
  case pos => exact ho ▸ log_ask_ne_nil w other now
  case neg =>
    rw [log_ask_other ho]
    exact h key ((mem_keys_ask hk).resolve_left ho)

theorem sweep (h : w.Filled) (hw : w.Keyed) : (w.sweep now).Filled := by
  intro key hk
  have ⟨hm, hs⟩ := (mem_keys_sweep hw).mp hk
  rw [log_sweep hw, if_pos hs]
  exact h key hm

theorem run (h : w.Filled) (hw : w.Keyed) : (w.run es).Filled := by
  induction es using reverseRecOn
  case nil => exact h
  case append_singleton es e hi =>
    rw [run_snoc]
    cases e
    case ask   => exact hi.ask
    case sweep => exact hi.sweep hw.run

end Filled

theorem filled_make (q : Quota) : (make q).Filled := nofun

theorem forgets_iff (hw : w.Keyed) (hk : key ∈ w.keys) (hl : (w.log key).getLast? = some last) :
    w.Forgets key now ↔ w.quota.expiry last ≤ now := by
  rw [Forgets, mem_keys_sweep hw, and_iff_right hk, and_iff_right hk, stays_iff hl, not_lt]

-- Requests are recorded at the end of a log and are taken away at its front, or all at once. So a log ends as the
-- history of its key does, whatever the times of the requests are.
theorem log_isSuffix (q : Quota) (key : String) (es : List Event) :
    ((make q).run es).log key <:+ admissions key (make q) es := by
  induction es using reverseRecOn
  case nil => exact nil_suffix
  case append_singleton es e hi =>
    rw [run_snoc, admissions_snoc]
    cases e
    case ask k now =>
      by_cases hk : k = key
      case pos =>
        subst hk
        have ⟨gone, hg⟩ : ((make q).run es).live k now <:+ admissions k (make q) es := live_isSuffix.trans hi
        exact ⟨gone, by rw [step, log_ask, ← append_assoc, hg]⟩
      case neg =>
        simp only [admits, hk, false_and, if_false, append_nil]
        rwa [step, log_ask_other (Ne.symm hk)]
    case sweep now =>
      rw [step, log_sweep (keyed_make q).run, admits, append_nil]
      split
      case isTrue  => exact hi
      case isFalse => exact nil_suffix

theorem last_of_mem_keys (h : key ∈ ((make q).run es).keys) :
    ∃ last, (((make q).run es).log key).getLast? = some last ∧ (admissions key (make q) es).getLast? = some last := by
  have hne := (filled_make q).run (keyed_make q) key h
  have ⟨gone, hg⟩ := log_isSuffix q key es
  refine ⟨_, getLast?_eq_some_getLast hne, ?_⟩
  rw [← hg, getLast?_append_of_ne_nil _ hne, getLast?_eq_some_getLast hne]

-- The log of the key is taken away as soon as nothing in it counts any more, and no sooner. Nothing counts at the limit
-- of times.
def ForgetsIdle (w : SlidingWindow) (key : String) : Prop :=
  ∀ now < Quota.timeLimit, w.Forgets key now ↔ ∀ t ∈ w.log key, w.quota.HasLeft t now

-- A sweep decides on the request of a key that was let through last. It never spares a log of which nothing counts any
-- more, and it takes away nothing else exactly if no request in the log outlives the last one. That is so where
-- requests were let through in the order of their times, but a clock can be set back.
theorem forgets_iff_last_left (h : key ∈ ((make q).run es).keys) :
    let w := (make q).run es
    let history := admissions key (make q) es
    ∃ last, history.getLast? = some last ∧
      (∀ now, w.Forgets key now ↔ q.HasLeft last now ∨ Quota.timeLimit ≤ now) ∧
      (∀ now, (∀ t ∈ w.log key, q.HasLeft t now) → w.Forgets key now) ∧
      (w.ForgetsIdle key ↔ ∀ t ∈ w.log key, q.expiry t ≤ q.expiry last) ∧
      (history.Pairwise (· ≤ ·) → w.ForgetsIdle key) := by
  intro w history
  have hq : w.quota = q := run_quota
  have ⟨last, hl, hh⟩ := last_of_mem_keys h
  have hf {now} : w.Forgets key now ↔ q.expiry last ≤ now := by rw [forgets_iff (keyed_make q).run h hl, hq]
  have hall {now} (ha : ∀ t ∈ w.log key, q.HasLeft t now) : w.Forgets key now :=
    hf.mpr (Quota.expiry_le_iff.mpr (.inl (ha last (mem_of_getLast? hl))))
  have hidle : w.ForgetsIdle key ↔ ∀ t ∈ w.log key, q.expiry t ≤ q.expiry last := by
    rw [ForgetsIdle, hq]
    refine ⟨fun hi t ht => ?_, fun hle now hn => ⟨fun hd t ht => ?_, hall⟩⟩
    · by_contra hlt
      have hn : q.expiry last < Quota.timeLimit := (not_le.mp hlt).trans_le q.expiry_le
      exact hlt (Quota.expiry_le_iff.mpr (.inl ((hi _ hn).mp (hf.mpr le_rfl) t ht)))
    · have := Quota.expiry_le_iff.mp ((hle t ht).trans (hf.mp hd))
      exact this.resolve_right (not_le.mpr hn)
  refine ⟨last, hh, fun now => hf.trans Quota.expiry_le_iff, fun now => hall, hidle, fun hs => ?_⟩
  refine hidle.mpr fun t ht => q.expiry_mono ?_
  exact le_getLast? hs hh t ((log_isSuffix q key es).mem ht)

-- Two requests in a second and a half.
def twice : Quota := ⟨.ofMillis 1500, 2, by decide, Nat.two_pos⟩

-- The clock is set back between two requests of one key, and between those of another one it is not.
def setBack : List Event :=
  [.ask "k" 5000, .ask "j" 5000, .ask "k" 4200, .ask "j" 5100]

theorem forgets_iff_last_left_setBack :
    "k" ∈ ((make twice).run setBack).keys ∧ ¬((make twice).run setBack).ForgetsIdle "k" ∧
    "j" ∈ ((make twice).run setBack).keys ∧ ((make twice).run setBack).ForgetsIdle "j" := by
  have hk : "k" ∈ ((make twice).run setBack).keys := by decide
  have hj : "j" ∈ ((make twice).run setBack).keys := by decide
  have ⟨last, hl, _, _, hi, _⟩ := forgets_iff_last_left hk
  have ⟨_, _, _, _, _, hs⟩ := forgets_iff_last_left hj
  obtain rfl : 4200 = last := Option.some.inj hl
  refine ⟨hk, fun h => ?_, hj, hs (by decide)⟩
  exact absurd (hi.mp h 5000 (by decide)) (by decide)

theorem not_all_idle : ¬∀ (q : Quota) (es : List Event) (key : String), (∀ e ∈ es, e.isAsk) →
    key ∈ ((make q).run es).keys → ((make q).run es).ForgetsIdle key := by
  intro h
  have hf : ((make twice).run setBack).Forgets "k" 5800 := by
    unfold Forgets
    decide
  have hn : ¬twice.HasLeft 5000 5800 := by
    unfold Quota.HasLeft
    decide
  exact hn ((h twice setBack "k" (by decide) (by decide) 5800 (by decide)).mp hf 5000 (by decide))

end SlidingWindow

end Sluice
