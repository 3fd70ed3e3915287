import Sluice.Proofs.Quota.Verdict

open List

namespace Sluice.SlidingWindow

-- The times of the requests that a limiter lets through, out of requests of one key at these times.
def admitted (q : Quota) (key : String) (times : List Nat) : List Nat :=
  admissions key (make q) (times.map (.ask key))

-- No window of that length has more of these times in it than the limit.
def Fits (length limit : Nat) (times : List Nat) : Prop :=
  ∀ start, (times.filter fun t => start ≤ t ∧ t < start + length).length ≤ limit

-- Of more of these times than the limit, the last comes at least the window after the first.
def Spread (window : Duration) (limit : Nat) (times : List Nat) : Prop :=
  ∀ i j first last, i + limit ≤ j → times[i]? = some first → times[j]? = some last → window ≤ .ofMillis (last - first)

variable {q : Quota} {key : String} {window : Duration} {limit now : Nat} {times : List Nat}

theorem orderly_asks (hs : times.Pairwise (· ≤ ·)) (hb : ∀ t ∈ times, t < Quota.timeLimit) :
    Orderly (times.map (.ask key)) where
  ordered := by simpa [pairwise_map, Event.time, Event.isAsk] using hs
  bounded := by simpa [Event.time, Event.isAsk] using hb

theorem admitted_fits (q : Quota) (key : String) (hs : times.Pairwise (· ≤ ·)) (hb : ∀ t ∈ times, t < Quota.timeLimit) :
    Fits q.windowMs q.limit (admitted q key times) :=
  admissions_window_le (orderly_asks hs hb)

theorem mem_admitted {t : Nat} (h : t ∈ admitted q key times) : t ∈ times := by
  simpa using mem_admissions h

theorem admitted_sorted (q : Quota) (key : String) (hs : times.Pairwise (· ≤ ·))
    (hb : ∀ t ∈ times, t < Quota.timeLimit) : (admitted q key times).Pairwise (· ≤ ·) :=
  have hle : ∀ e ∈ times.map (.ask key), Event.time e ≤ Quota.timeLimit := by
    simpa [Event.time] using fun t ht => (hb t ht).le
  (run_tracks q key (orderly_asks hs hb) hle).sorted

namespace Fits

variable {length length' limit' : Nat} {others : List Nat}

theorem mono (h : Fits length limit times) (hl : length' ≤ length) (hm : limit ≤ limit') :
    Fits length' limit' times := by
  intro start
  refine le_trans (monotone_filter_right _ fun t ht => ?_).length_le ((h start).trans hm)
  simp only [decide_eq_true_eq] at ht ⊢
  omega

theorem sublist (h : Fits length limit times) (hs : others <+ times) : Fits length limit others :=
  fun start => (hs.filter _).length_le.trans (h start)

theorem length_le (h : Fits length limit times) (start : Nat) (hw : ∀ t ∈ times, start ≤ t ∧ t < start + length) :
    times.length ≤ limit := by
  have := h start
  rwa [filter_eq_self.mpr (by simpa using hw)] at this

-- More requests in a row than the limit do not fit into one window, so that the last is outside of the one that starts
-- with the first.
theorem add_length_le (h : Fits length limit times) (hs : times.Pairwise (· ≤ ·)) {i j first last : Nat}
    (hij : i + limit ≤ j) (hi : times[i]? = some first) (hj : times[j]? = some last) : first + length ≤ last := by
  obtain ⟨_, rfl⟩ := List.getElem?_eq_some_iff.mp hi
  obtain ⟨hlen, rfl⟩ := List.getElem?_eq_some_iff.mp hj
  by_contra hlt
  have hmono {a b : Nat} (hab : a ≤ b) (hb : b < times.length) : times[a] ≤ times[b] :=
    hab.eq_or_lt.elim (fun h => by simp [h]) (pairwise_iff_getElem.mp hs a b (by omega) hb)
  have hrow : ∀ t ∈ (times.drop i).take (limit + 1), times[i] ≤ t ∧ t < times[i] + length := by
    intro t ht
    obtain ⟨m, hm, rfl⟩ := mem_iff_getElem.mp ht
    simp only [length_take, length_drop] at hm
    rw [getElem_take, getElem_drop]
    have := hmono (show i ≤ i + m by omega) (by omega)
    have := hmono (show i + m ≤ j by omega) hlen
    omega
  have := (h.sublist ((take_sublist _ _).trans (drop_sublist i times))).length_le _ hrow
  simp only [length_take, length_drop] at this
  omega

end Fits

theorem admitted_snoc (q : Quota) (key : String) (times : List Nat) (now : Nat) :
    admitted q key (times ++ [now]) = admitted q key times ++
      if q.limit ≤ (((make q).run (times.map (.ask key))).live key now).length then [] else [now] := by
  rw [admitted, map_append, map_singleton, admissions_snoc, admits_self, run_quota]
  rfl

-- As long as not more requests have come than the limit, all are let through.
theorem admitted_of_few (key : String) (hs : times.Pairwise (· ≤ ·)) (hb : ∀ t ∈ times, t < Quota.timeLimit)
    (hl : times.length ≤ q.limit) : admitted q key times = times := by
  induction times using reverseRecOn
  case nil => rfl
  case append_singleton times now hi =>
    have ho : Orderly (times.map (.ask key) ++ [.ask key now]) := by simpa using orderly_asks hs hb
    have hi := hi (hs.sublist (sublist_append_left ..)) (fun t ht => hb t (by simp [ht])) (by simp at hl; omega)
    have hlive : (((make q).run (times.map (.ask key))).live key now).length < q.limit := by
      rw [live_run ho]
      refine (length_filter_le ..).trans_lt ?_
      rw [← admitted, hi]
      simpa using hl
    rw [admitted_snoc, hi, if_neg (by omega)]

-- At the limit of times nothing counts any more, since nothing can count beyond it.
theorem admitted_at_timeLimit (q : Quota) (key : String) (n : Nat) :
    admitted q key (replicate n Quota.timeLimit) = replicate n Quota.timeLimit := by
  induction n
  case zero => rfl
  case succ n hi =>
    have hlive (w : SlidingWindow) : w.live key Quota.timeLimit = [] :=
      dropWhile_eq_nil_iff.mpr fun t _ => by simp [Quota.expiry]
    have := q.limit_pos
    rw [replicate_succ', admitted_snoc, hi, hlive, if_neg (by simp; omega)]

-- However requests of the key come, as long as there are times, those that are let through are spread by that span.
def Keeps (q : Quota) (key : String) (span : Duration) : Prop :=
  ∀ times : List Nat, times.Pairwise (· ≤ ·) → (∀ t ∈ times, t < Quota.timeLimit) →
    Spread span q.limit (admitted q key times)

namespace Keeps

theorem windowMs (q : Quota) (key : String) : Keeps q key (.ofMillis q.windowMs) := by
  intro times hs hb i j first last hij hi hj
  have := (admitted_fits q key hs hb).add_length_le (admitted_sorted q key hs hb) hij hi hj
  refine Nat.mul_le_mul_right _ ?_
  omega

-- A window that is longer than times go is kept because no two times are that far apart.
theorem window_of_le (h : q.windowMs < Quota.timeLimit → q.window ≤ .ofMillis q.windowMs) : Keeps q key q.window := by
  intro times hs hb i j first last hij hi hj
  have hms : q.windowMs * 1000000 ≤ (last - first) * 1000000 := windowMs q key times hs hb i j first last hij hi hj
  have hlast := hb last (mem_admitted (mem_of_getElem? hj))
  exact Nat.le_trans (h (by omega)) hms

-- Requests that are as far apart as the whole milliseconds of the window do not count for each other.
theorem window_le (h : Keeps q key q.window) (hl : q.windowMs < Quota.timeLimit) :
    q.window ≤ .ofMillis q.windowMs := by
  have hs : (replicate q.limit 0 ++ [q.windowMs]).Pairwise (· ≤ ·) := by
    simp [pairwise_append, pairwise_replicate]
  have hb : ∀ t ∈ replicate q.limit 0 ++ [q.windowMs], t < Quota.timeLimit := by
    simp only [mem_append, mem_replicate, mem_singleton]
    omega
  have hfew : admitted q key (replicate q.limit 0) = replicate q.limit 0 :=
    admitted_of_few key (hs.sublist (sublist_append_left ..)) (fun t ht => hb t (mem_append_left _ ht)) (by simp)
  have hlive : ((make q).run ((replicate q.limit 0).map (.ask key))).live key q.windowMs = [] := by
    have ho : Orderly ((replicate q.limit 0).map (.ask key) ++ [.ask key q.windowMs]) := by
      simpa using orderly_asks hs hb
    rw [live_run ho, ← admitted, hfew]
    simp
  have hpos := q.limit_pos
  have hspread := h _ hs hb
  rw [admitted_snoc, hfew, hlive, if_neg (by simp; omega)] at hspread
  exact hspread 0 q.limit 0 q.windowMs (by omega) (by simp [hpos]) (by simp)

end Keeps

-- The window in whole milliseconds is kept always. The window itself is kept exactly if it is nothing but whole
-- milliseconds, or longer than times go; and at the limit of times no window is kept.
theorem spread_iff_whole (hq : Quota.make window limit = .ok q) (key : String) :
    Keeps q key (.ofMillis (min window.millis Quota.timeLimit)) ∧
    (Keeps q key window ↔ (∃ ms, window = .ofMillis ms) ∨ .ofMillis Quota.timeLimit ≤ window) ∧
    ¬Spread window limit (admitted q key (replicate (limit + 1) Quota.timeLimit)) := by
  obtain ⟨rfl, rfl⟩ := Quota.make_eq_ok hq
  refine ⟨.windowMs q key, ?_, fun h => ?_⟩
  · rw [Quota.whole_iff]
    exact ⟨fun h => h.window_le, .window_of_le⟩
  · rw [admitted_at_timeLimit] at h
    have : q.window.nanos ≤ (Quota.timeLimit - Quota.timeLimit) * 1000000 :=
      h 0 q.limit _ _ (by omega) (by simp) (by simp)
    have := q.window_pos
    omega

theorem spread_iff_whole_fraction : ∃ q, Quota.make ⟨2500000⟩ 3 = .ok q ∧ Keeps q "k" (.ofMillis 2) ∧
    ¬Keeps q "k" ⟨2500000⟩ ∧ ¬Spread ⟨2500000⟩ 3 (admitted q "k" (replicate 4 Quota.timeLimit)) := by
  have ⟨hms, hiff, hend⟩ := spread_iff_whole (rfl : Quota.make ⟨2500000⟩ 3 = .ok _) "k"
  refine ⟨_, rfl, hms, ?_, hend⟩
  rw [hiff]
  rintro (⟨ms, hw⟩ | hlong)
  · have : 2500000 = ms * 1000000 := congrArg Duration.nanos hw
    omega
  · exact absurd hlong (by decide)

-- Half a millisecond is not nothing, so that it is accepted as a window, but it has no whole milliseconds, so that no
-- request counts for any other.
theorem not_all_kept : ¬∀ (window : Duration) (limit : Nat) (q : Quota) (key : String),
    Quota.make window limit = .ok q → Keeps q key window := by
  intro h
  have hk := h ⟨500000⟩ 1 _ "k" rfl [0, 0] (by decide) (by decide) 0 1 0 0 (by decide) (by decide) (by decide)
  exact absurd hk (by decide)

end Sluice.SlidingWindow
