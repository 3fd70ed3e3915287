import Sluice.Proofs.Quota.Log

open List

namespace Sluice.SlidingWindow

-- What happens to a limiter: a request of a key is evaluated, or idle keys are swept out.
inductive Event
  | ask (key : String) (now : Nat)
  | sweep (now : Nat)

namespace Event

def time : Event → Nat
  | ask _ now | sweep now => now

def isAsk : Event → Bool
  | ask ..  => true
  | sweep _ => false

end Event

-- Evaluations happen in the order of their times, which stay below the limit, and no sweep reads a time
-- that is later than an evaluation after it. Sweeps are otherwise free.
structure Orderly (es : List Event) : Prop where
  ordered : es.Pairwise fun e e' => e'.isAsk → e.time ≤ e'.time
  bounded : ∀ e ∈ es, e.isAsk → e.time < Quota.timeLimit

def step (w : SlidingWindow) : Event → SlidingWindow
  | .ask key now => (w.ask key now).2
  | .sweep now   => w.sweep now

def run (w : SlidingWindow) (es : List Event) : SlidingWindow := es.foldl step w

-- When the event lets a request of that key through, if it does.
def admits (w : SlidingWindow) (key : String) : Event → List Nat
  | .ask k now => if k = key ∧ (w.ask k now).1 = false then [now] else []
  | .sweep _   => []

theorem eq_now_of_mem_admits {w : SlidingWindow} (h : x ∈ w.admits key (.ask other now)) : x = now := by
  simp only [admits] at h
  split at h <;> simp_all

theorem log_ask (w : SlidingWindow) (key : String) (now : Nat) :
    (w.ask key now).2.log key = w.live key now ++ w.admits key (.ask key now) := by
  rw [log_ask_self]
  simp only [admits, ask_fst]
  split <;> simp_all

-- The times of the requests of that key that a run lets through, oldest first.
def admissions (key : String) : SlidingWindow → List Event → List Nat
  | _, []      => []
  | w, e :: es => w.admits key e ++ admissions key (w.step e) es

variable {w : SlidingWindow} {key other : String} {now t : Nat} {e : Event} {es history : List Event}

theorem run_snoc (w : SlidingWindow) (es : List Event) (e : Event) : w.run (es ++ [e]) = (w.run es).step e := by
  simp [run]

theorem admissions_snoc (key : String) (w : SlidingWindow) (es : List Event) (e : Event) :
    admissions key w (es ++ [e]) = admissions key w es ++ (w.run es).admits key e := by
  induction es generalizing w
  case nil        => simp [admissions, run]
  case cons hd tl hi => simp [admissions, hi, run]

@[simp] theorem step_quota : (w.step e).quota = w.quota := by
  cases e <;> simp [step]

@[simp] theorem run_quota : (w.run es).quota = w.quota := by
  induction es using reverseRecOn <;> simp_all [run]

theorem Keyed.run (h : w.Keyed) : (w.run es).Keyed := by
  induction es using reverseRecOn
  case nil => exact h
  case append_singleton es e hi =>
    rw [run_snoc]
    cases e
    case ask   => exact hi.ask
    case sweep => exact hi.sweep

theorem keyed_make (q : Quota) : (make q).Keyed := nodup_nil

theorem Orderly.left (h : Orderly (es ++ history)) : Orderly es where
  ordered := (pairwise_append.mp h.ordered).left
  bounded e he := h.bounded e (mem_append_left _ he)

theorem Orderly.time_le (h : Orderly (es ++ [e])) (ha : e.isAsk) : ∀ e' ∈ es, e'.time ≤ e.time :=
  fun e' he => (pairwise_append.mp h.ordered).right.right e' he e (mem_singleton_self e) ha

-- The log of a key is the end of its history, and what is missing from it no longer counts at `t`.
structure Tracks (w : SlidingWindow) (key : String) (history : List Nat) (t : Nat) : Prop where
  split  : ∃ gone, history = gone ++ w.log key ∧ ∀ x ∈ gone, w.quota.expiry x ≤ t
  sorted : history.Pairwise (· ≤ ·)
  le     : ∀ x ∈ history, x ≤ t

-- In a sorted log the requests that still count are those behind the ones that do not.
theorem dropWhile_expiry {q : Quota} {log : List Nat} (h : log.Pairwise (· ≤ ·)) :
    log.dropWhile (q.expiry · ≤ t) = log.filter (t < q.expiry ·) := by
  induction log
  case nil => rfl
  case cons hd tl hi =>
    have ⟨hle, htl⟩ := pairwise_cons.mp h
    by_cases hx : q.expiry hd ≤ t
    case pos => simp [hx, hi htl, not_lt.mpr hx]
    case neg =>
      have hall : ∀ x ∈ hd :: tl, t < q.expiry x := by
        intro x hm
        obtain rfl | hm := mem_cons.mp hm
        · omega
        · have := q.expiry_mono (hle x hm); omega
      rw [dropWhile_cons_of_neg (by simpa using hx), filter_eq_self.mpr (by simpa using hall)]

theorem le_getLast? {log : List Nat} {last : Nat} (h : log.Pairwise (· ≤ ·)) (hl : log.getLast? = some last) :
    ∀ x ∈ log, x ≤ last := by
  obtain ⟨init, rfl⟩ := getLast?_eq_some_iff.mp hl
  simp only [mem_append, mem_singleton]
  rintro x (hx | rfl)
  · exact (pairwise_append.mp h).right.right x hx last (mem_singleton_self last)
  · exact le_rfl

namespace Tracks

variable {times : List Nat}

theorem mono (tr : Tracks w key times now) (h : now ≤ t) : Tracks w key times t where
  split  := have ⟨gone, hs, hg⟩ := tr.split; ⟨gone, hs, fun x hx => (hg x hx).trans h⟩
  sorted := tr.sorted
  le     := fun x hx => (tr.le x hx).trans h

theorem sorted_log (tr : Tracks w key times now) : (w.log key).Pairwise (· ≤ ·) := by
  have ⟨gone, hs, _⟩ := tr.split
  exact (pairwise_append.mp (hs ▸ tr.sorted)).right.left

theorem live_eq (tr : Tracks w key times now) : w.live key now = times.filter (now < w.quota.expiry ·) := by
  have ⟨gone, hs, hg⟩ := tr.split
  have hn : gone.filter (now < w.quota.expiry ·) = [] := by simpa using hg
  rw [live, dropWhile_expiry tr.sorted_log, hs, filter_append, hn, nil_append]

theorem ask_self (tr : Tracks w key times now) :
    Tracks (w.ask key now).2 key (times ++ w.admits key (.ask key now)) now where
  split := by
    have ⟨gone, hs, hg⟩ := tr.split
    have hl : w.log key = (w.log key).takeWhile (w.quota.expiry · ≤ now) ++ w.live key now :=
      takeWhile_append_dropWhile.symm
    refine ⟨gone ++ (w.log key).takeWhile (w.quota.expiry · ≤ now), ?_, ?_⟩
    · rw [log_ask, append_assoc, ← append_assoc _ (w.live key now), ← hl, ← append_assoc, ← hs]
    · simp only [mem_append, ask_quota]
      rintro x (hx | hx)
      · exact hg x hx
      · simpa using mem_takeWhile_imp hx
  sorted := by
    refine pairwise_append.mpr ⟨tr.sorted, ?_, fun x hx y hy => eq_now_of_mem_admits hy ▸ tr.le x hx⟩
    exact pairwise_of_forall_mem_list fun x hx y hy => by rw [eq_now_of_mem_admits hx, eq_now_of_mem_admits hy]
  le x hx := by
    cases mem_append.mp hx
    case inl hx => exact tr.le x hx
    case inr hx => exact (eq_now_of_mem_admits hx).le

theorem ask_other (tr : Tracks w key times now) (h : key ≠ other) : Tracks (w.ask other now).2 key times now where
  split  := by simpa [log_ask_other h] using tr.split
  sorted := tr.sorted
  le     := tr.le

-- A sweep that reads a time up to `t` takes away only what no longer counts at `t`.
theorem sweep (tr : Tracks w key times t) (hk : w.Keyed) (h : now ≤ t) : Tracks (w.sweep now) key times t where
  split := by
    rw [log_sweep hk, sweep_quota]
    by_cases hp : w.stays (w.log key) now
    case pos => simpa [hp] using tr.split
    case neg =>
      have ⟨gone, hs, hg⟩ := tr.split
      refine ⟨times, by simp [hp], fun x hx => ?_⟩
      rw [hs, mem_append] at hx
      cases hx
      case inl hx => exact hg x hx
      case inr hx =>
        have ⟨last, hl⟩ := Option.isSome_iff_exists.mp (getLast?_isSome.mpr (ne_nil_of_mem hx))
        have hle := le_getLast? tr.sorted_log hl x hx
        have hexp : w.quota.expiry last ≤ now := by simpa [stays, hl] using hp
        exact (w.quota.expiry_mono hle).trans (hexp.trans h)
  sorted := tr.sorted
  le     := tr.le

end Tracks

theorem run_tracks (q : Quota) (key : String) (h : Orderly es) (ht : ∀ e ∈ es, e.time ≤ t) :
    Tracks ((make q).run es) key (admissions key (make q) es) t := by
  induction es using reverseRecOn generalizing t
  case nil => exact { split := ⟨[], rfl, by simp⟩, sorted := .nil, le := by simp [admissions] }
  case append_singleton es e hi =>
    have hle : e.time ≤ t := ht e (by simp)
    rw [run_snoc, admissions_snoc]
    cases e
    case ask k now =>
      have tr := hi h.left (h.time_le rfl)
      by_cases hk : k = key
      case pos => exact hk ▸ tr.ask_self.mono hle
      case neg =>
        simp only [admits, hk, false_and, if_false, append_nil]
        exact (tr.ask_other (Ne.symm hk)).mono hle
    case sweep now =>
      simp only [admits, append_nil]
      exact (hi h.left fun e he => ht e (by simp [he])).sweep (keyed_make q).run hle

end Sluice.SlidingWindow
