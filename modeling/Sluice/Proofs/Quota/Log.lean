import Mathlib
import Sluice.Quota

open List

namespace Sluice

namespace Quota

variable {q : Quota} {s t : Nat}

theorem expiry_mono (h : s ≤ t) : q.expiry s ≤ q.expiry t := by
  unfold expiry; omega

-- Times below the limit do not notice that times stop there.
theorem lt_expiry_iff (h : t < timeLimit) : t < q.expiry s ↔ t < s + q.windowMs := by
  unfold expiry; omega

theorem windowMs_eq_min {ms : Nat} (hw : q.window = .ofMillis ms) : q.windowMs = min ms timeLimit := by
  have : (ms * 1000000) / 1000000 = ms := by omega
  rw [windowMs, hw, Duration.millis, Duration.ofMillis, this]

theorem windowMs_ofMillis {ms : Nat} (hw : q.window = .ofMillis ms) (hm : ms ≤ timeLimit) : q.windowMs = ms := by
  rw [windowMs_eq_min hw, min_eq_left hm]

theorem windowMs_pos {ms : Nat} (q : Quota) (hw : q.window = .ofMillis ms) : 0 < q.windowMs := by
  have hpos : 0 < ms := by simpa [hw, Duration.ofMillis] using q.window_pos
  rw [windowMs_eq_min hw]
  exact lt_min hpos (by decide)

-- Nothing of a window is lost in milliseconds exactly if it is a whole number of them, or longer than times go.
theorem whole_iff (q : Quota) : (∃ ms, q.window = .ofMillis ms) ∨ .ofMillis timeLimit ≤ q.window ↔
    (q.windowMs < timeLimit → q.window ≤ .ofMillis q.windowMs) := by
  have hms : q.windowMs = min (q.window.nanos / 1000000) timeLimit := rfl
  constructor
  case mp =>
    rintro (⟨ms, hw⟩ | hlong) hl
    · rw [windowMs_eq_min hw] at hl ⊢
      rw [hw, min_eq_left (by omega)]
      exact Nat.le_refl _
    · have : timeLimit * 1000000 ≤ q.window.nanos := hlong
      omega
  case mpr =>
    intro h
    by_cases hl : q.windowMs < timeLimit
    case pos =>
      have hle : q.window.nanos ≤ q.windowMs * 1000000 := h hl
      exact .inl ⟨q.windowMs, congrArg Duration.mk (by omega : q.window.nanos = q.windowMs * 1000000)⟩
    case neg =>
      have hlong : timeLimit * 1000000 ≤ q.window.nanos := by omega
      exact .inr hlong

theorem make_eq_ok {window : Duration} {limit : Nat} (h : make window limit = .ok q) :
    q.window = window ∧ q.limit = limit := by
  simp only [make] at h
  split at h <;> (try split at h) <;> cases h
  exact ⟨rfl, rfl⟩

end Quota

namespace SlidingWindow

variable {w : SlidingWindow} {key other : String} {now : Nat} {log : List Nat}

-- No key has two logs.
def Keyed (w : SlidingWindow) : Prop := (w.logs.map Prod.fst).Nodup

theorem lookup_cons_eq (logs : List (String × List Nat)) :
    ((key, log) :: logs).lookup other = if other = key then some log else logs.lookup other := by
  by_cases h : other = key <;> simp [lookup_cons, h, beq_eq_false_iff_ne.mpr]

theorem lookup_record (logs : List (String × List Nat)) :
    (record key log logs).lookup other = if other = key then some log else logs.lookup other := by
  induction logs <;> simp only [record]
  case nil => rw [lookup_cons_eq]
  case cons hd tl hi =>
    obtain ⟨k, l⟩ := hd
    split <;> simp only [lookup_cons_eq, hi] <;> grind

theorem fst_mem_record {logs : List (String × List Nat)} (h : other ∈ (record key log logs).map Prod.fst) :
    other = key ∨ other ∈ logs.map Prod.fst := by
  induction logs <;> simp only [record] at h
  case nil => simpa using h
  case cons hd tl hi =>
    obtain ⟨k, l⟩ := hd
    split at h <;> simp only [map_cons, mem_cons] at h ⊢ <;> grind

theorem nodup_record {logs : List (String × List Nat)} (h : (logs.map Prod.fst).Nodup) :
    ((record key log logs).map Prod.fst).Nodup := by
  induction logs <;> simp only [record]
  case nil => simp
  case cons hd tl hi =>
    obtain ⟨k, l⟩ := hd
    simp only [map_cons, nodup_cons] at h
    split
    case isTrue hk  => simpa [← hk] using h
    case isFalse hk =>
      simp only [map_cons, nodup_cons]
      exact ⟨fun hm => (fst_mem_record hm).elim hk h.left, hi h.right⟩

-- The part of a log that still counts.
def live (w : SlidingWindow) (key : String) (now : Nat) : List Nat :=
  (w.log key).dropWhile (w.quota.expiry · ≤ now)

theorem ask_eq (w : SlidingWindow) (key : String) (now : Nat) : w.ask key now =
    if w.quota.limit ≤ (w.live key now).length then (true, { w with logs := record key (w.live key now) w.logs })
    else (false, { w with logs := record key (w.live key now ++ [now]) w.logs }) := rfl

theorem ask_fst : (w.ask key now).1 = decide (w.quota.limit ≤ (w.live key now).length) := by
  rw [ask_eq]
  split <;> simp_all

theorem log_ask_self : (w.ask key now).2.log key =
    if w.quota.limit ≤ (w.live key now).length then w.live key now else w.live key now ++ [now] := by
  rw [ask_eq]
  split <;> simp [SlidingWindow.log, lookup_record]

theorem log_ask_other (h : other ≠ key) : (w.ask key now).2.log other = w.log other := by
  rw [ask_eq]
  split <;> simp [SlidingWindow.log, lookup_record, h]

@[simp] theorem ask_quota : (w.ask key now).2.quota = w.quota := by
  rw [ask_eq]
  split <;> rfl

@[simp] theorem make_quota (q : Quota) : (make q).quota = q := rfl

@[simp] theorem sweep_quota : (w.sweep now).quota = w.quota := rfl

theorem Keyed.ask (h : w.Keyed) : (w.ask key now).2.Keyed := by
  rw [ask_eq]
  split <;> exact nodup_record h

theorem Keyed.sweep (h : w.Keyed) : (w.sweep now).Keyed :=
  h.sublist (filter_sublist.map _)

-- Whether a sweep leaves a log alone.
def stays (w : SlidingWindow) (log : List Nat) (now : Nat) : Bool :=
  match log.getLast? with
  | some t => now < w.quota.expiry t
  | none   => false

theorem stays_iff {last : Nat} (h : log.getLast? = some last) : w.stays log now ↔ now < w.quota.expiry last := by
  simp [stays, h]

theorem lookup_filter_snd {logs : List (String × List Nat)} (h : (logs.map Prod.fst).Nodup) (p : List Nat → Bool) :
    (logs.filter (p ·.2)).lookup key = (logs.lookup key).filter p := by
  induction logs
  case nil => simp
  case cons hd tl hi =>
    obtain ⟨k, l⟩ := hd
    simp only [map_cons, nodup_cons] at h
    have hn (hk : key = k) : tl.lookup key = none := by
      simp only [lookup_eq_none_iff, bne_iff_ne]
      rintro x hx rfl
      exact h.left (hk ▸ mem_map_of_mem hx)
    by_cases hp : p l
    case pos =>
      simp only [filter_cons, hp, if_true, lookup_cons_eq, hi h.right]
      split <;> simp [Option.filter, hp]
    case neg =>
      simp only [filter_cons, hp, if_false, lookup_cons_eq, hi h.right, Bool.false_eq_true]
      split
      case isTrue hk => simp [hn hk, Option.filter, hp]
      case isFalse   => rfl

theorem log_sweep (h : w.Keyed) : (w.sweep now).log key = if w.stays (w.log key) now then w.log key else [] := by
  have hf : (w.sweep now).logs = w.logs.filter (w.stays ·.2 now) := rfl
  rw [SlidingWindow.log, hf, lookup_filter_snd h (w.stays · now), SlidingWindow.log]
  cases w.logs.lookup key
  case none   => simp [stays]
  case some l => by_cases hp : w.stays l now <;> simp [hp, Option.filter]

end SlidingWindow

end Sluice
