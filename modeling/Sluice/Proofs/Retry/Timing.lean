import Mathlib
import Sluice.Proofs.Retry.Record

open List

namespace Sluice

namespace Cancellation

variable {c : Cancellation} {now mid finish t : Instant}

theorem le_of_cut? (h : c.cut? now finish = some t) : now ≤ t := by
  cases c
  case never      => cases h
  case beforehand => cases h; exact le_rfl
  case «at» u     =>
    have ⟨_, ht⟩ : u < finish ∧ max u now = t := by simpa [cut?] using h
    exact ht ▸ le_max_right u now

theorem cut?_le (h : c.cut? now finish = some t) (hn : now ≤ finish) : t ≤ finish := by
  cases c
  case never      => cases h
  case beforehand => cases h; exact hn
  case «at» u     =>
    have ⟨hu, ht⟩ : u < finish ∧ max u now = t := by simpa [cut?] using h
    exact ht ▸ max_le hu.le hn

end Cancellation

namespace Dispatch

variable {σ : Type} {env : Surroundings σ} {d : Dispatch env} {call : Call} {deadline : Instant}

-- No node is waited for longer than until the timer of the deadline.
theorem settled_le (d : Dispatch env) (call : Call) (deadline : Instant) :
    (d.settled call deadline).1 ≤ Instant.wake deadline := by
  rw [settled]
  cases (d.outcome call).1 <;> rw [Invocation.settle]
  case never => exact le_rfl
  case after =>
    split
    case isTrue h => exact h
    case isFalse  => exact le_rfl

theorem start_le_settled (h : d.start < deadline) : d.start ≤ (d.settled call deadline).1 := by
  have hd := h.le.trans (Instant.le_wake deadline)
  rw [settled]
  cases (d.outcome call).1 <;> rw [Invocation.settle]
  case never => exact hd
  case after delay _ =>
    split
    case isTrue  => exact (Nat.le_add_right d.start delay.nanos).trans (Instant.le_wake _)
    case isFalse => exact hd

theorem settled_le_wake_due (d : Dispatch env) (call : Call) (deadline : Instant) (policy : RetryPolicy) (n : Nat) :
    (d.settled call deadline).1 ≤ Instant.wake (d.due call deadline policy n) :=
  (Nat.le_add_right _ _).trans (Instant.le_wake _)

-- A node is waited for with a timer.
theorem wake_settled (d : Dispatch env) (call : Call) (deadline : Instant) :
    Instant.wake (d.settled call deadline).1 = (d.settled call deadline).1 := by
  rw [settled]
  cases (d.outcome call).1 <;> rw [Invocation.settle]
  case never => exact Instant.wake_wake _
  case after => split <;> exact Instant.wake_wake _

theorem seen_start (d : Dispatch env) (call : Call) (deadline : Instant) (cancel : Cancellation) :
    (d.seen call deadline cancel).start = d.start := by
  rw [seen]; split <;> rfl

theorem seen_finish_le (h : d.start < deadline) (cancel : Cancellation) :
    (d.seen call deadline cancel).finish ≤ (d.settled call deadline).1 := by
  rw [seen]
  split
  case h_1 hc => exact Cancellation.cut?_le hc (d.start_le_settled h)
  case h_2    => exact le_rfl

theorem seen_node (d : Dispatch env) (call : Call) (deadline : Instant) (cancel : Cancellation) :
    (d.seen call deadline cancel).node = d.node := by
  rw [seen]; split <;> rfl

end Dispatch

namespace Invocation

variable {σ : Type} {policy : RetryPolicy} {env : Surroundings σ} {call : Call} {deadline : Instant}
         {cancel : Cancellation} {left n : Nat} {now : Instant} {past : List Attempt} {s : σ}
         {ds : List (Dispatch env)} {dry : Option σ} {i : Invocation σ}

namespace Course

theorem attempts_eq (hc : Course policy env call deadline cancel left n now past s ds dry i) :
    i.attempts = past.reverse ++ ds.map (·.seen call deadline cancel) := by
  induction hc
  case again hi => simp [hi]
  all_goals simp

-- The first dispatch is made at once.
theorem head_start (hc : Course policy env call deadline cancel left n now past s ds dry i) {d : Dispatch env}
    (hd : ds[0]? = some d) : d.start = now := by
  cases hc <;> simp at hd <;> rw [← hd]

theorem le_finish (hc : Course policy env call deadline cancel left n now past s ds dry i) : now ≤ i.finish := by
  induction hc
  case givenUp               => exact le_rfl
  case expired               => exact le_rfl
  case emptied               => exact le_rfl
  case cut hc                => exact Cancellation.le_of_cut? hc
  case replied d ho _        => exact d.start_le_settled ho.inTime
  case failed d ho _ _       => exact d.start_le_settled ho.inTime
  case cutWaiting d ho _ _ _ hw =>
    exact (d.start_le_settled ho.inTime).trans (Cancellation.le_of_cut? hw)
  case again d ho _ _ _ _ _ hi =>
    exact (d.start_le_settled ho.inTime).trans <| (d.settled_le_wake_due ..).trans hi

-- Every wait of a call ends by the timer of the deadline, also the one whose end is rounded up.
theorem finish_le (hc : Course policy env call deadline cancel left n now past s ds dry i) :
    i.finish ≤ max now (Instant.wake deadline) := by
  induction hc
  case givenUp               => exact le_max_left ..
  case expired               => exact le_max_left ..
  case emptied               => exact le_max_left ..
  case cut d ho hc           =>
    exact (Cancellation.cut?_le hc (d.start_le_settled ho.inTime)).trans <| le_max_of_le_right (d.settled_le ..)
  case replied d _ _         => exact le_max_of_le_right (d.settled_le ..)
  case failed d _ _ _        => exact le_max_of_le_right (d.settled_le ..)
  case cutWaiting d ho _ _ hu hw =>
    exact (Cancellation.cut?_le hw (d.settled_le_wake_due ..)).trans <| le_max_of_le_right (Instant.wake_mono hu.le)
  case again d ho _ _ hu _ _ hi =>
    exact hi.trans <| max_le (le_max_of_le_right (Instant.wake_mono hu.le)) (le_max_right ..)

theorem starts (hc : Course policy env call deadline cancel left n now past s ds dry i) :
    ∀ d ∈ ds, Open deadline cancel d.start := by
  induction hc
  case again ho _ _ _ _ _ hi => simpa using ⟨ho, hi⟩
  all_goals simp [*]

theorem attempts_finish_le (hc : Course policy env call deadline cancel left n now [] s ds dry i) :
    ∀ a ∈ i.attempts, a.finish ≤ Instant.wake deadline := by
  intro a ha
  rw [hc.attempts_eq, reverse_nil, nil_append] at ha
  obtain ⟨d, hd, rfl⟩ := mem_map.mp ha
  exact (Dispatch.seen_finish_le (hc.starts d hd).inTime cancel).trans (d.settled_le call deadline)

-- Between a dispatch and the next one stand a failure and the whole wait that follows it.
theorem waits (hc : Course policy env call deadline cancel left n now past s ds dry i) {k : Nat} {a b : Dispatch env}
    (ha : ds[k]? = some a) (hb : ds[k + 1]? = some b) :
    (∃ status, a.Hears call deadline cancel (.error status)) ∧
      b.start = Instant.wake (a.due call deadline policy (n + k)) := by
  induction hc generalizing k
  case again d ho hh _ _ _ hc hi =>
    cases k
    case zero =>
      cases ha
      exact ⟨⟨_, hh⟩, hc.head_start hb⟩
    case succ k =>
      have ⟨hh, hd⟩ := hi ha hb
      exact ⟨hh, by rwa [Nat.add_right_comm, Nat.add_assoc] at hd⟩
  all_goals simp at hb

-- What the call tells of two attempts, one after the other.
theorem next_attempt (hc : Course policy env call deadline cancel left 1 now [] s ds dry i) {k : Nat} {a b : Attempt}
    (ha : i.attempts[k]? = some a) (hb : i.attempts[k + 1]? = some b) :
    (∃ status, a.answer = some (.error status)) ∧ Instant.wake a.finish = a.finish ∧
      b.start = Instant.wake (a.finish + (policy.backoff (k + 1)).nanos) := by
  rw [hc.attempts_eq, reverse_nil, nil_append, getElem?_map, Option.map_eq_some_iff] at ha hb
  obtain ⟨d, hd, rfl⟩ := ha
  obtain ⟨e, he, rfl⟩ := hb
  have ⟨⟨status, hh⟩, hw⟩ := hc.waits hd he
  rw [hh.seen_eq, Dispatch.seen_start, hw, Nat.add_comm 1 k]
  exact ⟨⟨status, rfl⟩, d.wake_settled call deadline, rfl⟩

end Course

end Invocation

end Sluice
