import Sluice.Proofs.Duration.Seconds
import Sluice.Proofs.Float
import Sluice.Proofs.Retry.Failover

open List

namespace Sluice

variable {r a : Float} {R A B : Int} {n : Nat}

-- What the lowest binary digit of the exponent adds to the power.
theorem factor_spans (hr : Spans 0 R r.toModel.unpack) (ha : Spans 0 A a.toModel.unpack)
    (h : R + (n % 2 : Nat) * (A + 2) ≤ 1023) :
    Spans 0 (R + (n % 2 : Nat) * (A + 2)) (if n % 2 = 1 then r * a else r).toModel.unpack := by
  split
  case isTrue hn =>
    rw [hn] at h ⊢
    exact (hr.mul_toModel ha (by omega) (by omega)).mono (by omega) (by omega)
  case isFalse hn =>
    rw [Nat.mod_two_ne_one.mp hn]
    exact hr.mono le_rfl (by omega)

-- Of the room that there is for exponents, each factor that is still missing takes its part.
theorem powFloat.go_spans (hr : Spans 0 R r.toModel.unpack) (ha : Spans 0 A a.toModel.unpack)
    (h : R + n * (A + 2) ≤ B) (hB : B ≤ 1023) : Spans 0 B (go r a n).toModel.unpack := by
  induction r, a, n using go.induct generalizing R A
  all_goals rw [go]
  case case1 r a n hn =>
    have hm : n % 2 = n := Nat.mod_eq_of_lt hn
    rw [if_pos hn]
    exact (factor_spans hr ha (by rw [hm]; omega)).mono le_rfl (by rw [hm]; exact h)
  case case2 r a n r' hn hi =>
    have hR := hr.le
    have hA := ha.le
    have hs : (n : Int) * (A + 2) = (n / 2 : Nat) * (A + A + 2 + 2) + (n % 2 : Nat) * (A + 2) := by
      conv_lhs => rw [← Nat.div_add_mod n 2]
      push_cast
      ring
    have hq : 1 * (A + A + 2 + 2) ≤ (n / 2 : Nat) * (A + A + 2 + 2) :=
      Int.mul_le_mul_of_nonneg_right (by omega) (by omega)
    have hm : 0 ≤ (n % 2 : Nat) * (A + 2) := by positivity
    rw [if_neg hn]
    exact hi (factor_spans hr ha (by omega)) (ha.mul_toModel ha (by omega) (by omega)) (by omega)

-- A power of a number that is not less than one is a number, as long as there is room for its exponent.
theorem powFloat_spans (ha : Spans 0 A a.toModel.unpack) (h : n * (A + 2) ≤ 1023) :
    Spans 0 1023 (powFloat a n).toModel.unpack := by
  have h1 : Spans 0 0 (1 : Float).toModel.unpack :=
    .intro (2 ^ 52) (-52) (by decide) (by decide) (by decide) (by decide) (by decide)
  exact powFloat.go_spans h1 ha (by omega) le_rfl

theorem Duration.ofSeconds_of_zero {x : Float} {s : Float.Model.UnpackedFloat.Sign} (h : x.toModel.unpack = .zero s) :
    Duration.ofSeconds x = .zero := by
  have he : (x == 0) = (x.toModel.unpack.compare (0 : Float).toModel.unpack == some .eq) := rfl
  rw [ofSeconds, he, h]
  rfl

namespace RetryPolicy

variable {maxAttempts : Nat} {max : Duration} {multiplier : Float} {codes : List Code} {policy : RetryPolicy}

-- How many times as long as the first wait the one after the given attempt is to be.
def growth (p : RetryPolicy) (attempt : Nat) : Float :=
  powFloat p.multiplier (min (attempt - 1) 2147483647)

-- Any number of times nothing is nothing, but infinitely many times nothing is no number, and what is no number
-- counts as too long a wait.
theorem backoff_of_zero (hz : policy.initialBackoff = .zero) (hm : policy.maxBackoff.secs < UInt64.size) (n : Nat) :
    policy.backoff n = if (policy.growth n).isFinite then .zero else policy.maxBackoff := by
  have h0 : Duration.zero.toSeconds.toModel.unpack = .zero .positive := rfl
  let secs := Duration.zero.toSeconds * policy.growth n
  have hb : policy.backoff n =
      if !secs.isFinite || policy.maxBackoff.toSeconds ≤ secs then policy.maxBackoff else .ofSeconds secs := by
    rw [backoff, hz]
    rfl
  cases hf : (policy.growth n).isFinite
  case false => simp [hb, secs, isFinite_zero_mul h0 hf]
  case true =>
    obtain ⟨t, ht⟩ : ∃ t, secs.toModel.unpack = .zero t := zero_mul_of_isFinite h0 hf
    have hs : secs.isFinite := by
      have hu : secs.isFinite = secs.toModel.unpack.isFinite := rfl
      rw [hu, ht]
      rfl
    rw [hb, hs, Duration.ofSeconds_of_zero ht]
    by_cases hmax : policy.maxBackoff = .zero
    case pos => simp [hmax]
    case neg =>
      have hle : ¬policy.maxBackoff.toSeconds ≤ secs := (Duration.toSeconds_spans hmax hm).not_le_zero ht
      simp [hle]

-- For how many attempts at least the growth can be computed, if the multiplier is less than `2 ^ (A + 1)`.
theorem growth_isFinite (ha : Spans 0 A policy.multiplier.toModel.unpack) (hn : n * (A + 2) ≤ 1023) :
    (policy.growth (n + 1)).isFinite := by
  have hle : (min n 2147483647 : Nat) * (A + 2) ≤ 1023 := by
    refine le_trans ?_ hn
    exact Int.mul_le_mul_of_nonneg_right (by omega) (by have := ha.le; omega)
  exact (powFloat_spans ha hle).isFinite

end RetryPolicy

namespace Invocation

variable {σ : Type} {maxAttempts : Nat} {max : Duration} {multiplier : Float} {codes : List Code} {policy : RetryPolicy}

-- A call under a policy whose first wait is nothing goes on to the next node at once, as often as the growth of
-- the waits is a number. As soon as it is too large to be one, the call waits as long as it would at most. No wait
-- has more whole seconds than fit into 64 bits.
theorem run_unwaiting (hp : RetryPolicy.make maxAttempts .zero max multiplier codes = .ok policy)
    (hm : max.secs < UInt64.size) :
    (∀ n, policy.backoff n = if (policy.growth n).isFinite then .zero else max) ∧
    (∀ (A : Int) (n : Nat), Spans 0 A multiplier.toModel.unpack → n * (A + 2) ≤ 1023 →
      (policy.growth (n + 1)).isFinite) ∧
    ∀ (env : Surroundings σ) (call : Call) (deadline : Instant) (cancel : Cancellation) (now : Instant) (s : σ),
      let i := run policy env call deadline cancel now s
      ∀ k a b, i.attempts[k]? = some a → i.attempts[k + 1]? = some b →
        b.start = if (policy.growth (k + 1)).isFinite then a.finish else Instant.wake (a.finish + max.nanos) := by
  obtain ⟨_, _, _, he⟩ := RetryPolicy.make_eq_ok.mp hp
  have hz : policy.initialBackoff = .zero := by rw [he]
  have hmax : policy.maxBackoff = max := by rw [he]
  have hmul : policy.multiplier = multiplier := by rw [he]
  have hb : ∀ n, policy.backoff n = if (policy.growth n).isFinite then .zero else max := by
    intro n
    rw [RetryPolicy.backoff_of_zero hz (hmax ▸ hm), hmax]
  refine ⟨hb, fun A n ha hn => RetryPolicy.growth_isFinite (hmul ▸ ha) hn, ?_⟩
  intro env call deadline cancel now s i k a b hka hkb
  have ⟨ds, dry, i', hc⟩ := exists_course policy env call deadline cancel (policy.maxAttempts - 1) 1 now [] s
  have hi : i = i' := hc.attempt_eq
  rw [hi] at hka hkb
  have ⟨_, hf, hs⟩ := hc.next_attempt hka hkb
  rw [hs, hb]
  split
  case isTrue  => exact hf
  case isFalse => rfl

-- The square of this multiplier is too large for a double.
def steep : RetryPolicy :=
  ⟨4, .zero, .ofMillis 1000, 1e200, [.unavailable]⟩

theorem make_steep : RetryPolicy.make 4 .zero (.ofMillis 1000) 1e200 [.unavailable] = .ok steep := by
  refine RetryPolicy.make_eq_ok.mpr ⟨by decide, ?_, by decide, rfl⟩
  decide +kernel

theorem growth_steep_one : (steep.growth 1).isFinite := by
  have hg : steep.growth 1 = powFloat 1e200 0 := rfl
  rw [hg, powFloat, powFloat.go]
  decide

theorem growth_steep_two : (steep.growth 2).isFinite := by
  have hg : steep.growth 2 = powFloat 1e200 1 := rfl
  rw [hg, powFloat, powFloat.go]
  decide +kernel

theorem growth_steep_three : (steep.growth 3).isFinite = false := by
  have hg : steep.growth 3 = powFloat 1e200 2 := rfl
  rw [hg, powFloat, powFloat.go, powFloat.go]
  decide +kernel

-- Nodes none of which is ever available; the world counts how often one is tried.
def refuses (_ : Endpoint) (_ : Call) (_ : Instant) (s : Pool × Nat) : Arrival × Pool × Nat :=
  (.after .zero (.error ⟨.unavailable, "down"⟩), s.1, s.2 + 1)

-- The second and the third attempt are made at once, and the fourth a second later.
theorem run_unwaiting_steep :
    RetryPolicy.make 4 .zero (.ofMillis 1000) 1e200 [.unavailable] = .ok steep ∧
    (Duration.ofMillis 1000).secs < UInt64.size ∧
    (run steep (.overPool refuses) ⟨"/UserService/GetById", .null, []⟩ 2000000000 .never 0
      (.fresh Pool.tenTwentyThirty, 0)).attempts.map Attempt.start = [0, 0, 0, 1000000000] := by
  have hs : (Duration.ofMillis 1000).secs < UInt64.size := by decide
  have ⟨hb, _, _⟩ := run_unwaiting (σ := Pool × Nat) make_steep hs
  have h₁ : steep.backoff 1 = .zero := by rw [hb, growth_steep_one]; rfl
  have h₂ : steep.backoff 2 = .zero := by rw [hb, growth_steep_two]; rfl
  have h₃ : steep.backoff 3 = .ofMillis 1000 := by rw [hb, growth_steep_three]; rfl
  have hm : steep.maxAttempts - 1 = 2 + 1 := rfl
  refine ⟨make_steep, hs, ?_⟩
  rw [run, hm, attempt_of_retry ⟨rfl, by decide⟩ rfl rfl rfl (by decide) (by rw [h₁]; decide) rfl, h₁]
  rw [attempt_of_retry ⟨rfl, by decide⟩ rfl rfl rfl (by decide) (by rw [h₂]; decide) rfl, h₂]
  rw [attempt_of_retry ⟨rfl, by decide⟩ rfl rfl rfl (by decide) (by rw [h₃]; decide) rfl, h₃]
  rfl

end Invocation

namespace RetryPolicy

-- With nothing to wait at first there can be a wait all the same.
theorem not_all_unwaiting :
    ¬ ∀ (maxAttempts : Nat) (max : Duration) (multiplier : Float) (codes : List Code) (policy : RetryPolicy),
      max.secs < UInt64.size → make maxAttempts .zero max multiplier codes = .ok policy →
      ∀ n, policy.backoff n = .zero := by
  intro h
  have hz := h 4 (.ofMillis 1000) 1e200 [.unavailable] _ (by decide) Invocation.make_steep 3
  rw [backoff_of_zero rfl (by decide), Invocation.growth_steep_three] at hz
  cases hz

end RetryPolicy

end Sluice
