import Sluice.Proofs.Except
import Sluice.Proofs.Pool.Callers
import Sluice.Proofs.Retry.Record

open List

namespace Sluice

namespace Dispatch

variable {σ : Type} {env : Surroundings σ} {d : Dispatch env} {call : Call} {deadline : Instant}
         {cancel : Cancellation} {a₁ a₂ : Except Status Response}

theorem Hears.unique (h₁ : d.Hears call deadline cancel a₁) (h₂ : d.Hears call deadline cancel a₂) : a₁ = a₂ :=
  h₁.settles.symm.trans h₂.settles

theorem Hears.iff (h₁ : d.Hears call deadline cancel a₁) : d.Hears call deadline cancel a₂ ↔ a₁ = a₂ :=
  ⟨h₁.unique, (· ▸ h₁)⟩

theorem not_hears_of_cut {t : Instant} (h : cancel.cut? d.start (d.settled call deadline).1 = some t) :
    ¬ d.Hears call deadline cancel a₁ := by
  intro hh
  have hc := hh.uncut
  rw [h] at hc
  cases hc

-- What a node answers counts if it comes in time, and otherwise the dispatch has exceeded the deadline.
inductive Answered (d : Dispatch env) (call : Call) (deadline : Instant) : Except Status Response → Prop
  | inTime :
    (d.outcome call).1 = .after delay answer → Instant.wake (d.start + delay.nanos) ≤ Instant.wake deadline →
    Answered d call deadline answer
  | late :
    (∀ delay answer, (d.outcome call).1 = .after delay answer →
      Instant.wake deadline < Instant.wake (d.start + delay.nanos)) →
    Answered d call deadline (.error ⟨.deadlineExceeded, message⟩)

theorem Hears.answered (h : d.Hears call deadline cancel a₁) : d.Answered call deadline a₁ := by
  rw [← h.settles, settled]
  cases ho : (d.outcome call).1 <;> rw [Invocation.settle]
  case never => exact .late (by simp [ho])
  case after delay answer =>
    by_cases ht : Instant.wake (d.start + delay.nanos) ≤ Instant.wake deadline
    case pos =>
      rw [if_pos ht]
      exact .inTime ho ht
    case neg =>
      rw [if_neg ht]
      refine .late fun delay' answer' h' => ?_
      cases ho.symm.trans h'
      exact Nat.lt_of_not_le ht

end Dispatch

namespace Invocation

variable {σ : Type} {policy : RetryPolicy} {env : Surroundings σ} {call : Call} {deadline : Instant}
         {cancel : Cancellation} {left n : Nat} {past : List Attempt} {d : Dispatch env} {ds : List (Dispatch env)}
         {dry : Option σ} {i : Invocation σ} {status : Status}

-- What a call that has made the attempts `past` tells of the dispatches `ds` that it makes from then on and
-- of the world `dry` in which it finds no node.
structure Account (policy : RetryPolicy) (call : Call) (deadline : Instant) (cancel : Cancellation)
    (past : List Attempt) (ds : List (Dispatch env)) (dry : Option σ) (i : Invocation σ) : Prop where
  attempts  : i.attempts = past.reverse ++ ds.map (·.seen call deadline cancel)
  budget    : i.attempts.length ≤ policy.maxAttempts
  picks     : i.picks = i.attempts.length + dry.toList.length
  retried   : ∀ d ∈ ds.dropLast, ∃ status, d.Hears call deadline cancel (.error status) ∧ status.code ∈ policy.retryable
  reply_iff : ∀ r, i.result = .ok r ↔ ∃ d, ds.getLast? = some d ∧ d.Hears call deadline cancel (.ok r)
  failure   : ∀ k status, i.result = .error (.call k status) → k = i.attempts.length ∧
    ((∃ d, ds.getLast? = some d ∧ d.Hears call deadline cancel (.error status)) ∨
      (status = tooLate ∧ deadline ≤ i.finish))
  empty_iff : i.result = .error .emptyPool ↔ ∃ s, dry = some s
  dried     : ∀ s, dry = some s → (env.pick s).1 = none

-- A call that ends before it has selected a node.
theorem Account.idle {result : Except Fault Response} {now : Instant} {s : σ}
    (hb : past.length ≤ policy.maxAttempts) (hr : ∀ r, result ≠ .ok r)
    (hf : ∀ k status, result = .error (.call k status) → k = past.length ∧ status = tooLate ∧ deadline ≤ now)
    (he : result ≠ .error .emptyPool) :
    Account policy call deadline cancel past ([] : List (Dispatch env)) none
      ⟨result, past.reverse, past.length, now, s⟩ where
  attempts  := by simp
  budget    := by simpa using hb
  picks     := by simp
  retried   := by simp
  reply_iff := by simpa using hr
  failure k status h := by
    have ⟨hk, ht⟩ := hf k status h
    exact ⟨by simpa using hk, .inr ht⟩
  empty_iff := by simpa using he
  dried     := by simp

-- A call that ends with the dispatch `d`.
theorem Account.last {result : Except Fault Response} {finish : Instant} {s : σ}
    (hb : past.length + 1 ≤ policy.maxAttempts) (hr : ∀ r, result = .ok r ↔ d.Hears call deadline cancel (.ok r))
    (hf : ∀ k status, result = .error (.call k status) →
      k = past.length + 1 ∧ d.Hears call deadline cancel (.error status))
    (he : result ≠ .error .emptyPool) :
    Account policy call deadline cancel past [d] none
      ⟨result, (d.seen call deadline cancel :: past).reverse, past.length + 1, finish, s⟩ where
  attempts  := by simp
  budget    := by simpa using hb
  picks     := by simp
  retried   := by simp
  reply_iff := by simpa using hr
  failure k status h := by
    have ⟨hk, hh⟩ := hf k status h
    exact ⟨by simpa using hk, .inl ⟨d, rfl, hh⟩⟩
  empty_iff := by simpa using he
  dried     := by simp

-- A call that goes on after the dispatch `d`.
theorem Account.again (hh : d.Hears call deadline cancel (.error status)) (hr : status.code ∈ policy.retryable)
    (a : Account policy call deadline cancel (d.seen call deadline cancel :: past) ds dry i) :
    Account policy call deadline cancel past (d :: ds) dry i where
  attempts := by simp [a.attempts]
  budget   := a.budget
  picks    := a.picks
  retried e he := by
    cases ds
    case nil => cases he
    case cons =>
      cases mem_cons.mp he
      case inl he => exact ⟨status, he ▸ hh, hr⟩
      case inr he => exact a.retried e he
  reply_iff r := by
    rw [a.reply_iff]
    cases ds
    case nil  => simp [hh.iff]
    case cons => simp [getLast?_cons_cons]
  failure k st h := by
    have ⟨hk, hl⟩ := a.failure k st h
    refine ⟨hk, hl.imp_left ?_⟩
    intro ⟨e, he, hs⟩
    exact ⟨e, by simp [getLast?_cons, he], hs⟩
  empty_iff := a.empty_iff
  dried     := a.dried

theorem Course.account (hc : Course policy env call deadline cancel left n now past s ds dry i)
    (hn : n = past.length + 1) (hl : n + left ≤ policy.maxAttempts) :
    Account policy call deadline cancel past ds dry i := by
  induction hc
  all_goals
    subst hn
    have hb := Nat.le_trans (Nat.le_add_right _ _) hl
  case givenUp hc =>
    exact .idle (Nat.le_of_succ_le hb) (by simp) (by simp) (by simp)
  case expired hc hd =>
    exact .idle (Nat.le_of_succ_le hb) (by simp) (by simp [hd]) (by simp)
  case emptied ho hp =>
    exact {
      attempts  := by simp
      budget    := by simpa using Nat.le_of_succ_le hb
      picks     := by simp
      retried   := by simp
      reply_iff := by simp
      failure   := by simp
      empty_iff := by simp
      dried     := by simpa using hp
    }
  case cut d ho hc =>
    exact .last hb (by simp [Dispatch.not_hears_of_cut hc]) (by simp) (by simp)
  case replied d ho hh =>
    exact .last hb (by simp [hh.iff]) (by simp) (by simp)
  case failed d ho hh _ =>
    exact .last hb (by simp [hh.iff]) (by simp [hh.iff]) (by simp)
  case cutWaiting d ho hh _ _ _ =>
    exact .last hb (by simp [hh.iff]) (by simp) (by simp)
  case again d ho hh hr _ _ _ hi =>
    exact .again hh (policy.isRetryable_iff.mp hr) (hi rfl (by omega))

end Invocation

namespace RetryPolicy

variable {maxAttempts : Nat} {initial max : Duration} {multiplier : Float} {codes : List Code} {policy : RetryPolicy}

theorem make_eq_ok : make maxAttempts initial max multiplier codes = .ok policy ↔
    maxAttempts ≠ 0 ∧ ¬(!multiplier.isFinite || multiplier < 1) ∧ ¬max < initial ∧
      policy = ⟨maxAttempts, initial, max, multiplier, codes⟩ := by
  rw [make, ite_error_eq_ok, ite_error_eq_ok, ite_error_eq_ok, Except.ok.injEq, eq_comm (a := policy)]

theorem maxAttempts_pos (h : make maxAttempts initial max multiplier codes = .ok policy) : 0 < policy.maxAttempts := by
  obtain ⟨hm, _, _, rfl⟩ := make_eq_ok.mp h
  exact Nat.pos_of_ne_zero hm

end RetryPolicy

-- A pool of weighted nodes in a world `ω`. While a call is under way anything can happen to both.
def Surroundings.overPool {ω : Type} (send : Endpoint → Call → Instant → Pool × ω → Arrival × Pool × ω) :
    Surroundings (Pool × ω) where
  pick s := (s.1.advance.1, s.1.advance.2, s.2)
  send   := send

namespace Invocation

variable {ω : Type} {policy : RetryPolicy} {send : Endpoint → Call → Instant → Pool × ω → Arrival × Pool × ω}
         {call : Call} {deadline : Instant} {cancel : Cancellation} {i : Invocation (Pool × ω)}
         {ds : List (Dispatch (.overPool send))} {dry : Option (Pool × ω)}

-- A call finds no node exactly if it takes a selector step on an empty pool.
theorem Account.emptyPool_iff (a : Account policy call deadline cancel [] ds dry i) :
    i.result = .error .emptyPool ↔ ∃ s node, Deed.pick s node ∈ deeds call ds dry ∧ s.1.nodes = [] := by
  rw [a.empty_iff]
  constructor
  case mp =>
    rintro ⟨s, hs⟩
    refine ⟨s, none, by simp [deeds, hs], ?_⟩
    exact Pool.advance_eq_none.mp (a.dried s hs)
  case mpr =>
    rintro ⟨s, node, hd, hs⟩
    rw [deeds, mem_append, mem_flatMap] at hd
    cases hd
    case inl hd =>
      -- A dispatch has found a node.
      obtain ⟨d, _, hd⟩ := hd
      obtain ⟨he, _⟩ : s = d.world ∧ node = some d.node := by simpa [Dispatch.deeds] using hd
      have hp : s.1.advance.1 = some d.node := he ▸ d.picked
      rw [Pool.advance_eq_none.mpr hs] at hp
      cases hp
    case inr hd =>
      obtain ⟨_, hw, he⟩ := mem_map.mp hd
      cases he
      exact ⟨s, Option.mem_toList.mp hw⟩

-- Whatever nodes and others do in the meantime, a call tells truly what it has done: it is what a record of
-- all its deeds shows, and a policy's attempts are never exceeded.
theorem run_account {maxAttempts : Nat} {initial max : Duration} {multiplier : Float} {codes : List Code}
    (hp : RetryPolicy.make maxAttempts initial max multiplier codes = .ok policy)
    (send : Endpoint → Call → Instant → Pool × ω → Arrival × Pool × ω) (call : Call) (deadline : Instant)
    (cancel : Cancellation) (now : Instant) (s : Pool × ω) :
    ∃ (ds : List (Dispatch (.overPool send))) (dry : Option (Pool × ω)) (i : Invocation (Pool × ω)),
      run policy (.overPool send) call deadline cancel now s = i ∧
      run policy (Surroundings.overPool send).recorded call deadline cancel now ([], s) = i.recorded (deeds call ds dry) ∧
      Account policy call deadline cancel [] ds dry i ∧
      (∀ d ∈ ds, ∀ answer, d.Hears call deadline cancel answer → d.Answered call deadline answer) ∧
      (i.result = .error .emptyPool ↔ ∃ s node, Deed.pick s node ∈ deeds call ds dry ∧ s.1.nodes = []) := by
  have hm := RetryPolicy.maxAttempts_pos hp
  have ⟨ds, dry, i, hc⟩ :=
    exists_course policy (.overPool send) call deadline cancel (policy.maxAttempts - 1) 1 now [] s
  have ha := hc.account rfl (by omega)
  have ⟨hr, hl⟩ := run_recorded hc
  exact ⟨ds, dry, i, hr, hl, ha, fun d _ _ hh => hh.answered, ha.emptyPool_iff⟩

def twice : RetryPolicy :=
  ⟨2, .zero, .ofMillis 5, 2, [.unavailable]⟩

-- Nodes of which the first that is tried is not available; the world counts how often one is tried.
def recovers (_ : Endpoint) (_ : Call) (_ : Instant) (s : Pool × Nat) : Arrival × Pool × Nat :=
  match s.2 with
  | 0     => (.after .zero (.error ⟨.unavailable, "starting"⟩), s.1, 1)
  | k + 1 => (.after .zero (.ok ⟨200, [], []⟩), s.1, k + 2)

theorem backoff_twice : twice.backoff 1 = .zero := by
  rw [RetryPolicy.backoff, powFloat, powFloat.go]
  rfl

theorem run_recovers :
    let i := run twice (.overPool recovers) ⟨"/UserService/GetById", .null, []⟩ 1000000 .never 0
      (.fresh Pool.tenTwentyThirty, 0)
    i.result = .ok ⟨200, [], []⟩ ∧ i.attempts.length = 2 := by
  have hm : twice.maxAttempts - 1 = 0 + 1 := rfl
  rw [run, hm, attempt, backoff_twice]
  exact ⟨rfl, rfl⟩

theorem run_account_recovers :
    RetryPolicy.make 2 .zero (.ofMillis 5) 2 [.unavailable] = .ok twice ∧
    ∃ (ds : List (Dispatch (.overPool recovers))) (dry : Option (Pool × Nat)) (i : Invocation (Pool × Nat)),
      Account twice ⟨"/UserService/GetById", .null, []⟩ 1000000 .never [] ds dry i ∧
      i.result = .ok ⟨200, [], []⟩ ∧ ds.length = 2 := by
  have hp : RetryPolicy.make 2 .zero (.ofMillis 5) 2 [.unavailable] = .ok twice := by rfl
  have ⟨ds, dry, i, hi, _, ha, _⟩ := run_account hp recovers ⟨"/UserService/GetById", .null, []⟩ 1000000 .never 0
    (.fresh Pool.tenTwentyThirty, 0)
  have ⟨hr, hl⟩ := run_recovers
  rw [hi] at hr hl
  refine ⟨hp, ds, dry, i, ha, hr, ?_⟩
  rw [← hl, ha.attempts]
  simp

end Invocation

end Sluice
