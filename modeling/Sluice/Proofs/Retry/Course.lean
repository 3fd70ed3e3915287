import Sluice.Retry.Invocation

open List

namespace Sluice

theorem RetryPolicy.isRetryable_iff (p : RetryPolicy) {c : Code} : p.isRetryable c ↔ c ∈ p.retryable :=
  List.contains_iff_mem

-- One dispatch: the world in which its node was selected, and when.
structure Dispatch {σ : Type} (env : Surroundings σ) where
  world  : σ
  start  : Instant
  node   : Endpoint
  picked : (env.pick world).1 = some node

namespace Dispatch

variable {σ : Type} {env : Surroundings σ}

-- What the node does with the call, and the world after that.
def outcome (d : Dispatch env) (call : Call) : Arrival × σ :=
  env.send d.node call d.start (env.pick d.world).2

-- How the dispatch ends if nobody gives the call up.
def settled (d : Dispatch env) (call : Call) (deadline : Instant) : Instant × Except Status Response :=
  Invocation.settle d.node deadline d.start (d.outcome call).1

-- What the caller sees of the dispatch.
def seen (d : Dispatch env) (call : Call) (deadline : Instant) (cancel : Cancellation) : Attempt :=
  match cancel.cut? d.start (d.settled call deadline).1 with
  | some cut => ⟨d.node, d.start, cut, none⟩
  | none     => ⟨d.node, d.start, (d.settled call deadline).1, some (d.settled call deadline).2⟩

-- When the wait after the dispatch would be over.
def due (d : Dispatch env) (call : Call) (deadline : Instant) (policy : RetryPolicy) (n : Nat) : Instant :=
  (d.settled call deadline).1 + (policy.backoff n).nanos

-- The caller hears an answer.
structure Hears (d : Dispatch env) (call : Call) (deadline : Instant) (cancel : Cancellation)
    (answer : Except Status Response) : Prop where
  uncut   : cancel.cut? d.start (d.settled call deadline).1 = none
  settles : (d.settled call deadline).2 = answer

variable {d : Dispatch env} {call : Call} {deadline : Instant} {cancel : Cancellation}
         {answer : Except Status Response}

theorem pick_eq (d : Dispatch env) : env.pick d.world = (some d.node, (env.pick d.world).2) :=
  Prod.ext d.picked rfl

theorem Hears.seen_eq (h : d.Hears call deadline cancel answer) :
    d.seen call deadline cancel = ⟨d.node, d.start, (d.settled call deadline).1, some answer⟩ := by
  rw [seen, h.uncut, h.settles]

theorem seen_of_cut {t : Instant} (h : cancel.cut? d.start (d.settled call deadline).1 = some t) :
    d.seen call deadline cancel = ⟨d.node, d.start, t, none⟩ := by
  rw [seen, h]

end Dispatch

namespace Invocation

variable {σ : Type}

-- The failure of a call that ran out of time before it could be dispatched again.
def tooLate : Status :=
  ⟨.deadlineExceeded, "deadline passed before dispatch"⟩

-- A call may be dispatched now.
structure Open (deadline : Instant) (cancel : Cancellation) (now : Instant) : Prop where
  wanted : cancel.before now = false
  inTime : now < deadline

-- Every way a call can go from attempt number `n` on, of which there may be `left` more. It lists the
-- dispatches that are made, and the world in which there was no node to select.
inductive Course (policy : RetryPolicy) (env : Surroundings σ) (call : Call) (deadline : Instant)
    (cancel : Cancellation) :
    Nat → Nat → Instant → List Attempt → σ → List (Dispatch env) → Option σ → Invocation σ → Prop
  | givenUp :
    cancel.before now →
    Course policy env call deadline cancel left n now past s [] none
      ⟨.error .cancelled, past.reverse, n - 1, now, s⟩
  | expired :
    cancel.before now = false → deadline ≤ now →
    Course policy env call deadline cancel left n now past s [] none
      ⟨.error (.call (n - 1) tooLate), past.reverse, n - 1, now, s⟩
  | emptied :
    Open deadline cancel now → (env.pick s).1 = none →
    Course policy env call deadline cancel left n now past s [] (some s)
      ⟨.error .emptyPool, past.reverse, n, now, (env.pick s).2⟩
  | cut (d : Dispatch env) :
    Open deadline cancel d.start → cancel.cut? d.start (d.settled call deadline).1 = some t →
    Course policy env call deadline cancel left n d.start past d.world [d] none
      ⟨.error .cancelled, (d.seen call deadline cancel :: past).reverse, n, t, (d.outcome call).2⟩
  | replied (d : Dispatch env) :
    Open deadline cancel d.start → d.Hears call deadline cancel (.ok reply) →
    Course policy env call deadline cancel left n d.start past d.world [d] none
      ⟨.ok reply, (d.seen call deadline cancel :: past).reverse, n, (d.settled call deadline).1, (d.outcome call).2⟩
  | failed (d : Dispatch env) :
    Open deadline cancel d.start → d.Hears call deadline cancel (.error status) →
    left = 0 ∨ policy.isRetryable status.code = false ∨ deadline ≤ d.due call deadline policy n →
    Course policy env call deadline cancel left n d.start past d.world [d] none
      ⟨.error (.call n status), (d.seen call deadline cancel :: past).reverse, n, (d.settled call deadline).1,
        (d.outcome call).2⟩
  | cutWaiting (d : Dispatch env) :
    Open deadline cancel d.start → d.Hears call deadline cancel (.error status) →
    policy.isRetryable status.code → d.due call deadline policy n < deadline →
    cancel.cut? (d.settled call deadline).1 (Instant.wake (d.due call deadline policy n)) = some t →
    Course policy env call deadline cancel (left + 1) n d.start past d.world [d] none
      ⟨.error .cancelled, (d.seen call deadline cancel :: past).reverse, n, t, (d.outcome call).2⟩
  | again (d : Dispatch env) :
    Open deadline cancel d.start → d.Hears call deadline cancel (.error status) →
    policy.isRetryable status.code → d.due call deadline policy n < deadline →
    cancel.cut? (d.settled call deadline).1 (Instant.wake (d.due call deadline policy n)) = none →
    Course policy env call deadline cancel left (n + 1) (Instant.wake (d.due call deadline policy n))
      (d.seen call deadline cancel :: past) (d.outcome call).2 ds dry i →
    Course policy env call deadline cancel (left + 1) n d.start past d.world (d :: ds) dry i

variable {policy : RetryPolicy} {env : Surroundings σ} {call : Call} {deadline : Instant} {cancel : Cancellation}

-- A call is on some course from any point on.
theorem exists_course (policy : RetryPolicy) (env : Surroundings σ) (call : Call) (deadline : Instant)
    (cancel : Cancellation) (left n : Nat) (now : Instant) (past : List Attempt) (s : σ) :
    ∃ ds dry i, Course policy env call deadline cancel left n now past s ds dry i := by
  induction left using Nat.strongRecOn generalizing n now past s
  case ind left hi =>
  cases hb : cancel.before now
  case true => exact ⟨[], none, _, .givenUp hb⟩
  by_cases hd : deadline ≤ now
  case pos => exact ⟨[], none, _, .expired hb hd⟩
  have ho : Open deadline cancel now := ⟨hb, Nat.lt_of_not_le hd⟩
  cases hp : (env.pick s).1
  case none => exact ⟨[], some s, _, .emptied ho hp⟩
  case some node =>
  let d : Dispatch env := ⟨s, now, node, hp⟩
  cases hc : cancel.cut? d.start (d.settled call deadline).1
  case some t => exact ⟨[d], none, _, .cut d ho hc⟩
  cases ha : (d.settled call deadline).2
  case ok reply => exact ⟨[d], none, _, .replied d ho ⟨hc, ha⟩⟩
  case error status =>
  have hh : d.Hears call deadline cancel (.error status) := ⟨hc, ha⟩
  by_cases hf : left = 0 ∨ policy.isRetryable status.code = false ∨ deadline ≤ d.due call deadline policy n
  case pos => exact ⟨[d], none, _, .failed d ho hh hf⟩
  have ⟨hl, hf⟩ := not_or.mp hf
  have ⟨hr, hu⟩ := not_or.mp hf
  replace hr := (Bool.not_eq_false _).mp hr
  replace hu := Nat.lt_of_not_le hu
  have ⟨m, hm⟩ := Nat.exists_eq_succ_of_ne_zero hl
  subst hm
  cases hw : cancel.cut? (d.settled call deadline).1 (Instant.wake (d.due call deadline policy n))
  case some t => exact ⟨[d], none, _, .cutWaiting d ho hh hr hu hw⟩
  case none =>
    have ⟨ds, dry, i, hn⟩ := hi m (Nat.lt_succ_self m) (n + 1) (Instant.wake (d.due call deadline policy n))
      (d.seen call deadline cancel :: past) (d.outcome call).2
    exact ⟨d :: ds, dry, i, .again d ho hh hr hu hw hn⟩

theorem pick_eq_none {s : σ} (h : (env.pick s).1 = none) : env.pick s = (none, (env.pick s).2) :=
  Prod.ext h rfl

-- The loop takes that course and no other.
theorem Course.attempt_eq (hc : Course policy env call deadline cancel left n now past s ds dry i) :
    attempt policy env call deadline cancel left n now past s = i := by
  induction hc
  case givenUp hb => simp [attempt, hb]
  case expired hb hd => simp [attempt, hb, hd, tooLate]
  case emptied ho hp =>
    rw [attempt, pick_eq_none hp]
    simp [ho.wanted, Nat.not_le_of_lt ho.inTime]
  case cut d ho hc =>
    rw [attempt, d.pick_eq, d.seen_of_cut hc]
    simp only [Dispatch.settled, Dispatch.outcome] at hc
    simp [ho.wanted, Nat.not_le_of_lt ho.inTime, hc, Dispatch.outcome]
  case replied d ho hh  =>
    rw [attempt, d.pick_eq, hh.seen_eq]
    have ⟨hc, ha⟩ := hh
    simp only [Dispatch.settled, Dispatch.outcome] at hc ha
    simp [ho.wanted, Nat.not_le_of_lt ho.inTime, hc, ha, Dispatch.settled, Dispatch.outcome]
  case failed left _ _ d ho hh hf =>
    rw [hh.seen_eq]
    have ⟨hc, ha⟩ := hh
    simp only [Dispatch.settled, Dispatch.outcome, Dispatch.due] at hc ha hf
    cases left
    case zero =>
      rw [attempt, d.pick_eq]
      simp [ho.wanted, Nat.not_le_of_lt ho.inTime, hc, ha, Dispatch.settled, Dispatch.outcome]
    case succ =>
      rw [attempt, d.pick_eq]
      cases hf.resolve_left (Nat.succ_ne_zero _)
      case inl hr => simp [ho.wanted, Nat.not_le_of_lt ho.inTime, hc, ha, hr, Dispatch.settled, Dispatch.outcome]
      case inr hu => simp [ho.wanted, Nat.not_le_of_lt ho.inTime, hc, ha, hu, Dispatch.settled, Dispatch.outcome]
  case cutWaiting d ho hh hr hu hw =>
    rw [attempt, d.pick_eq, hh.seen_eq]
    have ⟨hc, ha⟩ := hh
    simp only [Dispatch.settled, Dispatch.outcome, Dispatch.due] at hc ha hu hw
    simp [ho.wanted, Nat.not_le_of_lt ho.inTime, hc, ha, hr, Nat.not_le_of_lt hu, hw, Dispatch.settled,
      Dispatch.outcome]
  case again d ho hh hr hu hw _ hi =>
    rw [hh.seen_eq] at hi
    have ⟨hc, ha⟩ := hh
    simp only [Dispatch.settled, Dispatch.outcome, Dispatch.due] at hc ha hu hw hi
    rw [attempt, d.pick_eq]
    simp [ho.wanted, Nat.not_le_of_lt ho.inTime, hc, ha, hr, Nat.not_le_of_lt hu, hw, hi]

end Invocation

end Sluice
