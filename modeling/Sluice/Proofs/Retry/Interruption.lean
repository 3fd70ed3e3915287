import Sluice.Proofs.Retry.Account
import Sluice.Proofs.Retry.Timing

open List

namespace Sluice

namespace Cancellation

variable {c : Cancellation} {now mid finish t : Instant}

-- A wait is cut short exactly if the call is given up before it ends.
theorem cut?_isSome : (c.cut? now finish).isSome = c.before finish := by
  cases c
  case never      => rfl
  case beforehand => rfl
  case «at» t     => by_cases h : t < finish <;> simp [cut?, before, h]

theorem cut?_eq_none : c.cut? now finish = none ↔ c.before finish = false := by
  rw [← @cut?_isSome c now finish, Option.isSome_eq_false_iff, Option.isNone_iff_eq_none]

theorem cut?_of_before (h : c.before now) (hn : now ≤ finish) : c.cut? now finish = some now := by
  cases c
  case never      => cases h
  case beforehand => rfl
  case «at» t     =>
    have ht : t < now := by simpa [before] using h
    rw [cut?, if_pos (ht.trans_le hn), max_eq_right ht.le]

theorem cut?_mono (h : c.cut? now mid = some t) (hm : mid ≤ finish) : c.cut? now finish = some t := by
  cases c
  case never      => cases h
  case beforehand => exact h
  case «at» u     =>
    have ⟨hu, ht⟩ : u < mid ∧ max u now = t := by simpa [cut?] using h
    rw [cut?, if_pos (hu.trans_le hm), ht]

-- Where a wait is not cut short, only the rest of it counts.
theorem cut?_of_uncut (h : c.cut? now mid = none) (hn : now ≤ mid) : c.cut? now finish = c.cut? mid finish := by
  cases c
  case never      => rfl
  case beforehand => cases h
  case «at» u     =>
    have hu : mid ≤ u := by simpa [cut?] using h
    rw [cut?, cut?, max_eq_left hu, max_eq_left (hn.trans hu)]

end Cancellation

namespace Invocation

variable {σ : Type} {policy : RetryPolicy} {env : Surroundings σ} {call : Call} {deadline : Instant}
         {c : Cancellation} {left n : Nat} {now : Instant} {past : List Attempt} {s : σ}
         {ds : List (Dispatch env)} {dry : Option σ} {i : Invocation σ}

-- What a call `i` that was begun at `now` turns into if it can be given up. As a whole it is cut short just
-- as a single wait is.
inductive Interrupted (c : Cancellation) (now : Instant) (i : Invocation σ) : Invocation σ → Prop
  | cut :
    c.cut? now i.finish = some t → i'.result = .error .cancelled → i'.finish = t →
    Interrupted c now i i'
  | uncut :
    c.cut? now i.finish = none →
    Interrupted c now i i

namespace Course

-- The same call up to its first answer: it is cut short while the node is waited for, or it is answered the same.
theorem cut_or_hears (d : Dispatch env) (ho : Open deadline c d.start) {answer : Except Status Response}
    (hh : d.Hears call deadline .never answer) (hf : (d.settled call deadline).1 ≤ i.finish) :
    Interrupted c d.start i (attempt policy env call deadline c left n d.start past d.world) ∨
      (d.Hears call deadline c answer ∧ d.seen call deadline c = d.seen call deadline .never) := by
  cases hc : c.cut? d.start (d.settled call deadline).1
  case none =>
    have hh' : d.Hears call deadline c answer := ⟨hc, hh.settles⟩
    exact .inr ⟨hh', hh'.seen_eq.trans hh.seen_eq.symm⟩
  case some t =>
    rw [(Course.cut d ho hc).attempt_eq]
    exact .inl <| .cut (Cancellation.cut?_mono hc hf) rfl rfl

theorem interrupted_of_wanted (hc : Course policy env call deadline .never left n now past s ds dry i)
    (hb : c.before now = false) : Interrupted c now i (attempt policy env call deadline c left n now past s) := by
  induction hc
  case givenUp hn    => cases hn
  case cut hn        => cases hn
  case cutWaiting hn => cases hn
  case expired hd =>
    rw [(Course.expired hb hd).attempt_eq]
    exact .uncut (Cancellation.cut?_eq_none.mpr hb)
  case emptied ho hp =>
    rw [(Course.emptied ⟨hb, ho.inTime⟩ hp).attempt_eq]
    exact .uncut (Cancellation.cut?_eq_none.mpr hb)
  case replied d ho hh =>
    replace ho : Open deadline c d.start := ⟨hb, ho.inTime⟩
    refine (cut_or_hears d ho hh le_rfl).elim id ?_
    intro ⟨hh', hs⟩
    rw [← hs, (Course.replied d ho hh').attempt_eq]
    exact .uncut hh'.uncut
  case failed d ho hh hf =>
    replace ho : Open deadline c d.start := ⟨hb, ho.inTime⟩
    refine (cut_or_hears d ho hh le_rfl).elim id ?_
    intro ⟨hh', hs⟩
    rw [← hs, (Course.failed d ho hh' hf).attempt_eq]
    exact .uncut hh'.uncut
  case again n left past ds dry i d ho hh hr hu _ hn hi =>
    replace ho : Open deadline c d.start := ⟨hb, ho.inTime⟩
    have hd := d.settled_le_wake_due call deadline policy n
    refine (cut_or_hears d ho hh (hd.trans hn.le_finish)).elim id ?_
    intro ⟨hh', hs⟩
    have hf : c.cut? d.start i.finish = c.cut? (d.settled call deadline).1 i.finish :=
      Cancellation.cut?_of_uncut hh'.uncut (d.start_le_settled ho.inTime)
    cases hw : c.cut? (d.settled call deadline).1 (Instant.wake (d.due call deadline policy n))
    case some t =>
      rw [(Course.cutWaiting d ho hh' hr hu hw).attempt_eq]
      exact .cut (hf ▸ Cancellation.cut?_mono hw hn.le_finish) rfl rfl
    case none =>
      have ⟨_, _, _, hn'⟩ := exists_course policy env call deadline c left (n + 1)
        (Instant.wake (d.due call deadline policy n)) (d.seen call deadline c :: past) (d.outcome call).2
      have hi := hi (Cancellation.cut?_eq_none.mp hw)
      rw [← hs, hn'.attempt_eq] at hi
      rw [(Course.again d ho hh' hr hu hw hn').attempt_eq]
      have hc := hf.trans (Cancellation.cut?_of_uncut hw hd)
      cases hi
      case cut h₁ h₂ h₃ => exact .cut (hc ▸ h₁) h₂ h₃
      case uncut h      => exact .uncut (hc ▸ h)

-- If the call is given up before it would have ended, it ends there, and otherwise it goes on as if nobody
-- could give it up.
theorem interrupted (hc : Course policy env call deadline .never left n now past s ds dry i) (c : Cancellation) :
    Interrupted c now i (attempt policy env call deadline c left n now past s) := by
  cases hb : c.before now
  case false => exact hc.interrupted_of_wanted hb
  case true =>
    rw [(Course.givenUp hb).attempt_eq]
    exact .cut (Cancellation.cut?_of_before hb hc.le_finish) rfl rfl

end Course

theorem Interrupted.cancelled {i' : Invocation σ} (h : Interrupted c now i i') (hb : c.before i.finish) :
    i'.result = .error .cancelled ∧ c.cut? now i.finish = some i'.finish := by
  cases h
  case cut hc hr ht => exact ⟨hr, ht ▸ hc⟩
  case uncut hc     => simp [Cancellation.cut?_eq_none.mp hc] at hb

theorem Interrupted.eq_of_wanted {i' : Invocation σ} (h : Interrupted c now i i') (hb : c.before i.finish = false) :
    i' = i := by
  cases h
  case cut hc _ _ => simp [Cancellation.cut?_eq_none.mpr hb] at hc
  case uncut      => rfl

end Invocation

-- The node that a deed sends a call to, and when.
def Deed.dispatch? {σ : Type} : Deed σ → Option (Endpoint × Instant)
  | pick ..            => none
  | send node _ start _ => some (node, start)

namespace Invocation

variable {σ : Type} {policy : RetryPolicy} {env : Surroundings σ} {call : Call} {deadline : Instant}
         {cancel : Cancellation} {now : Instant} {s : σ} {ds : List (Dispatch env)} {dry : Option σ}
         {i : Invocation σ}

theorem filterMap_deeds (call : Call) (ds : List (Dispatch env)) (dry : Option σ) :
    (deeds call ds dry).filterMap Deed.dispatch? = ds.map fun d => (d.node, d.start) := by
  induction ds
  case nil => cases dry <;> rfl
  case cons d ds hi =>
    rw [deeds_cons, filterMap_append, hi, map_cons]
    rfl

-- When a call `i` that was begun at `now` does what it does. A call that is begun after its deadline can
-- only end at once. Given up, it is compared with the call that nobody can give up.
structure Timely (policy : RetryPolicy) (deadline : Instant) (cancel : Cancellation) (now : Instant)
    (undisturbed i : Invocation σ) : Prop where
  ends      : now ≤ i.finish ∧ i.finish ≤ max now (Instant.wake deadline)
  inTime    : ∀ a ∈ i.attempts, a.start < deadline
  wanted    : ∀ a ∈ i.attempts, cancel.before a.start = false
  backsOff  : ∀ k a b, i.attempts[k]? = some a → i.attempts[k + 1]? = some b →
    (∃ status, a.answer = some (.error status)) ∧ a.finish + (policy.backoff (k + 1)).nanos ≤ b.start
  -- The clock does not end before a wait whose end is reckoned.
  onClock   : ∀ k a, i.attempts[k]? = some a → Instant.wake deadline + (policy.backoff (k + 1)).nanos < Instant.limit →
    a.finish + (policy.backoff (k + 1)).nanos < Instant.limit
  cancelled : cancel.before undisturbed.finish →
    i.result = .error .cancelled ∧ cancel.cut? now undisturbed.finish = some i.finish
  otherwise : cancel.before undisturbed.finish = false → i = undisturbed

theorem Course.timely {left : Nat} {undisturbed : Invocation σ}
    (hc : Course policy env call deadline cancel left 1 now [] s ds dry i)
    (h : Interrupted cancel now undisturbed i) : Timely policy deadline cancel now undisturbed i := by
  have ha : i.attempts = ds.map (·.seen call deadline cancel) := hc.attempts_eq
  have hopen : ∀ a ∈ i.attempts, Open deadline cancel a.start := by
    intro a hm
    obtain ⟨d, hd, rfl⟩ := mem_map.mp (ha ▸ hm)
    exact d.seen_start call deadline cancel ▸ hc.starts d hd
  exact {
    ends      := ⟨hc.le_finish, hc.finish_le⟩
    inTime    := fun a hm => (hopen a hm).inTime
    wanted    := fun a hm => (hopen a hm).wanted
    backsOff  := by
      intro k a b hka hkb
      have ⟨hs, _, hw⟩ := hc.next_attempt hka hkb
      exact ⟨hs, hw ▸ Instant.le_wake _⟩
    onClock   := by
      intro k a ha hl
      have hf := hc.attempts_finish_le a (mem_of_getElem? ha)
      exact (Nat.add_le_add_right hf _).trans_lt hl
    cancelled := h.cancelled
    otherwise := h.eq_of_wanted
  }

-- Whatever nodes and others do in the meantime, a call ends by the timer of its deadline, sends nothing at or
-- after the deadline or once it has been given up, and waits between its attempts as long as its policy says.
-- The attempts that it tells of are those that a record of all its deeds shows.
theorem run_timely (policy : RetryPolicy) (env : Surroundings σ) (call : Call) (deadline : Instant)
    (cancel : Cancellation) (now : Instant) (s : σ) :
    let i := run policy env call deadline cancel now s
    Timely policy deadline cancel now (run policy env call deadline .never now s) i ∧
    ∃ log, run policy env.recorded call deadline cancel now ([], s) = i.recorded log ∧
      log.filterMap Deed.dispatch? = i.attempts.map fun a => (a.node, a.start) := by
  have ⟨_, _, _, hn⟩ := exists_course policy env call deadline .never (policy.maxAttempts - 1) 1 now [] s
  have ⟨ds, dry, i, hc⟩ := exists_course policy env call deadline cancel (policy.maxAttempts - 1) 1 now [] s
  have hi := hn.interrupted cancel
  have ⟨hr, hl⟩ := run_recorded hc
  rw [hc.attempt_eq] at hi
  rw [hr, (run_recorded hn).left]
  refine ⟨hc.timely hi, deeds call ds dry, hl, ?_⟩
  rw [filterMap_deeds, hc.attempts_eq]
  simp [Dispatch.seen_start, Dispatch.seen_node]

-- Nodes of which the first that is tried is not available, and the others never answer.
def stalls (_ : Endpoint) (_ : Call) (_ : Instant) (s : Pool × Nat) : Arrival × Pool × Nat :=
  match s.2 with
  | 0     => (.after .zero (.error ⟨.unavailable, "starting"⟩), s.1, 1)
  | k + 1 => (.never, s.1, k + 2)

theorem run_stalls :
    (run twice (.overPool stalls) ⟨"/UserService/GetById", .null, []⟩ 1500000 .never 0
      (.fresh Pool.tenTwentyThirty, 0)).finish = 2000000 := by
  have hm : twice.maxAttempts - 1 = 0 + 1 := rfl
  rw [run, hm, attempt, backoff_twice]
  rfl

-- The second node would be waited for until the timer of the deadline, but the call is given up before that.
theorem run_timely_stalls :
    let i := run twice (.overPool stalls) ⟨"/UserService/GetById", .null, []⟩ 1500000 (.at 1000000) 0
      (.fresh Pool.tenTwentyThirty, 0)
    i.result = .error .cancelled ∧ i.finish = 1000000 ∧
      ∀ a, i.attempts[0]? = some a → a.finish + (twice.backoff 1).nanos < Instant.limit := by
  have ⟨ht, _⟩ := run_timely twice (.overPool stalls) ⟨"/UserService/GetById", .null, []⟩ 1500000 (.at 1000000) 0
    (.fresh Pool.tenTwentyThirty, 0)
  have hc := ht.cancelled
  rw [run_stalls] at hc
  have ⟨hr, hf⟩ := hc rfl
  have hl : Instant.wake 1500000 + (twice.backoff 1).nanos < Instant.limit := by rw [backoff_twice]; decide
  exact ⟨hr, (Option.some.inj hf).symm, fun a ha => ht.onClock 0 a ha hl⟩

end Invocation

end Sluice
