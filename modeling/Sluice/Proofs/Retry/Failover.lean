import Sluice.Proofs.Pool.Health
import Sluice.Proofs.Retry.Interruption

open List

namespace Sluice

theorem Cancellation.before_eq_false_of_le {c : Cancellation} {now finish : Instant} (h : c.before finish = false)
    (hn : now ≤ finish) : c.before now = false := by
  cases c
  case never      => rfl
  case beforehand => cases h
  case «at» t     =>
    have : finish ≤ t := by simpa [before] using h
    simpa [before] using hn.trans this

namespace Invocation

section

variable {σ : Type} {policy : RetryPolicy} {env : Surroundings σ} {call : Call} {deadline : Instant}
         {cancel : Cancellation} {left n : Nat} {now : Instant} {past : List Attempt} {s t u : σ} {node : Endpoint}
         {delay : Duration}

-- Neither the deadline nor the caller intervenes in the call `i`: each of its attempts begins before the deadline and
-- ends by its timer, and nobody gives the call up before it ends.
structure Spared (deadline : Instant) (cancel : Cancellation) (i : Invocation σ) : Prop where
  inTime : ∀ a ∈ i.attempts, a.start < deadline ∧ a.finish ≤ Instant.wake deadline
  wanted : cancel.before i.finish = false

theorem exists_spared (i : Invocation σ) (deadline : Instant) : ∃ later ≥ deadline, Spared later .never i := by
  refine ⟨deadline + (i.attempts.map fun a => a.start + a.finish + 1).sum, Nat.le_add_right .., fun a ha => ?_, rfl⟩
  have hl : a.start + a.finish + 1 ≤ (i.attempts.map fun a => a.start + a.finish + 1).sum :=
    le_sum_of_mem (mem_map_of_mem ha)
  have hs := Nat.lt_of_succ_le (hl.trans (Nat.le_add_left _ deadline))
  exact ⟨(Nat.le_add_right ..).trans_lt hs, (Nat.le_add_left ..).trans (hs.le.trans (Instant.le_wake _))⟩

theorem attempt_of_reply {reply : Response} (ho : Open deadline cancel now) (hp : env.pick s = (some node, t))
    (hs : env.send node call now t = (.after delay (.ok reply), u))
    (hf : Instant.wake (now + delay.nanos) ≤ Instant.wake deadline)
    (hc : cancel.before (Instant.wake (now + delay.nanos)) = false) :
    attempt policy env call deadline cancel left n now past s =
      ⟨.ok reply, (⟨node, now, Instant.wake (now + delay.nanos), some (.ok reply)⟩ :: past).reverse, n,
        Instant.wake (now + delay.nanos), u⟩ := by
  rw [attempt.eq_def]
  simp [ho.wanted, Nat.not_le_of_lt ho.inTime, hp, hs, settle, hf, Cancellation.cut?_eq_none.mpr hc]

theorem attempt_of_retry {status : Status} (ho : Open deadline cancel now) (hp : env.pick s = (some node, t))
    (hs : env.send node call now t = (.after delay (.error status), u)) (hr : policy.isRetryable status.code)
    (hf : Instant.wake (now + delay.nanos) ≤ Instant.wake deadline)
    (hu : Instant.wake (now + delay.nanos) + (policy.backoff n).nanos < deadline)
    (hc : cancel.before (Instant.wake (Instant.wake (now + delay.nanos) + (policy.backoff n).nanos)) = false) :
    attempt policy env call deadline cancel (left + 1) n now past s =
      attempt policy env call deadline cancel left (n + 1)
        (Instant.wake (Instant.wake (now + delay.nanos) + (policy.backoff n).nanos))
        (⟨node, now, Instant.wake (now + delay.nanos), some (.error status)⟩ :: past) u := by
  have hc' := Cancellation.before_eq_false_of_le hc ((Nat.le_add_right _ _).trans (Instant.le_wake _))
  rw [attempt]
  simp [ho.wanted, Nat.not_le_of_lt ho.inTime, hp, hs, settle, hf, Cancellation.cut?_eq_none.mpr hc,
    Cancellation.cut?_eq_none.mpr hc', hr, Nat.not_le_of_lt hu]

end

-- Nodes of which the healthy ones answer every dispatch with a reply, and the others with a failure that may be
-- tried again. Meanwhile nobody else uses the selector.
structure Steady {ω : Type} (es : List Endpoint) (healthy : Endpoint → Bool) (policy : RetryPolicy) (call : Call)
    (send : Endpoint → Call → Instant → Pool × ω → Arrival × Pool × ω) : Prop where
  alone   : ∀ node now s, (send node call now s).2.1 = s.1
  replies : ∀ e ∈ es, healthy e → ∀ now s, ∃ delay reply, (send e call now s).1 = .after delay (.ok reply)
  fails   : ∀ e ∈ es, ¬healthy e → ∀ now s, ∃ delay status,
    (send e call now s).1 = .after delay (.error status) ∧ status.code ∈ policy.retryable

section

variable {ω : Type} {policy : RetryPolicy} {send : Endpoint → Call → Instant → Pool × ω → Arrival × Pool × ω}
         {call : Call} {healthy : Endpoint → Bool} {es bad : List Endpoint} {good : Endpoint} {left n : Nat}
         {now : Instant} {past : List Attempt} {p q : Pool} {i : Invocation (Pool × ω)}

-- A call that has made the attempts `past` tries some nodes from `now` on, and the last of them replies.
structure FailsOver (send : Endpoint → Call → Instant → Pool × ω → Arrival × Pool × ω) (call : Call)
    (past : List Attempt) (now : Instant) (bad : List Endpoint) (good : Endpoint) (i : Invocation (Pool × ω)) :
    Prop where
  nodes  : i.attempts.map (·.node) = (past.reverse.map (·.node)) ++ bad ++ [good]
  past   : past ⊆ i.attempts
  begins : ∃ a ∈ i.attempts, a.start = now
  ends   : now ≤ i.finish
  reply  : ∃ a reply, i.attempts.getLast? = some a ∧ a.node = good ∧ a.answer = some (.ok reply) ∧
    i.result = .ok reply ∧ ∃ s delay, (send good call a.start s).1 = .after delay (.ok reply)

theorem FailsOver.last {a : Attempt} {reply : Response} {s t : Pool × ω} {delay : Duration} (ha : a.node = good)
    (hr : a.answer = some (.ok reply)) (hn : a.start ≤ a.finish)
    (hs : (send good call a.start s).1 = .after delay (.ok reply)) :
    FailsOver send call past a.start [] good ⟨.ok reply, (a :: past).reverse, n, a.finish, t⟩ where
  nodes  := by simp [ha]
  past   := by simp
  begins := ⟨a, by simp, rfl⟩
  ends   := hn
  reply  := ⟨a, reply, by simp, ha, hr, rfl, s, delay, hs⟩

theorem FailsOver.again {a : Attempt} {later : Instant} (h : FailsOver send call (a :: past) later bad good i)
    (hl : a.start ≤ later) : FailsOver send call past a.start (a.node :: bad) good i where
  nodes  := by simp [h.nodes]
  past   := fun x hx => h.past (mem_cons_of_mem a hx)
  begins := ⟨a, h.past mem_cons_self, rfl⟩
  ends   := hl.trans h.ends
  reply  := h.reply

-- The induction is on the nodes that are tried in vain. Each attempt is begun when its node is due, and whether the
-- deadline spares it can be told from the attempts that the call is known to make.
theorem exists_failsOver (hs : Steady es healthy policy call send) (t : Pool.Turns p (bad ++ [good]) q)
    (hbad : ∀ e ∈ bad, e ∈ es ∧ ¬healthy e) (hgood : good ∈ es ∧ healthy good) (hl : bad.length ≤ left) (n : Nat)
    (now : Instant) (past : List Attempt) (w : ω) :
    ∃ i, FailsOver send call past now bad good i ∧ ∀ deadline cancel, Spared deadline cancel i →
      attempt policy (.overPool send) call deadline cancel left n now past (p, w) = i := by
  induction bad generalizing p left n now past w
  case nil =>
    cases t
    case cons q ha _ =>
      have hp : (Surroundings.overPool send).pick (p, w) = (some good, q, w) := by
        simp only [Surroundings.overPool, ha]
      have ⟨delay, reply, hr⟩ := hs.replies good hgood.left hgood.right now (q, w)
      let a : Attempt := ⟨good, now, Instant.wake (now + delay.nanos), some (.ok reply)⟩
      have hd : now ≤ a.finish := (Nat.le_add_right now delay.nanos).trans (Instant.le_wake _)
      refine ⟨⟨.ok reply, (a :: past).reverse, n, a.finish, (send good call now (q, w)).2⟩,
        .last (a := a) rfl rfl hd hr, fun deadline cancel h => ?_⟩
      have ⟨hi, hf⟩ := h.inTime a (by simp)
      exact attempt_of_reply ⟨Cancellation.before_eq_false_of_le h.wanted hd, hi⟩ hp (Prod.ext hr rfl) hf h.wanted
  case cons b bad hi =>
    cases t
    case cons q ha t =>
      have hp : (Surroundings.overPool send).pick (p, w) = (some b, q, w) := by
        simp only [Surroundings.overPool, ha]
      have ⟨hm, hb⟩ := hbad b mem_cons_self
      have ⟨delay, status, hr, hc⟩ := hs.fails b hm hb now (q, w)
      have hsend : (Surroundings.overPool send).send b call now (q, w) =
          (.after delay (.error status), q, (send b call now (q, w)).2.2) :=
        Prod.ext hr (Prod.ext (hs.alone b now (q, w)) rfl)
      obtain ⟨left, rfl⟩ := Nat.exists_eq_succ_of_ne_zero (Nat.ne_of_gt (Nat.zero_lt_of_lt hl))
      let a : Attempt := ⟨b, now, Instant.wake (now + delay.nanos), some (.error status)⟩
      let due := a.finish + (policy.backoff n).nanos
      have hd : now ≤ Instant.wake due := (Nat.le_add_right now delay.nanos).trans <| (Instant.le_wake _).trans <|
        (Nat.le_add_right a.finish (policy.backoff n).nanos).trans (Instant.le_wake due)
      have ⟨i, hf, hall⟩ := hi t (fun e he => hbad e (mem_cons_of_mem b he)) (Nat.le_of_succ_le_succ hl) (n + 1)
        (Instant.wake due) (a :: past) (send b call now (q, w)).2.2
      refine ⟨i, hf.again hd, fun deadline cancel h => ?_⟩
      have ⟨hstart, hfinish⟩ := h.inTime a (hf.past mem_cons_self)
      have ⟨next, hnext, hdue⟩ := hf.begins
      have hu : due < deadline := (Instant.le_wake due).trans_lt (hdue ▸ (h.inTime next hnext).left)
      have hw := Cancellation.before_eq_false_of_le h.wanted hf.ends
      have hn := Cancellation.before_eq_false_of_le hw hd
      rw [attempt_of_retry ⟨hn, hstart⟩ hp hsend (policy.isRetryable_iff.mpr hc) hfinish hu hw]
      exact hall deadline cancel h

-- Failover reaches a healthy node. Wherever in its cycle the selector stands, one attempt more than the share that the
-- other nodes have of a cycle is enough. Here `i` is the call as it goes if neither the deadline nor the caller
-- intervenes, which is to say that it would go the same with any later deadline and if nobody could give it up.
theorem run_fails_over {κ : Type} (hn : (es.map Endpoint.address).Nodup) (he : ∃ e ∈ es, healthy e)
    (hs : Steady es healthy policy call send)
    (hm : ((es.map Endpoint.weight).sum - Pool.weightOf es healthy) / (es.map Endpoint.weight).foldr Nat.gcd 0 + 1 ≤
      policy.maxAttempts) (before : List κ) (now : Instant) (w : ω) :
    ∃ p, Pool.ofEndpoints es = .ok p ∧
      let go := fun deadline cancel => run policy (.overPool send) call deadline cancel now ((Pool.serve before p).2, w)
      ∃ i : Invocation (Pool × ω),
        (∃ a reply, i.attempts.getLast? = some a ∧ a.node ∈ es ∧ healthy a.node ∧ a.answer = some (.ok reply) ∧
          i.result = .ok reply ∧ ∃ s delay, (send a.node call a.start s).1 = .after delay (.ok reply)) ∧
        (∀ a ∈ i.attempts.dropLast, ¬healthy a.node) ∧
        i.attempts.length ≤
          ((es.map Endpoint.weight).sum - Pool.weightOf es healthy) / (es.map Endpoint.weight).foldr Nat.gcd 0 + 1 ∧
        (∀ deadline cancel, Spared deadline cancel i → go deadline cancel = i) ∧
        (∀ deadline cancel, (∀ later ≥ deadline, go deadline cancel = go later .never) → go deadline cancel = i) := by
  refine ⟨.fresh es, Pool.ofEndpoints_eq_ok.mpr ⟨hn, rfl⟩, ?_⟩
  have hne : (Pool.fresh es).nodes ≠ [] := by
    obtain ⟨_, hmem, _⟩ := he
    simpa [Pool.fresh] using ne_nil_of_mem hmem
  obtain ⟨xs, p, hx, tx⟩ := Pool.exists_turns hne before.length
  obtain ⟨bad, good, q, t, hbad, hgood, hh, hl⟩ := Pool.exists_healthy tx hn he
  rw [← Pool.weightOf_add_not es healthy, Nat.add_sub_cancel_left, ← Pool.fresh_grain] at hm ⊢
  have hb : bad.length ≤ policy.maxAttempts - 1 := by omega
  obtain ⟨i, hf, hall⟩ := exists_failsOver hs t hbad ⟨hgood, hh⟩ hb 1 now [] w
  rw [tx.serve_eq hx.symm]
  refine ⟨i, ?_, ?_, ?_, hall, ?_⟩
  · obtain ⟨a, reply, ha, rfl, hr⟩ := hf.reply
    exact ⟨a, reply, ha, hgood, hh, hr⟩
  · intro a ha
    have hd : i.attempts.dropLast.map (·.node) = bad := by
      rw [map_dropLast, hf.nodes]
      simp
    exact (hbad a.node (hd ▸ mem_map_of_mem ha)).right
  · have hlen := congrArg List.length hf.nodes
    simp only [length_map, reverse_nil, map_nil, nil_append, length_append, length_singleton] at hlen
    omega
  · intro deadline cancel h
    obtain ⟨later, hle, hi⟩ := exists_spared i deadline
    exact (h later hle).trans (hall later .never hi)

-- Of these nodes only the first is up, which has a sixth of the traffic.
def lonely (node : Endpoint) (_ : Call) (_ : Instant) (s : Pool × Unit) : Arrival × Pool × Unit :=
  (.after .zero (if node.address = "http://a:1" then .ok ⟨200, [], []⟩ else .error ⟨.unavailable, "down"⟩), s)

def sixTimes : RetryPolicy :=
  ⟨6, .zero, .ofMillis 5, 2, [.unavailable]⟩

theorem lonely_steady : Steady Pool.tenTwentyThirty (·.address = "http://a:1") sixTimes
    ⟨"/UserService/GetById", .null, []⟩ lonely where
  alone _ _ _ := rfl
  replies e _ h _ _ := ⟨.zero, ⟨200, [], []⟩, by simp_all [lonely]⟩
  fails e _ h _ _ := ⟨.zero, ⟨.unavailable, "down"⟩, by simp_all [lonely], by decide⟩

theorem run_fails_over_lonely : (Pool.tenTwentyThirty.map Endpoint.address).Nodup ∧
    ∃ p, Pool.ofEndpoints Pool.tenTwentyThirty = .ok p ∧ ∃ deadline,
      (run sixTimes (.overPool lonely) ⟨"/UserService/GetById", .null, []⟩ deadline .never 0
        ((Pool.serve [0, 1, 2, 3] p).2, ())).result = .ok ⟨200, [], []⟩ := by
  have hn : (Pool.tenTwentyThirty.map Endpoint.address).Nodup := by decide
  obtain ⟨p, hp, i, ⟨a, reply, _, _, hh, _, hr, s, delay, ha⟩, _, _, hall, _⟩ :=
    run_fails_over hn ⟨_, mem_cons_self, by decide⟩ lonely_steady (by decide) [0, 1, 2, 3] 0 ()
  obtain ⟨deadline, _, hd⟩ := exists_spared i 0
  refine ⟨hn, p, hp, deadline, (congrArg result (hall deadline .never hd)).trans ?_⟩
  rw [hr]
  simp_all [lonely]

end

end Invocation

end Sluice
