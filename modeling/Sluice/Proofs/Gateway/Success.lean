import Sluice.Proofs.Gateway.Pipeline
import Sluice.Proofs.Retry.Account
import Sluice.Transport

open List

namespace Sluice

-- The statuses of a request that was carried out.
def IsSuccess (status : Nat) : Prop :=
  200 ≤ status ∧ status ≤ 299

instance : DecidablePred IsSuccess :=
  fun status => inferInstanceAs (Decidable (200 ≤ status ∧ status ≤ 299))

namespace Code

theorem ofHttp_eq_ok {status : Nat} : ofHttp status = .ok ↔ IsSuccess status := by
  unfold ofHttp IsSuccess
  split
  case isTrue h  => exact iff_of_true rfl h
  case isFalse h =>
    refine iff_of_false (fun ho => ?_) h
    split at ho
    case h_13 => split at ho <;> cases ho
    all_goals cases ho

theorem le_httpStatus {c : Code} (h : c ≠ .ok) : 400 ≤ c.httpStatus := by
  revert h
  cases c <;> decide

end Code

namespace Transport

variable {σ : Type} {node : Endpoint} {call : Call} {x : Exchange} {r : Response} {status : Status}
         {connection : Endpoint → Outgoing → Instant → σ → Delivery × σ} {now : Instant} {s : σ} {delay : Duration}

theorem outcome_eq_ok : outcome node x = .ok r ↔ x = .complete r ∧ IsSuccess r.status := by
  cases x
  case complete reply =>
    rw [outcome]
    split
    case h_1 h =>
      simp only [Except.ok.injEq, Exchange.complete.injEq, iff_self_and]
      rintro rfl
      exact Code.ofHttp_eq_ok.mp h
    case h_2 h =>
      refine iff_of_false nofun ?_
      rintro ⟨he, hr⟩
      cases he
      exact h (Code.ofHttp_eq_ok.mpr hr)
  all_goals exact iff_of_false nofun nofun

theorem code_of_outcome (h : outcome node x = .error status) : status.code ≠ .ok := by
  cases x
  case complete =>
    rw [outcome] at h
    split at h <;> cases h
    assumption
  all_goals cases h; nofun

theorem code_of_request (h : request node call = .error status) : status.code ≠ .ok := by
  rw [request] at h
  split at h <;> cases h
  nofun

-- A reply comes in exactly if a request is made, and the exchange for it brings the whole of a success.
theorem send_eq_ok : (send connection node call now s).1 = .after delay (.ok r) ↔
    ∃ out, request node call = .ok out ∧ (connection node out now s).1 = .after delay (.complete r) ∧
      IsSuccess r.status := by
  rw [send]
  cases request node call
  case error => simp
  case ok out =>
    simp only [Except.ok.injEq, exists_eq_left']
    split
    case h_1 d x _ hx => simp [hx, outcome_eq_ok, and_assoc]
    case h_2 hx       => simp [hx]

theorem code_of_send (h : (send connection node call now s).1 = .after delay (.error status)) : status.code ≠ .ok := by
  rw [send] at h
  split at h
  case h_1 hr => cases h; exact code_of_request hr
  case h_2 =>
    split at h
    case h_1 => exact code_of_outcome (Arrival.after.inj h).right
    case h_2 => cases h

end Transport

section

variable {σ : Type} {pick : σ → Option Endpoint × σ}
         {connection : Endpoint → Outgoing → Instant → σ → Delivery × σ}
         {d : Dispatch (Transport.surroundings pick connection)} {call : Call} {deadline : Instant}
         {cancel : Cancellation} {reply : Response} {status : Status}

namespace Dispatch

-- A dispatch brings a reply if the whole of a success comes over the connection while it is waited for.
structure Brings (d : Dispatch (Transport.surroundings pick connection)) (call : Call) (deadline : Instant)
    (cancel : Cancellation) (reply : Response) : Prop where
  success  : IsSuccess reply.status
  complete : ∃ out delay, Transport.request d.node call = .ok out ∧
    (connection d.node out d.start (pick d.world).2).1 = .after delay (.complete reply) ∧
    Instant.wake (d.start + delay.nanos) ≤ Instant.wake deadline ∧
    cancel.cut? d.start (Instant.wake (d.start + delay.nanos)) = none

theorem settled_of_inTime {delay : Duration} {answer : Except Status Response}
    (ho : (d.outcome call).1 = .after delay answer)
    (ht : Instant.wake (d.start + delay.nanos) ≤ Instant.wake deadline) :
    d.settled call deadline = (Instant.wake (d.start + delay.nanos), answer) := by
  rw [settled, ho, Invocation.settle, if_pos ht]

theorem hears_ok_iff : d.Hears call deadline cancel (.ok reply) ↔ d.Brings call deadline cancel reply := by
  constructor
  case mp =>
    intro h
    cases h.answered
    case inTime delay ht ho =>
      have ⟨out, hr, hc, hs⟩ := Transport.send_eq_ok.mp ho
      have hu := h.uncut
      rw [settled_of_inTime ho ht] at hu
      exact ⟨hs, out, delay, hr, hc, ht, hu⟩
  case mpr =>
    intro ⟨hs, out, delay, hr, hc, ht, hu⟩
    have hd := settled_of_inTime (Transport.send_eq_ok.mpr ⟨out, hr, hc, hs⟩) ht
    exact ⟨hd ▸ hu, hd ▸ rfl⟩

theorem Hears.code_ne_ok (h : d.Hears call deadline cancel (.error status)) : status.code ≠ .ok := by
  cases h.answered
  case inTime ho => exact Transport.code_of_send ho
  case late      => nofun

end Dispatch

namespace Invocation

-- The dispatches that a call makes, as a record of all its deeds shows them.
def Makes {env : Surroundings σ} (policy : RetryPolicy) (call : Call) (deadline : Instant) (cancel : Cancellation)
    (now : Instant) (s : σ) (ds : List (Dispatch env)) : Prop :=
  ∃ dry, (run policy env.recorded call deadline cancel now ([], s)).state.1 = deeds call ds dry

theorem Makes.unique {env : Surroundings σ} {policy : RetryPolicy} {now : Instant} {s : σ}
    {ds ds' : List (Dispatch env)} (h : Makes policy call deadline cancel now s ds)
    (h' : Makes policy call deadline cancel now s ds') : ds = ds' :=
  have ⟨_, h⟩ := h
  have ⟨_, h'⟩ := h'
  deeds_inj (h.symm.trans h')

theorem exists_account {policy : RetryPolicy} (hp : 0 < policy.maxAttempts) (env : Surroundings σ) (call : Call)
    (deadline : Instant) (cancel : Cancellation) (now : Instant) (s : σ) :
    ∃ (ds : List (Dispatch env)) (dry : Option σ), Makes policy call deadline cancel now s ds ∧
      Account policy call deadline cancel [] ds dry (run policy env call deadline cancel now s) := by
  have ⟨ds, dry, i, hc⟩ := exists_course policy env call deadline cancel (policy.maxAttempts - 1) 1 now [] s
  have ⟨hr, hl⟩ := run_recorded hc
  exact ⟨ds, dry, ⟨dry, by rw [hl]; rfl⟩, hr ▸ hc.account rfl (by omega)⟩

variable {policy : RetryPolicy} {now : Instant} {s : σ} {e : Fault}

-- A call succeeds exactly if the last of its dispatches brings a reply.
theorem run_eq_ok (hp : 0 < policy.maxAttempts) :
    (run policy (Transport.surroundings pick connection) call deadline cancel now s).result = .ok reply ↔
      ∃ (ds : List (Dispatch (Transport.surroundings pick connection))) (d : Dispatch _),
        Makes policy call deadline cancel now s ds ∧ ds.getLast? = some d ∧ d.Brings call deadline cancel reply := by
  have ⟨ds, dry, hm, ha⟩ := exists_account hp (Transport.surroundings pick connection) call deadline cancel now s
  rw [ha.reply_iff]
  constructor
  case mp =>
    intro ⟨d, hd, hh⟩
    exact ⟨ds, d, hm, hd, Dispatch.hears_ok_iff.mp hh⟩
  case mpr =>
    intro ⟨ds', d, hm', hd, hb⟩
    cases hm.unique hm'
    exact ⟨d, hd, Dispatch.hears_ok_iff.mpr hb⟩

theorem le_httpStatus_of_run (hp : 0 < policy.maxAttempts)
    (h : (run policy (Transport.surroundings pick connection) call deadline cancel now s).result = .error e) :
    400 ≤ e.httpStatus := by
  have ⟨ds, dry, _, ha⟩ := exists_account hp (Transport.surroundings pick connection) call deadline cancel now s
  cases e
  case call k status =>
    have ⟨_, hf⟩ := ha.failure k status h
    refine Code.le_httpStatus ?_
    cases hf
    case inl hf =>
      have ⟨_, _, hh⟩ := hf
      exact hh.code_ne_ok
    case inr hf =>
      cases hf.left
      nofun
  all_goals simp [Fault.httpStatus, Code.httpStatus]

end Invocation

end

theorem Request.le_httpStatus_of_accept {req : Request} {limit : Nat} {e : Fault} (h : req.accept limit = .error e) :
    400 ≤ e.httpStatus := by
  rw [accept_eq] at h
  split at h
  case h_1 hf =>
    cases h
    have ⟨stage, _, hs⟩ := exists_of_findSome?_eq_some hf
    rw [Stage.status_of_fault? hs]
    cases stage <;> decide
  case h_2 hf =>
    have hn := findSome?_eq_none_iff.mp hf _ Stage.payload.mem_all
    have ⟨payload, hp⟩ := Stage.fault?_eq_none.mp hn
    rw [readPayload_eq_ok.mpr hp] at h
    cases h

theorem Screening.le_httpStatus {ι σ : Type} {ask : ι → String → σ → Verdict × σ} {policy : FailPolicy} {call : Call}
    {checks : List (Check ι)} {s t : σ} {qs : List (Inquiry ι)} {e : Fault}
    (h : Screening ask policy call checks s qs (.error e) t) : 400 ≤ e.httpStatus := by
  generalize hr : Except.error e = result at h
  induction h
  case done          => cases hr
  case skip hi       => exact hi hr
  case proceed hi    => exact hi hr
  case refuse hf =>
    cases hr
    obtain ⟨_, rfl⟩ | ⟨_, _, _, rfl⟩ := Inquiry.fault?_eq_some.mp hf <;> simp [Fault.httpStatus]

theorem Chain.le_httpStatus_of_screen {ι σ : Type} {c : Chain ι} {ask : ι → String → σ → Verdict × σ} {call : Call}
    {s t : σ} {e : Fault} (h : c.screen ask call s = (.error e, t)) : 400 ≤ e.httpStatus := by
  have ⟨_, _, _, hs⟩ := Screening.construct ask c.onError call c.checks s
  rw [screen, hs.screenChecks_eq] at h
  cases h
  exact hs.le_httpStatus

namespace Gateway

variable {ι σ : Type}

-- A request earns a reply if it makes a call that both chains admit, and the last dispatch of the call brings it.
inductive Earns (gw : Gateway ι) (pick : σ → Option Endpoint × σ) (ask : Instant → ι → String → σ → Verdict × σ)
    (connection : Endpoint → Outgoing → Instant → σ → Delivery × σ) (req : Request) (cancel : Cancellation)
    (now : Instant) (s : σ) (reply : Response) : Prop
  | intro {ds : List (Dispatch (Transport.surroundings pick connection))} :
    req.accept gw.maxBody = .ok call →
    gw.chain.screen (ask now) call s = (.ok (), t) →
    gw.client.chain.screen (ask now) call t = (.ok (), u) →
    Invocation.Makes gw.client.policy call (now + gw.client.timeout.nanos) cancel now u ds →
    ds.getLast? = some d →
    d.Brings call (now + gw.client.timeout.nanos) cancel reply →
    Earns gw pick ask connection req cancel now s reply

variable {gw : Gateway ι} {pick : σ → Option Endpoint × σ} {ask : Instant → ι → String → σ → Verdict × σ}
         {connection : Endpoint → Outgoing → Instant → σ → Delivery × σ} {req : Request} {cancel : Cancellation}
         {now : Instant} {s : σ} {r reply : Response}

theorem Earns.success (h : Earns gw pick ask connection req cancel now s reply) : IsSuccess reply.status :=
  have ⟨_, _, _, _, _, hb⟩ := h
  hb.success

theorem Earns.handle_eq (h : Earns gw pick ask connection req cancel now s reply)
    (hp : 0 < gw.client.policy.maxAttempts) :
    (gw.handle (Transport.environment pick ask connection) req cancel now s).result = .ok (relay reply) := by
  have ⟨ha, hs, hc, hm, hd, hb⟩ := h
  have hr := (Invocation.run_eq_ok hp).mpr ⟨_, _, hm, hd, hb⟩
  rw [handle_of_admitted ha hs, Client.perform_of_admitted hc]
  exact congrArg (Except.map relay) hr

-- A request that earns no reply fails, at whatever point it does.
theorem earns_or_fails (hp : 0 < gw.client.policy.maxAttempts) :
    (∃ reply, Earns gw pick ask connection req cancel now s reply) ∨
    ∃ e, (gw.handle (Transport.environment pick ask connection) req cancel now s).result = .error e ∧
      400 ≤ e.httpStatus := by
  let env := Transport.environment pick ask connection
  cases ha : req.accept gw.maxBody
  case error e =>
    rw [handle_of_unaccepted ha]
    exact .inr ⟨e, rfl, Request.le_httpStatus_of_accept ha⟩
  case ok call =>
  obtain ⟨served, t, hs⟩ : ∃ served t, gw.chain.screen (env.ask now) call s = (served, t) := ⟨_, _, rfl⟩
  cases served
  case error e =>
    rw [handle_of_denied ha hs]
    exact .inr ⟨e, rfl, Chain.le_httpStatus_of_screen hs⟩
  case ok =>
  obtain ⟨sent, u, hc⟩ : ∃ sent u, gw.client.chain.screen (env.ask now) call t = (sent, u) := ⟨_, _, rfl⟩
  rw [handle_of_admitted ha hs]
  cases sent
  case error e =>
    rw [Client.perform_of_denied hc]
    exact .inr ⟨e, rfl, Chain.le_httpStatus_of_screen hc⟩
  case ok =>
  rw [Client.perform_of_admitted hc]
  let deadline := now + gw.client.timeout.nanos
  cases hr : (Invocation.run gw.client.policy env.toSurroundings call deadline cancel now u).result
  case error e => exact .inr ⟨e, rfl, Invocation.le_httpStatus_of_run hp hr⟩
  case ok reply =>
    have ⟨ds, d, hm, hd, hb⟩ := (Invocation.run_eq_ok hp).mp hr
    exact .inl ⟨reply, ⟨ha, hs, hc, hm, hd, hb⟩⟩

-- Success is neither invented nor lost: an answer tells of one exactly if the request has earned a reply, which then
-- is what the client gets, but for the headers of the node's connection. Any other answer tells of a failure.
theorem success_iff_earned {maxAttempts : Nat} {initial max : Duration} {multiplier : Float} {codes : List Code}
    (hp : RetryPolicy.make maxAttempts initial max multiplier codes = .ok gw.client.policy)
    (pick : σ → Option Endpoint × σ) (ask : Instant → ι → String → σ → Verdict × σ)
    (connection : Endpoint → Outgoing → Instant → σ → Delivery × σ) (req : Request) (cancel : Cancellation)
    (now : Instant) (s : σ) :
    let answer := respond (gw.handle (Transport.environment pick ask connection) req cancel now s).result
    (IsSuccess answer.status ↔ ∃ reply, Earns gw pick ask connection req cancel now s reply) ∧
    (∀ reply, Earns gw pick ask connection req cancel now s reply →
      answer.status = reply.status ∧ answer.body = reply.body ∧
      answer.headers = reply.headers.filter fun (name, _) => ¬Headers.HopByHop name ∧ name ≠ "content-length") ∧
    (¬IsSuccess answer.status → 400 ≤ answer.status) := by
  intro answer
  replace hp := RetryPolicy.maxAttempts_pos hp
  have ha : ∀ reply, Earns gw pick ask connection req cancel now s reply → answer = relay reply :=
    fun reply h => congrArg respond (h.handle_eq hp)
  have hs : ∀ reply, Earns gw pick ask connection req cancel now s reply → IsSuccess answer.status :=
    fun reply h => ha reply h ▸ h.success
  have hf : (∃ reply, Earns gw pick ask connection req cancel now s reply) ∨ 400 ≤ answer.status :=
    (earns_or_fails hp).imp_right fun ⟨e, he, hl⟩ => by
      rw [show answer = e.response from congrArg respond he]
      exact hl
  refine ⟨⟨fun h => ?_, fun ⟨reply, h⟩ => hs reply h⟩, fun reply h => ?_, fun h => ?_⟩
  · exact hf.resolve_right fun hl => by have := h.right; omega
  · rw [ha reply h]
    exact ⟨rfl, rfl, by simp [relay, ← Headers.isHopByHop_iff]⟩
  · exact hf.resolve_left fun ⟨reply, hr⟩ => h (hs reply hr)

-- A gateway without limiters, whose client tries a call twice.
def steadfast : Gateway Nat where
  chain   := .permissive
  client  := ⟨.permissive, Invocation.twice, .ofMillis 1000⟩
  maxBody := 1024

def created : Response :=
  ⟨201, [("connection", Bytes.ofString "close"), ("etag", Bytes.ofString "a"), ("content-length", Bytes.ofString "2"),
    ("etag", Bytes.ofString "b")], Bytes.ofString "{}"⟩

-- Nodes of which the first that is tried is starting; the world counts how often one is tried.
def startsUp (_ : Endpoint) (_ : Outgoing) (_ : Instant) (s : Pool × Nat) : Delivery × Pool × Nat :=
  match s.2 with
  | 0     => (.after .zero (.complete ⟨503, [], Bytes.ofString "starting"⟩), s.1, 1)
  | k + 1 => (.after .zero (.complete created), s.1, k + 2)

def unlimited (_ : Instant) (_ : Nat) (_ : String) (s : Pool × Nat) : Verdict × Pool × Nat :=
  (.allow, s)

def inTurn (s : Pool × Nat) : Option Endpoint × Pool × Nat :=
  (s.1.advance.1, s.1.advance.2, s.2)

theorem handle_startsUp :
    (steadfast.handle (Transport.environment inTurn unlimited startsUp) sound .never 0
      (.fresh Pool.tenTwentyThirty, 0)).result = .ok (relay created) := by
  have hl : 8 ≤ steadfast.maxBody := by decide
  have ⟨payload, hp, ha⟩ := Request.accept_of_passes (sound_passes hl)
  obtain rfl := hp.unique sound_carries
  have hm : steadfast.client.policy.maxAttempts - 1 = 0 + 1 := rfl
  have hb : steadfast.client.policy.backoff 1 = .zero := Invocation.backoff_twice
  rw [handle_of_admitted ha rfl, Client.perform_of_admitted rfl, Invocation.run, hm, Invocation.attempt, hb]
  rfl

-- The second dispatch earns the reply. Its headers of one name stay in order.
theorem success_iff_earned_startsUp :
    RetryPolicy.make 2 .zero (.ofMillis 5) 2 [.unavailable] = .ok steadfast.client.policy ∧
    ∃ reply, Earns steadfast inTurn unlimited startsUp sound .never 0 (.fresh Pool.tenTwentyThirty, 0) reply ∧
      reply.status = 201 ∧
      reply.headers.filter (fun (name, _) => ¬Headers.HopByHop name ∧ name ≠ "content-length") =
        [("etag", Bytes.ofString "a"), ("etag", Bytes.ofString "b")] := by
  have hp : RetryPolicy.make 2 .zero (.ofMillis 5) 2 [.unavailable] = .ok steadfast.client.policy := by rfl
  have ⟨hs, hr, _⟩ := success_iff_earned hp inTurn unlimited startsUp sound .never 0 (.fresh Pool.tenTwentyThirty, 0)
  rw [handle_startsUp] at hs hr
  have ⟨reply, he⟩ := hs.mp (by decide)
  have ⟨hst, _, hh⟩ := hr reply he
  refine ⟨hp, reply, he, hst.symm, hh.symm.trans ?_⟩
  decide

end Gateway

end Sluice
