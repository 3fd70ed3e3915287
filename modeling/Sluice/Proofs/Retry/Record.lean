import Sluice.Proofs.Retry.Course

open List

namespace Sluice

-- What a call does to the world around it.
inductive Deed (σ : Type) where
  | pick (world : σ) (node : Option Endpoint)
  | send (node : Endpoint) (call : Call) (start : Instant) (arrival : Arrival)

-- The same surroundings, which write down everything that is done to them.
def Surroundings.recorded {σ : Type} (env : Surroundings σ) : Surroundings (List (Deed σ) × σ) where
  pick s :=
    let (node, world) := env.pick s.2
    (node, s.1 ++ [.pick s.2 node], world)
  send node call now s :=
    let (arrival, world) := env.send node call now s.2
    (arrival, s.1 ++ [.send node call now arrival], world)

namespace Dispatch

variable {σ : Type} {env : Surroundings σ} {d : Dispatch env} {call : Call} {deadline : Instant}
         {cancel : Cancellation} {log : List (Deed σ)}

-- A dispatch takes one selector step and sends the call once.
def deeds (d : Dispatch env) (call : Call) : List (Deed σ) :=
  [.pick d.world (some d.node), .send d.node call d.start (d.outcome call).1]

def recorded (d : Dispatch env) (log : List (Deed σ)) : Dispatch env.recorded where
  world  := (log, d.world)
  start  := d.start
  node   := d.node
  picked := d.picked

theorem recorded_outcome : ((d.recorded log).outcome call).2 = (log ++ d.deeds call, (d.outcome call).2) := by
  have hp := d.picked
  simp [outcome, Surroundings.recorded, recorded, deeds, hp]

theorem Hears.recorded {answer : Except Status Response} (h : d.Hears call deadline cancel answer) :
    (d.recorded log).Hears call deadline cancel answer :=
  ⟨h.uncut, h.settles⟩

end Dispatch

namespace Invocation

variable {σ : Type} {policy : RetryPolicy} {env : Surroundings σ} {call : Call} {deadline : Instant}
         {cancel : Cancellation} {left n : Nat} {now : Instant} {past : List Attempt} {s : σ}
         {ds : List (Dispatch env)} {dry : Option σ} {i : Invocation σ}

-- All that is done in the dispatches `ds`, and then to the world `dry` in which there is no node.
def deeds (call : Call) (ds : List (Dispatch env)) (dry : Option σ) : List (Deed σ) :=
  ds.flatMap (·.deeds call) ++ dry.toList.map (.pick · none)

def recorded (i : Invocation σ) (log : List (Deed σ)) : Invocation (List (Deed σ) × σ) :=
  ⟨i.result, i.attempts, i.picks, i.finish, log, i.state⟩

theorem deeds_nil : deeds call ([] : List (Dispatch env)) none = [] := rfl

theorem deeds_cons (d : Dispatch env) (ds : List (Dispatch env)) (dry : Option σ) :
    deeds call (d :: ds) dry = d.deeds call ++ deeds call ds dry := by
  rw [deeds, deeds, flatMap_cons, append_assoc]

-- A record shows which dispatches were made.
theorem deeds_inj {ds' : List (Dispatch env)} {dry' : Option σ} (h : deeds call ds dry = deeds call ds' dry') :
    ds = ds' := by
  induction ds generalizing ds'
  case nil =>
    cases ds'
    case nil  => rfl
    case cons => cases dry <;> simp [deeds, Dispatch.deeds] at h
  case cons d ds hi =>
    cases ds'
    case nil => cases dry' <;> simp [deeds, Dispatch.deeds] at h
    case cons d' ds' =>
      rw [deeds_cons, deeds_cons] at h
      have ⟨hd, ht⟩ := append_inj h rfl
      simp only [Dispatch.deeds, cons.injEq, Deed.pick.injEq, Deed.send.injEq] at hd
      have he : d = d' := by
        cases d; cases d'
        simp_all
      rw [he, hi ht]

-- That everything is written down does not change what a call does.
theorem Course.recorded (hc : Course policy env call deadline cancel left n now past s ds dry i)
    (log : List (Deed σ)) :
    ∃ ds' dry', Course policy env.recorded call deadline cancel left n now past (log, s) ds' dry'
      (i.recorded (log ++ deeds call ds dry)) := by
  induction hc generalizing log
  case givenUp hb =>
    refine ⟨[], none, ?_⟩
    rw [deeds_nil, append_nil]
    exact .givenUp hb
  case expired hb hd =>
    refine ⟨[], none, ?_⟩
    rw [deeds_nil, append_nil]
    exact .expired hb hd
  case emptied _ s _ _ _ ho hp =>
    have hd : (env.recorded.pick (log, s)).2 =
        (log ++ deeds call ([] : List (Dispatch env)) (some s), (env.pick s).2) := by
      simp [Surroundings.recorded, deeds, hp]
    refine ⟨[], some (log, s), ?_⟩
    rw [Invocation.recorded, ← hd]
    exact .emptied ho hp
  case again d ho hh hr hu hw hn hi =>
    have ⟨ds', dry', hn⟩ := hi (log ++ d.deeds call)
    refine ⟨d.recorded log :: ds', dry', ?_⟩
    rw [← Dispatch.recorded_outcome, append_assoc, ← deeds_cons] at hn
    exact .again (d.recorded log) ho hh.recorded hr hu hw hn
  all_goals
    rename Dispatch env => d
    refine ⟨[d.recorded log], none, ?_⟩
    rw [deeds_cons, deeds_nil, append_nil, Invocation.recorded, ← Dispatch.recorded_outcome]
  case cut d ho hc               => exact .cut (d.recorded log) ho hc
  case replied d ho hh           => exact .replied (d.recorded log) ho hh.recorded
  case failed d ho hh hf         => exact .failed (d.recorded log) ho hh.recorded hf
  case cutWaiting d ho hh hr hu hw => exact .cutWaiting (d.recorded log) ho hh.recorded hr hu hw

theorem run_recorded (hc : Course policy env call deadline cancel (policy.maxAttempts - 1) 1 now [] s ds dry i) :
    run policy env call deadline cancel now s = i ∧
      run policy env.recorded call deadline cancel now ([], s) = i.recorded (deeds call ds dry) := by
  have ⟨_, _, hr⟩ := hc.recorded []
  exact ⟨hc.attempt_eq, hr.attempt_eq⟩

end Invocation

end Sluice
