import Mathlib
import Sluice.Admission

open List

namespace Sluice

-- A limiter that was asked for the sake of a check, and its answer.
structure Inquiry (ι : Type) where
  check   : Check ι
  key     : String
  verdict : Verdict

-- What a chain does with a call: it asks limiters, and it may let the call pass.
inductive Inquiry.Deed (ι : Type) where
  | ask (limiter : ι) (key : String) (verdict : Verdict)
  | pass

namespace Inquiry

variable {ι σ α : Type} {policy : FailPolicy} {q : Inquiry ι} {e : Fault}

def deed (q : Inquiry ι) : Deed ι :=
  .ask q.check.limiter q.key q.verdict

-- The same limiters, which write down what they are asked.
def recorded (ask : ι → String → σ → Verdict × σ) (limiter : ι) (key : String) (s : List (Deed ι) × σ) :
    Verdict × List (Deed ι) × σ :=
  let (verdict, t) := ask limiter key s.2
  (verdict, s.1 ++ [.ask limiter key verdict], t)

-- The same continuation, which writes down that it is run.
def recordedNext (next : σ → Except Fault α × σ) (s : List (Deed ι) × σ) : Except Fault α × List (Deed ι) × σ :=
  let (result, t) := next s.2
  (result, s.1 ++ [.pass], t)

-- What the check reports if it refuses the call on that answer.
def fault? (policy : FailPolicy) (q : Inquiry ι) : Option Fault :=
  match q.verdict with
  | .allow      => none
  | .deny       => some (.limited q.check.scope.tier)
  | .fail cause =>
    match policy with
    | .failClosed => some (.limiterUnavailable q.check.scope.tier cause)
    | .failOpen   => none

theorem fault?_eq_none : q.fault? policy = none ↔
    q.verdict ≠ .deny ∧ (policy = .failClosed → ∀ cause, q.verdict ≠ .fail cause) := by
  rw [fault?]
  cases q.verdict <;> cases policy <;> simp

theorem fault?_eq_some : q.fault? policy = some e ↔
    (q.verdict = .deny ∧ e = .limited q.check.scope.tier) ∨
    (policy = .failClosed ∧ ∃ cause, q.verdict = .fail cause ∧ e = .limiterUnavailable q.check.scope.tier cause) := by
  rw [fault?]
  cases q.verdict <;> cases policy <;> simp [eq_comm]

end Inquiry

-- Every way in which checks can be made. It lists the limiters that are asked.
inductive Screening {ι σ : Type} (ask : ι → String → σ → Verdict × σ) (policy : FailPolicy) (call : Call) :
    List (Check ι) → σ → List (Inquiry ι) → Except Fault Unit → σ → Prop
  | done :
    Screening ask policy call [] s [] (.ok ()) s
  | skip :
    check.scope.key? call = none →
    Screening ask policy call checks s qs result t →
    Screening ask policy call (check :: checks) s qs result t
  | refuse :
    check.scope.key? call = some key →
    Inquiry.fault? policy ⟨check, key, (ask check.limiter key s).1⟩ = some e →
    Screening ask policy call (check :: checks) s [⟨check, key, (ask check.limiter key s).1⟩] (.error e)
      (ask check.limiter key s).2
  | proceed :
    check.scope.key? call = some key →
    Inquiry.fault? policy ⟨check, key, (ask check.limiter key s).1⟩ = none →
    Screening ask policy call checks (ask check.limiter key s).2 qs result t →
    Screening ask policy call (check :: checks) s (⟨check, key, (ask check.limiter key s).1⟩ :: qs) result t

namespace Chain

variable {ι σ : Type} {policy : FailPolicy} {call : Call} {check : Check ι} {key : String}

theorem screenChecks_of_key (hk : check.scope.key? call = some key) (ask : ι → String → σ → Verdict × σ)
    (policy : FailPolicy) (checks : List (Check ι)) (s : σ) :
    screenChecks ask policy call (check :: checks) s =
      match Inquiry.fault? policy ⟨check, key, (ask check.limiter key s).1⟩ with
      | some e => (.error e, (ask check.limiter key s).2)
      | none   => screenChecks ask policy call checks (ask check.limiter key s).2 := by
  simp only [screenChecks, hk, Inquiry.fault?]
  obtain ⟨verdict, t⟩ := ask check.limiter key s
  cases verdict
  case allow => rfl
  case deny  => rfl
  case fail  => cases policy <;> rfl

end Chain

namespace Screening

variable {ι σ : Type} {ask : ι → String → σ → Verdict × σ} {policy : FailPolicy} {call : Call}
         {checks : List (Check ι)} {s t : σ} {qs : List (Inquiry ι)} {result : Except Fault Unit}

theorem construct (ask : ι → String → σ → Verdict × σ) (policy : FailPolicy) (call : Call)
    (checks : List (Check ι)) (s : σ) : ∃ qs result t, Screening ask policy call checks s qs result t := by
  induction checks generalizing s
  case nil => exact ⟨[], .ok (), s, .done⟩
  case cons check checks hi =>
    cases hk : check.scope.key? call
    case none =>
      have ⟨qs, result, t, h⟩ := hi s
      exact ⟨qs, result, t, .skip hk h⟩
    case some key =>
      cases hf : Inquiry.fault? policy ⟨check, key, (ask check.limiter key s).1⟩
      case some e => exact ⟨_, .error e, _, .refuse hk hf⟩
      case none =>
        have ⟨qs, result, t, h⟩ := hi (ask check.limiter key s).2
        exact ⟨_ :: qs, result, t, .proceed hk hf h⟩

-- A chain goes that way and no other.
theorem screenChecks_eq (h : Screening ask policy call checks s qs result t) :
    Chain.screenChecks ask policy call checks s = (result, t) := by
  induction h
  case done               => rfl
  case skip hk _ hi       => rw [Chain.screenChecks, hk, ← hi]
  case refuse hk hf       => rw [Chain.screenChecks_of_key hk, hf]
  case proceed hk hf _ hi => rw [Chain.screenChecks_of_key hk, hf, ← hi]

-- That everything is written down does not change what a chain does.
theorem recorded (h : Screening ask policy call checks s qs result t) (log : List (Inquiry.Deed ι)) :
    Screening (Inquiry.recorded ask) policy call checks (log, s) qs result (log ++ qs.map Inquiry.deed, t) := by
  induction h generalizing log
  case done =>
    rw [map_nil, append_nil]
    exact .done
  case skip hk _ hi => exact .skip hk (hi log)
  case refuse hk hf => exact .refuse hk hf
  case proceed hk hf _ hi =>
    rw [map_cons, append_cons]
    exact .proceed hk hf (hi _)

-- A limiter that is not asked stays as it is, whatever its state is and wherever it is kept.
theorem untouched {τ : Type} {view : σ → τ} {limiter : ι} (h : Screening ask policy call checks s qs result t)
    (hv : ∀ other ≠ limiter, ∀ key s, view (ask other key s).2 = view s)
    (hl : limiter ∉ qs.map (·.check.limiter)) : view t = view s := by
  induction h
  case done         => rfl
  case skip hi      => exact hi hl
  case refuse       => exact hv _ (by simpa [eq_comm] using hl) _ _
  case proceed hi   =>
    rw [map_cons, mem_cons, not_or] at hl
    exact (hi hl.right).trans (hv _ (Ne.symm hl.left) _ _)

end Screening

-- The second state comes about from the first if limiters of these checks are asked, and nothing else is done.
def Asked {ι σ : Type} (ask : ι → String → σ → Verdict × σ) (checks : List (Check ι)) : σ → σ → Prop :=
  Relation.ReflTransGen fun s t => ∃ check ∈ checks, ∃ key, (ask check.limiter key s).2 = t

namespace Asked

variable {ι σ τ : Type} {ask : ι → String → σ → Verdict × σ} {checks checks' : List (Check ι)} {s t u : σ}

theorem subset (h : Asked ask checks s t) (hs : checks ⊆ checks') : Asked ask checks' s t :=
  Relation.ReflTransGen.mono (fun _ _ ⟨check, hc, ha⟩ => ⟨check, hs hc, ha⟩) s t h

-- Whatever these limiters do not change stays as it is.
theorem view_eq {view : σ → τ} (h : Asked ask checks s t)
    (hv : ∀ check ∈ checks, ∀ key s, view (ask check.limiter key s).2 = view s) : view t = view s := by
  induction h
  case refl => rfl
  case tail ha hi =>
    obtain ⟨check, hc, key, rfl⟩ := ha
    rw [hv check hc, hi]

end Asked

theorem Screening.asked {ι σ : Type} {ask : ι → String → σ → Verdict × σ} {policy : FailPolicy} {call : Call}
    {checks : List (Check ι)} {s t : σ} {qs : List (Inquiry ι)} {result : Except Fault Unit}
    (h : Screening ask policy call checks s qs result t) : Asked ask checks s t := by
  induction h
  case done             => exact .refl
  case skip hi          => exact hi.subset (subset_cons_self ..)
  case refuse           => exact .single ⟨_, mem_cons_self, _, rfl⟩
  case proceed hi       => exact .head ⟨_, mem_cons_self, _, rfl⟩ (hi.subset (subset_cons_self ..))

theorem Chain.screen_asked {ι σ : Type} (c : Chain ι) (ask : ι → String → σ → Verdict × σ) (call : Call) (s : σ) :
    Asked ask c.checks s (c.screen ask call s).2 := by
  have ⟨_, _, _, h⟩ := Screening.construct ask c.onError call c.checks s
  rw [Chain.screen, h.screenChecks_eq]
  exact h.asked

end Sluice
