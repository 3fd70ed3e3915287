import Sluice.Proofs.Admission.Chargeable
import Sluice.Proofs.Admission.Screening

open List

namespace Sluice

-- The checks that apply to a call, in their order, each with the key that it charges the call to.
inductive Due {ι : Type} (call : Call) : List (Check ι) → List (Check ι × String) → Prop
  | nil : Due call [] []
  | skip (h : ∀ key, ¬check.scope.Charges call key) :
    Due call checks due →
    Due call (check :: checks) due
  | charge (h : check.scope.Charges call key) :
    Due call checks due →
    Due call (check :: checks) ((check, key) :: due)

variable {ι σ : Type} {policy : FailPolicy} {call : Call} {check : Check ι} {checks : List (Check ι)}
         {q : Inquiry ι} {due : List (Check ι × String)} {asked : List (Inquiry ι)}
         {result : Except Fault Unit} {e : Fault}

theorem Due.construct (call : Call) (checks : List (Check ι)) : ∃ due, Due call checks due := by
  induction checks
  case nil => exact ⟨[], .nil⟩
  case cons check checks hi =>
    have ⟨due, h⟩ := hi
    cases hk : check.scope.key? call
    case none     => exact ⟨due, .skip (Scope.not_charges_iff.mp hk) h⟩
    case some key => exact ⟨_, .charge (Scope.charges_iff.mp hk) h⟩

def Inquiry.charge (q : Inquiry ι) : Check ι × String :=
  (q.check, q.key)

-- The limiters that were asked about a call for the sake of the checks that apply to it, and what has been made of
-- their answers.
structure Screened (policy : FailPolicy) (due : List (Check ι × String)) (asked : List (Inquiry ι))
    (result : Except Fault Unit) : Prop where
  -- No check is left out before the last one that is made, and none is made twice.
  order     : asked.map Inquiry.charge <+: due
  -- It goes on as long as no answer refuses the call, and no longer.
  passed    : ∀ q ∈ asked.dropLast, q.fault? policy = none
  whole     : (∀ q ∈ asked, q.fault? policy = none) → asked.map Inquiry.charge = due
  ok_iff    : result = .ok () ↔ ∀ q ∈ asked, q.fault? policy = none
  error_iff : ∀ e, result = .error e ↔ ∃ q, asked.getLast? = some q ∧ q.fault? policy = some e

namespace Screened

theorem done : Screened policy ([] : List (Check ι × String)) [] (.ok ()) where
  order     := nil_prefix
  passed    := by simp
  whole     := by simp
  ok_iff    := by simp
  error_iff := by simp

theorem refuse (hf : q.fault? policy = some e) : Screened policy (q.charge :: due) [q] (.error e) where
  order     := ⟨due, rfl⟩
  passed    := by simp
  whole     := by simp [hf]
  ok_iff    := by simp [hf]
  error_iff := by simp [hf]

theorem proceed (hf : q.fault? policy = none) (h : Screened policy due asked result) :
    Screened policy (q.charge :: due) (q :: asked) result where
  order     := (prefix_cons_inj _).mpr h.order
  passed    := by
    cases asked
    case nil  => simp
    case cons => simpa [hf] using h.passed
  whole ha  := by
    rw [← h.whole fun r hr => ha r (mem_cons_of_mem q hr)]
    rfl
  ok_iff    := by simp [h.ok_iff, hf]
  error_iff e := by
    rw [h.error_iff e]
    cases asked
    case nil  => simp [hf]
    case cons => simp [getLast?_cons_cons]

end Screened

theorem Screening.screened {ask : ι → String → σ → Verdict × σ} {s t : σ}
    (h : Screening ask policy call checks s asked result t) :
    ∃ due, Due call checks due ∧ Screened policy due asked result := by
  induction h
  case done => exact ⟨[], .nil, .done⟩
  case skip hk _ hi =>
    have ⟨due, hd, hs⟩ := hi
    exact ⟨due, .skip (Scope.not_charges_iff.mp hk) hd, hs⟩
  case refuse checks hk hf =>
    have ⟨due, hd⟩ := Due.construct call checks
    exact ⟨_, .charge (Scope.charges_iff.mp hk) hd, .refuse hf⟩
  case proceed hk hf _ hi =>
    have ⟨due, hd, hs⟩ := hi
    exact ⟨_, .charge (Scope.charges_iff.mp hk) hd, hs.proceed hf⟩

namespace Chain

variable {α : Type}

-- Whatever limiters answer and wherever their states are kept, a chain asks those of the checks that apply to
-- the call, in order, up to the first that refuses it, and asks no other. Its result is that of this check, and
-- what comes after the chain is run once or not at all.
theorem screen_account (c : Chain ι) (ask : ι → String → σ → Verdict × σ) (call : Call)
    (next : σ → Except Fault α × σ) (s : σ) :
    ∃ due asked result t, Due call c.checks due ∧
      c.screen ask call s = (result, t) ∧
      c.screen (Inquiry.recorded ask) call ([], s) = (result, asked.map Inquiry.deed, t) ∧
      Screened c.onError due asked result ∧
      (result = .ok () ↔
        ∀ q ∈ asked, q.verdict ≠ .deny ∧ (c.onError = .failClosed → ∀ cause, q.verdict ≠ .fail cause)) ∧
      (∀ e, result = .error e ↔ ∃ q, asked.getLast? = some q ∧
        ((q.verdict = .deny ∧ e = .limited q.check.scope.tier) ∨
          (c.onError = .failClosed ∧
            ∃ cause, q.verdict = .fail cause ∧ e = .limiterUnavailable q.check.scope.tier cause))) ∧
      (∀ (τ : Type) (view : σ → τ) (limiter : ι), (∀ other ≠ limiter, ∀ key s, view (ask other key s).2 = view s) →
        limiter ∉ asked.map (·.check.limiter) → view t = view s) ∧
      c.intercept (Inquiry.recorded ask) call (Inquiry.recordedNext next) ([], s) =
        match result with
        | .ok ()   => ((next t).1, asked.map Inquiry.deed ++ [.pass], (next t).2)
        | .error e => (.error e, asked.map Inquiry.deed, t) := by
  have ⟨asked, result, t, h⟩ := Screening.construct ask c.onError call c.checks s
  have hr : c.screen (Inquiry.recorded ask) call ([], s) = (result, asked.map Inquiry.deed, t) :=
    (h.recorded []).screenChecks_eq
  have ⟨due, hd, hs⟩ := h.screened
  refine ⟨due, asked, result, t, hd, h.screenChecks_eq, hr, hs, ?_, ?_, fun _ _ _ => h.untouched, ?_⟩
  · simp only [hs.ok_iff, Inquiry.fault?_eq_none]
  · simp only [hs.error_iff, Inquiry.fault?_eq_some, implies_true]
  · rw [intercept, hr]
    cases result <;> rfl

-- Two checks share a limiter that has one slot left, and the second of them finds it taken. Before that a call is
-- charged to its user, but not to the name of one that it does not give.
def shared : Chain Nat where
  checks  := [⟨.everything "all", 0⟩, ⟨.businessKey "/UserService/GetById" "name", 1⟩,
    ⟨.businessKey "/UserService/GetById" "/user/id", 2⟩, ⟨.service "/UserService" "users", 0⟩,
    ⟨.service "/User" "user", 1⟩]
  onError := .failOpen

def sharedCall : Call where
  method   := "/UserService/GetById"
  payload  := .obj [("name", .null), ("user", .obj [("id", .int 7)])]
  metadata := []

-- Limiters that have so many slots left.
def slots (limiter : Nat) (_ : String) (s : Nat → Nat) : Verdict × (Nat → Nat) :=
  match s limiter with
  | 0     => (.deny, s)
  | n + 1 => (.allow, Function.update s limiter n)

theorem slots_other {limiter other : Nat} (h : other ≠ limiter) (key : String) (s : Nat → Nat) :
    (slots other key s).2 limiter = s limiter := by
  rw [slots]
  split
  case h_1 => rfl
  case h_2 => exact Function.update_of_ne h.symm _ _

theorem screen_account_shared :
    let after := shared.screen (Inquiry.recorded slots) sharedCall ([], fun _ => 1)
    after.1 = .error (.limited .service) ∧
    after.2.1 = [.ask 0 "all" .allow, .ask 2 "/UserService/GetById:7" .allow, .ask 0 "users" .deny] ∧
    after.2.2 1 = 1 := by
  have ⟨_, asked, result, t, _, _, hr, _, _, _, hu, _⟩ :=
    screen_account shared slots sharedCall (fun s => (.ok (), s)) fun _ => 1
  have hd : asked.map Inquiry.deed =
      [.ask 0 "all" .allow, .ask 2 "/UserService/GetById:7" .allow, .ask 0 "users" .deny] :=
    (congrArg (·.2.1) hr).symm
  have hl : 1 ∉ asked.map (·.check.limiter) := by
    intro hm
    obtain ⟨q, hq, h₁⟩ := mem_map.mp hm
    have := mem_map_of_mem (f := Inquiry.deed) hq
    rw [hd] at this
    simp [Inquiry.deed, h₁] at this
  refine ⟨rfl, ?_, ?_⟩
  · rw [hr, hd]
  · rw [hr]
    exact hu Nat (· 1) 1 (fun _ ho key s => slots_other ho key s) hl

end Chain

end Sluice
