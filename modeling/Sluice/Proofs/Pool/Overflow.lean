import Sluice.Proofs.Except
import Sluice.Proofs.Pool.Callers
import Sluice.Proofs.Pool.Drift
import Sluice.Text.Basic

open List

namespace Sluice

-- The whole number `x` in a 64-bit word with a sign, unless the word overflows.
def int64? (x : Int) : Option Int :=
  if fitsInt64 x then some x else none

theorem int64?_eq {x : Int} (h : |x| < 2 ^ 63) : int64? x = some x := by
  have ⟨hl, hr⟩ := abs_lt.mp h
  have hf : fitsInt64 x = true := by
    simp only [fitsInt64, Bool.and_eq_true, decide_eq_true_eq]
    omega
  rw [int64?, if_pos hf]

-- Where each step of a traversal gives a result, so does the whole.
theorem mapM_eq_map {α β : Type} {f : α → Option β} {g : α → β} {l : List α} (h : ∀ a ∈ l, f a = some (g a)) :
    l.mapM f = some (l.map g) := by
  rw [mapM_eq_some, forall₂_map_right_iff, forall₂_same]
  exact h

namespace Pool

-- One selection as it is made in 64-bit words: every addition and subtraction has a result only if it fits.
def totalInt64? (p : Pool) : Option Int :=
  p.nodes.foldlM (fun (total : Int) n => int64? (total + n.weight)) 0

def raiseInt64? (n : Node) : Option Node :=
  (int64? (n.current + n.weight)).map ({ n with current := · })

def payBackInt64? (address : String) (total : Int) (n : Node) : Option Node :=
  if n.address = address then (int64? (n.current - total)).map ({ n with current := · }) else some n

def advanceInt64? (p : Pool) : Option (Option Endpoint × Pool) := do
  let total ← p.totalInt64?
  let raised ← p.nodes.mapM raiseInt64?
  match Node.leader? raised with
  | none   => return (none, p)
  | some n => return (some n.endpoint, ⟨← raised.mapM (payBackInt64? n.address total)⟩)

variable {p : Pool} {ops : List Operation} {N W : Nat}

theorem foldlM_weights {ns : List Node} {total : Nat}
    (h : total + (ns.map Node.weight).sum < 2 ^ 63) :
    ns.foldlM (fun (total : Int) n => int64? (total + n.weight)) (total : Int) =
      some ((total + (ns.map Node.weight).sum : Nat) : Int) := by
  induction ns generalizing total
  case nil => rfl
  case cons n ns hi =>
    rw [map_cons, sum_cons] at h ⊢
    have hn : int64? ((total : Int) + n.weight) = some ((total + n.weight : Nat) : Int) := by
      rw [← Nat.cast_add]
      exact int64?_eq (by rw [Nat.abs_cast]; omega)
    rw [foldlM_cons, hn, ← Nat.add_assoc]
    exact hi (by omega)

theorem weight_le_totalWeight {n : Node} (h : n ∈ p.nodes) : n.weight ≤ p.totalWeight :=
  p.totalWeight_eq_sum ▸ le_sum_of_mem (mem_map_of_mem h)

-- Accumulators and weights that leave room in a word for every sum of one selection.
structure Roomy (p : Pool) : Prop where
  total   : p.totalWeight < 2 ^ 62
  current : ∀ n ∈ p.nodes, |n.current| < 2 ^ 62

namespace Roomy

theorem totalInt64?_eq (r : p.Roomy) : p.totalInt64? = some (p.totalWeight : Int) := by
  have := r.total
  have hs := @foldlM_weights p.nodes 0 (by rw [← totalWeight_eq_sum]; omega)
  rwa [zero_add, ← totalWeight_eq_sum] at hs

theorem raiseInt64?_eq (r : p.Roomy) {n : Node} (hn : n ∈ p.nodes) : raiseInt64? n = some n.raise := by
  have hc := abs_lt.mp (r.current n hn)
  have := r.total
  have := weight_le_totalWeight hn
  rw [raiseInt64?, int64?_eq (abs_lt.mpr ⟨by omega, by omega⟩)]
  rfl

theorem payBackInt64?_eq (r : p.Roomy) {n : Node} (hn : n ∈ p.nodes) (a : String) :
    payBackInt64? a p.totalWeight n.raise =
      some (if n.raise.address = a then { n.raise with current := n.raise.current - p.totalWeight } else n.raise) := by
  have hc := abs_lt.mp (r.current n hn)
  have := r.total
  have := weight_le_totalWeight hn
  rw [payBackInt64?, int64?_eq (by rw [Node.raise_current]; exact abs_lt.mpr ⟨by omega, by omega⟩)]
  split <;> rfl

theorem advanceInt64?_eq (r : p.Roomy) : p.advanceInt64? = some p.advance := by
  have hraise : p.nodes.mapM raiseInt64? = some (p.nodes.map Node.raise) :=
    mapM_eq_map fun _ hn => r.raiseInt64?_eq hn
  have hpay (a : String) : (p.nodes.map Node.raise).mapM (payBackInt64? a p.totalWeight) =
      some (payBack a p.totalWeight (p.nodes.map Node.raise)) := by
    refine mapM_eq_map fun m hm => ?_
    obtain ⟨n, hn, rfl⟩ := mem_map.mp hm
    exact r.payBackInt64?_eq hn a
  rw [advanceInt64?, r.totalInt64?_eq]
  simp only [hraise, Option.bind_eq_bind, Option.bind_some, advance]
  cases Node.leader? (p.nodes.map Node.raise)
  case none   => rfl
  case some n =>
    simp only [hpay, Option.bind_some]
    rfl

end Roomy

theorem totalWeight_le (h : p.Within N W) : p.totalWeight ≤ N * W := by
  have hs := sum_le_card_nsmul (p.nodes.map Node.weight) W (by simpa using h.weight)
  rw [length_map, smul_eq_mul, ← totalWeight_eq_sum] at hs
  exact hs.trans (Nat.mul_le_mul_right W h.size)

-- Forty thousand nodes of the largest weights there are.
theorem Steady.roomy (h : p.Steady N (UInt32.size - 1)) (hw : p.Within N (UInt32.size - 1)) (hN : N ≤ 40000) :
    p.Roomy where
  total       := (totalWeight_le hw).trans_lt <| (Nat.mul_le_mul_right _ hN).trans_lt (by decide)
  current n hn := by
    have hc := h.abs_current_le hn
    have hW : ((UInt32.size - 1 : Nat) : Int) = 4294967295 := by decide
    rw [hW] at hc
    omega

-- However long nodes come, go and are picked, every accumulator stays within bounds that only the number of
-- nodes and their weights set, and a selection in 64-bit words is the same as one in unbounded numbers.
theorem run_bounded (ops : List Operation) (N W : Nat) (h : ∀ before, before <+: ops → (run before).Within N W) :
    ∀ before, before <+: ops →
      (∀ n ∈ (run before).nodes, -(N * (N - 1) * W : Int) ≤ n.current ∧ n.current ≤ 2 * (N - 1) * W) ∧
      (N ≤ 40000 → (run before).advanceInt64? = some (run before).advance) := by
  intro before hb
  have hpre (first : List Operation) (hf : first <+: before) : (run first).Within N W := h first (hf.trans hb)
  refine ⟨fun n hn => (Steady.run hpre).current_mem_Icc (h before hb) hn, fun hN => ?_⟩
  -- No endpoint has a weight that does not fit into 32 bits, whatever `W` is.
  have hpre (first : List Operation) (hf : first <+: before) : (run first).Within N (UInt32.size - 1) :=
    ⟨(hpre first hf).size, fun n _ => Nat.le_sub_one_of_lt n.endpoint.weight_lt⟩
  exact ((Steady.run hpre).roomy (hpre before prefix_rfl) hN).advanceInt64?_eq

-- The node that leads is removed, and what it owed is never paid back: the accumulators no longer sum up to zero.
def churn : List Operation :=
  tenTwentyThirty.map .insert ++ [.select, .remove "http://c:1", .select]

theorem run_bounded_churn :
    (∀ before, before <+: churn → (run before).Within 3 30) ∧
    (run churn).nodes.map Node.current = [20, 10] ∧
    (∀ n ∈ (run churn).nodes, -180 ≤ n.current ∧ n.current ≤ 120) ∧
    (run churn).advanceInt64? = some (run churn).advance := by
  have hw (before : List Operation) (hb : before <+: churn) : (run before).Within 3 30 := by
    have hall : ∀ ops ∈ churn.inits, (run ops).size ≤ 3 ∧ ∀ n ∈ (run ops).nodes, n.weight ≤ 30 := by decide
    have ⟨hs, hn⟩ := hall before ((mem_inits _ _).mpr hb)
    exact ⟨hs, hn⟩
  have ⟨hc, ha⟩ := run_bounded churn 3 30 hw churn prefix_rfl
  exact ⟨hw, by decide, by simpa using hc, ha (by decide)⟩

end Pool

end Sluice
