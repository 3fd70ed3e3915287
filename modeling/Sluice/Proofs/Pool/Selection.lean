import Mathlib
import Sluice.Pool

open List

namespace Sluice

namespace Node

variable {n : Node} {ns : List Node}

theorem leader?_eq_none : leader? ns = none ↔ ns = [] := by
  cases ns <;> simp [leader?]
  case cons n ns => split <;> (try split) <;> simp

-- The leader is ahead of the nodes before it and not behind the nodes after it, which makes it the
-- first of those with the largest accumulator.
theorem leader?_split (h : leader? ns = some n) :
    ∃ l r, (ns = l ++ n :: r) ∧ (∀ m ∈ l, m.current < n.current) ∧ (∀ m ∈ r, m.current ≤ n.current) := by
  induction ns generalizing n <;> simp only [leader?, reduceCtorEq] at h
  case cons hd tl hi =>
    split at h
    case h_1 hn =>
      cases h
      exact ⟨[], tl, rfl, by simp, by simp [leader?_eq_none.mp hn]⟩
    case h_2 m hm =>
      have ⟨l, r, he, hl, hr⟩ := hi hm
      split at h <;> cases h
      case isTrue hlt  => exact ⟨hd :: l, r, by simp [he], by simpa using ⟨hlt, hl⟩, hr⟩
      case isFalse hle =>
        refine ⟨[], tl, rfl, by simp, fun x hx => ?_⟩
        rw [he, mem_append, mem_cons] at hx
        obtain hx | rfl | hx := hx
        · have := hl x hx; omega
        · omega
        · have := hr x hx; omega

theorem leader?_of_split {l r : List Node} (hl : ∀ m ∈ l, m.current < n.current)
    (hr : ∀ m ∈ r, m.current ≤ n.current) : leader? (l ++ n :: r) = some n := by
  induction l
  case nil =>
    simp only [nil_append, leader?]
    split
    case h_1 => rfl
    case h_2 m hm =>
      have ⟨l, r', he, _⟩ := leader?_split hm
      exact if_neg (not_lt.mpr (hr m (by simp [he])))
  case cons hd tl hi =>
    have ⟨hhd, htl⟩ := forall_mem_cons.mp hl
    simp [leader?, hi htl, hhd]

theorem raise_current (n : Node) : n.raise.current = n.current + n.weight := rfl

-- The node after a selection that the node with address `winner` has won.
def turn (winner : String) (total : Int) (n : Node) : Node :=
  { n with current := n.current + n.weight - if n.address = winner then total else 0 }

@[simp] theorem turn_endpoint (a : String) (t : Int) (n : Node) : (n.turn a t).endpoint = n.endpoint := rfl

@[simp] theorem turn_address (a : String) (t : Int) (n : Node) : (n.turn a t).address = n.address := rfl

@[simp] theorem turn_weight (a : String) (t : Int) (n : Node) : (n.turn a t).weight = n.weight := rfl

theorem turn_current (a : String) (t : Int) (n : Node) :
    (n.turn a t).current = n.current + n.weight - if n.address = a then t else 0 := rfl

end Node

namespace Pool

variable {p q : Pool} {e : Endpoint}

theorem totalWeight_eq_sum (p : Pool) : p.totalWeight = (p.nodes.map Node.weight).sum := by
  simp [totalWeight, List.sum, foldr_map]

theorem totalWeight_pos (h : n ∈ p.nodes) : 0 < p.totalWeight := by
  have hw : n.weight ≤ (p.nodes.map Node.weight).sum := le_sum_of_mem (mem_map_of_mem h)
  have := n.endpoint.weight_pos
  rw [totalWeight_eq_sum]
  exact lt_of_lt_of_le this hw

-- One selection: `e` is the endpoint of the first node that leads once all accumulators are raised,
-- and only the accumulators change.
structure Selects (p : Pool) (e : Endpoint) (q : Pool) : Prop where
  leads    : ∃ l n r, p.nodes = l ++ n :: r ∧ n.endpoint = e ∧
    (∀ m ∈ l, m.raise.current < n.raise.current) ∧ (∀ m ∈ r, m.raise.current ≤ n.raise.current)
  nodes_eq : q.nodes = p.nodes.map (Node.turn e.address p.totalWeight)

theorem payBack_raise (a : String) (t : Int) (ns : List Node) :
    payBack a t (ns.map Node.raise) = ns.map (Node.turn a t) := by
  simp only [payBack, map_map, map_inj_left, Function.comp_apply]
  intro n _
  by_cases h : n.endpoint.address = a <;> simp [Node.turn, Node.raise, Node.address, Node.weight, h]

theorem advance_eq_none : p.advance.1 = none ↔ p.nodes = [] := by
  simp only [advance]
  split
  case h_1 h => simpa using Node.leader?_eq_none.mp h
  case h_2 h =>
    have : p.nodes ≠ [] := fun hn => by simp [hn, Node.leader?] at h
    simp [this]

theorem advance_selects (h : p.advance = (some e, q)) : p.Selects e q := by
  simp only [advance] at h
  split at h
  case h_1 => simp at h
  case h_2 w hw =>
    simp only [Prod.mk.injEq, Option.some.injEq] at h
    have ⟨rfl, rfl⟩ := h
    refine { leads := ?_, nodes_eq := payBack_raise .. }
    have ⟨l, r, he, hl, hr⟩ := Node.leader?_split hw
    obtain ⟨l, t, hs, rfl, ht⟩ := map_eq_append_iff.mp he
    obtain ⟨n, r, rfl, rfl, rfl⟩ := map_eq_cons_iff.mp ht
    refine ⟨l, n, r, hs, rfl, fun m hm => ?_, fun m hm => ?_⟩
    · exact hl _ (mem_map_of_mem hm)
    · exact hr _ (mem_map_of_mem hm)

theorem Selects.advance_eq (s : p.Selects e q) : p.advance = (some e, q) := by
  have ⟨l, n, r, hs, he, hl, hr⟩ := s.leads
  have hlead : Node.leader? (p.nodes.map Node.raise) = some n.raise := by
    rw [hs, map_append, map_cons]
    exact Node.leader?_of_split (by simpa using hl) (by simpa using hr)
  have hq : q = ⟨p.nodes.map (Node.turn e.address p.totalWeight)⟩ := congrArg Pool.mk s.nodes_eq
  simp only [advance, hlead, payBack_raise, hq, ← he]
  rfl

namespace Selects

theorem winner (s : p.Selects e q) :
    ∃ n ∈ p.nodes, n.endpoint = e ∧ ∀ m ∈ p.nodes, m.raise.current ≤ n.raise.current := by
  have ⟨l, n, r, hs, he, hl, hr⟩ := s.leads
  refine ⟨n, by simp [hs], he, fun m hm => ?_⟩
  rw [hs, mem_append, mem_cons] at hm
  obtain hm | rfl | hm := hm
  · exact le_of_lt (hl m hm)
  · exact le_rfl
  · exact hr m hm

theorem endpoints_eq (s : p.Selects e q) : q.nodes.map Node.endpoint = p.nodes.map Node.endpoint := by
  simp [s.nodes_eq, Function.comp_def]

theorem addresses_eq (s : p.Selects e q) : q.addresses = p.addresses := by
  simp [addresses, s.nodes_eq, Function.comp_def]

theorem totalWeight_eq (s : p.Selects e q) : q.totalWeight = p.totalWeight := by
  simp [totalWeight_eq_sum, s.nodes_eq, Function.comp_def]

theorem mem_endpoints (s : p.Selects e q) : e ∈ p.nodes.map Node.endpoint := by
  have ⟨n, hn, he, _⟩ := s.winner
  exact he ▸ mem_map_of_mem hn

end Selects

end Pool

end Sluice
