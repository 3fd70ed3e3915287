import Sluice.Proofs.Pool.Selection

open List

namespace Sluice.Pool

variable {p q : Pool} {e : Endpoint} {es : List Endpoint}

theorem eq_of_address_eq (h : p.addresses.Nodup) {n m : Node} (hn : n ∈ p.nodes) (hm : m ∈ p.nodes)
    (ha : n.address = m.address) : n = m :=
  inj_on_of_nodup_map h hn hm ha

def fresh (es : List Endpoint) : Pool := ⟨es.map Node.fresh⟩

@[simp] theorem fresh_addresses : (fresh es).addresses = es.map Endpoint.address := by
  simp [fresh, addresses, Function.comp_def, Node.address, Node.fresh]

@[simp] theorem fresh_endpoints : (fresh es).nodes.map Node.endpoint = es := by
  simp [fresh, Function.comp_def, Node.fresh]

theorem fresh_current (h : n ∈ (fresh es).nodes) : n.current = 0 := by
  simp only [fresh, mem_map] at h
  have ⟨_, _, h⟩ := h
  rw [← h, Node.fresh]

theorem contains_iff (p : Pool) (a : String) : p.contains a ↔ a ∈ p.addresses := by
  simp [contains, addresses]

-- A pool can be made of endpoints exactly when no two of them have the same address.
theorem foldlM_insert_eq_ok : es.foldlM insert p = .ok q ↔
    (es.map Endpoint.address).Nodup ∧ (∀ e ∈ es, e.address ∉ p.addresses) ∧ q = ⟨p.nodes ++ es.map Node.fresh⟩ := by
  induction es generalizing p
  case nil => simp [pure, Except.pure, eq_comm]
  case cons hd tl hi =>
    by_cases hc : hd.address ∈ p.addresses
    case pos =>
      simp [insert, contains_iff, hc, bind, Except.bind]
    case neg =>
      have ha : addresses ⟨p.nodes ++ [Node.fresh hd]⟩ = p.addresses ++ [hd.address] := by
        simp [addresses, Node.address, Node.fresh]
      simp only [foldlM_cons, insert, contains_iff, hc, if_false, bind, Except.bind, hi, ha, map_cons, nodup_cons,
        mem_append, mem_singleton, forall_mem_cons, append_assoc, singleton_append, not_false_eq_true, true_and,
        mem_map, not_exists, not_and, not_or, forall_and]
      constructor
      case mp  => rintro ⟨hd, ⟨hp, hn⟩, rfl⟩; exact ⟨⟨hn, hd⟩, hp, rfl⟩
      case mpr => rintro ⟨⟨hn, hd⟩, hp, rfl⟩; exact ⟨hd, ⟨hp, hn⟩, rfl⟩

theorem ofEndpoints_eq_ok :
    ofEndpoints es = .ok p ↔ (es.map Endpoint.address).Nodup ∧ p = fresh es := by
  simp [ofEndpoints, foldlM_insert_eq_ok, empty, addresses, fresh]

-- What selections keep true of a pool that started out fresh. The bound on how far an accumulator can
-- fall behind comes from the winner: accumulators that sum up to zero sum up to the total weight once
-- raised, so the largest of them is positive before the total weight is taken off it.
structure Balanced (p : Pool) : Prop where
  nodup    : p.addresses.Nodup
  sum_zero : (p.nodes.map Node.current).sum = 0
  lower    : ∀ n ∈ p.nodes, -(p.totalWeight : Int) < n.current

theorem Balanced.fresh (h : (es.map Endpoint.address).Nodup) : (fresh es).Balanced where
  nodup    := by simpa using h
  sum_zero := sum_eq_zero fun x hx => by
    have ⟨n, hn, he⟩ := mem_map.mp hx
    exact he ▸ fresh_current hn
  lower n hn := by
    have := totalWeight_pos hn
    rw [fresh_current hn]
    omega

theorem sum_raise (p : Pool) :
    (p.nodes.map fun n => n.raise.current).sum = (p.nodes.map Node.current).sum + p.totalWeight := by
  simp [Node.raise_current, sum_map_add, totalWeight_eq_sum, Function.comp_def]

theorem sum_charge (h : p.addresses.Nodup) {a : String} (ha : a ∈ p.addresses) (t : Int) :
    (p.nodes.map fun n => if n.address = a then t else 0).sum = t := by
  have hm : (p.nodes.map fun n => if n.address = a then t else 0) =
      p.addresses.map fun b => if b = a then t else 0 := by
    simp [addresses, Function.comp_def]
  rw [hm, sum_map_ite_eq]
  simp [count_eq_one_of_mem h ha]

namespace Balanced

theorem winner_pos (b : p.Balanced) (hn : n ∈ p.nodes)
    (hmax : ∀ m ∈ p.nodes, m.raise.current ≤ n.raise.current) : 0 < n.raise.current := by
  have hlt : (p.nodes.map fun _ => (0 : Int)).sum < (p.nodes.map fun n => n.raise.current).sum := by
    have := totalWeight_pos hn
    rw [sum_raise, b.sum_zero]
    simp
    omega
  have ⟨m, hm, hpos⟩ := exists_lt_of_sum_lt _ _ hlt
  exact lt_of_lt_of_le hpos (hmax m hm)

theorem selects (b : p.Balanced) (s : p.Selects e q) : q.Balanced where
  nodup    := s.addresses_eq ▸ b.nodup
  sum_zero := by
    have ⟨n, hn, he, _⟩ := s.winner
    have hc := sum_charge b.nodup (he ▸ mem_map_of_mem hn : e.address ∈ p.addresses) p.totalWeight
    have hr := sum_raise p
    have hm : (q.nodes.map Node.current).sum +
        (p.nodes.map fun n => if n.address = e.address then (p.totalWeight : Int) else 0).sum =
        (p.nodes.map fun n => n.raise.current).sum := by
      rw [s.nodes_eq, map_map, ← sum_map_add]
      simp [Node.turn_current, Node.raise_current]
    rw [hc, hr, b.sum_zero] at hm
    omega
  lower m hm := by
    rw [s.nodes_eq] at hm
    obtain ⟨k, hk, rfl⟩ := mem_map.mp hm
    have ⟨n, hn, he, hmax⟩ := s.winner
    rw [s.totalWeight_eq, Node.turn_current]
    split
    case isTrue ha =>
      have hw := b.winner_pos hn hmax
      cases eq_of_address_eq b.nodup hk hn (ha.trans (he ▸ rfl))
      rw [Node.raise_current] at hw
      omega
    case isFalse =>
      have := b.lower k hk
      omega

-- Where every accumulator is a multiple of the total weight, none can be negative and so all are zero.
theorem current_eq_zero (b : p.Balanced) (h : ∀ n ∈ p.nodes, (p.totalWeight : Int) ∣ n.current)
    (hn : n ∈ p.nodes) : n.current = 0 := by
  have hpos (m : Node) (hm : m ∈ p.nodes) : 0 ≤ m.current := by
    have ⟨z, hz⟩ := h m hm
    have hl := b.lower m hm
    have ht : (0 : Int) < p.totalWeight := by exact_mod_cast totalWeight_pos hm
    rw [hz] at hl ⊢
    have : -1 < z := by nlinarith
    exact mul_nonneg ht.le (by omega)
  have hsum : n.current ≤ (p.nodes.map Node.current).sum := by
    apply single_le_sum _ _ (mem_map_of_mem hn)
    simpa using hpos
  have := b.sum_zero
  have := hpos n hn
  omega

end Balanced

end Sluice.Pool
