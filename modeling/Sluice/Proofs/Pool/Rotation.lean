import Sluice.Proofs.Pool.Balance

open List

namespace Sluice

namespace Node

-- How often the node is among the endpoints that were picked.
def wins (picks : List Endpoint) (n : Node) : Nat :=
  picks.countP (n.address = ·.address)

theorem wins_cons (e : Endpoint) (picks : List Endpoint) (n : Node) :
    n.wins (e :: picks) = n.wins picks + if n.address = e.address then 1 else 0 := by
  simp [wins, countP_cons]

-- The node after these picks from a pool of that total weight.
def after (picks : List Endpoint) (total : Nat) (n : Node) : Node :=
  { n with current := n.current + picks.length * n.weight - total * n.wins picks }

theorem after_cons (e : Endpoint) (picks : List Endpoint) (total : Nat) (n : Node) :
    n.after (e :: picks) total = (n.turn e.address total).after picks total := by
  have hw : (n.turn e.address total).wins picks = n.wins picks := rfl
  simp only [after, hw, wins_cons, turn_current, turn_weight, turn_endpoint, length_cons]
  split <;> push_cast <;> ring_nf

end Node

namespace Pool

-- Selections one after another, with the endpoints that they pick.
inductive Turns : Pool → List Endpoint → Pool → Prop
  | nil  : Turns p [] p
  | cons : p.advance = (some e, q) → Turns q es r → Turns p (e :: es) r

variable {p q r : Pool} {e : Endpoint} {es picks : List Endpoint}

-- The greatest common divisor of the weights.
def grain (p : Pool) : Nat := (p.nodes.map Node.weight).foldr Nat.gcd 0

-- The number of selections after which a pool is back where it was.
def period (p : Pool) : Nat := p.totalWeight / p.grain

theorem dvd_grain_iff {d : Nat} : d ∣ p.grain ↔ ∀ n ∈ p.nodes, d ∣ n.weight := by
  simp only [grain]
  induction p.nodes <;> simp_all [Nat.dvd_gcd_iff]

theorem grain_dvd (h : n ∈ p.nodes) : p.grain ∣ n.weight :=
  dvd_grain_iff.mp dvd_rfl n h

theorem grain_dvd_totalWeight (p : Pool) : p.grain ∣ p.totalWeight := by
  rw [totalWeight_eq_sum]
  refine dvd_sum fun w hw => ?_
  have ⟨n, hn, he⟩ := mem_map.mp hw
  exact he ▸ grain_dvd hn

theorem period_mul_weight (h : n ∈ p.nodes) : p.period * n.weight = p.totalWeight * (n.weight / p.grain) := by
  rw [period, Nat.div_mul_right_comm p.grain_dvd_totalWeight, Nat.mul_div_assoc _ (grain_dvd h)]

namespace Turns

-- What one selection preserves, any number of selections preserves.
theorem preserves {P : Pool → Prop} (hP : ∀ {p e q}, p.Selects e q → P p → P q) (t : Turns p picks q) (h : P p) :
    P q := by
  induction t
  case nil         => exact h
  case cons s _ hi => exact hi (hP (advance_selects s) h)

theorem keeps {α : Type} {f : Pool → α} (hf : ∀ {p e q}, p.Selects e q → f q = f p) (t : Turns p picks q) :
    f q = f p :=
  t.preserves (P := (f · = f p)) (fun s h => (hf s).trans h) rfl

theorem addresses_eq (t : Turns p picks q) : q.addresses = p.addresses :=
  t.keeps Selects.addresses_eq

theorem totalWeight_eq (t : Turns p picks q) : q.totalWeight = p.totalWeight :=
  t.keeps Selects.totalWeight_eq

theorem endpoints_eq (t : Turns p picks q) : q.nodes.map Node.endpoint = p.nodes.map Node.endpoint :=
  t.keeps Selects.endpoints_eq

theorem mem_endpoints (t : Turns p picks q) (h : e ∈ picks) : e ∈ p.nodes.map Node.endpoint := by
  induction t
  case nil => simp at h
  case cons s _ hi =>
    have s := advance_selects s
    cases mem_cons.mp h
    case inl h => exact h ▸ s.mem_endpoints
    case inr h => exact s.endpoints_eq ▸ hi h

theorem balanced (t : Turns p picks q) (b : p.Balanced) : q.Balanced :=
  t.preserves (fun s b => b.selects s) b

-- The books are kept: a node has been credited with its weight at every selection and charged the
-- total weight for every selection that it won.
theorem nodes_eq (t : Turns p picks q) : q.nodes = p.nodes.map (Node.after picks p.totalWeight) := by
  induction t
  case nil => exact (map_id'' (fun n => by simp [Node.after, Node.wins]) _).symm
  case cons e q es r p h _ hi =>
    have s := advance_selects h
    rw [hi, s.totalWeight_eq, s.nodes_eq, map_map, map_inj_left]
    exact fun n _ => (Node.after_cons e es p.totalWeight n).symm

theorem unique (t₁ : Turns p es q) (t₂ : Turns p picks r) (h : es.length = picks.length) :
    es = picks ∧ q = r := by
  induction t₁ generalizing picks <;> cases t₂ <;> simp at h
  case nil.nil => simp
  case cons.cons h₁ _ hi _ _ _ h₂ t₂ =>
    cases h₁ ▸ h₂
    simp [hi t₂ h]

theorem append (t₁ : Turns p es q) (t₂ : Turns q picks r) : Turns p (es ++ picks) r := by
  induction t₁
  case nil         => exact t₂
  case cons h _ hi => exact .cons h (hi t₂)

theorem of_append (t : Turns p (es ++ picks) r) : ∃ q, Turns p es q ∧ Turns q picks r := by
  induction es generalizing p
  case nil => exact ⟨p, .nil, t⟩
  case cons hi =>
    cases t
    case cons h t =>
      have ⟨q, t₁, t₂⟩ := hi t
      exact ⟨q, .cons h t₁, t₂⟩

-- After whole periods, every accumulator is a multiple of the total weight.
theorem fresh_of_period_dvd (t : Turns (fresh es) picks q) (hn : (es.map Endpoint.address).Nodup)
    (hd : (fresh es).period ∣ picks.length) : q = fresh es := by
  have hq : ∀ m ∈ q.nodes, m.current = 0 := by
    refine fun m hm => (t.balanced (.fresh hn)).current_eq_zero (fun m hm => ?_) hm
    rw [t.nodes_eq] at hm
    obtain ⟨n, hn, rfl⟩ := mem_map.mp hm
    have ⟨k, hk⟩ := hd
    have hw : picks.length * n.weight = (fresh es).totalWeight * (n.weight / (fresh es).grain * k) := by
      rw [hk, mul_right_comm, period_mul_weight hn, mul_assoc]
    rw [t.totalWeight_eq]
    simp only [Node.after, fresh_current hn, ← Nat.cast_mul, hw]
    exact ⟨(n.weight / (fresh es).grain * k : Nat) - n.wins picks, by push_cast; ring⟩
  have he : q.nodes = (q.nodes.map Node.endpoint).map Node.fresh := by
    rw [map_map]
    refine (map_id _).symm.trans (map_inj_left.mpr fun n hn => ?_)
    simp [Node.fresh, ← hq n hn]
  rw [t.endpoints_eq, fresh_endpoints] at he
  exact congrArg Pool.mk he

theorem weights_eq (t : Turns p picks q) : q.nodes.map Node.weight = p.nodes.map Node.weight := by
  have hw (p : Pool) : p.nodes.map Node.weight = (p.nodes.map Node.endpoint).map Endpoint.weight := by
    simp [Function.comp_def, Node.weight]
  rw [hw q, hw p, t.endpoints_eq]

theorem grain_eq (t : Turns p picks q) : q.grain = p.grain := by
  simp [grain, t.weights_eq]

theorem period_eq (t : Turns p picks q) : q.period = p.period := by
  simp [period, t.totalWeight_eq, t.grain_eq]

-- The state after any number of selections is the one after the rest of that number modulo the period,
-- so it comes back after one period more.
theorem fresh_periodic (t₁ : Turns (fresh es) picks q) (t₂ : Turns q window r)
    (hn : (es.map Endpoint.address).Nodup) (hl : window.length = (fresh es).period) : r = q := by
  have hback {xs s} (t : Turns (fresh es) xs s) :
      ∃ ys, ys.length = xs.length % (fresh es).period ∧ Turns (fresh es) ys s := by
    rw [← take_append_drop ((fresh es).period * (xs.length / (fresh es).period)) xs] at t
    have ⟨m, ht, hd⟩ := t.of_append
    have hle := Nat.mul_div_le xs.length (fresh es).period
    have := ht.fresh_of_period_dvd hn (by simp [min_eq_left hle])
    have hmod := Nat.mod_add_div xs.length (fresh es).period
    exact ⟨_, by simp; omega, this ▸ hd⟩
  have ⟨xs, hx, tx⟩ := hback t₁
  have ⟨ys, hy, ty⟩ := hback (t₁.append t₂)
  refine (ty.unique tx ?_).right
  rw [hx, hy, length_append, hl, Nat.add_mod_right]

-- A node whose accumulator is the same in the end has won what its weight is worth.
theorem wins_eq (t : Turns p picks p) (hn : n ∈ p.nodes) :
    p.totalWeight * n.wins picks = picks.length * n.weight := by
  have he := t.nodes_eq
  conv_lhs at he => rw [← map_id p.nodes]
  have := congrArg Node.current (map_inj_left.mp he n hn)
  simp only [id, Node.after] at this
  zify
  omega

theorem wins_period (t : Turns p picks p) (hn : n ∈ p.nodes) (hl : picks.length = p.period) :
    n.wins picks = n.weight / p.grain := by
  have hw := t.wins_eq hn
  rw [hl, period_mul_weight hn] at hw
  exact Nat.eq_of_mul_eq_mul_left (totalWeight_pos hn) hw

end Turns

theorem exists_turns (h : p.nodes ≠ []) (k : Nat) : ∃ picks q, picks.length = k ∧ Turns p picks q := by
  induction k generalizing p
  case zero => exact ⟨[], p, rfl, .nil⟩
  case succ k hi =>
    match ha : p.advance with
    | (none, _)   => exact absurd (advance_eq_none.mp (ha ▸ rfl)) h
    | (some e, q) =>
      have hq : q.nodes ≠ [] := by
        simp [(advance_selects ha).nodes_eq, h]
      have ⟨picks, r, hl, t⟩ := hi hq
      exact ⟨e :: picks, r, by simp [hl], .cons ha t⟩

end Pool
end Sluice
