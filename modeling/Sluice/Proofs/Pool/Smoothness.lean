import Sluice.Proofs.Pool.Callers
import Sluice.Proofs.Pool.Drift

open Finset

namespace Sluice.Pool

-- What selections keep true of how far nodes are behind their shares. Nothing is owed to all of them together, since
-- what is given to one is taken from another, and it is this that bounds what is owed to some of them, and so to one.
structure Level (W : Nat) (p : Pool) : Prop where
  nodup  : p.addresses.Nodup
  weight : ∀ n ∈ p.nodes, n.weight ≤ W
  owed   : ∀ A ⊆ p.members, ∑ n ∈ A, n.current ≤ #A * (p.size - #A) * W

variable {p q : Pool} {e : Endpoint} {es picks : List Endpoint} {W : Nat}

namespace Level

theorem fresh (hd : (es.map Endpoint.address).Nodup) (hw : ∀ e ∈ es, e.weight ≤ W) : (fresh es).Level W where
  nodup  := by simpa using hd
  weight := by simpa [Pool.fresh, Node.weight, Node.fresh] using hw
  owed   := by
    intro A hA
    have hz : ∑ n ∈ A, n.current = 0 := sum_eq_zero fun n hn => fresh_current (mem_members.mp (hA hn))
    have hc : #A ≤ (Pool.fresh es).size := (card_le_card hA).trans (card_members_le _)
    have hs : (0 : Int) ≤ (Pool.fresh es).size - #A := by omega
    rw [hz]
    positivity

theorem selects (l : p.Level W) (s : p.Selects e q) : q.Level W where
  nodup  := s.addresses_eq ▸ l.nodup
  weight := by
    intro n hn
    rw [s.nodes_eq] at hn
    obtain ⟨m, hm, rfl⟩ := List.mem_map.mp hn
    exact l.weight m hm
  owed   := by
    intro B hB
    obtain ⟨b, hb, hmax, hs⟩ := s.exists_turn l.nodup
    obtain ⟨A, hA, hc, hsum⟩ := hs B hB
    have hsize : q.size = p.size := by simp [size, s.nodes_eq]
    rw [hc, hsum, hsize]
    refine Turn.sum_le hA hb hmax (fun n hn => ?_) l.owed
    exact ⟨by positivity, by exact_mod_cast l.weight n (mem_members.mp hn)⟩

theorem current_le (l : p.Level W) {n : Node} (hn : n ∈ p.nodes) : n.current ≤ (p.size - 1) * W := by
  simpa using l.owed {n} (singleton_subset_iff.mpr (mem_members.mpr hn))

end Level

namespace Turns

theorem level (t : Turns p picks q) (l : p.Level W) : q.Level W :=
  t.preserves (fun s l => l.selects s) l

-- After any number of selections, a node has been picked less than once more than its share of them, and is behind it
-- by no more than what it can be owed.
theorem near_share (t : Turns (fresh es) picks q) (hd : (es.map Endpoint.address).Nodup)
    (hw : ∀ e ∈ es, e.weight ≤ W) {n : Node} (hn : n ∈ (fresh es).nodes) :
    (picks.length * n.weight - (es.length - 1) * W : Int) ≤ (fresh es).totalWeight * n.wins picks ∧
    ((fresh es).totalWeight * n.wins picks : Int) < picks.length * n.weight + (fresh es).totalWeight := by
  have hm : n.after picks (fresh es).totalWeight ∈ q.nodes := t.nodes_eq ▸ List.mem_map_of_mem hn
  have hc : (n.after picks (fresh es).totalWeight).current =
      picks.length * n.weight - (fresh es).totalWeight * n.wins picks := by
    simp [Node.after, fresh_current hn]
  constructor
  case left =>
    have hl := (t.level (.fresh hd hw)).current_le hm
    have hs : q.size = es.length := by simp [size, t.nodes_eq, fresh]
    rw [hc, hs] at hl
    linarith
  case right =>
    have hl := (t.balanced (.fresh hd)).lower _ hm
    rw [hc, t.totalWeight_eq] at hl
    linarith

end Turns

-- However many selections have been made of a fresh pool, and by whom, an endpoint is never a full pick ahead of its
-- share of them, and is behind it by no more than the heaviest weight for each of the other endpoints.
theorem serve_near_share (es : List Endpoint) (h : (es.map Endpoint.address).Nodup) :
    ∃ p, ofEndpoints es = .ok p ∧ p.nodes = es.map Node.fresh ∧
      ∀ {κ : Type} (callers : List κ), ∀ e ∈ es,
        let total := (es.map Endpoint.weight).sum
        let heaviest := (es.map Endpoint.weight).foldr max 0
        let picked := ((serve callers p).1.map Prod.snd).count (.ok e)
        (callers.length * e.weight - (es.length - 1) * heaviest : Int) ≤ total * picked ∧
        (total * picked : Int) ≤ callers.length * e.weight + total - 1 := by
  refine ⟨fresh es, ofEndpoints_eq_ok.mpr ⟨h, rfl⟩, rfl, fun callers e he => ?_⟩
  have hn : Node.fresh e ∈ (fresh es).nodes := List.mem_map_of_mem he
  obtain ⟨picks, q, hl, t⟩ := exists_turns (List.ne_nil_of_mem hn) callers.length
  have hw : ∀ e ∈ es, e.weight ≤ (es.map Endpoint.weight).foldr max 0 :=
    fun e he => List.le_max_of_le (List.mem_map_of_mem he) le_rfl
  have ⟨hlo, hhi⟩ := t.near_share h hw hn
  have hc : ((serve callers (fresh es)).1.map Prod.snd).count (.ok e) = (Node.fresh e).wins picks :=
    t.count_answers hl.symm (by simpa using h) hn
  rw [fresh_totalWeight, hl] at hlo hhi
  simp only [hc]
  exact ⟨hlo, Int.le_sub_one_of_lt hhi⟩

-- A thousand selections are not a whole number of periods, and yet one half of the weight gets half of them.
theorem serve_near_share_tenTwentyThirty :
    (tenTwentyThirty.map Endpoint.address).Nodup ∧ tenTwentyThirty[2] ∈ tenTwentyThirty ∧
      ∃ p, ofEndpoints tenTwentyThirty = .ok p ∧ ∀ callers : List Nat, callers.length = 1000 →
        ((serve callers p).1.map Prod.snd).count (.ok tenTwentyThirty[2]) ∈ Set.Icc 499 500 := by
  have hd : (tenTwentyThirty.map Endpoint.address).Nodup := by decide
  have hm : tenTwentyThirty[2] ∈ tenTwentyThirty := List.getElem_mem _
  have ⟨p, hp, _, hs⟩ := serve_near_share tenTwentyThirty hd
  refine ⟨hd, hm, p, hp, fun callers hc => ?_⟩
  have ⟨hlo, hhi⟩ := hs callers _ hm
  have ht : (tenTwentyThirty.map Endpoint.weight).sum = 60 := rfl
  have hx : (tenTwentyThirty.map Endpoint.weight).foldr max 0 = 30 := rfl
  have hw : tenTwentyThirty[2].weight = 30 := rfl
  have hl : tenTwentyThirty.length = 3 := rfl
  simp only [hc, ht, hx, hw, hl] at hlo hhi
  constructor <;> omega

end Sluice.Pool
