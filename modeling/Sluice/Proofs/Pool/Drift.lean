import Sluice.Proofs.Pool.Operations

open Finset

namespace Sluice

-- How far from zero the accumulators of `j` nodes together may be, if there are never more than `N` nodes
-- and their weights never exceed `W`.
def allowance (N W j : Int) : Int :=
  j * (2 * N - 1 - j) * W

namespace allowance

theorem le_succ {N W j : Int} (hj : j + 1 ≤ N) (hw : 0 ≤ W) : allowance N W j ≤ allowance N W (j + 1) := by
  have hd : allowance N W (j + 1) = allowance N W j + 2 * (N - (j + 1)) * W := by
    simp only [allowance]
    ring
  have : 0 ≤ N - (j + 1) := by omega
  rw [hd]
  exact le_add_of_nonneg_right (by positivity)

-- The allowance of some nodes from that of one node less and that of all nodes, of which there are `r` more.
theorem of_pred (N W j r : Int) :
    (r + 1) * allowance N W j = allowance N W (r + j) + r * (allowance N W (j - 1) + (r + 1) * W) := by
  simp only [allowance]
  ring

end allowance

namespace Turn

-- One selection among `s`, of which `b` leads once every accumulator `c` is raised by the weight `w`.
variable {ι : Type} [DecidableEq ι] {s A : Finset ι} {c w : ι → Int} {b : ι} {N W : Int} (hA : A ⊆ s) (hb : b ∈ s)
         (hmax : ∀ i ∈ s, c i + w i ≤ c b + w b) (hw : ∀ i ∈ s, 0 ≤ w i ∧ w i ≤ W)

theorem sum_eq (A : Finset ι) (c w : ι → Int) (b : ι) (total : Int) :
    ∑ i ∈ A, (c i + w i - if i = b then total else 0) =
      ∑ i ∈ A, c i + ∑ i ∈ A, w i - if b ∈ A then total else 0 := by
  rw [sum_sub_distrib, sum_add_distrib, sum_ite_eq']

include hA hb hmax hw

-- Nodes that gain without the leader are together with it no better off than before, and the leader has the
-- largest part of that. The bound may be such that it leaves nothing to any number `k` of nodes.
theorem sum_le {k : Int} (h : ∀ B ⊆ s, ∑ i ∈ B, c i ≤ #B * (k - #B) * W) :
    ∑ i ∈ A, (c i + w i - if i = b then ∑ i ∈ s, w i else 0) ≤ #A * (k - #A) * W := by
  rw [sum_eq]
  by_cases hm : b ∈ A
  case pos =>
    have hle : ∑ i ∈ A, w i ≤ ∑ i ∈ s, w i := sum_le_sum_of_subset_of_nonneg hA fun i hi _ => (hw i hi).left
    have := h A hA
    rw [if_pos hm]
    linarith
  case neg =>
    have hB : insert b A ⊆ s := insert_subset hb hA
    have hc := h _ hB
    have hwB := sum_le_card_nsmul (insert b A) w W fun i hi => (hw i (hB hi)).right
    have hmaxA := sum_le_card_nsmul A (fun i => c i + w i) (c b + w b) fun i hi => hmax i (hA hi)
    rw [sum_insert hm, card_insert_of_notMem hm] at hc hwB
    rw [sum_add_distrib] at hmaxA
    simp only [nsmul_eq_mul] at hwB hmaxA
    push_cast at hc hwB
    rw [if_neg hm, sub_zero]
    have hj : (0 : Int) ≤ #A := by positivity
    generalize (#A : Int) = j at *
    generalize ∑ i ∈ A, c i = x at *
    generalize ∑ i ∈ A, w i = y at *
    refine le_of_mul_le_mul_left ?_ (by omega : 0 < j + 1)
    calc (j + 1) * (x + y)
      _ = (x + y) + j * (x + y)                           := by ring
      _ ≤ j * (c b + w b) + j * (x + y)                   := by linarith
      _ = j * (c b + x + (w b + y))                       := by ring
      _ ≤ j * ((j + 1) * (k - (j + 1)) * W + (j + 1) * W) := mul_le_mul_of_nonneg_left (by linarith) hj
      _ = (j + 1) * (j * (k - j) * W)                     := by ring

variable (h : ∀ B ⊆ s, |∑ i ∈ B, c i| ≤ allowance N W #B)

include h

-- Nodes that lose with the leader are held up by it in two ways: it is ahead of each of the other nodes, and
-- it is ahead of what it is charged for.
theorem le_sum : -allowance N W #A ≤ ∑ i ∈ A, (c i + w i - if i = b then ∑ i ∈ s, w i else 0) := by
  rw [sum_eq]
  by_cases hm : b ∈ A
  case neg =>
    have hle : 0 ≤ ∑ i ∈ A, w i := sum_nonneg fun i hi => (hw i (hA hi)).left
    have := (abs_le.mp (h A hA)).left
    rw [if_neg hm]
    linarith
  case pos =>
    have hall := (abs_le.mp (h s subset_rfl)).left
    have hrest := (abs_le.mp (h (A.erase b) ((erase_subset b A).trans hA))).left
    have hmaxR := sum_le_card_nsmul (s \ A) (fun i => c i + w i) (c b + w b) fun i hi => hmax i (sdiff_subset hi)
    have hwR := sum_le_card_nsmul (s \ A) w W fun i hi => (hw i (sdiff_subset hi)).right
    have hwb := (hw b hb).right
    rw [sum_add_distrib] at hmaxR
    simp only [nsmul_eq_mul] at hwR hmaxR
    rw [← card_sdiff_add_card_eq_card hA, ← sum_sdiff hA, ← add_sum_erase A c hm] at hall
    rw [card_erase_of_mem hm, Nat.cast_sub (card_pos.mpr ⟨b, hm⟩)] at hrest
    rw [if_pos hm, ← sum_sdiff hA, ← add_sum_erase A c hm]
    push_cast at hall hrest
    have hr : (0 : Int) ≤ #(s \ A) := by positivity
    generalize (#A : Int) = j at *
    generalize (#(s \ A) : Int) = r at *
    generalize ∑ i ∈ A, w i = z at *
    generalize ∑ i ∈ A.erase b, c i = x at *
    generalize ∑ i ∈ s \ A, c i = y at *
    generalize ∑ i ∈ s \ A, w i = v at *
    have h₁ : -allowance N W (r + j) - r * (c b + w b) ≤ c b + x - v := by linarith
    have h₂ : c b + w b - (allowance N W (j - 1) + (r + 1) * W) ≤ c b + x - v := by linarith
    have hle : (r + 1) * -allowance N W j ≤ (r + 1) * (c b + x - v) := by
      calc (r + 1) * -allowance N W j
        _ = -allowance N W (r + j) - r * (c b + w b)
              + r * (c b + w b - (allowance N W (j - 1) + (r + 1) * W)) := by
                rw [mul_neg, allowance.of_pred]
                ring
        _ ≤ c b + x - v + r * (c b + x - v)                             := by gcongr
        _ = (r + 1) * (c b + x - v)                                     := by ring
    have := le_of_mul_le_mul_left hle (by omega)
    linarith

theorem abs_sum_le : |∑ i ∈ A, (c i + w i - if i = b then ∑ i ∈ s, w i else 0)| ≤ allowance N W #A :=
  abs_le.mpr ⟨le_sum hA hb hmax hw h, sum_le hA hb hmax hw fun B hB => (abs_le.mp (h B hB)).right⟩

end Turn

namespace Pool

variable {p q : Pool} {e : Endpoint} {N W : Nat} {f : Node → Node} {ops : List Operation}

def members (p : Pool) : Finset Node := p.nodes.toFinset

theorem mem_members {n : Node} : n ∈ p.members ↔ n ∈ p.nodes :=
  List.mem_toFinset

theorem card_members_le (p : Pool) : #p.members ≤ p.size :=
  List.toFinset_card_le p.nodes

theorem sum_members (h : p.addresses.Nodup) : ∑ n ∈ p.members, (n.weight : Int) = p.totalWeight := by
  rw [totalWeight_eq_sum, ← List.sum_toFinset _ h.of_map, Nat.cast_sum]
  rfl

-- Nodes of a pool whose nodes have changed, but not their addresses, are as many nodes of it before.
theorem exists_preimage (hp : p.addresses.Nodup) (hf : ∀ n, (f n).address = n.address) {B : Finset Node}
    (hB : B ⊆ members ⟨p.nodes.map f⟩) :
    ∃ A ⊆ p.members, #B = #A ∧ ∑ n ∈ B, n.current = ∑ n ∈ A, (f n).current := by
  have hinj : Set.InjOn f p.members := fun n hn m hm he => by
    have ha : n.address = m.address := hf n ▸ hf m ▸ congrArg Node.address he
    exact eq_of_address_eq hp (mem_members.mp hn) (mem_members.mp hm) ha
  have himg : members ⟨p.nodes.map f⟩ = p.members.image f := by
    ext
    simp [mem_members]
  obtain ⟨A, hA, rfl⟩ := subset_image_iff.mp (himg ▸ hB)
  have hinj := hinj.mono hA
  exact ⟨A, hA, card_image_of_injOn hinj, sum_image hinj⟩

-- A selection is a turn of which one node is the leader.
theorem Selects.exists_turn (s : p.Selects e q) (hp : p.addresses.Nodup) :
    ∃ b ∈ p.members, (∀ n ∈ p.members, n.current + n.weight ≤ b.current + b.weight) ∧
      ∀ B ⊆ q.members, ∃ A ⊆ p.members, #B = #A ∧ ∑ n ∈ B, n.current =
        ∑ n ∈ A, (n.current + n.weight - if n = b then ∑ n ∈ p.members, (n.weight : Int) else 0) := by
  have ⟨b, hb, he, hmax⟩ := s.winner
  have hq : q = ⟨p.nodes.map (Node.turn e.address p.totalWeight)⟩ := congrArg Pool.mk s.nodes_eq
  refine ⟨b, mem_members.mpr hb, fun n hn => hmax n (mem_members.mp hn), fun B hB => ?_⟩
  have ⟨A, hA, hc, hs⟩ := exists_preimage hp (Node.turn_address e.address p.totalWeight) (hq ▸ hB)
  refine ⟨A, hA, hc, hs.trans (sum_congr rfl fun n hn => ?_)⟩
  have ha : n.address = e.address ↔ n = b := by
    constructor
    case mp  => exact fun ha => eq_of_address_eq hp (mem_members.mp (hA hn)) hb (ha.trans (he ▸ rfl))
    case mpr => exact fun hn => hn ▸ he ▸ rfl
  rw [Node.turn_current, sum_members hp]
  simp only [ha]

structure Within (N W : Nat) (p : Pool) : Prop where
  size   : p.size ≤ N
  weight : ∀ n ∈ p.nodes, n.weight ≤ W

-- However many nodes are looked at, and whichever, they are together within the allowance for that many.
-- A bound on single accumulators would not be preserved: the bound for some nodes comes from those for one
-- more and for one less.
def Steady (N W : Nat) (p : Pool) : Prop :=
  ∀ A ⊆ p.members, |∑ n ∈ A, n.current| ≤ allowance N W #A

namespace Steady

theorem empty : Steady N W empty := by
  intro A hA
  rw [subset_empty.mp hA]
  simp [allowance]

theorem sub (h : p.Steady N W) (hs : q.nodes ⊆ p.nodes) : q.Steady N W :=
  fun A hA => h A fun _ hn => mem_members.mpr (hs (mem_members.mp (hA hn)))

theorem joined (h : p.Steady N W) (hw : Within N W ⟨p.nodes ++ [.fresh e]⟩) :
    Steady N W ⟨p.nodes ++ [.fresh e]⟩ := by
  intro A hA
  have hs : A.erase (.fresh e) ⊆ p.members := by
    intro n hn
    have ⟨hne, hm⟩ := mem_erase.mp hn
    have := mem_members.mp (hA hm)
    simp_all [mem_members]
  have hle := h _ hs
  by_cases hm : Node.fresh e ∈ A
  case neg => rwa [erase_eq_of_notMem hm] at hle
  case pos =>
    have hz : (Node.fresh e).current = 0 := rfl
    rw [← add_sum_erase A _ hm, hz, zero_add, ← card_erase_add_one hm]
    refine hle.trans ?_
    have hc := (card_le_card hs).trans p.card_members_le
    have hsize : p.size + 1 ≤ N := by simpa [size] using hw.size
    push_cast
    exact allowance.le_succ (by omega) (by positivity)

theorem map (hp : p.addresses.Nodup) (hf : ∀ n, (f n).address = n.address)
    (h : ∀ A ⊆ p.members, |∑ n ∈ A, (f n).current| ≤ allowance N W #A) : Steady N W ⟨p.nodes.map f⟩ := by
  intro B hB
  have ⟨A, hA, hc, hs⟩ := exists_preimage hp hf hB
  rw [hc, hs]
  exact h A hA

theorem selects (h : p.Steady N W) (hp : p.addresses.Nodup) (hw : p.Within N W) (s : p.Selects e q) :
    q.Steady N W := by
  have ⟨b, hb, hmax, hs⟩ := s.exists_turn hp
  intro B hB
  have ⟨A, hA, hc, hsum⟩ := hs B hB
  rw [hc, hsum]
  refine Turn.abs_sum_le hA hb hmax (fun n hn => ?_) h
  exact ⟨by positivity, by exact_mod_cast hw.weight n (mem_members.mp hn)⟩

theorem changes (h : p.Steady N W) (hp : p.addresses.Nodup) (hw : p.Within N W) (hq : q.Within N W)
    (c : p.Changes q) : q.Steady N W := by
  cases c
  case same       => exact h
  case joined     => exact h.joined hq
  case renewed e  =>
    refine map hp (Node.renew_address e) fun A hA => ?_
    simp only [Node.renew_current]
    exact h A hA
  case left       => exact h.sub List.eraseP_subset
  case selected s => exact h.selects hp hw s

theorem run (h : ∀ before, before <+: ops → (run before).Within N W) : (run ops).Steady N W := by
  induction ops using List.reverseRecOn
  case nil => exact empty
  case append_singleton ops op hi =>
    have hpre : ops <+: ops ++ [op] := List.prefix_append ops [op]
    have hs := hi fun before hb => h before (hb.trans hpre)
    rw [run_snoc]
    exact hs.changes (run_nodup ops) (h ops hpre) (run_snoc ops op ▸ h _ List.prefix_rfl) (perform_changes _ op)

theorem abs_current_le (h : p.Steady N W) {n : Node} (hn : n ∈ p.nodes) : |n.current| ≤ 2 * (N - 1) * W := by
  have := h {n} (singleton_subset_iff.mpr (mem_members.mpr hn))
  simp only [sum_singleton, card_singleton, allowance] at this
  push_cast at this
  linarith

-- The lower bound is not tight: an accumulator falls no further than another can rise.
theorem current_mem_Icc (h : p.Steady N W) (hw : p.Within N W) {n : Node} (hn : n ∈ p.nodes) :
    n.current ∈ Set.Icc (-(N * (N - 1) * W : Int)) (2 * (N - 1) * W) := by
  have ⟨hl, hr⟩ := abs_le.mp (h.abs_current_le hn)
  refine ⟨?_, hr⟩
  have hN : 0 < N := (List.length_pos_of_mem hn).trans_le hw.size
  have hle : (2 * (N - 1) * W : Int) ≤ N * (N - 1) * W := by
    obtain hN | hN : N = 1 ∨ 2 ≤ N := by omega
    · simp [hN]
    · have : (2 : Int) ≤ N := by exact_mod_cast hN
      have : (0 : Int) ≤ N - 1 := by omega
      gcongr
  linarith

end Steady

end Pool

end Sluice
