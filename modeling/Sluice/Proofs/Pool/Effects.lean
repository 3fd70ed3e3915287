import Sluice.Proofs.Pool.Operations

open List

namespace Sluice

namespace Node

def pay (n : Node) (total : Int) : Node :=
  { n with current := n.current - total }

theorem turn_self (n : Node) (total : Int) : n.turn n.address total = n.raise.pay total := by
  rw [turn, if_pos rfl, pay, raise]

theorem turn_of_ne {n : Node} {a : String} (h : n.address ≠ a) (total : Int) : n.turn a total = n.raise := by
  rw [turn, if_neg h, sub_zero, raise]

end Node

namespace Pool

-- What becomes of a pool, and what is told of it, when an operation is performed.
inductive Performs (p : Pool) : Operation → Pool → Prop
  | refused :
    e.address ∈ p.addresses → p.insert e = .error (.config s!"node {e.address} is already registered") →
    Performs p (.insert e) p
  | inserted :
    e.address ∉ p.addresses → p.insert e = .ok ⟨p.nodes ++ [.fresh e]⟩ →
    Performs p (.insert e) ⟨p.nodes ++ [.fresh e]⟩
  | renewed :
    p.nodes = l ++ n :: r → n.address = e.address → p.upsert e = (false, ⟨l ++ { n with endpoint := e } :: r⟩) →
    Performs p (.upsert e) ⟨l ++ { n with endpoint := e } :: r⟩
  | added :
    e.address ∉ p.addresses → p.upsert e = (true, ⟨p.nodes ++ [.fresh e]⟩) →
    Performs p (.upsert e) ⟨p.nodes ++ [.fresh e]⟩
  | removed :
    p.nodes = l ++ n :: r → p.remove n.address = (some n, ⟨l ++ r⟩) →
    Performs p (.remove n.address) ⟨l ++ r⟩
  | absent :
    a ∉ p.addresses → p.remove a = (none, p) →
    Performs p (.remove a) p
  -- The accumulators are compared once they are raised: the nodes before the one that is picked are behind it, and
  -- those after it are not ahead of it.
  | picked :
    p.nodes = l ++ n :: r → (∀ m ∈ l, m.raise.current < n.raise.current) →
    (∀ m ∈ r, m.raise.current ≤ n.raise.current) →
    p.advance = (some n.endpoint, ⟨l.map Node.raise ++ n.raise.pay p.totalWeight :: r.map Node.raise⟩) →
    Performs p .select ⟨l.map Node.raise ++ n.raise.pay p.totalWeight :: r.map Node.raise⟩
  | idle :
    p.nodes = [] → p.advance = (none, p) →
    Performs p .select p

variable {p : Pool} {l r : List Node} {n m : Node} {a : String}

theorem mem_of_split (hs : p.nodes = l ++ n :: r) (hm : m ∈ l ++ r) : m ∈ p.nodes := by
  rw [hs]
  exact ((sublist_cons_self n r).append_left l).subset hm

theorem self_mem_of_split (hs : p.nodes = l ++ n :: r) : n ∈ p.nodes :=
  hs ▸ mem_append_right l mem_cons_self

theorem address_ne_of_split (h : p.addresses.Nodup) (hs : p.nodes = l ++ n :: r) :
    ∀ m ∈ l ++ r, m.address ≠ n.address := by
  intro m hm he
  rw [addresses, hs, map_append, map_cons, nodup_middle, nodup_cons, ← map_append, ← he] at h
  exact h.left (mem_map_of_mem hm)

theorem node?_eq_some (h : p.addresses.Nodup) (hn : n ∈ p.nodes) : p.node? n.address = some n := by
  have ⟨l, r, hs⟩ := append_of_mem hn
  have hl : ∀ m ∈ l, ¬decide (m.address = n.address) := fun m hm => by
    simpa using address_ne_of_split h hs m (mem_append_left r hm)
  rw [node?, hs, find?_append, find?_eq_none.mpr hl, Option.none_or, find?_cons_of_pos (by simp)]

-- The place of the only node with that address.
theorem exists_split (h : p.addresses.Nodup) (ha : a ∈ p.addresses) :
    ∃ l n r, p.nodes = l ++ n :: r ∧ n.address = a ∧ ∀ m ∈ l ++ r, m.address ≠ a := by
  obtain ⟨n, hn, rfl⟩ := mem_map.mp ha
  have ⟨l, r, hs⟩ := append_of_mem hn
  exact ⟨l, n, r, hs, rfl, address_ne_of_split h hs⟩

theorem insert_performs (p : Pool) (e : Endpoint) : p.Performs (.insert e) (p.perform (.insert e)) := by
  rw [perform]
  by_cases h : e.address ∈ p.addresses
  case pos =>
    have hi : p.insert e = .error (.config s!"node {e.address} is already registered") :=
      if_pos ((p.contains_iff _).mpr h)
    rw [hi]
    exact .refused h hi
  case neg =>
    have hi : p.insert e = .ok ⟨p.nodes ++ [.fresh e]⟩ := if_neg (mt (p.contains_iff _).mp h)
    rw [hi]
    exact .inserted h hi

theorem upsert_performs (h : p.addresses.Nodup) (e : Endpoint) : p.Performs (.upsert e) (p.perform (.upsert e)) := by
  rw [perform]
  by_cases he : e.address ∈ p.addresses
  case pos =>
    have ⟨l, n, r, hs, hn, hm⟩ := exists_split h he
    have hk : ∀ ns ⊆ l ++ r, ns.map (Node.renew e) = ns := fun ns hns =>
      (map_congr_left fun m hx => if_neg (hm m (hns hx))).trans (map_id' ns)
    have hu : p.upsert e = (false, ⟨p.nodes.map (Node.renew e)⟩) := if_pos ((p.contains_iff _).mpr he)
    rw [hs, map_append, map_cons, hk l (subset_append_left ..), hk r (subset_append_right ..), Node.renew,
      if_pos hn] at hu
    rw [hu]
    exact .renewed hs hn hu
  case neg =>
    have hu : p.upsert e = (true, ⟨p.nodes ++ [.fresh e]⟩) := if_neg (mt (p.contains_iff _).mp he)
    rw [hu]
    exact .added he hu

theorem remove_performs (h : p.addresses.Nodup) (a : String) : p.Performs (.remove a) (p.perform (.remove a)) := by
  rw [perform]
  by_cases ha : a ∈ p.addresses
  case pos =>
    obtain ⟨l, n, r, hs, rfl, hm⟩ := exists_split h ha
    have hl : ∀ m ∈ l, ¬decide (m.address = n.address) := fun m hx => by simpa using hm m (mem_append_left r hx)
    have hr : p.remove n.address = (some n, ⟨l ++ r⟩) := by
      rw [remove, node?_eq_some h (self_mem_of_split hs), hs, eraseP_append_right _ hl,
        eraseP_cons_of_pos (by simp)]
    rw [hr]
    exact .removed hs hr
  case neg =>
    have hn : ∀ m ∈ p.nodes, ¬decide (m.address = a) := fun m hm => by
      simpa using ne_of_mem_of_not_mem (mem_map_of_mem hm) ha
    have hr : p.remove a = (none, p) := by
      rw [remove, node?, find?_eq_none.mpr hn, eraseP_of_forall_not hn]
    rw [hr]
    exact .absent ha hr

theorem select_performs (h : p.addresses.Nodup) : p.Performs .select (p.perform .select) := by
  rw [perform]
  match hp : p.advance with
  | (none, q) =>
    cases eq_of_advance_none hp
    exact .idle (advance_eq_none.mp (hp ▸ rfl)) hp
  | (some e, q) =>
    obtain ⟨⟨l, n, r, hs, rfl, hl, hr⟩, hq⟩ := advance_selects hp
    have hm := address_ne_of_split h hs
    have hk : ∀ ns ⊆ l ++ r, ns.map (Node.turn n.address p.totalWeight) = ns.map Node.raise := fun ns hns =>
      map_congr_left fun m hx => Node.turn_of_ne (hm m (hns hx)) _
    have he : q = ⟨l.map Node.raise ++ n.raise.pay p.totalWeight :: r.map Node.raise⟩ := by
      rw [← hk l (subset_append_left ..), ← hk r (subset_append_right ..), ← n.turn_self, ← map_cons, ← map_append,
        ← hs]
      exact congrArg mk hq
    subst he
    exact .picked hs hl hr hp

theorem perform_performs (h : p.addresses.Nodup) : (op : Operation) → p.Performs op (p.perform op)
  | .insert e => p.insert_performs e
  | .upsert e => upsert_performs h e
  | .remove a => remove_performs h a
  | .select   => select_performs h

end Pool

end Sluice
