import Sluice.Proofs.Pool.Operations

open List

namespace Sluice.Pool

variable {p : Pool}

-- The pool without the nodes of these addresses. The others keep their order, their weights and their
-- accumulators.
def without (p : Pool) (gone : List String) : Pool :=
  ⟨p.nodes.filter (·.address ∉ gone)⟩

theorem without_addresses (p : Pool) (gone : List String) :
    (p.without gone).addresses = p.addresses.filter (· ∉ gone) := by
  rw [addresses, without, addresses, filter_map]
  rfl

theorem without_without (p : Pool) (left gone : List String) :
    (p.without left).without gone = p.without (left ++ gone) := by
  simp only [without, filter_filter, mem_append, not_or, decide_not, Bool.and_comm, Bool.decide_and]

theorem without_eq_self {a : String} (h : a ∉ p.addresses) : p.without [a] = p := by
  have hn : p.nodes.filter (·.address ∉ [a]) = p.nodes :=
    filter_eq_self.mpr fun n hn => by simpa using ne_of_mem_of_not_mem (mem_map_of_mem hn) h
  rw [without, hn]

theorem eraseP_address {ns : List Node} (h : (ns.map Node.address).Nodup) (a : String) :
    ns.eraseP (·.address = a) = ns.filter (·.address ∉ [a]) := by
  induction ns
  case nil => rfl
  case cons n ns hi =>
    have ⟨hn, hns⟩ := nodup_cons.mp h
    by_cases ha : n.address = a
    case pos =>
      have hm : ∀ m ∈ ns, m.address ∉ [a] := fun m hm he =>
        hn <| mem_map.mpr ⟨m, hm, (mem_singleton.mp he).trans ha.symm⟩
      rw [eraseP_cons_of_pos (by simpa), filter_cons_of_neg (by simpa), filter_eq_self.mpr (by simpa using hm)]
    case neg => rw [eraseP_cons_of_neg (by simpa), filter_cons_of_pos (by simpa), hi hns]

-- No second node has the address of the one that is removed.
theorem remove_eq (h : p.addresses.Nodup) (a : String) : (p.remove a).2 = p.without [a] := by
  rw [remove, eraseP_address h, without]

theorem without_nodup (h : p.addresses.Nodup) (gone : List String) : (p.without gone).addresses.Nodup :=
  p.without_addresses gone ▸ h.filter _

theorem foldl_remove (h : p.addresses.Nodup) (gone : List String) :
    gone.foldl (fun p a => (p.remove a).2) p = p.without gone := by
  induction gone generalizing p
  case nil => simp [without]
  case cons a gone hi => rw [foldl_cons, remove_eq h, hi (without_nodup h _), without_without, singleton_append]

end Sluice.Pool
