import Sluice.Proofs.Pool.Balance

open List

namespace Sluice

-- The node that takes over the endpoint `e` if it has that address.
def Node.renew (e : Endpoint) (n : Node) : Node :=
  if n.address = e.address then { n with endpoint := e } else n

theorem Node.renew_address (e : Endpoint) (n : Node) : (n.renew e).address = n.address := by
  rw [renew]
  split
  case isTrue h => exact h.symm
  case isFalse  => rfl

theorem Node.renew_current (e : Endpoint) (n : Node) : (n.renew e).current = n.current := by
  rw [renew]
  split <;> rfl

namespace Pool

-- What can be done to a pool.
inductive Operation where
  | insert (e : Endpoint)
  | upsert (e : Endpoint)
  | remove (address : String)
  | select

-- A node that is refused leaves the pool as it is.
def perform (p : Pool) : Operation → Pool
  | .insert e => (p.insert e).toOption.getD p
  | .upsert e => (p.upsert e).2
  | .remove a => (p.remove a).2
  | .select   => p.advance.2

def run (ops : List Operation) : Pool :=
  ops.foldl perform empty

-- Every way in which an operation can change a pool.
inductive Changes (p : Pool) : Pool → Prop
  | same :
    Changes p p
  | joined :
    e.address ∉ p.addresses →
    Changes p ⟨p.nodes ++ [.fresh e]⟩
  | renewed :
    Changes p ⟨p.nodes.map (Node.renew e)⟩
  | left :
    Changes p ⟨p.nodes.eraseP (·.address = a)⟩
  | selected :
    p.Selects e q →
    Changes p q

variable {p q : Pool} {e : Endpoint} {a : String} {op : Operation} {ops : List Operation}

theorem insert_changes (p : Pool) (e : Endpoint) : p.Changes ((p.insert e).toOption.getD p) := by
  rw [insert]
  split
  case isTrue    => exact .same
  case isFalse h => exact .joined (mt (p.contains_iff _).mpr h)

theorem upsert_changes (p : Pool) (e : Endpoint) : p.Changes (p.upsert e).2 := by
  rw [upsert]
  split
  case isTrue    => exact .renewed
  case isFalse h => exact .joined (mt (p.contains_iff _).mpr h)

theorem eq_of_advance_none (h : p.advance = (none, q)) : q = p := by
  have hn : p.nodes = [] := advance_eq_none.mp (h ▸ rfl)
  simp only [advance, hn, map_nil, Node.leader?, Prod.mk.injEq, true_and] at h
  exact h.symm

theorem advance_addresses (p : Pool) : p.advance.2.addresses = p.addresses :=
  match h : p.advance with
  | (some _, _) => (advance_selects h).addresses_eq
  | (none, _)   => eq_of_advance_none h ▸ rfl

theorem advance_changes (p : Pool) : p.Changes p.advance.2 :=
  match h : p.advance with
  | (some _, _) => .selected (advance_selects h)
  | (none, _)   => eq_of_advance_none h ▸ .same

theorem perform_changes (p : Pool) : (op : Operation) → p.Changes (p.perform op)
  | .insert e => p.insert_changes e
  | .upsert e => p.upsert_changes e
  | .remove _ => .left
  | .select   => p.advance_changes

theorem joined_addresses (p : Pool) (e : Endpoint) :
    addresses ⟨p.nodes ++ [.fresh e]⟩ = p.addresses ++ [e.address] := by
  simp [addresses, Node.address, Node.fresh]

theorem renewed_addresses (p : Pool) (e : Endpoint) :
    addresses ⟨p.nodes.map (Node.renew e)⟩ = p.addresses := by
  simp [addresses, Function.comp_def, Node.renew_address]

theorem Changes.nodup (c : p.Changes q) (h : p.addresses.Nodup) : q.addresses.Nodup := by
  cases c
  case same       => exact h
  case joined hn  =>
    rw [joined_addresses, ← concat_eq_append]
    exact Nodup.concat hn h
  case renewed e  => rwa [renewed_addresses]
  case left       => exact h.sublist (eraseP_sublist.map _)
  case selected s => exact s.addresses_eq ▸ h

theorem run_snoc (ops : List Operation) (op : Operation) : run (ops ++ [op]) = (run ops).perform op := by
  rw [run, foldl_append]
  rfl

theorem run_nodup (ops : List Operation) : (run ops).addresses.Nodup := by
  induction ops using reverseRecOn
  case nil => exact nodup_nil
  case append_singleton ops op hi =>
    rw [run_snoc]
    exact ((run ops).perform_changes op).nodup hi

end Pool

end Sluice
