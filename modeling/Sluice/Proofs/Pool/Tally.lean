import Sluice.Proofs.Pool.Effects

open List

namespace Sluice.Pool

-- Since which operation an address is in the pool once operation number `i` is done. Only an address that is not there
-- is registered as new.
def Operation.onSince (a : String) (i : Nat) (since : Option Nat) : Operation → Option Nat
  | .insert e => if e.address = a then since.or (some i) else since
  | .upsert e => if e.address = a then since.or (some i) else since
  | .remove b => if b = a then none else since
  | .select   => since

def Operation.Registers (a : String) (op : Operation) : Prop :=
  ∃ e, e.address = a ∧ (op = .insert e ∨ op = .upsert e)

-- The number of the operation that last registered the address as new, unless it was removed since then.
def since (ops : List Operation) (a : String) : Option Nat :=
  ops.zipIdx.foldl (fun since (op, i) => op.onSince a i since) none

def Operation.isSelect : Operation → Bool
  | .select => true
  | _       => false

-- The pool before operation number `i`.
def before (ops : List Operation) (i : Nat) : Pool :=
  run (ops.take i)

-- The numbers of the selections from operation number `j` on.
def selections (ops : List Operation) (j : Nat) : Finset Nat :=
  {i ∈ Finset.Ico j ops.length | ops[i]?.any Operation.isSelect}

def weightAt (p : Pool) (a : String) : Nat :=
  (p.node? a).elim 0 Node.weight

def Picks (p : Pool) (a : String) : Prop :=
  p.advance.1.map Endpoint.address = some a

instance (p : Pool) (a : String) : Decidable (p.Picks a) :=
  inferInstanceAs (Decidable (_ = _))

-- What a node has gained in the selections from operation number `j` on, less what it has paid when it was picked.
def tally (ops : List Operation) (a : String) (j : Nat) : Int :=
  ∑ i ∈ selections ops j, ((before ops i).weightAt a : Int) -
    ∑ i ∈ selections ops j with (before ops i).Picks a, ((before ops i).totalWeight : Int)

variable {p q : Pool} {a : String} {op : Operation} {ops : List Operation} {i j : Nat}

theorem since_snoc (ops : List Operation) (op : Operation) (a : String) :
    since (ops ++ [op]) a = op.onSince a ops.length (since ops a) := by
  simp [since, zipIdx_append]

-- What a selection changes in the accumulator of a node.
def stake (p : Pool) (a : String) : Operation → Int
  | .select => p.weightAt a - if p.Picks a then (p.totalWeight : Int) else 0
  | _       => 0

theorem stake_select {n m : Node} (h : p.addresses.Nodup) (hp : p.advance.1 = some n.endpoint) (hm : m ∈ p.nodes) :
    p.stake m.address .select = m.weight - if n.address = m.address then (p.totalWeight : Int) else 0 := by
  simp only [stake, weightAt, Picks, node?_eq_some h hm, hp, Option.elim_some, Option.map_some, Option.some.injEq]
  rfl

theorem tally_eq_sum (ops : List Operation) (a : String) (j : Nat) :
    tally ops a j = ∑ i ∈ Finset.Ico j ops.length, (ops[i]?.elim 0 ((before ops i).stake a)) := by
  rw [tally, Finset.sum_filter, ← Finset.sum_sub_distrib, selections, Finset.sum_filter]
  refine Finset.sum_congr rfl fun i _ => ?_
  cases ops[i]?
  case none => rfl
  case some op => cases op <;> rfl

theorem tally_snoc (hj : j ≤ ops.length) (op : Operation) (a : String) :
    tally (ops ++ [op]) a j = tally ops a j + (run ops).stake a op := by
  rw [tally_eq_sum, tally_eq_sum, length_append, length_singleton, Finset.sum_Ico_succ_top hj]
  congr 1
  · refine Finset.sum_congr rfl fun i hi => ?_
    have hl := (Finset.mem_Ico.mp hi).right
    rw [getElem?_append_left hl, before, before, take_append_of_le_length hl.le]
  · simp [before]

theorem Operation.onSince_eq_some {last : Option Nat} (h : op.onSince a i last = some j) :
    last = some j ∨ (j = i ∧ last = none ∧ op.Registers a) := by
  cases op <;> simp only [onSince] at h
  case select => exact .inl h
  case remove =>
    split at h
    case isTrue  => cases h
    case isFalse => exact .inl h
  all_goals
    split at h
    case isFalse => exact .inl h
    case isTrue ha =>
      refine (Option.or_eq_some_iff.mp h).imp_right fun ⟨hn, he⟩ => ⟨(Option.some.inj he).symm, hn, _, ha, ?_⟩
      simp

-- What has happened to an address that is in the pool since operation number `j`.
theorem since_eq_some (h : since ops a = some j) :
    (∃ op, ops[j]? = some op ∧ op.Registers a) ∧ since (ops.take j) a = none ∧
      ∀ i, j < i → i ≤ ops.length → since (ops.take i) a = some j := by
  induction ops using reverseRecOn
  case nil => cases h
  case append_singleton ops op hr =>
    have hnew : ∀ i, ops.length < i → since ((ops ++ [op]).take i) a = some j := fun i hi => by
      rw [take_of_length_le (by simpa using hi)]
      exact h
    obtain ho | ⟨rfl, hn, ho⟩ := Operation.onSince_eq_some (since_snoc .. ▸ h)
    case inl =>
      have ⟨⟨op', hg, hx⟩, hn, ht⟩ := hr ho
      have hl := (List.getElem?_eq_some_iff.mp hg).fst
      refine ⟨⟨op', by rwa [getElem?_append_left hl], hx⟩, by rwa [take_append_of_le_length hl.le], fun i hj _ => ?_⟩
      by_cases hi : i ≤ ops.length
      case pos =>
        rw [take_append_of_le_length hi]
        exact ht i hj hi
      case neg => exact hnew i (Nat.lt_of_not_le hi)
    case inr => exact ⟨⟨op, by simp, ho⟩, by simpa using hn, fun i hj _ => hnew i hj⟩

theorem since_lt (h : since ops a = some j) : j < ops.length :=
  have ⟨⟨_, hg, _⟩, _⟩ := since_eq_some h
  (List.getElem?_eq_some_iff.mp hg).fst

-- A pool after operations: who is in it, in which order, and with which accumulators is told by the operations.
structure Told (ops : List Operation) (p : Pool) : Prop where
  nodup   : p.addresses.Nodup
  present : ∀ a, a ∈ p.addresses ↔ (since ops a).isSome
  ordered : p.addresses.Pairwise fun a b => since ops a < since ops b
  current : ∀ n ∈ p.nodes, ∀ j, since ops n.address = some j → n.current = tally ops n.address j

namespace Told

-- An operation that neither adds nor removes a node.
theorem keeps (t : Told ops (run ops)) (hs : ∀ a, since (ops ++ [op]) a = since ops a)
    (ha : q.addresses = (run ops).addresses)
    (hc : ∀ m ∈ q.nodes, ∃ n ∈ (run ops).nodes, n.address = m.address ∧
      m.current = n.current + (run ops).stake n.address op) : Told (ops ++ [op]) q where
  nodup   := ha ▸ t.nodup
  present a := by rw [ha, hs, t.present]
  ordered := by
    simp only [ha, hs]
    exact t.ordered
  current m hm j hj := by
    have ⟨n, hn, he, hc⟩ := hc m hm
    rw [hs, ← he] at hj
    rw [hc, t.current n hn j hj, ← he, tally_snoc (since_lt hj).le]

theorem joins {e : Endpoint} (t : Told ops (run ops)) (he : e.address ∉ (run ops).addresses)
    (hs : ∀ a, since (ops ++ [op]) a = if e.address = a then (since ops a).or (some ops.length) else since ops a)
    (hc : ∀ a, (run ops).stake a op = 0) : Told (ops ++ [op]) ⟨(run ops).nodes ++ [.fresh e]⟩ := by
  have hn : since ops e.address = none := by
    rw [← Option.not_isSome_iff_eq_none, ← t.present]
    exact he
  have hnew : since (ops ++ [op]) e.address = some ops.length := by rw [hs, if_pos rfl, hn, Option.none_or]
  have hold : ∀ a ∈ (run ops).addresses, since (ops ++ [op]) a = since ops a := fun a ha => by
    rw [hs, if_neg (ne_of_mem_of_not_mem ha he).symm]
  exact {
    nodup   := by
      rw [joined_addresses, ← concat_eq_append]
      exact t.nodup.concat he
    present := fun a => by
      rw [joined_addresses, mem_append, mem_singleton, t.present, hs]
      by_cases ha : e.address = a
      case pos => simp [ha]
      case neg => simp [ha, Ne.symm ha]
    ordered := by
      rw [joined_addresses, pairwise_append]
      refine ⟨t.ordered.imp_of_mem fun ha hb h => ?_, pairwise_singleton .., fun a ha b hb => ?_⟩
      · rwa [hold _ ha, hold _ hb]
      · have ⟨j, hj⟩ := Option.isSome_iff_exists.mp ((t.present a).mp ha)
        rw [hold _ ha, mem_singleton.mp hb, hnew, hj]
        exact since_lt hj
    current := fun m hm j hj => by
      cases mem_append.mp hm
      case inl hm =>
        rw [hold _ (mem_map_of_mem hm)] at hj
        rw [tally_snoc (since_lt hj).le, hc, add_zero, t.current m hm j hj]
      case inr hm =>
        cases mem_singleton.mp hm
        cases hnew.symm.trans hj
        rw [tally_snoc le_rfl, hc]
        simp [tally, selections, Node.fresh]
  }

theorem leaves {l r : List Node} {n : Node} (t : Told ops (run ops)) (hn : (run ops).nodes = l ++ n :: r) :
    Told (ops ++ [.remove n.address]) ⟨l ++ r⟩ := by
  have hne := address_ne_of_split t.nodup hn
  have hsub : addresses ⟨l ++ r⟩ <+ (run ops).addresses := by
    rw [addresses, addresses, hn]
    exact ((sublist_cons_self n r).append_left l).map _
  have hold : ∀ a ∈ addresses ⟨l ++ r⟩, since (ops ++ [.remove n.address]) a = since ops a := fun a ha => by
    obtain ⟨m, hm, rfl⟩ := mem_map.mp ha
    exact (since_snoc ..).trans (if_neg (hne m hm).symm)
  exact {
    nodup   := t.nodup.sublist hsub
    present := fun a => by
      rw [since_snoc, Operation.onSince]
      by_cases ha : n.address = a
      case pos =>
        have hg : a ∉ addresses ⟨l ++ r⟩ := fun hm => by
          obtain ⟨m, hx, he⟩ := mem_map.mp hm
          exact hne m hx (he.trans ha.symm)
        simp [ha, hg]
      case neg =>
        rw [if_neg ha, ← t.present]
        simp [addresses, hn, Ne.symm ha]
    ordered := (t.ordered.sublist hsub).imp_of_mem fun ha hb h => by rwa [hold _ ha, hold _ hb]
    current := fun m hm j hj => by
      rw [hold _ (mem_map_of_mem hm)] at hj
      rw [tally_snoc (since_lt hj).le, t.current m (mem_of_split hn hm) j hj]
      exact (add_zero _).symm
  }

-- A node that is already there is not registered as new.
theorem since_of_present {e : Endpoint} (t : Told ops p) (he : e.address ∈ p.addresses) (i : Nat) (a : String) :
    (if e.address = a then (since ops a).or (some i) else since ops a) = since ops a := by
  split
  case isTrue h =>
    have ⟨j, hj⟩ := Option.isSome_iff_exists.mp ((t.present a).mp (h ▸ he))
    rw [hj, Option.some_or]
  case isFalse => rfl

theorem selects {l r : List Node} {n : Node} (t : Told ops (run ops)) (hn : (run ops).nodes = l ++ n :: r)
    (hp : (run ops).advance.1 = some n.endpoint) :
    Told (ops ++ [.select]) ⟨l.map Node.raise ++ n.raise.pay (run ops).totalWeight :: r.map Node.raise⟩ := by
  have ha : addresses ⟨l.map Node.raise ++ n.raise.pay (run ops).totalWeight :: r.map Node.raise⟩ =
      (run ops).addresses := by
    simp only [addresses, hn, map_append, map_cons, map_map]
    rfl
  have hr : ∀ m ∈ l ++ r, ∃ k ∈ (run ops).nodes, k.address = m.raise.address ∧
      m.raise.current = k.current + (run ops).stake k.address .select := fun m hm => by
    refine ⟨m, mem_of_split hn hm, rfl, ?_⟩
    rw [stake_select t.nodup hp (mem_of_split hn hm), if_neg (address_ne_of_split t.nodup hn m hm).symm, sub_zero,
      Node.raise_current]
  refine t.keeps (since_snoc ops .select) ha fun m hm => ?_
  obtain hm | rfl | hm := (mem_append.trans (or_congr_right mem_cons)).mp hm
  · obtain ⟨k, hk, rfl⟩ := mem_map.mp hm
    exact hr k (mem_append_left r hk)
  · refine ⟨n, self_mem_of_split hn, rfl, ?_⟩
    rw [stake_select t.nodup hp (self_mem_of_split hn), if_pos rfl, ← add_sub_assoc, ← Node.raise_current]
    rfl
  · obtain ⟨k, hk, rfl⟩ := mem_map.mp hm
    exact hr k (mem_append_right l hk)

theorem perform (t : Told ops (run ops)) (op : Operation) : Told (ops ++ [op]) ((run ops).perform op) := by
  have hp := perform_performs t.nodup op
  generalize (run ops).perform op = q at hp ⊢
  cases hp
  case refused e he hi =>
    exact t.keeps (fun a => (since_snoc ..).trans (t.since_of_present he ..)) rfl fun m hm =>
      ⟨m, hm, rfl, (add_zero _).symm⟩
  case inserted e he hi => exact t.joins he (since_snoc ops _) fun _ => rfl
  case added e he hu    => exact t.joins he (since_snoc ops _) fun _ => rfl
  case renewed l n r e hn he hu =>
    have hmem := self_mem_of_split hn
    have ha : addresses ⟨l ++ { n with endpoint := e } :: r⟩ = (run ops).addresses := by
      simp only [addresses, hn, map_append, map_cons, he]
      rfl
    refine t.keeps (fun a => (since_snoc ..).trans (t.since_of_present (he ▸ mem_map_of_mem hmem) ..)) ha fun m hm => ?_
    obtain hm | rfl | hm := (mem_append.trans (or_congr_right mem_cons)).mp hm
    · exact ⟨m, hn ▸ mem_append_left _ hm, rfl, (add_zero _).symm⟩
    · exact ⟨n, hmem, he, (add_zero _).symm⟩
    · exact ⟨m, hn ▸ mem_append_right l (mem_cons_of_mem n hm), rfl, (add_zero _).symm⟩
  case removed hn hr => exact t.leaves hn
  case absent b hb hr =>
    have hn : since ops b = none := by
      rw [← Option.not_isSome_iff_eq_none, ← t.present]
      exact hb
    refine t.keeps (fun a => (since_snoc ..).trans (ite_eq_right_iff.mpr ?_)) rfl fun m hm =>
      ⟨m, hm, rfl, (add_zero _).symm⟩
    rintro rfl
    exact hn.symm
  case picked hn hl hr hp => exact t.selects hn (hp ▸ rfl)
  case idle hn hp => exact t.keeps (since_snoc ops .select) rfl fun m hm => by rw [hn] at hm; cases hm

end Told

theorem told_run (ops : List Operation) : Told ops (run ops) := by
  induction ops using reverseRecOn
  case nil => exact ⟨nodup_nil, by simp [run, empty, addresses, since], .nil, by simp [run, empty]⟩
  case append_singleton ops op hi =>
    rw [run_snoc]
    exact hi.perform op

-- Operation number `j` has registered the address as new, and it has been in the pool ever since.
structure NewSince (ops : List Operation) (a : String) (j : Nat) : Prop where
  registers : ∃ op, ops[j]? = some op ∧ op.Registers a
  absent    : a ∉ (before ops j).addresses
  stays     : ∀ i, j < i → i ≤ ops.length → a ∈ (before ops i).addresses

theorem newSince (h : since ops a = some j) : NewSince ops a j where
  registers := (since_eq_some h).left
  absent    := by
    rw [before, (told_run _).present, (since_eq_some h).right.left]
    nofun
  stays i hj hi := by
    rw [before, (told_run _).present, (since_eq_some h).right.right i hj hi]
    rfl

theorem before_succ (h : ops[i]? = some op) : before ops (i + 1) = (before ops i).perform op := by
  rw [before, take_add_one, h, before]
  exact run_snoc ..

-- However nodes are inserted, updated, removed and selected, the operations tell who is in the pool, in which order and
-- with which accumulator. Each of them does to the pool before it what it is meant to do and nothing else.
theorem run_told (ops : List Operation) :
    Told ops (run ops) ∧
    (∀ a j, since ops a = some j → NewSince ops a j) ∧
    ∀ i op, ops[i]? = some op → (before ops i).Performs op (before ops (i + 1)) := by
  refine ⟨told_run ops, fun _ _ => newSince, fun i op h => ?_⟩
  rw [before_succ h]
  exact perform_performs (told_run (ops.take i)).nodup op

end Sluice.Pool
