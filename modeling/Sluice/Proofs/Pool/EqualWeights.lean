import Sluice.Proofs.Pool.Callers

open List

namespace Sluice.Pool

-- A pool of nodes of one weight in the midst of a round: those that have been served in it owe one weight for each node
-- that waits, and those that wait are owed one weight for each node that has been served.
def midRound (w : Nat) (served waiting : List Endpoint) : Pool :=
  ⟨served.map (Node.mk · (-(waiting.length * w))) ++ waiting.map (Node.mk · (served.length * w))⟩

variable {p q : Pool} {e : Endpoint} {es served waiting before picks : List Endpoint} {w : Nat}

theorem midRound_nil_left : midRound w [] es = fresh es := by
  simp [midRound, fresh, Node.fresh]

theorem midRound_nil_right : midRound w es [] = fresh es := by
  simp [midRound, fresh, Node.fresh]

theorem midRound_totalWeight (hw : ∀ x ∈ served ++ waiting, x.weight = w) :
    (midRound w served waiting).totalWeight = (served.length + waiting.length) * w := by
  have he : (midRound w served waiting).nodes.map Node.weight = (served ++ waiting).map Endpoint.weight := by
    simp [midRound, Function.comp_def, Node.weight]
  rw [totalWeight_eq_sum, he, map_congr_left hw]
  simp [add_mul]

-- A node of weight `w` after a selection, where it pays the total weight if it is the one that was picked.
theorem turn_mk {a : String} {c d : Int} {total : Nat} (hw : e.weight = w)
    (h : c + w - (if e.address = a then (total : Int) else 0) = d) : (Node.mk e c).turn a total = ⟨e, d⟩ := by
  subst hw
  exact congrArg (Node.mk e) h

-- Of the nodes that wait, all with the same accumulator, the first one is served next.
theorem midRound_selects (hd : ((served ++ e :: waiting).map Endpoint.address).Nodup)
    (hw : ∀ x ∈ served ++ e :: waiting, x.weight = w) :
    (midRound w served (e :: waiting)).Selects e (midRound w (served ++ [e]) waiting) := by
  obtain ⟨hws, hwe, hwr⟩ : (∀ x ∈ served, x.weight = w) ∧ e.weight = w ∧ ∀ x ∈ waiting, x.weight = w := by
    simpa [or_imp, forall_and] using hw
  constructor
  case leads =>
    refine ⟨_, ⟨e, served.length * w⟩, _, rfl, rfl, ?_, ?_⟩
    all_goals
      simp only [mem_map, forall_exists_index, and_imp, forall_apply_eq_imp_iff₂, Node.raise_current, Node.weight]
      intro x hx
    · have hpos : (0 : Int) < w := by exact_mod_cast hwe ▸ e.weight_pos
      have : (0 : Int) ≤ (served.length + waiting.length) * w := by positivity
      rw [hws x hx, hwe, length_cons]
      push_cast
      linarith
    · rw [hwr x hx, hwe]
  case nodes_eq =>
    obtain ⟨hes, her⟩ : (∀ x ∈ served, x.address ≠ e.address) ∧ ∀ x ∈ waiting, x.address ≠ e.address := by
      simp only [map_append, map_cons, nodup_append, nodup_cons, mem_map, mem_cons] at hd
      grind
    rw [midRound_totalWeight hw]
    simp only [midRound, map_append, map_cons, map_nil, map_map, append_assoc, singleton_append, length_append,
      length_cons, length_nil, zero_add]
    refine congrArg₂ (· ++ ·) ?served (congrArg₂ cons ?picked ?waiting)
    case served =>
      refine map_congr_left fun x hx => (turn_mk (hws x hx) ?_).symm
      rw [if_neg (hes x hx)]
      push_cast
      ring
    case picked =>
      refine (turn_mk hwe ?_).symm
      rw [if_pos rfl]
      push_cast
      ring
    case waiting =>
      refine map_congr_left fun x hx => (turn_mk (hwr x hx) ?_).symm
      rw [if_neg (her x hx)]
      push_cast
      ring

-- Once all nodes have been served, nobody owes anything and the next round begins.
theorem midRound_advance (hd : (es.map Endpoint.address).Nodup) (hw : ∀ e ∈ es, e.weight = w) {i : Nat}
    (hi : i < es.length) : (midRound w (es.take i) (es.drop i)).advance =
      (some es[i], midRound w (es.take ((i + 1) % es.length)) (es.drop ((i + 1) % es.length))) := by
  have hs : es.take i ++ es[i] :: es.drop (i + 1) = es := by
    rw [← drop_eq_getElem_cons hi, take_append_drop]
  have ha := (midRound_selects (hs.symm ▸ hd) (hs.symm ▸ hw)).advance_eq
  rw [drop_eq_getElem_cons hi, ha, take_append_getElem]
  by_cases hl : i + 1 = es.length
  case pos =>
    rw [hl, Nat.mod_self, take_length, drop_length, take_zero, drop_zero, midRound_nil_left, midRound_nil_right]
  case neg => rw [Nat.mod_eq_of_lt (by omega)]

namespace Turns

-- The state after any number of selections, and what they have picked: the pool goes through the same round again and
-- again.
theorem in_turn (t : Turns (fresh es) picks q) (hd : (es.map Endpoint.address).Nodup) (hw : ∀ e ∈ es, e.weight = w) :
    q = midRound w (es.take (picks.length % es.length)) (es.drop (picks.length % es.length)) ∧
      ∀ k < picks.length, picks[k]? = es[k % es.length]? := by
  induction picks using reverseRecOn generalizing q
  case nil =>
    cases t
    simp [midRound_nil_left]
  case append_singleton picks e hi =>
    have he : e ∈ es := by simpa using t.mem_endpoints (mem_append_right picks (mem_singleton_self e))
    have hlt : picks.length % es.length < es.length := Nat.mod_lt _ (length_pos_of_mem he)
    have ⟨p, t, ht⟩ := t.of_append
    have ⟨hp, hk⟩ := hi t
    cases ht
    case cons ha ht =>
      cases ht
      rw [hp, midRound_advance hd hw hlt, Prod.mk.injEq, Option.some.injEq] at ha
      have ⟨he, hq⟩ := ha
      refine ⟨?state, fun k hlast => ?pick⟩
      case state => rw [← hq, length_append, length_singleton, Nat.mod_add_mod]
      case pick =>
        rw [length_append, length_singleton, Nat.lt_succ_iff_lt_or_eq] at hlast
        obtain hlt | rfl := hlast
        · rw [getElem?_append_left hlt, hk k hlt]
        · rw [getElem?_concat_length, ← he, getElem?_eq_getElem]

-- As many selections in a row as there are nodes go once around, from wherever they start.
theorem eq_rotate (t₁ : Turns (fresh es) before p) (t₂ : Turns p picks q) (hd : (es.map Endpoint.address).Nodup)
    (hw : ∀ e ∈ es, e.weight = w) (hl : picks.length = es.length) : picks = es.rotate before.length := by
  refine ext_getElem? fun i => ?_
  by_cases hi : i < es.length
  case pos =>
    have hk := ((t₁.append t₂).in_turn hd hw).right (before.length + i) (by simp [hl, hi])
    rw [getElem?_append_right (Nat.le_add_right ..), Nat.add_sub_cancel_left] at hk
    rw [hk, getElem?_rotate hi, Nat.add_comm]
  case neg => rw [getElem?_eq_none (by omega), getElem?_eq_none (by simpa using hi)]

end Turns

-- Nodes of one weight are selected in the order of their registration, around and around, so that as many selections in
-- a row as there are nodes give each of them its turn.
theorem serve_in_turn {es : List Endpoint} (h : (es.map Endpoint.address).Nodup) (hne : es ≠ []) {w : Nat}
    (hw : ∀ e ∈ es, e.weight = w) :
    ∃ p, ofEndpoints es = .ok p ∧ p.nodes = es.map Node.fresh ∧ ∀ {κ : Type} (callers : List κ),
      (∀ k < callers.length, ((serve callers p).1.map Prod.snd)[k]? = (es[k % es.length]?).map .ok) ∧
      ∀ window : List κ, window.length = es.length →
        (serve window (serve callers p).2).1.map Prod.snd ~ es.map .ok := by
  refine ⟨fresh es, ofEndpoints_eq_ok.mpr ⟨h, rfl⟩, rfl, fun callers => ?_⟩
  have hf : (fresh es).nodes ≠ [] := by simpa [fresh] using hne
  obtain ⟨picks, q, hl, t⟩ := exists_turns hf callers.length
  rw [t.serve_eq hl.symm]
  refine ⟨fun k hk => ?_, fun window hw' => ?_⟩
  · rw [map_snd_zip (by simp [hl]), getElem?_map, (t.in_turn h hw).right k (hl ▸ hk)]
  · have hq : q.nodes ≠ [] := by simpa [t.nodes_eq] using hf
    obtain ⟨ys, r, hy, ty⟩ := exists_turns hq window.length
    rw [ty.serve_eq hy.symm, map_snd_zip (by simp [hy]), t.eq_rotate ty h hw (hy.trans hw')]
    exact (rotate_perm es _).map _

def dozens : List Endpoint :=
  tenTwentyThirty.map fun e => { e with weight := 12, weight_pos := by decide, weight_lt := by decide }

-- The fifth selection is in the midst of the second round, and so is the window behind it.
theorem serve_in_turn_dozens :
    (dozens.map Endpoint.address).Nodup ∧ dozens ≠ [] ∧ (∀ e ∈ dozens, e.weight = 12) ∧
      ∃ p, ofEndpoints dozens = .ok p ∧ ∀ callers window : List Nat, callers.length = 5 → window.length = 3 →
        ((serve callers p).1.map Prod.snd)[4]? = some (.ok dozens[1]) ∧
        (serve window (serve callers p).2).1.map Prod.snd ~ dozens.map .ok := by
  have hd : (dozens.map Endpoint.address).Nodup := by decide
  have hne : dozens ≠ [] := by decide
  have hw : ∀ e ∈ dozens, e.weight = 12 := by decide
  have ⟨p, hp, _, hs⟩ := serve_in_turn hd hne hw
  refine ⟨hd, hne, hw, p, hp, fun callers window hc hl => ?_⟩
  have ⟨hpick, hround⟩ := hs callers
  exact ⟨hpick 4 (by omega), hround window hl⟩

end Sluice.Pool
