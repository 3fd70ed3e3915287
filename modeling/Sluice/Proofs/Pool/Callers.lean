import Sluice.Proofs.Pool.Rotation

open List

namespace Sluice.Pool

variable {κ : Type} {p q : Pool} {e : Endpoint} {es picks : List Endpoint}

-- The selections that callers make of one pool, in the order in which they get hold of it, each with
-- what its caller is given. A pool is held by one caller at a time, so every interleaving of callers
-- is such an order.
def serve : List κ → Pool → List (κ × Except Fault Endpoint) × Pool
  | [], p => ([], p)
  | caller :: callers, p =>
    let (answer, p) := p.select
    let (answers, p) := serve callers p
    ((caller, answer) :: answers, p)

theorem select_of_advance (h : p.advance = (some e, q)) : p.select = (.ok e, q) := by
  simp [select, h]

-- Who selects makes no difference to what is selected.
theorem Turns.serve_eq (t : Turns p picks q) {callers : List κ} (h : callers.length = picks.length) :
    serve callers p = (callers.zip (picks.map .ok), q) := by
  induction t generalizing callers <;> cases callers <;> simp at h
  case nil.nil => rfl
  case cons.cons ha _ hi _ _ => simp [serve, select_of_advance ha, hi h]

theorem Turns.count_eq_wins (t : Turns p picks q) (hp : p.addresses.Nodup) (hn : n ∈ p.nodes) :
    picks.count n.endpoint = n.wins picks := by
  rw [Node.wins]
  refine countP_congr fun x hx => ?_
  obtain ⟨m, hm, rfl⟩ := mem_map.mp (t.mem_endpoints hx)
  simp only [beq_iff_eq, decide_eq_true_eq]
  constructor
  case mp  => exact fun h => congrArg Endpoint.address h.symm
  case mpr => exact fun h => congrArg Node.endpoint (eq_of_address_eq hp hm hn h.symm)

theorem Turns.count_answers (t : Turns p picks q) {callers : List κ} (h : callers.length = picks.length)
    (hp : p.addresses.Nodup) (hn : n ∈ p.nodes) :
    ((serve callers p).1.map Prod.snd).count (.ok n.endpoint) = n.wins picks := by
  rw [t.serve_eq h, map_snd_zip (by simp [h]), count_map_of_injective _ _ (fun _ _ => by simp), t.count_eq_wins hp hn]

theorem fresh_totalWeight (es : List Endpoint) : (fresh es).totalWeight = (es.map Endpoint.weight).sum := by
  simp [totalWeight_eq_sum, fresh, Function.comp_def, Node.weight, Node.fresh]

theorem fresh_grain (es : List Endpoint) : (fresh es).grain = (es.map Endpoint.weight).foldr Nat.gcd 0 := by
  simp [grain, fresh, Function.comp_def, Node.weight, Node.fresh]

-- Whichever window of one period is looked at, and whoever selects in it, each endpoint is picked as
-- often as its weight says and every accumulator is back where it was.
theorem serve_periodic (es : List Endpoint) (h : (es.map Endpoint.address).Nodup) :
    ∃ p, ofEndpoints es = .ok p ∧ p.nodes = es.map Node.fresh ∧
      ∀ {κ : Type} (before window : List κ),
        let total := (es.map Endpoint.weight).sum
        let grain := (es.map Endpoint.weight).foldr Nat.gcd 0
        window.length = total / grain →
          (serve window (serve before p).2).2 = (serve before p).2 ∧
          ∀ e ∈ es, ((serve window (serve before p).2).1.map Prod.snd).count (.ok e) = e.weight / grain := by
  refine ⟨fresh es, ofEndpoints_eq_ok.mpr ⟨h, rfl⟩, rfl, fun before window => ?_⟩
  simp only [← fresh_totalWeight, ← fresh_grain]
  intro hl
  replace hl : window.length = (fresh es).period := hl
  by_cases hes : es = []
  case pos =>
    subst hes
    simp [length_eq_zero_iff.mp hl, serve]
  case neg =>
    have hne : (fresh es).nodes ≠ [] := by simpa [fresh] using hes
    obtain ⟨xs, q, hx, tx⟩ := exists_turns hne before.length
    have hq : q.nodes ≠ [] := by simpa [tx.nodes_eq] using hne
    obtain ⟨ys, r, hy, ty⟩ := exists_turns hq window.length
    have hr : r = q := tx.fresh_periodic ty h (hy.trans hl)
    subst hr
    rw [tx.serve_eq hx.symm]
    refine ⟨by rw [ty.serve_eq hy.symm], fun e he => ?_⟩
    have hm : e ∈ r.nodes.map Node.endpoint := by simpa [tx.endpoints_eq] using he
    obtain ⟨n, hn, rfl⟩ := mem_map.mp hm
    have hp : ys.length = r.period := by rw [hy, hl, tx.period_eq]
    rw [ty.count_answers hy.symm (by simpa [tx.addresses_eq] using h) hn, ty.wins_period hn hp, tx.grain_eq]
    rfl

-- Endpoints with weights that have a common divisor: one period has six selections, not sixty.
def tenTwentyThirty : List Endpoint :=
  [⟨"http://a:1", 10, "http".toList, "a:1".toList, ⟨['/'], none⟩, by decide, by decide, by decide⟩,
   ⟨"http://b:1", 20, "http".toList, "b:1".toList, ⟨['/'], none⟩, by decide, by decide, by decide⟩,
   ⟨"http://c:1", 30, "http".toList, "c:1".toList, ⟨['/'], none⟩, by decide, by decide, by decide⟩]

theorem serve_periodic_tenTwentyThirty :
    (tenTwentyThirty.map Endpoint.address).Nodup ∧ ∃ p, ofEndpoints tenTwentyThirty = .ok p ∧
      ∀ (before window : List Nat), window.length = 6 →
        (serve window (serve before p).2).2 = (serve before p).2 ∧
        tenTwentyThirty.map (fun e => ((serve window (serve before p).2).1.map Prod.snd).count (.ok e)) = [1, 2, 3] := by
  have hd : (tenTwentyThirty.map Endpoint.address).Nodup := by decide
  have ⟨p, hp, _, hs⟩ := serve_periodic tenTwentyThirty hd
  refine ⟨hd, p, hp, fun before window hw => ?_⟩
  have ⟨hb, hc⟩ := hs before window hw
  refine ⟨hb, ?_⟩
  rw [map_congr_left hc]
  decide

end Sluice.Pool
