import Sluice.Proofs.Pool.Callers

open List

namespace Sluice.Pool

-- The weights of the endpoints that a condition holds of, taken together.
def weightOf (es : List Endpoint) (f : Endpoint → Bool) : Nat :=
  ((es.filter f).map Endpoint.weight).sum

variable {p q : Pool} {e : Endpoint} {es before picks : List Endpoint} {f healthy : Endpoint → Bool}

theorem weightOf_add_not (es : List Endpoint) (f : Endpoint → Bool) :
    weightOf es f + weightOf es (!f ·) = (es.map Endpoint.weight).sum := by
  induction es
  case nil => rfl
  case cons e es hi => cases h : f e <;> simp_all [weightOf] <;> omega

theorem sum_count {l : List Endpoint} (hl : l.Nodup) (hp : ∀ e ∈ picks, e ∈ l) :
    (l.map picks.count).sum = picks.length := by
  rw [← sum_toFinset _ hl]
  simp only [← Multiset.coe_count]
  exact Multiset.sum_count_eq_card (s := l.toFinset) (m := (picks : Multiset Endpoint)) (by simpa using hp)

namespace Turns

-- In one period each endpoint is picked as often as its weight says.
theorem count_period (t₁ : Turns (fresh es) before p) (t₂ : Turns p picks q) (hn : (es.map Endpoint.address).Nodup)
    (hl : picks.length = (fresh es).period) (he : e ∈ es) : (fresh es).grain * picks.count e = e.weight := by
  cases t₁.fresh_periodic t₂ hn hl
  have hm : e ∈ p.nodes.map Node.endpoint := by simpa [t₁.endpoints_eq] using he
  obtain ⟨n, hp, rfl⟩ := mem_map.mp hm
  have ha : p.addresses.Nodup := by simpa [t₁.addresses_eq] using hn
  rw [t₂.count_eq_wins ha hp, t₂.wins_period hp (by rw [hl, t₁.period_eq]), ← t₁.grain_eq]
  exact Nat.mul_div_cancel' (grain_dvd hp)

-- Endpoints that a condition holds of are picked, taken together, as often as their weights say.
theorem countP_period (t₁ : Turns (fresh es) before p) (t₂ : Turns p picks q) (hn : (es.map Endpoint.address).Nodup)
    (hl : picks.length = (fresh es).period) (f : Endpoint → Bool) :
    (fresh es).grain * picks.countP f = weightOf es f := by
  have hs : ∀ e ∈ picks.filter f, e ∈ es.filter f := by
    intro e he
    have hm : e ∈ p.nodes.map Node.endpoint := t₂.mem_endpoints (mem_of_mem_filter he)
    rw [t₁.endpoints_eq, fresh_endpoints] at hm
    exact mem_filter.mpr ⟨hm, of_mem_filter he⟩
  rw [countP_eq_length_filter, ← sum_count (hn.of_map.filter f) hs, ← sum_map_mul_left, weightOf]
  congr 1
  refine map_congr_left fun e he => ?_
  rw [count_filter (of_mem_filter he), t₁.count_period t₂ hn hl (mem_of_mem_filter he)]

end Turns

-- A pool that selections have got anywhere gets to a healthy node before the others have had their share of one period.
theorem exists_healthy (t : Turns (fresh es) before p) (hn : (es.map Endpoint.address).Nodup)
    (he : ∃ e ∈ es, healthy e) : ∃ bad good q, Turns p (bad ++ [good]) q ∧ (∀ e ∈ bad, e ∈ es ∧ ¬healthy e) ∧
      good ∈ es ∧ healthy good ∧ bad.length ≤ weightOf es (!healthy ·) / (fresh es).grain := by
  have ⟨e, hm, hh⟩ := he
  have hne : p.nodes ≠ [] := by
    have : p.nodes.map Node.endpoint ≠ [] := by simpa [t.endpoints_eq] using ne_nil_of_mem hm
    simpa using this
  obtain ⟨picks, q, hl, tp⟩ := exists_turns hne (fresh es).period
  have hw : 0 < weightOf es healthy :=
    e.weight_pos.trans_le (le_sum_of_mem (mem_map_of_mem (mem_filter.mpr ⟨hm, hh⟩)))
  rw [← t.countP_period tp hn hl healthy] at hw
  have hg : 0 < (fresh es).grain := pos_of_mul_pos_left hw (Nat.zero_le _)
  have ⟨x, hx, hhx⟩ := countP_pos_iff.mp (pos_of_mul_pos_right hw (Nat.zero_le _))
  -- The first healthy endpoint of the period.
  obtain ⟨good, hf⟩ := Option.isSome_iff_exists.mp (find?_isSome.mpr ⟨x, hx, hhx⟩)
  obtain ⟨hgood, bad, rest, rfl, hbad⟩ := find?_eq_some_iff_append.mp hf
  have ⟨r, tb, _⟩ := (show Turns p ((bad ++ [good]) ++ rest) q by simpa using tp).of_append
  have hes : ∀ e ∈ bad ++ [good], e ∈ es := fun e he => by simpa [t.endpoints_eq] using tb.mem_endpoints he
  have hsick : ∀ e ∈ bad, e ∈ es ∧ ¬healthy e := fun e he => ⟨hes e (mem_append_left _ he), by simpa using hbad e he⟩
  refine ⟨bad, good, r, tb, hsick, hes good (by simp), hgood, ?_⟩
  rw [← t.countP_period tp hn hl (!healthy ·), Nat.mul_div_cancel_left _ hg, countP_append,
    countP_eq_length.mpr hbad]
  exact Nat.le_add_right ..

end Sluice.Pool
