import Sluice.Proofs.Except
import Sluice.Rules

open List

namespace Sluice

theorem firstRepeated?_go_eq_none {seen texts : List String} :
    firstRepeated?.go seen texts = none ↔ texts.Nodup ∧ ∀ t ∈ texts, t ∉ seen := by
  induction texts generalizing seen
  case nil => simp [firstRepeated?.go]
  case cons t texts hi =>
    by_cases h : t ∈ seen
    case pos => simp [firstRepeated?.go, h]
    case neg =>
      simp only [firstRepeated?.go, contains_eq_mem, h, decide_false, Bool.false_eq_true, if_false, hi, mem_cons, not_or,
        nodup_cons, forall_eq_or_imp, not_false_eq_true, true_and]
      grind

theorem firstRepeated?_eq_none {texts : List String} : firstRepeated? texts = none ↔ texts.Nodup := by
  simp [firstRepeated?, firstRepeated?_go_eq_none]

theorem firstRepeated?_go_append {seen before after : List String} {a : String} (hn : before.Nodup)
    (hs : ∀ t ∈ before, t ∉ seen) (ha : a ∈ seen ∨ a ∈ before) :
    firstRepeated?.go seen (before ++ a :: after) = some a := by
  induction before generalizing seen
  case nil =>
    have ha := ha.resolve_right not_mem_nil
    simp [firstRepeated?.go, ha]
  case cons t before hi =>
    obtain ⟨ht, hn⟩ := nodup_cons.mp hn
    have hf : seen.contains t = false := by simpa using hs t mem_cons_self
    rw [cons_append, firstRepeated?.go, hf]
    refine hi hn (fun u hu => ?_) ?_
    · rw [mem_cons, not_or]
      exact ⟨fun he => ht (he ▸ hu), hs u (mem_cons_of_mem t hu)⟩
    · rw [mem_cons] at ha ⊢
      tauto

theorem firstRepeated?_append {before after : List String} {a : String} (hn : before.Nodup) (ha : a ∈ before) :
    firstRepeated? (before ++ a :: after) = some a :=
  firstRepeated?_go_append hn (by simp) (.inr ha)

theorem ServiceSettings.check_eq_ok {s : ServiceSettings} {rule : ServiceRule} :
    s.check = .ok rule ↔ s.stem ≠ "" ∧ ∃ quota, s.quota.check = .ok quota ∧ rule = ⟨s.stem, quota⟩ := by
  simp only [check, bind_eq_ok, throw_eq_error, error_bind, ite_error_eq_ok, pure, Except.pure, Except.ok.injEq,
    String.isEmpty_iff, ne_eq, eq_comm (a := rule)]

theorem BusinessKeySettings.check_eq_ok {b : BusinessKeySettings} {rule : BusinessKeyRule} :
    b.check = .ok rule ↔
      b.field ≠ "" ∧ ∃ quota, b.quota.check = .ok quota ∧ rule = ⟨Call.rooted b.method, b.field, quota⟩ := by
  simp only [check, bind_eq_ok, throw_eq_error, error_bind, ite_error_eq_ok, pure, Except.pure, Except.ok.injEq,
    String.isEmpty_iff, ne_eq, eq_comm (a := rule)]

-- Rules come from settings exactly if each of them comes from its own setting, and no two services or methods
-- are the same.
theorem RateLimitSettings.check_eq_ok {s : RateLimitSettings} {r : Rules} :
    s.check = .ok r ↔
      s.shelf = .ok r.shelf ∧ s.global.mapM QuotaSettings.check = .ok r.global ∧
      Forall₂ (·.check = .ok ·) s.services r.services ∧ (r.services.map (·.stem)).Nodup ∧
      Forall₂ (·.check = .ok ·) s.businessKeys r.businessKeys ∧ (r.businessKeys.map (·.method)).Nodup ∧
      r.keyStem = s.keyStem ∧ r.onError = s.onError ∧ r.reach = s.reach := by
  simp only [check, bind_eq_ok, throw_eq_error, error_bind, mapM_eq_ok, ← firstRepeated?_eq_none, pure, Except.pure]
  constructor
  case mp =>
    rintro ⟨shelf, hs, global, hg, services, hv, h⟩
    split at h
    case h_1 => cases h
    case h_2 hd =>
      obtain ⟨businessKeys, hb, h⟩ := bind_eq_ok.mp h
      split at h <;> cases h
      case h_2 hm =>
        rw [← Option.eq_none_iff_forall_ne_some] at hd hm
        exact ⟨hs, hg, hv, hd, mapM_eq_ok.mp hb, hm, rfl, rfl, rfl⟩
  case mpr =>
    rintro ⟨hs, hg, hv, hd, hb, hm, hk, he, hr⟩
    refine ⟨_, hs, _, hg, _, hv, ?_⟩
    rw [hd]
    refine bind_eq_ok.mpr ⟨_, mapM_eq_ok.mpr hb, ?_⟩
    rw [hm, ← hk, ← he, ← hr]

theorem Call.head_rooted (method : String) : (rooted method).toList.head? = some '/' := by
  rw [rooted]
  split
  case isTrue h => exact h
  case isFalse  => simp

namespace Rules

-- Rules of which no two are about the same service or the same method. This is what settings are checked for
-- so that no two rules count into one window.
structure Distinct (r : Rules) : Prop where
  stems   : (r.services.map (·.stem)).Nodup
  methods : (r.businessKeys.map (·.method)).Nodup
  rooted  : ∀ b ∈ r.businessKeys, b.method.toList.head? = some '/'

theorem distinct_of_check {s : RateLimitSettings} {r : Rules} (h : s.check = .ok r) : r.Distinct := by
  have ⟨_, _, _, hd, hb, hm, _⟩ := RateLimitSettings.check_eq_ok.mp h
  refine ⟨hd, hm, fun b hr => ?_⟩
  have ⟨i, hi, he⟩ := getElem_of_mem hr
  have ⟨_, _, _, hq⟩ := BusinessKeySettings.check_eq_ok.mp (hb.get (hb.length_eq ▸ hi) hi)
  rw [he.symm.trans hq]
  exact Call.head_rooted _

end Rules

end Sluice
