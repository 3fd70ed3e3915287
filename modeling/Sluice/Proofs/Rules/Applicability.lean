import Sluice.Proofs.Admission.Chargeable
import Sluice.Proofs.Admission.Spelling
import Sluice.Proofs.Rules.Sides
import Sluice.Proofs.Settings.Soundness

open List

namespace Sluice

-- What a rule is about, as far as its settings say.
def ServiceSettings.scope (v : ServiceSettings) : Scope := .service v.stem ("service:" ++ v.stem)

def BusinessKeySettings.scope (b : BusinessKeySettings) : Scope := .businessKey (Call.rooted b.method) b.field

def RateLimitSettings.scopes (s : RateLimitSettings) : List Scope :=
  (s.global.toList.map fun _ => .everything "global") ++ s.services.map (·.scope) ++ s.businessKeys.map (·.scope)

namespace Scope

variable {stem key : String}

-- Some call is charged, in whichever spelling of its method it is made.
def Applies (scope : Scope) : Prop :=
  ∃ method payload, scope.key? (.make method payload []) ≠ none

theorem key?_service_make (h : stem.toList.head? = some '/') (rest : String) (payload : Json) :
    (service stem key).key? (.make (stem ++ rest) payload []) = some key := by
  have hs : (stem ++ rest).toList.head? = some '/' := by
    rw [String.toList_append, head?_append, h, Option.some_or]
  refine key?_service.mpr ⟨rest.toList, ?_⟩
  rw [Call.make, Call.rooted_toList, if_pos hs, String.toList_append]

-- All methods have a slash in front once a call is made, so that no other start is ever found there.
theorem applies_service_iff (h : stem ≠ "") : (service stem key).Applies ↔ stem.toList.head? = some '/' := by
  constructor
  case mp =>
    rintro ⟨method, payload, hk⟩
    have ⟨rest, hr⟩ : stem.toList <+: (Call.rooted method).toList := by
      rw [← isPrefixOf_iff_prefix]
      by_contra hn
      exact hk (if_neg hn)
    have hh := Call.head_rooted method
    rwa [← hr, head?_append_of_ne_nil _ (by simpa using h)] at hh
  case mpr =>
    intro hs
    exact ⟨stem ++ "", .null, Option.ne_none_iff_exists'.mpr ⟨key, key?_service_make hs _ _⟩⟩

theorem key?_businessKey_make (method field text : String) : ∃ payload,
    (businessKey (Call.rooted method) field).key? (.make method payload []) =
      some (Call.rooted method ++ ":" ++ text) :=
  ⟨_, key?_carrying (Call.rooted method) field text⟩

end Scope

theorem Rules.Follows.scopes_eq {r : Rules} {s : RateLimitSettings} (h : r.Follows s) :
    r.scopes.map Prod.fst = s.scopes := by
  have hg : r.global.isSome = s.global.isSome := by
    simpa only [Option.isSome_map] using congrArg Option.isSome h.global
  have hv : r.services.map (·.stem) = s.services.map (·.stem) := by
    simpa only [map_map, Function.comp_def] using congrArg (map Prod.fst) h.services
  have hb : r.businessKeys.map (fun b => (b.method, b.field)) =
      s.businessKeys.map fun b => (Call.rooted b.method, b.field) := by
    simp only [BusinessKeySettings.rooted_method]
    simpa only [map_map, Function.comp_def] using congrArg (map fun b => (b.1, b.2.1)) h.businessKeys
  have hv' := congrArg (map fun stem => Scope.service stem ("service:" ++ stem)) hv
  have hb' := congrArg (map fun b => Scope.businessKey b.1 b.2) hb
  rw [map_map, map_map] at hv' hb'
  simp only [Rules.scopes, RateLimitSettings.scopes, map_append, map_map]
  refine congrArg₂ _ (congrArg₂ _ ?_ hv') hb'
  cases hr : r.global <;> cases hs : s.global <;> simp [hr, hs] at hg <;> rfl

namespace Rules

variable {s : RateLimitSettings} {r : Rules} {a : Admission}

-- A chain has a check for each rule. Of the checks for services those are ever made whose start is written with a slash
-- in front, and they are made for all methods that start so; the others are made for no call at all. A business key is
-- charged whether or not its method is written with a slash.
theorem applies_iff_rooted (hc : s.check = .ok r) (hb : r.build = .ok a) (side : Side) :
    (a.chain side).checks.map (·.scope) = (if s.reach.covers side then s.scopes else []) ∧
    (∀ v ∈ s.services, v.scope.Applies ↔ v.stem.toList.head? = some '/') ∧
    (∀ v ∈ s.services, v.stem.toList.head? = some '/' → ∀ rest payload,
      v.scope.key? (.make (v.stem ++ rest) payload []) = some ("service:" ++ v.stem)) ∧
    ∀ b ∈ s.businessKeys, ∀ text, ∃ payload,
      b.scope.key? (.make b.method payload []) = some (Call.rooted b.method ++ ":" ++ text) := by
  have hf := RateLimitSettings.follows_of_check hc
  have hs := RateLimitSettings.exists_check_iff.mp ⟨r, hc⟩
  obtain rfl := admission_of_build hb
  refine ⟨?_, fun v hv => Scope.applies_service_iff (hs.services v hv).left, fun v _ => Scope.key?_service_make,
    fun b _ => Scope.key?_businessKey_make b.method b.field⟩
  rw [admission_checks, hf.reach]
  split
  case isTrue  => rw [checks_scopes, hf.scopes_eq]
  case isFalse => rfl

-- A service and a method, both written without the slash in front.
def unrooted : RateLimitSettings :=
  { RateLimitSettings.default with
    services     := [⟨"UserService/", ⟨1000, 1⟩⟩, ⟨"/OrderService/", ⟨1000, 1⟩⟩]
    businessKeys := [⟨"UserService/GetById", "/user/id", ⟨1000, 1⟩⟩] }

theorem unrooted_build : ∃ r a, unrooted.check = .ok r ∧ r.build = .ok a ∧
    ∃ check ∈ a.server.checks, check.scope = .service "UserService/" "service:UserService/" :=
  ⟨_, _, rfl, rfl, _, mem_cons_self, rfl⟩

theorem applies_iff_rooted_unrooted : ∃ r a, unrooted.check = .ok r ∧ r.build = .ok a ∧
    a.server.checks.map (·.scope) = [.service "UserService/" "service:UserService/",
      .service "/OrderService/" "service:/OrderService/", .businessKey "/UserService/GetById" "/user/id"] ∧
    ¬(Scope.service "UserService/" "service:UserService/").Applies ∧
    (Scope.service "/OrderService/" "service:/OrderService/").Applies := by
  have ⟨r, a, hc, hb, _⟩ := unrooted_build
  have ⟨hs, hv, _⟩ := applies_iff_rooted hc hb .server
  have hu := hv ⟨"UserService/", ⟨1000, 1⟩⟩ mem_cons_self
  have ho := hv ⟨"/OrderService/", ⟨1000, 1⟩⟩ (mem_cons_of_mem _ mem_cons_self)
  exact ⟨r, a, hc, hb, hs, mt hu.mp (by decide), ho.mpr (by decide)⟩

theorem not_all_apply : ¬∀ (s : RateLimitSettings) (r : Rules) (a : Admission), s.check = .ok r → r.build = .ok a →
    ∀ side, ∀ check ∈ (a.chain side).checks, check.scope.Applies := by
  intro h
  have ⟨r, a, hc, hb, check, hm, hs⟩ := unrooted_build
  have ha := h unrooted r a hc hb .server check hm
  rw [hs, Scope.applies_service_iff (by decide)] at ha
  exact absurd ha (by decide)

end Rules

end Sluice
