import Sluice.Proofs.Admission.Chargeable
import Sluice.Proofs.Rules.Checked
import Sluice.Proofs.Rules.Sides
import Sluice.Redis.Limiter

open List

namespace Sluice

-- The method `long` goes on behind `short` and a colon.
def Continues (long short : String) : Prop :=
  (short ++ ":").toList <+: long.toList

-- A key can be read as the key of two methods only if one of them goes on where the other one ends.
theorem continues_of_key_eq {m₁ m₂ t₁ t₂ : String} (h : m₁ ++ ":" ++ t₁ = m₂ ++ ":" ++ t₂) (hm : m₁ ≠ m₂) :
    Continues m₁ m₂ ∨ Continues m₂ m₁ := by
  have hl : m₁.toList ++ ':' :: t₁.toList = m₂.toList ++ ':' :: t₂.toList := by
    simpa using congrArg String.toList h
  rw [append_eq_append_iff] at hl
  have hne : ∀ {cs : List Char}, m₁.toList = m₂.toList ++ cs ∨ m₂.toList = m₁.toList ++ cs → cs ≠ [] := by
    rintro _ hc rfl
    exact hm (String.toList_injective (by simpa [eq_comm] using hc))
  cases hl
  case inl hl =>
    obtain ⟨_ | ⟨c, cs⟩, h₂, hc⟩ := hl
    case nil  => exact absurd rfl (hne (.inr h₂))
    case cons =>
      obtain ⟨rfl, _⟩ : ':' = c ∧ _ := by simpa using hc
      exact .inr ⟨cs, by simp [h₂]⟩
  case inr hl =>
    obtain ⟨_ | ⟨c, cs⟩, h₁, hc⟩ := hl
    case nil  => exact absurd rfl (hne (.inl h₁))
    case cons =>
      obtain ⟨rfl, _⟩ : ':' = c ∧ _ := by simpa using hc
      exact .inl ⟨cs, by simp [h₁]⟩

namespace Scope

variable {s₁ s₂ : Scope} {m₁ m₂ f₁ f₂ stem₁ stem₂ : String}

-- No call of the one is charged to the key of a call of the other.
def Apart (s₁ s₂ : Scope) : Prop :=
  ∀ call₁ call₂ k₁ k₂, s₁.key? call₁ = some k₁ → s₂.key? call₂ = some k₂ → k₁ ≠ k₂

-- Both are about business keys, of methods of which one goes on where the other one ends.
def Clashes : Scope → Scope → Prop
  | businessKey m₁ _, businessKey m₂ _ => Continues m₁ m₂ ∨ Continues m₂ m₁
  | _, _                               => False

theorem Apart.symm (h : s₁.Apart s₂) : s₂.Apart s₁ :=
  fun _ _ _ _ h₂ h₁ => (h _ _ _ _ h₁ h₂).symm

-- The character that all keys start with.
def initial (s : Scope) (c : Char) : Prop :=
  ∀ call k, s.key? call = some k → k.toList.head? = some c

theorem initial.apart {c₁ c₂ : Char} (h₁ : s₁.initial c₁) (h₂ : s₂.initial c₂) (hc : c₁ ≠ c₂) : s₁.Apart s₂ := by
  rintro call₁ call₂ k _ hk₁ hk₂ rfl
  exact hc (Option.some.inj ((h₁ call₁ k hk₁).symm.trans (h₂ call₂ k hk₂)))

theorem everything_initial : (everything "global").initial 'g' := by
  intro call k h
  cases h
  decide

theorem key?_service_eq {stem key k : String} {call : Call} (h : (service stem key).key? call = some k) : k = key := by
  rw [key?] at h
  split at h <;> simp_all

theorem service_initial (stem : String) : (service stem ("service:" ++ stem)).initial 's' := by
  intro call k h
  rw [key?_service_eq h]
  simp

theorem businessKey_initial {method : String} (h : method.toList.head? = some '/') (field : String) :
    (businessKey method field).initial '/' := by
  intro call k hk
  obtain ⟨_, text, _, rfl⟩ := key?_businessKey.mp hk
  obtain ⟨cs, hc⟩ := head?_eq_some_iff.mp h
  simp [hc]

theorem service_apart (h : stem₁ ≠ stem₂) :
    (service stem₁ ("service:" ++ stem₁)).Apart (service stem₂ ("service:" ++ stem₂)) := by
  intro _ _ _ _ h₁ h₂
  rw [key?_service_eq h₁, key?_service_eq h₂]
  exact fun he => h (by simpa using he)

-- Where one method goes on behind the other and a colon, what is missing can stand in front of the text.
theorem Clashes.not_apart (h : (businessKey m₁ f₁).Clashes (businessKey m₂ f₂)) :
    ¬ (businessKey m₁ f₁).Apart (businessKey m₂ f₂) := by
  suffices hs : ∀ {m₁ m₂ f₁ f₂}, Continues m₁ m₂ → ¬ (businessKey m₁ f₁).Apart (businessKey m₂ f₂) by
    cases h
    case inl h => exact hs h
    case inr h => exact fun ha => hs h ha.symm
  intro m₁ m₂ f₁ f₂ ⟨rest, hr⟩ ha
  refine ha _ _ _ _ (key?_carrying m₁ f₁ "") (key?_carrying m₂ f₂ (String.ofList rest ++ ":")) ?_
  apply String.toList_injective
  simp [← hr]

theorem businessKey_apart_iff (hm : m₁ ≠ m₂) :
    (businessKey m₁ f₁).Apart (businessKey m₂ f₂) ↔ ¬ (businessKey m₁ f₁).Clashes (businessKey m₂ f₂) := by
  refine ⟨fun ha hc => hc.not_apart ha, fun hc => ?_⟩
  rintro call₁ call₂ _ _ h₁ h₂ he
  obtain ⟨_, _, _, rfl⟩ := key?_businessKey.mp h₁
  obtain ⟨_, _, _, rfl⟩ := key?_businessKey.mp h₂
  exact hc (continues_of_key_eq he hm)

end Scope

namespace Check

variable {c₁ c₂ : Check Limiter}

-- What a shared store counts for a call of the one is never counted for a call of the other.
def Apart (c₁ c₂ : Check Limiter) : Prop :=
  ∀ call₁ call₂ k₁ k₂, c₁.scope.key? call₁ = some k₁ → c₂.scope.key? call₂ = some k₂ →
    (Redis.command c₁.limiter k₁).key ≠ (Redis.command c₂.limiter k₂).key

def Clashes (c₁ c₂ : Check Limiter) : Prop :=
  c₁.limiter.keyStem = c₂.limiter.keyStem ∧ c₁.scope.Clashes c₂.scope

-- Checks of one side keep as far apart as their scopes do.
theorem apart_iff_scope (h : c₁.limiter.keyStem = c₂.limiter.keyStem) : c₁.Apart c₂ ↔ c₁.scope.Apart c₂.scope := by
  simp only [Apart, Scope.Apart, Redis.command, Limiter.sharedKey, h, ne_eq, String.append_right_inj]

-- Whatever stands in front, keys of one side and keys of the other side differ behind it.
theorem keyStem_ne (stem k₁ k₂ : String) :
    stem ++ Side.server.name ++ ":" ++ k₁ ≠ stem ++ Side.client.name ++ ":" ++ k₂ := by
  simp only [String.append_assoc, ne_eq, String.append_right_inj]
  exact fun he => absurd (congrArg (·.toList.head?) he) (by simp [Side.name])

theorem apart_of_sides {stem : String} (h₁ : c₁.limiter.keyStem = stem ++ Side.server.name ++ ":")
    (h₂ : c₂.limiter.keyStem = stem ++ Side.client.name ++ ":") : c₁.Apart c₂ ∧ ¬ c₁.Clashes c₂ := by
  constructor
  case left =>
    intro _ _ k₁ k₂ _ _
    simpa only [Redis.command, Limiter.sharedKey, h₁, h₂] using keyStem_ne stem k₁ k₂
  case right =>
    rintro ⟨hk, _⟩
    rw [h₁, h₂] at hk
    exact keyStem_ne stem "" "" (congrArg (· ++ "") hk)

end Check

namespace Rules

variable {r : Rules} {side : String} {first : Nat}

-- Of the rules of one side, no two that are of different kinds can share a key, nor can two services.
theorem scopes_apart (h : r.Distinct) :
    (r.scopes.map Prod.fst).Pairwise fun s₁ s₂ => s₁.Apart s₂ ↔ ¬ s₁.Clashes s₂ := by
  simp only [scopes, map_append, map_map, pairwise_append, pairwise_map, mem_append, mem_map, Function.comp_apply]
  refine ⟨⟨?global, ?services, ?across⟩, ?businessKeys, ?beyond⟩
  case global       => cases r.global <;> simp
  case services     => exact (pairwise_map.mp h.stems).imp fun hs => iff_of_true (Scope.service_apart hs) id
  case businessKeys => exact (pairwise_map.mp h.methods).imp Scope.businessKey_apart_iff
  case across =>
    rintro _ ⟨_, _, rfl⟩ _ ⟨s, _, rfl⟩
    exact iff_of_true (Scope.everything_initial.apart (Scope.service_initial s.stem) (by decide)) id
  case beyond =>
    rintro _ hs _ ⟨b, hb, rfl⟩
    have hi := Scope.businessKey_initial (h.rooted b hb) b.field
    obtain ⟨_, _, rfl⟩ | ⟨s, _, rfl⟩ := hs
    · exact iff_of_true (Scope.everything_initial.apart hi (by decide)) id
    · exact iff_of_true ((Scope.service_initial s.stem).apart hi (by decide)) id

theorem side_apart (h : r.Distinct) (side : Side) :
    (r.admission.chain side).checks.Pairwise fun c₁ c₂ => c₁.Apart c₂ ↔ ¬ c₁.Clashes c₂ := by
  have hp : (r.admission.chain side).checks.Pairwise fun c₁ c₂ =>
      c₁.scope.Apart c₂.scope ↔ ¬ c₁.scope.Clashes c₂.scope := by
    rw [admission_checks]
    split
    case isTrue  => exact pairwise_map.mp (checks_scopes r side ▸ scopes_apart h)
    case isFalse => exact .nil
  refine hp.imp_of_mem fun h₁ h₂ hs => ?_
  have hk := (keyStem_eq side h₁).trans (keyStem_eq side h₂).symm
  rw [Check.apart_iff_scope hk, hs, Check.Clashes, and_iff_right hk]

-- Of all the checks of both sides, two can count under one key in a shared store only if both are about business
-- keys on the same side, of methods of which one goes on behind the other and a colon; and these can. The calls
-- that one such check counts under one key have the same text in its field.
theorem shared_key_iff_clashes {s : RateLimitSettings} {a : Admission} (hc : s.check = .ok r) (hb : r.build = .ok a) :
    ((a.server.checks ++ a.client.checks).Pairwise fun c₁ c₂ => c₁.Apart c₂ ↔ ¬ c₁.Clashes c₂) ∧
    ∀ c ∈ a.server.checks ++ a.client.checks, ∀ method field, c.scope = .businessKey method field →
      ∀ call₁ call₂ k₁ k₂, c.scope.key? call₁ = some k₁ → c.scope.key? call₂ = some k₂ →
        (Redis.command c.limiter k₁).key = (Redis.command c.limiter k₂).key →
        ∃ text, (call₁.field? field).bind Scope.chargeText? = some text ∧
          (call₂.field? field).bind Scope.chargeText? = some text := by
  have hd := distinct_of_check hc
  obtain rfl := admission_of_build hb
  constructor
  case left =>
    refine pairwise_append.mpr ⟨side_apart hd .server, side_apart hd .client, fun c₁ h₁ c₂ h₂ => ?_⟩
    have ⟨ha, hn⟩ := Check.apart_of_sides (keyStem_eq .server h₁) (keyStem_eq .client h₂)
    exact iff_of_true ha hn
  case right =>
    intro c _ method field hs call₁ call₂ k₁ k₂ h₁ h₂ hk
    rw [hs, Scope.key?_businessKey] at h₁ h₂
    obtain ⟨_, text₁, ht₁, rfl⟩ := h₁
    obtain ⟨_, text₂, ht₂, rfl⟩ := h₂
    simp only [Redis.command, Limiter.sharedKey, String.append_right_inj] at hk
    exact ⟨text₁, ht₁, hk ▸ ht₂⟩

-- Two methods of one service, of which one goes on behind the other and a colon.
def readers : RateLimitSettings where
  store        := .redis
  redisUrl     := some "redis+unix:///run/redis.sock"
  keyStem      := "turnstile:"
  onError      := .failClosed
  reach        := .both
  global       := some ⟨1000, 5⟩
  services     := [⟨"/UserService/", ⟨1000, 3⟩⟩]
  businessKeys := [⟨"UserService/Get", "id", ⟨1000, 1⟩⟩, ⟨"/UserService/Get:ById", "id", ⟨1000, 1⟩⟩]

theorem readers_build : ∃ r a, readers.check = .ok r ∧ r.build = .ok a ∧
    ∃ c₁ c₂, [c₁, c₂] <+ a.server.checks ++ a.client.checks ∧ c₁.limiter.keyStem = c₂.limiter.keyStem ∧
      c₁.scope = .businessKey "/UserService/Get" "id" ∧ c₂.scope = .businessKey "/UserService/Get:ById" "id" :=
  ⟨_, _, rfl, rfl, _, _, .cons _ (.cons _ (.cons_cons _ (.cons_cons _ (nil_sublist _)))), rfl, rfl, rfl⟩

theorem shared_key_iff_clashes_readers : ∃ r a, readers.check = .ok r ∧ r.build = .ok a ∧
    ∃ c₁ c₂, [c₁, c₂] <+ a.server.checks ++ a.client.checks ∧ ¬ c₁.Apart c₂ := by
  have ⟨r, a, hc, hb, c₁, c₂, hs, hk, h₁, h₂⟩ := readers_build
  have hp := (shared_key_iff_clashes hc hb).left.sublist hs
  refine ⟨r, a, hc, hb, c₁, c₂, hs, ?_⟩
  rw [pairwise_pair.mp hp, not_not, Check.Clashes, h₁, h₂]
  exact ⟨hk, .inr ⟨"ById".toList, by decide⟩⟩

theorem not_all_apart : ¬ ∀ (s : RateLimitSettings) (r : Rules) (a : Admission), s.store = .redis → s.check = .ok r →
    r.build = .ok a → (a.server.checks ++ a.client.checks).Pairwise Check.Apart := by
  intro h
  have ⟨r, a, hc, hb, c₁, c₂, hs, hk, h₁, h₂⟩ := readers_build
  have ha := pairwise_pair.mp ((h readers r a rfl hc hb).sublist hs)
  refine ha (.make "/UserService/Get" (.obj [("id", .str "ById:7")]) [])
    (.make "/UserService/Get:ById" (.obj [("id", .str "7")]) [])
    "/UserService/Get:ById:7" "/UserService/Get:ById:7" ?_ ?_ ?_
  · rw [h₁]
    decide
  · rw [h₂]
    decide
  · rw [Redis.command, Redis.command, Limiter.sharedKey, Limiter.sharedKey, hk]

end Rules

end Sluice
