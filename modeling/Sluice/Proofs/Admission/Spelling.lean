import Sluice.Proofs.Admission.Chargeable
import Sluice.Proofs.Gateway.Accepted
import Sluice.Proofs.Transport.Target

open List

namespace Sluice

namespace Call

variable {c c₁ c₂ : Call}

-- The number of slashes that the method is spelled with in front.
def slashes (c : Call) : Nat := (c.method.toList.takeWhile (· = '/')).length

theorem method_toList (c : Call) : c.method.toList = replicate c.slashes '/' ++ bare c.method := by
  have hr : c.method.toList.takeWhile (· = '/') = replicate c.slashes '/' :=
    eq_replicate_iff.mpr ⟨rfl, fun x hx => by simpa using mem_takeWhile_imp hx⟩
  rw [← hr, bare, takeWhile_append_dropWhile]

theorem method_eq (hb : bare c₁.method = bare c₂.method) (hs : c₁.slashes = c₂.slashes) : c₁.method = c₂.method := by
  apply String.toList_injective
  rw [method_toList, method_toList, hb, hs]

theorem slashes_congr (h : c₁.method = c₂.method) : c₁.slashes = c₂.slashes := by
  rw [slashes, slashes, h]

-- A text that has more in it than slashes says how many slashes it has in front.
theorem slashes_eq_of_isPrefix {stem : List Char} (hp : stem <+: c.method.toList) (hs : ∃ x ∈ stem, x ≠ '/') :
    c.slashes = (stem.takeWhile (· = '/')).length := by
  have ⟨rest, hr⟩ := hp
  have hn : (stem.takeWhile (· = '/')).length ≠ stem.length := fun he => by
    have ⟨x, hx, hne⟩ := hs
    have hp : stem.takeWhile (· = '/') <+: stem := takeWhile_prefix _
    rw [← hp.eq_of_length he] at hx
    exact hne (by simpa using mem_takeWhile_imp hx)
  rw [slashes, ← hr, takeWhile_append, if_neg hn]

theorem bare_isPathChar {path : String} (h : path.toList.all Uri.isPathChar) :
    (bare (rooted path)).all Uri.isPathChar :=
  all_eq_true.mpr fun x hx =>
    all_eq_true.mp (rooted_isPathChar h) x ((dropWhile_suffix _).mem hx)

end Call

namespace Scope

variable {c₁ c₂ : Call}

theorem key?_congr (hm : c₁.method = c₂.method) (hp : c₁.payload = c₂.payload) (scope : Scope) :
    scope.key? c₁ = scope.key? c₂ := by
  cases scope <;> simp [key?, Call.field?, hm, hp]

-- A service may be as narrow as one method.
theorem method_eq_of_key?_eq (h : ∀ scope : Scope, scope.key? c₁ = scope.key? c₂) : c₁.method = c₂.method := by
  have hp₁ : c₁.method.toList <+: c₂.method.toList :=
    key?_service.mp (h (.service c₁.method "") ▸ key?_service.mpr prefix_rfl)
  have hp₂ : c₂.method.toList <+: c₁.method.toList :=
    key?_service.mp ((h (.service c₂.method "")).symm ▸ key?_service.mpr prefix_rfl)
  exact String.toList_injective (hp₁.eq_of_length (le_antisymm hp₁.length_le hp₂.length_le))

-- The check is about a method or a service that has a name.
def Names : Scope → Prop
  | everything _    => False
  | service stem _  => ∃ x ∈ stem.toList, x ≠ '/'
  | businessKey _ _ => True

theorem Names.slashes_eq {scope : Scope} (hn : scope.Names) (h₁ : scope.key? c₁ ≠ none) (h₂ : scope.key? c₂ ≠ none) :
    c₁.slashes = c₂.slashes := by
  cases scope <;> simp only [key?, ne_eq, ite_eq_right_iff, reduceCtorEq, imp_false, not_not] at h₁ h₂
  case everything => exact hn.elim
  case service stem _ =>
    have s₁ := isPrefixOf_iff_prefix.mp h₁
    have s₂ := isPrefixOf_iff_prefix.mp h₂
    rw [Call.slashes_eq_of_isPrefix s₁ hn, Call.slashes_eq_of_isPrefix s₂ hn]
  case businessKey method _ =>
    have m₁ := (Classical.not_imp.mp h₁).left
    have m₂ := (Classical.not_imp.mp h₂).left
    exact Call.slashes_congr (m₁.trans m₂.symm)

end Scope

namespace Request

variable {r₁ r₂ : Request} {c₁ c₂ : Call} {node : Endpoint} {u : Uri} {limit : Nat}

-- A node does not see with how many slashes a method was spelled in front, but checks do: a check that
-- has a name in it charges only one of two spellings.
theorem charged_alike_iff (t₁ : r₁.FromTarget) (t₂ : r₂.FromTarget) (h₁ : r₁.readCall limit = .ok c₁)
    (h₂ : r₂.readCall limit = .ok c₂) (hp : c₁.payload = c₂.payload) (u₁ : Transport.callUri node c₁.method = .ok u)
    (u₂ : Transport.callUri node c₂.method = .ok u) :
    ((∀ scope : Scope, scope.key? c₁ = scope.key? c₂) ↔ c₁.slashes = c₂.slashes) ∧
    (c₁.slashes ≠ c₂.slashes → ∀ scope : Scope, scope.Names → scope.key? c₁ = none ∨ scope.key? c₂ = none) := by
  refine ⟨⟨fun h => Call.slashes_congr (Scope.method_eq_of_key?_eq h), fun hs => ?_⟩, fun hs scope hn => ?_⟩
  case refine_1 =>
    have hb : Call.bare c₁.method = Call.bare c₂.method := by
      have b₁ := Call.bare_isPathChar t₁.isPathChar
      have b₂ := Call.bare_isPathChar t₂.isPathChar
      rw [← method_of_readCall h₁] at b₁
      rw [← method_of_readCall h₂] at b₂
      exact Transport.bare_eq_of_callUri_eq b₁ b₂ u₁ u₂
    exact Scope.key?_congr (Call.method_eq hb hs) hp
  case refine_2 =>
    by_contra hc
    push Not at hc
    exact hs (hn.slashes_eq hc.left hc.right)

def getUser (path : String) : Request :=
  { method := "POST", path, headers := [], frames := [] }

def getUserTarget : Uri :=
  ⟨some "http".toList, some "n:1".toList, ⟨"/UserService/GetById".toList, none⟩⟩

def plainNode : Endpoint :=
  ⟨"http://n:1", 6, "http".toList, "n:1".toList, ⟨['/'], none⟩, by decide, by decide, by decide⟩

def getUserCall (method : String) : Call :=
  { method, payload := .null, metadata := [] }

theorem getUser_fromTarget :
    (getUser "/UserService/GetById").FromTarget ∧ (getUser "//UserService/GetById").FromTarget :=
  ⟨⟨"/UserService/GetById".toList, ⟨none, none, ⟨"/UserService/GetById".toList, none⟩⟩, by decide, by decide⟩,
    ⟨"//UserService/GetById".toList, ⟨none, none, ⟨"//UserService/GetById".toList, none⟩⟩, by decide, by decide⟩⟩

theorem readCall_getUser :
    (getUser "/UserService/GetById").readCall 1024 = .ok (getUserCall "/UserService/GetById") ∧
      (getUser "//UserService/GetById").readCall 1024 = .ok (getUserCall "//UserService/GetById") :=
  ⟨by rfl, by rfl⟩

theorem callUri_getUser :
    Transport.callUri plainNode "/UserService/GetById" = .ok getUserTarget ∧
      Transport.callUri plainNode "//UserService/GetById" = .ok getUserTarget :=
  ⟨by decide, by rfl⟩

theorem charged_alike_iff_getUser :
    (getUser "/UserService/GetById").FromTarget ∧ (getUser "//UserService/GetById").FromTarget ∧
      (getUserCall "/UserService/GetById").slashes ≠ (getUserCall "//UserService/GetById").slashes ∧
      ¬ ∀ scope : Scope, scope.key? (getUserCall "/UserService/GetById") =
        scope.key? (getUserCall "//UserService/GetById") := by
  have ⟨t₁, t₂⟩ := getUser_fromTarget
  have ⟨h₁, h₂⟩ := readCall_getUser
  have ⟨u₁, u₂⟩ := callUri_getUser
  have hs : (getUserCall "/UserService/GetById").slashes ≠ (getUserCall "//UserService/GetById").slashes := by decide
  have hc := charged_alike_iff t₁ t₂ h₁ h₂ (Eq.refl Json.null) u₁ u₂
  exact ⟨t₁, t₂, hs, fun h => hs (hc.left.mp h)⟩

theorem not_charged_alike :
    ¬ ∀ (node : Endpoint) (r₁ r₂ : Request) (limit : Nat) (c₁ c₂ : Call) (u : Uri), r₁.FromTarget → r₂.FromTarget →
      r₁.readCall limit = .ok c₁ → r₂.readCall limit = .ok c₂ → c₁.payload = c₂.payload →
      Transport.callUri node c₁.method = .ok u → Transport.callUri node c₂.method = .ok u →
      ∀ scope : Scope, scope.key? c₁ = scope.key? c₂ := by
  intro h
  have ⟨t₁, t₂⟩ := getUser_fromTarget
  have ⟨h₁, h₂⟩ := readCall_getUser
  have ⟨u₁, u₂⟩ := callUri_getUser
  have hk := h plainNode _ _ 1024 _ _ getUserTarget t₁ t₂ h₁ h₂ (Eq.refl Json.null) u₁ u₂
    (.service "/UserService" "UserService")
  revert hk
  decide

end Request

end Sluice
