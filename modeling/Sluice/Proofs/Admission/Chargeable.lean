import Mathlib
import Sluice.Admission

open List

namespace Sluice

namespace Json

-- The text that a value is counted under: strings as they are, numbers and truth values as they are written.
inductive Spells : Json → String → Prop
  | str (s : String)  : Spells (.str s) s
  | true              : Spells (.bool true) "true"
  | false             : Spells (.bool false) "false"
  | int (i : Int)     : Spells (.int i) (toString i)
  | float (f : Float) : Spells (.float f) (render (.float f))

theorem spells_iff {v : Json} {text : String} : Scope.chargeText? v = some text ↔ v.Spells text := by
  constructor
  case mp =>
    intro h
    cases v
    case bool b => cases b <;> cases h <;> constructor
    all_goals cases h <;> constructor
  case mpr =>
    intro h
    cases h <;> rfl

-- A value in which these tokens, as they are written in a pointer, lead to `v`.
def nest (v : Json) : List (List Char) → Json
  | []              => v
  | token :: tokens => .obj [(unescapeToken token, nest v tokens)]

theorem foldl_child?_nest (v : Json) (tokens : List (List Char)) :
    tokens.foldl (fun at? token => at?.bind (·.child? (unescapeToken token))) (some (nest v tokens)) = some v := by
  induction tokens
  case nil => rfl
  case cons token tokens hi =>
    have hc : (nest v (token :: tokens)).child? (unescapeToken token) = some (nest v tokens) := by
      simp [nest, child?, field?]
    rw [foldl_cons, Option.bind_some, hc, hi]

end Json

namespace Call

-- A call of a method with a value in a field.
def carrying (method name : String) (v : Json) : Call where
  method   := method
  payload  := if name.toList.head? = some '/' then .nest v (splitAtEach '/' name.toList.tail) else .obj [(name, v)]
  metadata := []

-- Whatever a field is called, a value can be put there.
theorem field?_carrying (method name : String) (v : Json) : (carrying method name v).field? name = some v := by
  rw [field?, carrying]
  split
  case isTrue h =>
    obtain ⟨cs, hc⟩ := head?_eq_some_iff.mp h
    simp only [Json.pointer?, hc, tail_cons, Json.foldl_child?_nest]
  case isFalse   => simp [Json.field?]

end Call

namespace Scope

-- A scope applies to a call and charges it to a key: every call, those whose method starts so, or those of one method
-- that have a value in a field.
inductive Charges : Scope → Call → String → Prop
  | everything : Charges (.everything key) call key
  | service (h : stem.toList <+: call.method.toList) : Charges (.service stem key) call key
  | businessKey (hm : call.method = method) (hv : call.field? field = some v) (ht : v.Spells text) :
    Charges (.businessKey method field) call (method ++ ":" ++ text)

variable {method field stem key text : String} {scope : Scope} {call : Call}

theorem key?_service : (service stem key).key? call = some key ↔ stem.toList <+: call.method.toList := by
  rw [← isPrefixOf_iff_prefix, key?]
  split <;> simp_all

theorem key?_businessKey : (businessKey method field).key? call = some key ↔
    call.method = method ∧ ∃ text, (call.field? field).bind chargeText? = some text ∧ key = method ++ ":" ++ text := by
  rw [key?]
  split
  case isTrue hm  => simp only [hm, true_and, Option.map_eq_some_iff, eq_comm (a := key)]
  case isFalse hm => simp [hm]

-- Every text can be charged to.
theorem key?_carrying (method field text : String) :
    (businessKey method field).key? (.carrying method field (.str text)) = some (method ++ ":" ++ text) :=
  key?_businessKey.mpr ⟨rfl, text, by rw [Call.field?_carrying]; rfl, rfl⟩

-- The key that is found for a call is the one that the scope charges it to.
theorem charges_iff : scope.key? call = some key ↔ scope.Charges call key := by
  constructor
  case mp =>
    intro h
    cases scope
    case everything k =>
      obtain rfl := Option.some.inj h
      exact .everything
    case service stem k =>
      obtain ⟨hs, hk⟩ := Option.ite_none_right_eq_some.mp h
      obtain rfl := Option.some.inj hk
      exact .service <| isPrefixOf_iff_prefix.mp hs
    case businessKey method field =>
      obtain ⟨hm, text, ht, rfl⟩ := key?_businessKey.mp h
      obtain ⟨v, hv, ht⟩ := Option.bind_eq_some_iff.mp ht
      exact .businessKey hm hv (Json.spells_iff.mp ht)
  case mpr =>
    intro h
    cases h
    case everything => rfl
    case service h  => exact key?_service.mpr h
    case businessKey ht hm hv =>
      exact key?_businessKey.mpr ⟨hm, _, by rw [hv, Option.bind_some, Json.spells_iff.mpr ht], rfl⟩

theorem not_charges_iff : scope.key? call = none ↔ ∀ key, ¬scope.Charges call key := by
  simp only [← charges_iff, Option.eq_none_iff_forall_ne_some, ne_eq]

end Scope

end Sluice
