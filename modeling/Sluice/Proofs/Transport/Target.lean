import Sluice.Proofs.Uri.Path
import Sluice.Transport

open List

namespace Sluice

-- The path of the node's own address without slashes at its end.
def Endpoint.base (node : Endpoint) : List Char :=
  node.target.path.rdropWhile (· = '/')

theorem Endpoint.base_isPrefix (node : Endpoint) : node.base <+: node.target.path := rdropWhile_prefix _ _

-- What a method is called once the slashes in front of it are gone.
def Call.bare (method : String) : List Char :=
  method.toList.dropWhile (· = '/')

namespace Transport

variable {node : Endpoint} {method other : String} {u : Uri}

theorem callUri_eq_parse (node : Endpoint) (method : String) : callUri node method =
    match PathAndQuery.parse (node.base ++ '/' :: Call.bare method) with
    | .ok target => .ok ⟨some node.scheme, some node.authority, target⟩
    | .error e => .error s!"invalid method path {quoted (String.ofList (Call.bare method))}: {e.message}" := rfl

theorem base_isPathChar (node : Endpoint) : node.base.all Uri.isPathChar := by
  have h := (Uri.parse_path node.parse_address).left
  exact all_eq_true.mpr fun c hc => all_eq_true.mp h c (node.base_isPrefix.mem hc)

theorem head_base (node : Endpoint) (name : List Char) : (node.base ++ '/' :: name).head? = some '/' := by
  have hp := node.base_isPrefix
  have hh := (Uri.parse_path node.parse_address).right rfl
  cases hb : node.base
  case nil        => rfl
  case cons c cs =>
    have ⟨t, ht⟩ := hb ▸ hp
    rw [← ht] at hh
    exact hh

theorem joined_isPathChar {name : List Char} (h : name.all Uri.isPathChar) :
    (node.base ++ '/' :: name).all Uri.isPathChar := by
  have hs : Uri.isPathChar '/' := by decide
  simpa [hs] using ⟨all_eq_true.mp (base_isPathChar node), all_eq_true.mp h⟩

-- A method of path characters lives below the node's own path, one slash apart, if that is not too long.
theorem callUri_eq (h : (Call.bare method).all Uri.isPathChar) :
    callUri node method =
      if Uri.lengthLimit < Utf8.size (node.base ++ '/' :: Call.bare method) then
        .error s!"invalid method path {quoted (String.ofList (Call.bare method))}: {UriFault.tooLong.message}"
      else .ok ⟨some node.scheme, some node.authority, ⟨node.base ++ '/' :: Call.bare method, none⟩⟩ := by
  have hu := PathAndQuery.parse_of_path (joined_isPathChar h) (head_base node _)
  rw [callUri_eq_parse, hu]
  by_cases hs : Uri.lengthLimit < Utf8.size (node.base ++ '/' :: Call.bare method)
  case pos => rw [if_pos hs, if_pos hs]
  case neg => rw [if_neg hs, if_neg hs]

-- A node tells two methods apart by their names alone.
theorem bare_eq_of_callUri_eq (h : (Call.bare method).all Uri.isPathChar) (h' : (Call.bare other).all Uri.isPathChar)
    (hu : callUri node method = .ok u) (hu' : callUri node other = .ok u) : Call.bare method = Call.bare other := by
  rw [callUri_eq h, ite_error_eq_ok] at hu
  rw [callUri_eq h', ite_error_eq_ok] at hu'
  have he := Except.ok.inj (hu.right.trans hu'.right.symm)
  simpa using he

end Transport

end Sluice
