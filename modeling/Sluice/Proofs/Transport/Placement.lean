import Sluice.Proofs.Admission.Spelling
import Sluice.Proofs.Endpoint.Validity

open List

namespace Sluice

-- `u` is where a path leads below the URI `own`: the path of `own` without slashes at its end goes before it, with one
-- slash in between.
structure Uri.Leads (own : Uri) (path : List Char) (u : Uri) : Prop where
  scheme    : u.scheme = own.scheme
  authority : u.authority = own.authority
  path      : u.target.path = own.target.path.rdropWhile (· = '/') ++ '/' :: path.dropWhile (· = '/')
  query     : u.target.query = none

-- A path that is more than one slash is read as nothing but a path.
theorem Uri.parse_of_path {cs : List Char} (h : cs.all isPathChar) (hs : cs.head? = some '/') (hne : cs ≠ ['/'])
    (hl : Utf8.size cs ≤ lengthLimit) : parse cs = .ok ⟨none, none, ⟨cs, none⟩⟩ := by
  have ht : PathAndQuery.parse cs = .ok ⟨cs, none⟩ := by
    rw [PathAndQuery.parse_of_path h hs, if_neg (not_lt.mpr hl)]
  obtain ⟨cs, rfl⟩ := head?_eq_some_iff.mp hs
  cases cs
  case nil  => exact absurd rfl hne
  case cons =>
    simp only [parse, throw_eq_error, error_bind, if_neg (not_lt.mpr hl), ht]
    rfl

namespace Call

theorem bare_rooted (path : String) : bare (rooted path) = bare path := by
  rw [bare, bare, rooted_toList]
  split
  case isTrue  => rfl
  case isFalse => rw [dropWhile_cons_of_pos (by decide)]

theorem bare_ne_nil {path : String} (h : ¬path.toList.all (· = '/')) : bare path ≠ [] := by
  intro hn
  apply h
  simpa [bare, dropWhile_eq_nil_iff] using hn

end Call

namespace Transport

variable {address : String} {weight : Int} {node : Endpoint} {req : Request} {limit : Nat} {call : Call}

theorem request_eq_ok_iff {out : Outgoing} : request node call = .ok out ↔ callUri node call.method = .ok out.target ∧
    out = ⟨out.target, outgoingHeaders call.metadata, Bytes.ofString call.payload.render⟩ := by
  cases out
  rw [request]
  cases callUri node call.method <;> simp
  grind

theorem bare_isPathChar (ht : req.FromTarget) : (Call.bare req.path).all Uri.isPathChar :=
  Call.bare_rooted req.path ▸ Call.bare_isPathChar ht.isPathChar

-- The name of the method of a call that came in by a request is the path of the request.
theorem callUri_of_readCall (ht : req.FromTarget) (hc : req.readCall limit = .ok call) {u : Uri} :
    callUri node call.method = .ok u ↔ Utf8.size (node.base ++ '/' :: Call.bare req.path) ≤ Uri.lengthLimit ∧
      u = ⟨some node.scheme, some node.authority, ⟨node.base ++ '/' :: Call.bare req.path, none⟩⟩ := by
  have hb : Call.bare call.method = Call.bare req.path := by
    rw [Request.method_of_readCall hc, Call.bare_rooted]
  rw [callUri_eq (hb ▸ bare_isPathChar ht), hb, ite_error_eq_ok, not_lt, Except.ok.injEq, eq_comm (a := u)]

-- A call that came in by a request can be sent to every node, whatever the path of the request is, unless the path
-- would become too long. What is sent goes to the address of the node, and its path begins with that of the address.
-- It reads as a path and as nothing else.
theorem request_leads_below (hn : Endpoint.make address weight = .ok node) (ht : req.FromTarget)
    (hc : req.readCall limit = .ok call) :
    ∃ own, Uri.parse address.toList = .ok own ∧
      ((∃ out, request node call = .ok out) ↔
        Utf8.size (own.target.path.rdropWhile (· = '/') ++ '/' :: req.path.toList.dropWhile (· = '/')) < 65535) ∧
      ∀ out, request node call = .ok out →
        callUri node call.method = .ok out.target ∧ own.Leads req.path.toList out.target ∧
        Uri.parse out.target.target.path = .ok ⟨none, none, out.target.target⟩ ∧
        ∀ connection, dispatch connection node call = outcome node (connection node out) := by
  refine ⟨_, Endpoint.make_address hn ▸ node.parse_address, ?_, fun out ho => ?_⟩
  case refine_1 =>
    have hl : Uri.lengthLimit < 65535 := by decide
    simp only [request_eq_ok_iff, callUri_of_readCall ht hc]
    constructor
    case mp  => exact fun ⟨out, ⟨hs, _⟩, _⟩ => hs.trans_lt hl
    case mpr => exact fun hs => ⟨⟨_, _, _⟩, ⟨Nat.le_of_lt_succ hs, rfl⟩, rfl⟩
  case refine_2 =>
    have ⟨hu, _⟩ := request_eq_ok_iff.mp ho
    have ⟨hs, he⟩ := (callUri_of_readCall ht hc).mp hu
    refine ⟨hu, he ▸ ⟨rfl, rfl, rfl, rfl⟩, ?_, fun connection => by rw [dispatch, ho]⟩
    have hne : node.base ++ '/' :: Call.bare req.path ≠ ['/'] := by
      have hb := Call.bare_ne_nil (Request.readCall_eq_ok.mp hc).left
      cases node.base <;> simp [hb]
    rw [he]
    exact Uri.parse_of_path (joined_isPathChar (bare_isPathChar ht)) (head_base node _) hne hs

-- A node whose address has a path with a slash at its end.
def prefixedNode : Endpoint :=
  ⟨"http://node:80/rpc/", 5, "http".toList, "node:80".toList, ⟨"/rpc/".toList, none⟩, by decide, by decide, by decide⟩

theorem request_leads_below_prefixed :
    Endpoint.make "http://node:80/rpc/" 5 = .ok prefixedNode ∧ (Request.getUser "//UserService/GetById").FromTarget ∧
      (Request.getUser "//UserService/GetById").readCall 1024 = .ok (Request.getUserCall "//UserService/GetById") ∧
      ∃ out, request prefixedNode (Request.getUserCall "//UserService/GetById") = .ok out ∧
        out.target.authority = some "node:80".toList ∧ out.target.target.path = "/rpc/UserService/GetById".toList := by
  have hn : Endpoint.make "http://node:80/rpc/" 5 = .ok prefixedNode := by rfl
  have ⟨_, ht⟩ := Request.getUser_fromTarget
  have ⟨_, hc⟩ := Request.readCall_getUser
  have ⟨own, ho, hs, hp⟩ := request_leads_below hn ht hc
  cases (prefixedNode.parse_address : Uri.parse "http://node:80/rpc/".toList = _).symm.trans ho
  have ⟨out, hr⟩ := hs.mpr (by decide)
  have ⟨_, hl, _⟩ := hp out hr
  exact ⟨hn, ht, hc, out, hr, hl.authority, hl.path⟩

end Transport

end Sluice
