import Sluice.Proofs.Uri.Path
import Sluice.Gateway

open List

namespace Sluice

namespace Call

theorem rooted_toList (path : String) :
    (rooted path).toList = if path.toList.head? = some '/' then path.toList else '/' :: path.toList := by
  simp only [rooted]
  split <;> simp

theorem rooted_isPathChar {path : String} (h : path.toList.all Uri.isPathChar) :
    (rooted path).toList.all Uri.isPathChar := by
  have hs : Uri.isPathChar '/' := by decide
  rw [rooted_toList]
  split <;> simp_all

end Call

namespace Request

variable {req : Request} {limit : Nat} {call : Call}

-- The path of a request is that of the target it was sent to.
def FromTarget (req : Request) : Prop :=
  ∃ cs u, Uri.parse cs = .ok u ∧ req.path = String.ofList u.target.path

theorem FromTarget.isPathChar (t : req.FromTarget) : req.path.toList.all Uri.isPathChar := by
  have ⟨_, _, hu, hp⟩ := t
  rw [hp, String.toList_ofList]
  exact (Uri.parse_path hu).left

theorem readCall_eq_ok : req.readCall limit = .ok call ↔
    ¬ req.path.toList.all (· = '/') ∧ ∃ body payload, readBody limit req.frames = .ok body ∧
      readPayload body = .ok payload ∧ .make req.path payload req.headers = call := by
  simp only [readCall, bind_eq_ok, throw_eq_error, error_bind, ite_error_eq_ok, pure, Except.pure, Except.ok.injEq,
    exists_and_left]

theorem method_of_readCall (h : req.readCall limit = .ok call) : call.method = Call.rooted req.path := by
  have ⟨_, _, _, _, _, he⟩ := readCall_eq_ok.mp h
  rw [← he, Call.make]

theorem metadata_of_readCall (h : req.readCall limit = .ok call) : call.metadata = req.headers := by
  have ⟨_, _, _, _, _, he⟩ := readCall_eq_ok.mp h
  rw [← he, Call.make]

theorem readCall_of_accept (h : req.accept limit = .ok call) : req.readCall limit = .ok call := by
  simp only [accept, throw_eq_error, error_bind, ite_error_eq_ok] at h
  exact h.right.right

end Request

end Sluice
