import Sluice.Proofs.Except
import Sluice.Uri

open List

namespace Sluice

namespace Uri

variable {c : Char} {cs : List Char} {u : Uri}

theorem isPathChar_ne (h : isPathChar c) : c ≠ '?' ∧ c ≠ '#' := by
  constructor <;> rintro rfl <;> revert h <;> decide

theorem isDelimiter_iff : isDelimiter c ↔ c = '/' ∨ c = '?' ∨ c = '#' := by
  simp [isDelimiter, or_assoc]

end Uri

namespace PathAndQuery

open Uri

variable {cs : List Char} {t : PathAndQuery}

theorem parse_nil : parse [] = .ok { path := ['/'], query := none } := by
  decide

theorem parse_cons (c : Char) (cs : List Char) : parse (c :: cs) =
    if lengthLimit < Utf8.size (c :: cs) then .error .tooLong
    else if !isDelimiter c then .error .noLeadingSlash
    else
      let shown := beforeFragment (c :: cs)
      let path := shown.takeWhile (· ≠ '?')
      let query := (shown.dropWhile (· ≠ '?')).tail?
      if !path.all isPathChar then .error .invalidChar
      else if !(query.getD []).all isQueryChar then .error .invalidChar
      else .ok { path := if path.isEmpty then ['/'] else path, query } := by
  simp only [parse, bind, Except.bind, throw, throwThe, MonadExceptOf.throw, pure, Except.pure]

theorem parse_path (h : parse cs = .ok t) : t.path.all isPathChar ∧ t.path.head? = some '/' := by
  cases cs
  case nil => rw [parse_nil] at h; cases h; decide
  case cons c cs =>
    simp only [parse_cons, ite_error_eq_ok, Bool.not_eq_true', Bool.not_eq_false] at h
    have ⟨_, hd, hp, _, h⟩ := h
    cases h
    by_cases he : ((beforeFragment (c :: cs)).takeWhile (· ≠ '?')).isEmpty
    case pos => simp only [he, if_true]; decide
    case neg =>
      simp only [he, if_false, Bool.false_eq_true]
      refine ⟨hp, ?_⟩
      have hc : c = '/' := by
        rw [isDelimiter_iff] at hd
        revert he
        obtain rfl | rfl | rfl := hd <;> simp [beforeFragment]
      subst hc
      simp [beforeFragment]

-- A text that has nothing but a path in it.
theorem parse_of_path (h : cs.all isPathChar) (hs : cs.head? = some '/') :
    parse cs = if lengthLimit < Utf8.size cs then .error .tooLong else .ok { path := cs, query := none } := by
  obtain ⟨cs, rfl⟩ := head?_eq_some_iff.mp hs
  have hne : ∀ x ∈ '/' :: cs, x ≠ '?' ∧ x ≠ '#' := fun x hx => isPathChar_ne (all_eq_true.mp h x hx)
  have hf : beforeFragment ('/' :: cs) = '/' :: cs :=
    takeWhile_eq_self_iff.mpr fun x hx => decide_eq_true (hne x hx).right
  have hq : ('/' :: cs).takeWhile (· ≠ '?') = '/' :: cs :=
    takeWhile_eq_self_iff.mpr fun x hx => decide_eq_true (hne x hx).left
  have hd : ('/' :: cs).dropWhile (· ≠ '?') = [] :=
    dropWhile_eq_nil_iff.mpr fun x hx => decide_eq_true (hne x hx).left
  simp only [parse_cons, hf, hq, hd, h]
  simp [isDelimiter]

end PathAndQuery

namespace Uri

variable {cs : List Char} {u : Uri}

theorem parseFull_path (h : parseFull cs = .ok u) :
    u.target.path.all isPathChar ∧ (u.scheme.isSome → u.target.path.head? = some '/') := by
  simp only [parseFull, bind_eq_ok, throw_eq_error, error_bind, ite_error_eq_ok] at h
  obtain ⟨⟨scheme, rest⟩, _, _, _, _, h⟩ := h
  cases scheme
  case none =>
    simp only [ite_error_eq_ok, pure, Except.pure] at h
    have ⟨_, h⟩ := h
    cases h
    simp
  case some scheme =>
    simp only [ite_error_eq_ok, bind_eq_ok, pure, Except.pure] at h
    have ⟨_, target, ht, h⟩ := h
    cases h
    simpa using PathAndQuery.parse_path ht

theorem parse_path (h : parse cs = .ok u) :
    u.target.path.all isPathChar ∧ (u.scheme.isSome → u.target.path.head? = some '/') := by
  simp only [parse, throw_eq_error, error_bind, ite_error_eq_ok] at h
  have ⟨_, h⟩ := h
  split at h
  case h_1 => simp at h
  case h_2 => cases h; decide
  case h_3 => cases h; decide
  case h_4 =>
    simp only [bind_eq_ok, pure, Except.pure] at h
    have ⟨target, ht, h⟩ := h
    cases h
    exact ⟨(PathAndQuery.parse_path ht).left, by simp⟩
  case h_5 =>
    simp only [ite_error_eq_ok] at h
    exact parseFull_path h.right
  case h_6 => exact parseFull_path h

end Uri
end Sluice
