import Sluice.Proofs.Text.Utf8
import Sluice.Transport

open List

namespace Sluice

variable {cs : List Char}

theorem trimBy_eq_nil {p : Char → Bool} : trimBy p cs = [] ↔ cs.all p := by
  have hm : (∀ c ∈ cs.dropWhile p, p c) → ∀ c ∈ cs, p c := by
    intro h c hc
    rw [← takeWhile_append_dropWhile (p := p) (l := cs), mem_append] at hc
    exact hc.elim mem_takeWhile_imp (h c)
  simp only [trimBy, reverse_eq_nil_iff, dropWhile_eq_nil_iff, mem_reverse, all_eq_true]
  exact ⟨hm, fun h c hc => h c ((dropWhile_suffix p).mem hc)⟩

namespace Transport

variable {body : Bytes}

theorem excerpt_eq (body : Bytes) :
    let cs := trimBlank (Utf8.decodeLossy body)
    excerpt body = (Utf8.encode cs).take (Utf8.backUp (Utf8.encode cs) (min (Utf8.size cs) 512)) := by
  intro cs
  rw [← Utf8.length_encode]
  rfl

-- Of the body of an answer that is no success as much is said as 512 bytes have room for, and no part of a character.
-- To find where that ends takes three steps at most. A body that is blank is not mentioned.
theorem errorMessage_quotes_longest (body : Bytes) :
    let cs := trimBlank (Utf8.decodeLossy body)
    let start := min (Utf8.size cs) 512
    ∃ shown, Utf8.LongestWithin 512 cs shown ∧ excerpt body = Utf8.encode shown ∧ (Utf8.size cs ≤ 512 → shown = cs) ∧
      (∃ k ≤ 3, Utf8.BacksUp (Utf8.encode cs) start k ∧ Utf8.size shown = start - k) ∧
      ∀ node status, errorMessage node status body =
        s!"{node.address} answered {statusText status}" ++
          if (Utf8.decodeLossy body).all isBlank then "" else ": " ++ String.ofList shown := by
  intro cs start
  have ⟨shown, hl, hs, hc⟩ := Utf8.exists_longestWithin cs 512
  have ⟨k, hk, hb, he⟩ := Utf8.exists_backsUp (min_le_left (Utf8.size cs) 512)
  have hx : excerpt body = Utf8.encode shown := (excerpt_eq body).trans hc
  refine ⟨shown, hl, hx, hl.eq_self, ⟨k, hk, hb, hs.trans he⟩, fun node status => ?_⟩
  have he : (excerpt body).isEmpty ↔ (Utf8.decodeLossy body).all isBlank := by
    rw [hx, List.isEmpty_iff, Utf8.encode_eq_nil_iff, hl.eq_nil_iff (by omega), ← trimBy_eq_nil]
    rfl
  rw [errorMessage]
  simp only [he]
  split
  case isTrue  => simp
  case isFalse =>
    rw [hx, Utf8.decodeLossy_encode, String.append_assoc]
    rfl

end Transport

end Sluice
