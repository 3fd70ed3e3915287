import Sluice.Proofs.Headers

open List

namespace Sluice

-- A whole number in decimal notation, with its first digit in front. There may be a plus sign before it.
structure Numeral where
  plus     : Bool
  digits   : List (Fin 10)
  nonempty : digits ≠ []

namespace Numeral

def char (d : Fin 10) : Char := Nat.digitChar d

def text (w : Numeral) : List Char :=
  (if w.plus then ['+'] else []) ++ w.digits.map char

def value (w : Numeral) : Nat :=
  Nat.ofDigits 10 (w.digits.reverse.map Fin.val)

theorem isVisible (w : Numeral) : ∀ c ∈ w.text, IsVisible c ∧ c ≠ ' ' ∧ c ≠ '\t' := by
  have hd : ∀ d, IsVisible (char d) ∧ char d ≠ ' ' ∧ char d ≠ '\t' := by
    unfold IsVisible
    decide
  intro c hc
  obtain hc | hc := mem_append.mp hc
  · split at hc
    case isTrue  => obtain rfl := mem_singleton.mp hc; exact ⟨.inl ⟨by decide, by decide⟩, by decide, by decide⟩
    case isFalse => cases hc
  · obtain ⟨d, _, rfl⟩ := mem_map.mp hc
    exact hd d

end Numeral

section

variable {c : Char} {cs : List Char} {m n limit : Nat}

theorem digit?_eq_some : digit? 10 c = some n ↔ ∃ d : Fin 10, Numeral.char d = c ∧ d.val = n := by
  constructor
  case mp =>
    intro h
    obtain ⟨hn, rfl⟩ := Option.ite_none_right_eq_some.mp h |>.imp_right Option.some.inj
    split at hn
    case isTrue hd =>
      have hc : 48 ≤ c.toNat ∧ c.toNat ≤ 57 := by simpa [Char.isDigit, UInt32.le_iff_toNat_le] using hd
      refine ⟨⟨_, hn⟩, Char.toNat_inj.mp ?_, ?_⟩
      · rw [Numeral.char, Nat.toNat_digitChar_of_lt_ten (by simpa using hn)]
        exact Nat.add_sub_cancel' hc.left
      · rw [if_pos hd]
    case isFalse =>
      -- A letter stands for ten or more.
      have hl : c.isLower → 97 ≤ c.toNat := by simp [Char.isLower, UInt32.le_iff_toNat_le]; tauto
      have hu : c.isUpper → 65 ≤ c.toNat := by simp [Char.isUpper, UInt32.le_iff_toNat_le]; tauto
      grind
  case mpr =>
    rintro ⟨d, rfl, rfl⟩
    revert d
    decide

-- Digits that are read one after another make the number that they stand for.
theorem foldlM_digit? : cs.foldlM (fun n c => (digit? 10 c).map (n * 10 + ·)) m = some n ↔
    ∃ ds : List (Fin 10), ds.map Numeral.char = cs ∧ ds.foldl (fun n d => n * 10 + d.val) m = n := by
  induction cs generalizing m
  case nil => simp
  case cons c cs hi =>
    rw [foldlM_cons, Option.bind_eq_bind, Option.bind_eq_some_iff]
    simp only [Option.map_eq_some_iff, digit?_eq_some, hi]
    constructor
    case mp =>
      rintro ⟨_, ⟨_, ⟨d, rfl, rfl⟩, rfl⟩, ds, rfl, hn⟩
      exact ⟨d :: ds, rfl, hn⟩
    case mpr =>
      rintro ⟨_ | ⟨d, ds⟩, hc, hn⟩
      case nil => cases hc
      case cons =>
        obtain ⟨rfl, rfl⟩ := cons.inj hc
        exact ⟨_, ⟨_, ⟨d, rfl, rfl⟩, rfl⟩, ds, rfl, hn⟩

theorem natural?_eq_some : natural? 10 cs = some n ↔
    ∃ ds : List (Fin 10), ds ≠ [] ∧ ds.map Numeral.char = cs ∧
      Nat.ofDigits 10 (ds.reverse.map Fin.val) = n := by
  have hv (ds : List (Fin 10)) :
      ds.foldl (fun n d => n * 10 + d.val) 0 = Nat.ofDigits 10 (ds.reverse.map Fin.val) := by
    rw [Nat.ofDigits_eq_foldr, foldr_map, foldr_reverse]
    simp [mul_comm, add_comm]
  rw [natural?, Option.ite_none_left_eq_some, foldlM_digit?]
  simp only [hv]
  constructor
  case mp =>
    rintro ⟨hne, ds, rfl, hn⟩
    exact ⟨ds, by simpa using hne, rfl, hn⟩
  case mpr =>
    rintro ⟨ds, hne, rfl, hn⟩
    exact ⟨by simpa using hne, ds, rfl, hn⟩

theorem Uri.number?_eq_some : Uri.number? limit cs = some n ↔ ∃ w : Numeral, w.text = cs ∧ w.value = n ∧ n ≤ limit := by
  have hp : ∀ d, Numeral.char d ≠ '+' := by decide
  rw [number?, naturalUpTo?, Option.filter_eq_some_iff, natural?_eq_some, decide_eq_true_iff]
  constructor
  case mp =>
    rintro ⟨⟨ds, hne, hd, hv⟩, hn⟩
    split at hd
    case isTrue h =>
      obtain ⟨rest, rfl⟩ := head?_eq_some_iff.mp h
      exact ⟨⟨true, ds, hne⟩, congrArg ('+' :: ·) hd, hv, hn⟩
    case isFalse => exact ⟨⟨false, ds, hne⟩, hd, hv, hn⟩
  case mpr =>
    rintro ⟨⟨plus, ds, hne⟩, rfl, hv, hn⟩
    refine ⟨⟨ds, hne, ?_, hv⟩, hn⟩
    cases plus
    case true  => rfl
    case false =>
      obtain ⟨d, ds, rfl⟩ := exists_cons_of_ne_nil hne
      exact (if_neg fun h => hp d (Option.some.inj h)).symm

end

-- A message declares a length for its body: the first value that it gives for that is a number of 64 bits, between
-- blanks or not.
def Headers.Declares (hs : Headers) (n : Nat) : Prop :=
  ∃ before v after text, ∃ w : Numeral, hs = before ++ ("content-length", v) :: after ∧
    (∀ h ∈ before, h.1 ≠ "content-length") ∧ Spells v text ∧ Padded w.text text ∧ w.value = n ∧ n < 2 ^ 64

theorem Request.declaredLength?_eq_some {req : Request} {n : Nat} :
    req.declaredLength? = some n ↔ req.headers.Declares n := by
  simp only [declaredLength?, Option.bind_eq_some_iff, Headers.visible?_eq_some, Headers.value?_eq_some,
    Uri.number?_eq_some]
  constructor
  case mp =>
    rintro ⟨text, ⟨v, ⟨before, after, hh, hb⟩, ht⟩, w, hw, hv, hn⟩
    have hp : Padded w.text text := hw ▸ padded_trimBlank ht.visible
    exact ⟨before, v, after, text, w, hh, hb, ht, hp, hv, Nat.lt_of_le_pred (by decide) hn⟩
  case mpr =>
    rintro ⟨before, v, after, text, w, hh, hb, ht, hp, hv, hn⟩
    have hw := hp.trimBlank_eq (fun c hc => (w.isVisible c hc).left) fun c hc => (w.isVisible c hc).right
    exact ⟨text, ⟨v, ⟨before, after, hh, hb⟩, ht⟩, w, hw.symm, hv, Nat.le_pred_of_lt hn⟩

end Sluice
