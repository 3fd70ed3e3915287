import Mathlib
import Sluice.Gateway

open List

namespace Sluice

-- A text stands between blanks, or between none.
def Padded (core text : List Char) : Prop :=
  ∃ front back, front ++ core ++ back = text ∧ ∀ c ∈ front ++ back, c = ' ' ∨ c = '\t'

section

variable {p : Char → Bool} {c : Char} {cs front core back text : List Char}

theorem dropWhile_append_of_neg (hc : ∀ c ∈ core, ¬p c) (hb : ∀ c ∈ back, p c) :
    (core ++ back).dropWhile p = if core = [] then [] else core ++ back := by
  cases core
  case nil  => simpa using hb
  case cons => rw [cons_append, dropWhile_cons_of_neg (hc _ mem_cons_self), if_neg (cons_ne_nil _ _)]

theorem trimBy_append (hf : ∀ c ∈ front, p c) (hc : ∀ c ∈ core, ¬p c) (hb : ∀ c ∈ back, p c) :
    trimBy p (front ++ core ++ back) = core := by
  rw [trimBy, append_assoc, dropWhile_append_of_pos hf, dropWhile_append_of_neg hc hb]
  split
  case isTrue h  => simp [h]
  case isFalse h =>
    have hr : core.reverse.dropWhile p = core.reverse := by
      rw [← append_nil core.reverse, dropWhile_append_of_neg (by simpa using hc) (by simp), if_neg (by simpa using h)]
    rw [reverse_append, dropWhile_append_of_pos (by simpa using hb), hr, reverse_reverse]

theorem exists_trimBy (p : Char → Bool) (cs : List Char) :
    ∃ front back, front ++ trimBy p cs ++ back = cs ∧ ∀ c ∈ front ++ back, p c := by
  refine ⟨cs.takeWhile p, ((cs.dropWhile p).reverse.takeWhile p).reverse, ?_, fun c hc => ?_⟩
  · rw [trimBy, append_assoc, ← reverse_append, takeWhile_append_dropWhile, reverse_reverse, takeWhile_append_dropWhile]
  · rw [mem_append, mem_reverse] at hc
    exact hc.elim mem_takeWhile_imp mem_takeWhile_imp

-- The characters that the value of a header may have if it is to be read as text.
def IsVisible (c : Char) : Prop :=
  (0x20 ≤ c.toNat ∧ c.toNat < 0x7F) ∨ c.toNat = 9

-- Of these two are white space.
theorem isBlank_iff (h : IsVisible c) : isBlank c ↔ c = ' ' ∨ c = '\t' := by
  have hs : c = ' ' ↔ c.toNat = 32 := Char.toNat_inj.symm
  have ht : c = '\t' ↔ c.toNat = 9 := Char.toNat_inj.symm
  rw [hs, ht]
  simp only [isBlank, IsVisible, Bool.or_eq_true, Bool.and_eq_true, decide_eq_true_eq] at h ⊢
  omega

theorem padded_trimBlank (hv : ∀ c ∈ text, IsVisible c) : Padded (trimBlank text) text := by
  have ⟨front, back, he, hb⟩ := exists_trimBy isBlank text
  refine ⟨front, back, he, fun c hc => (isBlank_iff (hv c ?_)).mp (hb c hc)⟩
  rw [← he]
  simp only [mem_append] at hc ⊢
  tauto

theorem Padded.subset (h : Padded core text) : core ⊆ text := by
  obtain ⟨front, back, rfl, _⟩ := h
  exact fun c hc => mem_append_left _ (mem_append_right _ hc)

theorem Padded.trimBlank_eq (h : Padded core text) (hv : ∀ c ∈ core, IsVisible c)
    (hc : ∀ c ∈ core, c ≠ ' ' ∧ c ≠ '\t') : trimBlank text = core := by
  obtain ⟨front, back, rfl, hb⟩ := h
  have hp : ∀ c ∈ front ++ back, isBlank c := fun c hc => by
    obtain rfl | rfl := hb c hc <;> decide
  refine trimBy_append (fun c hm => hp c (mem_append_left _ hm)) (fun c hm => ?_)
    fun c hm => hp c (mem_append_right _ hm)
  rw [isBlank_iff (hv c hm), not_or]
  exact hc c hm

end

namespace Headers

variable {hs : Headers} {name : String} {v : Bytes} {text : List Char}

-- The headers that belong to the connection they come over, whatever a message says.
def HopByHop (name : String) : Prop :=
  name ∈ ["connection", "keep-alive", "proxy-authenticate", "proxy-authorization", "proxy-connection", "te", "trailer",
    "trailers", "transfer-encoding", "upgrade"]

instance (name : String) : Decidable (HopByHop name) :=
  inferInstanceAs (Decidable (_ ∈ _))

theorem isHopByHop_iff (name : String) : isHopByHop name ↔ HopByHop name :=
  contains_iff_mem

-- A header value spells a text, one byte for each of its characters.
structure Spells (v : Bytes) (text : List Char) : Prop where
  bytes   : text.map (fun c => UInt8.ofNat c.toNat) = v
  visible : ∀ c ∈ text, IsVisible c

theorem visible?_eq_some : visible? v = some text ↔ Spells v text := by
  have hc (b : UInt8) : (Char.ofNat b.toNat).toNat = b.toNat := by
    rw [Char.toNat_ofNat, if_pos (.inl (by have := b.toNat_lt; omega))]
  have hv (b : UInt8) : (0x20 ≤ b && b < 0x7F) || b = 9 ↔ IsVisible (Char.ofNat b.toNat) := by
    simp [IsVisible, hc, UInt8.le_iff_toNat_le, UInt8.lt_iff_toNat_lt, ← UInt8.toNat_inj]
  rw [visible?, Option.ite_none_right_eq_some, Option.some.injEq, all_eq_true]
  constructor
  case mp =>
    rintro ⟨ha, rfl⟩
    refine ⟨?_, forall_mem_map.mpr fun b hb => (hv b).mp (ha b hb)⟩
    rw [map_map]
    exact (map_congr_left fun b _ => by simp [hc]).trans (map_id _)
  case mpr =>
    rintro ⟨rfl, ht⟩
    have hb : ∀ c ∈ text, Char.ofNat (UInt8.ofNat c.toNat).toNat = c := fun c hm => by
      have hl : c.toNat < 256 := by have := ht c hm; rw [IsVisible] at this; omega
      rw [UInt8.toNat_ofNat_of_lt' hl, Char.ofNat_toNat]
    refine ⟨forall_mem_map.mpr fun c hm => (hv _).mpr ?_, ?_⟩
    · rw [hb c hm]
      exact ht c hm
    · rw [map_map]
      exact (map_congr_left hb).trans (map_id _)

theorem mem_values : v ∈ hs.values name ↔ (name, v) ∈ hs := by
  simp [values]

-- Of several values of one name the first one counts.
theorem value?_eq_some : hs.value? name = some v ↔
    ∃ before after, hs = before ++ (name, v) :: after ∧ ∀ h ∈ before, h.1 ≠ name := by
  rw [value?, values, head?_filterMap, findSome?_eq_some_iff]
  constructor
  case mp =>
    rintro ⟨before, ⟨n, _⟩, after, rfl, hv, hb⟩
    obtain ⟨rfl, rfl⟩ : n = name ∧ _ := by simpa using hv
    exact ⟨before, after, rfl, by simpa using hb⟩
  case mpr =>
    rintro ⟨before, after, rfl, hb⟩
    exact ⟨before, (name, v), after, rfl, if_pos rfl, by simpa using hb⟩

end Headers

end Sluice
