import Mathlib
import Sluice.Text.Utf8

open List

namespace Sluice.Utf8

variable {c : Char} {cs front more : List Char} {b low high : UInt8} {bs rest : Bytes} {i j k n v owed bits : Nat}

@[simp] theorem encode_nil : encode [] = [] := rfl

@[simp] theorem encode_cons : encode (c :: cs) = String.utf8EncodeChar c ++ encode cs := flatMap_cons

@[simp] theorem encode_append : encode (front ++ cs) = encode front ++ encode cs := flatMap_append

@[simp] theorem size_nil : size [] = 0 := rfl

theorem size_cons : size (c :: cs) = c.utf8Size + size cs := rfl

theorem size_append : size (front ++ cs) = size front + size cs := by
  induction front
  case nil          => simp
  case cons c cs hi => rw [cons_append, size_cons, hi, size_cons, Nat.add_assoc]

@[simp] theorem length_encode : (encode cs).length = size cs := by
  induction cs
  case nil          => rfl
  case cons c cs hi => rw [encode_cons, length_append, String.length_utf8EncodeChar, hi, size_cons]

theorem encode_eq_nil_iff : encode cs = [] ↔ cs = [] := by
  cases cs
  case nil  => simp
  case cons => simp [String.utf8EncodeChar_ne_nil]

-- The last `k` bytes of a character, each of which has six of its bits.
def tails (v : Nat) : Nat → Bytes
  | 0     => []
  | k + 1 => .ofNat (v / 64 ^ k % 64 + 128) :: tails v k

-- The byte is no more than the continuation of a character.
def IsTail (b : UInt8) : Prop := b &&& 0xC0 = 0x80

theorem isTail_iff : ∀ b : UInt8, IsTail b ↔ 0x80 ≤ b ∧ b ≤ 0xBF := by
  unfold IsTail
  decide +kernel

theorem isTail_of_mem_tails (h : b ∈ tails v k) : IsTail b := by
  induction k
  case zero => cases h
  case succ k hi =>
    cases mem_cons.mp h
    case inr ht => exact hi ht
    case inl he =>
      have hr : 128 ≤ v / 64 ^ k % 64 + 128 ∧ v / 64 ^ k % 64 + 128 ≤ 191 := by omega
      rw [he, isTail_iff, UInt8.le_iff_toNat_le, UInt8.le_iff_toNat_le, UInt8.toNat_ofNat',
        Nat.mod_eq_of_lt (by omega)]
      exact hr

-- No character begins with a byte that continues one.
theorem not_isTail_of_lead? : ∀ b : UInt8, (lead? b).isSome → ¬IsTail b := by
  unfold IsTail
  decide +kernel

theorem lead?_ofNat (hn : n < 256) : lead? (.ofNat n) =
    if n < 0x80 then some { owed := 0, bits := n }
    else if n < 0xC2 then none
    else if n < 0xE0 then some { owed := 1, bits := n - 0xC0 }
    else if n = 0xE0 then some { owed := 2, low := 0xA0, bits := 0 }
    else if n = 0xED then some { owed := 2, high := 0x9F, bits := 13 }
    else if n < 0xF0 then some { owed := 2, bits := n - 0xE0 }
    else if n = 0xF0 then some { owed := 3, low := 0x90, bits := 0 }
    else if n < 0xF4 then some { owed := 3, bits := n - 0xF0 }
    else if n = 0xF4 then some { owed := 3, high := 0x8F, bits := 4 }
    else none := by
  simp only [lead?, UInt8.lt_iff_toNat_lt, ← UInt8.toNat_inj, UInt8.toNat_ofNat, Nat.mod_eq_of_lt hn,
    UInt8.toNat_ofNat']

-- The value of a byte is within the range in which the next byte of a character is to lie.
def InRange (low high : UInt8) (n : Nat) : Prop := low.toNat ≤ n ∧ n ≤ high.toNat

theorem settle_cons (hn : n < 256) (hr : InRange low high n) :
    settle (owed + 1) low high bits (.ofNat n :: bs) = settle owed 0x80 0xBF (bits * 64 + n % 64) bs := by
  have hf : low ≤ .ofNat n ∧ .ofNat n ≤ high := by
    rw [UInt8.le_iff_toNat_le, UInt8.le_iff_toNat_le, UInt8.toNat_ofNat', Nat.mod_eq_of_lt hn]
    exact hr
  rw [settle, if_pos (by simpa using hf), UInt8.toNat_ofNat', Nat.mod_eq_of_lt hn]

theorem settle_tails (hr : ∀ j, k = j + 1 → InRange low high (v / 64 ^ j % 64 + 128)) :
    settle k low high bits (tails v k ++ rest) = (some (Char.ofNat (bits * 64 ^ k + v % 64 ^ k)), rest) := by
  induction k generalizing low high bits
  case zero => simp [tails, settle, Nat.mod_one]
  case succ k hi =>
    have hm : (v / 64 ^ k % 64 + 128) % 64 = v / 64 ^ k % 64 := by omega
    rw [tails, cons_append, settle_cons (by omega) (hr k rfl), hi fun j _ => ⟨by simp, by simp; omega⟩, hm, pow_succ,
      Nat.mod_mul]
    congr 3
    ring

-- With `k` more bytes, `b` is the character `v`: it promises so many of them, has all bits of `v` that they have not,
-- and the byte after it lies in the range that it promises.
structure Begins (b : UInt8) (v k : Nat) (p : Pending) : Prop where
  promises : lead? b = some p
  owed     : p.owed = k
  bits     : p.bits = v / 64 ^ k
  range    : ∀ j, k = j + 1 → InRange p.low p.high (v / 64 ^ j % 64 + 128)

theorem Begins.next_eq {p : Pending} (h : Begins b v k p) (rest : Bytes) :
    next b (tails v k ++ rest) = (some (Char.ofNat v), rest) := by
  rw [next, h.promises]
  simp only [h.owed, h.bits]
  rw [settle_tails h.range, Nat.div_add_mod']

theorem begins_one (hv : v < 0x80) : ∃ p, Begins (.ofNat v) v 0 p := by
  have hl := lead?_ofNat (show v < 256 by omega)
  rw [if_pos hv] at hl
  exact ⟨_, hl, rfl, by simp, nofun⟩

theorem begins_two (hv : 0x80 ≤ v) (hv' : v < 0x800) : ∃ p, Begins (.ofNat (v / 64 % 32 + 192)) v 1 p := by
  have hl := lead?_ofNat (show v / 64 % 32 + 192 < 256 by omega)
  split_ifs at hl
  all_goals try omega
  refine ⟨_, hl, rfl, by simp; omega, fun j hj => ?_⟩
  obtain rfl : j = 0 := by omega
  exact ⟨by simp, by simp; omega⟩

theorem begins_three (hv : 0x800 ≤ v) (hv' : v < 0x10000) (hs : v < 0xD800 ∨ 0xDFFF < v) :
    ∃ p, Begins (.ofNat (v / 4096 % 16 + 224)) v 2 p := by
  have hl := lead?_ofNat (show v / 4096 % 16 + 224 < 256 by omega)
  split_ifs at hl
  all_goals try omega
  all_goals
    refine ⟨_, hl, rfl, by simp; omega, fun j hj => ?_⟩
    obtain rfl : j = 1 := by omega
    constructor <;> simp <;> omega

theorem begins_four (hv : 0x10000 ≤ v) (hv' : v < 0x110000) :
    ∃ p, Begins (.ofNat (v / 262144 % 8 + 240)) v 3 p := by
  have hl := lead?_ofNat (show v / 262144 % 8 + 240 < 256 by omega)
  split_ifs at hl
  all_goals try omega
  all_goals
    refine ⟨_, hl, rfl, by simp; omega, fun j hj => ?_⟩
    obtain rfl : j = 2 := by omega
    constructor <;> simp <;> omega

-- A character is written as a byte that begins it and up to three that continue it.
theorem exists_begins (c : Char) :
    ∃ b k p, k ≤ 3 ∧ String.utf8EncodeChar c = b :: tails c.toNat k ∧ Begins b c.toNat k p := by
  have hc : c.toNat < 0xD800 ∨ 0xDFFF < c.toNat ∧ c.toNat < 0x110000 := c.valid
  rw [String.utf8EncodeChar]
  simp only [show c.val.toNat = c.toNat from rfl]
  split
  case isTrue h =>
    have ⟨p, hp⟩ := begins_one (Nat.lt_succ_of_le h)
    exact ⟨_, 0, p, by omega, rfl, hp⟩
  split
  case isTrue h h' =>
    have ⟨p, hp⟩ := begins_two (not_le.mp h) (Nat.lt_succ_of_le h')
    exact ⟨_, 1, p, by omega, by simp [tails], hp⟩
  split
  case isTrue h h' =>
    have ⟨p, hp⟩ := begins_three (not_le.mp h) (Nat.lt_succ_of_le h') (by omega)
    exact ⟨_, 2, p, by omega, by simp [tails], hp⟩
  case isFalse h =>
    have ⟨p, hp⟩ := begins_four (not_le.mp h) (by omega)
    exact ⟨_, 3, p, by omega, by simp [tails], hp⟩

-- What was written is read as it was.
theorem decodeLossy_encode (cs : List Char) : decodeLossy (encode cs) = cs := by
  induction cs
  case nil => rw [encode_nil, decodeLossy]
  case cons c cs hi =>
    obtain ⟨b, k, p, _, he, hb⟩ := exists_begins c
    rw [encode_cons, he, cons_append, decodeLossy, hb.next_eq, hi]
    simp

theorem isBoundary_of_getElem? (h : bs[i]? = some b) : isBoundary bs i ↔ ¬IsTail b := by
  simp [isBoundary, h, IsTail]

theorem isBoundary_append (front bs : Bytes) : isBoundary (front ++ bs) (front.length + i) = isBoundary bs i := by
  rw [isBoundary, isBoundary, getElem?_append_right (Nat.le_add_right ..), Nat.add_sub_cancel_left, length_append]
  simp

-- Of the places in a character and at its end only the first and the last are boundaries.
theorem isBoundary_utf8EncodeChar (h : i < c.utf8Size) : isBoundary (String.utf8EncodeChar c ++ rest) i ↔ i = 0 := by
  have ⟨b, k, p, _, he, hb⟩ := exists_begins c
  rw [← String.length_utf8EncodeChar, he] at h
  rw [he]
  cases i
  case zero =>
    have hl : (lead? b).isSome := by simp [hb.promises]
    simpa using (isBoundary_of_getElem? (by simp)).mpr (not_isTail_of_lead? b hl)
  case succ i =>
    have hi : i < (tails c.toNat k).length := by simpa using h
    have ht : IsTail (tails c.toNat k)[i] := isTail_of_mem_tails (getElem_mem hi)
    have hg : (b :: tails c.toNat k ++ rest)[i + 1]? = some (tails c.toNat k)[i] := by
      rw [cons_append, getElem?_cons_succ, getElem?_append_left hi, getElem?_eq_getElem hi]
    simpa [ht] using isBoundary_of_getElem? hg

-- The boundaries of a text are the places where some of its characters end.
theorem isBoundary_encode : isBoundary (encode cs) i ↔ ∃ front, front <+: cs ∧ i = size front := by
  induction cs generalizing i
  case nil =>
    have hb : isBoundary [] i ↔ i = 0 := decide_eq_true_iff
    simpa using hb
  case cons c cs hi =>
    simp only [prefix_cons_iff, encode_cons]
    by_cases h : i < c.utf8Size
    case pos =>
      rw [isBoundary_utf8EncodeChar h]
      constructor
      case mp  => exact fun h0 => ⟨[], .inl rfl, h0⟩
      case mpr =>
        rintro ⟨front, rfl | ⟨f, rfl, _⟩, hs⟩
        · exact hs
        · rw [size_cons] at hs
          omega
    case neg =>
      obtain ⟨j, rfl⟩ := Nat.exists_eq_add_of_le (not_lt.mp h)
      rw [← String.length_utf8EncodeChar, isBoundary_append, hi, String.length_utf8EncodeChar]
      constructor
      case mp  => exact fun ⟨f, hf, hs⟩ => ⟨c :: f, .inr ⟨f, rfl, hf⟩, by rw [hs, size_cons]⟩
      case mpr =>
        rintro ⟨front, rfl | ⟨f, rfl, hf⟩, hs⟩
        · have := c.utf8Size_pos
          rw [size_nil] at hs
          omega
        · exact ⟨f, hf, by rw [size_cons] at hs; omega⟩

theorem isBoundary_zero (cs : List Char) : isBoundary (encode cs) 0 :=
  isBoundary_encode.mpr ⟨[], nil_prefix, rfl⟩

-- No place in a text is more than three bytes behind the beginning of a character.
theorem exists_near (h : i ≤ size cs) : ∃ front, front <+: cs ∧ size front ≤ i ∧ i ≤ size front + 3 := by
  induction cs generalizing i
  case nil => exact ⟨[], prefix_rfl, Nat.zero_le i, h.trans (Nat.le_add_right ..)⟩
  case cons c cs hi =>
    by_cases hc : i < c.utf8Size
    case pos =>
      have := c.utf8Size_le_four
      exact ⟨[], nil_prefix, Nat.zero_le i, by rw [size_nil]; omega⟩
    case neg =>
      obtain ⟨j, rfl⟩ := Nat.exists_eq_add_of_le (not_lt.mp hc)
      have hj : j ≤ size cs := Nat.le_of_add_le_add_left (size_cons ▸ h)
      have ⟨front, hf, hle, hn⟩ := hi hj
      refine ⟨c :: front, cons_prefix_cons.mpr ⟨rfl, hf⟩, ?_, ?_⟩
      · exact Nat.add_le_add_left hle _
      · rw [size_cons]
        omega

-- The more of a text, the more bytes.
theorem prefix_of_size_le (hf : front <+: cs) (hm : more <+: cs) (h : size more ≤ size front) : more <+: front := by
  cases prefix_or_prefix_of_prefix hm hf
  case inl hp => exact hp
  case inr hp =>
    obtain ⟨t, rfl⟩ := hp
    cases t
    case nil       => simp
    case cons c cs =>
      have := c.utf8Size_pos
      rw [size_append, size_cons] at h
      omega

theorem backUp_le (bs : Bytes) (i : Nat) : backUp bs i ≤ i := by
  induction i
  case zero => exact le_rfl
  case succ i hi =>
    rw [backUp]
    split
    case isTrue  => exact le_rfl
    case isFalse => exact hi.trans (Nat.le_succ i)

theorem isBoundary_backUp (h : isBoundary bs 0) (i : Nat) : isBoundary bs (backUp bs i) := by
  induction i
  case zero => exact h
  case succ i hi =>
    rw [backUp]
    split
    case isTrue hb => exact hb
    case isFalse   => exact hi

theorem le_backUp (hb : isBoundary bs j) (hj : j ≤ i) : j ≤ backUp bs i := by
  induction i
  case zero => exact hj
  case succ i hi =>
    rw [backUp]
    split
    case isTrue      => exact hj
    case isFalse hne =>
      have hlt : j ≠ i + 1 := fun he => hne (he ▸ hb)
      exact hi (by omega)

-- Going back from `start`, one place at a time, the first boundary is met after `k` steps.
structure BacksUp (bs : Bytes) (start k : Nat) : Prop where
  within : k ≤ start
  passes : ∀ j < k, ¬isBoundary bs (start - j)
  stops  : isBoundary bs (start - k)

-- The longest beginning of a text that takes no more bytes than that.
structure LongestWithin (limit : Nat) (cs shown : List Char) : Prop where
  isPrefix : shown <+: cs
  fits     : size shown ≤ limit
  longest  : ∀ more, more <+: cs → size more ≤ limit → more <+: shown

theorem LongestWithin.eq_self {shown : List Char} (h : LongestWithin n cs shown) (hs : size cs ≤ n) : shown = cs :=
  h.isPrefix.eq_of_length_le (h.longest cs prefix_rfl hs).length_le

theorem LongestWithin.eq_nil_iff {shown : List Char} (h : LongestWithin n cs shown) (hn : 4 ≤ n) :
    shown = [] ↔ cs = [] := by
  constructor
  case mpr => exact fun hc => prefix_nil.mp (hc ▸ h.isPrefix)
  case mp =>
    intro hs
    cases cs
    case nil => rfl
    case cons c cs =>
      have hp : [c] <+: shown := h.longest [c] (by simp) (c.utf8Size_le_four.trans hn)
      simp [hs] at hp

theorem exists_backsUp (h : i ≤ size cs) :
    ∃ k ≤ 3, BacksUp (encode cs) i k ∧ backUp (encode cs) i = i - k := by
  have hle := backUp_le (encode cs) i
  have ⟨front, hf, hfi, hn⟩ := exists_near h
  have hnear := le_backUp (isBoundary_encode.mpr ⟨front, hf, rfl⟩) hfi
  have hk : i - (i - backUp (encode cs) i) = backUp (encode cs) i := by omega
  refine ⟨i - backUp (encode cs) i, by omega, ⟨by omega, fun j hj hb => ?_, ?_⟩, hk.symm⟩
  case refine_1 =>
    have := le_backUp hb (Nat.sub_le i j)
    omega
  case refine_2 => exact hk.symm ▸ isBoundary_backUp (isBoundary_zero cs) i

-- Cut where backing up from the limit leads, a text is the longest beginning within the limit.
theorem exists_longestWithin (cs : List Char) (n : Nat) : ∃ shown, LongestWithin n cs shown ∧
    size shown = backUp (encode cs) (min (size cs) n) ∧
    (encode cs).take (backUp (encode cs) (min (size cs) n)) = encode shown := by
  have ⟨shown, hp, hs⟩ := isBoundary_encode.mp (isBoundary_backUp (isBoundary_zero cs) (min (size cs) n))
  have hle := backUp_le (encode cs) (min (size cs) n)
  refine ⟨shown, ⟨hp, by omega, fun more hm hn => ?_⟩, hs.symm, ?_⟩
  case refine_1 =>
    have hmc : size more ≤ size cs := by
      have ⟨t, ht⟩ := hm
      rw [← ht, size_append]
      exact Nat.le_add_right ..
    refine prefix_of_size_le hp hm (hs ▸ le_backUp ?_ (le_min hmc hn))
    exact isBoundary_encode.mpr ⟨more, hm, rfl⟩
  case refine_2 =>
    have ⟨t, ht⟩ := hp
    rw [hs, ← ht, encode_append, take_left' length_encode]

end Sluice.Utf8
