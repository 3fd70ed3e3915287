import Mathlib

open List

namespace Sluice

theorem ite_error_eq_ok {ε α : Type} {p : Prop} [Decidable p] {e : ε} {x : Except ε α} {a : α} :
    (if p then .error e else x) = .ok a ↔ ¬p ∧ x = .ok a := by
  split <;> simp_all

@[simp] theorem error_bind {ε α β : Type} (e : ε) (f : α → Except ε β) : Except.error e >>= f = .error e := rfl

theorem throw_eq_error {ε α : Type} (e : ε) : (throw e : Except ε α) = .error e := rfl

theorem bind_eq_ok {ε α β : Type} {x : Except ε α} {f : α → Except ε β} {b : β} :
    x >>= f = .ok b ↔ ∃ a, x = .ok a ∧ f a = .ok b := by
  cases x <;> simp [bind, Except.bind]

theorem toOption_map_eq_some {ε α β : Type} {f : α → β} {x : Except ε α} {b : β} :
    x.toOption.map f = some b ↔ ∃ a, x = .ok a ∧ f a = b := by
  cases x <;> simp [Except.toOption]

-- A traversal that may be refused succeeds if every step of it does.
theorem mapM_eq_ok {ε α β : Type} {f : α → Except ε β} {as : List α} {bs : List β} :
    as.mapM f = .ok bs ↔ Forall₂ (f · = .ok ·) as bs := by
  induction as generalizing bs
  case nil => cases bs <;> simp [pure, Except.pure]
  case cons a as hi =>
    simp only [mapM_cons, bind_eq_ok, hi, pure, Except.pure, Except.ok.injEq, forall₂_cons_left_iff]
    constructor
    case mp  => rintro ⟨b, hb, bs, hbs, rfl⟩; exact ⟨b, bs, hb, hbs, rfl⟩
    case mpr => rintro ⟨b, bs, hb, hbs, rfl⟩; exact ⟨b, hb, bs, hbs, rfl⟩

theorem exists_mapM_eq_ok {ε α β : Type} {f : α → Except ε β} {as : List α} :
    (∃ bs, as.mapM f = .ok bs) ↔ ∀ a ∈ as, ∃ b, f a = .ok b := by
  simp only [mapM_eq_ok]
  induction as
  case nil => simp
  case cons a as hi =>
    simp only [forall₂_cons_left_iff, forall_mem_cons, ← hi]
    constructor
    case mp  => rintro ⟨_, b, bs, hb, hbs, rfl⟩; exact ⟨⟨b, hb⟩, bs, hbs⟩
    case mpr => rintro ⟨⟨b, hb⟩, bs, hbs⟩; exact ⟨_, b, bs, hb, hbs, rfl⟩

-- If the elements of one list are the same as those of another in some respect, then so are the lists.
theorem map_eq_map_of_forall₂ {α β γ : Type} {R : α → β → Prop} {as : List α} {bs : List β} {f : α → γ} {g : β → γ}
    (h : Forall₂ R as bs) (hf : ∀ a b, R a b → g b = f a) : bs.map g = as.map f := by
  rw [← forall₂_eq_eq_eq, forall₂_map_left_iff, forall₂_map_right_iff]
  exact (h.imp hf).flip

theorem mapM_eq_ok_some {ε α β : Type} {f : α → Except ε β} {a? : Option α} {b : β} :
    a?.mapM f = .ok (some b) ↔ ∃ a, a? = some a ∧ f a = .ok b := by
  cases a?
  case none   => simp [pure, Except.pure]
  case some a => cases h : f a <;> simp [Functor.map, Except.map, h]

theorem mapM_eq_ok_rel {ε α β : Type} {f : α → Except ε β} {a? : Option α} {b? : Option β} :
    a?.mapM f = .ok b? ↔ Option.Rel (f · = .ok ·) a? b? := by
  cases b?
  case some b =>
    rw [mapM_eq_ok_some]
    constructor
    case mp  => rintro ⟨a, rfl, h⟩; exact .some h
    case mpr => rintro (h | _); exact ⟨_, rfl, h⟩
  case none =>
    cases a?
    case none   => exact ⟨fun _ => .none, fun _ => rfl⟩
    case some a => cases h : f a <;> simp [Functor.map, Except.map, h]

theorem exists_mapM_eq_ok_option {ε α β : Type} {f : α → Except ε β} {a? : Option α} :
    (∃ b?, a?.mapM f = .ok b?) ↔ ∀ a ∈ a?, ∃ b, f a = .ok b := by
  cases a?
  case none   => exact ⟨nofun, fun _ => ⟨none, rfl⟩⟩
  case some a => cases h : f a <;> simp [Functor.map, Except.map, h]

theorem mapM_eq_some {α β : Type} {f : α → Option β} {as : List α} {bs : List β} :
    as.mapM f = some bs ↔ Forall₂ (f · = some ·) as bs := by
  induction as generalizing bs
  case nil => cases bs <;> simp
  case cons a as hi =>
    simp only [mapM_cons, Option.bind_eq_bind, Option.bind_eq_some_iff, hi, Option.pure_def, Option.some.injEq,
      forall₂_cons_left_iff]
    constructor
    case mp  => rintro ⟨b, hb, bs, hbs, rfl⟩; exact ⟨b, bs, hb, hbs, rfl⟩
    case mpr => rintro ⟨b, bs, hb, hbs, rfl⟩; exact ⟨b, hb, bs, hbs, rfl⟩

end Sluice
