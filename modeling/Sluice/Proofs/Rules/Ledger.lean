import Sluice.Proofs.Rules.Sides

open List

namespace Sluice

-- A call that comes to the chain of one side at some time, in milliseconds.
structure Visit where
  side : Side
  call : Call
  now  : Nat

-- A slot that a call has used up, of the rule with that number on that side.
structure Grant where
  side : Side
  rule : Nat
  key  : String
  time : Nat
  deriving DecidableEq

-- The slots that have been used up, oldest first. Nothing is ever taken out of it.
abbrev Ledger := List Grant

namespace Ledger

-- When calls have used up slots of a rule for a key.
def times (ledger : Ledger) (side : Side) (rule : Nat) (key : String) : List Nat :=
  (ledger.filter fun g => g.side = side ∧ g.rule = rule ∧ g.key = key).map (·.time)

variable {ledger ledger₁ ledger₂ : Ledger} {side : Side} {rule : Nat} {key : String}

theorem times_append :
    (ledger₁ ++ ledger₂).times side rule key = ledger₁.times side rule key ++ ledger₂.times side rule key := by
  simp [times]

theorem times_eq_nil (h : ∀ g ∈ ledger, g.side = side → g.rule = rule → g.key ≠ key) :
    ledger.times side rule key = [] := by
  simpa [times] using h

end Ledger

-- A rule that applies to a call, with its number and the key that it charges the call to.
structure Charge where
  rule  : Nat
  tier  : Tier
  quota : Quota
  key   : String

-- Whether the rule has let fewer calls pass than its quota says, of those that still count.
def Charge.hasRoom (ledger : Ledger) (v : Visit) (c : Charge) : Bool :=
  ((ledger.times v.side c.rule c.key).filter (v.now < · + c.quota.window.millis)).length < c.quota.limit

-- The slot of the rule that the call uses up.
def Charge.grant (v : Visit) (c : Charge) : Grant :=
  ⟨v.side, c.rule, c.key, v.now⟩

-- The checks that apply to a call, out of checks that are numbered from `first` on.
def dues (call : Call) (scopes : List (Scope × Quota)) (first : Nat) : List Charge :=
  (scopes.zipIdx first).filterMap fun ((scope, quota), rule) =>
    (scope.key? call).map fun key => ⟨rule, scope.tier, quota, key⟩

-- The slots that a call uses up: those of the rules before the first that has no room.
def used (ledger : Ledger) (v : Visit) (cs : List Charge) : Ledger :=
  (cs.takeWhile (·.hasRoom ledger v)).map (·.grant v)

-- The first rule that has no room.
def refusal? (ledger : Ledger) (v : Visit) (cs : List Charge) : Option Charge :=
  cs.find? (!·.hasRoom ledger v)

def outcome : Option Charge → Except Fault Unit
  | none   => .ok ()
  | some c => .error (.limited c.tier)

section

variable {call : Call} {scope : Scope} {quota : Quota} {scopes : List (Scope × Quota)} {first : Nat}
         {ledger : Ledger} {v : Visit} {c : Charge} {cs : List Charge}

theorem dues_cons_of_none (h : scope.key? call = none) :
    dues call ((scope, quota) :: scopes) first = dues call scopes (first + 1) := by
  simp [dues, h]

theorem dues_cons_of_key (hk : scope.key? call = some c.key) (ht : scope.tier = c.tier) :
    dues call ((scope, c.quota) :: scopes) c.rule = c :: dues call scopes (c.rule + 1) := by
  simp [dues, hk, ht]

theorem dues_append (call : Call) (scopes scopes' : List (Scope × Quota)) (first : Nat) :
    dues call (scopes ++ scopes') first = dues call scopes first ++ dues call scopes' (first + scopes.length) := by
  rw [dues, zipIdx_append, filterMap_append]
  rfl

theorem dues_map {α : Type} (call : Call) (f : α → Scope × Quota) (as : List α) (first : Nat) :
    dues call (as.map f) first = (as.zipIdx first).filterMap fun (a, rule) =>
      ((f a).1.key? call).map fun key => ⟨rule, (f a).1.tier, (f a).2, key⟩ := by
  rw [dues, zipIdx_map, filterMap_map]
  rfl

theorem le_rule (h : c ∈ dues call scopes first) : first ≤ c.rule := by
  obtain ⟨⟨⟨scope, quota⟩, i⟩, hm, hc⟩ := mem_filterMap.mp h
  obtain ⟨key, _, rfl⟩ := Option.map_eq_some_iff.mp hc
  exact (mem_zipIdx hm).left

theorem used_cons_of_room (h : c.hasRoom ledger v) : used ledger v (c :: cs) = c.grant v :: used ledger v cs := by
  simp [used, h]

theorem used_cons_of_full (h : c.hasRoom ledger v = false) : used ledger v (c :: cs) = [] := by
  simp [used, h]

theorem refusal?_cons_of_room (h : c.hasRoom ledger v) : refusal? ledger v (c :: cs) = refusal? ledger v cs := by
  simp [refusal?, h]

theorem refusal?_cons_of_full (h : c.hasRoom ledger v = false) : refusal? ledger v (c :: cs) = some c := by
  simp [refusal?, h]

theorem used_of_room (h : ∀ c ∈ cs, c.hasRoom ledger v) : used ledger v cs = cs.map (·.grant v) := by
  rw [used, takeWhile_eq_self_iff.mpr h]

theorem used_append_of_full {before after : List Charge} (hb : ∀ b ∈ before, b.hasRoom ledger v)
    (hc : ¬c.hasRoom ledger v) : used ledger v (before ++ c :: after) = before.map (·.grant v) := by
  rw [used, takeWhile_append_of_pos hb, takeWhile_cons_of_neg hc, append_nil]

theorem outcome_eq_ok : outcome (refusal? ledger v cs) = .ok () ↔ ∀ c ∈ cs, c.hasRoom ledger v := by
  have hn : refusal? ledger v cs = none ↔ ∀ c ∈ cs, c.hasRoom ledger v := by simp [refusal?]
  rw [← hn]
  cases refusal? ledger v cs <;> simp [outcome]

theorem outcome_eq_error {e : Fault} : outcome (refusal? ledger v cs) = .error e ↔
    ∃ before c after, cs = before ++ c :: after ∧ (∀ b ∈ before, b.hasRoom ledger v) ∧ ¬c.hasRoom ledger v ∧
      e = .limited c.tier := by
  have hs (c : Charge) : refusal? ledger v cs = some c ↔
      ¬c.hasRoom ledger v ∧ ∃ before after, cs = before ++ c :: after ∧ ∀ b ∈ before, b.hasRoom ledger v := by
    simp [refusal?, find?_eq_some_iff_append]
  constructor
  case mp =>
    intro h
    cases hr : refusal? ledger v cs
    case none => rw [hr] at h; cases h
    case some c =>
      rw [hr] at h
      cases h
      have ⟨hc, before, after, he, hb⟩ := (hs c).mp hr
      exact ⟨before, c, after, he, hb, hc, rfl⟩
  case mpr =>
    rintro ⟨before, c, after, he, hb, hc, rfl⟩
    rw [(hs c).mpr ⟨hc, before, after, he, hb⟩, outcome]

theorem mem_used {g : Grant} (h : g ∈ used ledger v cs) : g.side = v.side ∧ ∃ c ∈ cs, g.rule = c.rule := by
  obtain ⟨c, hc, rfl⟩ := mem_map.mp h
  exact ⟨rfl, c, (takeWhile_sublist _).mem hc, rfl⟩

-- Whether there is room for a call on one side is a matter of the slots used up on that side.
theorem hasRoom_filter_side (ledger : Ledger) (v : Visit) (c : Charge) :
    c.hasRoom (ledger.filter (·.side = v.side)) v = c.hasRoom ledger v := by
  have ht : Ledger.times (ledger.filter (·.side = v.side)) v.side c.rule c.key = ledger.times v.side c.rule c.key := by
    simp only [Ledger.times, filter_filter]
    congr 2
    funext g
    by_cases h : g.side = v.side <;> simp [h]
  rw [Charge.hasRoom, Charge.hasRoom, ht]

theorem used_filter_side (ledger : Ledger) (v : Visit) (cs : List Charge) :
    used (ledger.filter (·.side = v.side)) v cs = used ledger v cs := by
  simp only [used, hasRoom_filter_side]

theorem refusal?_filter_side (ledger : Ledger) (v : Visit) (cs : List Charge) :
    refusal? (ledger.filter (·.side = v.side)) v cs = refusal? ledger v cs := by
  simp only [refusal?, hasRoom_filter_side]

end

-- A rule for services applies to the calls whose method starts so, and charges them all to one key.
def ServiceRule.due? (s : ServiceRule) (call : Call) (rule : Nat) : Option Charge :=
  if s.stem.toList <+: call.method.toList then some ⟨rule, .service, s.quota, "service:" ++ s.stem⟩ else none

-- A rule for a business key applies to the calls of its method that say which key they are for.
def BusinessKeyRule.due? (b : BusinessKeyRule) (call : Call) (rule : Nat) : Option Charge :=
  if call.method = b.method then
    ((call.field? b.field).bind Scope.chargeText?).map fun text =>
      ⟨rule, .businessKey, b.quota, b.method ++ ":" ++ text⟩
  else none

theorem ServiceRule.due?_eq (s : ServiceRule) (call : Call) (rule : Nat) : s.due? call rule =
    ((Scope.service s.stem ("service:" ++ s.stem)).key? call).map fun key => ⟨rule, .service, s.quota, key⟩ := by
  rw [due?, Scope.key?]
  simp only [← isPrefixOf_iff_prefix]
  split <;> rfl

theorem BusinessKeyRule.due?_eq (b : BusinessKeyRule) (call : Call) (rule : Nat) : b.due? call rule =
    ((Scope.businessKey b.method b.field).key? call).map fun key => ⟨rule, .businessKey, b.quota, key⟩ := by
  rw [due?, Scope.key?]
  split
  case isTrue  => rw [Option.map_map]; rfl
  case isFalse => rfl

namespace Rules

variable {r : Rules} {vs : List Visit} {v : Visit}

-- The rules that apply to a call: that for all calls, then those for services, and those for business keys, each
-- in the order of the settings. No rule applies on a side that is not covered.
def dues (r : Rules) (v : Visit) : List Charge :=
  if r.reach.covers v.side then
    r.global.toList.map (⟨0, .global, ·, "global"⟩) ++
      (r.services.zipIdx r.global.toList.length).filterMap (fun (s, rule) => s.due? v.call rule) ++
      (r.businessKeys.zipIdx (r.global.toList.length + r.services.length)).filterMap
        (fun (b, rule) => b.due? v.call rule)
  else []

-- The chains of rules make their checks in this order.
theorem dues_eq (r : Rules) (v : Visit) :
    r.dues v = if r.reach.covers v.side then Sluice.dues v.call r.scopes 0 else [] := by
  have hg : Sluice.dues v.call (r.global.toList.map fun q => (.everything "global", q)) 0 =
      r.global.toList.map (⟨0, .global, ·, "global"⟩) := by
    cases r.global <;> rfl
  rw [dues, scopes, dues_append, dues_append, hg, dues_map, dues_map]
  simp only [ServiceRule.due?_eq, BusinessKeyRule.due?_eq, length_append, length_map, Nat.zero_add]
  rfl

-- The slots that calls have used up one after another.
def ledger (r : Rules) (vs : List Visit) : Ledger :=
  vs.foldl (fun ledger v => ledger ++ used ledger v (r.dues v)) []

theorem ledger_snoc (r : Rules) (vs : List Visit) (v : Visit) :
    r.ledger (vs ++ [v]) = r.ledger vs ++ used (r.ledger vs) v (r.dues v) := by
  rw [ledger, foldl_append]
  rfl

-- The two sides keep separate books.
theorem ledger_filter_side (r : Rules) (side : Side) (vs : List Visit) :
    r.ledger (vs.filter (·.side = side)) = (r.ledger vs).filter (·.side = side) := by
  induction vs using reverseRecOn
  case nil => rfl
  case append_singleton vs v hi =>
    rw [filter_append, ledger_snoc, filter_append]
    by_cases hs : v.side = side
    case pos =>
      subst hs
      have hu : (used (r.ledger vs) v (r.dues v)).filter (·.side = v.side) = used (r.ledger vs) v (r.dues v) :=
        filter_eq_self.mpr fun g hg => by simpa using (mem_used hg).left
      rw [filter_singleton, hu]
      simp only [decide_true, cond_true]
      rw [ledger_snoc, hi, used_filter_side]
    case neg =>
      have hu : (used (r.ledger vs) v (r.dues v)).filter (·.side = side) = [] :=
        filter_eq_nil_iff.mpr fun g hg => by simpa [(mem_used hg).left] using hs
      simp only [filter_singleton, hs, decide_false, cond_false, append_nil, hu, hi]

end Rules

end Sluice
