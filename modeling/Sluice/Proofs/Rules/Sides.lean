import Mathlib
import Sluice.Rules

open List

namespace Sluice

-- The two places where calls are checked.
inductive Side where
  | server
  | client
  deriving DecidableEq

def Side.name : Side → String
  | server => "server"
  | client => "client"

def Reach.covers : Reach → Side → Bool
  | server, side => side = .server
  | client, side => side = .client
  | both,   _    => true

def Admission.chain (a : Admission) : Side → Chain Limiter
  | .server => a.server
  | .client => a.client

namespace Rules

variable {r : Rules} {side : Side} {check : Check Limiter} {scopes : List (Scope × Quota)} {stem : String}
         {made : List Limiter}

-- Checks whose limiters take the places from `first` on.
def checksFrom (stem : String) (scopes : List (Scope × Quota)) (first : Nat) : List (Check Limiter) :=
  (scopes.zipIdx first).map fun ((scope, quota), slot) => ⟨scope, { slot, quota, keyStem := stem }⟩

-- Limiters are made in the order of the checks, and none is made twice or lost.
theorem makeChecks_eq : makeChecks stem scopes made =
    (checksFrom stem scopes made.length, made ++ (checksFrom stem scopes made.length).map (·.limiter)) := by
  induction scopes generalizing made
  case nil => simp [makeChecks, checksFrom]
  case cons x scopes hi => simp [makeChecks, Limiter.make, checksFrom, hi]

@[simp] theorem checksFrom_length (stem : String) (scopes : List (Scope × Quota)) (first : Nat) :
    (checksFrom stem scopes first).length = scopes.length := by
  simp [checksFrom]

theorem checksFrom_scopes (stem : String) (scopes : List (Scope × Quota)) (first : Nat) :
    (checksFrom stem scopes first).map (·.scope) = scopes.map Prod.fst := by
  conv_rhs => rw [← zipIdx_map_fst first scopes]
  simp only [checksFrom, map_map]
  rfl

theorem build_memory (h : r.shelf = .memory) : r.build = .ok r.admission := by
  rw [build, h]

theorem admission_of_build {a : Admission} (h : r.build = .ok a) : a = r.admission := by
  rw [build] at h
  split at h
  case h_1 => exact (Except.ok.inj h).symm
  case h_2 => split at h <;> cases h; rfl

-- Where the places of the limiters of a side begin.
def first (r : Rules) : Side → Nat
  | .server => 0
  | .client => if r.reach.covers .server then r.scopes.length else 0

-- The checks of a side that is covered.
def checks (r : Rules) (side : Side) : List (Check Limiter) :=
  checksFrom (r.keyStem ++ side.name ++ ":") r.scopes (r.first side)

-- A side that is covered has a check for each rule, and a side that is not covered has none.
theorem admission_checks (r : Rules) (side : Side) :
    (r.admission.chain side).checks = if r.reach.covers side then r.checks side else [] := by
  cases side <;> cases hr : r.reach <;>
    simp [Admission.chain, admission, chain, makeChecks_eq, checks, Reach.covers, Reach.coversServer,
      Reach.coversClient, Side.name, first, Chain.permissive, hr]

-- Every limiter that was made is that of a check, and the other way round.
theorem admission_limiters (r : Rules) : r.admission.limiters =
    ((r.admission.chain .server).checks ++ (r.admission.chain .client).checks).map (·.limiter) := by
  cases hs : r.reach.coversServer <;> cases hc : r.reach.coversClient <;>
    simp [Admission.chain, admission, chain, makeChecks_eq, Chain.permissive, hs, hc]

theorem checks_scopes (r : Rules) (side : Side) : (r.checks side).map (·.scope) = r.scopes.map Prod.fst :=
  checksFrom_scopes ..

theorem keyStem_eq (side : Side) (h : check ∈ (r.admission.chain side).checks) :
    check.limiter.keyStem = r.keyStem ++ side.name ++ ":" := by
  rw [admission_checks] at h
  split at h
  case isTrue  => obtain ⟨_, _, rfl⟩ := mem_map.mp h; rfl
  case isFalse => cases h

end Rules

end Sluice
