import Sluice.Proofs.Gateway.Accepted
import Sluice.Proofs.Gateway.Length

open List

namespace Sluice

namespace Request

-- What comes in of a body before a piece of it is broken.
def intact : List Frame → Bytes
  | []                 => []
  | .data bs :: frames => bs ++ intact frames
  | .broken _ :: _     => []

-- What is told of the first piece that is broken.
def breakage? : List Frame → Option String
  | []                  => none
  | .data _ :: frames   => breakage? frames
  | .broken reason :: _ => some reason

-- What a body carries: nothing at all, or JSON.
inductive Carries : Bytes → Json → Prop
  | nothing : Carries [] .null
  | json (hb : body ≠ []) (hv : Json.read body = .ok v) : Carries body v

-- What is looked at, in this order, before any limiter is asked.
inductive Stage where
  | method
  | declared
  | path
  | length
  | transfer
  | payload
  deriving DecidableEq

namespace Stage

def all : List Stage :=
  [method, declared, path, length, transfer, payload]

-- The status of the answer to a request that gets no further.
def status : Stage → Nat
  | method   => 405
  | declared => 413
  | path     => 400
  | length   => 413
  | transfer => 400
  | payload  => 400

def Passes (limit : Nat) (req : Request) : Stage → Prop
  | method   => req.method = "POST"
  | declared => ∀ n, req.headers.Declares n → n ≤ limit
  | path     => ∃ c ∈ req.path.toList, c ≠ '/'
  | length   => (intact req.frames).length ≤ limit
  | transfer => ∀ reason, .broken reason ∉ req.frames
  | payload  => ∃ v, Carries (intact req.frames) v

-- What a request is told that gets no further.
def fault? (limit : Nat) (req : Request) : Stage → Option Fault
  | method   => if req.method = "POST" then none else some .methodNotAllowed
  | declared => if req.declaredLength?.any (limit < ·) then some (.bodyTooLarge limit) else none
  | path     => if req.path.toList.all (· = '/') then some (.badRequest "request path must name the method") else none
  | length   => if limit < (intact req.frames).length then some (.bodyTooLarge limit) else none
  | transfer => (breakage? req.frames).map fun reason => .badRequest s!"failed to read request body: {reason}"
  | payload  =>
    if intact req.frames = [] then none
    else
      match Json.read (intact req.frames) with
      | .ok _    => none
      | .error m => some (.malformed m)

end Stage

section

variable {req : Request} {limit room : Nat} {frames : List Frame} {stage : Stage} {e : Fault} {call : Call}

theorem breakage?_eq_none : breakage? frames = none ↔ ∀ reason, .broken reason ∉ frames := by
  induction frames
  case nil => simp [breakage?]
  case cons frame frames hi =>
    cases frame
    case data bs => simp [breakage?, hi]
    case broken reason =>
      simp only [breakage?, reduceCtorEq, false_iff, not_forall, not_not]
      exact ⟨reason, mem_cons_self⟩

theorem Carries.read_eq_ok {body : Bytes} {v : Json} (h : Carries body v) (hb : body ≠ []) :
    Json.read body = .ok v := by
  cases h
  case nothing    => exact absurd rfl hb
  case json _ hv  => exact hv

theorem Carries.unique {body : Bytes} {u v : Json} (hu : Carries body u) (hv : Carries body v) : u = v := by
  cases hu
  case nothing =>
    cases hv
    case nothing   => rfl
    case json hb _ => exact absurd rfl hb
  case json hb hu => exact Except.ok.inj (hu.symm.trans (hv.read_eq_ok hb))

-- A body is too long if so much comes in before a piece of it is broken, and only otherwise is it broken.
theorem readBody_eq (limit : Nat) (frames : List Frame) : readBody limit frames =
    if limit < (intact frames).length then .error (.bodyTooLarge limit)
    else match breakage? frames with
      | some reason => .error (.badRequest s!"failed to read request body: {reason}")
      | none        => .ok (intact frames) := by
  suffices h : ∀ room, readBody.go limit room frames =
      if room < (intact frames).length then .error (.bodyTooLarge limit)
      else match breakage? frames with
        | some reason => .error (.badRequest s!"failed to read request body: {reason}")
        | none        => .ok (intact frames) from h limit
  induction frames <;> intro room
  case nil => simp [readBody.go, intact, breakage?]
  case cons frame frames hi =>
    cases frame
    case broken => simp [readBody.go, intact, breakage?]
    case data bs =>
      rw [readBody.go, intact, length_append, breakage?]
      by_cases hb : room < bs.length
      case pos => rw [if_pos hb, if_pos (by omega)]
      case neg =>
        rw [if_neg hb, hi]
        by_cases hl : room < bs.length + (intact frames).length
        case pos =>
          rw [if_pos hl, if_pos (by omega)]
          rfl
        case neg =>
          rw [if_neg hl, if_neg (by omega)]
          cases breakage? frames <;> rfl

theorem readPayload_of_ne_nil {body : Bytes} (h : body ≠ []) :
    readPayload body = (Json.read body).mapError .malformed := by
  rw [readPayload, if_neg (by simpa using h)]
  cases Json.read body <;> rfl

theorem readPayload_eq_ok {body : Bytes} {v : Json} : readPayload body = .ok v ↔ Carries body v := by
  constructor
  case mp =>
    intro h
    by_cases hb : body = []
    case pos =>
      obtain rfl := hb
      cases h
      exact .nothing
    case neg =>
      rw [readPayload_of_ne_nil hb] at h
      cases hv : Json.read body <;> rw [hv] at h <;> cases h
      exact .json hb hv
  case mpr =>
    intro h
    cases h
    case nothing    => rfl
    case json hb hv => rw [readPayload_of_ne_nil hb, hv, Except.mapError]

namespace Stage

theorem mem_all (stage : Stage) : stage ∈ all := by
  cases stage <;> decide

theorem fault?_eq_none : stage.fault? limit req = none ↔ stage.Passes limit req := by
  cases stage <;> simp only [fault?, Passes]
  case method   => simp
  case declared =>
    simp only [← declaredLength?_eq_some]
    cases req.declaredLength? <;> simp
  case path     => simp
  case length   => simp
  case transfer => rw [Option.map_eq_none_iff, breakage?_eq_none]
  case payload  =>
    simp only [← readPayload_eq_ok]
    split
    case isTrue h  => exact iff_of_true rfl ⟨.null, by rw [h]; rfl⟩
    case isFalse h =>
      rw [readPayload_of_ne_nil h]
      cases Json.read (intact req.frames) <;> simp [Except.mapError]

theorem status_of_fault? (h : stage.fault? limit req = some e) : e.httpStatus = stage.status := by
  cases stage <;> simp only [fault?] at h
  case transfer =>
    have ⟨_, _, he⟩ := Option.map_eq_some_iff.mp h
    rw [← he]
    rfl
  case payload =>
    split at h
    case isTrue  => cases h
    case isFalse => split at h <;> cases h; rfl
  all_goals split at h <;> cases h; rfl

end Stage

-- The first stage that a request does not pass decides what it is told.
theorem accept_eq (req : Request) (limit : Nat) : req.accept limit =
    match Stage.all.findSome? (·.fault? limit req) with
    | some e => .error e
    | none   => (readPayload (intact req.frames)).map fun payload => .make req.path payload req.headers := by
  simp only [accept, readCall, throw_eq_error, error_bind, readBody_eq, Stage.all, findSome?_cons, findSome?_nil,
    Stage.fault?]
  by_cases hm : req.method = "POST"
  case neg => simp [hm]
  by_cases hd : req.declaredLength?.any (limit < ·)
  case pos => simp [hm, hd]
  by_cases hp : req.path.toList.all (· = '/')
  case pos => simp [hm, hd, hp]
  by_cases hl : limit < (intact req.frames).length
  case pos => simp [hm, hd, hp, hl]
  cases hb : breakage? req.frames
  case some reason => simp [hm, hd, hp, hl]
  case none =>
    by_cases hn : intact req.frames = []
    case pos => simp [hm, hd, hp, hn, bind, Except.bind, readPayload, Except.map, pure, Except.pure]
    case neg =>
      have hr := readPayload_of_ne_nil hn
      cases hv : Json.read (intact req.frames) <;> rw [hv] at hr <;>
        simp [hm, hd, hp, hl, hn, hr, bind, Except.bind, Except.map, Except.mapError, pure, Except.pure]

theorem accept_of_fault {before after : List Stage} (ha : Stage.all = before ++ stage :: after)
    (hb : ∀ b ∈ before, b.Passes limit req) (hs : ¬stage.Passes limit req) :
    ∃ e, stage.fault? limit req = some e ∧ req.accept limit = .error e := by
  have ⟨e, he⟩ := Option.ne_none_iff_exists'.mp (mt Stage.fault?_eq_none.mp hs)
  have hn : before.findSome? (·.fault? limit req) = none :=
    findSome?_eq_none_iff.mpr fun b hm => Stage.fault?_eq_none.mpr (hb b hm)
  refine ⟨e, he, ?_⟩
  rw [accept_eq, ha, findSome?_append, hn, Option.none_or, findSome?_cons, he]

theorem accept_of_passes (h : ∀ stage : Stage, stage.Passes limit req) :
    ∃ payload, Carries (intact req.frames) payload ∧
      req.accept limit = .ok (.make req.path payload req.headers) := by
  have hn : Stage.all.findSome? (·.fault? limit req) = none :=
    findSome?_eq_none_iff.mpr fun stage _ => Stage.fault?_eq_none.mpr (h stage)
  have ⟨payload, hp⟩ := h .payload
  refine ⟨payload, hp, ?_⟩
  rw [accept_eq, hn, readPayload_eq_ok.mpr hp]
  rfl

-- A call has no body beyond the limit, whatever length the request declares for it.
theorem length_le_of_readCall (h : req.readCall limit = .ok call) : (intact req.frames).length ≤ limit := by
  have ⟨_, body, _, hb, _⟩ := readCall_eq_ok.mp h
  rw [readBody_eq, ite_error_eq_ok] at hb
  exact Nat.le_of_not_lt hb.left

end

end Request

end Sluice
