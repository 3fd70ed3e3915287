namespace Sluice

inductive Code where
  | ok
  | cancelled
  | unknown
  | invalidArgument
  | deadlineExceeded
  | notFound
  | permissionDenied
  | resourceExhausted
  | failedPrecondition
  | unimplemented
  | internal
  | unavailable
  | unauthenticated
  deriving DecidableEq, Repr, Inhabited

namespace Code

-- Every code, in the order in which codes are listed.
def all : List Code :=
  [ok, cancelled, unknown, invalidArgument, deadlineExceeded, notFound, permissionDenied, resourceExhausted,
    failedPrecondition, unimplemented, internal, unavailable, unauthenticated]

theorem mem_all (c : Code) : c ∈ all := by
  cases c <;> simp [all]

-- The name of a code, as configurations and answers spell it.
def name : Code → String
  | ok => "OK"
  | cancelled => "CANCELLED"
  | unknown => "UNKNOWN"
  | invalidArgument => "INVALID_ARGUMENT"
  | deadlineExceeded => "DEADLINE_EXCEEDED"
  | notFound => "NOT_FOUND"
  | permissionDenied => "PERMISSION_DENIED"
  | resourceExhausted => "RESOURCE_EXHAUSTED"
  | failedPrecondition => "FAILED_PRECONDITION"
  | unimplemented => "UNIMPLEMENTED"
  | internal => "INTERNAL"
  | unavailable => "UNAVAILABLE"
  | unauthenticated => "UNAUTHENTICATED"

def ofName? (s : String) : Option Code :=
  all.find? (·.name = s)

def ofHttp (status : Nat) : Code :=
  if 200 ≤ status ∧ status ≤ 299 then ok
  else
    match status with
    | 400 => invalidArgument
    | 401 => unauthenticated
    | 403 => permissionDenied
    | 404 => notFound
    | 409 => failedPrecondition
    | 412 => failedPrecondition
    | 429 => resourceExhausted
    | 499 => cancelled
    | 501 => unimplemented
    | 502 => unavailable
    | 503 => unavailable
    | 504 => deadlineExceeded
    | _ => if 500 ≤ status ∧ status ≤ 599 then internal else unknown

def httpStatus : Code → Nat
  | ok => 200
  | cancelled => 499
  | invalidArgument => 400
  | unauthenticated => 401
  | permissionDenied => 403
  | notFound => 404
  | failedPrecondition => 412
  | resourceExhausted => 429
  | unimplemented => 501
  | unavailable => 503
  | deadlineExceeded => 504
  | unknown => 502
  | internal => 502

end Code

-- A code with the text that goes with it: how a call failed.
structure Status where
  code    : Code
  message : String
  deriving DecidableEq, Repr

def Status.text (s : Status) : String :=
  s!"{s.code.name}: {s.message}"

end Sluice
