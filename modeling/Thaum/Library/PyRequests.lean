import Thaum.Library.PyJson

/-!
# Outcomes of HTTP requests

A call of `requests` raises, or answers with a status and a body that is JSON or
not. `raise_for_status` raises for the client and server errors, and `json()` for
a body that is not JSON; most callers use both.
-/

namespace PyRequests

open PyJson

/-- How a request ends; the body is `none` where `json()` raises. -/
inductive Response where
  | raised : Response
  | answered : (status : Nat) → (body : Option Json) → Response

namespace Response

/-- The request and `raise_for_status()` go through. -/
def ok : Response → Bool
  | raised => false
  | answered status _ => !decide (400 ≤ status ∧ status < 600)

/-- `json()` of a response that came through; `none` where either raises. -/
def json? : Response → Option Json
  | raised => none
  | answered status body => if 400 ≤ status ∧ status < 600 then none else body

/-- Neither the request, `raise_for_status()` nor `json()` raises. -/
def failed (response : Response) : Bool := response.json?.isNone

end Response

end PyRequests
