import Mathlib.Algebra.Order.Field.Rat
import PaymentSystem.Async.Table
import PaymentSystem.Model.Helpers

namespace PaymentModel

open Async

/-- `RATE_LIMIT_WINDOW_MS` and `RATE_LIMIT_MAX_REQUESTS`. -/
structure RateLimits where
  windowMs : Rat
  maxRequests : Nat
  windowMs_pos : 0 < windowMs
  maxRequests_pos : 0 < maxRequests

/-- What `rateLimiter` reads of a request, of the clock and of `Math.random`. -/
structure LimitedRequest where
  ip : Option String
  remoteAddress : Option String
  now : Nat
  random : JsNumber

namespace LimitedRequest

variable (request : LimitedRequest)

/-- `req.ip || req.socket.remoteAddress || 'unknown'`. -/
def clientIp : String :=
  if truthy request.ip then request.ip.getD ""
  else if truthy request.remoteAddress then request.remoteAddress.getD ""
  else "unknown"

def key : String := "ratelimit:" ++ request.clientIp

def member : String := Nat.repr request.now ++ ":" ++ request.random.toText

end LimitedRequest

structure ScoredMember where
  member : String
  score : Nat

/-- A sorted set of Redis; an empty one stands for a key that does not exist. -/
structure SortedSet where
  members : Table String ScoredMember ScoredMember.member := .empty
  expiresAt : Option Rat := none

namespace SortedSet

/-- The set as it is found at `now`: an expired key is gone. -/
def liveAt (set : SortedSet) (now : Nat) : SortedSet :=
  if set.expiresAt.any fun deadline => deadline ≤ (now : Rat) then {} else set

def zremrangebyscore (set : SortedSet) (min max : Rat) : Nat × SortedSet :=
  let members := set.members.filter fun entry => !(min ≤ entry.score && entry.score ≤ max)
  (set.members.rows.length - members.rows.length, { set with members })

def zcard (set : SortedSet) : Nat := set.members.rows.length

def zadd (set : SortedSet) (score : Nat) (member : String) : Nat × SortedSet :=
  let members := set.members.upsert { member, score }
  (members.rows.length - set.members.rows.length, { set with members })

/-- The time to live is a whole number of milliseconds. -/
def pexpire (set : SortedSet) (now : Nat) (ms : Rat) : Except JsError Nat × SortedSet :=
  if ms.den = 1 then (.ok 1, { set with expiresAt := some (now + ms) })
  else (.error (.other "ERR value is not an integer or out of range"), set)

end SortedSet

/-- The sorted sets of Redis by their keys. -/
abbrev RateStore : Type := String → SortedSet

variable (limits : RateLimits)

/-- The four commands of the pipeline on the set of one key. -/
def rateLimitPipeline (request : LimitedRequest) (set : SortedSet) : List (Except JsError Nat) × SortedSet :=
  let windowStart := request.now - limits.windowMs
  let trimmed := (set.liveAt request.now).zremrangebyscore 0 windowStart
  let added := trimmed.2.zadd request.now request.member
  let expiring := added.2.pexpire request.now limits.windowMs
  ([.ok trimmed.1, .ok trimmed.2.zcard, .ok added.1, expiring.1], expiring.2)

/-- The response headers that are set, and what `next` is called with. -/
structure RateLimitAnswer where
  headers : List (String × String)
  error : Option JsError

/-- `rateLimiter` once the pipeline has been executed; it fails open. -/
def rateLimiter (now : Nat) (results : Except JsError (List (Except JsError Nat))) : RateLimitAnswer :=
  match results with
  | .error _ => { headers := [], error := none }
  | .ok results =>
    let currentCount := match results.getD 1 (.ok 0) with
      | .ok count => count
      | .error _ => 0
    let remaining := limits.maxRequests - currentCount - 1
    let resetTime := ((now + limits.windowMs) / 1000).ceil
    let headers := [("X-RateLimit-Limit", Nat.repr limits.maxRequests),
      ("X-RateLimit-Remaining", Nat.repr remaining), ("X-RateLimit-Reset", toString resetTime)]
    if limits.maxRequests ≤ currentCount then
      let retryAfterSeconds := (limits.windowMs / 1000).ceil.toNat
      { headers := headers ++ [("Retry-After", Nat.repr retryAfterSeconds)]
        error := some (rateLimitError retryAfterSeconds) }
    else { headers, error := none }

/-- A request on a store that answers: the pipeline is one step. -/
def limitRequest (store : RateStore) (request : LimitedRequest) : RateLimitAnswer × RateStore :=
  let executed := rateLimitPipeline limits request (store request.key)
  (rateLimiter limits request.now (.ok executed.1), Function.update store request.key executed.2)

/-- The answers to the requests, handled one after the other. -/
def limitRequests : RateStore → List LimitedRequest → List (LimitedRequest × RateLimitAnswer)
  | _, [] => []
  | store, request :: requests =>
    let limited := limitRequest limits store request
    (request, limited.1) :: limitRequests limited.2 requests

/-- The requests that are let through: `next` is called without an error. -/
def letThrough (store : RateStore) (requests : List LimitedRequest) : List LimitedRequest :=
  ((limitRequests limits store requests).filter fun entry => entry.2.error.isNone).map Prod.fst

end PaymentModel
