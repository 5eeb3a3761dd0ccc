import Outbound.Bucket
import Outbound.Failure

/-! # Planning buckets

A bucket is planned by a number of requests per minute, or by its capacity and rate.

* `BucketPlan.build` makes a full bucket, unless it could hold no token or would never be
  refilled. -/

namespace Outbound

/-- What a bucket is to be like. -/
inductive BucketPlan where
  /-- A number of requests per minute, which may also be made at once. -/
  | perMinute (count : Nat)
  /-- The tokens the bucket can hold, and the tokens gained in a second. -/
  | steady (capacity : Nat) (rate : Float)

namespace BucketPlan

/-- The tokens a planned bucket can hold. -/
def capacity : BucketPlan → Nat
  | .perMinute count => count
  | .steady capacity _ => capacity

/-- The tokens a planned bucket gains in a second. -/
def rate : BucketPlan → Float
  | .perMinute count => Float.ofNat count / Float.ofNat 60
  | .steady _ rate => rate

/-- The full bucket of a plan. -/
def build (plan : BucketPlan) (now : Instant) : Except SetupError (Bucket Float) :=
  if plan.capacity = 0 then .error (.rateLimit plan.capacity)
  else if Double.isFinite plan.rate && Float.ofNat 0 < plan.rate then
    .ok (.full (.ofNat plan.capacity) plan.rate now)
  else .error (.refillRate plan.rate)

end BucketPlan

end Outbound
