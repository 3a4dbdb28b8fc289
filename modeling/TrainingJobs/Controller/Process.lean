/-
What a pass over a job means for its next one.

A pass that replaced pods, and one that failed, is repeated with a growing delay and counted as a retry; the
count is what the backoff limit of the job is compared with. It starts anew only when the job is finished or
gone.
-/
import TrainingJobs.Controller.Sync

set_option autoImplicit false

namespace TrainingJobs

/-- When a job is to be looked at again. -/
inductive Action where
  | await
  | requeue (delay : Duration)
  /-- After a while, as a retry. -/
  | retry (delay : Duration)
  deriving DecidableEq, Repr

namespace Controller

variable {σ : Type} [ObjectStore σ]

/-- Tries the job again after a wait, which is counted as a retry. -/
def retry (key : String) (c : Controller σ) : Action × Controller σ :=
  let (delay, c) := c.requeue key
  (.retry delay, c)

/-- Makes a pass over the job under a key, and says when to look at it again (`process_key`). -/
def process (now : Timestamp) (key : String) (c : Controller σ) : Action × Controller σ :=
  let (result, c) := (sync now key).run c
  match result with
  | .ok (.requeue delay) => (.requeue delay, c)
  | .ok .backoff => c.retry key
  | .ok .wait => (.await, c)
  | .ok .done => (.await, c.forget key)
  | .error _ => c.retry key

end Controller

end TrainingJobs
