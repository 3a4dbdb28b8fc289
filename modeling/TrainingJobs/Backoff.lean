/-
Retries: how often each job was tried again, and how long to wait before the next time.

The wait doubles from a base up to a maximum. The count of a job grows until the job is forgotten; the same
count is what the backoff limit of the job is compared with.
-/
import TrainingJobs.Dict
import TrainingJobs.Time.Basic

set_option autoImplicit false

namespace TrainingJobs

/-- The counts of retries, and the bounds of the wait. -/
structure Retries where
  /-- How often each job was tried again, by job key. -/
  counts : Dict String UInt32 := ∅
  base : Duration
  longest : Duration
  deriving DecidableEq, Inhabited

namespace Retries

/-- The wait before the first retry, unless another is configured: five milliseconds. -/
def defaultBase : Duration := .ofMillis 5

/-- The longest wait, unless another is configured: a thousand seconds. -/
def defaultLongest : Duration := .ofSeconds 1000

def standard : Retries := { base := defaultBase, longest := defaultLongest }

/-- How often the wait is doubled before the given retry, counted from one: not after the thirty-second. -/
def doublings (retry : Nat) : Nat := Nat.min (retry - 1) 31

/-- The wait before the given retry, counted from one (`delay`). A wait too long to be represented is the longest. -/
def delay (r : Retries) (retry : Nat) : Duration :=
  match r.base.times? (Nat.pow 2 (doublings retry)) with
  | some d => d.min r.longest
  | none => r.longest

/-- How often the job was tried again since it was last forgotten (`num_requeues`). -/
def count (r : Retries) (key : String) : Nat := ((r.counts.get? key).getD 0).toNat

/-- Counts a retry of the job, and says how long to wait before it (`requeue`). -/
def requeue (r : Retries) (key : String) : Duration × Retries :=
  let n := (r.counts.get? key).getD 0 + 1
  (r.delay n.toNat, { r with counts := r.counts.insert key n })

/-- Starts counting the retries of the job anew (`forget`). -/
def forget (r : Retries) (key : String) : Retries := { r with counts := r.counts.erase key }

/-- A requeue adds one to the count of its key, and the last count that fits is followed by none. -/
theorem count_requeue (r : Retries) (key key' : String) :
    (r.requeue key').2.count key = if key' = key then (r.count key + 1) % UInt32.size else r.count key := by
  unfold requeue count
  by_cases hkey : key' = key
  · subst hkey
    rw [Dict.get?_insert_self, Option.getD_some, UInt32.toNat_add, if_pos rfl]
    rfl
  · rw [Dict.get?_insert_ne _ _ (Ne.symm hkey), if_neg hkey]

/-- A key that is forgotten has not been requeued. -/
theorem count_forget (r : Retries) (key key' : String) :
    (r.forget key').count key = if key' = key then 0 else r.count key := by
  unfold forget count
  rw [Dict.get?_erase]
  by_cases hkey : key' = key
  · subst hkey
    simp [Std.ReflCmp.compare_self]
  · have hne : ¬ compare key key' = .eq := fun h => hkey (Std.LawfulEqCmp.eq_of_compare h).symm
    rw [if_neg hne, if_neg hkey]

/-- The wait that is answered to a requeue is that of the new count. -/
theorem delay_requeue (r : Retries) (key : String) :
    (r.requeue key).1 = r.delay ((r.requeue key).2.count key) := by
  unfold requeue count
  rw [Dict.get?_insert_self, Option.getD_some]

end Retries

end TrainingJobs
