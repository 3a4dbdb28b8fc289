/-
How long the wait before a retry is.

The wait doubles with every retry, and there are three places at which the doubling ends: a power of two is not taken
beyond the thirty-first, a product that is longer than any time that can be waited is not formed, and no wait is
longer than the longest. As long as the longest wait is a time that can be waited, the second never shows. So a wait
is the lesser of a product and the longest wait (`Retries.nanos_delay`), and all else that is to be known of it is a
matter of that product.

The number of the retry is a count that is kept by key, in 32 bits. It is told here from the calls alone: how often the
key was requeued since it was last forgotten (`Retries.requeuesSince`), up to the width of the count
(`Retries.count_after`). **`delay_law` puts the two together**.
-/
import Mathlib.Algebra.Group.Nat.Defs
import Mathlib.Data.List.Induction
import TrainingJobs.Backoff

set_option autoImplicit false

namespace TrainingJobs

/-! ## Products of a length -/

namespace Duration

/-- The length is one that can be waited. -/
def Waitable (d : Duration) : Prop := d.nanos ≤ longest.nanos

instance (d : Duration) : Decidable d.Waitable := inferInstanceAs (Decidable (_ ≤ _))

/-- `n` times a length, worked out in whole seconds and nanoseconds. What the nanoseconds make beyond a second is
carried over, and there is no answer if the seconds do not fit into a word. -/
def timesInWords? (d : Duration) (n : Nat) : Option Duration :=
  let nanos := d.subsecondNanos * n
  let seconds := d.wholeSeconds * n + nanos / nanosPerSecond
  if seconds < 2 ^ 64 then some ⟨seconds * nanosPerSecond + nanos % nanosPerSecond⟩ else none

/-- The carry loses nothing, and what does not fit is what cannot be waited. -/
theorem timesInWords?_eq (d : Duration) (n : Nat) : d.timesInWords? n = d.times? n := by
  have hsplit : d.nanos = d.wholeSeconds * 1000000000 + d.subsecondNanos :=
    (Nat.div_add_mod' d.nanos 1000000000).symm
  have hproduct : d.nanos * n = d.wholeSeconds * n * 1000000000 + d.subsecondNanos * n := by
    rw [hsplit, Nat.add_mul, Nat.mul_right_comm]
  have hlongest : longest.nanos = 2 ^ 64 * 1000000000 - 1 := rfl
  unfold timesInWords? times?
  simp only [nanosPerSecond]
  rw [hproduct, hlongest]
  generalize d.wholeSeconds * n = seconds
  generalize d.subsecondNanos * n = nanos
  -- Carrying the whole seconds over loses nothing.
  have hcarry : (seconds + nanos / 1000000000) * 1000000000 + nanos % 1000000000 = seconds * 1000000000 + nanos := by
    omega
  rw [hcarry]
  by_cases hfits : seconds + nanos / 1000000000 < 2 ^ 64
  · rw [if_pos hfits, if_pos (by omega)]
  · rw [if_neg hfits, if_neg (by omega)]

end Duration

/-! ## The wait -/

namespace Retries

variable {r : Retries} {retry retry' : Nat}

/-- The wait as it is formed: a product that does not fit counts as the longest wait. -/
theorem delay_eq (r : Retries) (retry : Nat) :
    r.delay retry = ((r.base.times? (2 ^ doublings retry)).map (·.min r.longest)).getD r.longest := by
  have hpow : Nat.pow 2 (doublings retry) = 2 ^ doublings retry := rfl
  unfold delay
  rw [hpow]
  cases r.base.times? (2 ^ doublings retry) <;> rfl

/-- A wait is the lesser of the base, doubled as often as it is, and the longest wait. -/
theorem nanos_delay (hlongest : r.longest.Waitable) (retry : Nat) :
    (r.delay retry).nanos = min (r.base.nanos * 2 ^ doublings retry) r.longest.nanos := by
  rw [delay_eq, Duration.times?]
  by_cases hfits : r.base.nanos * 2 ^ doublings retry ≤ Duration.longest.nanos
  · simp only [if_pos hfits, Option.map_some, Option.getD_some, Duration.min]
    split
    · next h => exact (Nat.min_eq_left h).symm
    · next h => exact (Nat.min_eq_right (Nat.le_of_not_le h)).symm
  · -- What is longer than any time that can be waited is longer than the longest wait.
    simp only [if_neg hfits, Option.map_none, Option.getD_none]
    have hlonger : r.longest.nanos ≤ r.base.nanos * 2 ^ doublings retry :=
      Nat.le_trans hlongest (Nat.le_of_not_le hfits)
    exact (Nat.min_eq_right hlonger).symm

/-- Later retries are doubled at least as often. -/
theorem doublings_mono (h : retry ≤ retry') : doublings retry ≤ doublings retry' := by
  unfold doublings
  simp only [Nat.min_def]
  split <;> split <;> omega

/-- Up to the thirty-second retry each is doubled once more than the one before. -/
theorem doublings_eq_of_le (h : retry ≤ 32) : doublings retry = max retry 1 - 1 := by
  unfold doublings
  simp only [Nat.min_def]
  split <;> omega

/-- After it no more. -/
theorem doublings_of_lt (h : 32 < retry) : doublings retry = 31 := by
  unfold doublings
  simp only [Nat.min_def]
  split <;> omega

/-- A length doubled more often is no shorter. -/
theorem doubled_mono (nanos : Nat) {m n : Nat} (h : m ≤ n) : nanos * 2 ^ m ≤ nanos * 2 ^ n :=
  Nat.mul_le_mul_left nanos (Nat.pow_le_pow_right (by decide) h)

/-- So later retries never wait less, as long as the longest wait can be represented. -/
theorem delay_mono (hlongest : r.longest.Waitable) (h : retry ≤ retry') :
    (r.delay retry).nanos ≤ (r.delay retry').nanos := by
  have hdoubled := doubled_mono r.base.nanos (doublings_mono h)
  rw [nanos_delay hlongest, nanos_delay hlongest]
  omega

/-- Until the thirty-second retry, and for good if by then the longest wait is reached, the wait is the base doubled
with every retry but the first, up to the longest wait. -/
theorem nanos_delay_eq (hlongest : r.longest.Waitable)
    (h : retry ≤ 32 ∨ r.longest.nanos ≤ r.base.nanos * 2 ^ 31) :
    (r.delay retry).nanos = min (r.base.nanos * 2 ^ (max retry 1 - 1)) r.longest.nanos := by
  rw [nanos_delay hlongest]
  by_cases hretry : retry ≤ 32
  · rw [doublings_eq_of_le hretry]
  · -- From here on both are the longest wait.
    have hreached := h.resolve_left hretry
    have hmore := doubled_mono r.base.nanos (show 31 ≤ max retry 1 - 1 by omega)
    rw [doublings_of_lt (by omega)]
    omega

/-! ## The count -/

/-- Something that changes the counts. -/
inductive Call where
  | requeue (key : String)
  | forget (key : String)
  deriving DecidableEq

/-- What it makes of them. -/
def Call.make (r : Retries) : Call → Retries
  | requeue key => (r.requeue key).2
  | forget key => r.forget key

def after (calls : List Call) (r : Retries) : Retries := calls.foldl Call.make r

/-- How often the key was requeued since it was last forgotten. -/
def requeuesSince (calls : List Call) (key : String) : Nat :=
  (calls.reverse.takeWhile (· ≠ .forget key)).count (.requeue key)

/-- No key was requeued yet. -/
def new (base longest : Duration) : Retries := { base := base, longest := longest }

/-- One more retry counts for its own key. -/
theorem requeuesSince_append_requeue (calls : List Call) (key key' : String) :
    requeuesSince (calls ++ [.requeue key']) key = requeuesSince calls key + if key' = key then 1 else 0 := by
  unfold requeuesSince
  rw [List.reverse_append, List.reverse_singleton, List.singleton_append, List.takeWhile_cons]
  simp only [ne_eq, reduceCtorEq, not_false_eq_true, decide_true, if_true]
  rw [List.count_cons]
  simp

/-- Forgetting starts its own key anew, and no other. -/
theorem requeuesSince_append_forget (calls : List Call) (key key' : String) :
    requeuesSince (calls ++ [.forget key']) key = if key' = key then 0 else requeuesSince calls key := by
  unfold requeuesSince
  rw [List.reverse_append, List.reverse_singleton, List.singleton_append, List.takeWhile_cons]
  by_cases hkey : key' = key
  · simp [hkey]
  · simp [hkey]

/-- **The count of a key is the number of its requeues since it was last forgotten**, up to the width of the count. -/
theorem count_after (base longest : Duration) (calls : List Call) (key : String) :
    ((new base longest).after calls).count key = requeuesSince calls key % 2 ^ 32 := by
  -- A call counts for what comes after it, so the calls are taken from their end.
  induction calls using List.reverseRecOn with
  | nil => rfl
  | append_singleton calls call ih =>
    have hstep : (new base longest).after (calls ++ [call]) = Call.make ((new base longest).after calls) call := by
      simp [after, List.foldl_append]
    rw [hstep]
    cases call with
    | requeue key' =>
      rw [requeuesSince_append_requeue, Call.make, count_requeue, ih]
      split
      · exact Nat.mod_add_mod _ _ _
      · rw [Nat.add_zero]
    | forget key' =>
      rw [requeuesSince_append_forget, Call.make, count_forget, ih]
      split
      · rfl
      · rfl

/-- The last of several calls comes after the others. -/
theorem after_append_requeue (r : Retries) (calls : List Call) (key : String) :
    r.after (calls ++ [.requeue key]) = ((r.after calls).requeue key).2 := by
  rw [after, List.foldl_append]
  rfl

/-- Counting changes no bound of the wait. -/
theorem delay_after (r : Retries) (calls : List Call) (retry : Nat) : (r.after calls).delay retry = r.delay retry := by
  unfold after
  induction calls generalizing r with
  | nil => rfl
  | cons call rest ih =>
    rw [List.foldl_cons, ih]
    cases call <;> rfl

end Retries

/-- **The law of the wait.** It is worked out in words, but no word shows in it: it never gets shorter from one retry to
a later one, it is never longer than the longest wait nor shorter than the base unless the longest wait is, and it is
the base doubled with every retry but the first, up to the longest wait; this to the thirty-second retry, or for good
if the longest wait is reached by then. And the wait that is answered to a requeue is that of the number of requeues
of the key since it was last forgotten, the present one among them. That number is kept in 32 bits, so after `2^32`
requeues without a break it would begin anew. -/
theorem delay_law (base : Duration) {longest : Duration} (hlongest : longest.Waitable) :
    let r := Retries.new base longest
    (∀ retry, r.delay retry =
      ((base.timesInWords? (2 ^ min (retry - 1) 31)).map (·.min longest)).getD longest) ∧
    (∀ retry retry', retry ≤ retry' → (r.delay retry).nanos ≤ (r.delay retry').nanos) ∧
    (∀ retry, (r.delay retry).nanos ≤ longest.nanos ∧ min base.nanos longest.nanos ≤ (r.delay retry).nanos) ∧
    (∀ retry, retry ≤ 32 ∨ longest.nanos ≤ base.nanos * 2 ^ 31 →
      (r.delay retry).nanos = min (base.nanos * 2 ^ (max retry 1 - 1)) longest.nanos) ∧
    ∀ (calls : List Retries.Call) (key : String), let n := Retries.requeuesSince (calls ++ [.requeue key]) key
      (n < 2 ^ 32 → ((r.after calls).requeue key).1 = r.delay n) ∧
        ((r.after calls).requeue key).1 = r.delay (n % 2 ^ 32) := by
  intro r
  refine ⟨?_, ?_, ?_, ?_, ?_⟩
  · intro retry
    rw [Duration.timesInWords?_eq]
    exact Retries.delay_eq r retry
  · intro retry retry' h
    exact Retries.delay_mono hlongest h
  · intro retry
    have hdelay : (r.delay retry).nanos = min (base.nanos * 2 ^ Retries.doublings retry) longest.nanos :=
      Retries.nanos_delay hlongest retry
    have hbase : base.nanos * 2 ^ 0 ≤ base.nanos * 2 ^ Retries.doublings retry :=
      Retries.doubled_mono base.nanos (Nat.zero_le _)
    omega
  · intro retry h
    exact Retries.nanos_delay_eq hlongest h
  · intro calls key n
    -- `requeue` counts before it asks for the delay, so the delay is that of the count after.
    have hwait := Retries.delay_requeue (r.after calls) key
    rw [← Retries.after_append_requeue, Retries.delay_after, Retries.count_after] at hwait
    refine ⟨fun hfits => ?_, hwait⟩
    rw [hwait, Nat.mod_eq_of_lt hfits]

/-- With the bounds that there are unless others are configured the longest wait is reached before the thirty-second
retry. A key that was forgotten begins anew. -/
theorem delay_law_standard :
    let r := Retries.new Retries.defaultBase Retries.defaultLongest
    Retries.defaultLongest.Waitable ∧
      Retries.defaultLongest.nanos ≤ Retries.defaultBase.nanos * 2 ^ 31 ∧
      (r.delay 3).nanos ≤ (r.delay 40).nanos ∧ (r.delay 40).nanos = 1000000000000 ∧
      ((r.after [.requeue "a", .requeue "b", .forget "a", .requeue "a"]).requeue "a").1 = .ofMillis 10 := by
  intro r
  have hlongest : Retries.defaultLongest.Waitable := by decide
  have hreached : Retries.defaultLongest.nanos ≤ Retries.defaultBase.nanos * 2 ^ 31 := by decide
  obtain ⟨-, hmono, -, hexact, hcalls⟩ := delay_law Retries.defaultBase hlongest
  refine ⟨hlongest, hreached, hmono 3 40 (by decide), (hexact 40 (.inr hreached)).trans (by decide), ?_⟩
  exact ((hcalls _ "a").1 (by decide +kernel)).trans (by decide +kernel)

end TrainingJobs
