/-
How long a pass waits for what was asked for.

A record that is open holds its job up until it has expired, and how long that takes is told in advance. The two are
worked out apart: a record has expired when it is older than the timeout, and what is told is what is left of the
timeout. They agree to the nanosecond (`Expectations.HoldsUpFor`), because no record is of a later time than it is
now (`Expectations.RecordedBy`), which is so as long as the clock does not go back. A pass is held up by any of the
keys of its job, and the wait that it answers is the shortest that is told for one of them
(`Expectations.EndsFirst`). **`waiting_ends_on_time`** says all of this of every state of the records, and that nothing
is held up for longer than the timeout unless it is recorded anew.
-/
import Mathlib.Tactic.ByContra
import TrainingJobs.Proofs.Outstanding

set_option autoImplicit false

namespace TrainingJobs

open Controller

/-! ## What is done to the records -/

namespace Expectations

/-- Something that is done to the records. -/
inductive Update where
  | set (key : ExpectationKey) (adds dels : Int)
  | lower (key : ExpectationKey) (adds dels : Int)
  | delete (key : ExpectationKey)
  | deleteJob (jobKey : String)

namespace Update

/-- What it makes of them at that time. -/
def make (now : Timestamp) (e : Expectations) : Update → Expectations
  | set key adds dels => e.set key adds dels now
  | lower key adds dels => e.lower key adds dels
  | delete key => e.delete key
  | deleteJob jobKey => e.deleteJob jobKey

/-- The record under the key may be another one afterwards. -/
def Touches (key : ExpectationKey) : Update → Prop
  | set k _ _ | lower k _ _ | delete k => k = key
  | deleteJob jobKey => key.jobKey = jobKey

/-- There is a new record under the key afterwards. -/
def Renews (key : ExpectationKey) : Update → Prop
  | set k _ _ => k = key
  | lower _ _ _ | delete _ | deleteJob _ => False

end Update

/-- The records after updates, one after the other, each at its time. -/
def after (updates : List (Timestamp × Update)) (e : Expectations) : Expectations :=
  updates.foldl (fun e u => u.2.make u.1 e) e

/-- The times of the updates do not go back, and the last of them is not later than now. -/
def Chronological (updates : List (Timestamp × Update)) (now : Timestamp) : Prop :=
  (updates.map (·.1.nanos) ++ [now.nanos]).Pairwise (· ≤ ·)

instance (updates : List (Timestamp × Update)) (now : Timestamp) : Decidable (Chronological updates now) :=
  inferInstanceAs (Decidable (List.Pairwise _ _))

/-- None of the updates touches the record under the key. -/
def Leave (key : ExpectationKey) (updates : List (Timestamp × Update)) : Prop := ∀ u ∈ updates, ¬ u.2.Touches key

/-- No record is of a later time. -/
def RecordedBy (e : Expectations) (now : Timestamp) : Prop :=
  ∀ key record, e.records.get? key = some record → record.recordedAt.nanos ≤ now.nanos

variable {e : Expectations} {key : ExpectationKey} {now later : Timestamp} {record : Expectation}
  {updates : List (Timestamp × Update)} {wait : Duration}

/-- No update changes the timeout. -/
theorem timeout_make (now : Timestamp) (e : Expectations) (u : Update) : (u.make now e).timeout = e.timeout := by
  cases u <;> rfl

/-- What is found under a key after an update is what was there, or it is new, or it was there with other counts. -/
theorem exists_of_get?_make {u : Update} (h : (u.make now e).records.get? key = some record) :
    (u.Renews key ∧ record.recordedAt = now) ∨
      ∃ old, e.records.get? key = some old ∧ record.recordedAt = old.recordedAt := by
  -- Only `set` writes a time; the others keep the records they leave.
  cases u with
  | set k adds dels =>
    by_cases hkey : key = k
    · subst hkey
      refine .inl ⟨rfl, ?_⟩
      have hnew : (e.records.insert key ⟨adds, dels, now⟩).get? key = some record := h
      rw [Dict.get?_insert_self, Option.some.injEq] at hnew
      rw [← hnew]
    · refine .inr ⟨record, ?_, rfl⟩
      rw [← Dict.get?_insert_ne e.records ⟨adds, dels, now⟩ hkey]
      exact h
  | lower k adds dels =>
    right
    have hlowered : (e.records.modify k fun r => r.lower adds dels).get? key = some record := h
    by_cases hkey : key = k
    · subst hkey
      rw [Dict.get?_modify_self] at hlowered
      obtain ⟨old, hold, rfl⟩ := Option.map_eq_some_iff.1 hlowered
      exact ⟨old, hold, rfl⟩
    · rw [Dict.get?_modify_ne _ _ hkey] at hlowered
      exact ⟨record, hlowered, rfl⟩
  | delete k =>
    exact .inr ⟨record, Dict.get?_of_erase h, rfl⟩
  | deleteJob jobKey =>
    right
    have hleft : (e.deleteJob jobKey).records.get? key = some record := h
    rw [get?_deleteJob] at hleft
    split at hleft
    · exact absurd hleft (by simp)
    · exact ⟨record, hleft, rfl⟩

/-- An update leaves the records alone that it does not touch. -/
theorem get?_make_of_not_touches {u : Update} (h : ¬ u.Touches key) :
    (u.make now e).records.get? key = e.records.get? key := by
  cases u with
  | set k adds dels =>
    exact Dict.get?_insert_ne e.records _ (Ne.symm h)
  | lower k adds dels =>
    exact Dict.get?_modify_ne e.records _ (Ne.symm h)
  | delete k =>
    have hne : ¬ compare key k = .eq := fun heq => h (Std.LawfulEqCmp.eq_of_compare heq).symm
    exact (Dict.get?_erase e.records k key).trans (if_neg hne)
  | deleteJob jobKey =>
    exact (get?_deleteJob e jobKey key).trans (if_neg h)

/-- Nor does one record something of the future. -/
theorem RecordedBy.make (h : e.RecordedBy now) (u : Update) {t : Timestamp} (ht : t.nanos ≤ now.nanos) :
    (u.make t e).RecordedBy now := by
  intro key record hrecord
  obtain ⟨-, hnew⟩ | ⟨old, hold, hsame⟩ := exists_of_get?_make hrecord
  · rw [hnew]
    exact ht
  · rw [hsame]
    exact h key old hold

/-! ## Runs of updates -/

/-- So after any updates the timeout is the same. -/
theorem timeout_after (updates : List (Timestamp × Update)) (e : Expectations) :
    (e.after updates).timeout = e.timeout := by
  unfold after
  induction updates generalizing e with
  | nil => rfl
  | cons u rest ih =>
    rw [List.foldl_cons, ih, timeout_make]

/-- And nothing is recorded of the future. -/
theorem RecordedBy.after (h : e.RecordedBy now) (hupdates : ∀ u ∈ updates, u.1.nanos ≤ now.nanos) :
    (e.after updates).RecordedBy now := by
  unfold Expectations.after
  induction updates generalizing e with
  | nil => exact h
  | cons u rest ih =>
    obtain ⟨hu, hrest⟩ := List.forall_mem_cons.1 hupdates
    exact ih (h.make u.2 hu) hrest

/-- As long as the clock does not go back, no record is of a later time than it is. -/
theorem Chronological.recordedBy (h : Chronological updates now) (timeout : Duration) :
    ((new timeout).after updates).RecordedBy now := by
  have hnew : (new timeout).RecordedBy now := by
    intro key record hrecord
    exact absurd hrecord (by simp [new, EmptyCollection.emptyCollection])
  refine hnew.after ?_
  intro u hu
  exact (List.pairwise_append.1 h).2.2 u.1.nanos (List.mem_map_of_mem hu) now.nanos List.mem_cons_self

/-- Updates that leave a key leave its record, by induction on them. -/
theorem Leave.get?_after (h : Leave key updates) : (e.after updates).records.get? key = e.records.get? key := by
  unfold after
  induction updates generalizing e with
  | nil => rfl
  | cons u rest ih =>
    obtain ⟨hu, hrest⟩ := List.forall_mem_cons.1 h
    rw [List.foldl_cons, ih hrest, get?_make_of_not_touches hu]

/-- So it stays satisfied, or unsatisfied. -/
theorem Leave.satisfied_after (h : Leave key updates) : (e.after updates).satisfied key now = e.satisfied key now := by
  unfold satisfied
  rw [h.get?_after, timeout_after]

/-- What is found under a key that nothing is recorded under anew was recorded before. -/
theorem exists_of_get?_after (hnot : ∀ u ∈ updates, ¬ u.2.Renews key)
    (h : (e.after updates).records.get? key = some record) :
    ∃ old, e.records.get? key = some old ∧ record.recordedAt = old.recordedAt := by
  unfold after at h
  induction updates generalizing e with
  | nil => exact ⟨record, h, rfl⟩
  | cons u rest ih =>
    obtain ⟨hu, hrest⟩ := List.forall_mem_cons.1 hnot
    obtain ⟨between, hbetween, hsame⟩ := ih hrest h
    obtain ⟨hnew, -⟩ | ⟨old, hold, hsame'⟩ := exists_of_get?_make hbetween
    · exact absurd hnew hu
    · exact ⟨old, hold, hsame.trans hsame'⟩

/-! ## One key -/

/-- A key is not satisfied just if there is an open record under it that is no older than the timeout. -/
theorem satisfied_eq_false_iff : e.satisfied key now = false ↔ ∃ record, e.records.get? key = some record ∧
    record.fulfilled = false ∧ (now.nanos - record.recordedAt.nanos).toNat ≤ e.timeout.nanos := by
  unfold satisfied
  cases e.records.get? key with
  | none => simp
  | some record => simp [isExpired, Timestamp.since]

/-- What holds up waits for the rest of the timeout. -/
theorem pending_of_not_satisfied (h : e.satisfied key now = false) {record : Expectation}
    (hrecord : e.records.get? key = some record) :
    e.pending key now = some (e.timeout.minus (now.since record.recordedAt)) := by
  unfold pending
  rw [h, if_neg Bool.false_ne_true, hrecord, Option.map_some]

/-- And what waits holds up. -/
theorem not_satisfied_of_pending (h : e.pending key now = some wait) : e.satisfied key now = false := by
  by_contra hsatisfied
  rw [pending_eq_none_iff.2 (by simpa using hsatisfied)] at h
  exact absurd h (by simp)

/-- The key is held up until the wait is over and no longer, unless its record is touched. -/
structure HoldsUpFor (e : Expectations) (key : ExpectationKey) (now : Timestamp) (wait : Duration) : Prop where
  held : ∀ updates, Leave key updates → ∀ later : Timestamp, now.nanos ≤ later.nanos →
    later.nanos ≤ (now.shift wait.nanos).nanos → (e.after updates).satisfied key later = false
  freed : ∀ updates, Leave key updates → ∀ later : Timestamp, (now.shift wait.nanos).nanos < later.nanos →
    (e.after updates).satisfied key later = true

/-- **What is told of a key is exact.** -/
theorem RecordedBy.holdsUpFor (h : e.RecordedBy now) (hpending : e.pending key now = some wait) :
    e.HoldsUpFor key now wait ∧ wait.nanos ≤ e.timeout.nanos := by
  have hwaiting := not_satisfied_of_pending hpending
  obtain ⟨record, hrecord, hopen, hage⟩ := satisfied_eq_false_iff.1 hwaiting
  have hpast := h key record hrecord
  rw [pending_of_not_satisfied hwaiting hrecord, Option.some.injEq] at hpending
  have hwait : wait.nanos = e.timeout.nanos - (now.nanos - record.recordedAt.nanos).toNat := by
    rw [← hpending]
    rfl
  have hend : (now.shift wait.nanos).nanos = now.nanos + wait.nanos := rfl
  refine ⟨⟨?_, ?_⟩, by omega⟩
  · intro updates hleave later hlater hbefore
    rw [hleave.satisfied_after, satisfied_eq_false_iff]
    exact ⟨record, hrecord, hopen, by omega⟩
  · intro updates hleave later hafter
    rw [hleave.satisfied_after]
    by_contra hnot
    -- The record is the only one under the key, and it is too old by then.
    obtain ⟨record', hrecord', -, hage'⟩ := satisfied_eq_false_iff.1 (Bool.eq_false_iff.2 hnot)
    rw [hrecord, Option.some.injEq] at hrecord'
    subst hrecord'
    omega

/-- A key under which nothing was recorded since is satisfied once the timeout has passed, whatever else was done. -/
theorem RecordedBy.satisfied_after_timeout (h : e.RecordedBy now) (hnot : ∀ u ∈ updates, ¬ u.2.Renews key)
    (hlater : (now.shift e.timeout.nanos).nanos < later.nanos) : (e.after updates).satisfied key later = true := by
  by_contra hwaiting
  obtain ⟨record, hrecord, -, hage⟩ := satisfied_eq_false_iff.1 (Bool.eq_false_iff.2 hwaiting)
  obtain ⟨old, hold, hsame⟩ := exists_of_get?_after hnot hrecord
  have hpast := h key old hold
  have hend : (now.shift e.timeout.nanos).nanos = now.nanos + e.timeout.nanos := rfl
  rw [timeout_after, hsame] at hage
  omega

/-! ## Several keys -/

/-- The lesser of what was told before and what is told now. -/
def earlier : Option Duration → Option Duration → Option Duration
  | some a, some b => some (a.min b)
  | some a, none => some a
  | none, b => b

/-- The first to expire is found by a fold over the keys. -/
theorem firstPending_eq (e : Expectations) (keys : List ExpectationKey) (now : Timestamp) :
    e.firstPending keys now = keys.foldl (fun acc key => earlier acc (e.pending key now)) none := by
  unfold firstPending earlier
  rfl

/-- The earlier of two waits is one of them. -/
theorem eq_of_earlier {a b : Option Duration} (h : earlier a b = some wait) : a = some wait ∨ b = some wait := by
  unfold earlier at h
  split at h
  · rw [Option.some.injEq, Duration.min] at h
    split at h <;> simp [h]
  · exact .inl h
  · exact .inr h

/-- And it is no longer than either. -/
theorem exists_earlier_le {a b : Option Duration} {d : Duration} (h : a = some d ∨ b = some d) :
    ∃ w, earlier a b = some w ∧ w.nanos ≤ d.nanos := by
  unfold earlier
  -- Both, the first only, or not the first: the minimum is below whichever is meant.
  split
  · next x y =>
    refine ⟨x.min y, rfl, ?_⟩
    unfold Duration.min
    simp only [Option.some.injEq] at h
    split <;> rcases h with rfl | rfl <;> omega
  · next x =>
    simp only [Option.some.injEq, reduceCtorEq, or_false] at h
    exact ⟨x, rfl, h ▸ Nat.le_refl _⟩
  · simp only [reduceCtorEq, false_or] at h
    exact ⟨d, h, Nat.le_refl _⟩

/-- What is told first is one of what is told, and nothing is told that is earlier. -/
theorem foldl_earlier_eq_some {β : Type} {f : β → Option Duration} {l : List β} {acc : Option Duration}
    (h : l.foldl (fun acc b => earlier acc (f b)) acc = some wait) :
    (acc = some wait ∨ ∃ b ∈ l, f b = some wait) ∧
      ∀ d, (acc = some d ∨ ∃ b ∈ l, f b = some d) → wait.nanos ≤ d.nanos := by
  -- The induction carries what the members before have told.
  induction l generalizing acc with
  | nil =>
    rw [List.foldl_nil] at h
    subst h
    simp
  | cons b rest ih =>
    obtain ⟨hone, hleast⟩ := ih h
    simp only [List.mem_cons, exists_eq_or_imp, ← or_assoc]
    refine ⟨hone.imp_left eq_of_earlier, ?_⟩
    intro d hd
    rcases hd with hd | hd
    · obtain ⟨w, hw, hle⟩ := exists_earlier_le hd
      exact Nat.le_trans (hleast w (.inl hw)) hle
    · exact hleast d (.inr hd)

/-- **The wait is the shortest of all keys**: one of them waits that long, and none less. The induction is on the
keys, for every wait that was found before. -/
theorem firstPending_eq_some {keys : List ExpectationKey} (h : e.firstPending keys now = some wait) :
    (∃ key ∈ keys, e.pending key now = some wait) ∧
      ∀ key ∈ keys, ∀ d, e.pending key now = some d → wait.nanos ≤ d.nanos := by
  rw [firstPending_eq] at h
  obtain ⟨hone, hleast⟩ := foldl_earlier_eq_some h
  refine ⟨by simpa using hone, ?_⟩
  intro key hkey d hd
  exact hleast d (.inr ⟨key, hkey, hd⟩)

/-- The wait is over as soon as, and not before, the first of the keys that hold things up does so no more. -/
structure EndsFirst (e : Expectations) (keys : List ExpectationKey) (now : Timestamp) (wait : Duration) : Prop where
  /-- It is the shortest that is told of one of the keys. -/
  told : ∃ key ∈ keys, e.pending key now = some wait
  least : ∀ key ∈ keys, ∀ d, e.pending key now = some d → wait.nanos ≤ d.nanos
  within : wait.nanos ≤ e.timeout.nanos
  none_sooner : ∀ key ∈ keys, e.satisfied key now = false → ∀ updates, Leave key updates → ∀ later : Timestamp,
    now.nanos ≤ later.nanos → later.nanos ≤ (now.shift wait.nanos).nanos → (e.after updates).satisfied key later = false
  one_then : ∃ key ∈ keys, e.satisfied key now = false ∧ ∀ updates, Leave key updates → ∀ later : Timestamp,
    (now.shift wait.nanos).nanos < later.nanos → (e.after updates).satisfied key later = true

/-- What is not satisfied waits for something. -/
theorem exists_pending (h : e.satisfied key now = false) : ∃ d, e.pending key now = some d := by
  obtain ⟨record, hrecord, -⟩ := satisfied_eq_false_iff.1 h
  exact ⟨_, pending_of_not_satisfied h hrecord⟩

/-- **The shortest wait that is told of several keys is the time until the first of them is satisfied.** -/
theorem RecordedBy.endsFirst (h : e.RecordedBy now) {keys : List ExpectationKey}
    (hfirst : e.firstPending keys now = some wait) : e.EndsFirst keys now wait := by
  obtain ⟨⟨key, hkey, hpending⟩, hleast⟩ := firstPending_eq_some hfirst
  obtain ⟨hholds, hwithin⟩ := h.holdsUpFor hpending
  refine ⟨⟨key, hkey, hpending⟩, hleast, hwithin, ?_, key, hkey, not_satisfied_of_pending hpending, hholds.freed⟩
  intro key' hkey' hwaiting updates hleave later hlater hbefore
  obtain ⟨d, hd⟩ := exists_pending hwaiting
  have hlonger := hleast key' hkey' d hd
  have hend : (now.shift wait.nanos).nanos = now.nanos + wait.nanos := rfl
  have hend' : (now.shift d.nanos).nanos = now.nanos + d.nanos := rfl
  exact (h.holdsUpFor hd).1.held updates hleave later hlater (by omega)

/-- So if some key is not satisfied there is a wait. -/
theorem exists_firstPending {keys : List ExpectationKey} (h : ∃ key ∈ keys, e.satisfied key now = false) :
    ∃ wait, e.firstPending keys now = some wait := by
  rw [← Option.ne_none_iff_exists']
  intro hnone
  obtain ⟨key, hkey, hwaiting⟩ := h
  rw [(firstPending_eq_none_iff e keys now).1 hnone key hkey] at hwaiting
  exact absurd hwaiting (by decide)

end Expectations

/-! ## Passes -/

namespace Controller

variable {σ : Type} [ObjectStore σ] {c : Controller σ} {key : String} {a : Address} {stored : Job} {store : σ}
  {now : Timestamp} {wait : Duration}

/-- A pass over a job for which something is outstanding does nothing but read the job, and answers how long to wait. -/
theorem run_sync_of_waiting (hkey : splitKey? key = some (a.ns, a.name))
    (hread : (ObjectStore.getJob a : StoreM σ (Option Job)).run c.store = (.ok (some stored), store))
    (hvalid : stored.withDefaults.spec.fault? = none) (hstays : stored.isLeaving = false)
    (hwait : c.expectations.firstPending stored.withDefaults.expectationKeys now = some wait) :
    (sync now key).run c = (.ok (.requeue wait), { c with store := store }) := by
  -- The pass up to the gate, step by step: the key, the job, the state.
  have hparts : (settle (splitKey key) : ControllerM σ (String × String)).run c = (.ok (a.ns, a.name), c) := by
    unfold splitKey
    rw [hkey]
    rfl
  have hrequest : (request (ObjectStore.getJob a : StoreM σ (Option Job))).run c =
      (.ok (some stored), { c with store := store }) := by
    change (((ObjectStore.getJob a : StoreM σ (Option Job)).run c.store).1,
      { c with store := ((ObjectStore.getJob a : StoreM σ (Option Job)).run c.store).2 }) = _
    rw [hread]
  have hleaving : stored.withDefaults.isLeaving = false := hstays
  have hget : (get : ControllerM σ (Controller σ)).run { c with store := store } =
      (.ok { c with store := store }, { c with store := store }) := rfl
  unfold sync
  rw [run_bind_ok _ hparts]
  simp only
  rw [run_bind_ok _ hrequest]
  simp only [hvalid, hleaving]
  rw [if_neg Bool.false_ne_true, run_bind_ok _ hget]
  simp only [hwait]
  rfl

end Controller

/-- **Waiting always ends at the right time.** Let the records have come about by any updates at times that do not go
back, the last of them not later than now. What is told of a key is nothing just if it is satisfied, and otherwise
exactly the time for which it is not, as long as its record is left alone. A pass over a job of which a key is not
satisfied answers with the time until the first such key is, and that is no longer than the timeout. And if nothing is
recorded anew under the keys of a job, nothing is outstanding for it any more once the timeout has passed. -/
theorem waiting_ends_on_time (timeout : Duration) {updates : List (Timestamp × Expectations.Update)} {now : Timestamp}
    (hchronological : Expectations.Chronological updates now) :
    let e := (Expectations.new timeout).after updates
    (∀ key, (e.pending key now = none ↔ e.satisfied key now = true) ∧
      ∀ wait, e.pending key now = some wait → e.HoldsUpFor key now wait) ∧
    (∀ (σ : Type) [ObjectStore σ] (c : Controller σ) (key : String) (a : Address) (stored : Job) (store : σ),
      c.expectations = e → splitKey? key = some (a.ns, a.name) →
      (ObjectStore.getJob a : StoreM σ (Option Job)).run c.store = (.ok (some stored), store) →
      stored.withDefaults.spec.fault? = none → stored.isLeaving = false →
      (∃ k ∈ stored.withDefaults.expectationKeys, e.satisfied k now = false) →
        ∃ wait, (sync now key).run c = (.ok (.requeue wait), { c with store := store }) ∧
          e.EndsFirst stored.withDefaults.expectationKeys now wait ∧ wait.nanos ≤ timeout.nanos) ∧
    ∀ (σ : Type) (c : Controller σ) (job : Job) (more : List (Timestamp × Expectations.Update)) (later : Timestamp),
      c.expectations = e.after more → (∀ u ∈ more, ∀ key ∈ job.expectationKeys, ¬ u.2.Renews key) →
      (now.shift timeout.nanos).nanos < later.nanos → expectationsSatisfied later job c = true := by
  intro e
  have hrecorded : e.RecordedBy now := hchronological.recordedBy timeout
  have htimeout : e.timeout = timeout := Expectations.timeout_after updates _
  refine ⟨?_, ?_, ?_⟩
  · intro key
    exact ⟨Expectations.pending_eq_none_iff, fun wait hpending => (hrecorded.holdsUpFor hpending).1⟩
  · intro σ _ c key a stored store hexpectations hkey hread hvalid hstays hwaiting
    obtain ⟨wait, hfirst⟩ := Expectations.exists_firstPending hwaiting
    have hends := hrecorded.endsFirst hfirst
    rw [← hexpectations] at hfirst
    exact ⟨wait, run_sync_of_waiting hkey hread hvalid hstays hfirst, hends, htimeout ▸ hends.within⟩
  · intro σ c job more later hexpectations hnot hlater
    unfold expectationsSatisfied
    rw [hexpectations, Option.isNone_iff_eq_none, Expectations.firstPending_eq_none_iff]
    intro key hkey
    rw [← htimeout] at hlater
    exact hrecorded.satisfied_after_timeout (fun u hu => hnot u hu key hkey) hlater

/-- A job of a master and two workers. -/
def awaitedJob : Job := sampleJob {} [(masterType, sampleType 1 .never), (workerType, sampleType 2 .never)] none

/-- The master and two services are asked for one second after the other, and the first of the services is seen. -/
def askedFor : List (Timestamp × Expectations.Update) := [
  (sampleTime 0, .set (.of sampleKey masterType .pods) 1 0),
  (sampleTime 1, .set (.of sampleKey workerType .services) 2 0),
  (sampleTime 2, .set (.of "default/other" masterType .pods) 1 0),
  (sampleTime 3, .lower (.of sampleKey workerType .services) 1 0),
  (sampleTime 3, .deleteJob "default/other")]

def awaiting : Controller MemoryStore :=
  { sampleStart awaitedJob with expectations := (Expectations.new (.ofSeconds 10)).after askedFor }

/-- Four seconds after the first request the master holds the job up for another six, and a pass answers just these.
More is asked to be seen under its key without a new record, and that holds nothing up after the timeout. -/
theorem waiting_ends_on_time_awaiting :
    let key := ExpectationKey.of sampleKey masterType .pods
    let more : List (Timestamp × Expectations.Update) := [(sampleTime 5, .lower key (-3) 0)]
    Expectations.Chronological askedFor (sampleTime 4) ∧
      awaiting.expectations.pending key (sampleTime 4) = some (.ofSeconds 6) ∧
      awaiting.expectations.HoldsUpFor key (sampleTime 4) (.ofSeconds 6) ∧
      (∃ stored wait, awaiting.store.jobs.get? sampleAddress = some stored ∧
        (sync (sampleTime 4) sampleKey).run awaiting = (.ok (.requeue wait), awaiting) ∧
        awaiting.expectations.EndsFirst stored.withDefaults.expectationKeys (sampleTime 4) wait ∧
        wait.nanos ≤ (Duration.ofSeconds 10).nanos) ∧
      ((sync (sampleTime 4) sampleKey).run awaiting).1.toOption = some (.requeue (.ofSeconds 6)) ∧
      expectationsSatisfied (sampleTime 15) awaitedJob.withDefaults
        { awaiting with expectations := awaiting.expectations.after more } = true := by
  intro key more
  have hchronological : Expectations.Chronological askedFor (sampleTime 4) := by decide +kernel
  obtain ⟨hkeys, hpasses, hgate⟩ := waiting_ends_on_time (.ofSeconds 10) hchronological
  have hpending : awaiting.expectations.pending key (sampleTime 4) = some (.ofSeconds 6) := by decide +kernel
  refine ⟨hchronological, hpending, (hkeys key).2 _ hpending, ?_, by decide +kernel, ?_⟩
  · have hstart : (awaiting.store.jobs.get? sampleAddress).map (fun job =>
        (job.withDefaults.spec.fault?.isNone, job.isLeaving,
          decide (∃ k ∈ job.withDefaults.expectationKeys, awaiting.expectations.satisfied k (sampleTime 4) = false))) =
        some (true, false, true) := by decide +kernel
    obtain ⟨stored, hstored, hfound⟩ := Option.map_eq_some_iff.1 hstart
    simp only [Prod.mk.injEq, Option.isNone_iff_eq_none, decide_eq_true_eq] at hfound
    obtain ⟨hvalid, hstays, hwaiting⟩ := hfound
    have hread : (ObjectStore.getJob sampleAddress : StoreM MemoryStore (Option Job)).run awaiting.store =
        (.ok (some stored), awaiting.store) := by
      rw [← hstored]
      rfl
    obtain ⟨wait, hrun, hends, hwithin⟩ := hpasses MemoryStore awaiting sampleKey sampleAddress stored awaiting.store
      rfl (by decide +kernel) hread hvalid hstays hwaiting
    exact ⟨stored, wait, hstored, hrun, hends, hwithin⟩
  · refine hgate MemoryStore _ awaitedJob.withDefaults more (sampleTime 15) rfl ?_ (by decide +kernel)
    intro u hu k _
    rw [List.mem_singleton.1 hu]
    exact id

end TrainingJobs
