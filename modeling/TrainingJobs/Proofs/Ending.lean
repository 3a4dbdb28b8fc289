/-
A pass over a job that has its verdict.

Such a pass looks for the job, and when it is neither going nor waited for, lists what it has and brings it to
its end, be it for the first time or once more. It makes no pod group, and it gets to no slot; so it creates
nothing, whatever is missing (`kept_sync_of_finished`). All of this is said for any store, since it hangs on
nothing but the answer to the question for the job.
-/
import TrainingJobs.Proofs.Conditions

set_option autoImplicit false

namespace TrainingJobs

/-- The end of a job that has its verdict leaves it with one. -/
theorem Job.isFinished_ended {job : Job} (now : Timestamp) (failure : Option String)
    (h : job.currentStatus.isFinished = true) :
    ((job.ended now (job.closed now failure)).statusAfter job.currentStatus).isFinished = true := by
  by_cases hexpired : job.Expired now (job.closed now failure)
  · rw [ended_of_expired hexpired]
    exact h
  · -- What is written at the end of a job has the verdict that there was.
    rw [ended_of_not_expired hexpired, isFinished_written, isFinished_closed, h, Bool.true_or]

namespace Controller

variable {σ : Type} [ObjectStore σ] {now : Timestamp} {job : Job} {c : Controller σ}

/-- A pass attends to the job: it is not going, and nothing that was asked for on its behalf is outstanding. -/
def Attends (now : Timestamp) (job : Job) (c : Controller σ) : Prop :=
  job.isLeaving = false ∧ expectationsSatisfied now job c = true

instance (now : Timestamp) (job : Job) (c : Controller σ) : Decidable (Attends now job c) :=
  inferInstanceAs (Decidable (_ ∧ _))

omit [ObjectStore σ] in
/-- A pass attends to a job that is not going and for which nothing is outstanding. -/
theorem attends_iff : Attends now job c ↔
    job.isLeaving = false ∧ c.expectations.firstPending job.expectationKeys now = none := by
  unfold Attends expectationsSatisfied
  rw [Option.isNone_iff_eq_none]

section Finished

variable {key : String} {a : Address} {done : Outcome → Controller σ → Prop}
  {failed : OperatorError → Controller σ → Prop}

/-- A look at a job that has its verdict lists its pods and services and brings it to its end. -/
theorem yields_reconcileJob_of_finished (hfinished : job.currentStatus.isFinished = true)
    (hlist : Yields (request (ObjectStore.listPods job.ns (Labels.ofJob Job.group job.name))) c
      (fun pods c₁ => Yields (request (ObjectStore.listServices job.ns (Labels.ofJob Job.group job.name))) c₁
        (fun _ c₂ => Yields (terminate now job pods (job.takenIn now)
          (job.exceeded? pods (c₂.retries.count job.key) (job.takenIn now) now)) c₂ done failed) failed) failed) :
    Yields (reconcileJob now job) c done failed := by
  unfold reconcileJob
  rw [yields_bind]
  refine hlist.mono (fun pods c₁ h₁ => ?_) fun _ _ => id
  rw [yields_bind]
  refine h₁.mono (fun services c₂ h₂ => ?_) fun _ _ => id
  rw [yields_bind, yields_get]
  simp only [Job.isFinished_takenIn, hfinished, Bool.true_or, if_true]
  exact h₂

/-- The ways of a pass that finds no job without a verdict: there is none, or it is turned down, or it is left
alone, or it is brought to its end. -/
theorem yields_sync_of_finished (hkey : splitKey? key = some (a.ns, a.name))
    (hread : Yields (request (ObjectStore.getJob a)) c
      (fun found c₁ =>
        match found with
        | none => done .done (expected (fun x => x.deleteJob key) c₁)
        | some stored => stored.currentStatus.isFinished = true ∧
          (∀ fault, stored.withDefaults.spec.fault? = some fault →
            Yields (reject now stored.withDefaults fault) c₁ (fun _ => done .done) failed) ∧
          (stored.withDefaults.spec.fault? = none → ¬ Attends now stored.withDefaults c₁ →
            ∀ outcome, outcome ≠ .backoff → done outcome c₁) ∧
          (stored.withDefaults.spec.fault? = none → Attends now stored.withDefaults c₁ →
            Yields (reconcileJob now stored.withDefaults) c₁ done failed)) failed) :
    Yields (sync now key) c done failed := by
  unfold sync splitKey
  rw [hkey, yields_bind, yields_settle]
  simp only
  rw [yields_bind]
  refine hread.mono (fun found c₁ hfound => ?_) fun _ _ => id
  cases found with
  | none => exact hfound
  | some stored =>
    obtain ⟨hfinished, hfault, haside, hattends⟩ := hfound
    simp only
    rcases hspec : stored.withDefaults.spec.fault? with _ | fault
    · simp only
      rw [attends_iff, Classical.not_and_iff_not_or_not] at haside
      rw [attends_iff] at hattends
      by_cases hleaving : stored.withDefaults.isLeaving = true
      · rw [if_pos hleaving]
        exact haside hspec (.inl (by rw [hleaving]; exact Bool.noConfusion)) .done Outcome.noConfusion
      · rw [if_neg hleaving, yields_bind, yields_get]
        rcases hpending : c₁.expectations.firstPending stored.withDefaults.expectationKeys now with _ | wait
        · -- The pod group of a job with a verdict is not made again.
          have hverdict : stored.withDefaults.currentStatus.isFinished = true := hfinished
          simp only
          rw [yields_bind, yields_get, hverdict, Bool.not_true, Bool.and_false, if_neg Bool.false_ne_true]
          exact hattends hspec ⟨Bool.not_eq_true _ ▸ hleaving, hpending⟩
        · exact haside hspec (.inr (by rw [hpending]; exact Option.some_ne_none wait)) (.requeue wait)
            Outcome.noConfusion
    · simp only
      rw [yields_bind]
      exact hfault fault hspec

/-- **A pass over a job that has its verdict keeps what every call keeps that creates nothing.** -/
theorem kept_sync_of_finished {p : StoreCall → Prop} {R : Controller σ → Controller σ → Prop} (h : Enduring p R)
    (hp : ∀ call : StoreCall, call.creates = false → p call) (hkey : splitKey? key = some (a.ns, a.name))
    (hread : Yields (request (ObjectStore.getJob a)) c
      (fun found _ => ∀ stored, found = some stored → stored.currentStatus.isFinished = true) fun _ _ => True) :
    R c ((sync now key).run c).2 := by
  have hcall : ∀ call : StoreCall, call.creates = false → Keeps R (request (call.op : StoreM σ call.Answer)) :=
    fun call hcall => keeps_request (h.call call (hp call hcall))
  have hpass : Yields (sync now key) c (fun _ c' => R c c') fun _ c' => R c c' := by
    -- A verdict leaves three ways on (turned down, left alone, ended), none of which creates.
    refine yields_sync_of_finished hkey ((hread.and (hcall (.getJob a) rfl c)).mono
      (fun found c₁ hfound => ?_) fun _ _ h => h.2)
    obtain ⟨hverdict, hc₁⟩ := hfound
    cases found with
    | none => exact h.trans hc₁ (h.expected _ c₁)
    | some stored =>
      have hfinished := hverdict stored rfl
      refine ⟨hfinished, fun fault _ => ?_, fun _ _ _ _ => hc₁, fun _ _ => ?_⟩
      · exact (h.reject now hp _ fault c₁).mono (fun _ _ => h.trans hc₁) fun _ _ => h.trans hc₁
      · refine yields_reconcileJob_of_finished hfinished ((hcall (.listPods _ _) rfl c₁).mono
          (fun pods c₂ hc₂ => ?_) fun _ _ => h.trans hc₁)
        refine (hcall (.listServices _ _) rfl c₂).mono (fun _ c₃ hc₃ => ?_) fun _ _ hc₃ => h.trans hc₁ (h.trans hc₂ hc₃)
        have hbefore : R c c₃ := h.trans hc₁ (h.trans hc₂ hc₃)
        exact (h.terminate now hp _ pods _ _ c₃).mono (fun _ _ => h.trans hbefore) fun _ _ => h.trans hbefore
  exact hpass.run

end Finished

end Controller

end TrainingJobs
