/-
What a pass over a finished job does before it does anything.

It looks: at the job, and when that is to be attended to at its pods and services. A look changes nothing
(`Silent`), and is at most refused. So all that such a pass really does is what follows on these looks, from the
state in which they were taken (`yields_sync_of_looks`).
-/
import TrainingJobs.Proofs.Ending

set_option autoImplicit false

namespace TrainingJobs

open MemoryStore ScriptedStore

namespace Controller

/-- Nothing has happened but that the store was looked at: nothing was written, created, deleted or told. -/
def Silent (c c' : Controller ScriptedStore) : Prop :=
  ∃ calls, (∀ call ∈ calls, call.1.reads = true) ∧ c' = { c with store := {
    memory := c.store.memory
    script := c.store.script.drop calls.length
    log := c.store.log ++ calls } }

namespace Silent

variable {c c₁ c₂ : Controller ScriptedStore}

theorem refl (c : Controller ScriptedStore) : Silent c c :=
  ⟨[], fun _ h => absurd h List.not_mem_nil, by rw [List.append_nil]; rfl⟩

theorem trans (h₁ : Silent c c₁) (h₂ : Silent c₁ c₂) : Silent c c₂ := by
  obtain ⟨calls₁, hreads₁, rfl⟩ := h₁
  obtain ⟨calls₂, hreads₂, rfl⟩ := h₂
  refine ⟨calls₁ ++ calls₂, fun call hcall => ?_, ?_⟩
  · exact (List.mem_append.1 hcall).elim (hreads₁ call) (hreads₂ call)
  · simp only [List.drop_drop, List.length_append, List.append_assoc]

/-- A look leaves the objects of the store alone. -/
theorem memory (h : Silent c c₁) : c₁.store.memory = c.store.memory := by
  obtain ⟨_, -, rfl⟩ := h
  rfl

theorem config (h : Silent c c₁) : c₁.config = c.config := by
  obtain ⟨_, -, rfl⟩ := h
  rfl

/-- A look says nothing. -/
theorem events (h : Silent c c₁) : c₁.events = c.events := by
  obtain ⟨_, -, rfl⟩ := h
  rfl

/-- A look expects nothing. -/
theorem expectations (h : Silent c c₁) : c₁.expectations = c.expectations := by
  obtain ⟨_, -, rfl⟩ := h
  rfl

/-- A look counts no retry. -/
theorem retries (h : Silent c c₁) : c₁.retries = c.retries := by
  obtain ⟨_, -, rfl⟩ := h
  rfl

/-- A store without a script has none after a look. -/
theorem script (h : Silent c c₁) (hscript : c₁.store.script ≠ []) : c.store.script ≠ [] := by
  obtain ⟨calls, -, rfl⟩ := h
  intro hnil
  exact hscript (by rw [show c.store.script = [] from hnil]; exact List.drop_nil)

end Silent

section Look

variable {c c₁ : Controller ScriptedStore} {failed : OperatorError → Controller ScriptedStore → Prop}

/-- A look at the store is answered, or refused by the script. -/
theorem Silent.look (h : Silent c c₁) (call : StoreCall) {answer : call.Answer}
    {done : call.Answer → Controller ScriptedStore → Prop} (hcall : call.reads = true)
    (hrun : (call.op : StoreM MemoryStore call.Answer).run c.store.memory = (.ok answer, c.store.memory))
    (hrefused : c.store.script ≠ [] → ∀ e c', Silent c c' → failed e c')
    (hdone : ∀ c', Silent c c' → done answer c') : Yields (request (perform call)) c₁ done failed := by
  have hlooked : ∀ result, Silent c { c₁ with store := {
      memory := c₁.store.memory, script := c₁.store.script.tail, log := c₁.store.log ++ [(call, result)] } } := by
    intro result
    refine h.trans ⟨[(call, result)], fun call hmem => ?_, ?_⟩
    · rw [List.mem_singleton.1 hmem]
      exact hcall
    · rw [List.length_singleton, List.drop_one]
  rw [← h.memory] at hrun
  rw [yields_request_perform, hrun]
  -- A look refused used up one answer of the script; one answered used up the same.
  rcases hrefusal : c₁.store.refusal? with _ | e
  · exact hdone _ (hlooked none)
  · refine hrefused (h.script fun hnil => ?_) e _ (hlooked (some e))
    rw [refusal?_of_nil hnil] at hrefusal
    exact absurd hrefusal (by simp)

/-- A pass over a finished job that is stored looks at what there is, and goes on from where it started: it turns
the job down, or leaves it alone, or brings it to its end. -/
theorem yields_sync_of_looks {key : String} {a : Address} {stored : Job} {now : Timestamp}
    {done : Outcome → Controller ScriptedStore → Prop} (hkey : splitKey? key = some (a.ns, a.name))
    (hstored : c.store.memory.jobs.get? a = some stored) (hfinished : stored.currentStatus.isFinished = true)
    (hfailures : c.store.memory.failures = [])
    (hrefused : c.store.script ≠ [] → ∀ e c', Silent c c' → failed e c')
    (hfault : ∀ fault, stored.withDefaults.spec.fault? = some fault → ∀ c', Silent c c' →
      Yields (reject now stored.withDefaults fault) c' (fun _ => done .done) failed)
    (haside : stored.withDefaults.spec.fault? = none → ¬ Attends now stored.withDefaults c →
      ∀ outcome c', Silent c c' → done outcome c')
    (hend : stored.withDefaults.spec.fault? = none → Attends now stored.withDefaults c → ∀ c', Silent c c' →
      let job := stored.withDefaults
      let pods := job.podsIn c.store.memory
      Yields (terminate now job pods (job.takenIn now)
        (job.exceeded? pods (c.retries.count job.key) (job.takenIn now) now)) c' done failed) :
    Yields (sync now key) c done failed := by
  have hgetJob : (ObjectStore.getJob a : StoreM MemoryStore (Option Job)).run c.store.memory =
      (.ok (some stored), c.store.memory) := by
    rw [run_getJob, hfailures, takeFailure?, hstored]
  refine yields_sync_of_finished hkey ((Silent.refl c).look (.getJob a) rfl hgetJob hrefused fun c₁ h₁ => ?_)
  -- The look at the job leaves the expectations, so the gate says the same before and after.
  have hattends : Attends now stored.withDefaults c₁ ↔ Attends now stored.withDefaults c := by
    unfold Attends expectationsSatisfied
    rw [h₁.expectations]
  refine ⟨hfinished, fun fault hsome => hfault fault hsome c₁ h₁, fun hvalid haway outcome _ => ?_,
    fun hvalid hnear => ?_⟩
  · exact haside hvalid (fun h => haway (hattends.2 h)) outcome c₁ h₁
  · refine yields_reconcileJob_of_finished hfinished (h₁.look (.listPods _ _) rfl (run_listPods _ _ _) hrefused
      fun c₂ h₂ => h₂.look (.listServices _ _) rfl (run_listServices _ _ _) hrefused fun c₃ h₃ => ?_)
    rw [h₃.retries]
    exact hend hvalid (hattends.1 hnear) c₃ h₃

end Look

end Controller

end TrainingJobs
