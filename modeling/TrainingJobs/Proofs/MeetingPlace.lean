/-
How the replicas of a job meet.

Where the replicas meet is settled three times over: when a replica is told of it, when the pod of the master is made,
and when its service is. `rendezvous_consistent` says that it fits together: over all slots of a job, in their order,
the ranks count up from the master's zero, all are told the same, and what they are told is the name under which the
master's pod and service are made and the port that this service has.

That these are the pod and the service that the controller makes is said from both sides. A pass asks for no others
(`Controller.asked_sync`), and where a slot has no pod, or no service, it does ask for them (`Controller.Furnished`):
the calls are those that are due, one for each empty slot, in the order of the slots, up to the first that fails.
-/
import TrainingJobs.Proofs.SlotPlan

set_option autoImplicit false

namespace TrainingJobs

/-! ## Services that are due -/

/-- The service that counts in a slot: the first listed of those with the replica type and the index of the slot. -/
def served? (replicaType : String) (services : List Service) (index : Nat) : Option Service :=
  services.find? fun s => labelOf? s Label.replicaType == some (Text.lowercase replicaType) && slotIndex? s == some index

namespace Job

/-- The creations of services that are due for a replica type: one for every slot without a service. -/
def dueServices (job : Job) (replicaType : String) (spec : ReplicaSpec) (services : List Service) : List StoreCall :=
  ((List.range spec.slotCount).filter fun index => (served? replicaType services index).isNone).filterMap fun index =>
    (job.serviceOf? (replicaType, index)).map (.createService job.ns)

end Job

/-! ## What is due for a single slot -/

section SingleSlot

variable {job : Job} {config : Config} {replicaType : String} {spec : ReplicaSpec}

/-- For a type of one replica without a pod, the creation of that pod is all that is due. -/
theorem due_of_vacant {pods : List Pod} {pod : Pod} (hcount : spec.slotCount = 1)
    (hvacant : seated? replicaType pods 0 = none) (hpod : job.podOf? config (replicaType, 0) = some pod) :
    job.dueDeletions replicaType spec pods ++ job.dueCreations config replicaType spec pods =
      [.createPod job.ns pod] := by
  simp [Job.dueDeletions, Job.dueCreations, seatedPods, hcount, hvacant, hpod]

/-- For a type of one replica without a service, the creation of that service is all that is due. -/
theorem dueServices_of_vacant {services : List Service} {service : Service} (hcount : spec.slotCount = 1)
    (hvacant : served? replicaType services 0 = none) (hservice : job.serviceOf? (replicaType, 0) = some service) :
    job.dueServices replicaType spec services = [.createService job.ns service] := by
  simp [Job.dueServices, hcount, hvacant, hservice]

end SingleSlot

namespace Controller

variable {σ : Type} [ObjectStore σ] {job : Job} {key : ExpectationKey} {now : Timestamp} {replicaType : String}
  {spec : ReplicaSpec} {c : Controller (Traced σ)} {due : List StoreCall}

/-! ## Asking for what is due -/

/-- Unless something is outstanding under the key, the step makes the calls that are due, one after the other: all
of them if it ends with a result, and otherwise those up to the one that ended with the error. -/
def AsksFor {α : Type} (key : ExpectationKey) (now : Timestamp) (due : List StoreCall)
    (step : ControllerM (Traced σ) α) (c : Controller (Traced σ)) : Prop :=
  c.expectations.satisfied key now = true →
    ∃ made, (step.run c).2.store.trace = c.store.trace ++ made ∧ made.map Prod.fst <+: due ∧
      match Traced.failure? (step.run c).1 with
      | none => made.map Prod.fst = due
      | some e => ∃ before call, made = before ++ [(call, some e)]

omit [ObjectStore σ] in
/-- **A call that is due alone is made**, whatever becomes of it. -/
theorem AsksFor.of_singleton {α : Type} {call : StoreCall} {step : ControllerM (Traced σ) α}
    (h : AsksFor key now [call] step c) (hsatisfied : c.expectations.satisfied key now = true) :
    ∃ failure, (step.run c).2.store.trace = c.store.trace ++ [(call, failure)] := by
  obtain ⟨made, htrace, hprefix, hend⟩ := h hsatisfied
  -- At least one call was made, since the step either got through or failed at one; and only one was due.
  have hmade : made.map Prod.fst = [call] := by
    rcases hfailure : Traced.failure? (step.run c).1 with _ | e
    · rw [hfailure] at hend
      exact hend
    · rw [hfailure] at hend
      obtain ⟨before, last, rfl⟩ := hend
      refine hprefix.eq_of_length ?_
      have hle := hprefix.length_le
      simp only [List.map_append, List.map_cons, List.map_nil, List.length_append, List.length_cons,
        List.length_nil, List.length_map] at hle ⊢
      omega
  obtain ⟨x, rfl, hx⟩ := List.map_eq_singleton_iff.1 hmade
  exact ⟨x.2, by rw [htrace, ← hx]⟩

omit [ObjectStore σ] in
/-- A step that goes through requests, each of which can be made, asks for the calls that they stand for. -/
theorem asksFor_of_attended {α ρ : Type} {call? : ρ → Option StoreCall} {requests : List ρ}
    {step : ControllerM (Traced σ) α} (hcalls : ∀ r ∈ requests, (call? r).isSome = true)
    (hdue : requests.filterMap call? = due)
    (h : Yields step c (fun _ c' => ∃ made, Attended key now call? requests made none c c')
      fun e c' => ∃ made, Attended key now call? requests made (some e) c c') :
    AsksFor key now due step c := by
  intro hsatisfied
  -- With satisfied expectations the log of the step is that of its requests, in order.
  have hran : ∀ {made result} {c' : Controller (Traced σ)},
      Attended key now call? requests made result c c' → Ran call? requests made result := by
    intro made result c' hattended
    have hran := hattended.ran
    rwa [if_pos hsatisfied] at hran
  -- Ended in an error, the last call is the one that failed; ended well, all were made.
  rcases hrun : step.run c with ⟨e | answer, c'⟩
  · obtain ⟨made, hattended⟩ := h.error hrun
    obtain ⟨before, call, hmade, -⟩ := (hran hattended).last_of_some hcalls
    exact ⟨made, hattended.trace, hdue ▸ (hran hattended).isPrefix, before, call, hmade⟩
  · obtain ⟨made, hattended⟩ := h.ok hrun
    exact ⟨made, hattended.trace, hdue ▸ (hran hattended).isPrefix, hdue ▸ (hran hattended).all_of_none.1⟩

/-! ## One replica type -/

/-- The request for the service of a slot is a call to create the service that there is for the slot. -/
theorem serviceCall?_eq (he : (replicaType, spec) ∈ job.spec.replicaSpecs.entries) (index : Nat) :
    serviceCall? job replicaType spec index =
      (job.serviceOf? (replicaType, index)).map (.createService job.ns) := by
  unfold serviceCall? Job.serviceOf?
  simp only [Dict.get?_eq_some_iff.2 he, Option.bind_eq_bind, Option.bind_some]
  rcases spec.meetingPort with _ | port
  · rfl
  · rcases job.ownerReference with _ | owner <;> rfl

/-- The requests for services stand for the calls that are due. -/
theorem filterMap_serviceCall? (he : (replicaType, spec) ∈ job.spec.replicaSpecs.entries) (services : List Service) :
    (vacant (slotsOf replicaType spec.slotCount services)).filterMap (serviceCall? job replicaType spec) =
      job.dueServices replicaType spec services := by
  rw [vacant_slotsOf]
  exact List.filterMap_congr fun index _ => serviceCall?_eq he index

/-- The pods and the services of a replica type are asked for as they are due, whichever are listed:
`reconcile_pods` asks for a pod in every slot without one, and `reconcile_services` for a service. -/
structure Furnished (now : Timestamp) (job : Job) (e : String × ReplicaSpec) (c : Controller (Traced σ)) : Prop where
  pods : ∀ pods, AsksFor (.of job.key e.1 .pods) now
    (job.dueDeletions e.1 e.2 pods ++ job.dueCreations c.config e.1 e.2 pods) (reconcilePods now job e.1 e.2 pods) c
  services : ∀ services, AsksFor (.of job.key e.1 .services) now (job.dueServices e.1 e.2 services)
    (reconcileServices now job e.1 e.2 services) c

/-- **A pass asks for exactly what is due** for a replica type of a serviceable job. -/
theorem furnished (hjob : job.Serviceable) {e : String × ReplicaSpec} (he : e ∈ job.spec.replicaSpecs.entries) :
    Furnished now job e c where
  pods pods := asksFor_of_attended (isSome_podCall? hjob c.config pods he) (filterMap_podCall? c.config pods he)
    ((attended_reconcilePods pods).mono (fun _ _ h => h.2) fun _ _ h => h)
  services services := by
    refine asksFor_of_attended (fun index _ => ?_) (filterMap_serviceCall? he services)
      (attended_reconcileServices services)
    obtain ⟨service, hservice⟩ := hjob.exists_serviceOf? he index
    rw [serviceCall?_eq he, Option.isSome_map, hservice, Option.isSome_some]

end Controller

/-! ## It fits together -/

open Controller

/-- **The replicas of a job meet.** A stored job with an acceptable spec has a pod for each of its slots, under the
name of the slot; that of the `n`-th slot, counting from the master's, is told that its rank is `n`, and all are told
of the same number of replicas and of the same address and port. The address is the name of the master's pod and of
its service, and the port is that of this service.

A pass over the job asks for no pods and services but these, and for these it does ask: of every replica type for
just what is due, and so for the master's pod, and for its service, where it has none. -/
theorem rendezvous_consistent {stored : Job} (hvalid : stored.withDefaults.spec.fault? = none)
    (huid : stored.metadata.uid.isSome = true) :
    let job := stored.withDefaults
    job.slotList.Nodup ∧ job.slotList[0]? = some (masterType, 0) ∧ ∃ (port : Int) (service : Service),
      (∀ config n slot, job.slotList[n]? = some slot → ∃ pod, job.podOf? config slot = some pod ∧
        pod.Briefed n job.totalReplicas (slotName job.name masterType 0) port ∧
        nameOf pod = slotName job.name slot.1 slot.2) ∧
      (job.serviceOf? (masterType, 0) = some service ∧ nameOf service = slotName job.name masterType 0 ∧
        service.spec.bind (·.ports) = some [⟨some Job.portName, port⟩]) ∧
      (∀ (now : Timestamp) (key : String) (a : Address) (c : Controller ScriptedStore),
        splitKey? key = some (a.ns, a.name) → c.store.memory.jobs.get? a = some stored →
          Asked job.Furnishes c ((sync now key).run c).2) ∧
      ∀ (σ : Type) [ObjectStore σ] (now : Timestamp) (c : Controller (Traced σ)),
        (∀ e ∈ job.spec.replicaSpecs.entries, Furnished now job e c) ∧
        ∃ master pod, (masterType, master) ∈ job.spec.replicaSpecs.entries ∧
          job.podOf? c.config (masterType, 0) = some pod ∧
          (∀ pods, seated? masterType pods 0 = none →
            c.expectations.satisfied (.of job.key masterType .pods) now = true →
              ∃ failure, ((reconcilePods now job masterType master pods).run c).2.store.trace =
                c.store.trace ++ [(.createPod job.ns pod, failure)]) ∧
          ∀ services, served? masterType services 0 = none →
            c.expectations.satisfied (.of job.key masterType .services) now = true →
              ∃ failure, ((reconcileServices now job masterType master services).run c).2.store.trace =
                c.store.trace ++ [(.createService job.ns service, failure)] := by
  intro job
  have hjob := Job.serviceable_withDefaults hvalid huid
  obtain ⟨workers, hlist⟩ := Job.slotList_of_acceptable hvalid
  obtain ⟨hentries, m, hm⟩ := JobSpec.of_fault?_eq_none hvalid
  obtain ⟨owner, howner⟩ := hjob.owner
  obtain ⟨port, hport⟩ := hjob.port _ hm
  have hservice := Job.serviceOf?_eq_some hm hport howner 0
  refine ⟨Job.nodup_slotList_of_acceptable hvalid, ?_, port, _, fun config n slot hslot => ?_, ⟨hservice, rfl, rfl⟩,
    fun now key a c hkey hstored => asked_sync hkey hstored now, fun σ _ now c => ?_⟩
  · rw [show job.slotList = _ from hlist, List.getElem?_cons_zero]
  · obtain ⟨spec, hspec, -⟩ := Job.mem_slotList.1 (List.mem_of_getElem? hslot)
    obtain ⟨c, hc, -⟩ := (ReplicaSpec.of_fault?_eq_none (hentries _ hspec)).2.1
    have htemplate := Job.slotTemplate_of_getElem? hvalid hm hport hslot spec.template
    exact ⟨_, Job.podOf?_eq_some hspec htemplate howner config,
      Job.briefed_podFor (List.ne_nil_of_mem hc) config slot owner port n, rfl⟩
  · have hmaster : Furnished now job (masterType, m) c := Controller.furnished hjob hm
    -- The master has one slot, so that what is due for it is due alone.
    have hone : m.slotCount = 1 := JobSpec.slotCount_master hvalid hm
    obtain ⟨pod, hpod, -⟩ := hjob.exists_podOf? hm c.config (hone ▸ Nat.one_pos)
    refine ⟨fun e he => Controller.furnished hjob he, m, pod, hm, hpod, fun pods hvacant => ?_,
      fun services hvacant => ?_⟩
    · have hasks := hmaster.pods pods
      rw [due_of_vacant hone hvacant hpod] at hasks
      exact hasks.of_singleton
    · have hasks := hmaster.services services
      rw [dueServices_of_vacant hone hvacant hservice] at hasks
      exact hasks.of_singleton

/-- A master with a helper before its training container, which has two ports, and workers that were given a rank. -/
def meddledJob : Job :=
  let training := { sampleContainer with
    ports := some [⟨some "metrics", 8080⟩, ⟨some Job.portName, 7000⟩] }
  let helper := { sampleContainer with name := "helper", ports := some [⟨some Job.portName, 1⟩] }
  let worker := { sampleContainer with env := some [⟨"RANK", some "0", none⟩, ⟨"MASTER_PORT", none, none⟩] }
  let job := sampleJob {}
    [("master", { template := { spec := some { containers := [helper, training] } } }),
      ("WORKER", { replicas := some 3, template := { spec := some { containers := [worker] } } })] none
  { job with metadata := { job.metadata with uid := some "uid-1" } }

/-- A controller that has seen nothing, with an empty store, which does not answer the first creation in time. -/
def meddledStart : Controller (Traced MemoryStore) :=
  .new {} { store := { clock := ⟨0⟩, failures := [(.createPod, .timeout "create")] } }

/-- Its last worker has the last rank, and is told the port of the training container. Its master's pod is asked
for, and its master's service with this port. -/
theorem rendezvous_consistent_meddledJob :
    meddledJob.withDefaults.spec.fault? = none ∧ meddledJob.metadata.uid.isSome = true ∧
      (∀ config, ∃ pod, meddledJob.withDefaults.podOf? config (workerType, 2) = some pod ∧
        pod.Briefed 3 4 "iris-master-0" 7000) ∧
      ∃ master pod service, nameOf pod = "iris-master-0" ∧ nameOf service = "iris-master-0" ∧
        service.spec.bind (·.ports) = some [⟨some Job.portName, 7000⟩] ∧
        (∃ failure, ((reconcilePods (sampleTime 7) meddledJob.withDefaults masterType master []).run
          meddledStart).2.store.trace = [(.createPod "default" pod, failure)]) ∧
        ∃ failure, ((reconcileServices (sampleTime 7) meddledJob.withDefaults masterType master []).run
          meddledStart).2.store.trace = [(.createService "default" service, failure)] := by
  have hvalid : meddledJob.withDefaults.spec.fault? = none := by decide +kernel
  have huid : meddledJob.metadata.uid.isSome = true := rfl
  obtain ⟨-, hfirst, port, service, hpods, ⟨hservice, hname, hport⟩, -, hasks⟩ := rendezvous_consistent hvalid huid
  have hslot : meddledJob.withDefaults.slotList[3]? = some (workerType, 2) := by decide +kernel
  have hsize : meddledJob.withDefaults.totalReplicas = 4 := by decide +kernel
  have haddress : slotName meddledJob.withDefaults.name masterType 0 = "iris-master-0" := by decide +kernel
  have hports : (meddledJob.withDefaults.serviceOf? (masterType, 0)).bind (fun s => s.spec.bind (·.ports)) =
      some [⟨some Job.portName, 7000⟩] := by decide +kernel
  rw [hservice, Option.bind_some, hport] at hports
  obtain rfl : port = 7000 := by simpa using hports
  refine ⟨hvalid, huid, fun config => ?_, ?_⟩
  · obtain ⟨pod, hpod, hbriefed, -⟩ := hpods config 3 (workerType, 2) hslot
    rw [hsize, haddress] at hbriefed
    exact ⟨pod, hpod, hbriefed⟩
  · obtain ⟨-, master, pod, -, hpod, hpodCall, hserviceCall⟩ := hasks MemoryStore (sampleTime 7) meddledStart
    obtain ⟨pod', hpod', -, hpodName⟩ := hpods meddledStart.config 0 (masterType, 0) hfirst
    obtain rfl : pod = pod' := Option.some.inj (hpod.symm.trans hpod')
    exact ⟨master, pod, service, hpodName.trans haddress, hname.trans haddress, hport,
      hpodCall [] rfl (by decide +kernel), hserviceCall [] rfl (by decide +kernel)⟩

end TrainingJobs
