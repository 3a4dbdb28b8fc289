/-
What is left of the pods and services of a job whose end took several passes.

A pass that brings a job to its end is broken off by the first refusal, and the next one takes up the work from
the pods that it still finds. So every pod goes that would have gone at once. A service goes with its pod, and a
pod is not listed again once it is gone; so a service whose own deletion was refused stays for good, with nothing
left to lead to it. `services_left` says what is left exactly, after any number of passes and refusals.
-/
import TrainingJobs.Proofs.CleanUp
import TrainingJobs.Proofs.Reachability

set_option autoImplicit false

namespace TrainingJobs

open Controller MemoryStore

/-! ## The pods that go -/

namespace MemoryStore

variable {s s' : MemoryStore}

/-- Every pod stands at its own address. -/
def PodsInPlace (s : MemoryStore) : Prop := ∀ x pod, s.pods.get? x = some pod → pod.metadata.address = x

instance (s : MemoryStore) : Decidable s.PodsInPlace := decidable_of_iff _ Dict.forall_get?_iff.symm

theorem PodsInPlace.of_pods_eq (h : s.PodsInPlace) (hpods : s'.pods = s.pods) : s'.PodsInPlace := by
  unfold PodsInPlace
  rw [hpods]
  exact h

/-- Fewer pods are still in place. -/
theorem PodsInPlace.of_subset (h : s.PodsInPlace)
    (hpods : ∀ x pod, s'.pods.get? x = some pod → s.pods.get? x = some pod) : s'.PodsInPlace :=
  fun x pod hpod => h x pod (hpods x pod hpod)

/-- Pods stay in place when others are taken away. -/
theorem PodsInPlace.of_without {gone : List Address} (h : s.PodsInPlace) (hpods : s'.pods = s.pods.without gone) :
    s'.PodsInPlace := by
  refine h.of_subset fun x pod hpod => ?_
  rw [hpods, Dict.get?_without] at hpod
  split at hpod
  · exact absurd hpod (by simp)
  · exact hpod

/-- And when one is put in at its own address. -/
theorem PodsInPlace.of_insert (h : s.PodsInPlace) {x : Address} {pod : Pod} (hplace : pod.metadata.address = x)
    (hpods : s'.pods = s.pods.insert x pod) : s'.PodsInPlace := by
  intro y found hfound
  rw [hpods] at hfound
  by_cases hy : y = x
  · subst hy
    rw [Dict.get?_insert_self, Option.some.injEq] at hfound
    exact hfound ▸ hplace
  · rw [Dict.get?_insert_ne _ _ hy] at hfound
    exact h y found hfound

/-- A request leaves the pods in place if the change that it asks for does. -/
theorem PodsInPlace.of_effect {change : MemoryStore → MemoryStore} (h : s.PodsInPlace) (heffect : Effect change s s')
    (hchange : (change s).PodsInPlace) : s'.PodsInPlace := by
  cases heffect with
  | refused => exact h.of_pods_eq rfl
  | made => exact hchange

/-- Whatever is asked of a store, the pods are still in place afterwards. -/
theorem PodsInPlace.call (h : s.PodsInPlace) (call : StoreCall) :
    ((call.op : StoreM MemoryStore call.Answer).run s).2.PodsInPlace := by
  -- Only the creation of a pod puts one in, and that lands at its own name.
  cases call with
  | getJob a =>
    change ((ObjectStore.getJob a : StoreM MemoryStore (Option Job)).run s).2.PodsInPlace
    rw [run_getJob]
    split
    · exact h.of_pods_eq rfl
    · exact h
  | updateJobStatus job status =>
    exact h.of_effect (effect_updateJobStatus job status s) (h.of_pods_eq (pods_recorded _ _ s))
  | createPod ns pod =>
    refine h.of_effect (effect_createPod ns pod s) (h.of_insert (x := ⟨ns, nameOf pod⟩) ?_ rfl)
    exact address_stamped _ _ _
  | deletePod a =>
    exact h.of_effect (effect_deletePod a s) (h.of_subset fun _ _ => Dict.get?_of_erase)
  | listPods | listServices | getPodGroup => exact h
  | deleteJob a => exact h.of_effect (effect_deleteJob a s) (h.of_pods_eq rfl)
  | createService ns service => exact h.of_effect (effect_createService ns service s) (h.of_pods_eq rfl)
  | deleteService a => exact h.of_effect (effect_deleteService a s) (h.of_pods_eq rfl)
  | createPodGroup ns group => exact h.of_effect (effect_createPodGroup ns group s) (h.of_pods_eq rfl)
  | deletePodGroup a => exact h.of_effect (effect_deletePodGroup a s) (h.of_pods_eq rfl)

/-- So does everything that can be done to a store: this is the step from which `Reachable.podsInPlace` follows. -/
theorem PodsInPlace.make (h : s.PodsInPlace) (access : Access) : (access.make s).PodsInPlace := by
  cases access with
  | clock | failNext | insertJob | removeJob => exact h.of_pods_eq rfl
  | insertPod pod => exact h.of_insert (address_stamped _ _ _) (pods_insertPod s pod)
  | removePod a => exact h.of_subset fun _ _ => Dict.get?_of_erase
  | setPodPhase a phase =>
    change (s.setPodPhase a phase).PodsInPlace
    unfold MemoryStore.setPodPhase
    split
    · exact h
    · next pod hpod =>
      -- Only the status and the number of the last write are other than before.
      let written : Pod := { pod.withPhase phase with
        metadata := { pod.metadata with resourceVersion := some (toString (s.version + 1)) } }
      have hplace : written.metadata.address = a := h a pod hpod
      exact h.of_insert hplace rfl
  | request call => exact h.call call

/-- In a store that comes about from an empty one all pods are in place. -/
theorem Reachable.podsInPlace (h : s.Reachable) : s.PodsInPlace := by
  obtain ⟨clock, hs⟩ := h
  induction hs with
  | refl => exact fun x pod hpod => absurd hpod (by simp [EmptyCollection.emptyCollection])
  | step access _ ih => exact ih.make access

end MemoryStore

namespace Job

variable {job : Job} {s : MemoryStore} {x : Address}

/-- The pod at `x` goes at the end of the job. -/
def discardsAt (job : Job) (x : Address) (pod : Pod) : Bool :=
  x.ns == job.ns && Labels.selectedBy pod.metadata.labelsOrEmpty (Labels.ofJob group job.name) &&
    pod.isCleanedUp job.spec.runPolicy.cleaning

/-- The pods that go are deleted in the order in which the store has them. -/
theorem discards_podsIn (h : s.PodsInPlace) :
    job.discards (job.podsIn s) = (s.pods.filter job.discardsAt).keys := by
  unfold discards podsIn MemoryStore.select Dict.values Dict.keys Dict.filter
  simp only [List.filter_map, List.filter_filter, List.map_map]
  have hentries : (s.pods.entries.filter fun e => job.discardsAt e.1 e.2) = s.pods.entries.filter fun e =>
      ((fun pod : Pod => pod.isCleanedUp job.spec.runPolicy.cleaning) ∘ (·.2)) e &&
        (e.1.ns == job.ns &&
          Labels.selectedBy (HasMetadata.metadata e.2).labelsOrEmpty (Labels.ofJob group job.name)) :=
    List.filter_congr fun e _ => Bool.and_comm _ _
  rw [hentries]
  refine List.map_congr_left fun e he => ?_
  -- Such a pod is deleted under its own name, in the namespace of the job.
  obtain ⟨hmem, hgoes⟩ := List.mem_filter.1 he
  have hns : e.1.ns = job.ns := by
    simp only [Bool.and_eq_true, beq_iff_eq] at hgoes
    exact hgoes.2.1
  have hplace : e.2.metadata.address = e.1 := h e.1 e.2 (Dict.get?_eq_some_iff.2 hmem)
  change (⟨job.ns, e.2.metadata.address.name⟩ : Address) = e.1
  rw [hplace, ← hns]

/-- The addresses that are cleaned up are those of the pods that are to go. -/
theorem mem_discards_iff (h : s.PodsInPlace) :
    x ∈ job.discards (job.podsIn s) ↔ ∃ pod, s.pods.get? x = some pod ∧ job.discardsAt x pod = true := by
  rw [discards_podsIn h]
  unfold Dict.keys
  simp only [List.mem_map, Prod.exists, exists_and_right, exists_eq_right]
  refine exists_congr fun pod => ?_
  rw [← Dict.get?_eq_some_iff, Dict.get?_filter, Option.filter_eq_some_iff]

/-- No pod is deleted twice. -/
theorem nodup_discards (h : s.PodsInPlace) : (job.discards (job.podsIn s)).Nodup := by
  rw [discards_podsIn h]
  refine List.pairwise_map.2 ((s.pods.filter job.discardsAt).sorted.imp fun hlt heq => ?_)
  simp only [heq, Std.ReflCmp.compare_self, reduceCtorEq] at hlt

/-- When some pods are gone, what is to be deleted is what was, but for these. -/
theorem mem_discards_of_without {s' : MemoryStore} {gone : List Address} (h : s.PodsInPlace)
    (hpods : s'.pods = s.pods.without gone) :
    x ∈ job.discards (job.podsIn s') ↔ x ∈ job.discards (job.podsIn s) ∧ x ∉ gone := by
  rw [mem_discards_iff (h.of_without hpods), mem_discards_iff h, hpods]
  simp only [Dict.get?_without]
  by_cases hx : x ∈ gone
  · simp [hx]
  · simp [hx]

/-- What goes hangs on nothing but what is asked for and where the job is. -/
theorem discards_of_sameJob {stored stored' : Job} (h : SameJob stored stored') (s : MemoryStore) :
    stored'.withDefaults.discards (stored'.withDefaults.podsIn s) =
      stored.withDefaults.discards (stored.withDefaults.podsIn s) := by
  have hspec : stored'.withDefaults.spec = stored.withDefaults.spec := congrArg JobSpec.withDefaults h.spec
  have hns : stored'.withDefaults.ns = stored.withDefaults.ns := h.ns
  have hname : stored'.withDefaults.name = stored.withDefaults.name := h.name
  unfold discards podsIn
  rw [hspec, hns, hname]

end Job

/-! ## Pass after pass -/

/-- Between two passes a job, the pods and services and the account of what was asked for are left alone.
Whatever happens elsewhere does not matter, nor which calls are to be refused next. -/
structure Apart (a : Address) (c c' : Controller ScriptedStore) : Prop where
  record : c'.store.memory.jobs.get? a = c.store.memory.jobs.get? a
  pods : c'.store.memory.pods = c.store.memory.pods
  services : c'.store.memory.services = c.store.memory.services
  log : c'.store.log = c.store.log
  fair : c'.store.Fair

/-- Passes over the job under a key, one after the other, at whatever times and however each of them ends. -/
inductive Repeated (key : String) (a : Address) (start : Controller ScriptedStore) : Controller ScriptedStore → Prop
  | start : Repeated key a start start
  | pass {c : Controller ScriptedStore} (now : Timestamp) (h : Repeated key a start c) :
    Repeated key a start ((sync now key).run c).2
  | aside {c c' : Controller ScriptedStore} (h : Repeated key a start c) (hc : Apart a c c') : Repeated key a start c'

/-- Some of the pods are gone, and with them their services but for those whose deletion was refused. -/
structure Thinned (addresses : List Address) (start c : Controller ScriptedStore) (gone : List Address) : Prop where
  pods : c.store.memory.pods = start.store.memory.pods.without gone
  services : c.store.memory.services =
    start.store.memory.services.without (gone.filter fun x => x ∉ c.store.spared)
  subset : gone ⊆ addresses
  spared : c.store.spared ⊆ gone

section Thinned

variable {addresses gone : List Address} {start c c' : Controller ScriptedStore}

/-- A pass takes more pods away, each with its service unless the deletion of that is refused. -/
theorem Thinned.leaves {memory : MemoryStore} {swept spared : List Address} (h : Thinned addresses start c gone)
    (hleaves : Leaves memory spared c c')
    (hpods : memory.pods = c.store.memory.pods.without (swept ++ spared))
    (hservices : memory.services = c.store.memory.services.without swept)
    (hnodup : (swept ++ spared).Nodup) (hfresh : ∀ x ∈ swept ++ spared, x ∈ addresses ∧ x ∉ gone) :
    Thinned addresses start c' (gone ++ (swept ++ spared)) where
  pods := by rw [hleaves.memory, hpods, h.pods, Dict.without_without]
  services := by
    rw [hleaves.memory, hservices, h.services, Dict.without_without, hleaves.spared]
    refine Dict.without_congr fun x => ?_
    -- What was spared earlier is gone, and what is swept now was not; so the two do not meet.
    have hold : x ∈ c.store.spared → x ∈ gone := fun hx => h.spared hx
    have hnew : x ∈ swept ++ spared → x ∉ gone := fun hx => (hfresh x hx).2
    have hapart : x ∈ swept → x ∉ spared := fun hx hx' => (List.nodup_append.1 hnodup).2.2 x hx x hx' rfl
    simp only [List.mem_append, List.mem_filter, decide_eq_true_eq] at hnew ⊢
    grind
  subset := List.append_subset.2 ⟨h.subset, fun x hx => (hfresh x hx).1⟩
  spared := by
    rw [hleaves.spared]
    exact List.append_subset.2 ⟨List.subset_append_of_subset_left _ h.spared,
      List.subset_append_of_subset_right _ (List.subset_append_right _ _)⟩

end Thinned

/-- How it stands while a finished job is brought to its end. -/
structure Ending (stored : Job) (start c : Controller ScriptedStore) (gone : List Address) : Prop where
  record : ∀ job, c.store.memory.jobs.get? stored.address = some job →
    SameJob stored job ∧ job.currentStatus.isFinished = true
  thinned : Thinned (stored.withDefaults.discards (stored.withDefaults.podsIn start.store.memory)) start c gone
  fair : c.store.Fair

section Ending

variable {key : String} {stored : Job} {start c c' : Controller ScriptedStore} {gone : List Address}

/-- What happens apart from the job changes nothing about what is left of it. -/
theorem Ending.aside (h : Ending stored start c gone) (hc : Apart stored.address c c') :
    Ending stored start c' gone where
  record := hc.record ▸ h.record
  thinned := {
    pods := hc.pods.trans h.thinned.pods
    services := by
      unfold ScriptedStore.spared
      rw [hc.services, hc.log]
      exact h.thinned.services
    subset := h.thinned.subset
    spared := by
      unfold ScriptedStore.spared
      rw [hc.log]
      exact h.thinned.spared }
  fair := hc.fair

/-- What a step does to the pods to be deleted, to their services and to the record goes on with the end. -/
theorem Ending.leaves {memory : MemoryStore} {swept spared : List Address} (h : Ending stored start c gone)
    (hplace : start.store.memory.PodsInPlace) (hleaves : Leaves memory spared c c')
    (hfailures : memory.failures = []) (hpods : memory.pods = c.store.memory.pods.without (swept ++ spared))
    (hservices : memory.services = c.store.memory.services.without swept)
    (hpart : swept ++ spared <+: stored.withDefaults.discards (stored.withDefaults.podsIn c.store.memory))
    (hrecord : ∀ job, memory.jobs.get? stored.address = some job →
      SameJob stored job ∧ job.currentStatus.isFinished = true) :
    Ending stored start c' (gone ++ (swept ++ spared)) where
  record := hleaves.memory ▸ hrecord
  thinned := by
    have hplaced : c.store.memory.PodsInPlace := hplace.of_without h.thinned.pods
    refine h.thinned.leaves hleaves hpods hservices ((Job.nodup_discards hplaced).sublist hpart.sublist) fun x hx => ?_
    exact (Job.mem_discards_of_without hplace h.thinned.pods).1 (hpart.subset hx)
  fair := hleaves.fair hfailures

/-- A pass goes on with the end of the job. One that attends to it and ends well deletes all that is left to be
deleted. -/
theorem Ending.sync (h : Ending stored start c gone) (hkey : splitKey? key = some (stored.ns, stored.name))
    (hvalid : stored.withDefaults.spec.fault? = none) (hplace : start.store.memory.PodsInPlace) (now : Timestamp) :
    Yields (sync now key) c
      (fun _ c' => ∃ more, Ending stored start c' (gone ++ more) ∧
        ∀ job, c.store.memory.jobs.get? stored.address = some job → Attends now job.withDefaults c →
          more = stored.withDefaults.discards (stored.withDefaults.podsIn c.store.memory))
      fun _ c' => ∃ more, Ending stored start c' (gone ++ more) := by
  -- A pass that finds nothing to do deletes nothing more.
  have hidle : ∀ c', Leaves c.store.memory [] c c' → Ending stored start c' (gone ++ []) := fun c' hleaves =>
    h.leaves hplace hleaves h.fair.failures (Dict.without_nil _).symm (Dict.without_nil _).symm List.nil_prefix h.record
  rcases hjob : c.store.memory.jobs.get? stored.address with _ | job
  · refine (yields_sync_of_gone now hkey hjob h.fair).mono (fun _ c' hleaves => ?_) fun _ c' hleaves => ?_
    · exact ⟨[], hidle c' hleaves, fun job hsome => absurd hsome (by simp)⟩
    · exact ⟨[], hidle c' hleaves⟩
  · obtain ⟨hsame, hfinished⟩ := h.record job hjob
    have hspec : job.withDefaults.spec = stored.withDefaults.spec := congrArg JobSpec.withDefaults hsame.spec
    have hpass := yields_sync_of_fair now hkey hjob hsame.address (hspec ▸ hvalid) hfinished h.fair
    simp only [Job.discards_of_sameJob hsame] at hpass
    refine hpass.mono (fun _ c' hleaves => ?_) fun _ c' hbroken => ?_
    · -- Held up by pending observations, the pass leaves all as it is and claims nothing.
      by_cases hattends : Attends now job.withDefaults c
      · rw [if_pos hattends] at hleaves
        refine ⟨_, h.leaves hplace hleaves ?_ ?_ ?_ ?_ fun job' hjob' => ?_, fun _ _ _ =>
          List.append_nil _⟩
        · rw [failures_resolve]
          exact h.fair.failures
        · rw [pods_resolve, List.append_nil, ← Job.discards_of_sameJob hsame]
          rfl
        · rw [services_resolve, ← Job.discards_of_sameJob hsame]
          rfl
        · simp only [List.append_nil, List.prefix_rfl]
        · obtain ⟨hstatus, hsame'⟩ :=
            stored_resolve (s := job.withDefaults.cleared _ _ c.store.memory) hjob hjob'
          rw [hstatus]
          exact ⟨hsame.trans hsame', Job.isFinished_ended now _ hfinished⟩
      · rw [if_neg hattends] at hleaves
        refine ⟨[], hidle c' hleaves, fun job' hjob' hattends' => absurd hattends' ?_⟩
        rw [Option.some.injEq] at hjob'
        exact hjob' ▸ hattends
    · obtain ⟨swept, spared, groups, hpart, hleaves⟩ := hbroken
      exact ⟨swept ++ spared, h.leaves hplace hleaves h.fair.failures rfl rfl hpart h.record⟩

/-- **After any number of passes, some of them broken off,** what is gone is what the passes could delete: by
induction on the passes, each of which goes by the pods that are still there. -/
theorem Repeated.ending (h : Repeated key stored.address start c) (hkey : splitKey? key = some (stored.ns, stored.name))
    (hstored : start.store.memory.jobs.get? stored.address = some stored)
    (hvalid : stored.withDefaults.spec.fault? = none) (hfinished : stored.currentStatus.isFinished = true)
    (hplace : start.store.memory.PodsInPlace) (hfair : start.store.Fair) (hlog : start.store.log = []) :
    ∃ gone, Ending stored start c gone := by
  -- Each pass extends what is gone; nothing that happens between passes undoes it.
  induction h with
  | start =>
    refine ⟨[], fun job hjob => ?_,
      ⟨(Dict.without_nil _).symm, (Dict.without_nil _).symm, List.nil_subset _, ?_⟩, hfair⟩
    · rw [hstored, Option.some.injEq] at hjob
      subst hjob
      exact ⟨.refl stored, hfinished⟩
    · unfold ScriptedStore.spared
      rw [hlog]
      exact List.nil_subset _
  | pass now _ ih =>
    obtain ⟨gone, ih⟩ := ih
    have hpass : ∃ more, Ending stored start _ (gone ++ more) :=
      ((ih.sync hkey hvalid hplace now).mono (fun _ _ ⟨more, h, _⟩ => ⟨more, h⟩) fun _ _ => id).run
    obtain ⟨more, hpass⟩ := hpass
    exact ⟨gone ++ more, hpass⟩
  | aside _ hc ih =>
    obtain ⟨gone, ih⟩ := ih
    exact ⟨gone, ih.aside hc⟩

end Ending

/-- **What is left when the end of a job was broken off any number of times.** The pods are those that would be left
if no call had been refused. The services are, too, except that those whose deletion was refused are still there;
so nothing is left too much exactly when there was nothing to delete where a deletion was refused. -/
theorem services_left {key : String} {stored job : Job} {start c c' : Controller ScriptedStore} {now : Timestamp}
    {outcome : Outcome} (hkey : splitKey? key = some (stored.ns, stored.name))
    (hstored : start.store.memory.jobs.get? stored.address = some stored)
    (hvalid : stored.withDefaults.spec.fault? = none) (hfinished : stored.currentStatus.isFinished = true)
    (hplace : start.store.memory.PodsInPlace) (hfair : start.store.Fair) (hlog : start.store.log = [])
    (hpasses : Repeated key stored.address start c) (hjob : c.store.memory.jobs.get? stored.address = some job)
    (hattends : Attends now job.withDefaults c) (hlast : (sync now key).run c = (.ok outcome, c')) :
    let due := stored.withDefaults.discards (stored.withDefaults.podsIn start.store.memory)
    c'.store.memory.pods = start.store.memory.pods.without due ∧
      c'.store.memory.services = start.store.memory.services.without (due.filter fun x => x ∉ c'.store.spared) ∧
      (c'.store.memory.services = start.store.memory.services.without due ↔
        ∀ x ∈ c'.store.spared, start.store.memory.services.get? x = none) := by
  intro due
  obtain ⟨gone, hending⟩ := hpasses.ending hkey hstored hvalid hfinished hplace hfair hlog
  obtain ⟨more, hlastEnding, hmore⟩ := (hending.sync hkey hvalid hplace now).ok hlast
  -- The last pass attended: together, the passes went through all that was due.
  have hall : ∀ x, x ∈ gone ++ more ↔ x ∈ due := by
    intro x
    refine ⟨fun hx => hlastEnding.thinned.subset hx, fun hx => ?_⟩
    rw [hmore job hjob hattends, List.mem_append, Job.mem_discards_of_without hplace hending.thinned.pods]
    exact (Decidable.em (x ∈ gone)).imp_right fun hgone => ⟨hx, hgone⟩
  have hspared : ∀ x ∈ c'.store.spared, x ∈ due := fun x hx => (hall x).1 (hlastEnding.thinned.spared hx)
  have hservices : c'.store.memory.services =
      start.store.memory.services.without (due.filter fun x => x ∉ c'.store.spared) := by
    rw [hlastEnding.thinned.services]
    refine Dict.without_congr fun x => ?_
    rw [List.mem_filter, List.mem_filter, hall x]
  refine ⟨hlastEnding.thinned.pods.trans (Dict.without_congr hall), hservices, ?_⟩
  rw [hservices, Dict.without_filter_eq_iff]
  simp only [decide_eq_true_eq, Decidable.not_not]
  exact ⟨fun h x hx => h x (hspared x hx) hx, fun h x _ hx => h x hx⟩

/-- A job of a master and a worker that is done, with its pods and their services. -/
def doneWithPods : MemoryStore :=
  let job := sampleJob { cleanPodPolicy := some .all }
    [(masterType, sampleType 1 .never), (workerType, sampleType 1 .never)] (some {
      conditions := [.holding .created Reason.jobCreated "XGBoostJob iris is created." (sampleTime 0),
        .holding .succeeded Reason.jobSucceeded "XGBoostJob iris is successfully completed." (sampleTime 30)]
      startTime := some (sampleTime 0)
      completionTime := some (sampleTime 30) })
  let pods := [samplePod masterType 0 "Succeeded" (some 0), samplePod workerType 0 "Running" none]
  let services := [sampleService masterType 0, sampleService workerType 0]
  { (sampleStartWith job pods).store with
    services := .ofList (services.map fun service => (addressOf service, service)) }

/-- A controller on that store, by a script. -/
def doneUnder (script : List (Option OperatorError)) : Controller ScriptedStore :=
  .new {} { memory := doneWithPods, script := script }

/-- Six calls are answered, and the seventh is refused: that is the deletion of the second service. -/
def refusedOnce : Controller ScriptedStore := doneUnder (List.replicate 6 none ++ [some (.timeout "delete service")])

/-- The controller after the pass that was broken off. -/
def onceMore : Controller ScriptedStore := ((sync (sampleTime 31) sampleKey).run refusedOnce).2

/-- The controller after the pass that made up for it. -/
def madeUpFor : Controller ScriptedStore := ((sync (sampleTime 32) sampleKey).run onceMore).2

/-- The pass that makes up for it ends well and leaves the service whose deletion was refused. -/
theorem services_left_madeUpFor :
    ∃ stored : Job, refusedOnce.store.memory.jobs.get? sampleAddress = some stored ∧
      let due := stored.withDefaults.discards (stored.withDefaults.podsIn refusedOnce.store.memory)
      madeUpFor.store.memory.pods = refusedOnce.store.memory.pods.without due ∧
        madeUpFor.store.memory.services =
          refusedOnce.store.memory.services.without (due.filter fun x => x ∉ madeUpFor.store.spared) ∧
        (madeUpFor.store.memory.services = refusedOnce.store.memory.services.without due ↔
          ∀ x ∈ madeUpFor.store.spared, refusedOnce.store.memory.services.get? x = none) := by
  have hstart : (refusedOnce.store.memory.jobs.get? sampleAddress).map (fun job =>
      (job.address, job.withDefaults.spec.fault?.isNone, job.currentStatus.isFinished)) =
      some (sampleAddress, true, true) := by decide +kernel
  obtain ⟨stored, hstored, hfound⟩ := Option.map_eq_some_iff.1 hstart
  simp only [Prod.mk.injEq, Option.isNone_iff_eq_none] at hfound
  obtain ⟨haddress, hvalid, hfinished⟩ := hfound
  have hnext : (onceMore.store.memory.jobs.get? sampleAddress).map (fun job =>
      decide (Attends (sampleTime 32) job.withDefaults onceMore)) = some true := by decide +kernel
  obtain ⟨job, hjob, hattends⟩ := Option.map_eq_some_iff.1 hnext
  have hplaced : refusedOnce.store.memory.PodsInPlace := by decide +kernel
  have hfair : refusedOnce.store.Fair := by decide +kernel
  have hkey : splitKey? sampleKey = some (sampleAddress.ns, sampleAddress.name) := splitKey?_sampleKey
  have hpasses : Repeated sampleKey sampleAddress refusedOnce onceMore := .pass (sampleTime 31) .start
  obtain ⟨outcome, hlast⟩ := exists_run_ok
    (show ((sync (sampleTime 32) sampleKey).run onceMore).1.isOk = true by decide +kernel)
  rw [← madeUpFor] at hlast
  refine ⟨stored, hstored, ?_⟩
  rw [← haddress] at hkey hstored hjob hpasses
  exact services_left hkey hstored hvalid hfinished hplaced hfair rfl hpasses hjob (of_decide_eq_true hattends) hlast

/-- The pass after the one that was broken off ends well and leaves the service of a pod that is deleted. If no call
had been refused, it would be gone. -/
theorem service_left_behind :
    ((sync (sampleTime 31) sampleKey).run refusedOnce).1.isOk = false ∧
      ((sync (sampleTime 32) sampleKey).run onceMore).1.isOk = true ∧
      madeUpFor.store.memory.pods.keys = [] ∧
      madeUpFor.store.memory.services.keys = [⟨"default", slotName "iris" workerType 0⟩] ∧
      ((sync (sampleTime 31) sampleKey).run (doneUnder [])).1.isOk = true ∧
      ((sync (sampleTime 31) sampleKey).run (doneUnder [])).2.store.memory.pods.keys = [] ∧
      ((sync (sampleTime 31) sampleKey).run (doneUnder [])).2.store.memory.services.keys = [] := by
  refine ⟨?_, ?_, ?_, ?_, ?_, ?_, ?_⟩ <;> decide +kernel

end TrainingJobs
