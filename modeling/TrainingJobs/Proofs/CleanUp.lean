/-
What the clean-up of a job deletes, when any call may be refused.

The pods that go are deleted one after the other, each before its service, and the first refusal ends the pass.
So a pass deletes a first part of what it set out to delete, and at most one pod goes without its service: that
of the pod at which the pass was stopped (`yields_cleanUpPods`).
-/
import TrainingJobs.Proofs.Looking
import TrainingJobs.Proofs.Outstanding

set_option autoImplicit false

namespace TrainingJobs

/-! ## Maps without some of their keys -/

namespace Dict

variable {κ α : Type} [Ord κ] [DecidableEq κ]

/-- The entries under other keys. -/
def without (d : Dict κ α) (keys : List κ) : Dict κ α := d.filter fun k _ => decide (k ∉ keys)

variable [Std.TransOrd κ] [Std.LawfulEqOrd κ]

omit [Std.TransOrd κ] in
/-- What is looked up where some keys were taken out is found unless its key was one of them. -/
theorem get?_without (d : Dict κ α) (keys : List κ) (k : κ) :
    (d.without keys).get? k = if k ∈ keys then none else d.get? k := by
  unfold without
  rw [get?_filter]
  by_cases hk : k ∈ keys
  · simp [hk]
  · simp only [hk, not_false_eq_true, decide_true, if_false]
    rcases d.get? k with _ | v <;> rfl

omit [Std.TransOrd κ] in
/-- What is still there was there. -/
theorem get?_of_without {d : Dict κ α} {keys : List κ} {k : κ} {v : α} (h : (d.without keys).get? k = some v) :
    d.get? k = some v := by
  rw [get?_without] at h
  split at h
  · exact absurd h (by simp)
  · exact h

omit [Std.TransOrd κ] in
/-- What was there is gone exactly when its key is one of those left out. -/
theorem get?_without_eq_none_iff {d : Dict κ α} {keys : List κ} {k : κ} {v : α} (h : d.get? k = some v) :
    (d.without keys).get? k = none ↔ k ∈ keys := by
  rw [get?_without, h]
  by_cases hk : k ∈ keys
  · rw [if_pos hk]
    exact iff_of_true rfl hk
  · rw [if_neg hk]
    exact iff_of_false (Option.some_ne_none v) hk

@[simp] theorem without_nil (d : Dict κ α) : d.without [] = d :=
  ext_get? fun k => by rw [get?_without, if_neg List.not_mem_nil]

/-- Keys that are taken out one list after the other are taken out together. -/
theorem without_without (d : Dict κ α) (keys keys' : List κ) :
    (d.without keys).without keys' = d.without (keys ++ keys') := by
  refine ext_get? fun k => ?_
  simp only [get?_without, List.mem_append]
  by_cases hk : k ∈ keys <;> by_cases hk' : k ∈ keys' <;> simp [hk, hk']

/-- It does not matter how often and in which order the keys are listed. -/
theorem without_congr {d : Dict κ α} {keys keys' : List κ} (h : ∀ k, k ∈ keys ↔ k ∈ keys') :
    d.without keys = d.without keys' := by
  refine ext_get? fun k => ?_
  simp only [get?_without, h k]

/-- Leaving some of the keys in makes no difference exactly when nothing is under them. -/
theorem without_filter_eq_iff {d : Dict κ α} {keys : List κ} {p : κ → Bool} :
    d.without (keys.filter p) = d.without keys ↔ ∀ k ∈ keys, ¬ p k = true → d.get? k = none := by
  constructor
  · -- Forth: a key filtered out keeps its entry on the left and loses it on the right.
    intro h k hk hp
    have hget : (d.without (keys.filter p)).get? k = (d.without keys).get? k := by rw [h]
    rw [get?_without, get?_without, if_pos hk, if_neg fun hmem => hp (List.mem_filter.1 hmem).2] at hget
    exact hget
  · intro h
    refine ext_get? fun k => ?_
    rw [get?_without, get?_without]
    by_cases hk : k ∈ keys
    · by_cases hp : p k = true
      · rw [if_pos (List.mem_filter.2 ⟨hk, hp⟩), if_pos hk]
      · rw [if_neg fun hmem => hp (List.mem_filter.1 hmem).2, if_pos hk, h k hk hp]
    · rw [if_neg fun hmem => hk (List.mem_filter.1 hmem).1, if_neg hk]

theorem without_singleton (d : Dict κ α) (k : κ) : d.without [k] = d.erase k := by
  refine ext_get? fun k' => ?_
  simp only [get?_without, get?_erase, List.mem_singleton, Std.LawfulEqCmp.compare_eq_iff_eq]

/-- Where nothing is under a key, nothing is lost without it. -/
theorem without_of_absent {d : Dict κ α} {k : κ} (h : d.get? k = none) : d.without [k] = d := by
  refine ext_get? fun k' => ?_
  simp only [get?_without, List.mem_singleton]
  split
  · next hk => rw [hk, h]
  · rfl

end Dict

/-! ## What deletions leave -/

namespace MemoryStore

/-- The store without some pods and services. -/
def swept (pods services : List Address) (s : MemoryStore) : MemoryStore :=
  { s with pods := s.pods.without pods, services := s.services.without services }

theorem swept_nil (s : MemoryStore) : swept [] [] s = s := by
  unfold swept
  rw [Dict.without_nil, Dict.without_nil]

/-- Two sweeps are one. -/
theorem swept_swept (pods services pods' services' : List Address) (s : MemoryStore) :
    swept pods' services' (swept pods services s) = swept (pods ++ pods') (services ++ services') s := by
  unfold swept
  rw [Dict.without_without, Dict.without_without]

theorem withoutPod_eq (x : Address) (s : MemoryStore) : withoutPod x s = { s with pods := s.pods.without [x] } := by
  rw [Dict.without_singleton]
  rfl

theorem withoutService_eq (x : Address) (s : MemoryStore) :
    withoutService x s = { s with services := s.services.without [x] } := by
  rw [Dict.without_singleton]
  rfl

theorem withoutPodGroup_eq (x : Address) (s : MemoryStore) :
    withoutPodGroup x s = { s with podGroups := s.podGroups.without [x] } := by
  rw [Dict.without_singleton]
  rfl

/-- A deletion that no failure waits for leaves nothing at the address, be it that the object was deleted or that
there was none. -/
theorem run_delete_of_nil {α : Type} {op : StoreOp} {kind : String} {objects : MemoryStore → Dict Address α}
    {withObjects : MemoryStore → Dict Address α → MemoryStore} {x : Address} {s : MemoryStore}
    (hfailures : s.failures = [])
    (habsent : (objects s).get? x = none → removed objects withObjects x s = s) :
    (guarded op (delete kind objects withObjects x)).run s = (.ok (), removed objects withObjects x s) ∨
      ∃ e : OperatorError, e.isNotFound = true ∧
        (guarded op (delete kind objects withObjects x)).run s = (.error e, removed objects withObjects x s) := by
  rw [run_guarded_of_nil _ _ hfailures, run_delete]
  by_cases hx : (objects s).contains x = true
  · rw [if_pos hx]
    exact .inl rfl
  · have hnone : (objects s).get? x = none := by
      rw [Dict.contains, Option.not_isSome_iff_eq_none] at hx
      exact hx
    rw [if_neg hx, habsent hnone]
    exact .inr ⟨_, rfl, rfl⟩

/-- The store with the record of a job resolved. -/
def resolve (a : Address) : Controller.Resolution → MemoryStore → MemoryStore
  | .kept => id
  | .recorded status => recorded a status
  | .removed => withoutJob a

section Resolve

variable {a : Address} {r : Controller.Resolution} {s : MemoryStore}

theorem pods_resolve (a : Address) (r : Controller.Resolution) (s : MemoryStore) : (resolve a r s).pods = s.pods := by
  cases r with
  | recorded status => exact pods_recorded a status s
  | kept | removed => rfl

theorem services_resolve (a : Address) (r : Controller.Resolution) (s : MemoryStore) :
    (resolve a r s).services = s.services := by
  cases r with
  | recorded status => exact services_recorded a status s
  | kept | removed => rfl

theorem podGroups_resolve (a : Address) (r : Controller.Resolution) (s : MemoryStore) :
    (resolve a r s).podGroups = s.podGroups := by
  cases r with
  | recorded status => exact podGroups_recorded a status s
  | kept | removed => rfl

theorem failures_resolve (a : Address) (r : Controller.Resolution) (s : MemoryStore) :
    (resolve a r s).failures = s.failures := by
  cases r with
  | recorded status => exact failures_recorded a status s
  | kept | removed => rfl

/-- A job that is still there is the one that was there, with the status that the resolution gives it. -/
theorem stored_resolve {job job' : Job} (hjob : s.jobs.get? a = some job)
    (hjob' : (resolve a r s).jobs.get? a = some job') :
    job'.currentStatus = r.statusAfter job.currentStatus ∧ Controller.SameJob job job' := by
  -- By what is done with the record: kept, rewritten, removed. Removed leaves no job to speak of.
  cases r with
  | kept =>
    rw [show resolve a .kept s = s from rfl, hjob, Option.some.injEq] at hjob'
    subst hjob'
    exact ⟨rfl, .refl job⟩
  | recorded status =>
    have hrecorded : (recorded a status s).jobs.get? a = some (s.withRecord job status) := by
      unfold recorded
      rw [hjob]
      exact Dict.get?_insert_self _ _ _
    have hwritten : job' = s.withRecord job status := Option.some.inj (hjob'.symm.trans hrecorded)
    subst hwritten
    exact ⟨rfl, .of_stamped job (s.version + 1) s.clock status⟩
  | removed =>
    change (s.jobs.erase a).get? a = some job' at hjob'
    rw [Dict.get?_erase, if_pos Std.ReflCmp.compare_self] at hjob'
    exact absurd hjob' (by simp)

end Resolve

end MemoryStore

/-! ## Calls on a fair store -/

namespace ScriptedStore

/-- The store in memory refuses nothing by itself, and the script is honest. -/
structure Fair (s : ScriptedStore) : Prop where
  failures : s.memory.failures = []
  honest : s.Honest

instance (s : ScriptedStore) : Decidable s.Fair :=
  decidable_of_iff (s.memory.failures = [] ∧ s.Honest) ⟨fun h => ⟨h.1, h.2⟩, fun h => ⟨h.failures, h.honest⟩⟩

/-- The services whose deletion was refused. -/
def spared (s : ScriptedStore) : List Address :=
  s.log.filterMap fun entry => if entry.2.isSome then entry.1.serviceToDelete? else none

variable {s : ScriptedStore}

/-- An answered call spares nothing. -/
theorem spared_answered (call : StoreCall) (memory : MemoryStore) : (s.answered call memory).spared = s.spared := by
  unfold spared answered
  rw [List.filterMap_append]
  simp

/-- A refused call spares the service that it was to delete, if that was its purpose. -/
theorem spared_refused (call : StoreCall) (e : OperatorError) :
    (s.refused call e).spared = s.spared ++ call.serviceToDelete?.toList := by
  unfold spared refused
  rw [List.filterMap_append, List.filterMap_cons, List.filterMap_nil, Option.isSome_some, if_pos rfl]
  cases call.serviceToDelete? <;> rfl

end ScriptedStore

namespace Controller

open ScriptedStore MemoryStore

variable {job : Job} {c c₁ c₂ : Controller ScriptedStore}

/-- A step leaves the store in memory like that. The deletion of those services was refused on the way, and the
rest of what the controller goes by is as it was. -/
structure Leaves (memory : MemoryStore) (spared : List Address) (c c' : Controller ScriptedStore) : Prop where
  memory : c'.store.memory = memory
  spared : c'.store.spared = c.store.spared ++ spared
  honest : c'.store.Honest
  config : c'.config = c.config
  retries : c'.retries = c.retries

theorem Leaves.refl (h : c.store.Honest) : Leaves c.store.memory [] c c :=
  ⟨rfl, (List.append_nil _).symm, h, rfl, rfl⟩

/-- What two steps leave is what the second does, and what either has spared. -/
theorem Leaves.trans {memory₁ memory₂ : MemoryStore} {spared₁ spared₂ : List Address}
    (h₁ : Leaves memory₁ spared₁ c c₁) (h₂ : Leaves memory₂ spared₂ c₁ c₂) :
    Leaves memory₂ (spared₁ ++ spared₂) c c₂ where
  memory := h₂.memory
  spared := by rw [h₂.spared, h₁.spared, List.append_assoc]
  honest := h₂.honest
  config := h₂.config.trans h₁.config
  retries := h₂.retries.trans h₁.retries

/-- A store that was fair stays so as long as no failure waits in it. -/
theorem Leaves.fair {memory : MemoryStore} {spared : List Address} (h : Leaves memory spared c c₁)
    (hmemory : memory.failures = []) : c₁.store.Fair := ⟨h.memory ▸ hmemory, h.honest⟩

/-- What is done without the store leaves it as it was. -/
theorem Leaves.own {memory : MemoryStore} {spared : List Address} (h : Leaves memory spared c c₁)
    (hstore : c₂.store = c₁.store) (hconfig : c₂.config = c₁.config) (hretries : c₂.retries = c₁.retries) :
    Leaves memory spared c c₂ where
  memory := hstore ▸ h.memory
  spared := hstore ▸ h.spared
  honest := hstore ▸ h.honest
  config := hconfig.trans h.config
  retries := hretries.trans h.retries

/-- A look leaves the store in memory as it was. -/
theorem Silent.leaves (h : Silent c c₁) (hc : c.store.Honest) : Leaves c.store.memory [] c c₁ := by
  obtain ⟨calls, hreads, rfl⟩ := h
  refine ⟨rfl, ?_, fun e he => hc e (List.mem_of_mem_drop he), rfl, rfl⟩
  have hnone : ∀ call ∈ calls, (if call.2.isSome then call.1.serviceToDelete? else none) = none := by
    intro call hcall
    rw [StoreCall.serviceToDelete?_of_reads (hreads call hcall), ite_self]
  unfold ScriptedStore.spared
  rw [List.filterMap_append, List.filterMap_eq_nil_iff.2 hnone]

/-- A call that is answered leaves the memory that it makes, and spares nothing. -/
theorem Leaves.of_answered (hc : c.store.Honest) (call : StoreCall) (memory : MemoryStore) :
    Leaves memory [] c { c with store := c.store.answered call memory } :=
  ⟨rfl, (spared_answered call memory).trans (List.append_nil _).symm, hc.tail rfl, rfl, rfl⟩

/-- A call that is refused leaves the memory as it was, and spares the service that it was about. -/
theorem Leaves.of_refused (hc : c.store.Honest) (call : StoreCall) (e : OperatorError) :
    Leaves c.store.memory call.serviceToDelete?.toList c { c with store := c.store.refused call e } :=
  ⟨rfl, spared_refused call e, hc.tail rfl, rfl, rfl⟩

/-- Tidying up was broken off: of the pods at these addresses a first part is gone, and of their services all but the
last ones, whose deletion was refused. Beside these only pod groups have changed. -/
def BrokenOff (addresses : List Address) (c c' : Controller ScriptedStore) : Prop :=
  ∃ gone spared groups, gone ++ spared <+: addresses ∧
    Leaves { c.store.memory.swept (gone ++ spared) gone with podGroups := groups } spared c c'

/-- It was broken off before anything was gone. -/
theorem Leaves.brokenOff (h : Leaves c.store.memory [] c c₁) (addresses : List Address) :
    BrokenOff addresses c c₁ := by
  refine ⟨[], [], c.store.memory.podGroups, List.nil_prefix, ?_⟩
  rw [List.append_nil, MemoryStore.swept_nil]
  exact h

/-- It was broken off when everything was gone. -/
theorem BrokenOff.of_swept {addresses : List Address} (groups : Dict Address PodGroup)
    (h : Leaves { c.store.memory.swept addresses addresses with podGroups := groups } [] c c₁) :
    BrokenOff addresses c c₁ := by
  refine ⟨addresses, [], groups, ?_, ?_⟩
  · simp only [List.append_nil, List.prefix_rfl]
  · rw [List.append_nil]
    exact h

/-- It was broken off after a part of it was done. -/
theorem BrokenOff.after {done rest : List Address} (h₁ : Leaves (c.store.memory.swept done done) [] c c₁)
    (h : BrokenOff rest c₁ c₂) : BrokenOff (done ++ rest) c c₂ := by
  obtain ⟨gone, spared, groups, hpart, h⟩ := h
  refine ⟨done ++ gone, spared, groups, ?_, ?_⟩
  · rw [List.append_assoc]
    exact (List.prefix_append_right_inj done).2 hpart
  · rw [h₁.memory, MemoryStore.swept_swept, ← List.append_assoc] at h
    exact h₁.trans h

/-- A deletion is refused, and then for another reason than that there was nothing to delete, or it leaves nothing
at the address. -/
theorem yields_request_deletion (call : StoreCall) {memory : MemoryStore} {answer : call.Answer}
    (hc : c.store.Fair)
    (hrun : (call.op : StoreM MemoryStore call.Answer).run c.store.memory = (.ok answer, memory) ∨
      ∃ e : OperatorError, e.isNotFound = true ∧
        (call.op : StoreM MemoryStore call.Answer).run c.store.memory = (.error e, memory)) :
    Yields (request (perform call)) c (fun _ c' => Leaves memory [] c c') fun e c' =>
      if e.isNotFound then Leaves memory [] c c' else Leaves c.store.memory call.serviceToDelete?.toList c c' := by
  rw [yields_request_perform]
  -- Refused, the call leaves the store; answered, the object is gone, found or not.
  rcases hrefusal : c.store.refusal? with _ | e
  · rcases hrun with hrun | ⟨e, he, hrun⟩
    · rw [hrun]
      exact .of_answered hc.honest call memory
    · rw [hrun]
      simp only [he, if_true]
      exact .of_answered hc.honest call memory
  · simp only [hc.honest.refusal hrefusal, Bool.false_eq_true, if_false]
    exact .of_refused hc.honest call e

/-- A call that no failure waits for is answered, unless the script refuses it. -/
theorem yields_request_granted (call : StoreCall) {memory : MemoryStore} {answer : call.Answer}
    (hc : c.store.Honest) (hcall : call.serviceToDelete? = none)
    (hrun : (call.op : StoreM MemoryStore call.Answer).run c.store.memory = (.ok answer, memory)) :
    Yields (request (perform call)) c (fun found c' => found = answer ∧ Leaves memory [] c c')
      fun _ c' => Leaves c.store.memory [] c c' := by
  rw [yields_request_perform]
  rcases hrefusal : c.store.refusal? with _ | e
  · rw [hrun]
    exact ⟨rfl, .of_answered hc call memory⟩
  · have h := Leaves.of_refused hc call e
    rw [hcall] at h
    exact h

/-- Deleting something tells how it went, and takes it for done when there was nothing to delete. -/
theorem yields_deletion {op : StoreM ScriptedStore Unit} {memory : MemoryStore} {spared : List Address}
    {event : Event} {warning : OperatorError → Event} {absent : ControllerM ScriptedStore Unit}
    (hop : Yields (request op) c (fun _ c' => Leaves memory [] c c') fun e c' =>
      if e.isNotFound then Leaves memory [] c c' else Leaves c.store.memory spared c c')
    (habsent : ∀ c', Leaves memory [] c c' → Yields absent c' (fun _ c'' => Leaves memory [] c c'') fun _ _ => False) :
    Yields (do
      match ← attempt (request op) with
      | .ok () => tell event
      | .error e =>
        if e.isNotFound then absent
        else
          tell (warning e)
          throw e) c (fun _ c' => Leaves memory [] c c') fun _ c' => Leaves c.store.memory spared c c' := by
  rw [yields_bind, yields_attempt]
  refine hop.mono (fun _ c₁ h => ?_) fun e c₁ h => ?_
  · exact h.own rfl rfl rfl
  · simp only
    split at h
    · next he =>
      rw [if_pos he]
      exact (habsent c₁ h).mono (fun _ _ => id) fun _ _ => False.elim
    · next he =>
      rw [if_neg he]
      exact h.own rfl rfl rfl

/-- A pod is gone after its deletion, or the deletion was refused and it is as before. -/
theorem yields_deletePod {key : ExpectationKey} {name : String} (hc : c.store.Fair) :
    Yields (deletePod job key name) c (fun _ c' => Leaves (withoutPod ⟨job.ns, name⟩ c.store.memory) [] c c')
      fun _ c' => Leaves c.store.memory [] c c' := by
  refine yields_deletion (yields_request_deletion (.deletePod ⟨job.ns, name⟩) hc
    (run_delete_of_nil hc.failures fun habsent => ?_)) fun _ h => h.own rfl rfl rfl
  change withoutPod ⟨job.ns, name⟩ c.store.memory = c.store.memory
  rw [withoutPod_eq, Dict.without_of_absent habsent]

/-- A service is gone after its deletion, or it was spared. -/
theorem yields_deleteService {name : String} (hc : c.store.Fair) :
    Yields (deleteService job name) c
      (fun _ c' => Leaves (withoutService ⟨job.ns, name⟩ c.store.memory) [] c c')
      fun _ c' => Leaves c.store.memory [⟨job.ns, name⟩] c c' := by
  refine yields_deletion (yields_request_deletion (.deleteService ⟨job.ns, name⟩) hc
    (run_delete_of_nil hc.failures fun habsent => ?_)) fun _ => id
  change withoutService ⟨job.ns, name⟩ c.store.memory = c.store.memory
  rw [withoutService_eq, Dict.without_of_absent habsent]

/-! ## The clean-up -/

/-- **The pods go one after the other, each before its service.** If nothing is refused, they are all gone with
their services. Else it is broken off there. -/
theorem yields_cleanUpPods : ∀ (pods : List Pod) (c : Controller ScriptedStore), c.store.Fair →
    Yields (cleanUpPods job pods) c
      (fun _ c' => Leaves (swept (pods.map fun pod => ⟨job.ns, nameOf pod⟩)
        (pods.map fun pod => ⟨job.ns, nameOf pod⟩) c.store.memory) [] c c')
      fun _ c' => BrokenOff (pods.map fun pod => ⟨job.ns, nameOf pod⟩) c c'
  | [], c, hc => by
    change Leaves (swept [] [] c.store.memory) [] c c
    rw [swept_nil]
    exact .refl hc.honest
  | pod :: rest, c, hc => by
    unfold cleanUpPods
    simp only [List.map_cons]
    rw [yields_bind]
    refine (yields_deletePod hc).mono (fun _ c₁ h₁ => ?_) fun _ c' h => ?_
    · have hc₁ : c₁.store.Fair := h₁.fair hc.failures
      have hpod : c₁.store.memory = swept [⟨job.ns, nameOf pod⟩] [] c.store.memory := by
        rw [h₁.memory, withoutPod_eq, swept, Dict.without_nil]
      rw [yields_bind]
      refine (yields_deleteService hc₁).mono (fun _ c₂ h₂ => ?_) fun _ c' h => ?_
      · have hboth : withoutService ⟨job.ns, nameOf pod⟩ c₁.store.memory =
            swept [⟨job.ns, nameOf pod⟩] [⟨job.ns, nameOf pod⟩] c.store.memory := by
          rw [withoutService_eq, hpod]
          simp only [swept, Dict.without_nil]
        rw [hboth] at h₂
        have hfirst := h₁.trans h₂
        refine (yields_cleanUpPods rest c₂ (h₂.fair hc.failures)).mono (fun _ c₃ h₃ => ?_) fun _ c₃ h₃ => ?_
        · rw [h₂.memory, swept_swept] at h₃
          exact hfirst.trans h₃
        · exact .after hfirst h₃
      · -- The pod is gone, and its service is not.
        rw [hpod] at h
        exact ⟨[], [_], c.store.memory.podGroups, List.cons_prefix_cons.2 ⟨rfl, List.nil_prefix⟩, h₁.trans h⟩
    · exact h.brokenOff _

/-- The pod group is gone after its deletion, or the deletion was refused. -/
theorem yields_deletePodGroup (hc : c.store.Fair) :
    Yields (deletePodGroup job) c
      (fun _ c' => Leaves (withoutPodGroup ⟨job.ns, podGroupName job.name⟩ c.store.memory) [] c c')
      fun _ c' => Leaves c.store.memory [] c c' := by
  have habsent : c.store.memory.podGroups.get? ⟨job.ns, podGroupName job.name⟩ = none →
      withoutPodGroup ⟨job.ns, podGroupName job.name⟩ c.store.memory = c.store.memory := by
    intro habsent
    rw [withoutPodGroup_eq, Dict.without_of_absent habsent]
  unfold deletePodGroup
  rw [yields_bind]
  refine (Silent.refl c).look (.getPodGroup ⟨job.ns, podGroupName job.name⟩) rfl (run_getPodGroup _ _)
    (fun _ _ _ h => h.leaves hc.honest) fun c₁ h => ?_
  have h₁ := h.leaves hc.honest
  -- The group is looked for first and deleted only where it is there.
  split
  · rw [yields_bind, yields_tell]
    have htold : ∀ events, Leaves c.store.memory [] c { c₁ with events := events } := fun _ => h₁.own rfl rfl rfl
    have hc₁ := fun events => (htold events).fair hc.failures
    refine (yields_deletion (yields_request_deletion (.deletePodGroup ⟨job.ns, podGroupName job.name⟩)
      (hc₁ _) (run_delete_of_nil (hc₁ _).failures fun hnone => ?_)) fun _ => id).mono
      (fun _ c₂ h₂ => ?_) fun _ c₂ h₂ => ?_
    · rw [h₁.memory] at hnone ⊢
      exact habsent hnone
    · rw [h₁.memory] at h₂
      exact (htold _).trans h₂
    · rw [h₁.memory] at h₂
      exact (htold _).trans h₂
  · next hnone =>
    rw [Option.not_isSome_iff_eq_none] at hnone
    rw [habsent hnone]
    exact h₁

/-! ## The end of a job -/

/-- The job is gone after its deletion, or the deletion was refused. -/
theorem yields_deleteJob_of_fair {stored : Job} (hc : c.store.Fair)
    (hstored : c.store.memory.jobs.get? job.address = some stored) :
    Yields (deleteJob job) c (fun _ c' => Leaves (withoutJob job.address c.store.memory) [] c c')
      fun _ c' => Leaves c.store.memory [] c c' :=
  yields_deletion (yields_request_deletion (.deleteJob job.address) hc
    (run_delete_of_nil hc.failures fun habsent => absurd (hstored.symm.trans habsent) (Option.some_ne_none _)))
    fun _ => id

/-- A write to the record of a stored job is made or refused. -/
theorem Leaves.record {memory : MemoryStore} {stored : Job} (h : Leaves memory [] c c₁)
    (hfailures : memory.failures = []) (hstored : memory.jobs.get? job.address = some stored) (status : JobStatus) :
    Yields (request (ObjectStore.updateJobStatus job status)) c₁
      (fun _ c' => Leaves (recorded job.address status memory) [] c c') fun _ c' => Leaves memory [] c c' := by
  have hmemory := h.memory
  subst hmemory
  have hrun := run_updateJobStatus job status c₁.store.memory
  rw [hfailures, takeFailure?] at hrun
  simp only [hstored] at hrun
  exact (yields_request_granted (.updateJobStatus job status) h.honest rfl hrun).mono
    (fun _ _ hc => h.trans hc.2) fun _ _ => h.trans

/-- The status is written, or the write was refused. -/
theorem yields_persist_of_fair {now : Timestamp} {status : JobStatus} {stored : Job} (hc : c.store.Fair)
    (hstored : c.store.memory.jobs.get? job.address = some stored) :
    Yields (persist now job status) c
      (fun _ c' => Leaves (resolve job.address (job.written now status) c.store.memory) [] c c')
      fun _ c' => Leaves c.store.memory [] c c' := by
  unfold persist Job.written
  split
  · exact (Leaves.refl hc.honest).record hc.failures hstored _
  · exact .refl hc.honest

/-- The last part of a job's end resolves its record, or changes nothing in the store. -/
theorem yields_conclude_of_fair {now : Timestamp} {failure : Option String} {stored : Job} (hc : c.store.Fair)
    (hstored : c.store.memory.jobs.get? job.address = some stored) :
    Yields (conclude now job (job.takenIn now) failure) c
      (fun _ c' => Leaves (resolve job.address (job.ended now (job.closed now failure)) c.store.memory) [] c c')
      fun _ c' => Leaves c.store.memory [] c c' := by
  unfold conclude
  rw [yields_bind, yields_tellAll, yields_bind]
  have htold : Leaves c.store.memory [] c
      { c with events := c.events ++ failure.toList.map (job.normalEvent Reason.jobFailed) } :=
    (Leaves.refl hc.honest).own rfl rfl rfl
  generalize ({ c with events := _ } : Controller ScriptedStore) = c₁ at htold ⊢
  have hc₁ : c₁.store.Fair := htold.fair hc.failures
  rw [← htold.memory] at hstored
  -- However long the job still has to live, what is left to do is to write its status.
  have hwrite : ∀ outcome : Outcome, Yields (do persist now job (job.closed now failure); return outcome) c₁
      (fun _ c' => Leaves (resolve job.address (job.written now (job.closed now failure)) c.store.memory) [] c c')
      fun _ c' => Leaves c.store.memory [] c c' := by
    intro outcome
    rw [yields_bind, ← htold.memory]
    exact (yields_persist_of_fair hc₁ hstored).mono (fun _ _ h => htold.trans h) fun _ _ h => htold.trans h
  change Yields (cleanUpJob now job (job.closed now failure)) _ _ _
  unfold cleanUpJob Job.ended
  rcases job.timeToLive? (job.closed now failure) now with _ | remaining
  · exact hwrite .done
  · simp only
    by_cases hleft : 0 < remaining
    · rw [if_pos hleft, if_pos hleft]
      exact hwrite (.requeue _)
    · rw [if_neg hleft, if_neg hleft, yields_bind, ← htold.memory]
      exact (yields_deleteJob_of_fair hc₁ hstored).mono (fun _ _ h => htold.trans h) fun _ _ h => htold.trans h

end Controller

/-- The addresses at which a pod and its service go when the job is at its end. -/
def Job.discards (job : Job) (pods : List Pod) : List Address :=
  (pods.filter fun pod => pod.isCleanedUp job.spec.runPolicy.cleaning).map fun pod => ⟨job.ns, nameOf pod⟩

/-- The store without what a job at its end has no use for. -/
def Job.cleared (job : Job) (gang : Bool) (pods : List Pod) (s : MemoryStore) : MemoryStore :=
  { s.swept (job.discards pods) (job.discards pods) with
    podGroups := if gang then s.podGroups.without [⟨job.ns, podGroupName job.name⟩] else s.podGroups }

namespace Controller

open ScriptedStore MemoryStore

variable {job : Job} {c : Controller ScriptedStore}

/-- **A job's end clears the store and resolves the record, or it is broken off on the way**, and then the record is
as it was. -/
theorem yields_terminate_of_fair (now : Timestamp) (job : Job) (pods : List Pod) (failure : Option String)
    {stored : Job} (hc : c.store.Fair) (hstored : c.store.memory.jobs.get? job.address = some stored) :
    Yields (terminate now job pods (job.takenIn now) failure) c
      (fun _ c' => Leaves (resolve job.address (job.ended now (job.closed now failure))
        (job.cleared c.config.gang pods c.store.memory)) [] c c')
      fun _ c' => BrokenOff (job.discards pods) c c' := by
  -- What comes after the pods is the same whether there was a pod group to delete or not.
  have hrest : ∀ groups c₁, Leaves
      { swept (job.discards pods) (job.discards pods) c.store.memory with podGroups := groups } [] c c₁ →
      Yields (conclude now job (job.takenIn now) failure) c₁
        (fun _ c' => Leaves (resolve job.address (job.ended now (job.closed now failure))
          { swept (job.discards pods) (job.discards pods) c.store.memory with podGroups := groups }) [] c c')
        fun _ c' => BrokenOff (job.discards pods) c c' := by
    intro groups c₁ h₁
    have hstored₁ : c₁.store.memory.jobs.get? job.address = some stored := by
      rw [h₁.memory]
      exact hstored
    refine (yields_conclude_of_fair (h₁.fair hc.failures) hstored₁).mono (fun _ c' h => ?_) fun _ c' h => ?_
    · rw [h₁.memory] at h
      exact h₁.trans h
    · rw [h₁.memory] at h
      exact .of_swept groups (h₁.trans h)
  rw [terminate_eq, yields_bind]
  refine (yields_cleanUpPods _ c hc).mono (fun _ c₁ h₁ => ?_) fun _ _ => id
  rw [yields_bind, yields_get, h₁.config]
  unfold Job.cleared
  by_cases hgang : c.config.gang = true
  · rw [if_pos hgang, if_pos hgang, yields_bind]
    refine (yields_deletePodGroup (h₁.fair hc.failures)).mono (fun _ c₂ h₂ => ?_) fun _ c' h => ?_
    · rw [withoutPodGroup_eq, h₁.memory] at h₂
      exact hrest _ c₂ (h₁.trans h₂)
    · rw [h₁.memory] at h
      exact .of_swept c.store.memory.podGroups (h₁.trans h)
  · rw [if_neg hgang, if_neg hgang]
    exact hrest c.store.memory.podGroups c₁ h₁

/-! ## A pass -/

/-- A pass over a finished job that is still stored ends it once more, if it attends to it. -/
theorem yields_sync_of_fair {key : String} {a : Address} {stored : Job} (now : Timestamp)
    (hkey : splitKey? key = some (a.ns, a.name)) (hstored : c.store.memory.jobs.get? a = some stored)
    (haddress : stored.address = a) (hvalid : stored.withDefaults.spec.fault? = none)
    (hfinished : stored.currentStatus.isFinished = true) (hc : c.store.Fair) :
    let job := stored.withDefaults
    let pods := job.podsIn c.store.memory
    Yields (sync now key) c
      (fun _ c' => Leaves (if Attends now job c then
          resolve a
            (job.ended now (job.closed now (job.exceeded? pods (c.retries.count job.key) (job.takenIn now) now)))
            (job.cleared c.config.gang pods c.store.memory)
        else c.store.memory) [] c c')
      fun _ c' => BrokenOff (job.discards pods) c c' := by
  intro job pods
  -- The three ways past the looks: turned down, left alone, ended.
  refine yields_sync_of_looks hkey hstored hfinished hc.failures (fun _ _ _ h => (h.leaves hc.honest).brokenOff _)
    (fun fault hfault => ?_) (fun _ haside _ c' h => ?_) fun _ hattends c₁ h => ?_
  · rw [hvalid] at hfault
    exact absurd hfault (by simp)
  · rw [if_neg haside]
    exact h.leaves hc.honest
  · subst haddress
    have h₁ := h.leaves hc.honest
    have hend := yields_terminate_of_fair now job pods
      (job.exceeded? pods (c.retries.count job.key) (job.takenIn now) now) (h₁.fair hc.failures)
      (h₁.memory ▸ hstored)
    rw [h₁.memory, h₁.config] at hend
    rw [if_pos hattends]
    refine hend.mono (fun _ c' h => h₁.trans h) fun _ c' h => ?_
    rw [← swept_nil c.store.memory] at h₁
    exact .after h₁ h

/-- Turning a job down writes that it has failed, unless that is known. -/
theorem yields_reject_of_fair (now : Timestamp) (job : Job) (fault : SpecFault) {stored : Job} (hc : c.store.Fair)
    (hstored : c.store.memory.jobs.get? job.address = some stored) :
    Yields (reject now job fault) c
      (fun _ c' => Leaves (resolve job.address (if job.currentStatus.isFailed then .kept
        else .recorded { job.rejected now fault with lastReconcileTime := some now }) c.store.memory) [] c c')
      fun _ c' => Leaves c.store.memory [] c c' := by
  unfold reject
  simp only
  by_cases hfailed : job.currentStatus.isFailed = true
  · rw [if_pos hfailed, if_pos hfailed]
    exact .refl hc.honest
  · rw [if_neg hfailed, if_neg hfailed, yields_bind, yields_tell]
    have htold : ∀ events, Leaves c.store.memory [] c { c with events := events } :=
      fun _ => (Leaves.refl hc.honest).own rfl rfl rfl
    exact (htold _).record hc.failures hstored _

/-- A pass over a finished job whose spec is not acceptable turns it down. -/
theorem yields_sync_of_fault_of_fair {key : String} {a : Address} {stored : Job} {fault : SpecFault} (now : Timestamp)
    (hkey : splitKey? key = some (a.ns, a.name)) (hstored : c.store.memory.jobs.get? a = some stored)
    (haddress : stored.address = a) (hfault : stored.withDefaults.spec.fault? = some fault)
    (hfinished : stored.currentStatus.isFinished = true) (hc : c.store.Fair) :
    Yields (sync now key) c
      (fun _ c' => Leaves (resolve a (if stored.currentStatus.isFailed then .kept
        else .recorded { stored.withDefaults.rejected now fault with lastReconcileTime := some now })
        c.store.memory) [] c c')
      fun _ c' => Leaves c.store.memory [] c c' := by
  subst haddress
  -- A spec with a fault has one way past the looks; the other two contradict it.
  refine yields_sync_of_looks hkey hstored hfinished hc.failures (fun _ _ c' h => h.leaves hc.honest)
    (fun fault' hsome c₁ h => ?_) (fun hvalid => ?_) fun hvalid => ?_
  · have hsame : fault' = fault := Option.some.inj (hsome.symm.trans hfault)
    subst hsame
    have h₁ := h.leaves hc.honest
    have hreject := yields_reject_of_fair now stored.withDefaults fault'
      (h₁.fair hc.failures) (h₁.memory ▸ hstored)
    rw [h₁.memory] at hreject
    exact hreject.mono (fun _ _ h => h₁.trans h) fun _ _ h => h₁.trans h
  · rw [hfault] at hvalid
    exact absurd hvalid (by simp)
  · rw [hfault] at hvalid
    exact absurd hvalid (by simp)

/-- A pass finds nothing to do for a job that is gone. -/
theorem yields_sync_of_gone {key : String} {a : Address} (now : Timestamp)
    (hkey : splitKey? key = some (a.ns, a.name)) (hgone : c.store.memory.jobs.get? a = none) (hc : c.store.Fair) :
    Yields (sync now key) c (fun _ c' => Leaves c.store.memory [] c c') fun _ c' => Leaves c.store.memory [] c c' := by
  have hgetJob : (ObjectStore.getJob a : StoreM MemoryStore (Option Job)).run c.store.memory =
      (.ok none, c.store.memory) := by
    rw [run_getJob, hc.failures, takeFailure?, hgone]
  exact yields_sync_of_finished hkey ((Silent.refl c).look (.getJob a) rfl hgetJob
    (fun _ _ _ h => h.leaves hc.honest) fun c₁ h => (h.leaves hc.honest).own rfl rfl rfl)

end Controller

end TrainingJobs
