/-
What the replicas of a job are told, and what a pass makes for them.

Each replica is told its rank, how many there are, and the address and port of the master, as variables in all of
its containers (`Pod.Briefed`). These are made in one place, the pods and services in two others, and a template
may have variables, containers and ports of its own. So first the variables: whatever a template has, an assignment
is in force in the end (`findVar?_assignVars`). Then the slots, and for each of them the one pod and the one service
that can be made for it (`Job.podOf?`, `Job.serviceOf?`). Last the bound from above: over all the ways in which its
requests may be refused, a pass asks for no other pods and services than those (`asked_sync`).
-/
import TrainingJobs.Proofs.Recognition
import TrainingJobs.Proofs.Unfailing

set_option autoImplicit false

namespace TrainingJobs

/-! ## Variables -/

/-- The first variable of that name. -/
def findVar? (name : String) (vars : List EnvVar) : Option EnvVar := vars.find? fun v => v.name = name

/-- An assignment is in force under its name, whether the name was there or not. -/
theorem findVar?_assignVar_self (name value : String) (vars : List EnvVar) :
    findVar? name (assignVar name value vars) = some ⟨name, some value, none⟩ := by
  unfold findVar?
  induction vars with
  | nil => simp [assignVar]
  | cons v rest ih =>
    rw [assignVar]
    by_cases hv : v.name = name
    · simp [hv]
    · rw [if_neg hv, List.find?_cons_of_neg (by simpa using hv)]
      exact ih

/-- Under other names everything is as before. -/
theorem findVar?_assignVar_ne {name other : String} (h : name ≠ other) (value : String) (vars : List EnvVar) :
    findVar? name (assignVar other value vars) = findVar? name vars := by
  unfold findVar?
  induction vars with
  | nil => simp [assignVar, h.symm]
  | cons v rest ih =>
    rw [assignVar]
    by_cases hv : v.name = other
    · have hne : v.name ≠ name := hv ▸ h.symm
      rw [if_pos hv, List.find?_cons_of_neg (by simpa using hne), List.find?_cons_of_neg (by simpa using hne)]
    · rw [if_neg hv, List.find?_cons, List.find?_cons, ih]

/-- So a name that no assignment is to keeps its value. -/
theorem findVar?_assignVars_of_notMem {name : String} {assignments : List (String × String)}
    (h : ∀ a ∈ assignments, name ≠ a.1) (vars : List EnvVar) :
    findVar? name (assignVars assignments vars) = findVar? name vars := by
  unfold assignVars
  induction assignments generalizing vars with
  | nil => rfl
  | cons a rest ih =>
    obtain ⟨ha, hrest⟩ := List.forall_mem_cons.1 h
    rw [List.foldl_cons, ih hrest, findVar?_assignVar_ne ha]

/-- Of assignments to different variables, each is in force in the end. -/
theorem findVar?_assignVars {name value : String} {assignments : List (String × String)}
    (hdistinct : assignments.Pairwise fun a b => a.1 ≠ b.1) (h : (name, value) ∈ assignments)
    (vars : List EnvVar) :
    findVar? name (assignVars assignments vars) = some ⟨name, some value, none⟩ := by
  induction assignments generalizing vars with
  | nil => exact absurd h List.not_mem_nil
  | cons a rest ih =>
    obtain ⟨ha, hrest⟩ := List.pairwise_cons.1 hdistinct
    obtain rfl | h := List.mem_cons.1 h
    · -- No later assignment is to the same variable.
      exact (findVar?_assignVars_of_notMem ha _).trans (findVar?_assignVar_self _ _ _)
    · exact ih hrest h _

namespace Pod

def containers (p : Pod) : List Container := (p.spec.map (·.containers)).getD []

/-- All containers of the pod have the value under the name. -/
def Tells (p : Pod) (name value : String) : Prop :=
  ∀ c ∈ p.containers, findVar? name (c.env.getD []) = some ⟨name, some value, none⟩

/-- What a replica has to know is told in all its containers, of which there are some. -/
structure Briefed (p : Pod) (rank : Nat) (worldSize : Int32) (address : String) (port : Int) : Prop where
  present : p.containers ≠ []
  rank : p.Tells "RANK" (toString rank)
  worldSize : p.Tells "WORLD_SIZE" (toString worldSize)
  address : p.Tells "MASTER_ADDR" address
  port : p.Tells "MASTER_PORT" (toString port)

end Pod

namespace Job

variable {job : Job}

/-! ## Slots, and what is made for them -/

/-- The slots of the job, type by type. -/
def slotList (job : Job) : List (String × Nat) :=
  job.spec.replicaSpecs.entries.flatMap fun e => (List.range e.2.slotCount).map (e.1, ·)

/-- The pod that is made for a slot, if one can be made. -/
def podOf? (job : Job) (config : Config) (slot : String × Nat) : Option Pod := do
  let spec ← job.spec.replicaSpecs.get? slot.1
  let template ← (job.slotTemplate spec.template (Text.lowercase slot.1) slot.2).toOption
  let owner ← job.ownerReference.toOption
  some (job.podFor config slot.1 slot.2 spec.restart template owner)

/-- The service that is made for a slot, if one can be made. -/
def serviceOf? (job : Job) (slot : String × Nat) : Option Service := do
  let spec ← job.spec.replicaSpecs.get? slot.1
  let port ← spec.meetingPort.toOption
  let owner ← job.ownerReference.toOption
  some (job.serviceFor slot.1 slot.2 port owner)

/-- A slot of the job is one of a type, with an index below the number of slots of that type. -/
theorem mem_slotList {slot : String × Nat} : slot ∈ job.slotList ↔
    ∃ spec, (slot.1, spec) ∈ job.spec.replicaSpecs.entries ∧ slot.2 < spec.slotCount := by
  unfold slotList
  rw [List.mem_flatMap]
  constructor
  · rintro ⟨e, he, hslot⟩
    obtain ⟨index, hindex, rfl⟩ := List.mem_map.1 hslot
    exact ⟨e.2, he, List.mem_range.1 hindex⟩
  · rintro ⟨spec, hspec, hindex⟩
    exact ⟨_, hspec, List.mem_map.2 ⟨slot.2, List.mem_range.2 hindex, rfl⟩⟩

/-- The slots of an acceptable job are the master's, and then those of the workers. -/
theorem slotList_of_acceptable (hvalid : job.spec.fault? = none) :
    ∃ workers, job.slotList = (masterType, 0) :: (List.range workers).map (workerType, ·) := by
  -- The master slots come first, and validation allows exactly one.
  have hone : ∀ m, (masterType, m) ∈ job.spec.replicaSpecs.entries → m.slotCount = 1 := fun m hm =>
    JobSpec.slotCount_master hvalid hm
  unfold slotList
  obtain ⟨m, hlist⟩ | ⟨m, w, hlist⟩ := JobSpec.entries_of_acceptable hvalid
  · refine ⟨0, ?_⟩
    rw [hlist] at hone ⊢
    simp [hone m]
  · refine ⟨w.slotCount, ?_⟩
    rw [hlist] at hone ⊢
    simp [hone m]

/-- None of them comes twice: no worker's slot is the master's, and each worker has an index of its own. -/
theorem nodup_slotList_of_acceptable (hvalid : job.spec.fault? = none) : job.slotList.Nodup := by
  obtain ⟨workers, hlist⟩ := slotList_of_acceptable hvalid
  rw [hlist, List.nodup_cons]
  constructor
  · intro hmem
    obtain ⟨index, -, hindex⟩ := List.mem_map.1 hmem
    have htype : workerType = masterType := congrArg Prod.fst hindex
    exact absurd htype (by decide)
  · exact List.pairwise_map.2 (List.nodup_range.imp fun hne heq => hne (congrArg Prod.snd heq))

/-- In the order of the slots the ranks count up. -/
theorem rank_of_getElem? (hvalid : job.spec.fault? = none) {m : ReplicaSpec}
    (hm : (masterType, m) ∈ job.spec.replicaSpecs.entries) {n : Nat} {slot : String × Nat}
    (hslot : job.slotList[n]? = some slot) : rank m (Text.lowercase slot.1) slot.2 = .ok n := by
  obtain ⟨workers, hlist⟩ := slotList_of_acceptable hvalid
  rw [hlist] at hslot
  unfold rank
  -- Place 0 is the master's; place n + 1 is worker n, whose rank counts the master before it.
  rcases n with _ | n
  · rw [List.getElem?_cons_zero, Option.some.injEq] at hslot
    subst hslot
    rw [if_pos (by decide), if_pos rfl]
  · rw [List.getElem?_cons_succ, List.getElem?_map, Option.map_eq_some_iff] at hslot
    obtain ⟨index, hindex, rfl⟩ := hslot
    obtain ⟨_, hindex⟩ := List.getElem?_eq_some_iff.1 hindex
    rw [List.getElem_range] at hindex
    have hcount : m.slotCount = 1 := JobSpec.slotCount_master hvalid hm
    have hworker : isMasterType (Text.lowercase workerType) = false := by decide
    simp only [hworker, Bool.false_eq_true, if_false, hcount, ← hindex, Nat.add_comm]

/-- What a replica of that rank is told. -/
def briefing (job : Job) (port : Int) (n : Nat) : List (String × String) :=
  [("MASTER_PORT", toString port), ("MASTER_ADDR", slotName job.name masterType 0),
    ("WORLD_SIZE", toString job.totalReplicas), ("RANK", toString n), ("PYTHONUNBUFFERED", "0")]

/-- The template for the `n`-th slot tells the rank `n`, and to all slots the same port, address and number. -/
theorem slotTemplate_of_getElem? (hvalid : job.spec.fault? = none) {m : ReplicaSpec}
    (hm : (masterType, m) ∈ job.spec.replicaSpecs.entries) {port : Int} (hport : m.meetingPort = .ok port)
    {n : Nat} {slot : String × Nat} (hslot : job.slotList[n]? = some slot) (template : PodTemplate) :
    job.slotTemplate template (Text.lowercase slot.1) slot.2 = .ok (template.withVars (job.briefing port n)) := by
  unfold slotTemplate rendezvous
  rw [Dict.get?_eq_some_iff.2 hm]
  simp only
  rw [hport]
  simp only [rank_of_getElem? hvalid hm hslot]
  rfl

/-- The pod that is made from a template with the briefing is briefed. -/
theorem briefed_podFor {spec : ReplicaSpec} (hcontainers : spec.containers ≠ []) (config : Config)
    (slot : String × Nat) (owner : OwnerReference) (port : Int) (n : Nat) :
    (job.podFor config slot.1 slot.2 spec.restart (spec.template.withVars (job.briefing port n)) owner).Briefed
      n job.totalReplicas (slotName job.name masterType 0) port := by
  have hmade : (job.podFor config slot.1 slot.2 spec.restart
      (spec.template.withVars (job.briefing port n)) owner).containers =
        spec.containers.map (·.withVars (job.briefing port n)) := by
    unfold Pod.containers podFor ReplicaSpec.containers PodTemplate.withVars
    rcases spec.template.spec with _ | podSpec <;> simp only [] <;> split <;> rfl
  -- The briefing assigns each name once, so what it assigns is what a container reads.
  have htells : ∀ name value, (name, value) ∈ job.briefing port n → Pod.Tells
      (job.podFor config slot.1 slot.2 spec.restart (spec.template.withVars (job.briefing port n)) owner)
      name value := by
    intro name value hassigned c hc
    rw [hmade] at hc
    obtain ⟨c, -, rfl⟩ := List.mem_map.1 hc
    exact findVar?_assignVars (by simp [briefing]) hassigned _
  refine ⟨?_, htells _ _ ?_, htells _ _ ?_, htells _ _ ?_, htells _ _ ?_⟩
  · rw [hmade]
    simpa using hcontainers
  all_goals simp [briefing]

/-! ## What there is for every slot -/

/-- Whatever is made for a slot of the job is its pod or its service. -/
theorem podOf?_eq_some {e : String × ReplicaSpec} (he : e ∈ job.spec.replicaSpecs.entries) {index : Nat}
    {template : PodTemplate} {owner : OwnerReference}
    (htemplate : job.slotTemplate e.2.template (Text.lowercase e.1) index = .ok template)
    (howner : job.ownerReference = .ok owner) (config : Config) :
    job.podOf? config (e.1, index) = some (job.podFor config e.1 index e.2.restart template owner) := by
  unfold podOf?
  simp [Dict.get?_eq_some_iff.2 he, htemplate, howner, Except.toOption]

/-- A service can be made for each slot of a type that has a port. -/
theorem serviceOf?_eq_some {e : String × ReplicaSpec} (he : e ∈ job.spec.replicaSpecs.entries) {port : Int}
    {owner : OwnerReference} (hport : e.2.meetingPort = .ok port) (howner : job.ownerReference = .ok owner)
    (index : Nat) : job.serviceOf? (e.1, index) = some (job.serviceFor e.1 index port owner) := by
  unfold serviceOf?
  simp [Dict.get?_eq_some_iff.2 he, hport, howner, Except.toOption]

/-- Where what pods are made from is there, every slot has its pod, under the name of the slot. -/
theorem Serviceable.exists_podOf? (h : job.Serviceable) {e : String × ReplicaSpec}
    (he : e ∈ job.spec.replicaSpecs.entries) (config : Config) {index : Nat} (hindex : index < e.2.slotCount) :
    ∃ pod, job.podOf? config (e.1, index) = some pod ∧ nameOf pod = slotName job.name e.1 index := by
  obtain ⟨owner, howner⟩ := h.owner
  obtain ⟨template, htemplate⟩ := h.template e he index hindex
  exact ⟨_, podOf?_eq_some he htemplate howner config, rfl⟩

/-- And it has its service. -/
theorem Serviceable.exists_serviceOf? (h : job.Serviceable) {e : String × ReplicaSpec}
    (he : e ∈ job.spec.replicaSpecs.entries) (index : Nat) :
    ∃ service, job.serviceOf? (e.1, index) = some service := by
  obtain ⟨owner, howner⟩ := h.owner
  obtain ⟨port, hport⟩ := h.port e he
  exact ⟨_, serviceOf?_eq_some he hport howner index⟩

/-- If the call creates a pod or a service, it is that of a slot of the job. -/
def Furnishes (job : Job) : StoreCall → Prop
  | .createPod ns pod => ns = job.ns ∧ ∃ config, ∃ slot ∈ job.slotList, job.podOf? config slot = some pod
  | .createService ns service => ns = job.ns ∧ ∃ slot ∈ job.slotList, job.serviceOf? slot = some service
  | _ => True

end Job

/-! ## What a pass asks for -/

/-- A job that is looked for and found is the one that is stored. -/
theorem MemoryStore.found_of_getJob {a : Address} {s s' : MemoryStore} {found : Option Job}
    (h : (ObjectStore.getJob a : StoreM MemoryStore (Option Job)).run s = (.ok found, s')) :
    found = s.jobs.get? a := by
  rw [run_getJob] at h
  split at h
  · nomatch h
  · exact (Except.ok.inj (Prod.mk.inj h).1).symm

namespace Controller

section Creations

variable {σ : Type} [ObjectStore σ] {R : Controller σ → Controller σ → Prop} {now : Timestamp} {key : String}
  {a : Address} {stored : Job} {c : Controller σ}

/-- A relation is kept by a pass over a job if it is kept by all calls that create nothing, by the creation of a
pod group, and by the creation of the pods and services of the job's slots. -/
theorem kept_sync_of_creations (h : Enduring (fun call => call.creates = false) R)
    (hkey : splitKey? key = some (a.ns, a.name))
    (hread : Yields (request (ObjectStore.getJob a)) c
      (fun found _ => ∀ job, found = some job → job = stored) fun _ _ => True)
    (hgroup : ∀ ns group c, R c (requested (ObjectStore.createPodGroup ns group) c))
    (hpod : ∀ slot pod c, slot ∈ stored.withDefaults.slotList →
      stored.withDefaults.podOf? c.config slot = some pod →
        R c (requested (ObjectStore.createPod stored.withDefaults.ns pod) c))
    (hservice : ∀ slot service c, slot ∈ stored.withDefaults.slotList →
      stored.withDefaults.serviceOf? slot = some service →
        R c (requested (ObjectStore.createService stored.withDefaults.ns service) c)) :
    R c ((sync now key).run c).2 := by
  have hR := h.toFrame
  have hcall : ∀ call : StoreCall, call.creates = false → Keeps R (request (call.op : StoreM σ call.Answer)) :=
    fun call hcall => keeps_request (h.call call hcall)
  -- The requests are for slots found vacant, so each is one of the job's slots.
  have hadvance : ∀ pods services status,
      Keeps R (advance now stored.withDefaults pods services status : ControllerM σ Outcome) := by
    intro pods services status
    refine keeps_advance hR (fun e he => ⟨?_, ?_⟩) fun status => h.call (.updateJobStatus _ _) rfl
    · refine keeps_reconcilePods hR (fun _ _ => h.expected _) (fun _ _ => h.expected _)
        (fun _ _ => h.call (.deletePod _) rfl) fun index hindex template owner c htemplate howner => ?_
      have hslot : (e.1, index) ∈ stored.withDefaults.slotList :=
        Job.mem_slotList.2 ⟨e.2, he, lt_of_mem_missing hindex⟩
      exact hpod (e.1, index) _ c hslot (Job.podOf?_eq_some he htemplate howner c.config)
    · refine keeps_reconcileServices hR (fun _ _ => h.expected _) (fun _ _ => h.expected _)
        fun index hindex port owner c hport howner => ?_
      have hlt := lt_of_mem_vacant hindex
      rw [length_slotsOf] at hlt
      exact hservice (e.1, index) _ c (Job.mem_slotList.2 ⟨e.2, he, hlt⟩)
        (Job.serviceOf?_eq_some he hport howner index)
  have hreconcile : Keeps R (reconcileJob now stored.withDefaults : ControllerM σ Outcome) := by
    refine hR.bind (hcall (.listPods _ _) rfl) fun (pods : List Pod) =>
      hR.bind (hcall (.listServices _ _) rfl) fun (services : List Service) => hR.bind hR.get fun c => ?_
    simp only
    split
    · exact h.terminate now (fun _ => id) _ pods _ _
    · exact hadvance pods services _
  have hensure : Keeps R (ensurePodGroup stored.withDefaults : ControllerM σ Unit) :=
    keeps_ensurePodGroup hR (h.call (.getPodGroup _) rfl) fun _ c _ => hgroup _ _ c
  refine (yields_sync_of_parts (P := (· = stored)) hR (fun b hb => ?_) (h.expected _) ?_).run
  · obtain ⟨hns, hname⟩ := Prod.mk.inj (Option.some.inj (hkey.symm.trans hb))
    obtain rfl : a = b := by
      cases a
      cases b
      exact congrArg₂ _ hns hname
    exact (hcall (.getJob a) rfl c).and hread |>.mono (fun _ _ h => h) fun _ _ h => h.1
  · rintro _ rfl
    exact ⟨fun fault => h.reject now (fun _ => id) _ fault, hensure, hreconcile⟩

end Creations

section Log

variable {p : StoreCall → Prop}

/-- No other calls were made in between than such. -/
def Asked (p : StoreCall → Prop) (c c' : Controller ScriptedStore) : Prop :=
  ∃ calls, c'.store.log = c.store.log ++ calls ∧ ∀ x ∈ calls, p x.1

theorem asked_frame (p : StoreCall → Prop) : Frame (Asked p) :=
  .ofLog (fun c : Controller ScriptedStore => c.store.log) (fun _ _ => rfl)
    fun x : StoreCall × Option OperatorError => p x.1

/-- A call that is asked for is in the log, and nothing else has come into it. -/
theorem asked_call (call : StoreCall) (hcall : p call) (c : Controller ScriptedStore) :
    Asked p c (requested (call.op : StoreM ScriptedStore call.Answer) c) := by
  have hperform : (call.op : StoreM ScriptedStore call.Answer) = ScriptedStore.perform call := by
    cases call <;> rfl
  rw [hperform]
  -- Refused or answered, the call is in the log.
  obtain ⟨result, hlog⟩ : ∃ result, ((ScriptedStore.perform call).run c.store).2.log = c.store.log ++ [(call, result)] := by
    change ∃ result, (ScriptedStore.perform call c.store).2.log = c.store.log ++ [(call, result)]
    unfold ScriptedStore.perform
    rcases c.store.refusal? with _ | e
    · exact ⟨none, rfl⟩
    · exact ⟨some e, rfl⟩
  refine ⟨[(call, result)], hlog, fun x hx => ?_⟩
  rw [List.mem_singleton.1 hx]
  exact hcall

end Log

/-- Whatever is refused, a pass asks for no pods and services but those of the job's slots. -/
theorem asked_sync {key : String} {a : Address} {stored : Job} {c : Controller ScriptedStore}
    (hkey : splitKey? key = some (a.ns, a.name)) (hstored : c.store.memory.jobs.get? a = some stored)
    (now : Timestamp) : Asked stored.withDefaults.Furnishes c ((sync now key).run c).2 := by
  have hquiet : Enduring (fun call => call.creates = false) (Asked stored.withDefaults.Furnishes) :=
    { asked_frame _ with
      call := fun call hcall => asked_call call (by
        cases call with
        | createPod | createService | createPodGroup => exact Bool.noConfusion hcall
        | _ => exact True.intro)
      expected := fun _ _ => ⟨[], (List.append_nil _).symm, fun _ h => absurd h List.not_mem_nil⟩ }
  refine kept_sync_of_creations hquiet hkey ?_ (fun ns group => asked_call (.createPodGroup ns group) trivial)
    (fun slot pod c hslot hpod => asked_call (.createPod _ pod) ⟨rfl, c.config, slot, hslot, hpod⟩ c)
    fun slot service c hslot hservice => asked_call (.createService _ service) ⟨rfl, slot, hslot, hservice⟩ c
  -- A read that is answered gives the stored job; one that is refused gives none.
  refine (yields_request_perform (.getJob a)).2 ?_
  rcases c.store.refusal? with _ | e
  · rcases hrun : ((StoreCall.getJob a).op : StoreM MemoryStore _).run c.store.memory with ⟨e | found, memory⟩
    · trivial
    · have hfound : found = c.store.memory.jobs.get? a := MemoryStore.found_of_getJob hrun
      intro job hjob
      exact Option.some.inj (hjob.symm.trans (hfound.trans hstored))
  · trivial

end Controller

end TrainingJobs
