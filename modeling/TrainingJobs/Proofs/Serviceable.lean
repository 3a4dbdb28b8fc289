/-
What the pods and services of an acceptable job are made from.

To make a pod or a service for a slot, a job needs an identity that can own it, a port at which the replicas
meet, and a rank for the slot. Each of these can be missing, and then a pass fails at it. A stored job has an
identity, and in an acceptable spec with the defaults filled in nothing else is missing either
(`serviceable_withDefaults`): the training container is there and has been given the port, and the only slot of
a master is the first.
-/
import TrainingJobs.Proofs.Acceptable
import TrainingJobs.Proofs.Judgement

set_option autoImplicit false

namespace TrainingJobs

/-! ## The meeting port -/

/-- The modified member of a list is in the modified list. -/
theorem mem_modifyNth {α : Type} (f : α → α) {x : α} {i : Nat} {l : List α} (h : l[i]? = some x) :
    f x ∈ modifyNth f i l := by
  induction l generalizing i with
  | nil => simp at h
  | cons y rest ih =>
    -- The index counts down along the list.
    cases i with
    | zero =>
      rw [List.getElem?_cons_zero, Option.some.injEq] at h
      rw [modifyNth, h]
      exact List.mem_cons_self
    | succ i =>
      rw [List.getElem?_cons_succ] at h
      exact List.mem_cons_of_mem _ (ih h)

/-- Every member of a modified list comes from a member of the list. -/
theorem exists_of_mem_modifyNth {α : Type} {f : α → α} {y : α} {i : Nat} {l : List α}
    (h : y ∈ modifyNth f i l) : ∃ x ∈ l, y = x ∨ y = f x := by
  induction l generalizing i with
  | nil => simp [modifyNth] at h
  | cons x rest ih =>
    cases i with
    | zero =>
      rcases List.mem_cons.1 h with h | h
      · exact ⟨x, List.mem_cons_self, .inr h⟩
      · exact ⟨y, List.mem_cons_of_mem _ h, .inl rfl⟩
    | succ i =>
      rcases List.mem_cons.1 h with h | h
      · exact ⟨x, List.mem_cons_self, .inl h⟩
      · obtain ⟨x', hx', hy⟩ := ih h
        exact ⟨x', List.mem_cons_of_mem _ hx', hy⟩

theorem Container.hasMeetingPort_withMeetingPort (c : Container) : c.withMeetingPort.hasMeetingPort = true := by
  unfold withMeetingPort
  by_cases hport : c.hasMeetingPort
  · simp only [hport, if_true]
    exact hport
  · simp only [hport, Bool.false_eq_true, if_false]
    simp [hasMeetingPort]

/-- A replica type that has a training container has a meeting port once its defaults are filled in. -/
theorem ReplicaSpec.exists_meetingPort {s : ReplicaSpec}
    (h : ∃ c ∈ s.withDefaults.containers, c.name = Job.containerName) :
    ∃ port, s.withDefaults.meetingPort = .ok port := by
  obtain ⟨c, hc, hname⟩ := h
  rcases hspec : s.template.spec with _ | podSpec
  · simp [containers, withDefaults, hspec] at hc
  · have hcontainers : s.withDefaults.containers =
        modifyNth Container.withMeetingPort podSpec.trainingIndex podSpec.containers := by
      simp [containers, withDefaults, hspec, PodSpec.withMeetingPort]
    rw [hcontainers] at hc
    -- The container of that name was there before, so the one that got the port has that name.
    obtain ⟨c₀, hc₀, hname₀⟩ : ∃ c₀ ∈ podSpec.containers, c₀.name = Job.containerName := by
      obtain ⟨c₀, hc₀, rfl | rfl⟩ := exists_of_mem_modifyNth hc
      · exact ⟨c, hc₀, hname⟩
      · exact ⟨c₀, hc₀, hname⟩
    obtain ⟨i, hi⟩ : ∃ i, podSpec.containers.findIdx? (fun c => c.name == Job.containerName) = some i := by
      rw [← Option.isSome_iff_exists, List.findIdx?_isSome, List.any_eq_true]
      exact ⟨c₀, hc₀, beq_iff_eq.2 hname₀⟩
    obtain ⟨hlt, htraining, -⟩ := List.findIdx?_eq_some_iff_getElem.1 hi
    have hindex : podSpec.trainingIndex = i := by
      unfold PodSpec.trainingIndex
      rw [hi, Option.getD_some]
    have hmem := mem_modifyNth Container.withMeetingPort (List.getElem?_eq_getElem hlt)
    rw [hindex] at hcontainers
    rw [← hcontainers] at hmem
    have hport := Container.hasMeetingPort_withMeetingPort podSpec.containers[i]
    unfold meetingPort port
    simp only
    split
    · next p _ => exact ⟨p.containerPort, rfl⟩
    · -- No port of that name: but the container at the training index has one now.
      next hnone =>
      rw [List.find?_eq_none] at hnone
      obtain ⟨p, hp, hpname⟩ := List.any_eq_true.1 hport
      refine absurd hpname (hnone p (List.mem_flatMap.2 ⟨_, List.mem_filter.2 ⟨hmem, ?_⟩, hp⟩))
      exact htraining

/-! ## The job -/

namespace Job

/-- Whatever the pods and services of the job are made from is there. -/
structure Serviceable (job : Job) : Prop where
  owner : ∃ owner, job.ownerReference = .ok owner
  port : ∀ e ∈ job.spec.replicaSpecs.entries, ∃ port, e.2.meetingPort = .ok port
  /-- There is a template for the pod of every slot. -/
  template : ∀ e ∈ job.spec.replicaSpecs.entries, ∀ index < e.2.slotCount,
    ∃ template, job.slotTemplate e.2.template (Text.lowercase e.1) index = .ok template
  filled : Filled job.spec.replicaSpecs.entries

/-- All replica types of an acceptable spec have a meeting port. -/
theorem exists_meetingPort_of_acceptable {stored : Job} {e : String × ReplicaSpec}
    (hvalid : stored.withDefaults.spec.fault? = none) (he : e ∈ stored.withDefaults.spec.replicaSpecs.entries) :
    ∃ port, e.2.meetingPort = .ok port := by
  obtain ⟨hentries, -⟩ := JobSpec.of_fault?_eq_none hvalid
  obtain ⟨given, -, rfl⟩ := List.mem_map.1 he
  exact ReplicaSpec.exists_meetingPort (ReplicaSpec.of_fault?_eq_none (hentries _ he)).2.1

/-- A job with an identity and an acceptable spec has all that is needed once the defaults are filled in. -/
theorem serviceable_withDefaults {stored : Job} (hvalid : stored.withDefaults.spec.fault? = none)
    (huid : stored.metadata.uid.isSome = true) : stored.withDefaults.Serviceable := by
  obtain ⟨hentries, master, hmaster⟩ := JobSpec.of_fault?_eq_none hvalid
  refine ⟨?_, fun e he => exists_meetingPort_of_acceptable hvalid he, fun e he index hindex => ?_,
    filled_withDefaults stored⟩
  · -- The defaults are filled into the spec and leave the identity as it is.
    obtain ⟨uid, huid⟩ := Option.isSome_iff_exists.1 huid
    unfold ownerReference
    rw [show stored.withDefaults.metadata.uid = some uid from huid]
    exact ⟨_, rfl⟩
  · obtain ⟨htype, -, hone⟩ := ReplicaSpec.of_fault?_eq_none (hentries e he)
    obtain ⟨port, hport⟩ := exists_meetingPort_of_acceptable hvalid hmaster
    have hrank : ∃ n, rank master (Text.lowercase e.1) index = .ok n := by
      unfold rank
      rcases htype with htype | htype
      · -- There is one master, so its index is the first.
        have hcount : e.2.slotCount = 1 := by
          unfold ReplicaSpec.slotCount
          rw [hone htype]
          rfl
        rw [htype, if_pos (by decide), if_pos (by omega)]
        exact ⟨0, rfl⟩
      · rw [htype, if_neg (by decide)]
        exact ⟨_, rfl⟩
    obtain ⟨n, hrank⟩ := hrank
    unfold slotTemplate rendezvous
    rw [Dict.get?_eq_some_iff.2 hmaster]
    simp only
    rw [hport]
    simp only [hrank]
    exact ⟨_, rfl⟩

end Job

end TrainingJobs
