/-
Which pods a service leads to.

A service selects by labels and the operator goes by names, and both are made of the name of the job, the replica
type and the index. The name is one text, in which the parts are told apart from its right end, since the name of a
job may itself look like that of a slot; the labels are apart from the start, but a template may have labels of its
own under the same keys. Neither leads astray (`services_select_their_pods`): two slots have one name, and the
service of the one selects the pod of the other, only if they are the same slot of jobs of one name. Jobs of one name
are in different namespaces, and a service selects in its own.
-/
import TrainingJobs.Proofs.Recognition

set_option autoImplicit false

namespace TrainingJobs

/-- The pod has all the labels that the service selects by, if it selects at all. -/
def Service.Matches (s : Service) (p : Pod) : Prop :=
  ∃ selector, s.spec.bind (·.selector) = some selector ∧ Labels.selectedBy p.metadata.labelsOrEmpty selector = true

/-- The service leads to the pod: it is in the same namespace, and has the labels. -/
def Service.Selects (s : Service) (p : Pod) : Prop := p.metadata.ns = s.metadata.ns ∧ s.Matches p

/-! ## Names -/

/-- Slots of jobs without slashes in their names have names of their own. -/
theorem slotName_eq_iff {n n' t t' : String} (hn : Slashless n) (hn' : Slashless n') (ht : IsReplicaType t)
    (ht' : IsReplicaType t') (i i' : Nat) :
    slotName n t i = slotName n' t' i' ↔ n = n' ∧ t = t' ∧ i = i' := by
  constructor
  · exact slotName_inj hn hn' ht ht'
  · rintro ⟨rfl, rfl, rfl⟩
    rfl

/-! ## Labels -/

namespace Labels

/-- Two selectors by which the same is selected ask for the same value under every key that both have. -/
theorem eq_of_selectedBy {labels selector selector' : Labels} (h : labels.selectedBy selector = true)
    (h' : labels.selectedBy selector' = true) {k v v' : String} (hv : selector.get? k = some v)
    (hv' : selector'.get? k = some v') : v = v' := by
  have hlabel := selectedBy_iff.1 h k v hv
  rw [selectedBy_iff.1 h' k v' hv', Option.some.injEq] at hlabel
  exact hlabel.symm

/-- What has the labels of a slot has not those of another one. -/
theorem ofSlot_selectedBy_iff {labels : Labels} {group n n' t t' : String} {i : Nat} (hn : Slashless n)
    (hn' : Slashless n') (ht : IsReplicaType t) (ht' : IsReplicaType t')
    (h : labels.selectedBy (ofSlot group n t i) = true) (i' : Nat) :
    labels.selectedBy (ofSlot group n' t' i') = true ↔ n = n' ∧ t = t' ∧ i = i' := by
  constructor
  · intro h'
    have hsame : ∀ k v v', (ofSlot group n t i).get? k = some v → (ofSlot group n' t' i').get? k = some v' → v = v' :=
      fun k v v' => eq_of_selectedBy h h'
    -- Two selectors that match one set of labels agree on the three keys both of them set.
    have hname : dashed n = dashed n' := by
      apply hsame Label.jobName <;>
        rw [get?_ofSlot, if_neg (by decide), if_neg (by decide), get?_ofJob, if_pos rfl]
    have htype : Text.lowercase t = Text.lowercase t' := by
      apply hsame Label.replicaType <;> rw [get?_ofSlot, if_neg (by decide), if_pos rfl]
    have hindex : toString i = toString i' := by
      apply hsame Label.replicaIndex <;> rw [get?_ofSlot, if_pos rfl]
    refine ⟨?_, lowercase_inj ht ht' htype, ?_⟩
    · rwa [dashed_eq_self hn, dashed_eq_self hn'] at hname
    · have hread := congrArg (fun s : String => Text.readNat? s.toList) hindex
      simp only [Text.readNat?_toString, Option.some.injEq] at hread
      exact hread
  · rintro ⟨rfl, rfl, rfl⟩
    exact h

end Labels

/-! ## Pods and services -/

/-- **A service selects its pod and no other, and no two slots have one name.** Whatever labels the templates
have, the labels of a pod are as the service of a slot asks for just if the pod is that of the slot; and of jobs of
one name, each has its services lead to its own pods. -/
theorem services_select_their_pods {job job' : Job} {t t' : String} (hjob : Slashless job.name)
    (hjob' : Slashless job'.name) (ht : IsReplicaType t) (ht' : IsReplicaType t') (i i' : Nat) :
    (slotName job.name t i = slotName job'.name t' i' ↔ job.name = job'.name ∧ t = t' ∧ i = i') ∧
      ∀ config restart template owner port owner',
        ((job'.serviceFor t' i' port owner').Matches (job.podFor config t i restart template owner) ↔
          job.name = job'.name ∧ t = t' ∧ i = i') ∧
        ((job'.serviceFor t' i' port owner').Selects (job.podFor config t i restart template owner) ↔
          job.ns = job'.ns ∧ job.name = job'.name ∧ t = t' ∧ i = i') := by
  refine ⟨slotName_eq_iff hjob hjob' ht ht' i i', fun config restart template owner port owner' => ?_⟩
  have hmatches : (job'.serviceFor t' i' port owner').Matches (job.podFor config t i restart template owner) ↔
      job.name = job'.name ∧ t = t' ∧ i = i' := by
    rw [← Labels.ofSlot_selectedBy_iff hjob hjob' ht ht'
      (Job.selectedBy_podFor job config t i restart template owner) i']
    -- A service selects by the labels of its slot.
    constructor
    · rintro ⟨selector, hselector, hselected⟩
      rwa [← Option.some.inj hselector] at hselected
    · exact fun hselected => ⟨_, rfl, hselected⟩
  have hplace : (job.podFor config t i restart template owner).metadata.ns =
      (job'.serviceFor t' i' port owner').metadata.ns ↔ job.ns = job'.ns := Option.some_inj
  exact ⟨hmatches, and_congr hplace hmatches⟩

/-- A job in the namespace of the sample job, with the name of one of its pods. -/
def namedLikePod : Job :=
  { sampleJob {} [] none with metadata := { name := some "iris-worker-0", ns := some "default" } }

/-- A template with all the labels by which the service of that job's first worker selects. -/
def luringTemplate : PodTemplate :=
  { metadata := some { labels := some (Labels.ofSlot Job.group "iris-worker-0" workerType 0) } }

/-- The sample job's second worker is not lured away from its own service by the template. -/
theorem services_select_their_pods_luringTemplate :
    let job := sampleJob {} [] none
    let pod := job.podFor {} workerType 1 .never luringTemplate default
    Slashless job.name ∧ Slashless namedLikePod.name ∧ IsReplicaType workerType ∧
      (job.serviceFor workerType 1 9999 default).Selects pod ∧
      ¬ (namedLikePod.serviceFor workerType 0 9999 default).Matches pod ∧
      slotName job.name workerType 1 ≠ slotName namedLikePod.name workerType 0 := by
  intro job pod
  have hjob : Slashless job.name := by decide +kernel
  have hother : Slashless namedLikePod.name := by decide +kernel
  have htype : IsReplicaType workerType := .inr rfl
  obtain ⟨-, hown⟩ := services_select_their_pods hjob hjob htype htype 1 1
  obtain ⟨hnames, hlured⟩ := services_select_their_pods hjob hother htype htype 1 0
  -- The two slots have different indices.
  refine ⟨hjob, hother, htype, (hown {} .never luringTemplate default 9999 default).2.2 ⟨rfl, rfl, rfl, rfl⟩, ?_, ?_⟩
  · intro hmatches
    obtain ⟨-, -, hindex⟩ := (hlured {} .never luringTemplate default 9999 default).1.1 hmatches
    exact absurd hindex (by decide)
  · intro hname
    obtain ⟨-, -, hindex⟩ := hnames.1 hname
    exact absurd hindex (by decide)

end TrainingJobs
