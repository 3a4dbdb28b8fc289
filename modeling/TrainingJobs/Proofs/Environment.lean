/-
What becomes of the environment of a template.

Every container of a template is told five things under five names, whatever its environment says under them. The
first entry of a name gets the value that is to be told, and a new entry is added at the end where there is none;
everything else stays as it was and where it was (`Container.Told`), so telling it again changes nothing. **But an
environment may have more than one entry of a name.** The later ones keep what the user gave them, and it is the last
entry that the platform goes by. `told_throughout_iff` says for which templates the replicas learn what they are told.
-/
import Mathlib.Data.List.Forall2
import TrainingJobs.Proofs.MeetingPlace

set_option autoImplicit false

namespace TrainingJobs

/-! ## Variables of one name -/

/-- The entries of that name, in their order. -/
def varsNamed (name : String) (vars : List EnvVar) : List EnvVar := vars.filter fun v => v.name == name

/-- An entry that gives a variable its value outright. -/
def EnvVar.given (name value : String) : EnvVar := ⟨name, some value, none⟩

/-- Entries of other names are left alone, whichever of them are looked at. -/
theorem filter_assignVar {p : EnvVar → Bool} {name : String} (hp : ∀ v : EnvVar, v.name = name → p v = false)
    (value : String) (vars : List EnvVar) : (assignVar name value vars).filter p = vars.filter p := by
  have hgiven : p (EnvVar.given name value) = false := hp _ rfl
  induction vars with
  | nil => exact List.filter_cons_of_neg (Bool.eq_false_iff.1 hgiven)
  | cons v rest ih =>
    rw [assignVar]
    by_cases hv : v.name = name
    · -- The entry that is changed has the name before and after.
      have hafter : p { v with value := some value, valueFrom := none } = false := hp _ hv
      rw [if_pos hv, List.filter_cons_of_neg (Bool.eq_false_iff.1 hafter),
        List.filter_cons_of_neg (Bool.eq_false_iff.1 (hp v hv))]
    · rw [if_neg hv, List.filter_cons, List.filter_cons, ih]

/-- Of the entries of the name the first gets the value, and the others stay. -/
theorem varsNamed_assignVar_self (name value : String) (vars : List EnvVar) :
    varsNamed name (assignVar name value vars) = EnvVar.given name value :: (varsNamed name vars).tail := by
  unfold varsNamed
  induction vars with
  | nil => simp [assignVar, EnvVar.given]
  | cons v rest ih =>
    rw [assignVar]
    -- Only the first variable of the name is replaced, so the tail is as it was.
    by_cases hv : v.name = name
    · subst hv
      simp [EnvVar.given]
    · rw [if_neg hv, List.filter_cons_of_neg (by simpa using hv), List.filter_cons_of_neg (by simpa using hv)]
      exact ih

/-- No entry is moved, and at most one is added, at the end. -/
theorem names_assignVar (name value : String) (vars : List EnvVar) :
    vars.map EnvVar.name <+: (assignVar name value vars).map EnvVar.name := by
  induction vars with
  | nil => exact List.nil_prefix
  | cons v rest ih =>
    rw [assignVar]
    split
    · exact List.prefix_rfl
    · exact List.cons_prefix_cons.2 ⟨rfl, ih⟩

/-- What the first entry of a name says already need not be said again. -/
theorem assignVar_of_stands {name value : String} {vars : List EnvVar}
    (h : findVar? name vars = some (EnvVar.given name value)) : assignVar name value vars = vars := by
  unfold findVar? at h
  induction vars with
  | nil => exact absurd h (by simp)
  | cons v rest ih =>
    rw [assignVar]
    -- The search and the assignment stop at the same variable.
    by_cases hv : v.name = name
    · rw [List.find?_cons_of_pos (by simpa using hv), Option.some.injEq] at h
      rw [if_pos hv, h]
      rfl
    · rw [List.find?_cons_of_neg (by simpa using hv)] at h
      rw [if_neg hv, ih h]

/-! ## All assignments -/

section Assignments

variable {assignments : List (String × String)}

/-- Assignments change no entry that a test for other names lets through, and neither its place among these. -/
theorem filter_assignVars {p : EnvVar → Bool}
    (hp : ∀ a ∈ assignments, ∀ v : EnvVar, v.name = a.1 → p v = false) (vars : List EnvVar) :
    (assignVars assignments vars).filter p = vars.filter p := by
  unfold assignVars
  induction assignments generalizing vars with
  | nil => rfl
  | cons a rest ih =>
    obtain ⟨ha, hrest⟩ := List.forall_mem_cons.1 hp
    rw [List.foldl_cons, ih hrest, filter_assignVar ha]

/-- Of assignments to different variables, each changes the first entry of its name and no other of that name. -/
theorem varsNamed_assignVars (hdistinct : assignments.Pairwise fun a b => a.1 ≠ b.1) {a : String × String}
    (ha : a ∈ assignments) (vars : List EnvVar) :
    varsNamed a.1 (assignVars assignments vars) = EnvVar.given a.1 a.2 :: (varsNamed a.1 vars).tail := by
  induction assignments generalizing vars with
  | nil => exact absurd ha List.not_mem_nil
  | cons b rest ih =>
    obtain ⟨hb, hrest⟩ := List.pairwise_cons.1 hdistinct
    -- An assignment to another variable is not seen among the entries of a name.
    have hother : ∀ {name other : String}, name ≠ other → ∀ v : EnvVar, v.name = other → (v.name == name) = false := by
      rintro name _ hne v rfl
      exact beq_eq_false_iff_ne.2 hne.symm
    obtain rfl | ha := List.mem_cons.1 ha
    · have hlater := filter_assignVars (p := fun v => v.name == a.1) (fun b hmem => hother (hb b hmem))
        (assignVar a.1 a.2 vars)
      exact hlater.trans (varsNamed_assignVar_self a.1 a.2 vars)
    · have hbefore : varsNamed a.1 (assignVar b.1 b.2 vars) = varsNamed a.1 vars :=
        filter_assignVar (hother (hb a ha).symm) b.2 vars
      exact (ih hrest ha (assignVar b.1 b.2 vars)).trans (by rw [hbefore])

/-- The names of the entries stay where they are; new ones only come at the end. -/
theorem names_assignVars (assignments : List (String × String)) (vars : List EnvVar) :
    vars.map EnvVar.name <+: (assignVars assignments vars).map EnvVar.name := by
  unfold assignVars
  -- An assignment may add a name at the end, so the rest starts from other variables.
  induction assignments generalizing vars with
  | nil => exact List.prefix_rfl
  | cons a rest ih => exact (names_assignVar a.1 a.2 vars).trans (ih _)

/-- Assignments of what is in force already change nothing. -/
theorem assignVars_of_stands {vars : List EnvVar}
    (h : ∀ a ∈ assignments, findVar? a.1 vars = some (EnvVar.given a.1 a.2)) :
    assignVars assignments vars = vars := by
  unfold assignVars
  -- The first assignment leaves the variables as they are, so the rest is about the same ones.
  induction assignments with
  | nil => rfl
  | cons a rest ih =>
    obtain ⟨ha, hrest⟩ := List.forall_mem_cons.1 h
    rw [List.foldl_cons, assignVar_of_stands ha]
    exact ih hrest

/-- Making the same assignments again changes nothing. -/
theorem assignVars_assignVars (hdistinct : assignments.Pairwise fun a b => a.1 ≠ b.1) (vars : List EnvVar) :
    assignVars assignments (assignVars assignments vars) = assignVars assignments vars :=
  assignVars_of_stands fun a ha => findVar?_assignVars hdistinct (show (a.1, a.2) ∈ assignments from ha) vars

end Assignments

/-! ## Containers -/

namespace Container

variable {assignments : List (String × String)} {c c' : Container}

/-- The entries of the environment. -/
def vars (c : Container) : List EnvVar := c.env.getD []

/-- What a container is beside its environment. -/
def bare (c : Container) : Container := { c with env := none }

/-- The second container is the first with the assignments made to its environment: the first entry of each name, and
no other entry that was there. -/
structure Told (assignments : List (String × String)) (c c' : Container) : Prop where
  bare : c'.bare = c.bare
  entries : ∀ a ∈ assignments, varsNamed a.1 c'.vars = EnvVar.given a.1 a.2 :: (varsNamed a.1 c.vars).tail
  others : (c'.vars.filter fun v => decide (v.name ∉ assignments.map Prod.fst)) =
    c.vars.filter fun v => decide (v.name ∉ assignments.map Prod.fst)
  /-- Every entry stands where it stood, and new ones come after them. -/
  places : c.vars.map EnvVar.name <+: c'.vars.map EnvVar.name

/-- Every entry of the assigned names has the assigned value, and there is one of each. -/
def SaysThroughout (assignments : List (String × String)) (c : Container) : Prop :=
  ∀ a ∈ assignments, varsNamed a.1 c.vars ≠ [] ∧ ∀ v ∈ varsNamed a.1 c.vars, v = EnvVar.given a.1 a.2

/-- The platform goes by the assigned values: of each name the last entry has it. -/
def GoesBy (assignments : List (String × String)) (c : Container) : Prop :=
  ∀ a ∈ assignments, (varsNamed a.1 c.vars).getLast? = some (EnvVar.given a.1 a.2)

instance : Decidable (c.SaysThroughout assignments) := inferInstanceAs (Decidable (∀ a ∈ assignments, _))

instance : Decidable (c.GoesBy assignments) := inferInstanceAs (Decidable (∀ a ∈ assignments, _))

/-- A container that is given variables has been told them: this is what `Told` was made for. -/
theorem told_withVars (hdistinct : assignments.Pairwise fun a b => a.1 ≠ b.1) (c : Container) :
    Told assignments c (c.withVars assignments) where
  bare := rfl
  entries _ ha := varsNamed_assignVars hdistinct ha c.vars
  others := by
    apply filter_assignVars
    rintro a ha v hv
    rw [hv, decide_eq_false_iff_not]
    exact not_not_intro (List.mem_map_of_mem ha)
  places := names_assignVars assignments c.vars

/-- All entries say what is told exactly when those behind the first of their name do already. -/
theorem Told.saysThroughout_iff (h : Told assignments c c') : c'.SaysThroughout assignments ↔
    ∀ a ∈ assignments, ∀ v ∈ (varsNamed a.1 c.vars).tail, v = EnvVar.given a.1 a.2 := by
  unfold SaysThroughout
  apply forall₂_congr
  intro a ha
  rw [h.entries a ha, List.forall_mem_cons]
  simp

/-- The last entries say what is told exactly when those behind the first of their name, if there are any, end with one
that does. -/
theorem Told.goesBy_iff (h : Told assignments c c') : c'.GoesBy assignments ↔
    ∀ a ∈ assignments, ∀ v, (varsNamed a.1 c.vars).tail.getLast? = some v → v = EnvVar.given a.1 a.2 := by
  unfold GoesBy
  apply forall₂_congr
  intro a ha
  rw [h.entries a ha, List.getLast?_cons, Option.some.injEq]
  rcases (varsNamed a.1 c.vars).tail.getLast? with _ | v
  · simp
  · simp

theorem withVars_withVars (hdistinct : assignments.Pairwise fun a b => a.1 ≠ b.1) (c : Container) :
    (c.withVars assignments).withVars assignments = c.withVars assignments := by
  unfold withVars
  simp only [Option.getD_some, assignVars_assignVars hdistinct]

end Container

namespace PodTemplate

/-- The containers of the template. -/
def containers (t : PodTemplate) : List Container := (t.spec.map (·.containers)).getD []

/-- What a template is beside the environments of its containers. -/
def bare (t : PodTemplate) : PodTemplate :=
  { t with spec := t.spec.map fun s => { s with containers := s.containers.map Container.bare } }

/-- A template is told something container by container. -/
theorem containers_withVars (assignments : List (String × String)) (t : PodTemplate) :
    (t.withVars assignments).containers = t.containers.map (·.withVars assignments) := by
  unfold containers withVars
  cases t.spec <;> rfl

/-- And nothing else of a template is touched. -/
theorem bare_withVars (assignments : List (String × String)) (t : PodTemplate) :
    (t.withVars assignments).bare = t.bare := by
  unfold bare withVars
  simp only [Option.map_map, Function.comp_def, List.map_map]
  rfl

theorem withVars_withVars {assignments : List (String × String)}
    (hdistinct : assignments.Pairwise fun a b => a.1 ≠ b.1) (t : PodTemplate) :
    (t.withVars assignments).withVars assignments = t.withVars assignments := by
  unfold withVars
  simp only [Option.map_map, Function.comp_def, List.map_map, Container.withVars_withVars hdistinct]

end PodTemplate

/-! ## What the replicas learn -/

namespace Job

/-- A replica is told five things under five names. -/
theorem briefing_distinct (job : Job) (port : Int) (n : Nat) :
    (job.briefing port n).Pairwise fun a b => a.1 ≠ b.1 := by
  simp [briefing]

/-- **What is told in the environment is told in full exactly where nothing else follows it under the same name.** For
every slot of an acceptable job and every template, the template comes out with its containers told, in their order,
what the replica in that slot has to know, and with nothing else changed; making it again changes nothing. In all
entries of the five names it says what is told exactly when the entries behind the first of their name said so before,
and the platform goes by what is told exactly when the last of them did. -/
theorem told_throughout_iff {stored : Job} (hvalid : stored.withDefaults.spec.fault? = none) :
    let job := stored.withDefaults
    ∃ m port, job.spec.replicaSpecs.get? masterType = some m ∧ m.meetingPort = .ok port ∧
      ∀ n slot, job.slotList[n]? = some slot → ∀ template, ∃ told,
        job.slotTemplate template (Text.lowercase slot.1) slot.2 = .ok told ∧
        job.slotTemplate told (Text.lowercase slot.1) slot.2 = .ok told ∧
        told.bare = template.bare ∧
        List.Forall₂ (Container.Told (job.briefing port n)) template.containers told.containers ∧
        ((∀ c ∈ told.containers, c.SaysThroughout (job.briefing port n)) ↔
          ∀ c ∈ template.containers, ∀ a ∈ job.briefing port n, ∀ v ∈ (varsNamed a.1 c.vars).tail,
            v = EnvVar.given a.1 a.2) ∧
        ((∀ c ∈ told.containers, c.GoesBy (job.briefing port n)) ↔
          ∀ c ∈ template.containers, ∀ a ∈ job.briefing port n, ∀ v,
            (varsNamed a.1 c.vars).tail.getLast? = some v → v = EnvVar.given a.1 a.2) := by
  intro job
  obtain ⟨-, m, hm⟩ := JobSpec.of_fault?_eq_none hvalid
  obtain ⟨port, hport⟩ := exists_meetingPort_of_acceptable hvalid hm
  refine ⟨m, port, Dict.get?_eq_some_iff.2 hm, hport, fun n slot hslot template => ?_⟩
  have hmade := slotTemplate_of_getElem? hvalid hm hport hslot
  have hdistinct := job.briefing_distinct port n
  -- A told container says the briefing first; the tails of its lists are the template's own.
  have htold := Container.told_withVars hdistinct
  refine ⟨_, hmade template, ?_, template.bare_withVars _, ?_, ?_, ?_⟩
  · rw [hmade, PodTemplate.withVars_withVars hdistinct]
  · rw [PodTemplate.containers_withVars, List.forall₂_map_right_iff, List.forall₂_same]
    exact fun c _ => htold c
  · rw [PodTemplate.containers_withVars, List.forall_mem_map]
    exact forall₂_congr fun c _ => (htold c).saysThroughout_iff
  · rw [PodTemplate.containers_withVars, List.forall_mem_map]
    exact forall₂_congr fun c _ => (htold c).goesBy_iff

/-- The workers of the meddled job, which were given a rank and a port once each, are told the right ones throughout. -/
theorem told_throughout_meddledJob :
    meddledJob.withDefaults.spec.fault? = none ∧ ∃ w told,
      meddledJob.withDefaults.spec.replicaSpecs.get? workerType = some w ∧ w.containers.map Container.vars =
        [[⟨"RANK", some "0", none⟩, ⟨"MASTER_PORT", none, none⟩]] ∧
      meddledJob.withDefaults.slotTemplate w.template "worker" 2 = .ok told ∧
      ∀ c ∈ told.containers, c.SaysThroughout (meddledJob.withDefaults.briefing 7000 3) := by
  have hvalid : meddledJob.withDefaults.spec.fault? = none := by decide +kernel
  obtain ⟨m, port, hm, hport, htold⟩ := told_throughout_iff hvalid
  have hfound : (meddledJob.withDefaults.spec.replicaSpecs.get? masterType).map
      (fun m => m.meetingPort.toOption) = some (some 7000) := by decide +kernel
  rw [hm, Option.map_some, hport] at hfound
  obtain rfl : port = 7000 := by simpa [Except.toOption] using hfound
  have hworker : (meddledJob.withDefaults.spec.replicaSpecs.get? workerType).map
      (fun w => w.containers.map Container.vars) =
        some [[⟨"RANK", some "0", none⟩, ⟨"MASTER_PORT", none, none⟩]] := by decide +kernel
  obtain ⟨w, hw, hvars⟩ := Option.map_eq_some_iff.1 hworker
  have hslot : meddledJob.withDefaults.slotList[3]? = some (workerType, 2) := by decide +kernel
  obtain ⟨told, hmade, -, -, -, hsays, -⟩ := htold 3 (workerType, 2) hslot w.template
  refine ⟨hvalid, w, told, hw, hvars, hmade, hsays.2 fun c hc a ha v hv => ?_⟩
  -- Its one container has no second entry of any name.
  have hc : c.vars ∈ w.containers.map Container.vars := List.mem_map_of_mem hc
  rw [hvars, List.mem_singleton] at hc
  rw [hc] at hv
  have hlater : ∀ a ∈ meddledJob.withDefaults.briefing 7000 3, (varsNamed a.1
      [⟨"RANK", some "0", none⟩, ⟨"MASTER_PORT", none, none⟩]).tail = [] := by decide +kernel
  rw [hlater a ha] at hv
  exact absurd hv List.not_mem_nil

/-- A job of a master and one worker. -/
def pairJob : Job :=
  (sampleJob {} [(masterType, sampleType 1 .never), (workerType, sampleType 1 .never)] none).withDefaults

/-- A template with two entries for the rank. -/
def twiceRanked : PodTemplate where
  spec := some { containers := [{ sampleContainer with
    env := some [⟨"RANK", some "7", none⟩, ⟨"RANK", some "9", none⟩] }] }

/-- **The second rank stays as it was**, and it is the one that the platform goes by: the worker of the job is told
that its rank is 1, and learns that it is 9. -/
theorem told_rank_overruled :
    pairJob.spec.fault? = none ∧ pairJob.slotList[1]? = some (workerType, 0) ∧ ∃ told,
      pairJob.slotTemplate twiceRanked (Text.lowercase workerType) 0 = .ok told ∧
      told.containers.map (fun c => varsNamed "RANK" c.vars) = [[.given "RANK" "1", .given "RANK" "9"]] ∧
      ∀ c ∈ told.containers,
        ¬ c.SaysThroughout (pairJob.briefing 9999 1) ∧ ¬ c.GoesBy (pairJob.briefing 9999 1) := by
  refine ⟨by decide +kernel, by decide +kernel, twiceRanked.withVars (pairJob.briefing 9999 1), ?_⟩
  exact ⟨by decide +kernel, by decide +kernel, by decide +kernel⟩

end Job

end TrainingJobs
