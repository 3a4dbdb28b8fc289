/-
What filling in the defaults adds, and what it takes away.

What is filled into a replica type is what is missing in it: a number of replicas, a restart policy, and the meeting
port on its first training container (`ReplicaSpec.CompletedBy`). Doing this twice adds nothing to doing it once. But
the keys are put right one spelling at a time. A second run takes the next spelling of a replica type for it if there
is one (`withDefaults_twice_iff`); and what stands under the name of a replica type gives way to what stands under
another spelling of it, whether or not the spec is accepted after that (`accepted_keeps_unless_overwritten`).
-/
import TrainingJobs.Proofs.Serviceable
import TrainingJobs.Proofs.Spellings

set_option autoImplicit false

namespace TrainingJobs

/-! ## Filling in what is missing -/

section Modify

variable {α : Type} {f : α → α} {p : α → Bool}

/-- The same member modified twice. -/
theorem modifyNth_modifyNth (h : ∀ x, f (f x) = f x) (i : Nat) (l : List α) :
    modifyNth f i (modifyNth f i l) = modifyNth f i l := by
  induction l generalizing i with
  | nil => simp only [modifyNth]
  | cons x rest ih =>
    cases i with
    | zero => exact congrArg (· :: rest) (h x)
    | succ i => exact congrArg (x :: ·) (ih i)

/-- The first member of a kind is still the first if the modification does not change what is of that kind. -/
theorem findIdx?_modifyNth (h : ∀ x, p (f x) = p x) (i : Nat) (l : List α) :
    (modifyNth f i l).findIdx? p = l.findIdx? p := by
  induction l generalizing i with
  | nil => rw [modifyNth]
  | cons x rest ih =>
    cases i with
    | zero => rw [modifyNth, List.findIdx?_cons, List.findIdx?_cons, h x]
    | succ i => rw [modifyNth, List.findIdx?_cons, List.findIdx?_cons, ih i]

/-- In a list that is taken apart at an entry it is that entry which is modified. -/
theorem modifyNth_append (before after : List α) (x : α) :
    modifyNth f before.length (before ++ x :: after) = before ++ f x :: after := by
  induction before with
  | nil => rfl
  | cons y before ih => exact congrArg (y :: ·) ih

end Modify

namespace Container

/-- A container that has the meeting port is left as it is. -/
theorem withMeetingPort_of_has {c : Container} (h : c.hasMeetingPort = true) : c.withMeetingPort = c := by
  unfold withMeetingPort
  rw [h]
  rcases hports : c.ports with _ | ports
  · unfold hasMeetingPort at h
    rw [hports] at h
    exact absurd h (by decide)
  · simp only [if_true, Option.getD_some]
    rw [← hports]

/-- A container without the meeting port gets it, behind its other ports. -/
theorem withMeetingPort_of_lacks {c : Container} (h : c.hasMeetingPort = false) :
    c.withMeetingPort = { c with ports := some (c.ports.getD [] ++ [⟨some Job.portName, Job.defaultPort⟩]) } := by
  unfold withMeetingPort
  rw [h]
  rfl

/-- A container has the meeting port if one of its ports has the name. -/
theorem hasMeetingPort_iff {c : Container} :
    c.hasMeetingPort = true ↔ ∃ p ∈ c.ports.getD [], p.name = some Job.portName := by
  unfold hasMeetingPort
  rw [List.any_eq_true]
  simp only [beq_iff_eq]

/-- So a container gets the meeting port exactly if no port of it has the name. -/
theorem withMeetingPort_eq (c : Container) :
    c.withMeetingPort = if ∃ p ∈ c.ports.getD [], p.name = some Job.portName then c
      else { c with ports := some (c.ports.getD [] ++ [⟨some Job.portName, Job.defaultPort⟩]) } := by
  by_cases hport : c.hasMeetingPort = true
  · rw [if_pos (hasMeetingPort_iff.1 hport), withMeetingPort_of_has hport]
  · rw [if_neg fun h => hport (hasMeetingPort_iff.2 h), withMeetingPort_of_lacks (Bool.not_eq_true _ ▸ hport)]

/-- A container that was given the meeting port is not given another. -/
theorem withMeetingPort_withMeetingPort (c : Container) : c.withMeetingPort.withMeetingPort = c.withMeetingPort :=
  withMeetingPort_of_has (hasMeetingPort_withMeetingPort c)

end Container

namespace PodSpec

/-- The training container stands where it stood, so a second time the same one is found, and it has the port. -/
theorem withMeetingPort_withMeetingPort (s : PodSpec) : s.withMeetingPort.withMeetingPort = s.withMeetingPort := by
  have hindex : s.withMeetingPort.trainingIndex = s.trainingIndex := by
    unfold trainingIndex
    exact congrArg (Option.getD · 0) (findIdx?_modifyNth (f := Container.withMeetingPort) (fun _ => rfl) _ s.containers)
  have hcontainers := modifyNth_modifyNth Container.withMeetingPort_withMeetingPort s.trainingIndex s.containers
  unfold withMeetingPort at hindex ⊢
  rw [hindex]
  simp only [hcontainers]

/-- If there is a training container, the port is for the first of them. -/
theorem exists_first_training {s : PodSpec} (h : ∃ c ∈ s.containers, c.name = Job.containerName) :
    ∃ before c after, s.containers = before ++ c :: after ∧ (∀ b ∈ before, b.name ≠ Job.containerName) ∧
      c.name = Job.containerName ∧ s.trainingIndex = before.length := by
  obtain ⟨training, hmem, hname⟩ := h
  have hsome : (s.containers.find? fun c => c.name == Job.containerName).isSome = true := by
    rw [List.find?_isSome]
    exact ⟨training, hmem, beq_iff_eq.2 hname⟩
  obtain ⟨c, hc⟩ := Option.isSome_iff_exists.1 hsome
  obtain ⟨hfirst, before, after, hcontainers, hbefore⟩ := List.find?_eq_some_iff_append.1 hc
  refine ⟨before, c, after, hcontainers, ?_, beq_iff_eq.1 hfirst, ?_⟩
  · intro b hb heq
    have hnot := hbefore b hb
    rw [heq] at hnot
    exact absurd hnot (by decide)
  · -- The search index is the length of what stands before, since none of it has the name.
    have hnone : before.findIdx? (fun c => c.name == Job.containerName) = none := by
      rw [List.findIdx?_eq_none_iff]
      intro b hb
      exact Bool.not_eq_true' _ ▸ hbefore b hb
    unfold trainingIndex
    rw [hcontainers, List.findIdx?_append, hnone, List.findIdx?_cons, hfirst]
    simp

end PodSpec

namespace ReplicaSpec

variable {s s' : ReplicaSpec}

/-- What was filled in for one type is not filled in again. -/
theorem withDefaults_withDefaults (s : ReplicaSpec) : s.withDefaults.withDefaults = s.withDefaults := by
  have hspec : (s.template.spec.map PodSpec.withMeetingPort).map PodSpec.withMeetingPort =
      s.template.spec.map PodSpec.withMeetingPort := by
    rw [Option.map_map]
    apply Option.map_congr
    intro podSpec _
    exact podSpec.withMeetingPort_withMeetingPort
  unfold withDefaults
  simp only [hspec]
  rfl

/-- What is missing in `s` is filled in, and the rest is as it was: there is one replica if no number is given, and
nothing happens when it ends if no policy is given; and the first training container has the meeting port, which is
added behind its ports unless it is among them. -/
structure CompletedBy (s s' : ReplicaSpec) : Prop where
  replicas : s'.replicas = some (s.replicas.getD 1)
  restartPolicy : s'.restartPolicy = some (s.restartPolicy.getD .never)
  template : ∃ podSpec before c after, s.template.spec = some podSpec ∧
    podSpec.containers = before ++ c :: after ∧ (∀ b ∈ before, b.name ≠ Job.containerName) ∧
    c.name = Job.containerName ∧
    s'.template = { s.template with spec := some { podSpec with
      containers := before ++ (if ∃ p ∈ c.ports.getD [], p.name = some Job.portName then c
        else { c with ports := some (c.ports.getD [] ++ [⟨some Job.portName, Job.defaultPort⟩]) }) :: after } }

/-- A replica type that has a training container is completed. -/
theorem completedBy_withDefaults (h : ∃ c ∈ s.containers, c.name = Job.containerName) : s.CompletedBy s.withDefaults := by
  unfold containers at h
  rcases hspec : s.template.spec with _ | podSpec
  · rw [hspec] at h
    obtain ⟨c, hc, -⟩ := h
    exact absurd hc List.not_mem_nil
  · rw [hspec] at h
    obtain ⟨before, c, after, hcontainers, hbefore, hname, hindex⟩ := PodSpec.exists_first_training h
    refine ⟨rfl, rfl, podSpec, before, c, after, hspec, hcontainers, hbefore, hname, ?_⟩
    unfold withDefaults
    simp only [hspec, Option.map_some, PodSpec.withMeetingPort, hindex]
    rw [hcontainers, modifyNth_append, c.withMeetingPort_eq]

/-- Filling in gives no container another name. -/
theorem exists_training_of_withDefaults (h : ∃ c ∈ s.withDefaults.containers, c.name = Job.containerName) :
    ∃ c ∈ s.containers, c.name = Job.containerName := by
  obtain ⟨c, hc, hname⟩ := h
  unfold containers withDefaults at *
  rcases hspec : s.template.spec with _ | podSpec
  · rw [hspec] at hc
    exact absurd hc List.not_mem_nil
  · rw [hspec] at hc
    obtain ⟨c₀, hc₀, rfl | rfl⟩ := exists_of_mem_modifyNth hc
    · exact ⟨c, hc₀, hname⟩
    · exact ⟨c₀, hc₀, hname⟩

end ReplicaSpec

/-! ## Filling in twice -/

namespace JobSpec

variable {s : JobSpec}

theorem replicaSpecs_withDefaults (s : JobSpec) :
    s.withDefaults.replicaSpecs = (renamed s.replicaSpecs).mapValues ReplicaSpec.withDefaults := rfl

/-- A second run renames once more what the first has renamed, and fills in nothing. -/
theorem withDefaults_withDefaults (s : JobSpec) :
    s.withDefaults.withDefaults = { s.withDefaults with
      replicaSpecs := (renamed (renamed s.replicaSpecs)).mapValues ReplicaSpec.withDefaults } := by
  have hfilled : s.withDefaults.withDefaults.replicaSpecs =
      (renamed (renamed s.replicaSpecs)).mapValues ReplicaSpec.withDefaults := by
    rw [replicaSpecs_withDefaults, replicaSpecs_withDefaults, renamed_mapValues]
    -- Filling in an entry twice fills it in once; only the renaming is not idempotent.
    apply Dict.ext_get?
    intro k
    rw [Dict.get?_mapValues, Dict.get?_mapValues, Option.map_map]
    apply Option.map_congr
    intro spec _
    exact spec.withDefaults_withDefaults
  rw [← hfilled]
  rfl

/-- The other spellings of a replica type that are left when the defaults are filled in. -/
theorem respelled_withDefaults {t : String} (ht : IsReplicaType t) (s : JobSpec) :
    respelled t s.withDefaults.replicaSpecs =
      (respelled t s.replicaSpecs).tail.map fun e => (e.1, e.2.withDefaults) := by
  rw [replicaSpecs_withDefaults, respelled_mapValues, respelled_renamed ht]

/-- Where only one spelling of each replica type was left to be renamed, a second run finds nothing to do. -/
theorem withDefaults_twice_of_tail (h : ∀ t, IsReplicaType t → (respelled t s.replicaSpecs).tail = []) :
    s.withDefaults.withDefaults = s.withDefaults := by
  have hnone : ∀ t, IsReplicaType t → respelled t (renamed s.replicaSpecs) = [] := by
    intro t ht
    rw [respelled_renamed ht]
    exact h t ht
  rw [withDefaults_withDefaults, renamed_of_nil hnone]
  rfl

/-- **Filling in the defaults twice is the same as doing it once exactly if each replica type has at most one other
spelling.** If there are more, the second run takes the next one for the name. -/
theorem withDefaults_twice_iff : s.withDefaults.withDefaults = s.withDefaults ↔
    ∀ t, IsReplicaType t → (respelled t s.replicaSpecs).length ≤ 1 := by
  constructor
  · intro htwice t ht
    -- Each run leaves one spelling less, and the second leaves none less.
    have hleft := respelled_withDefaults ht s.withDefaults
    rw [htwice, respelled_withDefaults ht] at hleft
    have hlength := congrArg List.length hleft
    simp only [List.length_map, List.length_tail] at hlength
    omega
  · intro hone
    apply withDefaults_twice_of_tail
    intro t ht
    have hfew := hone t ht
    rw [← List.length_eq_zero_iff, List.length_tail]
    omega

/-- A spec with two other spellings for the workers. -/
def spelledTwice : JobSpec where
  replicaSpecs := .ofList [(masterType, sampleType 1 .never), ("WORKER", sampleType 5 .never),
    ("worker", sampleType 7 .never)]

/-- The first run takes the one for the workers, and the second takes the other. -/
theorem withDefaults_twice_ne :
    spelledTwice.withDefaults.withDefaults ≠ spelledTwice.withDefaults ∧
      (spelledTwice.withDefaults.replicaSpecs.get? workerType).map (·.count) = some 5 ∧
      (spelledTwice.withDefaults.withDefaults.replicaSpecs.get? workerType).map (·.count) = some 7 := by
  have hfirst : (spelledTwice.withDefaults.replicaSpecs.get? workerType).map (·.count) = some 5 := by decide +kernel
  have hsecond : (spelledTwice.withDefaults.withDefaults.replicaSpecs.get? workerType).map (·.count) = some 7 := by
    decide +kernel
  refine ⟨?_, hfirst, hsecond⟩
  intro hsame
  rw [hsame, hfirst] at hsecond
  exact absurd hsecond (by decide)

/-! ## What an accepted spec loses -/

/-- The entry gives way when the defaults are filled in: it stands under the name of a replica type, and there is
another spelling of that name. -/
def Overwritten (s : JobSpec) (e : String × ReplicaSpec) : Prop :=
  IsReplicaType e.1 ∧ ∃ e' ∈ s.replicaSpecs.entries, Text.sameUpToAsciiCase e'.1 e.1 = true ∧ e'.1 ≠ e.1

variable {t k : String} {e : String × ReplicaSpec}

/-- What is renamed in an accepted spec is a replica type with a training container. -/
theorem of_get?_renamed (h : s.withDefaults.fault? = none) {spec : ReplicaSpec}
    (hget : (renamed s.replicaSpecs).get? k = some spec) :
    IsReplicaType k ∧ ∃ c ∈ spec.containers, c.name = Job.containerName := by
  have hfilled : (k, spec.withDefaults) ∈ s.withDefaults.replicaSpecs.entries := by
    rw [← Dict.get?_eq_some_iff, replicaSpecs_withDefaults, Dict.get?_mapValues, hget]
    rfl
  obtain ⟨htype, htraining, -⟩ := ReplicaSpec.of_fault?_eq_none ((of_fault?_eq_none h).1 _ hfilled)
  exact ⟨htype, ReplicaSpec.exists_training_of_withDefaults htraining⟩

/-- In an accepted spec every key is a spelling of a replica type. -/
theorem exists_replicaType_of_accepted (h : s.withDefaults.fault? = none) (he : e ∈ s.replicaSpecs.entries) :
    ∃ t, IsReplicaType t ∧ Text.sameUpToAsciiCase e.1 t = true := by
  apply Classical.byContradiction
  intro hunlike
  have hstays : (renamed s.replicaSpecs).get? e.1 = some e.2 := by
    rw [get?_renamed_of_unlike fun t ht hsame => hunlike ⟨t, ht, hsame⟩]
    exact Dict.get?_eq_some_iff.2 he
  exact hunlike ⟨e.1, (of_get?_renamed h hstays).1, Text.sameUpToAsciiCase_self e.1⟩

/-- An accepted spec has at most one other spelling of each replica type: a second one would be left, and it is not the
name of a replica type. -/
theorem tail_respelled_of_accepted (h : s.withDefaults.fault? = none) (ht : IsReplicaType t) :
    (respelled t s.replicaSpecs).tail = [] := by
  rw [← respelled_renamed ht, List.eq_nil_iff_forall_not_mem]
  intro x hx
  obtain ⟨hget, hsame, hne⟩ := mem_respelled.1 hx
  exact hne (IsReplicaType.eq_of_same (of_get?_renamed h hget).1 ht (Text.sameUpToAsciiCase_self x.1) hsame)

/-- So filling in the defaults of an accepted spec once more changes nothing. -/
theorem withDefaults_twice_of_accepted (h : s.withDefaults.fault? = none) :
    s.withDefaults.withDefaults = s.withDefaults :=
  withDefaults_twice_of_tail fun _ => tail_respelled_of_accepted h

/-- Where a replica type has no other spelling, all that is spelled like it stands under it, and nothing gives way. -/
theorem not_overwritten_iff_of_nil (hspellings : respelled t s.replicaSpecs = []) (he : e ∈ s.replicaSpecs.entries)
    (hsame : Text.sameUpToAsciiCase e.1 t = true) {x : String × ReplicaSpec} (hx : x ∈ s.replicaSpecs.entries)
    (hlike : Text.sameUpToAsciiCase x.1 t = true) : ¬ s.Overwritten x ↔ x = e := by
  have hname : ∀ y ∈ s.replicaSpecs.entries, Text.sameUpToAsciiCase y.1 t = true → y.1 = t := by
    intro y hy hsameY
    obtain hname | hmem := eq_or_mem_respelled hy hsameY
    · exact hname
    · rw [hspellings] at hmem
      exact absurd hmem List.not_mem_nil
  -- Both sides hold: all that reads like `t` is spelled `t`, and a key stands once.
  refine iff_of_true ?_ ?_
  · rintro ⟨-, y, hy, hsameY, hneY⟩
    have hnameY : y.1 = t := hname y hy (Text.sameUpToAsciiCase_trans hsameY hlike)
    exact hneY (hnameY.trans (hname x hx hlike).symm)
  · have hkey : x.1 = e.1 := (hname x hx hlike).trans (hname e he hsame).symm
    have hvalue : some x.2 = some e.2 := by
      rw [← Dict.get?_eq_some_iff.2 hx, ← Dict.get?_eq_some_iff.2 he, hkey]
    exact Prod.ext hkey (Option.some.inj hvalue)

/-- Where there is one other spelling, it is what does not give way. -/
theorem not_overwritten_iff_of_singleton (ht : IsReplicaType t) {other : String × ReplicaSpec}
    (hspellings : respelled t s.replicaSpecs = [other]) {x : String × ReplicaSpec} (hx : x ∈ s.replicaSpecs.entries)
    (hlike : Text.sameUpToAsciiCase x.1 t = true) : ¬ s.Overwritten x ↔ x = other := by
  obtain ⟨hget, hsame, hne⟩ := mem_respelled.1 (hspellings ▸ List.mem_cons_self)
  constructor
  · intro hkept
    obtain hname | hmem := eq_or_mem_respelled hx hlike
    · rw [← hname] at ht hsame hne
      exact absurd ⟨ht, other, Dict.get?_eq_some_iff.1 hget, hsame, hne⟩ hkept
    · rw [hspellings, List.mem_singleton] at hmem
      exact hmem
  · -- The other spelling is the one that lands on `t`, and it is not itself a canonical name.
    rintro rfl ⟨htype, -⟩
    exact hne (IsReplicaType.eq_of_same htype ht (Text.sameUpToAsciiCase_self x.1) hlike)

/-- Of the spellings of a replica type in an accepted spec, the one that does not give way is renamed. -/
theorem exists_kept_of_accepted (h : s.withDefaults.fault? = none) (ht : IsReplicaType t)
    (he : e ∈ s.replicaSpecs.entries) (hsame : Text.sameUpToAsciiCase e.1 t = true) :
    ∃ kept ∈ s.replicaSpecs.entries, Text.sameUpToAsciiCase kept.1 t = true ∧
      (renamed s.replicaSpecs).get? t = some kept.2 ∧
      ∀ x ∈ s.replicaSpecs.entries, Text.sameUpToAsciiCase x.1 t = true → (¬ s.Overwritten x ↔ x = kept) := by
  have hfew := tail_respelled_of_accepted h ht
  -- An accepted spec has at most one other spelling of `t`: with none the entry itself is kept.
  rcases hspellings : respelled t s.replicaSpecs with _ | ⟨other, rest⟩
  · refine ⟨e, he, hsame, ?_, fun x hx hlike => not_overwritten_iff_of_nil hspellings he hsame hx hlike⟩
    obtain hname | hmem := eq_or_mem_respelled he hsame
    · rw [get?_renamed ht, hspellings, ← hname, Dict.get?_eq_some_iff.2 he]
      rfl
    · rw [hspellings] at hmem
      exact absurd hmem List.not_mem_nil
  · rw [hspellings, List.tail_cons] at hfew
    subst hfew
    obtain ⟨hget, hlike, -⟩ := mem_respelled.1 (hspellings ▸ List.mem_cons_self)
    refine ⟨other, Dict.get?_eq_some_iff.1 hget, hlike, ?_,
      fun x hx hlike => not_overwritten_iff_of_singleton ht hspellings hx hlike⟩
    rw [get?_renamed ht, hspellings]
    rfl

/-- **What becomes of the replica types of an accepted spec.** Every key is a spelling of a replica type, and under
this type stands in the end the completion of one entry that is spelled like it: of the given one exactly if that does
not give way. Nothing else is in the end in the map. So an accepted spec loses nothing exactly if no two of its keys
are the same but for the case of letters. -/
theorem accepted_keeps_unless_overwritten (h : s.withDefaults.fault? = none) :
    (∀ e ∈ s.replicaSpecs.entries, ∃ t spec, IsReplicaType t ∧ Text.sameUpToAsciiCase e.1 t = true ∧
      s.withDefaults.replicaSpecs.get? t = some spec ∧
      ∃ kept ∈ s.replicaSpecs.entries, Text.sameUpToAsciiCase kept.1 t = true ∧ kept.2.CompletedBy spec ∧
        (kept = e ↔ ¬ s.Overwritten e)) ∧
    (∀ t spec, s.withDefaults.replicaSpecs.get? t = some spec →
      ∃ kept ∈ s.replicaSpecs.entries, Text.sameUpToAsciiCase kept.1 t = true ∧ kept.2.CompletedBy spec) ∧
    ((∀ e ∈ s.replicaSpecs.entries, ¬ s.Overwritten e) ↔
      ∀ e ∈ s.replicaSpecs.entries, ∀ e' ∈ s.replicaSpecs.entries,
        Text.sameUpToAsciiCase e.1 e'.1 = true → e = e') := by
  -- Every entry found after the renaming is found completed after the defaults.
  have hcompleted : ∀ {t : String} {spec : ReplicaSpec}, (renamed s.replicaSpecs).get? t = some spec →
      s.withDefaults.replicaSpecs.get? t = some spec.withDefaults ∧ spec.CompletedBy spec.withDefaults := by
    intro t spec hget
    constructor
    · rw [replicaSpecs_withDefaults, Dict.get?_mapValues, hget]
      rfl
    · exact ReplicaSpec.completedBy_withDefaults (of_get?_renamed h hget).2
  refine ⟨?_, ?_, ?_⟩
  · intro e he
    obtain ⟨t, ht, hsame⟩ := exists_replicaType_of_accepted h he
    obtain ⟨kept, hkept, hlike, hget, honly⟩ := exists_kept_of_accepted h ht he hsame
    refine ⟨t, kept.2.withDefaults, ht, hsame, (hcompleted hget).1, kept, hkept, hlike, (hcompleted hget).2, ?_⟩
    rw [honly e he hsame]
    exact eq_comm
  · intro t spec hspec
    rw [replicaSpecs_withDefaults, Dict.get?_mapValues, Option.map_eq_some_iff] at hspec
    obtain ⟨found, hfound, rfl⟩ := hspec
    obtain ⟨k, hk, hlike⟩ := exists_spelling_of_get?_renamed (of_get?_renamed h hfound).1 hfound
    exact ⟨(k, found), hk, hlike, (hcompleted hfound).2⟩
  · constructor
    · intro hnone e he e' he' hsame
      obtain ⟨t, ht, hlike'⟩ := exists_replicaType_of_accepted h he'
      have hlike : Text.sameUpToAsciiCase e.1 t = true := Text.sameUpToAsciiCase_trans hsame hlike'
      obtain ⟨kept, -, -, -, honly⟩ := exists_kept_of_accepted h ht he hlike
      exact ((honly e he hlike).1 (hnone e he)).trans ((honly e' he' hlike').1 (hnone e' he')).symm
    · rintro hdistinct e he ⟨-, e', he', hsame, hne⟩
      exact hne (congrArg Prod.fst (hdistinct e' he' e he hsame))

/-- A master that leaves all to the defaults, behind a helper that has the port. -/
def sparseMaster : ReplicaSpec :=
  let helper := { sampleContainer with name := "helper", ports := some [⟨some Job.portName, 1⟩] }
  { template := { spec := some { containers := [helper, sampleContainer] } } }

/-- A spec whose replica types are spelled freely. -/
def spelledFreely : JobSpec where
  replicaSpecs := .ofList [("MASTER", sparseMaster), ("worker", sampleType 3 .exitCode)]

/-- It is accepted and loses nothing: its master is completed, whatever its helper has. -/
theorem accepted_keeps_spelledFreely :
    spelledFreely.withDefaults.fault? = none ∧
      (∀ e ∈ spelledFreely.replicaSpecs.entries, ¬ spelledFreely.Overwritten e) ∧
      ∃ spec, spelledFreely.withDefaults.replicaSpecs.get? masterType = some spec ∧ sparseMaster.CompletedBy spec := by
  have hvalid : spelledFreely.withDefaults.fault? = none := by decide +kernel
  have hdistinct : ∀ e ∈ spelledFreely.replicaSpecs.entries, ∀ e' ∈ spelledFreely.replicaSpecs.entries,
      Text.sameUpToAsciiCase e.1 e'.1 = true → e = e' := by decide +kernel
  have hmaster : ("MASTER", sparseMaster) ∈ spelledFreely.replicaSpecs.entries := by decide +kernel
  obtain ⟨hkept, -, hnothing⟩ := accepted_keeps_unless_overwritten hvalid
  have hnone := hnothing.2 hdistinct
  obtain ⟨t, spec, ht, hsame, hspec, kept, -, -, hcompleted, hself⟩ := hkept _ hmaster
  obtain rfl : t = masterType := ht.eq_of_same (.inl rfl) hsame (by decide +kernel)
  rw [hself.2 (hnone _ hmaster)] at hcompleted
  exact ⟨hvalid, hnone, spec, hspec, hcompleted⟩

/-- A spec that asks for workers under the name of the type and under another spelling of it. -/
def workersTwice : JobSpec where
  replicaSpecs := .ofList [(masterType, sampleType 1 .never), (workerType, sampleType 8 .never),
    ("worker", sampleType 2 .never)]

/-- It is accepted, and the eight workers are gone. -/
theorem accepted_overwrites_workers :
    workersTwice.withDefaults.fault? = none ∧
      (workersTwice.replicaSpecs.get? workerType).map (·.count) = some 8 ∧
      Text.sameUpToAsciiCase "worker" workerType = true ∧ workersTwice.replicaSpecs.size = 3 ∧
      workersTwice.withDefaults.replicaSpecs.entries.map (fun e => (e.1, e.2.count)) =
        [(masterType, 1), (workerType, 2)] := by
  refine ⟨?_, ?_, ?_, ?_, ?_⟩ <;> decide +kernel

end JobSpec

end TrainingJobs
