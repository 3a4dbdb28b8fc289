/-
Objects, written and read.

What is written of a job, of the parts it is made of, and of a pod group, is read back as it was, but for the times
in it, which are cut to the second (`round_trip`). Each type is written field by field, so what has to be shown of
it is what is shown of its fields: a field that is there is read as what was written, and one that is not there is
not written either (`ReadsAs`). So nothing that is set is taken for missing: empty lists and maps, empty strings,
and a zero are all told from nothing, whether they are written or left out.
-/
import TrainingJobs.Job.Basic
import TrainingJobs.Object.PodGroup
import TrainingJobs.Proofs.Instants
import TrainingJobs.Proofs.Members

set_option autoImplicit false

namespace TrainingJobs

/-! ## Values -/

namespace Json

/-- What is written is read as the value, and it is not null. -/
structure ReadsAs {α : Type} (decode : Decoder α) (written : Json) (value : α) : Prop where
  read : decode written = some value
  notNull : written.isNull = false

theorem readsAs_str (s : String) : ReadsAs decodeString (str s) s := ⟨rfl, rfl⟩

theorem readsAs_bool (b : Bool) : ReadsAs decodeBool (bool b) b := ⟨rfl, rfl⟩

/-- A number is read back where it fits into the bits. -/
theorem readsAs_int {bits : Nat} {i : Int} (h : Fits bits i) : ReadsAs (decodeInt bits) (int i) i :=
  ⟨if_pos h, rfl⟩

/-- A number of 32 bits is read back whatever it is. -/
theorem readsAs_int32 (n : Int32) : ReadsAs decodeInt32 (ofInt32 n) n := by
  refine ⟨?_, rfl⟩
  have hread : decodeInt 32 (ofInt32 n) = some (n : Int) := if_pos (fits_toInt n)
  rw [decodeInt32, hread, Option.map_some, Int32.ofInt_toInt]

/-- An instant is read back to the second. It has to have a year of four digits, as there is no other way to
write one. -/
theorem readsAs_time {t : Timestamp} (h : t.FourDigitYear) : ReadsAs decodeTime (ofTime t) t.cutToSecond :=
  ⟨Timestamp.parse?_render h, rfl⟩

section Collections

variable {α : Type} {decode : Decoder α} {encode : α → Json} {cut : α → α}

/-- A list is read back member by member. -/
theorem readsAs_list {l : List α} (h : ∀ a ∈ l, ReadsAs decode (encode a) (cut a)) :
    ReadsAs (decodeList decode) (ofList encode l) (l.map cut) := by
  refine ⟨?_, rfl⟩
  change (l.map encode).mapM decode = some (l.map cut)
  induction l with
  | nil => rfl
  | cons a rest ih =>
    obtain ⟨ha, hrest⟩ := List.forall_mem_cons.1 h
    rw [List.map_cons, List.mapM_cons, ha.read, ih hrest]
    rfl

theorem readsAs_list_same {l : List α} (h : ∀ a ∈ l, ReadsAs decode (encode a) a) :
    ReadsAs (decodeList decode) (ofList encode l) l := by
  have hcut : ReadsAs (decodeList decode) (ofList encode l) (l.map id) := readsAs_list h
  rwa [List.map_id] at hcut

/-- And a map is read back entry by entry, since its keys do not repeat. -/
theorem readsAs_dict {d : Dict String α} (h : ∀ e ∈ d.entries, ReadsAs decode (encode e.2) (cut e.2)) :
    ReadsAs (decodeDict decode) (ofDict encode d) (d.mapValues cut) := by
  refine ⟨?_, rfl⟩
  have hentries : (d.entries.map fun e => (e.1, encode e.2)).mapM (fun m => (decode m.2).map fun v => (m.1, v)) =
      some (d.mapValues cut).entries := by
    change _ = some (d.entries.map fun e => (e.1, cut e.2))
    generalize d.entries = l at h
    -- Over the entries, in the order in which both sides go through them.
    induction l with
    | nil => rfl
    | cons e rest ih =>
      obtain ⟨he, hrest⟩ := List.forall_mem_cons.1 h
      rw [List.map_cons, List.mapM_cons, he.read, ih hrest]
      rfl
  exact (congrArg (Option.map Dict.ofList) hentries).trans (congrArg some (Dict.ofList_entries _))

theorem readsAs_dict_same {d : Dict String α} (h : ∀ e ∈ d.entries, ReadsAs decode (encode e.2) e.2) :
    ReadsAs (decodeDict decode) (ofDict encode d) d := by
  have hcut : ReadsAs (decodeDict decode) (ofDict encode d) (d.mapValues id) := readsAs_dict h
  rwa [show d.mapValues id = d from Dict.ext (List.map_id _)] at hcut

/-- What is cut and written is what is written, entry by entry. -/
theorem ofDict_mapValues (h : ∀ a, encode (cut a) = encode a) (d : Dict String α) :
    ofDict encode (d.mapValues cut) = ofDict encode d := by
  unfold ofDict Dict.mapValues
  simp only [List.map_map, Function.comp_def, h]

end Collections

/-- A map of texts is read back as it is. -/
theorem readsAs_strings (d : Dict String String) : ReadsAs (decodeDict decodeString) (ofStrings d) d :=
  readsAs_dict_same fun e _ => readsAs_str e.2

/-! ## Fields -/

/-- Whoever reads what stands under the name reads this, or nothing if there is none. -/
def Shows (members : List (String × Json)) (name : String) (value : Option Json) : Prop :=
  ∀ {α : Type} (decode : Decoder α),
    lastOf members name decode = (value.map decode).elim (some none) (Option.map some)

/-- The members show all of the fields. -/
def ShowsAll (members : List (String × Json)) : List (String × Option Json) → Prop
  | [] => True
  | (name, value) :: rest => Shows members name value ∧ ShowsAll members rest

/-- Fields are shown if each of them is. -/
theorem showsAll_of_forall {members : List (String × Json)} {fields : List (String × Option Json)}
    (h : ∀ f ∈ fields, Shows members f.1 f.2) : ShowsAll members fields := by
  induction fields with
  | nil => trivial
  | cons f rest ih =>
    obtain ⟨hf, hrest⟩ := List.forall_mem_cons.1 h
    exact ⟨hf, ih hrest⟩

/-- A field of an object is found there as it was written, or is not there if it had no value. -/
theorem shows_present {fields : List (String × Option Json)} (hdistinct : (fields.map Prod.fst).Nodup)
    {f : String × Option Json} (hf : f ∈ fields) : Shows (present fields) f.1 f.2 := by
  intro α decode
  have hfound : (obj (present fields)).get? f.1 = f.2 := get?_ofFields hdistinct hf
  rw [lastOf_eq (nodup_present hdistinct), hfound]
  cases f.2 <;> rfl

/-- An object that is written field by field has members that show all of its fields. -/
theorem exists_members (written : Json) {fields : List (String × Option Json)} (hwritten : written = ofFields fields)
    (hdistinct : (fields.map Prod.fst).Nodup) : ∃ members, written.members? = some members ∧
      (∀ known least, written.ownMembers? known least = some members) ∧ ShowsAll members fields := by
  subst hwritten
  exact ⟨present fields, rfl, ownMembers?_ofFields hdistinct, showsAll_of_forall fun f => shows_present hdistinct⟩

section Shows

variable {α : Type} {decode : Decoder α} {members : List (String × Json)} {name : String} {written : Json}

/-- What is no `null` is not taken for a missing value. -/
theorem orNull_of_notNull (h : written.isNull = false) : orNull decode written = (decode written).map some := by
  cases written with
  | null => exact Bool.noConfusion h
  | _ => rfl

/-- A field that has to be there is read as it was written. -/
theorem Shows.required (h : Shows members name (some written)) {value : α} (hread : ReadsAs decode written value) :
    required members name decode = some value := by
  unfold Json.required
  rw [h, Option.map_some, hread.read]
  rfl

/-- One with a default is read as it was written, too. -/
theorem Shows.defaulted (h : Shows members name (some written)) {value : α} (hread : ReadsAs decode written value)
    (default : α) : defaulted members name decode default = some value := by
  unfold Json.defaulted
  rw [h, Option.map_some, hread.read]
  rfl

/-- A string that is left out for being empty is read as empty. -/
theorem Shows.unlessEmpty {s : String} (h : Shows members name (unlessEmpty s)) :
    Json.defaulted members name decodeString "" = some s := by
  unfold Json.defaulted
  rw [h]
  unfold Json.unlessEmpty
  by_cases hs : s.isEmpty = true
  · rw [if_pos hs, String.isEmpty_iff.1 hs]
    rfl
  · rw [if_neg hs]
    rfl

/-- A field that may be missing is read if it was written, and missing if not. -/
theorem Shows.optional {encode : α → Json} {cut : α → α} {value : Option α}
    (h : Shows members name (value.map encode)) (hread : ∀ a ∈ value, ReadsAs decode (encode a) (cut a)) :
    optional members name decode = some (value.map cut) := by
  unfold Json.optional
  rw [h]
  cases value with
  | none => rfl
  | some a =>
    have ha := hread a rfl
    rw [Option.map_some, Option.map_some, orNull_of_notNull ha.notNull, ha.read]
    rfl

/-- What is read is what was written, if there are no times in it. -/
theorem Shows.same {encode : α → Json} {value : Option α} (h : Shows members name (value.map encode))
    (hread : ∀ a ∈ value, ReadsAs decode (encode a) a) : Json.optional members name decode = some value := by
  have hcut : Json.optional members name decode = some (value.map id) := h.optional hread
  rwa [Option.map_id] at hcut

/-- One that is filled in when it is `null` is read as it was written. -/
theorem Shows.filled (h : Shows members name (some written)) {value : α} (hread : ReadsAs decode written value)
    (default : α) : filled members name decode default = some value := by
  have hsome : Shows members name ((some value).map fun _ => written) := h
  unfold Json.filled
  rw [hsome.same fun a ha => Option.some.inj ha ▸ hread]
  rfl

end Shows

end Json

open Json

/-! ## Objects of the platform -/

/-- Instants are written to the second, so cutting them first makes no difference. -/
theorem Timestamp.ofTime_cutToSecond (t : Timestamp) : ofTime t.cutToSecond = ofTime t := by
  have hsecond : t.cutToSecond.epochSecond = t.epochSecond := Int.mul_fdiv_cancel _ (by decide)
  unfold ofTime render
  rw [hsecond]

theorem OwnerReference.readsAs (o : OwnerReference) : ReadsAs decode o.encode o := by
  obtain ⟨m, hm, -, hversion, hkind, hname, huid, hcontroller, hblock, -⟩ :=
    exists_members o.encode rfl (by simp)
  refine ⟨?_, rfl⟩
  unfold decode
  simp only [hm, Option.bind_eq_bind, Option.bind_some, hversion.filled (readsAs_str _), hkind.filled (readsAs_str _),
    hname.filled (readsAs_str _), huid.filled (readsAs_str _), hcontroller.same fun _ _ => readsAs_bool _,
    hblock.same fun _ _ => readsAs_bool _]

namespace Metadata

/-- The times of the object can be written. -/
structure Writable (m : Metadata) : Prop where
  creation : ∀ t ∈ m.creationTimestamp, t.FourDigitYear
  deletion : ∀ t ∈ m.deletionTimestamp, t.FourDigitYear

def cut (m : Metadata) : Metadata :=
  { m with
    creationTimestamp := m.creationTimestamp.map Timestamp.cutToSecond
    deletionTimestamp := m.deletionTimestamp.map Timestamp.cutToSecond }

/-- Metadata is read back with its instants cut. -/
theorem readsAs {m : Metadata} (h : m.Writable) : ReadsAs decode m.encode m.cut := by
  obtain ⟨members, hm, -, hname, hns, hgenerate, huid, hversion, hlabels, hannotations, hcreation, hdeletion, howners,
    -⟩ := exists_members m.encode rfl (by simp)
  refine ⟨?_, rfl⟩
  unfold decode
  simp only [hm, Option.bind_eq_bind, Option.bind_some, hname.same fun _ _ => readsAs_str _,
    hns.same fun _ _ => readsAs_str _, hgenerate.same fun _ _ => readsAs_str _, huid.same fun _ _ => readsAs_str _,
    hversion.same fun _ _ => readsAs_str _, hlabels.same fun _ _ => readsAs_strings _,
    hannotations.same fun _ _ => readsAs_strings _, hcreation.optional fun t ht => readsAs_time (h.creation t ht),
    hdeletion.optional fun t ht => readsAs_time (h.deletion t ht),
    howners.same fun _ _ => readsAs_list_same fun o _ => o.readsAs]
  rfl

theorem encode_cut (m : Metadata) : m.cut.encode = m.encode := by
  unfold encode cut
  simp only [Option.map_map, Function.comp_def, Timestamp.ofTime_cutToSecond]

end Metadata

/-! ## What pods are made from -/

theorem EnvSource.readsAs (s : EnvSource) : ReadsAs decode s.encode s := by
  obtain ⟨m, hm, -, hfield, -⟩ := exists_members s.encode rfl (by simp)
  have hpath : ∀ path, ReadsAs (fun j => j.members?.bind fun m => filled m "fieldPath" decodeString "")
      (.obj [("fieldPath", .str path)]) path := fun _ => ⟨rfl, rfl⟩
  refine ⟨?_, rfl⟩
  unfold decode
  simp only [hm, Option.bind_eq_bind, Option.bind_some, hfield.same fun path _ => hpath path]

theorem EnvVar.readsAs (v : EnvVar) : ReadsAs decode v.encode v := by
  obtain ⟨m, hm, -, hname, hvalue, hfrom, -⟩ := exists_members v.encode rfl (by simp)
  refine ⟨?_, rfl⟩
  unfold decode
  simp only [hm, Option.bind_eq_bind, Option.bind_some, hname.filled (readsAs_str _),
    hvalue.same fun _ _ => readsAs_str _, hfrom.same fun s _ => s.readsAs]

namespace ContainerPort

def Writable (p : ContainerPort) : Prop := Fits 32 p.containerPort

/-- A port is read back if its number fits. -/
theorem readsAs {p : ContainerPort} (h : p.Writable) : ReadsAs decode p.encode p := by
  obtain ⟨m, hm, -, hname, hport, -⟩ := exists_members p.encode rfl (by simp)
  refine ⟨?_, rfl⟩
  unfold decode
  simp only [hm, Option.bind_eq_bind, Option.bind_some, hname.same fun _ _ => readsAs_str _,
    hport.filled (readsAs_int h)]

end ContainerPort

namespace Container

def Writable (c : Container) : Prop := ∀ ports ∈ c.ports, ∀ p ∈ ports, p.Writable

/-- A container is read back if its ports are. -/
theorem readsAs {c : Container} (h : c.Writable) : ReadsAs decode c.encode c := by
  obtain ⟨m, hm, -, hname, himage, henv, hports, -⟩ := exists_members c.encode rfl (by simp)
  refine ⟨?_, rfl⟩
  unfold decode
  simp only [hm, Option.bind_eq_bind, Option.bind_some, hname.filled (readsAs_str _),
    himage.same fun _ _ => readsAs_str _, henv.same fun _ _ => readsAs_list_same fun v _ => v.readsAs,
    hports.same fun ports hports => readsAs_list_same fun p hp => ContainerPort.readsAs (h ports hports p hp)]

end Container

namespace PodSpec

structure Writable (s : PodSpec) : Prop where
  containers : ∀ c ∈ s.containers, c.Writable
  initContainers : ∀ l ∈ s.initContainers, ∀ c ∈ l, c.Writable

/-- The spec of a pod is read back if its containers are. -/
theorem readsAs {s : PodSpec} (h : s.Writable) : ReadsAs decode s.encode s := by
  obtain ⟨m, hm, -, hcontainers, hinit, hrestart, hscheduler, hselector, -⟩ :=
    exists_members s.encode rfl (by simp)
  refine ⟨?_, rfl⟩
  unfold decode
  simp only [hm, Option.bind_eq_bind, Option.bind_some,
    hcontainers.filled (readsAs_list_same fun c hc => Container.readsAs (h.containers c hc)),
    hinit.same fun l hl => readsAs_list_same fun c hc => Container.readsAs (h.initContainers l hl c hc),
    hrestart.same fun _ _ => readsAs_str _, hscheduler.same fun _ _ => readsAs_str _,
    hselector.same fun _ _ => readsAs_strings _]

end PodSpec

namespace PodTemplate

structure Writable (t : PodTemplate) : Prop where
  metadata : ∀ m ∈ t.metadata, m.Writable
  spec : ∀ s ∈ t.spec, s.Writable

def cut (t : PodTemplate) : PodTemplate := { t with metadata := t.metadata.map Metadata.cut }

/-- A template is read back with the metadata that it gives its pods cut. -/
theorem readsAs {t : PodTemplate} (h : t.Writable) : ReadsAs decode t.encode t.cut := by
  obtain ⟨m, hm, -, hmetadata, hspec, -⟩ := exists_members t.encode rfl (by simp)
  refine ⟨?_, rfl⟩
  unfold decode
  simp only [hm, Option.bind_eq_bind, Option.bind_some,
    hmetadata.optional fun m hm => Metadata.readsAs (h.metadata m hm),
    hspec.same fun s hs => PodSpec.readsAs (h.spec s hs)]
  rfl

theorem encode_cut (t : PodTemplate) : t.cut.encode = t.encode := by
  unfold encode cut
  simp only [Option.map_map, Function.comp_def, Metadata.encode_cut]

end PodTemplate

/-! ## What is asked for -/

theorem RestartPolicy.readsAs (p : RestartPolicy) : ReadsAs (decodeName byName) (.str p.name) p := by
  cases p <;> exact ⟨by decide, rfl⟩

theorem CleanPodPolicy.readsAs (p : CleanPodPolicy) : ReadsAs (decodeName byName) (.str p.name) p := by
  cases p <;> exact ⟨by decide, rfl⟩

namespace ReplicaSpec

/-- The number of replicas has 32 bits by itself. -/
def Writable (s : ReplicaSpec) : Prop := s.template.Writable

def cut (s : ReplicaSpec) : ReplicaSpec := { s with template := s.template.cut }

/-- A replica spec is read back, its template cut. -/
theorem readsAs {s : ReplicaSpec} (h : s.Writable) : ReadsAs decode s.encode s.cut := by
  obtain ⟨m, -, hm, hreplicas, htemplate, hrestart, -⟩ := exists_members s.encode rfl (by simp)
  refine ⟨?_, rfl⟩
  unfold decode
  simp only [hm, Option.bind_eq_bind, Option.bind_some, hreplicas.same fun n _ => readsAs_int32 n,
    htemplate.defaulted (PodTemplate.readsAs h), hrestart.same fun p _ => p.readsAs]
  rfl

theorem encode_cut (s : ReplicaSpec) : s.cut.encode = s.encode := by
  unfold encode cut
  simp only [PodTemplate.encode_cut]

end ReplicaSpec

namespace RunPolicy

structure Writable (p : RunPolicy) : Prop where
  timeToLive : ∀ n ∈ p.ttlSecondsAfterFinished, Fits 32 n
  deadline : ∀ n ∈ p.activeDeadlineSeconds, Fits 64 n
  backoff : ∀ n ∈ p.backoffLimit, Fits 32 n
  least : ∀ n ∈ p.minAvailable, Fits 32 n

/-- The least number of pods is read back through the object around it. -/
theorem readsAs_scheduling {least : Option Int} (h : ∀ n ∈ least, Fits 32 n) :
    ReadsAs decodeScheduling (.ofFields [("minAvailable", least.map .int)]) least := by
  obtain ⟨m, -, hm, hleast, -⟩ :=
    exists_members (.ofFields [("minAvailable", least.map .int)]) rfl (by simp)
  refine ⟨?_, rfl⟩
  unfold decodeScheduling
  simp only [hm, Option.bind_eq_bind, Option.bind_some, hleast.same fun n hn => readsAs_int (h n hn)]

/-- A run policy is found again among members that show its fields, whatever else there is. -/
theorem ofMembers_eq {p : RunPolicy} (h : p.Writable) {members : List (String × Json)}
    (hshown : ShowsAll members p.fields) : ofMembers members = some p := by
  obtain ⟨hclean, httl, hdeadline, hbackoff, hscheduling, -⟩ := hshown
  -- The scheduling policy is read as an object of its own.
  have hleast : ∀ least ∈ p.schedulingPolicy, ReadsAs decodeScheduling
      (.ofFields [("minAvailable", least.map .int)]) least := by
    intro least hsome
    refine readsAs_scheduling fun n hn => h.least n ?_
    unfold minAvailable
    rw [hsome]
    exact hn
  unfold ofMembers
  simp only [Option.bind_eq_bind, Option.bind_some, hclean.same fun c _ => c.readsAs,
    httl.same fun n hn => readsAs_int (h.timeToLive n hn), hdeadline.same fun n hn => readsAs_int (h.deadline n hn),
    hbackoff.same fun n hn => readsAs_int (h.backoff n hn), hscheduling.same hleast]

/-- All of what is written of a run policy can be read. -/
theorem readable_of_mem_fields {p : RunPolicy} {f : String × Option Json} (hf : f ∈ p.fields) {value : Json}
    (hvalue : f.2 = some value) : value.readable = true := by
  unfold fields at hf
  simp only [List.mem_cons, List.not_mem_nil, or_false] at hf
  rcases hf with rfl | rfl | rfl | rfl | rfl
  all_goals obtain ⟨a, -, rfl⟩ := Option.map_eq_some_iff.1 hvalue
  · rfl
  · rfl
  · rfl
  · rfl
  · cases a <;> rfl

end RunPolicy

namespace JobSpec

structure Writable (s : JobSpec) : Prop where
  runPolicy : s.runPolicy.Writable
  replicaSpecs : ∀ e ∈ s.replicaSpecs.entries, e.2.Writable

def cut (s : JobSpec) : JobSpec := { s with replicaSpecs := s.replicaSpecs.mapValues ReplicaSpec.cut }

/-- The members of the run policy are told from the replicas beside them. -/
theorem readsAs {s : JobSpec} (h : s.Writable) : ReadsAs decode s.encode s.cut := by
  obtain ⟨fields, hfields⟩ : ∃ fields, fields =
    s.runPolicy.fields ++ [("xgbReplicaSpecs", some (.ofDict ReplicaSpec.encode s.replicaSpecs))] := ⟨_, rfl⟩
  have hdistinct : (fields.map Prod.fst).Nodup := by
    rw [hfields]
    simp [RunPolicy.fields]
  have hmembers : s.encode.mixedMembers? ["xgbReplicaSpecs"] RunPolicy.fieldNames = some (present fields) := by
    unfold encode
    rw [← hfields]
    refine mixedMembers?_ofFields hdistinct fun f hf hother value hvalue => ?_
    rcases List.mem_append.1 (hfields ▸ hf) with hf | hf
    · exact RunPolicy.readable_of_mem_fields hf hvalue
    · rw [List.mem_singleton.1 hf] at hother
      exact absurd hother (by simp)
  have hpolicy : ShowsAll (present fields) s.runPolicy.fields :=
    showsAll_of_forall fun f hf => shows_present hdistinct (hfields ▸ List.mem_append_left _ hf)
  have hreplicas : Shows (present fields) "xgbReplicaSpecs" (some (.ofDict ReplicaSpec.encode s.replicaSpecs)) :=
    shows_present hdistinct (hfields ▸ List.mem_append_right _ (List.mem_singleton_self _))
  refine ⟨?_, rfl⟩
  unfold decode
  simp only [hmembers, Option.bind_eq_bind, Option.bind_some, RunPolicy.ofMembers_eq h.runPolicy hpolicy,
    hreplicas.defaulted (readsAs_dict fun e he => ReplicaSpec.readsAs (h.replicaSpecs e he))]
  rfl

theorem encode_cut (s : JobSpec) : s.cut.encode = s.encode := by
  unfold encode cut
  simp only [ofDict_mapValues ReplicaSpec.encode_cut]

end JobSpec

/-! ## What is known -/

theorem ConditionKind.readsAs (k : ConditionKind) : ReadsAs (decodeName byName) (.str k.name) k := by
  cases k <;> exact ⟨by decide, rfl⟩

theorem ConditionStatus.readsAs (s : ConditionStatus) : ReadsAs (decodeName byName) (.str s.name) s := by
  cases s <;> exact ⟨by decide, rfl⟩

namespace ReplicaCounts

/-- Counts are read back, as they have 32 bits. -/
theorem readsAs (c : ReplicaCounts) : ReadsAs decode c.encode c := by
  obtain ⟨m, -, hm, hactive, hsucceeded, hfailed, -⟩ := exists_members c.encode
    (show c.encode = .ofFields [("active", some (.ofInt32 c.active)), ("succeeded", some (.ofInt32 c.succeeded)),
      ("failed", some (.ofInt32 c.failed))] from rfl) (by simp)
  refine ⟨?_, rfl⟩
  unfold decode
  simp only [hm, Option.bind_eq_bind, Option.bind_some, hactive.defaulted (readsAs_int32 _),
    hsucceeded.defaulted (readsAs_int32 _), hfailed.defaulted (readsAs_int32 _)]

end ReplicaCounts

namespace Condition

structure Writable (c : Condition) : Prop where
  lastUpdate : ∀ t ∈ c.lastUpdateTime, t.FourDigitYear
  lastTransition : ∀ t ∈ c.lastTransitionTime, t.FourDigitYear

def cut (c : Condition) : Condition :=
  { c with
    lastUpdateTime := c.lastUpdateTime.map Timestamp.cutToSecond
    lastTransitionTime := c.lastTransitionTime.map Timestamp.cutToSecond }

/-- A condition is read back with its instants cut. -/
theorem readsAs {c : Condition} (h : c.Writable) : ReadsAs decode c.encode c.cut := by
  obtain ⟨m, -, hm, hkind, hstatus, hreason, hmessage, hupdate, htransition, -⟩ :=
    exists_members c.encode rfl (by simp)
  refine ⟨?_, rfl⟩
  unfold decode
  simp only [hm, Option.bind_eq_bind, Option.bind_some, hkind.required c.kind.readsAs,
    hstatus.required c.status.readsAs, hreason.unlessEmpty, hmessage.unlessEmpty,
    hupdate.optional fun t ht => readsAs_time (h.lastUpdate t ht),
    htransition.optional fun t ht => readsAs_time (h.lastTransition t ht)]
  rfl

theorem encode_cut (c : Condition) : c.cut.encode = c.encode := by
  unfold encode cut
  simp only [Option.map_map, Function.comp_def, Timestamp.ofTime_cutToSecond]

end Condition

namespace JobStatus

structure Writable (s : JobStatus) : Prop where
  conditions : ∀ c ∈ s.conditions, c.Writable
  start : ∀ t ∈ s.startTime, t.FourDigitYear
  completion : ∀ t ∈ s.completionTime, t.FourDigitYear
  lastReconcile : ∀ t ∈ s.lastReconcileTime, t.FourDigitYear

def cut (s : JobStatus) : JobStatus :=
  { s with
    conditions := s.conditions.map Condition.cut
    startTime := s.startTime.map Timestamp.cutToSecond
    completionTime := s.completionTime.map Timestamp.cutToSecond
    lastReconcileTime := s.lastReconcileTime.map Timestamp.cutToSecond }

/-- A status is read back with all its instants cut. -/
theorem readsAs {s : JobStatus} (h : s.Writable) : ReadsAs decode s.encode s.cut := by
  obtain ⟨m, -, hm, hconditions, hcounts, hstart, hcompletion, hreconcile, -⟩ :=
    exists_members s.encode rfl (by simp)
  refine ⟨?_, rfl⟩
  unfold decode
  simp only [hm, Option.bind_eq_bind, Option.bind_some,
    hconditions.defaulted (readsAs_list fun c hc => Condition.readsAs (h.conditions c hc)),
    hcounts.defaulted (readsAs_dict_same fun e _ => e.2.readsAs),
    hstart.optional fun t ht => readsAs_time (h.start t ht),
    hcompletion.optional fun t ht => readsAs_time (h.completion t ht),
    hreconcile.optional fun t ht => readsAs_time (h.lastReconcile t ht)]
  rfl

theorem encode_cut (s : JobStatus) : s.cut.encode = s.encode := by
  unfold encode cut ofList
  simp only [Option.map_map, List.map_map, Function.comp_def, Timestamp.ofTime_cutToSecond, Condition.encode_cut]

end JobStatus

namespace Job

structure Writable (job : Job) : Prop where
  metadata : job.metadata.Writable
  spec : job.spec.Writable
  status : ∀ s ∈ job.status, s.Writable

def cut (job : Job) : Job where
  metadata := job.metadata.cut
  spec := job.spec.cut
  status := job.status.map JobStatus.cut

/-- A job is read back if its three parts are. -/
theorem readsAs {job : Job} (h : job.Writable) : ReadsAs decode job.encode job.cut := by
  obtain ⟨m, -, hm, -, -, hmetadata, hspec, hstatus, -⟩ := exists_members job.encode rfl (by simp)
  refine ⟨?_, rfl⟩
  unfold decode
  simp only [hm, Option.bind_eq_bind, Option.bind_some, hmetadata.required (Metadata.readsAs h.metadata),
    hspec.required (JobSpec.readsAs h.spec), hstatus.optional fun s hs => JobStatus.readsAs (h.status s hs)]
  rfl

theorem encode_cut (job : Job) : job.cut.encode = job.encode := by
  unfold encode cut
  simp only [Option.map_map, Function.comp_def, Metadata.encode_cut, JobSpec.encode_cut, JobStatus.encode_cut]

end Job

namespace PodGroup

structure Writable (g : PodGroup) : Prop where
  metadata : g.metadata.Writable
  minMember : Fits 32 g.minMember

def cut (g : PodGroup) : PodGroup := { g with metadata := g.metadata.cut }

/-- A pod group is read back, and is written with its version and kind. -/
theorem readsAs {g : PodGroup} (h : g.Writable) : ReadsAs decode g.encode g.cut := by
  obtain ⟨inner, -, hinner, hleast, -⟩ := exists_members (.obj [("minMember", .int g.minMember)])
    (show _ = ofFields [("minMember", some (.int g.minMember))] from rfl) (by simp)
  have hspec : ReadsAs (fun j => (j.ownMembers? ["minMember"] 1).bind fun m => required m "minMember" (decodeInt 32))
      (.obj [("minMember", .int g.minMember)]) g.minMember := by
    refine ⟨?_, rfl⟩
    simp only [hinner, Option.bind_some, hleast.required (readsAs_int h.minMember)]
  obtain ⟨m, -, hm, -, -, hmetadata, hmin, -⟩ := exists_members g.encode
    (show g.encode = .ofFields [("apiVersion", some (.str apiVersion)), ("kind", some (.str kind)),
      ("metadata", some g.metadata.encode), ("spec", some (.obj [("minMember", .int g.minMember)]))] from rfl) (by simp)
  refine ⟨?_, rfl⟩
  unfold decode
  simp only [hm, Option.bind_eq_bind, Option.bind_some, hmetadata.required (Metadata.readsAs h.metadata),
    hmin.required hspec]
  rfl

theorem encode_cut (g : PodGroup) : g.cut.encode = g.encode := by
  unfold encode cut
  simp only [Metadata.encode_cut]

end PodGroup

/-! ## All of them -/

/-- Written and read, a value comes out as `cut`, which is written in the same way, and so comes out as it is. -/
structure Settles {α : Type} (decode : Decoder α) (encode : α → Json) (value cut : α) : Prop where
  read : decode (encode value) = some cut
  written : encode cut = encode value
  again : decode (encode cut) = some cut

/-- Reading and writing settle after one round where what is read is written like what was written first. -/
theorem settles_of_readsAs {α : Type} {decode : Decoder α} {encode : α → Json} {value cut : α}
    (h : ReadsAs decode (encode value) cut) (hcut : encode cut = encode value) : Settles decode encode value cut :=
  ⟨h.read, hcut, hcut ▸ h.read⟩

/-- **To read undoes to write.** A job, its spec, its status, the spec of a replica type, and a pod group: what is
written of each is read as it was, with its times cut to the second, and what was read is from then on written and
read as it is. -/
theorem round_trip :
    (∀ job : Job, job.Writable → Settles Job.decode Job.encode job job.cut) ∧
    (∀ spec : JobSpec, spec.Writable → Settles JobSpec.decode JobSpec.encode spec spec.cut) ∧
    (∀ status : JobStatus, status.Writable → Settles JobStatus.decode JobStatus.encode status status.cut) ∧
    (∀ spec : ReplicaSpec, spec.Writable → Settles ReplicaSpec.decode ReplicaSpec.encode spec spec.cut) ∧
    ∀ group : PodGroup, group.Writable → Settles PodGroup.decode PodGroup.encode group group.cut :=
  ⟨fun job h => settles_of_readsAs (Job.readsAs h) job.encode_cut,
    fun spec h => settles_of_readsAs (JobSpec.readsAs h) spec.encode_cut,
    fun status h => settles_of_readsAs (JobStatus.readsAs h) status.encode_cut,
    fun spec h => settles_of_readsAs (ReplicaSpec.readsAs h) spec.encode_cut,
    fun group h => settles_of_readsAs (PodGroup.readsAs h) group.encode_cut⟩

/-- A replica type of no replicas, with a container that has no name, and a list of variables that is empty. -/
def sparseType : ReplicaSpec where
  replicas := some 0
  template := { spec := some { containers := [⟨"", none, some [], none⟩] } }

/-- A job in which much is there and empty, and with times between two seconds, one of them before 1970. -/
def sparseJob : Job where
  metadata := { name := some "iris", labels := some ∅, creationTimestamp := some ⟨1500000000⟩ }
  spec := {
    runPolicy := { backoffLimit := some 0, activeDeadlineSeconds := some (-1), schedulingPolicy := some none }
    replicaSpecs := .ofList [("", sparseType)] }
  status := some {
    conditions := [⟨.created, .yes, "", "", none, some ⟨-1⟩⟩]
    replicaStatuses := .ofList [(masterType, {})] }

/-- A job that leaves much open comes back with empty labels and its instants cut. -/
theorem round_trip_sparseJob : sparseJob.Writable ∧ Job.decode sparseJob.encode = some sparseJob.cut ∧
    sparseJob.cut.metadata.creationTimestamp = some ⟨1000000000⟩ ∧ sparseJob.cut.metadata.labels = some ∅ := by
  have hcontainer : Container.Writable ⟨"", none, some [], none⟩ := nofun
  have htype : sparseType.Writable :=
    ⟨by rintro _ ⟨⟩, by rintro _ ⟨⟩; exact ⟨List.forall_mem_singleton.2 hcontainer, nofun⟩⟩
  have htypes : ∀ e ∈ sparseJob.spec.replicaSpecs.entries, e.2.Writable := by
    intro e he
    obtain rfl := List.mem_singleton.1 he
    exact htype
  have hconditions : ∀ s ∈ sparseJob.status, ∀ c ∈ s.conditions, c.Writable := by
    rintro _ ⟨⟩ c hc
    obtain rfl := List.mem_singleton.1 hc
    exact ⟨nofun, by rintro _ ⟨⟩; decide⟩
  have hpolicy : sparseJob.spec.runPolicy.Writable :=
    ⟨nofun, by rintro _ ⟨⟩; decide, by rintro _ ⟨⟩; decide, nofun⟩
  -- Nothing in the job is out of range; the empty parts have nothing to check.
  have hwritable : sparseJob.Writable :=
    ⟨⟨by rintro _ ⟨⟩; decide, nofun⟩, ⟨hpolicy, htypes⟩, fun s hs =>
      ⟨hconditions s hs, by cases hs; nofun, by cases hs; nofun, by cases hs; nofun⟩⟩
  exact ⟨hwritable, (round_trip.1 sparseJob hwritable).read, by decide, rfl⟩

end TrainingJobs
