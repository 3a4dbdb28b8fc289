/-
What a key stands for.

Passes are made, retries counted and expectations held under keys, so a key has to stand for one job. Namespace and
name may be any texts, though, and with slashes in them two jobs may have the same key: `c` in `a/b` goes by `a/b/c`,
as does `b/c` in `a`. What is a key is said here without the way it is split: a text is one if it has a single slash
with something on either side (`IsKey`). **Keys are split, other texts are refused, and whatever goes by a key goes by
it alone** (`job_keys_parse_back`). The argument is by the number of slashes: those of the two parts and one more
(`count_keyFor`).
-/
import Mathlib.Algebra.Group.Nat.Defs
import TrainingJobs.Controller.Observation
import TrainingJobs.Proofs.Names
import TrainingJobs.Proofs.Parts

set_option autoImplicit false

namespace TrainingJobs

/-- The text has a single slash, and something before and after it. -/
def IsKey (key : String) : Prop :=
  key.toList.count '/' = 1 ∧ ∀ before after : String, key = before ++ "/" ++ after → before ≠ "" ∧ after ≠ ""

variable {key ns name ns' name' : String}

/-! ## One slash -/

/-- That a text has no slash, as a count. -/
theorem slashless_iff {s : String} : Slashless s ↔ s.toList.count '/' = 0 := List.count_eq_zero.symm

/-- A key has the slashes of its parts and one more. -/
theorem count_keyFor (ns name : String) :
    (keyFor ns name).toList.count '/' = ns.toList.count '/' + name.toList.count '/' + 1 := by
  rw [toList_keyFor, List.count_append, List.count_cons_self, Nat.add_assoc]

/-- A key that is made of two texts without slashes is made of no others, whether these have slashes or not. -/
theorem keyFor_inj_of_slashless (hns : Slashless ns) (hname : Slashless name) (h : keyFor ns name = keyFor ns' name') :
    ns = ns' ∧ name = name' := by
  have hcount := count_keyFor ns name
  rw [h, count_keyFor, slashless_iff.1 hns, slashless_iff.1 hname] at hcount
  have hname' : Slashless name' := slashless_iff.2 (by omega)
  exact keyFor_inj hname hname' h

/-- What is put together is a key exactly if both parts are parts of keys: neither may be empty or have a slash. -/
theorem isKey_keyFor_iff : IsKey (keyFor ns name) ↔ IsKeyPart ns ∧ IsKeyPart name := by
  unfold IsKey
  rw [count_keyFor]
  constructor
  · rintro ⟨hcount, hparts⟩
    obtain ⟨hns, hname⟩ := hparts ns name rfl
    exact ⟨⟨hns, slashless_iff.2 (by omega)⟩, hname, slashless_iff.2 (by omega)⟩
  · rintro ⟨⟨hns, hns'⟩, hname, hname'⟩
    refine ⟨by rw [slashless_iff.1 hns', slashless_iff.1 hname'], fun before after h => ?_⟩
    -- With no slash in either part there is one place to split the key.
    obtain ⟨rfl, rfl⟩ := keyFor_inj_of_slashless hns' hname' h
    exact ⟨hns, hname⟩

/-- Every key can be put together from parts. -/
theorem IsKey.exists_keyFor (h : IsKey key) : ∃ ns name, keyFor ns name = key := by
  have hslash : '/' ∈ key.toList := List.one_le_count_iff.1 (Nat.le_of_eq h.1.symm)
  obtain ⟨before, after, hkey⟩ := List.append_of_mem hslash
  refine ⟨String.ofList before, String.ofList after, String.toList_injective ?_⟩
  rw [toList_keyFor, String.toList_ofList, String.toList_ofList, hkey]

/-! ## Splitting -/

/-- What can be split is a key. -/
theorem isKey_of_splitKey? {parts : String × String} (h : splitKey? key = some parts) : IsKey key := by
  obtain ⟨rfl, hparts⟩ := splitKey?_eq_some_iff.1 h
  exact isKey_keyFor_iff.2 hparts

/-- And what is none cannot be split. -/
theorem splitKey?_eq_none_iff : splitKey? key = none ↔ ¬ IsKey key := by
  constructor
  · intro hnone hkey
    obtain ⟨ns, name, rfl⟩ := hkey.exists_keyFor
    rw [splitKey?_eq_some_iff.2 ⟨rfl, isKey_keyFor_iff.1 hkey⟩] at hnone
    exact absurd hnone (by simp)
  · intro hkey
    rcases hsplit : splitKey? key with _ | parts
    · rfl
    · exact absurd (isKey_of_splitKey? hsplit) hkey

/-- A text is split into two parts exactly if it is put together from them and both are parts of keys. -/
theorem splitKey_eq_ok_iff :
    splitKey key = .ok (ns, name) ↔ keyFor ns name = key ∧ IsKeyPart ns ∧ IsKeyPart name := by
  rw [← splitKey?_eq_some_iff]
  unfold splitKey
  cases splitKey? key <;> simp

/-- A text that is no key is rejected with a message that quotes it. -/
theorem splitKey_of_not_isKey (h : ¬ IsKey key) : splitKey key = .error (.invalidConfig ("invalid job key: " ++ key)) := by
  unfold splitKey
  rw [splitKey?_eq_none_iff.2 h]

/-- Only keys are accepted, and all of them are. -/
theorem isOk_splitKey_iff : (splitKey key).isOk = true ↔ IsKey key := by
  have hok : (splitKey key).isOk = (splitKey? key).isSome := by
    unfold splitKey
    cases splitKey? key <;> rfl
  rw [hok, Option.isSome_iff_ne_none, Ne, splitKey?_eq_none_iff, Classical.not_not]

/-- What is put together can be split again, unless one of the parts is none. -/
theorem splitKey_keyFor (ns name : String) : splitKey (keyFor ns name) =
    if IsKeyPart ns ∧ IsKeyPart name then .ok (ns, name)
    else .error (.invalidConfig ("invalid job key: " ++ keyFor ns name)) := by
  by_cases hparts : IsKeyPart ns ∧ IsKeyPart name
  · rw [if_pos hparts, splitKey_eq_ok_iff.2 ⟨rfl, hparts⟩]
  · rw [if_neg hparts, splitKey_of_not_isKey fun hkey => hparts (isKey_keyFor_iff.1 hkey)]

/-! ## What goes by a key -/

/-- What goes by the key of a job is at the address of the job, if a pass can be made under the key. -/
theorem address_eq_of_isOk {job : Job} (hok : (splitKey job.key).isOk = true) (h : keyFor ns name = job.key) :
    ⟨ns, name⟩ = job.address := by
  obtain ⟨hns, hname⟩ := isKey_keyFor_iff.1 (isOk_splitKey_iff.1 hok)
  obtain ⟨rfl, rfl⟩ := keyFor_inj_of_slashless hns.2 hname.2 h.symm
  rfl

/-- An object is expected under the key of the job that controls it. -/
theorem Controller.exists_owner_of_expectationKey? {α : Type} [HasMetadata α] {kind : Controllee} {object : α}
    {k : ExpectationKey} (h : expectationKey? kind object = some k) :
    ∃ owner, controllerOf (HasMetadata.metadata object).owners = some owner ∧
      keyFor (addressOf object).ns owner.name = k.jobKey := by
  unfold expectationKey? at h
  simp only [Option.bind_eq_bind, Option.bind_eq_some_iff, Option.some.injEq] at h
  obtain ⟨owner, howner, replicaType, -, rfl⟩ := h
  exact ⟨owner, howner, rfl⟩

open Controller in
/-- **Job keys parse back, and no key that does is shared.** A text can be split just if it is a key, and then it is
made of the parts that it is split into; no pass is made under any other text. What was made of a namespace and a name
is split into these, or, if one of them is empty or has a slash, not at all. So jobs at different addresses have
different keys for their passes and retries, and for what is expected of any type and kind, unless no pass can be made
under the key; and an object is only expected under such a key of a job that controls it. -/
theorem job_keys_parse_back :
    (∀ key, (splitKey key).isOk = true ↔ IsKey key) ∧
    (∀ key ns name, splitKey key = .ok (ns, name) → keyFor ns name = key) ∧
    (∀ ns name, splitKey (keyFor ns name) =
      if IsKeyPart ns ∧ IsKeyPart name then .ok (ns, name)
      else .error (.invalidConfig ("invalid job key: " ++ keyFor ns name))) ∧
    (∀ (σ : Type) [ObjectStore σ] (key : String) (now : Timestamp) (c : Controller σ), (splitKey key).isOk = false →
      (sync now key).run c = (.error (.invalidConfig ("invalid job key: " ++ key)), c)) ∧
    (∀ a b : Job, (splitKey a.key).isOk = true → a.address ≠ b.address →
      a.key ≠ b.key ∧ ∀ t t' kind kind', ExpectationKey.of a.key t kind ≠ .of b.key t' kind') ∧
    ∀ (α : Type) [HasMetadata α] (job : Job) (kind : Controllee) (object : α) (k : ExpectationKey),
      (splitKey job.key).isOk = true → expectationKey? kind object = some k → k.jobKey = job.key →
        ∃ owner, controllerOf (HasMetadata.metadata object).owners = some owner ∧
          ⟨(addressOf object).ns, owner.name⟩ = job.address := by
  refine ⟨fun key => isOk_splitKey_iff, fun key ns name h => (splitKey_eq_ok_iff.1 h).1, splitKey_keyFor, ?_, ?_, ?_⟩
  · intro σ _ key now c hfails
    have hkey : ¬ IsKey key := fun hkey => by
      rw [isOk_splitKey_iff.2 hkey] at hfails
      exact absurd hfails (by decide)
    exact run_sync_of_unsplit (splitKey?_eq_none_iff.2 hkey) now c
  · intro a b hok hne
    -- Two addresses with one key would both be what it splits into.
    have hkeys : a.key ≠ b.key := fun heq => hne (address_eq_of_isOk hok heq.symm).symm
    exact ⟨hkeys, fun t t' kind kind' heq => hkeys (congrArg ExpectationKey.jobKey heq)⟩
  · intro α _ job kind object k hok hexpected hkey
    obtain ⟨owner, howner, hmade⟩ := exists_owner_of_expectationKey? hexpected
    exact ⟨owner, howner, address_eq_of_isOk hok (hmade.trans hkey)⟩

/-- A job of which no more is said than where it is. -/
def jobAt (ns name : String) : Job where
  metadata := { name := some name, ns := some ns, uid := some "uid-1" }
  spec := default
  status := none

/-- A worker's pod that the job controls. -/
def workerOf (job : Job) : Pod where
  metadata := {
    ns := some job.ns
    labels := some (.ofList [(Label.replicaType, "worker")])
    ownerReferences := job.ownerReference.toOption.map ([·]) }

open Controller in
/-- The wide slash in the name of the one job is no slash, so its key is no other's. The key that `c` in `a/b` has in
common with `b/c` in `a` is none under which a pass is made. -/
theorem job_keys_parse_back_wideSlash :
    let job := jobAt "équipe" "iris／2"
    let shared := (jobAt "a/b" "c").key
    (IsKey job.key ∧ splitKey job.key = .ok ("équipe", "iris／2") ∧ keyFor "équipe" "iris／2" = job.key) ∧
      job.key ≠ (jobAt "équipe" "iris").key ∧
      (∃ owner, controllerOf (workerOf job).metadata.owners = some owner ∧
        ⟨(addressOf (workerOf job)).ns, owner.name⟩ = job.address) ∧
      shared = (jobAt "a" "b/c").key ∧ ¬ IsKey shared ∧
      ((sync ⟨0⟩ shared).run (.new {} { clock := ⟨0⟩ } : Controller MemoryStore)).1 =
        .error (.invalidConfig "invalid job key: a/b/c") := by
  intro job shared
  obtain ⟨hkeys, hmade, -, hrefused, hjobs, hobjects⟩ := job_keys_parse_back
  have hok : (splitKey job.key).isOk = true := by decide +kernel
  have hsplit : splitKey job.key = .ok ("équipe", "iris／2") := splitKey_eq_ok_iff.2 ⟨rfl, by decide +kernel⟩
  have hother : job.address ≠ (jobAt "équipe" "iris").address := by decide +kernel
  have hexpected : expectationKey? .pods (workerOf job) = some (.of job.key "worker" .pods) := by decide +kernel
  have hfails : (splitKey shared).isOk = false := by decide +kernel
  refine ⟨⟨(hkeys _).1 hok, hsplit, hmade _ _ _ hsplit⟩, (hjobs _ _ hok hother).1,
    hobjects Pod job .pods _ _ hok hexpected rfl, by decide +kernel, ?_, ?_⟩
  · rw [← hkeys, hfails]
    decide
  · have hmessage : "invalid job key: " ++ shared = "invalid job key: a/b/c" := by decide +kernel
    rw [hrefused MemoryStore shared ⟨0⟩ _ hfails, hmessage]

end TrainingJobs
