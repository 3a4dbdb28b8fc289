/-
Changes that are merged into a value.

A cluster is not given the status of a job to put it in the place of the old one. It is given a change, and merges
it: a member of the change takes the place of the member of that name, object into object, a member that is null
takes it away, and a member that the change does not name stays (`Json.merge`, `get?_merge`). So a status is
replaced by merging only if it names all that the old one named. `merge_encode` says when it does: it has counts
for every replica type that had some, and no time that was known has been forgotten.
-/
import Mathlib.Data.List.Forall2
import TrainingJobs.Api.Store
import TrainingJobs.Proofs.Members

set_option autoImplicit false

namespace TrainingJobs

namespace Json

/-! ## Merging -/

/-- The members of other names. -/
def eraseMember (name : String) (members : List (String × Json)) : List (String × Json) :=
  members.filter fun m => m.1 != name

mutual

/-- Merges a change into a value. What is no object is replaced. -/
def merge : Json → Json → Json
  | target, obj change => obj (mergeMembers (target.members?.getD []) change)
  | _, value => value

/-- Merges the members of a change into those of an object, one after the other. -/
def mergeMembers : List (String × Json) → List (String × Json) → List (String × Json)
  | members, [] => members
  | members, (name, value) :: rest =>
    mergeMembers
      (if value.isNull then eraseMember name members
      else eraseMember name members ++ [(name, merge (((obj members).get? name).getD null) value)]) rest

end

section Members

variable {name other : String} {value : Json} {members change : List (String × Json)}

/-- A member that is taken away is gone, however often it was there. -/
theorem get?_eraseMember_self : (obj (eraseMember name members)).get? name = none := by
  refine get?_eq_none fun hmem => ?_
  obtain ⟨m, hm, hname⟩ := List.mem_map.1 hmem
  have hne := (List.mem_filter.1 hm).2
  rw [hname] at hne
  simp at hne

/-- The others stay. -/
theorem get?_eraseMember_of_ne (h : other ≠ name) :
    (obj (eraseMember name members)).get? other = (obj members).get? other := by
  rw [get?_obj, get?_obj, eraseMember, ← List.filter_reverse, List.find?_filter]
  refine congrArg (Option.map _) (congrArg (List.find? · members.reverse) (funext fun m => ?_))
  by_cases hm : m.1 = other
  · simp [hm, h]
  · simp [hm]

/-- One member of a change takes the place of the member of its name, or takes it away, and leaves all others. -/
theorem get?_mergeMember (new : Json) : (obj (if value.isNull then eraseMember name members
      else eraseMember name members ++ [(name, new)])).get? other =
    if other = name then (if value.isNull then none else some new) else (obj members).get? other := by
  by_cases hother : other = name
  · subst hother
    rw [if_pos rfl]
    split
    · exact get?_eraseMember_self
    · rw [get?_append_singleton, if_pos rfl]
  · rw [if_neg hother]
    split
    · exact get?_eraseMember_of_ne hother
    · rw [get?_append_singleton, if_neg hother]
      exact get?_eraseMember_of_ne hother

/-- **What merging members does to each of them**: one that is not mentioned stays, one that is mentioned with `null`
goes, and any other is merged in turn. The induction is on the change. -/
theorem get?_mergeMembers (hdistinct : (change.map Prod.fst).Nodup) (members : List (String × Json))
    (other : String) : (obj (mergeMembers members change)).get? other =
      match (obj change).get? other with
      | none => (obj members).get? other
      | some value => if value.isNull then none else some (merge (((obj members).get? other).getD null) value) := by
  induction change generalizing members with
  | nil =>
    rw [mergeMembers]
    rfl
  | cons m rest ih =>
    obtain ⟨name, value⟩ := m
    obtain ⟨hname, hrest⟩ := List.nodup_cons.1 hdistinct
    rw [mergeMembers, ih hrest, get?_mergeMember, get?_cons_of_notMem hname]
    by_cases hother : other = name
    · -- No later member has the name.
      subst hother
      rw [if_pos rfl, if_pos rfl, get?_eq_none hname]
    · rw [if_neg hother, if_neg hother]

/-- **What is found after a merge.** Under a name that the change does not have there is what there was; under the
others there is nothing where the change is null, and else what was there with the change merged into it. -/
theorem get?_merge (hdistinct : (change.map Prod.fst).Nodup) (target : Json) (name : String) :
    (target.merge (obj change)).get? name =
      match (obj change).get? name with
      | none => target.get? name
      | some value => if value.isNull then none else some (((target.get? name).getD null).merge value) := by
  have htarget : (obj (target.members?.getD [])).get? name = target.get? name := by cases target <;> rfl
  rw [merge, get?_mergeMembers hdistinct, htarget]

/-- What is no object takes the place of anything. -/
theorem merge_of_members? (h : value.members? = none) (target : Json) : target.merge value = value := by
  cases value with
  | obj => exact absurd h (by simp [members?])
  | _ => rw [merge]; simp

/-- Where each member of a change comes out as it is, and no name is left out, the change is what comes out. -/
theorem mergeMembers_eq_self (hdistinct : (change.map Prod.fst).Nodup)
    (hnull : ∀ m ∈ change, m.2.isNull = false)
    (hvalue : ∀ m ∈ change, merge (((obj members).get? m.1).getD null) m.2 = m.2) :
    mergeMembers members change = (members.filter fun m => !(change.map Prod.fst).contains m.1) ++ change := by
  -- Over the change; the members it has replaced so far gather behind the ones it keeps.
  induction change generalizing members with
  | nil =>
    rw [mergeMembers, List.append_nil]
    exact (List.filter_eq_self.2 fun _ _ => rfl).symm
  | cons m rest ih =>
    obtain ⟨name, value⟩ := m
    obtain ⟨hname, hrest⟩ := List.nodup_cons.1 hdistinct
    obtain ⟨hnull, hnulls⟩ := List.forall_mem_cons.1 hnull
    obtain ⟨hvalue, hvalues⟩ := List.forall_mem_cons.1 hvalue
    rw [mergeMembers, hvalue, if_neg (by simp [hnull]), ih hrest hnulls]
    · have hkept : [(name, value)].filter (fun m => !(rest.map Prod.fst).contains m.1) = [(name, value)] :=
        List.filter_eq_self.2 (by simpa using hname)
      rw [List.filter_append, hkept, List.append_assoc, List.singleton_append, eraseMember, List.filter_filter]
      refine congrArg (· ++ (name, value) :: rest) (List.filter_congr fun m _ => ?_)
      rw [List.map_cons, List.contains_cons, Bool.not_or, Bool.and_comm]
      rfl
    · intro m hm
      have hne : m.1 ≠ name := fun heq => hname (List.mem_map.2 ⟨m, hm, heq⟩)
      rw [get?_append_singleton, if_neg hne, get?_eraseMember_of_ne hne]
      exact hvalues m hm

/-- A change that names whatever the object has takes its place. -/
theorem merge_eq_self (hdistinct : (change.map Prod.fst).Nodup) {target : Json}
    (hnull : ∀ m ∈ change, m.2.isNull = false)
    (hvalue : ∀ m ∈ change, merge ((target.get? m.1).getD null) m.2 = m.2)
    (hnames : ∀ m ∈ target.members?.getD [], m.1 ∈ change.map Prod.fst) :
    target.merge (obj change) = obj change := by
  have htarget : ∀ name, (obj (target.members?.getD [])).get? name = target.get? name := by
    intro name
    cases target <;> rfl
  rw [merge, mergeMembers_eq_self hdistinct hnull fun m hm => by rw [htarget]; exact hvalue m hm]
  have hnone : (target.members?.getD []).filter (fun m => !(change.map Prod.fst).contains m.1) = [] := by
    rw [List.filter_eq_nil_iff]
    intro m hm
    simpa using hnames m hm
  rw [hnone, List.nil_append]

end Members

/-! ## Objects with fields, and maps -/

section Fields

variable {fields old new : List (String × Option Json)}

/-- Merged into what there was under a name, this comes out as it is; and where there is none, there was none. -/
def Supplants (old new : Option Json) : Prop :=
  match new with
  | none => old = none
  | some value => value.isNull = false ∧ merge (old.getD null) value = value

/-- What is no object supplants anything, unless it is null. -/
theorem supplants_of_members? {value : Json} (hmembers : value.members? = none) (hnull : value.isNull = false)
    (old : Option Json) : Supplants old (some value) := ⟨hnull, merge_of_members? hmembers _⟩

/-- An object takes the place of one with the same fields, if each of its fields does. -/
theorem merge_ofFields (hdistinct : (new.map Prod.fst).Nodup)
    (h : List.Forall₂ (fun f g => f.1 = g.1 ∧ Supplants f.2 g.2) old new) :
    (ofFields old).merge (ofFields new) = ofFields new := by
  have hnames : old.map Prod.fst = new.map Prod.fst := by
    rw [← List.forall₂_eq_eq_eq, List.forall₂_map_left_iff, List.forall₂_map_right_iff]
    exact h.imp fun _ _ h => h.1
  have hold : (old.map Prod.fst).Nodup := hnames ▸ hdistinct
  have hsupplants : ∀ g ∈ new, Supplants ((ofFields old).get? g.1) g.2 := by
    intro g hg
    obtain ⟨i, hi, rfl⟩ := List.mem_iff_getElem.1 hg
    have hi' : i < old.length := h.length_eq ▸ hi
    obtain ⟨hname, hsupplants⟩ : old[i].1 = new[i].1 ∧ Supplants old[i].2 new[i].2 := h.get hi' hi
    have hfound : (ofFields old).get? old[i].1 = old[i].2 := get?_ofFields hold (List.getElem_mem hi')
    rw [← hname, hfound]
    exact hsupplants
  refine merge_eq_self (nodup_present hdistinct) (fun m hm => ?_) (fun m hm => ?_) fun m hm => ?_
  · exact (hsupplants _ (mem_present.1 hm)).1
  · exact (hsupplants _ (mem_present.1 hm)).2
  · -- A field that the old object has, the new one has too.
    have hf := mem_present.1 hm
    obtain ⟨g, hg, hname⟩ := List.mem_map.1 (hnames ▸ List.mem_map_of_mem (f := Prod.fst) hf)
    have hsame := hsupplants g hg
    rw [hname, get?_ofFields hold hf] at hsame
    obtain ⟨name, _ | value⟩ := g
    · exact absurd hsame (by simp [Supplants])
    · exact List.mem_map.2 ⟨(name, value), mem_present.2 hg, hname⟩

/-- A map takes the place of one with no other keys, if each of its values does. -/
theorem merge_ofDict {α : Type} {encode : α → Json} (old : Option (Dict String α)) {new : Dict String α}
    (hkeys : ∀ d key, old = some d → (d.get? key).isSome = true → (new.get? key).isSome = true)
    (hvalue : ∀ (a : Option α) (b : α), Supplants (a.map encode) (some (encode b))) :
    Supplants (old.map (ofDict encode)) (some (ofDict encode new)) := by
  -- An absent dictionary reads like an empty one.
  have hfound : ∀ key, ((old.map (ofDict encode)).getD null).get? key = ((old.bind (·.get? key)).map encode) := by
    intro key
    cases old with
    | none => rfl
    | some d => exact get?_ofDict encode d key
  refine ⟨rfl, merge_eq_self ?_ ?_ ?_ ?_⟩
  · rw [names_ofDict]
    exact new.nodup_keys
  · intro m hm
    obtain ⟨e, -, rfl⟩ := List.mem_map.1 hm
    exact (hvalue none e.2).1
  · intro m hm
    obtain ⟨e, -, rfl⟩ := List.mem_map.1 hm
    rw [hfound]
    exact (hvalue _ e.2).2
  · intro m hm
    cases old with
    | none => exact absurd hm List.not_mem_nil
    | some d =>
      obtain ⟨e, he, rfl⟩ := List.mem_map.1 hm
      have hkey := hkeys d e.1 rfl (by rw [Dict.get?_eq_some_iff.2 he]; rfl)
      obtain ⟨value, hvalue⟩ := Option.isSome_iff_exists.1 hkey
      rw [names_ofDict]
      exact List.mem_map.2 ⟨_, Dict.get?_eq_some_iff.1 hvalue, rfl⟩

end Fields

end Json

/-! ## Statuses -/

/-- The counts of a replica type take the place of any that were there. -/
theorem ReplicaCounts.supplants (old : Option ReplicaCounts) (new : ReplicaCounts) :
    Json.Supplants (old.map encode) (some new.encode) := by
  have hint : ∀ o i, Json.Supplants o (some (.ofInt32 i)) := fun o i => Json.supplants_of_members? rfl rfl o
  -- The three names of an old record are those of the new one, so nothing of it stays.
  have hmerge : ∀ active succeeded failed : Option Json,
      (Json.ofFields [("active", active), ("succeeded", succeeded), ("failed", failed)]).merge new.encode =
        new.encode := by
    intro active succeeded failed
    have hnew : new.encode = .ofFields [("active", some (.ofInt32 new.active)),
        ("succeeded", some (.ofInt32 new.succeeded)), ("failed", some (.ofInt32 new.failed))] := rfl
    rw [hnew]
    exact Json.merge_ofFields (by simp) (.cons ⟨rfl, hint _ _⟩ (.cons ⟨rfl, hint _ _⟩ (.cons ⟨rfl, hint _ _⟩ .nil)))
  refine ⟨rfl, ?_⟩
  cases old with
  | none => exact hmerge none none none
  | some old => exact hmerge (some (.ofInt32 old.active)) (some (.ofInt32 old.succeeded)) (some (.ofInt32 old.failed))

namespace JobStatus

/-- The status has not forgotten what an earlier one knew: it has counts for all replica types that had some, and
no time is lost. Nor have the times of the start and of the verdict changed. -/
structure ContinuedBy (old new : JobStatus) : Prop where
  counted : ∀ replicaType, (old.replicaStatuses.get? replicaType).isSome = true →
    (new.replicaStatuses.get? replicaType).isSome = true
  started : ∀ time, old.startTime = some time → new.startTime = some time
  completed : ∀ time, old.completionTime = some time → new.completionTime = some time
  reconciled : old.lastReconcileTime.isSome = true → new.lastReconcileTime.isSome = true

/-- A time that was not forgotten is written over by the one that is known now. -/
theorem supplants_ofTime (old : Option Timestamp) {new : Option Timestamp} (h : old.isSome = true → new.isSome = true) :
    Json.Supplants (old.map .ofTime) (new.map .ofTime) := by
  cases new with
  | some time => exact Json.supplants_of_members? rfl rfl _
  | none =>
    cases old with
    | none => rfl
    | some time => exact absurd (h rfl) (by simp)

/-- **Merging a status that continues the old one replaces it**, also where none was known. -/
theorem merge_encode {old : Option JobStatus} {new : JobStatus} (h : (old.getD {}).ContinuedBy new) :
    ((old.map encode).getD .null).merge new.encode = new.encode := by
  -- The five members in their order; which of them the old status had makes no difference.
  have hmerge : ∀ conditions counts start completion reconcile : Option Json,
      Json.Supplants counts (some (.ofDict ReplicaCounts.encode new.replicaStatuses)) →
      Json.Supplants start (new.startTime.map .ofTime) → Json.Supplants completion (new.completionTime.map .ofTime) →
      Json.Supplants reconcile (new.lastReconcileTime.map .ofTime) →
      (Json.ofFields [("conditions", conditions), ("replicaStatuses", counts), ("startTime", start),
        ("completionTime", completion), ("lastReconcileTime", reconcile)]).merge new.encode = new.encode := by
    intro conditions counts start completion reconcile hcounts hstart hcompletion hreconcile
    exact Json.merge_ofFields (by simp) (.cons ⟨rfl, Json.supplants_of_members? rfl rfl _⟩
      (.cons ⟨rfl, hcounts⟩ (.cons ⟨rfl, hstart⟩ (.cons ⟨rfl, hcompletion⟩ (.cons ⟨rfl, hreconcile⟩ .nil)))))
  have hknown : ∀ {a b : Option Timestamp}, (∀ time, a = some time → b = some time) →
      a.isSome = true → b.isSome = true := by
    intro a b hsame ha
    obtain ⟨time, rfl⟩ := Option.isSome_iff_exists.1 ha
    rw [hsame time rfl]
    rfl
  cases old with
  | none =>
    exact hmerge none none none none none
      (Json.merge_ofDict none (fun _ _ hd => nomatch hd) ReplicaCounts.supplants) (supplants_ofTime none nofun)
      (supplants_ofTime none nofun) (supplants_ofTime none nofun)
  | some old =>
    exact hmerge _ _ _ _ _
      (Json.merge_ofDict (some old.replicaStatuses)
        (fun d key hd hkey => h.counted key (Option.some.inj hd ▸ hkey)) ReplicaCounts.supplants)
      (supplants_ofTime _ (hknown h.started)) (supplants_ofTime _ (hknown h.completed))
      (supplants_ofTime _ h.reconciled)

end JobStatus

/-- What is merged into a job to change its status has the status replaced, if that one continues the old one, and
leaves all else as it is. -/
theorem get?_merge_statusPatch {document : Json} {old : Option JobStatus} {status : JobStatus}
    (hdocument : document.get? "status" = old.map JobStatus.encode) (h : (old.getD {}).ContinuedBy status)
    (name : String) : (document.merge (Call.statusPatch status)).get? name =
      if name = "status" then some status.encode else document.get? name := by
  unfold Call.statusPatch
  rw [Json.get?_merge (by simp), Json.get?_cons_of_notMem List.not_mem_nil]
  by_cases hname : name = "status"
  · subst hname
    rw [if_pos rfl, if_pos rfl, hdocument]
    exact congrArg some (JobStatus.merge_encode h)
  · rw [if_neg hname, if_neg hname]
    rfl

/-- The change of a status is sent to be merged. -/
theorem sent_updateJobStatus {job : Job} {status : JobStatus} {call : Call Unit}
    (h : Call.updateJobStatus job status = .ok call) : call.request.method = .patch ∧
      call.request.contentType = some Request.mergePatchType ∧ call.request.body = some (Call.statusPatch status) := by
  unfold Call.updateJobStatus Call.of at h
  rcases hrequest : Request.merge .jobs job.address "/status" (Call.statusPatch status) with e | request
  · rw [hrequest] at h
    nomatch h
  · rw [hrequest] at h
    obtain rfl := Except.ok.inj h
    unfold Request.merge Request.make at hrequest
    -- The ways a request fails to be made are dismissed one by one.
    split at hrequest
    · nomatch hrequest
    · split at hrequest
      · nomatch hrequest
      · split at hrequest
        · obtain rfl := Except.ok.inj hrequest
          exact ⟨rfl, rfl, rfl⟩
        · nomatch hrequest

end TrainingJobs
