/-
Which spellings of a replica type are taken for it.

A replica type may be written in any case, and filling in the defaults moves what stands under another spelling to the
name itself. It does so with one spelling only: the first in the order of the keys. So after that the other spellings
of a type are those there were, but for the first (`respelled_renamed`), and under the name itself is what stood under
that first spelling, or what stood there if there was no other (`get?_renamed`). What stood there besides is gone.
-/
import TrainingJobs.Job.Defaults
import TrainingJobs.Proofs.Names

set_option autoImplicit false

namespace TrainingJobs

/-! ## Spellings -/

namespace Text

variable {a b c : String}

/-- Two texts are the same up to case if they are the same in lower case, letter by letter. -/
theorem sameUpToAsciiCase_iff :
    sameUpToAsciiCase a b = true ↔ a.toList.map Char.toLower = b.toList.map Char.toLower := beq_iff_eq

theorem sameUpToAsciiCase_self (a : String) : sameUpToAsciiCase a a = true := sameUpToAsciiCase_iff.2 rfl

theorem sameUpToAsciiCase_symm (h : sameUpToAsciiCase a b = true) : sameUpToAsciiCase b a = true := by
  rw [sameUpToAsciiCase_iff] at h ⊢
  exact h.symm

theorem sameUpToAsciiCase_trans (h : sameUpToAsciiCase a b = true) (h' : sameUpToAsciiCase b c = true) :
    sameUpToAsciiCase a c = true := by
  rw [sameUpToAsciiCase_iff] at h h' ⊢
  exact h.trans h'

end Text

/-- No text is a spelling of both replica types. -/
theorem IsReplicaType.eq_of_same {t t' k : String} (ht : IsReplicaType t) (ht' : IsReplicaType t')
    (h : Text.sameUpToAsciiCase k t = true) (h' : Text.sameUpToAsciiCase k t' = true) : t = t' := by
  have hsame : Text.sameUpToAsciiCase t t' = true := Text.sameUpToAsciiCase_trans (Text.sameUpToAsciiCase_symm h) h'
  rcases ht with rfl | rfl <;> rcases ht' with rfl | rfl
  · rfl
  · exact absurd hsame (by decide +kernel)
  · exact absurd hsame (by decide +kernel)
  · rfl

/-- The entries under other spellings of the name `t`, in the order of their keys. -/
def respelled (t : String) (d : Dict String ReplicaSpec) : List (String × ReplicaSpec) :=
  d.entries.filter fun e => Text.sameUpToAsciiCase e.1 t && e.1 != t

variable {d d' : Dict String ReplicaSpec} {t t' k : String} {e : String × ReplicaSpec}
  {rest : List (String × ReplicaSpec)}

/-- The other spellings of a type are the keys that differ from it in case only. -/
theorem mem_respelled : e ∈ respelled t d ↔
    d.get? e.1 = some e.2 ∧ Text.sameUpToAsciiCase e.1 t = true ∧ e.1 ≠ t := by
  unfold respelled
  rw [List.mem_filter, Bool.and_eq_true, bne_iff_ne, Dict.get?_eq_some_iff]

/-- An entry that is spelled like the name stands under it or is one of the others. -/
theorem eq_or_mem_respelled (he : e ∈ d.entries) (hsame : Text.sameUpToAsciiCase e.1 t = true) :
    e.1 = t ∨ e ∈ respelled t d := by
  by_cases hname : e.1 = t
  · exact .inl hname
  · exact .inr (mem_respelled.2 ⟨Dict.get?_eq_some_iff.2 he, hsame, hname⟩)

theorem sorted_respelled (t : String) (d : Dict String ReplicaSpec) :
    (respelled t d).Pairwise fun a b => compare a.1 b.1 = .lt := d.sorted.filter _

/-- Maps that agree on the other spellings of a name have the same entries under them. -/
theorem respelled_congr
    (h : ∀ k, Text.sameUpToAsciiCase k t = true → k ≠ t → d.get? k = d'.get? k) : respelled t d = respelled t d' := by
  apply Dict.eq_of_mem_iff (sorted_respelled t d) (sorted_respelled t d')
  intro e
  rw [mem_respelled, mem_respelled]
  constructor
  · rintro ⟨hget, hsame, hne⟩
    exact ⟨(h e.1 hsame hne) ▸ hget, hsame, hne⟩
  · rintro ⟨hget, hsame, hne⟩
    exact ⟨(h e.1 hsame hne).symm ▸ hget, hsame, hne⟩

/-! ## One spelling is taken for the name -/

/-- Where there is no other spelling, nothing is renamed. -/
theorem normalizeType_of_nil (h : respelled t d = []) : normalizeType t d = d := by
  unfold normalizeType
  rw [← List.head?_filter, show d.entries.filter _ = [] from h]
  rfl

/-- The first of the other spellings takes the place of the type. -/
theorem normalizeType_of_cons (h : respelled t d = e :: rest) :
    normalizeType t d = (d.erase e.1).insert t e.2 := by
  unfold normalizeType
  rw [← List.head?_filter, show d.entries.filter _ = e :: rest from h]
  rfl

/-- Under the name is then what stood under the first of its other spellings. -/
theorem get?_normalizeType_self (t : String) (d : Dict String ReplicaSpec) :
    (normalizeType t d).get? t = ((respelled t d).head?.map (·.2)).or (d.get? t) := by
  rcases hspellings : respelled t d with _ | ⟨e, rest⟩
  · rw [normalizeType_of_nil hspellings]
    rfl
  · rw [normalizeType_of_cons hspellings, Dict.get?_insert_self]
    rfl

/-- Under any other key is what was there, but for the spelling that was taken. -/
theorem get?_normalizeType_of_cons (h : respelled t d = e :: rest) (hk : k ≠ t) :
    (normalizeType t d).get? k = if k = e.1 then none else d.get? k := by
  rw [normalizeType_of_cons h, Dict.get?_insert_ne _ _ hk, Dict.get?_erase]
  simp only [Std.LawfulEqCmp.compare_eq_iff_eq]

/-- What is no spelling of the name is left alone. -/
theorem get?_normalizeType_of_unlike (h : Text.sameUpToAsciiCase k t ≠ true) :
    (normalizeType t d).get? k = d.get? k := by
  have hne : k ≠ t := by
    rintro rfl
    exact h (Text.sameUpToAsciiCase_self k)
  rcases hspellings : respelled t d with _ | ⟨e, rest⟩
  · rw [normalizeType_of_nil hspellings]
  · rw [get?_normalizeType_of_cons hspellings hne, if_neg]
    rintro rfl
    exact h (mem_respelled.1 (hspellings ▸ List.mem_cons_self)).2.1

/-- The other spellings are then those that were there, but for the first. -/
theorem respelled_normalizeType (t : String) (d : Dict String ReplicaSpec) :
    respelled t (normalizeType t d) = (respelled t d).tail := by
  have hsorted := sorted_respelled t d
  rcases hspellings : respelled t d with _ | ⟨e, rest⟩
  · rw [normalizeType_of_nil hspellings, hspellings]
    rfl
  · rw [hspellings] at hsorted
    obtain ⟨hfirst, hrest⟩ := List.pairwise_cons.1 hsorted
    rw [List.tail_cons]
    -- Both lists are sorted by key, so having the same members makes them equal.
    apply Dict.eq_of_mem_iff (sorted_respelled t _) hrest
    intro x
    rw [mem_respelled]
    constructor
    · rintro ⟨hget, hsame, hne⟩
      rw [get?_normalizeType_of_cons hspellings hne] at hget
      split at hget
      · exact absurd hget (by simp)
      · next hother =>
        have hmem : x ∈ e :: rest := hspellings ▸ mem_respelled.2 ⟨hget, hsame, hne⟩
        obtain rfl | hmem := List.mem_cons.1 hmem
        · exact absurd rfl hother
        · exact hmem
    · intro hx
      obtain ⟨hget, hsame, hne⟩ := mem_respelled.1 (hspellings ▸ List.mem_cons_of_mem e hx)
      have hother : x.1 ≠ e.1 := by
        intro heq
        have hlt : compare e.1 x.1 = .lt := hfirst x hx
        rw [heq, Std.ReflOrd.compare_self] at hlt
        exact absurd hlt (by decide)
      refine ⟨?_, hsame, hne⟩
      rw [get?_normalizeType_of_cons hspellings hne, if_neg hother]
      exact hget

/-- The spellings of another name are left alone. -/
theorem respelled_normalizeType_of_unlike (h : Text.sameUpToAsciiCase t t' ≠ true) :
    respelled t (normalizeType t' d) = respelled t d := by
  apply respelled_congr
  intro k hsame _
  apply get?_normalizeType_of_unlike
  intro hlike
  exact h (Text.sameUpToAsciiCase_trans (Text.sameUpToAsciiCase_symm hsame) hlike)

/-! ## Both replica types -/

/-- The replica types with one other spelling of each name taken for it. -/
def renamed (d : Dict String ReplicaSpec) : Dict String ReplicaSpec :=
  normalizeType masterType (normalizeType workerType d)

/-- The two types are not spelled alike, so renaming one leaves the spellings of the other alone. -/
theorem worker_unlike_master : Text.sameUpToAsciiCase workerType masterType ≠ true := by decide +kernel

theorem master_unlike_worker : Text.sameUpToAsciiCase masterType workerType ≠ true := by decide +kernel

/-- After a renaming there is one other spelling less. -/
theorem respelled_renamed (ht : IsReplicaType t) (d : Dict String ReplicaSpec) :
    respelled t (renamed d) = (respelled t d).tail := by
  unfold renamed
  rcases ht with rfl | rfl
  · rw [respelled_normalizeType, respelled_normalizeType_of_unlike master_unlike_worker]
  · rw [respelled_normalizeType_of_unlike worker_unlike_master, respelled_normalizeType]

/-- And what stands under the type is what stood under the first of them, or what stood there if there was none. -/
theorem get?_renamed (ht : IsReplicaType t) (d : Dict String ReplicaSpec) :
    (renamed d).get? t = ((respelled t d).head?.map (·.2)).or (d.get? t) := by
  unfold renamed
  rcases ht with rfl | rfl
  · rw [get?_normalizeType_self, respelled_normalizeType_of_unlike master_unlike_worker,
      get?_normalizeType_of_unlike master_unlike_worker]
  · rw [get?_normalizeType_of_unlike worker_unlike_master, get?_normalizeType_self]

/-- So what stands there then was under some spelling of the name. -/
theorem exists_spelling_of_get?_renamed (ht : IsReplicaType t) {spec : ReplicaSpec}
    (h : (renamed d).get? t = some spec) :
    ∃ k, (k, spec) ∈ d.entries ∧ Text.sameUpToAsciiCase k t = true := by
  rw [get?_renamed ht] at h
  rcases hspellings : respelled t d with _ | ⟨other, rest⟩
  · rw [hspellings, List.head?_nil, Option.map_none, Option.none_or] at h
    exact ⟨t, Dict.get?_eq_some_iff.1 h, Text.sameUpToAsciiCase_self t⟩
  · rw [hspellings, List.head?_cons, Option.map_some, Option.some_or, Option.some.injEq] at h
    subst h
    obtain ⟨hget, hlike, -⟩ := mem_respelled.1 (hspellings ▸ List.mem_cons_self)
    exact ⟨other.1, Dict.get?_eq_some_iff.1 hget, hlike⟩

/-- What is no spelling of a replica type stays under its key. -/
theorem get?_renamed_of_unlike (h : ∀ t, IsReplicaType t → Text.sameUpToAsciiCase k t ≠ true) :
    (renamed d).get? k = d.get? k := by
  unfold renamed
  rw [get?_normalizeType_of_unlike (h masterType (.inl rfl)), get?_normalizeType_of_unlike (h workerType (.inr rfl))]

/-- Where no name is spelled otherwise, nothing is renamed. -/
theorem renamed_of_nil (h : ∀ t, IsReplicaType t → respelled t d = []) : renamed d = d := by
  unfold renamed
  rw [normalizeType_of_nil (h workerType (.inr rfl)), normalizeType_of_nil (h masterType (.inl rfl))]

/-! ## Renaming and filling in -/

/-- How keys are spelled does not depend on what stands under them. -/
theorem respelled_mapValues (f : ReplicaSpec → ReplicaSpec) (t : String) (d : Dict String ReplicaSpec) :
    respelled t (d.mapValues f) = (respelled t d).map fun e => (e.1, f e.2) := by
  unfold respelled Dict.mapValues
  rw [List.filter_map]
  rfl

/-- It does not matter whether a replica type is renamed before or after something is done to all of them. -/
theorem normalizeType_mapValues (f : ReplicaSpec → ReplicaSpec) (t : String) (d : Dict String ReplicaSpec) :
    normalizeType t (d.mapValues f) = (normalizeType t d).mapValues f := by
  rcases hspellings : respelled t d with _ | ⟨e, rest⟩
  · rw [normalizeType_of_nil hspellings, normalizeType_of_nil]
    rw [respelled_mapValues, hspellings, List.map_nil]
  · have hmapped : respelled t (d.mapValues f) = (e.1, f e.2) :: rest.map fun e => (e.1, f e.2) := by
      rw [respelled_mapValues, hspellings, List.map_cons]
    apply Dict.ext_get?
    intro k
    rw [Dict.get?_mapValues]
    -- The canonical key, then the key that lost its entry to it, then the rest.
    by_cases hk : k = t
    · subst hk
      rw [get?_normalizeType_self, get?_normalizeType_self, hmapped, hspellings]
      rfl
    · rw [get?_normalizeType_of_cons hmapped hk, get?_normalizeType_of_cons hspellings hk]
      split
      · rfl
      · rw [Dict.get?_mapValues]

/-- So renaming and filling in can be done in either order. -/
theorem renamed_mapValues (f : ReplicaSpec → ReplicaSpec) (d : Dict String ReplicaSpec) :
    renamed (d.mapValues f) = (renamed d).mapValues f := by
  unfold renamed
  rw [normalizeType_mapValues, normalizeType_mapValues]

end TrainingJobs
