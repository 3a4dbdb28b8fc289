/-
What is found in objects.

Of the members of an object those of one name are looked at, of which the last is taken, and a reader asks for names
in different ways. All of this is simple where no name stands twice, and that is so in all that is written: in an
object with fields, which has the fields that have a value, and in a map, which has its keys as names.
-/
import Mathlib.Data.List.Nodup
import TrainingJobs.Json.Field

set_option autoImplicit false

namespace TrainingJobs.Json

def isNull : Json → Bool
  | null => true
  | _ => false

/-! ## Members -/

section Members

variable {name other : String} {value : Json} {members : List (String × Json)}

/-- Of several members of one name the last is found. -/
theorem get?_obj (members : List (String × Json)) (name : String) :
    (obj members).get? name = (members.reverse.find? fun m => m.1 == name).map (·.2) := rfl

/-- A member that is added at the end is found before all others of its name. -/
theorem get?_append_singleton : (obj (members ++ [(name, value)])).get? other =
    if other = name then some value else (obj members).get? other := by
  rw [get?_obj, get?_obj, List.reverse_append, List.reverse_singleton, List.singleton_append, List.find?_cons]
  by_cases h : other = name
  · simp [h]
  · rw [if_neg h, beq_eq_false_iff_ne.2 (Ne.symm h)]

/-- Nothing is found under a name that no member has. -/
theorem get?_eq_none (h : name ∉ members.map Prod.fst) : (obj members).get? name = none := by
  rw [get?_obj, Option.map_eq_none_iff, List.find?_eq_none]
  intro m hm hname
  exact h (List.mem_map.2 ⟨m, List.mem_reverse.1 hm, beq_iff_eq.1 hname⟩)

/-- A member in front is found if none of its name comes after it. -/
theorem get?_cons_of_notMem (h : name ∉ members.map Prod.fst) : (obj ((name, value) :: members)).get? other =
    if other = name then some value else (obj members).get? other := by
  rw [get?_obj, List.reverse_cons, List.find?_append]
  by_cases hother : other = name
  · subst hother
    have hnone := get?_eq_none h
    rw [get?_obj, Option.map_eq_none_iff] at hnone
    simp [hnone]
  · rw [if_neg hother, get?_obj, List.find?_singleton, if_neg (by simpa using Ne.symm hother), Option.or_none]

/-- Where names do not repeat, every member is found under its name. -/
theorem get?_of_mem (hdistinct : (members.map Prod.fst).Nodup) (h : (name, value) ∈ members) :
    (obj members).get? name = some value := by
  induction members with
  | nil => exact absurd h List.not_mem_nil
  | cons m rest ih =>
    obtain ⟨first, v⟩ := m
    obtain ⟨hname, hrest⟩ := List.nodup_cons.1 hdistinct
    rw [get?_cons_of_notMem hname]
    -- A later member of the name wins, so the first counts only as none follows.
    rcases List.mem_cons.1 h with heq | h
    · obtain ⟨rfl, rfl⟩ := Prod.mk.inj heq
      rw [if_pos rfl]
    · rw [if_neg fun heq => hname (List.mem_map.2 ⟨_, h, heq⟩)]
      exact ih hrest h

/-- Where names do not repeat, a member is alone under its name. -/
theorem filter_of_mem (hdistinct : (members.map Prod.fst).Nodup) (h : (name, value) ∈ members) :
    (members.filter fun m => m.1 == name) = [(name, value)] := by
  induction members with
  | nil => exact absurd h List.not_mem_nil
  | cons m rest ih =>
    obtain ⟨hname, hrest⟩ := List.nodup_cons.1 hdistinct
    -- Distinct names: the member is the head and no other, or it is in the tail.
    rcases List.mem_cons.1 h with rfl | h
    · have hothers : (rest.filter fun m => m.1 == name) = [] :=
        List.filter_eq_nil_iff.2 fun m hm heq => hname (List.mem_map.2 ⟨m, hm, beq_iff_eq.1 heq⟩)
      rw [List.filter_cons, if_pos (beq_self_eq_true name), hothers]
    · have hne : ¬ (m.1 == name) = true := fun heq => hname (List.mem_map.2 ⟨_, h, (beq_iff_eq.1 heq).symm⟩)
      rw [List.filter_cons, if_neg hne]
      exact ih hrest h

/-- Where no name stands twice, to read all that stands under a name is to read what is found there. -/
theorem lastOf_eq {α : Type} (hdistinct : (members.map Prod.fst).Nodup) (name : String) (decode : Decoder α) :
    lastOf members name decode =
      match (obj members).get? name with
      | none => some none
      | some value => (decode value).map some := by
  unfold lastOf
  by_cases h : name ∈ members.map Prod.fst
  · obtain ⟨⟨name, value⟩, hm, rfl⟩ := List.mem_map.1 h
    rw [get?_of_mem hdistinct hm, filter_of_mem hdistinct hm]
    cases hvalue : decode value <;> simp [hvalue]
  · have hnone : (members.filter fun m => m.1 == name) = [] :=
      List.filter_eq_nil_iff.2 fun m hm heq => h (List.mem_map.2 ⟨m, hm, beq_iff_eq.1 heq⟩)
    rw [get?_eq_none h, hnone]
    rfl

/-- Names that do not repeat at all do not repeat among the known ones. -/
theorem namesOnce_of_nodup (hdistinct : (members.map Prod.fst).Nodup) (known : List String) :
    namesOnce known members = true := by
  refine List.all_eq_true.2 fun name _ => decide_eq_true ?_
  have hcount := List.nodup_iff_count_le_one.1 hdistinct name
  rwa [List.count_eq_countP, List.countP_map, List.countP_eq_length_filter] at hcount

end Members

/-! ## Objects with fields -/

/-- The fields that have a value. -/
def present (fields : List (String × Option Json)) : List (String × Json) :=
  fields.filterMap fun f => f.2.map fun v => (f.1, v)

section Fields

variable {fields : List (String × Option Json)} {name : String}

/-- The members that are written are the fields with a value. -/
theorem mem_present {m : String × Json} : m ∈ present fields ↔ (m.1, some m.2) ∈ fields := by
  unfold present
  rw [List.mem_filterMap]
  constructor
  · rintro ⟨⟨name, value⟩, hf, hm⟩
    obtain ⟨v, rfl, rfl⟩ := Option.map_eq_some_iff.1 hm
    exact hf
  · exact fun hf => ⟨_, hf, rfl⟩

variable (hdistinct : (fields.map Prod.fst).Nodup)
include hdistinct

/-- Fields whose names do not repeat are written as members whose names do not repeat. -/
theorem nodup_present : ((present fields).map Prod.fst).Nodup := by
  refine hdistinct.sublist ?_
  clear hdistinct
  unfold present
  induction fields with
  | nil => exact .slnil
  | cons f rest ih =>
    obtain ⟨name, _ | value⟩ := f
    · exact ih.cons _
    · exact ih.cons_cons _

/-- So every field is found as it was written, or not at all if it had no value. -/
theorem get?_ofFields {value : Option Json} (hf : (name, value) ∈ fields) : (ofFields fields).get? name = value := by
  cases value with
  | some value => exact get?_of_mem (nodup_present hdistinct) (mem_present.2 hf)
  | none =>
    -- A field of that name with a value would be another one.
    refine get?_eq_none fun hmem => ?_
    obtain ⟨m, hm, rfl⟩ := List.mem_map.1 hmem
    have hsame := List.inj_on_of_nodup_map hdistinct (mem_present.1 hm) hf rfl
    exact absurd hsame (by simp)

/-- An object of the operator's own kinds is read by its fields. -/
theorem ownMembers?_ofFields (known : List String) (least : Nat) :
    (ofFields fields).ownMembers? known least = some (present fields) :=
  Option.filter_eq_some_iff.2 ⟨rfl, namesOnce_of_nodup (nodup_present hdistinct) known⟩

/-- So is one that takes in fields of another object, if those can be read. -/
theorem mixedMembers?_ofFields {own takenIn : List String}
    (hreadable : ∀ f ∈ fields, own.contains f.1 = false → ∀ value, f.2 = some value → value.readable = true) :
    (ofFields fields).mixedMembers? own takenIn = some (present fields) := by
  refine Option.filter_eq_some_iff.2 ⟨ownMembers?_ofFields hdistinct (own ++ takenIn) 0, ?_⟩
  refine List.all_eq_true.2 fun m hm => ?_
  by_cases hown : own.contains m.1 = true
  · exact Bool.or_eq_true_iff.2 (.inl hown)
  · exact Bool.or_eq_true_iff.2 (.inr (hreadable _ (mem_present.1 hm) (Bool.not_eq_true _ ▸ hown) m.2 rfl))

end Fields

/-! ## Maps -/

section Maps

variable {α : Type} (encode : α → Json) (d : Dict String α)

/-- A map is written with its keys as names. -/
theorem names_ofDict : (d.entries.map fun e => (e.1, encode e.2)).map Prod.fst = d.keys := by
  rw [List.map_map]
  rfl

/-- Under each of its keys a map that is written has the value it had. -/
theorem get?_ofDict (key : String) : (ofDict encode d).get? key = (d.get? key).map encode := by
  rcases hvalue : d.get? key with _ | value
  · refine get?_eq_none fun hmem => ?_
    rw [names_ofDict] at hmem
    obtain ⟨e, he, rfl⟩ := List.mem_map.1 hmem
    rw [Dict.get?_eq_some_iff.2 he] at hvalue
    exact absurd hvalue (by simp)
  · refine get?_of_mem ?_ (List.mem_map.2 ⟨_, Dict.get?_eq_some_iff.1 hvalue, rfl⟩)
    rw [names_ofDict]
    exact d.nodup_keys

end Maps

end TrainingJobs.Json
