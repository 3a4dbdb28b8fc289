/-
What the lookout reports of an object, and when that is right.

Of every object the reports should take turns, beginning with its appearance if it was not in the copy, and as
long as no list is under way the last of them should say whether it is there (`ToldRight`). The lookout goes by its
copy, which a list changes only when it is done. **What a list brings that is broken off** was reported and does not
come into the copy: it is reported again if the next list brings it too, and stays reported if that one does not
(`Account.ListMisleads`). Where all objects say a namespace, the reports are right unless that happens.

Apart from that there are objects without a namespace. Where the copy has nothing under the namespace of an object, it
is looked up by its name alone, and an object that has such a namesake is taken for it (`Account.NamesakeMisleads`).
`reports_right_iff` says that there is no third way, for every history that a watcher can tell.
-/
import TrainingJobs.Proofs.Arrangement
import TrainingJobs.Watch.Lookout

set_option autoImplicit false

namespace TrainingJobs

variable {α : Type} [HasMetadata α]

/-! ## What a watcher tells -/

/-- The lists that were begun since the last one that was done. -/
structure Relisting where
  /-- What the list under way has brought. -/
  brought : List Designation := []
  /-- What those before it brought, all of which were broken off. -/
  lost : List Designation := []
  deriving DecidableEq, Repr

/-- What a watcher has told of the objects of a kind, kept apart from what anybody makes of it. -/
structure Account where
  /-- The objects that are there. -/
  present : List Designation := []
  /-- Nothing, if no list is under way. -/
  relisting : Option Relisting := none
  deriving DecidableEq, Repr

namespace Account

def next (t : Account) : WatchUpdate α → Account
  -- A list that is under way when another is begun is broken off.
  | .restarted => { t with relisting := some { lost := (t.relisting.map fun r => r.brought ++ r.lost).getD [] } }
  | .relisted object =>
    { t with relisting := t.relisting.map fun r => { r with brought := designationOf object :: r.brought } }
  | .relistDone => { present := (t.relisting.map (·.brought)).getD [] }
  | .applied object => { t with present := designationOf object :: t.present }
  | .deleted object => { t with present := t.present.filter (· ≠ designationOf object) }

/-- What a watcher may tell after what it has told: a list brings different objects, and between lists objects
appear, change, and vanish if they were there. It may begin a list at any time. -/
def Allows (t : Account) : WatchUpdate α → Prop
  | .restarted => True
  | .relisted object => ∃ r ∈ t.relisting, designationOf object ∉ r.brought
  | .relistDone => t.relisting ≠ none
  | .applied _ => t.relisting = none
  | .deleted object => t.relisting = none ∧ designationOf object ∈ t.present

instance (t : Account) : (u : WatchUpdate α) → Decidable (t.Allows u)
  | .restarted => inferInstanceAs (Decidable True)
  | .relisted object => inferInstanceAs (Decidable (∃ r ∈ t.relisting, designationOf object ∉ r.brought))
  | .relistDone => inferInstanceAs (Decidable (t.relisting ≠ none))
  | .applied _ => inferInstanceAs (Decidable (t.relisting = none))
  | .deleted object => inferInstanceAs (Decidable (t.relisting = none ∧ designationOf object ∈ t.present))

def after (t : Account) (us : List (WatchUpdate α)) : Account := us.foldl next t

/-- A history that a watcher can tell. -/
def Regular (t : Account) : List (WatchUpdate α) → Prop
  | [] => True
  | u :: us => t.Allows u ∧ (t.next u).Regular us

instance (t : Account) : (us : List (WatchUpdate α)) → Decidable (t.Regular us)
  | [] => inferInstanceAs (Decidable True)
  | u :: us =>
    have := instDecidableRegular (t.next u) us
    inferInstanceAs (Decidable (t.Allows u ∧ (t.next u).Regular us))

/-- An object that is looked up under the designation is found: itself, or a namesake without a namespace. -/
def Finds (t : Account) (d : Designation) : Prop := d ∈ t.present ∨ d.withoutNamespace ∈ t.present

/-- A list that was broken off misleads the lookout about an object that it brought: another list brings the object,
too, and it is reported again, or one is done that did not bring it, and it stays reported. -/
def ListMisleads (t : Account) (d : Designation) : WatchUpdate α → Prop
  | .relisted object => designationOf object = d ∧ ¬ t.Finds d ∧ ∃ r ∈ t.relisting, d ∈ r.lost
  | .relistDone => ¬ t.Finds d ∧ ∃ r ∈ t.relisting, d ∉ r.brought ∧ d ∈ r.lost
  | .restarted | .applied _ | .deleted _ => False

/-- A namesake misleads the lookout about an object that appears: it is found in place of the object. -/
def NamesakeMisleads (t : Account) (d : Designation) : WatchUpdate α → Prop
  | .relistDone => d ∉ t.present ∧ t.Finds d ∧ ∃ r ∈ t.relisting, d ∈ r.brought
  | .applied object => designationOf object = d ∧ d ∉ t.present ∧ t.Finds d
  | .restarted | .relisted _ | .deleted _ => False

/-- At some point of the history it is so, of what was told before and what is told then. -/
def Sometime (p : Account → WatchUpdate α → Prop) (t : Account) : List (WatchUpdate α) → Prop
  | [] => False
  | u :: us => p t u ∨ (t.next u).Sometime p us

/-- The object has been reported as there, by a lookout that was not misled about it. -/
def Reported (t : Account) (d : Designation) : Prop :=
  d ∈ t.present ∨ ¬ t.Finds d ∧ ∃ r ∈ t.relisting, d ∈ r.brought ∨ d ∈ r.lost

instance (t : Account) (d : Designation) : Decidable (t.Finds d) := inferInstanceAs (Decidable (_ ∨ _))

instance (t : Account) (d : Designation) : Decidable (t.Reported d) :=
  inferInstanceAs (Decidable (_ ∨ ¬ _ ∧ ∃ r ∈ t.relisting, d ∈ r.brought ∨ d ∈ r.lost))

instance (t : Account) (d : Designation) : (u : WatchUpdate α) → Decidable (t.ListMisleads d u)
  | .relisted object =>
    inferInstanceAs (Decidable (designationOf object = d ∧ ¬ t.Finds d ∧ ∃ r ∈ t.relisting, d ∈ r.lost))
  | .relistDone => inferInstanceAs (Decidable (¬ t.Finds d ∧ ∃ r ∈ t.relisting, d ∉ r.brought ∧ d ∈ r.lost))
  | .restarted | .applied _ | .deleted _ => inferInstanceAs (Decidable False)

instance (t : Account) (d : Designation) : (u : WatchUpdate α) → Decidable (t.NamesakeMisleads d u)
  | .relistDone => inferInstanceAs (Decidable (d ∉ t.present ∧ t.Finds d ∧ ∃ r ∈ t.relisting, d ∈ r.brought))
  | .applied object => inferInstanceAs (Decidable (designationOf object = d ∧ d ∉ t.present ∧ t.Finds d))
  | .restarted | .relisted _ | .deleted _ => inferInstanceAs (Decidable False)

instance (p : Account → WatchUpdate α → Prop) [∀ t u, Decidable (p t u)] (t : Account) :
    (us : List (WatchUpdate α)) → Decidable (t.Sometime p us)
  | [] => inferInstanceAs (Decidable False)
  | u :: us =>
    have := instDecidableSometime p (t.next u) us
    inferInstanceAs (Decidable (p t u ∨ (t.next u).Sometime p us))

/-- While no list is under way, just what is there has been reported. -/
theorem reported_of_rest {t : Account} {d : Designation} (h : t.relisting = none) :
    t.Reported d ↔ d ∈ t.present := by
  unfold Reported
  simp [h]

/-- What a list brings is reported if it is not found. -/
theorem reported_next_relisted {t : Account} {d : Designation} {o : α} {r : Relisting} (hr : r ∈ t.relisting) :
    (t.next (.relisted o)).Reported d ↔ t.Reported d ∨ designationOf o = d ∧ ¬ t.Finds d := by
  have hfinds : (t.next (.relisted o)).Finds d ↔ t.Finds d := Iff.rfl
  unfold Reported
  rw [hfinds]
  rw [Option.mem_def] at hr
  simp only [next, hr, Option.map_some, Option.mem_def, Option.some.injEq, exists_eq_left', List.mem_cons]
  grind

/-- No list is broken off. -/
def Unbroken (t : Account) : List (WatchUpdate α) → Prop
  | [] => True
  | u :: us => (u = .restarted → t.relisting = none) ∧ (t.next u).Unbroken us

/-- Something that cannot be at a good point of a history is never so in a history that is good to its end. -/
theorem not_sometime {p : Account → WatchUpdate α → Prop} {q : Account → List (WatchUpdate α) → Prop}
    (hq : ∀ t u us, q t (u :: us) → ¬ p t u ∧ q (t.next u) us) {t : Account} {us : List (WatchUpdate α)}
    (h : q t us) : ¬ t.Sometime p us := by
  induction us generalizing t with
  | nil => exact id
  | cons u us ih =>
    obtain ⟨hfirst, hrest⟩ := hq t u us h
    exact not_or.2 ⟨hfirst, ih hrest⟩

/-- All objects told of say a namespace. -/
structure Placed (t : Account) : Prop where
  present : ∀ d ∈ t.present, d.ns ≠ none
  brought : ∀ r ∈ t.relisting, ∀ d ∈ r.brought, d.ns ≠ none

/-- Where all objects say a namespace, what is found is the object itself. -/
theorem Placed.finds_iff {t : Account} (h : t.Placed) (d : Designation) : t.Finds d ↔ d ∈ t.present :=
  or_iff_left fun hpresent => h.present _ hpresent rfl

/-- Where all objects say a namespace, none is found in place of another. -/
theorem Placed.not_namesakeMisleads {t : Account} (h : t.Placed) (d : Designation) (u : WatchUpdate α) :
    ¬ t.NamesakeMisleads d u := by
  cases u with
  | restarted | relisted o | deleted o => exact id
  | relistDone =>
    rintro ⟨habsent, hfinds, -⟩
    exact habsent ((h.finds_iff d).1 hfinds)
  | applied o =>
    rintro ⟨-, habsent, hfinds⟩
    exact habsent ((h.finds_iff d).1 hfinds)

/-- Objects that say a namespace may be told of without harm. -/
theorem Placed.next {t : Account} (h : t.Placed) {u : WatchUpdate α}
    (hplaced : ∀ o, u.present? = some o → (designationOf o).ns ≠ none) : (t.next u).Placed := by
  cases u with
  | restarted =>
    refine ⟨h.present, fun r hr => ?_⟩
    obtain rfl := Option.some.inj (Option.mem_def.1 hr)
    exact fun d hd => absurd hd List.not_mem_nil
  | relisted o =>
    refine ⟨h.present, fun r' hr' => ?_⟩
    obtain ⟨r, hr, rfl⟩ := Option.map_eq_some_iff.1 (Option.mem_def.1 hr')
    exact List.forall_mem_cons.2 ⟨hplaced o rfl, h.brought r hr⟩
  -- What is present after a relist is what it brought.
  | relistDone =>
    refine ⟨fun d hd => ?_, by simp [Account.next]⟩
    obtain hrest | ⟨r, hr⟩ := Option.eq_none_or_eq_some t.relisting
    · simp [Account.next, hrest] at hd
    · exact h.brought r hr d (by simpa [Account.next, hr] using hd)
  | applied o => exact ⟨List.forall_mem_cons.2 ⟨hplaced o rfl, h.present⟩, h.brought⟩
  | deleted o => exact ⟨fun d hd => h.present d (List.mem_filter.1 hd).1, h.brought⟩

/-- So no namesake ever misleads about anything, in a history of objects that say a namespace. -/
theorem Placed.not_sometime_namesakeMisleads {t : Account} (h : t.Placed) (d : Designation)
    {us : List (WatchUpdate α)} (hplaced : ∀ u ∈ us, ∀ o, u.present? = some o → (designationOf o).ns ≠ none) :
    ¬ t.Sometime (·.NamesakeMisleads d) us := by
  refine not_sometime (q := fun t us => t.Placed ∧ ∀ u ∈ us, ∀ o, u.present? = some o →
    (designationOf o).ns ≠ none) (fun t u us hgood => ?_) ⟨h, hplaced⟩
  obtain ⟨hfirst, hrest⟩ := List.forall_mem_cons.1 hgood.2
  exact ⟨hgood.1.not_namesakeMisleads d u, hgood.1.next hfirst, hrest⟩

/-- The list under way is the first since the last one that was done. -/
def Undisturbed (t : Account) : Prop := ∀ r ∈ t.relisting, r.lost = []

/-- A list misleads about nothing if none was broken off. -/
theorem Undisturbed.not_listMisleads {t : Account} (h : t.Undisturbed) (d : Designation) (u : WatchUpdate α) :
    ¬ t.ListMisleads d u := by
  cases u with
  | restarted | applied o | deleted o => exact id
  | relisted o =>
    rintro ⟨-, -, r, hr, hlost⟩
    rw [h r hr] at hlost
    exact List.not_mem_nil hlost
  | relistDone =>
    rintro ⟨-, r, hr, -, hlost⟩
    rw [h r hr] at hlost
    exact List.not_mem_nil hlost

/-- And that is so until one is begun while another is under way. -/
theorem Undisturbed.next {t : Account} (h : t.Undisturbed) {u : WatchUpdate α}
    (hu : u = .restarted → t.relisting = none) : (t.next u).Undisturbed := by
  intro r' hr'
  cases u with
  | restarted =>
    obtain rfl := Option.some.inj (Option.mem_def.1 hr')
    simp [hu rfl]
  | relisted o =>
    obtain ⟨r, hr, rfl⟩ := Option.map_eq_some_iff.1 (Option.mem_def.1 hr')
    exact h r hr
  | relistDone => exact absurd hr' (Option.not_mem_none r')
  | applied o | deleted o => exact h r' hr'

/-- And no list misleads about anything as long as none is broken off. -/
theorem Undisturbed.not_sometime_listMisleads {t : Account} (h : t.Undisturbed) (d : Designation)
    {us : List (WatchUpdate α)} (hus : t.Unbroken us) : ¬ t.Sometime (·.ListMisleads d) us := by
  refine not_sometime (q := fun t us => t.Undisturbed ∧ t.Unbroken us) (fun t u us hgood => ?_) ⟨h, hus⟩
  obtain ⟨hundisturbed, hu, hrest⟩ := hgood
  exact ⟨hundisturbed.not_listMisleads d u, hundisturbed.next hu, hrest⟩

end Account

/-! ## What the lookout reports -/

namespace Change

def object : Change α → α
  | added object | deleted object => object

/-- The changes of one object. -/
def about (d : Designation) (changes : List (Change α)) : List (Change α) :=
  changes.filter fun c => designationOf c.object = d

/-- Whether an object is there after these changes of it, if it was there before or was not: nothing is said of
changes that do not take turns. -/
def turns : Bool → List (Change α) → Option Bool
  | there, [] => some there
  | false, .added _ :: rest => turns true rest
  | true, .deleted _ :: rest => turns false rest
  | true, .added _ :: _ | false, .deleted _ :: _ => none

theorem about_append (d : Designation) (changes more : List (Change α)) :
    about d (changes ++ more) = about d changes ++ about d more :=
  List.filter_append ..

omit [HasMetadata α] in
/-- Changes take turns if the first do, and the others from there. -/
theorem turns_append (there : Bool) (changes more : List (Change α)) :
    turns there (changes ++ more) = (turns there changes).bind fun there => turns there more := by
  induction changes generalizing there with
  | nil => rfl
  | cons c rest ih =>
    cases there <;> cases c
    · exact ih true
    · rfl
    · rfl
    · exact ih false

end Change

/-- The collection has just these objects, each under its own designation. -/
structure Catalogue (objects : Dict Designation α) (ds : List Designation) : Prop where
  filed : ∀ d o, objects.get? d = some o → designationOf o = d
  mem_iff : ∀ d, d ∈ ds ↔ objects.contains d = true

namespace Catalogue

variable {objects : Dict Designation α} {ds : List Designation}

theorem empty : Catalogue (∅ : Dict Designation α) [] where
  filed d o h := absurd h (by simp [EmptyCollection.emptyCollection])
  mem_iff d := by simp [EmptyCollection.emptyCollection, Dict.contains]

/-- An object that is put in is filed under its own designation. -/
theorem insert (h : Catalogue objects ds) (o : α) :
    Catalogue (objects.insert (designationOf o) o) (designationOf o :: ds) where
  filed d o' ho' := by
    by_cases hd : d = designationOf o
    · subst hd
      rw [Dict.get?_insert_self, Option.some.injEq] at ho'
      rw [ho']
    · rw [Dict.get?_insert_ne _ _ hd] at ho'
      exact h.filed d o' ho'
  mem_iff d := by
    rw [List.mem_cons, h.mem_iff, Dict.contains, Dict.contains]
    by_cases hd : d = designationOf o
    · simp [hd]
    · rw [Dict.get?_insert_ne _ _ hd]
      simp [hd]

/-- And one that is taken out is gone from both. -/
theorem erase (h : Catalogue objects ds) (d : Designation) :
    Catalogue (objects.erase d) (ds.filter (· ≠ d)) where
  filed d' o ho := h.filed d' o (Dict.get?_of_erase ho)
  mem_iff d' := by
    rw [List.mem_filter, h.mem_iff, Dict.contains, Dict.contains, Dict.get?_erase]
    by_cases hd : d' = d
    · simp [hd, Std.ReflCmp.compare_self]
    · simp [hd, Std.LawfulEqCmp.compare_eq_iff_eq]

/-- What is not among the designations is not found. -/
theorem get?_eq_none (h : Catalogue objects ds) {d : Designation} (hd : d ∉ ds) : objects.get? d = none := by
  rw [← Option.not_isSome_iff_eq_none]
  exact fun hsome => hd ((h.mem_iff d).2 hsome)

/-- Of the objects under one designation there is at most the one that is found there. -/
theorem filter_values (h : Catalogue objects ds) (d : Designation) :
    (objects.values.filter fun o => designationOf o = d) = (objects.get? d).toList := by
  have hpart : (objects.values.filter fun o => designationOf o = d) =
      (objects.filter fun k _ => k = d).values := by
    unfold Dict.values Dict.filter
    rw [List.filter_map]
    refine congrArg (List.map _) (List.filter_congr fun e he => ?_)
    -- An object goes by the designation that it is stored under.
    have hkey := h.filed e.1 e.2 (Dict.get?_eq_some_iff.2 he)
    simp only [Function.comp, hkey]
  have hkeys : ∀ e ∈ (objects.filter fun k _ => k = d).entries, e.1 = d := fun e he =>
    of_decide_eq_true (List.mem_filter.1 he).2
  rw [hpart, Dict.values_of_single_key hkeys, Dict.get?_filter]
  cases objects.get? d <;> simp

end Catalogue

namespace Lookout

variable {l : Lookout α} {t : Account} {d : Designation} {u : WatchUpdate α}

/-- The object is in the copy. -/
def has (l : Lookout α) (d : Designation) : Bool := l.reflection.objects.contains d

/-- The lookout has taken over what a watcher has told. -/
structure Accords (l : Lookout α) (t : Account) : Prop where
  objects : Catalogue l.reflection.objects t.present
  listed : l.listed = t.relisting.map (·.brought)
  incoming : ∀ r ∈ t.relisting, Catalogue l.reflection.incoming r.brought

/-- **The lookout keeps its books**: whatever it may hear, it has taken over what was told. One case for each kind
of update. -/
theorem Accords.hear (h : l.Accords t) (hu : t.Allows u) : (l.hear u).2.Accords (t.next u) := by
  obtain ⟨hobjects, hlisted, hincoming⟩ := h
  -- One case per event; the account says which of them can come in which phase.
  cases u with
  | restarted =>
    refine ⟨hobjects, rfl, fun r hr => ?_⟩
    obtain rfl := Option.some.inj hr
    exact .empty
  | relisted o =>
    obtain ⟨r, hr, -⟩ := hu
    rw [Option.mem_def] at hr
    refine ⟨hobjects, ?_, fun r' hr' => ?_⟩
    · simp [hear, listedAfter, Account.next, hlisted, hr]
    · simp only [Account.next, hr, Option.map_some, Option.mem_def, Option.some.injEq] at hr'
      subst hr'
      exact (hincoming r hr).insert o
  | relistDone =>
    obtain ⟨r, hr⟩ := Option.ne_none_iff_exists'.1 hu
    refine ⟨?_, rfl, fun r' hr' => absurd hr' (by simp [Account.next])⟩
    simp only [Account.next, hr, Option.map_some, Option.getD_some]
    exact hincoming r hr
  | applied o =>
    have hrest : t.relisting = none := hu
    refine ⟨hobjects.insert o, ?_, fun r hr => absurd hr (by simp [Account.next, hrest])⟩
    simp [hear, listedAfter, Account.next, hlisted, hrest]
  | deleted o =>
    have hrest : t.relisting = none := hu.1
    exact ⟨hobjects.erase _, hlisted, fun r hr => absurd hr (by simp [Account.next, hrest])⟩

/-- An object is looked up with what a watcher has told. -/
theorem Accords.isSome_find? (h : l.Accords t) (d : Designation) :
    (l.reflection.find? d).isSome = true ↔ t.Finds d := by
  unfold Reflection.find? Account.Finds
  rw [Option.isSome_or, Bool.or_eq_true, h.objects.mem_iff, h.objects.mem_iff]
  exact Iff.rfl

/-- What is there is in the copy. -/
theorem Accords.has_eq (h : l.Accords t) (d : Designation) : l.has d = decide (d ∈ t.present) := by
  rw [Bool.eq_iff_iff, decide_eq_true_iff, h.objects.mem_iff]
  exact Iff.rfl

/-- An object that is brought or applied is reported if it is not found. -/
theorem about_appearance (d : Designation) (o : α) :
    Change.about d (if (l.reflection.find? (designationOf o)).isSome then [] else [.added o]) =
      if designationOf o = d ∧ ¬ (l.reflection.find? d).isSome = true then [Change.added o] else [] := by
  by_cases hd : designationOf o = d
  · subst hd
    by_cases hfound : (l.reflection.find? (designationOf o)).isSome = true <;>
      simp [hfound, Change.about, Change.object]
  · simp only [hd, false_and, if_false]
    split
    · rfl
    · simp [Change.about, Change.object, hd]

/-- An object is reported to have vanished if it was in the copy and the list did not bring it. -/
theorem Accords.about_unlisted (h : l.Accords t) (d : Designation) (listed : List Designation) :
    Change.about d ((l.unlisted listed).map .deleted) =
      if d ∈ listed then [] else (l.reflection.objects.get? d).toList.map .deleted := by
  have hmap : Change.about d ((l.unlisted listed).map .deleted) =
      ((l.unlisted listed).filter fun o => designationOf o = d).map .deleted := by
    unfold Change.about
    rw [List.filter_map]
    rfl
  rw [hmap, ← h.objects.filter_values]
  unfold unlisted
  rw [List.filter_filter]
  -- A designation that was listed is not among the unlisted; any other is there once, if stored.
  by_cases hd : d ∈ listed
  · rw [if_pos hd, List.map_eq_nil_iff, List.filter_eq_nil_iff]
    intro o _ ho
    simp only [Bool.and_eq_true, decide_eq_true_eq, Bool.not_eq_true', List.contains_eq_mem] at ho
    exact absurd hd (by simpa [ho.1] using ho.2)
  · rw [if_neg hd]
    refine congrArg (List.map _) (List.filter_congr fun o _ => ?_)
    by_cases ho : designationOf o = d
    · simp [ho, hd]
    · simp [ho]

/-! ## One update -/

/-- What is reported of an object when it is brought or applied. -/
theorem Accords.about_added (h : l.Accords t) (d : Designation) (o : α) :
    Change.about d (if (l.reflection.find? (designationOf o)).isSome then [] else [.added o]) =
      if designationOf o = d ∧ ¬ t.Finds d then [Change.added o] else [] := by
  rw [about_appearance]
  simp only [h.isSome_find?]

/-- The lookout keeps up with the update: what it reports of the object takes turns, and afterwards the object counts
as there exactly when it has been reported so. -/
def KeepsUp (l : Lookout α) (t : Account) (d : Designation) (u : WatchUpdate α) : Prop :=
  Change.turns (decide (t.Reported d)) (Change.about d (l.changes u)) = some (decide ((t.next u).Reported d))

/-- When a list is begun, nothing is reported, and what the one before it brought counts as it did. -/
theorem keepsUp_restarted (l : Lookout α) (t : Account) (d : Designation) : l.KeepsUp t d .restarted := by
  change some _ = some _
  rw [Option.some.injEq, decide_eq_decide]
  unfold Account.Reported Account.next Account.Finds
  rcases t.relisting with _ | r <;> simp

/-- What a list brings is reported once, unless one that was broken off has brought it before. -/
theorem Accords.keepsUp_relisted (h : l.Accords t) {o : α} (hu : t.Allows (.relisted o))
    (hright : ¬ t.ListMisleads d (.relisted o)) : l.KeepsUp t d (.relisted o) := by
  obtain ⟨r, hr, hfirst⟩ := hu
  have hreported := Account.reported_next_relisted (d := d) (o := o) hr
  unfold KeepsUp
  rw [changes, h.about_added]
  -- Reported as new exactly if not found; that it was reported already is what `hfirst` and `hright` exclude.
  by_cases hnew : designationOf o = d ∧ ¬ t.Finds d
  · have hbefore : ¬ t.Reported d := by
      rintro (hpresent | ⟨-, r', hr', hbrought | hlost⟩)
      · exact hnew.2 (.inl hpresent)
      · obtain rfl := Option.mem_unique hr hr'
        exact hfirst (hnew.1 ▸ hbrought)
      · exact hright ⟨hnew.1, hnew.2, r', hr', hlost⟩
    simp [hnew, hbefore, hreported, Change.turns]
  · have hsame : (t.next (.relisted o)).Reported d ↔ t.Reported d := by
      rw [hreported]
      exact or_iff_left hnew
    simp [hnew, hsame, Change.turns]

/-- When a list is done, what it brought was reported before, and what it did not bring is reported to be gone. -/
theorem Accords.keepsUp_relistDone (h : l.Accords t) (hu : t.Allows (.relistDone : WatchUpdate α))
    (hlists : ¬ t.ListMisleads d (.relistDone : WatchUpdate α))
    (hnames : ¬ t.NamesakeMisleads d (.relistDone : WatchUpdate α)) : l.KeepsUp t d .relistDone := by
  obtain ⟨r, hr⟩ := Option.ne_none_iff_exists'.1 hu
  have hlisted : l.listed = some r.brought := by rw [h.listed, hr, Option.map_some]
  have hreported : (t.next (.relistDone : WatchUpdate α)).Reported d ↔ d ∈ r.brought := by
    rw [Account.reported_of_rest rfl]
    simp [Account.next, hr]
  unfold KeepsUp
  simp only [changes, hlisted, h.about_unlisted, hreported]
  -- Brought, it was reported before. Not brought, it is taken back exactly if it was stored.
  by_cases hbrought : d ∈ r.brought
  · have hbefore : t.Reported d := by
      by_cases hpresent : d ∈ t.present
      · exact .inl hpresent
      · exact .inr ⟨fun hfinds => hnames ⟨hpresent, hfinds, r, hr, hbrought⟩, r, hr, .inl hbrought⟩
    simp [hbrought, hbefore, Change.turns]
  · by_cases hpresent : d ∈ t.present
    · obtain ⟨o, ho⟩ := Option.isSome_iff_exists.1 ((h.objects.mem_iff d).1 hpresent)
      have hbefore : t.Reported d := .inl hpresent
      simp [hbrought, ho, hbefore, Change.turns]
    · have hgone : l.reflection.objects.get? d = none := h.objects.get?_eq_none hpresent
      have hbefore : ¬ t.Reported d := by
        rintro (hpresent' | ⟨hfinds, r', hr', hbrought' | hlost⟩)
        · exact hpresent hpresent'
        · obtain rfl := Option.mem_unique hr hr'
          exact hbrought hbrought'
        · obtain rfl := Option.mem_unique hr hr'
          exact hlists ⟨hfinds, r, hr, hbrought, hlost⟩
      simp [hbrought, hgone, hbefore, Change.turns]

/-- An object that is applied between lists is reported if it was not there, unless a namesake was found for it. -/
theorem Accords.keepsUp_applied (h : l.Accords t) {o : α} (hrest : t.relisting = none)
    (hright : ¬ t.NamesakeMisleads d (.applied o)) : l.KeepsUp t d (.applied o) := by
  have hbefore : t.Reported d ↔ d ∈ t.present := Account.reported_of_rest hrest
  have hafter : (t.next (.applied o)).Reported d ↔ designationOf o = d ∨ d ∈ t.present := by
    rw [Account.reported_of_rest (t := t.next (.applied o)) hrest, eq_comm (a := designationOf o)]
    exact List.mem_cons
  unfold KeepsUp
  rw [changes, h.about_added]
  -- An update of a present object is no news; a new one that is found is what `hright` excludes.
  by_cases hnew : designationOf o = d ∧ ¬ t.Finds d
  · have habsent : d ∉ t.present := fun hpresent => hnew.2 (.inl hpresent)
    simp [hnew, hbefore, hafter, habsent, Change.turns]
  · have hsame : designationOf o = d → d ∈ t.present := fun ho =>
      Decidable.byContradiction fun habsent =>
        hright ⟨ho, habsent, Decidable.byContradiction fun hfinds => hnew ⟨ho, hfinds⟩⟩
    rw [if_neg hnew, Change.turns, Option.some.injEq, decide_eq_decide, hbefore, hafter]
    exact (or_iff_right_of_imp hsame).symm

/-- An object that is deleted between lists was there, and is reported to be gone. -/
theorem keepsUp_deleted {o : α} (hu : t.Allows (.deleted o)) : l.KeepsUp t d (.deleted o) := by
  obtain ⟨hrest, hpresent⟩ := hu
  have hbefore : t.Reported d ↔ d ∈ t.present := Account.reported_of_rest hrest
  have hafter : (t.next (.deleted o)).Reported d ↔ d ∈ t.present ∧ d ≠ designationOf o := by
    rw [Account.reported_of_rest (t := t.next (.deleted o)) hrest]
    simp [Account.next]
  unfold KeepsUp
  -- The object deleted is reported gone; the others are where they were.
  by_cases ho : designationOf o = d
  · subst ho
    simp [changes, Change.about, Change.object, hbefore, hafter, hpresent, Change.turns]
  · simp [changes, Change.about, Change.object, hbefore, hafter, ho, Ne.symm ho, Change.turns]

/-- **A lookout that is not misled keeps up**, whatever it is told. -/
theorem Accords.keepsUp (h : l.Accords t) (hu : t.Allows u) (hlists : ¬ t.ListMisleads d u)
    (hnames : ¬ t.NamesakeMisleads d u) : l.KeepsUp t d u := by
  cases u with
  | restarted => exact keepsUp_restarted l t d
  | relisted o => exact h.keepsUp_relisted hu hlists
  | relistDone => exact h.keepsUp_relistDone hu hlists hnames
  | applied o => exact h.keepsUp_applied hu hnames
  | deleted o => exact keepsUp_deleted hu

/-- The lookout goes wrong at the update: either it reports the object a second time, or no list is under way
afterwards and its last word about the object is not what is so. -/
def GoesWrong (l : Lookout α) (t : Account) (d : Designation) (u : WatchUpdate α) : Prop :=
  ∀ there, Change.turns (decide (t.Reported d)) (Change.about d (l.changes u)) = some there →
    (t.next u).relisting = none ∧ there ≠ decide (d ∈ (t.next u).present)

/-- When a list is done that did not bring an object which is not found, nothing is reported of it. -/
theorem Accords.turns_relistDone (h : l.Accords t) {r : Relisting} (hr : r ∈ t.relisting) (habsent : d ∉ t.present)
    (there : Bool) : Change.turns there (Change.about d (l.changes (.relistDone : WatchUpdate α))) = some there := by
  have hlisted : l.listed = some r.brought := by rw [h.listed, Option.mem_def.1 hr, Option.map_some]
  simp only [changes, hlisted, h.about_unlisted, h.objects.get?_eq_none habsent, Option.toList_none, List.map_nil,
    ite_self, Change.turns]

/-- **What a list that was broken off brought is reported wrongly.** -/
theorem Accords.goesWrong_of_listMisleads (h : l.Accords t) (hwrong : t.ListMisleads d u) : l.GoesWrong t d u := by
  intro there hturns
  cases u with
  | restarted | applied o | deleted o => exact absurd hwrong id
  | relisted o =>
    -- It counts as there already, and is reported to appear.
    obtain ⟨ho, hfinds, r, hr, hlost⟩ := hwrong
    have hbefore : t.Reported d := .inr ⟨hfinds, r, hr, .inr hlost⟩
    rw [changes, h.about_added, if_pos ⟨ho, hfinds⟩, decide_eq_true hbefore] at hturns
    exact absurd hturns (by simp [Change.turns])
  | relistDone =>
    -- It counts as there still, and is not.
    obtain ⟨hfinds, r, hr, hbrought, hlost⟩ := hwrong
    have hbefore : t.Reported d := .inr ⟨hfinds, r, hr, .inr hlost⟩
    rw [h.turns_relistDone hr (fun hpresent => hfinds (.inl hpresent)), Option.some.injEq] at hturns
    refine ⟨rfl, ?_⟩
    rw [← hturns]
    simp [Account.next, Option.mem_def.1 hr, hbrought, hbefore]

/-- **What appears beside a namesake without a namespace is not reported.** -/
theorem Accords.goesWrong_of_namesakeMisleads (h : l.Accords t) (hu : t.Allows u) (hwrong : t.NamesakeMisleads d u) :
    l.GoesWrong t d u := by
  intro there hturns
  -- A namesake can mislead only when an object is looked for: at an update or at the end of a list.
  cases u with
  | restarted | relisted o | deleted o => exact absurd hwrong id
  | relistDone =>
    obtain ⟨habsent, hfinds, r, hr, hbrought⟩ := hwrong
    have hbefore : ¬ t.Reported d := not_or.2 ⟨habsent, fun hreported => hreported.1 hfinds⟩
    rw [h.turns_relistDone hr habsent, Option.some.injEq] at hturns
    refine ⟨rfl, ?_⟩
    rw [← hturns]
    simp [Account.next, Option.mem_def.1 hr, hbrought, hbefore]
  | applied o =>
    obtain ⟨ho, habsent, hfinds⟩ := hwrong
    have hrest : t.relisting = none := hu
    refine ⟨hrest, ?_⟩
    have hbefore : ¬ t.Reported d := fun hreported => habsent ((Account.reported_of_rest hrest).1 hreported)
    rw [changes, h.about_added, if_neg fun hnew => hnew.2 hfinds, Change.turns, Option.some.injEq] at hturns
    subst ho
    simp [← hturns, hbefore, Account.next]

/-! ## Histories -/

/-- What is reported of an object that was reported to be there, or not to be there, is right: appearing and
vanishing take turns, and as long as no list is under way the last word is that it is there exactly if it is. -/
def ToldRight (l : Lookout α) (there : Bool) (d : Designation) (us : List (WatchUpdate α)) : Prop :=
  ∃ there', Change.turns there (Change.about d (l.hearAll us).1) = some there' ∧
    ((l.hearAll us).2.listed = none → there' = (l.hearAll us).2.has d)

instance (l : Lookout α) (there : Bool) (d : Designation) (us : List (WatchUpdate α)) :
    Decidable (l.ToldRight there d us) :=
  inferInstanceAs (Decidable (∃ _, _ ∧ (_ → _)))

/-- What is reported is right if the reports of the first update take turns, and from there all others are right. -/
theorem toldRight_cons (l : Lookout α) (there : Bool) (d : Designation) (u : WatchUpdate α)
    (us : List (WatchUpdate α)) :
    l.ToldRight there d (u :: us) ↔
      ∃ there', Change.turns there (Change.about d (l.changes u)) = some there' ∧
        (l.hear u).2.ToldRight there' d us := by
  have hreports : Change.turns there (Change.about d (l.hearAll (u :: us)).1) =
      (Change.turns there (Change.about d (l.changes u))).bind fun there' =>
        Change.turns there' (Change.about d ((l.hear u).2.hearAll us).1) := by
    rw [← Change.turns_append, ← Change.about_append]
    rfl
  unfold ToldRight
  rw [hreports]
  -- The changes told by the first event are read first, those of the rest from where they lead.
  constructor
  · rintro ⟨there', hturns, hlast⟩
    obtain ⟨between, hfirst, hrest⟩ := Option.bind_eq_some_iff.1 hturns
    exact ⟨between, hfirst, there', hrest, hlast⟩
  · rintro ⟨between, hfirst, there', hrest, hlast⟩
    exact ⟨there', Option.bind_eq_some_iff.2 ⟨between, hfirst, hrest⟩, hlast⟩

/-- Before anything is told, what was reported of an object is right. -/
theorem Accords.toldRight_nil (h : l.Accords t) (d : Designation) :
    l.ToldRight (decide (t.Reported d)) d [] := by
  refine ⟨_, rfl, fun hlisted => ?_⟩
  have hrest : t.relisting = none := by
    rwa [show (l.hearAll []).2 = l from rfl, h.listed, Option.map_eq_none_iff] at hlisted
  rw [show (l.hearAll []).2 = l from rfl, h.has_eq, decide_eq_decide]
  exact Account.reported_of_rest hrest

/-- Where the lookout goes wrong, what it has reported by then is not right. -/
theorem Accords.not_toldRight_of_goesWrong (h : l.Accords t) (hu : t.Allows u) (hwrong : l.GoesWrong t d u) :
    ¬ l.ToldRight (decide (t.Reported d)) d [u] := by
  intro hright
  obtain ⟨there, hturns, _, hlast, hword⟩ := (toldRight_cons ..).1 hright
  obtain rfl := Option.some.inj hlast
  obtain ⟨hrest, hne⟩ := hwrong _ hturns
  have haccords := h.hear hu
  have hlisted : (l.hear u).2.listed = none := by rw [haccords.listed, hrest, Option.map_none]
  exact hne ((hword hlisted).trans (haccords.has_eq d))

/-- What is reported is right throughout a history exactly if nothing misleads the lookout in it: the induction is on
the history, for all lookouts that have taken over what was told before. -/
theorem Accords.toldRight_iff {us : List (WatchUpdate α)} (h : l.Accords t) (hus : t.Regular us) :
    (∀ heard, heard <+: us → l.ToldRight (decide (t.Reported d)) d heard) ↔
      ¬ t.Sometime (·.ListMisleads d) us ∧ ¬ t.Sometime (·.NamesakeMisleads d) us := by
  induction us generalizing l t with
  | nil =>
    refine iff_of_true (fun heard hheard => ?_) ⟨id, id⟩
    rw [List.prefix_nil.1 hheard]
    exact h.toldRight_nil d
  | cons u us ih =>
    obtain ⟨hu, hus⟩ := hus
    have hnext := ih (h.hear hu) hus
    constructor
    · intro hright
      -- One update is a history already, so nothing misleads at the first.
      have hfirst : ¬ l.GoesWrong t d u := fun hwrong =>
        h.not_toldRight_of_goesWrong hu hwrong (hright [u] ⟨us, rfl⟩)
      have hlists : ¬ t.ListMisleads d u := fun hwrong => hfirst (h.goesWrong_of_listMisleads hwrong)
      have hnames : ¬ t.NamesakeMisleads d u := fun hwrong => hfirst (h.goesWrong_of_namesakeMisleads hu hwrong)
      have hlater := hnext.1 fun heard hheard => by
        obtain ⟨there, hturns, hlast⟩ :=
          (toldRight_cons ..).1 (hright (u :: heard) ((List.prefix_cons_inj u).2 hheard))
        rw [h.keepsUp hu hlists hnames, Option.some.injEq] at hturns
        rwa [hturns]
      exact ⟨not_or.2 ⟨hlists, hlater.1⟩, not_or.2 ⟨hnames, hlater.2⟩⟩
    · rintro ⟨hlists, hnames⟩ heard hheard
      obtain ⟨hlist, hlists⟩ := not_or.1 hlists
      obtain ⟨hname, hnames⟩ := not_or.1 hnames
      obtain rfl | ⟨rest, rfl, hrest⟩ := List.prefix_cons_iff.1 hheard
      · exact h.toldRight_nil d
      · exact (toldRight_cons ..).2 ⟨_, h.keepsUp hu hlist hname, hnext.2 ⟨hlists, hnames⟩ rest hrest⟩

/-- No list is under way, and every object is stored under its own designation. -/
structure AtRest (l : Lookout α) : Prop where
  listed : l.listed = none
  filed : ∀ d o, l.reflection.objects.get? d = some o → designationOf o = d

/-- What has been told to a lookout that is at rest. -/
def account (l : Lookout α) : Account := { present := l.reflection.objects.keys }

/-- A lookout at rest has taken over that its objects are there. -/
theorem AtRest.accords (h : l.AtRest) : l.Accords l.account where
  objects := ⟨h.filed, fun d => by
    rw [Dict.contains, Option.isSome_iff_exists, account, Dict.keys, List.mem_map]
    constructor
    · rintro ⟨e, he, rfl⟩
      exact ⟨e.2, Dict.get?_eq_some_iff.2 he⟩
    · rintro ⟨o, ho⟩
      exact ⟨(d, o), Dict.get?_eq_some_iff.1 ho, rfl⟩⟩
  listed := h.listed
  incoming _ hr := absurd hr (Option.not_mem_none _)

/-- What is there for a lookout at rest says a namespace, if all its objects do. -/
theorem AtRest.placed (h : l.AtRest) (hplaced : ∀ d, l.has d = true → d.ns ≠ none) : l.account.Placed :=
  ⟨fun d hd => hplaced d ((h.accords.objects.mem_iff d).1 hd), by simp [account]⟩

/-- What a lookout at rest has counts as reported, and nothing else. -/
theorem AtRest.has_eq_reported (h : l.AtRest) (d : Designation) : l.has d = decide (l.account.Reported d) := by
  rw [h.accords.has_eq, decide_eq_decide]
  exact (Account.reported_of_rest rfl).symm

/-- **When the reports are right.** Whatever a watcher tells a lookout that is at rest, what it reports of an object is
right throughout exactly if no list that was broken off misleads it about the object, and no namesake does. Where all
objects say a namespace, no namesake ever does, and then it comes down to the lists alone. -/
theorem reports_right_iff (hl : l.AtRest) (d : Designation) {us : List (WatchUpdate α)}
    (hus : l.account.Regular us) :
    ((∀ heard, heard <+: us → l.ToldRight (l.has d) d heard) ↔
      ¬ l.account.Sometime (·.ListMisleads d) us ∧ ¬ l.account.Sometime (·.NamesakeMisleads d) us) ∧
    ((∀ d, l.has d = true → d.ns ≠ none) → (∀ u ∈ us, ∀ o, u.present? = some o → (designationOf o).ns ≠ none) →
      ((∀ heard, heard <+: us → l.ToldRight (l.has d) d heard) ↔ ¬ l.account.Sometime (·.ListMisleads d) us)) := by
  rw [hl.has_eq_reported]
  refine ⟨hl.accords.toldRight_iff hus, fun hplaced hplaced' => ?_⟩
  rw [hl.accords.toldRight_iff hus]
  exact and_iff_left ((hl.placed hplaced).not_sometime_namesakeMisleads d hplaced')

/-- Where all objects say a namespace and no list is broken off, what is reported is right. -/
theorem reports_right_of_unbroken (hl : l.AtRest) (d : Designation) {us : List (WatchUpdate α)}
    (hus : l.account.Regular us) (hunbroken : l.account.Unbroken us)
    (hplaced : ∀ d, l.has d = true → d.ns ≠ none)
    (hplaced' : ∀ u ∈ us, ∀ o, u.present? = some o → (designationOf o).ns ≠ none) :
    l.ToldRight (l.has d) d us := by
  have hundisturbed : l.account.Undisturbed := fun _ hr => absurd hr (Option.not_mem_none _)
  have hright := ((hl.accords.toldRight_iff hus).2
    ⟨hundisturbed.not_sometime_listMisleads d hunbroken, (hl.placed hplaced).not_sometime_namesakeMisleads d hplaced'⟩)
      us (List.prefix_refl us)
  rwa [hl.has_eq_reported]

end Lookout

/-- A pod that says no more than what it goes by. -/
def podCalled (ns : Option String) (name : String) : Pod := { metadata := { ns, name } }

/-- The first list is broken off before it brought anything, the second one after it brought a pod that vanishes
for good later on. -/
def begunAnew : List (WatchUpdate Pod) :=
  [.restarted, .restarted, .relisted (podCalled "default" "iris-master-0"), .relistDone,
    .applied (podCalled "default" "iris-worker-0"), .restarted,
    .relisted (podCalled "default" "iris-master-0"), .restarted,
    .relisted (podCalled "default" "iris-master-0"), .relistDone]

/-- Of the pod that no broken list brought the reports are right, and all pods say a namespace. -/
theorem Lookout.reports_right_iff_begunAnew :
    Lookout.AtRest ({} : Lookout Pod) ∧ Account.Regular {} begunAnew ∧
      ¬ Account.Sometime (·.ListMisleads ⟨"default", "iris-worker-0"⟩) {} begunAnew ∧
      ∀ heard, heard <+: begunAnew → ({} : Lookout Pod).ToldRight false ⟨"default", "iris-worker-0"⟩ heard := by
  have hrest : Lookout.AtRest ({} : Lookout Pod) := ⟨rfl, fun _ _ h => nomatch h⟩
  have hregular : Account.Regular {} begunAnew := by decide
  have hright : ¬ Account.Sometime (·.ListMisleads ⟨"default", "iris-worker-0"⟩) {} begunAnew := by decide
  have hplaced : ∀ u ∈ begunAnew, ∀ o, u.present? = some o → (designationOf o).ns ≠ none := by decide
  exact ⟨hrest, hregular, hright, ((Lookout.reports_right_iff hrest ⟨"default", "iris-worker-0"⟩ hregular).2
    (fun _ h => nomatch h) hplaced).2 hright⟩

/-- A list is broken off after it brought a pod, and the next one brings it again. -/
def brokenOff : List (WatchUpdate Pod) :=
  [.restarted, .relisted (podCalled "default" "iris-master-0"), .restarted,
    .relisted (podCalled "default" "iris-master-0"), .relistDone]

/-- After the list that was broken off the pod is reported a second time. -/
theorem reported_wrongly :
    Account.Regular {} brokenOff ∧
      ¬ ({} : Lookout Pod).ToldRight false ⟨"default", "iris-master-0"⟩ brokenOff := by
  decide +kernel

/-- Two pods of one name appear, the one that says no namespace first. -/
def namesakes : List (WatchUpdate Pod) :=
  [.restarted, .relistDone, .applied (podCalled none "iris-master-0"),
    .applied (podCalled "default" "iris-master-0")]

-- The second of them is not reported at all.
example : Account.Regular {} namesakes ∧
    ¬ ({} : Lookout Pod).ToldRight false ⟨"default", "iris-master-0"⟩ namesakes := by
  decide +kernel

end TrainingJobs
