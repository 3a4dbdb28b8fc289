/-
`Dict`: finite maps that list their entries in the order of their keys.

Labels, replica specs, replica counters and the objects of a store are all maps whose *order* shows in
what the operator does: pods are created type by type and jobs are listed name by name. The entries are
therefore kept as a strictly increasing list, and the invariant is part of the type. Two maps with the
same look-ups are then the same map (`Dict.ext_get?`), so "the status did not change" is plain equality.
-/

set_option autoImplicit false

namespace TrainingJobs

/-- A finite map from `κ` to `α`, its entries listed in strictly increasing order of the keys. -/
structure Dict (κ : Type) (α : Type) [Ord κ] where
  entries : List (κ × α)
  /-- No key occurs twice, and the keys increase. -/
  sorted : entries.Pairwise fun a b => compare a.1 b.1 = .lt

namespace Dict

variable {κ α β : Type} [Ord κ]

@[ext] theorem ext {d e : Dict κ α} (h : d.entries = e.entries) : d = e := by
  cases d; cases e; cases h; rfl

instance [DecidableEq κ] [DecidableEq α] : DecidableEq (Dict κ α) := fun d e =>
  if h : d.entries = e.entries then isTrue (Dict.ext h)
  else isFalse fun hde => h (hde ▸ rfl)

def empty : Dict κ α := ⟨[], .nil⟩

instance : EmptyCollection (Dict κ α) := ⟨empty⟩

instance : Inhabited (Dict κ α) := ⟨empty⟩

def keys (d : Dict κ α) : List κ := d.entries.map (·.1)

def values (d : Dict κ α) : List α := d.entries.map (·.2)

def size (d : Dict κ α) : Nat := d.entries.length

def isEmpty (d : Dict κ α) : Bool := d.entries.isEmpty

/-- The value under `k` in a list of entries: that of the first entry whose key compares equal. -/
def lookup (k : κ) : List (κ × α) → Option α
  | [] => none
  | e :: rest => if compare k e.1 = .eq then some e.2 else lookup k rest

/-- The value under `k`. -/
def get? (d : Dict κ α) (k : κ) : Option α := lookup k d.entries

def contains (d : Dict κ α) (k : κ) : Bool := (d.get? k).isSome

/-- Puts an entry in its place, instead of the one with the same key. -/
def insertEntry (k : κ) (v : α) : List (κ × α) → List (κ × α)
  | [] => [(k, v)]
  | e :: rest =>
    match compare k e.1 with
    | .lt => (k, v) :: e :: rest
    | .eq => (k, v) :: rest
    | .gt => e :: insertEntry k v rest

/-- The entries whose key is another than `k`. -/
def eraseEntry (k : κ) (l : List (κ × α)) : List (κ × α) :=
  l.filter fun e => compare k e.1 != .eq

/-- Keeps the entries that satisfy `p`. -/
def filter (d : Dict κ α) (p : κ → α → Bool) : Dict κ α :=
  ⟨d.entries.filter fun e => p e.1 e.2, d.sorted.filter _⟩

def erase (d : Dict κ α) (k : κ) : Dict κ α :=
  ⟨eraseEntry k d.entries, d.sorted.filter _⟩

/-- Applies `f` to every value; the keys stay. -/
def mapValues (d : Dict κ α) (f : α → β) : Dict κ β :=
  ⟨d.entries.map fun e => (e.1, f e.2), d.sorted.map _ fun _ _ h => h⟩

/-- What differs between the map and a later one: new and changed entries with their new value, entries that
are gone without one. -/
def changesTo [DecidableEq α] (d e : Dict κ α) : List (κ × Option α) :=
  (e.entries.filterMap fun x => if d.get? x.1 = some x.2 then none else some (x.1, some x.2)) ++
  (d.entries.filterMap fun x => if e.contains x.1 then none else some (x.1, none))

theorem nodup_keys [Std.ReflOrd κ] (d : Dict κ α) : d.keys.Nodup := by
  unfold keys
  refine List.pairwise_map.2 (d.sorted.imp fun {e e'} hlt heq => ?_)
  rw [heq] at hlt
  exact absurd (hlt.symm.trans Std.ReflOrd.compare_self) (by decide)

/-! ## Insertion keeps the order -/

section Lawful

variable [Std.TransOrd κ] [Std.LawfulEqOrd κ]

omit [Std.TransOrd κ] [Std.LawfulEqOrd κ] in
theorem mem_insertEntry {k : κ} {v : α} {l : List (κ × α)} {a : κ × α}
    (h : a ∈ insertEntry k v l) : a = (k, v) ∨ a ∈ l := by
  induction l with
  | nil => simpa [insertEntry] using h
  | cons e rest ih =>
    rw [insertEntry] at h
    split at h
    · simpa using h
    · rcases List.mem_cons.1 h with h | h
      · exact .inl h
      · exact .inr (List.mem_cons_of_mem _ h)
    · rcases List.mem_cons.1 h with h | h
      · exact .inr (h ▸ List.mem_cons_self)
      · exact (ih h).imp id (List.mem_cons_of_mem _)

theorem pairwise_insertEntry {k : κ} {v : α} {l : List (κ × α)}
    (h : l.Pairwise fun a b => compare a.1 b.1 = .lt) :
    (insertEntry k v l).Pairwise fun a b => compare a.1 b.1 = .lt := by
  induction l with
  | nil => simp [insertEntry]
  | cons e rest ih =>
    obtain ⟨he, hrest⟩ := List.pairwise_cons.1 h
    rw [insertEntry]
    split
    · next hlt =>
      refine List.pairwise_cons.2 ⟨fun a ha => ?_, h⟩
      rcases List.mem_cons.1 ha with rfl | ha
      · exact hlt
      · exact Std.TransCmp.lt_trans hlt (he a ha)
    · next heq =>
      have hk : k = e.1 := Std.LawfulEqCmp.compare_eq_iff_eq.1 heq
      exact List.pairwise_cons.2 ⟨fun a ha => hk ▸ he a ha, hrest⟩
    · next hgt =>
      refine List.pairwise_cons.2 ⟨fun a ha => ?_, ih hrest⟩
      rcases mem_insertEntry ha with rfl | ha
      · exact Std.OrientedCmp.gt_iff_lt.1 hgt
      · exact he a ha

/-- Puts `v` under `k`, instead of what was there. -/
def insert (d : Dict κ α) (k : κ) (v : α) : Dict κ α :=
  ⟨insertEntry k v d.entries, pairwise_insertEntry d.sorted⟩

/-- Puts every entry of the list in turn, so that of two entries with one key the later one stays. -/
def insertAll (d : Dict κ α) (l : List (κ × α)) : Dict κ α :=
  l.foldl (fun acc e => acc.insert e.1 e.2) d

/-- The map of a list of entries, of which the later of two with one key stays. -/
def ofList (l : List (κ × α)) : Dict κ α := empty.insertAll l

/-- Replaces the value under `k` by its image, where there is one. -/
def modify (d : Dict κ α) (k : κ) (f : α → α) : Dict κ α :=
  match d.get? k with
  | none => d
  | some v => d.insert k (f v)

/-! ## Look-ups -/

theorem lookup_insertEntry (k k' : κ) (v : α) (l : List (κ × α)) :
    lookup k' (insertEntry k v l) = if compare k' k = .eq then some v else lookup k' l := by
  induction l with
  | nil => simp [insertEntry, lookup]
  | cons e rest ih =>
    rw [insertEntry]
    split
    · simp [lookup]
    · next heq =>
      have hk : k = e.1 := Std.LawfulEqCmp.compare_eq_iff_eq.1 heq
      subst hk
      simp only [lookup]
      split <;> rfl
    · next hgt =>
      simp only [lookup, ih]
      by_cases h : compare k' e.1 = .eq
      · have hk : k' = e.1 := Std.LawfulEqCmp.compare_eq_iff_eq.1 h
        subst hk
        have : compare e.1 k ≠ .eq := by
          rw [Std.OrientedCmp.gt_iff_lt.1 hgt]; decide
        simp [this]
      · simp [h]

/-- What is found after an insertion: the new value under its key, the old one elsewhere. -/
theorem get?_insert (d : Dict κ α) (k k' : κ) (v : α) :
    (d.insert k v).get? k' = if compare k' k = .eq then some v else d.get? k' :=
  lookup_insertEntry k k' v d.entries

@[simp] theorem get?_insert_self (d : Dict κ α) (k : κ) (v : α) :
    (d.insert k v).get? k = some v := by
  simp [get?_insert, Std.ReflCmp.compare_self]

theorem get?_insert_ne (d : Dict κ α) {k k' : κ} (v : α) (h : k' ≠ k) :
    (d.insert k v).get? k' = d.get? k' := by
  simp [get?_insert, Std.LawfulEqCmp.compare_eq_iff_eq, h]

omit [Std.TransOrd κ] in
theorem lookup_eraseEntry (k k' : κ) (l : List (κ × α)) :
    lookup k' (eraseEntry k l) = if compare k' k = .eq then none else lookup k' l := by
  induction l with
  | nil => simp [eraseEntry, lookup]
  | cons e rest ih =>
    rw [eraseEntry, List.filter_cons]
    rw [eraseEntry] at ih
    by_cases he : compare k e.1 = .eq
    · have hk : k = e.1 := Std.LawfulEqCmp.compare_eq_iff_eq.1 he
      subst hk
      simp only [he, bne_self_eq_false, Bool.false_eq_true, if_false, ih, lookup]
      by_cases h : compare k' e.1 = .eq <;> simp [h]
    · have he' : (compare k e.1 != .eq) = true := by simpa using he
      simp only [he', if_true, lookup, ih]
      by_cases h : compare k' e.1 = .eq
      · have hk : k' = e.1 := Std.LawfulEqCmp.compare_eq_iff_eq.1 h
        subst hk
        have hne : compare e.1 k ≠ .eq := fun hc =>
          he (Std.LawfulEqCmp.compare_eq_iff_eq.2 (Std.LawfulEqCmp.compare_eq_iff_eq.1 hc).symm)
        simp [hne]
      · simp [h]

omit [Std.TransOrd κ] in
/-- What is found after an entry is erased: nothing under its key, the same elsewhere. -/
theorem get?_erase (d : Dict κ α) (k k' : κ) :
    (d.erase k).get? k' = if compare k' k = .eq then none else d.get? k' :=
  lookup_eraseEntry k k' d.entries

omit [Std.TransOrd κ] in
/-- What is left after an entry is erased was there before. -/
theorem get?_of_erase {d : Dict κ α} {k k' : κ} {v : α} (h : (d.erase k).get? k' = some v) :
    d.get? k' = some v := by
  rw [get?_erase] at h
  split at h
  · exact absurd h (by simp)
  · exact h

omit [Std.TransOrd κ] [Std.LawfulEqOrd κ] in
/-- What is found is the image of what was found before. -/
theorem get?_mapValues (d : Dict κ α) (f : α → β) (k : κ) : (d.mapValues f).get? k = (d.get? k).map f := by
  change lookup k (d.entries.map fun e => (e.1, f e.2)) = (lookup k d.entries).map f
  induction d.entries with
  | nil => rfl
  | cons e rest ih =>
    rw [List.map_cons, lookup, lookup, ih]
    split <;> rfl

omit [Std.TransOrd κ] [Std.LawfulEqOrd κ] in
@[simp] theorem get?_empty (k : κ) : (empty : Dict κ α).get? k = none := rfl

omit [Std.TransOrd κ] in
/-- A value is found under `k` exactly when the entry is listed. -/
theorem lookup_eq_some_iff {l : List (κ × α)} (h : l.Pairwise fun a b => compare a.1 b.1 = .lt)
    {k : κ} {v : α} : lookup k l = some v ↔ (k, v) ∈ l := by
  induction l with
  | nil => simp [lookup]
  | cons e rest ih =>
    obtain ⟨he, hrest⟩ := List.pairwise_cons.1 h
    rw [lookup]
    by_cases hk : compare k e.1 = .eq
    · have hke : k = e.1 := Std.LawfulEqCmp.compare_eq_iff_eq.1 hk
      subst hke
      simp only [hk, if_true, Option.some.injEq, List.mem_cons]
      constructor
      · rintro rfl; exact .inl rfl
      · rintro (h | h)
        · exact congrArg Prod.snd h.symm
        · exact absurd (he _ h) (by rw [hk]; decide)
    · have hne : k ≠ e.1 := fun h => hk (h ▸ Std.LawfulEqCmp.compare_eq_iff_eq.2 rfl)
      simp only [hk, if_false, ih hrest, List.mem_cons]
      exact ⟨.inr, fun h => h.resolve_left fun h => hne (congrArg Prod.fst h)⟩

omit [Std.TransOrd κ] in
theorem get?_eq_some_iff {d : Dict κ α} {k : κ} {v : α} :
    d.get? k = some v ↔ (k, v) ∈ d.entries :=
  lookup_eq_some_iff d.sorted

omit [Std.TransOrd κ] in
/-- What holds of everything that can be found holds of all entries. -/
theorem forall_get?_iff {d : Dict κ α} {p : κ → α → Prop} :
    (∀ k v, d.get? k = some v → p k v) ↔ ∀ e ∈ d.entries, p e.1 e.2 := by
  simp only [get?_eq_some_iff, Prod.forall]

omit [Std.LawfulEqOrd κ] in
/-- Two increasing lists with the same members are one list. -/
theorem eq_of_mem_iff {l m : List (κ × α)}
    (hl : l.Pairwise fun a b => compare a.1 b.1 = .lt)
    (hm : m.Pairwise fun a b => compare a.1 b.1 = .lt) (h : ∀ a, a ∈ l ↔ a ∈ m) : l = m := by
  induction l generalizing m with
  | nil =>
    cases m with
    | nil => rfl
    | cons b _ => exact absurd ((h b).2 List.mem_cons_self) (by simp)
  | cons a l ih =>
    cases m with
    | nil => exact absurd ((h a).1 List.mem_cons_self) (by simp)
    | cons b m =>
      obtain ⟨ha, hl'⟩ := List.pairwise_cons.1 hl
      obtain ⟨hb, hm'⟩ := List.pairwise_cons.1 hm
      have hab : a = b := by
        rcases List.mem_cons.1 ((h a).1 List.mem_cons_self) with hab | hab
        · exact hab
        · rcases List.mem_cons.1 ((h b).2 List.mem_cons_self) with hba | hba
          · exact hba.symm
          · have h1 := hb a hab
            have h2 := Std.OrientedCmp.gt_iff_lt.2 (ha b hba)
            rw [h1] at h2
            exact absurd h2 (by decide)
      subst hab
      refine congrArg (a :: ·) (ih hl' hm' fun c => ?_)
      have hc := h c
      simp only [List.mem_cons] at hc
      have irrefl : compare a.1 a.1 ≠ .lt := fun hlt => by
        have hgt := Std.OrientedCmp.gt_iff_lt.2 hlt
        rw [hlt] at hgt
        exact absurd hgt (by decide)
      exact ⟨fun hcl => (hc.1 (.inr hcl)).resolve_left fun e => irrefl (e ▸ ha c hcl),
        fun hcm => (hc.2 (.inr hcm)).resolve_left fun e => irrefl (e ▸ hb c hcm)⟩

/-- A map is determined by its look-ups. -/
theorem ext_get? {d e : Dict κ α} (h : ∀ k, d.get? k = e.get? k) : d = e := by
  refine Dict.ext (eq_of_mem_iff d.sorted e.sorted fun a => ?_)
  rw [← get?_eq_some_iff, ← get?_eq_some_iff, h]

/-- Of a map and a list that is put into it, the list is looked at first. -/
theorem get?_insertAll (d e : Dict κ α) (k : κ) :
    (d.insertAll e.entries).get? k = (e.get? k).or (d.get? k) := by
  have hsorted := e.sorted
  unfold insertAll get?
  generalize e.entries = l at hsorted
  -- The keys of the list are different, so it does not matter that later entries would win over earlier ones.
  induction l generalizing d with
  | nil => rfl
  | cons x rest ih =>
    obtain ⟨hx, hrest⟩ := List.pairwise_cons.1 hsorted
    rw [List.foldl_cons, ih _ hrest]
    have hinsert : lookup k (d.insert x.1 x.2).entries =
        if compare k x.1 = .eq then some x.2 else lookup k d.entries := get?_insert d x.1 k x.2
    rw [hinsert, lookup]
    by_cases hk : compare k x.1 = .eq
    · have hkx : k = x.1 := Std.LawfulEqCmp.compare_eq_iff_eq.1 hk
      have hnone : lookup k rest = none := by
        rw [Option.eq_none_iff_forall_ne_some]
        intro v hv
        have hlt := hx (k, v) ((lookup_eq_some_iff hrest).1 hv)
        rw [← hkx, Std.ReflOrd.compare_self] at hlt
        exact absurd hlt (by decide)
      rw [if_pos hk, if_pos hk, hnone, Option.none_or, Option.some_or]
    · rw [if_neg hk, if_neg hk]

/-- The entries of a map make that map. -/
theorem ofList_entries (d : Dict κ α) : ofList d.entries = d := by
  refine ext_get? fun k => ?_
  rw [ofList, get?_insertAll]
  exact Option.or_none

end Lawful

end Dict

end TrainingJobs
