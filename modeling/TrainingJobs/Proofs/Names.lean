/-
What a name tells.

What the operator has made it finds again by name and label, so nothing may be lost in making them. The index
of a slot is written as a numeral that reads back (`readWord?_toString`). The name of a slot is told apart at
its last two dashes, because neither a numeral nor the lower case of a replica type has one
(`slotName_inj`), and a key at its last slash, because the name of a job that has a key has none
(`keyFor_inj`). What a key is split into is what it was made of (`splitKey?_eq_some_iff`).
-/
import Mathlib.Algebra.Group.Nat.Defs
import TrainingJobs.Slot

set_option autoImplicit false

namespace TrainingJobs

/-! ## Numerals -/

namespace Text

/-- Digits are read as what they stand for. -/
theorem digitValue?_of_isDigit {c : Char} (h : c.isDigit = true) :
    digitValue? c = some (c.toNat - '0'.toNat) := by
  unfold digitValue?
  rw [if_pos h]
  rfl

/-- Reading digits is what they stand for. -/
theorem readDigits?_of_digits {l : List Char} (h : ∀ c ∈ l, c.isDigit = true) (acc : Nat) :
    readDigits? acc l = some (Nat.ofDigitChars 10 l acc) := by
  induction l generalizing acc with
  | nil => rfl
  | cons c rest ih =>
    rw [readDigits?, digitValue?_of_isDigit (h c List.mem_cons_self)]
    simp only
    rw [ih fun d hd => h d (List.mem_cons_of_mem _ hd), Nat.ofDigitChars_cons]

theorem isDigit_of_mem_toString {n : Nat} {c : Char} (h : c ∈ (toString n).toList) : c.isDigit = true := by
  rw [Nat.toString_eq_repr, Nat.toList_repr] at h
  exact Nat.isDigit_of_mem_toDigits (by decide) (by decide) h

/-- A numeral reads back as the number that was written. -/
theorem readNat?_toString (n : Nat) : readNat? (toString n).toList = some n := by
  have hdigits : ∀ c ∈ (toString n).toList, c.isDigit = true := fun c => isDigit_of_mem_toString
  have hread : readDigits? 0 (toString n).toList = some n := by
    rw [readDigits?_of_digits hdigits, Nat.toString_eq_repr, Nat.toList_repr,
      Nat.ofDigitChars_toDigits (by decide) (by decide)]
  have hsome : (toString n).toList ≠ [] := by
    rw [Nat.toString_eq_repr, Nat.toList_repr]
    exact Nat.toDigits_ne_nil
  generalize (toString n).toList = l at hdigits hread hsome
  unfold readNat?
  split
  · exact absurd rfl hsome
  -- A numeral that was written does not start with a sign.
  · exact absurd (hdigits '+' List.mem_cons_self) (by decide)
  · exact absurd (hdigits '+' List.mem_cons_self) (by decide)
  · exact hread

/-- A number of 64 bits is read back from its digits. -/
theorem readWord?_toString {n : Nat} (h : n < 2 ^ 64) : readWord? (toString n) = some n := by
  unfold readWord? readBelow?
  rw [readNat?_toString, Option.bind_some]
  exact if_pos h

end Text

/-! ## Separators -/

/-- A list is told apart at the last of its separators. -/
theorem append_separator_inj {α : Type} {s : α} {a b x y : List α} (hx : s ∉ x) (hy : s ∉ y)
    (h : a ++ s :: x = b ++ s :: y) : a = b ∧ x = y := by
  induction a generalizing b with
  | nil =>
    cases b with
    | nil => exact ⟨rfl, (List.cons.inj h).2⟩
    | cons c b =>
      -- The separator of the right would be a member of what is behind that of the left.
      have hmem : s ∈ x := by
        rw [(List.cons.inj h).2]
        exact List.mem_append_right _ List.mem_cons_self
      exact absurd hmem hx
  | cons c a ih =>
    cases b with
    | nil =>
      have hmem : s ∈ y := by
        rw [← (List.cons.inj h).2]
        exact List.mem_append_right _ List.mem_cons_self
      exact absurd hmem hy
    | cons d b =>
      obtain ⟨hcd, hrest⟩ := List.cons.inj h
      obtain ⟨hab, hxy⟩ := ih hrest
      exact ⟨by rw [hcd, hab], hxy⟩

section FirstSeparator

variable {α : Type} [DecidableEq α] {s c : α} {l before after : List α}

/-- What stands before the first separator has none in it. -/
theorem notMem_takeWhile_ne : s ∉ l.takeWhile (· ≠ s) := by
  intro hs
  have hne := List.all_eq_true.1 List.all_takeWhile s hs
  simp at hne

/-- What is behind all that comes before the first separator is that separator and the rest. -/
theorem takeWhile_append_of_dropWhile_eq_cons (h : l.dropWhile (· ≠ s) = c :: after) :
    l.takeWhile (· ≠ s) ++ s :: after = l := by
  have hhead := List.head?_dropWhile_not (· ≠ s) l
  rw [h] at hhead
  have hc : c = s := by simpa using hhead
  have hl := List.takeWhile_append_dropWhile (p := (· ≠ s)) (l := l)
  rwa [h, hc] at hl

/-- A text with a separator falls apart at the first one. -/
theorem takeWhile_dropWhile_append_separator (h : s ∉ before) (after : List α) :
    (before ++ s :: after).takeWhile (· ≠ s) = before ∧ (before ++ s :: after).dropWhile (· ≠ s) = s :: after := by
  have hbefore : ∀ c ∈ before, decide (c ≠ s) = true := fun c hc => decide_eq_true fun hs => h (hs ▸ hc)
  constructor
  · rw [List.takeWhile_append_of_pos hbefore, List.takeWhile_cons_of_neg (by simp), List.append_nil]
  · rw [List.dropWhile_append_of_pos hbefore, List.dropWhile_cons_of_neg (by simp)]

end FirstSeparator

/-- A text without slashes. -/
def Slashless (s : String) : Prop := '/' ∉ s.toList

instance (s : String) : Decidable (Slashless s) := inferInstanceAs (Decidable (_ ∉ _))

/-- A text without slashes has nothing to be replaced. -/
theorem dashed_eq_self {s : String} (h : Slashless s) : dashed s = s := by
  apply String.toList_injective
  unfold dashed
  rw [String.toList_ofList]
  refine (List.map_congr_left fun c hc => ?_).trans (List.map_id _)
  exact if_neg fun hslash : c = '/' => h (hslash ▸ hc)

/-! ## Slots -/

/-- One of the two replica types that a job may have. -/
def IsReplicaType (replicaType : String) : Prop := replicaType = masterType ∨ replicaType = workerType

/-- The lower case of a replica type has neither a dash nor a slash, and tells the type. -/
theorem IsReplicaType.lowercase {t : String} (h : IsReplicaType t) :
    '-' ∉ (Text.lowercase t).toList ∧ '/' ∉ (Text.lowercase t).toList ∧
      Text.lowercase (Text.lowercase t) = Text.lowercase t := by
  rcases h with rfl | rfl <;> decide +kernel

/-- The replica types stay apart in lower case. -/
theorem lowercase_inj {t t' : String} (h : IsReplicaType t) (h' : IsReplicaType t')
    (heq : Text.lowercase t = Text.lowercase t') : t = t' := by
  rcases h with rfl | rfl <;> rcases h' with rfl | rfl
  · rfl
  · exact absurd heq (by decide +kernel)
  · exact absurd heq (by decide +kernel)
  · rfl

theorem notMem_toString_of_not_isDigit {c : Char} (h : c.isDigit = false) (n : Nat) :
    c ∉ (toString n).toList := by
  intro hc
  rw [Text.isDigit_of_mem_toString hc] at h
  exact absurd h (by decide)

/-- The characters of the name of a slot. -/
theorem toList_slotName {jobName t : String} (hjob : Slashless jobName) (ht : IsReplicaType t) (index : Nat) :
    (slotName jobName t index).toList =
      (jobName.toList ++ '-' :: (Text.lowercase t).toList) ++ '-' :: (toString index).toList := by
  have hslashless : Slashless (jobName ++ "-" ++ Text.lowercase t ++ "-" ++ toString index) := by
    unfold Slashless
    simp only [String.toList_append, List.mem_append, not_or]
    exact ⟨⟨⟨⟨hjob, by decide⟩, ht.lowercase.2.1⟩, by decide⟩, notMem_toString_of_not_isDigit (by decide) index⟩
  unfold slotName
  rw [dashed_eq_self hslashless]
  simp only [String.toList_append, List.append_assoc]
  rfl

/-- **The name of a slot tells the job, the replica type and the index.** -/
theorem slotName_inj {n n' t t' : String} {i i' : Nat} (hn : Slashless n) (hn' : Slashless n')
    (ht : IsReplicaType t) (ht' : IsReplicaType t') (h : slotName n t i = slotName n' t' i') :
    n = n' ∧ t = t' ∧ i = i' := by
  have hchars := congrArg String.toList h
  rw [toList_slotName hn ht, toList_slotName hn' ht'] at hchars
  have hdash : ∀ k : Nat, '-' ∉ (toString k).toList := notMem_toString_of_not_isDigit (by decide)
  obtain ⟨hleft, hindex⟩ := append_separator_inj (hdash i) (hdash i') hchars
  obtain ⟨hname, htype⟩ := append_separator_inj ht.lowercase.1 ht'.lowercase.1 hleft
  refine ⟨String.toList_injective hname, lowercase_inj ht ht' (String.toList_injective htype), ?_⟩
  have hread := congrArg Text.readNat? hindex
  rw [Text.readNat?_toString, Text.readNat?_toString] at hread
  exact Option.some.inj hread

/-! ## Keys -/

/-- A key is the namespace, a slash, and the name, character by character. -/
theorem toList_keyFor (ns name : String) : (keyFor ns name).toList = ns.toList ++ '/' :: name.toList := by
  unfold keyFor
  rw [String.toList_append, String.toList_append, List.append_assoc]
  rfl

/-- The key of a job tells its namespace and its name. -/
theorem keyFor_inj {ns ns' n n' : String} (hn : Slashless n) (hn' : Slashless n')
    (h : keyFor ns n = keyFor ns' n') : ns = ns' ∧ n = n' := by
  have hchars := congrArg String.toList h
  rw [toList_keyFor, toList_keyFor] at hchars
  obtain ⟨hns, hname⟩ := append_separator_inj hn hn' hchars
  exact ⟨String.toList_injective hns, String.toList_injective hname⟩

/-- Jobs whose names have no slash have keys of their own. -/
theorem address_eq_of_keyFor_eq {a b : Address} (ha : Slashless a.name) (hb : Slashless b.name)
    (h : keyFor a.ns a.name = keyFor b.ns b.name) : a = b := by
  obtain ⟨hns, hname⟩ := keyFor_inj ha hb h
  exact congr (congrArg Address.mk hns) hname

/-- What may stand on either side of the slash of a key: something, and without another slash. -/
def IsKeyPart (s : String) : Prop := s ≠ "" ∧ Slashless s

instance (s : String) : Decidable (IsKeyPart s) := inferInstanceAs (Decidable (_ ∧ _))

/-- A part of a key is not empty and has no slash, in terms of its characters. -/
theorem isKeyPart_ofList_iff {l : List Char} : IsKeyPart (String.ofList l) ↔ l ≠ [] ∧ '/' ∉ l := by
  unfold IsKeyPart Slashless
  rw [String.toList_ofList, Ne, String.ofList_eq_empty_iff]

/-- **A key is split into just those two parts of a key that it is made of.** -/
theorem splitKey?_eq_some_iff {key ns name : String} :
    splitKey? key = some (ns, name) ↔ keyFor ns name = key ∧ IsKeyPart ns ∧ IsKeyPart name := by
  unfold splitKey?
  simp only
  constructor
  · intro h
    rcases hrest : key.toList.dropWhile (· ≠ '/') with _ | ⟨slash, rest⟩
    · rw [hrest] at h
      exact absurd h (by simp)
    · rw [hrest] at h
      simp only at h
      split at h
      · exact absurd h (by simp)
      · next hparts =>
        rw [Option.some.injEq, Prod.mk.injEq] at h
        obtain ⟨rfl, rfl⟩ := h
        rw [not_or, not_or, List.isEmpty_iff, List.isEmpty_iff, List.contains_iff_mem] at hparts
        refine ⟨String.toList_injective ?_, isKeyPart_ofList_iff.2 ⟨hparts.1, notMem_takeWhile_ne⟩,
          isKeyPart_ofList_iff.2 hparts.2⟩
        rw [toList_keyFor, String.toList_ofList, String.toList_ofList, takeWhile_append_of_dropWhile_eq_cons hrest]
  · rintro ⟨rfl, ⟨hns, hns'⟩, hname, hname'⟩
    -- The first slash is the one that was put in.
    obtain ⟨hbefore, hafter⟩ := takeWhile_dropWhile_append_separator hns' name.toList
    rw [toList_keyFor, hbefore, hafter]
    simp only
    have hparts : ¬ (ns.toList.isEmpty = true ∨ name.toList.isEmpty = true ∨ name.toList.contains '/' = true) := by
      have hlast : '/' ∉ name.toList := hname'
      simpa [hns, hname] using hlast
    rw [if_neg hparts, String.ofList_toList, String.ofList_toList]

/-- The key of a job is made of the namespace and the name that it is split into. -/
theorem keyFor_of_splitKey? {key ns name : String} (h : splitKey? key = some (ns, name)) : keyFor ns name = key :=
  (splitKey?_eq_some_iff.1 h).1

/-- A key that can be split names a job without slashes. -/
theorem slashless_of_splitKey? {key ns name : String} (h : splitKey? key = some (ns, name)) : Slashless name :=
  (splitKey?_eq_some_iff.1 h).2.2.2

/-- The key of a job is split into the namespace and the name that it was made of, where neither is empty or has
a slash. -/
theorem splitKey?_keyFor {ns name : String} (hns : ns ≠ "") (hns' : Slashless ns) (hname : name ≠ "")
    (hname' : Slashless name) : splitKey? (keyFor ns name) = some (ns, name) :=
  splitKey?_eq_some_iff.2 ⟨rfl, ⟨hns, hns'⟩, hname, hname'⟩

end TrainingJobs
