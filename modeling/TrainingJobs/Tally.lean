/-
Sums over a list.

A job counts its replicas, its failed pods and the restarts of its containers by adding up what each member of
a list contributes, in signed numbers of 32 bits (`sum32`). The numbers may be negative, as users can write any
number of replicas, and a sum that does not fit wraps around. What the sum would be without a bound is `tally`;
the two agree up to a multiple of `2^32` (`sum32_eq_ofInt`), and exactly where that fits (`toInt_sum32`).
-/
import TrainingJobs.Json.Field

set_option autoImplicit false

namespace TrainingJobs

/-- A number of 32 bits is read as the whole number that it stands for. -/
instance instCoeInt32Int : Coe Int32 Int := ⟨Int32.toInt⟩

/-- What the members of a list contribute, added up without a bound. -/
def tally {α : Type} (f : α → Int) : List α → Int
  | [] => 0
  | a :: rest => f a + tally f rest

variable {α : Type}

@[simp] theorem tally_nil (f : α → Int) : tally f [] = 0 := rfl

@[simp] theorem tally_cons (f : α → Int) (a : α) (l : List α) : tally f (a :: l) = f a + tally f l := rfl

theorem tally_map {β : Type} (f : β → Int) (g : α → β) (l : List α) :
    tally f (l.map g) = tally (fun a => f (g a)) l := by
  induction l with
  | nil => rfl
  | cons a l ih => simp only [List.map_cons, tally_cons, ih]

/-- What the members of a list contribute is what those do that are picked, and what the others do. -/
theorem tally_filter_add (f : α → Int) (p : α → Bool) (l : List α) :
    tally f (l.filter p) + tally f (l.filter fun a => !p a) = tally f l := by
  induction l with
  | nil => rfl
  | cons a l ih =>
    rw [tally_cons, ← ih]
    cases h : p a with
    | true => rw [List.filter_cons_of_pos h, List.filter_cons_of_neg (by simp [h]), tally_cons, Int.add_assoc]
    | false => rw [List.filter_cons_of_neg (by simp [h]), List.filter_cons_of_pos (by simp [h]), tally_cons]; omega

/-- Where no member contributes anything, there is nothing to add up. -/
theorem tally_eq_zero {f : α → Int} {l : List α} (h : ∀ a ∈ l, f a = 0) : tally f l = 0 := by
  induction l with
  | nil => rfl
  | cons a l ih => rw [tally_cons, h a List.mem_cons_self, ih fun b hb => h b (List.mem_cons_of_mem _ hb), Int.add_zero]

theorem tally_nonneg {f : α → Int} {l : List α} (h : ∀ a ∈ l, 0 ≤ f a) : 0 ≤ tally f l := by
  induction l with
  | nil => exact Int.le_refl 0
  | cons a l ih => exact Int.add_nonneg (h a List.mem_cons_self) (ih fun b hb => h b (List.mem_cons_of_mem _ hb))

/-- Where no member takes anything away, each contributes at most the sum. -/
theorem le_tally_of_mem {f : α → Int} {l : List α} (h : ∀ a ∈ l, 0 ≤ f a) {a : α} (ha : a ∈ l) :
    f a ≤ tally f l := by
  induction l with
  | nil => exact absurd ha List.not_mem_nil
  | cons b l ih =>
    obtain ⟨hb, hl⟩ := List.forall_mem_cons.1 h
    have hrest : 0 ≤ tally f l := tally_nonneg hl
    rw [tally_cons]
    obtain rfl | ha := List.mem_cons.1 ha
    · omega
    · have hle : f a ≤ tally f l := ih hl ha
      omega

/-- Where no member takes anything away, the sum is nothing only if no member contributes. -/
theorem tally_eq_zero_iff {f : α → Int} {l : List α} (h : ∀ a ∈ l, 0 ≤ f a) :
    tally f l = 0 ↔ ∀ a ∈ l, f a = 0 := by
  refine ⟨?_, tally_eq_zero⟩
  induction l with
  | nil =>
    intro _ a ha
    exact absurd ha List.not_mem_nil
  | cons a l ih =>
    obtain ⟨ha, hl⟩ := List.forall_mem_cons.1 h
    have hrest : 0 ≤ tally f l := tally_nonneg hl
    intro hsum
    rw [tally_cons] at hsum
    rw [List.forall_mem_cons]
    exact ⟨by omega, ih hl (by omega)⟩

/-- Lists that are strung together are as long as they are altogether. -/
theorem length_flatMap_eq_tally {β : Type} (f : α → List β) (l : List α) :
    ((l.flatMap f).length : Int) = tally (fun a => ((f a).length : Int)) l := by
  induction l with
  | nil => rfl
  | cons a l ih => rw [List.flatMap_cons, List.length_append, Int.natCast_add, ih, tally_cons]

/-! ## Sums of 32 bits -/

/-- What the members of a list contribute, added up one after the other in 32 bits. -/
def sum32 (f : α → Int32) (l : List α) : Int32 := l.foldl (fun sum a => sum + f a) 0

/-- A number that fits into 32 bits is what its 32 bits stand for. -/
theorem toInt_ofInt_of_fits {n : Int} (h : Json.Fits 32 n) : ((Int32.ofInt n : Int32) : Int) = n :=
  Int32.toInt_ofInt_of_le h.1 h.2

/-- Whatever 32 bits stand for fits into them. -/
theorem fits_toInt (n : Int32) : Json.Fits 32 n := ⟨Int32.le_toInt n, Int32.toInt_lt n⟩

/-- What is counted from nothing fits as long as it stays below the upper end. -/
theorem fits_natCast {n : Nat} (h : n < 2147483648) : Json.Fits 32 n :=
  ⟨by simp only [Nat.reducePow, Nat.reduceSub, Nat.pow_eq]; omega, Int.ofNat_lt.2 h⟩

/-- Wrapping around does not show in a comparison of a difference with nothing. -/
theorem int32_sub_eq_zero {m n : Int32} : m - n = 0 ↔ m = n := by
  rw [Int32.sub_eq_iff_eq_add, Int32.zero_add]

/-- Integers have the same 32 bits exactly if a multiple of `2^32` lies between them. -/
theorem ofInt_eq_ofInt_iff {m n : Int} : Int32.ofInt m = Int32.ofInt n ↔ (4294967296 : Int) ∣ m - n := by
  rw [← Int32.toInt_inj, Int32.toInt_ofInt, Int32.toInt_ofInt, Int.bmod_eq_bmod_iff_bmod_sub_eq_zero,
    ← Int.dvd_iff_bmod_eq_zero]
  rfl

theorem foldl_add_eq_ofInt (f : α → Int32) (l : List α) (start : Int) :
    l.foldl (fun sum a => sum + f a) (Int32.ofInt start) = Int32.ofInt (start + tally (fun a => (f a : Int)) l) := by
  induction l generalizing start with
  | nil => rw [List.foldl_nil, tally_nil, Int.add_zero]
  | cons a l ih =>
    have hstep : Int32.ofInt start + f a = Int32.ofInt (start + (f a : Int)) := by
      rw [Int32.ofInt_add, Int32.ofInt_toInt]
    rw [List.foldl_cons, hstep, ih, tally_cons, Int.add_assoc]

/-- **Wrapping around at every step is wrapping around once, at the end.** So a sum that leaves the 32 bits on its way
and comes back is right all the same. -/
theorem sum32_eq_ofInt (f : α → Int32) (l : List α) : sum32 f l = Int32.ofInt (tally (fun a => (f a : Int)) l) := by
  have hzero : tally (fun a => (f a : Int)) l = 0 + tally (fun a => (f a : Int)) l := (Int.zero_add _).symm
  rw [hzero, ← foldl_add_eq_ofInt]
  rfl

theorem sum32_eq_zero {f : α → Int32} {l : List α} (h : ∀ a ∈ l, f a = 0) : sum32 f l = 0 := by
  have hzero : tally (fun a => (f a : Int)) l = 0 := tally_eq_zero fun a ha => by rw [h a ha, Int32.toInt_zero]
  rw [sum32_eq_ofInt, hzero]
  rfl

/-- A sum that fits is not changed by the width. -/
theorem toInt_sum32 {f : α → Int32} {l : List α} (h : Json.Fits 32 (tally (fun a => (f a : Int)) l)) :
    (sum32 f l : Int) = tally (fun a => (f a : Int)) l := by
  rw [sum32_eq_ofInt, toInt_ofInt_of_fits h]

end TrainingJobs
