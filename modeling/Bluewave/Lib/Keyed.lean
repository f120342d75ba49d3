import Mathlib.Data.List.Nodup
import Mathlib.Data.Set.Pairwise.List

/-! Rows under a unique key, filled by inserts that keep what is there. An
insert whose key is taken changes nothing, so a table is a first-wins union of
everything it was offered. `firsts` names the rows a list adds, and every
count and membership below is read off it. -/
namespace Lib

variable {α κ : Type}

/-- Rows no two of which share a key. -/
structure Keyed (key : α → κ) where
  rows : List α
  nodup : (rows.map key).Nodup

namespace Keyed
variable {key : α → κ}

def keys (t : Keyed key) : List κ := t.rows.map key

@[ext] theorem ext {t u : Keyed key} (h : t.rows = u.rows) : t = u := by
  cases t; cases u; cases h; rfl

/-- A key of the table belongs to one row. -/
theorem existsUnique_row {t : Keyed key} {k : κ} (h : k ∈ t.keys) :
    ∃! a, a ∈ t.rows ∧ key a = k := by
  obtain ⟨a, ha, rfl⟩ := List.mem_map.mp h
  exact ⟨a, ⟨ha, rfl⟩, fun b hb => List.inj_on_of_nodup_map t.nodup hb.1 ha hb.2⟩

variable [DecidableEq κ]

/-- Add `a` unless its key is taken. -/
def insert (t : Keyed key) (a : α) : Keyed key :=
  if h : key a ∈ t.keys then t
  else ⟨t.rows ++ [a], by
    rw [List.map_append, List.nodup_append]
    refine ⟨t.nodup, by simp, ?_⟩
    intro x hx y hy he
    have hy' : y = key a := by simpa using hy
    exact h (hy' ▸ he ▸ hx)⟩

def insertAll (t : Keyed key) (as : List α) : Keyed key := as.foldl insert t

/-- The rows of a list that come first for a key outside `seen`. -/
def firsts (key : α → κ) : List κ → List α → List α
  | _, [] => []
  | seen, a :: as =>
    if key a ∈ seen then firsts key seen as else a :: firsts key (key a :: seen) as

theorem insert_of_mem {t : Keyed key} {a : α} (h : key a ∈ t.keys) : t.insert a = t := by
  simp [insert, h]

theorem insert_rows {t : Keyed key} {a : α} (h : key a ∉ t.keys) :
    (t.insert a).rows = t.rows ++ [a] := by
  simp [insert, h]

theorem mem_keys_insert {t : Keyed key} {a : α} {k : κ} :
    k ∈ (t.insert a).keys ↔ k = key a ∨ k ∈ t.keys := by
  by_cases h : key a ∈ t.keys
  · rw [insert_of_mem h]
    exact ⟨Or.inr, fun hk => hk.elim (fun he => he ▸ h) id⟩
  · simp [keys, insert_rows h, or_comm]

theorem insertAll_append (t : Keyed key) (as bs : List α) :
    t.insertAll (as ++ bs) = (t.insertAll as).insertAll bs := by
  simp [insertAll]

/-- Only the members of `seen` matter, not how it lists them. -/
theorem firsts_congr (as : List α) {seen seen' : List κ} (h : ∀ k, k ∈ seen ↔ k ∈ seen') :
    firsts key seen as = firsts key seen' as := by
  induction as generalizing seen seen' with
  | nil => rfl
  | cons a as ih =>
    have hcons : ∀ k, k ∈ key a :: seen ↔ k ∈ key a :: seen' := by intro k; simp [h k]
    simp only [firsts, h (key a)]
    split
    · exact ih h
    · rw [ih hcons]

/-- A list adds its first rows, behind what was there. -/
theorem insertAll_rows (t : Keyed key) (as : List α) :
    (t.insertAll as).rows = t.rows ++ firsts key t.keys as := by
  induction as generalizing t with
  | nil => simp [insertAll, firsts]
  | cons a as ih =>
    have hstep : t.insertAll (a :: as) = (t.insert a).insertAll as := rfl
    rw [hstep, ih]
    by_cases h : key a ∈ t.keys
    · simp [insert_of_mem h, firsts, h]
    · have hkeys : ∀ k, k ∈ (t.insert a).keys ↔ k ∈ key a :: t.keys := by
        intro k; simp [mem_keys_insert]
      rw [insert_rows h, firsts, if_neg h, List.append_assoc, List.singleton_append,
        firsts_congr as hkeys]

theorem mem_keys_insertAll {t : Keyed key} {as : List α} {k : κ} :
    k ∈ (t.insertAll as).keys ↔ k ∈ t.keys ∨ k ∈ as.map key := by
  induction as generalizing t with
  | nil => simp [insertAll]
  | cons a as ih =>
    have hstep : t.insertAll (a :: as) = (t.insert a).insertAll as := rfl
    rw [hstep, ih, mem_keys_insert, List.map_cons, List.mem_cons]
    tauto

/-- What `firsts` keeps is a sublist of the rows with a new key. -/
theorem firsts_sublist (seen : List κ) (as : List α) :
    (firsts key seen as).Sublist (as.filter fun a => key a ∉ seen) := by
  induction as generalizing seen with
  | nil => simp [firsts]
  | cons a as ih =>
    by_cases h : key a ∈ seen
    · simpa [firsts, h] using ih seen
    · have hs : (as.filter fun b => key b ∉ key a :: seen).Sublist
          (as.filter fun b => key b ∉ seen) := by
        refine List.monotone_filter_right as ?_
        intro b hb
        simp only [List.mem_cons, not_or, decide_eq_true_eq] at hb ⊢
        exact hb.2
      simpa [firsts, h] using ((ih (key a :: seen)).trans hs)

theorem mem_firsts {seen : List κ} {as : List α} {a : α} (h : a ∈ firsts key seen as) :
    a ∈ as ∧ key a ∉ seen := by
  simpa using (firsts_sublist seen as).mem h

/-- A first row is the first of its key in the list. -/
theorem mem_firsts_iff {seen : List κ} {as : List α} {a : α} :
    a ∈ firsts key seen as ↔ key a ∉ seen ∧ as.find? (fun b => key b = key a) = some a := by
  induction as generalizing seen with
  | nil => simp [firsts]
  | cons b as ih =>
    by_cases hb : key b ∈ seen
    · rw [firsts, if_pos hb, ih]
      refine and_congr_right fun ha => ?_
      have hne : ¬ key b = key a := fun he => ha (he ▸ hb)
      simp [hne]
    · rw [firsts, if_neg hb, List.mem_cons, ih]
      by_cases he : key b = key a
      · -- the head is the first of its key, so no later row of that key is one
        simp only [he, List.mem_cons, true_or, not_true_eq_false, false_and, or_false,
          List.find?_cons, decide_true]
        rw [Option.some.injEq, eq_comm, iff_and_self]
        rintro rfl
        exact hb
      · have hne : a ≠ b := fun h => he (h ▸ rfl)
        simp [he, hne, Ne.symm he]

theorem mem_map_firsts {seen : List κ} {as : List α} {k : κ} :
    k ∈ (firsts key seen as).map key ↔ k ∈ as.map key ∧ k ∉ seen := by
  constructor
  · intro h
    obtain ⟨a, ha, rfl⟩ := List.mem_map.mp h
    exact ⟨List.mem_map_of_mem (mem_firsts ha).1, (mem_firsts ha).2⟩
  · rintro ⟨h, hk⟩
    obtain ⟨a, ha, rfl⟩ := List.mem_map.mp h
    have hsome : (as.find? fun b => key b = key a).isSome := by
      rw [List.find?_isSome]
      exact ⟨a, ha, by simp⟩
    obtain ⟨b, hb⟩ := Option.isSome_iff_exists.mp hsome
    have hba : key b = key a := by simpa using List.find?_some hb
    refine List.mem_map.mpr ⟨b, mem_firsts_iff.mpr ⟨hba ▸ hk, ?_⟩, hba⟩
    rw [hba]
    exact hb

theorem length_firsts_le (seen : List κ) (as : List α) : (firsts key seen as).length ≤ as.length :=
  (firsts_sublist seen as).length_le.trans (List.length_filter_le _ _)

theorem firsts_nodup (seen : List κ) (as : List α) : ((firsts key seen as).map key).Nodup := by
  induction as generalizing seen with
  | nil => simp [firsts]
  | cons a as ih =>
    simp only [firsts]
    split
    · exact ih seen
    · refine List.nodup_cons.mpr ⟨?_, ih _⟩
      intro hm
      obtain ⟨b, hb, he⟩ := List.mem_map.mp hm
      exact (mem_firsts hb).2 (he ▸ List.mem_cons_self)

/-- With no new key twice, every row with a new key is a first one. -/
theorem firsts_eq_filter {seen : List κ} {as : List α}
    (h : ((as.filter fun a => key a ∉ seen).map key).Nodup) :
    firsts key seen as = as.filter fun a => key a ∉ seen := by
  induction as generalizing seen with
  | nil => simp [firsts]
  | cons a as ih =>
    by_cases ha : key a ∈ seen
    · have h' : ((as.filter fun a => key a ∉ seen).map key).Nodup := by simpa [ha] using h
      simpa [firsts, ha] using ih h'
    · have hcons : ((a :: as.filter fun b => key b ∉ seen).map key).Nodup := by
        simpa [ha] using h
      obtain ⟨hnot, htail⟩ := List.nodup_cons.mp hcons
      have hfilter : (as.filter fun b => key b ∉ key a :: seen) =
          as.filter fun b => key b ∉ seen := by
        refine List.filter_congr fun b hb => ?_
        simp only [List.mem_cons, not_or, decide_eq_decide, and_iff_right_iff_imp]
        intro hs he
        exact hnot (List.mem_map.mpr ⟨b, by simp [hb, hs], he⟩)
      rw [firsts, if_neg ha, ih (hfilter ▸ htail), hfilter]
      simp [ha]

/-- The first rows are as many as the rows with a new key exactly when no new
key comes twice. -/
theorem length_firsts_eq_iff {seen : List κ} {as : List α} :
    (firsts key seen as).length = (as.filter fun a => key a ∉ seen).length ↔
      ((as.filter fun a => key a ∉ seen).map key).Nodup := by
  constructor
  · intro h
    rw [← (firsts_sublist seen as).eq_of_length h]
    exact firsts_nodup seen as
  · intro h
    rw [firsts_eq_filter h]

/-- Nothing is new in a list whose keys are all taken, and only then. -/
theorem insertAll_eq_self_iff {t : Keyed key} {as : List α} :
    t.insertAll as = t ↔ ∀ a ∈ as, key a ∈ t.keys := by
  constructor
  · intro h a ha
    rw [← h]
    exact mem_keys_insertAll.mpr (Or.inr (List.mem_map_of_mem ha))
  · intro h
    refine ext ?_
    have hnil : firsts key t.keys as = [] := by
      refine List.eq_nil_iff_forall_not_mem.mpr fun a ha => ?_
      exact (mem_firsts ha).2 (h a (mem_firsts ha).1)
    rw [insertAll_rows, hnil, List.append_nil]

end Keyed

/-! ## A unique key that may be missing -/

section
variable {β : Type}

/-- No key occurs twice exactly when rows with one key are one row. -/
theorem filterMap_nodup_iff {f : α → Option β} {l : List α} (hl : l.Nodup) :
    (l.filterMap f).Nodup ↔
      ∀ a ∈ l, ∀ b ∈ l, ∀ k, f a = some k → f b = some k → a = b := by
  let R : α → α → Prop := fun a b => ∀ k, f a = some k → ∀ k', f b = some k' → k ≠ k'
  have hsymm : Std.Symm R := ⟨fun _ _ h k hk k' hk' he => h k' hk' k hk he.symm⟩
  rw [List.Nodup, List.pairwise_filterMap, ← hl.pairwise_coe (r := R)]
  constructor
  · intro h a ha b hb k hk hk'
    by_contra hne
    exact h ha hb hne k hk k hk' rfl
  · intro h a ha b hb hne k hk k' hk' he
    exact hne (h a ha b hb k hk (he ▸ hk'))

end

end Lib
