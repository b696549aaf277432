/-
# Tables of entries that carry their own key

A `Keyed α key` holds entries of which no two have the same key.  It is seen through `get?`:

* `get?_insert`: an inserted entry is found under its key, and nothing else changes;
* `get?_erase`: an erased key is gone, and nothing else changes;
* `get?_filter`: filtering keeps exactly the entries that pass;
* `size_insert`, `size_erase`: how many entries there are afterwards.
-/

namespace FlowIntake

/-- Entries of which no two have the same key, the one inserted last first. -/
structure Keyed (α : Type) {κ : Type} (key : α → κ) where
  entries : List α
  distinct : (entries.map key).Nodup

namespace Keyed

variable {α κ : Type} {key : α → κ}

/-! ## 1. Operations -/

/-- No entries. -/
def empty : Keyed α key := ⟨[], by simp⟩

instance : Inhabited (Keyed α key) := ⟨empty⟩

/-- How many entries there are. -/
def size (t : Keyed α key) : Nat := t.entries.length

theorem distinct_filter (p : α → Bool) (t : Keyed α key) :
    ((t.entries.filter p).map key).Nodup :=
  List.Nodup.sublist (List.Sublist.map key List.filter_sublist) t.distinct

/-- The entries that pass a test. -/
def filter (p : α → Bool) (t : Keyed α key) : Keyed α key :=
  ⟨t.entries.filter p, distinct_filter p t⟩

variable [DecidableEq κ]

/-- The entry under a key. -/
def get? (t : Keyed α key) (k : κ) : Option α := t.entries.find? fun a => key a = k

/-- Removes the entry under a key. -/
def erase (t : Keyed α key) (k : κ) : Keyed α key := t.filter fun a => key a ≠ k

/-- Adds an entry, in place of the one with the same key. -/
def insert (t : Keyed α key) (a : α) : Keyed α key :=
  ⟨a :: (t.erase (key a)).entries, by
    rw [List.map_cons, List.nodup_cons]
    exact ⟨by simp [erase, filter], (t.erase (key a)).distinct⟩⟩

/-- The table of a list of entries, a later entry taking the place of an earlier one. -/
def ofList (as : List α) : Keyed α key := as.foldl insert empty

/-! ## 2. What is found -/

@[simp] theorem get?_empty (k : κ) : (empty : Keyed α key).get? k = none := rfl

theorem key_of_get? {t : Keyed α key} {k : κ} {a : α} (h : t.get? k = some a) : key a = k := by
  simpa using List.find?_some h

theorem mem_of_get? {t : Keyed α key} {k : κ} {a : α} (h : t.get? k = some a) : a ∈ t.entries :=
  List.mem_of_find?_eq_some h

theorem find?_of_mem {as : List α} (hd : (as.map key).Nodup) {a : α} (ha : a ∈ as) :
    as.find? (fun b => key b = key a) = some a := by
  induction as with
  | nil => cases ha
  | cons b bs ih =>
    rw [List.map_cons, List.nodup_cons] at hd
    rw [List.find?_cons]
    rcases List.mem_cons.mp ha with rfl | hmem
    · simp
    · have hne : key b ≠ key a := fun h => hd.1 (h ▸ List.mem_map_of_mem hmem)
      simp [hne, ih hd.2 hmem]

/-- An entry of the table is the one found under its key. -/
theorem get?_eq_some_iff {t : Keyed α key} {k : κ} {a : α} :
    t.get? k = some a ↔ a ∈ t.entries ∧ key a = k :=
  ⟨fun h => ⟨mem_of_get? h, key_of_get? h⟩, fun ⟨hm, hk⟩ => hk ▸ find?_of_mem t.distinct hm⟩

theorem get?_filter (t : Keyed α key) (p : α → Bool) (k : κ) :
    (t.filter p).get? k = (t.get? k).filter p := by
  apply Option.ext
  intro a
  simp only [get?_eq_some_iff, Option.filter_eq_some_iff, filter, List.mem_filter]
  constructor
  · rintro ⟨⟨hm, hp⟩, hk⟩; exact ⟨⟨hm, hk⟩, hp⟩
  · rintro ⟨⟨hm, hk⟩, hp⟩; exact ⟨⟨hm, hp⟩, hk⟩

theorem get?_erase (t : Keyed α key) (k k' : κ) :
    (t.erase k).get? k' = if k' = k then none else t.get? k' := by
  rw [erase, get?_filter]
  split
  · rename_i h
    cases hg : t.get? k' with
    | none => rfl
    | some a => simp [key_of_get? hg, h]
  · rename_i h
    cases hg : t.get? k' with
    | none => rfl
    | some a => simp [key_of_get? hg, h]

theorem get?_insert (t : Keyed α key) (a : α) (k : κ) :
    (t.insert a).get? k = if key a = k then some a else t.get? k := by
  split
  · rename_i h
    simp [get?, insert, h]
  · rename_i h
    have he := get?_erase t (key a) k
    rw [if_neg fun e => h e.symm] at he
    rw [← he]
    simp [get?, insert, h]

/-! ## 3. How many there are -/

theorem length_filter_add {as : List α} (hd : (as.map key).Nodup) (k : κ) :
    (as.filter fun a => key a ≠ k).length + (as.find? fun a => key a = k).toList.length
      = as.length := by
  induction as with
  | nil => rfl
  | cons a as ih =>
    rw [List.map_cons, List.nodup_cons] at hd
    by_cases h : key a = k
    · have hf : as.filter (fun b => key b ≠ k) = as := by
        rw [List.filter_eq_self]
        intro b hb
        have hne : key b ≠ k := fun e => hd.1 (h.trans e.symm ▸ List.mem_map_of_mem hb)
        simpa using hne
      rw [List.filter_cons_of_neg (by simp [h]), List.find?_cons_of_pos (by simp [h]), hf]
      rfl
    · rw [List.filter_cons_of_pos (by simp [h]), List.find?_cons_of_neg (by simp [h]),
        List.length_cons, List.length_cons, ← ih hd.2]
      omega

theorem size_erase (t : Keyed α key) (k : κ) :
    (t.erase k).size + (t.get? k).toList.length = t.size :=
  length_filter_add t.distinct k

theorem size_insert (t : Keyed α key) (a : α) :
    (t.insert a).size + (t.get? (key a)).toList.length = t.size + 1 := by
  have h := size_erase t (key a)
  have hi : (t.insert a).size = (t.erase (key a)).size + 1 := rfl
  omega

end Keyed

end FlowIntake
