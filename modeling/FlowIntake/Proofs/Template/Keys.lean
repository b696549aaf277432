/-
# The keys of a record

Fields of one name get different keys: a key that is taken is passed over for the first suffixed
one that is not.  The search for it is given as many steps as keys are taken and never needs them
all, since the name itself takes one.

* `Template.suffixed_inj`: a suffixed name tells the name and the suffix;
* `Template.nextKey_cases`: what the next key is;
* `Template.nodup_keys`: no key is repeated;
* `Template.keys_named`: each key is its field's name, or that with a suffix.
-/
import FlowIntake.Proofs.Decimal.Digits
import FlowIntake.Template.Basic
import Mathlib.Data.List.Nodup
import Mathlib.Data.List.Perm.Subperm

namespace FlowIntake.Template

/-! ## 1. Suffixed names -/

theorem suffixed_eq (name : String) (n : Nat) : suffixed name n = name ++ ("_" ++ n.repr) := by
  rw [suffixed, String.append_assoc]
  rfl

theorem toList_suffixed (name : String) (n : Nat) :
    (suffixed name n).toList = name.toList ++ '_' :: Nat.toDigits 10 n := by
  rw [suffixed_eq, String.toList_append, String.toList_append, Nat.toList_repr]
  rfl

theorem underscore_mem_suffixed (name : String) (n : Nat) : '_' ∈ (suffixed name n).toList := by
  rw [toList_suffixed]
  exact List.mem_append_right _ List.mem_cons_self

/-- Nothing stands before the last mark but what is before it. -/
theorem eq_nil_of_mark {more after after' : List Char} {mark : Char} (hafter : mark ∉ after)
    (h : mark :: after = more ++ mark :: after') : more = [] ∧ after = after' := by
  cases more with
  | nil => exact ⟨rfl, (List.cons.inj h).2⟩
  | cons c more =>
    have hmem : mark ∈ more ++ mark :: after' := List.mem_append_right more List.mem_cons_self
    rw [List.cons_append, List.cons.injEq] at h
    exact absurd (h.2 ▸ hmem) hafter

/-- What stands before the last mark, and what after it, can be told. -/
theorem append_mark_inj {before before' after after' : List Char} {mark : Char}
    (hafter : mark ∉ after) (hafter' : mark ∉ after')
    (h : before ++ mark :: after = before' ++ mark :: after') :
    before = before' ∧ after = after' := by
  obtain ⟨more, rfl, hlater⟩ | ⟨more, rfl, hlater⟩ := List.append_eq_append_iff.mp h
  · obtain ⟨rfl, hsame⟩ := eq_nil_of_mark hafter hlater
    exact ⟨(List.append_nil _).symm, hsame⟩
  · obtain ⟨rfl, hsame⟩ := eq_nil_of_mark hafter' hlater
    exact ⟨List.append_nil _, hsame.symm⟩

theorem underscore_not_mem_toDigits (n : Nat) : '_' ∉ Nat.toDigits 10 n := fun h =>
  absurd (Nat.isDigit_of_mem_toDigits (by decide) (by decide) h) (by decide)

/-- **Name and suffix can be told apart**: the suffix begins at the last underscore. -/
theorem suffixed_inj {a b : String} {m n : Nat} (h : suffixed a m = suffixed b n) :
    a = b ∧ m = n := by
  rw [← String.toList_inj, toList_suffixed, toList_suffixed] at h
  obtain ⟨hname, hdigits⟩ :=
    append_mark_inj (underscore_not_mem_toDigits m) (underscore_not_mem_toDigits n) h
  exact ⟨String.toList_inj.mp hname, Decimal.toDigits_injective hdigits⟩

theorem suffixed_injective {name : String} {m n : Nat} (h : suffixed name m = suffixed name n) :
    m = n := (suffixed_inj h).2

theorem suffixed_ne (name : String) (n : Nat) : suffixed name n ≠ name := by
  intro h
  have hlength := congrArg String.length h
  rw [suffixed_eq, String.length_append, String.length_append] at hlength
  have hmark : "_".length = 1 := rfl
  omega

/-- A name and the suffixed names in a row after it are that many keys taken. -/
theorem size_of_taken {taken : Std.HashSet String} {name : String} (hname : name ∈ taken) {k : Nat}
    (h : ∀ m, 2 ≤ m → m < 2 + k → suffixed name m ∈ taken) : k + 1 ≤ taken.size := by
  have hrow : (List.range' 2 k |>.map (suffixed name)).Nodup :=
    List.Nodup.map (fun _ _ => suffixed_injective) List.nodup_range'
  have hnodup : (name :: (List.range' 2 k |>.map (suffixed name))).Nodup := by
    refine List.nodup_cons.2 ⟨fun hmem => ?_, hrow⟩
    obtain ⟨m, -, hm⟩ := List.mem_map.1 hmem
    exact suffixed_ne name m hm
  have hsubset : name :: (List.range' 2 k |>.map (suffixed name)) ⊆ taken.toList := by
    refine List.cons_subset.2 ⟨Std.HashSet.mem_toList.2 hname, fun key hkey => ?_⟩
    obtain ⟨m, hm, rfl⟩ := List.mem_map.1 hkey
    obtain ⟨hlow, hhigh⟩ := List.mem_range'_1.1 hm
    exact Std.HashSet.mem_toList.2 (h m hlow hhigh)
  have hlength := (hnodup.subperm hsubset).length_le
  rwa [List.length_cons, List.length_map, List.length_range', Std.HashSet.length_toList] at hlength

/-! ## 2. The next key -/

/-- The search goes over taken names only, and ends at one that is free or out of fuel. -/
theorem firstFree_cases (taken : Std.HashSet String) (name : String) (fuel n : Nat) :
    ∃ k ≤ fuel, firstFree taken name fuel n = suffixed name (n + k) ∧
      (∀ m, n ≤ m → m < n + k → suffixed name m ∈ taken) ∧
      (suffixed name (n + k) ∉ taken ∨ k = fuel) := by
  induction fuel generalizing n with
  | zero => exact ⟨0, Nat.le_refl 0, rfl, fun m hlow hhigh => by omega, .inr rfl⟩
  | succ fuel ih =>
    by_cases htaken : suffixed name n ∈ taken
    · obtain ⟨k, hk, heq, hrow, hend⟩ := ih (n + 1)
      refine ⟨k + 1, by omega, ?_, fun m hlow hhigh => ?_, ?_⟩
      · rw [firstFree, if_pos (Std.HashSet.mem_iff_contains.1 htaken), heq]
        congr 1
        omega
      · rcases Nat.eq_or_lt_of_le hlow with rfl | hlt
        · exact htaken
        · exact hrow m hlt (by omega)
      · rcases hend with hfree | rfl
        · left
          rwa [show n + (k + 1) = n + 1 + k by omega]
        · exact .inr rfl
    · refine ⟨0, Nat.zero_le _, ?_, fun m hlow hhigh => by omega, .inl htaken⟩
      rw [firstFree, if_neg (mt Std.HashSet.mem_iff_contains.2 htaken)]
      rfl

/-- The next key is the name when that is free, and else the first suffixed name that is free,
whose number is at most one more than the keys taken. -/
theorem nextKey_cases (taken : Std.HashSet String) (name : String) :
    (name ∉ taken ∧ nextKey taken name = name) ∨
      (name ∈ taken ∧ ∃ n, 2 ≤ n ∧ n ≤ taken.size + 1 ∧ nextKey taken name = suffixed name n ∧
        suffixed name n ∉ taken ∧ ∀ m, 2 ≤ m → m < n → suffixed name m ∈ taken) := by
  by_cases hname : name ∈ taken
  · right
    obtain ⟨k, hk, heq, hrow, hend⟩ := firstFree_cases taken name taken.size 2
    have hsize := size_of_taken hname hrow
    have hfree : suffixed name (2 + k) ∉ taken := hend.resolve_right (by omega)
    refine ⟨hname, 2 + k, by omega, by omega, ?_, hfree, hrow⟩
    rw [nextKey, if_pos (Std.HashSet.mem_iff_contains.1 hname), heq]
  · left
    refine ⟨hname, ?_⟩
    rw [nextKey, if_neg (mt Std.HashSet.mem_iff_contains.2 hname)]

theorem nextKey_not_mem (taken : Std.HashSet String) (name : String) :
    nextKey taken name ∉ taken := by
  rcases nextKey_cases taken name with ⟨hfree, heq⟩ | ⟨-, n, -, -, heq, hfree, -⟩
  · rwa [heq]
  · rwa [heq]

/-! ## 3. All keys -/

/-- How a key is made of its field's name. -/
def KeyOf (key name : String) : Prop := key = name ∨ ∃ n, 2 ≤ n ∧ key = suffixed name n

theorem keyOf_nextKey (taken : Std.HashSet String) (name : String) :
    KeyOf (nextKey taken name) name := by
  rcases nextKey_cases taken name with ⟨-, heq⟩ | ⟨-, n, hn, -, heq, -⟩
  · exact .inl heq
  · exact .inr ⟨n, hn, heq⟩

/-- The keys are new and none is repeated. -/
theorem keysFrom_fresh (taken : Std.HashSet String) (names : List String) :
    (∀ key ∈ keysFrom taken names, key ∉ taken) ∧ (keysFrom taken names).Nodup := by
  induction names generalizing taken with
  | nil => exact ⟨fun key hkey => absurd hkey List.not_mem_nil, List.nodup_nil⟩
  | cons name names ih =>
    obtain ⟨hnew, hnodup⟩ := ih (taken.insert (nextKey taken name))
    simp only [Std.HashSet.mem_insert, not_or] at hnew
    refine ⟨List.forall_mem_cons.2 ⟨nextKey_not_mem taken name, fun key hkey => (hnew key hkey).2⟩,
      List.nodup_cons.2 ⟨fun hmem => ?_, hnodup⟩⟩
    exact (hnew _ hmem).1 (beq_self_eq_true _)

theorem keysFrom_named (taken : Std.HashSet String) (names : List String) :
    List.Forall₂ KeyOf (keysFrom taken names) names := by
  induction names generalizing taken with
  | nil => exact .nil
  | cons name names ih => exact .cons (keyOf_nextKey taken name) (ih _)

/-- **No key is repeated.** -/
theorem nodup_keys (t : Template) : t.keys.Nodup := (keysFrom_fresh ∅ _).2

/-- **Each key is its field's name or that with a suffix**, in the order of the fields. -/
theorem keys_named (t : Template) : List.Forall₂ KeyOf t.keys (t.fields.map Field.name) :=
  keysFrom_named ∅ _

end FlowIntake.Template
