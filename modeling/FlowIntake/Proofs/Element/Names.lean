/-
# The names of elements tell them apart

An element is named by the table of public elements, as the reverse of one, or, when nothing is
known of it, by its numbers.  Names of the table are run together out of letters and digits, and
those that are made of numbers have underscores before the numbers, so that the two do not meet.

* `Element.Spelled`, `Element.exists_spelled`: the names of the table letter by letter, and what is
  checked of them;
* `Element.nodup_reverseNames`: no two names of the table have the same reverse;
* `Element.Named`, `Registry.named_resolve`: how elements are named;
* `Element.Named.unique`: different elements have different names;
* `Element.Named.suffixed_ne`: no name is another one with a suffix.
-/
import FlowIntake.Element.Public
import FlowIntake.Proofs.Template.Keys

namespace FlowIntake

namespace Element

/-! ## 1. The table -/

/-- The names of the rows, letter by letter.  Texts are compared by their octets, which are slow to
come by; letters can be looked at one at a time. -/
inductive Spelled : List (Nat × String × DataType) → List (List Char) → Prop
  | nil : Spelled [] []
  | cons {id : Nat} {type : DataType} {name : List Char} {rows : List (Nat × String × DataType)}
      {names : List (List Char)} :
      Spelled rows names → Spelled ((id, String.ofList name, type) :: rows) (name :: names)

/-- The letters with the first one as a capital. -/
def capitalised : List Char → List Char
  | [] => []
  | c :: cs => c.toUpper :: cs

/-- The number whose digits in base 256 are the letters. -/
def spelling (name : List Char) : Nat := name.foldl (fun n c => n * 256 + c.toNat) 0

/-- Whether the numbers differ from one another and from those whose bits are set in `seen`. -/
def apart (seen : Nat) : List Nat → Bool
  | [] => true
  | n :: ns => !seen.testBit n && apart (seen ||| 1 <<< n) ns

theorem nodup_of_apart {seen : Nat} {ns : List Nat} (h : apart seen ns = true) :
    (∀ n ∈ ns, seen.testBit n = false) ∧ ns.Nodup := by
  induction ns generalizing seen with
  | nil => exact ⟨List.forall_mem_nil _, List.nodup_nil⟩
  | cons n ns ih =>
    rw [apart, Bool.and_eq_true, Bool.not_eq_true'] at h
    obtain ⟨hothers, hnodup⟩ := ih h.2
    have hsplit : ∀ m ∈ ns, seen.testBit m = false ∧ n ≠ m := by
      intro m hm
      have hbit := hothers m hm
      rw [Nat.testBit_or, Nat.one_shiftLeft, Nat.testBit_two_pow, Bool.or_eq_false_iff,
        decide_eq_false_iff_not] at hbit
      exact hbit
    exact ⟨List.forall_mem_cons.mpr ⟨h.1, fun m hm => (hsplit m hm).1⟩,
      List.nodup_cons.mpr ⟨fun hmem => (hsplit n hmem).2 rfl, hnodup⟩⟩

/-- **What is checked of the names in the table.**  They have no underscore, none begins as the
reverse of another does, none is the one that numbers are added to, and with a capital they are
different: the numbers they spell leave different remainders. -/
theorem exists_spelled : ∃ names : List (List Char), Spelled publicTable names ∧
    (∀ name ∈ names, '_' ∉ name ∧ ¬['r', 'e', 'v', 'e', 'r', 's', 'e'] <+: name ∧
      name ≠ ['u', 'n', 'k', 'n', 'o', 'w', 'n']) ∧
    apart 0 (names.map fun name => spelling (capitalised name) % 15075) = true := by
  apply Exists.intro
  apply And.intro
  case left =>
    repeat apply Spelled.cons
    exact Spelled.nil
  case right => decide +kernel

theorem Spelled.names_eq {rows : List (Nat × String × DataType)} {names : List (List Char)}
    (h : Spelled rows names) : rows.map (·.2.1) = names.map String.ofList := by
  induction h with
  | nil => rfl
  | cons _ ih => exact congrArg _ ih

/-- A name of the table is plain: no underscore is in it, and it is neither like the name of a
reverse nor the one that numbers are added to. -/
structure Plain (name : String) : Prop where
  no_underscore : '_' ∉ name.toList
  no_reverse : ¬['r', 'e', 'v', 'e', 'r', 's', 'e'] <+: name.toList
  ne_unknown : name ≠ "unknown"

theorem plain_of_mem {row : Nat × String × DataType} (h : row ∈ publicTable) : Plain row.2.1 := by
  obtain ⟨names, hspelled, hplain, -⟩ := exists_spelled
  have hmem : row.2.1 ∈ names.map String.ofList := by
    rw [← hspelled.names_eq]
    exact List.mem_map_of_mem h
  obtain ⟨name, hname, heq⟩ := List.mem_map.mp hmem
  obtain ⟨hunderscore, hreverse, hunknown⟩ := hplain name hname
  rw [← heq]
  refine ⟨?_, ?_, fun h => hunknown ?_⟩
  · rwa [String.toList_ofList]
  · rwa [String.toList_ofList]
  · have hletters := congrArg String.toList h
    rwa [String.toList_ofList] at hletters

theorem toList_reverseName (name : String) :
    (reverseName name).toList = ['r', 'e', 'v', 'e', 'r', 's', 'e'] ++ capitalised name.toList := by
  unfold reverseName
  cases name.toList with
  | nil => rfl
  | cons c cs =>
    simp only [String.toList_append, String.toList_ofList]
    rfl

/-- **No two names of the table have the same reverse.** -/
theorem nodup_reverseNames : (publicTable.map fun row => reverseName row.2.1).Nodup := by
  obtain ⟨names, hspelled, -, hapart⟩ := exists_spelled
  have hnames : publicTable.map (fun row => reverseName row.2.1)
      = names.map fun name => reverseName (String.ofList name) := by
    have heq := congrArg (List.map reverseName) hspelled.names_eq
    rwa [List.map_map, List.map_map] at heq
  have hremainders := List.pairwise_map.mp (nodup_of_apart hapart).2
  rw [hnames, List.Nodup, List.pairwise_map]
  refine hremainders.imp fun hne h => hne ?_
  rw [← String.toList_inj, toList_reverseName, toList_reverseName, List.append_cancel_left_eq,
    String.toList_ofList, String.toList_ofList] at h
  rw [h]

/-- A row of the table is told by its name. -/
theorem eq_of_name_eq {row row' : Nat × String × DataType} (hrow : row ∈ publicTable)
    (hrow' : row' ∈ publicTable) (h : row.2.1 = row'.2.1) : row = row' :=
  List.inj_on_of_nodup_map nodup_reverseNames hrow hrow' (congrArg reverseName h)

/-! ## 2. All names -/

/-- How elements are named. -/
inductive Named : UInt32 → UInt16 → String → Prop
  | listed {row : Nat × String × DataType} (h : row ∈ publicTable) :
      Named publicEnterprise (UInt16.ofNat row.1) row.2.1
  | reversed {row : Nat × String × DataType} (h : row ∈ publicTable) :
      Named reverseEnterprise (UInt16.ofNat row.1) (reverseName row.2.1)
  | unknown (id : UInt16) : Named publicEnterprise id (Template.suffixed "unknown" id.toNat)
  | foreign (enterprise : UInt32) (id : UInt16) :
      Named enterprise id
        (Template.suffixed (Template.suffixed "enterprise" enterprise.toNat) id.toNat)

theorem named_undeclared (enterprise : UInt32) (id : UInt16) :
    Named enterprise id (undeclaredName enterprise id) := by
  unfold undeclaredName
  split
  · rename_i hpublic
    rw [hpublic]
    exact .unknown id
  · exact .foreign enterprise id

end Element

/-- **How the registry of public elements names any element.** -/
theorem Registry.named_resolve (enterprise : UInt32) (id : UInt16) :
    Element.Named enterprise id (Registry.iana.resolve enterprise id).name := by
  have hrow : ∀ {key e}, Registry.iana.get? key = some e →
      ∃ row ∈ Element.publicTable, e = Element.ofRow row ∧ key = (Element.ofRow row).key := by
    intro key e he
    obtain ⟨hmem, hkey⟩ := Keyed.get?_eq_some_iff.mp he
    obtain ⟨row, hrow, rfl⟩ := List.mem_map.mp hmem
    exact ⟨row, hrow, rfl, hkey.symm⟩
  unfold Registry.resolve
  cases hdeclared : Registry.iana.get? (enterprise, id) with
  | some e =>
    obtain ⟨row, hmem, rfl, hkey⟩ := hrow hdeclared
    cases hkey
    exact .listed hmem
  | none =>
    by_cases hreverse : enterprise = Element.reverseEnterprise
    · cases hforward : Registry.iana.get? (Element.publicEnterprise, id) with
      | some forward =>
        obtain ⟨row, hmem, rfl, hkey⟩ := hrow hforward
        cases hkey
        simp only [if_pos hreverse]
        rw [hreverse]
        exact .reversed hmem
      | none =>
        simp only [if_pos hreverse]
        exact Element.named_undeclared enterprise id
    · simp only [if_neg hreverse]
      exact Element.named_undeclared enterprise id

namespace Element

/-! ## 3. No two alike -/

/-- No letter but the underscore becomes one as a capital. -/
theorem eq_underscore_of_toUpper {c : Char} (h : c.toUpper = '_') : c = '_' := by
  unfold Char.toUpper at h
  split at h
  · rename_i hlower
    have hval := congrArg Char.val h
    dsimp only at hval
    grind
  · exact h

theorem underscore_not_mem_reverseName {row : Nat × String × DataType} (h : row ∈ publicTable) :
    '_' ∉ (reverseName row.2.1).toList := by
  have hplain := (plain_of_mem h).no_underscore
  rw [toList_reverseName, List.mem_append, not_or]
  refine ⟨by decide, ?_⟩
  cases hname : row.2.1.toList with
  | nil => exact List.not_mem_nil
  | cons c cs =>
    rw [hname, List.mem_cons, not_or] at hplain
    rw [capitalised, List.mem_cons, not_or]
    exact ⟨fun hc => hplain.1 (eq_underscore_of_toUpper hc.symm).symm, hplain.2⟩

/-- A name of the table is not like that of a reverse. -/
theorem ne_reverseName {row : Nat × String × DataType} (h : row ∈ publicTable) (name : String) :
    row.2.1 ≠ reverseName name := by
  intro heq
  refine (plain_of_mem h).no_reverse ?_
  rw [heq, toList_reverseName]
  exact List.prefix_append _ _

/-- A name without underscore has no suffix. -/
theorem ne_suffixed {name : String} (h : '_' ∉ name.toList) (stem : String) (n : Nat) :
    name ≠ Template.suffixed stem n := fun heq =>
  h (heq ▸ Template.underscore_mem_suffixed stem n)

/-- **Different elements have different names.** -/
theorem Named.unique {enterprise enterprise' : UInt32} {id id' : UInt16} {name name' : String}
    (h : Named enterprise id name) (h' : Named enterprise' id' name') (heq : name = name') :
    enterprise = enterprise' ∧ id = id' := by
  cases h with
  | listed hrow =>
    have hplain := (plain_of_mem hrow).no_underscore
    cases h' with
    | listed hrow' =>
      rw [eq_of_name_eq hrow hrow' heq]
      exact ⟨rfl, rfl⟩
    | reversed _ => exact absurd heq (ne_reverseName hrow _)
    | unknown _ => exact absurd heq (ne_suffixed hplain _ _)
    | foreign _ _ => exact absurd heq (ne_suffixed hplain _ _)
  | reversed hrow =>
    have hplain := underscore_not_mem_reverseName hrow
    cases h' with
    | listed hrow' => exact absurd heq.symm (ne_reverseName hrow' _)
    | reversed hrow' =>
      rw [List.inj_on_of_nodup_map nodup_reverseNames hrow hrow' heq]
      exact ⟨rfl, rfl⟩
    | unknown _ => exact absurd heq (ne_suffixed hplain _ _)
    | foreign _ _ => exact absurd heq (ne_suffixed hplain _ _)
  | unknown id =>
    cases h' with
    | listed hrow' => exact absurd heq.symm (ne_suffixed (plain_of_mem hrow').no_underscore _ _)
    | reversed hrow' =>
      exact absurd heq.symm (ne_suffixed (underscore_not_mem_reverseName hrow') _ _)
    | unknown id' => exact ⟨rfl, UInt16.toNat_inj.mp (Template.suffixed_inj heq).2⟩
    | foreign _ _ => exact absurd (Template.suffixed_inj heq).1 (ne_suffixed (by decide) _ _)
  | foreign enterprise id =>
    cases h' with
    | listed hrow' => exact absurd heq.symm (ne_suffixed (plain_of_mem hrow').no_underscore _ _)
    | reversed hrow' =>
      exact absurd heq.symm (ne_suffixed (underscore_not_mem_reverseName hrow') _ _)
    | unknown _ =>
      exact absurd (Template.suffixed_inj heq).1.symm (ne_suffixed (by decide) _ _)
    | foreign enterprise' id' =>
      obtain ⟨hstem, hid⟩ := Template.suffixed_inj heq
      exact ⟨UInt32.toNat_inj.mp (Template.suffixed_inj hstem).2, UInt16.toNat_inj.mp hid⟩

/-- **No name is another one with a suffix.** -/
theorem Named.suffixed_ne {enterprise enterprise' : UInt32} {id id' : UInt16} {name name' : String}
    (h : Named enterprise id name) (h' : Named enterprise' id' name') (n : Nat) :
    Template.suffixed name n ≠ name' := by
  intro heq
  cases h' with
  | listed hrow' => exact ne_suffixed (plain_of_mem hrow').no_underscore _ _ heq.symm
  | reversed hrow' => exact ne_suffixed (underscore_not_mem_reverseName hrow') _ _ heq.symm
  | unknown _ =>
    have hname : name = "unknown" := (Template.suffixed_inj heq).1
    cases h with
    | listed hrow => exact (plain_of_mem hrow).ne_unknown hname
    | reversed hrow =>
      have hletters := congrArg String.toList hname
      rw [toList_reverseName] at hletters
      cases hletters
    | unknown _ => exact ne_suffixed (by decide) _ _ hname.symm
    | foreign _ _ => exact ne_suffixed (by decide) _ _ hname.symm
  | foreign enterprise' _ =>
    have hname : name = Template.suffixed "enterprise" enterprise'.toNat :=
      (Template.suffixed_inj heq).1
    cases h with
    | listed hrow => exact ne_suffixed (plain_of_mem hrow).no_underscore _ _ hname
    | reversed hrow => exact ne_suffixed (underscore_not_mem_reverseName hrow) _ _ hname
    | unknown _ => exact absurd (Template.suffixed_inj hname).1 (by decide)
    | foreign _ _ => exact ne_suffixed (by decide) _ _ (Template.suffixed_inj hname).1.symm

end Element

end FlowIntake
