/-
# Keys tell elements apart

Under the public elements no two elements have the same name and none has that of another with a
suffix.  So a key is taken only by an earlier field of the same element, and the suffix of a key
counts the fields of its element: whoever reads a message can tell from a key which element it is of
and which occurrence.

* `Template.occurrenceKey`, `Template.occurrenceKey_inj`: the key of the n-th field of a name;
* `Template.Counted.nextKey_eq`, `Template.Counted.keysFrom_eq`: the next key, and all keys, where
  names are not each other's suffixed forms;
* `Field.name_eq_iff`: the fields of a name are those of its element;
* `MessageContext.keys_identify`: the keys of a message.
-/
import FlowIntake.Proofs.Element.Names
import FlowIntake.Proofs.Message.Fields

namespace FlowIntake

namespace Template

/-! ## 1. Occurrences of names -/

/-- The key of the `n`-th field of a name, counted from one. -/
def occurrenceKey (name : String) (n : Nat) : String := if n = 1 then name else suffixed name n

/-- None of these names is another one with a suffix. -/
def Unsuffixed (names : Set String) : Prop :=
  ∀ a ∈ names, ∀ b ∈ names, ∀ n, suffixed a n ≠ b

/-- The key of an occurrence tells the name and the number of it. -/
theorem occurrenceKey_inj {names : Set String} (hnames : Unsuffixed names) {a b : String}
    (ha : a ∈ names) (hb : b ∈ names) {m n : Nat} (h : occurrenceKey a m = occurrenceKey b n) :
    a = b ∧ m = n := by
  unfold occurrenceKey at h
  split at h
  · split at h
    · rename_i hm hn
      exact ⟨h, hm.trans hn.symm⟩
    · exact absurd h.symm (hnames b hb a ha n)
  · split at h
    · exact absurd h (hnames a ha b hb m)
    · exact suffixed_inj h

/-- The set holds the keys of all occurrences of these names. -/
def Counted (taken : Std.HashSet String) (earlier : List String) : Prop :=
  ∀ key, key ∈ taken ↔ ∃ name n, 1 ≤ n ∧ n ≤ earlier.count name ∧ key = occurrenceKey name n

namespace Counted

variable {taken : Std.HashSet String} {earlier : List String} {names : Set String}

theorem empty : Counted ∅ [] := by
  intro key
  constructor
  · exact fun h => absurd h Std.HashSet.not_mem_empty
  · rintro ⟨name, n, hlow, hhigh, -⟩
    rw [List.count_nil] at hhigh
    omega

/-- A key of an occurrence is taken when there have been as many. -/
theorem mem_iff (h : Counted taken earlier) (hnames : Unsuffixed names)
    (hearlier : ∀ name ∈ earlier, name ∈ names) {name : String} (hname : name ∈ names) {n : Nat}
    (hn : 1 ≤ n) : occurrenceKey name n ∈ taken ↔ n ≤ earlier.count name := by
  rw [h]
  constructor
  · rintro ⟨name', n', hlow, hhigh, heq⟩
    have hmem : name' ∈ earlier := List.count_pos_iff.mp (by omega)
    obtain ⟨rfl, rfl⟩ := occurrenceKey_inj hnames hname (hearlier name' hmem) heq
    exact hhigh
  · exact fun hle => ⟨name, n, hn, hle, rfl⟩

/-- **The next key of a name is that of its next occurrence.** -/
theorem nextKey_eq (h : Counted taken earlier) (hnames : Unsuffixed names)
    (hearlier : ∀ name ∈ earlier, name ∈ names) {name : String} (hname : name ∈ names) :
    nextKey taken name = occurrenceKey name (earlier.count name + 1) := by
  have hmem : ∀ {n}, 1 ≤ n → (occurrenceKey name n ∈ taken ↔ n ≤ earlier.count name) :=
    h.mem_iff hnames hearlier hname
  have hsuffix : ∀ {n}, 2 ≤ n → occurrenceKey name n = suffixed name n := fun hn =>
    if_neg (by omega)
  have hplain : name ∈ taken ↔ 1 ≤ earlier.count name := hmem (Nat.le_refl 1)
  rcases nextKey_cases taken name with ⟨hfree, heq⟩ | ⟨htaken, n, hlow, -, heq, hfree, hrow⟩
  · rw [hplain] at hfree
    have hnone : earlier.count name = 0 := by omega
    rw [heq, hnone]
    rfl
  · rw [hplain] at htaken
    rw [← hsuffix hlow, hmem (by omega)] at hfree
    -- a smaller suffix would be that of an earlier occurrence, a greater one would leave out one
    have hn : n = earlier.count name + 1 := by
      by_contra hne
      have hnext := hrow (earlier.count name + 1) (by omega) (by omega)
      rw [← hsuffix (by omega), hmem (by omega)] at hnext
      omega
    rw [heq, ← hsuffix hlow, hn]

theorem insert (h : Counted taken earlier) (hnames : Unsuffixed names)
    (hearlier : ∀ name ∈ earlier, name ∈ names) {name : String} (hname : name ∈ names) :
    Counted (taken.insert (nextKey taken name)) (earlier ++ [name]) := by
  intro key
  rw [Std.HashSet.mem_insert, beq_iff_eq, h.nextKey_eq hnames hearlier hname, h]
  constructor
  · rintro (rfl | ⟨name', n, hlow, hhigh, heq⟩)
    · refine ⟨name, _, Nat.le_add_left 1 _, ?_, rfl⟩
      rw [List.count_append, List.count_singleton_self]
    · refine ⟨name', n, hlow, ?_, heq⟩
      rw [List.count_append]
      omega
  · rintro ⟨name', n, hlow, hhigh, heq⟩
    rw [List.count_append, List.count_singleton] at hhigh
    by_cases hlast : name = name' ∧ n = earlier.count name + 1
    · left
      rw [heq, ← hlast.1, hlast.2]
    · refine .inr ⟨name', n, hlow, ?_, heq⟩
      split at hhigh
      · rename_i hsame
        have hsame := beq_iff_eq.mp hsame
        rw [not_and] at hlast
        have hn := hlast hsame
        rw [hsame] at hn
        omega
      · exact hhigh

/-- **Each key is that of an occurrence**, by induction on the names. -/
theorem keysFrom_eq (h : Counted taken earlier) (hnames : Unsuffixed names)
    (hearlier : ∀ name ∈ earlier, name ∈ names) {later : List String}
    (hlater : ∀ name ∈ later, name ∈ names) {i : Nat} {name : String}
    (hname : later[i]? = some name) :
    (keysFrom taken later)[i]?
      = some (occurrenceKey name ((earlier ++ later.take (i + 1)).count name)) := by
  induction later generalizing taken earlier i with
  | nil => cases hname
  | cons next later ih =>
    obtain ⟨hnext, hrest⟩ := List.forall_mem_cons.mp hlater
    cases i with
    | zero =>
      cases hname
      have hkey := h.nextKey_eq hnames hearlier hnext
      rw [List.take_succ_cons, List.take_zero, List.count_append, List.count_singleton_self, ← hkey]
      rfl
    | succ i =>
      have hearlier' : ∀ name ∈ earlier ++ [next], name ∈ names :=
        List.forall_mem_append.mpr ⟨hearlier, List.forall_mem_singleton.mpr hnext⟩
      have hkeys := ih (h.insert hnames hearlier hnext) hearlier' hrest hname
      rw [List.append_assoc] at hkeys
      exact hkeys

end Counted

end Template

/-! ## 2. Names of elements -/

/-- The names of all elements under the public ones. -/
def Registry.publicNames : Set String :=
  {name | ∃ enterprise id, name = (Registry.iana.resolve enterprise id).name}

theorem Registry.unsuffixed_publicNames : Template.Unsuffixed publicNames := by
  rintro _ ⟨enterprise, id, rfl⟩ _ ⟨enterprise', id', rfl⟩ n
  exact (named_resolve enterprise id).suffixed_ne (named_resolve enterprise' id') n

namespace Field

/-- The element of the field is what the elements give for its numbers. -/
def IsResolved (elements : Registry) (f : Field) : Prop :=
  f.element = elements.resolve f.element.enterprise f.element.id

theorem isResolved_resolve (elements : Registry) (enterprise : UInt32) (id length : UInt16) :
    (⟨elements.resolve enterprise id, length⟩ : Field).IsResolved elements := by
  obtain ⟨henterprise, hid⟩ := Prod.mk.inj (elements.key_resolve enterprise id)
  simp only [IsResolved, henterprise, hid]

theorem name_mem_publicNames {f : Field} (h : f.IsResolved Registry.iana) :
    f.name ∈ Registry.publicNames := ⟨_, _, congrArg Element.name h⟩

/-- **The fields of a name are those of its element.** -/
theorem name_eq_iff {f g : Field} (hf : f.IsResolved Registry.iana)
    (hg : g.IsResolved Registry.iana) : f.name = g.name ↔ f.element.key = g.element.key := by
  constructor
  · intro h
    rw [name, name, hf, hg] at h
    obtain ⟨henterprise, hid⟩ :=
      (Registry.named_resolve _ _).unique (Registry.named_resolve _ _) h
    exact Prod.ext henterprise hid
  · intro h
    obtain ⟨henterprise, hid⟩ := Prod.mk.inj h
    rw [name, name, hf, hg, henterprise, hid]

end Field

namespace Template

/-- How many of the first `n` fields are of an element. -/
def countElement (t : Template) (n : Nat) (e : Element) : Nat :=
  (t.fields.take n).countP fun g => g.element.key = e.key

theorem countElement_succ {t : Template} {i : Nat} {f : Field} (hf : t.fields[i]? = some f) :
    t.countElement (i + 1) f.element = t.countElement i f.element + 1 := by
  rw [countElement, List.take_add_one, hf, Option.toList_some, List.countP_append,
    List.countP_singleton, if_pos (decide_eq_true rfl)]
  rfl

variable {t : Template} (hresolved : ∀ f ∈ t.fields, f.IsResolved Registry.iana)
include hresolved

/-- As many of the first fields have the name of a field as are of its element. -/
theorem count_names {f : Field} (hf : f ∈ t.fields) (n : Nat) :
    ((t.fields.map Field.name).take n).count f.name = t.countElement n f.element := by
  rw [← List.map_take, List.count, List.countP_map, countElement]
  refine List.countP_congr fun g hg => ?_
  have hiff := Field.name_eq_iff (hresolved g (List.mem_of_mem_take hg)) (hresolved f hf)
  simp only [Function.comp_apply, beq_iff_eq, decide_eq_true_eq]
  exact hiff

/-- **The key of a field says which occurrence of its element it is.** -/
theorem keys_eq {i : Nat} {f : Field} (hf : t.fields[i]? = some f) :
    t.keys[i]? = some (occurrenceKey f.name (t.countElement (i + 1) f.element)) := by
  have hname : (t.fields.map Field.name)[i]? = some f.name := by
    rw [List.getElem?_map, hf]
    rfl
  have hnames : ∀ name ∈ t.fields.map Field.name, name ∈ Registry.publicNames := by
    rw [List.forall_mem_map]
    exact fun g hg => Field.name_mem_publicNames (hresolved g hg)
  have hkeys := Counted.empty.keysFrom_eq Registry.unsuffixed_publicNames
    (List.forall_mem_nil _) hnames hname
  rwa [List.nil_append, count_names hresolved (List.mem_of_getElem? hf)] at hkeys

end Template

/-! ## 3. Messages -/

namespace MessageContext

/-- **Keys tell elements apart** in the message of a template whose elements are resolved under the
public ones.  The key of the first field of an element is the name of that element, and by the name
its value is found.  The key of a later field is the name with the number of fields of the element
up to that one, and that is no name of any element.  And different elements have different names. -/
theorem keys_identify (c : MessageContext) {t : Template}
    (hresolved : ∀ f ∈ t.fields, f.IsResolved Registry.iana) {values : List Value}
    (hlength : values.length = t.fields.length) :
    let m := c.message t values
    (∀ i f v, t.fields[i]? = some f → values[i]? = some v →
      ((∀ g ∈ t.fields.take i, g.element.key ≠ f.element.key) →
        m.fields[i]? = some (f.name, v) ∧ m.get? f.name = some v) ∧
      ((∃ g ∈ t.fields.take i, g.element.key = f.element.key) →
        ∃ key, key = Template.suffixed f.name (t.countElement (i + 1) f.element) ∧
          m.fields[i]? = some (key, v) ∧
          ∀ enterprise id, key ≠ (Registry.iana.resolve enterprise id).name)) ∧
    ∀ enterprise id enterprise' id',
      (Registry.iana.resolve enterprise id).name = (Registry.iana.resolve enterprise' id').name →
      enterprise = enterprise' ∧ id = id' := by
  intro m
  refine ⟨fun i f v hf hv => ?_, fun enterprise id enterprise' id' => ?_⟩
  · have hfield : m.fields[i]?
        = some (Template.occurrenceKey f.name (t.countElement (i + 1) f.element), v) :=
      List.getElem?_zip_eq_some.mpr ⟨Template.keys_eq hresolved hf, hv⟩
    have hsucc := Template.countElement_succ hf
    constructor
    · intro hfirst
      have hnone : t.countElement i f.element = 0 :=
        List.countP_eq_zero.mpr fun g hg => by simpa using hfirst g hg
      rw [hsucc, hnone] at hfield
      have hnodup : (m.fields.map Prod.fst).Nodup := c.nodup_message t hlength
      exact ⟨hfield, Message.get?_of_mem hnodup (List.mem_of_getElem? hfield)⟩
    · rintro ⟨g, hg, hsame⟩
      have hsome : 0 < t.countElement i f.element :=
        List.countP_pos_iff.mpr ⟨g, hg, decide_eq_true hsame⟩
      rw [Template.occurrenceKey, if_neg (by omega)] at hfield
      refine ⟨_, rfl, hfield, fun enterprise id => ?_⟩
      exact Registry.unsuffixed_publicNames _
        (Field.name_mem_publicNames (hresolved f (List.mem_of_getElem? hf))) _ ⟨_, _, rfl⟩ _
  · exact (Registry.named_resolve enterprise id).unique (Registry.named_resolve enterprise' id')

/-- A count, the count in the other direction, and the first one again. -/
theorem count_of_either_direction :
    let c : MessageContext := ⟨.v4 ⟨[192, 0, 2, 1], rfl⟩, 0, 0, 0⟩
    let elements := Registry.iana
    let t : Template := ⟨256, .data, 0,
      [⟨elements.resolve 0 2, 8⟩, ⟨elements.resolve 29305 2, 8⟩, ⟨elements.resolve 0 2, 8⟩]⟩
    let values : List Value := [.unsigned 5, .unsigned 6, .unsigned 7]
    (∀ f ∈ t.fields, f.IsResolved elements) ∧ values.length = t.fields.length ∧
      (c.message t values).fields
        = [("packetDeltaCount", .unsigned 5), ("reversePacketDeltaCount", .unsigned 6),
            ("packetDeltaCount_2", .unsigned 7)] ∧
      (c.message t values).get? "packetDeltaCount" = some (.unsigned 5) := by
  intro c elements t values
  have hresolved : ∀ f ∈ t.fields, f.IsResolved elements :=
    List.forall_mem_cons.mpr ⟨Field.isResolved_resolve _ 0 2 8,
      List.forall_mem_cons.mpr ⟨Field.isResolved_resolve _ 29305 2 8,
        List.forall_mem_singleton.mpr (Field.isResolved_resolve _ 0 2 8)⟩⟩
  have hlength : values.length = t.fields.length := rfl
  have hforward : (elements.resolve 0 2).name = "packetDeltaCount" := by decide +kernel
  have hreverse : (elements.resolve 29305 2).name = "reversePacketDeltaCount" := by decide +kernel
  have hother : (elements.resolve 0 2).key ≠ (elements.resolve 29305 2).key := by
    rw [elements.key_resolve, elements.key_resolve]
    decide
  obtain ⟨hentry, -⟩ := keys_identify c hresolved hlength
  obtain ⟨h₀, hget⟩ := (hentry 0 _ _ rfl rfl).1 (List.forall_mem_nil _)
  obtain ⟨h₁, -⟩ := (hentry 1 _ _ rfl rfl).1 (List.forall_mem_singleton.mpr hother)
  obtain ⟨key, hkey, h₂, -⟩ := (hentry 2 _ _ rfl rfl).2 ⟨_, List.mem_cons_self, rfl⟩
  have hcount : t.countElement 3 (elements.resolve 0 2) = 2 := by decide +kernel
  have hsize := c.size_message t hlength
  obtain ⟨e₀, e₁, e₂, hfields⟩ := List.length_eq_three.mp hsize
  rw [hfields] at h₀ h₁ h₂
  cases h₀
  cases h₁
  cases h₂
  have hsuffixed : key = "packetDeltaCount_2" := by
    have hname : (⟨elements.resolve 0 2, 8⟩ : Field).name = "packetDeltaCount" := hforward
    rw [hkey, hname, hcount]
    decide
  refine ⟨hresolved, hlength, ?_, ?_⟩
  · rw [hfields, hsuffixed]
    simp only [Field.name, hforward, hreverse]
  · rw [← hforward]
    exact hget

end MessageContext

end FlowIntake
