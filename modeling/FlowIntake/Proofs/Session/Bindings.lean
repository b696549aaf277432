/-
# Which template an identifier is bound to

The templates of a session are a map from identifiers, in which the last record to write an
identifier wins.  Here the map is plain, and `Session.applyAll` is shown to do to the templates of
a session what the records say of the map, and to count it right.

* `Bindings.after`, `Bindings.fold`: what one record makes of the map, and what many do;
* `Bindings.removed`, `Bindings.fresh`: how many bindings are taken away, and how many records bind
  an identifier that was free;
* `Bindings.size_fold`: the two account for every change of size;
* `Session.bindings_applyAll`, `Session.changes_applyAll`: the session follows the map.
-/
import FlowIntake.Proofs.Packet.Sets
import Mathlib.Data.Set.Card

namespace FlowIntake

/-! ## 1. The map -/

/-- A template record, and the kind of the set that holds it. -/
structure Announcement where
  kind : TemplateKind
  record : TemplateRecord

/-- Whether the record defines a template. -/
def Announcement.isDefinition (a : Announcement) : Bool :=
  match a.record with
  | .definition _ => true
  | .withdrawal _ => false

/-- The template that each identifier is bound to. -/
abbrev Bindings := UInt16 → Option Template

namespace Bindings

/-- Nothing is bound. -/
def empty : Bindings := fun _ => none

/-- What a record makes of the bindings: a definition binds its identifier, whatever was bound to
it; a withdrawal takes the binding away, and one with the identifier of the set takes away every
template of its kind. -/
def after (b : Bindings) (a : Announcement) : Bindings :=
  match a.record with
  | .definition t => Function.update b t.id (some t)
  | .withdrawal id =>
    if id = a.kind.setId then fun i => (b i).filter fun t => t.kind ≠ a.kind
    else Function.update b id none

/-- What records make of the bindings, one after another. -/
def fold (b : Bindings) (as : List Announcement) : Bindings := as.foldl after b

/-- The identifiers that are bound. -/
def bound (b : Bindings) : Set UInt16 := {id | b id ≠ none}

/-- How many identifiers are bound. -/
noncomputable def size (b : Bindings) : Nat := b.bound.ncard

/-- How many bindings a record takes away. -/
noncomputable def lost (b : Bindings) (a : Announcement) : Nat :=
  (b.bound \ (b.after a).bound).ncard

/-- How many bindings records take away, one after another. -/
noncomputable def removed : Bindings → List Announcement → Nat
  | _, [] => 0
  | b, a :: as => b.lost a + removed (b.after a) as

/-- One for a record that defines an identifier which is free, none for any other. -/
def gained (b : Bindings) (a : Announcement) : Nat :=
  match a.record with
  | .definition t => if b t.id = none then 1 else 0
  | .withdrawal _ => 0

/-- How many records define an identifier that is free when they come. -/
def fresh : Bindings → List Announcement → Nat
  | _, [] => 0
  | b, a :: as => b.gained a + fresh (b.after a) as

/-- How many records are definitions, and how many bindings they all take away. -/
noncomputable def changes (b : Bindings) (as : List Announcement) : TemplateChanges :=
  ⟨as.countP Announcement.isDefinition, b.removed as⟩

/-! ## 2. Accounting

Identifiers are finitely many, so that any set of them can be counted. -/

instance : Finite UInt16 := Finite.of_injective UInt16.toFin fun _ _ => UInt16.toFin_inj.mp

theorem mem_bound {b : Bindings} {id : UInt16} : id ∈ b.bound ↔ b id ≠ none := Iff.rfl

/-- A withdrawal binds nothing. -/
theorem bound_after_withdrawal (b : Bindings) (kind : TemplateKind) (id : UInt16) :
    (b.after ⟨kind, .withdrawal id⟩).bound ⊆ b.bound := by
  intro i hi
  simp only [mem_bound, after] at hi ⊢
  intro hnone
  apply hi
  split
  · exact congrArg (Option.filter _) hnone
  · rw [Function.update_apply, hnone, ite_self]

/-- A definition binds its identifier besides those that are bound. -/
theorem bound_after_definition (b : Bindings) (kind : TemplateKind) (t : Template) :
    (b.after ⟨kind, .definition t⟩).bound = insert t.id b.bound := by
  ext i
  simp only [Set.mem_insert_iff, mem_bound, after, Function.update_apply]
  by_cases hid : i = t.id <;> simp [hid]

/-- The new bindings of a record are those of its definition. -/
theorem ncard_bound_gained (b : Bindings) (a : Announcement) :
    ((b.after a).bound \ b.bound).ncard = b.gained a := by
  obtain ⟨kind, t | id⟩ := a
  · simp only [bound_after_definition, gained]
    by_cases hfree : b t.id = none
    · have hmem : t.id ∉ b.bound := fun h => h hfree
      rw [if_pos hfree, Set.insert_sdiff_of_notMem _ hmem, Set.sdiff_self,
        insert_empty_eq]
      exact Set.ncard_singleton t.id
    · rw [if_neg hfree, Set.insert_sdiff_of_mem _ hfree, Set.sdiff_self]
      exact Set.ncard_empty UInt16
  · rw [Set.sdiff_eq_empty.mpr (bound_after_withdrawal b kind id)]
    exact Set.ncard_empty UInt16

/-- What a record loses and gains is the change of size. -/
theorem size_after (b : Bindings) (a : Announcement) :
    (b.after a).size + b.lost a = b.size + b.gained a := by
  have hlost := Set.ncard_sdiff_add_ncard b.bound (b.after a).bound
  have hgained := Set.ncard_sdiff_add_ncard (b.after a).bound b.bound
  rw [ncard_bound_gained, Set.union_comm] at hgained
  simp only [size, lost]
  omega

/-- **Bindings that records take away, and free identifiers that they bind, account for every
change of size**, by induction on the records. -/
theorem size_fold (b : Bindings) (as : List Announcement) :
    (b.fold as).size + b.removed as = b.size + b.fresh as := by
  induction as generalizing b with
  | nil => rfl
  | cons a as ih =>
    have hstep := size_after b a
    have hlater := ih (b.after a)
    simp only [removed, fresh, fold, List.foldl_cons] at hlater ⊢
    omega

theorem fold_append (b : Bindings) (as as' : List Announcement) :
    b.fold (as ++ as') = (b.fold as).fold as' := List.foldl_append

theorem removed_append (b : Bindings) (as as' : List Announcement) :
    b.removed (as ++ as') = b.removed as + (b.fold as).removed as' := by
  induction as generalizing b with
  | nil => exact (Nat.zero_add _).symm
  | cons a as ih =>
    rw [List.cons_append, removed, removed, ih, Nat.add_assoc]
    rfl

/-- The changes of records that follow others are added to theirs. -/
theorem changes_append (b : Bindings) (as as' : List Announcement) :
    b.changes (as ++ as') = b.changes as + (b.fold as).changes as' :=
  TemplateChanges.ext List.countP_append (removed_append b as as')

end Bindings

/-! ## 3. The templates of a session -/

/-- As many keys are found in a table as it has entries. -/
theorem Keyed.ncard_get? {α κ : Type} {key : α → κ} [DecidableEq κ] (t : Keyed α key) :
    {k | t.get? k ≠ none}.ncard = t.size := by
  have hkeys : {k | t.get? k ≠ none} = ((t.entries.map key).toFinset : Set κ) := by
    ext k
    rw [Set.mem_ofPred_eq, Option.ne_none_iff_exists', List.coe_toFinset, Set.mem_ofPred_eq,
      List.mem_map]
    simp only [get?_eq_some_iff]
  rw [hkeys, Set.ncard_coe_finset, List.toFinset_card_of_nodup t.distinct, List.length_map, size]

namespace Session

/-- The templates of a session as a map. -/
def bindings (s : Session) : Bindings := s.template?

theorem size_bindings (s : Session) : s.bindings.size = s.templateCount :=
  Keyed.ncard_get? s.templates

/-- **A record does to the templates of a session what it says of the map.** -/
theorem bindings_apply (kind : TemplateKind) (s : Session) (r : TemplateRecord) :
    (s.apply kind r).1.bindings = s.bindings.after ⟨kind, r⟩ := by
  funext i
  cases r with
  | definition t =>
    simp only [apply, bindings, Bindings.after, template?, install, Keyed.get?_insert,
      Function.update_apply, eq_comm]
  | withdrawal id =>
    simp only [apply, bindings, Bindings.after]
    split
    · exact Keyed.get?_filter _ _ _
    · simp only [template?, withdraw, Keyed.get?_erase, Function.update_apply]

/-- A withdrawal counts what becomes of the number of templates. -/
theorem withdrawn_add_templateCount (kind : TemplateKind) (s : Session) (id : UInt16) :
    (s.apply kind (.withdrawal id)).2.withdrawn
        + (s.apply kind (.withdrawal id)).1.templateCount = s.templateCount := by
  rw [apply]
  split
  · have hle : (s.withdrawAll kind).templateCount ≤ s.templateCount := List.length_filter_le _ _
    exact Nat.sub_add_cancel hle
  · have hsize := Keyed.size_erase s.templates id
    have hone : (if (s.template? id).isSome then 1 else 0)
        = (s.templates.get? id).toList.length := by
      unfold template?
      cases s.templates.get? id <;> rfl
    simp only [hone, withdraw, templateCount]
    omega

/-- **A record is counted as what it is, and a withdrawal by the bindings it takes away.** -/
theorem changes_apply (kind : TemplateKind) (s : Session) (r : TemplateRecord) :
    (s.apply kind r).2 = s.bindings.changes [⟨kind, r⟩] := by
  have hbalance := Bindings.size_after s.bindings ⟨kind, r⟩
  rw [← bindings_apply, size_bindings, size_bindings] at hbalance
  apply TemplateChanges.ext
  · cases r with
    | definition t => rfl
    | withdrawal id =>
      rw [apply]
      split <;> rfl
  · have hlost : (s.bindings.changes [⟨kind, r⟩]).withdrawn = s.bindings.lost ⟨kind, r⟩ := rfl
    rw [hlost]
    cases r with
    | definition t =>
      have hgrow : s.bindings.bound ⊆ (s.bindings.after ⟨kind, .definition t⟩).bound := by
        rw [Bindings.bound_after_definition]
        exact Set.subset_insert t.id _
      rw [Bindings.lost, Set.sdiff_eq_empty.mpr hgrow, Set.ncard_empty]
      rfl
    | withdrawal id =>
      have hcount := withdrawn_add_templateCount kind s id
      simp only [Bindings.gained] at hbalance
      omega

/-- **Records do to the templates of a session what they say of the map.** -/
theorem bindings_applyAll (kind : TemplateKind) (s : Session) (rs : List TemplateRecord) :
    (s.applyAll kind rs).1.bindings = s.bindings.fold (rs.map fun r => ⟨kind, r⟩) := by
  induction rs generalizing s with
  | nil => rfl
  | cons r rs ih =>
    rw [applyAll_cons, ih, bindings_apply, List.map_cons]
    rfl

/-- **Records are counted as what they are, and withdrawals by the bindings they take away.** -/
theorem changes_applyAll (kind : TemplateKind) (s : Session) (rs : List TemplateRecord) :
    (s.applyAll kind rs).2 = s.bindings.changes (rs.map fun r => ⟨kind, r⟩) := by
  induction rs generalizing s with
  | nil => rfl
  | cons r rs ih =>
    have happend := Bindings.changes_append s.bindings [⟨kind, r⟩] (rs.map fun r => ⟨kind, r⟩)
    rw [applyAll_cons, ih, changes_apply, bindings_apply]
    exact happend.symm

end Session

end FlowIntake
