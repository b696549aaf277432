/-
# Templates that packets define are well-formed

Whatever octets a template set holds, a definition that is read from it lays out records of at
least one octet, above the identifiers of sets, with the scope fields its kind calls for.  A record
that would not is malformed, and nothing of it is kept.

* `Field.Resolved`: the element of a field is the one resolved for an identifier of fifteen bits;
* `Template.Acceptable`: what holds of every template that is read from a packet;
* `Layout.Legal.acceptable`, `TemplateRecord.acceptable_of_parse`: one record;
* `TemplateRun.acceptable`: all records of a template set, by induction on them.
-/
import FlowIntake.Proofs.Template.Grammar

namespace FlowIntake

open TemplateRecord

/-! ## 1. Templates -/

/-- The element of the field is what the elements give for an enterprise number and an identifier
of fifteen bits. -/
def Field.Resolved (elements : Registry) (f : Field) : Prop :=
  ∃ enterprise id, id.toNat < 0x8000 ∧ f.element = elements.resolve enterprise id

/-- A template as a collector with these elements reads it from packets. -/
structure Template.Acceptable (elements : Registry) (t : Template) : Prop where
  wellFormed : t.WellFormed
  resolved : ∀ f ∈ t.fields, f.Resolved elements

/-- **A legal definition is acceptable.** -/
theorem Layout.Legal.acceptable {l : Layout} (h : l.Legal) (elements : Registry) :
    (l.template elements).Acceptable elements where
  wellFormed :=
    { id_ge := h.id_ge
      fields_ne := by
        obtain ⟨f, hf, -⟩ := h.length_ne
        exact List.ne_nil_of_mem (List.mem_map_of_mem hf)
      minRecordLength_pos := (l.minRecordLength_pos_iff elements).mpr h.length_ne
      scope_data := fun hkind => by
        have hdata : l.kind = .data := hkind
        rw [template, scopeCount, hdata]
      scope_options := fun hkind => by
        have hoptions : l.kind = .options := hkind
        have hcount : l.scopeCount = l.scopes.toNat := by rw [scopeCount, hoptions]
        rw [template, hcount, List.length_map]
        exact ⟨h.scopes_pos hoptions, h.scopes_le hoptions⟩ }
  resolved := by
    rw [template, List.forall_mem_map]
    intro f hf
    exact ⟨f.enterprise.getD Element.publicEnterprise, f.id, h.id_lt f hf, rfl⟩

/-- **A definition that is read is acceptable**, whatever the octets, and of the kind of its set. -/
theorem TemplateRecord.acceptable_of_parse {kind : TemplateKind} {elements : Registry}
    {c c' : Cursor} {t : Template} (h : parse kind elements c = .ok (.definition t) c') :
    t.kind = kind ∧ t.Acceptable elements := by
  obtain ⟨bs, hspells, -⟩ := spells_of_parse h
  cases hspells with
  | definition hlegal hkind => exact ⟨hkind, hlegal.acceptable elements⟩

/-! ## 2. Template sets -/

/-- **All definitions of a template set are acceptable**, also of one that is malformed further
on. -/
theorem TemplateRun.acceptable {kind : TemplateKind} {elements : Registry} {c : Cursor}
    {rs : List TemplateRecord} {stop : Option TemplateError}
    (h : TemplateRun kind elements c rs stop) {t : Template}
    (ht : .definition t ∈ rs) : t.Acceptable elements := by
  induction h with
  | padding _ => cases ht
  | malformed _ _ => cases ht
  | record _ hparse _ ih =>
    rcases List.mem_cons.mp ht with rfl | hlater
    · exact (acceptable_of_parse hparse).2
    · exact ih hlater

end FlowIntake
