/-
# Where the fields of a record stand in its message

A template may name its fields as it likes: it may repeat a name, and a name may look like another
one with a suffix, as `x_2` does beside `x`.  Keys that are made of names may then be in the way of
later names.  Whatever the names, each field has an entry of its own in the message, in its place.

* `Template.KeyAfter`: how the key of a field comes of its name and the keys before it;
* `Template.Taken.keyAfter_nextKey`, `Template.Taken.keyAfter_keysFrom`: one key, and all of them;
* `MessageContext.fields_message`: the entries of a message.
-/
import FlowIntake.Proofs.Packet.RoundTrip
import FlowIntake.Proofs.Template.Keys

namespace FlowIntake

namespace Template

/-! ## 1. One key -/

/-- How the key of a field comes of its name after the keys of the fields before it: it is the name
when that is free, and else the name with the least suffix that is free, which is at most the place
of the field, counted from one. -/
structure KeyAfter (earlier : List String) (name key : String) : Prop where
  not_mem : key ∉ earlier
  eq_name_iff : key = name ↔ name ∉ earlier
  exists_suffix : name ∈ earlier → ∃ n, 2 ≤ n ∧ n ≤ earlier.length + 1 ∧ key = suffixed name n ∧
    ∀ m, 2 ≤ m → m < n → suffixed name m ∈ earlier

/-- The set holds these keys. -/
structure Taken (taken : Std.HashSet String) (earlier : List String) : Prop where
  mem_iff : ∀ key, key ∈ taken ↔ key ∈ earlier
  size_le : taken.size ≤ earlier.length

namespace Taken

variable {taken : Std.HashSet String} {earlier : List String}

theorem empty : Taken ∅ [] where
  mem_iff _ := ⟨fun h => absurd h Std.HashSet.not_mem_empty, fun h => nomatch h⟩
  size_le := Nat.le_of_eq Std.HashSet.size_empty

theorem insert (h : Taken taken earlier) (key : String) :
    Taken (taken.insert key) (earlier ++ [key]) where
  mem_iff key' := by
    rw [Std.HashSet.mem_insert, h.mem_iff, List.mem_append, List.mem_singleton, beq_iff_eq,
      or_comm, eq_comm]
  size_le := by
    have hone := Std.HashSet.size_insert_le (m := taken) (k := key)
    have hsize := h.size_le
    rw [List.length_append, List.length_singleton]
    omega

/-- **The search for a key ends at the first one that is free.** -/
theorem keyAfter_nextKey (h : Taken taken earlier) (name : String) :
    KeyAfter earlier name (nextKey taken name) := by
  have hfree := nextKey_not_mem taken name
  rw [h.mem_iff] at hfree
  rcases nextKey_cases taken name with ⟨hname, heq⟩ | ⟨hname, n, hlow, hhigh, heq, -, hrow⟩
  · rw [h.mem_iff] at hname
    exact ⟨hfree, iff_of_true heq hname, fun hmem => absurd hmem hname⟩
  · rw [h.mem_iff] at hname
    have hsize := h.size_le
    refine ⟨hfree, iff_of_false ?_ (not_not_intro hname), fun _ => ⟨n, hlow, by omega, heq, ?_⟩⟩
    · rw [heq]
      exact suffixed_ne name n
    · exact fun m hm hlt => (h.mem_iff _).mp (hrow m hm hlt)

/-! ## 2. All keys -/

/-- **Each key comes of its name and the keys before it**, by induction on the names. -/
theorem keyAfter_keysFrom (h : Taken taken earlier) {names : List String} {i : Nat} {name : String}
    (hname : names[i]? = some name) :
    ∃ key, (keysFrom taken names)[i]? = some key ∧
      KeyAfter (earlier ++ (keysFrom taken names).take i) name key := by
  induction names generalizing taken earlier i with
  | nil => cases hname
  | cons first names ih =>
    cases i with
    | zero =>
      cases hname
      refine ⟨_, rfl, ?_⟩
      rw [List.take_zero, List.append_nil]
      exact h.keyAfter_nextKey name
    | succ i =>
      obtain ⟨key, hkey, hafter⟩ := ih (h.insert (nextKey taken first)) hname
      rw [List.append_assoc] at hafter
      exact ⟨key, hkey, hafter⟩

end Taken

/-- The key of a field comes of its name and the keys of the fields before it. -/
theorem keyAfter_keys {t : Template} {i : Nat} {f : Field} (hf : t.fields[i]? = some f) :
    ∃ key, t.keys[i]? = some key ∧ KeyAfter (t.keys.take i) f.name key := by
  have hname : (t.fields.map Field.name)[i]? = some f.name := by
    rw [List.getElem?_map, hf]
    rfl
  exact Taken.empty.keyAfter_keysFrom hname

end Template

/-! ## 3. Messages -/

/-- What stands in a message is found under its key. -/
theorem Message.get?_of_mem {m : Message} (hnodup : (m.fields.map Prod.fst).Nodup) {key : String}
    {v : Value} (h : (key, v) ∈ m.fields) : m.get? key = some v := by
  obtain ⟨before, after, heq⟩ := List.append_of_mem h
  refine List.lookup_eq_some_iff.mpr ⟨before, after, heq, fun p hp => ?_⟩
  rw [heq, List.map_append, List.nodup_append] at hnodup
  have hne := hnodup.2.2 p.1 (List.mem_map_of_mem hp) key List.mem_cons_self
  exact bne_iff_ne.mpr hne.symm

namespace MessageContext

/-- A record has as many entries as its template has fields. -/
theorem size_message (c : MessageContext) (t : Template) {values : List Value}
    (hlength : values.length = t.fields.length) :
    (c.message t values).size = t.fields.length := by
  rw [Message.size, ← List.length_map (f := Prod.snd), (c.reports_message hlength).values, hlength]

/-- They have different keys. -/
theorem nodup_message (c : MessageContext) (t : Template) {values : List Value}
    (hlength : values.length = t.fields.length) :
    ((c.message t values).fields.map Prod.fst).Nodup := by
  rw [(c.reports_message hlength).keys]
  exact t.nodup_keys

/-- **No field of a record is lost or misplaced in its message**, whatever the fields are called.
There are as many entries as fields, under keys of which no two are alike.  Each holds the value of
the field in its place, under the name of that field when no entry before it has that for its key,
and else under the name with the first suffix that is free; and the scopes are the keys of the first
entries, as many as there are scope fields. -/
theorem fields_message (c : MessageContext) (t : Template) {values : List Value}
    (hlength : values.length = t.fields.length) :
    let m := c.message t values
    m.size = t.fields.length ∧ (m.fields.map Prod.fst).Nodup ∧
      (∀ i f v, t.fields[i]? = some f → values[i]? = some v →
        ∃ key, m.fields[i]? = some (key, v) ∧
          Template.KeyAfter ((m.fields.take i).map Prod.fst) f.name key) ∧
      m.scopes = (m.fields.take (min t.scopeCount t.fields.length)).map Prod.fst := by
  intro m
  have hm : m.Reports c t values := c.reports_message hlength
  refine ⟨c.size_message t hlength, c.nodup_message t hlength, fun i f v hf hv => ?_, ?_⟩
  · obtain ⟨key, hkey, hafter⟩ := Template.keyAfter_keys hf
    refine ⟨key, List.getElem?_zip_eq_some.mpr ⟨hkey, hv⟩, ?_⟩
    rwa [List.map_take, hm.keys]
  · rw [List.map_take, hm.keys, hm.scopes, ← t.length_keys, ← List.take_eq_take_min]

/-- The name that the third field would get first belongs to the second one. -/
theorem third_field_passes_over :
    let c : MessageContext := ⟨.v4 ⟨[192, 0, 2, 1], rfl⟩, 0, 0, 0⟩
    let t : Template := ⟨256, .options, 2,
      [⟨⟨9, 1, "x", .unsigned8⟩, 1⟩, ⟨⟨9, 2, "x_2", .unsigned8⟩, 1⟩, ⟨⟨9, 1, "x", .unsigned8⟩, 1⟩]⟩
    let values : List Value := [.unsigned 5, .unsigned 6, .unsigned 7]
    values.length = t.fields.length ∧
      (c.message t values).fields
        = [("x", .unsigned 5), ("x_2", .unsigned 6), ("x_3", .unsigned 7)] ∧
      (c.message t values).scopes = ["x", "x_2"] := by
  intro c t values
  have hlength : values.length = t.fields.length := rfl
  obtain ⟨hsize, -, hentry, hscopes⟩ := fields_message c t hlength
  obtain ⟨e₀, e₁, e₂, hfields⟩ := List.length_eq_three.mp hsize
  obtain ⟨k₀, h₀, hafter₀⟩ := hentry 0 _ _ rfl rfl
  obtain ⟨k₁, h₁, hafter₁⟩ := hentry 1 _ _ rfl rfl
  obtain ⟨k₂, h₂, hafter₂⟩ := hentry 2 _ _ rfl rfl
  rw [hfields] at h₀ hafter₀ h₁ hafter₁ h₂ hafter₂ hscopes
  cases h₀
  cases h₁
  cases h₂
  have hnew : "x_2" ∉ ["x"] := by decide
  have hheld : Template.suffixed "x" 2 ∈ ["x", "x_2"] := by decide
  obtain rfl : k₀ = "x" := hafter₀.eq_name_iff.mpr List.not_mem_nil
  obtain rfl : k₁ = "x_2" := hafter₁.eq_name_iff.mpr hnew
  obtain rfl : k₂ = "x_3" := by
    obtain ⟨n, hlow, hhigh, rfl, -⟩ := hafter₂.exists_suffix List.mem_cons_self
    have hthree : n ≤ 3 := hhigh
    have htwo : n ≠ 2 := by
      rintro rfl
      exact hafter₂.not_mem hheld
    obtain rfl : n = 3 := by omega
    rfl
  exact ⟨hlength, hfields, hscopes⟩

end MessageContext

end FlowIntake
