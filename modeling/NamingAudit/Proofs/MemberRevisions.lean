import Mathlib.Data.List.Nodup
import Mathlib.Logic.Relation
import NamingAudit.Json.Shape

/-! Objects that say the same to who reads them. A form lists the keys that a reader knows and the contents
that say no more than a missing member would. Members under other keys may come, members with such a
content may go, and all may change places, at any depth: one such step leaves alone what the reader finds
under each key, and so do all steps together. -/

namespace NamingAudit.Json

/-- What a reader knows of a value: nothing but the value as it stands, or the parts that an object may
have and the members that it takes for granted. -/
inductive Form where
  | plain
  | record (parts : List (String × Form)) (idle : List (String × Value))

/-- One step from an object to another that a reader of the form does not tell from it. -/
inductive Revision : Form → Value → Value → Prop
  | gains {parts : List (String × Form)} {idle : List (String × Value)}
      (front back : List (String × Value)) (key : String) (value : Value)
      (unknown : parts.lookup key = none) :
      Revision (.record parts idle) (.object (front ++ back)) (.object (front ++ (key, value) :: back))
  | loses {parts : List (String × Form)} {idle members : List (String × Value)} (key : String)
      (value : Value) (granted : (key, value) ∈ idle) (present : members.lookup key = some value) :
      Revision (.record parts idle) (.object members)
        (.object (members.filter fun member => member.1 != key))
  | rearranges {parts : List (String × Form)} {idle members others : List (String × Value)}
      (distinct : (members.map Prod.fst).Nodup) (same : members.Perm others) :
      Revision (.record parts idle) (.object members) (.object others)
  | within {parts : List (String × Form)} {idle : List (String × Value)} {form : Form}
      {before after : Value} (front back : List (String × Value)) (key : String)
      (known : parts.lookup key = some form) (revised : Revision form before after) :
      Revision (.record parts idle) (.object (front ++ (key, before) :: back))
        (.object (front ++ (key, after) :: back))

inductive Change (form : Form) (isIdle : Value → Prop) : Option Value → Option Value → Prop
  | none (member : Option Value) : Change form isIdle member member
  | lost {value : Value} (idle : isIdle value) : Change form isIdle (some value) none
  | revised {before after : Value} (revision : Revision form before after) :
      Change form isIdle (some before) (some after)

section Lookup
variable {members others front back : List (String × Value)} {key other : String} {value : Value}

theorem lookup_append_cons_of_ne (apart : key ≠ other) :
    (front ++ (other, value) :: back).lookup key = (front ++ back).lookup key := by
  have missed : (key == other) = false := beq_false_of_ne apart
  rw [List.lookup_append, List.lookup_append, List.lookup_cons, missed]

theorem lookup_filter_of_ne (apart : key ≠ other) :
    (members.filter fun member => member.1 != other).lookup key = members.lookup key := by
  induction members with
  | nil => rfl
  | cons member rest ih =>
    obtain ⟨name, content⟩ := member
    by_cases dropped : name = other
    · have missed : (key == name) = false := beq_false_of_ne (dropped ▸ apart)
      rw [List.filter_cons_of_neg (by simpa using dropped), ih, List.lookup_cons, missed]
    · rw [List.filter_cons_of_pos (by simpa using dropped), List.lookup_cons, List.lookup_cons, ih]

theorem lookup_filter_self :
    (members.filter fun member => member.1 != key).lookup key = none := by
  rw [List.lookup_eq_none_iff]
  intro member kept
  rw [bne_comm]
  exact (List.mem_filter.mp kept).2

theorem lookup_eq_some_iff_mem (distinct : (members.map Prod.fst).Nodup) :
    members.lookup key = some value ↔ (key, value) ∈ members := by
  constructor
  · intro found
    obtain ⟨front, back, rfl, _⟩ := List.lookup_eq_some_iff.mp found
    exact List.mem_append_right front List.mem_cons_self
  · intro member
    obtain ⟨front, back, rfl⟩ := List.append_of_mem member
    rw [List.map_append, List.nodup_append] at distinct
    refine List.lookup_eq_some_iff.mpr ⟨front, back, rfl, fun before inside => bne_iff_ne.mpr ?_⟩
    intro same
    exact distinct.2.2 before.1 (List.mem_map_of_mem inside) key (by simp) same.symm

theorem lookup_perm (distinct : (members.map Prod.fst).Nodup) (same : members.Perm others) :
    others.lookup key = members.lookup key := by
  have distinctToo : (others.map Prod.fst).Nodup := (same.map Prod.fst).nodup_iff.mp distinct
  ext value
  rw [lookup_eq_some_iff_mem distinctToo, lookup_eq_some_iff_mem distinct, same.mem_iff]

end Lookup

variable {parts : List (String × Form)} {idle members others : List (String × Value)}
  {form : Form} {key : String} {before after : Value} {α β : Type}

theorem Revision.objects (revision : Revision form before after) :
    ∃ members others, before = .object members ∧ after = .object others := by
  cases revision <;> exact ⟨_, _, rfl, rfl⟩

theorem Revision.change (revision : Revision (.record parts idle) (.object members) (.object others))
    (known : parts.lookup key = some form) :
    Change form (fun value => (key, value) ∈ idle) (members.lookup key) (others.lookup key) := by
  cases revision with
  | gains front back added value unknown =>
    have apart : key ≠ added := by
      rintro rfl
      rw [unknown] at known
      contradiction
    rw [lookup_append_cons_of_ne apart]
    exact .none _
  | loses dropped value granted present =>
    by_cases same : key = dropped
    · subst same
      rw [present, lookup_filter_self]
      exact .lost granted
    · rw [lookup_filter_of_ne same]
      exact .none _
  | rearranges distinct same =>
    rw [lookup_perm distinct same]
    exact .none _
  | within front back changed knownToo revised =>
    by_cases same : key = changed
    · subst same
      rw [known, Option.some.injEq] at knownToo
      subst knownToo
      rw [List.lookup_append, List.lookup_append, List.lookup_cons_self, List.lookup_cons_self]
      -- A member in front with the same key hides the change.
      cases front.lookup key with
      | none => exact .revised revised
      | some front => exact .none _
    · rw [lookup_append_cons_of_ne same, lookup_append_cons_of_ne same]
      exact .none _

def Respects (form : Form) (read : Value → Shaped α) : Prop :=
  ∀ before after, Revision form before after → read after = read before

theorem respects_plain (read : Value → Shaped α) : Respects .plain read := by
  intro before after revision
  cases revision

theorem Respects.asOptional {convert : Value → Shaped α} (respects : Respects form convert) :
    Respects form (Value.asOptional convert) := by
  intro before after revision
  obtain ⟨members, others, rfl, rfl⟩ := revision.objects
  exact congrArg (Except.map some) (respects _ _ revision)

theorem Respects.eq_of_eqvGen {read : Value → Shaped α} (respects : Respects form read)
    (same : Relation.EqvGen (Revision form) before after) : read after = read before := by
  induction same with
  | rel before after revision => exact respects before after revision
  | refl => rfl
  | symm _ _ _ ih => exact ih.symm
  | trans _ _ _ _ _ ih ihNext => exact ihNext.trans ih

theorem field?_of_none {convert : Value → Shaped α} (absent : members.lookup key = none) :
    field? members key convert = .ok none := by
  rw [field?, absent]

theorem field?_of_some {convert : Value → Shaped α} (key : String) (value : Value)
    (present : members.lookup key = some value) :
    field? members key convert = (convert value).map some := by
  rw [field?, present]

section Parts
variable (revision : Revision (.record parts idle) (.object members) (.object others)) (key)
  (known : parts.lookup key = some form) {convert : Value → Shaped α}
  (respects : Respects form convert)
include revision known respects

theorem Revision.map_field?_eq (finish : Option α → β)
    (granted : ∀ value, (key, value) ∈ idle →
      (fun found => finish (some found)) <$> convert value = .ok (finish none)) :
    finish <$> field? others key convert = finish <$> field? members key convert := by
  have change := revision.change known
  generalize found : members.lookup key = first at change
  generalize foundAfter : others.lookup key = second at change
  cases change with
  | none => rw [field?, field?, found, foundAfter]
  | @lost value isIdle =>
    have read := (Functor.map_map some finish (convert value)).trans (granted value isIdle)
    rw [field?_of_none foundAfter, field?_of_some key value found]
    exact read.symm
  | revised inner =>
    rw [field?_of_some key _ found, field?_of_some key _ foundAfter, respects _ _ inner]

theorem Revision.field?_eq (solid : key ∉ idle.map Prod.fst) :
    field? others key convert = field? members key convert := by
  have same := revision.map_field?_eq key known respects id fun value granted =>
    absurd (List.mem_map_of_mem granted) solid
  rwa [id_map, id_map] at same

end Parts

end NamingAudit.Json
