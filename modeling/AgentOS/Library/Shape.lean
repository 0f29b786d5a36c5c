import Mathlib.Data.List.Nodup

/-! Records read against a shape. A strict reading accepts the shape's own
fields and no others: what it answers has, under every field of the shape, what
the field's check made of the record's value there. -/
namespace Library.Shape

structure Field (ν : Type) where
  name : String
  optional : Bool := false
  check : ν → Option ν

variable {ν : Type}

def lookup (entries : List (String × ν)) (name : String) : Option ν :=
  (entries.find? fun entry => entry.1 = name).map Prod.snd

def readAll (entries : List (String × ν)) : List (Field ν) → Option (List (String × ν))
  | [] => some []
  | field::shape => match lookup entries field.name with
    | none => if field.optional then readAll entries shape else none
    | some value => match field.check value,readAll entries shape with
      | some checked,some rest => some ((field.name,checked)::rest)
      | _,_ => none

def known (shape : List (Field ν)) (entry : String × ν) : Bool := shape.any fun field => field.name = entry.1

def strict (shape : List (Field ν)) (entries : List (String × ν)) : Option (List (String × ν)) :=
  if entries.all (known shape) then readAll entries shape else none

@[simp] theorem lookup_cons (name : String) (value : ν) (entries : List (String × ν)) (wanted : String) :
    lookup ((name,value)::entries) wanted = if name = wanted then some value else lookup entries wanted := by
  simp only [lookup,List.find?_cons]
  split <;> rename_i same <;> simp only [decide_eq_true_eq,decide_eq_false_iff_not] at same <;> simp [same]

theorem lookup_eq_none {entries : List (String × ν)} {wanted : String} :
    lookup entries wanted = none ↔ ∀ entry ∈ entries, entry.1 ≠ wanted := by
  simp [lookup]

theorem lookup_filterMap (names : List String) (value : String → Option ν) (wanted : String) :
    lookup (names.filterMap fun name => (value name).map (name,·)) wanted = if wanted ∈ names then value wanted else none := by
  induction names with
  | nil => rfl
  | cons name names ih =>
    rw [List.filterMap_cons]
    by_cases same : name = wanted
    · subst same
      cases found : value name with
      | none => simpa [found] using ih
      | some held => simp
    · cases found : value name with
      | none => simp [ih,Ne.symm same]
      | some held => simp [ih,same,Ne.symm same]

variable {entries answer : List (String × ν)} {shape : List (Field ν)}

theorem readAll_names (read : readAll entries shape = some answer) : ∀ entry ∈ answer, ∃ field ∈ shape, field.name = entry.1 := by
  induction shape generalizing answer with
  | nil =>
    cases read
    simp
  | cons field shape ih =>
    unfold readAll at read
    split at read
    · split at read
      · intro entry inside
        obtain ⟨other,listed,same⟩ := ih read entry inside
        exact ⟨other,List.mem_cons_of_mem _ listed,same⟩
      · cases read
    · split at read
      · rename_i checked rest _ readRest
        cases read
        intro entry inside
        rcases List.mem_cons.mp inside with rfl | inside
        · exact ⟨field,List.mem_cons_self,rfl⟩
        · obtain ⟨other,listed,same⟩ := ih readRest entry inside
          exact ⟨other,List.mem_cons_of_mem _ listed,same⟩
      · cases read

section
variable (distinct : (shape.map Field.name).Nodup) (read : readAll entries shape = some answer) {field : Field ν}
  (listed : field ∈ shape)
include distinct read listed

theorem readAll_lookup : lookup answer field.name = (lookup entries field.name).bind field.check := by
  induction shape generalizing answer with
  | nil => cases listed
  | cons first shape ih =>
    obtain ⟨fresh,distinct⟩ := List.nodup_cons.mp distinct
    have elsewhere : ∀ rest, readAll entries shape = some rest → lookup rest first.name = none := by
      intro rest readRest
      rw [lookup_eq_none]
      intro entry inside same
      obtain ⟨other,otherListed,named⟩ := readAll_names readRest entry inside
      exact fresh (List.mem_map.mpr ⟨other,otherListed,named.trans same⟩)
    have apart : field ∈ shape → first.name ≠ field.name := fun inside same =>
      fresh (List.mem_map.mpr ⟨field,inside,same.symm⟩)
    unfold readAll at read
    split at read
    · rename_i absent
      split at read
      · rcases List.mem_cons.mp listed with rfl | inside
        · rw [elsewhere answer read,absent]
          rfl
        · exact ih distinct read inside
      · cases read
    · rename_i value present
      split at read
      · rename_i checked rest checks readRest
        cases read
        rw [lookup_cons]
        rcases List.mem_cons.mp listed with rfl | inside
        · rw [if_pos rfl,present]
          exact checks.symm
        · rw [if_neg (apart inside)]
          exact ih distinct readRest inside
      · cases read

theorem readAll_required (required : field.optional = false) :
    ∃ value checked, field.check value = some checked ∧ lookup answer field.name = some checked := by
  have there : ∃ value checked, lookup entries field.name = some value ∧ field.check value = some checked := by
    clear distinct
    induction shape generalizing answer with
    | nil => cases listed
    | cons first shape ih =>
      unfold readAll at read
      split at read
      · rename_i absent
        split at read
        · rename_i optional
          rcases List.mem_cons.mp listed with rfl | inside
          · rw [required] at optional
            cases optional
          · exact ih read inside
        · cases read
      · rename_i value present
        split at read
        · rename_i checked rest checks readRest
          rcases List.mem_cons.mp listed with rfl | inside
          · exact ⟨value,checked,present,checks⟩
          · exact ih readRest inside
        · cases read
  obtain ⟨value,checked,found,checks⟩ := there
  exact ⟨value,checked,checks,by rw [readAll_lookup distinct read listed,found]; exact checks⟩

end

theorem readAll_checked (read : readAll entries shape = some answer) {field : Field ν} (listed : field ∈ shape) {value : ν}
    (present : lookup entries field.name = some value) : ∃ checked, field.check value = some checked := by
  induction shape generalizing answer with
  | nil => cases listed
  | cons first shape ih =>
    unfold readAll at read
    split at read
    · rename_i absent
      split at read
      · rcases List.mem_cons.mp listed with rfl | inside
        · rw [present] at absent
          cases absent
        · exact ih read inside
      · cases read
    · rename_i held there
      split at read
      · rename_i checked rest checks readRest
        rcases List.mem_cons.mp listed with rfl | inside
        · rw [present] at there
          cases there
          exact ⟨checked,checks⟩
        · exact ih readRest inside
      · cases read

def Readable (entries : List (String × ν)) (field : Field ν) : Prop :=
  match lookup entries field.name with
  | none => field.optional = true
  | some value => (field.check value).isSome

theorem readAll_isSome {entries : List (String × ν)}
    (reads : ∀ field ∈ shape, Readable entries field) : ∃ answer, readAll entries shape = some answer := by
  induction shape with
  | nil => exact ⟨[],rfl⟩
  | cons field shape ih =>
    obtain ⟨rest,readRest⟩ := ih fun other listed => reads other (List.mem_cons_of_mem _ listed)
    have here := reads field List.mem_cons_self
    unfold Readable at here
    unfold readAll
    cases found : lookup entries field.name with
    | none =>
      rw [found] at here
      exact ⟨rest,by simpa [show field.optional = true from here] using readRest⟩
    | some value =>
      rw [found] at here
      obtain ⟨checked,checks⟩ := Option.isSome_iff_exists.mp here
      exact ⟨(field.name,checked)::rest,by simp [checks,readRest]⟩

theorem strict_eq_some_iff : strict shape entries = some answer ↔ entries.all (known shape) ∧ readAll entries shape = some answer := by
  unfold strict
  split <;> rename_i all <;> simp [all]

theorem strict_unknown {entries : List (String × ν)} {entry : String × ν}
    (inside : entry ∈ entries) (unknown : known shape entry = false) : strict shape entries = none := by
  unfold strict
  rw [if_neg]
  intro all
  rw [List.all_eq_true] at all
  rw [all entry inside] at unknown
  cases unknown

end Library.Shape
