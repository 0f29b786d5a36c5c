import Mathlib.Computability.Language

/-! Regular expressions whose letters are given by predicates, so that a class of letters, a wildcard or a letter without
regard to its case is one letter. Taking derivatives decides what an expression matches. -/
namespace Library

inductive Regex (α : Type) where
  | never
  | empty
  | one (accepts : α → Bool)
  | append (first second : Regex α)
  | either (first second : Regex α)
  | many (inner : Regex α)

namespace Regex
variable {α : Type}

def optional (inner : Regex α) : Regex α := either empty inner

def language : Regex α → Language α
  | never => 0
  | empty => 1
  | one accepts => {text | ∃ letter, accepts letter = true ∧ text = [letter]}
  | append first second => first.language * second.language
  | either first second => first.language + second.language
  | many inner => KStar.kstar inner.language

def nullable : Regex α → Bool
  | never => false
  | empty => true
  | one _ => false
  | append first second => first.nullable && second.nullable
  | either first second => first.nullable || second.nullable
  | many _ => true

def derivative (letter : α) : Regex α → Regex α
  | never => never
  | empty => never
  | one accepts => if accepts letter then empty else never
  | append first second =>
    if first.nullable then either (append (first.derivative letter) second) (second.derivative letter)
    else append (first.derivative letter) second
  | either first second => either (first.derivative letter) (second.derivative letter)
  | many inner => append (inner.derivative letter) (many inner)

def test (regex : Regex α) : List α → Bool
  | [] => regex.nullable
  | letter::text => (regex.derivative letter).test text

/-! ### Languages -/

@[simp] theorem mem_never (text : List α) : text ∉ (never : Regex α).language := Language.notMem_zero text

@[simp] theorem mem_empty (text : List α) : text ∈ (empty : Regex α).language ↔ text = [] := Iff.rfl

@[simp] theorem mem_one (accepts : α → Bool) (text : List α) :
    text ∈ (one accepts).language ↔ ∃ letter, accepts letter = true ∧ text = [letter] := Iff.rfl

theorem mem_append (first second : Regex α) (text : List α) :
    text ∈ (append first second).language ↔ ∃ start ∈ first.language, ∃ rest ∈ second.language, start ++ rest = text :=
  Language.mem_mul

@[simp] theorem mem_either (first second : Regex α) (text : List α) :
    text ∈ (either first second).language ↔ text ∈ first.language ∨ text ∈ second.language := Iff.rfl

theorem mem_optional (inner : Regex α) (text : List α) :
    text ∈ (optional inner).language ↔ text = [] ∨ text ∈ inner.language := Iff.rfl

theorem mem_many (inner : Regex α) (text : List α) :
    text ∈ (many inner).language ↔ ∃ pieces : List (List α), text = pieces.flatten ∧ ∀ piece ∈ pieces, piece ∈ inner.language ∧ piece ≠ [] :=
  Language.mem_kstar_iff_exists_nonempty

theorem mem_many_one (accepts : α → Bool) (text : List α) :
    text ∈ (many (one accepts)).language ↔ ∀ letter ∈ text, accepts letter = true := by
  rw [mem_many]
  constructor
  · rintro ⟨pieces,rfl,each⟩ letter inside
    obtain ⟨piece,listed,within⟩ := List.mem_flatten.mp inside
    obtain ⟨single,accepted,rfl⟩ := (each piece listed).1
    rw [List.mem_singleton.mp within]
    exact accepted
  · intro each
    refine ⟨text.map fun letter => [letter],?_,fun piece listed => ?_⟩
    · rw [← List.flatMap_def,List.flatMap_singleton']
    · obtain ⟨letter,inside,rfl⟩ := List.mem_map.mp listed
      exact ⟨⟨letter,each letter inside,rfl⟩,List.cons_ne_nil _ _⟩

variable (regex : Regex α)

theorem append_empty : (append regex empty).language = regex.language := mul_one _

theorem empty_append : (append empty regex).language = regex.language := one_mul _

theorem append_assoc (first second third : Regex α) :
    (append (append first second) third).language = (append first (append second third)).language := mul_assoc _ _ _

/-! ### Deciding a match -/

theorem nullable_iff : regex.nullable = true ↔ [] ∈ regex.language := by
  induction regex with
  | never => simp [nullable]
  | empty => simp [nullable]
  | one accepts => simp [nullable]
  | append first second ihFirst ihSecond =>
    rw [nullable,Bool.and_eq_true,ihFirst,ihSecond,mem_append]
    constructor
    · rintro ⟨left,right⟩
      exact ⟨[],left,[],right,rfl⟩
    · rintro ⟨start,left,rest,right,joined⟩
      obtain ⟨rfl,rfl⟩ := List.append_eq_nil_iff.mp joined
      exact ⟨left,right⟩
  | either first second ihFirst ihSecond => rw [nullable,Bool.or_eq_true,ihFirst,ihSecond,mem_either]
  | many inner _ => exact iff_of_true rfl (Language.nil_mem_kstar _)

theorem cons_mem_append (first second : Regex α) (letter : α) (text : List α) :
    letter::text ∈ (append first second).language ↔
      (∃ start, letter::start ∈ first.language ∧ ∃ rest ∈ second.language, start ++ rest = text) ∨
        [] ∈ first.language ∧ letter::text ∈ second.language := by
  rw [mem_append]
  constructor
  · rintro ⟨start,left,rest,right,joined⟩
    cases start with
    | nil => exact .inr ⟨left,joined ▸ right⟩
    | cons other start =>
      obtain ⟨rfl,same⟩ := List.cons.inj joined
      exact .inl ⟨start,left,rest,right,same⟩
  · rintro (⟨start,left,rest,right,rfl⟩ | ⟨left,right⟩)
    · exact ⟨_,left,rest,right,rfl⟩
    · exact ⟨[],left,_,right,rfl⟩

theorem cons_mem_many (inner : Regex α) (letter : α) (text : List α) :
    letter::text ∈ (many inner).language ↔
      ∃ start, letter::start ∈ inner.language ∧ ∃ rest ∈ (many inner).language, start ++ rest = text := by
  constructor
  · rw [mem_many]
    rintro ⟨pieces,joined,each⟩
    cases pieces with
    | nil => cases joined
    | cons piece pieces =>
      obtain ⟨matched,held⟩ := each piece List.mem_cons_self
      cases piece with
      | nil => exact absurd rfl held
      | cons other start =>
        obtain ⟨rfl,rfl⟩ := List.cons.inj joined
        refine ⟨start,matched,pieces.flatten,?_,rfl⟩
        exact (mem_many inner _).mpr ⟨pieces,rfl,fun piece listed => each piece (List.mem_cons_of_mem _ listed)⟩
  · rintro ⟨start,matched,rest,more,rfl⟩
    obtain ⟨pieces,rfl,each⟩ := (mem_many inner rest).mp more
    exact (mem_many inner _).mpr ⟨(letter::start)::pieces,rfl,List.forall_mem_cons.mpr ⟨⟨matched,List.cons_ne_nil _ _⟩,each⟩⟩

theorem derivative_iff (letter : α) (text : List α) :
    text ∈ (regex.derivative letter).language ↔ letter::text ∈ regex.language := by
  induction regex generalizing text with
  | never => simp [derivative]
  | empty => simp [derivative]
  | one accepts =>
    rw [derivative]
    split <;> simp_all
  | append first second ihFirst ihSecond =>
    have parts : text ∈ (append (first.derivative letter) second).language ↔
        ∃ start, letter::start ∈ first.language ∧ ∃ rest ∈ second.language, start ++ rest = text := by
      simp only [mem_append,ihFirst]
    rw [derivative,cons_mem_append,← nullable_iff]
    split
    · rename_i nothing
      rw [mem_either,parts,ihSecond]
      simp [nothing]
    · rename_i something
      rw [parts]
      simp [something]
  | either first second ihFirst ihSecond => rw [derivative,mem_either,ihFirst,ihSecond,mem_either]
  | many inner ih =>
    rw [derivative,cons_mem_many,mem_append]
    simp only [ih]

theorem test_iff (text : List α) : regex.test text = true ↔ text ∈ regex.language := by
  induction text generalizing regex with
  | nil => exact nullable_iff regex
  | cons letter text ih => rw [test,ih,derivative_iff]

end Regex
end Library
