import Mathlib.Data.List.Basic
import Mathlib.Data.Nat.Digits.Defs

/-! Texts joined by a separator. A part without the separator ends, or begins,
where the separator stands. -/
namespace Library.Joined
variable {α : Type} {separator : α} {head head' tail tail' : List α}

theorem inj_of_heads (first : separator ∉ head) (second : separator ∉ head')
    (same : head ++ separator::tail = head' ++ separator::tail') : head = head' ∧ tail = tail' := by
  induction head generalizing head' with
  | nil =>
    cases head' with
    | nil => exact ⟨rfl,List.tail_eq_of_cons_eq same⟩
    | cons other rest =>
      obtain ⟨rfl,_⟩ := List.cons.inj same
      exact absurd List.mem_cons_self second
  | cons character rest ih =>
    cases head' with
    | nil =>
      obtain ⟨rfl,_⟩ := List.cons.inj same
      exact absurd List.mem_cons_self first
    | cons other rest' =>
      obtain ⟨rfl,rests⟩ := List.cons.inj same
      have inner := ih (fun inside => first (List.mem_cons_of_mem _ inside))
        (fun inside => second (List.mem_cons_of_mem _ inside)) rests
      exact ⟨congrArg _ inner.1,inner.2⟩

theorem inj_of_tails (first : separator ∉ tail) (second : separator ∉ tail')
    (same : head ++ separator::tail = head' ++ separator::tail') : head = head' ∧ tail = tail' := by
  have reversed := congrArg List.reverse same
  simp only [List.reverse_append,List.reverse_cons,List.append_assoc,List.singleton_append] at reversed
  have inner := inj_of_heads (mt List.mem_reverse.mp first) (mt List.mem_reverse.mp second) reversed
  exact ⟨List.reverse_inj.mp inner.2,List.reverse_inj.mp inner.1⟩

theorem digits_of_toString {number : Nat} {character : Char} (inside : character ∈ (toString number).toList) :
    character.isDigit = true := by
  rw [Nat.toString_eq_ofList_toDigits,String.toList_ofList] at inside
  exact Nat.isDigit_of_mem_toDigits (by omega) (by omega) inside

theorem numeral_injective {first second : Nat} (same : (toString first).toList = (toString second).toList) : first = second := by
  have numbers := congrArg (fun digits => Nat.ofDigitChars 10 digits 0) same
  simpa [Nat.toString_eq_ofList_toDigits] using numbers

end Library.Joined
