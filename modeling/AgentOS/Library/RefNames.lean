import Mathlib.Data.List.Chain
import Mathlib.Data.List.Infix

/-! The names git gives references: components between slashes, without the characters and
the pairs of characters that a revision expression reads otherwise. -/
namespace Library.RefNames

def Allowed (char : Char) : Prop := 0x20 < char.val ∧ char.val ≠ 0x7f ∧ char ∉ ['~','^',':','?','*','[','\\']

structure Component (part : List Char) : Prop where
  named : part ≠ []
  visible : part.head? ≠ some '.'
  unlocked : ¬ ['.','l','o','c','k'] <:+ part

structure WellFormed (name : List Char) : Prop where
  allowed : ∀ char ∈ name, Allowed char
  nested : 1 < (name.splitOn '/').length
  components : ∀ part ∈ name.splitOn '/', Component part
  single : ¬ ['.','.'] <:+: name
  braceless : ¬ ['@','{'] <:+: name
  ended : name.getLast? ≠ some '.'

structure Part (part : List Char) : Prop extends Component part where
  allowed : ∀ char ∈ part, Allowed char ∧ char ≠ '/'
  single : ¬ ['.','.'] <:+: part
  braceless : ¬ ['@','{'] <:+: part
  ended : part.getLast? ≠ some '.'

section
variable {α : Type} {first second separator : α} {items : List α} {parts : List (List α)}

def Apart (first second : α) (left right : α) : Prop := ¬ (left = first ∧ right = second)

theorem chain_within {relates : α → α → Prop} {part : List α} (chained : items.IsChain relates) (inside : part <:+: items) :
    part.IsChain relates := by
  obtain ⟨before,rest,rfl⟩ := inside
  exact chained.left_of_append.right_of_append

theorem unpaired_iff : ¬ [first,second] <:+: items ↔ items.IsChain (Apart first second) := by
  constructor
  · intro absent
    refine (List.isChain_isInfix items).imp fun left right inside => ?_
    rintro ⟨rfl,rfl⟩
    exact absent inside
  · intro chained inside
    have pair := chain_within chained inside
    rw [List.isChain_pair] at pair
    exact pair ⟨rfl,rfl⟩

theorem unpaired_joined (left : separator ≠ first) (right : separator ≠ second)
    (absent : ∀ part ∈ parts, part.IsChain (Apart first second)) : ([separator].intercalate parts).IsChain (Apart first second) := by
  induction parts with
  | nil => exact .nil
  | cons part rest ih =>
    have inner := ih fun part inside => absent part (List.mem_cons_of_mem _ inside)
    cases rest with
    | nil => simpa using absent part List.mem_cons_self
    | cons next rest =>
      rw [List.intercalate_cons_cons,List.append_assoc]
      refine (absent part List.mem_cons_self).append ?_ ?_
      · refine inner.cons fun char _ => ?_
        rintro ⟨same,_⟩
        exact left same
      · rintro char _ other found ⟨_,same⟩
        obtain rfl : separator = other := by simpa using found
        exact right same

theorem mem_joined {item : α} (inside : item ∈ [separator].intercalate parts) : item = separator ∨ ∃ part ∈ parts, item ∈ part := by
  induction parts with
  | nil => simp at inside
  | cons part rest ih =>
    cases rest with
    | nil => exact .inr ⟨part,List.mem_cons_self,by simpa using inside⟩
    | cons next rest =>
      rw [List.intercalate_cons_cons,List.append_assoc,List.mem_append] at inside
      rcases inside with here | later
      · exact .inr ⟨part,List.mem_cons_self,here⟩
      · rcases List.mem_cons.mp later with rfl | later
        · exact .inl rfl
        · exact (ih later).imp_right fun ⟨part,member,inside⟩ => ⟨part,List.mem_cons_of_mem _ member,inside⟩

theorem joined_ne_nil {part : List α} (named : part ≠ []) : [separator].intercalate (part::parts) ≠ [] := by
  cases parts with
  | nil => simpa using named
  | cons next rest => simp [List.intercalate_cons_cons,named]

theorem last_joined {item : α} (named : ∀ part ∈ parts, part ≠ [])
    (found : ([separator].intercalate parts).getLast? = some item) : ∃ part ∈ parts, part.getLast? = some item := by
  induction parts with
  | nil => simp at found
  | cons part rest ih =>
    cases rest with
    | nil => exact ⟨part,List.mem_cons_self,by simpa using found⟩
    | cons next rest =>
      have further : ∀ part ∈ next::rest, part ≠ [] := fun part inside => named part (List.mem_cons_of_mem _ inside)
      have ends := List.getLast?_eq_some_getLast (@joined_ne_nil _ separator rest _ (further next List.mem_cons_self))
      rw [List.intercalate_cons_cons,List.append_assoc,List.getLast?_append,List.singleton_append,List.getLast?_cons,
        ends] at found
      obtain ⟨part,inside,same⟩ := ih further (ends.trans (by simpa using found))
      exact ⟨part,List.mem_cons_of_mem _ inside,same⟩

end

theorem wellFormed_joined {parts : List (List Char)} (several : 1 < parts.length) (good : ∀ part ∈ parts, Part part) :
    WellFormed (['/'].intercalate parts) := by
  have split : (['/'].intercalate parts).splitOn '/' = parts := by
    refine List.splitOn_intercalate _ (fun part inside slash => ((good part inside).allowed _ slash).2 rfl) ?_
    rintro rfl
    simp at several
  constructor
  · intro char inside
    rcases mem_joined inside with rfl | ⟨part,member,here⟩
    · exact ⟨by decide,by decide,by decide⟩
    · exact ((good part member).allowed char here).1
  · rw [split]
    exact several
  · rw [split]
    exact fun part inside => (good part inside).toComponent
  · exact unpaired_iff.mpr (unpaired_joined (by decide) (by decide) fun part inside => unpaired_iff.mp (good part inside).single)
  · exact unpaired_iff.mpr (unpaired_joined (by decide) (by decide) fun part inside => unpaired_iff.mp (good part inside).braceless)
  · intro found
    obtain ⟨part,inside,ended⟩ := last_joined (fun part inside => (good part inside).named) found
    exact (good part inside).ended ended

end Library.RefNames
