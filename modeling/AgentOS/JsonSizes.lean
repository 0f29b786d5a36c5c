import AgentOS.JsonReader
import Mathlib.Algebra.Order.BigOperators.Group.List

/-! Canonical values are read back, field by field, and how long their texts are. -/
namespace AgentOS.Json
open Library

/-! ### Canonical values -/

theorem readable_canonicalize {value : Json} (readable : Readable value) : Readable (canonicalize value) := by
  induction readable with
  | null => exact .null
  | bool value => exact .bool value
  | num value => exact .num value
  | str value => exact .str value
  | @arr items _ ih =>
    rw [canonicalize,canonicalizeItems_eq]
    apply Readable.arr
    intro item inside
    obtain ⟨item',inside',rfl⟩ := List.mem_map.mp inside
    exact ih item' inside'
  | @obj fields _ distinct named ih =>
    have names : (fields.map fun field => (field.1,canonicalize field.2)).map Prod.fst = fields.map Prod.fst := by
      rw [List.map_map]
      rfl
    rw [canonicalize,canonicalizeFields_eq]
    apply Readable.obj
    · intro field inside
      rw [List.mem_insertionSort,List.mem_map] at inside
      obtain ⟨field',inside',rfl⟩ := inside
      exact ih field' inside'
    · rw [((List.perm_insertionSort _ _).map Prod.fst).nodup_iff,names]
      exact distinct
    · intro field inside
      rw [List.mem_insertionSort,List.mem_map] at inside
      obtain ⟨field',inside',rfl⟩ := inside
      exact named field' inside'

theorem find?_of_mem {fields : List (String × Json)} {field : String × Json} (distinct : (fields.map Prod.fst).Nodup)
    (inside : field ∈ fields) : fields.find? (fun entry => entry.1 = field.1) = some field := by
  cases found : fields.find? (fun entry => entry.1 = field.1) with
  | none =>
    have none_ := List.find?_eq_none.mp found field inside
    simp at none_
  | some other =>
    have same := List.find?_some found
    exact congrArg some (List.inj_on_of_nodup_map distinct (List.mem_of_find?_eq_some found) inside (of_decide_eq_true same))

theorem field?_canonicalize {fields : List (String × Json)} (distinct : (fields.map Prod.fst).Nodup) (name : String) :
    (canonicalize (.obj fields)).field? name = ((Json.obj fields).field? name).map canonicalize := by
  have names : (fields.map fun field => (field.1,canonicalize field.2)).map Prod.fst = fields.map Prod.fst := by
    rw [List.map_map]
    rfl
  rw [canonicalize,canonicalizeFields_eq]
  unfold field?
  dsimp only
  cases found : fields.find? (fun entry => entry.1 = name) with
  | none =>
    rw [Option.map_none,Option.map_none,Option.map_eq_none_iff,List.find?_eq_none]
    intro field inside
    rw [List.mem_insertionSort,List.mem_map] at inside
    obtain ⟨field',inside',rfl⟩ := inside
    exact List.find?_eq_none.mp found field' inside'
  | some field =>
    have same := List.find?_some found
    obtain rfl : field.1 = name := of_decide_eq_true same
    have inside := List.mem_map_of_mem (f := fun field : String × Json => (field.1,canonicalize field.2))
      (List.mem_of_find?_eq_some found)
    have sorted := (List.mem_insertionSort fun left right : String × Json => compareCanonicalKeys left.1 right.1).mpr inside
    have distinct' : ((((fields.map fun field => (field.1,canonicalize field.2))).insertionSort fun left right =>
        compareCanonicalKeys left.1 right.1).map Prod.fst).Nodup := by
      rw [((List.perm_insertionSort _ _).map Prod.fst).nodup_iff,names]
      exact distinct
    have there := find?_of_mem distinct' sorted
    dsimp only at there
    rw [there]
    rfl

/-! ### Sizes -/

theorem byteLength_append (text other : String) : byteLength (text ++ other) = byteLength text + byteLength other :=
  String.utf8ByteSize_append

theorem byteLength_chars (text : String) : byteLength text = (text.toList.map Char.utf8Size).sum := by
  obtain ⟨chars,rfl⟩ : ∃ chars, text = String.ofList chars := ⟨text.toList,String.ofList_toList.symm⟩
  rw [String.toList_ofList]
  induction chars with
  | nil => rfl
  | cons char chars ih =>
    have split : String.ofList (char::chars) = String.singleton char ++ String.ofList chars := by
      apply String.toList_injective
      simp
    rw [split,byteLength_append,ih,List.map_cons,List.sum_cons]
    exact congrArg (· + _) String.utf8ByteSize_singleton

def plainChar (char : Char) : Bool := 32 ≤ char.val && char.val < 128 && char ≠ '"' && char ≠ '\\'

theorem escaped_size (char : Char) : byteLength (escaped char) ≤ 6 := by
  by_cases control : char.val < 32
  · have small : char.toNat < 32 := control
    have sizes : ∀ number : Fin 32, byteLength (escaped (Char.ofNat number)) ≤ 6 := by decide
    have same := sizes ⟨char.toNat,small⟩
    rwa [Char.ofNat_toNat] at same
  · by_cases quote : char = '"'
    · subst quote
      decide
    by_cases slash : char = '\\'
    · subst slash
      decide
    rw [escaped_plain quote slash control]
    have size : byteLength (String.singleton char) = char.utf8Size := String.utf8ByteSize_singleton
    have most := char.utf8Size_le_four
    omega

theorem escaped_plainChar {char : Char} (plain : plainChar char = true) : byteLength (escaped char) = 1 := by
  simp only [plainChar,Bool.and_eq_true,decide_eq_true_eq] at plain
  obtain ⟨⟨⟨printed,ascii⟩,quote⟩,slash⟩ := plain
  rw [escaped_plain quote slash (UInt32.not_lt.mpr printed)]
  have size : byteLength (String.singleton char) = char.utf8Size := String.utf8ByteSize_singleton
  rw [size]
  rw [UInt32.lt_iff_toNat_lt] at ascii
  exact Char.utf8Size_eq_one_iff.mpr (UInt32.le_iff_toNat_le.mpr (Nat.le_of_lt_succ ascii))

theorem plain_of_alphanum {char : Char} (letter : char.isAlphanum = true) : plainChar char = true := by
  simp only [Char.isAlphanum,isAlpha_eq,isUpper_eq,isLower_eq,Char.isDigit,Bool.or_eq_true,Bool.and_eq_true,
    decide_eq_true_eq,UInt32.le_iff_toNat_le,ge_iff_le] at letter
  have zero : ('0' : Char).val.toNat = 48 := by decide
  have nine : ('9' : Char).val.toNat = 57 := by decide
  have upper : ('A' : Char).val.toNat = 65 := by decide
  have upper' : ('Z' : Char).val.toNat = 90 := by decide
  have lower : ('a' : Char).val.toNat = 97 := by decide
  have lower' : ('z' : Char).val.toNat = 122 := by decide
  have quote : char ≠ '"' := by
    intro same
    have value : char.val.toNat = 34 := same ▸ by decide
    omega
  have slash : char ≠ '\\' := by
    intro same
    have value : char.val.toNat = 92 := same ▸ by decide
    omega
  have printed : 32 ≤ char.val := UInt32.le_iff_toNat_le.mpr (by
    have low : (32 : UInt32).toNat = 32 := by decide
    omega)
  have ascii : char.val < 128 := UInt32.lt_iff_toNat_lt.mpr (by
    have high : (128 : UInt32).toNat = 128 := by decide
    omega)
  simp only [plainChar,Bool.and_eq_true,decide_eq_true_eq]
  exact ⟨⟨⟨printed,ascii⟩,quote⟩,slash⟩

theorem byteLength_plain {text : String} (plain : ∀ char ∈ text.toList, plainChar char = true) : byteLength text = text.length := by
  have ones : text.toList.map Char.utf8Size = List.replicate text.toList.length 1 := by
    apply List.eq_replicate_iff.mpr
    refine ⟨List.length_map _,?_⟩
    intro size inside
    obtain ⟨char,inside',rfl⟩ := List.mem_map.mp inside
    have ascii := plain char inside'
    simp only [plainChar,Bool.and_eq_true,decide_eq_true_eq,UInt32.lt_iff_toNat_lt] at ascii
    exact Char.utf8Size_eq_one_iff.mpr (UInt32.le_iff_toNat_le.mpr (Nat.le_of_lt_succ ascii.1.1.2))
  rw [byteLength_chars,ones,List.sum_replicate,String.length_toList,nsmul_one,Nat.cast_id]

theorem numeral_size {value : Int} {digits : Nat} (some_ : 0 < digits) (low : 0 ≤ value) (high : value < 10 ^ digits) :
    byteLength (toString value) ≤ digits := by
  have same : value.natAbs = value.toNat := by omega
  have numeral : toString value = toString value.toNat := by
    apply String.toList_injective
    rw [integer_chars,if_neg (by omega),same]
  have small : value.toNat < 10 ^ digits := by
    have cast : ((10 ^ digits : Nat) : Int) = 10 ^ digits := by norm_cast
    omega
  have plain : ∀ char ∈ (toString value.toNat).toList, plainChar char = true := by
    intro char inside
    exact plain_of_alphanum (by simp [Char.isAlphanum,Joined.digits_of_toString inside])
  rw [numeral,byteLength_plain plain]
  exact (Nat.length_repr_le_iff some_).mpr small

theorem quoted_size (text : String) : byteLength (quoted text) = 2 + (text.toList.map fun char => byteLength (escaped char)).sum := by
  have each (chars : List Char) : ((escapedChars chars).map Char.utf8Size).sum = (chars.map fun char => byteLength (escaped char)).sum := by
    induction chars with
    | nil => rfl
    | cons char chars ih =>
      unfold escapedChars at ih ⊢
      rw [List.flatMap_cons,List.map_append,List.sum_append,ih,List.map_cons,List.sum_cons,byteLength_chars]
  rw [byteLength_chars,quoted_chars,List.map_cons,List.map_append,List.sum_cons,List.sum_append,each]
  have quote : Char.utf8Size '"' = 1 := by decide
  simp only [List.map_cons,List.map_nil,List.sum_cons,List.sum_nil,quote]
  omega

theorem quoted_size_le (text : String) : byteLength (quoted text) ≤ 6 * text.length + 2 := by
  have bound : (text.toList.map fun char => byteLength (escaped char)).sum ≤ text.toList.length * 6 := by
    rw [← List.length_map (f := fun char => byteLength (escaped char))]
    apply List.sum_le_card_nsmul
    intro size inside
    obtain ⟨char,_,rfl⟩ := List.mem_map.mp inside
    exact escaped_size char
  rw [quoted_size,← String.length_toList]
  omega

theorem quoted_size_plain {text : String} (plain : ∀ char ∈ text.toList, plainChar char = true) :
    byteLength (quoted text) = text.length + 2 := by
  have ones : (text.toList.map fun char => byteLength (escaped char)) = List.replicate text.toList.length 1 := by
    apply List.eq_replicate_iff.mpr
    refine ⟨List.length_map _,?_⟩
    intro size inside
    obtain ⟨char,inside',rfl⟩ := List.mem_map.mp inside
    exact escaped_plainChar (plain char inside')
  rw [quoted_size,ones,List.sum_replicate,String.length_toList,nsmul_one,Nat.cast_id]
  omega

def charsSize (chars : List Char) : Nat := (chars.map Char.utf8Size).sum

theorem charsSize_cons (char : Char) (chars : List Char) : charsSize (char::chars) = char.utf8Size + charsSize chars := by
  rw [charsSize,List.map_cons,List.sum_cons,charsSize]

theorem charsSize_append (chars others : List Char) : charsSize (chars ++ others) = charsSize chars + charsSize others := by
  rw [charsSize,List.map_append,List.sum_append,charsSize,charsSize]

theorem charsSize_toList (text : String) : charsSize text.toList = byteLength text := (byteLength_chars text).symm

def fieldSize (field : String × Json) : Nat := byteLength (quoted field.1) + 2 + byteLength (stringify field.2)

variable (fields : List (String × Json))

theorem fieldsEnd_size : charsSize (fieldsEnd fields) = (fields.map fieldSize).sum + 1 := by
  induction fields with
  | nil => rfl
  | cons field fields ih =>
    have comma : Char.utf8Size ',' = 1 := by decide
    have colon : Char.utf8Size ':' = 1 := by decide
    rw [fieldsEnd,charsSize_cons,charsSize_append,ih,fieldText,charsSize_append,charsSize_cons,charsSize_toList,charsSize_toList,
      List.map_cons,List.sum_cons,fieldSize,comma,colon]
    omega

theorem object_size : byteLength (stringify (.obj fields)) ≤ (fields.map fieldSize).sum + 2 := by
  have brace : Char.utf8Size '{' = 1 := by decide
  have comma : Char.utf8Size ',' = 1 := by decide
  have ends := fieldsEnd_size fields
  rw [← charsSize_toList,object_chars,charsSize_cons,brace]
  cases fields with
  | nil => decide
  | cons field fields =>
    rw [fieldsEnd,charsSize_cons,comma] at ends
    rw [fieldsText]
    omega

theorem itemsEnd_size (items : List Json) :
    charsSize (itemsEnd items) = (items.map fun item => byteLength (stringify item) + 1).sum + 1 := by
  induction items with
  | nil => rfl
  | cons item items ih =>
    have comma : Char.utf8Size ',' = 1 := by decide
    rw [itemsEnd,charsSize_cons,charsSize_append,ih,charsSize_toList,List.map_cons,List.sum_cons,comma]
    omega

theorem array_size (items : List Json) :
    byteLength (stringify (.arr items)) ≤ (items.map fun item => byteLength (stringify item) + 1).sum + 2 := by
  have bracket : Char.utf8Size '[' = 1 := by decide
  have comma : Char.utf8Size ',' = 1 := by decide
  have ends := itemsEnd_size items
  rw [← charsSize_toList,array_chars,charsSize_cons,bracket]
  cases items with
  | nil => decide
  | cons item items =>
    rw [itemsEnd,charsSize_cons,comma] at ends
    rw [itemsText]
    omega

theorem canonical_object_size : byteLength (canonicalJsonValue (.obj fields)) ≤
    (fields.map fun field => byteLength (quoted field.1) + 2 + byteLength (canonicalJsonValue field.2)).sum + 2 := by
  have size := object_size ((canonicalizeFields fields).insertionSort fun left right => compareCanonicalKeys left.1 right.1)
  rw [((List.perm_insertionSort _ _).map fieldSize).sum_eq,canonicalizeFields_eq,List.map_map] at size
  unfold canonicalJsonValue
  rw [canonicalize,canonicalizeFields_eq]
  exact size

end AgentOS.Json
