import AgentOS.Library.Joined
import AgentOS.Stringify
import Mathlib.Data.Fintype.Basic
import Mathlib.Tactic.FinCases

/-! The text of a JSON value determines the value, and where it ends in a longer text.
Timestamps aside: they are written as strings. -/
namespace AgentOS.Json
open Library

/-! ### Strings -/

def unescape : List Char → Option (Char × List Char)
  | '\\':: '"'::rest => some ('"',rest)
  | '\\':: '\\'::rest => some ('\\',rest)
  | '\\':: 'n'::rest => some ('\n',rest)
  | '\\':: 'r'::rest => some ('\r',rest)
  | '\\':: 't'::rest => some ('\t',rest)
  | '\\':: 'b'::rest => some (Char.ofNat 8,rest)
  | '\\':: 'f'::rest => some (Char.ofNat 12,rest)
  | '\\':: 'u':: '0':: '0'::high::low::rest =>
    some (Char.ofNat ((if high = '0' then 0 else 16) + (if low.isDigit then low.toNat - 48 else low.toNat - 87)),rest)
  | '"'::_ => none
  | char::rest => some (char,rest)
  | [] => none

theorem unescape_control (number : Fin 32) (rest : List Char) :
    unescape ((escaped (Char.ofNat number)).toList ++ rest) = some (Char.ofNat number,rest) := by
  fin_cases number <;> rfl

section
variable {char : Char} (quote : char ≠ '"') (slash : char ≠ '\\')
include quote slash

theorem unescape_plain (rest : List Char) : unescape (char::rest) = some (char,rest) := by
  unfold unescape
  split <;> simp_all

theorem escaped_plain (printed : ¬ char.val < 32) : escaped char = String.singleton char := by
  have apart (other : Char) (low : other.val < 32) : char ≠ other := fun same => printed (same ▸ low)
  have back : char.val ≠ 8 := fun same => printed (same ▸ by decide)
  have feed : char.val ≠ 12 := fun same => printed (same ▸ by decide)
  simp [escaped,quote,slash,apart '\n' (by decide),apart '\r' (by decide),apart '\t' (by decide),back,feed,printed]

end

theorem unescape_escaped (char : Char) (rest : List Char) : unescape ((escaped char).toList ++ rest) = some (char,rest) := by
  by_cases control : char.val < 32
  · have small : char.toNat < 32 := control
    have same := unescape_control ⟨char.toNat,small⟩ rest
    rwa [Char.ofNat_toNat] at same
  · by_cases quote : char = '"'
    · subst quote
      rfl
    by_cases slash : char = '\\'
    · subst slash
      rfl
    rw [escaped_plain quote slash control,String.toList_singleton]
    exact unescape_plain quote slash rest

theorem unescape_quote (rest : List Char) : unescape ('"'::rest) = none := rfl

def escapedChars (chars : List Char) : List Char := chars.flatMap fun char => (escaped char).toList

theorem escapedChars_cancel {chars others rest rest' : List Char}
    (same : escapedChars chars ++ '"'::rest = escapedChars others ++ '"'::rest') : chars = others ∧ rest = rest' := by
  induction chars generalizing others with
  | nil =>
    cases others with
    | nil => exact ⟨rfl,List.tail_eq_of_cons_eq same⟩
    | cons other others =>
      have read := congrArg unescape same
      rw [escapedChars,escapedChars,List.flatMap_cons,List.append_assoc,unescape_escaped,List.flatMap_nil,List.nil_append,
        unescape_quote] at read
      cases read
  | cons char chars ih =>
    have first := congrArg unescape same
    rw [escapedChars,List.flatMap_cons,List.append_assoc,unescape_escaped] at first
    cases others with
    | nil =>
      rw [escapedChars,List.flatMap_nil,List.nil_append,unescape_quote] at first
      cases first
    | cons other others =>
      rw [escapedChars,List.flatMap_cons,List.append_assoc,unescape_escaped] at first
      obtain ⟨rfl,later⟩ := Prod.mk.inj (Option.some.inj first)
      obtain ⟨rfl,rests⟩ := ih later
      exact ⟨rfl,rests⟩

theorem quoted_chars (text : String) : (quoted text).toList = '"'::(escapedChars text.toList ++ ['"']) := by
  have joined (texts : List String) : (String.join texts).toList = texts.flatMap String.toList := by
    induction texts with
    | nil => rfl
    | cons text texts ih => simp [ih]
  simp [quoted,joined,escapedChars,List.flatMap_map]

variable {rest rest' : List Char} {fields others : List (String × Json)} {value other : Json}

theorem quoted_cancel {text other : String}
    (same : (quoted text).toList ++ rest = (quoted other).toList ++ rest') : text = other ∧ rest = rest' := by
  rw [quoted_chars,quoted_chars,List.cons_append,List.cons_append,List.append_assoc,List.append_assoc] at same
  obtain ⟨texts,rests⟩ := escapedChars_cancel (List.tail_eq_of_cons_eq same)
  exact ⟨String.toList_injective texts,rests⟩

/-! ### Numbers -/

def Ended (rest : List Char) : Prop := ∀ char ∈ rest.head?, char.isDigit = false

theorem takeWhile_digits {digits rest : List Char} (all : ∀ char ∈ digits, char.isDigit = true) (ended : Ended rest) :
    (digits ++ rest).takeWhile Char.isDigit = digits := by
  rw [List.takeWhile_append_of_pos all]
  cases rest with
  | nil => simp
  | cons char rest =>
    have stop := ended char rfl
    simp [stop]

theorem natural_cancel {number other : Nat} (ended : Ended rest) (ended' : Ended rest')
    (same : (toString number).toList ++ rest = (toString other).toList ++ rest') : number = other ∧ rest = rest' := by
  have taken := congrArg (List.takeWhile Char.isDigit) same
  rw [takeWhile_digits (fun _ => Joined.digits_of_toString) ended,
    takeWhile_digits (fun _ => Joined.digits_of_toString) ended'] at taken
  obtain rfl := Joined.numeral_injective taken
  exact ⟨rfl,List.append_cancel_left same⟩

theorem natural_head (number : Nat) : ∃ digit digits, (toString number).toList = digit::digits ∧ digit.isDigit = true := by
  cases chars : (toString number).toList with
  | nil =>
    rw [Nat.toString_eq_ofList_toDigits,String.toList_ofList] at chars
    exact absurd chars (Nat.toDigits_ne_nil)
  | cons digit digits => exact ⟨digit,digits,rfl,Joined.digits_of_toString (chars ▸ List.mem_cons_self)⟩

theorem integer_chars (number : Int) : (toString number).toList =
    if number < 0 then '-'::(toString number.natAbs).toList else (toString number.natAbs).toList := by
  cases number with
  | ofNat number => simp [toString,Int.repr]
  | negSucc number => simp [toString,Int.repr]

theorem integer_cancel {number other : Int} (ended : Ended rest) (ended' : Ended rest')
    (same : (toString number).toList ++ rest = (toString other).toList ++ rest') : number = other ∧ rest = rest' := by
  rw [integer_chars,integer_chars] at same
  obtain ⟨digit,digits,isDigits,isDigit⟩ := natural_head number.natAbs
  obtain ⟨digit',digits',isDigits',isDigit'⟩ := natural_head other.natAbs
  have minus : ('-').isDigit = false := by decide
  split at same <;> split at same
  · obtain ⟨equal,rests⟩ := natural_cancel ended ended' (List.tail_eq_of_cons_eq same)
    exact ⟨by omega,rests⟩
  · rw [isDigits'] at same
    obtain ⟨rfl,_⟩ := List.cons.inj same
    exact absurd isDigit' (by simp [minus])
  · rw [isDigits] at same
    obtain ⟨rfl,_⟩ := List.cons.inj same
    exact absurd isDigit (by simp [minus])
  · obtain ⟨equal,rests⟩ := natural_cancel ended ended' same
    exact ⟨by omega,rests⟩

/-! ### Values -/

mutual
def timeless : Json → Bool
  | .timestamp _ => false
  | .arr items => timelessItems items
  | .obj fields => timelessFields fields
  | _ => true
def timelessItems : List Json → Bool
  | [] => true
  | item::items => timeless item && timelessItems items
def timelessFields : List (String × Json) → Bool
  | [] => true
  | (_,value)::fields => timeless value && timelessFields fields
end

def itemsEnd : List Json → List Char
  | [] => [']']
  | item::items => ','::((stringify item).toList ++ itemsEnd items)

def itemsText : List Json → List Char
  | [] => [']']
  | item::items => (stringify item).toList ++ itemsEnd items

def fieldText (field : String × Json) : List Char := (quoted field.1).toList ++ ':'::(stringify field.2).toList

def fieldsEnd : List (String × Json) → List Char
  | [] => ['}']
  | field::fields => ','::(fieldText field ++ fieldsEnd fields)

def fieldsText : List (String × Json) → List Char
  | [] => ['}']
  | field::fields => fieldText field ++ fieldsEnd fields

theorem intercalate_items (item : Json) (items : List Json) :
    (String.intercalate "," (stringifyItems (item::items))).toList ++ [']'] = (stringify item).toList ++ itemsEnd items := by
  induction items generalizing item with
  | nil => simp [stringifyItems,itemsEnd]
  | cons other items ih =>
    have later := ih other
    simp only [stringifyItems] at later ⊢
    rw [String.intercalate_cons_cons,itemsEnd,← later]
    simp [List.append_assoc]

theorem array_chars (items : List Json) : (stringify (.arr items)).toList = '['::itemsText items := by
  cases items with
  | nil => simp [stringify,stringifyItems,itemsText]
  | cons item items =>
    rw [itemsText,← intercalate_items]
    simp [stringify]

theorem intercalate_fields (field : String × Json) (fields : List (String × Json)) :
    (String.intercalate "," (stringifyFields (field::fields))).toList ++ ['}'] = fieldText field ++ fieldsEnd fields := by
  induction fields generalizing field with
  | nil => simp [stringifyFields,fieldsEnd,fieldText]
  | cons other fields ih =>
    have later := ih other
    simp only [stringifyFields] at later ⊢
    rw [String.intercalate_cons_cons,fieldsEnd,← later]
    simp [fieldText,List.append_assoc]

theorem object_chars (fields : List (String × Json)) : (stringify (.obj fields)).toList = '{'::fieldsText fields := by
  cases fields with
  | nil => simp [stringify,stringifyFields,fieldsText]
  | cons field fields =>
    rw [fieldsText,← intercalate_fields]
    simp [stringify]

def leads (char : Char) : Json → Bool
  | .null => char = 'n'
  | .bool value => char = if value then 't' else 'f'
  | .num _ => char.isDigit || char = '-'
  | .str _ => char = '"'
  | .timestamp _ => char = '"'
  | .arr _ => char = '['
  | .obj _ => char = '{'

theorem stringify_head (value : Json) : ∃ char chars, (stringify value).toList = char::chars ∧ leads char value := by
  cases value with
  | null => exact ⟨'n',_,rfl,rfl⟩
  | bool value => cases value with
    | false => exact ⟨'f',_,rfl,rfl⟩
    | true => exact ⟨'t',_,rfl,rfl⟩
  | num value =>
    rw [stringify,integer_chars]
    obtain ⟨digit,digits,isDigits,isDigit⟩ := natural_head value.natAbs
    split
    · exact ⟨'-',_,rfl,rfl⟩
    · exact ⟨digit,digits,isDigits,by simp [leads,isDigit]⟩
  | str value => exact ⟨_,_,quoted_chars value,rfl⟩
  | timestamp at_ => exact ⟨_,_,quoted_chars _,rfl⟩
  | arr items => exact ⟨_,_,array_chars items,rfl⟩
  | obj fields => exact ⟨_,_,object_chars fields,rfl⟩

theorem leads_same (same : (stringify value).toList ++ rest = (stringify other).toList ++ rest') :
    ∃ char, leads char value ∧ leads char other := by
  obtain ⟨char,chars,isText,first⟩ := stringify_head value
  obtain ⟨char',chars',isText',second⟩ := stringify_head other
  rw [isText,isText'] at same
  obtain ⟨rfl,_⟩ := List.cons.inj same
  exact ⟨char,first,second⟩

theorem ended_itemsEnd (items : List Json) (rest : List Char) : Ended (itemsEnd items ++ rest) := by
  cases items <;> simp [Ended,itemsEnd]

theorem ended_fieldsEnd (fields : List (String × Json)) (rest : List Char) : Ended (fieldsEnd fields ++ rest) := by
  cases fields <;> simp [Ended,fieldsEnd]

inductive JsonKind where
  | null
  | bool
  | num
  | str
  | arr
  | obj

def kind : Json → JsonKind
  | .null => .null
  | .bool _ => .bool
  | .num _ => .num
  | .str _ => .str
  | .timestamp _ => .str
  | .arr _ => .arr
  | .obj _ => .obj

def kindOf (char : Char) : JsonKind :=
  if char = 'n' then .null
  else if char = 't' ∨ char = 'f' then .bool
  else if char = '"' then .str
  else if char = '[' then .arr
  else if char = '{' then .obj
  else .num

theorem leads_kind {char : Char} {value : Json} (first : leads char value) : kindOf char = kind value := by
  cases value with
  | num value =>
    have apart (other : Char) (letter : (other.isDigit || decide (other = '-')) = false) : char ≠ other := by
      rintro rfl
      simp only [leads] at first
      simp_all
    simp [kindOf,kind,apart 'n' (by decide),apart 't' (by decide),apart 'f' (by decide),apart '"' (by decide),
      apart '[' (by decide),apart '{' (by decide)]
  | bool value => cases value <;> simp_all [leads,kindOf,kind]
  | _ => simp_all [leads,kindOf,kind]

theorem kind_same (same : (stringify value).toList ++ rest = (stringify other).toList ++ rest') : kind value = kind other := by
  obtain ⟨char,first,second⟩ := leads_same same
  rw [← leads_kind first,leads_kind second]

theorem itemsText_ne (item : Json) (items : List Json) (rest rest' : List Char) : itemsText (item::items) ++ rest ≠ ']'::rest' := by
  intro same
  obtain ⟨char,chars,isText,first⟩ := stringify_head item
  rw [itemsText,isText] at same
  obtain ⟨rfl,_⟩ := List.cons.inj same
  cases item <;> simp [leads] at first
  rename_i value
  cases value <;> simp at first

theorem fieldsText_ne (field : String × Json) (fields : List (String × Json)) (rest rest' : List Char) :
    fieldsText (field::fields) ++ rest ≠ '}'::rest' := by
  intro same
  rw [fieldsText,fieldText,quoted_chars] at same
  obtain ⟨impossible,_⟩ := List.cons.inj same
  exact absurd impossible (by decide)

def Cancels (value : Json) : Prop :=
  ∀ (other : Json) (rest rest' : List Char), timeless value → timeless other → Ended rest → Ended rest' →
    (stringify value).toList ++ rest = (stringify other).toList ++ rest' → value = other ∧ rest = rest'

theorem itemsEnd_cancel {items others : List Json}
    (same : itemsEnd items ++ rest = itemsEnd others ++ rest') : itemsText items ++ rest = itemsText others ++ rest' := by
  cases items <;> cases others
  · exact same
  · simp [itemsEnd] at same
  · simp [itemsEnd] at same
  · exact List.tail_eq_of_cons_eq same

theorem items_cancel {items others : List Json} (each : ∀ item ∈ items, Cancels item)
    (timely : timelessItems items) (timely' : timelessItems others)
    (same : itemsText items ++ rest = itemsText others ++ rest') : items = others ∧ rest = rest' := by
  induction items generalizing others with
  | nil =>
    cases others with
    | nil => exact ⟨rfl,List.tail_eq_of_cons_eq same⟩
    | cons other others => exact absurd same.symm (itemsText_ne other others rest' rest)
  | cons item items ih =>
    cases others with
    | nil => exact absurd same (itemsText_ne item items rest rest')
    | cons other others =>
      simp only [timelessItems,Bool.and_eq_true] at timely timely'
      rw [itemsText,itemsText,List.append_assoc,List.append_assoc] at same
      obtain ⟨rfl,later⟩ := each item List.mem_cons_self other _ _ timely.1 timely'.1 (ended_itemsEnd items rest)
        (ended_itemsEnd others rest') same
      have inner (next : Json) (inside : next ∈ items) : Cancels next := each next (List.mem_cons_of_mem _ inside)
      obtain ⟨rfl,rests⟩ := ih inner timely.2 timely'.2 (itemsEnd_cancel later)
      exact ⟨rfl,rests⟩

theorem fieldsEnd_cancel
    (same : fieldsEnd fields ++ rest = fieldsEnd others ++ rest') : fieldsText fields ++ rest = fieldsText others ++ rest' := by
  cases fields <;> cases others
  · exact same
  · simp [fieldsEnd] at same
  · simp [fieldsEnd] at same
  · exact List.tail_eq_of_cons_eq same

theorem fields_cancel (each : ∀ field ∈ fields, Cancels field.2) (timely : timelessFields fields) (timely' : timelessFields others)
    (same : fieldsText fields ++ rest = fieldsText others ++ rest') : fields = others ∧ rest = rest' := by
  induction fields generalizing others with
  | nil =>
    cases others with
    | nil => exact ⟨rfl,List.tail_eq_of_cons_eq same⟩
    | cons other others => exact absurd same.symm (fieldsText_ne other others rest' rest)
  | cons field fields ih =>
    cases others with
    | nil => exact absurd same (fieldsText_ne field fields rest rest')
    | cons other others =>
      obtain ⟨name,value⟩ := field
      obtain ⟨name',value'⟩ := other
      simp only [timelessFields,Bool.and_eq_true] at timely timely'
      simp only [fieldsText,fieldText,List.append_assoc,List.cons_append] at same
      obtain ⟨rfl,values⟩ := quoted_cancel same
      obtain ⟨rfl,later⟩ := each (name,value) List.mem_cons_self value' _ _ timely.1 timely'.1 (ended_fieldsEnd fields rest)
        (ended_fieldsEnd others rest') (List.tail_eq_of_cons_eq values)
      have inner (next : String × Json) (inside : next ∈ fields) : Cancels next.2 := each next (List.mem_cons_of_mem _ inside)
      obtain ⟨rfl,rests⟩ := ih inner timely.2 timely'.2 (fieldsEnd_cancel later)
      exact ⟨rfl,rests⟩

theorem cancels_scalar {value : Json} (scalar : kind value ≠ .arr ∧ kind value ≠ .obj) : Cancels value := by
  intro other rest rest' timely timely' ended ended' same
  have kinds := kind_same same
  cases value with
  | null =>
    cases other <;> simp only [kind,reduceCtorEq] at kinds
    exact ⟨rfl,List.append_cancel_left same⟩
  | bool value =>
    cases other with
    | bool other =>
      cases value <;> cases other
      · exact ⟨rfl,List.append_cancel_left same⟩
      · simp [stringify] at same
      · simp [stringify] at same
      · exact ⟨rfl,List.append_cancel_left same⟩
    | _ => simp [kind] at kinds
  | num value =>
    cases other with
    | num other =>
      obtain ⟨rfl,rests⟩ := integer_cancel ended ended' same
      exact ⟨rfl,rests⟩
    | _ => simp [kind] at kinds
  | str value =>
    cases other with
    | str other =>
      obtain ⟨rfl,rests⟩ := quoted_cancel same
      exact ⟨rfl,rests⟩
    | timestamp _ => simp [timeless] at timely'
    | _ => simp [kind] at kinds
  | timestamp _ => simp [timeless] at timely
  | arr _ => exact absurd rfl scalar.1
  | obj _ => exact absurd rfl scalar.2

theorem cancels (value : Json) : Cancels value := by
  match value with
  | .arr items =>
    have each (item : Json) (inside : item ∈ items) : Cancels item := by
      have smaller : sizeOf item < 1 + sizeOf items := by
        have first := List.sizeOf_lt_of_mem inside
        omega
      exact cancels item
    intro other rest rest' timely timely' _ _ same
    have kinds := kind_same same
    cases other with
    | arr others =>
      rw [array_chars,array_chars] at same
      obtain ⟨rfl,rests⟩ := items_cancel each timely timely' (List.tail_eq_of_cons_eq same)
      exact ⟨rfl,rests⟩
    | _ => simp [kind] at kinds
  | .obj fields =>
    have each (field : String × Json) (inside : field ∈ fields) : Cancels field.2 := by
      obtain ⟨name,inner⟩ := field
      have smaller : sizeOf inner < 1 + sizeOf fields := by
        have first := List.sizeOf_lt_of_mem inside
        simp only [Prod.mk.sizeOf_spec] at first
        omega
      exact cancels inner
    intro other rest rest' timely timely' _ _ same
    have kinds := kind_same same
    cases other with
    | obj others =>
      rw [object_chars,object_chars] at same
      obtain ⟨rfl,rests⟩ := fields_cancel each timely timely' (List.tail_eq_of_cons_eq same)
      exact ⟨rfl,rests⟩
    | _ => simp [kind] at kinds
  | .null => exact cancels_scalar (by simp [kind])
  | .bool _ => exact cancels_scalar (by simp [kind])
  | .num _ => exact cancels_scalar (by simp [kind])
  | .str _ => exact cancels_scalar (by simp [kind])
  | .timestamp _ => exact cancels_scalar (by simp [kind])
termination_by sizeOf value
decreasing_by all_goals simpa using smaller

theorem stringify_injective (timely : timeless value) (timely' : timeless other)
    (same : stringify value = stringify other) : value = other := by
  have ended : Ended [] := by simp [Ended]
  have chars := congrArg String.toList same
  exact (cancels value other [] [] timely timely' ended ended (by simpa using chars)).1

/-! ### Canonical text -/

theorem timelessItems_all (items : List Json) : timelessItems items = items.all timeless := by
  induction items with
  | nil => rfl
  | cons item items ih => rw [timelessItems,ih,List.all_cons]

theorem timelessFields_all (fields : List (String × Json)) : timelessFields fields = fields.all fun field => timeless field.2 := by
  induction fields with
  | nil => rfl
  | cons field fields ih => rw [timelessFields,ih,List.all_cons]

theorem canonicalizeItems_eq (items : List Json) : canonicalizeItems items = items.map canonicalize := by
  induction items with
  | nil => rfl
  | cons item items ih => rw [canonicalizeItems,ih,List.map_cons]

theorem canonicalizeFields_eq (fields : List (String × Json)) :
    canonicalizeFields fields = fields.map fun field => (field.1,canonicalize field.2) := by
  induction fields with
  | nil => rfl
  | cons field fields ih => rw [canonicalizeFields,ih,List.map_cons]

theorem timeless_canonicalize (value : Json) (timely : timeless value) : timeless (canonicalize value) := by
  match value with
  | .arr items =>
    rw [canonicalize,canonicalizeItems_eq,timeless,timelessItems_all,List.all_map]
    simp only [timeless,timelessItems_all,List.all_eq_true] at timely ⊢
    intro item inside
    have smaller : sizeOf item < 1 + sizeOf items := by
      have first := List.sizeOf_lt_of_mem inside
      omega
    exact timeless_canonicalize item (timely item inside)
  | .obj fields =>
    rw [canonicalize,canonicalizeFields_eq,timeless,timelessFields_all,List.all_eq_true]
    simp only [timeless,timelessFields_all,List.all_eq_true] at timely
    intro field inside
    rw [List.mem_insertionSort,List.mem_map] at inside
    obtain ⟨⟨name,inner⟩,within,rfl⟩ := inside
    have smaller : sizeOf inner < 1 + sizeOf fields := by
      have first := List.sizeOf_lt_of_mem within
      simp only [Prod.mk.sizeOf_spec] at first
      omega
    exact timeless_canonicalize inner (timely _ within)
  | .null => rfl
  | .bool _ => rfl
  | .num _ => rfl
  | .str _ => rfl
  | .timestamp _ => exact timely
termination_by sizeOf value
decreasing_by all_goals simpa using smaller

theorem canonicalJsonValue_injective (timely : timeless value) (timely' : timeless other)
    (same : canonicalJsonValue value = canonicalJsonValue other) : value.canonicalize = other.canonicalize :=
  stringify_injective (timeless_canonicalize value timely) (timeless_canonicalize other timely') same

theorem entries_eq {α : Type} {entries others : List (String × α)} (distinct : (entries.map Prod.fst).Nodup)
    (keys : entries.map Prod.fst = others.map Prod.fst) (perm : entries.Perm others) : entries = others := by
  have unique (entry other : String × α) (inside : entry ∈ entries) (inside' : other ∈ entries)
      (same : entry.1 = other.1) : entry = other := List.inj_on_of_nodup_map distinct inside inside' same
  have sameLength : entries.length = others.length := perm.length_eq
  apply List.ext_getElem sameLength
  intro place bound bound'
  have names := congrArg (·[place]?) keys
  simp only [List.getElem?_map,List.getElem?_eq_getElem bound,List.getElem?_eq_getElem bound',Option.map_some,
    Option.some.injEq] at names
  exact unique _ _ (List.getElem_mem bound) (perm.mem_iff.mpr (List.getElem_mem bound')) names

section
variable (same : (Json.obj fields).canonicalize = (Json.obj others).canonicalize)
include same

theorem canonicalize_obj_inj (keys : fields.map Prod.fst = others.map Prod.fst) (distinct : (fields.map Prod.fst).Nodup) :
    canonicalizeFields fields = canonicalizeFields others := by
  simp only [canonicalize,Json.obj.injEq] at same
  have perm := (List.perm_insertionSort _ _).symm.trans ((List.Perm.of_eq same).trans (List.perm_insertionSort _ _))
  have names (list : List (String × Json)) : (canonicalizeFields list).map Prod.fst = list.map Prod.fst := by
    simp [canonicalizeFields_eq,Function.comp_def]
  exact entries_eq (by rwa [names]) (by rw [names,names,keys]) perm

theorem canonicalize_obj_length : fields.length = others.length := by
  simp only [canonicalize,Json.obj.injEq] at same
  simpa [canonicalizeFields_eq] using congrArg List.length same

end

/-! ### The order of texts -/

def decodeUnit : List Nat → Option (Nat × List Nat)
  | [] => none
  | unit::rest =>
    if 0xD800 ≤ unit ∧ unit < 0xDC00 then
      some (0x10000 + (unit - 0xD800) * 0x400 + (rest.headD 0 - 0xDC00),rest.tail)
    else some (unit,rest)

theorem codeUnits_cons (char : Char) (chars : List Char) :
    codeUnits (String.ofList (char::chars)) = codeUnits (String.singleton char) ++ codeUnits (String.ofList chars) := by
  simp [codeUnits]

theorem decodeUnit_char (char : Char) (rest : List Nat) :
    decodeUnit (codeUnits (String.singleton char) ++ rest) = some (char.val.toNat,rest) := by
  have valid := char.valid
  simp only [UInt32.isValidChar,Nat.isValidChar] at valid
  simp only [codeUnits,String.toList_singleton,List.flatMap_cons,List.flatMap_nil,List.append_nil]
  split
  · rw [List.singleton_append,decodeUnit,if_neg (by omega)]
  · rename_i large
    have bounds : ¬ char.val.toNat < 65536 := large
    have back : 0x10000 + (0xD800 + (char.val.toNat - 0x10000) / 0x400 - 0xD800) * 0x400 +
        (0xDC00 + (char.val.toNat - 0x10000) % 0x400 - 0xDC00) = char.val.toNat := by omega
    rw [List.cons_append,List.singleton_append,decodeUnit,if_pos (by omega),List.headD_cons,List.tail_cons,back]

theorem codeUnits_injective {text other : String} (same : codeUnits text = codeUnits other) : text = other := by
  have chars (first second : List Char) (same : codeUnits (String.ofList first) = codeUnits (String.ofList second)) :
      first = second := by
    induction first generalizing second with
    | nil =>
      cases second with
      | nil => rfl
      | cons char second =>
        have read := congrArg decodeUnit same
        rw [codeUnits_cons,decodeUnit_char] at read
        cases read
    | cons char first ih =>
      have read := congrArg decodeUnit same
      rw [codeUnits_cons,decodeUnit_char] at read
      cases second with
      | nil => cases read
      | cons other second =>
        rw [codeUnits_cons,decodeUnit_char] at read
        simp only [Option.some.injEq,Prod.mk.injEq] at read
        obtain rfl : char = other := Char.toNat_inj.mp read.1
        rw [ih second read.2]
  have lists := chars text.toList other.toList (by simpa using same)
  exact String.toList_injective lists

theorem compareCanonicalKeys_antisymm {left right : String} (first : compareCanonicalKeys left right = true)
    (second : compareCanonicalKeys right left = true) : left = right := by
  simp only [compareCanonicalKeys,decide_eq_true_eq] at first second
  exact codeUnits_injective (le_antisymm first second)

theorem compareCanonicalKeys_total (left right : String) :
    compareCanonicalKeys left right = true ∨ compareCanonicalKeys right left = true := by
  simp only [compareCanonicalKeys,decide_eq_true_eq]
  exact le_total _ _

theorem compareCanonicalKeys_trans {left middle right : String} (first : compareCanonicalKeys left middle = true)
    (second : compareCanonicalKeys middle right = true) : compareCanonicalKeys left right = true := by
  simp only [compareCanonicalKeys,decide_eq_true_eq] at first second ⊢
  exact le_trans first second

theorem sorted_perm {α : Type} {key : α → String} {items others : List α} (perm : items.Perm others)
    (unique : ∀ item ∈ items, ∀ other ∈ items, key item = key other → item = other) :
    items.insertionSort (fun left right => compareCanonicalKeys (key left) (key right)) =
      others.insertionSort fun left right => compareCanonicalKeys (key left) (key right) := by
  let before (left right : α) : Prop := compareCanonicalKeys (key left) (key right)
  have total : Std.Total before := ⟨fun left right => compareCanonicalKeys_total _ _⟩
  have transitive : IsTrans α before := ⟨fun _ _ _ first second => compareCanonicalKeys_trans first second⟩
  have inside (item : α) (within : item ∈ others) : item ∈ items := perm.mem_iff.mpr within
  refine List.Perm.eq_of_pairwise ?_ (List.pairwise_insertionSort before items) (List.pairwise_insertionSort before others) ?_
  · intro item other within within' first second
    rw [List.mem_insertionSort] at within within'
    exact unique item within other (inside other within') (compareCanonicalKeys_antisymm first second)
  · exact (List.perm_insertionSort _ _).trans (perm.trans (List.perm_insertionSort _ _).symm)

end AgentOS.Json
