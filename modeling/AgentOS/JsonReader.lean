import AgentOS.JsonText

/-! `JSON.parse`, and that it reads back what is written. Numbers that are no integers, and halves of surrogate pairs that
stand alone, are no values here, and are not read. -/
namespace AgentOS.Json
open Library

/-! ### Strings -/

def whitespace (char : Char) : Bool := char = ' ' || char = '\t' || char = '\n' || char = '\r'

def skip (chars : List Char) : List Char := chars.dropWhile whitespace

def hexValue (char : Char) : Option Nat :=
  if char.isDigit then some (char.toNat - 48)
  else if 'a' ≤ char ∧ char ≤ 'f' then some (char.toNat - 87)
  else if 'A' ≤ char ∧ char ≤ 'F' then some (char.toNat - 55)
  else none

def codeUnit : List Char → Option (Nat × List Char)
  | first::second::third::fourth::rest => match hexValue first,hexValue second,hexValue third,hexValue fourth with
    | some first,some second,some third,some fourth => some (((first * 16 + second) * 16 + third) * 16 + fourth,rest)
    | _,_,_,_ => none
  | _ => none

/-- What follows a `\u`: a character, or the two halves of one. -/
def unicodeEscape (chars : List Char) : Option (Char × List Char) :=
  codeUnit chars >>= fun (unit,rest) =>
    if unit < 0xD800 ∨ 0xDFFF < unit then some (Char.ofNat unit,rest)
    else match rest with
      | '\\' :: 'u' :: rest => codeUnit rest >>= fun (low,rest) =>
        if unit < 0xDC00 ∧ 0xDC00 ≤ low ∧ low ≤ 0xDFFF then
          some (Char.ofNat (0x10000 + (unit - 0xD800) * 0x400 + (low - 0xDC00)),rest)
        else none
      | _ => none

def parseChar : List Char → Option (Char × List Char)
  | '\\':: '"'::rest => some ('"',rest)
  | '\\':: '\\'::rest => some ('\\',rest)
  | '\\':: '/'::rest => some ('/',rest)
  | '\\':: 'b'::rest => some (Char.ofNat 8,rest)
  | '\\':: 'f'::rest => some (Char.ofNat 12,rest)
  | '\\':: 'n'::rest => some ('\n',rest)
  | '\\':: 'r'::rest => some ('\r',rest)
  | '\\':: 't'::rest => some ('\t',rest)
  | '\\':: 'u'::rest => unicodeEscape rest
  | '\\'::_ => none
  | char::rest => if char.val < 32 then none else some (char,rest)
  | [] => none

def parseString : Nat → List Char → Option (List Char × List Char)
  | 0,_ => none
  | _ + 1,'"'::rest => some ([],rest)
  | fuel + 1,chars => parseChar chars >>= fun (char,rest) => (parseString fuel rest).map fun (text,rest) => (char::text,rest)

/-! ### Numbers -/

def parseNatural (chars : List Char) : Option (Nat × List Char) :=
  let digits := chars.takeWhile Char.isDigit
  let rest := chars.dropWhile Char.isDigit
  if digits = [] ∨ (digits.head? = some '0' ∧ 1 < digits.length) ∨ rest.head?.any (fun char => char = '.' || char = 'e' || char = 'E')
  then none
  else some (Nat.ofDigitChars 10 digits 0,rest)

def parseNumber : List Char → Option (Json × List Char)
  | '-'::rest => (parseNatural rest).map fun (number,rest) => (.num (-number),rest)
  | chars => (parseNatural chars).map fun (number,rest) => (.num number,rest)

/-! ### Objects -/

variable (fields : List (String × Json))

def put (field : String × Json) : List (String × Json) :=
  if field.1 ∈ fields.map Prod.fst then fields.map fun entry => if entry.1 = field.1 then field else entry
  else fields ++ [field]

def arrayIndex (name : String) : Option Nat :=
  match parseNatural name.toList with
  | some (number,[]) => if number < 4294967295 then some number else none
  | _ => none

/-- The language's order of an object's fields: indices first, in their order. -/
def ownOrder : List (String × Json) :=
  (fields.filter fun field => (arrayIndex field.1).isSome).insertionSort
      (fun left right => (arrayIndex left.1).getD 0 ≤ (arrayIndex right.1).getD 0) ++
    fields.filter fun field => (arrayIndex field.1).isNone

def object : Json := .obj (ownOrder (fields.foldl put []))

/-! ### Values -/

mutual
def parseValue : Nat → List Char → Option (Json × List Char)
  | 0,_ => none
  | fuel + 1,chars => match skip chars with
    | 'n':: 'u':: 'l':: 'l'::rest => some (.null,rest)
    | 't':: 'r':: 'u':: 'e'::rest => some (.bool true,rest)
    | 'f':: 'a':: 'l':: 's':: 'e'::rest => some (.bool false,rest)
    | '"'::rest => (parseString fuel rest).map fun (text,rest) => (.str (String.ofList text),rest)
    | '['::rest => match skip rest with
      | ']'::rest => some (.arr [],rest)
      | _ => (parseItems fuel rest).map fun (items,rest) => (.arr items,rest)
    | '{'::rest => match skip rest with
      | '}'::rest => some (.obj [],rest)
      | _ => (parseFields fuel rest).map fun (fields,rest) => (object fields,rest)
    | chars => parseNumber chars
def parseItems : Nat → List Char → Option (List Json × List Char)
  | 0,_ => none
  | fuel + 1,chars => parseValue fuel chars >>= fun (item,rest) => match skip rest with
    | ','::rest => (parseItems fuel rest).map fun (items,rest) => (item::items,rest)
    | ']'::rest => some ([item],rest)
    | _ => none
def parseFields : Nat → List Char → Option (List (String × Json) × List Char)
  | 0,_ => none
  | fuel + 1,chars => match skip chars with
    | '"'::rest => parseString fuel rest >>= fun (name,rest) => match skip rest with
      | ':'::rest => parseValue fuel rest >>= fun (value,rest) => match skip rest with
        | ','::rest => (parseFields fuel rest).map fun (fields,rest) => ((String.ofList name,value)::fields,rest)
        | '}'::rest => some ([(String.ofList name,value)],rest)
        | _ => none
      | _ => none
    | _ => none
end

def parse (text : String) : Option Json :=
  match parseValue (2 * text.length) text.toList with
  | some (value,rest) => if skip rest = [] then some value else none
  | none => none

/-! ### Reading back -/

theorem parseChar_control : ∀ number : Fin 32, ∀ rest : List Char,
    parseChar ((escaped (Char.ofNat number)).toList ++ rest) = some (Char.ofNat number,rest) := by
  intro number rest
  fin_cases number <;> rfl

variable {value : Json} {char : Char} {field : String × Json}

theorem parseChar_plain (slash : char ≠ '\\') (printed : ¬ char.val < 32) (rest : List Char) :
    parseChar (char::rest) = some (char,rest) := by
  unfold parseChar
  split <;> simp_all

theorem parseChar_escaped (char : Char) (rest : List Char) : parseChar ((escaped char).toList ++ rest) = some (char,rest) := by
  by_cases control : char.val < 32
  · have small : char.toNat < 32 := control
    have same := parseChar_control ⟨char.toNat,small⟩ rest
    rwa [Char.ofNat_toNat] at same
  · by_cases quote : char = '"'
    · subst quote
      rfl
    by_cases slash : char = '\\'
    · subst slash
      rfl
    rw [escaped_plain quote slash control,String.toList_singleton]
    exact parseChar_plain slash control rest

def Stops (rest : List Char) : Prop := ∀ char ∈ rest.head?, char = ',' ∨ char = ']' ∨ char = '}'

theorem escaped_not_quote (char : Char) (rest next : List Char) : (escaped char).toList ++ rest ≠ '"'::next := by
  intro same
  have read := unescape_escaped char rest
  rw [same,unescape_quote] at read
  cases read

theorem parseString_step {fuel : Nat} {chars : List Char} (open_ : ∀ rest, chars ≠ '"'::rest) : parseString (fuel + 1) chars =
      parseChar chars >>= fun (char,rest) => (parseString fuel rest).map fun (text,rest) => (char::text,rest) := by
  rw [parseString]
  exact open_

theorem parseString_quoted {fuel : Nat} {text : List Char} (enough : text.length < fuel) (rest : List Char) :
    parseString fuel (escapedChars text ++ '"'::rest) = some (text,rest) := by
  induction text generalizing fuel with
  | nil =>
    obtain ⟨fuel,rfl⟩ := Nat.exists_eq_add_of_lt enough
    simp [escapedChars,parseString]
  | cons char text ih =>
    obtain ⟨fuel,rfl⟩ : ∃ more, fuel = more + 1 := ⟨fuel - 1,by omega⟩
    have later := @ih fuel (by simpa using enough)
    rw [escapedChars,List.flatMap_cons,List.append_assoc,parseString_step (escaped_not_quote char _),parseChar_escaped]
    unfold escapedChars at later
    simp only [Option.bind_eq_bind,Option.bind_some,later,Option.map_some]

theorem escapedChars_length (text : List Char) : text.length ≤ (escapedChars text).length := by
  induction text with
  | nil => exact Nat.le_refl 0
  | cons char text ih =>
    have one : 0 < (escaped char).toList.length := by
      apply List.length_pos_of_ne_nil
      intro empty
      have read := parseChar_escaped char []
      rw [empty] at read
      cases read
    unfold escapedChars at ih ⊢
    rw [List.flatMap_cons,List.length_append,List.length_cons]
    omega

/-! ### Reading numbers back -/

theorem dropWhile_digits {digits rest : List Char} (all : ∀ char ∈ digits, char.isDigit = true) (ended : Ended rest) :
    (digits ++ rest).dropWhile Char.isDigit = rest := by
  have taken := takeWhile_digits all ended
  have whole := List.takeWhile_append_dropWhile (p := Char.isDigit) (l := digits ++ rest)
  rw [taken] at whole
  exact List.append_cancel_left whole

theorem toDigits_head {number : Nat} (positive : 0 < number) : (Nat.toDigits 10 number).head? ≠ some '0' := by
  induction number using Nat.strong_induction_on with
  | _ number ih =>
    by_cases small : number < 10
    · rw [Nat.toDigits_of_lt_base small]
      have apart : ∀ digit : Fin 10, 0 < digit.val → Nat.digitChar digit.val ≠ '0' := by decide
      intro same
      exact apart ⟨number,small⟩ positive (Option.some.inj same)
    · rw [Nat.toDigits_of_base_le (by omega) (by omega),List.head?_append_of_ne_nil _ Nat.toDigits_ne_nil]
      exact ih (number / 10) (by omega) (by omega)

variable {rest : List Char}

theorem Stops.ended (stops : Stops rest) : Ended rest := by
  intro char inside
  obtain rfl | rfl | rfl := stops char inside
  · decide
  · decide
  · decide

theorem parseNatural_digits (number : Nat) (stops : Stops rest) :
    parseNatural ((toString number).toList ++ rest) = some (number,rest) := by
  have all : ∀ char ∈ (toString number).toList, char.isDigit = true := fun _ => Joined.digits_of_toString
  unfold parseNatural
  rw [takeWhile_digits all stops.ended,dropWhile_digits all stops.ended]
  dsimp only
  have numeral : (toString number).toList = Nat.toDigits 10 number := Nat.toList_repr
  rw [numeral,if_neg,Nat.ofDigitChars_ten_toDigits]
  simp only [not_or,not_and,Option.any_eq_true,not_exists]
  refine ⟨Nat.toDigits_ne_nil,?_,?_⟩
  · intro zero longer
    obtain rfl | positive := Nat.eq_zero_or_pos number
    · exact absurd longer (by decide)
    · exact toDigits_head positive zero
  · intro char inside marks
    obtain rfl | rfl | rfl := stops char inside
    · cases marks
    · cases marks
    · cases marks

theorem parseNumber_integer (number : Int) (stops : Stops rest) :
    parseNumber ((toString number).toList ++ rest) = some (.num number,rest) := by
  rw [integer_chars]
  split
  · rename_i negative
    rw [List.cons_append,parseNumber,parseNatural_digits _ stops,Option.map_some]
    have same : -(number.natAbs : Int) = number := by omega
    dsimp only
    rw [same]
  · rename_i positive
    obtain ⟨digit,digits,isDigits,isDigit⟩ := natural_head number.natAbs
    have read := parseNatural_digits number.natAbs stops
    have same : (number.natAbs : Int) = number := by omega
    unfold parseNumber
    split
    · rename_i minus
      rw [isDigits] at minus
      obtain ⟨rfl,_⟩ := List.cons.inj minus
      cases isDigit
    · rw [read,Option.map_some]
      dsimp only
      rw [same]

/-! ### Reading values back -/

/-- A value as it is after it is read: no timestamps, and objects with names of their own in the language's order. -/
inductive Readable : Json → Prop
  | null : Readable .null
  | bool (value : Bool) : Readable (.bool value)
  | num (value : Int) : Readable (.num value)
  | str (value : String) : Readable (.str value)
  | arr {items : List Json} (each : ∀ item ∈ items, Readable item) : Readable (.arr items)
  | obj {fields : List (String × Json)} (each : ∀ field ∈ fields, Readable field.2) (distinct : (fields.map Prod.fst).Nodup)
    (named : ∀ field ∈ fields, arrayIndex field.1 = none) : Readable (.obj fields)

theorem foldl_put {fields before : List (String × Json)} (distinct : ((before ++ fields).map Prod.fst).Nodup) :
    fields.foldl put before = before ++ fields := by
  induction fields generalizing before with
  | nil => simp
  | cons field fields ih =>
    have fresh : field.1 ∉ before.map Prod.fst := by
      rw [List.map_append,List.map_cons,List.nodup_append] at distinct
      intro inside
      exact distinct.2.2 _ inside _ List.mem_cons_self rfl
    have placed : put before field = before ++ [field] := if_neg fresh
    rw [List.foldl_cons,placed,ih (by simpa using distinct),List.append_assoc,List.singleton_append]

theorem object_named {fields : List (String × Json)} (distinct : (fields.map Prod.fst).Nodup)
    (named : ∀ field ∈ fields, arrayIndex field.1 = none) : object fields = .obj fields := by
  have indices : (fields.filter fun field => (arrayIndex field.1).isSome) = [] := by
    apply List.filter_eq_nil_iff.mpr
    intro field inside
    rw [named field inside]
    exact Bool.false_ne_true
  have names : (fields.filter fun field => (arrayIndex field.1).isNone) = fields := by
    apply List.filter_eq_self.mpr
    intro field inside
    rw [named field inside]
    rfl
  unfold object ownOrder
  rw [@foldl_put fields [] distinct,List.nil_append,indices,names]
  rfl

theorem skip_head (text : whitespace char = false) (chars : List Char) : skip (char::chars) = char::chars :=
  List.dropWhile_cons_of_neg (by simp [text])

theorem leads_text (first : leads char value = true) : whitespace char = false ∧ char ≠ ']' ∧ char ≠ '}' := by
  have constant {other : Char} (same : char = other) (text : whitespace other = false ∧ other ≠ ']' ∧ other ≠ '}') :
      whitespace char = false ∧ char ≠ ']' ∧ char ≠ '}' := same ▸ text
  cases value with
  | null => exact constant (of_decide_eq_true first) (by decide)
  | bool value => cases value with
    | false => exact constant (of_decide_eq_true first) (by decide)
    | true => exact constant (of_decide_eq_true first) (by decide)
  | num value =>
    obtain digit | minus := Bool.or_eq_true_iff.mp first
    · have apart (other : Char) (mark : other.isDigit = false) : char ≠ other := by
        intro same
        rw [same,mark] at digit
        cases digit
      refine ⟨?_,apart ']' (by decide),apart '}' (by decide)⟩
      simp [whitespace,apart ' ' (by decide),apart '\t' (by decide),apart '\n' (by decide),apart '\r' (by decide)]
    · exact constant (of_decide_eq_true minus) (by decide)
  | str value => exact constant (of_decide_eq_true first) (by decide)
  | timestamp at_ => exact constant (of_decide_eq_true first) (by decide)
  | arr items => exact constant (of_decide_eq_true first) (by decide)
  | obj fields => exact constant (of_decide_eq_true first) (by decide)

theorem skip_value (value : Json) (rest : List Char) : skip ((stringify value).toList ++ rest) = (stringify value).toList ++ rest := by
  obtain ⟨char,chars,isText,first⟩ := stringify_head value
  rw [isText,List.cons_append,skip_head (leads_text first).1]

def Reads (value : Json) : Prop :=
  ∀ fuel rest, Stops rest → 2 * (stringify value).toList.length ≤ fuel → parseValue fuel ((stringify value).toList ++ rest) = some (value,rest)

theorem stops_itemsEnd (items : List Json) (rest : List Char) : Stops (itemsEnd items ++ rest) := by
  cases items with
  | nil => simp [Stops,itemsEnd]
  | cons item items => simp [Stops,itemsEnd]

theorem stops_fieldsEnd (rest : List Char) : Stops (fieldsEnd fields ++ rest) := by
  cases fields with
  | nil => simp [Stops,fieldsEnd]
  | cons field fields => simp [Stops,fieldsEnd]

theorem parseItems_text {item : Json} {items : List Json} (each : ∀ item' ∈ item::items, Reads item') {fuel : Nat} (rest : List Char)
    (enough : 2 * ((stringify item).toList ++ itemsEnd items).length ≤ fuel) :
    parseItems fuel ((stringify item).toList ++ itemsEnd items ++ rest) = some (item::items,rest) := by
  induction items generalizing item fuel with
  | nil =>
    obtain ⟨fuel,rfl⟩ : ∃ more, fuel = more + 1 := ⟨fuel - 1,by simp [itemsEnd] at enough; omega⟩
    have read := each item List.mem_cons_self fuel (itemsEnd [] ++ rest) (stops_itemsEnd [] rest)
      (by simp [itemsEnd] at enough; omega)
    rw [parseItems,List.append_assoc,read]
    rfl
  | cons other items ih =>
    rw [itemsEnd,List.length_append,List.length_cons] at enough
    obtain ⟨fuel,rfl⟩ : ∃ more, fuel = more + 1 := ⟨fuel - 1,by omega⟩
    have read := each item List.mem_cons_self fuel (itemsEnd (other::items) ++ rest) (stops_itemsEnd _ rest) (by omega)
    have later := @ih other (fun item' inside => each item' (List.mem_cons_of_mem _ inside)) fuel (by omega)
    rw [parseItems,List.append_assoc,read,itemsEnd]
    simp only [Option.bind_eq_bind,Option.bind_some,List.cons_append]
    rw [skip_head (by decide)]
    exact congrArg (Option.map fun found => (item::found.1,found.2)) later

theorem quoted_append (name : String) (rest : List Char) :
    (quoted name).toList ++ rest = '"'::(escapedChars name.toList ++ '"'::rest) := by
  rw [quoted_chars]
  simp

theorem quoted_length (name : String) : name.toList.length + 2 ≤ (quoted name).toList.length := by
  have length := escapedChars_length name.toList
  rw [quoted_chars]
  simp only [List.length_cons,List.length_append,List.length_nil]
  omega

theorem fieldText_append (field : String × Json) (rest : List Char) : fieldText field ++ rest =
    '"'::(escapedChars field.1.toList ++ '"'::(':'::((stringify field.2).toList ++ rest))) := by
  unfold fieldText
  rw [List.append_assoc,quoted_append,List.cons_append]

theorem parseFields_step (reads : Reads field.2) {fuel : Nat} (stops : Stops rest)
    (enough : 2 * (fieldText field).length ≤ fuel + 1) : parseFields (fuel + 1) (fieldText field ++ rest) = match skip rest with
      | ','::rest => (parseFields fuel rest).map fun (fields,rest) => (field::fields,rest)
      | '}'::rest => some ([field],rest)
      | _ => none := by
  have named := quoted_length field.1
  have sized : (fieldText field).length = (quoted field.1).toList.length + 1 + (stringify field.2).toList.length := by
    unfold fieldText
    simp only [List.length_append,List.length_cons]
    omega
  rw [fieldText_append,parseFields,skip_head (by decide)]
  change Option.bind (parseString fuel _) _ = _
  rw [parseString_quoted (by omega),Option.bind_some]
  change Option.bind (parseValue fuel _) _ = _
  rw [reads fuel rest stops (by omega),Option.bind_some]
  simp only [String.ofList_toList]

theorem parseFields_text {fields : List (String × Json)} (each : ∀ field' ∈ field::fields, Reads field'.2)
    {fuel : Nat} (rest : List Char) (enough : 2 * (fieldText field ++ fieldsEnd fields).length ≤ fuel) :
    parseFields fuel (fieldText field ++ fieldsEnd fields ++ rest) = some (field::fields,rest) := by
  induction fields generalizing field fuel with
  | nil =>
    obtain ⟨fuel,rfl⟩ : ∃ more, fuel = more + 1 := ⟨fuel - 1,by simp [fieldsEnd] at enough; omega⟩
    rw [List.append_assoc,parseFields_step (each field List.mem_cons_self) (stops_fieldsEnd [] rest)
      (by simp [fieldsEnd] at enough; omega),fieldsEnd,List.singleton_append,skip_head (by decide)]
    rfl
  | cons other fields ih =>
    rw [fieldsEnd,List.length_append,List.length_cons] at enough
    obtain ⟨fuel,rfl⟩ : ∃ more, fuel = more + 1 := ⟨fuel - 1,by omega⟩
    have later := @ih other (fun field' inside => each field' (List.mem_cons_of_mem _ inside)) fuel (by omega)
    rw [List.append_assoc,parseFields_step (each field List.mem_cons_self) (stops_fieldsEnd _ rest) (by omega),fieldsEnd,
      List.cons_append,skip_head (by decide)]
    exact congrArg (Option.map fun found => (field::found.1,found.2)) later

theorem reads (readable : Readable value) : Reads value := by
  induction readable with
  | null =>
    intro fuel rest _ enough
    obtain ⟨fuel,rfl⟩ : ∃ more, fuel = more + 1 := ⟨fuel - 1,by simp [stringify] at enough; omega⟩
    rfl
  | bool value =>
    intro fuel rest _ enough
    obtain ⟨fuel,rfl⟩ : ∃ more, fuel = more + 1 := ⟨fuel - 1,by cases value <;> simp [stringify] at enough <;> omega⟩
    cases value with
    | false => rfl
    | true => rfl
  | num value =>
    intro fuel rest stops enough
    obtain ⟨char,chars,isText,first⟩ := stringify_head (.num value)
    obtain ⟨fuel,rfl⟩ : ∃ more, fuel = more + 1 := ⟨fuel - 1,by rw [isText,List.length_cons] at enough; omega⟩
    have read := parseNumber_integer value stops
    have apart (other : Char) (mark : (other.isDigit || other = '-') = false) : char ≠ other := by
      intro same
      rw [leads,same,mark] at first
      cases first
    rw [parseValue,skip_value]
    have same : (stringify (.num value)).toList = (toString value).toList := rfl
    rw [← same] at read
    rw [← read,isText,List.cons_append]
    split
    · rename_i heads
      exact absurd (List.cons.inj heads).1 (apart 'n' (by decide))
    · rename_i heads
      exact absurd (List.cons.inj heads).1 (apart 't' (by decide))
    · rename_i heads
      exact absurd (List.cons.inj heads).1 (apart 'f' (by decide))
    · rename_i heads
      exact absurd (List.cons.inj heads).1 (apart '"' (by decide))
    · rename_i heads
      exact absurd (List.cons.inj heads).1 (apart '[' (by decide))
    · rename_i heads
      exact absurd (List.cons.inj heads).1 (apart '{' (by decide))
    · rfl
  | str value =>
    intro fuel rest _ enough
    have length := quoted_length value
    have same : (stringify (.str value)).toList = (quoted value).toList := rfl
    rw [same] at enough ⊢
    obtain ⟨fuel,rfl⟩ : ∃ more, fuel = more + 1 := ⟨fuel - 1,by omega⟩
    have read := @parseString_quoted fuel value.toList (by omega) rest
    rw [quoted_append,parseValue,skip_head (by decide)]
    change Option.map _ (parseString fuel _) = _
    rw [read,Option.map_some]
    simp only [String.ofList_toList]
  | @arr items _ ih =>
    intro fuel rest _ enough
    rw [array_chars,List.length_cons] at enough
    obtain ⟨fuel,rfl⟩ : ∃ more, fuel = more + 1 := ⟨fuel - 1,by omega⟩
    rw [array_chars,List.cons_append,parseValue,skip_head (by decide)]
    cases items with
    | nil => rfl
    | cons item items =>
      have read := @parseItems_text item items ih fuel rest (by rw [itemsText] at enough; omega)
      obtain ⟨char,chars,isText,first⟩ := stringify_head item
      have begins : itemsText (item::items) ++ rest = char::(chars ++ (itemsEnd items ++ rest)) := by
        rw [itemsText,isText,List.append_assoc,List.cons_append]
      change (match skip (itemsText (item::items) ++ rest) with
        | ']'::rest => some (arr [],rest)
        | _ => (parseItems fuel (itemsText (item::items) ++ rest)).map
          fun found : List Json × List Char => (arr found.1,found.2)) = _
      split
      · rename_i heads
        rw [begins,skip_head (leads_text first).1] at heads
        exact absurd (List.cons.inj heads).1 (leads_text first).2.1
      · rw [itemsText,read]
        rfl
  | @obj fields _ distinct named ih =>
    intro fuel rest _ enough
    rw [object_chars,List.length_cons] at enough
    obtain ⟨fuel,rfl⟩ : ∃ more, fuel = more + 1 := ⟨fuel - 1,by omega⟩
    rw [object_chars,List.cons_append,parseValue,skip_head (by decide)]
    cases fields with
    | nil => rfl
    | cons field fields =>
      have read := @parseFields_text field fields ih fuel rest (by rw [fieldsText] at enough; omega)
      obtain ⟨next,begins⟩ : ∃ next, fieldsText (field::fields) ++ rest = '"'::next := by
        rw [fieldsText,List.append_assoc,fieldText_append]
        exact ⟨_,rfl⟩
      change (match skip (fieldsText (field::fields) ++ rest) with
        | '}'::rest => some (obj [],rest)
        | _ => (parseFields fuel (fieldsText (field::fields) ++ rest)).map
          fun found : List (String × Json) × List Char => (object found.1,found.2)) = _
      split
      · rename_i heads
        rw [begins,skip_head (by decide)] at heads
        exact absurd (List.cons.inj heads).1 (by decide)
      · rw [fieldsText,read,Option.map_some,object_named distinct named]

theorem parse_stringify (readable : Readable value) : parse (stringify value) = some value := by
  have read := reads readable (2 * (stringify value).length) [] (by simp [Stops]) (by rw [String.length_toList])
  unfold parse
  rw [List.append_nil] at read
  rw [read]
  rfl

end AgentOS.Json
