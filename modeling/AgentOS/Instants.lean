import AgentOS.Dates
import AgentOS.Pages
import Mathlib.Data.List.Induction
import Mathlib.Data.List.TakeWhile
import Mathlib.Tactic.FieldSimp

/-! The instants that timestamps denote, and the order of rows by them. -/
namespace AgentOS.Instants
open Library

/-- A pattern in which `d` is any digit and every other character itself. -/
def spells : List Char → List Char → Bool
  | [],[] => true
  | 'd'::pattern,char::chars => char.isDigit && spells pattern chars
  | other::pattern,char::chars => (char = other) && spells pattern chars
  | _,_ => false

/-- What `ISO_TIMESTAMP_INSTANT` captures: two texts, the fraction, and what is ahead or behind. -/
structure Captures where
  date : List Char
  time : List Char
  fraction : List Char
  zone : Option (Bool × Nat × Nat)

def matchInstant (text : String) : Option Captures :=
  let date := text.toList.take 10
  let time := (text.toList.drop 11).take 8
  if spells "dddd-dd-dd".toList date ∧ text.toList[10]? = some 'T' ∧ spells "dd:dd:dd".toList time then do
    let (fraction,zone) ← matchFraction (text.toList.drop 19)
    let zone ← matchOffset zone
    some {date := date,time := time,fraction := fraction,zone := zone}
  else none

/-- `Date.parse` of a text of the form of a timestamp: a day after the end of its month is counted on. -/
def dateParse (text : String) : Option Int :=
  match matchTimestamp text with
  | none => none
  | some parts =>
    let offset := parts.offset.getD (true,0,0)
    if 1 ≤ parts.month ∧ parts.month ≤ 12 ∧ 1 ≤ parts.day ∧ parts.day ≤ 31 ∧
        (parts.hour ≤ 23 ∨ parts.hour = 24 ∧ parts.minute = 0 ∧ parts.second = 0) ∧ parts.minute ≤ 59 ∧ parts.second ≤ 59 ∧
        offset.2.1 ≤ 23 ∧ offset.2.2 ≤ 59 then
      some (parts.utcMilliseconds - parts.offsetMinutes * 60000 + parts.fractionMicroseconds / 1000)
    else none

def isoTimestamp (value : String) : Except Fault String :=
  match matchTimestamp value with
  | none => .error (.error "timestamp must be an ISO 8601 string")
  | some parts =>
    if ¬ parts.hasValidCalendarParts ∨ (dateParse value).isNone then .error (.error "timestamp must be an ISO 8601 string")
    else .ok value

def offsetMinutes : Option (Bool × Nat × Nat) → Int
  | none => 0
  | some (ahead,hours,minutes) => (if ahead then 1 else -1) * (hours * 60 + minutes)

/-- Where the date and the time cannot be parsed the language has no integer to go on with. -/
def isoTimestampEpochMicroseconds (value : String) : Except Fault Int :=
  match matchInstant value with
  | none => .error (.error "timestamp must be an ISO 8601 string")
  | some captured =>
    match dateParse (String.ofList captured.date ++ "T" ++ String.ofList captured.time ++ "Z") with
    | none => .error (.error "The number NaN cannot be converted to a BigInt because it is not an integer")
    | some utcMilliseconds =>
      let padded := captured.fraction ++ List.replicate (6 - captured.fraction.length) '0'
      let fractionMicroseconds : Nat := (digits padded).getD 0
      .ok ((utcMilliseconds - offsetMinutes captured.zone * 60000) * 1000 + fractionMicroseconds)

def compareTimestamped (leftAt leftId rightAt rightId : String) : Except Fault Int := do
  let left ← isoTimestampEpochMicroseconds (← isoTimestamp leftAt)
  let right ← isoTimestampEpochMicroseconds (← isoTimestamp rightAt)
  let instantOrder := left - right
  .ok (if instantOrder = 0 then Pages.compareOpaqueText leftId rightId else if instantOrder < 0 then -1 else 1)

/-! ### Timestamps as they are written -/

structure Fits (parts : TimestampParts) : Prop where
  year : parts.year < 10000
  month : parts.month < 100
  day : parts.day < 100
  hour : parts.hour < 100
  minute : parts.minute < 100
  second : parts.second < 100
  fraction : (∀ char ∈ parts.fraction, char.isDigit = true) ∧ parts.fraction.length ≤ 6
  offset : ∀ offset ∈ parts.offset, offset.2.1 < 100 ∧ offset.2.2 < 100

def writtenFraction (fraction : List Char) : List Char := if fraction = [] then [] else '.' :: fraction

def writtenZone : Option (Bool × Nat × Nat) → List Char
  | none => ['Z']
  | some (ahead,hours,minutes) => (if ahead then '+' else '-') :: (padded 2 hours).toList ++ [':'] ++ (padded 2 minutes).toList

def writtenDate (parts : TimestampParts) : List Char :=
  (padded 4 parts.year).toList ++ ['-'] ++ (padded 2 parts.month).toList ++ ['-'] ++ (padded 2 parts.day).toList

def writtenTime (parts : TimestampParts) : List Char :=
  (padded 2 parts.hour).toList ++ [':'] ++ (padded 2 parts.minute).toList ++ [':'] ++ (padded 2 parts.second).toList

def written (parts : TimestampParts) : String :=
  String.ofList (writtenDate parts ++ ['T'] ++ writtenTime parts ++ writtenFraction parts.fraction ++ writtenZone parts.offset)

/-! ### Numerals -/

def spelled (group : List Char) : Nat := group.foldl (fun number digit => number * 10 + (digit.toNat - 48)) 0

variable {parts : TimestampParts} {number : Nat}

variable {group : List Char} {fraction : List Char} {leftAt rightAt : ℚ} {chars : List Char}

theorem digits_some : digits group = some number ↔ (∀ char ∈ group, char.isDigit = true) ∧ spelled group = number := by
  unfold digits spelled
  split
  · rename_i all
    have each := List.all_eq_true.mp all
    constructor
    · intro same
      exact ⟨each,Option.some.inj same⟩
    · intro ⟨_,same⟩
      rw [same]
  · rename_i other
    simp only [reduceCtorEq,false_iff]
    intro ⟨all,_⟩
    exact other (List.all_eq_true.mpr all)

theorem digit_bounds {char : Char} (digit : char.isDigit = true) : 48 ≤ char.toNat ∧ char.toNat ≤ 57 := by
  simp only [Char.isDigit,Bool.and_eq_true,decide_eq_true_eq] at digit
  exact digit

theorem spelled_append (group : List Char) (digit : Char) : spelled (group ++ [digit]) = spelled group * 10 + (digit.toNat - 48) := by
  simp [spelled]

theorem spelled_lt (group : List Char) (all : ∀ char ∈ group, char.isDigit = true) : spelled group < 10 ^ group.length := by
  induction group using List.reverseRecOn with
  | nil => exact Nat.one_pos
  | append_singleton group digit ih =>
    have before := ih fun char inside => all char (List.mem_append_left _ inside)
    have last := digit_bounds (all digit (List.mem_append_right _ List.mem_cons_self))
    rw [spelled_append,List.length_append,List.length_singleton,pow_succ]
    omega

theorem spelled_inj {first second : List Char} (all : ∀ char ∈ first, char.isDigit = true)
    (all' : ∀ char ∈ second, char.isDigit = true) (length : first.length = second.length) (same : spelled first = spelled second) :
    first = second := by
  induction first using List.reverseRecOn generalizing second with
  | nil => exact (List.length_eq_zero_iff.mp length.symm).symm
  | append_singleton first digit ih =>
    obtain rfl | ⟨init,last,rfl⟩ := second.eq_nil_or_concat'
    · simp at length
    · have early := digit_bounds (all digit (List.mem_append_right _ List.mem_cons_self))
      have late := digit_bounds (all' last (List.mem_append_right _ List.mem_cons_self))
      rw [spelled_append,spelled_append] at same
      have inits := ih (fun char inside => all char (List.mem_append_left _ inside))
        (fun char inside => all' char (List.mem_append_left _ inside)) (by simpa using length) (by omega)
      have lasts : digit = last := Char.toNat_inj.mp (by omega)
      rw [inits,lasts]

theorem padded_of_digits (positive : 0 < group.length) (value : digits group = some number) :
    group = (padded group.length number).toList ∧ number < 10 ^ group.length := by
  obtain ⟨all,same⟩ := digits_some.mp value
  have bound := same ▸ spelled_lt group all
  have bound' : (number : Int) < 10 ^ group.length := by exact_mod_cast bound
  obtain ⟨length,numeral⟩ := @padded_spec group.length number positive (by omega) bound'
  obtain ⟨all',same'⟩ := digits_some.mp numeral
  refine ⟨spelled_inj all all' length.symm ?_,bound⟩
  rw [same,same',Int.toNat_natCast]

theorem digits_padded {width number : Nat} (positive : 0 < width) (small : number < 10 ^ width) :
    digits (padded width number).toList = some number := by
  have small' : (number : Int) < 10 ^ width := by exact_mod_cast small
  exact (padded_spec positive (Int.natCast_nonneg number) small').2

theorem padded_length {width number : Nat} (positive : 0 < width) (small : number < 10 ^ width) :
    (padded width number).toList.length = width := by
  have small' : (number : Int) < 10 ^ width := by exact_mod_cast small
  exact (padded_spec positive (Int.natCast_nonneg number) small').1

theorem padded_pair (small : number < 100) :
    ∃ first second, (padded 2 number).toList = [first,second] ∧ digits [first,second] = some number := by
  obtain ⟨first,second,chars,value⟩ := @padded_two number (by omega) (by omega)
  exact ⟨first,second,chars,value⟩

theorem pair_of_digits {first second : Char} (value : digits [first,second] = some number) :
    [first,second] = (padded 2 number).toList ∧ number < 100 := padded_of_digits (by simp) value

theorem four_of_digits {first second third fourth : Char} (value : digits [first,second,third,fourth] = some number) :
    [first,second,third,fourth] = (padded 4 number).toList ∧ number < 10000 := by
  obtain ⟨chars,small⟩ := padded_of_digits (by simp) value
  exact ⟨chars,by simpa using small⟩

/-! ### Matching what is written -/

variable (zone : Option (Bool × Nat × Nat))

theorem writtenZone_head : ∃ head rest, writtenZone zone = head::rest ∧ head.isDigit = false ∧ head ≠ '.' := by
  cases zone with
  | none => exact ⟨'Z',[],rfl,by decide,by decide⟩
  | some offset =>
    obtain ⟨ahead,hours,minutes⟩ := offset
    cases ahead with
    | true => exact ⟨'+',_,rfl,by decide,by decide⟩
    | false => exact ⟨'-',_,rfl,by decide,by decide⟩

theorem matchFraction_written (zone : Option (Bool × Nat × Nat))
    (all : ∀ char ∈ fraction, char.isDigit = true) (short : fraction.length ≤ 6) :
    matchFraction (writtenFraction fraction ++ writtenZone zone) = some (fraction,writtenZone zone) := by
  obtain ⟨head,rest,starts,other,notDot⟩ := writtenZone_head zone
  rw [starts]
  unfold writtenFraction
  split
  · rename_i nothing
    subst nothing
    unfold matchFraction
    split
    · rename_i same
      exact absurd (List.cons.inj same).1 notDot
    · rfl
  · rename_i something
    have positive := List.length_pos_of_ne_nil something
    have taken : (fraction ++ head::rest).takeWhile Char.isDigit = fraction := by
      rw [List.takeWhile_append_of_pos all,List.takeWhile_cons_of_neg (by simp [other]),List.append_nil]
    have dropped : (fraction ++ head::rest).dropWhile Char.isDigit = head::rest := by
      rw [List.dropWhile_append_of_pos all,List.dropWhile_cons_of_neg (by simp [other])]
    simp only [matchFraction,List.cons_append,taken,dropped]
    rw [if_pos ⟨positive,short⟩]

theorem matchFraction_some {chars fraction zone : List Char} (found : matchFraction chars = some (fraction,zone)) :
    chars = writtenFraction fraction ++ zone ∧ (∀ char ∈ fraction, char.isDigit = true) ∧ fraction.length ≤ 6 := by
  unfold matchFraction at found
  split at found
  · rename_i rest
    dsimp only at found
    split at found
    · rename_i lengths
      obtain ⟨rfl,rfl⟩ := Prod.mk.inj (Option.some.inj found)
      have something : rest.takeWhile Char.isDigit ≠ [] := List.ne_nil_of_length_pos (by omega)
      refine ⟨?_,fun char inside => List.mem_takeWhile_imp inside,lengths.2⟩
      rw [writtenFraction,if_neg something,List.cons_append,List.takeWhile_append_dropWhile]
    · cases found
  · obtain ⟨rfl,rfl⟩ := Prod.mk.inj (Option.some.inj found)
    exact ⟨rfl,fun char inside => absurd inside List.not_mem_nil,Nat.zero_le 6⟩

theorem matchOffset_written (fits : ∀ offset ∈ zone, offset.2.1 < 100 ∧ offset.2.2 < 100) :
    matchOffset (writtenZone zone) = some zone := by
  cases zone with
  | none => rfl
  | some offset =>
    obtain ⟨ahead,hours,minutes⟩ := offset
    obtain ⟨hoursFit,minutesFit⟩ := fits (ahead,hours,minutes) rfl
    obtain ⟨h1,h2,hourChars,hourValue⟩ := padded_pair hoursFit
    obtain ⟨m1,m2,minuteChars,minuteValue⟩ := padded_pair minutesFit
    cases ahead with
    | true => simp [writtenZone,hourChars,minuteChars,matchOffset,hourValue,minuteValue]
    | false => simp [writtenZone,hourChars,minuteChars,matchOffset,hourValue,minuteValue]

theorem matchOffset_some {zone : Option (Bool × Nat × Nat)} (found : matchOffset chars = some zone) :
    chars = writtenZone zone ∧ ∀ offset ∈ zone, offset.2.1 < 100 ∧ offset.2.2 < 100 := by
  unfold matchOffset at found
  split at found
  · cases found
    exact ⟨rfl,fun offset none_ => by cases none_⟩
  · rename_i sign h1 h2 m1 m2
    split at found
    · rename_i signed
      simp only [Option.bind_eq_bind,Option.bind_eq_some_iff] at found
      obtain ⟨hours,hourValue,minutes,minuteValue,same⟩ := found
      cases same
      obtain ⟨hourChars,hoursFit⟩ := pair_of_digits hourValue
      obtain ⟨minuteChars,minutesFit⟩ := pair_of_digits minuteValue
      refine ⟨?_,fun offset same => ?_⟩
      · have text : sign::h1::h2:: ':'::[m1,m2] = sign::([h1,h2] ++ [':'] ++ [m1,m2]) := rfl
        rw [text,hourChars,minuteChars]
        obtain rfl | rfl := signed
        · rfl
        · rfl
      · cases same
        exact ⟨hoursFit,minutesFit⟩
    · cases found
  · cases found

theorem writtenDate_chars (fits : Fits parts) : ∃ y1 y2 y3 y4 o1 o2 d1 d2,
    writtenDate parts = [y1,y2,y3,y4,'-',o1,o2,'-',d1,d2] ∧ digits [y1,y2,y3,y4] = some parts.year ∧
      digits [o1,o2] = some parts.month ∧ digits [d1,d2] = some parts.day := by
  obtain ⟨y1,y2,y3,y4,yearChars⟩ := List.length_eq_four.mp (@padded_length 4 parts.year (by omega) fits.year)
  have yearValue := @digits_padded 4 parts.year (by omega) fits.year
  rw [yearChars] at yearValue
  obtain ⟨o1,o2,monthChars,monthValue⟩ := padded_pair fits.month
  obtain ⟨d1,d2,dayChars,dayValue⟩ := padded_pair fits.day
  refine ⟨y1,y2,y3,y4,o1,o2,d1,d2,?_,yearValue,monthValue,dayValue⟩
  rw [writtenDate,yearChars,monthChars,dayChars]
  rfl

theorem writtenTime_chars (fits : Fits parts) : ∃ h1 h2 m1 m2 s1 s2,
    writtenTime parts = [h1,h2,':',m1,m2,':',s1,s2] ∧ digits [h1,h2] = some parts.hour ∧
      digits [m1,m2] = some parts.minute ∧ digits [s1,s2] = some parts.second := by
  obtain ⟨h1,h2,hourChars,hourValue⟩ := padded_pair fits.hour
  obtain ⟨m1,m2,minuteChars,minuteValue⟩ := padded_pair fits.minute
  obtain ⟨s1,s2,secondChars,secondValue⟩ := padded_pair fits.second
  refine ⟨h1,h2,m1,m2,s1,s2,?_,hourValue,minuteValue,secondValue⟩
  rw [writtenTime,hourChars,minuteChars,secondChars]
  rfl

theorem matchTimestamp_written (fits : Fits parts) : matchTimestamp (written parts) = some parts := by
  obtain ⟨y1,y2,y3,y4,o1,o2,d1,d2,date,yearValue,monthValue,dayValue⟩ := writtenDate_chars fits
  obtain ⟨h1,h2,m1,m2,s1,s2,time,hourValue,minuteValue,secondValue⟩ := writtenTime_chars fits
  have fraction := matchFraction_written parts.offset fits.fraction.1 fits.fraction.2
  have offset := matchOffset_written parts.offset fits.offset
  have chars : (written parts).toList = y1::y2::y3::y4:: '-'::o1::o2:: '-'::d1::d2:: 'T'::h1::h2:: ':'::m1::m2:: ':'::s1::s2::
      (writtenFraction parts.fraction ++ writtenZone parts.offset) := by
    simp [written,date,time]
  unfold matchTimestamp
  rw [chars]
  simp [yearValue,monthValue,dayValue,hourValue,minuteValue,secondValue,fraction,offset]

theorem matchTimestamp_some {text : String} (found : matchTimestamp text = some parts) : Fits parts ∧ text = written parts := by
  unfold matchTimestamp at found
  split at found
  · rename_i y1 y2 y3 y4 o1 o2 d1 d2 h1 h2 m1 m2 s1 s2 rest chars
    simp only [Option.bind_eq_bind,Option.bind_eq_some_iff] at found
    obtain ⟨year,yearValue,month,monthValue,day,dayValue,hour,hourValue,minute,minuteValue,second,secondValue,found⟩ := found
    obtain ⟨⟨fraction,zone⟩,fractionFound,offset,offsetFound,same⟩ := found
    cases same
    obtain ⟨yearChars,yearFits⟩ := four_of_digits yearValue
    obtain ⟨monthChars,monthFits⟩ := pair_of_digits monthValue
    obtain ⟨dayChars,dayFits⟩ := pair_of_digits dayValue
    obtain ⟨hourChars,hourFits⟩ := pair_of_digits hourValue
    obtain ⟨minuteChars,minuteFits⟩ := pair_of_digits minuteValue
    obtain ⟨secondChars,secondFits⟩ := pair_of_digits secondValue
    obtain ⟨rfl,all,short⟩ := matchFraction_some fractionFound
    obtain ⟨rfl,fits⟩ := matchOffset_some offsetFound
    refine ⟨⟨yearFits,monthFits,dayFits,hourFits,minuteFits,secondFits,⟨all,short⟩,fits⟩,?_⟩
    apply String.toList_injective
    rw [chars,written,writtenDate,writtenTime,String.toList_ofList,← yearChars,← monthChars,← dayChars,← hourChars,← minuteChars,
      ← secondChars]
    rfl
  · cases found

theorem matchTimestamp_iff {text : String} : matchTimestamp text = some parts ↔ Fits parts ∧ text = written parts := by
  constructor
  · exact matchTimestamp_some
  · intro ⟨fits,same⟩
    rw [same]
    exact matchTimestamp_written fits

/-! ### The second expression -/

theorem spells_digit (pattern chars : List Char) : spells ('d'::pattern) chars = true ↔
    ∃ char rest, chars = char::rest ∧ char.isDigit = true ∧ spells pattern rest = true := by
  cases chars with
  | nil => simp [spells]
  | cons char chars => simp [spells]

theorem spells_char {other : Char} (pattern chars : List Char) (plain : other ≠ 'd') : spells (other::pattern) chars = true ↔
    ∃ rest, chars = other::rest ∧ spells pattern rest = true := by
  cases chars with
  | nil => simp [spells]
  | cons char chars => simp [spells]

theorem spells_nil (chars : List Char) : spells [] chars = true ↔ chars = [] := by
  cases chars with
  | nil => simp [spells]
  | cons char chars => simp [spells]

theorem spells_date (chars : List Char) : spells "dddd-dd-dd".toList chars = true ↔
    ∃ y1 y2 y3 y4 o1 o2 d1 d2 : Char, chars = [y1,y2,y3,y4,'-',o1,o2,'-',d1,d2] ∧
      ∀ char ∈ [y1,y2,y3,y4,o1,o2,d1,d2], char.isDigit = true := by
  have pattern : "dddd-dd-dd".toList = ['d','d','d','d','-','d','d','-','d','d'] := rfl
  rw [pattern]
  constructor
  · intro spelled
    simp only [spells_digit,spells_char _ _ (show '-' ≠ 'd' by decide),spells_nil] at spelled
    obtain ⟨y1,_,rfl,first,y2,_,rfl,second,y3,_,rfl,third,y4,_,rfl,fourth,_,rfl,o1,_,rfl,fifth,o2,_,rfl,sixth,_,rfl,d1,_,rfl,seventh,
      d2,_,rfl,eighth,rfl⟩ := spelled
    refine ⟨y1,y2,y3,y4,o1,o2,d1,d2,rfl,?_⟩
    simp only [List.forall_mem_cons,List.not_mem_nil,IsEmpty.forall_iff,implies_true,and_true]
    exact ⟨first,second,third,fourth,fifth,sixth,seventh,eighth⟩
  · intro ⟨y1,y2,y3,y4,o1,o2,d1,d2,same,all⟩
    simp only [List.forall_mem_cons,List.not_mem_nil,IsEmpty.forall_iff,implies_true,and_true] at all
    obtain ⟨first,second,third,fourth,fifth,sixth,seventh,eighth⟩ := all
    rw [same]
    simp [spells,first,second,third,fourth,fifth,sixth,seventh,eighth]

theorem spells_time (chars : List Char) : spells "dd:dd:dd".toList chars = true ↔
    ∃ h1 h2 m1 m2 s1 s2 : Char, chars = [h1,h2,':',m1,m2,':',s1,s2] ∧ ∀ char ∈ [h1,h2,m1,m2,s1,s2], char.isDigit = true := by
  have pattern : "dd:dd:dd".toList = ['d','d',':','d','d',':','d','d'] := rfl
  rw [pattern]
  constructor
  · intro spelled
    simp only [spells_digit,spells_char _ _ (show ':' ≠ 'd' by decide),spells_nil] at spelled
    obtain ⟨h1,_,rfl,first,h2,_,rfl,second,_,rfl,m1,_,rfl,third,m2,_,rfl,fourth,_,rfl,s1,_,rfl,fifth,s2,_,rfl,sixth,rfl⟩ := spelled
    refine ⟨h1,h2,m1,m2,s1,s2,rfl,?_⟩
    simp only [List.forall_mem_cons,List.not_mem_nil,IsEmpty.forall_iff,implies_true,and_true]
    exact ⟨first,second,third,fourth,fifth,sixth⟩
  · intro ⟨h1,h2,m1,m2,s1,s2,same,all⟩
    simp only [List.forall_mem_cons,List.not_mem_nil,IsEmpty.forall_iff,implies_true,and_true] at all
    obtain ⟨first,second,third,fourth,fifth,sixth⟩ := all
    rw [same]
    simp [spells,first,second,third,fourth,fifth,sixth]

section
variable (fits : Fits parts)
include fits

theorem writtenDate_spelled : spells "dddd-dd-dd".toList (writtenDate parts) = true := by
  obtain ⟨y1,y2,y3,y4,o1,o2,d1,d2,date,yearValue,monthValue,dayValue⟩ := writtenDate_chars fits
  have year := isDigit_of_digits yearValue
  have month := isDigit_of_digits monthValue
  have day := isDigit_of_digits dayValue
  refine (spells_date _).mpr ⟨y1,y2,y3,y4,o1,o2,d1,d2,date,?_⟩
  simp only [List.forall_mem_cons,List.not_mem_nil,IsEmpty.forall_iff,implies_true,and_true] at year month day ⊢
  exact ⟨year.1,year.2.1,year.2.2.1,year.2.2.2,month.1,month.2,day.1,day.2⟩

theorem writtenTime_spelled : spells "dd:dd:dd".toList (writtenTime parts) = true := by
  obtain ⟨h1,h2,m1,m2,s1,s2,time,hourValue,minuteValue,secondValue⟩ := writtenTime_chars fits
  have hour := isDigit_of_digits hourValue
  have minute := isDigit_of_digits minuteValue
  have second := isDigit_of_digits secondValue
  refine (spells_time _).mpr ⟨h1,h2,m1,m2,s1,s2,time,?_⟩
  simp only [List.forall_mem_cons,List.not_mem_nil,IsEmpty.forall_iff,implies_true,and_true] at hour minute second ⊢
  exact ⟨hour.1,hour.2,minute.1,minute.2,second.1,second.2⟩

theorem writtenDate_length : (writtenDate parts).length = 10 := by
  obtain ⟨_,_,_,_,_,_,_,_,date,_⟩ := writtenDate_chars fits
  rw [date]
  rfl

theorem writtenTime_length : (writtenTime parts).length = 8 := by
  obtain ⟨_,_,_,_,_,_,time,_⟩ := writtenTime_chars fits
  rw [time]
  rfl

end

theorem captured_split (date time rest : List Char) (ten : date.length = 10) (eight : time.length = 8) :
    let text := date ++ 'T'::(time ++ rest)
    text.take 10 = date ∧ text[10]? = some 'T' ∧ (text.drop 11).take 8 = time ∧ text.drop 19 = rest := by
  have later : (date ++ 'T'::(time ++ rest)).drop 11 = time ++ rest := by
    rw [List.append_cons,List.drop_left' (by simp [ten])]
  refine ⟨List.take_left' ten,?_,?_,?_⟩
  · rw [List.getElem?_append_right (by omega),ten]
    rfl
  · rw [later,List.take_left' eight]
  · rw [show 19 = 11 + 8 by rfl,← List.drop_drop,later,List.drop_left' eight]

theorem matchInstant_written (fits : Fits parts) : matchInstant (written parts) =
      some {date := writtenDate parts,time := writtenTime parts,fraction := parts.fraction,zone := parts.offset} := by
  have chars : (written parts).toList = writtenDate parts ++ 'T'::(writtenTime parts ++
      (writtenFraction parts.fraction ++ writtenZone parts.offset)) := by
    simp [written]
  obtain ⟨date,clock,time,rest⟩ := captured_split (writtenDate parts) (writtenTime parts)
    (writtenFraction parts.fraction ++ writtenZone parts.offset) (writtenDate_length fits) (writtenTime_length fits)
  have fraction := matchFraction_written parts.offset fits.fraction.1 fits.fraction.2
  have offset := matchOffset_written parts.offset fits.offset
  unfold matchInstant
  dsimp only
  rw [chars,date,clock,time,rest,if_pos ⟨writtenDate_spelled fits,rfl,writtenTime_spelled fits⟩,fraction]
  dsimp only [Option.bind_eq_bind,Option.bind_some]
  rw [offset]
  rfl

theorem captured_join (clock : chars[10]? = some 'T') : chars = chars.take 10 ++ 'T'::((chars.drop 11).take 8 ++ chars.drop 19) := by
  have later : chars.drop 10 = 'T'::chars.drop 11 := by
    obtain ⟨inside,char⟩ := List.getElem?_eq_some_iff.mp clock
    rw [List.drop_eq_getElem_cons inside,char]
  rw [show 19 = 11 + 8 by rfl,← List.drop_drop,List.take_append_drop,← later,List.take_append_drop]

theorem digits_of_all (all : ∀ char ∈ group, char.isDigit = true) : digits group = some (spelled group) :=
  digits_some.mpr ⟨all,rfl⟩

theorem matches_agree (text : String) : (matchInstant text).isSome = (matchTimestamp text).isSome := by
  cases found : matchTimestamp text with
  | some parts =>
    obtain ⟨fits,rfl⟩ := matchTimestamp_some found
    rw [matchInstant_written fits]
    rfl
  | none =>
    rw [Option.isSome_none,Option.isSome_eq_false_iff,Option.isNone_iff_eq_none]
    unfold matchInstant
    dsimp only
    split
    · rename_i shaped
      obtain ⟨date,clock,time⟩ := shaped
      obtain ⟨y1,y2,y3,y4,o1,o2,d1,d2,date,dateDigits⟩ := (spells_date _).mp date
      obtain ⟨h1,h2,m1,m2,s1,s2,time,timeDigits⟩ := (spells_time _).mp time
      have chars := captured_join clock
      generalize text.toList.drop 19 = rest at chars ⊢
      rw [date,time] at chars
      simp only [List.forall_mem_cons,List.not_mem_nil,IsEmpty.forall_iff,implies_true,and_true] at dateDigits timeDigits
      obtain ⟨year1,year2,year3,year4,month1,month2,day1,day2⟩ := dateDigits
      obtain ⟨hour1,hour2,minute1,minute2,second1,second2⟩ := timeDigits
      have year := @digits_of_all [y1,y2,y3,y4] (by simp [year1,year2,year3,year4])
      have month := @digits_of_all [o1,o2] (by simp [month1,month2])
      have day := @digits_of_all [d1,d2] (by simp [day1,day2])
      have hour := @digits_of_all [h1,h2] (by simp [hour1,hour2])
      have minute := @digits_of_all [m1,m2] (by simp [minute1,minute2])
      have second := @digits_of_all [s1,s2] (by simp [second1,second2])
      unfold matchTimestamp at found
      rw [chars] at found
      simp only [List.cons_append,List.nil_append,year,month,day,hour,minute,second,Option.bind_eq_bind,Option.bind_some] at found
      cases fraction : matchFraction rest with
      | none => rfl
      | some tail =>
        obtain ⟨fraction',zone⟩ := tail
        rw [fraction] at found
        cases offset : matchOffset zone with
        | none => simp [offset]
        | some offset' =>
          rw [Option.bind_some,offset] at found
          cases found
    · rfl

/-! ### The instant a timestamp denotes -/

/-- Whether the date is one of the calendar, the time one of a day, and the offset one that is allowed. -/
structure Exists (parts : TimestampParts) : Prop where
  month : 1 ≤ parts.month ∧ parts.month ≤ 12
  day : 1 ≤ parts.day ∧ parts.day ≤ Calendar.monthDays parts.year parts.month
  hour : parts.hour < 24
  minute : parts.minute < 60
  second : parts.second < 60
  offset : ∀ offset ∈ parts.offset, offset.2.2 < 60 ∧ offset.2.1 * 60 + offset.2.2 ≤ 14 * 60

theorem hasValidCalendarParts_iff (parts : TimestampParts) : parts.hasValidCalendarParts = true ↔ Exists parts := by
  have lengths := @daysInMonth_eq parts.year parts.month
  simp only [TimestampParts.hasValidCalendarParts,Bool.and_eq_true,Bool.or_eq_true,decide_eq_true_eq]
  constructor
  · intro valid
    have length := lengths (by omega) (by omega)
    refine ⟨by omega,by omega,by omega,by omega,by omega,?_⟩
    intro offset some_
    rw [some_] at valid
    simp only [Option.map_some,Option.getD_some] at valid
    omega
  · intro valid
    obtain ⟨month,day,hour,minute,second,offset⟩ := valid
    have length := lengths month.1 month.2
    cases found : parts.offset with
    | none =>
      simp only [Option.map_none,Option.getD_none]
      omega
    | some ahead =>
      have bounds := offset ahead found
      simp only [Option.map_some,Option.getD_some]
      omega

def offsetSeconds : Option (Bool × Nat × Nat) → ℚ
  | none => 0
  | some (true,hours,minutes) => hours * 3600 + minutes * 60
  | some (false,hours,minutes) => -(hours * 3600 + minutes * 60)

/-- The seconds from the epoch to the instant: the days before its date, the time of its day with the fraction of a second, and what
its clock is ahead taken off. -/
def denoted (parts : TimestampParts) : ℚ :=
  Calendar.elapsed parts.year parts.month parts.day * 86400 + parts.hour * 3600 + parts.minute * 60 + parts.second +
    spelled parts.fraction / 10 ^ parts.fraction.length - offsetSeconds parts.offset

theorem spelled_zeros (group : List Char) (count : Nat) : spelled (group ++ List.replicate count '0') = spelled group * 10 ^ count := by
  induction count with
  | zero => simp
  | succ count ih =>
    have zero : '0'.toNat - 48 = 0 := rfl
    rw [List.replicate_succ',← List.append_assoc,spelled_append,ih,zero,pow_succ]
    ring

theorem fraction_padded (all : ∀ char ∈ fraction, char.isDigit = true) (short : fraction.length ≤ 6) :
    (((digits (fraction ++ List.replicate (6 - fraction.length) '0')).getD 0 : Nat) : ℚ) =
      1000000 * (spelled fraction / 10 ^ fraction.length) := by
  have digits_ : ∀ char ∈ fraction ++ List.replicate (6 - fraction.length) '0', char.isDigit = true := by
    intro char inside
    obtain early | zero := List.mem_append.mp inside
    · exact all char early
    · rw [List.eq_of_mem_replicate zero]
      rfl
  have whole : (1000000 : ℚ) = 10 ^ (6 - fraction.length) * 10 ^ fraction.length := by
    rw [← pow_add,Nat.sub_add_cancel short]
    norm_num
  have nonzero : (10 ^ fraction.length : ℚ) ≠ 0 := by positivity
  rw [digits_of_all digits_,Option.getD_some,spelled_zeros,whole]
  push_cast
  field_simp

theorem dateParse_written (fits : Fits parts) (exists_ : Exists parts) :
    dateParse (written parts) = some (parts.utcMilliseconds - parts.offsetMinutes * 60000 + parts.fractionMicroseconds / 1000) := by
  obtain ⟨month,day,hour,minute,second,offset⟩ := exists_
  have long := Calendar.monthDays_le parts.year parts.month
  have zone : (parts.offset.getD (true,0,0)).2.1 ≤ 23 ∧ (parts.offset.getD (true,0,0)).2.2 ≤ 59 := by
    cases found : parts.offset with
    | none => simp
    | some ahead =>
      have bounds := offset ahead found
      simp only [Option.getD_some]
      omega
  unfold dateParse
  rw [matchTimestamp_written fits]
  dsimp only
  rw [if_pos (by omega)]

theorem isoTimestamp_written (fits : Fits parts) :
    isoTimestamp (written parts) = if parts.hasValidCalendarParts then .ok (written parts)
      else .error (.error "timestamp must be an ISO 8601 string") := by
  unfold isoTimestamp
  rw [matchTimestamp_written fits]
  dsimp only
  cases valid : parts.hasValidCalendarParts with
  | false => simp
  | true =>
    have parsed := dateParse_written fits ((hasValidCalendarParts_iff parts).mp valid)
    rw [parsed]
    simp

theorem isoTimestamp_ok {text stamp : String} (ok : isoTimestamp text = .ok stamp) :
    stamp = text ∧ ∃ parts, Fits parts ∧ Exists parts ∧ text = written parts := by
  cases found : matchTimestamp text with
  | none =>
    unfold isoTimestamp at ok
    rw [found] at ok
    cases ok
  | some parts =>
    obtain ⟨fits,rfl⟩ := matchTimestamp_some found
    rw [isoTimestamp_written fits] at ok
    split at ok
    · rename_i valid
      exact ⟨(Except.ok.inj ok).symm,parts,fits,(hasValidCalendarParts_iff parts).mp valid,rfl⟩
    · cases ok

theorem isoTimestamp_exists (fits : Fits parts) (exists_ : Exists parts) : isoTimestamp (written parts) = .ok (written parts) := by
  rw [isoTimestamp_written fits,if_pos ((hasValidCalendarParts_iff parts).mpr exists_)]

theorem date_and_time (parts : TimestampParts) : String.ofList (writtenDate parts) ++ "T" ++ String.ofList (writtenTime parts) ++ "Z" =
      written {parts with fraction := [],offset := none} := by
  apply String.toList_injective
  have clock : ("T" : String).toList = ['T'] := rfl
  have zone : ("Z" : String).toList = ['Z'] := rfl
  simp [written,writtenDate,writtenTime,writtenFraction,writtenZone,clock,zone]

theorem utcMilliseconds_eq (exists_ : Exists parts) :
    (parts.utcMilliseconds : ℚ) = (Calendar.elapsed parts.year parts.month parts.day * 86400 + parts.hour * 3600 + parts.minute * 60 +
      parts.second) * 1000 := by
  have days : TimestampParts.days parts.year parts.month parts.day = Calendar.ordinal parts.year parts.month parts.day := rfl
  unfold TimestampParts.utcMilliseconds
  rw [days,Calendar.ordinal_elapsed parts.year parts.day exists_.month.1 exists_.month.2]
  push_cast
  ring

theorem offsetSeconds_eq : (offsetMinutes zone : ℚ) * 60 = offsetSeconds zone := by
  cases zone with
  | none => simp [offsetMinutes,offsetSeconds]
  | some offset =>
    obtain ⟨ahead,hours,minutes⟩ := offset
    cases ahead with
    | true =>
      simp only [offsetMinutes,offsetSeconds,if_true]
      push_cast
      ring
    | false =>
      simp only [offsetMinutes,offsetSeconds,Bool.false_eq_true,if_false]
      push_cast
      ring

theorem epochMicroseconds_written (fits : Fits parts) (exists_ : Exists parts) :
    ∃ micro, isoTimestampEpochMicroseconds (written parts) = .ok micro ∧ (micro : ℚ) = 1000000 * denoted parts := by
  have fits' : Fits {parts with fraction := [],offset := none} :=
    ⟨fits.year,fits.month,fits.day,fits.hour,fits.minute,fits.second,by simp,by simp⟩
  have exists' : Exists {parts with fraction := [],offset := none} :=
    ⟨exists_.month,exists_.day,exists_.hour,exists_.minute,exists_.second,by simp⟩
  have parsed := dateParse_written fits' exists'
  have nothing : TimestampParts.fractionMicroseconds {parts with fraction := [],offset := none} = 0 := rfl
  have noOffset : TimestampParts.offsetMinutes {parts with fraction := [],offset := none} = 0 := rfl
  rw [nothing,noOffset] at parsed
  have fraction := fraction_padded fits.fraction.1 fits.fraction.2
  have utc := utcMilliseconds_eq exists'
  unfold isoTimestampEpochMicroseconds
  rw [matchInstant_written fits]
  dsimp only
  rw [date_and_time,parsed]
  refine ⟨_,rfl,?_⟩
  unfold denoted
  rw [← offsetSeconds_eq]
  push_cast
  rw [fraction,utc]
  ring

/-! ### The order of rows -/

/-- The position of a row: its instant, and then the bytes of its identifier. -/
def position (at_ : ℚ) (id : String) : ℚ ×ₗ List Nat := toLex (at_,Pages.bytesOf id)

theorem position_inj {leftId rightId : String} :
    position leftAt leftId = position rightAt rightId ↔ leftAt = rightAt ∧ leftId = rightId := by
  constructor
  · intro same
    obtain ⟨times,bytes⟩ := Prod.mk.inj (toLex.injective same)
    exact ⟨times,Pages.bytesOf_injective bytes⟩
  · intro ⟨times,ids⟩
    rw [times,ids]

theorem position_lt {left right : Int} (leftExact : (left : ℚ) = 1000000 * leftAt)
    (rightExact : (right : ℚ) = 1000000 * rightAt) (leftId rightId : String) :
    Pages.positionOf left leftId < Pages.positionOf right rightId ↔ position leftAt leftId < position rightAt rightId := by
  have before : left < right ↔ leftAt < rightAt := by
    rw [← @Int.cast_lt ℚ,leftExact,rightExact]
    constructor
    · intro less
      linarith
    · intro less
      linarith
  have same : left = right ↔ leftAt = rightAt := by
    rw [← @Int.cast_inj ℚ,leftExact,rightExact]
    constructor
    · intro equal
      linarith
    · intro equal
      rw [equal]
  unfold Pages.positionOf position
  rw [Prod.Lex.toLex_lt_toLex,Prod.Lex.toLex_lt_toLex]
  dsimp only
  rw [before,same]

structure Stamp where
  parts : TimestampParts
  fits : Fits parts
  exists_ : Exists parts

namespace Stamp

def text (stamp : Stamp) : String := written stamp.parts

def instant (stamp : Stamp) : ℚ := denoted stamp.parts

theorem accepted (stamp : Stamp) : isoTimestamp stamp.text = .ok stamp.text := isoTimestamp_exists stamp.fits stamp.exists_

theorem epochMicroseconds (stamp : Stamp) :
    ∃ micro, isoTimestampEpochMicroseconds stamp.text = .ok micro ∧ (micro : ℚ) = 1000000 * stamp.instant :=
  epochMicroseconds_written stamp.fits stamp.exists_

end Stamp

section
variable (left right : Stamp) (leftId rightId : String)

theorem compareTimestamped_stamps : ∃ micro micro' : Int, (micro : ℚ) = 1000000 * left.instant ∧
    (micro' : ℚ) = 1000000 * right.instant ∧
    compareTimestamped left.text leftId right.text rightId = .ok (Pages.compareTimestamped micro leftId micro' rightId) := by
  obtain ⟨micro,leftMicro,leftExact⟩ := left.epochMicroseconds
  obtain ⟨micro',rightMicro,rightExact⟩ := right.epochMicroseconds
  refine ⟨micro,micro',leftExact,rightExact,?_⟩
  have same : Pages.compareTimestamped micro leftId micro' rightId =
      if micro - micro' = 0 then Pages.compareOpaqueText leftId rightId else if micro - micro' < 0 then -1 else 1 := by
    have equal : micro - micro' = 0 ↔ micro = micro' := by omega
    have less : micro - micro' < 0 ↔ micro < micro' := by omega
    simp only [equal,less]
    rfl
  rw [same]
  unfold compareTimestamped
  rw [left.accepted,right.accepted]
  exact bind_ok.mpr ⟨left.text,rfl,bind_ok.mpr ⟨micro,leftMicro,bind_ok.mpr ⟨right.text,rfl,bind_ok.mpr ⟨micro',rightMicro,rfl⟩⟩⟩⟩

theorem compareTimestamped_order : ∃ order, compareTimestamped left.text leftId right.text rightId = .ok order ∧
    (order < 0 ↔ position left.instant leftId < position right.instant rightId) ∧
    (0 < order ↔ position right.instant rightId < position left.instant leftId) ∧
    (order = 0 ↔ left.instant = right.instant ∧ leftId = rightId) := by
  obtain ⟨micro,micro',leftExact,rightExact,compared⟩ := compareTimestamped_stamps left right leftId rightId
  obtain ⟨before,after⟩ := Pages.compareTimestamped_lt micro leftId micro' rightId
  rw [position_lt leftExact rightExact] at before
  rw [position_lt rightExact leftExact] at after
  refine ⟨_,compared,before,after,?_⟩
  rw [← position_inj]
  constructor
  · intro zero
    exact le_antisymm (not_lt.mp (mt after.mpr (by omega))) (not_lt.mp (mt before.mpr (by omega)))
  · intro same
    have notBefore := mt before.mp (not_lt.mpr same.ge)
    have notAfter := mt after.mp (not_lt.mpr same.le)
    omega

theorem compareTimestamped_spelling {left' right' : Stamp} (leftSame : left.instant = left'.instant)
    (rightSame : right.instant = right'.instant) :
    compareTimestamped left.text leftId right.text rightId = compareTimestamped left'.text leftId right'.text rightId := by
  obtain ⟨first,second,firstExact,secondExact,compared⟩ := compareTimestamped_stamps left right leftId rightId
  obtain ⟨first',second',firstExact',secondExact',compared'⟩ := compareTimestamped_stamps left' right' leftId rightId
  have firsts : first = first' := by
    rw [← @Int.cast_inj ℚ,firstExact,firstExact',leftSame]
  have seconds : second = second' := by
    rw [← @Int.cast_inj ℚ,secondExact,secondExact',rightSame]
  rw [compared,compared',firsts,seconds]

end

end AgentOS.Instants
