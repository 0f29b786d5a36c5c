import AgentOS.IsoTimestamp
import AgentOS.Stringify
import AgentOS.Library.Calendar

/-! Dates as the language has them: the times it can hold, their canonical text and the reading of that text. -/
namespace AgentOS
open Library

def MAX_TIME : Int := 8640000000000000

def isTime (at_ : Int) : Bool := -MAX_TIME ≤ at_ && at_ ≤ MAX_TIME

def yearText (year : Int) : String :=
  if 0 ≤ year ∧ year ≤ 9999 then padded 4 year else (if year < 0 then "-" else "+") ++ padded 6 year

/-- `Date.prototype.toISOString`, for a time that a date can hold. -/
def toISOString (at_ : Instant) : String :=
  let days := at_.fdiv 86400000
  let time := at_ - days * 86400000
  let date := Calendar.civil days
  yearText date.1 ++ "-" ++ padded 2 date.2.1 ++ "-" ++ padded 2 date.2.2 ++ "T" ++ padded 2 (time / 3600000) ++ ":" ++
    padded 2 (time / 60000 % 60) ++ ":" ++ padded 2 (time / 1000 % 60) ++ "." ++ padded 3 (time % 1000) ++ "Z"

def readYear : List Char → Option (Int × List Char)
  | '+'::rest => (digits (rest.take 6)).map fun year : Nat => ((year : Int),rest.drop 6)
  | '-'::rest => (digits (rest.take 6)).map fun year : Nat => (-(year : Int),rest.drop 6)
  | rest => (digits (rest.take 4)).map fun year : Nat => ((year : Int),rest.drop 4)

def readTime (value : String) : Option Instant := do
  let (year,rest) ← readYear value.toList
  match rest with
  | ['-',o1,o2,'-',d1,d2,'T',h1,h2,':',m1,m2,':',s1,s2,'.',f1,f2,f3,'Z'] =>
    let month ← digits [o1,o2]
    let day ← digits [d1,d2]
    let hour ← digits [h1,h2]
    let minute ← digits [m1,m2]
    let second ← digits [s1,s2]
    let fraction ← digits [f1,f2,f3]
    some (((Calendar.ordinal year month day * 24 + hour) * 60 + minute) * 60000 + second * 1000 + fraction)
  | _ => none

def canonicalTime (value : String) : Option Instant :=
  match readTime value with
  | none => none
  | some at_ => if isTime at_ ∧ toISOString at_ = value then some at_ else none

/-! ### Numerals of a given width -/

variable {group : List Char} {rest : List Char} {number : Nat} {year : Int}

theorem digits_eq (all : ∀ char ∈ group, char.isDigit = true) : digits group = some (Nat.ofDigitChars 10 group 0) := by
  unfold digits
  rw [if_pos (List.all_eq_true.mpr all),Nat.ofDigitChars_eq_foldl]
  congr 2
  funext number digit
  rw [Nat.mul_comm]
  rfl

theorem padded_spec {width : Nat} {number : Int} (positive : 0 < width) (low : 0 ≤ number) (high : number < 10 ^ width) :
    (padded width number).toList.length = width ∧ digits (padded width number).toList = some number.toNat := by
  have natural : number.natAbs = number.toNat := by omega
  have small : number.toNat < 10 ^ width := by
    have cast : ((10 ^ width : Nat) : Int) = 10 ^ width := by norm_cast
    omega
  have numeral : (toString number.natAbs).toList = Nat.toDigits 10 number.toNat := by
    rw [natural]
    exact Nat.toList_repr
  have short : (Nat.toDigits 10 number.toNat).length ≤ width := (Nat.length_toDigits_le_iff (by omega) positive).mpr small
  have measured : (toString number.natAbs).length = (Nat.toDigits 10 number.toNat).length := by
    rw [← String.length_toList,numeral]
  have chars : (padded width number).toList =
      List.replicate (width - (Nat.toDigits 10 number.toNat).length) '0' ++ Nat.toDigits 10 number.toNat := by
    unfold padded
    rw [String.toList_append,String.toList_ofList,numeral,measured]
  rw [chars]
  refine ⟨?_,?_⟩
  · rw [List.length_append,List.length_replicate]
    omega
  · rw [digits_eq,Nat.ofDigitChars_append,Nat.ofDigitChars_replicate_zero,Nat.mul_zero,Nat.ofDigitChars_toDigits (by omega) (by omega)]
    intro char inside
    rcases List.mem_append.mp inside with zero | digit
    · rw [List.eq_of_mem_replicate zero]
      rfl
    · exact Nat.isDigit_of_mem_toDigits (by omega) (by omega) digit

theorem padded_two {number : Int} (low : 0 ≤ number) (high : number < 100) :
    ∃ first second, (padded 2 number).toList = [first,second] ∧ digits [first,second] = some number.toNat := by
  obtain ⟨length,value⟩ := @padded_spec 2 number (by omega) low high
  obtain ⟨first,second,chars⟩ := List.length_eq_two.mp length
  exact ⟨first,second,chars,chars ▸ value⟩

theorem padded_three {number : Int} (low : 0 ≤ number) (high : number < 1000) :
    ∃ first second third, (padded 3 number).toList = [first,second,third] ∧ digits [first,second,third] = some number.toNat := by
  obtain ⟨length,value⟩ := @padded_spec 3 number (by omega) low high
  obtain ⟨first,second,third,chars⟩ := List.length_eq_three.mp length
  exact ⟨first,second,third,chars,chars ▸ value⟩

/-! ### The canonical text -/

def dateOf (at_ : Instant) : Int × Int × Int := Calendar.civil (at_.fdiv 86400000)

def timeOfDay (at_ : Instant) : Int := at_ - at_.fdiv 86400000 * 86400000

theorem timeOfDay_bounds (at_ : Instant) : 0 ≤ timeOfDay at_ ∧ timeOfDay at_ < 86400000 := by
  unfold timeOfDay
  rw [Int.fdiv_eq_ediv_of_nonneg _ (by omega)]
  omega

theorem toISOString_chars (at_ : Instant) : ∃ o1 o2 d1 d2 h1 h2 m1 m2 s1 s2 f1 f2 f3 : Char,
    (toISOString at_).toList = (yearText (dateOf at_).1).toList ++
      ['-',o1,o2,'-',d1,d2,'T',h1,h2,':',m1,m2,':',s1,s2,'.',f1,f2,f3,'Z'] ∧
    digits [o1,o2] = some (dateOf at_).2.1.toNat ∧ digits [d1,d2] = some (dateOf at_).2.2.toNat ∧
    digits [h1,h2] = some (timeOfDay at_ / 3600000).toNat ∧ digits [m1,m2] = some (timeOfDay at_ / 60000 % 60).toNat ∧
    digits [s1,s2] = some (timeOfDay at_ / 1000 % 60).toNat ∧ digits [f1,f2,f3] = some (timeOfDay at_ % 1000).toNat := by
  obtain ⟨era,year,month,day,_,months,_,date,first,last⟩ := Calendar.civil_spec (at_.fdiv 86400000)
  obtain ⟨low,high⟩ := timeOfDay_bounds at_
  have monthDays := Calendar.monthDays_le (dateOf at_).1 (dateOf at_).2.1
  have monthRange : 0 ≤ (dateOf at_).2.1 ∧ (dateOf at_).2.1 < 100 := by
    unfold dateOf
    rw [date]
    dsimp only
    split_ifs <;> omega
  have dayRange : 0 ≤ (dateOf at_).2.2 ∧ (dateOf at_).2.2 < 100 := by
    unfold dateOf at *
    rw [date] at monthDays last ⊢
    dsimp only at monthDays last ⊢
    omega
  obtain ⟨o1,o2,monthChars,monthValue⟩ := padded_two monthRange.1 monthRange.2
  obtain ⟨d1,d2,dayChars,dayValue⟩ := padded_two dayRange.1 dayRange.2
  obtain ⟨h1,h2,hourChars,hourValue⟩ := @padded_two (timeOfDay at_ / 3600000) (by omega) (by omega)
  obtain ⟨m1,m2,minuteChars,minuteValue⟩ := @padded_two (timeOfDay at_ / 60000 % 60) (by omega) (by omega)
  obtain ⟨s1,s2,secondChars,secondValue⟩ := @padded_two (timeOfDay at_ / 1000 % 60) (by omega) (by omega)
  obtain ⟨f1,f2,f3,fractionChars,fractionValue⟩ := @padded_three (timeOfDay at_ % 1000) (by omega) (by omega)
  refine ⟨o1,o2,d1,d2,h1,h2,m1,m2,s1,s2,f1,f2,f3,?_,monthValue,dayValue,hourValue,minuteValue,secondValue,fractionValue⟩
  have text : toISOString at_ = yearText (dateOf at_).1 ++ "-" ++ padded 2 (dateOf at_).2.1 ++ "-" ++
      padded 2 (dateOf at_).2.2 ++ "T" ++ padded 2 (timeOfDay at_ / 3600000) ++ ":" ++ padded 2 (timeOfDay at_ / 60000 % 60) ++ ":" ++
      padded 2 (timeOfDay at_ / 1000 % 60) ++ "." ++ padded 3 (timeOfDay at_ % 1000) ++ "Z" := rfl
  have dash : ("-" : String).toList = ['-'] := rfl
  have clock : ("T" : String).toList = ['T'] := rfl
  have colon : (":" : String).toList = [':'] := rfl
  have dot : ("." : String).toList = ['.'] := rfl
  have zone : ("Z" : String).toList = ['Z'] := rfl
  rw [text]
  simp only [String.toList_append,monthChars,dayChars,hourChars,minuteChars,secondChars,fractionChars,dash,clock,colon,dot,zone,
    List.append_assoc,List.cons_append,List.nil_append]

theorem time_of_fields (at_ : Instant) :
    ((Calendar.ordinal (dateOf at_).1 (dateOf at_).2.1 (dateOf at_).2.2 * 24 + timeOfDay at_ / 3600000) * 60 +
      timeOfDay at_ / 60000 % 60) * 60000 + timeOfDay at_ / 1000 % 60 * 1000 + timeOfDay at_ % 1000 = at_ := by
  unfold dateOf
  rw [Calendar.ordinal_civil]
  unfold timeOfDay
  omega

theorem month_toNat (at_ : Instant) :
    ((dateOf at_).2.1.toNat : Int) = (dateOf at_).2.1 ∧ ((dateOf at_).2.2.toNat : Int) = (dateOf at_).2.2 := by
  have month := Calendar.civil_month (at_.fdiv 86400000)
  have day := Calendar.civil_day (at_.fdiv 86400000)
  unfold dateOf
  exact ⟨Int.toNat_of_nonneg (by omega),Int.toNat_of_nonneg (by omega)⟩

variable {at_ : Instant}

theorem year_bounds (time : isTime at_ = true) : -1000000 < (dateOf at_).1 ∧ (dateOf at_).1 < 1000000 := by
  obtain ⟨era,year,month,day,years,months,split,date,first,last⟩ := Calendar.civil_spec (at_.fdiv 86400000)
  have short := last.trans (Calendar.monthDays_le _ _)
  simp only [isTime,Bool.and_eq_true,decide_eq_true_eq] at time
  unfold MAX_TIME at time
  rw [Int.fdiv_eq_ediv_of_nonneg _ (by omega)] at split
  unfold Calendar.yearStart at split
  have eras : -700 ≤ era ∧ era ≤ 700 := by omega
  unfold dateOf
  rw [date]
  dsimp only
  split_ifs <;> omega

theorem yearText_chars (low : 0 ≤ year) (high : year ≤ 9999) :
    ∃ y1 y2 y3 y4, (yearText year).toList = [y1,y2,y3,y4] ∧ digits [y1,y2,y3,y4] = some year.toNat := by
  obtain ⟨length,value⟩ := @padded_spec 4 year (by omega) low (by omega)
  obtain ⟨y1,rest,chars⟩ := List.exists_cons_of_length_eq_add_one length
  have three : rest.length = 3 := by
    rw [chars,List.length_cons] at length
    omega
  obtain ⟨y2,y3,y4,chars'⟩ := List.length_eq_three.mp three
  rw [chars'] at chars
  refine ⟨y1,y2,y3,y4,?_,chars ▸ value⟩
  unfold yearText
  rw [if_pos ⟨low,high⟩,chars]

theorem head_digit {first : Char} (value : digits (first::rest) = some number) : first.isDigit = true := by
  unfold digits at value
  split at value
  · rename_i all
    exact List.all_eq_true.mp all first List.mem_cons_self
  · cases value

theorem readYear_unsigned {first : Char} (digit : first.isDigit = true) :
    readYear (first::rest) = (digits ((first::rest).take 4)).map fun year : Nat => ((year : Int),(first::rest).drop 4) := by
  unfold readYear
  split
  · rename_i same
    obtain ⟨rfl,_⟩ := List.cons.inj same
    cases digit
  · rename_i same
    obtain ⟨rfl,_⟩ := List.cons.inj same
    cases digit
  · rfl

theorem readYear_yearText (low : -1000000 < year) (high : year < 1000000) (rest : List Char) :
    readYear ((yearText year).toList ++ rest) = some (year,rest) := by
  by_cases four : 0 ≤ year ∧ year ≤ 9999
  · obtain ⟨y1,y2,y3,y4,chars,value⟩ := yearText_chars four.1 four.2
    rw [chars,List.cons_append,readYear_unsigned (head_digit value)]
    simp only [List.cons_append,List.nil_append,List.take_succ_cons,List.take_zero,List.drop_succ_cons,List.drop_zero,value,
      Option.map_some,Int.toNat_of_nonneg four.1]
  · obtain ⟨length,value⟩ := @padded_spec 6 |year| (by omega) (abs_nonneg _) (by rw [abs_lt]; omega)
    have same : padded 6 year = padded 6 |year| := by
      unfold padded
      rw [Int.natAbs_abs]
    unfold yearText
    rw [if_neg four,String.toList_append,List.append_assoc,same]
    have taken : ((padded 6 |year|).toList ++ rest).take 6 = (padded 6 |year|).toList := List.take_left' length
    have dropped : ((padded 6 |year|).toList ++ rest).drop 6 = rest := List.drop_left' length
    by_cases negative : year < 0
    · have sign : ("-" : String).toList = ['-'] := rfl
      rw [if_pos negative,sign,List.singleton_append]
      simp only [readYear,taken,dropped,value,Option.map_some]
      rw [Int.toNat_of_nonneg (abs_nonneg _),abs_of_neg negative,neg_neg]
    · have sign : ("+" : String).toList = ['+'] := rfl
      rw [if_neg negative,sign,List.singleton_append]
      simp only [readYear,taken,dropped,value,Option.map_some]
      rw [Int.toNat_of_nonneg (abs_nonneg _),abs_of_nonneg (not_lt.mp negative)]

theorem yearText_length (low : -1000000 < year) (high : year < 1000000) : (yearText year).toList.length ≤ 7 := by
  by_cases four : 0 ≤ year ∧ year ≤ 9999
  · obtain ⟨y1,y2,y3,y4,chars,_⟩ := yearText_chars four.1 four.2
    rw [chars]
    exact Nat.le_of_ble_eq_true rfl
  · obtain ⟨length,_⟩ := @padded_spec 6 |year| (by omega) (abs_nonneg _) (by rw [abs_lt]; omega)
    have same : padded 6 year = padded 6 |year| := by
      unfold padded
      rw [Int.natAbs_abs]
    unfold yearText
    rw [if_neg four,String.toList_append,List.length_append,same,length]
    split
    · decide
    · decide

theorem toISOString_length (time : isTime at_ = true) : (toISOString at_).length ≤ 27 := by
  obtain ⟨_,_,_,_,_,_,_,_,_,_,_,_,_,chars,_⟩ := toISOString_chars at_
  obtain ⟨low,high⟩ := year_bounds time
  have year := yearText_length low high
  rw [← String.length_toList,chars,List.length_append]
  simp only [List.length_cons,List.length_nil]
  omega

theorem canonicalTime_toISOString (time : isTime at_ = true) : canonicalTime (toISOString at_) = some at_ := by
  obtain ⟨o1,o2,d1,d2,h1,h2,m1,m2,s1,s2,f1,f2,f3,chars,month,day,hour,minute,second,fraction⟩ := toISOString_chars at_
  obtain ⟨low,high⟩ := year_bounds time
  obtain ⟨early,late⟩ := timeOfDay_bounds at_
  obtain ⟨monthCast,dayCast⟩ := month_toNat at_
  have read : readTime (toISOString at_) = some at_ := by
    unfold readTime
    rw [chars,readYear_yearText low high]
    simp only [Option.bind_eq_bind,Option.bind_some,month,day,hour,minute,second,fraction,monthCast,dayCast]
    rw [Int.toNat_of_nonneg (by omega),Int.toNat_of_nonneg (by omega),Int.toNat_of_nonneg (by omega),Int.toNat_of_nonneg (by omega),
      time_of_fields]
  unfold canonicalTime
  rw [read]
  exact if_pos ⟨time,rfl⟩

theorem canonicalTime_some {value : String} (found : canonicalTime value = some at_) :
    isTime at_ = true ∧ toISOString at_ = value := by
  unfold canonicalTime at found
  split at found
  · cases found
  · split at found
    · rename_i good
      cases found
      exact good
    · cases found

/-! ### Timestamps -/

theorem isDigit_of_digits (value : digits group = some number) : ∀ char ∈ group, char.isDigit = true := by
  unfold digits at value
  split at value
  · rename_i all
    exact List.all_eq_true.mp all
  · cases value

theorem digits_thousandfold (value : digits group = some number) : digits (group ++ List.replicate 3 '0') = some (number * 1000) := by
  have all := isDigit_of_digits value
  rw [digits_eq all] at value
  rw [digits_eq,Nat.ofDigitChars_append,Nat.ofDigitChars_replicate_zero,Option.some.inj value,Nat.mul_comm]
  intro char inside
  rcases List.mem_append.mp inside with early | zero
  · exact all char early
  · rw [List.eq_of_mem_replicate zero]
    rfl

theorem daysInMonth_eq {year month : Nat} (low : 1 ≤ month) (high : month ≤ 12) :
    (((TimestampParts.daysInMonth year)[month - 1]?.getD 0 : Nat) : Int) = Calendar.monthDays year month := by
  have leaps : TimestampParts.leapYear year = Calendar.leap year := by
    unfold TimestampParts.leapYear Calendar.leap
    rw [Bool.eq_iff_iff]
    simp only [Bool.and_eq_true,Bool.or_eq_true,decide_eq_true_eq]
    omega
  unfold TimestampParts.daysInMonth Calendar.monthDays
  rw [leaps]
  cases Calendar.leap year <;> interval_cases month <;> rfl

def timestampParts (at_ : Instant) (fraction : List Char) : TimestampParts where
  year := (dateOf at_).1.toNat
  month := (dateOf at_).2.1.toNat
  day := (dateOf at_).2.2.toNat
  hour := (timeOfDay at_ / 3600000).toNat
  minute := (timeOfDay at_ / 60000 % 60).toNat
  second := (timeOfDay at_ / 1000 % 60).toNat
  fraction := fraction
  offset := none

theorem isoTimestamp_toISOString (low : 0 ≤ (dateOf at_).1) (high : (dateOf at_).1 ≤ 9999) :
    ∃ stamp, isoTimestamp (toISOString at_) = .ok stamp ∧ stamp.epochMicroseconds = at_ * 1000 := by
  obtain ⟨o1,o2,d1,d2,h1,h2,m1,m2,s1,s2,f1,f2,f3,chars,month,day,hour,minute,second,fraction⟩ := toISOString_chars at_
  obtain ⟨y1,y2,y3,y4,yearChars,year⟩ := yearText_chars low high
  obtain ⟨early,late⟩ := timeOfDay_bounds at_
  obtain ⟨monthCast,dayCast⟩ := month_toNat at_
  have fractionDigits := isDigit_of_digits fraction
  simp only [List.forall_mem_cons,List.not_mem_nil,IsEmpty.forall_iff,implies_true,and_true] at fractionDigits
  obtain ⟨first,second',third⟩ := fractionDigits
  have zone : Char.isDigit 'Z' = false := by decide
  have matched : matchTimestamp (toISOString at_) = some (timestampParts at_ [f1,f2,f3]) := by
    unfold matchTimestamp
    rw [chars,yearChars]
    simp [matchFraction,matchOffset,year,month,day,hour,minute,second,first,second',third,zone,timestampParts]
  have valid : (timestampParts at_ [f1,f2,f3]).hasValidCalendarParts = true := by
    have months := Calendar.civil_month (at_.fdiv 86400000)
    have days := (Calendar.civil_day (at_.fdiv 86400000)).2
    have begins := (Calendar.civil_day (at_.fdiv 86400000)).1
    have length := @daysInMonth_eq (dateOf at_).1.toNat (dateOf at_).2.1.toNat (by unfold dateOf; omega)
      (by unfold dateOf; omega)
    rw [monthCast,Int.toNat_of_nonneg low] at length
    simp only [TimestampParts.hasValidCalendarParts,Bool.and_eq_true,decide_eq_true_eq,Bool.or_eq_true]
    simp only [timestampParts,Option.map_none,Option.getD_none]
    unfold dateOf at *
    omega
  refine ⟨⟨toISOString at_,timestampParts at_ [f1,f2,f3],matched,valid⟩,?_,?_⟩
  · unfold isoTimestamp
    split
    · rename_i missing
      rw [matched] at missing
      cases missing
    · rename_i parts found
      have same : parts = timestampParts at_ [f1,f2,f3] := Option.some.inj (found.symm.trans matched)
      subst same
      rw [dif_pos valid]
  · have micro : (timestampParts at_ [f1,f2,f3]).fractionMicroseconds = timeOfDay at_ % 1000 * 1000 := by
      have padding : (timestampParts at_ [f1,f2,f3]).fraction ++
          List.replicate (6 - (timestampParts at_ [f1,f2,f3]).fraction.length) '0' = [f1,f2,f3] ++ List.replicate 3 '0' := rfl
      unfold TimestampParts.fractionMicroseconds
      rw [padding,digits_thousandfold fraction,Option.getD_some,Nat.cast_mul,Int.toNat_of_nonneg (by omega)]
      rfl
    have together := time_of_fields at_
    have milli : (timestampParts at_ [f1,f2,f3]).utcMilliseconds =
        ((Calendar.ordinal (dateOf at_).1 (dateOf at_).2.1 (dateOf at_).2.2 * 24 + timeOfDay at_ / 3600000) * 60 +
          timeOfDay at_ / 60000 % 60) * 60000 + timeOfDay at_ / 1000 % 60 * 1000 := by
      have count : ∀ year month day : Int, TimestampParts.days year month day = Calendar.ordinal year month day := fun _ _ _ => rfl
      unfold TimestampParts.utcMilliseconds
      rw [count]
      simp only [timestampParts]
      rw [Int.toNat_of_nonneg low,monthCast,dayCast,Int.toNat_of_nonneg (by omega),Int.toNat_of_nonneg (by omega),
        Int.toNat_of_nonneg (by omega)]
    have offset : (timestampParts at_ [f1,f2,f3]).offsetMinutes = 0 := rfl
    unfold IsoTimestamp.epochMicroseconds
    rw [micro,milli,offset]
    omega

theorem isoTimestamp_signed {sign : Char} (year : (yearText (dateOf at_).1).toList = sign::rest)
    (signed : sign.isDigit = false) : isoTimestamp (toISOString at_) = .error (.error "timestamp must be an ISO 8601 string") := by
  obtain ⟨o1,o2,d1,d2,h1,h2,m1,m2,s1,s2,f1,f2,f3,chars,_⟩ := toISOString_chars at_
  have unread : ∀ group : List Char, digits (sign::group) = none := by
    intro group
    unfold digits
    rw [List.all_cons,signed]
    rfl
  have missing : matchTimestamp (toISOString at_) = none := by
    unfold matchTimestamp
    rw [chars,year,List.cons_append]
    split
    · rename_i same
      obtain ⟨rfl,_⟩ := List.cons.inj same
      rw [unread]
      rfl
    · rfl
  unfold isoTimestamp
  split
  · rfl
  · rename_i parts found
    rw [missing] at found
    cases found

theorem isoTimestamp_late (late : 9999 < (dateOf at_).1) :
    isoTimestamp (toISOString at_) = .error (.error "timestamp must be an ISO 8601 string") := by
  have sign : ("+" : String).toList = ['+'] := rfl
  have year : (yearText (dateOf at_).1).toList = '+'::(padded 6 (dateOf at_).1).toList := by
    unfold yearText
    rw [if_neg (by omega),if_neg (by omega),String.toList_append,sign,List.singleton_append]
  exact isoTimestamp_signed year (by decide)

theorem isoTimestamp_early (early : (dateOf at_).1 < 0) :
    isoTimestamp (toISOString at_) = .error (.error "timestamp must be an ISO 8601 string") := by
  have sign : ("-" : String).toList = ['-'] := rfl
  have year : (yearText (dateOf at_).1).toList = '-'::(padded 6 (dateOf at_).1).toList := by
    unfold yearText
    rw [if_neg (by omega),if_pos (by omega),String.toList_append,sign,List.singleton_append]
  exact isoTimestamp_signed year (by decide)

theorem epochMicroseconds_toISOString {stamp : IsoTimestamp} (read : isoTimestamp (toISOString at_) = .ok stamp) :
    stamp.epochMicroseconds = at_ * 1000 := by
  rcases lt_or_ge (dateOf at_).1 0 with early | low
  · cases (isoTimestamp_early early).symm.trans read
  · rcases lt_or_ge 9999 (dateOf at_).1 with late | high
    · cases (isoTimestamp_late late).symm.trans read
    · obtain ⟨known,same,instant⟩ := isoTimestamp_toISOString low high
      cases read.symm.trans same
      exact instant

/-! ### The last instant of a year of four digits -/

def LAST_TIMESTAMP : Int := 253402300799999

theorem year_le_iff {at_ : Int} (low : 0 ≤ at_) : 0 ≤ (dateOf at_).1 ∧ ((dateOf at_).1 ≤ 9999 ↔ at_ ≤ LAST_TIMESTAMP) := by
  obtain ⟨era,year,month,day,years,months,split,date,first,last⟩ := Calendar.civil_spec (at_.fdiv 86400000)
  have short := last.trans (Calendar.monthDays_le _ _)
  rw [Int.fdiv_eq_ediv_of_nonneg _ (by omega)] at split
  unfold Calendar.yearStart at split
  unfold dateOf LAST_TIMESTAMP
  rw [date]
  dsimp only
  have eras : 4 ≤ era := by omega
  have day' : at_ ≤ 253402300799999 ↔ at_ / 86400000 ≤ 2932896 := by omega
  rw [day']
  generalize at_ / 86400000 = days at split
  rcases lt_trichotomy era 24 with before | rfl | after
  · split_ifs <;> omega
  · split_ifs <;> omega
  · split_ifs <;> omega

end AgentOS
