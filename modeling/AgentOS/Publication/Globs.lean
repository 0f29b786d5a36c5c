import AgentOS.Library.Regex
import AgentOS.Publication.Policy

/-! Glob patterns: the loop that turns a pattern into a regular expression, and what its parts stand for. -/
namespace AgentOS.Publication
open Library Gate Source

section
variable (sameLetter : Char → Char → Bool) (dot : Char → Bool)

/-- `.*` -/
def anythingRegex : Regex Char := .many (.one dot)

/-- `(?:.*/)?` -/
def directoriesRegex : Regex Char := .optional (.append (anythingRegex dot) (.one fun char => char = '/'))

/-- `[^/]*` -/
def segmentRegex : Regex Char := .many (.one fun char => char ≠ '/')

def globLoop (pattern : List Char) : Nat → Nat → Regex Char → Regex Char
  | 0,_,source => source
  | fuel + 1,index,source =>
    match pattern[index]? with
    | none => source
    | some character =>
      if character = '*' ∧ pattern[index + 1]? = some '*' then
        if pattern[index + 2]? = some '/' then globLoop pattern fuel (index + 3) (.append source (directoriesRegex dot))
        else globLoop pattern fuel (index + 2) (.append source (anythingRegex dot))
      else if character = '*' then globLoop pattern fuel (index + 1) (.append source segmentRegex)
      else globLoop pattern fuel (index + 1) (.append source (.one (sameLetter character)))

def globPatternToRegex (pattern : String) : Regex Char := globLoop sameLetter dot pattern.toList pattern.toList.length 0 .empty

/-! ### The expression of the parts -/

def partRegex : GlobPart → Regex Char
  | .letter char => .one (sameLetter char)
  | .segment => segmentRegex
  | .anything => anythingRegex dot
  | .directories => directoriesRegex dot

def partsRegex : List GlobPart → Regex Char
  | [] => .empty
  | part::rest => .append (partRegex sameLetter dot part) (partsRegex rest)

theorem globParts_cons (character : Char) (pattern : List Char) : globParts (character::pattern) =
    if character = '*' ∧ pattern[0]? = some '*' then
      if pattern[1]? = some '/' then .directories::globParts (pattern.drop 2) else .anything::globParts (pattern.drop 1)
    else if character = '*' then .segment::globParts pattern
    else .letter character::globParts pattern := by
  by_cases star : character = '*'
  · subst star
    cases pattern with
    | nil => rfl
    | cons next pattern =>
      by_cases stars : next = '*'
      · subst stars
        cases pattern with
        | nil => rfl
        | cons third pattern =>
          by_cases slash : third = '/'
          · subst slash
            rfl
          · simp [globParts,slash]
      · simp [globParts,stars]
  · simp [globParts,star]

theorem globLoop_language (pattern : List Char) (fuel index : Nat) (source : Regex Char)
    (enough : pattern.length ≤ index + fuel) :
    (globLoop sameLetter dot pattern fuel index source).language =
      (Regex.append source (partsRegex sameLetter dot (globParts (pattern.drop index)))).language := by
  induction fuel generalizing index source with
  | zero =>
    rw [List.drop_eq_nil_of_le (by omega),globLoop,globParts,partsRegex,Regex.append_empty]
  | succ fuel ih =>
    rw [globLoop]
    by_cases within : index < pattern.length
    · have character : pattern[index]? = some pattern[index] := List.getElem?_eq_getElem within
      rw [character,List.drop_eq_getElem_cons within,globParts_cons]
      simp only [List.getElem?_drop,List.drop_drop,Nat.add_zero]
      split
      · split
        · rw [ih _ _ (by omega),partsRegex,partRegex,Regex.append_assoc]
        · rw [ih _ _ (by omega),partsRegex,partRegex,Regex.append_assoc]
      · split
        · rw [ih _ _ (by omega),partsRegex,partRegex,Regex.append_assoc]
        · rw [ih _ _ (by omega),partsRegex,partRegex,Regex.append_assoc]
    · rw [List.getElem?_eq_none (by omega),List.drop_eq_nil_of_le (by omega),globParts,partsRegex,Regex.append_empty]

theorem globPatternToRegex_language (pattern : String) : (globPatternToRegex sameLetter dot pattern).language =
    (partsRegex sameLetter dot (globParts pattern.toList)).language := by
  unfold globPatternToRegex
  rw [globLoop_language _ _ _ _ _ _ (by omega),Regex.empty_append]
  rfl

end

/-! ### What patterns stand for -/

/-- How a pattern is read: which letters are the same, what a `**` runs over, and what a `**/` stands for where a
directory begins and elsewhere. -/
structure GlobReading where
  sameLetter : Char → Char → Bool
  runs : Char → Bool
  leading : Bool → List Char → Prop

/-- A text that the parts of a pattern stand for, from a place where a directory begins or from another. -/
def Stands (reading : GlobReading) : Bool → List GlobPart → List Char → Prop
  | _,[],text => text = []
  | _,.letter char::rest,text =>
    ∃ next left, text = next::left ∧ reading.sameLetter char next = true ∧ Stands reading (char = '/') rest left
  | _,.segment::rest,text => ∃ start left, text = start ++ left ∧ '/' ∉ start ∧ Stands reading false rest left
  | _,.anything::rest,text =>
    ∃ start left, text = start ++ left ∧ (∀ char ∈ start, reading.runs char = true) ∧ Stands reading false rest left
  | begins,.directories::rest,text =>
    ∃ start left, text = start ++ left ∧ reading.leading begins start ∧ Stands reading begins rest left

def Slashed (text : List Char) : Prop := text = [] ∨ ∃ start, text = start ++ ['/']

def Directories (text : List Char) : Prop :=
  ∃ names : List (List Char), (∀ name ∈ names, name ≠ [] ∧ '/' ∉ name) ∧ text = names.flatMap fun name => name ++ ['/']

theorem partsRegex_iff {reading : GlobReading} {begins : Bool} {glob : List GlobPart} {text : List Char}
    (leading : ∀ begins start, reading.leading begins start ↔
      start = [] ∨ ∃ run, (∀ char ∈ run, reading.runs char = true) ∧ start = run ++ ['/']) :
    text ∈ (partsRegex reading.sameLetter reading.runs glob).language ↔ Stands reading begins glob text := by
  induction glob generalizing begins text with
  | nil => exact Iff.rfl
  | cons part glob ih =>
    rw [partsRegex,Regex.mem_append]
    cases part with
    | letter char =>
      simp only [partRegex,Regex.mem_one,Stands]
      constructor
      · rintro ⟨_,⟨next,same,rfl⟩,left,held,rfl⟩
        exact ⟨next,left,rfl,same,ih.mp held⟩
      · rintro ⟨next,left,rfl,same,held⟩
        exact ⟨[next],⟨next,same,rfl⟩,left,ih.mpr held,rfl⟩
    | segment =>
      have plain : ∀ start : List Char, (∀ char ∈ start, decide (char ≠ '/') = true) ↔ '/' ∉ start := fun start => by
        simp only [decide_eq_true_eq]
        exact ⟨fun each inside => each _ inside rfl,fun absent char inside same => absent (same ▸ inside)⟩
      simp only [partRegex,segmentRegex,Regex.mem_many_one,plain,Stands]
      constructor
      · rintro ⟨start,run,left,held,rfl⟩
        exact ⟨start,left,rfl,run,ih.mp held⟩
      · rintro ⟨start,left,rfl,run,held⟩
        exact ⟨start,run,left,ih.mpr held,rfl⟩
    | anything =>
      simp only [partRegex,anythingRegex,Regex.mem_many_one,Stands]
      constructor
      · rintro ⟨start,run,left,held,rfl⟩
        exact ⟨start,left,rfl,run,ih.mp held⟩
      · rintro ⟨start,left,rfl,run,held⟩
        exact ⟨start,run,left,ih.mpr held,rfl⟩
    | directories =>
      have directories : ∀ start, start ∈ (directoriesRegex reading.runs).language ↔ reading.leading begins start := by
        intro start
        rw [leading,directoriesRegex,anythingRegex,Regex.mem_optional,Regex.mem_append]
        refine or_congr_right ?_
        simp only [Regex.mem_many_one,Regex.mem_one,decide_eq_true_eq]
        constructor
        · rintro ⟨run,free,_,⟨slash,rfl,rfl⟩,rfl⟩
          exact ⟨run,free,rfl⟩
        · rintro ⟨run,free,rfl⟩
          exact ⟨run,free,['/'],⟨'/',rfl,rfl⟩,rfl⟩
      simp only [partRegex,directories,Stands]
      constructor
      · rintro ⟨start,leads,left,held,rfl⟩
        exact ⟨start,left,rfl,leads,ih.mp held⟩
      · rintro ⟨start,left,rfl,leads,held⟩
        exact ⟨start,leads,left,ih.mpr held,rfl⟩

/-! ### Whole directories -/

def Tidy (path : List Char) : Prop := [] ∉ path.splitOn '/'

variable {input policy : PublicationPolicySnapshot} {path : String}

theorem tidy_of_wellFormed (formed : wellFormedPath path = true) : Tidy path.toList := by
  intro inside
  simp only [wellFormedPath,Bool.and_eq_true,Bool.not_eq_true',List.any_eq_false] at formed
  exact formed.2 [] inside (by decide)

theorem Tidy.named {consumed name rest : List Char} (tidy : Tidy (consumed ++ (name ++ '/'::rest))) (begins : Slashed consumed) :
    name ≠ [] := by
  rintro rfl
  refine tidy ?_
  rcases begins with rfl | ⟨start,rfl⟩
  · have parts := List.splitOn_append_cons_self (a := '/') [] rest
    rw [List.nil_append] at parts
    rw [List.nil_append,List.nil_append,parts]
    simp
  · have parts := List.splitOn_append_cons_self (a := '/') start ('/'::rest)
    have inner := List.splitOn_append_cons_self (a := '/') [] rest
    rw [List.nil_append] at inner
    rw [List.nil_append,List.append_assoc,List.singleton_append,parts,inner]
    simp

theorem slashed_append {first second : List Char} (left : Slashed first) (right : Slashed second) : Slashed (first ++ second) := by
  rcases right with rfl | ⟨start,rfl⟩
  · rw [List.append_nil]
    exact left
  · exact .inr ⟨first ++ start,by rw [List.append_assoc]⟩

theorem Directories.slashed {text : List Char} (directories : Directories text) : Slashed text := by
  obtain ⟨names,_,rfl⟩ := directories
  rcases List.eq_nil_or_concat names with rfl | ⟨names,name,rfl⟩
  · exact .inl rfl
  · exact .inr ⟨names.flatMap (fun name => name ++ ['/']) ++ name,by simp⟩

theorem Tidy.directories {consumed start left : List Char} (tidy : Tidy (consumed ++ (start ++ left))) (begins : Slashed consumed)
    (slashed : Slashed start) : Directories start := by
  obtain ⟨count,length⟩ : ∃ count, start.length = count := ⟨_,rfl⟩
  induction count using Nat.strong_induction_on generalizing consumed start with
  | _ count ih =>
    rcases slashed with rfl | ⟨run,rfl⟩
    · exact ⟨[],by simp,rfl⟩
    obtain ⟨name,rest,split,plain⟩ := @List.eq_append_cons_of_mem _ '/' (run ++ ['/']) (by simp)
    rw [split,List.append_assoc,List.cons_append] at tidy
    have named := tidy.named begins
    have later : Slashed rest := by
      rcases List.eq_nil_or_concat rest with rfl | ⟨others,last,rfl⟩
      · exact .inl rfl
      · have ends := congrArg List.getLast? split
        simp only [List.concat_eq_append,List.getLast?_append,List.getLast?_cons,List.getLast?_nil,Option.some_or,
          Option.getD_some,Option.getD_none,Option.some.injEq] at ends
        exact .inr ⟨others,by rw [List.concat_eq_append,ends]⟩
    have next : Slashed (consumed ++ (name ++ ['/'])) := slashed_append begins (.inr ⟨name,rfl⟩)
    have shorter : rest.length < count := by
      rw [← length,split,List.length_append,List.length_cons]
      omega
    have regrouped : consumed ++ (name ++ ['/']) ++ (rest ++ left) = consumed ++ (name ++ '/'::(rest ++ left)) := by simp
    obtain ⟨names,each,rfl⟩ := ih rest.length shorter (regrouped ▸ tidy) next later rfl
    refine ⟨name::names,List.forall_mem_cons.mpr ⟨⟨named,plain⟩,each⟩,?_⟩
    rw [split,List.flatMap_cons,List.append_assoc,List.singleton_append]

/-- A `**/` where a directory begins stands for whole directories. Elsewhere it stands for nothing or for what ends in a slash. -/
def wholeDirectories (sameLetter : Char → Char → Bool) : GlobReading where
  sameLetter := sameLetter
  runs := fun _ => true
  leading := fun begins text => if begins then Directories text else Slashed text

def slashedText (sameLetter : Char → Char → Bool) : GlobReading where
  sameLetter := sameLetter
  runs := fun _ => true
  leading := fun _ text => Slashed text

def KeepsSlash (sameLetter : Char → Char → Bool) : Prop := ∀ char, sameLetter '/' char = true → char = '/'

theorem Tidy.stands_iff {sameLetter : Char → Char → Bool} (keeps : KeepsSlash sameLetter) {begins : Bool} {glob : List GlobPart}
    {consumed text : List Char} (tidy : Tidy (consumed ++ text)) (placed : begins = true → Slashed consumed) :
    Stands (slashedText sameLetter) begins glob text ↔ Stands (wholeDirectories sameLetter) begins glob text := by
  induction glob generalizing begins consumed text with
  | nil => exact Iff.rfl
  | cons part glob ih =>
    have further : ∀ {start left : List Char} {later : Bool}, text = start ++ left → (later = true → Slashed (consumed ++ start)) →
        (Stands (slashedText sameLetter) later glob left ↔ Stands (wholeDirectories sameLetter) later glob left) := by
      intro start left later same follows
      refine @ih later (consumed ++ start) left ?_ follows
      rw [List.append_assoc,← same]
      exact tidy
    cases part with
    | letter char =>
      simp only [Stands]
      refine exists_congr fun next => exists_congr fun left => and_congr_right fun same => and_congr_right fun letter => ?_
      refine @further [next] _ _ same fun slash => .inr ⟨consumed,?_⟩
      rw [decide_eq_true_eq] at slash
      subst slash
      rw [keeps next letter]
    | segment =>
      simp only [Stands]
      exact exists_congr fun start => exists_congr fun left => and_congr_right fun same => and_congr_right fun _ =>
        further same nofun
    | anything =>
      simp only [Stands]
      exact exists_congr fun start => exists_congr fun left => and_congr_right fun same => and_congr_right fun _ =>
        further same nofun
    | directories =>
      simp only [Stands]
      refine exists_congr fun start => exists_congr fun left => and_congr_right fun same => ?_
      cases begins with
      | false =>
        refine and_congr_right fun _ => further same nofun
      | true =>
        have whole : Slashed start ↔ Directories start := by
          refine ⟨fun slashed => ?_,Directories.slashed⟩
          rw [same] at tidy
          exact tidy.directories (placed rfl) slashed
        constructor
        · rintro ⟨slashed,held⟩
          exact ⟨whole.mp slashed,(further same fun _ => slashed_append (placed rfl) slashed).mp held⟩
        · rintro ⟨directories,held⟩
          exact ⟨directories.slashed,(further same fun _ => slashed_append (placed rfl) directories.slashed).mpr held⟩

/-! ### Lines -/

def lineTerminator (char : Char) : Bool := char = '\n' || char = '\r' || char = '\u2028' || char = '\u2029'

def unbroken (char : Char) : Bool := !lineTerminator char

/-- Where no `**` runs over the end of a line. -/
def withinLines (sameLetter : Char → Char → Bool) : GlobReading where
  sameLetter := sameLetter
  runs := unbroken
  leading := fun _ text => text = [] ∨ ∃ run, (∀ char ∈ run, unbroken char = true) ∧ text = run ++ ['/']

theorem globPatternToRegex_iff {sameLetter : Char → Char → Bool} {pattern : String} {text : List Char} (begins : Bool) :
    (globPatternToRegex sameLetter unbroken pattern).test text = true ↔
      Stands (withinLines sameLetter) begins (globParts pattern.toList) text := by
  rw [Regex.test_iff,globPatternToRegex_language]
  exact @partsRegex_iff (withinLines sameLetter) _ _ _ fun _ _ => Iff.rfl

theorem stands_withinLines {sameLetter : Char → Char → Bool} {begins : Bool} {glob : List GlobPart} {text : List Char}
    (line : ∀ char ∈ text, unbroken char = true) :
    Stands (withinLines sameLetter) begins glob text ↔ Stands (slashedText sameLetter) begins glob text := by
  induction glob generalizing begins text with
  | nil => exact Iff.rfl
  | cons part glob ih =>
    have further : ∀ {start left : List Char} {later : Bool}, text = start ++ left →
        (Stands (withinLines sameLetter) later glob left ↔ Stands (slashedText sameLetter) later glob left) := by
      intro start left later same
      exact ih fun char inside => line char (same ▸ List.mem_append_right _ inside)
    have early : ∀ {start left : List Char}, text = start ++ left → ∀ char ∈ start, unbroken char = true :=
      fun same char inside => line char (same ▸ List.mem_append_left _ inside)
    cases part with
    | letter char =>
      exact exists_congr fun next => exists_congr fun left => and_congr_right fun same => and_congr_right fun _ =>
        @further [next] _ _ same
    | segment =>
      exact exists_congr fun start => exists_congr fun left => and_congr_right fun same => and_congr_right fun _ => further same
    | anything =>
      refine exists_congr fun start => exists_congr fun left => and_congr_right fun same => ?_
      exact and_congr (iff_of_true (early same) fun _ _ => rfl) (further same)
    | directories =>
      refine exists_congr fun start => exists_congr fun left => and_congr_right fun same => and_congr ?_ (further same)
      refine or_congr_right ⟨fun ⟨run,_,ends⟩ => ⟨run,ends⟩,fun ⟨run,ends⟩ => ⟨run,fun char inside => ?_,ends⟩⟩
      exact early same char (ends ▸ List.mem_append_left _ inside)

/-! ### The publication policy's patterns -/

def foldsAlike (char other : Char) : Bool := char.toLower = other.toLower

theorem same_of_toLower {char other : Char} (plain : other.isLower = false) (lower : char.toLower = other) : char = other := by
  subst lower
  unfold Char.toLower at plain ⊢
  split
  · rename_i upper
    rw [dif_pos upper] at plain
    simp only [isLower_eq,Bool.and_eq_false_iff,decide_eq_false_iff_not,ge_iff_le,UInt32.le_iff_toNat_le] at plain upper
    obtain ⟨low,high⟩ := upper
    have start : ('A' : Char).val.toNat = 65 := by decide
    have finish : ('Z' : Char).val.toNat = 90 := by decide
    have start' : ('a' : Char).val.toNat = 97 := by decide
    have finish' : ('z' : Char).val.toNat = 122 := by decide
    have between : ('a'.val - 'A'.val : UInt32).toNat = 32 := by decide
    rw [UInt32.toNat_add,between] at plain
    omega
  · rfl

theorem keepsSlash_foldsAlike : KeepsSlash foldsAlike := by
  intro char same
  simp only [foldsAlike,decide_eq_true_eq] at same
  exact same_of_toLower (by decide) same.symm

theorem matchesParts_iff {glob : List GlobPart} {path : List Char} (begins : Bool) :
    matchesParts glob path = true ↔ Stands (slashedText foldsAlike) begins glob path := by
  induction glob generalizing begins path with
  | nil => simp [matchesParts,Stands]
  | cons part glob ih =>
    cases part with
    | letter char =>
      cases path with
      | nil => simp [matchesParts,Stands]
      | cons next path =>
        rw [matchesParts,Bool.and_eq_true,ih (char = '/')]
        constructor
        · rintro ⟨same,held⟩
          exact ⟨next,path,rfl,same,held⟩
        · rintro ⟨_,_,same,letter,held⟩
          obtain ⟨rfl,rfl⟩ := List.cons.inj same
          exact ⟨letter,held⟩
    | segment =>
      rw [matchesParts,List.any_eq_true]
      constructor
      · rintro ⟨count,_,held⟩
        rw [Bool.and_eq_true,ih false,Bool.not_eq_true',List.contains_eq_mem,decide_eq_false_iff_not] at held
        exact ⟨path.take count,path.drop count,(List.take_append_drop _ _).symm,held⟩
      · rintro ⟨start,left,rfl,plain,held⟩
        refine ⟨start.length,List.mem_range.mpr (by rw [List.length_append]; omega),?_⟩
        rw [Bool.and_eq_true,ih false,List.take_left,List.drop_left,Bool.not_eq_true',List.contains_eq_mem,decide_eq_false_iff_not]
        exact ⟨plain,held⟩
    | anything =>
      rw [matchesParts,List.any_eq_true]
      constructor
      · rintro ⟨count,_,held⟩
        exact ⟨path.take count,path.drop count,(List.take_append_drop _ _).symm,fun _ _ => rfl,(ih false).mp held⟩
      · rintro ⟨start,left,rfl,_,held⟩
        refine ⟨start.length,List.mem_range.mpr (by rw [List.length_append]; omega),?_⟩
        rw [List.drop_left,ih false]
        exact held
    | directories =>
      rw [matchesParts,Bool.or_eq_true,List.any_eq_true,ih begins]
      constructor
      · rintro (held | ⟨count,_,found⟩)
        · exact ⟨[],path,rfl,.inl rfl,held⟩
        · rw [Bool.and_eq_true,decide_eq_true_eq,ih begins] at found
          obtain ⟨within,slash⟩ := List.getElem?_eq_some_iff.mp found.1
          refine ⟨path.take (count + 1),path.drop (count + 1),(List.take_append_drop _ _).symm,.inr ⟨path.take count,?_⟩,found.2⟩
          rw [List.take_add_one,found.1]
          rfl
      · rintro ⟨start,left,rfl,rfl | ⟨run,rfl⟩,held⟩
        · exact .inl held
        · refine .inr ⟨run.length,List.mem_range.mpr (by simp),?_⟩
          rw [Bool.and_eq_true,ih begins]
          simp [held]

theorem test_eq_globMatches {pattern path : String} (line : ∀ char ∈ path.toList, unbroken char = true) :
    (globPatternToRegex foldsAlike unbroken pattern).test path.toList = globMatches pattern path := by
  rw [Bool.eq_iff_iff,globPatternToRegex_iff true,stands_withinLines line]
  exact (matchesParts_iff true).symm

theorem globMark_alike {char other mark : Char} (plain : mark.isLower = false) (self : mark.toLower = mark)
    (same : char.toLower = other.toLower) : char = mark ↔ other = mark := by
  constructor
  · rintro rfl
    exact same_of_toLower plain (same.symm.trans self)
  · rintro rfl
    exact same_of_toLower plain (same.trans self)

section
variable {pattern other : List Char} (same : pattern.map Char.toLower = other.map Char.toLower)
include same

theorem getElem?_alike {mark : Char} (plain : mark.isLower = false) (self : mark.toLower = mark) (index : Nat) :
    pattern[index]? = some mark ↔ other[index]? = some mark := by
  have there := congrArg (fun chars : List Char => chars[index]?) same
  simp only [List.getElem?_map] at there
  cases mine : pattern[index]? with
  | none =>
    rw [mine,Option.map_none,eq_comm,Option.map_eq_none_iff] at there
    rw [there]
  | some char =>
    rw [mine,Option.map_some,eq_comm,Option.map_eq_some_iff] at there
    obtain ⟨char',held,alike⟩ := there
    rw [held,Option.some.injEq,Option.some.injEq]
    exact globMark_alike plain self alike.symm

theorem matchesParts_alike : matchesParts (globParts pattern) = matchesParts (globParts other) := by
  obtain ⟨count,length⟩ : ∃ count, pattern.length = count := ⟨_,rfl⟩
  induction count using Nat.strong_induction_on generalizing pattern other with
  | _ count ih =>
    cases pattern with
    | nil =>
      rw [List.map_nil,eq_comm,List.map_eq_nil_iff] at same
      rw [same]
    | cons char pattern =>
      cases other with
      | nil => cases same
      | cons char' other =>
        obtain ⟨chars,rests⟩ := List.cons.inj same
        have further (dropped : Nat) :
            matchesParts (globParts (pattern.drop dropped)) = matchesParts (globParts (other.drop dropped)) := by
          refine ih (pattern.drop dropped).length ?_ ?_ rfl
          · rw [← length,List.length_drop,List.length_cons]
            omega
          · rw [List.map_drop,List.map_drop,rests]
        have whole : matchesParts (globParts pattern) = matchesParts (globParts other) := further 0
        rw [globParts_cons,globParts_cons]
        simp only [@globMark_alike char char' '*' (by decide) (by decide) chars,
          @getElem?_alike pattern other rests '*' (by decide) (by decide),
          @getElem?_alike pattern other rests '/' (by decide) (by decide)]
        funext path
        split
        · split
          · rw [matchesParts,matchesParts,further 2]
          · rw [matchesParts,matchesParts,further 1]
        · split
          · rw [matchesParts,matchesParts,whole]
          · cases path with
            | nil => rfl
            | cons next path => rw [matchesParts,matchesParts,whole,chars]

end

theorem globMatches_alike {pattern other : String} (same : lowerCase pattern = lowerCase other) (path : String) :
    globMatches pattern path = globMatches other path := by
  have chars : pattern.toList.map Char.toLower = other.toList.map Char.toLower := by
    have lists := congrArg String.toList same
    simpa [lowerCase] using lists
  unfold globMatches
  rw [matchesParts_alike chars]

/-! ### What policies let pass -/

theorem evaluateChanges_ok {policy : PublicationPolicySnapshot} {total : Nat} {changes : List Change}
    (ok : evaluateChanges policy total changes = .ok ()) :
    ∀ change ∈ changes, wellFormedPath change.path = true ∧ deniedPath policy change.path = false := by
  induction changes generalizing total with
  | nil => exact fun change inside => absurd inside List.not_mem_nil
  | cons change changes ih =>
    rw [evaluateChanges] at ok
    split at ok
    · cases ok
    · rename_i path normal
      unfold normalizeRepositoryPathSyntax at normal
      split at normal
      · rename_i formed
        cases normal
        split at ok
        · cases ok
        · rename_i passed
          have here : wellFormedPath change.path = true ∧ deniedPath policy change.path = false :=
            ⟨formed,Bool.not_eq_true _ ▸ passed⟩
          refine List.forall_mem_cons.mpr ⟨here,?_⟩
          split at ok
          · split at ok
            · exact ih ok
            · cases ok
          · rename_i executable content
            generalize (if executable = true then Mode.executable else Mode.regular) = mode at ok
            split at ok
            · cases ok
            · split at ok
              · cases ok
              · split at ok
                · cases ok
                · split at ok
                  · cases ok
                  · exact ih ok
      · cases normal

theorem normalize_keeps_defaults
    (ok : normalizePublicationPolicySnapshot input = .ok policy) {required : String} (default : required ∈ DEFAULT_PROTECTED_PATHS) :
    ∃ pattern ∈ policy.protectedPaths, lowerCase pattern = lowerCase required := by
  unfold normalizePublicationPolicySnapshot at ok
  split at ok
  · cases ok
  · split at ok
    · cases ok
    · rename_i complete
      cases ok
      have held := List.find?_eq_none.mp complete required default
      simp only [decide_eq_true_eq,not_not,List.mem_map] at held
      obtain ⟨pattern,inside,same⟩ := held
      exact ⟨pattern,(List.perm_insertionSort _ _).mem_iff.mpr (List.mem_dedup.mpr inside),same⟩

theorem unbroken_of_wellFormed (formed : wellFormedPath path = true) : ∀ char ∈ path.toList, unbroken char = true := by
  simp only [wellFormedPath,Bool.and_eq_true,List.all_eq_true,decide_eq_true_eq] at formed
  intro char inside
  have low := (formed.1.2 char inside).1
  have high := (formed.1.2 char inside).2
  simp only [unbroken,lineTerminator,Bool.not_eq_true',Bool.or_eq_false_iff,decide_eq_false_iff_not]
  refine ⟨⟨⟨?_,?_⟩,?_⟩,?_⟩
  · rintro rfl
    exact absurd low (by decide)
  · rintro rfl
    exact absurd low (by decide)
  · rintro rfl
    exact absurd high (by decide)
  · rintro rfl
    exact absurd high (by decide)

/-- What a change list may not hold: a path that a default pattern matches, or one with a segment `.git`. -/
def Guarded (path : String) : Prop :=
  (∃ pattern ∈ DEFAULT_PROTECTED_PATHS, (globPatternToRegex foldsAlike unbroken pattern).test path.toList = true) ∨
    ∃ segment ∈ parts path, segment.map Char.toLower = ".git".toList

theorem deniedPath_of_guarded (ok : normalizePublicationPolicySnapshot input = .ok policy) (formed : wellFormedPath path = true)
    (guarded : Guarded path) : deniedPath policy path = true := by
  unfold deniedPath
  rw [Bool.or_eq_true]
  rcases guarded with ⟨required,default,matched⟩ | ⟨segment,inside,git⟩
  · obtain ⟨pattern,kept,alike⟩ := normalize_keeps_defaults ok default
    rw [test_eq_globMatches (unbroken_of_wellFormed formed),← globMatches_alike alike] at matched
    exact .inr (List.any_eq_true.mpr ⟨pattern,kept,matched⟩)
  · refine .inl (List.any_eq_true.mpr ⟨segment,inside,?_⟩)
    rw [git]
    rfl

theorem evaluatePublicationPolicy_guards (input : PublicationPolicySnapshot) {changes : List Change} {change : Change}
    (inside : change ∈ changes) (guarded : Guarded change.path) : ∃ fault, evaluatePublicationPolicy changes input = .error fault := by
  unfold evaluatePublicationPolicy
  cases normal : normalizePublicationPolicySnapshot input with
  | error fault => exact ⟨fault,rfl⟩
  | ok policy =>
    dsimp only
    split
    · exact ⟨_,rfl⟩
    · cases passed : evaluateChanges policy 0 changes with
      | error fault => exact ⟨fault,rfl⟩
      | ok _ =>
        obtain ⟨formed,free⟩ := evaluateChanges_ok passed change inside
        rw [deniedPath_of_guarded normal formed guarded] at free
        cases free

def printableASCII (text : String) : Bool := text.toList.all fun char => ' ' ≤ char && char ≤ '~'

/-- The expression of a pattern matches the paths that the pattern stands for: whole directories for a `**/` where a
directory begins, and nothing or what ends in a slash for one elsewhere. No policy lets a default pattern's path or a
segment `.git` pass. -/
theorem globs_mean_and_guard : (∀ pattern path, printableASCII pattern = true → normalizeRepositoryPathSyntax path = some path →
      ((globPatternToRegex foldsAlike unbroken pattern).test path.toList = true ↔
        Stands (wholeDirectories foldsAlike) true (globParts pattern.toList) path.toList)) ∧
    ∀ input policy changes, normalizePublicationPolicySnapshot input = .ok policy →
      (∃ change ∈ changes, Guarded change.path) → ∃ fault, evaluatePublicationPolicy changes input = .error fault := by
  constructor
  · intro pattern path _ normal
    have formed : wellFormedPath path = true := by
      unfold normalizeRepositoryPathSyntax at normal
      split at normal
      · assumption
      · cases normal
    have tidy : Tidy ([] ++ path.toList) := tidy_of_wellFormed formed
    rw [globPatternToRegex_iff true,stands_withinLines (unbroken_of_wellFormed formed)]
    exact tidy.stands_iff keepsSlash_foldsAlike fun _ => .inl rfl
  · rintro input policy changes _ ⟨change,inside,guarded⟩
    exact evaluatePublicationPolicy_guards input inside guarded

/-- Every `**/` as whole directories. -/
def everyWhere (sameLetter : Char → Char → Bool) : GlobReading where
  sameLetter := sameLetter
  runs := fun _ => true
  leading := fun _ text => Directories text

/-- After a letter, a `**/` also stands for a bare slash, which is no directory. -/
theorem bare_slash_matched : ¬ ∀ pattern path, printableASCII pattern = true → normalizeRepositoryPathSyntax path = some path →
    ((globPatternToRegex foldsAlike unbroken pattern).test path.toList = true ↔
      Stands (everyWhere foldsAlike) true (globParts pattern.toList) path.toList) := by
  intro all
  have matched := (all "a**/b" "a/b" (by decide) (by decide)).mp (by decide)
  obtain ⟨_,left,letters,_,_,rest,split,⟨names,each,rfl⟩,last,_,ends,_,rfl⟩ := matched
  have text : ("a/b" : String).toList = ['a','/','b'] := by rfl
  rw [text] at letters
  obtain ⟨_,rfl⟩ := List.cons.inj letters
  rw [ends] at split
  cases names with
  | nil => simp at split
  | cons name names =>
    have named := (each name List.mem_cons_self).1
    obtain ⟨char,more,rfl⟩ := List.exists_cons_of_ne_nil named
    have plain := (each _ List.mem_cons_self).2
    rw [List.flatMap_cons,List.cons_append,List.cons_append] at split
    exact plain ((List.cons.inj split).1 ▸ List.mem_cons_self)

end AgentOS.Publication
