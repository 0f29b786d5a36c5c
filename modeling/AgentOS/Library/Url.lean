import Mathlib.Data.List.DropRight
import Mathlib.Data.List.TakeWhile

/-! References to places on the web that begin with a slash, as a URL parser
resolves them: what it strips, where it cuts, which segments it takes away and
which characters it encodes. Who reads the name of a host is left open. -/
namespace Library.Url

/-! ### Encoding -/

def hexDigit (number : Nat) : Char := "0123456789ABCDEF".toList[number]?.getD '0'

def percent (byte : UInt8) : List Char := ['%',hexDigit (byte.toNat / 16),hexDigit (byte.toNat % 16)]

def encode (keeps : Char → Bool) (text : List Char) : List Char :=
  text.flatMap fun char => if keeps char then [char] else (String.utf8EncodeChar char).flatMap percent

variable (char : Char)

/-- What is kept in every part: no control, no blank, nothing beyond ASCII, and none of the characters that quote. -/
def keepsAll : Bool := 0x21 ≤ char.val && char.val ≤ 0x7E && decide (char ∉ ['"','<','>'])

def keepsPath : Bool := keepsAll char && decide (char ∉ ['#','?','^',Char.ofNat 0x60,'{','}'])
def keepsQuery : Bool := keepsAll char && decide (char ∉ ['#','\''])
def keepsFragment : Bool := keepsAll char && decide (char ≠ Char.ofNat 0x60)

/-! ### Segments -/

def slash : Bool := char = '/' || char = '\\'

def isDot (segment : List Char) : Bool := ["." ,"%2e"].contains (String.ofList (segment.map Char.toLower))
def isDots (segment : List Char) : Bool :=
  ["..",".%2e","%2e.","%2e%2e"].contains (String.ofList (segment.map Char.toLower))

/-- The segments after those that are taken already; a path that ends with dots ends with an empty segment. -/
def normalize (taken : List (List Char)) : List (List Char) → List (List Char)
  | [] => taken
  | segment::rest =>
    let next := if isDots segment then taken.dropLast else if isDot segment then taken else taken ++ [segment]
    if rest = [] ∧ (isDots segment ∨ isDot segment) then next ++ [[]] else normalize next rest

/-! ### References -/

structure Location (ω : Type) where
  origin : ω
  path : List (List Char)
  query : Option (List Char)
  fragment : Option (List Char)

def ends : Bool := char = '?' || char = '#'

def afterMark (mark : Char) : List Char → Option (List Char)
  | char::rest => if char = mark then some rest else none
  | [] => none

/-- Reads a path from after its first slash on, and what follows it. -/
def locate {ω : Type} (origin : ω) (text : List Char) : Location ω where
  origin := origin
  path := normalize [] (((text.takeWhile (!ends ·)).splitOnP slash).map (encode keepsPath))
  query := (afterMark '?' (text.dropWhile (!ends ·))).map fun query => encode keepsQuery (query.takeWhile (· ≠ '#'))
  fragment := (afterMark '#' (text.dropWhile (· ≠ '#'))).map (encode keepsFragment)

def blank : Bool := char.val ≤ 0x20

def clean (text : List Char) : List Char :=
  ((text.dropWhile blank).rdropWhile blank).filter fun char => char ≠ '\t' ∧ char ≠ '\n' ∧ char ≠ '\r'

/-- After a first slash, a second one begins the name of another host. -/
def afterSlash {ω : Type} (host : ω → List Char → Option ω) (base : ω) (text : List Char) : Option (Location ω) :=
  if text.head?.any slash then
    let rest := text.dropWhile slash
    let after := rest.dropWhile fun char => !slash char && !ends char
    (host base (rest.takeWhile fun char => !slash char && !ends char)).map fun origin =>
      locate origin (if after.head?.any slash then after.tail else after)
  else some (locate base text)

/-- Resolves a reference that begins with a slash. -/
def resolve {ω : Type} (host : ω → List Char → Option ω) (base : ω) (reference : List Char) : Option (Location ω) :=
  match clean reference with
  | '/'::text => afterSlash host base text
  | _ => none

def Location.pathname {ω : Type} (location : Location ω) : List Char := location.path.flatMap ('/'::·)

/-- A part after its mark; an empty one is not written. -/
def part (mark : Char) : Option (List Char) → List Char
  | none | some [] => []
  | some text => mark::text

def Location.search {ω : Type} (location : Location ω) : List Char := part '?' location.query
def Location.hash {ω : Type} (location : Location ω) : List Char := part '#' location.fragment

def Location.written {ω : Type} (location : Location ω) : List Char := location.pathname ++ location.search ++ location.hash

/-! ### What is written -/

variable {keeps : Char → Bool} {taken segments : List (List Char)} {text : List Char}

theorem encode_kept (kept : ∀ char ∈ text, keeps char = true) : encode keeps text = text := by
  have single : encode keeps text = text.flatMap fun char => [char] :=
    List.flatMap_congr fun char inside => if_pos (kept char inside)
  rw [single,List.flatMap_singleton']

theorem percent_kept (digits : "%0123456789ABCDEF".toList.all keeps = true) (byte : UInt8) :
    ∀ char ∈ percent byte, keeps char = true := by
  have digit (number : Nat) : hexDigit number ∈ "%0123456789ABCDEF".toList := by
    unfold hexDigit
    cases found : "0123456789ABCDEF".toList[number]? with
    | none => decide
    | some char => exact List.mem_cons_of_mem _ (List.mem_of_getElem? found)
  unfold percent
  intro char inside
  simp only [List.mem_cons,List.not_mem_nil,or_false] at inside
  obtain rfl | rfl | rfl := inside
  · exact List.all_eq_true.mp digits _ (by decide)
  · exact List.all_eq_true.mp digits _ (digit _)
  · exact List.all_eq_true.mp digits _ (digit _)

theorem encode_keeps (digits : "%0123456789ABCDEF".toList.all keeps = true) (text : List Char) :
    ∀ char ∈ encode keeps text, keeps char = true := by
  intro char inside
  obtain ⟨read,-,there⟩ := List.mem_flatMap.mp inside
  split at there
  · rename_i kept
    rwa [List.mem_singleton.mp there]
  · obtain ⟨byte,-,there⟩ := List.mem_flatMap.mp there
    exact percent_kept digits byte char there

/-- Neither kind of dot. -/
def Plain (segment : List Char) : Prop := isDot segment = false ∧ isDots segment = false

theorem normalize_plain {segments : List (List Char)} (plain : ∀ segment ∈ segments, Plain segment) (taken : List (List Char)) :
    normalize taken segments = taken ++ segments := by
  induction segments generalizing taken with
  | nil => rw [normalize,List.append_nil]
  | cons segment rest ih =>
    obtain ⟨single,double⟩ := plain segment List.mem_cons_self
    rw [normalize]
    simp only [single,double,Bool.false_eq_true,or_self,and_false,if_false]
    rw [ih fun other inside => plain other (List.mem_cons_of_mem _ inside),List.append_assoc]
    rfl

theorem normalize_of {P : List Char → Prop} (empty : P []) (before : ∀ segment ∈ taken, P segment)
    (each : ∀ segment ∈ segments, Plain segment → P segment) : ∀ segment ∈ normalize taken segments, P segment := by
  induction segments generalizing taken with
  | nil => rwa [normalize]
  | cons segment rest ih =>
    have next : ∀ other ∈ (if isDots segment then taken.dropLast else if isDot segment then taken else taken ++ [segment]), P other := by
      intro other inside
      split at inside
      · exact before other ((List.dropLast_sublist _).mem inside)
      · split at inside
        · exact before other inside
        · rename_i double single
          rcases List.mem_append.mp inside with there | here
          · exact before other there
          · rw [List.mem_singleton.mp here]
            exact each segment List.mem_cons_self ⟨by simpa using single,by simpa using double⟩
    rw [normalize]
    split
    · intro other inside
      rcases List.mem_append.mp inside with there | here
      · exact next other there
      · rwa [List.mem_singleton.mp here]
    · exact ih next fun other inside => each other (List.mem_cons_of_mem _ inside)

theorem normalize_ne_nil (some_ : segments ≠ []) : normalize taken segments ≠ [] := by
  induction segments generalizing taken with
  | nil => exact absurd rfl some_
  | cons segment rest ih =>
    rw [normalize]
    split
    · simp
    · rename_i stays
      rcases rest.eq_nil_or_concat with rfl | ⟨_,_,rfl⟩
      · rw [normalize]
        simp_all
      · exact ih (by simp)

/-- A location whose parts stay as they are when they are read again. -/
structure Normal {ω : Type} (location : Location ω) : Prop where
  some_ : location.path ≠ []
  plain : ∀ segment ∈ location.path, Plain segment
  path : ∀ segment ∈ location.path, ∀ char ∈ segment, keepsPath char = true ∧ slash char = false
  query : ∀ query ∈ location.query, ∀ char ∈ query, keepsQuery char = true
  fragment : ∀ fragment ∈ location.fragment, ∀ char ∈ fragment, keepsFragment char = true

theorem splitOnP_apart {apart : Char → Bool} (text : List Char) : ∀ segment ∈ text.splitOnP apart, ∀ char ∈ segment, apart char = false := by
  induction text with
  | nil => simp
  | cons char text ih =>
    rw [List.splitOnP_cons_eq_if_modifyHead]
    split
    · exact List.forall_mem_cons.mpr ⟨by simp,ih⟩
    · rename_i other
      obtain ⟨first,rest,split⟩ := List.exists_cons_of_ne_nil (List.splitOnP_ne_nil apart text)
      rw [split] at ih ⊢
      obtain ⟨first_,rest_⟩ := List.forall_mem_cons.mp ih
      refine List.forall_mem_cons.mpr ⟨List.forall_mem_cons.mpr ⟨by simpa using other,first_⟩,rest_⟩

theorem encode_slash (apart : ∀ char ∈ text, slash char = false) :
    ∀ char ∈ encode keepsPath text, keepsPath char = true ∧ slash char = false := by
  intro char inside
  refine ⟨encode_keeps (by decide) text char inside,?_⟩
  obtain ⟨read,there,made⟩ := List.mem_flatMap.mp inside
  split at made
  · rw [List.mem_singleton.mp made]
    exact apart read there
  · obtain ⟨byte,-,made⟩ := List.mem_flatMap.mp made
    have digit := @percent_kept (fun char => !slash char) (by decide) byte char made
    simpa using digit

theorem normal_locate {ω : Type} (origin : ω) (text : List Char) : Normal (locate origin text) where
  some_ := normalize_ne_nil (by simp)
  plain := normalize_of ⟨by decide,by decide⟩ (by simp) fun _ _ plain => plain
  path := by
    refine normalize_of (P := fun segment => ∀ char ∈ segment, keepsPath char = true ∧ slash char = false) (by simp) (by simp) ?_
    intro segment inside _
    obtain ⟨read,there,rfl⟩ := List.mem_map.mp inside
    exact encode_slash (splitOnP_apart _ read there)
  query := by
    intro query found
    obtain ⟨read,-,rfl⟩ := Option.map_eq_some_iff.mp found
    exact encode_keeps (by decide) _
  fragment := by
    intro fragment found
    obtain ⟨read,-,rfl⟩ := Option.map_eq_some_iff.mp found
    exact encode_keeps (by decide) _

/-! ### Reading what is written -/

section
variable {ω : Type} {location : Location ω}

theorem split_path {segments : List (List Char)} (some_ : segments ≠ []) (apart : ∀ segment ∈ segments, ∀ char ∈ segment, slash char = false) :
    ∃ text, segments.flatMap ('/'::·) = '/'::text ∧ text.splitOnP slash = segments ∧ ∀ char ∈ text.head?, slash char = true → char = '/' := by
  induction segments with
  | nil => exact absurd rfl some_
  | cons segment rest ih =>
    obtain ⟨first,others⟩ := List.forall_mem_cons.mp apart
    by_cases last : rest = []
    · subst last
      refine ⟨segment,by simp,List.splitOnP_eq_singleton first,fun char head slashes => ?_⟩
      rw [first char (List.mem_of_mem_head? head)] at slashes
      cases slashes
    · obtain ⟨text,written,split,-⟩ := ih last others
      refine ⟨segment ++ '/'::text,?_,?_,fun char head slashes => ?_⟩
      · rw [List.flatMap_cons,written,List.cons_append]
      · rw [List.splitOnP_append_cons_of_forall_mem first '/' rfl,split]
      · cases segment with
        | nil => exact (Option.some.inj head).symm
        | cons other segment =>
          rw [← Option.some.inj head,first other List.mem_cons_self] at slashes
          cases slashes

variable {text : List Char}

theorem clean_dark (dark : ∀ char ∈ text, 0x21 ≤ char.val) : clean text = text := by
  have unblank : ∀ char ∈ text, blank char = false := fun char inside => by
    have shown := dark char inside
    unfold blank
    rw [UInt32.le_iff_toNat_le] at shown
    rw [decide_eq_false_iff_not,UInt32.le_iff_toNat_le]
    exact fun low => absurd (shown.trans low) (by decide)
  have front : text.dropWhile blank = text := by
    cases text with
    | nil => rfl
    | cons char text => exact List.dropWhile_cons_of_neg (by rw [unblank char List.mem_cons_self]; decide)
  have back : text.rdropWhile blank = text :=
    List.rdropWhile_eq_self_iff.mpr fun some_ => by rw [unblank _ (List.getLast_mem some_)]; decide
  unfold clean
  rw [front,back,List.filter_eq_self]
  intro char inside
  have shown := dark char inside
  refine decide_eq_true ⟨?_,?_,?_⟩ <;> rintro rfl <;> exact absurd shown (by decide)

theorem dark_of_keeps {char : Char} (kept : keepsAll char = true) : 0x21 ≤ char.val := by
  simp only [keepsAll,Bool.and_eq_true,decide_eq_true_eq] at kept
  exact kept.1.1

/-- The location begins like the name of another host. -/
def Doubled (location : Location ω) : Prop := ['/','/'] <+: location.pathname

theorem part_cases (mark : Char) (text : Option (List Char)) : part mark text = [] ∧ text.filter (· ≠ []) = none ∨
    ∃ found, text = some found ∧ part mark text = mark::found ∧ text.filter (· ≠ []) = some found := by
  match text with
  | none => exact .inl ⟨rfl,rfl⟩
  | some [] => exact .inl ⟨rfl,rfl⟩
  | some (char::rest) => exact .inr ⟨_,rfl,rfl,rfl⟩

theorem part_dark {mark : Char} (shown : 0x21 ≤ mark.val) {text : Option (List Char)}
    (dark : ∀ found ∈ text, ∀ char ∈ found, 0x21 ≤ char.val) : ∀ char ∈ part mark text, 0x21 ≤ char.val := by
  rcases part_cases mark text with ⟨empty,-⟩ | ⟨found,there,written,-⟩
  · simp [empty]
  · rw [written]
    exact List.forall_mem_cons.mpr ⟨shown,dark found there⟩

theorem written_dark (normal : Normal location) : ∀ char ∈ location.written, 0x21 ≤ char.val := by
  have query := @part_dark '?' (by decide) _ fun found there char inside =>
    dark_of_keeps (Bool.and_eq_true_iff.mp (normal.query found there char inside)).1
  have fragment := @part_dark '#' (by decide) _ fun found there char inside =>
    dark_of_keeps (Bool.and_eq_true_iff.mp (normal.fragment found there char inside)).1
  intro char inside
  rcases List.mem_append.mp inside with front | last
  · rcases List.mem_append.mp front with path | middle
    · obtain ⟨segment,there,inside⟩ := List.mem_flatMap.mp path
      rcases List.mem_cons.mp inside with rfl | inside
      · decide
      · exact dark_of_keeps (Bool.and_eq_true_iff.mp (normal.path segment there char inside).1).1
    · exact query char middle
  · exact fragment char last

theorem takeWhile_until {stays : Char → Bool} {text rest : List Char} (all : ∀ char ∈ text, stays char = true)
    (stop : ∀ char ∈ rest.head?, stays char = false) :
    (text ++ rest).takeWhile stays = text ∧ (text ++ rest).dropWhile stays = rest := by
  rw [List.takeWhile_append_of_pos all,List.dropWhile_append_of_pos all]
  cases rest with
  | nil => simp
  | cons char rest => simp [stop char rfl]

theorem afterMark_part {mark : Char} (text : Option (List Char)) {rest : List Char} (other : rest.head? ≠ some mark) :
    afterMark mark (part mark text ++ rest) = (text.filter (· ≠ [])).map (· ++ rest) := by
  rcases part_cases mark text with ⟨empty,same⟩ | ⟨found,-,written,same⟩
  · rw [empty,same,List.nil_append,Option.map_none]
    cases rest with
    | nil => rfl
    | cons char rest => exact if_neg fun marked => other (congrArg some marked)
  · rw [written,same]
    exact if_pos rfl

theorem part_head (mark : Char) (text : Option (List Char)) : ∀ char ∈ (part mark text).head?, char = mark := by
  rcases part_cases mark text with ⟨empty,-⟩ | ⟨found,-,written,-⟩
  · simp [empty]
  · simp [written]

theorem locate_written (origin : ω) (normal : Normal location) (split : text.splitOnP slash = location.path)
    (plain : ∀ char ∈ text, ends char = false) : locate origin (text ++ (location.search ++ location.hash)) =
      ⟨origin,location.path,location.query.filter (· ≠ []),location.fragment.filter (· ≠ [])⟩ := by
  have unmarked : ∀ query ∈ location.query, ∀ char ∈ query, decide (char ≠ '#') = true := by
    intro query found char inside
    have kept := (Bool.and_eq_true_iff.mp (normal.query query found char inside)).2
    rw [decide_eq_true_eq]
    rintro rfl
    exact absurd kept (by decide)
  have marked : ∀ char ∈ location.hash.head?, decide (char ≠ '#') = false := fun char head => by
    rw [part_head _ _ char head]
    rfl
  have stop : ∀ char ∈ (location.search ++ location.hash).head?, (!ends char) = false := by
    intro char head
    rw [List.head?_append,Option.mem_def,Option.or_eq_some_iff] at head
    rcases head with query | ⟨-,fragment⟩
    · rw [part_head _ _ char query]
      rfl
    · rw [part_head _ _ char fragment]
      rfl
  have before : ∀ char ∈ text ++ location.search, decide (char ≠ '#') = true := by
    intro char inside
    rcases List.mem_append.mp inside with there | there
    · rw [decide_eq_true_eq]
      rintro rfl
      cases plain '#' there
    · unfold Location.search at there
      rcases part_cases '?' location.query with ⟨empty,-⟩ | ⟨query,found,written,-⟩
      · rw [empty] at there
        cases there
      · rw [written] at there
        exact List.forall_mem_cons.mpr ⟨by decide,unmarked query found⟩ char there
  have path : normalize [] (location.path.map (encode keepsPath)) = location.path := by
    have same : location.path.map (encode keepsPath) = location.path.map id :=
      List.map_congr_left fun segment there => encode_kept fun char inside => (normal.path segment there char inside).1
    rw [same,List.map_id,normalize_plain normal.plain,List.nil_append]
  have query : (afterMark '?' (location.search ++ location.hash)).map (fun query => encode keepsQuery (query.takeWhile (· ≠ '#'))) =
      location.query.filter (· ≠ []) := by
    have other : location.hash.head? ≠ some '?' := fun head => absurd (part_head _ _ _ head) (by decide)
    rw [Location.search,afterMark_part _ other,Option.map_map]
    refine (Option.map_congr fun found there => ?_).trans Option.map_id'
    have known := (Option.mem_filter_iff.mp there).1
    rw [Function.comp_apply,(takeWhile_until (unmarked found known) marked).1,encode_kept (normal.query found known)]
  have fragment : (afterMark '#' location.hash).map (encode keepsFragment) = location.fragment.filter (· ≠ []) := by
    have read := @afterMark_part '#' location.fragment [] (by simp)
    rw [List.append_nil] at read
    rw [Location.hash,read,Option.map_map]
    refine (Option.map_congr fun found there => ?_).trans Option.map_id'
    rw [Function.comp_apply,List.append_nil,encode_kept (normal.fragment found (Option.mem_filter_iff.mp there).1)]
  obtain ⟨front,back⟩ := takeWhile_until (fun char inside => by rw [plain char inside]; rfl) stop
  unfold locate
  rw [front,back,split,path,query,← List.append_assoc,(takeWhile_until before marked).2,fragment]

theorem written_local (normal : Normal location) (single : ¬ Doubled location) : ∃ text, location.written = '/'::text ∧
    text.head?.any slash = false ∧
    ∀ origin : ω, locate origin text = ⟨origin,location.path,location.query.filter (· ≠ []),location.fragment.filter (· ≠ [])⟩ := by
  obtain ⟨text,written,split,first⟩ := split_path normal.some_ fun segment there char inside => (normal.path segment there char inside).2
  have plain : ∀ char ∈ text, ends char = false := by
    intro char inside
    have there : char ∈ location.path.flatMap ('/'::·) := written ▸ List.mem_cons_of_mem _ inside
    obtain ⟨segment,listed,inside⟩ := List.mem_flatMap.mp there
    rcases List.mem_cons.mp inside with rfl | inside
    · decide
    · have kept := (Bool.and_eq_true_iff.mp (normal.path segment listed char inside).1).2
      cases wrong : ends char with
      | false => rfl
      | true =>
        simp only [ends,Bool.or_eq_true,decide_eq_true_eq] at wrong
        rcases wrong with rfl | rfl <;> exact absurd kept (by decide)
  have whole : location.written = '/'::(text ++ (location.search ++ location.hash)) := by
    rw [Location.written,Location.pathname,written,List.append_assoc,List.cons_append]
  refine ⟨_,whole,?_,fun origin => locate_written origin normal split plain⟩
  rw [Option.any_eq_false]
  intro char head
  cases slashes : slash char with
  | false => rfl
  | true =>
    refine absurd ?_ single
    rw [List.head?_append,Option.or_eq_some_iff] at head
    rcases head with here | ⟨-,head⟩
    · obtain rfl := first char here slashes
      obtain ⟨rest,rfl⟩ := List.head?_eq_some_iff.mp here
      exact ⟨rest,by rw [Location.pathname,written]; rfl⟩
    · rw [List.head?_append,Option.or_eq_some_iff] at head
      rcases head with head | ⟨-,head⟩ <;> rw [part_head _ _ char head] at slashes <;> cases slashes

theorem resolve_written (host : ω → List Char → Option ω) (base : ω) (normal : Normal location) (single : ¬ Doubled location) :
    resolve host base location.written = some ⟨base,location.path,location.query.filter (· ≠ []),location.fragment.filter (· ≠ [])⟩ := by
  obtain ⟨text,written,local_,located⟩ := written_local normal single
  unfold resolve
  rw [clean_dark (written_dark normal),written]
  change afterSlash host base text = _
  rw [afterSlash,local_,if_neg Bool.false_ne_true,located]

end

end Library.Url
