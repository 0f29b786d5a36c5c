import AgentOS.Artifacts.Keys

/-! The objects that one batch process of git prints, as they are read back. -/
namespace AgentOS.GitBatch

/-- The bytes that one buffer of the language holds. -/
structure Buffer where
  bytes : List UInt8
  fits : bytes.length ≤ 9007199254740991

def malformedBatch : Fault := .error "git cat-file batch output is malformed"

/-- A byte as the language decodes it from ASCII, which leaves out its top bit. -/
def asciiChar (byte : UInt8) : Char := Char.ofNat (byte.toNat % 128)

def hexDigit (char : Char) : Bool := char.isDigit || ('a' ≤ char && char ≤ 'f')
def typeChar (char : Char) : Bool := ('a' ≤ char && char ≤ 'z') || char = '-'

/-- `/^([0-9a-f]{40}) ([a-z-]+) ([0-9]+)$/` -/
def matchHeader (header : List Char) : Option (List Char × List Char × List Char) :=
  match header.drop 40 with
  | ' '::rest =>
    match rest.dropWhile typeChar with
    | ' '::digits =>
      if (header.take 40).all hexDigit ∧ rest.takeWhile typeChar ≠ [] ∧ digits ≠ [] ∧ digits.all Char.isDigit then
        some (header.take 40,rest.takeWhile typeChar,digits)
      else none
    | _ => none
  | _ => none

/-- The bytes before the first line feed, and those after it. -/
def splitLine : List UInt8 → Option (List UInt8 × List UInt8)
  | [] => none
  | byte::rest => if byte = 10 then some ([],rest) else (splitLine rest).map fun line => (byte::line.1,line.2)

/-- Reads the objects expected from what is left of the output after an offset. -/
def parseRecords : List String → Nat → List UInt8 → Except Fault (List (List UInt8))
  | [], _, rest => if rest = [] then .ok [] else .error malformedBatch
  | expected::ids, offset, rest =>
    match splitLine rest with
    | none => .error malformedBatch
    | some (header,body) =>
      if header.length > 128 then .error malformedBatch
      else match matchHeader (header.map asciiChar) with
        | none => .error malformedBatch
        | some (objectId,type,digits) =>
          let size := Artifacts.numberOf digits
          let bodyEnd := offset + header.length + 1 + size
          if String.ofList objectId ≠ expected ∨ String.ofList type ≠ "blob" ∨ isSafeInteger size = false ∨
              isSafeInteger bodyEnd = false ∨ body[size]? ≠ some 10 then .error malformedBatch
          else (parseRecords ids (bodyEnd + 1) (body.drop (size + 1))).map fun blobs => body.take size::blobs

def parseGitBlobBatch (output : Buffer) (expectedObjectIds : List String) : Except Fault (List (List UInt8)) :=
  parseRecords expectedObjectIds 0 output.bytes

/-! ### Records -/

structure Record where
  header : List UInt8
  blob : List UInt8

def Record.bytes (record : Record) : List UInt8 := record.header ++ 10::(record.blob ++ [10])

def concatenated (records : List Record) : List UInt8 := records.flatMap Record.bytes

def isObjectId (id : String) : Prop := id.toList.length = 40 ∧ id.toList.all hexDigit = true

/-- The text says that a blob of the size follows under the id; its size may start with zeros. -/
def Heads (id : String) (size : Nat) (text : List Char) : Prop :=
  isObjectId id ∧ ∃ digits, text = id.toList ++ " blob ".toList ++ digits ∧ digits ≠ [] ∧ digits.all Char.isDigit = true ∧
    Artifacts.numberOf digits = size

/-- The bytes of a text of ASCII. -/
def asciiBytes (text : List Char) : List UInt8 := text.map fun char => UInt8.ofNat char.toNat

/-- What git prints for an object. -/
def printed (id : String) (blob : List UInt8) : Record :=
  ⟨asciiBytes (id.toList ++ " blob ".toList ++ (toString blob.length).toList),blob⟩

/-- The record as the claimed id's, after its header is decoded. -/
def Reads (id : String) (record : Record) : Prop :=
  record.header.length ≤ 128 ∧ Heads id record.blob.length (record.header.map asciiChar)

theorem matchHeader_ok {header objectId type digits : List Char} : matchHeader header = some (objectId,type,digits) ↔
    header = objectId ++ ' '::(type ++ ' '::digits) ∧ objectId.length = 40 ∧ objectId.all hexDigit = true ∧ type ≠ [] ∧
      type.all typeChar = true ∧ digits ≠ [] ∧ digits.all Char.isDigit = true := by
  constructor
  · intro matched
    unfold matchHeader at matched
    split at matched
    · rename_i rest dropped
      split at matched
      · rename_i after kind
        split at matched
        · rename_i checks
          cases matched
          have whole : header.take 40 ++ ' '::(rest.takeWhile typeChar ++ ' '::digits) = header := by
            rw [← kind,List.takeWhile_append_dropWhile,← dropped,List.take_append_drop]
          refine ⟨whole.symm,?_,checks.1,checks.2.1,?_,checks.2.2.1,checks.2.2.2⟩
          · have size : (header.drop 40).length ≠ 0 := by rw [dropped]; simp
            rw [List.length_drop] at size
            rw [List.length_take]
            omega
          · exact List.all_takeWhile
        · cases matched
      · cases matched
    · cases matched
  · intro ⟨whole,size,hex,some_,kind,digits_,decimal⟩
    subst whole
    have dropped : (objectId ++ ' '::(type ++ ' '::digits)).drop 40 = ' '::(type ++ ' '::digits) := by
      rw [← size,List.drop_left]
    have taken : (objectId ++ ' '::(type ++ ' '::digits)).take 40 = objectId := by rw [← size,List.take_left]
    have each : ∀ char ∈ type, typeChar char = true := List.all_eq_true.mp kind
    have run : (type ++ ' '::digits).takeWhile typeChar = type := by
      rw [List.takeWhile_append_of_pos each,List.takeWhile_cons_of_neg (by decide),List.append_nil]
    have rest : (type ++ ' '::digits).dropWhile typeChar = ' '::digits := by
      rw [List.dropWhile_append_of_pos each,List.dropWhile_cons_of_neg (by decide)]
    unfold matchHeader
    rw [dropped]
    simp only [rest,run,taken]
    rw [if_pos ⟨hex,some_,digits_,decimal⟩]

variable {text : List Char} {id : String}

/-- A header that is read has no line feed of its own. -/
theorem Heads.unbroken {size : Nat} {header : List UInt8} (heads : Heads id size (header.map asciiChar)) : 10 ∉ header := by
  intro inside
  obtain ⟨valid,digits,same,_,decimal,_⟩ := heads
  have here : '\n' ∈ id.toList ++ " blob ".toList ++ digits := same ▸ List.mem_map_of_mem inside
  cases List.mem_append.mp here with
  | inl early =>
    cases List.mem_append.mp early with
    | inl named => exact absurd (List.all_eq_true.mp valid.2 _ named) (by decide)
    | inr word => exact absurd word (by decide)
  | inr late => exact absurd (List.all_eq_true.mp decimal _ late) (by decide)

theorem splitLine_ok {bytes line after : List UInt8} :
    splitLine bytes = some (line,after) ↔ bytes = line ++ 10::after ∧ 10 ∉ line := by
  induction bytes generalizing line with
  | nil => simp [splitLine]
  | cons byte rest ih =>
    unfold splitLine
    by_cases feed : byte = 10
    · rw [if_pos feed]
      subst feed
      cases line with
      | nil => simp [eq_comm]
      | cons other line =>
        simp only [Option.some.injEq,Prod.mk.injEq,List.cons_append,List.cons.injEq,List.mem_cons,not_or]
        constructor
        · intro same
          cases same.1
        · intro ⟨⟨same,_⟩,other_,_⟩
          exact absurd same other_
    · rw [if_neg feed,Option.map_eq_some_iff]
      constructor
      · intro ⟨found,split_,same⟩
        cases same
        obtain ⟨whole,plain⟩ := ih.mp split_
        refine ⟨congrArg (byte::·) whole,?_⟩
        intro inside
        cases List.mem_cons.mp inside with
        | inl same => exact feed same.symm
        | inr later => exact plain later
      · intro ⟨whole,plain⟩
        cases line with
        | nil =>
          cases whole
          exact absurd rfl feed
        | cons other line =>
          cases whole
          exact ⟨(line,after),ih.mpr ⟨rfl,fun inside => plain (List.mem_cons_of_mem _ inside)⟩,rfl⟩

variable {blobs : List (List UInt8)} {ids : List String}

/-- The parser accepts exactly the concatenations of records that it reads. -/
theorem parseRecords_ok {offset : Nat} {rest : List UInt8}
    (fits : offset + rest.length ≤ 9007199254740991) : parseRecords ids offset rest = .ok blobs ↔
      ∃ records, rest = concatenated records ∧ blobs = records.map Record.blob ∧ List.Forall₂ Reads ids records := by
  induction ids generalizing offset rest blobs with
  | nil =>
    unfold parseRecords
    constructor
    · intro ended
      split at ended
      · rename_i empty
        cases ended
        exact ⟨[],empty,rfl,.nil⟩
      · cases ended
    · intro ⟨records,same,found,reads⟩
      cases reads
      rw [if_pos (show rest = [] from same),found]
      rfl
  | cons expected ids ih =>
    constructor
    · intro ended
      unfold parseRecords at ended
      split at ended
      · cases ended
      rename_i header body line
      obtain ⟨whole,_⟩ := splitLine_ok.mp line
      split at ended
      · cases ended
      rename_i short
      split at ended
      · cases ended
      rename_i objectId type digits matched
      obtain ⟨text,size,hex,_,_,some_,decimal⟩ := matchHeader_ok.mp matched
      dsimp only at ended
      split at ended
      · cases ended
      rename_i checks
      simp only [not_or,not_not] at checks
      obtain ⟨named,blob,_,_,last⟩ := checks
      cases onward : parseRecords ids (offset + header.length + 1 + Artifacts.numberOf digits + 1)
          (body.drop (Artifacts.numberOf digits + 1)) with
      | error fault =>
        rw [onward] at ended
        cases ended
      | ok later =>
        rw [onward] at ended
        cases ended
        obtain ⟨within,_⟩ := List.getElem?_eq_some_iff.mp last
        have divided : body = body.take (Artifacts.numberOf digits) ++ 10::body.drop (Artifacts.numberOf digits + 1) := by
          conv_lhs => rw [← List.take_append_drop (Artifacts.numberOf digits) body,List.drop_eq_getElem_cons within]
          rw [(List.getElem?_eq_some_iff.mp last).2]
        have room : offset + header.length + 1 + Artifacts.numberOf digits + 1 + (body.drop (Artifacts.numberOf digits + 1)).length ≤
            9007199254740991 := by
          rw [whole,List.length_append,List.length_cons] at fits
          rw [List.length_drop]
          omega
        obtain ⟨records,remaining,found,reads⟩ := (ih room).mp onward
        refine ⟨⟨header,body.take (Artifacts.numberOf digits)⟩::records,?_,congrArg _ found,.cons ⟨?_,?_⟩ reads⟩
        · rw [whole]
          conv_lhs => rw [divided,remaining]
          simp [concatenated,Record.bytes]
        · exact Nat.le_of_not_lt short
        · refine ⟨?_,digits,?_,some_,decimal,?_⟩
          · rw [← named]
            exact ⟨by simpa using size,by simpa using hex⟩
          · rw [text,← named]
            have word : type = "blob".toList := by rw [← blob,String.toList_ofList]
            rw [word,String.toList_ofList]
            simp
          · rw [List.length_take]
            omega
    · intro ⟨records,same,found,reads⟩
      cases reads with
      | @cons _ record _ records first reads =>
        obtain ⟨short,heads⟩ := first
        have unbroken := heads.unbroken
        obtain ⟨valid,digits,text,some_,decimal,size⟩ := heads
        have whole : rest = record.header ++ 10::(record.blob ++ 10::concatenated records) := by
          rw [same]
          simp [concatenated,Record.bytes]
        have matched : matchHeader (record.header.map asciiChar) = some (expected.toList,"blob".toList,digits) := by
          apply matchHeader_ok.mpr
          refine ⟨?_,valid.1,valid.2,by decide,by decide,some_,decimal⟩
          rw [text]
          simp
        have sizes := congrArg List.length whole
        simp only [List.length_append,List.length_cons] at sizes
        have onward : parseRecords ids (offset + record.header.length + 1 + record.blob.length + 1) (concatenated records) =
            .ok (records.map Record.blob) := by
          apply (ih _).mpr ⟨records,rfl,rfl,reads⟩
          omega
        unfold parseRecords
        rw [splitLine_ok.mpr ⟨whole,unbroken⟩]
        dsimp only
        rw [if_neg (Nat.not_lt.mpr short),matched]
        dsimp only
        rw [size,if_neg]
        · rw [List.take_left,List.drop_length_add_append,List.drop_one,List.tail_cons,onward,found]
          rfl
        · have small : isSafeInteger record.blob.length = true ∧
              isSafeInteger ((offset + record.header.length + 1 + record.blob.length : Nat) : Int) = true := by
            simp only [isSafeInteger,Bool.and_eq_true,decide_eq_true_eq]
            omega
          intro bad
          obtain bad | bad | bad | bad | bad := bad
          · exact bad String.ofList_toList
          · exact bad String.ofList_toList
          · exact absurd (small.1.symm.trans bad) (by decide)
          · exact absurd (small.2.symm.trans bad) (by decide)
          · exact bad (by simp)

theorem Heads.plain {size : Nat} (heads : Heads id size text) : ∀ char ∈ text, char.toNat < 128 := by
  intro char inside
  obtain ⟨valid,digits,same,_,decimal,_⟩ := heads
  have low (top : Char) (bound : char ≤ top) (small : top.toNat < 128) : char.toNat < 128 := Nat.lt_of_le_of_lt bound small
  rw [same] at inside
  cases List.mem_append.mp inside with
  | inl early =>
    cases List.mem_append.mp early with
    | inl named =>
      have hex := List.all_eq_true.mp valid.2 _ named
      simp only [hexDigit,Char.isDigit,Bool.or_eq_true,Bool.and_eq_true,decide_eq_true_eq] at hex
      cases hex with
      | inl digit => exact low '9' digit.2 (by decide)
      | inr letter => exact low 'f' letter.2 (by decide)
    | inr word =>
      have each : " blob ".toList.all (fun char => char.toNat < 128) = true := by decide
      exact of_decide_eq_true (List.all_eq_true.mp each char word)
  | inr late =>
    have digit := List.all_eq_true.mp decimal _ late
    simp only [Char.isDigit,Bool.and_eq_true,decide_eq_true_eq] at digit
    exact low '9' digit.2 (by decide)

theorem decoded_asciiBytes (plain : ∀ char ∈ text, char.toNat < 128) : (asciiBytes text).map asciiChar = text := by
  unfold asciiBytes
  rw [List.map_map]
  apply (List.map_congr_left fun char inside => ?_).trans (List.map_id text)
  have bound := plain char inside
  simp only [Function.comp_apply,asciiChar,UInt8.toNat_ofNat',id_eq]
  rw [show char.toNat % 2 ^ 8 % 128 = char.toNat by omega]
  exact Char.ofNat_toNat char

theorem asciiBytes_decoded {bytes : List UInt8} (low : ∀ byte ∈ bytes, byte < 128) : asciiBytes (bytes.map asciiChar) = bytes := by
  unfold asciiBytes
  rw [List.map_map]
  apply (List.map_congr_left fun byte inside => ?_).trans (List.map_id bytes)
  have bound : byte.toNat < 128 := low byte inside
  have valid : byte.toNat.isValidChar := .inl (by omega)
  have back : (Char.ofNat byte.toNat).toNat = byte.toNat := by
    unfold Char.ofNat
    rw [dif_pos valid]
    rfl
  simp only [Function.comp_apply,asciiChar,Nat.mod_eq_of_lt bound,back,UInt8.ofNat_toNat,id_eq]

theorem asciiBytes_low (plain : ∀ char ∈ text, char.toNat < 128) : ∀ byte ∈ asciiBytes text, byte < 128 := by
  intro byte inside
  obtain ⟨char,listed,rfl⟩ := List.mem_map.mp inside
  have bound := plain char listed
  change (UInt8.ofNat char.toNat).toNat < 128
  rw [UInt8.toNat_ofNat']
  omega

/-- What git prints for an object is read as that object. -/
theorem printed_reads {blob : List UInt8} (valid : isObjectId id) (small : blob.length ≤ 9007199254740991) :
    Reads id (printed id blob) := by
  have heads : Heads id blob.length (id.toList ++ " blob ".toList ++ (toString blob.length).toList) := by
    refine ⟨valid,_,rfl,?_,List.all_eq_true.mpr fun _ inside => Library.Joined.digits_of_toString inside,
      Artifacts.numberOf_toString _⟩
    intro empty
    have size : (toString blob.length).length = 0 := by rw [← String.length_toList,empty]; rfl
    exact absurd size (Nat.pos_iff_ne_zero.mp Nat.length_repr_pos)
  refine ⟨?_,(decoded_asciiBytes heads.plain).symm ▸ heads⟩
  have size : (toString blob.length).toList.length ≤ 16 := by
    rw [String.length_toList]
    exact (Nat.length_repr_le_iff (by omega)).mpr (by omega)
  simp only [printed,asciiBytes,List.length_map,List.length_append,valid.1]
  have word : " blob ".toList.length = 6 := by decide
  omega

theorem concatenated_inj {records others : List Record} (plain : ∀ record ∈ records, 10 ∉ record.header)
    (plain' : ∀ record ∈ others, 10 ∉ record.header) (blobs : records.map Record.blob = others.map Record.blob)
    (same : concatenated records = concatenated others) : records = others := by
  induction records generalizing others with
  | nil =>
    cases others with
    | nil => rfl
    | cons => cases blobs
  | cons record records ih =>
    cases others with
    | nil => cases blobs
    | cons other others =>
      rw [List.map_cons,List.map_cons,List.cons.injEq] at blobs
      obtain ⟨blob,blobs⟩ := blobs
      have whole (record : Record) (records : List Record) : concatenated (record::records) =
          record.header ++ 10::(record.blob ++ 10::concatenated records) := by simp [concatenated,Record.bytes]
      rw [whole,whole] at same
      have first := splitLine_ok.mpr ⟨@rfl _ (record.header ++ 10::(record.blob ++ 10::concatenated records)),plain record List.mem_cons_self⟩
      have second := splitLine_ok.mpr ⟨same,plain' other List.mem_cons_self⟩
      rw [first,Option.some.injEq,Prod.mk.injEq,blob] at second
      obtain ⟨header,rest⟩ := second
      have later := (List.cons.inj (List.append_cancel_left rest)).2
      rw [ih (fun one inside => plain one (List.mem_cons_of_mem _ inside))
        (fun one inside => plain' one (List.mem_cons_of_mem _ inside)) blobs later]
      obtain ⟨header_,blob_⟩ := record
      obtain ⟨_,_⟩ := other
      cases header
      cases blob
      rfl

/-- The parser inverts what git prints, and accepts nothing else but further zeros before a size. -/
def Inverts (output : Buffer) (ids : List String) : Prop :=
  (∀ blobs, (∀ id ∈ ids, isObjectId id) → ids.length = blobs.length → output.bytes = concatenated (List.zipWith printed ids blobs) →
    parseGitBlobBatch output ids = .ok blobs) ∧
  ∀ blobs, parseGitBlobBatch output ids = .ok blobs → ∃ records, output.bytes = concatenated records ∧
    blobs = records.map Record.blob ∧
      List.Forall₂ (fun id record => ∃ text, record.header = asciiBytes text ∧ Heads id record.blob.length text) ids records

/-- No header line of the output has a byte with its top bit set. -/
def SevenBit (output : Buffer) (ids : List String) : Prop :=
  ∀ records, output.bytes = concatenated records → List.Forall₂ Reads ids records →
    ∀ record ∈ records, ∀ byte ∈ record.header, byte < 128

theorem parse_ok {output : Buffer} : parseGitBlobBatch output ids = .ok blobs ↔
    ∃ records, output.bytes = concatenated records ∧ blobs = records.map Record.blob ∧ List.Forall₂ Reads ids records :=
  parseRecords_ok (by rw [Nat.zero_add]; exact output.fits)

theorem length_le_concatenated {records : List Record} {record : Record} (inside : record ∈ records) :
    record.blob.length ≤ (concatenated records).length := by
  obtain ⟨before,after,rfl⟩ := List.append_of_mem inside
  simp only [concatenated,List.flatMap_append,List.flatMap_cons,Record.bytes,List.length_append,List.length_cons]
  omega

theorem mem_of_forall₂ {α β : Type} {relates : α → β → Prop} {left : List α} {right : List β} (each : List.Forall₂ relates left right)
    {value : β} (inside : value ∈ right) : ∃ other, relates other value := by
  induction each with
  | nil => cases inside
  | cons first _ ih =>
    cases List.mem_cons.mp inside with
    | inl same => exact ⟨_,same ▸ first⟩
    | inr later => exact ih later

theorem printed_blobs (sizes : ids.length = blobs.length) : (List.zipWith printed ids blobs).map Record.blob = blobs := by
  induction ids generalizing blobs with
  | nil => exact (List.length_eq_zero_iff.mp sizes.symm).symm
  | cons id ids ih =>
    cases blobs with
    | nil => cases sizes
    | cons blob blobs => exact congrArg (blob::·) (ih (Nat.succ.inj sizes))

theorem printed_read (sizes : ids.length = blobs.length)
    (valid : ∀ id ∈ ids, isObjectId id) (small : ∀ blob ∈ blobs, blob.length ≤ 9007199254740991) :
    List.Forall₂ Reads ids (List.zipWith printed ids blobs) := by
  induction ids generalizing blobs with
  | nil => exact .nil
  | cons id ids ih =>
    cases blobs with
    | nil => cases sizes
    | cons blob blobs =>
      apply List.Forall₂.cons (printed_reads (valid id List.mem_cons_self) (small blob List.mem_cons_self))
      exact ih (Nat.succ.inj sizes) (fun other inside => valid other (List.mem_cons_of_mem _ inside))
        fun other inside => small other (List.mem_cons_of_mem _ inside)

/-- Batches of git are read as what they are made of, and what is read is one, exactly as long as no header line has a byte with
its top bit set. -/
theorem batch_inverted_iff (output : Buffer) (ids : List String) : Inverts output ids ↔ SevenBit output ids := by
  constructor
  · intro ⟨_,accepted⟩ records whole reads
    obtain ⟨others,whole',blobs,heads⟩ := accepted _ (parse_ok.mpr ⟨records,whole,rfl,reads⟩)
    have low (record : Record) (inside : record ∈ others) : ∀ byte ∈ record.header, byte < 128 := by
      obtain ⟨id,text,header,here⟩ := mem_of_forall₂ heads inside
      rw [header]
      exact asciiBytes_low here.plain
    have same : records = others := by
      refine concatenated_inj (fun record inside => ?_) (fun record inside => ?_) blobs (whole.symm.trans whole')
      · obtain ⟨id,_,here⟩ := mem_of_forall₂ reads inside
        exact here.unbroken
      · obtain ⟨id,text,header,here⟩ := mem_of_forall₂ heads inside
        rw [← decoded_asciiBytes here.plain,← header] at here
        exact here.unbroken
    rw [same]
    exact low
  · intro plain
    refine ⟨fun blobs valid sizes whole => ?_,fun blobs ended => ?_⟩
    · have small (blob : List UInt8) (inside : blob ∈ blobs) : blob.length ≤ 9007199254740991 := by
        rw [← printed_blobs sizes] at inside
        obtain ⟨record,here,rfl⟩ := List.mem_map.mp inside
        exact (length_le_concatenated here).trans (whole ▸ output.fits)
      exact parse_ok.mpr ⟨_,whole,(printed_blobs sizes).symm,printed_read sizes valid small⟩
    · obtain ⟨records,whole,found,reads⟩ := parse_ok.mp ended
      refine ⟨records,whole,found,?_⟩
      have low := plain records whole reads
      clear whole found plain ended
      induction reads with
      | nil => exact .nil
      | @cons id record _ records first _ ih =>
        refine .cons ⟨record.header.map asciiChar,?_,first.2⟩ (ih fun other inside => low other (List.mem_cons_of_mem _ inside))
        exact (asciiBytes_decoded (low record List.mem_cons_self)).symm

/-- The id's first letter has its top bit set. -/
def garbled : Buffer where
  bytes := (asciiBytes ("a".toList ++ (List.replicate 39 '0') ++ " blob 0".toList)).set 0 225 ++ [10,10]
  fits := by decide

theorem garbled_accepted : ¬ Inverts garbled ["a" ++ String.ofList (List.replicate 39 '0')] := by
  intro ⟨_,accepted⟩
  have parsed : parseGitBlobBatch garbled ["a" ++ String.ofList (List.replicate 39 '0')] = .ok [[]] := by decide +kernel
  obtain ⟨records,whole,_,reads⟩ := accepted _ parsed
  cases reads with
  | @cons _ record _ rest first _ =>
    obtain ⟨text,header,heads⟩ := first
    have high : 225 ∈ record.header := by
      cases named : record.header with
      | nil =>
        rw [concatenated,List.flatMap_cons,Record.bytes,named] at whole
        cases List.head_eq_of_cons_eq whole
      | cons byte others =>
        rw [concatenated,List.flatMap_cons,Record.bytes,named] at whole
        exact List.mem_cons.mpr (.inl (List.head_eq_of_cons_eq whole))
    rw [header] at high
    exact absurd (asciiBytes_low heads.plain 225 high) (by decide)

end AgentOS.GitBatch
