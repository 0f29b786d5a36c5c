import AgentOS.Artifacts.Tokens

/-! Cursors of artifact listings: the last key of a page, signed together with the query whose page it ends. -/
namespace AgentOS.Artifacts.Cursors
open Library Tokens

structure ArtifactCursorQuery where
  scope : ArtifactScope
  artifactPrefix : Option String := none
  limit : Int

def MAX_ARTIFACT_LIST_LIMIT : Int := 1000

/-! ### The codec -/

def isKeyId (value : String) : Bool :=
  value.toList.head?.any Char.isAlphanum && value.toList.all (fun char => char.isAlphanum || char = '_' || char = '-') &&
    decide (value.length ≤ 64)

def cursorKind : TokenKind where
  tag := "aocur1"
  domain := "agentos-artifact-cursor:v1\x00"

def secretBytes (value : KeySecret) : Checked (List UInt8) :=
  if value.read.length < 32 then .error (.other "Artifact cursor secret must contain at least 32 bytes") else .ok value.read

structure ArtifactCursorCodec where
  signing : String × List UInt8
  keys : OrderedMap String (List UInt8)

def configuredKeys (keys : List SigningKey) (known : OrderedMap String (List UInt8)) : Checked (OrderedMap String (List UInt8)) :=
  match keys with
  | [] => .ok known
  | key::keys =>
    if ¬ isKeyId key.keyId then .error (.other "Artifact cursor keyId is invalid")
    else if (known.get? key.keyId).isSome then .error (.other "Duplicate artifact cursor keyId")
    else secretBytes key.secret >>= fun secret => configuredKeys keys (known.set key.keyId secret)

def createArtifactCursorCodec (keys : List SigningKey) : Checked ArtifactCursorCodec :=
  match keys with
  | [] => .error (.other "At least one artifact cursor key is required")
  | signing::others =>
    configuredKeys (signing::others) OrderedMap.empty >>= fun known =>
    .ok {signing := (signing.keyId,(known.get? signing.keyId).getD []),keys := known}

def payloadFields (scope start : String) (limit : Int) (after : String) : List (String × Json) :=
  [("v",.num 1),("queryVersion",.str "artifact-list-v1"),("scope",.str scope),("prefix",.str start),("limit",.num limit),
    ("after",.str after)]

def payload (query : ArtifactCursorQuery) (after : String) : Checked Json :=
  parseArtifactKey after >>= fun _ =>
  artifactKeyMatchesScope after query.scope >>= fun within =>
  if ¬ within then .error (.validation "artifact cursor is outside the requested scope")
  else
    artifactScopePrefix query.scope >>= fun scope =>
    .ok (.obj (payloadFields scope (query.artifactPrefix.getD "") query.limit after))

variable (hmac : Hmac)

def ArtifactCursorCodec.encode (codec : ArtifactCursorCodec) (query : ArtifactCursorQuery) (after : String) : Checked String :=
  payload query after >>= fun value => .ok (cursorKind.token hmac codec.signing.1 codec.signing.2 value.stringify)

def invalidCursor : StorageError := .validation "artifact list cursor is invalid for this query"

def ArtifactCursorCodec.read (codec : ArtifactCursorCodec) (query : ArtifactCursorQuery) (cursor : String) : Option String :=
  if 2048 < utf16Length cursor then none
  else
    cursorKind.accept hmac codec.keys.get? cursor >>= fun encoded =>
    decodePart encoded >>= fun bytes =>
    if 1536 < bytes.length then none
    else
      decodeText bytes >>= fun text =>
      Json.parse text >>= fun value =>
      let after := ((value.field? "after").bind Json.string?).getD ""
      match payload query after with
      | .error _ => none
      | .ok expected => if value.stringify ≠ expected.stringify then none else some after

def ArtifactCursorCodec.decode (codec : ArtifactCursorCodec) (query : ArtifactCursorQuery) (cursor : Option String) :
    Checked (Option String) :=
  match cursor with
  | none => .ok none
  | some cursor => match codec.read hmac query cursor with
    | none => .error invalidCursor
    | some after => .ok (some after)

def isCursor (cursor : String) : Bool :=
  decide (1 ≤ utf16Length cursor ∧ utf16Length cursor ≤ 2048) &&
    cursor.toList.all fun char => char.isAlphanum || char = '_' || char = '.' || char = '-'

/-! ### Queries and positions -/

structure Listable (query : ArtifactCursorQuery) : Prop where
  scope : ScopeValid query.scope
  start : ∀ start ∈ query.artifactPrefix, isSegment start = true
  limit : 1 ≤ query.limit ∧ query.limit ≤ MAX_ARTIFACT_LIST_LIMIT

structure Position (query : ArtifactCursorQuery) (after : String) : Prop where
  key : ∃ parts : KeyParts, parts.Valid ∧ parts.keyText = after ∧ parts.toArtifactScope = query.scope

theorem payload_ok_iff {query : ArtifactCursorQuery} {after : String} {value : Json} : payload query after = .ok value ↔
    Position query after ∧ value = .obj (payloadFields (scopeText query.scope) (query.artifactPrefix.getD "") query.limit after) := by
  unfold payload
  simp only [bind_ok,parseArtifactKey_ok_iff,artifactKeyMatchesScope_ok_iff]
  constructor
  · intro ⟨_,_,within,⟨parts,valid,same,held,matched⟩,ok⟩
    subst matched
    split at ok
    · cases ok
    rename_i inside
    obtain ⟨scope,prefixed,ok⟩ := bind_ok.mp ok
    obtain ⟨_,rfl⟩ := artifactScopePrefix_ok_iff.mp prefixed
    cases ok
    exact ⟨⟨parts,valid,same,of_decide_eq_true (not_not.mp inside)⟩,rfl⟩
  · intro ⟨⟨parts,valid,same,matched⟩,made⟩
    refine ⟨parts,⟨valid,same⟩,true,⟨parts,valid,same,matched ▸ valid.toScopeValid,(decide_eq_true matched).symm⟩,?_⟩
    rw [if_neg (not_not.mpr rfl)]
    refine bind_ok.mpr ⟨_,artifactScopePrefix_ok_iff.mpr ⟨matched ▸ valid.toScopeValid,rfl⟩,?_⟩
    rw [made]

/-! ### Keys -/

theorem configuredKeys_ok {keys : List SigningKey} {known found : OrderedMap String (List UInt8)}
    (ok : configuredKeys keys known = .ok found) : (∀ keyId secret, known.get? keyId = some secret → found.get? keyId = some secret) ∧
      ∀ key ∈ keys, isKeyId key.keyId = true ∧ ∃ secret, found.get? key.keyId = some secret := by
  induction keys generalizing known with
  | nil =>
    cases ok
    exact ⟨fun _ _ held => held,List.forall_mem_nil _⟩
  | cons key keys ih =>
    unfold configuredKeys at ok
    split at ok
    · cases ok
    rename_i named
    split at ok
    · cases ok
    rename_i fresh
    obtain ⟨secret,_,ok⟩ := bind_ok.mp ok
    obtain ⟨kept,later⟩ := ih ok
    refine ⟨?_,?_⟩
    · intro other held known'
      apply kept
      have apart : other ≠ key.keyId := by
        intro same
        rw [← same,known'] at fresh
        exact fresh rfl
      rw [OrderedMap.get?_set,if_neg apart]
      exact known'
    · intro key' inside
      obtain rfl | inside' := List.mem_cons.mp inside
      · refine ⟨not_not.mp named,secret,kept _ _ ?_⟩
        rw [OrderedMap.get?_set,if_pos rfl]
      · exact later key' inside'

theorem codec_knows {keys : List SigningKey} {codec : ArtifactCursorCodec} (created : createArtifactCursorCodec keys = .ok codec) :
    isKeyId codec.signing.1 = true ∧ codec.keys.get? codec.signing.1 = some codec.signing.2 := by
  cases keys with
  | nil => cases created
  | cons signing others =>
    obtain ⟨known,configured,made⟩ := bind_ok.mp created
    obtain ⟨named,secret,held⟩ := (configuredKeys_ok configured).2 signing List.mem_cons_self
    cases made
    refine ⟨named,?_⟩
    dsimp only
    rw [held]
    rfl

theorem keyId_chars {value : String} (named : isKeyId value = true) :
    '.' ∉ value.toList ∧ utf16Length value ≤ 64 ∧ value.toList.all (fun char => char.isAlphanum || char = '_' || char = '-') = true := by
  simp only [isKeyId,Bool.and_eq_true,decide_eq_true_eq] at named
  obtain ⟨⟨_,chars⟩,length⟩ := named
  have each := List.all_eq_true.mp chars
  refine ⟨?_,?_,chars⟩
  · intro dot
    exact absurd (each '.' dot) (by decide)
  · rw [utf16Length_plain,String.length_toList]
    · exact length
    · intro char inside
      apply segmentChar_plain
      have allowed := each char inside
      simp only [segmentChar,Bool.or_eq_true,decide_eq_true_eq] at allowed ⊢
      tauto

/-! ### Payloads -/

def fieldNames : List String := ["v","queryVersion","scope","prefix","limit","after"]

theorem payload_readable (scope start : String) (limit : Int) (after : String) :
    Json.Readable (.obj (payloadFields scope start limit after)) := by
  have names : (payloadFields scope start limit after).map Prod.fst = fieldNames := rfl
  have named : fieldNames.all (fun name => (Json.arrayIndex name).isNone) = true := by decide +kernel
  apply Json.Readable.obj
  · intro field inside
    unfold payloadFields at inside
    simp only [List.mem_cons,List.not_mem_nil,or_false] at inside
    obtain rfl | rfl | rfl | rfl | rfl | rfl := inside
    · exact .num _
    · exact .str _
    · exact .str _
    · exact .str _
    · exact .num _
    · exact .str _
  · rw [names]
    decide
  · intro field inside
    have listed : field.1 ∈ fieldNames := names ▸ List.mem_map_of_mem inside
    exact Option.isNone_iff_eq_none.mp (List.all_eq_true.mp named _ listed)

theorem plain_of_segment {char : Char} (allowed : segmentChar char = true) : Json.plainChar char = true := by
  simp only [segmentChar,Bool.or_eq_true,decide_eq_true_eq] at allowed
  obtain ((letter | rfl) | rfl) | rfl := allowed
  · exact Json.plain_of_alphanum letter
  · decide
  · decide
  · decide

theorem quoted_plain {text : String} (plain : ∀ char ∈ text.toList, Json.plainChar char = true) :
    byteLength (quoted text) = utf16Length text + 2 := by
  rw [Json.quoted_size_plain plain,utf16Length_plain,String.length_toList]
  intro char inside
  have ascii := plain char inside
  simp only [Json.plainChar,Bool.and_eq_true,decide_eq_true_eq] at ascii
  exact UInt32.lt_trans ascii.1.1.2 (by decide)

theorem segment_plain {value : String} (valid : isSegment value = true) : ∀ char ∈ value.toList, Json.plainChar char = true := by
  simp only [isSegment,Bool.and_eq_true,List.all_eq_true,decide_eq_true_eq] at valid
  intro char inside
  exact plain_of_segment (valid.1.2 char inside)

theorem plain_append {text other : String} (first : ∀ char ∈ text.toList, Json.plainChar char = true)
    (second : ∀ char ∈ other.toList, Json.plainChar char = true) : ∀ char ∈ (text ++ other).toList, Json.plainChar char = true := by
  intro char inside
  rw [String.toList_append] at inside
  exact (List.mem_append.mp inside).elim (first char) (second char)

theorem plain_literal {text : String} (plain : text.toList.all Json.plainChar = true) : ∀ char ∈ text.toList, Json.plainChar char = true :=
  List.all_eq_true.mp plain

variable {scope : ArtifactScope}

theorem scopeText_plain (valid : ScopeValid scope) : ∀ char ∈ (scopeText scope).toList, Json.plainChar char = true :=
  plain_append (plain_append (plain_append (plain_append (plain_append (plain_append (plain_literal (by decide))
    (segment_plain valid.project)) (plain_literal (by decide))) (segment_plain valid.run)) (plain_literal (by decide)))
    (segment_plain valid.step)) (plain_literal (by decide))

theorem keyText_plain {parts : KeyParts} (valid : parts.Valid) : ∀ char ∈ parts.keyText.toList, Json.plainChar char = true := by
  have version : ∀ char ∈ (toString parts.version).toList, Json.plainChar char = true := by
    intro char inside
    exact Json.plain_of_alphanum (by simp [Char.isAlphanum,Joined.digits_of_toString inside])
  have digest : ∀ char ∈ parts.digest.toList, Json.plainChar char = true := by
    have hex := valid.digest
    simp only [isDigest,Bool.and_eq_true,List.all_eq_true,decide_eq_true_eq] at hex
    intro char inside
    exact plain_of_segment (digestChar_plain (hex.2 char inside))
  have whole : parts.keyText = scopeText parts.toArtifactScope ++ parts.artifactId ++ "/" ++ toString parts.version ++ "/sha256/" ++
      parts.digest := rfl
  rw [whole]
  exact plain_append (plain_append (plain_append (plain_append (plain_append (scopeText_plain valid.toScopeValid)
    (segment_plain valid.artifact)) (plain_literal (by decide))) version) (plain_literal (by decide))) digest

theorem scopeText_length (valid : ScopeValid scope) : utf16Length (scopeText scope) ≤ 400 := by
  have project := segment_length valid.project
  have run := segment_length valid.run
  have step := segment_length valid.step
  have start : utf16Length "artifacts/v1/" = 13 := by decide
  have slash : utf16Length "/" = 1 := by decide
  unfold scopeText
  simp only [utf16Length_append]
  omega

theorem limit_size {limit : Int} (low : 1 ≤ limit) (high : limit ≤ MAX_ARTIFACT_LIST_LIMIT) : byteLength (toString limit) ≤ 4 := by
  unfold MAX_ARTIFACT_LIST_LIMIT at high
  exact Json.numeral_size (by decide) (by omega) (by omega)

theorem payload_size {query : ArtifactCursorQuery} {after : String} (listable : Listable query) (position : Position query after) :
    byteLength (Json.stringify (.obj (payloadFields (scopeText query.scope) (query.artifactPrefix.getD "") query.limit after))) ≤ 1240 := by
  obtain ⟨parts,valid,rfl,_⟩ := position.key
  have key := quoted_plain (keyText_plain valid)
  have length := valid.length
  have scope := quoted_plain (scopeText_plain listable.scope)
  have within := scopeText_length listable.scope
  have limit := limit_size listable.limit.1 listable.limit.2
  have start : byteLength (quoted (query.artifactPrefix.getD "")) ≤ 130 := by
    cases given : query.artifactPrefix with
    | none => decide
    | some start =>
      have segment := listable.start start given
      have short := segment_length segment
      have plain := quoted_plain (segment_plain segment)
      rw [Option.getD_some]
      omega
  have text (value : String) : byteLength (Json.stringify (.str value)) = byteLength (quoted value) := rfl
  have number (value : Int) : byteLength (Json.stringify (.num value)) = byteLength (toString value) := rfl
  have one : byteLength (toString (1 : Int)) = 1 := by decide
  have names : byteLength (quoted "v") = 3 ∧ byteLength (quoted "queryVersion") = 14 ∧ byteLength (quoted "scope") = 7 ∧
      byteLength (quoted "prefix") = 8 ∧ byteLength (quoted "limit") = 7 ∧ byteLength (quoted "after") = 7 ∧
      byteLength (quoted "artifact-list-v1") = 18 := by decide
  have size := Json.object_size (payloadFields (scopeText query.scope) (query.artifactPrefix.getD "") query.limit parts.keyText)
  refine size.trans ?_
  unfold payloadFields
  simp only [List.map_cons,List.map_nil,List.sum_cons,List.sum_nil,Json.fieldSize,text,number,one]
  omega

def payloadText (query : ArtifactCursorQuery) (after : String) : String :=
  Json.stringify (.obj (payloadFields (scopeText query.scope) (query.artifactPrefix.getD "") query.limit after))

theorem payload_read (query : ArtifactCursorQuery) (after : String) :
    decodePart (base64url (utf8 (payloadText query after))) = some (utf8 (payloadText query after)) ∧
      decodeText (utf8 (payloadText query after)) = some (payloadText query after) ∧ Json.parse (payloadText query after) =
        some (.obj (payloadFields (scopeText query.scope) (query.artifactPrefix.getD "") query.limit after)) := by
  have head : (payloadText query after).toList.head? = some '{' := by
    unfold payloadText
    rw [Json.object_chars]
    rfl
  have filled : utf8 (payloadText query after) ≠ [] := utf8_ne_nil (by rw [head]; simp)
  have unmarked : (payloadText query after).toList.head? ≠ some '\uFEFF' := by
    rw [head]
    decide
  exact ⟨decodePart_base64url filled,decodeText_utf8 unmarked,Json.parse_stringify (payload_readable _ _ _ _)⟩

/-! ### Round trips -/

def Differ (query other : ArtifactCursorQuery) : Prop :=
  other.scope ≠ query.scope ∨ other.artifactPrefix ≠ query.artifactPrefix ∨ other.limit ≠ query.limit

section
variable {hmac : Hmac} {keys : List SigningKey} {codec : ArtifactCursorCodec} {query : ArtifactCursorQuery} {after : String}

theorem read_encoded (created : createArtifactCursorCodec keys = .ok codec) (listable : Listable query) (position : Position query after)
    (other : ArtifactCursorQuery) : codec.read hmac other (cursorKind.token hmac codec.signing.1 codec.signing.2 (payloadText query after)) =
      match payload other after with
      | .error _ => none
      | .ok expected => if payloadText query after ≠ expected.stringify then none else some after := by
  obtain ⟨named,known⟩ := codec_knows created
  obtain ⟨plain,length,_⟩ := keyId_chars named
  obtain ⟨part,text,parsed⟩ := payload_read query after
  have size : byteLength (payloadText query after) ≤ 1240 := payload_size listable position
  have tag : utf16Length cursorKind.tag = 6 := by decide
  have fits : ¬ 2048 < utf16Length (cursorKind.token hmac codec.signing.1 codec.signing.2 (payloadText query after)) := by
    rw [token_length,tag]
    omega
  have short : ¬ 1536 < (utf8 (payloadText query after)).length := by
    rw [utf8_length]
    omega
  have accepted := @accept_token cursorKind hmac codec.signing.1 (payloadText query after) codec.signing.2 codec.keys.get? (by decide)
    plain known
  have found : ((Json.obj (payloadFields (scopeText query.scope) (query.artifactPrefix.getD "") query.limit after)).field? "after").bind
      Json.string? = some after := rfl
  unfold ArtifactCursorCodec.read
  rw [if_neg fits,accepted]
  simp only [Option.bind_eq_bind,Option.bind_some,part]
  rw [if_neg short,text]
  simp only [Option.bind_some,parsed,found,Option.getD_some]
  rfl

theorem timeless_payload (scope start : String) (limit : Int) (after : String) :
    Json.timeless (.obj (payloadFields scope start limit after)) = true := rfl

variable {other : ArtifactCursorQuery}

theorem payload_text_inj (same : payloadText query after = payloadText other after) :
    query.artifactPrefix.getD "" = other.artifactPrefix.getD "" ∧ query.limit = other.limit := by
  have values := Json.stringify_injective (timeless_payload _ _ _ _) (timeless_payload _ _ _ _) same
  have starts := congrArg (fun value : Json => (value.field? "prefix").bind Json.string?) values
  have limits := congrArg (fun value : Json => (value.field? "limit").bind Json.number?) values
  exact ⟨Option.some.inj starts,Option.some.inj limits⟩

theorem Position.scope_eq (position : Position query after) (position' : Position other after) : other.scope = query.scope := by
  obtain ⟨parts,valid,text,scope⟩ := position.key
  obtain ⟨parts',valid',text',scope'⟩ := position'.key
  have same : parts = parts' := keyText_injective valid valid' (text.trans text'.symm)
  rw [← scope,← scope',same]

theorem prefix_eq {start other : Option String} (filled : ∀ text ∈ other, text ≠ "") (filled' : ∀ text ∈ start, text ≠ "")
    (same : start.getD "" = other.getD "") : other = start := by
  cases start with
  | none => cases other with
    | none => rfl
    | some other => exact absurd same.symm (filled other rfl)
  | some start => cases other with
    | none => exact absurd same (filled' start rfl)
    | some other => exact congrArg some same.symm

theorem token_chars (created : createArtifactCursorCodec keys = .ok codec) (payload : String) :
    ∀ char ∈ (cursorKind.token hmac codec.signing.1 codec.signing.2 payload).toList,
      (char.isAlphanum || char = '_' || char = '.' || char = '-') = true := by
  obtain ⟨named,_⟩ := codec_knows created
  obtain ⟨_,_,chars⟩ := keyId_chars named
  have letters (bytes : List UInt8) : ∀ char ∈ (base64url bytes).toList, (char.isAlphanum || char = '_' || char = '.' || char = '-') = true := by
    have alphabet : Base64url.ALPHABET.all (fun char => char.isAlphanum || char = '_' || char = '.' || char = '-') = true := by decide
    intro char inside
    rw [base64url,String.toList_ofList] at inside
    exact List.all_eq_true.mp alphabet char (Base64url.encode_letters bytes char inside)
  have tag : cursorKind.tag.toList.all (fun char => char.isAlphanum || char = '_' || char = '.' || char = '-') = true := by decide
  intro char inside
  rw [token_toList] at inside
  simp only [List.mem_append,List.mem_cons] at inside
  obtain inside | rfl | inside | rfl | inside | rfl | inside := inside
  · exact List.all_eq_true.mp tag char inside
  · decide
  · have allowed := List.all_eq_true.mp chars char inside
    simp only [Bool.or_eq_true,decide_eq_true_eq] at allowed ⊢
    tauto
  · decide
  · exact letters _ char inside
  · decide
  · exact letters _ char inside

/-- Cursors are read under the query that they were made for, and under no other. -/
theorem cursors_round_trip (created : createArtifactCursorCodec keys = .ok codec) (listable : Listable query)
    (position : Position query after) : ∃ cursor, codec.encode hmac query after = .ok cursor ∧ isCursor cursor = true ∧
      codec.decode hmac query (some cursor) = .ok (some after) ∧
      ∀ other, (∀ start ∈ other.artifactPrefix, start ≠ "") → Differ query other →
        codec.decode hmac other (some cursor) = .error invalidCursor := by
  obtain ⟨named,_⟩ := codec_knows created
  obtain ⟨_,length,_⟩ := keyId_chars named
  have made := payload_ok_iff.mpr ⟨position,rfl⟩
  have size : byteLength (payloadText query after) ≤ 1240 := payload_size listable position
  have tag : utf16Length cursorKind.tag = 6 := by decide
  have filled : ∀ start ∈ query.artifactPrefix, start ≠ "" := by
    intro start given empty
    have segment := listable.start start given
    rw [empty] at segment
    exact absurd segment (by decide)
  refine ⟨cursorKind.token hmac codec.signing.1 codec.signing.2 (payloadText query after),bind_ok.mpr ⟨_,made,rfl⟩,?_,?_,?_⟩
  · unfold isCursor
    rw [Bool.and_eq_true,decide_eq_true_eq,List.all_eq_true,token_length,tag]
    exact ⟨by omega,token_chars created _⟩
  · have read := @read_encoded hmac keys codec query after created listable position query
    have itself : payloadText query after = Json.stringify (.obj (payloadFields (scopeText query.scope) (query.artifactPrefix.getD "")
      query.limit after)) := rfl
    rw [made] at read
    dsimp only at read
    rw [if_neg (not_not.mpr itself)] at read
    unfold ArtifactCursorCodec.decode
    dsimp only
    rw [read]
  · intro other given differ
    have read := @read_encoded hmac keys codec query after created listable position other
    unfold ArtifactCursorCodec.decode
    dsimp only
    rw [read]
    cases answered : payload other after with
    | error fault => rfl
    | ok expected =>
      obtain ⟨position',expected_⟩ := payload_ok_iff.mp answered
      have text : expected.stringify = payloadText other after := congrArg Json.stringify expected_
      dsimp only
      rw [text]
      have apart : payloadText query after ≠ payloadText other after := by
        intro same
        obtain ⟨starts,limits⟩ := payload_text_inj same
        have scopes := position.scope_eq position'
        have prefixes : other.artifactPrefix = query.artifactPrefix := prefix_eq given filled starts
        obtain scope | start | limit := differ
        · exact scope scopes
        · exact start prefixes
        · exact limit limits.symm
      rw [if_pos apart]

end

/-! ### A page of reports -/

def reports : ArtifactCursorQuery where
  scope := {projectId := "p",runId := "r",stepId := "s"}
  artifactPrefix := some "rep"
  limit := 100

def lastReport : KeyParts where
  projectId := "p"
  runId := "r"
  stepId := "s"
  artifactId := "report"
  version := 1
  digest := "ba7816bf8f01cfea414140de5dae2223b00361a396177a9cb410ff61f20015ad"

def memoryKey : SigningKey := {keyId := "memory",secret := .text "0123456789abcdef0123456789abcdef"}

def reportsCode : Hmac := fun _ _ =>
  #v[49,244,169,131,61,59,31,21,222,178,101,148,219,43,234,190,
    110,229,241,125,71,167,141,184,251,97,155,228,47,241,175,140]

theorem lastReport_valid : lastReport.Valid where
  project := by decide
  run := by decide
  step := by decide
  artifact := by decide
  version := by decide
  digest := by decide

theorem reports_listable : Listable reports where
  scope := lastReport_valid.toScopeValid
  start := by
    intro start given
    cases given
    decide
  limit := by decide

theorem reports_round_trip : ∃ codec, createArtifactCursorCodec [memoryKey] = .ok codec ∧
    ∃ cursor, codec.encode reportsCode reports lastReport.keyText = .ok cursor ∧ isCursor cursor = true ∧
      codec.decode reportsCode reports (some cursor) = .ok (some lastReport.keyText) ∧
      ∀ other, (∀ start ∈ other.artifactPrefix, start ≠ "") → Differ reports other →
        codec.decode reportsCode other (some cursor) = .error invalidCursor := by
  obtain ⟨codec,created⟩ : ∃ codec, createArtifactCursorCodec [memoryKey] = .ok codec := exists_ok (by decide +kernel)
  exact ⟨codec,created,cursors_round_trip created reports_listable ⟨lastReport,lastReport_valid,rfl,rfl⟩⟩

end AgentOS.Artifacts.Cursors
