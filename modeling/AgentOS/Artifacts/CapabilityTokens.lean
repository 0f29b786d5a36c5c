import AgentOS.Artifacts.Capabilities

/-! Capability tokens round trip: what is issued verifies as what was issued, while it is valid and for what it grants. -/
namespace AgentOS.Artifacts.Capabilities
open Library Tokens

/-! ### Claims -/

theorem safeClaim_ok {value label found : String} (ok : safeClaim value label = .ok found) : isSafe value = true := by
  unfold safeClaim at ok
  split at ok
  · cases ok
  · rename_i safe
    by_contra unsafe_
    exact safe (.inl unsafe_)

theorem boundedClaim_ok {value most found : Int} {label : String} (ok : boundedClaim value most label = .ok found) :
    1 ≤ value ∧ value ≤ most := by
  unfold boundedClaim at ok
  split at ok
  · cases ok
  · rename_i bounded
    omega

theorem iso_ok {value label : String} {found : Int} (ok : iso value label = .ok found) : canonicalTime value = some found := by
  unfold iso at ok
  split at ok
  · cases ok
  · rename_i time
    cases ok
    exact time

structure WellFormed (claims : ArtifactCapabilityClaims) : Prop where
  audience : isSafe claims.audience = true
  purpose : isSafe claims.purpose = true
  project : isSafe claims.projectId = true
  run : isSafe claims.runId = true
  step : isSafe claims.stepId = true
  start : ∀ start ∈ claims.keyPrefix, isSafe start = true
  nonce : isNonce claims.nonce = true
  bytes : 1 ≤ claims.maxBytes ∧ claims.maxBytes ≤ Workflow.DEFAULT_ARTIFACT_MAX_BYTES
  calls : 1 ≤ claims.maxCalls ∧ claims.maxCalls ≤ Repository.ARTIFACT_CAPABILITY_MAX_CALLS
  cumulative : 1 ≤ claims.maxCumulativeBytes ∧ claims.maxCumulativeBytes ≤ Repository.ARTIFACT_CAPABILITY_MAX_CUMULATIVE_BYTES
  methods : claims.methods.Nodup ∧ ∀ method ∈ claims.methods, method ∈ METHODS
  window : ∃ notBefore expires, canonicalTime claims.notBefore = some notBefore ∧ canonicalTime claims.expiresAt = some expires ∧
    notBefore < expires

theorem normalizeClaims_ok {claims found : ArtifactCapabilityClaims} {now : Int} (ok : normalizeClaims claims now = .ok found) :
    found = claims ∧ WellFormed claims := by
  unfold normalizeClaims at ok
  obtain ⟨_,audience,ok⟩ := bind_ok.mp ok
  obtain ⟨_,purpose,ok⟩ := bind_ok.mp ok
  obtain ⟨_,project,ok⟩ := bind_ok.mp ok
  obtain ⟨_,run,ok⟩ := bind_ok.mp ok
  obtain ⟨_,step,ok⟩ := bind_ok.mp ok
  obtain ⟨_,begins,ok⟩ := bind_ok.mp ok
  split at ok
  · cases ok
  rename_i nonce
  obtain ⟨_,bytes,ok⟩ := bind_ok.mp ok
  obtain ⟨_,calls,ok⟩ := bind_ok.mp ok
  obtain ⟨_,cumulative,ok⟩ := bind_ok.mp ok
  split at ok
  · cases ok
  split at ok
  · cases ok
  rename_i methods
  obtain ⟨expires,expiring,ok⟩ := bind_ok.mp ok
  obtain ⟨notBefore,starting,ok⟩ := bind_ok.mp ok
  split at ok
  · cases ok
  split at ok
  · cases ok
  rename_i lifetime
  cases ok
  have start : ∀ start ∈ claims.keyPrefix, isSafe start = true := by
    intro start given
    rw [given] at begins
    exact safeClaim_ok begins
  have order : notBefore < expires := by
    by_contra late
    exact lifetime (.inl (not_lt.mp late))
  have known : claims.methods.Nodup ∧ ∀ method ∈ claims.methods, method ∈ METHODS := by
    simpa using methods
  exact ⟨rfl,safeClaim_ok audience,safeClaim_ok purpose,safeClaim_ok project,safeClaim_ok run,safeClaim_ok step,start,
    not_not.mp nonce,boundedClaim_ok bytes,boundedClaim_ok calls,boundedClaim_ok cumulative,known,notBefore,expires,
    iso_ok starting,iso_ok expiring,order⟩

/-! ### Payloads -/

def claimNames (begins : Bool) : List String :=
  ["purpose","audience","methods","projectId","runId","stepId"] ++ (if begins then ["prefix"] else []) ++
    ["maxBytes","maxCalls","maxCumulativeBytes","expiresAt","notBefore","nonce"]

theorem claimsFields_names (claims : ArtifactCapabilityClaims) :
    (claimsFields claims).map Prod.fst = claimNames claims.keyPrefix.isSome := by
  unfold claimsFields
  cases claims.keyPrefix with
  | none => rfl
  | some start => rfl

theorem claimNames_distinct : ∀ begins, (claimNames begins).Nodup := by
  decide

theorem claimNames_named : ∀ begins, ∀ name ∈ claimNames begins, Json.arrayIndex name = none ∧ name.length ≤ 18 := by
  intro begins name inside
  have all : (claimNames begins).all (fun name => (Json.arrayIndex name).isNone && decide (name.length ≤ 18)) = true := by
    cases begins with
    | false => decide +kernel
    | true => decide +kernel
  have found := List.all_eq_true.mp all name inside
  simpa using found

theorem claims_readable (claims : ArtifactCapabilityClaims) : Json.Readable (.obj (claimsFields claims)) := by
  have names := claimsFields_names claims
  apply Json.Readable.obj
  · intro field inside
    unfold claimsFields at inside
    simp only [List.mem_append,List.mem_cons,List.not_mem_nil,or_false,List.mem_map] at inside
    obtain ((rfl | rfl | rfl | rfl | rfl | rfl) | ⟨start,_,rfl⟩) | rfl | rfl | rfl | rfl | rfl | rfl := inside
    · exact .str _
    · exact .str _
    · apply Json.Readable.arr
      intro item inside
      obtain ⟨method,_,rfl⟩ := List.mem_map.mp inside
      exact .str _
    · exact .str _
    · exact .str _
    · exact .str _
    · exact .str _
    · exact .num _
    · exact .num _
    · exact .num _
    · exact .str _
    · exact .str _
    · exact .str _
  · rw [names]
    exact claimNames_distinct _
  · intro field inside
    have named : field.1 ∈ claimNames claims.keyPrefix.isSome := names ▸ List.mem_map_of_mem inside
    exact (claimNames_named _ _ named).1

theorem payload_readable (claims : ArtifactCapabilityClaims) (issuedAt : String) :
    Json.Readable (.obj (payloadFields claims issuedAt)) := by
  apply Json.Readable.obj
  · intro field inside
    unfold payloadFields at inside
    simp only [List.mem_cons,List.not_mem_nil,or_false] at inside
    obtain rfl | rfl | rfl := inside
    · exact .num 1
    · exact .str _
    · exact claims_readable claims
  · change ["version","issuedAt","claims"].Nodup
    decide
  · have named : ["version","issuedAt","claims"].all (fun name => (Json.arrayIndex name).isNone) = true := by decide +kernel
    intro field inside
    have listed : field.1 ∈ ["version","issuedAt","claims"] := List.mem_map_of_mem (f := Prod.fst) inside
    exact Option.isNone_iff_eq_none.mp (List.all_eq_true.mp named _ listed)

theorem claims_field (claims : ArtifactCapabilityClaims) (name : String) :
    (Json.canonicalize (.obj (claimsFields claims))).field? name = ((Json.obj (claimsFields claims)).field? name).map Json.canonicalize :=
  Json.field?_canonicalize (claimsFields_names claims ▸ claimNames_distinct _) name

theorem mapM_strings (texts : List String) : (texts.map Json.str).mapM Json.string? = some texts := by
  induction texts with
  | nil => rfl
  | cons text texts ih =>
    rw [List.map_cons,List.mapM_cons,ih]
    rfl

theorem claimsOf_canonicalize (claims : ArtifactCapabilityClaims) :
    claimsOf (Json.canonicalize (.obj (claimsFields claims))) = some claims := by
  have methods : Json.canonicalizeItems (claims.methods.map .str) = claims.methods.map .str := by
    rw [Json.canonicalizeItems_eq,List.map_map]
    rfl
  unfold claimsOf
  simp only [claims_field]
  obtain ⟨purpose,audience,methods',projectId,runId,stepId,keyPrefix,maxBytes,maxCalls,maxCumulativeBytes,expiresAt,notBefore,nonce⟩ := claims
  have listed : (Json.obj (claimsFields ⟨purpose,audience,methods',projectId,runId,stepId,keyPrefix,maxBytes,maxCalls,
      maxCumulativeBytes,expiresAt,notBefore,nonce⟩)).field? "methods" = some (.arr (methods'.map .str)) := rfl
  rw [listed,Option.map_some,Json.canonicalize,methods]
  dsimp only
  rw [mapM_strings]
  cases keyPrefix with
  | none => rfl
  | some start => rfl

theorem payload_field (claims : ArtifactCapabilityClaims) (issuedAt name : String) :
    (Json.canonicalize (.obj (payloadFields claims issuedAt))).field? name =
      ((Json.obj (payloadFields claims issuedAt)).field? name).map Json.canonicalize := by
  apply Json.field?_canonicalize
  change ["version","issuedAt","claims"].Nodup
  decide

def payloadText (claims : ArtifactCapabilityClaims) (issuedAt : String) : String := canonicalJsonValue (.obj (payloadFields claims issuedAt))

theorem payloadText_head (claims : ArtifactCapabilityClaims) (issuedAt : String) :
    (payloadText claims issuedAt).toList.head? = some '{' := by
  have text : payloadText claims issuedAt = Json.stringify (.obj ((Json.canonicalizeFields (payloadFields claims issuedAt)).insertionSort
      fun left right => Json.compareCanonicalKeys left.1 right.1)) := rfl
  rw [text,Json.object_chars]
  rfl

theorem payload_read (claims : ArtifactCapabilityClaims) (issuedAt : String) :
    ((decodePart (base64url (utf8 (payloadText claims issuedAt)))).bind decodeText).bind Json.parse =
      some (Json.canonicalize (.obj (payloadFields claims issuedAt))) := by
  have head := payloadText_head claims issuedAt
  have filled : utf8 (payloadText claims issuedAt) ≠ [] := utf8_ne_nil (by rw [head]; simp)
  have unmarked : (payloadText claims issuedAt).toList.head? ≠ some '\uFEFF' := by
    rw [head]
    decide
  rw [decodePart_base64url filled,Option.bind_some,decodeText_utf8 unmarked,Option.bind_some]
  exact Json.parse_stringify (Json.readable_canonicalize (payload_readable claims issuedAt))

variable {claims : ArtifactCapabilityClaims} {value : String}

theorem parsePayload_payload {issued now : Int} (time : isTime issued = true)
    (normalized : normalizeClaims claims issued = .ok claims) :
    parsePayload (base64url (utf8 (payloadText claims (toISOString issued)))) now =
      if now + Workflow.ARTIFACT_CAPABILITY_MAX_FUTURE_MS < issued then .error (.denied "artifact capability is from the future")
      else .ok claims := by
  have version : (Json.obj (payloadFields claims (toISOString issued))).field? "version" = some (.num 1) := rfl
  have issuedAt : (Json.obj (payloadFields claims (toISOString issued))).field? "issuedAt" = some (.str (toISOString issued)) := rfl
  have held : (Json.obj (payloadFields claims (toISOString issued))).field? "claims" = some (.obj (claimsFields claims)) := rfl
  have read := claimsOf_canonicalize claims
  unfold parsePayload
  rw [payload_read]
  dsimp only
  rw [payload_field,payload_field,payload_field,version,issuedAt,held]
  simp only [Option.map_some,Json.canonicalize,Option.bind_some,Json.string?] at read ⊢
  rw [canonicalTime_toISOString time]
  dsimp only
  rw [read]
  dsimp only
  rw [normalized]

/-! ### Sizes -/

theorem plain_of_safe {char : Char} (safe : Workflow.isSafeCharacter char = true) : Json.plainChar char = true := by
  simp only [Workflow.isSafeCharacter,Bool.or_eq_true,decide_eq_true_eq,List.mem_cons,List.not_mem_nil,or_false] at safe
  obtain letter | rfl | rfl | rfl := safe
  · exact Json.plain_of_alphanum letter
  · decide
  · decide
  · decide

theorem safe_size (safe : isSafe value = true) : byteLength (quoted value) ≤ 130 := by
  simp only [isSafe,Bool.and_eq_true,decide_eq_true_eq,List.all_eq_true] at safe
  have size := Json.quoted_size_plain fun char inside => plain_of_safe (safe.1.2 char inside)
  omega

theorem nonce_size (nonce : isNonce value = true) : byteLength (quoted value) ≤ 130 := by
  simp only [isNonce,Bool.and_eq_true,decide_eq_true_eq,List.all_eq_true] at nonce
  have size := Json.quoted_size_plain fun char inside => plain_of_safe (by
    have allowed := nonce.1 char inside
    simp only [Workflow.isSafeCharacter,Bool.or_eq_true,decide_eq_true_eq,List.mem_cons,List.not_mem_nil,or_false] at allowed ⊢
    tauto)
  omega

theorem time_size {at_ : Int} (time : canonicalTime value = some at_) : byteLength (quoted value) ≤ 164 := by
  obtain ⟨time,text⟩ := canonicalTime_some time
  have size := Json.quoted_size_le value
  have length : value.length ≤ 27 := text ▸ toISOString_length time
  omega

theorem number_size {value : Int} (low : 1 ≤ value) (high : value < 100000000) : byteLength (toString value) ≤ 8 :=
  Json.numeral_size (by decide) (by omega) high

theorem methods_size {methods : List String} (distinct : methods.Nodup) (known : ∀ method ∈ methods, method ∈ METHODS) :
    byteLength (canonicalJsonValue (.arr (methods.map .str))) ≤ 100 := by
  have few : methods.length ≤ 3 := (distinct.subperm known).length_le
  have same : Json.canonicalize (.arr (methods.map .str)) = .arr (methods.map .str) := by
    rw [Json.canonicalize,Json.canonicalizeItems_eq,List.map_map]
    rfl
  have sizes : ∀ method ∈ METHODS, byteLength (quoted method) + 1 ≤ 16 := by decide
  have bound : ((methods.map Json.str).map fun item => byteLength (Json.stringify item) + 1).sum ≤
      ((methods.map Json.str).map fun item => byteLength (Json.stringify item) + 1).length • 16 := by
    apply List.sum_le_card_nsmul
    intro size inside
    rw [List.map_map] at inside
    obtain ⟨method,inside',rfl⟩ := List.mem_map.mp inside
    exact sizes method (known method inside')
  have size := Json.array_size (methods.map .str)
  unfold canonicalJsonValue
  rw [same]
  simp only [List.length_map,nsmul_eq_mul,Nat.cast_id] at bound
  omega

theorem named_size {fields : List (String × Json)} (short : ∀ field ∈ fields, field.1.length ≤ 18) :
    byteLength (canonicalJsonValue (.obj fields)) ≤ (fields.map fun field => 112 + byteLength (canonicalJsonValue field.2)).sum + 2 := by
  have bound : (fields.map fun field => byteLength (quoted field.1) + 2 + byteLength (canonicalJsonValue field.2)).sum ≤
      (fields.map fun field => 112 + byteLength (canonicalJsonValue field.2)).sum := by
    apply List.sum_le_sum
    intro field inside
    have size := Json.quoted_size_le field.1
    have length := short field inside
    omega
  have size := Json.canonical_object_size fields
  omega

theorem claims_size (wellFormed : WellFormed claims) : byteLength (canonicalJsonValue (.obj (claimsFields claims))) ≤ 3500 := by
  obtain ⟨notBefore,expires,starting,expiring,_⟩ := wellFormed.window
  have purpose := safe_size wellFormed.purpose
  have audience := safe_size wellFormed.audience
  have project := safe_size wellFormed.project
  have run := safe_size wellFormed.run
  have step := safe_size wellFormed.step
  have nonce := nonce_size wellFormed.nonce
  have starts := time_size starting
  have ends := time_size expiring
  have bytes := number_size wellFormed.bytes.1 (wellFormed.bytes.2.trans_lt (by decide))
  have calls := number_size wellFormed.calls.1 (wellFormed.calls.2.trans_lt (by decide))
  have cumulative := number_size wellFormed.cumulative.1 (wellFormed.cumulative.2.trans_lt (by decide))
  have methods := methods_size wellFormed.methods.1 wellFormed.methods.2
  have size := @named_size (claimsFields claims) (by
    intro field inside
    exact (claimNames_named _ _ (claimsFields_names claims ▸ List.mem_map_of_mem inside)).2)
  have text (value : String) : byteLength (canonicalJsonValue (.str value)) = byteLength (quoted value) := rfl
  have number (value : Int) : byteLength (canonicalJsonValue (.num value)) = byteLength (toString value) := rfl
  refine size.trans ?_
  unfold claimsFields
  simp only [List.map_append,List.sum_append,List.map_cons,List.map_nil,List.sum_cons,List.sum_nil,text,number]
  cases given : claims.keyPrefix with
  | none =>
    simp only [Option.toList_none,List.map_nil,List.sum_nil]
    omega
  | some start =>
    have begins := safe_size (wellFormed.start start given)
    simp only [Option.toList_some,List.map_cons,List.map_nil,List.sum_cons,List.sum_nil,text]
    omega

theorem payload_size {issued : Int} (wellFormed : WellFormed claims) (time : isTime issued = true) :
    byteLength (payloadText claims (toISOString issued)) ≤ 4100 := by
  have size := @named_size (payloadFields claims (toISOString issued)) (by
    have short : ["version","issuedAt","claims"].all (fun name => decide (name.length ≤ 18)) = true := by decide
    intro field inside
    have listed : field.1 ∈ ["version","issuedAt","claims"] := List.mem_map_of_mem (f := Prod.fst) inside
    exact of_decide_eq_true (List.all_eq_true.mp short _ listed))
  have inner := claims_size wellFormed
  have issuedAt := time_size (canonicalTime_toISOString time)
  have text (value : String) : byteLength (canonicalJsonValue (.str value)) = byteLength (quoted value) := rfl
  have version : byteLength (canonicalJsonValue (.num 1)) = 1 := by decide
  refine size.trans ?_
  unfold payloadFields
  simp only [List.map_cons,List.map_nil,List.sum_cons,List.sum_nil,text,version]
  omega

theorem safe_length (safe : isSafe value = true) : utf16Length value ≤ 128 := by
  simp only [isSafe,Bool.and_eq_true,decide_eq_true_eq,List.all_eq_true] at safe
  rw [utf16Length_plain,String.length_toList]
  · exact safe.2
  · intro char inside
    have plain := plain_of_safe (safe.1.2 char inside)
    simp only [Json.plainChar,Bool.and_eq_true,decide_eq_true_eq] at plain
    exact UInt32.lt_trans plain.1.1.2 (by decide)

/-! ### Rings of keys -/

theorem configuredKeys_ok {keys : List SigningKey} {known found : OrderedMap String (List UInt8)}
    (ok : configuredKeys keys known = .ok found) : (∀ keyId secret, known.get? keyId = some secret → found.get? keyId = some secret) ∧
      ∀ key ∈ keys, ∀ pair, configuredKey key = .ok pair → found.get? pair.1 = some pair.2 := by
  induction keys generalizing known with
  | nil =>
    cases ok
    exact ⟨fun _ _ held => held,List.forall_mem_nil _⟩
  | cons key keys ih =>
    obtain ⟨⟨keyId,secret⟩,configured,ok⟩ := bind_ok.mp ok
    dsimp only at ok
    split at ok
    · cases ok
    rename_i fresh
    obtain ⟨kept,later⟩ := ih ok
    refine ⟨?_,?_⟩
    · intro other held known'
      apply kept
      have apart : other ≠ keyId := by
        intro same
        rw [← same,known'] at fresh
        exact fresh rfl
      rw [OrderedMap.get?_set,if_neg apart]
      exact known'
    · intro key' inside pair pairs
      obtain rfl | inside' := List.mem_cons.mp inside
      · rw [configured] at pairs
        cases pairs
        apply kept
        rw [OrderedMap.get?_set,if_pos rfl]
      · exact later key' inside' pair pairs

theorem verifier_knows {key : SigningKey} {keys : List SigningKey} {known : OrderedMap String (List UInt8)}
    {pair : String × List UInt8} (ring : createArtifactCapabilityVerifier keys = .ok known) (inside : key ∈ keys)
    (configured : configuredKey key = .ok pair) : known.get? pair.1 = some pair.2 := by
  unfold createArtifactCapabilityVerifier at ring
  split at ring
  · cases ring
  · exact (configuredKeys_ok ring).2 key inside pair configured

theorem configuredKey_ok {key : SigningKey} {pair : String × List UInt8} (ok : configuredKey key = .ok pair) :
    pair.1 = key.keyId ∧ isSafe key.keyId = true := by
  unfold configuredKey at ok
  split at ok
  · cases ok
  rename_i safe
  obtain ⟨secret,_,ok⟩ := bind_ok.mp ok
  cases ok
  exact ⟨rfl,not_not.mp safe⟩

/-! ### Round trips -/

structure Grants (claims : ArtifactCapabilityClaims) (expected : ArtifactCapabilityVerification) : Prop where
  purpose : expected.purpose = claims.purpose
  audience : expected.audience = claims.audience
  method : ∀ method ∈ expected.method, method ∈ claims.methods
  project : ∀ projectId ∈ expected.projectId, projectId = claims.projectId
  run : ∀ runId ∈ expected.runId, runId = claims.runId
  step : ∀ stepId ∈ expected.stepId, stepId = claims.stepId
  artifact : ∀ artifactId ∈ expected.artifactId, ∀ start ∈ claims.keyPrefix, start.toList <+: artifactId.toList
  bytes : ∀ bytes ∈ expected.bytes, isSafeInteger bytes = true ∧ 0 ≤ bytes ∧ bytes ≤ claims.maxBytes

theorem any_eq_false {α : Type} {asked : Option α} {test : α → Bool} : asked.any test = false ↔ ∀ value ∈ asked, test value = false := by
  cases asked with
  | none => simp
  | some value => simp

theorem mismatches_iff {expected : ArtifactCapabilityVerification} : mismatches claims expected = false ↔ Grants claims expected := by
  unfold mismatches
  simp only [Bool.or_eq_false_iff,any_eq_false,decide_eq_false_iff_not,not_not,List.contains_iff_mem,List.isPrefixOf_iff_prefix,
    not_lt,Bool.not_eq_true,Bool.not_eq_false]
  constructor
  · intro ⟨⟨⟨⟨⟨⟨⟨purpose,audience⟩,method⟩,project⟩,run⟩,step⟩,artifact⟩,bytes⟩
    exact ⟨purpose.symm,audience.symm,method,fun _ asked => (project _ asked).symm,fun _ asked => (run _ asked).symm,
      fun _ asked => (step _ asked).symm,artifact,fun _ asked => ⟨(bytes _ asked).1.1,(bytes _ asked).1.2,(bytes _ asked).2⟩⟩
  · intro grants
    exact ⟨⟨⟨⟨⟨⟨⟨grants.purpose.symm,grants.audience.symm⟩,grants.method⟩,fun _ asked => (grants.project _ asked).symm⟩,
      fun _ asked => (grants.run _ asked).symm⟩,fun _ asked => (grants.step _ asked).symm⟩,grants.artifact⟩,
      fun _ asked => ⟨⟨(grants.bytes _ asked).1,(grants.bytes _ asked).2.1⟩,(grants.bytes _ asked).2.2⟩⟩

section
variable {hmac : Hmac} {key : SigningKey} {keys : List SigningKey} {known : OrderedMap String (List UInt8)} {pair : String × List UInt8}
  {claims : ArtifactCapabilityClaims} {issued : Int} {token : String}

theorem issue_ok (ok : issue hmac pair claims issued = .ok token) : normalizeClaims claims issued = .ok claims ∧
    WellFormed claims ∧ isTime issued = true ∧ token = capability.token hmac pair.1 pair.2 (payloadText claims (toISOString issued)) := by
  obtain ⟨normalized,normal,signed⟩ := bind_ok.mp ok
  obtain ⟨rfl,wellFormed⟩ := normalizeClaims_ok normal
  split at signed
  · cases signed
  rename_i time
  cases signed
  exact ⟨normal,wellFormed,not_not.mp time,rfl⟩

section
variable (configured : configuredKey key = .ok pair) (ok : issue hmac pair claims issued = .ok token)
include configured ok

theorem verify_issued (ring : createArtifactCapabilityVerifier keys = .ok known) (inside : key ∈ keys) (plain : '.' ∉ key.keyId.toList)
    {expected : ArtifactCapabilityVerification} {clock notBefore expires : Int} (starts : canonicalTime claims.notBefore = some notBefore)
    (ends : canonicalTime claims.expiresAt = some expires) : verify hmac known token expected clock =
      if expected.now.getD clock + Workflow.ARTIFACT_CAPABILITY_MAX_FUTURE_MS < issued then
        .error (.denied "artifact capability is from the future")
      else if expected.now.getD clock < notBefore then .error (.denied "artifact capability is not active")
      else if expires ≤ expected.now.getD clock then .error (.denied "artifact capability is expired")
      else if mismatches claims expected then .error denied else .ok claims := by
  obtain ⟨named,safe⟩ := configuredKey_ok configured
  obtain ⟨normal,wellFormed,time,rfl⟩ := issue_ok ok
  have size := payload_size wellFormed time
  have short := safe_length safe
  have tag : utf16Length capability.tag = 4 := by decide
  have fits : ¬ 8192 < utf16Length (capability.token hmac pair.1 pair.2 (payloadText claims (toISOString issued))) := by
    rw [token_length,named,tag]
    omega
  have accepted := @accept_token capability hmac pair.1 (payloadText claims (toISOString issued)) pair.2 known.get? (by decide)
    (named ▸ plain) (verifier_knows ring inside configured)
  unfold verify
  rw [if_neg fits,accepted]
  dsimp only
  rw [parsePayload_payload time normal]
  split
  · rfl
  · dsimp only [bind,Except.bind]
    rw [starts,ends]
    simp only [Option.any_some,decide_eq_true_eq]

theorem verify_dotted (dotted : '.' ∈ key.keyId.toList) (expected : ArtifactCapabilityVerification) (clock : Int) :
    verify hmac known token expected clock = .error denied := by
  obtain ⟨named,_⟩ := configuredKey_ok configured
  obtain ⟨_,_,_,rfl⟩ := issue_ok ok
  unfold verify
  rw [accept_dotted (named ▸ dotted)]
  dsimp only
  split
  · rfl
  · rfl

end

structure RoundTrips (hmac : Hmac) (known : OrderedMap String (List UInt8)) (token : String) (claims : ArtifactCapabilityClaims)
    (issued notBefore expires : Int) : Prop where
  accepted : ∀ expected clock, issued ≤ expected.now.getD clock → notBefore ≤ expected.now.getD clock →
    expected.now.getD clock < expires → Grants claims expected → verify hmac known token expected clock = .ok claims
  outside : ∀ expected clock, expected.now.getD clock < notBefore ∨ expires ≤ expected.now.getD clock →
    ∃ fault, verify hmac known token expected clock = .error fault
  ungranted : ∀ expected clock, ¬ Grants claims expected → ∃ fault, verify hmac known token expected clock = .error fault

/-- Tokens round trip unless the name of their key has a dot, those aside that were expired when they were issued. -/
theorem capability_tokens_round_trip_iff (configured : configuredKey key = .ok pair) (ok : issue hmac pair claims issued = .ok token)
    (ring : createArtifactCapabilityVerifier keys = .ok known) (inside : key ∈ keys) :
    ∃ notBefore expires, canonicalTime claims.notBefore = some notBefore ∧ canonicalTime claims.expiresAt = some expires ∧
      (RoundTrips hmac known token claims issued notBefore expires ↔ '.' ∉ key.keyId.toList ∨ expires ≤ issued) := by
  obtain ⟨_,wellFormed,_,_⟩ := issue_ok ok
  obtain ⟨notBefore,expires,starts,ends,order⟩ := wellFormed.window
  refine ⟨notBefore,expires,starts,ends,?_⟩
  constructor
  · intro trips
    by_contra neither
    rw [not_or,not_not,not_le] at neither
    obtain ⟨dotted,early⟩ := neither
    let asked : ArtifactCapabilityVerification :=
      {purpose := claims.purpose,audience := claims.audience,now := some (max issued notBefore)}
    have grants : Grants claims asked := by
      constructor <;> simp [asked]
    have accepted := trips.accepted asked 0 (le_max_left _ _) (le_max_right _ _) (max_lt early order) grants
    rw [verify_dotted configured ok dotted] at accepted
    cases accepted
  · intro condition
    by_cases plain : '.' ∉ key.keyId.toList
    · constructor
      · intro expected clock late active valid grants
        have future : ¬ expected.now.getD clock + Workflow.ARTIFACT_CAPABILITY_MAX_FUTURE_MS < issued := by
          unfold Workflow.ARTIFACT_CAPABILITY_MAX_FUTURE_MS
          omega
        have same := mismatches_iff.mpr grants
        rw [verify_issued configured ok ring inside plain starts ends,if_neg future,if_neg (not_lt.mpr active),
          if_neg (not_le.mpr valid),same]
        rfl
      · intro expected clock away
        rw [verify_issued configured ok ring inside plain starts ends]
        split_ifs with future early late mismatch
        · exact ⟨_,rfl⟩
        · exact ⟨_,rfl⟩
        · exact ⟨_,rfl⟩
        · exact ⟨_,rfl⟩
        · obtain before | after_ := away
          · exact absurd before early
          · exact absurd after_ late
      · intro expected clock refused
        rw [verify_issued configured ok ring inside plain starts ends]
        split_ifs with future early late mismatch
        · exact ⟨_,rfl⟩
        · exact ⟨_,rfl⟩
        · exact ⟨_,rfl⟩
        · exact ⟨_,rfl⟩
        · exact absurd (mismatches_iff.mp (Bool.eq_false_iff.mpr mismatch)) refused
    · have dotted := not_not.mp plain
      have expired := condition.resolve_left plain
      constructor
      · intro expected clock late _ valid _
        exact absurd (late.trans_lt valid) (not_lt.mpr expired)
      · intro expected clock _
        exact ⟨denied,verify_dotted configured ok dotted expected clock⟩
      · intro expected clock _
        exact ⟨denied,verify_dotted configured ok dotted expected clock⟩

end

/-! ### A capability for half an hour -/

def halfHour : ArtifactCapabilityClaims where
  purpose := "agent-artifact-access"
  audience := "artifact-mcp"
  methods := ["artifact.get"]
  projectId := "p"
  runId := "r"
  stepId := "s"
  maxBytes := 1000
  maxCalls := 10
  maxCumulativeBytes := 1000
  expiresAt := "1970-01-01T00:30:00.000Z"
  notBefore := "1970-01-01T00:00:00.000Z"
  nonce := "0123456789abcdef"

def halfHourKey (keyId : String) : SigningKey := {keyId := keyId,secret := .text "0123456789abcdef0123456789abcdef"}

/-- The code of this capability under this secret, issued at the epoch under the name `k`. -/
def halfHourCode : Hmac := fun _ _ =>
  #v[63,132,8,85,169,209,87,77,228,51,19,145,234,232,160,56,
    149,122,183,64,47,67,95,25,217,163,101,242,88,189,12,33]

theorem halfHour_round_trips : ∃ token known, issue halfHourCode ("k",(halfHourKey "k").secret.read) halfHour 0 = .ok token ∧
    createArtifactCapabilityVerifier [halfHourKey "k"] = .ok known ∧
    ∃ notBefore expires, canonicalTime halfHour.notBefore = some notBefore ∧ canonicalTime halfHour.expiresAt = some expires ∧
      (RoundTrips halfHourCode known token halfHour 0 notBefore expires ↔ '.' ∉ ("k" : String).toList ∨ expires ≤ 0) := by
  have configured : configuredKey (halfHourKey "k") = .ok ("k",(halfHourKey "k").secret.read) := by rfl
  obtain ⟨token,signed⟩ : ∃ token, issue halfHourCode ("k",(halfHourKey "k").secret.read) halfHour 0 = .ok token :=
    exists_ok (by decide +kernel)
  obtain ⟨known,ring⟩ : ∃ known, createArtifactCapabilityVerifier [halfHourKey "k"] = .ok known := exists_ok (by decide +kernel)
  exact ⟨token,known,signed,ring,capability_tokens_round_trip_iff configured signed ring List.mem_cons_self⟩

/-- A key may be called `k.1`, and its tokens are refused from the start. -/
theorem dotted_key_refused : ∃ token known, issue halfHourCode ("k.1",(halfHourKey "k.1").secret.read) halfHour 0 = .ok token ∧
    createArtifactCapabilityVerifier [halfHourKey "k.1"] = .ok known ∧
    ¬ RoundTrips halfHourCode known token halfHour 0 0 1800000 := by
  have configured : configuredKey (halfHourKey "k.1") = .ok ("k.1",(halfHourKey "k.1").secret.read) := by rfl
  obtain ⟨token,signed⟩ : ∃ token, issue halfHourCode ("k.1",(halfHourKey "k.1").secret.read) halfHour 0 = .ok token :=
    exists_ok (by decide +kernel)
  obtain ⟨known,ring⟩ : ∃ known, createArtifactCapabilityVerifier [halfHourKey "k.1"] = .ok known := exists_ok (by decide +kernel)
  refine ⟨token,known,signed,ring,?_⟩
  intro trips
  have grants : Grants halfHour {purpose := "agent-artifact-access",audience := "artifact-mcp",now := some 0} := by
    constructor <;> simp [halfHour]
  have accepted := trips.accepted _ 0 (le_refl 0) (le_refl 0) (by decide) grants
  rw [verify_dotted configured signed (by decide)] at accepted
  cases accepted

end AgentOS.Artifacts.Capabilities
