import AgentOS.Library.Alone
import AgentOS.ManagedAgents.Sync

/-! Preparing a session's access: its files are uploaded, and a vault with a credential for the artifacts is made. What an earlier call
with the same key left is found again by the digests of the key and of the contents. -/
namespace AgentOS.ManagedAgents
open Library Routine
open OrderedMap (mem_entries get?_set mem_values)

/-! ### Names -/

structure AccessFile where
  filename : String
  mediaType : String
  bytes : List UInt8
  mountPath : String

structure AccessRequest where
  idempotencyKey : String
  mcpUrl : Option String := none
  bearerToken : Option String := none
  files : List AccessFile

structure AccessHashes where
  ofText : String → String
  ofBytes : List UInt8 → String
  length_ofBytes : ∀ bytes, (ofBytes bytes).length = 64

structure Url where
  protocol : String
  username : String
  password : String
  hash : String
  href : String

structure AccessLimits where
  maxRemoteResources : Nat := 1000
  maxAccessFileBytes : Nat := 32 * 1024 * 1024

structure AccessSetting where
  limits : AccessLimits := {}
  hashes : AccessHashes
  parseUrl : String → Option Url
  service : Service := {}

def safeCharacter (character : Char) : List Char :=
  if character.isAlphanum ∨ character ∈ ['.', '_', '-'] then [character]
  else if character.val ≤ 0xffff then ['-'] else ['-', '-']

def safeFilename (value : String) : String :=
  let sanitized := value.toList.flatMap safeCharacter
  let kept := sanitized.drop (sanitized.length - 96)
  if kept.isEmpty then "artifact.json" else String.ofList kept

def digestStart (digest : String) : String := String.ofList (digest.toList.take 16)

def accessFilename (hashes : AccessHashes) (idempotencyKey : String) (file : AccessFile) : String :=
  "agentos-" ++ digestStart (hashes.ofText idempotencyKey) ++ "-" ++ digestStart (hashes.ofBytes file.bytes) ++ "-" ++
    safeFilename file.filename

/-- The type of a new file: in lower case, and empty if a character is not printable. -/
def fileType (mediaType : String) : String :=
  if mediaType.toList.all fun character => 0x20 ≤ character.val ∧ character.val ≤ 0x7e then
    String.ofList (mediaType.toList.map Char.toLower)
  else ""

def validatedMcpUrl (parseUrl : String → Option Url) (value : String) : Except ProviderFault String :=
  match parseUrl value with
  | none => .error (.configuration "Artifact MCP URL is invalid")
  | some url =>
    if url.protocol ≠ "https:" ∨ url.username ≠ "" ∨ url.password ≠ "" ∨ url.hash ≠ "" then
      .error (.configuration "Artifact MCP URL is invalid")
    else .ok url.href

/-! ### The remote store -/

structure StoredFile where
  filename : String
  sizeBytes : Nat
  mimeType : String

structure StoredCredential where
  token : String
  mcpServerUrl : String
  accessKeyHash : Option String := none
  archived : Bool := false

structure StoredVault where
  displayName : String
  owner : Option String := none
  accessKeyHash : Option String := none
  archived : Bool := false
  credentials : OrderedMap String StoredCredential := .empty

structure AccessStore where
  files : OrderedMap String StoredFile := .empty
  vaults : OrderedMap String StoredVault := .empty
  tick : Nat := 0

abbrev AccessAction := Routine AccessStore ProviderFault

def ask {α : Type} (service : Service) (serve : AccessStore → Except ClientError α × AccessStore) : AccessAction α :=
  atomic fun store =>
    let served := serve store
    let answer := served.1.mapError providerError
    match service.outage store.tick with
    | .none => (answer,{served.2 with tick := store.tick + 1})
    | .refused error => (.error (providerError error),{store with tick := store.tick + 1})
    | .lost error => (.error (providerError error),{served.2 with tick := store.tick + 1})

def askNew (service : Service) (used : AccessStore → String → Bool) (placed : AccessStore → String → AccessStore) : AccessAction String :=
  ask service fun store =>
    let id := service.newId store.tick
    if used store id then (.error conflicting,store) else (.ok id,placed store id)

/-! ### Provisioning -/

structure MountedFile where
  fileId : String
  mountPath : String
  deriving DecidableEq

structure ManagedAgentsSessionAccess where
  resources : List MountedFile
  credentialRefs : List String
  deriving DecidableEq

def storedFile (hashes : AccessHashes) (idempotencyKey : String) (file : AccessFile) : StoredFile := {
  filename := accessFilename hashes idempotencyKey file
  sizeBytes := file.bytes.length
  mimeType := fileType file.mediaType }

def matchesFile (hashes : AccessHashes) (idempotencyKey : String) (file : AccessFile) (candidate : StoredFile) : Bool :=
  candidate.filename = accessFilename hashes idempotencyKey file && candidate.sizeBytes = file.bytes.length &&
    candidate.mimeType = file.mediaType

def storedVault (hashes : AccessHashes) (idempotencyKey : String) : StoredVault := {
  displayName := "agentos:" ++ idempotencyKey
  owner := some OWNER
  accessKeyHash := some (hashes.ofText idempotencyKey) }

def storedCredential (hashes : AccessHashes) (idempotencyKey token mcpServerUrl : String) : StoredCredential :=
  {token,mcpServerUrl,accessKeyHash := some (hashes.ofText idempotencyKey)}

def StoredVault.withCredential (vault : StoredVault) (id : String) (credential : StoredCredential) : StoredVault :=
  {vault with credentials := vault.credentials.set id credential}

section
variable (setting : AccessSetting)

def listFiles : AccessAction (List (String × StoredFile)) := do
  let listed ← ask setting.service fun store => (.ok store.files.entries,store)
  settle (collectBounded listed setting.limits.maxRemoteResources)

def uploadFile (file : StoredFile) : AccessAction String :=
  askNew setting.service (fun store id => (store.files.get? id).isSome) fun store id => {store with files := store.files.set id file}

def listVaults : AccessAction (List (String × StoredVault)) := do
  let listed ← ask setting.service fun store => (.ok (store.vaults.entries.filter fun entry => !entry.2.archived),store)
  settle (collectBounded listed setting.limits.maxRemoteResources)

def createVault (vault : StoredVault) : AccessAction String :=
  askNew setting.service (fun store id => (store.vaults.get? id).isSome) fun store id =>
    {store with vaults := store.vaults.set id vault}

def listCredentials (vaultId : String) : AccessAction (List (String × StoredCredential)) := do
  let listed ← ask setting.service fun store => match store.vaults.get? vaultId with
    | none => (.error notFound,store)
    | some vault => (.ok (vault.credentials.entries.filter fun entry => !entry.2.archived),store)
  settle (collectBounded listed 10)

def createCredential (vaultId : String) (credential : StoredCredential) : AccessAction Unit :=
  ask setting.service fun store => match store.vaults.get? vaultId with
    | none => (.error notFound,store)
    | some vault =>
      let id := setting.service.newId store.tick
      if (vault.credentials.get? id).isSome then (.error conflicting,store)
      else (.ok (),{store with vaults := store.vaults.set vaultId (vault.withCredential id credential)})

def mountFile (idempotencyKey : String) (listed : List (String × StoredFile)) (file : AccessFile) : AccessAction MountedFile :=
  if file.bytes.length > setting.limits.maxAccessFileBytes then throw (.limit "Access file exceeds maxAccessFileBytes")
  else match listed.filter fun entry => matchesFile setting.hashes idempotencyKey file entry.2 with
    | [] => do
      let fileId ← uploadFile setting (storedFile setting.hashes idempotencyKey file)
      pure {fileId,mountPath := file.mountPath}
    | [found] => pure {fileId := found.1,mountPath := file.mountPath}
    | _ => throw (.conflict "Duplicate Managed Agent access files")

def mountFiles (idempotencyKey : String) (listed : List (String × StoredFile)) : List AccessFile → AccessAction (List MountedFile)
  | [] => pure []
  | file::rest => do
    let mounted ← mountFile setting idempotencyKey listed file
    let others ← mountFiles idempotencyKey listed rest
    pure (mounted::others)

def accessVault (idempotencyKey : String) (vaults : List (String × StoredVault)) : AccessAction String :=
  match vaults.filter fun entry => entry.2.accessKeyHash = some (setting.hashes.ofText idempotencyKey) with
  | [] => createVault setting (storedVault setting.hashes idempotencyKey)
  | [found] => pure found.1
  | _ => throw (.conflict "Duplicate Managed Agent access vaults")

def ensureCredential (idempotencyKey bearerToken mcpUrl vaultId : String) (credentials : List (String × StoredCredential)) :
    AccessAction Unit :=
  match credentials.filter fun entry => entry.2.accessKeyHash = some (setting.hashes.ofText idempotencyKey) with
  | [] => createCredential setting vaultId (storedCredential setting.hashes idempotencyKey bearerToken mcpUrl)
  | [_] => pure ()
  | _ => throw (.conflict "Duplicate Managed Agent MCP credentials")

def provisionVault (idempotencyKey mcpUrl bearerToken : String) : AccessAction String := do
  let mcpUrl ← settle (validatedMcpUrl setting.parseUrl mcpUrl)
  let vaults ← listVaults setting
  let vaultId ← accessVault setting idempotencyKey vaults
  let credentials ← listCredentials setting vaultId
  ensureCredential setting idempotencyKey bearerToken mcpUrl vaultId credentials
  pure vaultId

def provisionSessionAccess (input : AccessRequest) : AccessAction ManagedAgentsSessionAccess := do
  settle (validateLocalId input.idempotencyKey "access.idempotencyKey")
  if input.mcpUrl.isNone ≠ input.bearerToken.isNone then
    throw (.configuration "MCP URL and bearer capability must be provided together")
  else do
    let listed ← listFiles setting
    let resources ← mountFiles setting input.idempotencyKey listed input.files
    match input.mcpUrl, input.bearerToken with
    | some mcpUrl, some bearerToken => do
      let vaultId ← provisionVault setting input.idempotencyKey mcpUrl bearerToken
      pure {resources,credentialRefs := [vaultId]}
    | _, _ => pure {resources,credentialRefs := []}

end

/-! ### What a request leaves -/

section
variable (hashes : AccessHashes) (input : AccessRequest)

/-- The store has a file under the id and under the name that the request gives the file. -/
def NamedFile (file : AccessFile) (store : AccessStore) (id : String) : Prop :=
  ∃ stored, store.files.get? id = some stored ∧ stored.filename = accessFilename hashes input.idempotencyKey file

def StoredVault.Keyed (vault : StoredVault) : Prop :=
  vault.archived = false ∧ vault.accessKeyHash = some (hashes.ofText input.idempotencyKey)

def StoredCredential.Keyed (credential : StoredCredential) : Prop :=
  credential.archived = false ∧ credential.accessKeyHash = some (hashes.ofText input.idempotencyKey)

/-- The store has once what requests of the key made. A file can be there twice if its media type is not kept as it is given. -/
structure HoldsOnce (store : AccessStore) : Prop where
  files : ∀ file ∈ input.files, ∀ id stored, store.files.get? id = some stored →
    stored.filename = accessFilename hashes input.idempotencyKey file → stored = storedFile hashes input.idempotencyKey file
  single : ∀ file ∈ input.files, fileType file.mediaType = file.mediaType → ∀ id other,
    NamedFile hashes input file store id → NamedFile hashes input file store other → id = other
  vaults : ∀ id other vault found, store.vaults.get? id = some vault → store.vaults.get? other = some found →
    vault.Keyed hashes input → found.Keyed hashes input → id = other
  credentials : ∀ id vault, store.vaults.get? id = some vault → vault.Keyed hashes input → ∀ first second credential found,
    vault.credentials.get? first = some credential → vault.credentials.get? second = some found →
      credential.Keyed hashes input → found.Keyed hashes input → first = second

def AddsCredential (start : OrderedMap String StoredCredential) (credential : StoredCredential) : Prop :=
  credential.Keyed hashes input ∧ ∀ id found, start.get? id = some found → ¬ found.Keyed hashes input

structure Extends (vault later : StoredVault) : Prop where
  archived : later.archived = vault.archived
  accessKeyHash : later.accessKeyHash = vault.accessKeyHash
  credentials : OrderedMap.Gains Eq (AddsCredential hashes input vault.credentials) (fun _ _ => True) vault.credentials later.credentials

def AddsFile (start : AccessStore) (stored : StoredFile) : Prop := ∃ file ∈ input.files,
  stored = storedFile hashes input.idempotencyKey file ∧
    ∀ id found, start.files.get? id = some found → matchesFile hashes input.idempotencyKey file found = false

def AddsVault (start : AccessStore) (vault : StoredVault) : Prop :=
  Extends hashes input (storedVault hashes input.idempotencyKey) vault ∧
    ∀ id found, start.vaults.get? id = some found → ¬ found.Keyed hashes input

/-- The store has everything still that it had at the start of a call, and no more than what the call may add. -/
structure Grown (start now : AccessStore) : Prop where
  files : OrderedMap.Gains Eq (AddsFile hashes input start) (fun stored found => stored.filename = found.filename) start.files now.files
  vaults : OrderedMap.Gains (Extends hashes input) (AddsVault hashes input start) (fun _ _ => True) start.vaults now.vaults

end

section
variable {hashes : AccessHashes} {input : AccessRequest} {start now : AccessStore}

theorem Extends.refl (vault : StoredVault) : Extends hashes input vault vault := ⟨rfl,rfl,.refl (fun _ => rfl) _⟩

variable {vault later : StoredVault}

theorem Extends.keyed (extends_ : Extends hashes input vault later) : later.Keyed hashes input ↔ vault.Keyed hashes input := by
  unfold StoredVault.Keyed
  rw [extends_.archived,extends_.accessKeyHash]

theorem storedVault_keyed : (storedVault hashes input.idempotencyKey).Keyed hashes input := ⟨rfl,rfl⟩

theorem Extends.single (extends_ : Extends hashes input vault later)
    (single : ∀ first second credential found, vault.credentials.get? first = some credential → vault.credentials.get? second = some found →
      credential.Keyed hashes input → found.Keyed hashes input → first = second) :
    ∀ first second credential found, later.credentials.get? first = some credential → later.credentials.get? second = some found →
      credential.Keyed hashes input → found.Keyed hashes input → first = second :=
  extends_.credentials.single _ single (fun _ _ same kind => same ▸ kind) (fun _ added _ => added.2) fun _ _ _ _ => trivial

theorem Grown.refl (start : AccessStore) : Grown hashes input start start := ⟨.refl (fun _ => rfl) _,.refl Extends.refl _⟩

theorem names_apart (distinct : (input.files.map AccessFile.bytes).Nodup) (digests : ∀ first ∈ input.files, ∀ second ∈ input.files,
      digestStart (hashes.ofBytes first.bytes) = digestStart (hashes.ofBytes second.bytes) → first.bytes = second.bytes) :
    (input.files.map (accessFilename hashes input.idempotencyKey)).Nodup := by
  apply List.Nodup.map_on
  · intro first inside second within same
    have joined := congrArg String.toList same
    unfold accessFilename at joined
    simp only [String.toList_append,List.append_assoc] at joined
    have parts := List.append_cancel_left (List.append_cancel_left (List.append_cancel_left joined))
    have length (bytes : List UInt8) : (digestStart (hashes.ofBytes bytes)).toList.length = 16 := by
      have long := hashes.length_ofBytes bytes
      rw [← String.length_toList] at long
      simp [digestStart,List.length_take,long]
    have starts := (List.append_inj parts ((length first.bytes).trans (length second.bytes).symm)).1
    exact List.inj_on_of_nodup_map distinct inside within (digests first inside second within (String.toList_inj.mp starts))
  · exact distinct.of_map _

theorem HoldsOnce.grown (once : HoldsOnce hashes input start)
    (apart : (input.files.map (accessFilename hashes input.idempotencyKey)).Nodup) (grown : Grown hashes input start now) :
    HoldsOnce hashes input now := by
  have files : ∀ file ∈ input.files, ∀ stored, AddsFile hashes input start stored →
      stored.filename = accessFilename hashes input.idempotencyKey file → stored = storedFile hashes input.idempotencyKey file ∧
        ∀ id found, start.files.get? id = some found → matchesFile hashes input.idempotencyKey file found = false := by
    rintro file inside _ ⟨other,within,rfl,unmatched⟩ named
    cases List.inj_on_of_nodup_map apart within inside named
    exact ⟨rfl,unmatched⟩
  constructor
  · intro file inside id stored held named
    cases early : start.files.get? id with
    | none => exact (files file inside stored (grown.files.added id stored held early) named).1
    | some before =>
      obtain ⟨later,at_,rfl⟩ := grown.files.kept id before early
      cases held.symm.trans at_
      exact once.files file inside id _ early named
  · intro file inside plain id other ⟨stored,held,named⟩ ⟨found,at_,too⟩
    refine grown.files.single (fun stored => stored.filename = accessFilename hashes input.idempotencyKey file)
      ?_ ?_ ?_ ?_ id other stored found held at_ named too
    · exact fun first second left right atFirst atSecond isFirst isSecond =>
        once.single file inside plain first second ⟨left,atFirst,isFirst⟩ ⟨right,atSecond,isSecond⟩
    · intro _ _ same named
      rw [same]
      exact named
    · intro stored added named key found held too
      have unmatched := (files file inside stored added named).2 key found held
      rw [once.files file inside key found held too] at unmatched
      simp [matchesFile,storedFile,plain] at unmatched
    · exact fun _ _ named too => named.trans too.symm
  · exact grown.vaults.single _ once.vaults (fun _ _ extends_ keyed => extends_.keyed.mp keyed) (fun _ added _ => added.2)
      fun _ _ _ _ => trivial
  · intro id vault held keyed
    cases early : start.vaults.get? id with
    | none =>
      refine (grown.vaults.added id vault held early).1.single ?_
      intro first _ credential _ impossible
      cases impossible
    | some before =>
      obtain ⟨later,at_,extends_⟩ := grown.vaults.kept id before early
      cases held.symm.trans at_
      exact extends_.single (once.credentials id before early (extends_.keyed.mp keyed))

end

/-! ### What a call does -/

def Undisputed (fault : ProviderFault) : Prop :=
  fault ≠ .conflict "Duplicate Managed Agent access files" ∧ fault ≠ .conflict "Duplicate Managed Agent access vaults" ∧
    fault ≠ .conflict "Duplicate Managed Agent MCP credentials"

/-- The file that stands for one of the request: one that matched it at the start, or a new one where none did. -/
def Mounted (hashes : AccessHashes) (input : AccessRequest) (start : AccessStore) (file : AccessFile) (mounted : MountedFile) : Prop :=
  (∃ stored, start.files.get? mounted.fileId = some stored ∧ matchesFile hashes input.idempotencyKey file stored = true) ∨
    start.files.get? mounted.fileId = none ∧
      ∀ id found, start.files.get? id = some found → matchesFile hashes input.idempotencyKey file found = false

/-- The vault that stands for the key: one that was there at the start, or a new one where none was. -/
def Vaulted (hashes : AccessHashes) (input : AccessRequest) (start : AccessStore) (id : String) : Prop :=
  (∃ vault, start.vaults.get? id = some vault ∧ vault.Keyed hashes input) ∨
    start.vaults.get? id = none ∧ ∀ other found, start.vaults.get? other = some found → ¬ found.Keyed hashes input

section
variable {setting : AccessSetting} {input : AccessRequest} {start store : AccessStore} {α : Type}

variable {vault : StoredVault} {service : Service} {post : α → AccessStore → Prop} {good : AccessStore → Prop}

theorem attempts_ask {serve : AccessStore → Except ClientError α × AccessStore}
    (quiet : good {store with tick := store.tick + 1}) (kept : good {(serve store).2 with tick := store.tick + 1})
    (answers : ∀ value, (serve store).1 = .ok value → post value {(serve store).2 with tick := store.tick + 1}) :
    (ask service serve).Attempts good Undisputed post store := by
  have undisputed (error : ClientError) : Undisputed (providerError error) := ⟨nofun,nofun,nofun⟩
  apply attempts_atomic
  · dsimp only
    split
    · exact kept
    · exact quiet
    · exact kept
  · intro value ended
    dsimp only at ended ⊢
    split at ended
    · cases served : (serve store).1 with
      | ok found =>
        rw [served] at ended
        cases ended
        exact answers value served
      | error error =>
        rw [served] at ended
        cases ended
    · cases ended
    · cases ended
  · intro fault ended
    dsimp only at ended
    split at ended
    · cases served : (serve store).1 with
      | ok found =>
        rw [served] at ended
        cases ended
      | error error =>
        rw [served] at ended
        cases ended
        exact undisputed error
    · cases ended
      exact undisputed _
    · cases ended
      exact undisputed _

theorem Grown.ticked {hashes : AccessHashes} {now : AccessStore} (grown : Grown hashes input start now) (tick : Nat) :
    Grown hashes input start {now with tick} := ⟨grown.files,grown.vaults⟩

theorem attempts_read {read : AccessStore → Except ClientError α} {hashes : AccessHashes} (grown : Grown hashes input start store)
    (answers : ∀ value, read store = .ok value → post value {store with tick := store.tick + 1}) :
    (ask service fun store => (read store,store)).Attempts (Grown hashes input start) Undisputed post store :=
  attempts_ask (grown.ticked _) (grown.ticked _) answers

theorem attempts_askNew {post : String → AccessStore → Prop} {used : AccessStore → String → Bool}
    {placed : AccessStore → String → AccessStore} {hashes : AccessHashes} (grown : Grown hashes input start store)
    (places : ∀ id, used store id = false → Grown hashes input start (placed store id) ∧
      post id {placed store id with tick := store.tick + 1}) :
    (askNew service used placed).Attempts (Grown hashes input start) Undisputed post store := by
  apply attempts_ask (grown.ticked _)
  · dsimp only
    split
    · exact grown.ticked _
    · rename_i fresh
      exact (places _ (by simpa using fresh)).1.ticked _
  · intro id answered
    dsimp only at answered ⊢
    split at answered
    · cases answered
    · rename_i fresh
      cases answered
      rw [if_neg fresh]
      exact (places _ (by simpa using fresh)).2

theorem attempts_collected {β : Type} {listed : List β} {limit : Nat} {post : List β → AccessStore → Prop}
    (answers : post listed store) : (settle (collectBounded listed limit)).Attempts good Undisputed post store := by
  unfold collectBounded
  split
  · exact (⟨nofun,nofun,nofun⟩ : Undisputed (.limit "Remote resource pagination limit exceeded"))
  · exact answers

theorem attempts_mountFile {file : AccessFile} (once : HoldsOnce setting.hashes input start) (inside : file ∈ input.files)
    (grown : Grown setting.hashes input start store)
    -- No file of the name was added yet.
    (ahead : ∀ id stored, store.files.get? id = some stored → start.files.get? id = none →
      stored.filename ≠ accessFilename setting.hashes input.idempotencyKey file) :
    (mountFile setting input.idempotencyKey start.files.entries file).Attempts (Grown setting.hashes input start) Undisputed
      (fun mounted after => Grown setting.hashes input start after ∧ Mounted setting.hashes input start file mounted ∧
        after.vaults = store.vaults ∧ ∀ id stored, after.files.get? id = some stored → store.files.get? id = some stored ∨
          stored.filename = accessFilename setting.hashes input.idempotencyKey file) store := by
  unfold mountFile
  split
  · exact attempts_throw ⟨nofun,nofun,nofun⟩
  have single : ∀ key other value found, start.files.get? key = some value → start.files.get? other = some found →
      matchesFile setting.hashes input.idempotencyKey file value → matchesFile setting.hashes input.idempotencyKey file found →
      key = other := by
    intro key other value found held at_ matched too
    simp only [matchesFile,Bool.and_eq_true,decide_eq_true_eq] at matched too
    have stored := once.files file inside key value held matched.1.1
    have plain : fileType file.mediaType = file.mediaType := (congrArg StoredFile.mimeType stored).symm.trans matched.2
    exact once.single file inside plain key other ⟨value,held,matched.1.1⟩ ⟨found,at_,too.1.1⟩
  have unmatched (none_ : (start.files.entries.filter fun entry => matchesFile setting.hashes input.idempotencyKey file entry.2) = []) :
      ∀ id found, start.files.get? id = some found → matchesFile setting.hashes input.idempotencyKey file found = false := by
    intro id found held
    have not := List.filter_eq_nil_iff.mp none_ (id,found) ((mem_entries _ _ _).mpr held)
    simpa using not
  have found : (start.files.entries.filter fun entry => matchesFile setting.hashes input.idempotencyKey file entry.2) = [] ∨
      ∃ entry, (start.files.entries.filter fun entry => matchesFile setting.hashes input.idempotencyKey file entry.2) = [entry] :=
    start.files.filter_single single
  obtain none_ | ⟨entry,one⟩ := found
  · rw [none_]
    refine attempts_bind (fun fileId after => Grown setting.hashes input start after ∧ start.files.get? fileId = none ∧
      after.vaults = store.vaults ∧ ∀ id stored, after.files.get? id = some stored → store.files.get? id = some stored ∨
        stored.filename = accessFilename setting.hashes input.idempotencyKey file) ?_ ?_
    · apply attempts_askNew grown
      intro id unused
      have fresh : store.files.get? id = none := Option.isSome_eq_false_iff.mp unused |> Option.isNone_iff_eq_none.mp
      have placed : Grown setting.hashes input start
          {store with files := store.files.set id (storedFile setting.hashes input.idempotencyKey file)} := by
        refine ⟨grown.files.add fresh ⟨file,inside,rfl,unmatched none_⟩ ?_,grown.vaults⟩
        intro other stored held absent
        exact ⟨fun same => ahead other stored held absent same.symm,fun same => ahead other stored held absent same⟩
      refine ⟨placed,placed.ticked _,?_,rfl,?_⟩
      · cases early : start.files.get? id with
        | none => rfl
        | some stored =>
          obtain ⟨_,held,_⟩ := grown.files.kept id stored early
          rw [fresh] at held
          cases held
      · intro other stored held
        dsimp only at held
        rw [get?_set] at held
        split at held
        · cases held
          exact .inr rfl
        · exact .inl held
    · rintro fileId after ⟨grown,fresh,vaults,files⟩
      exact attempts_pure ⟨grown,.inr ⟨fresh,unmatched none_⟩,vaults,files⟩
  · rw [one]
    have held := List.mem_filter.mp (one ▸ List.mem_singleton_self entry :
      entry ∈ start.files.entries.filter fun entry => matchesFile setting.hashes input.idempotencyKey file entry.2)
    exact attempts_pure ⟨grown,.inl ⟨entry.2,(mem_entries _ _ _).mp held.1,held.2⟩,rfl,fun _ _ held => .inl held⟩

theorem attempts_mountFiles (once : HoldsOnce setting.hashes input start) {files : List AccessFile} (inside : ∀ file ∈ files, file ∈ input.files)
    (apart : (files.map (accessFilename setting.hashes input.idempotencyKey)).Nodup) (grown : Grown setting.hashes input start store)
    (ahead : ∀ file ∈ files, ∀ id stored, store.files.get? id = some stored → start.files.get? id = none →
      stored.filename ≠ accessFilename setting.hashes input.idempotencyKey file) :
    (mountFiles setting input.idempotencyKey start.files.entries files).Attempts (Grown setting.hashes input start) Undisputed
      (fun resources after => Grown setting.hashes input start after ∧
        List.Forall₂ (Mounted setting.hashes input start) files resources ∧ after.vaults = store.vaults) store := by
  induction files generalizing store with
  | nil => exact attempts_pure ⟨grown,.nil,rfl⟩
  | cons file rest ih =>
    obtain ⟨first,others⟩ := List.nodup_cons.mp apart
    refine attempts_bind _ (attempts_mountFile once (inside file List.mem_cons_self) grown (ahead file List.mem_cons_self)) ?_
    rintro mounted after ⟨grown,one,vaults,files⟩
    refine attempts_bind _ (ih (fun other within => inside other (List.mem_cons_of_mem _ within)) others grown ?_) ?_
    · intro other within id stored held absent same
      obtain earlier | named := files id stored held
      · exact ahead other (List.mem_cons_of_mem _ within) id stored earlier absent same
      · exact first (List.mem_map.mpr ⟨other,within,same.symm.trans named⟩)
    · rintro resources last ⟨grown,all,still⟩
      exact attempts_pure ⟨grown,.cons one all,still.trans vaults⟩

theorem Extends.withCredential {hashes : AccessHashes} {id : String} {credential : StoredCredential}
    (fresh : vault.credentials.get? id = none) (adds : AddsCredential hashes input vault.credentials credential) :
    Extends hashes input vault (vault.withCredential id credential) := by
  refine ⟨rfl,rfl,OrderedMap.Gains.add (.refl (fun _ => rfl) _) fresh adds ?_⟩
  intro other found held absent
  rw [held] at absent
  cases absent

/-- A vault of the key at this moment: one of the start, or a new one where there was none. -/
def VaultHeld (hashes : AccessHashes) (input : AccessRequest) (start now : AccessStore) (id : String) (vault : StoredVault) : Prop :=
  now.vaults.get? id = some vault ∧ vault.Keyed hashes input ∧ (start.vaults.get? id = some vault ∨
    start.vaults.get? id = none ∧ vault = storedVault hashes input.idempotencyKey ∧
      ∀ other found, start.vaults.get? other = some found → ¬ found.Keyed hashes input)

theorem attempts_accessVault (once : HoldsOnce setting.hashes input start) (grown : Grown setting.hashes input start store)
    (still : store.vaults = start.vaults) :
    (accessVault setting input.idempotencyKey (start.vaults.entries.filter fun entry => !entry.2.archived)).Attempts
      (Grown setting.hashes input start) Undisputed
      (fun id after => Grown setting.hashes input start after ∧ ∃ vault, VaultHeld setting.hashes input start after id vault) store := by
  unfold accessVault
  rw [List.filter_filter]
  have keyed (vault : StoredVault) : (decide (vault.accessKeyHash = some (setting.hashes.ofText input.idempotencyKey)) &&
      !vault.archived) = true ↔ vault.Keyed setting.hashes input := by
    unfold StoredVault.Keyed
    rw [Bool.and_eq_true,decide_eq_true_eq,Bool.not_eq_true']
    exact and_comm
  have found : (start.vaults.entries.filter fun entry => decide (entry.2.accessKeyHash =
      some (setting.hashes.ofText input.idempotencyKey)) && !entry.2.archived) = [] ∨ ∃ entry, (start.vaults.entries.filter fun entry =>
        decide (entry.2.accessKeyHash = some (setting.hashes.ofText input.idempotencyKey)) && !entry.2.archived) = [entry] :=
    start.vaults.filter_single fun id other vault found held at_ is too =>
      once.vaults id other vault found held at_ ((keyed vault).mp is) ((keyed found).mp too)
  obtain none_ | ⟨entry,one⟩ := found
  · rw [none_]
    have unkeyed : ∀ other found, start.vaults.get? other = some found → ¬ found.Keyed setting.hashes input := by
      intro other found held is
      exact List.filter_eq_nil_iff.mp none_ (other,found) ((mem_entries _ _ _).mpr held) ((keyed found).mpr is)
    apply attempts_askNew grown
    intro id unused
    have fresh : store.vaults.get? id = none := Option.isNone_iff_eq_none.mp (Option.isSome_eq_false_iff.mp unused)
    have placed : Grown setting.hashes input start
        {store with vaults := store.vaults.set id (storedVault setting.hashes input.idempotencyKey)} := by
      refine ⟨grown.files,grown.vaults.add fresh ⟨.refl _,unkeyed⟩ ?_⟩
      intro other found held absent
      rw [still,absent] at held
      cases held
    refine ⟨placed,placed.ticked _,storedVault setting.hashes input.idempotencyKey,?_,storedVault_keyed,?_⟩
    · exact (get?_set _ _ _ _).trans (if_pos rfl)
    · exact .inr ⟨still ▸ fresh,rfl,unkeyed⟩
  · rw [one]
    have held := List.mem_filter.mp (one ▸ List.mem_singleton_self entry : entry ∈ start.vaults.entries.filter fun entry =>
      decide (entry.2.accessKeyHash = some (setting.hashes.ofText input.idempotencyKey)) && !entry.2.archived)
    have at_ := (mem_entries _ _ _).mp held.1
    exact attempts_pure ⟨grown,entry.2,still ▸ at_,(keyed entry.2).mp held.2,.inl at_⟩

def Credentialed (hashes : AccessHashes) (input : AccessRequest) (start now : AccessStore) (bearerToken id : String) : Prop :=
  ∃ vault, now.vaults.get? id = some vault ∧ vault.Keyed hashes input ∧ ∃ credentialId credential,
    vault.credentials.get? credentialId = some credential ∧ credential.Keyed hashes input ∧ (credential.token = bearerToken ∨
      ∃ early, start.vaults.get? id = some early ∧ early.Keyed hashes input ∧ early.credentials.get? credentialId = some credential)

theorem attempts_ensureCredential {bearerToken mcpUrl id : String} (once : HoldsOnce setting.hashes input start)
    (grown : Grown setting.hashes input start store) (held : VaultHeld setting.hashes input start store id vault) :
    (ensureCredential setting input.idempotencyKey bearerToken mcpUrl id
      (vault.credentials.entries.filter fun entry => !entry.2.archived)).Attempts (Grown setting.hashes input start) Undisputed
      (fun _ after => Grown setting.hashes input start after ∧ Credentialed setting.hashes input start after bearerToken id) store := by
  obtain ⟨at_,isKeyed,origin⟩ := held
  unfold ensureCredential
  rw [List.filter_filter]
  have keyed (credential : StoredCredential) : (decide (credential.accessKeyHash =
      some (setting.hashes.ofText input.idempotencyKey)) && !credential.archived) = true ↔ credential.Keyed setting.hashes input := by
    unfold StoredCredential.Keyed
    rw [Bool.and_eq_true,decide_eq_true_eq,Bool.not_eq_true']
    exact and_comm
  have single : ∀ first second credential found, vault.credentials.get? first = some credential →
      vault.credentials.get? second = some found → credential.Keyed setting.hashes input → found.Keyed setting.hashes input →
        first = second := by
    obtain early | ⟨_,rfl,_⟩ := origin
    · exact once.credentials id vault early isKeyed
    · intro first _ credential _ impossible
      cases impossible
  have found : (vault.credentials.entries.filter fun entry => decide (entry.2.accessKeyHash =
      some (setting.hashes.ofText input.idempotencyKey)) && !entry.2.archived) = [] ∨ ∃ entry, (vault.credentials.entries.filter
        fun entry => decide (entry.2.accessKeyHash = some (setting.hashes.ofText input.idempotencyKey)) && !entry.2.archived) = [entry] :=
    vault.credentials.filter_single fun first second credential found held at_ is too =>
      single first second credential found held at_ ((keyed credential).mp is) ((keyed found).mp too)
  obtain none_ | ⟨entry,one⟩ := found
  · rw [none_]
    have adds : AddsCredential setting.hashes input vault.credentials
        (storedCredential setting.hashes input.idempotencyKey bearerToken mcpUrl) := by
      refine ⟨⟨rfl,rfl⟩,fun other found held is => ?_⟩
      exact List.filter_eq_nil_iff.mp none_ (other,found) ((mem_entries _ _ _).mpr held) ((keyed found).mpr is)
    have replaced (credentialId : String) (fresh : vault.credentials.get? credentialId = none) (tick : Nat) :
        Grown setting.hashes input start {store with
          vaults := store.vaults.set id (vault.withCredential credentialId
            (storedCredential setting.hashes input.idempotencyKey bearerToken mcpUrl))
          tick} := by
      have extends_ := Extends.withCredential fresh adds
      refine ⟨grown.files,grown.vaults.replace at_ ?_ ?_ fun _ => ⟨fun clash => clash,fun clash => clash⟩⟩
      · intro early was
        obtain same | ⟨absent,_⟩ := origin
        · cases was.symm.trans same
          exact extends_
        · rw [absent] at was
          cases was
      · intro absent
        obtain was | ⟨_,rfl,unkeyed⟩ := origin
        · rw [was] at absent
          cases absent
        · exact ⟨extends_,unkeyed⟩
    apply attempts_ask (grown.ticked _)
    · rw [at_]
      dsimp only
      split
      · exact grown.ticked _
      · rename_i fresh
        exact replaced _ (by simpa using fresh) _
    · rintro ⟨⟩ answered
      rw [at_] at answered ⊢
      dsimp only at answered ⊢
      split at answered
      · cases answered
      · rename_i fresh
        rw [if_neg fresh]
        refine ⟨replaced _ (by simpa using fresh) _,_,(get?_set _ _ _ _).trans (if_pos rfl),isKeyed,_,_,
          (get?_set _ _ _ _).trans (if_pos rfl),adds.1,.inl rfl⟩
  · rw [one]
    have inside := List.mem_filter.mp (one ▸ List.mem_singleton_self entry : entry ∈ vault.credentials.entries.filter fun entry =>
      decide (entry.2.accessKeyHash = some (setting.hashes.ofText input.idempotencyKey)) && !entry.2.archived)
    have there := (mem_entries _ _ _).mp inside.1
    refine attempts_pure ⟨grown,vault,at_,isKeyed,entry.1,entry.2,there,(keyed entry.2).mp inside.2,.inr ?_⟩
    obtain early | ⟨_,rfl,_⟩ := origin
    · exact ⟨vault,early,isKeyed,there⟩
    · cases there

theorem VaultHeld.vaulted {hashes : AccessHashes} {now : AccessStore} {id : String}
    (held : VaultHeld hashes input start now id vault) : Vaulted hashes input start id := by
  obtain ⟨_,keyed,early | ⟨absent,_,unkeyed⟩⟩ := held
  · exact .inl ⟨vault,early,keyed⟩
  · exact .inr ⟨absent,unkeyed⟩

theorem attempts_provisionVault {bearerToken mcpUrl : String} (once : HoldsOnce setting.hashes input start)
    (grown : Grown setting.hashes input start store) (still : store.vaults = start.vaults) :
    (provisionVault setting input.idempotencyKey mcpUrl bearerToken).Attempts (Grown setting.hashes input start) Undisputed
      (fun id after => Vaulted setting.hashes input start id ∧ Credentialed setting.hashes input start after bearerToken id) store := by
  refine attempts_settled (fun url _ => ?_) ?_
  · refine attempts_bind (fun vaults after => Grown setting.hashes input start after ∧ after.vaults = start.vaults ∧
      vaults = start.vaults.entries.filter fun entry => !entry.2.archived) ?_ ?_
    · refine attempts_bind (fun vaults after => Grown setting.hashes input start after ∧ after.vaults = start.vaults ∧
        vaults = start.vaults.entries.filter fun entry => !entry.2.archived) ?_ fun _ _ same => attempts_collected same
      apply attempts_read grown
      intro vaults answered
      cases answered
      exact ⟨grown.ticked _,still,by rw [still]⟩
    · rintro _ after ⟨grown,still,rfl⟩
      refine attempts_bind _ (attempts_accessVault once grown still) ?_
      rintro id after ⟨grown,vault,held⟩
      refine attempts_bind (fun credentials after => Grown setting.hashes input start after ∧
        VaultHeld setting.hashes input start after id vault ∧
        credentials = vault.credentials.entries.filter fun entry => !entry.2.archived) ?_ ?_
      · refine attempts_bind (fun credentials after => Grown setting.hashes input start after ∧
          VaultHeld setting.hashes input start after id vault ∧
          credentials = vault.credentials.entries.filter fun entry => !entry.2.archived) ?_ fun _ _ same => attempts_collected same
        apply attempts_ask (grown.ticked _)
        · rw [held.1]
          exact grown.ticked _
        · intro credentials answered
          rw [held.1] at answered ⊢
          cases answered
          exact ⟨grown.ticked _,held,rfl⟩
      · rintro _ after ⟨grown,held,rfl⟩
        refine attempts_bind _ (attempts_ensureCredential once grown held) ?_
        rintro _ after ⟨_,credentialed⟩
        exact attempts_pure ⟨held.vaulted,credentialed⟩
  · intro fault failed
    unfold validatedMcpUrl at failed
    split at failed
    · cases failed
      exact ⟨nofun,nofun,nofun⟩
    · split at failed
      · cases failed
        exact ⟨nofun,nofun,nofun⟩
      · cases failed

structure Answers (hashes : AccessHashes) (input : AccessRequest) (start : AccessStore) (access : ManagedAgentsSessionAccess)
    (after : AccessStore) : Prop where
  files : List.Forall₂ (Mounted hashes input start) input.files access.resources
  vault : ∀ mcpUrl bearerToken, input.mcpUrl = some mcpUrl → input.bearerToken = some bearerToken →
    ∃ id, access.credentialRefs = [id] ∧ Vaulted hashes input start id ∧ Credentialed hashes input start after bearerToken id

theorem attempts_provisionSessionAccess (once : HoldsOnce setting.hashes input start)
    (apart : (input.files.map (accessFilename setting.hashes input.idempotencyKey)).Nodup) :
    (provisionSessionAccess setting input).Attempts (Grown setting.hashes input start) Undisputed
      (Answers setting.hashes input start) start := by
  refine attempts_settled (fun _ _ => ?_) ?_
  · split
    · exact attempts_throw ⟨nofun,nofun,nofun⟩
    refine attempts_bind (fun listed after => Grown setting.hashes input start after ∧ after.files = start.files ∧
      after.vaults = start.vaults ∧ listed = start.files.entries) ?_ ?_
    · refine attempts_bind (fun listed after => Grown setting.hashes input start after ∧ after.files = start.files ∧
        after.vaults = start.vaults ∧ listed = start.files.entries) ?_ fun _ _ same => attempts_collected same
      apply attempts_read (.refl start)
      intro listed answered
      cases answered
      exact ⟨(Grown.refl start).ticked _,rfl,rfl,rfl⟩
    · rintro _ after ⟨grown,files,still,rfl⟩
      refine attempts_bind _ (attempts_mountFiles once (fun _ inside => inside) apart grown ?_) ?_
      · intro file _ id stored held absent
        rw [files,absent] at held
        cases held
      · rintro resources last ⟨grown,mounted,same⟩
        cases url : input.mcpUrl with
        | none =>
          refine attempts_pure ⟨mounted,fun mcpUrl _ given => ?_⟩
          rw [url] at given
          cases given
        | some mcpUrl =>
          cases token : input.bearerToken with
          | none =>
            refine attempts_pure ⟨mounted,fun _ bearerToken _ given => ?_⟩
            rw [token] at given
            cases given
          | some bearerToken =>
            refine attempts_bind _ (attempts_provisionVault once grown (same.trans still)) ?_
            rintro id final ⟨vaulted,credentialed⟩
            refine attempts_pure ⟨mounted,fun _ given _ same => ?_⟩
            cases token.symm.trans same
            exact ⟨id,rfl,vaulted,credentialed⟩
  · intro fault failed
    unfold validateLocalId at failed
    dsimp only at failed
    split at failed
    · cases failed
      exact ⟨nofun,nofun,nofun⟩
    · cases failed

end

/-! ### Calls that die and calls that follow -/

section
variable (setting : AccessSetting) (input : AccessRequest)

structure Untouched (store : AccessStore) : Prop where
  files : ∀ file ∈ input.files, ∀ id, ¬ NamedFile setting.hashes input file store id
  vaults : ∀ id vault, store.vaults.get? id = some vault → ¬ vault.Keyed setting.hashes input

structure LeavesAccess (before after : AccessStore) : Prop where
  files : ∀ file ∈ input.files, ∀ id stored, stored.filename = accessFilename setting.hashes input.idempotencyKey file →
    (after.files.get? id = some stored ↔ before.files.get? id = some stored)
  vaults : ∀ id vault, vault.Keyed setting.hashes input → (after.vaults.get? id = some vault ↔ before.vaults.get? id = some vault)

/-- Calls with the key and the files that each die somewhere or run to their end, with the deeds of others between them. -/
inductive Provisioned (initial : AccessStore) : AccessStore → Prop where
  | start : Provisioned initial initial
  | call {store : AccessStore} (ran : Provisioned initial store) (mcpUrl bearerToken : Option String) (service : Service) (steps : Nat) :
    Provisioned initial ((provisionSessionAccess {setting with service} {input with mcpUrl,bearerToken}).cut steps store)
  | others {store after : AccessStore} (ran : Provisioned initial store) (leaves : LeavesAccess setting input store after) :
    Provisioned initial after

/-- A further call gives what an earlier one made, makes nothing twice, finds no duplicate, and its token is the credential's. -/
structure Repeats (store after : AccessStore) (answer : Except ProviderFault ManagedAgentsSessionAccess) : Prop where
  files : ∀ access, answer = .ok access →
    List.Forall₂ (fun file mounted => ∀ id, NamedFile setting.hashes input file store id → mounted.fileId = id) input.files access.resources
  vault : ∀ access, answer = .ok access → input.mcpUrl.isSome → ∀ id vault, store.vaults.get? id = some vault →
    vault.Keyed setting.hashes input → access.credentialRefs = [id]
  oneFile : ∀ file ∈ input.files, ∀ id other, NamedFile setting.hashes input file after id → NamedFile setting.hashes input file after other →
    id = other
  oneVault : ∀ id other vault found, after.vaults.get? id = some vault → after.vaults.get? other = some found →
    vault.Keyed setting.hashes input → found.Keyed setting.hashes input → id = other
  oneCredential : ∀ id vault, after.vaults.get? id = some vault → vault.Keyed setting.hashes input → ∀ first second credential found,
    vault.credentials.get? first = some credential → vault.credentials.get? second = some found →
      credential.Keyed setting.hashes input → found.Keyed setting.hashes input → first = second
  undisputed : ∀ fault, answer = .error fault → Undisputed fault
  token : ∀ access mcpUrl bearerToken, answer = .ok access → input.mcpUrl = some mcpUrl → input.bearerToken = some bearerToken →
    ∃ id vault credentialId credential, access.credentialRefs = [id] ∧ after.vaults.get? id = some vault ∧
      vault.Keyed setting.hashes input ∧ vault.credentials.get? credentialId = some credential ∧
      credential.Keyed setting.hashes input ∧ credential.token = bearerToken

def Recognised (store : AccessStore) : Prop := ∀ file ∈ input.files, ∀ id, NamedFile setting.hashes input file store id →
  fileType file.mediaType = file.mediaType

def SameToken (store : AccessStore) : Prop := ∀ mcpUrl bearerToken, input.mcpUrl = some mcpUrl → input.bearerToken = some bearerToken →
  ∀ id vault, store.vaults.get? id = some vault → vault.Keyed setting.hashes input → ∀ credentialId credential,
    vault.credentials.get? credentialId = some credential → credential.Keyed setting.hashes input → credential.token = bearerToken

end

section
variable {setting : AccessSetting} {input : AccessRequest} {initial store after : AccessStore}

theorem Untouched.once (untouched : Untouched setting input store) : HoldsOnce setting.hashes input store := by
  constructor
  · exact fun file inside id stored held named => absurd ⟨stored,held,named⟩ (untouched.files file inside id)
  · exact fun file inside _ id _ named _ => absurd named (untouched.files file inside id)
  · exact fun id _ vault _ held _ keyed _ => absurd keyed (untouched.vaults id vault held)
  · exact fun id vault held keyed => absurd keyed (untouched.vaults id vault held)

theorem LeavesAccess.once (leaves : LeavesAccess setting input store after) (once : HoldsOnce setting.hashes input store) :
    HoldsOnce setting.hashes input after := by
  have named {file : AccessFile} (inside : file ∈ input.files) {id : String} (named : NamedFile setting.hashes input file after id) :
      NamedFile setting.hashes input file store id := by
    obtain ⟨stored,held,name⟩ := named
    exact ⟨stored,(leaves.files file inside id stored name).mp held,name⟩
  constructor
  · exact fun file inside id stored held name => once.files file inside id stored ((leaves.files file inside id stored name).mp held) name
  · exact fun file inside plain id other first second =>
      once.single file inside plain id other (named inside first) (named inside second)
  · exact fun id other vault found held at_ keyed too => once.vaults id other vault found ((leaves.vaults id vault keyed).mp held)
      ((leaves.vaults other found too).mp at_) keyed too
  · exact fun id vault held keyed => once.credentials id vault ((leaves.vaults id vault keyed).mp held) keyed

theorem Provisioned.once (ran : Provisioned setting input initial store) (untouched : Untouched setting input initial)
    (apart : (input.files.map (accessFilename setting.hashes input.idempotencyKey)).Nodup) : HoldsOnce setting.hashes input store := by
  induction ran with
  | start => exact untouched.once
  | @call store ran mcpUrl bearerToken service steps ih =>
    -- The key and the files are all that it depends on.
    have once : HoldsOnce setting.hashes {input with mcpUrl,bearerToken} store := ⟨ih.files,ih.single,ih.vaults,ih.credentials⟩
    have attempts := @attempts_provisionSessionAccess {setting with service} {input with mcpUrl,bearerToken} store once apart
    have left := once.grown apart (attempts.cut (.refl store) steps)
    exact ⟨left.files,left.single,left.vaults,left.credentials⟩
  | others ran leaves ih => exact leaves.once ih

variable {file : AccessFile}

theorem Recognised.repeats_files (once : HoldsOnce setting.hashes input store) (recognised : Recognised setting input store)
    (inside : file ∈ input.files) {mounted : MountedFile} (is : Mounted setting.hashes input store file mounted)
    {id : String} (named : NamedFile setting.hashes input file store id) : mounted.fileId = id := by
  have plain := recognised file inside id named
  obtain ⟨stored,held,matched⟩ | ⟨_,unmatched⟩ := is
  · simp only [matchesFile,Bool.and_eq_true,decide_eq_true_eq] at matched
    exact once.single file inside plain _ _ ⟨stored,held,matched.1.1⟩ named
  · obtain ⟨stored,held,name⟩ := named
    have not := unmatched id stored held
    rw [once.files file inside id stored held name] at not
    simp [matchesFile,storedFile,plain] at not

theorem Grown.oneFile {start now : AccessStore} (once : HoldsOnce setting.hashes input start)
    (apart : (input.files.map (accessFilename setting.hashes input.idempotencyKey)).Nodup)
    (grown : Grown setting.hashes input start now) (recognised : Recognised setting input start)
    (inside : file ∈ input.files) {id other : String} (first : NamedFile setting.hashes input file now id)
    (second : NamedFile setting.hashes input file now other) : id = other := by
  by_cases plain : fileType file.mediaType = file.mediaType
  · exact (once.grown apart grown).single file inside plain id other first second
  · -- Then the file was not there at the start, and both are new.
    have new (id : String) (stored : StoredFile) (held : now.files.get? id = some stored)
        (named : stored.filename = accessFilename setting.hashes input.idempotencyKey file) : start.files.get? id = none := by
      cases early : start.files.get? id with
      | none => rfl
      | some was =>
        obtain ⟨later,at_,rfl⟩ := grown.files.kept id was early
        cases held.symm.trans at_
        exact absurd (recognised file inside id ⟨_,early,named⟩) plain
    obtain ⟨stored,held,named⟩ := first
    obtain ⟨found,at_,too⟩ := second
    exact grown.files.once id other stored found held at_ (new id stored held named) (new other found at_ too) (named.trans too.symm)

theorem forall₂_mem {α β : Type} {relates : α → β → Prop} {items : List α} {others : List β} (related : List.Forall₂ relates items others)
    {item : α} (inside : item ∈ items) : ∃ other, relates item other := by
  induction related with
  | nil => cases inside
  | cons head _ ih =>
    obtain _ | ⟨_,later⟩ := inside
    · exact ⟨_,head⟩
    · exact ih later

theorem given_together {answer : Except ProviderFault ManagedAgentsSessionAccess}
    (ended : (provisionSessionAccess setting input).exec store = (answer,after)) {access : ManagedAgentsSessionAccess}
    (answered : answer = .ok access) {mcpUrl : String} (url : input.mcpUrl = some mcpUrl) :
    ∃ bearerToken, input.bearerToken = some bearerToken := by
  cases token : input.bearerToken with
  | some bearerToken => exact ⟨bearerToken,rfl⟩
  | none =>
    unfold provisionSessionAccess at ended
    rw [url,token,exec_bind,exec_settle] at ended
    cases valid : validateLocalId input.idempotencyKey "access.idempotencyKey" with
    | error fault =>
      rw [valid] at ended
      cases (Prod.mk.inj ended).1.trans answered
    | ok _ =>
      rw [valid] at ended
      cases (Prod.mk.inj ended).1.trans answered

/-- A further call after any run repeats the earlier ones if every file that is there is recognised and the credential has the call's
token; and a call that answers repeats them only then. -/
theorem access_repeats_iff (untouched : Untouched setting input initial) (ran : Provisioned setting input initial store)
    (distinct : (input.files.map AccessFile.bytes).Nodup)
    -- Different contents have digests that start differently.
    (digests : ∀ first ∈ input.files, ∀ second ∈ input.files,
      digestStart (setting.hashes.ofBytes first.bytes) = digestStart (setting.hashes.ofBytes second.bytes) → first.bytes = second.bytes)
    {answer : Except ProviderFault ManagedAgentsSessionAccess}
    (ended : (provisionSessionAccess setting input).exec store = (answer,after)) :
    (Recognised setting input store ∧ SameToken setting input store → Repeats setting input store after answer) ∧
      ∀ access, answer = .ok access → Repeats setting input store after answer →
        Recognised setting input store ∧ SameToken setting input store := by
  have apart : (input.files.map (accessFilename setting.hashes input.idempotencyKey)).Nodup := names_apart distinct digests
  have once := ran.once untouched apart
  obtain ⟨grown,answers,undisputed⟩ := (attempts_provisionSessionAccess once apart).exec (.refl store) ended
  have onceAfter := once.grown apart grown
  constructor
  · intro ⟨recognised,sameToken⟩
    refine ⟨?_,?_,?_,onceAfter.vaults,onceAfter.credentials,undisputed,?_⟩
    · intro access answered
      apply ((List.forall₂_and_left _ _).mpr ⟨fun file inside => inside,(answers access answered).files⟩).imp
      exact fun file mounted is id named => recognised.repeats_files once is.1 is.2 named
    · intro access answered given id vault held keyed
      obtain ⟨mcpUrl,url⟩ := Option.isSome_iff_exists.mp given
      obtain ⟨bearerToken,token⟩ := given_together ended answered url
      obtain ⟨other,refs,vaulted,_⟩ := (answers access answered).vault mcpUrl bearerToken url token
      obtain ⟨found,at_,too⟩ | ⟨_,unkeyed⟩ := vaulted
      · rw [refs,once.vaults other id found vault at_ held too keyed]
      · exact absurd keyed (unkeyed id vault held)
    · exact fun file inside id other first second => grown.oneFile once apart recognised inside first second
    · intro access mcpUrl bearerToken answered url token
      obtain ⟨id,refs,_,vault,held,keyed,credentialId,credential,there,isKeyed,origin⟩ :=
        (answers access answered).vault mcpUrl bearerToken url token
      refine ⟨id,vault,credentialId,credential,refs,held,keyed,there,isKeyed,?_⟩
      obtain same | ⟨early,was,wasKeyed,before⟩ := origin
      · exact same
      · exact sameToken mcpUrl bearerToken url token id early was wasKeyed credentialId credential before isKeyed
  · intro access answered repeats
    constructor
    · intro file inside id named
      by_contra changed
      have both := List.Forall₂.mp (fun _ _ is same => And.intro is same) (answers access answered).files (repeats.files access answered)
      obtain ⟨mounted,is,same⟩ := forall₂_mem both inside
      obtain ⟨stored,held,name⟩ := named
      have kept := once.files file inside id stored held name
      have here := same id ⟨stored,held,name⟩
      obtain ⟨found,at_,matched⟩ | ⟨absent,_⟩ := is
      · rw [here,held] at at_
        cases at_
        simp only [matchesFile,Bool.and_eq_true,decide_eq_true_eq] at matched
        exact changed ((congrArg StoredFile.mimeType kept).symm.trans matched.2)
      · rw [here,held] at absent
        cases absent
    · intro mcpUrl bearerToken url token id vault held keyed credentialId credential there isKeyed
      obtain ⟨other,found,otherId,last,_,at_,foundKeyed,inside,lastKeyed,same⟩ :=
        repeats.token access mcpUrl bearerToken answered url token
      obtain ⟨later,now,extends_⟩ := grown.vaults.kept id vault held
      have laterKeyed := extends_.keyed.mpr keyed
      cases onceAfter.vaults other id found later at_ now foundKeyed laterKeyed
      cases at_.symm.trans now
      obtain ⟨_,still,rfl⟩ := extends_.credentials.kept credentialId credential there
      cases onceAfter.credentials _ found at_ foundKeyed otherId credentialId last credential inside still lastKeyed isKeyed
      cases inside.symm.trans still
      exact same

end

/-! ### A token that is not renewed -/

def zeros : String := String.ofList (List.replicate 64 '0')

def sampleHashes : AccessHashes where
  ofText text := if text = "runtime-access-1" then "93e290c4004559607e791736642d6c0cd258b20a7631d482a14cb79c4cf31f8b" else zeros
  ofBytes bytes := if bytes = [0x7b,0x7d] then "44136fa355b3678a1146ad16f7e8649e94fb4fc21fe77e8310c060f61caaff8a" else zeros
  length_ofBytes bytes := by
    split <;> decide +kernel

def artifactsUrl : String := "https://agentos.example/api/mcp/artifacts"

def sampleSetting : AccessSetting where
  hashes := sampleHashes
  parseUrl url := if url = artifactsUrl then some ⟨"https:","","","",artifactsUrl⟩ else none

def accessRequest (bearerToken : String) : AccessRequest where
  idempotencyKey := "runtime-access-1"
  mcpUrl := some artifactsUrl
  bearerToken := some bearerToken
  files := [{filename := "input.json",mediaType := "application/json",bytes := [0x7b,0x7d],mountPath := "/workspace/inputs/input.json"}]

def diedLate : AccessStore := (provisionSessionAccess sampleSetting (accessRequest "token-1")).cut 6 {}

def tokens (store : AccessStore) : List String := store.vaults.values.flatMap fun vault => vault.credentials.values.map StoredCredential.token

theorem untouched_empty (request : AccessRequest) : Untouched sampleSetting request {} := by
  constructor
  · intro file _ id ⟨stored,held,_⟩
    have absent : ({} : AccessStore).files.get? id = none := rfl
    exact Option.some_ne_none stored (held.symm.trans absent)
  · intro id vault held
    have absent : ({} : AccessStore).vaults.get? id = none := rfl
    exact absurd (held.symm.trans absent) (Option.some_ne_none vault)

theorem diedLate_provisioned (bearerToken : String) : Provisioned sampleSetting (accessRequest bearerToken) {} diedLate :=
  .call .start (some artifactsUrl) (some "token-1") {} 6

theorem mem_tokens {store : AccessStore} {id credentialId : String} {vault : StoredVault} {credential : StoredCredential}
    (held : store.vaults.get? id = some vault) (there : vault.credentials.get? credentialId = some credential) :
    credential.token ∈ tokens store := by
  apply List.mem_flatMap.mpr
  refine ⟨vault,(mem_values _ _).mpr ⟨id,held⟩,List.mem_map.mpr ⟨credential,?_,rfl⟩⟩
  exact (mem_values _ _).mpr ⟨credentialId,there⟩

/-- The further call has a new token and answers with the vault, whose credential has the token of the call that died. -/
theorem token_not_renewed :
    Provisioned sampleSetting (accessRequest "token-2") {} diedLate ∧
    ((provisionSessionAccess sampleSetting (accessRequest "token-2")).exec diedLate).1 =
      .ok {resources := [⟨"1","/workspace/inputs/input.json"⟩],credentialRefs := ["3"]} ∧
    tokens ((provisionSessionAccess sampleSetting (accessRequest "token-2")).exec diedLate).2 = ["token-1"] ∧
    ¬ Repeats sampleSetting (accessRequest "token-2") diedLate
      ((provisionSessionAccess sampleSetting (accessRequest "token-2")).exec diedLate).2
      ((provisionSessionAccess sampleSetting (accessRequest "token-2")).exec diedLate).1 := by
  have answered : ((provisionSessionAccess sampleSetting (accessRequest "token-2")).exec diedLate).1 =
      .ok {resources := [⟨"1","/workspace/inputs/input.json"⟩],credentialRefs := ["3"]} := by decide +kernel
  have left : tokens ((provisionSessionAccess sampleSetting (accessRequest "token-2")).exec diedLate).2 = ["token-1"] := by decide +kernel
  refine ⟨diedLate_provisioned "token-2",answered,left,fun repeats => ?_⟩
  obtain ⟨id,vault,credentialId,credential,_,held,_,there,_,token⟩ := repeats.token _ artifactsUrl "token-2" answered rfl rfl
  have inside := mem_tokens held there
  rw [left,token] at inside
  simp at inside

theorem same_token_repeats : Repeats sampleSetting (accessRequest "token-1") diedLate
    ((provisionSessionAccess sampleSetting (accessRequest "token-1")).exec diedLate).2
    ((provisionSessionAccess sampleSetting (accessRequest "token-1")).exec diedLate).1 := by
  have plain : fileType "application/json" = "application/json" := by decide +kernel
  have held : tokens diedLate = ["token-1"] := by decide +kernel
  refine (access_repeats_iff (untouched_empty _) (diedLate_provisioned "token-1") (List.nodup_singleton _) ?_ rfl).1 ⟨?_,?_⟩
  · intro first inside second within _
    rw [List.mem_singleton.mp inside,List.mem_singleton.mp within]
  · intro file inside _ _
    rw [List.mem_singleton.mp inside]
    exact plain
  · intro mcpUrl bearerToken _ token id vault at_ _ credentialId credential there _
    cases token
    have inside := mem_tokens at_ there
    rw [held] at inside
    exact List.mem_singleton.mp inside

end AgentOS.ManagedAgents
