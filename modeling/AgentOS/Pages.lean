import AgentOS.Artifacts.Records
import Mathlib.Data.Prod.Lex

/-! The listings of the repository in memory that go on from a cursor: by a time and an identifier, by a number, and by a key. -/
namespace AgentOS.Pages
open Library Artifacts

def DEFAULT_LIST_LIMIT : Int := 100

def MAX_LIST_LIMIT : Int := 100

def boundedListLimit : Option Int → Checked Nat
  | none => .ok DEFAULT_LIST_LIMIT.toNat
  | some requested =>
    if ¬ isSafeInteger requested ∨ requested ≤ 0 then .error (.other "list limit must be a positive safe integer")
    else .ok (min requested MAX_LIST_LIMIT).toNat

def compareBytes : List UInt8 → List UInt8 → Int
  | [],right => -(right.length : Int)
  | left,[] => left.length
  | byte::left,other::right => if byte = other then compareBytes left right else (byte.toNat : Int) - other.toNat

def compareOpaqueText (left right : String) : Int := compareBytes left.toUTF8.data.toList right.toUTF8.data.toList

def compareTimestamped (leftAt : Instant) (leftId : String) (rightAt : Instant) (rightId : String) : Int :=
  if leftAt = rightAt then compareOpaqueText leftId rightId else if leftAt < rightAt then -1 else 1

def isAfterTimestamp (at_ : Instant) (id : String) (cursor : Option Cursor) : Bool :=
  cursor.all fun cursor => 0 < compareTimestamped at_ id cursor.at_ cursor.id

structure ListPage (κ : Type) where
  after : Option κ := none
  limit : Option Int := none

inductive ListOrder where
  | asc
  | desc
  deriving DecidableEq

structure RunListFilter extends ListPage Cursor where
  projectId : Option String := none
  status : Option RunStatus := none
  order : Option ListOrder := none

def sliced {α : Type} (rows : List α) (kept : α → Bool) (compare : α → α → Int) (limit : Option Int) : Checked (List α) :=
  boundedListLimit limit >>= fun limit =>
  .ok (((rows.filter kept).insertionSort fun left right => compare left right ≤ 0).take limit)

variable (repository : Repository)

def listRuns (filter : RunListFilter) : Checked (List Run) :=
  if filter.order = some .desc ∧ filter.after.isSome then .error (.other "descending run listing does not support cursors")
  else sliced repository.runs.values (fun run =>
      filter.projectId.all (run.projectId = ·) && filter.status.all (run.status = ·) &&
        isAfterTimestamp run.createdAt run.id filter.after) (fun left right =>
      let ordered := compareTimestamped left.createdAt left.id right.createdAt right.id
      if filter.order = some .desc then -ordered else ordered) filter.limit

def listEvents (runId : String) (page : ListPage Nat) : Checked (List Event) :=
  sliced repository.events.values (fun event => event.runId = runId && page.after.all (· < event.sequence))
    (fun left right => (left.sequence : Int) - right.sequence) page.limit

def listArtifacts (tables : ArtifactTables) (runId : String) (page : ListPage Cursor) : Checked (List ArtifactRecord) :=
  sliced tables.artifacts.values (fun artifact => artifact.runId = runId && isAfterTimestamp artifact.createdAt artifact.id page.after)
    (fun left right => compareTimestamped left.createdAt left.id right.createdAt right.id) page.limit

def slice {α : Type} (rows : List α) (limit : Int) : List α :=
  if 0 ≤ limit then rows.take limit.toNat else rows.take (rows.length - limit.natAbs)

def listArtifactsByRunKey (tables : ArtifactTables) (runId keyPrefix : String) (afterKey : Option String) (limit : Int) :
    List ArtifactRecord :=
  slice ((tables.artifacts.values.filter fun artifact =>
    artifact.runId = runId && artifact.deletedAt = none && artifact.manifestVersion = some "artifact-manifest-v1" &&
      artifact.deletionState = some .active && keyPrefix.toList.isPrefixOf artifact.key.toList &&
      afterKey.all fun afterKey => 0 < compareOpaqueText artifact.key afterKey).insertionSort
        fun left right => compareOpaqueText left.key right.key ≤ 0) limit

/-! ### Orders -/

structure Orders {α β : Type} [LinearOrder β] (compare : α → α → Int) (key : α → β) : Prop where
  before : ∀ left right, compare left right < 0 ↔ key left < key right
  after : ∀ left right, 0 < compare left right ↔ key right < key left

section
variable {α β : Type} [LinearOrder β] {compare : α → α → Int} {key : α → β}

theorem Orders.strict (orders : Orders compare key) : Paging.Strict fun left right => decide (compare left right < 0) where
  asymmetric := by
    intro left right before
    have before := (orders.before left right).mp (of_decide_eq_true before)
    exact decide_eq_false fun after => absurd ((orders.before right left).mp after) (lt_asymm before)
  weakly := by
    intro first second third notBefore notBefore'
    have upTo := not_lt.mp (mt (orders.before second first).mpr (of_decide_eq_false notBefore))
    have upTo' := not_lt.mp (mt (orders.before third second).mpr (of_decide_eq_false notBefore'))
    exact decide_eq_false fun before => absurd ((orders.before third first).mp before) (not_lt.mpr (upTo.trans upTo'))

theorem Orders.weak (orders : Orders compare key) (left right : α) :
    compare left right ≤ 0 ↔ decide (compare right left < 0) = false := by
  rw [decide_eq_false_iff_not,orders.before,← orders.after,not_lt]

theorem Orders.apart (orders : Orders compare key) {left right : α} (differ : key left ≠ key right) :
    decide (compare left right < 0) = true ∨ decide (compare right left < 0) = true := by
  rw [decide_eq_true_eq,decide_eq_true_eq,orders.before,orders.before]
  exact lt_or_gt_of_ne differ

end

theorem compareBytes_swap (left right : List UInt8) : compareBytes right left = -compareBytes left right := by
  induction left generalizing right with
  | nil =>
    cases right with
    | nil => rfl
    | cons other right => exact (Int.neg_neg _).symm
  | cons byte left ih =>
    cases right with
    | nil => rfl
    | cons other right =>
      unfold compareBytes
      by_cases same : byte = other
      · rw [if_pos same,if_pos same.symm,ih]
      · rw [if_neg same,if_neg (Ne.symm same)]
        exact (Int.neg_sub _ _).symm

theorem compareBytes_lt (left right : List UInt8) : compareBytes left right < 0 ↔ left.map UInt8.toNat < right.map UInt8.toNat := by
  induction left generalizing right with
  | nil =>
    cases right with
    | nil => exact iff_of_false (lt_irrefl _) (lt_irrefl _)
    | cons other right =>
      refine iff_of_true ?_ List.Lex.nil
      change -((right.length + 1 : Nat) : Int) < 0
      omega
  | cons byte left ih =>
    cases right with
    | nil =>
      refine iff_of_false ?_ (List.not_lt_nil _)
      change ¬ ((left.length + 1 : Nat) : Int) < 0
      omega
    | cons other right =>
      rw [List.map_cons,List.map_cons,List.cons_lt_cons_iff]
      unfold compareBytes
      by_cases same : byte = other
      · rw [if_pos same,ih,same]
        exact (or_iff_right (lt_irrefl _)).trans (and_iff_right rfl) |>.symm
      · have apart : byte.toNat ≠ other.toNat := fun equal => same (UInt8.toNat_inj.mp equal)
        rw [if_neg same]
        constructor
        · intro less
          exact .inl (by omega)
        · rintro (less | ⟨equal,_⟩)
          · omega
          · exact absurd equal apart

def bytesOf (text : String) : List Nat := text.toUTF8.data.toList.map UInt8.toNat

theorem bytesOf_injective : Function.Injective bytesOf := by
  intro first second same
  have bytes := List.map_injective_iff.mpr (fun _ _ => UInt8.toNat_inj.mp) same
  exact String.toByteArray_inj.mp (ByteArray.ext (Array.toList_inj.mp bytes))

theorem compareOpaqueText_orders : Orders compareOpaqueText bytesOf where
  before _ _ := compareBytes_lt _ _
  after left right := by
    unfold compareOpaqueText
    rw [compareBytes_swap,Int.neg_pos,compareBytes_lt]
    rfl

def positionOf (at_ : Instant) (id : String) : Int ×ₗ List Nat := toLex (at_,bytesOf id)

theorem compareTimestamped_lt (leftAt : Instant) (leftId : String) (rightAt : Instant) (rightId : String) :
    (compareTimestamped leftAt leftId rightAt rightId < 0 ↔ positionOf leftAt leftId < positionOf rightAt rightId) ∧
    (0 < compareTimestamped leftAt leftId rightAt rightId ↔ positionOf rightAt rightId < positionOf leftAt leftId) := by
  unfold compareTimestamped positionOf
  rw [Prod.Lex.toLex_lt_toLex,Prod.Lex.toLex_lt_toLex]
  dsimp only
  by_cases same : leftAt = rightAt
  · rw [if_pos same,compareOpaqueText_orders.before,compareOpaqueText_orders.after,same]
    simp
  · rw [if_neg same]
    by_cases earlier : leftAt < rightAt
    · rw [if_pos earlier]
      have notLater := lt_asymm earlier
      simp [earlier,notLater,same,Ne.symm same]
    · rw [if_neg earlier]
      have later := lt_of_le_of_ne (not_lt.mp earlier) (Ne.symm same)
      simp [earlier,later,same]

/-! ### Reading a listing to its end -/

section
variable {α κ ℓ : Type} {rows : List α} {kept : α → Bool} {compare : α → α → Int}

/-- Read with any limits that are let through, each page from the last entry of the one before, the listing is whole, in
order and without repetition, and the end is reached. -/
structure Listing (call : Option κ → ℓ → Option (List α)) (position : α → κ) (accepted : ℓ → Prop) (compare : α → α → Int)
    (wanted : α → Prop) (listing : List α) : Prop where
  read : ∀ limits : Nat → ℓ, (∀ turn, accepted (limits turn)) → ∀ turns, listing.length < turns →
    Paging.readAll call position turns limits none = some listing
  inOrder : listing.Pairwise fun left right => compare left right < 0
  once : listing.Nodup
  whole : ∀ row, row ∈ listing ↔ wanted row

variable {position : α → κ}

theorem listing_of_pages {β : Type} [LinearOrder β] {key : α → β} (orders : Orders compare key)
    (apart : (rows.filter kept).Pairwise fun left right => key left ≠ key right) (later : Option κ → α → Bool)
    (start : ∀ row, later none row = true) (further : ∀ last row, later (some (position last)) row = decide (compare last row < 0))
    {call : Option κ → ℓ → Option (List α)} {accepted : ℓ → Prop} (paged : ∀ cursor limit, accepted limit → ∃ size, 0 < size ∧
      call cursor limit = some (((rows.filter fun row => kept row && later cursor row).insertionSort
        fun left right => compare left right ≤ 0).take size)) :
    ∃ listing, Listing call position accepted compare (fun row => row ∈ rows ∧ kept row = true) listing := by
  have apart' := apart.imp fun differ => orders.apart differ
  have inOrder := orders.strict.sorted _ orders.weak apart'
  refine ⟨(rows.filter kept).insertionSort fun left right => compare left right ≤ 0,?_,?_,?_,?_⟩
  · intro limits let_ turns enough
    refine Paging.readAll_eq (fun read rest turn split => ?_) enough
    obtain ⟨size,positive,called⟩ := paged (read.getLast?.map position) (limits turn) (let_ turn)
    refine ⟨size,positive,called.trans (congrArg (fun rows => some (List.take size rows)) ?_)⟩
    refine orders.strict.sorted_after _ orders.weak apart' split fun row => ?_
    cases read.getLast? with
    | none => exact start row
    | some last => exact further last row
  · exact inOrder.imp of_decide_eq_true
  · refine inOrder.imp fun before same => ?_
    rw [same,orders.strict.irreflexive] at before
    cases before
  · intro row
    rw [List.mem_insertionSort,List.mem_filter]

def Accepted (limit : Option Int) : Prop := ∀ requested ∈ limit, isSafeInteger requested = true ∧ 0 < requested

theorem boundedListLimit_accepted {limit : Option Int} (accepted : Accepted limit) :
    ∃ size, 0 < size ∧ size ≤ 100 ∧ boundedListLimit limit = .ok size := by
  cases limit with
  | none => exact ⟨100,by decide,le_refl _,rfl⟩
  | some requested =>
    obtain ⟨safe,positive⟩ := accepted requested rfl
    refine ⟨(min requested MAX_LIST_LIMIT).toNat,?_,?_,if_neg ?_⟩
    · unfold MAX_LIST_LIMIT
      omega
    · unfold MAX_LIST_LIMIT
      omega
    · rw [safe]
      simpa using positive

theorem listing_of_sliced {β : Type} [LinearOrder β] {key : α → β} (orders : Orders compare key)
    (apart : (rows.filter kept).Pairwise fun left right => key left ≠ key right) (later : Option κ → α → Bool)
    (start : ∀ row, later none row = true) (further : ∀ last row, later (some (position last)) row = decide (compare last row < 0)) :
    ∃ listing, Listing (fun cursor limit => (sliced rows (fun row => kept row && later cursor row) compare limit).toOption)
      position Accepted compare (fun row => row ∈ rows ∧ kept row = true) listing := by
  refine listing_of_pages orders apart later start further fun cursor limit accepted => ?_
  obtain ⟨size,positive,_,bounded⟩ := boundedListLimit_accepted accepted
  refine ⟨size,positive,?_⟩
  unfold sliced
  rw [bounded]
  rfl

end

/-! ### Artifact tables -/

def createArtifact (tables : ArtifactTables) (artifact : ArtifactRecord) : Checked (ArtifactRecord × ArtifactTables) :=
  tables.requireRun artifact.runId >>= fun _ =>
  assertValidArtifact artifact >>= fun _ =>
  if (tables.artifactKeys.get? (artifact.runId,artifact.key)).isSome then
    .error (.other ("Artifact key " ++ artifact.key ++ " for run " ++ artifact.runId ++ " already exists"))
  else tables.insertArtifact artifact

inductive ArtifactCall where
  | createRun (id projectId : String)
  | createArtifact (artifact : ArtifactRecord)
  | claimArtifact (artifact : ArtifactRecord)
  | claimArtifactForWrite (request : ArtifactWriteClaimRequest)
  | releaseArtifactWriteLease (id leaseId : String)
  | reserveArtifactDeletion (request : ArtifactDeletionReservationRequest)
  | finalizeArtifactDeletion (request : ArtifactDeletionFinalizationRequest)

def remaining {α : Type} (tables : ArtifactTables) : Checked (α × ArtifactTables) → ArtifactTables
  | .error _ => tables
  | .ok (_,later) => later

def called (tables : ArtifactTables) : ArtifactCall → ArtifactTables
  | .createRun id projectId => {tables with runs := tables.runs.set id projectId}
  | .createArtifact artifact => remaining tables (createArtifact tables artifact)
  | .claimArtifact artifact => remaining tables (tables.claimArtifact artifact)
  | .claimArtifactForWrite request => remaining tables (tables.claimArtifactForWrite request)
  | .releaseArtifactWriteLease id leaseId => remaining tables (tables.releaseArtifactWriteLease id leaseId)
  | .reserveArtifactDeletion request => (tables.reserveArtifactDeletion request).2
  | .finalizeArtifactDeletion request => remaining tables (tables.finalizeArtifactDeletion request)

def contents (calls : List ArtifactCall) : ArtifactTables := calls.foldl called {}

/-- Rows are stored under their identifier, which their run and key are indexed with. -/
structure Sound (tables : ArtifactTables) : Prop where
  keyed : ∀ id record, tables.artifacts.get? id = some record →
    record.id = id ∧ tables.artifactKeys.get? (record.runId,record.key) = some id

section
variable {tables later : ArtifactTables}

variable {artifact record : ArtifactRecord}

theorem Sound.inserted (sound : Sound tables) (free : tables.artifactKeys.get? (artifact.runId,artifact.key) = none)
    (ok : tables.insertArtifact artifact = .ok (record,later)) : Sound later := by
  unfold ArtifactTables.insertArtifact at ok
  split at ok
  · cases ok
  · cases ok
    refine ⟨fun id found stored => ?_⟩
    dsimp only at stored ⊢
    rcases OrderedMap.get?_set_some stored with ⟨rfl,rfl⟩ | ⟨_,before⟩
    · exact ⟨rfl,(OrderedMap.get?_set ..).trans (if_pos rfl)⟩
    · obtain ⟨own,indexed⟩ := sound.keyed id found before
      refine ⟨own,(OrderedMap.get?_set ..).trans ((if_neg fun same => ?_).trans indexed)⟩
      rw [same,free] at indexed
      cases indexed

variable {id : String}

theorem Sound.replaced {existing updated : ArtifactRecord} (sound : Sound tables)
    (stored : tables.artifacts.get? id = some existing) (same : updated.id = existing.id ∧ updated.runId = existing.runId ∧
      updated.key = existing.key) : Sound {tables with artifacts := tables.artifacts.set id updated} := by
  refine ⟨fun id' found stored' => ?_⟩
  dsimp only at stored' ⊢
  rcases OrderedMap.get?_set_some stored' with ⟨rfl,rfl⟩ | ⟨_,before⟩
  · rw [same.1,same.2.1,same.2.2]
    exact sound.keyed _ existing stored
  · exact sound.keyed id' found before

theorem Sound.updated {existing updated : ArtifactRecord} (sound : Sound tables)
    (stored : tables.artifacts.get? id = some existing) (same : updated.id = existing.id ∧ updated.runId = existing.runId ∧
      updated.key = existing.key) : Sound {tables with artifacts := tables.artifacts.set existing.id updated} := by
  have own := (sound.keyed id existing stored).1
  rw [← own] at stored
  exact sound.replaced stored same

theorem stored_of_required {existing : ArtifactRecord} (required : tables.requireArtifact id = .ok existing) :
    tables.artifacts.get? id = some existing := by
  unfold ArtifactTables.requireArtifact at required
  split at required
  · rename_i stored
    cases required
    exact stored
  · cases required

theorem Sound.remaining {α : Type} (sound : Sound tables) {result : Checked (α × ArtifactTables)}
    (ok : ∀ value later, result = .ok (value,later) → Sound later) : Sound (remaining tables result) := by
  cases result with
  | error error => exact sound
  | ok result => exact ok result.1 result.2 rfl

section
variable (sound : Sound tables)
include sound

theorem Sound.createArtifact (ok : createArtifact tables artifact = .ok (record,later)) : Sound later := by
  obtain ⟨_,_,ok⟩ := bind_ok.mp ok
  obtain ⟨_,_,ok⟩ := bind_ok.mp ok
  split at ok
  · cases ok
  · rename_i free
    exact sound.inserted (Option.not_isSome_iff_eq_none.mp free) ok

theorem Sound.claimArtifact (ok : tables.claimArtifact artifact = .ok (record,later)) : Sound later := by
  obtain ⟨_,_,ok⟩ := bind_ok.mp ok
  obtain ⟨_,_,ok⟩ := bind_ok.mp ok
  split at ok
  · obtain ⟨existing,_,ok⟩ := bind_ok.mp ok
    cases ok
    exact sound
  · rename_i free
    exact sound.inserted free ok

theorem Sound.claimArtifactForWrite {request : ArtifactWriteClaimRequest} {record : ArtifactRecord}
    (ok : tables.claimArtifactForWrite request = .ok (record,later)) : Sound later := by
  obtain ⟨_,_,ok⟩ := bind_ok.mp ok
  obtain ⟨_,_,ok⟩ := bind_ok.mp ok
  split at ok
  · cases ok
  · split at ok
    · rename_i free
      exact @Sound.inserted _ _ {request.artifact with
        deletionState := some .active
        writeLeaseId := some request.leaseId
        writeLeaseExpiresAt := some request.expiresAt} _ sound free ok
    · obtain ⟨existing,required,ok⟩ := bind_ok.mp ok
      have stored := stored_of_required required
      split at ok
      · cases ok
        exact sound
      · cases ok
        exact sound.updated stored ⟨rfl,rfl,rfl⟩

theorem Sound.releaseArtifactWriteLease {id leaseId : String} {nothing : Unit}
    (ok : tables.releaseArtifactWriteLease id leaseId = .ok (nothing,later)) : Sound later := by
  obtain ⟨existing,required,ok⟩ := bind_ok.mp ok
  split at ok
  · cases ok
    exact sound
  · cases ok
    exact sound.replaced (stored_of_required required) ⟨rfl,rfl,rfl⟩

theorem Sound.reserveArtifactDeletion (request : ArtifactDeletionReservationRequest) :
    Sound (tables.reserveArtifactDeletion request).2 := by
  unfold ArtifactTables.reserveArtifactDeletion
  split
  · exact sound
  · rename_i existing stored
    split
    · exact sound
    · split
      · exact sound
      · exact sound.updated stored ⟨rfl,rfl,rfl⟩
      · exact sound

theorem Sound.finalizeArtifactDeletion {request : ArtifactDeletionFinalizationRequest}
    {record : ArtifactRecord} (ok : tables.finalizeArtifactDeletion request = .ok (record,later)) : Sound later := by
  obtain ⟨existing,required,ok⟩ := bind_ok.mp ok
  have stored := stored_of_required required
  split at ok
  · cases ok
  · split at ok
    · cases ok
      exact sound
    · cases ok
      exact sound.updated stored ⟨rfl,rfl,rfl⟩
    · cases ok

theorem Sound.called (call : ArtifactCall) : Sound (called tables call) := by
  cases call with
  | createRun id projectId => exact ⟨fun id record stored => sound.keyed id record stored⟩
  | createArtifact artifact => exact sound.remaining fun _ _ ok => sound.createArtifact ok
  | claimArtifact artifact => exact sound.remaining fun _ _ ok => sound.claimArtifact ok
  | claimArtifactForWrite request => exact sound.remaining fun _ _ ok => sound.claimArtifactForWrite ok
  | releaseArtifactWriteLease id leaseId => exact sound.remaining fun _ _ ok => sound.releaseArtifactWriteLease ok
  | reserveArtifactDeletion request => exact sound.reserveArtifactDeletion request
  | finalizeArtifactDeletion request => exact sound.remaining fun _ _ ok => sound.finalizeArtifactDeletion ok

end

theorem contents_sound (calls : List ArtifactCall) : Sound (contents calls) := by
  have run : ∀ tables, Sound tables → Sound (calls.foldl called tables) := by
    induction calls with
    | nil => exact fun _ sound => sound
    | cons call calls ih => exact fun tables sound => ih _ (sound.called call)
  exact run {} ⟨fun _ _ impossible => nomatch impossible⟩

end

/-! ### The listings -/

theorem positions_apart {α : Type} {at_ : α → Instant} {id : α → String} {rows : List α}
    (apart : rows.Pairwise fun left right => id left ≠ id right) (kept : α → Bool) :
    (rows.filter kept).Pairwise fun left right => positionOf (at_ left) (id left) ≠ positionOf (at_ right) (id right) :=
  (apart.filter kept).imp fun differ same => differ (bytesOf_injective (Prod.ext_iff.mp (toLex.injective same)).2)

theorem timestamped_orders {α : Type} (at_ : α → Instant) (id : α → String) :
    Orders (fun left right => compareTimestamped (at_ left) (id left) (at_ right) (id right)) fun row => positionOf (at_ row) (id row) :=
  ⟨fun _ _ => (compareTimestamped_lt ..).1,fun _ _ => (compareTimestamped_lt ..).2⟩

theorem isAfterTimestamp_some (at_ cursorAt : Instant) (id cursorId : String) :
    isAfterTimestamp at_ id (some ⟨cursorAt,cursorId⟩) = decide (compareTimestamped cursorAt cursorId at_ id < 0) := by
  unfold isAfterTimestamp
  rw [Option.all_some,decide_eq_decide,(compareTimestamped_lt ..).1,(compareTimestamped_lt ..).2]

theorem sequences_orders : Orders (fun left right : Event => (left.sequence : Int) - right.sequence) Event.sequence where
  before _ _ := by omega
  after _ _ := by omega

theorem keys_orders : Orders (fun left right : ArtifactRecord => compareOpaqueText left.key right.key) fun row => bytesOf row.key :=
  ⟨fun _ _ => compareOpaqueText_orders.before _ _,fun _ _ => compareOpaqueText_orders.after _ _⟩

def ofRunKey (runId keyPrefix : String) (artifact : ArtifactRecord) : Bool :=
  artifact.runId = runId && artifact.deletedAt = none && artifact.manifestVersion = some "artifact-manifest-v1" &&
    artifact.deletionState = some .active && keyPrefix.toList.isPrefixOf artifact.key.toList

theorem listRuns_listing (filter : RunListFilter) (ascending : filter.order ≠ some .desc) :
    ∃ listing, Listing (fun after limit => (listRuns repository {filter with after := after,limit := limit}).toOption)
      (fun run => ⟨run.createdAt,run.id⟩) Accepted
      (fun left right => compareTimestamped left.createdAt left.id right.createdAt right.id)
      (fun run => run ∈ repository.runs.values ∧
        (filter.projectId.all (run.projectId = ·) && filter.status.all (run.status = ·)) = true) listing := by
  have apart : repository.runs.values.Pairwise fun left right => left.id ≠ right.id := by
    refine repository.runs.pairwise_values fun left right first second differ stored stored' same => differ ?_
    rw [← repository.keyed _ _ stored,← repository.keyed _ _ stored',same]
  have call : ∀ after limit, listRuns repository {filter with after := after,limit := limit} =
      sliced repository.runs.values (fun run => (filter.projectId.all (run.projectId = ·) && filter.status.all (run.status = ·)) &&
        isAfterTimestamp run.createdAt run.id after)
        (fun left right => compareTimestamped left.createdAt left.id right.createdAt right.id) limit := by
    intro after limit
    unfold listRuns
    rw [if_neg fun refused => ascending refused.1]
    simp only [ascending,if_false]
  simp only [call]
  exact listing_of_sliced (timestamped_orders Run.createdAt Run.id) (positions_apart apart _)
    (fun after run => isAfterTimestamp run.createdAt run.id after) (fun _ => rfl) fun _ _ => isAfterTimestamp_some ..

theorem listEvents_listing (runId : String) : ∃ listing, Listing
    (fun after limit => (listEvents repository runId ⟨after,limit⟩).toOption) Event.sequence Accepted
    (fun left right => (left.sequence : Int) - right.sequence)
    (fun event => event ∈ repository.events.values ∧ decide (event.runId = runId) = true) listing := by
  have apart : repository.events.values.Pairwise fun left right => left.runId = right.runId → left.sequence ≠ right.sequence :=
    repository.events.pairwise_values fun left right first second differ stored stored' run same =>
      differ (repository.distinct left right first second stored stored' run same)
  refine listing_of_sliced sequences_orders ?_ (fun after event => after.all (· < event.sequence)) (fun _ => rfl) fun last row => ?_
  · refine (apart.filter _).imp_of_mem fun left right differ => differ ?_
    exact (of_decide_eq_true (List.mem_filter.mp left).2).trans (of_decide_eq_true (List.mem_filter.mp right).2).symm
  · rw [Option.all_some,decide_eq_decide]
    omega

theorem rows_apart {tables : ArtifactTables} (sound : Sound tables) :
    tables.artifacts.values.Pairwise fun left right => left.id ≠ right.id ∧ (left.runId,left.key) ≠ (right.runId,right.key) := by
  refine tables.artifacts.pairwise_values fun left right first second differ stored stored' => ?_
  obtain ⟨own,indexed⟩ := sound.keyed left first stored
  obtain ⟨own',indexed'⟩ := sound.keyed right second stored'
  constructor
  · intro same
    exact differ (own.symm.trans (same.trans own'))
  · intro same
    rw [same,indexed'] at indexed
    exact differ (Option.some.inj indexed).symm

theorem listArtifacts_listing {tables : ArtifactTables} (sound : Sound tables) (runId : String) : ∃ listing, Listing
    (fun after limit => (listArtifacts tables runId ⟨after,limit⟩).toOption) (fun artifact => ⟨artifact.createdAt,artifact.id⟩)
    Accepted (fun left right => compareTimestamped left.createdAt left.id right.createdAt right.id)
    (fun artifact => artifact ∈ tables.artifacts.values ∧ decide (artifact.runId = runId) = true) listing :=
  listing_of_sliced (timestamped_orders ArtifactRecord.createdAt ArtifactRecord.id)
    (positions_apart ((rows_apart sound).imp And.left) _)
    (fun after artifact => isAfterTimestamp artifact.createdAt artifact.id after) (fun _ => rfl)
    fun _ _ => isAfterTimestamp_some ..

theorem run_of_mem {rows : List ArtifactRecord} {runId keyPrefix : String} {artifact : ArtifactRecord}
    (inside : artifact ∈ rows.filter (ofRunKey runId keyPrefix)) : artifact.runId = runId := by
  have kept := (List.mem_filter.mp inside).2
  simp only [ofRunKey,Bool.and_eq_true,decide_eq_true_eq] at kept
  exact kept.1.1.1.1

theorem listArtifactsByRunKey_listing {tables : ArtifactTables} (sound : Sound tables) (runId keyPrefix : String) :
    ∃ listing, Listing (fun after limit => some (listArtifactsByRunKey tables runId keyPrefix after limit)) ArtifactRecord.key (0 < ·)
      (fun left right => compareOpaqueText left.key right.key)
      (fun artifact => artifact ∈ tables.artifacts.values ∧ ofRunKey runId keyPrefix artifact = true) listing := by
  have apart : (tables.artifacts.values.filter (ofRunKey runId keyPrefix)).Pairwise
      fun left right => bytesOf left.key ≠ bytesOf right.key := by
    refine ((rows_apart sound).filter _).imp_of_mem fun {left right} inside inside' differ same => differ.2 ?_
    rw [run_of_mem inside,run_of_mem inside',bytesOf_injective same]
  refine listing_of_pages keys_orders apart
    (fun after artifact => after.all fun afterKey => 0 < compareOpaqueText artifact.key afterKey) (fun _ => rfl)
    (fun last row => ?_) fun cursor limit positive => ⟨limit.toNat,?_,?_⟩
  · rw [Option.all_some,decide_eq_decide,compareOpaqueText_orders.after,compareOpaqueText_orders.before]
  · change 0 < limit at positive
    omega
  · exact congrArg some (if_pos (le_of_lt positive))

end AgentOS.Pages
