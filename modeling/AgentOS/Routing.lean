import AgentOS.Config.Diff
import AgentOS.Library.OrderedMap
import AgentOS.Library.Replay

/-! One runtime provider in front of several: which of them gets a call. -/
namespace AgentOS.Routing
open Library
open OrderedMap (get?_set)

structure RuntimeHandle where
  id : String
  fields : Json

/-- What an object offers of a provider: its calls at all, and the optional ones. -/
structure Offer where
  calls : Bool := true
  reconcileStart : Bool := true
  observeCommand : Bool := true
  cleanupAccess : Bool := true

structure Registry where
  providers : OrderedMap String Offer
  defaultProvider : String
  known : (providers.get? defaultProvider).isSome = true
  offered : ∀ name offer, providers.get? name = some offer → offer.calls = true

inductive HandleOperation where
  | events
  | send (message : Json)
  | resume (input : Option Json)
  | cancel (reason : Option String)
  | collectOutput
  | usage
  | cleanup
  | observeCommand (expectedCommand : String)

def HANDLE_DELIMITER : Char := ' '
def KIMI_RUNTIME_ID : String := "kimi"
def KIMI_ACCESS_ID_PREFIXES : List String := ["kimi-file-","kimi-cred-"]

/-- A name that every object of the language inherits is found as well, as an object that is no provider. -/
def resolveProvider (registry : Registry) (runtimeId : String) : Except Fault Offer :=
  match registry.providers.get? runtimeId with
  | some offer => .ok offer
  | none =>
    if runtimeId ∈ "__proto__"::Config.inheritedKeys then .ok ⟨false,false,false,false⟩
    else .error (.error ("unknown runtime provider '" ++ runtimeId ++ "'"))

def wrapHandle (runtimeId : String) (handle : RuntimeHandle) : RuntimeHandle :=
  {handle with id := runtimeId ++ HANDLE_DELIMITER.toString ++ handle.id}

/-- A text before and after its first delimiter. -/
def splitHandle (id : String) : Option (String × String) :=
  match id.toList.dropWhile fun char => char ≠ HANDLE_DELIMITER with
  | [] => none
  | _::inner => some (String.ofList (id.toList.takeWhile fun char => char ≠ HANDLE_DELIMITER),String.ofList inner)

def unwrapHandle (registry : Registry) (handle : RuntimeHandle) : Except Fault (String × Offer × RuntimeHandle) :=
  match splitHandle handle.id with
  | none => (resolveProvider registry registry.defaultProvider).map fun offer => (registry.defaultProvider,offer,handle)
  | some (runtimeId,innerId) => (resolveProvider registry runtimeId).map fun offer => (runtimeId,offer,{handle with id := innerId})

/-- The provider that an operation on a handle calls, and the handle it is given. -/
def callOn (registry : Registry) (operation : HandleOperation) (handle : RuntimeHandle) : Except Fault (String × RuntimeHandle) := do
  let (runtimeId,offer,inner) ← unwrapHandle registry handle
  match operation with
  | .observeCommand _ =>
    if offer.observeCommand then .ok (runtimeId,inner)
    else .error (.error ("runtime provider '" ++ runtimeId ++ "' does not support observeCommand"))
  | _ => if offer.calls then .ok (runtimeId,inner) else .error (.error "provider has no such function")

/-! ### Sessions -/

/-- A call, with what the router and the provider answer. -/
inductive SessionCall where
  | syncAgent (agentId : String) (route : Option String) (accepted : Bool)
  | start (agentId : String) (answer : Option RuntimeHandle)
  | reconcileStart (agentId : String) (answer : Option RuntimeHandle)

structure Returned where
  owner : String
  inner : RuntimeHandle
  wrapped : RuntimeHandle

/-- The runtime recorded for an agent; an empty name counts as none. -/
def recorded (agentRuntimes : OrderedMap String String) (agentId : String) : Option String :=
  (agentRuntimes.get? agentId).filter fun runtimeId => runtimeId ≠ ""

def serve (registry : Registry) (agentRuntimes : OrderedMap String String) : SessionCall → OrderedMap String String × Option Returned
  | .syncAgent agentId route accepted =>
    let runtimeId := route.getD registry.defaultProvider
    match resolveProvider registry runtimeId with
    | .ok offer => if offer.calls ∧ accepted then (agentRuntimes.set agentId runtimeId,none) else (agentRuntimes,none)
    | .error _ => (agentRuntimes,none)
  | .start agentId answer => (agentRuntimes,do
    let runtimeId ← recorded agentRuntimes agentId
    let offer ← (resolveProvider registry runtimeId).toOption
    if offer.calls then answer.map fun handle => ⟨runtimeId,handle,wrapHandle runtimeId handle⟩ else none)
  | .reconcileStart agentId answer => (agentRuntimes,do
    let runtimeId := (recorded agentRuntimes agentId).getD registry.defaultProvider
    let offer ← (resolveProvider registry runtimeId).toOption
    if offer.reconcileStart then answer.map fun handle => ⟨runtimeId,handle,wrapHandle runtimeId handle⟩ else none)

/-- The handles that calls return, one after the other. -/
def handles (registry : Registry) : OrderedMap String String → List SessionCall → List Returned
  | _, [] => []
  | agentRuntimes, call::calls =>
    let (after,returned) := serve registry agentRuntimes call
    returned.toList ++ handles registry after calls

/-! ### Access -/

structure Access where
  resources : List (String × Json)
  credentialRefs : List String

def accessOwner (registry : Registry) (id : String) : String :=
  if (registry.providers.get? KIMI_RUNTIME_ID).isSome ∧
      KIMI_ACCESS_ID_PREFIXES.any fun start => start.toList.isPrefixOf id.toList then KIMI_RUNTIME_ID
  else registry.defaultProvider

/-- Adds each item to the part of its owner. -/
def gather {α : Type} (owner : α → String) (add : Access → α → Access) (items : List α) (partitions : OrderedMap String Access) :
    OrderedMap String Access :=
  items.foldl (fun partitions item =>
    partitions.set (owner item) (add ((partitions.get? (owner item)).getD ⟨[],[]⟩) item)) partitions

def partitionAccess (registry : Registry) (access : Access) : OrderedMap String Access :=
  gather (accessOwner registry) (fun owned ref => {owned with credentialRefs := owned.credentialRefs ++ [ref]}) access.credentialRefs
    (gather (fun resource => accessOwner registry resource.1)
      (fun owned resource => {owned with resources := owned.resources ++ [resource]}) access.resources .empty)

/-- What each provider is given to clean up. -/
def cleanupAccess (registry : Registry) (access : Access) : Except Fault (List (String × Access)) :=
  ((partitionAccess registry access).entries.mapM fun entry =>
    (resolveProvider registry entry.1).map fun offer => if offer.cleanupAccess then [entry] else []).map List.flatten

/-! ### Delivery -/

/-- Each call reaches the provider that returned the handle, with the handle it returned; a handle of another runtime reaches none;
and what is to be cleaned up goes to its owner, all of it and in order. -/
structure Delivers (registry : Registry) : Prop where
  reaches : ∀ calls, ∀ returned ∈ handles registry .empty calls, ∀ operation,
    callOn registry operation returned.wrapped = .ok (returned.owner,returned.inner)
  rejects : ∀ operation handle runtimeId innerId, handle.id = runtimeId ++ HANDLE_DELIMITER.toString ++ innerId →
    HANDLE_DELIMITER ∉ runtimeId.toList → registry.providers.get? runtimeId = none →
      ∃ fault, callOn registry operation handle = .error fault
  cleans : ∀ access, ∃ given, cleanupAccess registry access = .ok given ∧ (given.map Prod.fst).Nodup ∧
    (∀ owner owned, (owner,owned) ∈ given → owned.resources = access.resources.filter (fun resource => accessOwner registry resource.1 = owner) ∧
      owned.credentialRefs = access.credentialRefs.filter fun ref => accessOwner registry ref = owner) ∧
    (∀ resource ∈ access.resources, accessOwner registry resource.1 ∈ given.map Prod.fst) ∧
    ∀ ref ∈ access.credentialRefs, accessOwner registry ref ∈ given.map Prod.fst

/-- A runtime under this name can return handles: an agent can be recorded for it, or it is asked where none is. -/
def CanStart (registry : Registry) (name : String) (offer : Offer) : Prop :=
  registry.providers.get? name = some offer ∧ (name ≠ "" ∨ name = registry.defaultProvider ∧ offer.reconcileStart = true)

structure Deliverable (registry : Registry) : Prop where
  named : ∀ name offer, CanStart registry name offer → HANDLE_DELIMITER ∉ name.toList ∧ offer.observeCommand = true
  cleaning : ∀ name offer, registry.providers.get? name = some offer → name = registry.defaultProvider ∨ name = KIMI_RUNTIME_ID →
    offer.cleanupAccess = true

section
variable {registry : Registry}

variable {agentRuntimes : OrderedMap String String} {name : String}

variable {offer : Offer} {runtimeId innerId : String} {returned : Returned}

theorem resolve_known (known : registry.providers.get? name = some offer) : resolveProvider registry name = .ok offer := by
  unfold resolveProvider
  rw [known]

theorem splitHandle_joined (plain : HANDLE_DELIMITER ∉ runtimeId.toList) :
    splitHandle (runtimeId ++ HANDLE_DELIMITER.toString ++ innerId) = some (runtimeId,innerId) := by
  have each : ∀ char ∈ runtimeId.toList, decide (char ≠ HANDLE_DELIMITER) = true :=
    fun char inside => decide_eq_true fun same => plain (same ▸ inside)
  have chars : (runtimeId ++ HANDLE_DELIMITER.toString ++ innerId).toList = runtimeId.toList ++ HANDLE_DELIMITER::innerId.toList := by
    simp [HANDLE_DELIMITER]
  unfold splitHandle
  rw [chars,List.dropWhile_append_of_pos each,List.dropWhile_cons_of_neg (by simp),List.takeWhile_append_of_pos each,
    List.takeWhile_cons_of_neg (by simp)]
  simp

/-- A name with a delimiter in it is cut there, and what is left of it stays with the id. -/
theorem splitHandle_broken (broken : HANDLE_DELIMITER ∈ runtimeId.toList) :
    ∃ start rest, splitHandle (runtimeId ++ HANDLE_DELIMITER.toString ++ innerId) = some (start,rest) ∧ rest ≠ innerId := by
  obtain ⟨before,after,split_,first⟩ := List.eq_append_cons_of_mem broken
  have each : ∀ char ∈ before, decide (char ≠ HANDLE_DELIMITER) = true :=
    fun char inside => decide_eq_true fun same => first (same ▸ inside)
  have chars : (runtimeId ++ HANDLE_DELIMITER.toString ++ innerId).toList =
      before ++ HANDLE_DELIMITER::(after ++ HANDLE_DELIMITER::innerId.toList) := by
    simp [split_,HANDLE_DELIMITER]
  unfold splitHandle
  rw [chars,List.dropWhile_append_of_pos each,List.dropWhile_cons_of_neg (by simp)]
  refine ⟨_,_,rfl,fun same => ?_⟩
  have sizes := congrArg (List.length ∘ String.toList) same
  simp only [Function.comp_apply,String.toList_ofList,List.length_append,List.length_cons] at sizes
  omega

theorem callOn_wrapped (known : registry.providers.get? name = some offer)
    (plain : HANDLE_DELIMITER ∉ name.toList) (observes : offer.observeCommand = true) (operation : HandleOperation)
    (inner : RuntimeHandle) : callOn registry operation (wrapHandle name inner) = .ok (name,inner) := by
  have unwrapped : unwrapHandle registry (wrapHandle name inner) = .ok (name,offer,inner) := by
    unfold unwrapHandle
    rw [show (wrapHandle name inner).id = name ++ HANDLE_DELIMITER.toString ++ inner.id from rfl,splitHandle_joined plain]
    dsimp only
    rw [resolve_known known]
    rfl
  unfold callOn
  rw [unwrapped]
  cases operation <;> simp [Bind.bind,Except.bind,observes,registry.offered name offer known]

theorem serve_recorded (call : SessionCall)
    (known : ∀ agentId name, agentRuntimes.get? agentId = some name → (registry.providers.get? name).isSome = true) :
    ∀ agentId name, (serve registry agentRuntimes call).1.get? agentId = some name → (registry.providers.get? name).isSome = true := by
  cases call with
  | start | reconcileStart => exact known
  | syncAgent agentId route accepted =>
    unfold serve
    dsimp only
    split
    · rename_i offer resolved
      split
      · rename_i taken
        intro other name held
        rw [get?_set] at held
        split at held
        · cases held
          unfold resolveProvider at resolved
          split at resolved
          · rename_i found
            rw [found]
            rfl
          · split at resolved
            · cases resolved
              exact absurd taken.1 (by decide)
            · cases resolved
        · exact known other name held
      · exact known
    · exact known

/-- A handle that is returned is one of a registered runtime, under its name. -/
theorem serve_returned {call : SessionCall}
    (known : ∀ agentId name, agentRuntimes.get? agentId = some name → (registry.providers.get? name).isSome = true)
    (given : (serve registry agentRuntimes call).2 = some returned) :
    returned.wrapped = wrapHandle returned.owner returned.inner ∧ ∃ offer, CanStart registry returned.owner offer := by
  have registered {agentId name : String} (held : recorded agentRuntimes agentId = some name) :
      name ≠ "" ∧ ∃ offer, registry.providers.get? name = some offer := by
    obtain ⟨stored,some_⟩ := Option.filter_eq_some_iff.mp held
    exact ⟨of_decide_eq_true some_,Option.isSome_iff_exists.mp (known agentId name stored)⟩
  cases call with
  | syncAgent agentId route accepted =>
    unfold serve at given
    dsimp only at given
    split at given
    · split at given <;> cases given
    · cases given
  | start agentId answer =>
    obtain ⟨runtimeId,held,given⟩ := Option.bind_eq_some_iff.mp given
    obtain ⟨offer,_,given⟩ := Option.bind_eq_some_iff.mp given
    split at given
    · obtain ⟨handle,_,rfl⟩ := Option.map_eq_some_iff.mp given
      obtain ⟨some_,offer,found⟩ := registered held
      exact ⟨rfl,offer,found,.inl some_⟩
    · cases given
  | reconcileStart agentId answer =>
    obtain ⟨offer,resolved,given⟩ := Option.bind_eq_some_iff.mp given
    split at given
    · rename_i reconciles
      obtain ⟨handle,_,rfl⟩ := Option.map_eq_some_iff.mp given
      refine ⟨rfl,?_⟩
      cases held : recorded agentRuntimes agentId with
      | some name =>
        obtain ⟨some_,offer,found⟩ := registered held
        exact ⟨offer,found,.inl some_⟩
      | none =>
        rw [held] at resolved
        obtain ⟨offer_,found⟩ := Option.isSome_iff_exists.mp registry.known
        rw [Option.getD_none,resolve_known found] at resolved
        cases resolved
        exact ⟨offer,found,.inr ⟨rfl,reconciles⟩⟩
    · cases given

theorem handles_returned {calls : List SessionCall}
    (known : ∀ agentId name, agentRuntimes.get? agentId = some name → (registry.providers.get? name).isSome = true)
    (given : returned ∈ handles registry agentRuntimes calls) :
    returned.wrapped = wrapHandle returned.owner returned.inner ∧ ∃ offer, CanStart registry returned.owner offer := by
  induction calls generalizing agentRuntimes with
  | nil => cases given
  | cons call calls ih =>
    cases List.mem_append.mp given with
    | inl now => exact serve_returned known (Option.mem_toList.mp now)
    | inr later => exact ih (serve_recorded call known) later

/-- Each runtime that can start returns any handle in some run. -/
theorem CanStart.returns (starts : CanStart registry name offer) (inner : RuntimeHandle) :
    ∃ calls, ⟨name,inner,wrapHandle name inner⟩ ∈ handles registry .empty calls := by
  obtain ⟨known,some_ | ⟨default_,reconciles⟩⟩ := starts
  · refine ⟨[.syncAgent "agent" (some name) true,.start "agent" (some inner)],?_⟩
    have held : recorded (OrderedMap.empty.set "agent" name) "agent" = some name := by
      unfold recorded
      rw [get?_set,if_pos rfl]
      simp [some_]
    simp [handles,serve,held,resolve_known known,Except.toOption,registry.offered name offer known]
  · refine ⟨[.reconcileStart "agent" (some inner)],?_⟩
    subst default_
    simp [handles,serve,recorded,resolve_known known,Except.toOption,reconciles]

/-! ### Partitions -/

theorem getD_gather {α : Type} (owner : α → String) (add : Access → α → Access) (items : List α) (partitions : OrderedMap String Access)
    (name : String) : ((gather owner add items partitions).get? name).getD ⟨[],[]⟩ =
      (items.filter fun item => owner item = name).foldl add ((partitions.get? name).getD ⟨[],[]⟩) := by
  induction items generalizing partitions with
  | nil => rfl
  | cons item items ih =>
    refine (ih _).trans ?_
    rw [get?_set]
    by_cases same : owner item = name
    · rw [if_pos same.symm,List.filter_cons_of_pos (by simpa using same),same]
      rfl
    · rw [if_neg (Ne.symm same),List.filter_cons_of_neg (by simpa using same)]

theorem isSome_gather {α : Type} (owner : α → String) (add : Access → α → Access) (items : List α) (partitions : OrderedMap String Access)
    (name : String) : ((gather owner add items partitions).get? name).isSome = true ↔
      (partitions.get? name).isSome = true ∨ ∃ item ∈ items, owner item = name := by
  induction items generalizing partitions with
  | nil => simp [gather]
  | cons item items ih =>
    refine (ih _).trans ?_
    rw [get?_set]
    by_cases same : owner item = name
    · simp [same]
    · simp [same,Ne.symm same]

theorem partition_owned (access : Access) (name : String) : ((partitionAccess registry access).get? name).getD ⟨[],[]⟩ =
    ⟨access.resources.filter fun resource => accessOwner registry resource.1 = name,
      access.credentialRefs.filter fun ref => accessOwner registry ref = name⟩ := by
  have resources (items : List (String × Json)) (owned : Access) :
      items.foldl (fun owned resource => {owned with resources := owned.resources ++ [resource]}) owned =
        ⟨owned.resources ++ items,owned.credentialRefs⟩ := by
    induction items generalizing owned with
    | nil => simp
    | cons item items ih => simp [ih]
  have refs (items : List String) (owned : Access) :
      items.foldl (fun owned ref => {owned with credentialRefs := owned.credentialRefs ++ [ref]}) owned =
        ⟨owned.resources,owned.credentialRefs ++ items⟩ := by
    induction items generalizing owned with
    | nil => simp
    | cons item items ih => simp [ih]
  unfold partitionAccess
  rw [getD_gather,getD_gather,refs,resources]
  rfl

theorem accessOwner_known (registry : Registry) (id : String) : ∃ offer, registry.providers.get? (accessOwner registry id) = some offer ∧
    (accessOwner registry id = registry.defaultProvider ∨ accessOwner registry id = KIMI_RUNTIME_ID) := by
  unfold accessOwner
  split
  · rename_i kimi
    obtain ⟨offer,found⟩ := Option.isSome_iff_exists.mp kimi.1
    exact ⟨offer,found,.inr rfl⟩
  · obtain ⟨offer,found⟩ := Option.isSome_iff_exists.mp registry.known
    exact ⟨offer,found,.inl rfl⟩

theorem mem_partition {access : Access} : (name ∈ (partitionAccess registry access).entries.map Prod.fst) ↔
    (∃ resource ∈ access.resources, accessOwner registry resource.1 = name) ∨
      ∃ ref ∈ access.credentialRefs, accessOwner registry ref = name := by
  rw [OrderedMap.mem_keys]
  unfold partitionAccess
  rw [isSome_gather,isSome_gather]
  simp

theorem mapM_each {α β : Type} {read : α → Except Fault β} {items : List α} {value : α → β} (each : ∀ item ∈ items, read item = .ok (value item)) :
    items.mapM read = .ok (items.map value) := by
  induction items with
  | nil => rfl
  | cons item items ih =>
    rw [List.mapM_cons,each item List.mem_cons_self,ih fun other inside => each other (List.mem_cons_of_mem _ inside)]
    rfl

/-- Each part goes to its owner, if that cleans up at all. -/
theorem cleanupAccess_eq (access : Access) : cleanupAccess registry access = .ok ((partitionAccess registry access).entries.filter fun entry =>
    ((registry.providers.get? entry.1).map Offer.cleanupAccess).getD false) := by
  have each (entry : String × Access) (inside : entry ∈ (partitionAccess registry access).entries) :
      ((resolveProvider registry entry.1).map fun offer => if offer.cleanupAccess then [entry] else []) =
        .ok (if ((registry.providers.get? entry.1).map Offer.cleanupAccess).getD false then [entry] else []) := by
    have known : ∃ offer, registry.providers.get? entry.1 = some offer := by
      obtain ⟨resource,_,owner⟩ | ⟨ref,_,owner⟩ := mem_partition.mp (List.mem_map_of_mem inside)
      · obtain ⟨offer,found,_⟩ := accessOwner_known registry resource.1
        exact ⟨offer,owner ▸ found⟩
      · obtain ⟨offer,found,_⟩ := accessOwner_known registry ref
        exact ⟨offer,owner ▸ found⟩
    obtain ⟨offer,found⟩ := known
    rw [resolve_known found,found]
    rfl
  unfold cleanupAccess
  rw [mapM_each each]
  refine congrArg Except.ok ?_
  generalize (partitionAccess registry access).entries = entries
  induction entries with
  | nil => rfl
  | cons entry entries ih =>
    rw [List.map_cons,List.flatten_cons,ih,List.filter_cons]
    split <;> rfl

/-- The facade delivers every call to its owner exactly if no runtime that can start sessions has a delimiter in its name or lacks
`observeCommand`, and the owners of access clean up. -/
theorem facade_delivers_iff (registry : Registry) : Delivers registry ↔ Deliverable registry := by
  constructor
  · intro delivers
    refine ⟨fun name offer starts => ?_,fun name offer known owner => ?_⟩
    · obtain ⟨calls,given⟩ := starts.returns ⟨"",.null⟩
      have plain : HANDLE_DELIMITER ∉ name.toList := by
        intro broken
        have reached := delivers.reaches calls _ given .events
        obtain ⟨start,rest,split_,other⟩ := @splitHandle_broken name "" broken
        unfold callOn unwrapHandle at reached
        rw [show (wrapHandle name ⟨"",.null⟩).id = name ++ HANDLE_DELIMITER.toString ++ "" from rfl,split_] at reached
        dsimp only at reached
        cases resolved : resolveProvider registry start with
        | error fault =>
          rw [resolved] at reached
          cases reached
        | ok found =>
          rw [resolved] at reached
          change (if found.calls = true then Except.ok _ else _) = _ at reached
          split at reached
          · exact other (congrArg RuntimeHandle.id (Prod.mk.inj (Except.ok.inj reached)).2)
          · cases reached
      refine ⟨plain,?_⟩
      have reached := delivers.reaches calls _ given (.observeCommand "")
      unfold callOn unwrapHandle at reached
      rw [show (wrapHandle name ⟨"",.null⟩).id = name ++ HANDLE_DELIMITER.toString ++ "" from rfl,splitHandle_joined plain] at reached
      dsimp only at reached
      rw [resolve_known starts.1] at reached
      change (if offer.observeCommand = true then Except.ok _ else _) = _ at reached
      split at reached
      · assumption
      · cases reached
    · have owned : ∃ ref, accessOwner registry ref = name := by
        cases owner with
        | inl default_ => exact ⟨"",(if_neg fun kimi => absurd kimi.2 (by decide)).trans default_.symm⟩
        | inr kimi =>
          subst kimi
          exact ⟨"kimi-cred-",if_pos ⟨by rw [known]; rfl,by decide⟩⟩
      obtain ⟨ref,here⟩ := owned
      obtain ⟨given,cleaned,_,_,_,refs⟩ := delivers.cleans ⟨[],[ref]⟩
      have inside := refs ref (List.mem_singleton_self ref)
      rw [cleanupAccess_eq] at cleaned
      cases cleaned
      obtain ⟨entry,listed,same⟩ := List.mem_map.mp inside
      have cleans := (List.mem_filter.mp listed).2
      rw [same,here,known] at cleans
      exact cleans
  · intro deliverable
    refine ⟨fun calls returned given operation => ?_,fun operation handle runtimeId innerId named plain absent => ?_,fun access => ?_⟩
    · obtain ⟨wrapped,offer,starts⟩ := handles_returned (by intro _ _ held; cases held) given
      obtain ⟨plain,observes⟩ := deliverable.named _ offer starts
      rw [wrapped]
      exact callOn_wrapped starts.1 plain observes operation returned.inner
    · unfold callOn unwrapHandle
      rw [named,splitHandle_joined plain]
      dsimp only
      unfold resolveProvider
      rw [absent]
      dsimp only
      split
      · cases operation <;> exact ⟨_,rfl⟩
      · exact ⟨_,rfl⟩
    · have whole : ((partitionAccess registry access).entries.filter fun entry =>
          ((registry.providers.get? entry.1).map Offer.cleanupAccess).getD false) = (partitionAccess registry access).entries := by
        apply List.filter_eq_self.mpr
        intro entry listed
        have owner : ∃ id, accessOwner registry id = entry.1 := by
          obtain ⟨resource,_,here⟩ | ⟨ref,_,here⟩ := mem_partition.mp (List.mem_map_of_mem listed)
          · exact ⟨_,here⟩
          · exact ⟨_,here⟩
        obtain ⟨id,here⟩ := owner
        obtain ⟨offer,found,kind⟩ := accessOwner_known registry id
        rw [here] at found kind
        rw [found]
        exact deliverable.cleaning _ offer found kind
      refine ⟨_,(cleanupAccess_eq access).trans (congrArg Except.ok whole),(partitionAccess registry access).distinct,?_,?_,?_⟩
      · intro owner owned listed
        have part := @partition_owned registry access owner
        rw [(OrderedMap.mem_entries _ _ _).mp listed,Option.getD_some] at part
        rw [part]
        exact ⟨rfl,rfl⟩
      · exact fun resource inside => mem_partition.mpr (.inl ⟨resource,inside,rfl⟩)
      · exact fun ref inside => mem_partition.mpr (.inr ⟨ref,inside,rfl⟩)

end

/-- A registry with a runtime whose name has a blank in it. -/
def spaced : Registry where
  providers := ((OrderedMap.empty.set "managed" {}).set "kimi local" {})
  defaultProvider := "managed"
  known := by decide
  offered name offer found := by
    rw [get?_set] at found
    split at found
    · cases found
      rfl
    · rw [get?_set] at found
      split at found
      · cases found
        rfl
      · cases found

theorem spaced_handle_lost : ¬ Delivers spaced := by
  intro delivers
  have started : handles spaced .empty [.syncAgent "coder" (some "kimi local") true,.start "coder" (some ⟨"session-1",.null⟩)] =
      [⟨"kimi local",⟨"session-1",.null⟩,⟨"kimi local session-1",.null⟩⟩] := by rfl
  have reached := delivers.reaches _ _ (started ▸ List.mem_singleton_self _) (.cancel none)
  have lost : callOn spaced (.cancel none) ⟨"kimi local session-1",.null⟩ = .error (.error "unknown runtime provider 'kimi'") := by rfl
  cases lost.symm.trans reached

end AgentOS.Routing
