import AgentOS.ManagedAgents.Sync

/-! What a sync call does to a shelf: it leaves the resources of other keys alone,
and where it succeeds the provider remembers a version with the definition asked
for. -/
namespace AgentOS.ManagedAgents
open Library Routine
open OrderedMap (get?_set)
variable {β : Type} {shelf : Shelf β} {options : Options} {service : Service} {wanted : Wanted} {provider : Provider}

/-! ### Versions -/

theorem Resource.at_version (resource : Resource) : resource.at resource.version = some resource.definition := by
  unfold Resource.at Resource.version
  rw [if_neg (by omega)]
  simp

variable {found : Option (String × Resource)} {key : String} {fault : ProviderFault} {resource : Resource}

theorem revised_at {version : Nat} {definition : Json} (held : resource.at version = some definition) :
    (revised resource wanted).at version = some definition := by
  unfold Resource.at at held ⊢
  by_cases zero : version = 0
  · rw [if_pos zero] at held
    cases held
  · rw [if_neg zero] at held ⊢
    obtain ⟨bound,_⟩ := List.getElem?_eq_some_iff.mp held
    change (wanted.definition::resource.definition::resource.earlier).reverse[version - 1]? = _
    rw [List.reverse_cons,List.getElem?_append_left bound]
    exact held

/-! ### What the provider keeps of a shelf -/

/-- Ownership of a resource under a key, as its metadata shows it. -/
structure Under (resource : Resource) (key : String) : Prop where
  owner : resource.metadata.owner = some OWNER
  localId : resource.metadata.localId = some key
  listed : resource.archived = false

/-- What is known of the resources of a shelf when `made` may have been asked for,
`synced` is what succeeded last for a key, and `served` what took effect last. -/
structure Kept (shelf : Shelf β) (names : β → String × Nat → Prop) (made : Wanted → Prop)
    (synced served : String → Option Wanted) (provider : Provider) : Prop where
  owned : ∀ id resource, (shelf.resources provider.remote).get? id = some resource →
    resource.metadata.owner = some OWNER → ∃ wanted, made wanted ∧ Under resource wanted.key ∧
      resource.metadata.configDigest = some wanted.digest ∧ resource.definition = wanted.definition
  cached : ∀ key resolved, (shelf.cached provider).get? key = some resolved → ∃ current resource early late,
    names resolved current ∧ (shelf.resources provider.remote).get? current.1 = some resource ∧ Under resource key ∧
      synced key = some early ∧ resource.at current.2 = some early.definition ∧
      served key = some late ∧ resource.definition = late.definition

def Coherent (made : Wanted → Prop) : Prop := ∀ first second, made first → made second → first.key = second.key →
  first.digest = second.digest → first.definition = second.definition

def Spared (shelf : Shelf β) (key : String) (before after : Provider) : Prop :=
  shelf.cached after = shelf.cached before ∧
  ∀ id resource, (shelf.resources before.remote).get? id = some resource → resource.metadata.localId ≠ some key →
    (shelf.resources after.remote).get? id = some resource

theorem Spared.trans {before middle after : Provider} (first : Spared shelf key before middle)
    (second : Spared shelf key middle after) : Spared shelf key before after :=
  ⟨second.1.trans first.1,fun id resource held other => second.2 id resource (first.2 id resource held other) other⟩

def Unmoved (shelf : Shelf β) (before after : Provider) : Prop :=
  after.remote = before.remote ∧ shelf.cached after = shelf.cached before

theorem Unmoved.trans {before middle after : Provider} (first : Unmoved shelf before middle)
    (second : Unmoved shelf middle after) : Unmoved shelf before after :=
  ⟨second.1.trans first.1,second.2.trans first.2⟩

theorem Unmoved.spared {before after : Provider} (same : Unmoved shelf before after) : Spared shelf key before after := by
  refine ⟨same.2,fun id resource held _ => ?_⟩
  rw [same.1]
  exact held

variable {names : β → String × Nat → Prop} {made : Wanted → Prop} {synced served : String → Option Wanted}

theorem Kept.unmoved {after : Provider} (kept : Kept shelf names made synced served provider)
    (same : Unmoved shelf provider after) : Kept shelf names made synced served after := by
  constructor
  · rw [same.1]
    exact kept.owned
  · rw [same.1,same.2]
    exact kept.cached

theorem request_leads {α : Type} (serve : Workspace → Except ClientError α × Workspace)
    {post : Except ProviderFault α → Provider → Prop}
    (unserved : ∀ fault tick, post (.error fault) {provider with tick})
    (answered : ∀ tick, post ((serve provider.remote).1.mapError .client)
      {provider with remote := (serve provider.remote).2,tick})
    (lost : ∀ fault tick, post (.error fault) {provider with remote := (serve provider.remote).2,tick}) :
    (request service serve).Leads provider post := by
  unfold Leads request
  rw [exec_atomic]
  dsimp only
  cases service.outage provider.tick with
  | none => exact answered _
  | refused error => exact unserved _ _
  | lost error => exact lost _ _

theorem ticked (provider : Provider) (tick : Nat) : Unmoved shelf provider {provider with tick} :=
  ⟨rfl,shelf.requested provider provider.remote tick⟩

/-! ### Finding a resource -/

/-- What `findOwnedResource` found, among all resources of the workspace. -/
def Found (shelf : Shelf β) (wanted : Wanted) (provider : Provider) : Option (String × Resource) → Prop
  | none => ∀ id resource, (shelf.resources provider.remote).get? id = some resource → resource.archived = false →
      resource.metadata.localId ≠ some wanted.key
  | some held => (shelf.resources provider.remote).get? held.1 = some held.2 ∧ held.2.archived = false ∧
      held.2.metadata.localId = some wanted.key ∧
      ∀ id resource, (shelf.resources provider.remote).get? id = some resource → resource.archived = false →
        resource.metadata.localId = some wanted.key → id = held.1

theorem Found.unmoved {after : Provider} (is : Found shelf wanted provider found)
    (same : Unmoved shelf provider after) : Found shelf wanted after found := by
  unfold Found at is ⊢
  rw [same.1]
  exact is

theorem listResources_leads : (listResources shelf service).Leads provider fun answer after =>
    Unmoved shelf provider after ∧ ∀ listed, answer = .ok listed →
      listed = (shelf.resources provider.remote).entries.filter fun entry => !entry.2.archived := by
  apply request_leads
  · exact fun fault tick => ⟨ticked provider tick,fun _ impossible => nomatch impossible⟩
  · intro tick
    refine ⟨ticked provider tick,fun listed same => ?_⟩
    cases same
    rfl
  · exact fun fault tick => ⟨ticked provider tick,fun _ impossible => nomatch impossible⟩

theorem collectBounded_ok {α : Type} {source collected : List α} {limit : Nat}
    (bounded : collectBounded source limit = .ok collected) : collected = source := by
  unfold collectBounded at bounded
  split at bounded
  · cases bounded
  · exact (Except.ok.inj bounded).symm

theorem findOwnedResource_ok
    (answered : findOwnedResource ((shelf.resources provider.remote).entries.filter fun entry => !entry.2.archived)
      wanted.key wanted.name = .ok found) : Found shelf wanted provider found := by
  unfold findOwnedResource at answered
  dsimp only at answered
  split at answered
  · cases answered
  rename_i single
  split at answered
  · cases answered
  cases answered
  rw [List.filter_filter] at single ⊢
  have listed : ∀ id resource, (shelf.resources provider.remote).get? id = some resource → resource.archived = false →
      resource.metadata.localId = some wanted.key → (id,resource) ∈ (shelf.resources provider.remote).entries.filter
        fun entry => (!entry.2.archived && decide (entry.2.metadata.localId = some wanted.key)) && !entry.2.archived := by
    intro id resource held unarchived own
    rw [List.mem_filter]
    refine ⟨((shelf.resources provider.remote).mem_entries id resource).mpr held,?_⟩
    simp [unarchived,own]
  cases owned : (shelf.resources provider.remote).entries.filter
      fun entry => (!entry.2.archived && decide (entry.2.metadata.localId = some wanted.key)) && !entry.2.archived with
  | nil =>
    intro id resource held unarchived own
    have inside := listed id resource held unarchived own
    rw [owned] at inside
    cases inside
  | cons held rest =>
    rw [owned] at single listed
    have member : held ∈ (shelf.resources provider.remote).entries.filter
        fun entry => (!entry.2.archived && decide (entry.2.metadata.localId = some wanted.key)) && !entry.2.archived := by
      rw [owned]
      exact List.mem_cons_self
    obtain ⟨inside,fits⟩ := List.mem_filter.mp member
    simp only [Bool.and_eq_true,Bool.not_eq_true',decide_eq_true_eq] at fits
    refine ⟨((shelf.resources provider.remote).mem_entries held.1 held.2).mp inside,fits.2,fits.1.2,?_⟩
    intro id resource at_ unarchived own
    have nothing : rest = [] := by
      apply List.eq_nil_of_length_eq_zero
      simp only [List.length_cons] at single
      omega
    have only := listed id resource at_ unarchived own
    rw [nothing,List.mem_singleton] at only
    rw [← only]

theorem ownedResource_leads : (ownedResource shelf options service wanted).Leads provider fun answer after =>
    Unmoved shelf provider after ∧ ∀ found, answer = .ok found → Found shelf wanted after found := by
  unfold ownedResource
  apply leads_bind listResources_leads
  · rintro listed after ⟨same,all⟩
    cases collected : collectBounded listed options.maxRemoteResources with
    | error fault => exact ⟨same,fun _ impossible => nomatch impossible⟩
    | ok remotes =>
      refine ⟨same,fun found answered => ?_⟩
      have here : findOwnedResource remotes wanted.key wanted.name = .ok found := answered
      rw [collectBounded_ok collected,all listed rfl] at here
      exact (findOwnedResource_ok here).unmoved same
  · rintro fault after ⟨same,_⟩
    exact ⟨same,fun _ impossible => nomatch impossible⟩

/-! ### Bringing a resource up to date -/

/-- `served` with what was asked for last. -/
def servedNow (served : String → Option Wanted) (wanted : Wanted) : String → Option Wanted :=
  Function.update served wanted.key (some wanted)

theorem servedNow_here : servedNow served wanted wanted.key = some wanted := Function.update_self ..

theorem servedNow_elsewhere (other : key ≠ wanted.key) : servedNow served wanted key = served key :=
  Function.update_of_ne other ..

theorem servedNow_again : servedNow (servedNow served wanted) wanted = servedNow served wanted := Function.update_idem ..

/-- The resource of a sync call that succeeded. -/
def Current (shelf : Shelf β) (wanted : Wanted) (provider : Provider) (current : String × Nat) : Prop :=
  ∃ resource, (shelf.resources provider.remote).get? current.1 = some resource ∧ Under resource wanted.key ∧
    resource.at current.2 = some wanted.definition ∧ resource.definition = wanted.definition

theorem described_under : Under (described wanted) wanted.key := ⟨rfl,rfl,rfl⟩

theorem revised_under (listed : resource.archived = false) : Under (revised resource wanted) wanted.key := ⟨rfl,rfl,listed⟩

theorem Kept.created {after : Provider} {id : String} (kept : Kept shelf names made synced served provider)
    (asked : made wanted) (free : (shelf.resources provider.remote).get? id = none) (absent : Found shelf wanted provider none)
    (same : shelf.cached after = shelf.cached provider)
    (now : shelf.resources after.remote = (shelf.resources provider.remote).set id (described wanted)) :
    Kept shelf names made synced (servedNow served wanted) after := by
  constructor
  · intro other resource held owner
    rw [now,get?_set] at held
    split at held
    · cases held
      exact ⟨wanted,asked,described_under,rfl,rfl⟩
    · exact kept.owned other resource held owner
  · intro key resolved held
    rw [same] at held
    obtain ⟨current,resource,early,late,named,at_,under,was,version,last,definition⟩ := kept.cached key resolved held
    have apart : current.1 ≠ id := by
      intro equal
      rw [equal,free] at at_
      cases at_
    have other : key ≠ wanted.key := by
      rintro rfl
      exact absent _ _ at_ under.listed under.localId
    refine ⟨current,resource,early,late,named,?_,under,was,version,?_,definition⟩
    · rw [now,get?_set,if_neg apart]
      exact at_
    · rw [servedNow_elsewhere other]
      exact last

variable {held : String × Resource}

theorem Kept.updated {after : Provider} (kept : Kept shelf names made synced served provider)
    (asked : made wanted) (found : Found shelf wanted provider (some held)) (same : shelf.cached after = shelf.cached provider)
    (now : shelf.resources after.remote = (shelf.resources provider.remote).set held.1 (revised held.2 wanted)) :
    Kept shelf names made synced (servedNow served wanted) after := by
  obtain ⟨here,listed,own,sole⟩ := found
  constructor
  · intro other resource inside owner
    rw [now,get?_set] at inside
    split at inside
    · cases inside
      exact ⟨wanted,asked,revised_under listed,rfl,rfl⟩
    · exact kept.owned other resource inside owner
  · intro key resolved inside
    rw [same] at inside
    obtain ⟨current,resource,early,late,named,at_,under,was,version,last,definition⟩ := kept.cached key resolved inside
    by_cases this : current.1 = held.1
    · rw [this,here] at at_
      cases at_
      have key_eq : key = wanted.key := Option.some.inj (under.localId.symm.trans own)
      subst key_eq
      refine ⟨current,revised held.2 wanted,early,wanted,named,?_,revised_under listed,was,revised_at version,
        servedNow_here,rfl⟩
      rw [now,get?_set,if_pos this]
    · have other : key ≠ wanted.key := by
        rintro rfl
        exact this (sole _ _ at_ under.listed under.localId)
      refine ⟨current,resource,early,late,named,?_,under,was,version,?_,definition⟩
      · rw [now,get?_set,if_neg this]
        exact at_
      · rw [servedNow_elsewhere other]
        exact last

theorem Kept.adopted (kept : Kept shelf names made synced served provider)
    (coherent : Coherent made) (asked : made wanted) (found : Found shelf wanted provider (some held))
    (owner : held.2.metadata.owner = some OWNER) (digest : held.2.metadata.configDigest = some wanted.digest) :
    Kept shelf names made synced (servedNow served wanted) provider ∧ Current shelf wanted provider (held.1,held.2.version) := by
  obtain ⟨here,listed,own,sole⟩ := found
  obtain ⟨source,sourced,under,sourceDigest,sourceDefinition⟩ := kept.owned _ _ here owner
  have definition : held.2.definition = wanted.definition := by
    rw [sourceDefinition]
    apply coherent source wanted sourced asked
    · exact Option.some.inj (under.localId.symm.trans own)
    · exact Option.some.inj (sourceDigest.symm.trans digest)
  constructor
  · refine ⟨kept.owned,fun key resolved inside => ?_⟩
    obtain ⟨current,resource,early,late,named,at_,beneath,was,version,last,ends⟩ := kept.cached key resolved inside
    by_cases this : key = wanted.key
    · subst this
      have same : current.1 = held.1 := sole _ _ at_ beneath.listed beneath.localId
      rw [same,here] at at_
      cases at_
      exact ⟨current,held.2,early,wanted,named,same ▸ here,beneath,was,version,servedNow_here,definition⟩
    · exact ⟨current,resource,early,late,named,at_,beneath,was,version,(servedNow_elsewhere this).trans last,ends⟩
  · refine ⟨held.2,here,⟨owner,own,listed⟩,?_,definition⟩
    rw [← definition]
    exact held.2.at_version

structure Brought (shelf : Shelf β) (names : β → String × Nat → Prop) (made : Wanted → Prop)
    (synced served : String → Option Wanted) (wanted : Wanted) (before : Provider)
    (answer : Except ProviderFault (String × Nat)) (after : Provider) : Prop where
  spared : Spared shelf wanted.key before after
  brought : ∀ current, answer = .ok current →
    Kept shelf names made synced (servedNow served wanted) after ∧ Current shelf wanted after current
  failed : ∀ fault, answer = .error fault →
    Unmoved shelf before after ∨ Kept shelf names made synced (servedNow served wanted) after

theorem Brought.unmoved {after : Provider} (same : Unmoved shelf provider after) :
    Brought shelf names made synced served wanted provider (.error fault) after :=
  ⟨same.spared,(fun _ impossible => nomatch impossible),fun _ _ => .inl same⟩

theorem Brought.after {before after : Provider} {answer : Except ProviderFault (String × Nat)} (same : Unmoved shelf before provider)
    (brought : Brought shelf names made synced served wanted provider answer after) :
    Brought shelf names made synced served wanted before answer after := by
  refine ⟨same.spared.trans brought.spared,brought.brought,fun fault failed => ?_⟩
  rcases brought.failed fault failed with still | kept
  · exact .inl (same.trans still)
  · exact .inr kept

section
variable (kept : Kept shelf names made synced served provider)
include kept

theorem createResource_leads (asked : made wanted) (absent : Found shelf wanted provider none) :
    (createResource shelf service wanted).Leads provider (Brought shelf names made synced served wanted provider) := by
  refine leads_bind (show Leads provider (fun answer after => answer = .ok (service.newId provider.tick) ∧ provider = after)
    (recollect _) from ⟨rfl,rfl⟩) ?_ (fun _ _ impossible => nomatch impossible.1)
  rintro id after ⟨⟨⟩,rfl⟩
  cases taken : (shelf.resources provider.remote).get? (service.newId provider.tick) with
  | some resource =>
    apply request_leads
    · exact fun fault tick => .unmoved (ticked provider tick)
    · intro tick
      rw [taken]
      exact .unmoved (ticked provider tick)
    · intro fault tick
      rw [taken]
      exact .unmoved (ticked provider tick)
  | none =>
    have placed : ∀ tick, Spared shelf wanted.key provider {provider with
          remote := shelf.place ((shelf.resources provider.remote).set (service.newId provider.tick) (described wanted))
            provider.remote,tick} ∧
        Kept shelf names made synced (servedNow served wanted) {provider with
          remote := shelf.place ((shelf.resources provider.remote).set (service.newId provider.tick) (described wanted))
            provider.remote,tick} := by
      intro tick
      refine ⟨⟨shelf.requested _ _ _,fun id resource held _ => ?_⟩,
        kept.created asked taken absent (shelf.requested _ _ _) (shelf.placed _ _)⟩
      dsimp only
      rw [shelf.placed,get?_set,if_neg]
      · exact held
      · rintro rfl
        exact nomatch taken.symm.trans held
    apply request_leads
    · exact fun fault tick => .unmoved (ticked provider tick)
    · intro tick
      rw [taken]
      refine ⟨(placed tick).1,?_,fun _ impossible => nomatch impossible⟩
      rintro _ ⟨⟩
      refine ⟨(placed tick).2,described wanted,?_,described_under,?_,rfl⟩
      · dsimp only
        rw [shelf.placed,get?_set,if_pos rfl]
      · exact (described wanted).at_version
    · intro fault tick
      rw [taken]
      exact ⟨(placed tick).1,(fun _ impossible => nomatch impossible),fun _ _ => .inr (placed tick).2⟩

theorem updateResource_leads (asked : made wanted) (found : Found shelf wanted provider (some held)) :
    (updateResource shelf service wanted held.1 held.2.version).Leads provider
      (Brought shelf names made synced served wanted provider) := by
  have here := found.1
  have listed := found.2.1
  have placed : ∀ tick, Spared shelf wanted.key provider {provider with
        remote := shelf.place ((shelf.resources provider.remote).set held.1 (revised held.2 wanted)) provider.remote,tick} ∧
      Kept shelf names made synced (servedNow served wanted) {provider with
        remote := shelf.place ((shelf.resources provider.remote).set held.1 (revised held.2 wanted)) provider.remote,tick} := by
    intro tick
    refine ⟨⟨shelf.requested _ _ _,fun id resource inside other => ?_⟩,
      kept.updated asked found (shelf.requested _ _ _) (shelf.placed _ _)⟩
    dsimp only
    rw [shelf.placed,get?_set,if_neg]
    · exact inside
    · rintro rfl
      rw [here] at inside
      cases inside
      exact other found.2.2.1
  apply request_leads
  · exact fun fault tick => .unmoved (ticked provider tick)
  · intro tick
    rw [here]
    dsimp only
    rw [if_neg (by simp)]
    refine ⟨(placed tick).1,?_,fun _ impossible => nomatch impossible⟩
    rintro _ ⟨⟩
    refine ⟨(placed tick).2,revised held.2 wanted,?_,revised_under listed,?_,rfl⟩
    · dsimp only
      rw [shelf.placed,get?_set,if_pos rfl]
    · exact (revised held.2 wanted).at_version
  · intro fault tick
    rw [here]
    dsimp only
    rw [if_neg (by simp)]
    exact ⟨(placed tick).1,(fun _ impossible => nomatch impossible),fun _ _ => .inr (placed tick).2⟩

section
variable (coherent : Coherent made) (asked : made wanted)
include coherent asked

theorem reconciled_leads (found : Found shelf wanted provider (some held)) :
    (reconciled shelf service wanted held).Leads provider (Brought shelf names made synced served wanted provider) := by
  have here : Unmoved shelf provider provider := ⟨rfl,rfl⟩
  by_cases owner : held.2.metadata.owner = some OWNER
  · have owned : assertOwnership held.2.metadata = .ok () := if_neg (by simp [owner])
    unfold reconciled
    rw [owned]
    change Leads provider _ (if _ then _ else _)
    split
    · rename_i digest
      obtain ⟨still,current⟩ := kept.adopted coherent asked found owner digest
      refine ⟨here.spared,?_,fun _ impossible => nomatch impossible⟩
      rintro _ ⟨⟩
      exact ⟨still,current⟩
    · exact updateResource_leads kept asked found
  · have foreign : assertOwnership held.2.metadata = .error (.conflict "Remote resource has conflicting owner") :=
      if_pos owner
    unfold reconciled
    rw [foreign]
    exact .unmoved here

theorem afterConflict_leads (fault : ProviderFault) : (afterConflict shelf options service wanted fault).Leads provider
      (Brought shelf names made synced served wanted provider) := by
  apply leads_bind ownedResource_leads
  · rintro found after ⟨same,is⟩
    have still := is found rfl
    cases found with
    | none => exact .unmoved same
    | some held => exact (reconciled_leads (kept.unmoved same) coherent asked still).mono fun _ _ => .after same
  · rintro error after ⟨same,_⟩
    exact .unmoved same

theorem currentResource_leads : (currentResource shelf options service wanted).Leads provider
      (Brought shelf names made synced served wanted provider) := by
  apply leads_bind ownedResource_leads
  · rintro found listed ⟨same,is⟩
    have still := is found rfl
    have now := kept.unmoved same
    cases found with
    | some held => exact (reconciled_leads now coherent asked still).mono fun _ _ => .after same
    | none =>
      refine Leads.mono (?_ : Leads listed (Brought shelf names made synced served wanted listed) _) fun _ _ => .after same
      apply leads_bind (createResource_leads now asked still).outcome
      · rintro answer after ⟨ended,⟨⟩,created⟩
        cases answer with
        | ok made => exact created
        | error fault =>
          dsimp only
          split
          · rcases created.failed fault rfl with unmoved | kept
            · exact (afterConflict_leads (now.unmoved unmoved) coherent asked fault).mono fun _ _ => .after unmoved
            · apply (afterConflict_leads kept coherent asked fault).mono
              intro answer last brought
              refine ⟨created.spared.trans brought.spared,?_,?_⟩
              · intro current ended
                have both := brought.brought current ended
                rwa [servedNow_again] at both
              · intro error failed
                rcases brought.failed error failed with unmoved | again
                · exact .inr (kept.unmoved unmoved)
                · rw [servedNow_again] at again
                  exact .inr again
          · exact created
      · rintro error after ⟨ended,impossible,_⟩
        cases impossible
  · rintro error after ⟨same,_⟩
    exact .unmoved same

end

end

/-! ### A sync call -/

theorem Kept.remembered {resolved : β} {current : String × Nat}
    (kept : Kept shelf names made synced (servedNow served wanted) provider) (is : Current shelf wanted provider current)
    (named : names resolved current) : Kept shelf names made (servedNow synced wanted) (servedNow served wanted)
      (shelf.cache ((shelf.cached provider).set wanted.key resolved) provider) := by
  constructor
  · rw [shelf.remoteKept]
    exact kept.owned
  · intro key other held
    rw [shelf.cachedNow,get?_set] at held
    rw [shelf.remoteKept]
    split at held
    · rename_i here
      cases held
      subst here
      obtain ⟨resource,at_,under,version,definition⟩ := is
      exact ⟨current,resource,wanted,wanted,named,at_,under,servedNow_here,version,servedNow_here,definition⟩
    · rename_i elsewhere
      obtain ⟨current,resource,early,late,known,at_,under,was,rest⟩ := kept.cached key other held
      exact ⟨current,resource,early,late,known,at_,under,(servedNow_elsewhere elsewhere).trans was,rest⟩

structure SyncedShelf (shelf : Shelf β) (names : β → String × Nat → Prop) (made : Wanted → Prop)
    (synced served : String → Option Wanted) (wanted : Wanted) (before : Provider)
    (answer : Except ProviderFault Unit) (after : Provider) : Prop where
  others : ∀ key, key ≠ wanted.key → (shelf.cached after).get? key = (shelf.cached before).get? key
  spared : ∀ id resource, (shelf.resources before.remote).get? id = some resource →
    resource.metadata.localId ≠ some wanted.key → (shelf.resources after.remote).get? id = some resource
  succeeded : answer = .ok () → Kept shelf names made (servedNow synced wanted) (servedNow served wanted) after
  failed : ∀ fault, answer = .error fault → Kept shelf names made synced
    (if after.remote = before.remote then served else servedNow served wanted) after

theorem syncResource_leads {resolved : String × Nat → β} (kept : Kept shelf names made synced served provider)
    (coherent : Coherent made) (asked : made wanted) (named : ∀ current, names (resolved current) current) :
    (syncResource shelf options service wanted resolved).Leads provider
      (SyncedShelf shelf names made synced served wanted provider) := by
  suffices inner : Leads provider (SyncedShelf shelf names made synced served wanted provider) (do
      let current ← currentResource shelf options service wanted
      remember fun provider => shelf.cache ((shelf.cached provider).set wanted.key (resolved current)) provider) by
    unfold Leads syncResource at *
    rw [exec_wrap]
    refine ⟨inner.others,inner.spared,fun succeeded => inner.succeeded ?_,fun fault failed => ?_⟩
    · generalize Routine.exec _ provider = ended at succeeded
      rcases ended with ⟨answer,after⟩
      cases answer with
      | ok value => rfl
      | error error => cases succeeded
    · revert failed
      generalize Routine.exec _ provider = ended at inner ⊢
      rcases ended with ⟨answer,after⟩
      intro failed
      cases answer with
      | ok value => cases failed
      | error error => exact inner.failed error rfl
  apply leads_bind (currentResource_leads kept coherent asked)
  · intro current after brought
    obtain ⟨still,is⟩ := brought.brought current rfl
    refine ⟨fun key other => ?_,fun id resource held other => ?_,fun _ => still.remembered is (named current),
      fun _ impossible => nomatch impossible⟩
    · change (shelf.cached (shelf.cache _ after)).get? key = _
      rw [shelf.cachedNow,get?_set,if_neg other,brought.spared.1]
    · change (shelf.resources (shelf.cache _ after).remote).get? id = _
      rw [shelf.remoteKept]
      exact brought.spared.2 id resource held other
  · intro fault after brought
    refine ⟨fun key _ => by rw [brought.spared.1],brought.spared.2,(fun impossible => nomatch impossible),?_⟩
    intro error _
    split
    · rename_i same
      exact kept.unmoved ⟨same,brought.spared.1⟩
    · rename_i moved
      rcases brought.failed fault rfl with unmoved | still
      · exact absurd unmoved.1 moved
      · exact still

theorem SyncedShelf.refused (kept : Kept shelf names made synced served provider) :
    SyncedShelf shelf names made synced served wanted provider (.error fault) provider := by
  refine ⟨fun _ _ => rfl,fun _ _ held _ => held,(fun impossible => nomatch impossible),fun _ _ => ?_⟩
  rw [if_pos rfl]
  exact kept

/-! ### Calls that leave a shelf alone -/

def observed (shelf : Shelf β) (provider : Provider) : OrderedMap String Resource × OrderedMap String β :=
  (shelf.resources provider.remote,shelf.cached provider)

structure Apart {γ : Type} (shelf : Shelf β) (other : Shelf γ) : Prop where
  placed : ∀ held remote, other.resources (shelf.place held remote) = other.resources remote
  cachedNow : ∀ held provider, other.cached (shelf.cache held provider) = other.cached provider

theorem agents_apart : Apart agentShelf environmentShelf := ⟨fun _ _ => rfl,fun _ _ => rfl⟩
theorem environments_apart : Apart environmentShelf agentShelf := ⟨fun _ _ => rfl,fun _ _ => rfl⟩

theorem request_keeps {α : Type} {serve : Workspace → Except ClientError α × Workspace}
    (kept : ∀ remote, shelf.resources (serve remote).2 = shelf.resources remote) : (request service serve).Keeps (observed shelf) := by
  apply takes_atomic
  intro now
  have whole : ∀ remote tick, shelf.resources remote = shelf.resources now.remote →
      observed shelf {now with remote,tick} = observed shelf now := by
    intro remote tick same
    unfold observed
    rw [shelf.requested]
    dsimp only
    rw [same]
  dsimp only
  cases service.outage now.tick with
  | none => exact whole _ _ (kept _)
  | refused error => exact whole _ _ rfl
  | lost error => exact whole _ _ (kept _)

theorem recollect_keeps {α : Type} (read : Provider → α) : (recollect read).Keeps (observed shelf) := takes_atomic fun _ => rfl

theorem wrap_keeps {α : Type} {operation : Action α} {mapConflict : Bool} (kept : operation.Keeps (observed shelf)) :
    (wrap mapConflict operation).Keeps (observed shelf) := by
  refine (Takes.outcome kept).bind fun answer => ?_
  cases answer with
  | ok value => exact takes_pure value
  | error fault => exact takes_throw _

section
variable {γ : Type} {other : Shelf γ} (apart : Apart shelf other)

theorem ownedResource_keeps : (ownedResource shelf options service wanted).Keeps (observed other) := by
  refine (request_keeps fun _ => rfl).bind fun listed => ?_
  exact (takes_settle _).bind fun remotes => takes_settle _

include apart

theorem createResource_keeps : (createResource shelf service wanted).Keeps (observed other) := by
  refine (recollect_keeps _).bind fun id => request_keeps fun remote => ?_
  cases (shelf.resources remote).get? id with
  | none => exact apart.placed _ _
  | some resource => rfl

theorem reconciled_keeps (held : String × Resource) : (reconciled shelf service wanted held).Keeps (observed other) := by
  refine (takes_settle _).bind fun _ => ?_
  split
  · exact takes_pure _
  · refine request_keeps fun remote => ?_
    cases (shelf.resources remote).get? held.1 with
    | none => rfl
    | some resource =>
      dsimp only
      split
      · rfl
      · exact apart.placed _ _

theorem afterConflict_keeps (fault : ProviderFault) : (afterConflict shelf options service wanted fault).Keeps (observed other) := by
  refine ownedResource_keeps.bind fun found => ?_
  cases found with
  | none => exact takes_throw fault
  | some held => exact reconciled_keeps apart held

theorem syncResource_keeps (resolved : String × Nat → β) :
    (syncResource shelf options service wanted resolved).Keeps (observed other) := by
  have current : (currentResource shelf options service wanted).Keeps (observed other) := by
    refine ownedResource_keeps.bind fun found => ?_
    cases found with
    | some held => exact reconciled_keeps apart held
    | none =>
      refine (Takes.outcome (createResource_keeps apart)).bind fun answer => ?_
      cases answer with
      | ok created => exact takes_pure created
      | error fault =>
        dsimp only
        split
        · exact afterConflict_keeps apart fault
        · exact takes_throw fault
  refine wrap_keeps (current.bind fun now => takes_atomic fun provider => ?_)
  unfold observed
  rw [shelf.remoteKept,apart.cachedNow]

end

theorem startForProject_keeps {projectId : String} {request : StartRequest} :
    (startForProject options service projectId request).Keeps (observed shelf) := by
  refine (recollect_keeps _).bind fun agent => (recollect_keeps _).bind fun environment => ?_
  cases agent with
  | none => exact takes_throw _
  | some agent =>
    cases environment with
    | none => exact takes_throw _
    | some environment =>
      refine (takes_settle _).bind fun input => (recollect_keeps _).bind fun tick => (takes_settle _).bind fun deadlineAt =>
        (takes_settle _).bind fun budget => ?_
      have creating : ∀ session, (createSession service session).Keeps (observed shelf) := by
        intro session
        refine (recollect_keeps _).bind fun id => request_keeps fun remote => ?_
        cases remote.sessions.get? id with
        | none => exact shelf.unsessioned _ _
        | some taken => rfl
      exact (wrap_keeps (creating _)).bind fun id => takes_pure _

end AgentOS.ManagedAgents
