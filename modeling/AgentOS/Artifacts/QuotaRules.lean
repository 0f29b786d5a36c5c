import AgentOS.Artifacts.Quotas
import AgentOS.Artifacts.Survival
import Mathlib.Data.List.Chain

/-! No capability is used beyond its bounds, and the cleanup is leased to one owner at a time. -/
namespace AgentOS.Artifacts.Quotas
open Library Machines Written

variable {platform : Platform}

/-! ### Quotas -/

variable (quotas : QuotaTable)

def callsAt (key : String) : Int := (quotas.get? key).elim 0 ArtifactCapabilityQuota.calls

def bytesAt (key : String) : Int := (quotas.get? key).elim 0 ArtifactCapabilityQuota.cumulativeBytes

def QuotaCall.key (call : QuotaCall) : String := quotaKey call.claims.purpose call.claims.audience call.claims.nonce

structure Within (claims : Capabilities.ArtifactCapabilityClaims) (now : Int) : Prop where
  window : ∃ notBefore expiresAt, readTimestamp claims.notBefore = .ok notBefore ∧ readTimestamp claims.expiresAt = .ok expiresAt ∧
    notBefore.epochMicroseconds ≤ now * 1000 ∧ now * 1000 < expiresAt.epochMicroseconds

structure Allowed (quotas : QuotaTable) (request : ArtifactCapabilityQuotaRequest) (later : QuotaTable) : Prop where
  active : request.notBefore.epochMicroseconds ≤ request.now.epochMicroseconds ∧
    request.now.epochMicroseconds < request.expiresAt.epochMicroseconds
  positive : 0 ≤ request.bytes
  stored : ∃ quota, later = quotas.set (quotaKey request.purpose request.audience request.nonce) quota ∧
    quota.calls = callsAt quotas (quotaKey request.purpose request.audience request.nonce) + 1 ∧
    quota.cumulativeBytes = bytesAt quotas (quotaKey request.purpose request.audience request.nonce) + request.bytes ∧
    quota.calls ≤ request.maxCalls ∧ quota.cumulativeBytes ≤ request.maxCumulativeBytes

structure Counted (quotas : QuotaTable) (call : QuotaCall) (later : QuotaTable) : Prop where
  within : Within call.claims call.consumption.now
  positive : 0 ≤ call.consumption.bytes
  stored : ∃ quota, later = quotas.set call.key quota ∧ quota.calls = callsAt quotas call.key + 1 ∧
    quota.cumulativeBytes = bytesAt quotas call.key + call.consumption.bytes ∧ quota.calls ≤ call.claims.maxCalls ∧
    quota.cumulativeBytes ≤ call.claims.maxCumulativeBytes

variable {claims : Capabilities.ArtifactCapabilityClaims} {request : ArtifactCapabilityQuotaRequest}

theorem validate_bytes {nothing : Unit} (ok : validateArtifactQuotaRequest request = .ok nothing) : 0 ≤ request.bytes := by
  unfold validateArtifactQuotaRequest at ok
  dsimp only at ok
  split at ok
  · cases ok
  split at ok
  · cases ok
  rename_i numbers
  have bytes := List.find?_eq_none.mp numbers ("bytes",request.bytes,0) List.mem_cons_self
  simp only [Bool.or_eq_true,decide_eq_true_eq,not_or,not_lt] at bytes
  exact bytes.2

theorem isoTimestamp_of_read {value : String} {stamp : IsoTimestamp} (read : readTimestamp value = .ok stamp) :
    isoTimestamp value = .ok stamp := by
  unfold readTimestamp at read
  split at read
  · cases read
  · rename_i found known
    cases read
    exact known

theorem quotaRequest_ok {call : QuotaCall} (ok : quotaRequest platform call.claims call.consumption = .ok request) :
    readTimestamp call.claims.notBefore = .ok request.notBefore ∧ readTimestamp call.claims.expiresAt = .ok request.expiresAt ∧
      request.now.epochMicroseconds = call.consumption.now * 1000 ∧
      quotaKey request.purpose request.audience request.nonce = call.key ∧ request.bytes = call.consumption.bytes ∧
      request.maxCalls = call.claims.maxCalls ∧ request.maxCumulativeBytes = call.claims.maxCumulativeBytes := by
  obtain ⟨notBefore,starts,ok⟩ := bind_ok.mp ok
  obtain ⟨expiresAt,ends,ok⟩ := bind_ok.mp ok
  obtain ⟨text,dated,ok⟩ := bind_ok.mp ok
  obtain ⟨now,read,ok⟩ := bind_ok.mp ok
  cases ok
  refine ⟨starts,ends,?_,rfl,rfl,rfl,rfl⟩
  obtain ⟨_,same⟩ := dateText_ok_iff.mp dated
  rw [← same] at read
  exact epochMicroseconds_toISOString (isoTimestamp_of_read read)

theorem callsAt_of {quotas : QuotaTable} {key : String} {quota : Option ArtifactCapabilityQuota} (held : quotas.get? key = quota) :
    callsAt quotas key = quota.elim 0 ArtifactCapabilityQuota.calls ∧
      bytesAt quotas key = quota.elim 0 ArtifactCapabilityQuota.cumulativeBytes := by
  unfold callsAt bytesAt
  rw [held]
  exact ⟨rfl,rfl⟩

theorem consumeArtifactCapabilityQuota_ok {quotas later : QuotaTable}
    {result : ArtifactCapabilityQuotaResult} (ok : consumeArtifactCapabilityQuota quotas request = .ok (result,later)) :
    (result.allowed = false ∧ later = quotas) ∨ (result.allowed = true ∧ Allowed quotas request later) := by
  obtain ⟨nothing,valid,ok⟩ := bind_ok.mp ok
  have positive := validate_bytes valid
  dsimp only at ok
  split at ok
  · cases ok
    exact .inl ⟨rfl,rfl⟩
  rename_i active
  have active := not_not.mp active
  split at ok
  · rename_i held
    obtain ⟨calls,spent⟩ := callsAt_of held
    split at ok
    · cases ok
      exact .inl ⟨rfl,rfl⟩
    · rename_i left
      cases ok
      refine .inr ⟨rfl,active,positive,_,rfl,?_,?_,?_,?_⟩
      · rw [calls]
        rfl
      · rw [spent]
        exact (Int.zero_add _).symm
      · dsimp only
        omega
      · dsimp only
        omega
  · rename_i existing held
    obtain ⟨calls,spent⟩ := callsAt_of held
    split at ok
    · cases ok
      exact .inl ⟨rfl,rfl⟩
    · split at ok
      · cases ok
        exact .inl ⟨rfl,rfl⟩
      · rename_i left
        cases ok
        refine .inr ⟨rfl,active,positive,_,rfl,?_,?_,?_,?_⟩
        · rw [calls]
          rfl
        · rw [spent]
          rfl
        · dsimp only
          omega
        · dsimp only
          omega

theorem consume_cases (call : QuotaCall) : ((consume platform quotas call).1 ≠ .ok () ∧ (consume platform quotas call).2 = quotas) ∨
      ((consume platform quotas call).1 = .ok () ∧ Counted quotas call (consume platform quotas call).2) := by
  unfold consume
  split
  · exact .inl ⟨by simp,rfl⟩
  · rename_i result later done
    obtain ⟨request,made,done⟩ := bind_ok.mp done
    obtain ⟨starts,ends,now,key,bytes,maxCalls,maxBytes⟩ := quotaRequest_ok made
    rcases consumeArtifactCapabilityQuota_ok done with ⟨refused,same⟩ | ⟨allowed,taken⟩
    · rw [refused]
      exact .inl ⟨by simp,same⟩
    · obtain ⟨quota,stored,calls,spent,few,small⟩ := taken.stored
      rw [allowed]
      rw [key] at stored calls spent
      refine .inr ⟨rfl,⟨⟨_,_,starts,ends,now ▸ taken.active.1,now ▸ taken.active.2⟩⟩,bytes ▸ taken.positive,quota,stored,calls,?_,
        maxCalls ▸ few,maxBytes ▸ small⟩
      rw [spent,bytes]

section
variable (platform)

def accepted (claims : Capabilities.ArtifactCapabilityClaims) (calls : List QuotaCall) : List QuotaCall :=
  ((calls.zip (answers (consume platform) OrderedMap.empty calls)).filter fun taken =>
    taken.1.claims = claims ∧ taken.2 = .ok ()).map Prod.fst

structure QuotaHolds (calls : List QuotaCall) (claims : Capabilities.ArtifactCapabilityClaims) : Prop where
  few : ((accepted platform claims calls).length : Int) ≤ max 0 claims.maxCalls
  small : ((accepted platform claims calls).map fun call => call.consumption.bytes).sum ≤ max 0 claims.maxCumulativeBytes
  window : ∀ call ∈ accepted platform claims calls, Within claims call.consumption.now
  refused : ∀ quotas call, (consume platform quotas call).1 ≠ .ok () → (consume platform quotas call).2 = quotas

def share (claims : Capabilities.ArtifactCapabilityClaims) (measure : QuotaCall → Int) (call : QuotaCall) (answer : Checked Unit) : Int :=
  if call.claims = claims ∧ answer = .ok () then measure call else 0

end

theorem outlay_share (claims : Capabilities.ArtifactCapabilityClaims) (measure : QuotaCall → Int) (calls : List QuotaCall) :
    outlay (consume platform) (share claims measure) OrderedMap.empty calls = ((accepted platform claims calls).map measure).sum := by
  unfold outlay accepted
  induction calls.zip (answers (consume platform) OrderedMap.empty calls) with
  | nil => rfl
  | cons taken more ih =>
    rw [List.map_cons,List.sum_cons,ih,List.filter_cons]
    unfold share
    split
    · rename_i counted
      rw [if_pos (decide_eq_true counted),List.map_cons,List.map_cons,List.sum_cons]
    · rename_i refused
      rw [if_neg (by rwa [decide_eq_true_eq]),Int.zero_add]

theorem consume_at (call : QuotaCall) (key : String) :
    ((consume platform quotas call).1 ≠ .ok () ∧ (consume platform quotas call).2 = quotas) ∨
    (call.key ≠ key ∧ (consume platform quotas call).2.get? key = quotas.get? key) ∨
    (call.key = key ∧ 0 ≤ call.consumption.bytes ∧ callsAt (consume platform quotas call).2 key = callsAt quotas key + 1 ∧
      bytesAt (consume platform quotas call).2 key = bytesAt quotas key + call.consumption.bytes ∧
      callsAt (consume platform quotas call).2 key ≤ call.claims.maxCalls ∧
      bytesAt (consume platform quotas call).2 key ≤ call.claims.maxCumulativeBytes) := by
  rcases @consume_cases platform quotas call with refused | ⟨_,counted⟩
  · exact .inl refused
  · obtain ⟨quota,stored,calls,spent,few,small⟩ := counted.stored
    rw [stored]
    by_cases same : call.key = key
    · subst same
      obtain ⟨calls',spent'⟩ := @callsAt_of (quotas.set call.key quota) call.key (some quota) ((OrderedMap.get?_set ..).trans (if_pos rfl))
      rw [calls',spent']
      exact .inr (.inr ⟨rfl,counted.positive,calls,spent,few,small⟩)
    · exact .inr (.inl ⟨same,(OrderedMap.get?_set ..).trans (if_neg (Ne.symm same))⟩)

variable {measure : QuotaCall → Int}

theorem share_cases {call : QuotaCall} {answer : Checked Unit} : share claims measure call answer = 0 ∨
      (call.claims = claims ∧ answer = .ok () ∧ share claims measure call answer = measure call) := by
  unfold share
  by_cases counted : call.claims = claims ∧ answer = .ok ()
  · exact .inr ⟨counted.1,counted.2,if_pos counted⟩
  · exact .inl (if_neg counted)

theorem share_le {used : QuotaTable → Int} {cap : Int}
    (grows : ∀ quotas call, (consume platform quotas call).1 = .ok () → used quotas ≤ used (consume platform quotas call).2)
    (kept : ∀ quotas call, call.claims = claims → (consume platform quotas call).1 = .ok () →
      used (consume platform quotas call).2 = used quotas + measure call ∧ used (consume platform quotas call).2 ≤ cap)
    (start : used OrderedMap.empty = 0) (calls : List QuotaCall) : ((accepted platform claims calls).map measure).sum ≤ max 0 cap := by
  have paid : ∀ quotas call, used quotas + share claims measure call (consume platform quotas call).1 ≤
      used (consume platform quotas call).2 := by
    intro quotas call
    rcases @share_cases claims measure call (consume platform quotas call).1 with free | ⟨same,counted,paid⟩
    · rw [free,Int.add_zero]
      rcases @consume_cases platform quotas call with ⟨_,unchanged⟩ | ⟨counted,_⟩
      · rw [unchanged]
      · exact grows quotas call counted
    · rw [paid]
      exact (kept quotas call same counted).1.ge
  have capped : ∀ quotas call, share claims measure call (consume platform quotas call).1 ≠ 0 →
      used (consume platform quotas call).2 ≤ cap := by
    intro quotas call spends
    rcases @share_cases claims measure call (consume platform quotas call).1 with free | ⟨same,counted,_⟩
    · exact absurd free spends
    · exact (kept quotas call same counted).2
  rw [← outlay_share]
  exact outlay_le paid capped start.ge

def capabilityKey (claims : Capabilities.ArtifactCapabilityClaims) : String :=
  quotaKey claims.purpose claims.audience claims.nonce

theorem grows_at (call : QuotaCall) (key : String) : callsAt quotas key ≤ callsAt (consume platform quotas call).2 key ∧
      bytesAt quotas key ≤ bytesAt (consume platform quotas call).2 key := by
  rcases @consume_at platform quotas call key with ⟨_,same⟩ | ⟨_,same⟩ | ⟨_,positive,calls,spent,_⟩
  · rw [same]
    exact ⟨le_refl _,le_refl _⟩
  · obtain ⟨calls,spent⟩ := callsAt_of same
    obtain ⟨calls',spent'⟩ := @callsAt_of quotas key _ rfl
    rw [calls,spent,calls',spent']
    exact ⟨le_refl _,le_refl _⟩
  · omega

theorem counted_at {quotas : QuotaTable} {call : QuotaCall} (counted : (consume platform quotas call).1 = .ok ()) :
    callsAt (consume platform quotas call).2 call.key = callsAt quotas call.key + 1 ∧
    bytesAt (consume platform quotas call).2 call.key = bytesAt quotas call.key + call.consumption.bytes ∧
    callsAt (consume platform quotas call).2 call.key ≤ call.claims.maxCalls ∧
    bytesAt (consume platform quotas call).2 call.key ≤ call.claims.maxCumulativeBytes := by
  rcases @consume_at platform quotas call call.key with ⟨refused,_⟩ | ⟨other,_⟩ | ⟨_,_,kept⟩
  · exact absurd counted refused
  · exact absurd rfl other
  · exact kept

theorem within_of_accepted {call : QuotaCall} {calls : List QuotaCall}
    (inside : call ∈ accepted platform claims calls) : Within claims call.consumption.now := by
  unfold accepted at inside
  obtain ⟨⟨call',answer⟩,kept,rfl⟩ := List.mem_map.mp inside
  obtain ⟨paired,counted⟩ := List.mem_filter.mp kept
  obtain ⟨rfl,ok⟩ := of_decide_eq_true counted
  obtain ⟨quotas,met⟩ := answered_at paired
  rcases @consume_cases platform quotas call' with ⟨refused,_⟩ | ⟨_,counted⟩
  · exact absurd (met.symm.trans ok) refused
  · exact counted.within

theorem quota_holds (calls : List QuotaCall) (claims : Capabilities.ArtifactCapabilityClaims) : QuotaHolds platform calls claims where
  few := by
    have counts := @share_le platform claims (fun _ => 1) (callsAt · (capabilityKey claims)) claims.maxCalls
      (fun quotas call _ => (grows_at quotas call _).1) (by
        intro quotas call same counted
        subst same
        obtain ⟨calls,_,few,_⟩ := counted_at counted
        exact ⟨calls,few⟩) rfl calls
    rwa [List.map_const',List.sum_replicate,nsmul_one] at counts
  small := share_le (fun quotas call _ => (grows_at quotas call (capabilityKey claims)).2) (by
      intro quotas call same counted
      subst same
      obtain ⟨_,spent,_,small⟩ := counted_at counted
      exact ⟨spent,small⟩) rfl calls
  window := fun call inside => within_of_accepted inside
  refused := by
    intro quotas call refused
    rcases @consume_cases platform quotas call with ⟨_,unchanged⟩ | ⟨counted,_⟩
    · exact unchanged
    · exact absurd counted refused

/-! ### The cleanup lease -/

def LeaseCall.now (call : LeaseCall) : Int := call.request.now.epochMicroseconds

def leaseOf (request : ArtifactCleanupLeaseRequest) : ArtifactCleanupLease := {owner := request.owner,expiresAt := request.expiresAt}

variable (calls : List LeaseCall)

def grants : List ArtifactCleanupLeaseRequest :=
  ((calls.zip (answers leaseStep none calls)).filter fun taken => taken.2 = .ok true).map fun taken => taken.1.request

structure LastGrant (calls : List LeaseCall) (owner : String) (grant : ArtifactCleanupLeaseRequest)
    (since : List ArtifactCleanupLeaseRequest) : Prop where
  order : ∃ before, grants calls = before ++ grant::since
  own : grant.owner = owner
  last : ∀ later ∈ since, later.owner ≠ owner

def HoldsLease (owner : String) (time : Int) : Prop :=
  ∃ grant, LastGrant calls owner grant [] ∧ time < grant.expiresAt.epochMicroseconds

/-- With clocks that do not run back, the times are those from the last call on. -/
structure LeaseHolds (calls : List LeaseCall) : Prop where
  alone : ∀ time, (∀ call ∈ calls, call.now ≤ time) → ∀ owner other grant grant' since since', LastGrant calls owner grant since →
    LastGrant calls other grant' since' → time < grant.expiresAt.epochMicroseconds → time < grant'.expiresAt.epochMicroseconds →
    owner = other
  lost : ∀ request : ArtifactCleanupLeaseRequest, ¬ HoldsLease calls request.owner request.now.epochMicroseconds →
    (renewArtifactCleanupLease (after leaseStep none calls) request).1 ≠ .ok true ∧
      (renewArtifactCleanupLease (after leaseStep none calls) request).2 = after leaseStep none calls

variable (lease : Option ArtifactCleanupLease)

theorem claim_cases (request : ArtifactCleanupLeaseRequest) :
    ((claimArtifactCleanupLease lease request).1 ≠ .ok true ∧ (claimArtifactCleanupLease lease request).2 = lease) ∨
    (claimArtifactCleanupLease lease request = (.ok true,some (leaseOf request)) ∧
      ∀ held ∈ lease, held.expiresAt.epochMicroseconds ≤ request.now.epochMicroseconds) := by
  unfold claimArtifactCleanupLease
  split
  · exact .inl ⟨by simp,rfl⟩
  · split
    · exact .inl ⟨by simp,rfl⟩
    · rename_i free
      refine .inr ⟨rfl,fun held kept => ?_⟩
      rw [kept,Option.any_some,decide_eq_true_eq] at free
      exact not_lt.mp free

theorem renew_cases (request : ArtifactCleanupLeaseRequest) :
    ((renewArtifactCleanupLease lease request).1 ≠ .ok true ∧ (renewArtifactCleanupLease lease request).2 = lease) ∨
    (renewArtifactCleanupLease lease request = (.ok true,some (leaseOf request)) ∧
      ∃ held, lease = some held ∧ held.owner = request.owner ∧ request.now.epochMicroseconds < held.expiresAt.epochMicroseconds) := by
  unfold renewArtifactCleanupLease
  split
  · exact .inl ⟨by simp,rfl⟩
  · split
    · exact .inl ⟨by simp,rfl⟩
    · rename_i held
      split
      · exact .inl ⟨by simp,rfl⟩
      · rename_i own
        obtain ⟨same,unexpired⟩ := not_or.mp own
        exact .inr ⟨rfl,held,rfl,not_not.mp same,not_le.mp unexpired⟩

theorem leaseStep_cases (call : LeaseCall) : ((leaseStep lease call).1 ≠ .ok true ∧ (leaseStep lease call).2 = lease) ∨
    (leaseStep lease call = (.ok true,some (leaseOf call.request)) ∧
      ∀ held ∈ lease, call.request.owner = held.owner ∨ held.expiresAt.epochMicroseconds ≤ call.now) := by
  cases call with
  | claim request =>
    rcases claim_cases lease request with refused | ⟨granted,expired⟩
    · exact .inl refused
    · exact .inr ⟨granted,fun held kept => .inr (expired held kept)⟩
  | renew request =>
    rcases renew_cases lease request with refused | ⟨granted,held,kept,own,_⟩
    · exact .inl refused
    · refine .inr ⟨granted,fun held' kept' => .inl ?_⟩
      cases kept.symm.trans kept'
      exact own.symm

theorem grants_snoc (call : LeaseCall) : grants (calls ++ [call]) =
    grants calls ++ if (leaseStep (after leaseStep none calls) call).1 = .ok true then [call.request] else [] := by
  unfold grants
  rw [answers_append,List.zip_append (answers_length ..).symm,List.filter_append,List.map_append]
  refine congrArg (_ ++ ·) ?_
  change List.map _ (List.filter _ [(call,_)]) = _
  by_cases granted : (leaseStep (after leaseStep none calls) call).1 = .ok true
  · simp only [List.filter_cons,granted,decide_true,if_true,List.filter_nil,List.map_cons,List.map_nil]
  · simp only [List.filter_cons,granted,decide_false,Bool.false_eq_true,if_false,List.filter_nil,List.map_nil]

theorem grants_follow : after leaseStep none calls = (grants calls).getLast?.map leaseOf ∧
    (grants calls).IsChain fun grant next => next.owner = grant.owner ∨ grant.expiresAt.epochMicroseconds ≤ next.now.epochMicroseconds := by
  induction calls using List.reverseRecOn with
  | nil => exact ⟨rfl,.nil⟩
  | append_singleton calls call ih =>
    obtain ⟨last,chain⟩ := ih
    rw [after_append,grants_snoc]
    rcases leaseStep_cases (after leaseStep none calls) call with ⟨refused,same⟩ | ⟨granted,follows⟩
    · rw [if_neg refused,List.append_nil,after_cons,after_nil,same]
      exact ⟨last,chain⟩
    · rw [after_cons,after_nil,granted,if_pos rfl,List.getLast?_concat]
      refine ⟨rfl,List.isChain_append.mpr ⟨chain,List.IsChain.singleton _,?_⟩⟩
      intro grant ending next here
      cases here
      rw [last,ending] at follows
      exact follows (leaseOf grant) rfl

theorem call_of_grant {calls : List LeaseCall} {grant : ArtifactCleanupLeaseRequest} (granted : grant ∈ grants calls) :
    ∃ call ∈ calls, call.request = grant := by
  unfold grants at granted
  obtain ⟨taken,kept,rfl⟩ := List.mem_map.mp granted
  exact ⟨taken.1,(List.of_mem_zip (List.mem_of_mem_filter kept)).1,rfl⟩

theorem since_of_unexpired {calls : List LeaseCall} {time : Int} (past : ∀ call ∈ calls, call.now ≤ time) {owner : String}
    {grant : ArtifactCleanupLeaseRequest} {since : List ArtifactCleanupLeaseRequest} (last : LastGrant calls owner grant since)
    (unexpired : time < grant.expiresAt.epochMicroseconds) : since = [] := by
  cases since with
  | nil => rfl
  | cons next more =>
    obtain ⟨before,order⟩ := last.order
    have chain := (grants_follow calls).2
    rw [order] at chain
    rcases (List.isChain_append_cons_cons.mp chain).2.1 with own | expired
    · exact absurd (own.trans last.own) (last.last next List.mem_cons_self)
    · obtain ⟨call,inside,rfl⟩ := @call_of_grant calls next (by
        rw [order]
        exact List.mem_append_right _ (List.mem_cons_of_mem _ List.mem_cons_self))
      exact absurd (past call inside) (not_le.mpr (lt_of_lt_of_le unexpired expired))

theorem lease_holds (calls : List LeaseCall) : LeaseHolds calls where
  alone := by
    intro time past owner other grant grant' since since' last last' unexpired unexpired'
    have final := since_of_unexpired past last unexpired
    have final' := since_of_unexpired past last' unexpired'
    subst final final'
    obtain ⟨before,order⟩ := last.order
    obtain ⟨before',order'⟩ := last'.order
    have same := (List.append_inj' (order.symm.trans order') rfl).2
    cases same
    exact last.own.symm.trans last'.own
  lost := by
    intro request lost
    rcases renew_cases (after leaseStep none calls) request with refused | ⟨_,held,kept,own,unexpired⟩
    · exact refused
    · have kept' := (grants_follow calls).1.symm.trans kept
      obtain ⟨grant,ending,rfl⟩ := Option.map_eq_some_iff.mp kept'
      obtain ⟨before,order⟩ := List.getLast?_eq_some_iff.mp ending
      exact absurd ⟨grant,⟨⟨before,order⟩,own,fun _ inside => nomatch inside⟩,unexpired⟩ lost

/-- Quotas are kept whatever calls are interleaved, and the lease whatever its owners ask. -/
theorem quotas_and_cleanup_lease_hold (calls : List QuotaCall) (claims : Capabilities.ArtifactCapabilityClaims)
    (leaseCalls : List LeaseCall) : QuotaHolds platform calls claims ∧ LeaseHolds leaseCalls :=
  ⟨quota_holds calls claims,lease_holds leaseCalls⟩

end AgentOS.Artifacts.Quotas
