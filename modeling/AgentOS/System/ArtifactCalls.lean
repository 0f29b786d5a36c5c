import AgentOS.Library.Guarantee
import AgentOS.Library.Joined
import AgentOS.System.Bystanders
import AgentOS.Workflow.AgentStepRules

/-! Capabilities against their quotas. A quota row is registered by the first
call it allows and holds that call's capability to the instant it was issued at,
while its key is the same for every capability of the same attempt. -/
namespace AgentOS.System
open Library Outbox Workflow Routine AgentOS.Action
variable {env : Environment} {before after world : World} {claims other : ArtifactCapabilityClaims}

/-! ### Capabilities -/

structure OfAttempt (runId stepKey : String) (number : Nat) (claims : ArtifactCapabilityClaims) : Prop where
  run : claims.runId = runId
  step : claims.stepId = stepKey
  nonce : claims.nonce = .str (runtimeAccessKey runId stepKey number)

def SameAttempt (claims other : ArtifactCapabilityClaims) : Prop :=
  ∃ runId stepKey number, OfAttempt runId stepKey number claims ∧ OfAttempt runId stepKey number other

def Issued (claims : ArtifactCapabilityClaims) : Prop :=
  ∃ (deps : StepDependencies) (request : StepRequest) (number : Nat) (at_ : Instant),
    claims = artifactCapability (accessRequest deps request number) at_ ∧ invalidClaim claims at_ = none

def quotaKey (claims : ArtifactCapabilityClaims) : String × String × Json := (claims.purpose,claims.audience,claims.nonce)

structure RegisteredBy (claims : ArtifactCapabilityClaims) (quota : ArtifactCapabilityQuota) : Prop where
  fingerprint : quota.fingerprint = claimsFingerprint claims
  notBefore : quota.notBefore = claims.notBefore
  expiresAt : quota.expiresAt = claims.expiresAt

theorem claimsFingerprint_injective (same : claimsFingerprint claims = claimsFingerprint other) : claims = other := by
  have methods : Function.Injective claimsFingerprint.method := by
    intro left right same
    cases left <;> cases right <;> first | rfl | exact absurd same (by decide)
  have prefixes : ∀ left right : Option String, left.elim Json.null Json.str = right.elim Json.null Json.str →
      left = right := by
    intro left right same
    cases left <;> cases right <;> simp_all
  obtain ⟨purpose,audience,methodsOf,projectId,runId,stepId,keyPrefix,maxBytes,maxCalls,maxCumulativeBytes,
    notBefore,expiresAt,nonce⟩ := claims
  obtain ⟨purpose',audience',methodsOf',projectId',runId',stepId',keyPrefix',maxBytes',maxCalls',maxCumulativeBytes',
    notBefore',expiresAt',nonce'⟩ := other
  simp only [claimsFingerprint,Json.arr.injEq,Json.str.injEq,Json.num.injEq,Json.timestamp.injEq,List.cons.injEq,
    and_true] at same
  obtain ⟨rfl,rfl,mapped,rfl,rfl,rfl,prefixed,rfl,rfl,rfl,rfl,rfl,rfl⟩ := same
  obtain rfl := prefixes _ _ prefixed
  obtain rfl := methods.list_map mapped
  rfl

theorem not_mem_of_safe {value : String} (safe : safeClaim value = true) : ':' ∉ value.toList := by
  intro inside
  simp only [safeClaim,Bool.and_eq_true] at safe
  have safe' := List.all_eq_true.mp safe.1.1.2 ':' inside
  revert safe'
  decide

theorem runtimeAccessKey_toList (runId stepKey : String) (number : Nat) : (runtimeAccessKey runId stepKey number).toList =
      "runtime-access:".toList ++ (runId.toList ++ ':'::(stepKey.toList ++ ':'::(toString number).toList)) := by
  have colon : (":" : String).toList = [':'] := by decide
  unfold runtimeAccessKey
  rw [String.toList_append,String.toList_append,String.toList_append,String.toList_append,String.toList_append,colon,
    List.append_assoc,List.append_assoc,List.append_assoc,List.append_assoc]
  rfl

theorem runtimeAccessKey_injective {runId stepKey runId' stepKey' : String} {number number' : Nat}
    (run : safeClaim runId = true) (step : safeClaim stepKey = true) (run' : safeClaim runId' = true)
    (step' : safeClaim stepKey' = true) (same : runtimeAccessKey runId stepKey number = runtimeAccessKey runId' stepKey' number') :
    runId = runId' ∧ stepKey = stepKey' ∧ number = number' := by
  have characters := congrArg String.toList same
  rw [runtimeAccessKey_toList,runtimeAccessKey_toList] at characters
  have afterPrefix := List.append_cancel_left characters
  obtain ⟨sameRun,afterRun⟩ := Joined.inj_of_heads (not_mem_of_safe run) (not_mem_of_safe run') afterPrefix
  obtain ⟨sameStep,numerals⟩ := Joined.inj_of_heads (not_mem_of_safe step) (not_mem_of_safe step') afterRun
  exact ⟨String.toList_injective sameRun,String.toList_injective sameStep,Joined.numeral_injective numerals⟩

theorem of_no_reason {condition : Prop} [Decidable condition] {reason : String} {later : Option String}
    (valid : (if condition then some reason else later) = none) : ¬ condition ∧ later = none := by
  by_cases holds : condition
  · rw [if_pos holds] at valid
    cases valid
  · rw [if_neg holds] at valid
    exact ⟨holds,valid⟩

theorem Issued.safe (issued : Issued claims) : safeClaim claims.runId = true ∧ safeClaim claims.stepId = true := by
  obtain ⟨_,_,_,_,_,valid⟩ := issued
  obtain ⟨_,valid⟩ := of_no_reason valid
  obtain ⟨_,valid⟩ := of_no_reason valid
  obtain ⟨_,valid⟩ := of_no_reason valid
  obtain ⟨run,valid⟩ := of_no_reason valid
  obtain ⟨step,_⟩ := of_no_reason valid
  exact ⟨not_not.mp run,not_not.mp step⟩

theorem sameAttempt_iff (issued : Issued claims) (issued' : Issued other) :
    SameAttempt claims other ↔ quotaKey claims = quotaKey other := by
  obtain ⟨run,step⟩ := issued.safe
  obtain ⟨run',step'⟩ := issued'.safe
  obtain ⟨deps,request,number,_,rfl,_⟩ := issued
  obtain ⟨deps',request',number',_,rfl,_⟩ := issued'
  constructor
  · rintro ⟨runId,stepKey,number,mine,yours⟩
    exact congrArg (fun nonce => ("agent-artifact-access","artifact-mcp",nonce)) (mine.nonce.trans yours.nonce.symm)
  · intro same
    have nonces : Json.str (runtimeAccessKey deps.workflow.runId request.stepKey number) =
        .str (runtimeAccessKey deps'.workflow.runId request'.stepKey number') := congrArg (fun key => key.2.2) same
    obtain ⟨sameRun,sameStep,sameNumber⟩ := runtimeAccessKey_injective run step run' step' (Json.str.inj nonces)
    exact ⟨deps.workflow.runId,request.stepKey,number,⟨rfl,rfl,rfl⟩,
      ⟨sameRun.symm,sameStep.symm,nonces.symm⟩⟩

/-! ### Rows and calls -/

/-- What the journal says of the capabilities and what the quotas say of the calls agree. -/
structure Metered (world : World) : Prop where
  issued : ∀ claims, .capabilityIssued claims ∈ world.journal → Issued claims
  called : ∀ claims bytes at_ allowed, .artifactCalled claims bytes at_ allowed ∈ world.journal →
    .capabilityIssued claims ∈ world.journal
  counted : ∀ key quota, world.repository.artifactCapabilityQuotas.get? key = some quota →
    ∃ claims bytes at_, .artifactCalled claims bytes at_ true ∈ world.journal ∧ quotaKey claims = key ∧
      RegisteredBy claims quota
  registered : ∀ claims bytes at_, .artifactCalled claims bytes at_ true ∈ world.journal →
    ∃ quota, world.repository.artifactCapabilityQuotas.get? (quotaKey claims) = some quota ∧ RegisteredBy claims quota

def Meters (before after : World) : Prop := Metered before → Metered after ∧ before.journal <+: after.journal

theorem metered_stable : Stable Meters Metered := fun _ _ taken held => (taken held).1

theorem issued_stable (claims : ArtifactCapabilityClaims) :
    Stable Meters fun world => Metered world ∧ .capabilityIssued claims ∈ world.journal := by
  intro before after taken held
  obtain ⟨metered,grown⟩ := taken held.1
  exact ⟨metered,grown.subset held.2⟩

def Unmetered : Happening → Prop
  | .capabilityIssued _ => False
  | .artifactCalled _ _ _ _ => False
  | _ => True

theorem Meters.quiet (quotas : after.repository.artifactCapabilityQuotas = before.repository.artifactCapabilityQuotas)
    (logs : Logs Unmetered before after) : Meters before after := by
  intro metered
  obtain ⟨added,grown,quiet⟩ := logs
  have issuedBefore : ∀ claims, .capabilityIssued claims ∈ after.journal → .capabilityIssued claims ∈ before.journal := by
    intro claims inside
    rw [grown] at inside
    exact (List.mem_append.mp inside).resolve_right fun inside => quiet _ inside
  have calledBefore : ∀ claims bytes at_ allowed, .artifactCalled claims bytes at_ allowed ∈ after.journal →
      .artifactCalled claims bytes at_ allowed ∈ before.journal := by
    intro claims bytes at_ allowed inside
    rw [grown] at inside
    exact (List.mem_append.mp inside).resolve_right fun inside => quiet _ inside
  have kept : before.journal <+: after.journal := ⟨added,grown.symm⟩
  refine ⟨⟨?_,?_,?_,?_⟩,kept⟩
  · exact fun claims inside => metered.issued claims (issuedBefore claims inside)
  · exact fun claims bytes at_ allowed inside =>
      kept.subset (metered.called claims bytes at_ allowed (calledBefore claims bytes at_ allowed inside))
  · intro key quota found
    rw [quotas] at found
    obtain ⟨claims,bytes,at_,called,named,registered⟩ := metered.counted key quota found
    exact ⟨claims,bytes,at_,kept.subset called,named,registered⟩
  · intro claims bytes at_ inside
    rw [quotas]
    exact metered.registered claims bytes at_ (calledBefore claims bytes at_ true inside)

theorem Beside.meters (beside : Beside before after) : Meters before after := by
  obtain ⟨added,grown,stops⟩ := beside.stops
  refine .quiet beside.spares.quotas ⟨added,grown,fun happening inside => ?_⟩
  cases stops happening inside <;> trivial

/-! ### Steps of the workflow -/

theorem Meters.issue {claims : ArtifactCapabilityClaims} (issued : Issued claims) :
    Meters world (world.log (.capabilityIssued claims)) := by
  intro metered
  have kept : world.journal <+: (world.log (.capabilityIssued claims)).journal := ⟨_,rfl⟩
  have calledBefore : ∀ other bytes at_ allowed,
      .artifactCalled other bytes at_ allowed ∈ (world.log (.capabilityIssued claims)).journal →
      .artifactCalled other bytes at_ allowed ∈ world.journal := by
    intro other bytes at_ allowed inside
    simpa using inside
  refine ⟨⟨?_,?_,?_,?_⟩,kept⟩
  · intro other inside
    rw [World.log_journal,List.mem_append,List.mem_singleton] at inside
    rcases inside with inside | same
    · exact metered.issued other inside
    · cases same
      exact issued
  · exact fun other bytes at_ allowed inside =>
      kept.subset (metered.called other bytes at_ allowed (calledBefore other bytes at_ allowed inside))
  · intro key quota found
    obtain ⟨other,bytes,at_,called,named,registered⟩ := metered.counted key quota found
    exact ⟨other,bytes,at_,kept.subset called,named,registered⟩
  · exact fun other bytes at_ inside => metered.registered other bytes at_ (calledBefore other bytes at_ true inside)

theorem upsertStepRun_quotas {before after : Repository} {step stored : StepRun}
    (ok : before.upsertStepRun step = .ok (stored,after)) : after.artifactCapabilityQuotas = before.artifactCapabilityQuotas := by
  unfold Repository.upsertStepRun at ok
  cases required : before.requireRun step.runId with
  | error fault => simp [required,bind,Except.bind] at ok
  | ok run =>
    simp only [required,bind,Except.bind] at ok
    split at ok
    · cases ok
    split at ok
    · cases ok
    split at ok
    · cases ok
      rfl
    · split at ok <;> cases ok
      rfl

theorem stepWrite_quotas {deps : StepDependencies} {request : StepRequest} {before after : Repository}
    (write : StepWrite deps request before after) : after.artifactCapabilityQuotas = before.artifactCapabilityQuotas := by
  cases write with
  | told ok => exact (SparesSteps.appendEvent ok).quotas
  | charged ok => exact (SparesSteps.appendUsage ok).quotas
  | row _ ok => exact upsertStepRun_quotas ok
  | opened ok => exact (SparesSteps.createExternalSession ok).quotas
  | updated ok => exact (SparesSteps.updateExternalSession ok).quotas

theorem runAgentStep_meters (deps : StepDependencies) (deadlineMs : Instant) (request : StepRequest) :
    (runAgentStep env deps deadlineMs request).Takes Meters := by
  have steps : SessionSteps deps request Meters := {
    access := ⟨fun _ => .quiet rfl (.same rfl),fun _ _ _ => .quiet rfl (.same rfl)⟩
    written := fun _ _ write => .quiet (stepWrite_quotas write) (.same rfl)
    admitted := fun _ _ _ _ _ => .quiet rfl (.same rfl)
    stepped := fun _ _ _ => .quiet rfl (.same rfl)
    released := fun _ => .quiet rfl (.same rfl)
    settled := fun world settlement _ _ _ => .quiet rfl ⟨_,rfl,fun happening inside => by
      cases settlementLog_stops inside <;> trivial⟩
    happened := fun _ happening stops => .quiet rfl (.log happening (by cases stops <;> trivial))
    issued := fun _ number at_ valid => .issue ⟨deps,request,number,at_,rfl,valid⟩}
  refine steps.runAgentStep deadlineMs fun scope _ access => takes_call fun _ world => ⟨.quiet rfl (.same rfl),?_⟩
  dsimp only
  split
  · exact .quiet rfl (.log _ trivial)
  · refine .quiet rfl ⟨[_,_],List.append_assoc _ _ _,fun happening inside => ?_⟩
    simp only [List.mem_cons,List.not_mem_nil,or_false] at inside
    rcases inside with rfl | rfl <;> trivial

/-! ### Calls -/

theorem consumeQuota_cases {before after : Repository} {request : ArtifactCapabilityQuotaRequest} {allowed : Bool}
    (ok : before.consumeArtifactCapabilityQuota request = .ok (allowed,after)) :
    allowed = false ∧ after = before ∨ allowed = true ∧ ∃ quota : ArtifactCapabilityQuota,
      after = {before with artifactCapabilityQuotas :=
        before.artifactCapabilityQuotas.set (request.purpose,request.audience,request.nonce) quota} ∧
      (quota.fingerprint = request.fingerprint ∧ quota.notBefore = request.notBefore ∧
        quota.expiresAt = request.expiresAt) ∧
      ∀ existing, before.artifactCapabilityQuotas.get? (request.purpose,request.audience,request.nonce) = some existing →
        existing.fingerprint = quota.fingerprint ∧ existing.notBefore = quota.notBefore ∧
          existing.expiresAt = quota.expiresAt := by
  unfold Repository.consumeArtifactCapabilityQuota at ok
  split at ok
  · cases ok
  dsimp only at ok
  split at ok
  · cases ok
    exact .inl ⟨rfl,rfl⟩
  split at ok
  · rename_i fresh
    split at ok <;> cases ok
    · exact .inl ⟨rfl,rfl⟩
    · exact .inr ⟨rfl,_,rfl,⟨rfl,rfl,rfl⟩,fun existing found => by rw [fresh] at found; cases found⟩
  · rename_i row found
    split at ok
    · cases ok
      exact .inl ⟨rfl,rfl⟩
    rename_i same
    simp only [ne_eq,not_or,not_not] at same
    split at ok <;> cases ok
    · exact .inl ⟨rfl,rfl⟩
    · refine .inr ⟨rfl,_,rfl,same,fun existing found' => ?_⟩
      rw [found] at found'
      cases found'
      exact ⟨rfl,rfl,rfl⟩

theorem Meters.count {claims : ArtifactCapabilityClaims} {bytes : Int} {at_ : Instant} {allowed : Bool} {next : Repository}
    (issued : .capabilityIssued claims ∈ world.journal)
    (ok : world.repository.consumeArtifactCapabilityQuota (quotaRequest claims bytes at_) = .ok (allowed,next)) :
    Meters world (World.log {world.ticked with repository := next} (.artifactCalled claims bytes at_ allowed)) := by
  intro metered
  have kept : world.journal <+:
      (World.log {world.ticked with repository := next} (.artifactCalled claims bytes at_ allowed)).journal := ⟨_,rfl⟩
  have logged : ∀ happening,
      happening ∈ (World.log {world.ticked with repository := next} (.artifactCalled claims bytes at_ allowed)).journal →
      happening ∈ world.journal ∨ happening = .artifactCalled claims bytes at_ allowed := by
    intro happening inside
    simpa using inside
  have issuedStays : ∀ other, .capabilityIssued other ∈
      (World.log {world.ticked with repository := next} (.artifactCalled claims bytes at_ allowed)).journal →
      Issued other := by
    intro other inside
    rcases logged _ inside with inside | same
    · exact metered.issued other inside
    · cases same
  have calledIssued : ∀ other bytes' at' allowed', .artifactCalled other bytes' at' allowed' ∈
      (World.log {world.ticked with repository := next} (.artifactCalled claims bytes at_ allowed)).journal →
      .capabilityIssued other ∈
        (World.log {world.ticked with repository := next} (.artifactCalled claims bytes at_ allowed)).journal := by
    intro other bytes' at' allowed' inside
    rcases logged _ inside with inside | same
    · exact kept.subset (metered.called _ _ _ _ inside)
    · cases same
      exact kept.subset issued
  rcases consumeQuota_cases ok with ⟨rfl,rfl⟩ | ⟨rfl,quota,rfl,⟨fingerprint,notBefore,expiresAt⟩,before⟩
  · refine ⟨⟨issuedStays,calledIssued,?_,?_⟩,kept⟩
    · intro key quota found
      obtain ⟨other,bytes',at',called,named,registered⟩ := metered.counted key quota found
      exact ⟨other,bytes',at',kept.subset called,named,registered⟩
    · intro other bytes' at' inside
      rcases logged _ inside with inside | same
      · exact metered.registered other bytes' at' inside
      · cases same
  · have mine : RegisteredBy claims quota := ⟨fingerprint,notBefore,expiresAt⟩
    have stored : ∀ key, (world.repository.artifactCapabilityQuotas.set (quotaKey claims) quota).get? key =
        if key = quotaKey claims then some quota else world.repository.artifactCapabilityQuotas.get? key :=
      fun key => OrderedMap.get?_set _ _ key _
    refine ⟨⟨issuedStays,calledIssued,?_,?_⟩,kept⟩
    · intro key row found
      have found := (stored key).symm.trans found
      split at found
      · rename_i same
        cases found
        exact ⟨claims,bytes,at_,by simp,same.symm,mine⟩
      · obtain ⟨other,bytes',at',called,named,registered⟩ := metered.counted key row found
        exact ⟨other,bytes',at',kept.subset called,named,registered⟩
    · intro other bytes' at' inside
      by_cases same : quotaKey other = quotaKey claims
      · refine ⟨quota,(stored _).trans (if_pos same),?_⟩
        rcases logged _ inside with inside | new
        · obtain ⟨row,found,registered⟩ := metered.registered other bytes' at' inside
          rw [same] at found
          obtain ⟨first,second,third⟩ := before row found
          exact ⟨first.symm.trans registered.fingerprint,second.symm.trans registered.notBefore,
            third.symm.trans registered.expiresAt⟩
        · cases new
          exact mine
      · rcases logged _ inside with inside | new
        · obtain ⟨row,found,registered⟩ := metered.registered other bytes' at' inside
          exact ⟨row,(stored _).trans ((if_neg same).trans found),registered⟩
        · cases new
          exact absurd rfl same

theorem callArtifact_meters (claims : ArtifactCapabilityClaims) (method : ArtifactCapabilityMethod) (bytes : Int) :
    (callArtifact env claims method bytes).Upholds Meters Meters Metered fun _ _ => True := by
  have verifying : (verifyCapability env claims method bytes).Upholds Meters Meters Metered
      fun _ world => Metered world ∧ .capabilityIssued claims ∈ world.journal := by
    refine upholds_atomic metered_stable fun world metered => ?_
    have passed : Meters world world.ticked := .quiet rfl (.same rfl)
    have still := (passed metered).1
    cases env.outage world.tick with
    | none =>
      dsimp only
      split
      · rename_i held
        exact ⟨passed,fun _ _ => ⟨still,held.1⟩⟩
      · exact ⟨passed,nofun⟩
    | refused causes => exact ⟨passed,nofun⟩
    | lost causes =>
      dsimp only
      split <;> exact ⟨passed,nofun⟩
  refine verifying.bind fun _ => upholds_atomic (issued_stable claims) fun world held => ⟨?_,fun _ _ => trivial⟩
  have passed : Meters world world.ticked := .quiet rfl (.same rfl)
  cases env.outage world.tick with
  | refused causes => exact passed
  | none | lost causes =>
    dsimp only
    split
    · exact passed
    · rename_i ok
      exact .count held.2 ok

/-! ### Histories -/

/-- A step of a workflow, an agent's call with whatever capability, or something beside them. -/
inductive ArtifactComponent : Thread World → Prop
  | step (env : Environment) (deps : StepDependencies) (deadlineMs : Instant) (request : StepRequest) :
      ArtifactComponent (runAgentStep env deps deadlineMs request).thread
  | call (env : Environment) (claims : ArtifactCapabilityClaims) (method : ArtifactCapabilityMethod) (bytes : Int) :
      ArtifactComponent (callArtifact env claims method bytes).thread
  | beside {thread : Thread World} (bystander : Bystander thread) : ArtifactComponent thread

structure Uncalled (world : World) : Prop where
  quotas : world.repository.artifactCapabilityQuotas = .empty
  quiet : ∀ happening ∈ world.journal, Unmetered happening

theorem Uncalled.metered (uncalled : Uncalled world) : Metered world where
  issued _ inside := (uncalled.quiet _ inside).elim
  called _ _ _ _ inside := (uncalled.quiet _ inside).elim
  counted _ _ found := by
    rw [uncalled.quotas] at found
    cases found
  registered _ _ _ inside := (uncalled.quiet _ inside).elim

theorem ArtifactComponent.upholds {thread : Thread World} (component : ArtifactComponent thread) (metered : Metered world) :
    thread.Upholds Meters world := by
  cases component with
  | step env deps deadlineMs request =>
    exact (runAgentStep_meters deps deadlineMs request).thread.upholds (fun _ _ taken => taken) world
  | call env claims method bytes => exact (callArtifact_meters claims method bytes).thread metered
  | beside bystander => exact bystander.takes.upholds (fun _ _ beside => beside.meters) world

theorem history_metered {ι : Type} [DecidableEq ι] {pool later : ι → Thread World} {trace : List (Moment ι World)}
    (components : ∀ who, ArtifactComponent (pool who)) (uncalled : Uncalled world)
    (ran : Interleaved pool world trace later after) : Metered after := by
  have moments := ran.upheld fun who => (components who).upholds uncalled.metered
  exact metered_stable.steps (ran.path moments) uncalled.metered

theorem consumeQuota_ok_iff {method : ArtifactCapabilityMethod} {bytes : Int} (metered : Metered world)
    (issued : .capabilityIssued claims ∈ world.journal)
    (first : ∀ bytes at_ allowed, .artifactCalled claims bytes at_ allowed ∉ world.journal)
    (answers : env.outage world.tick = .none) (covered : covers claims method bytes (env.clock world.tick) = true) :
    ((consumeQuota env claims bytes).exec world).1 = .ok () ↔
      ∀ other bytes at_, .artifactCalled other bytes at_ true ∈ world.journal → ¬ SameAttempt claims other := by
  have shape := metered.issued claims issued
  simp only [covers,Bool.and_eq_true,decide_eq_true_eq] at covered
  obtain ⟨⟨⟨⟨⟨early,late⟩,_⟩,safe⟩,positive⟩,small⟩ := covered
  have limits : claims.maxBytes = 1000000 ∧ claims.maxCalls = 1000 ∧ claims.maxCumulativeBytes = 16 * 1024 * 1024 := by
    obtain ⟨_,_,_,_,rfl,_⟩ := shape
    exact ⟨rfl,rfl,rfl⟩
  obtain ⟨maxBytes,maxCalls,maxCumulative⟩ := limits
  rw [maxBytes] at small
  let asked := quotaRequest claims bytes (env.clock world.tick)
  have fits : ¬ (asked.maxCalls < 1 ∨ asked.bytes > asked.maxCumulativeBytes) := by
    change ¬ (claims.maxCalls < 1 ∨ bytes > claims.maxCumulativeBytes)
    omega
  have wellFormed : Repository.invalidQuotaField asked = none := by
    have calls : isSafeInteger claims.maxCalls = true ∧ ¬ claims.maxCalls < 1 ∧
        ¬ claims.maxCalls > Repository.ARTIFACT_CAPABILITY_MAX_CALLS := by rw [maxCalls]; decide
    have cumulative : isSafeInteger claims.maxCumulativeBytes = true ∧ ¬ claims.maxCumulativeBytes < 1 ∧
        ¬ claims.maxCumulativeBytes > Repository.ARTIFACT_CAPABILITY_MAX_CUMULATIVE_BYTES := by rw [maxCumulative]; decide
    have counted : ¬ bytes < 0 := by omega
    simp [asked,Repository.invalidQuotaField,quotaRequest,safe,calls,cumulative,counted]
  have inForce : asked.now ≥ asked.notBefore ∧ asked.now < asked.expiresAt := ⟨early,late⟩
  have consumed : ∃ next, world.repository.consumeArtifactCapabilityQuota asked =
      .ok ((world.repository.artifactCapabilityQuotas.get? (quotaKey claims)).isNone,next) := by
    unfold Repository.consumeArtifactCapabilityQuota
    rw [wellFormed]
    dsimp only
    rw [if_neg (not_not.mpr inForce)]
    split
    · rename_i fresh
      have unused : world.repository.artifactCapabilityQuotas.get? (quotaKey claims) = none := fresh
      rw [if_neg fits,unused]
      exact ⟨_,rfl⟩
    · rename_i row found
      have used : world.repository.artifactCapabilityQuotas.get? (quotaKey claims) = some row := found
      obtain ⟨other,otherBytes,otherAt,called,_,registered⟩ := metered.counted _ _ found
      have differs : row.fingerprint ≠ claimsFingerprint claims := by
        intro same
        have equal := claimsFingerprint_injective (registered.fingerprint.symm.trans same)
        rw [equal] at called
        exact first _ _ _ called
      rw [if_pos (.inl differs),used]
      exact ⟨_,rfl⟩
  obtain ⟨next,consumed⟩ := consumed
  have exec : ((consumeQuota env claims bytes).exec world).1 = .ok () ↔
      world.repository.artifactCapabilityQuotas.get? (quotaKey claims) = none := by
    unfold consumeQuota call
    rw [exec_atomic,answers]
    dsimp only
    rw [World.ticked_repository,consumed]
    cases world.repository.artifactCapabilityQuotas.get? (quotaKey claims) <;> simp
  rw [exec]
  constructor
  · intro fresh other otherBytes otherAt called same
    have otherShape := metered.issued other (metered.called _ _ _ _ called)
    obtain ⟨row,found,_⟩ := metered.registered other otherBytes otherAt called
    rw [← (sameAttempt_iff shape otherShape).mp same,fresh] at found
    cases found
  · intro none
    cases found : world.repository.artifactCapabilityQuotas.get? (quotaKey claims) with
    | none => rfl
    | some row =>
      obtain ⟨other,otherBytes,otherAt,called,named,_⟩ := metered.counted _ _ found
      have otherShape := metered.issued other (metered.called _ _ _ _ called)
      exact absurd ((sameAttempt_iff shape otherShape).mpr named.symm) (none other otherBytes otherAt called)

/-- In every history, the first call with a new capability verifies, and its
quota accepts it exactly when no call was accepted with an earlier capability of
the same run, step and attempt. -/
theorem artifact_call_accepted_iff {ι : Type} [DecidableEq ι] {pool later : ι → Thread World}
    {trace : List (Moment ι World)} (components : ∀ who, ArtifactComponent (pool who)) (uncalled : Uncalled world)
    (ran : Interleaved pool world trace later after) (method : ArtifactCapabilityMethod) (bytes : Int)
    (issued : .capabilityIssued claims ∈ after.journal)
    (first : ∀ bytes at_ allowed, .artifactCalled claims bytes at_ allowed ∉ after.journal)
    (answers : env.outage after.tick = .none) (covered : covers claims method bytes (env.clock after.tick) = true) :
    ((verifyCapability env claims method bytes).exec after).1 = .ok () ∧ (((consumeQuota env claims bytes).exec after).1 = .ok () ↔
        ∀ other bytes at_, .artifactCalled other bytes at_ true ∈ after.journal → ¬ SameAttempt claims other) := by
  refine ⟨?_,consumeQuota_ok_iff (history_metered components uncalled ran) issued first answers covered⟩
  unfold verifyCapability call
  rw [exec_atomic,answers]
  dsimp only
  rw [if_pos ⟨issued,covered⟩]

/-! ### A history that issues twice -/

def artifactRun : Run where
  id := "run-1"
  projectId := "project-1"
  pipeline := "feature"
  status := .running
  createdAt := 0
  updatedAt := 0

def artifactWorld : World := {repository := Repository.setRun {} artifactRun}

def artifactRole : FeatureRoleDefinition where
  agent := {id := "agent-1",model := "model-1",modelProvider := "provider-1"}
  environment := {id := "environment-1",runtime := "node"}

def stagedDeps : StepDependencies where
  workflow := {
    runId := "run-1",projectId := "project-1",repositorySha := "sha-1",sourceSnapshotDigest := "digest-1"
    digests := {config := "",model := "",prompt := "",environment := "",policy := ""}}
  roles := {specification := artifactRole,implementation := artifactRole,verification := artifactRole}
  priceUsage _ _ := .ok 0
  runtimeAccess := some {staged := fun _ => true}

def stagedRequest : StepRequest where
  stepKey := "implementation"
  role := .implementation
  input := .obj []
  schema := {parse := some,stable := fun _ _ _ => rfl}

/-- The capability of the step's first attempt, by the instant at which it is issued. -/
def stagedCapability (issuedAt : Instant) : ArtifactCapabilityClaims :=
  artifactCapability (accessRequest stagedDeps stagedRequest 1) issuedAt

def issuers : Fin 3 → Thread World
  | 0 => (runAgentStep .steady stagedDeps 100000000 stagedRequest).thread
  | 1 => (callArtifact .steady (stagedCapability 1140000) .get 1).thread
  | 2 => (runAgentStep .steady stagedDeps 100000000 stagedRequest).thread

theorem issuers_components (who : Fin 3) : ArtifactComponent (issuers who) := by
  match who with
  | 0 => exact .step _ _ _ _
  | 1 => exact .call _ _ _ _
  | 2 => exact .step _ _ _ _

theorem artifactWorld_uncalled : Uncalled artifactWorld := ⟨rfl,fun _ inside => absurd inside List.not_mem_nil⟩

def uncalledWith (claims : ArtifactCapabilityClaims) (journal : List Happening) : Bool :=
  journal.all fun happening => match happening with
    | .artifactCalled called _ _ _ => called ≠ claims
    | _ => true

theorem not_called_of {journal : List Happening} (none : uncalledWith claims journal = true) (bytes : Int) (at_ : Instant)
    (allowed : Bool) : .artifactCalled claims bytes at_ allowed ∉ journal := by
  intro inside
  have differs := List.all_eq_true.mp none _ inside
  simp at differs

instance threeParties : NeZero 3 := ⟨by decide⟩

def firstIssue : List (Fin 3) := List.replicate 32 0

/-- That session's agent has called, the execution is gone, and a later one has prepared the access anew. -/
def secondIssue : List (Fin 3) := firstIssue ++ [1,1] ++ List.replicate 22 2

theorem first_capability_accepted :
    let world := (play firstIssue issuers artifactWorld).2.2
    ((verifyCapability .steady (stagedCapability 1140000) .get 1).exec world).1 = .ok () ∧
      (((consumeQuota .steady (stagedCapability 1140000) 1).exec world).1 = .ok () ↔
        ∀ other bytes at_, .artifactCalled other bytes at_ true ∈ world.journal →
          ¬ SameAttempt (stagedCapability 1140000) other) :=
  artifact_call_accepted_iff issuers_components artifactWorld_uncalled (interleaved_play firstIssue issuers artifactWorld)
    .get 1 (by decide +kernel) (not_called_of (by decide +kernel)) rfl (by decide +kernel)

/-- The capability issued anew verifies, and its first call is refused. -/
theorem reissued_capability_refused :
    let world := (play secondIssue issuers artifactWorld).2.2
    (∀ who, ArtifactComponent (issuers who)) ∧ Uncalled artifactWorld ∧
      .capabilityIssued (stagedCapability 3120000) ∈ world.journal ∧
      (∀ bytes at_ allowed, .artifactCalled (stagedCapability 3120000) bytes at_ allowed ∉ world.journal) ∧
      ((verifyCapability .steady (stagedCapability 3120000) .get 1).exec world).1 = .ok () ∧
      ((consumeQuota .steady (stagedCapability 3120000) 1).exec world).1 =
        .error (.service "artifact_quota_exhausted" "artifact capability quota exhausted" 429) :=
  ⟨issuers_components,artifactWorld_uncalled,by decide +kernel,not_called_of (by decide +kernel),by decide +kernel,
    by decide +kernel⟩

end AgentOS.System
