import AgentOS.ControlPlane.Cancel
import AgentOS.LocalDirect.RecoveryRules
import AgentOS.System.Deadlines
import AgentOS.Workflow.Run

/-! What executions return against what the goal runner's schema reads. The
stored output of a run that ended is always a result that some execution could
return, and the schema reads such a result exactly when nothing says where it
was published. -/
namespace AgentOS.System
open Library Checkpoint Outbox ControlPlane LocalDirect Workflow Routine AgentOS.Action
variable {env : Environment} {url : UrlFormat} {reports : Json → Prop} {runId : String}

/-! ### The results -/

def Parsed (url : UrlFormat) (reports : Json → Prop) (publication : List (String × Json)) : Prop :=
  ∃ raw, reports raw ∧ publicationResultSchema url raw = some publication

inductive Returned (url : UrlFormat) (reports : Json → Prop) : FeatureWorkflowResult → Prop where
  | cancelled : Returned url reports {status := .cancelled}
  | declined (expired : Bool) : Returned url reports (declinedResult expired)
  | exhausted (reason : BudgetReason) :
      Returned url reports {status := .budgetExhausted,reason := some (budgetReason reason)}
  | failed {reason : String} (short : units reason ≤ 1000) : Returned url reports {status := .failed,reason := some reason}
  | published {publication : List (String × Json)} (parsed : Parsed url reports publication) :
      Returned url reports (publicationResult publication)

def Accepted (url : UrlFormat) (returned : Json) : Prop :=
  ∃ accepted, goalFeatureResult url returned = some accepted ∧
    ∀ name ∈ FeatureWorkflowResult.names, Shape.lookup accepted name = returned.field? name

theorem units_safeError (fault : Fault) : units (safeError fault) ≤ 1000 := by
  unfold safeError units Store.slice
  rw [String.toList_ofList]
  exact Store.sliceUnits_units _ _

theorem faultResult_returned (fault : Fault) : Returned url reports (faultResult fault) := by
  cases fault with
  | budgetExhausted reason => exact .exhausted reason
  | _ => exact .failed (units_safeError _)

theorem text_some {check : String → Option String} {value checked : Json} (read : text check value = some checked) :
    ∃ found made, value = .str found ∧ check found = some made ∧ checked = .str made := by
  cases value with
  | str found =>
    obtain ⟨made,makes,rfl⟩ := Option.map_eq_some_iff.mp read
    exact ⟨found,made,rfl,makes,rfl⟩
  | _ => cases read

theorem atMost_some {limit : Nat} {value bounded : String} (read : atMost limit value = some bounded) :
    bounded = value ∧ units value ≤ limit := by
  unfold atMost at read
  split at read
  · rename_i within
    cases read
    exact ⟨rfl,within⟩
  · cases read

theorem url_atMost_stable {limit : Nat} {value made : String} (read : url.atMost limit value = some made) :
    url.atMost limit made = some made := by
  obtain ⟨parsed,parses,bounded⟩ := Option.bind_eq_some_iff.mp read
  obtain ⟨rfl,short⟩ := atMost_some bounded
  unfold UrlFormat.atMost
  rw [url.stable value made parses]
  simp [atMost,short]

variable {ending : Nat → Except Fault Ending} {shape : List (Shape.Field Json)} {name : String} {run : Run} {status : RunStatus}
  {draft : EventDraft}

theorem strictObject_some {raw : Json} {answer : List (String × Json)}
    (read : strictObject shape raw = some answer) : ∃ entries, Shape.readAll entries shape = some answer := by
  cases raw with
  | obj entries => exact ⟨entries,(Shape.strict_eq_some_iff.mp read).2⟩
  | _ => cases read

theorem readAll_unlisted {entries answer : List (String × Json)}
    (read : Shape.readAll entries shape = some answer) (unlisted : ∀ field ∈ shape, field.name ≠ name) :
    Shape.lookup answer name = none := by
  rw [Shape.lookup_eq_none]
  intro entry inside same
  obtain ⟨field,listed,named⟩ := Shape.readAll_names read entry inside
  exact unlisted field listed (named.trans same)

variable {publication : List (String × Json)} {result : FeatureWorkflowResult} {before after : World} {update : RunUpdate}

theorem parsed_cases (parsed : Parsed url reports publication) :
    (∃ entries, Shape.readAll entries (draftPublicationResultSchema url) = some publication) ∨
      ∃ entries, Shape.readAll entries (localPublicationResultSchema url) = some publication := by
  obtain ⟨raw,_,read⟩ := parsed
  rcases Option.or_eq_some_iff.mp read with draft | ⟨_,localRead⟩
  · exact .inl (strictObject_some draft)
  · exact .inr (strictObject_some localRead)

theorem draft_distinct : ((draftPublicationResultSchema url).map Shape.Field.name).Nodup := by
  change List.Nodup ["status","draft","pullRequestUrl","branch","commitSha","pullRequestNumber"]
  decide

theorem local_distinct : ((localPublicationResultSchema url).map Shape.Field.name).Nodup := by
  change List.Nodup ["status","local","branch","commitSha","repositoryUrl"]
  decide

theorem parsed_texts (parsed : Parsed url reports publication) (placing : name = "branch" ∨ name = "commitSha") :
    (Shape.lookup publication name).bind Json.string? = none ↔ Shape.lookup publication name = none := by
  have texts : ∀ value, Shape.lookup publication name = some value → ∃ made, value = .str made := by
    intro value found
    rcases parsed_cases parsed with ⟨entries,read⟩ | ⟨entries,read⟩
    · have listed : ∃ check optional, {name := name,optional := optional,check := text check} ∈
          draftPublicationResultSchema url := by
        rcases placing with rfl | rfl
        · exact ⟨_,true,by simp [draftPublicationResultSchema]; rfl⟩
        · exact ⟨commitSha,true,by simp [draftPublicationResultSchema]⟩
      obtain ⟨check,optional,inside⟩ := listed
      have looked := Shape.readAll_lookup draft_distinct read inside
      rw [found] at looked
      obtain ⟨raw,_,checks⟩ := Option.bind_eq_some_iff.mp looked.symm
      obtain ⟨_,made,_,_,rfl⟩ := text_some checks
      exact ⟨made,rfl⟩
    · have listed : ∃ check optional, {name := name,optional := optional,check := text check} ∈
          localPublicationResultSchema url := by
        rcases placing with rfl | rfl
        · exact ⟨_,false,by simp [localPublicationResultSchema]; rfl⟩
        · exact ⟨commitSha,false,by simp [localPublicationResultSchema]⟩
      obtain ⟨check,optional,inside⟩ := listed
      have looked := Shape.readAll_lookup local_distinct read inside
      rw [found] at looked
      obtain ⟨raw,_,checks⟩ := Option.bind_eq_some_iff.mp looked.symm
      obtain ⟨_,made,_,_,rfl⟩ := text_some checks
      exact ⟨made,rfl⟩
  cases found : Shape.lookup publication name with
  | none => simp
  | some value =>
    obtain ⟨made,rfl⟩ := texts value found
    simp [Json.string?]

theorem parsed_url {value : Json} (parsed : Parsed url reports publication)
    (found : Shape.lookup publication "pullRequestUrl" = some value) : text (url.atMost 2048) value = some value := by
  rcases parsed_cases parsed with ⟨entries,read⟩ | ⟨entries,read⟩
  · have listed : {name := "pullRequestUrl",check := text (url.atMost 2048)} ∈ draftPublicationResultSchema url := by
      simp [draftPublicationResultSchema]
    have looked := Shape.readAll_lookup draft_distinct read listed
    rw [found] at looked
    obtain ⟨raw,_,checks⟩ := Option.bind_eq_some_iff.mp looked.symm
    obtain ⟨_,made,_,makes,rfl⟩ := text_some checks
    simp [text,url_atMost_stable makes]
  · rw [readAll_unlisted read (by simp [localPublicationResultSchema])] at found
    cases found

theorem parsed_local (parsed : Parsed url reports publication) (here : (Shape.lookup publication "local").isSome) :
    ∃ branch, Shape.lookup publication "branch" = some (.str branch) := by
  rcases parsed_cases parsed with ⟨entries,read⟩ | ⟨entries,read⟩
  · rw [readAll_unlisted read (by simp [draftPublicationResultSchema])] at here
    cases here
  · have listed : {name := "branch",check := text fun value => (atLeastOne value).bind (atMost 512)} ∈
        localPublicationResultSchema url := by
      simp [localPublicationResultSchema]
    obtain ⟨value,checked,checks,found⟩ := Shape.readAll_required local_distinct read listed rfl
    obtain ⟨_,made,_,_,rfl⟩ := text_some checks
    exact ⟨made,found⟩

/-- The fields of a result are ones the goal runner's schema reads as they are. -/
structure Fits (url : UrlFormat) (result : FeatureWorkflowResult) : Prop where
  draft : ∀ value ∈ result.draftPullRequestUrl, url.atMost 2048 value = some value
  branch : ∀ value ∈ result.localBranch, atMost 512 value = some value
  repository : ∀ value ∈ result.localRepositoryUrl, url.atMost 2048 value = some value
  reason : ∀ value ∈ result.reason, atMost 1000 value = some value

theorem returned_fits (returned : Returned url reports result) (unplaced : result.publishedBranch = none) : Fits url result := by
  cases returned with
  | cancelled => exact ⟨by simp,by simp,by simp,by simp⟩
  | declined expired => exact ⟨by simp [declinedResult],by simp [declinedResult],by simp [declinedResult],
      by simp [declinedResult]⟩
  | exhausted reason => exact ⟨by simp,by simp,by simp,by cases reason <;> simp [budgetReason] <;> decide⟩
  | failed short => exact ⟨by simp,by simp,by simp,by simp [atMost,short]⟩
  | @published publication parsed =>
    unfold publicationResult at unplaced ⊢
    split at unplaced
    · rename_i here
      obtain ⟨branch,found⟩ := parsed_local parsed here
      simp [found,Json.string?] at unplaced
    · rename_i elsewhere
      rw [if_neg elsewhere]
      refine ⟨?_,by simp,by simp,by simp⟩
      intro value reported
      obtain ⟨held,found,same⟩ := Option.bind_eq_some_iff.mp reported
      have reads := parsed_url parsed found
      cases held with
      | str found =>
        cases same
        simpa [text] using reads
      | _ => cases same

theorem fits_reads (fits : Fits url result) :
    ∀ field ∈ featureWorkflowResultSchema url, match Shape.lookup result.entries field.name with
      | none => field.optional = true
      | some value => field.check value = some value := by
  have status : result.status.text ∈ ["succeeded","rejected","expired","cancelled","budget_exhausted","failed"] := by
    cases result.status <;> decide
  have optional : ∀ (value : Option String) (check : String → Option String),
      (∀ held ∈ value, check held = some held) → match value.map Json.str with
        | none => true = true
        | some value => text check value = some value := by
    intro value check reads
    cases value with
    | none => rfl
    | some held => simp [text,reads held rfl]
  intro field listed
  simp only [featureWorkflowResultSchema,List.mem_cons,List.not_mem_nil,or_false] at listed
  rcases listed with rfl | rfl | rfl | rfl | rfl <;>
    rw [FeatureWorkflowResult.lookup_entries result (by simp [FeatureWorkflowResult.names])]
  · simp [FeatureWorkflowResult.field,oneOf,text,status]
  · exact optional _ _ fits.draft
  · exact optional _ _ fits.branch
  · exact optional _ _ fits.repository
  · exact optional _ _ fits.reason

theorem schema_distinct : ((featureWorkflowResultSchema url).map Shape.Field.name).Nodup := by
  change List.Nodup ["status","draftPullRequestUrl","localBranch","localRepositoryUrl","reason"]
  decide

theorem mem_entries {value : Json} :
    (name,value) ∈ result.entries ↔ name ∈ FeatureWorkflowResult.names ∧ result.field name = some value := by
  unfold FeatureWorkflowResult.entries
  simp only [List.mem_filterMap,Option.map_eq_some_iff,Prod.mk.injEq]
  constructor
  · rintro ⟨_,listed,_,held,rfl,rfl⟩
    exact ⟨listed,held⟩
  · rintro ⟨listed,held⟩
    exact ⟨name,listed,value,held,rfl,rfl⟩

theorem accepted_iff (returned : Returned url reports result) :
    Accepted url result.json ↔ result.publishedBranch = none ∧ result.publishedCommitSha = none := by
  constructor
  · rintro ⟨accepted,read,_⟩
    obtain ⟨parsed,strictly,_⟩ := Option.bind_eq_some_iff.mp read
    have refused : ∀ name value, (name,value) ∈ result.entries →
        Shape.known (featureWorkflowResultSchema url) (name,value) = true := by
      intro name value inside
      by_contra unknown
      have none : Shape.strict (featureWorkflowResultSchema url) result.entries = none :=
        Shape.strict_unknown inside (by simpa using unknown)
      have some : Shape.strict (featureWorkflowResultSchema url) result.entries = some parsed := strictly
      rw [none] at some
      cases some
    constructor
    · by_contra placed
      obtain ⟨branch,held⟩ := Option.ne_none_iff_exists'.mp placed
      have known := refused "publishedBranch" (.str branch)
        (mem_entries.mpr ⟨by decide,by simp [FeatureWorkflowResult.field,held]⟩)
      simp [Shape.known,featureWorkflowResultSchema] at known
    · by_contra placed
      obtain ⟨sha,held⟩ := Option.ne_none_iff_exists'.mp placed
      have known := refused "publishedCommitSha" (.str sha)
        (mem_entries.mpr ⟨by decide,by simp [FeatureWorkflowResult.field,held]⟩)
      simp [Shape.known,featureWorkflowResultSchema] at known
  · rintro ⟨branch,sha⟩
    have reads := fits_reads (returned_fits returned branch)
    have readable : ∀ field ∈ featureWorkflowResultSchema url, Shape.Readable result.entries field := by
      intro field listed
      have same := reads field listed
      unfold Shape.Readable
      split <;> rename_i looked <;> simp only [looked] at same
      · exact same
      · simp [same]
    obtain ⟨parsed,readAll⟩ := Shape.readAll_isSome readable
    have known : result.entries.all (Shape.known (featureWorkflowResultSchema url)) = true := by
      rw [List.all_eq_true]
      rintro ⟨name,value⟩ inside
      obtain ⟨listed,held⟩ := mem_entries.mp inside
      simp only [FeatureWorkflowResult.names,List.mem_cons,List.not_mem_nil,or_false] at listed
      rcases listed with rfl | rfl | rfl | rfl | rfl | rfl | rfl <;>
        simp_all [Shape.known,featureWorkflowResultSchema,FeatureWorkflowResult.field]
    have strictly : strictObject (featureWorkflowResultSchema url) result.json = some parsed :=
      Shape.strict_eq_some_iff.mpr ⟨known,readAll⟩
    have kept : ∀ field ∈ featureWorkflowResultSchema url,
        Shape.lookup parsed field.name = Shape.lookup result.entries field.name := by
      intro field listed
      rw [Shape.readAll_lookup schema_distinct readAll listed]
      have same := reads field listed
      split at same <;> rename_i looked <;> rw [looked]
      · rfl
      · exact same
    refine ⟨_,by rw [goalFeatureResult,strictly]; rfl,?_⟩
    intro name listed
    rw [Shape.lookup_filterMap]
    have stored : result.json.field? name = Shape.lookup result.entries name := rfl
    rw [stored]
    split
    · rename_i copied
      have field : ∃ field ∈ featureWorkflowResultSchema url, field.name = name := by
        simpa [featureWorkflowResultSchema,eq_comm] using copied
      obtain ⟨field,inSchema,rfl⟩ := field
      exact kept field inSchema
    · rename_i dropped
      rw [FeatureWorkflowResult.lookup_entries result listed]
      simp only [FeatureWorkflowResult.names,List.mem_cons,List.not_mem_nil,or_false,not_or] at listed dropped
      rcases listed with rfl | rfl | rfl | rfl | rfl | rfl | rfl <;> simp_all [FeatureWorkflowResult.field]

/-! ### Stored outputs -/

def Result (url : UrlFormat) (reports : Json → Prop) (output : Json) : Prop :=
  ∃ result, Returned url reports result ∧ output = result.json

/-- Once the run has succeeded or failed, it has such a result for its output. -/
def Finished (url : UrlFormat) (reports : Json → Prop) (runId : String) (world : World) : Prop :=
  ∀ run, world.repository.getRun runId = some run → run.status ∈ [RunStatus.succeeded,.failed] →
    ∃ output, run.output = some output ∧ Result url reports output

def Settling (url : UrlFormat) (reports : Json → Prop) (update : RunUpdate) : Prop :=
  ∃ status, update.status = some status ∧ (status ∈ [RunStatus.succeeded,.failed] →
    ∃ output, update.output = some output ∧ Result url reports output)

theorem finished_same (same : after.repository.runs = before.repository.runs) :
    Maintains (Finished url reports runId) before after := by
  intro finished run found
  rw [Repository.getRun,same] at found
  exact finished run found

theorem finished_passed (world : World) : Maintains (Finished url reports runId) world world.ticked := finished_same rfl

theorem finished_setRun (stored : after.repository.runs = before.repository.runs.set run.id run)
    (settled : run.status ∈ [RunStatus.succeeded,.failed] →
      ∃ output, run.output = some output ∧ Result url reports output) : Maintains (Finished url reports runId) before after := by
  intro finished held found ended
  rw [Repository.getRun,stored,OrderedMap.get?_set] at found
  split at found
  · cases found
    exact settled ended
  · exact finished held found ended

theorem finished_transition {id : String} {statuses : List RunStatus} {version : Option Nat} {answer : Option Run}
    (ok : before.repository.transitionRun id statuses update version = .ok (answer,after.repository))
    (settling : Settling url reports update) : Maintains (Finished url reports runId) before after := by
  rcases Repository.transitionRun_ok ok with ⟨_,same⟩ | ⟨current,moved,_,_,rfl,_,stored⟩
  · exact finished_same (by rw [same])
  · obtain ⟨status,moves,brings⟩ := settling
    apply finished_setRun (congrArg Repository.runs stored)
    intro ended
    obtain ⟨output,held,result⟩ := brings (by simpa [Repository.updated,moves] using ended)
    exact ⟨output,by simp [Repository.updated,held],result⟩

theorem settling_of_failure (returned : Returned url reports result) (moves : update.status = some status)
    (brings : update.output = some result.json) : Settling url reports update :=
  ⟨status,moves,fun _ => ⟨_,brings,result,returned,rfl⟩⟩

theorem settling_of_open (moves : update.status = some status)
    (stays : status ∉ [RunStatus.succeeded,.failed]) : Settling url reports update :=
  ⟨status,moves,fun ended => absurd ended stays⟩

/-! ### Who writes outputs -/

theorem requestStart_finished (request : StartRequest) :
    (requestStart env request).Takes (Maintains (Finished url reports runId)) := by
  apply requestStart_takes_undispatched ⟨finished_passed,fun _ _ _ => finished_same rfl⟩
  rintro before _ ⟨_,_,now,_,_,_,ok,rfl⟩
  have short : units "dispatch_executor_unavailable" ≤ 1000 := by decide
  exact finished_transition ok (settling_of_failure (.failed short) rfl rfl)

theorem reopen_finished (run : Run) (statuses : List RunStatus) (at_ : Instant) :
    (reopen env run statuses at_).Takes (Maintains (Finished url reports runId)) :=
  takes_repository finished_passed fun _ _ _ _ ok => finished_transition ok (settling_of_open rfl (by decide))

theorem appendEvent_runs {before after : Repository} {event : Event}
    (ok : before.appendEvent draft = .ok (event,after)) : after.runs = before.runs := by
  obtain ⟨staged,_,_,rfl⟩ := Repository.appendEvent_ok ok
  exact (before.commitStagedEvent_eq staged).1

theorem resumes_finished : Resumes env (Maintains (Finished url reports runId)) where
  passed := finished_passed
  released _ _ := finished_same rfl
  start _ _ _ := requestStart_finished _
  reopen := reopen_finished
  record _ _ _ := takes_repository finished_passed fun _ _ _ _ ok => finished_same (appendEvent_runs ok)

theorem orphans_finished : Orphans (Maintains (Finished url reports runId)) where
  passed := finished_passed
  kept _ _ _ _ := finished_same rfl
  charged _ _ _ _ ok := finished_same (appendUsage_spares ok).1
  failed _ _ _ _ _ _ _ ok :=
    have short : units "orphaned_runtime_session" ≤ 1000 := by decide
    finished_transition ok (settling_of_failure (.failed short) rfl rfl)

theorem expired_finished (world : World) (id target scope fingerprint : String) (at_ : Instant)
    (answer : Option Approval) (next : Repository)
    (ok : (.ok (world.repository.expireApproval id target scope fingerprint at_) : Except Fault _) = .ok (answer,next)) :
    Maintains (Finished url reports runId) world {world.ticked with repository := next} :=
  finished_same (Repository.expireApproval_runs ok)

theorem reconcileRun_finished (run : Run) : (reconcileRun env run).Takes (Maintains (Finished url reports runId)) := by
  apply reconcileRun_takes finished_passed expired_finished orphans_finished
  intro world id statuses code now version answer next ok
  have short : units code.text ≤ 1000 := by cases code <;> decide
  exact finished_transition ok (settling_of_failure (.failed short) rfl rfl)

theorem cancelRunWithEvent_finished {id : String}
    (ok : before.repository.cancelRunWithEvent id update draft = .ok (run,after.repository)) :
    Maintains (Finished url reports runId) before after := by
  obtain ⟨current,_,⟨_,same⟩ | ⟨_,mine,staged,_,same⟩⟩ := Repository.cancelRunWithEvent_ok ok
  · exact finished_same (by rw [same])
  · have stored : after.repository.runs = before.repository.runs.set run.id run := by
      rw [same,← (before.repository.commitStagedEvent_eq staged).1]
      rfl
    apply finished_setRun stored
    rw [mine]
    intro ended
    simp at ended

theorem cancelRun_finished (id idempotencyKey : String) :
    (cancelRun env id idempotencyKey).Takes (Maintains (Finished url reports runId)) :=
  cancelRun_takes id idempotencyKey ⟨finished_passed,fun _ _ _ => finished_same rfl⟩ (fun _ _ _ => finished_same rfl)
    fun _ _ _ _ _ ok => cancelRunWithEvent_finished ok

/-! ### What an execution returns -/

theorem terminalResult_result (finished : run.status ∈ [RunStatus.succeeded,.failed] →
    ∃ output, run.output = some output ∧ Result url reports output) : Result url reports (terminalResult run) := by
  have unfinished : Result url reports (terminalResult.unfinished run) := by
    have short : units ("run_" ++ runStatusText run.status) ≤ 1000 := by cases run.status <;> decide
    exact ⟨_,.failed short,rfl⟩
  unfold terminalResult
  split
  · exact ⟨_,.cancelled,rfl⟩
  · split
    · rename_i output found
      split
      · rename_i ended
        obtain ⟨stored,held,result⟩ := finished (by simpa using ended)
        rw [held] at found
        rw [← Option.some_injective _ (Option.filter_eq_some_iff.mp found).1]
        exact result
      · exact unfinished
    · exact unfinished

theorem transitionCurrentRun_finished (target : String) (statuses : List RunStatus) {update : Instant → RunUpdate}
    (settling : ∀ now, Settling url reports (update now)) :
    (transitionCurrentRun env target statuses update).Takes (Maintains (Finished url reports runId)) := by
  refine .bind (takes_readRepository finished_passed) fun found => ?_
  cases found with
  | none => exact takes_pure _
  | some current =>
    dsimp only
    split
    · exact takes_pure _
    · exact takes_repository finished_passed fun now _ _ _ ok => finished_transition ok (settling now)

theorem getRun_within : (readRepository env fun repository => repository.getRun runId).Within (Finished url reports runId)
    fun found => ∀ run ∈ found, Result url reports (terminalResult run) :=
  within_readRepository finished_passed fun _ finished run found => terminalResult_result (finished run found)

theorem endedElsewhere_within : (endedElsewhere env runId).Within (Finished url reports runId) (Result url reports) := by
  refine getRun_within.bind fun found answers => ?_
  cases found with
  | none => exact within_throw _
  | some run => exact within_pure (answers run rfl)

/-- The way the steps of an execution ended, where a publisher's report is one of `reports`. -/
def Reported (reports : Json → Prop) (ending : Ending) : Prop :=
  ∀ raw replayed, ending = .published raw replayed → reports raw

theorem settle_within {ending : Ending} (reported : Reported reports ending) :
    (Workflow.settle env url runId ending).Within (Finished url reports runId) (Result url reports) := by
  cases ending with
  | timedOut =>
    have returned : Returned url reports (declinedResult true) := .declined true
    have settling : ∀ now, Settling url reports
        (failedUpdate {status := .expired} (.obj [("code",.str "approval_expired")]) now) :=
      fun _ => settling_of_failure returned rfl rfl
    exact .bind (transitionCurrentRun_finished _ _ settling).within fun _ _ => within_pure ⟨_,returned,rfl⟩
  | declined expired =>
    have returned : Returned url reports (declinedResult expired) := .declined expired
    exact .bind (transitionCurrentRun_finished _ _ fun _ => settling_of_failure returned rfl rfl).within
      fun _ _ => within_pure ⟨_,returned,rfl⟩
  | published raw replayed =>
    cases parsed : publicationResultSchema url raw with
    | none =>
      rw [Workflow.settle,parsed]
      exact within_throw _
    | some publication =>
      rw [Workflow.settle,parsed]
      have returned : Returned url reports (publicationResult publication) :=
        .published ⟨raw,reported raw replayed rfl,parsed⟩
      refine .bind (transitionCurrentRun_finished _ _ fun _ => settling_of_failure returned rfl rfl).within
        fun moved _ => ?_
      cases moved with
      | none => exact endedElsewhere_within
      | some run => exact within_pure ⟨_,returned,rfl⟩

theorem recover_within (fault : Fault) : (recover env runId fault).Within (Finished url reports runId) (Result url reports) := by
  have result : Result url reports (faultResult fault).json := ⟨_,faultResult_returned fault,rfl⟩
  refine .bind (takes_readRepository finished_passed).within fun found _ => ?_
  cases found with
  | none =>
    dsimp only
    split
    · exact within_throw _
    · exact within_pure result
  | some latest =>
    dsimp only
    split
    · exact within_pure ⟨_,.cancelled,rfl⟩
    split
    · exact within_throw _
    split
    · exact within_pure result
    · exact .bind (transitionCurrentRun_finished _ _ fun _ =>
        settling_of_failure (faultResult_returned fault) rfl rfl).within fun _ _ => within_pure result

theorem run_within (reported : ∀ tick how, ending tick = .ok how → Reported reports how) :
    (Workflow.run env url ending runId).Within (Finished url reports runId) (Result url reports) := by
  refine getRun_within.bind fun found answers => ?_
  cases found with
  | none => exact within_throw _
  | some run =>
    dsimp only
    split
    · exact within_pure (answers run rfl)
    have clock : (startDeadlineMs env run).Takes (Maintains (Finished url reports runId)) :=
      .bind (scanRunEvents_takes _ _ _ _ _ finished_passed) fun _ => takes_pure _
    refine .bind clock.within fun _ _ => .bind (takes_repository finished_passed fun _ _ _ _ ok =>
      finished_transition ok (settling_of_open rfl (by decide))).within fun started _ => ?_
    cases started with
    | none => exact endedElsewhere_within
    | some started =>
      have attempting : (do
          let ended ← ask env ending
          let ending ← Routine.settle ended
          Workflow.settle env url runId ending : Action Json).Within (Finished url reports runId)
          (Result url reports) := by
        have asking : (ask env ending).Within (Finished url reports runId) fun ended => ∃ tick, ended = ending tick :=
          within_ask finished_passed fun tick => ⟨tick,rfl⟩
        refine .bind asking fun ended asked => ?_
        obtain ⟨tick,rfl⟩ := asked
        exact .bind (within_settle fun how same => reported tick how same) fun how mine => settle_within mine
      refine .bind attempting.outcome fun attempted results => ?_
      cases attempted with
      | ok result => exact within_pure (results result rfl)
      | error fault => exact recover_within fault

/-! ### In every history of the run -/

/-- What acts on a run's record: its executions, and what reconciles, starts,
resumes, recovers and cancels. -/
inductive Component (url : UrlFormat) (reports : Json → Prop) (runId : String) : Thread World → Prop where
  | execution (env : Environment) {ending : Nat → Except Fault Ending}
      (reported : ∀ tick how, ending tick = .ok how → Reported reports how) :
      Component url reports runId (Workflow.run env url ending runId).thread
  | visit (env : Environment) (run : Run) : Component url reports runId (reconcileRun env run).thread
  | orphans (env : Environment) (request : Request) :
      Component url reports runId (requestOrphanReconciliation env request).thread
  | start (env : Environment) (request : StartRequest) : Component url reports runId (requestStart env request).thread
  | resume (env : Environment) (target : String) (options : ResumeOptions) :
      Component url reports runId (resumeRun env target options).thread
  | sweep (env : Environment) (options : RecoveryOptions) :
      Component url reports runId (recoverLocalDirectRuns env options).thread
  | cancel (env : Environment) (id idempotencyKey : String) :
      Component url reports runId (cancelRun env id idempotencyKey).thread

theorem Component.within {thread : Thread World} {world : World} (component : Component url reports runId thread)
    (finished : Finished url reports runId world) : thread.Within (Finished url reports runId) := by
  cases component with
  | execution env reported => exact (run_within reported).thread finished
  | visit env run => exact (reconcileRun_finished run).within.thread finished
  | orphans env request => exact (orphans_finished.requestOrphanReconciliation request).within.thread finished
  | start env request => exact (requestStart_finished request).within.thread finished
  | resume env target options => exact (resumes_finished.resumeRun target options).within.thread finished
  | sweep env options => exact (resumes_finished.recoverLocalDirectRuns options).within.thread finished
  | cancel env id idempotencyKey => exact (cancelRun_finished id idempotencyKey).within.thread finished

def Unended (runId : String) (world : World) : Prop :=
  ∀ run, world.repository.getRun runId = some run → run.status ∉ [RunStatus.succeeded,.failed]

theorem history_returns {ι : Type} [DecidableEq ι] {pool later : ι → Thread World} {world after : World}
    {trace : List (Moment ι World)} (components : ∀ who, Component url reports runId (pool who))
    (unended : Unended runId world) (ran : Interleaved pool world trace later after) {who : ι}
    {result : Json} (reported : ∀ tick how, ending tick = .ok how → Reported reports how)
    (started : pool who = (Workflow.run env url ending runId).thread)
    (ended : later who = (pure result : Action Json).thread) : Result url reports result := by
  have finished : Finished url reports runId world := fun run found ended => absurd ended (unended run found)
  exact ran.answers (fun who => (components who).within finished) finished (run_within reported) started ended

def createdRun : Run where
  id := "run-1"
  projectId := "project-1"
  pipeline := "feature"
  status := .pending
  createdAt := 0
  updatedAt := 0

def createdWorld : World := {repository := Repository.setRun {} createdRun}

/-- That run once an execution has taken it up, at the tick at which its steps come to their end. -/
def runningWorld : World :=
  {repository := createdWorld.repository.setRun {createdRun with status := .running,updatedAt := 120000,stateVersion := 1}
   tick := 3}

theorem exec_publishes {raw : Json} (parsed : publicationResultSchema url raw = some publication) :
    ((Workflow.run .steady url (fun _ => .ok (.published raw false)) "run-1").exec createdWorld).1 =
      .ok (publicationResult publication).json := by
  have reading : (readRepository .steady fun repository => repository.getRun "run-1").exec createdWorld =
      (.ok (some createdRun),createdWorld.ticked) := rfl
  have clock : (startDeadlineMs .steady createdRun).exec createdWorld.ticked =
      (.ok workflowTimeoutMs,createdWorld.ticked.ticked) := rfl
  have taken : ∃ started, (repository .steady fun now repository => repository.transitionRun "run-1"
      [.pending,.running,.waiting] {status := some .running,updatedAt := now} (some createdRun.stateVersion)).exec
      createdWorld.ticked.ticked = (.ok (some started),runningWorld) := ⟨_,rfl⟩
  have settled : ((Workflow.settle .steady url "run-1" (.published raw false)).exec runningWorld.ticked).1 =
      .ok (publicationResult publication).json := by
    rw [Workflow.settle,parsed]
    rfl
  obtain ⟨started,taken⟩ := taken
  rw [Workflow.run,exec_bind,reading]
  dsimp only
  rw [if_neg (by decide),exec_bind,clock]
  dsimp only
  rw [exec_bind,taken]
  dsimp only
  have asked : (ask .steady fun _ => (.ok (.published raw false) : Except Fault Ending)).exec runningWorld =
      (.ok (.ok (.published raw false)),runningWorld.ticked) := rfl
  rw [exec_bind,exec_outcome,exec_bind,asked]
  dsimp only
  rw [exec_bind,exec_settle]
  dsimp only
  rw [settled]
  rfl

theorem unplaced_of_result (unplaced : (publicationResult publication).publishedBranch = none ∧
      (publicationResult publication).publishedCommitSha = none) : (Shape.lookup publication "branch").bind Json.string? = none ∧
      (Shape.lookup publication "commitSha").bind Json.string? = none := by
  unfold publicationResult at unplaced
  split at unplaced <;> exact unplaced

theorem goal_accepts_results_iff (url : UrlFormat) (reports : Json → Prop) :
    (∀ (ι : Type) (_ : DecidableEq ι) runId (pool later : ι → Thread World) world after trace,
      (∀ who, Component url reports runId (pool who)) → Unended runId world →
      Interleaved pool world trace later after → ∀ who env ending result, (∀ tick how, ending tick = .ok how → Reported reports how) →
      pool who = (Workflow.run env url ending runId).thread → later who = (pure result : Action Json).thread → Accepted url result) ↔
    ∀ publication, Parsed url reports publication →
      Shape.lookup publication "branch" = none ∧ Shape.lookup publication "commitSha" = none := by
  constructor
  · rintro accepts publication ⟨raw,reported,parsed⟩
    have reports' : ∀ tick how, (fun _ : Nat => (.ok (.published raw false) : Except Fault Ending)) tick = .ok how →
        Reported reports how := by
      rintro tick how same raw' replayed again
      cases same
      cases again
      exact reported
    obtain ⟨trace,ran⟩ := Interleaved.alone
      (Workflow.run .steady url (fun _ => .ok (.published raw false)) "run-1") createdWorld
    rw [exec_publishes parsed] at ran
    have unended : Unended "run-1" createdWorld := by
      intro run found
      cases found
      decide
    have accepted := accepts Unit inferInstance "run-1" _ _ _ _ _ (fun _ => .execution .steady reports') unended ran ()
      .steady _ _ reports' rfl rfl
    have returned : Returned url reports (publicationResult publication) := .published ⟨raw,reported,parsed⟩
    obtain ⟨branch,sha⟩ := unplaced_of_result ((accepted_iff returned).mp accepted)
    exact ⟨(parsed_texts ⟨raw,reported,parsed⟩ (.inl rfl)).mp branch,
      (parsed_texts ⟨raw,reported,parsed⟩ (.inr rfl)).mp sha⟩
  · intro unplaced ι _ runId pool later world after trace components unended ran who env ending result reported
      started ended
    obtain ⟨result,returned,rfl⟩ := history_returns components unended ran reported started ended
    apply (accepted_iff returned).mpr
    cases returned with
    | @published publication parsed =>
      obtain ⟨branch,sha⟩ := unplaced publication parsed
      unfold publicationResult
      split <;> simp [branch,sha]
    | _ => exact ⟨rfl,rfl⟩

def schemes : UrlFormat where
  parse text := if "https://".toList.isPrefixOf text.toList ∨ "file://".toList.isPrefixOf text.toList then some text else none
  stable text url read := by
    split at read
    · rename_i known
      cases read
      exact if_pos known
    · cases read

def localReport : Json := .obj [("status",.str "succeeded"),("local",.bool true),("branch",.str "agentos/run-1"),
  ("commitSha",.str "0123456789abcdef0123456789abcdef01234567"),("repositoryUrl",.str "file:///srv/project")]

/-- The run publishes into the local repository and succeeds; the goal refuses its result. -/
theorem localReport_refused :
    ∃ result, ((Workflow.run .steady schemes (fun _ => .ok (.published localReport false)) "run-1").exec createdWorld).1 =
        .ok result ∧ result.field? "status" = some (.str "succeeded") ∧ goalFeatureResult schemes result = none ∧
      ¬ Accepted schemes result := by
  have parsed : publicationResultSchema schemes localReport = some [("status",.str "succeeded"),("local",.bool true),
      ("branch",.str "agentos/run-1"),("commitSha",.str "0123456789abcdef0123456789abcdef01234567"),
      ("repositoryUrl",.str "file:///srv/project")] := by decide
  refine ⟨_,exec_publishes parsed,rfl,rfl,?_⟩
  rintro ⟨accepted,read,_⟩
  cases read

end AgentOS.System
