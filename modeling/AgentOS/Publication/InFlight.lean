import AgentOS.Publication.Publishers
import AgentOS.Publication.Binding

/-! Publish calls in flight. A publisher keeps one execution for a key at a time, and a call that comes
while it runs is answered as it is. The key says nothing of the authorization. -/
namespace AgentOS.Publication
open Library Gate

structure PublishCall where
  input : PublicationInput
  now : Instant

/-- An execution that has not ended: how its first checks went, and the calls that are answered by it. -/
structure Flight where
  started : Except PublisherFault Unit
  calls : List PublishCall

structure Calls (β : Type) where
  inFlight : OrderedMap String Flight
  answers : List (PublishCall × Except PublisherFault β)

inductive Event (β : Type) where
  | publish (call : PublishCall)
  /-- The execution under the key ends; past its first checks it may end in any way. -/
  | ended (key : String) (result : Except PublisherFault β)

section
variable (crypto : Crypto) (publisher : Publisher) {β : Type}

def keyOfCall (input : PublicationInput) : Except PublisherFault String :=
  match parsePublicationManifest crypto input with
  | .error fault => .error fault
  | .ok parsed => publisher.publicationKey crypto parsed.manifest parsed.manifestDigest

/-- `execute`, up to where it first waits. -/
def execute (call : PublishCall) : Flight :=
  {started := (publisher.prepared crypto call.input call.now).map fun _ => ()
   calls := [call]}

def publish (calls : Calls β) (call : PublishCall) : Calls β :=
  match keyOfCall crypto publisher call.input with
  | .error fault => {calls with answers := (call,.error fault)::calls.answers}
  | .ok key =>
    match calls.inFlight.get? key with
    | some existing => {calls with inFlight := calls.inFlight.set key {existing with calls := call::existing.calls}}
    | none => {calls with inFlight := calls.inFlight.set key (execute crypto publisher call)}

def Flight.outcome (flight : Flight) (result : Except PublisherFault β) : Except PublisherFault β :=
  match flight.started with
  | .error fault => .error fault
  | .ok _ => result

def step (calls : Calls β) : Event β → Calls β
  | .publish call => publish crypto publisher calls call
  | .ended key result =>
    match calls.inFlight.get? key with
    | none => calls
    | some flight =>
      {inFlight := calls.inFlight.erase key
       answers := flight.calls.map (fun call => (call,flight.outcome result)) ++ calls.answers}

def Calls.none : Calls β := ⟨.empty,[]⟩

def run (events : List (Event β)) : Calls β := events.foldl (step crypto publisher) Calls.none

def Authorized (calls : Calls β) : Prop :=
  ∀ call result, (call,.ok result) ∈ calls.answers → publisher.Authorizes crypto call.input call.now

/-- The calls that wait for an execution that passed its checks are authorized themselves. -/
def Own (calls : Calls β) : Prop :=
  ∀ key flight, calls.inFlight.get? key = some flight → flight.started = .ok () →
    ∀ call ∈ flight.calls, publisher.Authorizes crypto call.input call.now

def Admits (calls : Calls β) : Event β → Prop
  | .publish call => ∀ key flight, keyOfCall crypto publisher call.input = .ok key → calls.inFlight.get? key = some flight →
      flight.started = .ok () → publisher.Authorizes crypto call.input call.now
  | .ended _ _ => True

variable {call : PublishCall} {event : Event β}

theorem execute_own (started : (execute crypto publisher call).started = .ok ()) :
    publisher.Authorizes crypto call.input call.now := by
  unfold execute at started
  cases prepared : publisher.prepared crypto call.input call.now with
  | error fault =>
    rw [prepared] at started
    cases started
  | ok parsed => exact Publisher.prepared_authorizes crypto prepared

variable {calls : Calls β}

theorem publish_own (own : Own crypto publisher calls)
    (admitted : Admits crypto publisher calls (.publish call)) : Own crypto publisher (publish crypto publisher calls call) := by
  unfold publish
  cases keyed : keyOfCall crypto publisher call.input with
  | error fault => exact own
  | ok key =>
    dsimp only
    cases found : calls.inFlight.get? key with
    | some existing =>
      intro key' flight held started call' inside
      dsimp only at held
      rw [OrderedMap.get?_set] at held
      split at held
      · cases held
        rcases List.mem_cons.mp inside with rfl | inside
        · exact admitted key existing keyed found started
        · exact own key existing found started call' inside
      · exact own key' flight held started call' inside
    | none =>
      intro key' flight held started call' inside
      dsimp only at held
      rw [OrderedMap.get?_set] at held
      split at held
      · cases held
        obtain rfl := List.mem_singleton.mp inside
        exact execute_own crypto publisher started
      · exact own key' flight held started call' inside

theorem publish_answers {call call' : PublishCall} {result : β}
    (answered : (call',.ok result) ∈ (publish crypto publisher calls call).answers) : (call',.ok result) ∈ calls.answers := by
  unfold publish at answered
  cases keyed : keyOfCall crypto publisher call.input with
  | error fault =>
    rw [keyed] at answered
    rcases List.mem_cons.mp answered with same | inside
    · cases same
    · exact inside
  | ok key =>
    rw [keyed] at answered
    dsimp only at answered
    split at answered <;> exact answered

theorem step_own (own : Own crypto publisher calls)
    (admitted : Admits crypto publisher calls event) : Own crypto publisher (step crypto publisher calls event) := by
  cases event with
  | publish call => exact publish_own crypto publisher own admitted
  | ended key result =>
    rw [step]
    split
    · exact own
    · intro key' flight held
      dsimp only at held
      rw [OrderedMap.get?_erase] at held
      split at held
      · cases held
      · exact own key' flight held

theorem step_authorized (own : Own crypto publisher calls)
    (authorized : Authorized crypto publisher calls) : Authorized crypto publisher (step crypto publisher calls event) := by
  cases event with
  | publish call => exact fun call' result answered => authorized call' result (publish_answers crypto publisher answered)
  | ended key ending =>
    intro call result answered
    rw [step] at answered
    split at answered
    · exact authorized call result answered
    · rename_i flight found
      rcases List.mem_append.mp answered with inside | inside
      · obtain ⟨waiting,waits,same⟩ := List.mem_map.mp inside
        simp only [Prod.mk.injEq] at same
        obtain ⟨rfl,passed⟩ := same
        unfold Flight.outcome at passed
        split at passed
        · cases passed
        · rename_i started
          exact own key flight found started waiting waits
      · exact authorized call result inside

theorem run_own {events : List (Event β)} (own : Own crypto publisher calls) (authorized : Authorized crypto publisher calls)
    (admitted : ∀ early event late, events = early ++ event::late →
      Admits crypto publisher (early.foldl (step crypto publisher) calls) event) :
    Own crypto publisher (events.foldl (step crypto publisher) calls) ∧
      Authorized crypto publisher (events.foldl (step crypto publisher) calls) := by
  induction events generalizing calls with
  | nil => exact ⟨own,authorized⟩
  | cons event events ih =>
    have first : Admits crypto publisher calls event := admitted [] event events rfl
    apply ih (step_own crypto publisher own first) (step_authorized crypto publisher own authorized)
    intro early event' late same
    exact admitted (event::early) event' late (by rw [same,List.cons_append])

/-- Calls are authorized one by one, however the executions end, where none joins one that it could not have begun. -/
theorem calls_authorized_iff [Inhabited β] (events : List (Event β)) : (∀ early late, events = early ++ late → ∀ key result,
      Authorized crypto publisher (run crypto publisher (early ++ [.ended key result]))) ↔
      ∀ early event late, events = early ++ event::late → Admits crypto publisher (run crypto publisher early) event := by
  constructor
  · intro authorized early event late same
    cases event with
    | ended key result => trivial
    | publish call =>
      intro key flight keyed found started
      have answers := authorized (early ++ [.publish call]) late (by rw [same,List.append_assoc]; rfl) key (.ok default)
      rw [run,List.foldl_append,List.foldl_append] at answers
      apply answers call default
      change (call,.ok default) ∈ (step crypto publisher (publish crypto publisher (run crypto publisher early) call)
        (.ended key (.ok default))).answers
      have joined : publish crypto publisher (run crypto publisher early) call = {run crypto publisher early with
          inFlight := (run crypto publisher early).inFlight.set key {flight with calls := call::flight.calls}} := by
        unfold publish
        rw [keyed]
        dsimp only
        rw [found]
      rw [joined,step]
      dsimp only
      rw [OrderedMap.get?_set,if_pos rfl]
      dsimp only [Flight.outcome]
      rw [started]
      simp
  · intro admitted early late same key result
    rw [run,List.foldl_append]
    have owned : Own crypto publisher (Calls.none : Calls β) := by simp [Own,Calls.none]
    have silent : Authorized crypto publisher (Calls.none : Calls β) := by simp [Authorized,Calls.none]
    have each : ∀ front event back, early = front ++ event::back →
        Admits crypto publisher (front.foldl (step crypto publisher) Calls.none) event := by
      intro front event back split
      exact admitted front event (back ++ late) (by rw [same,split,List.append_assoc]; rfl)
    have held := run_own crypto publisher owned silent each
    rw [List.foldl_cons,List.foldl_nil]
    exact step_authorized crypto publisher held.1 held.2

theorem joined_answer {first second : PublishCall} {key : String} {result : β}
    (started : (execute crypto publisher first).started = .ok ()) (keyed : keyOfCall crypto publisher first.input = .ok key)
    (shared : keyOfCall crypto publisher second.input = .ok key) :
    (second,.ok result) ∈ (run crypto publisher [.publish first,.publish second,.ended key (.ok result)]).answers := by
  have begun : publish crypto publisher (Calls.none : Calls β) first =
      {Calls.none with inFlight := OrderedMap.empty.set key (execute crypto publisher first)} := by
    unfold publish
    rw [keyed]
    rfl
  simp only [run,List.foldl_cons,List.foldl_nil,step,begun]
  unfold publish
  rw [shared]
  simp [OrderedMap.get?_set,Flight.outcome,started]

end

/-! ### A forged authorization -/

def shopPublisher : Publisher := .github [.github "acme" "shop" 7 9] reportVerifier

def signedInput : PublicationInput := {manifest := reports 'c' 'd',authorization := reportAuthorization}

def forgedInput : PublicationInput := {signedInput with
  authorization := {reportAuthorization with signature := repeated '1'}}

theorem forged_parsed : parsePublicationManifest reportCrypto forgedInput =
    .ok {parsedReports 'c' 'd' with authorization := forgedInput.authorization} := by
  have digest : isDigest (repeated '1') = true := by decide +kernel
  have signed := reportAuthorization_valid
  have valid : forgedInput.authorization.valid = true := by
    simp only [SignedAttestation.valid,Bool.and_eq_true] at signed ⊢
    exact ⟨signed.1,digest⟩
  have checked : checkChanges [] [] 0 (reports 'c' 'd').changes = .ok () := by
    have same : (reports 'c' 'd').changes = [.write .add "notes.txt" false "text"] := rfl
    rw [same]
    decide +kernel
  have manifest : forgedInput.manifest = reports 'c' 'd' := rfl
  simp only [parsePublicationManifest,valid,manifest,reports_valid.1,Bool.not_true,Bool.or_self,checked]
  rfl

theorem forged_unverified (subject : String) : reportVerifier.verify reportCrypto forgedInput.authorization subject = none := by
  have apart : repeated '1' ≠ repeated '0' := by decide +kernel
  unfold AttestationVerifier.verify
  split
  · rfl
  split
  · rfl
  split
  · rfl
  · exact if_neg fun signed => apart signed.2

theorem forged_refused : ¬ shopPublisher.Authorizes reportCrypto forgedInput 2000 := by
  rintro ⟨parsed,claims,same,passed⟩
  rw [forged_parsed] at same
  cases same
  have refused : ∀ subject, shopPublisher.verifier.verify reportCrypto forgedInput.authorization subject = none := forged_unverified
  unfold validatePublicationAuthorization at passed
  dsimp only at passed
  rw [refused] at passed
  cases passed

theorem signed_prepared : shopPublisher.prepared reportCrypto signedInput 2000 = .ok (parsedReports 'c' 'd') := by
  have known : reportVerifier.keys.find? (fun candidate => candidate.keyId = reportKey.keyId) = some reportKey := rfl
  have window : InWindow 1000 61000 2000 := ⟨by decide,by decide,by decide,by decide⟩
  have collisionFree : CollisionFree reportCrypto.sha256 (digestedTexts (reports 'c' 'd') (reports 'c' 'd')) :=
    reports_collisionFree (by simp [digestedTexts])
  have signed := reports_parsed reports_valid.1
  have accepted := (parsePublicationManifest_ok signed).2.2.1
  have passed := (validate_authorized known rfl window collisionFree accepted signed).mpr
    ⟨⟨rfl,List.Perm.refl _,List.Perm.refl _⟩,rfl⟩
  have verified := (verifyAuthorization_ok reportCrypto).mpr passed
  have selected : [PublicationRepository.github "acme" "shop" 7 9].any
      (fun candidate => GitHub.sameRepository candidate (.github "acme" "shop" 7 9)) = true := by decide +kernel
  have repository : (parsedReports 'c' 'd').manifest.repository = .github "acme" "shop" 7 9 := rfl
  have ready := GitHub.prepared_of reportCrypto signed repository selected verified
  have same : shopPublisher.prepared reportCrypto = GitHub.prepared reportCrypto [.github "acme" "shop" 7 9] reportVerifier := rfl
  rw [same]
  exact ready

def shopKey : String := keyOf reportCrypto [(reports 'c' 'd').projectId,(reports 'c' 'd').runId,toString 9,
  (reports 'c' 'd').policyDigest,(parsedReports 'c' 'd').manifestDigest]

theorem shopKey_of {input : PublicationInput} {parsed : ParsedPublicationManifest}
    (ok : parsePublicationManifest reportCrypto input = .ok parsed) (manifest : parsed.manifest = reports 'c' 'd')
    (digest : parsed.manifestDigest = (parsedReports 'c' 'd').manifestDigest) :
    keyOfCall reportCrypto shopPublisher input = .ok shopKey := by
  have repository : (reports 'c' 'd').repository = .github "acme" "shop" 7 9 := rfl
  unfold keyOfCall
  rw [ok]
  dsimp only
  rw [manifest,digest]
  exact GitHub.publicationKey_github reportCrypto repository

def shopResult : GitHub.PublicationResult where
  branch := "agentos/run-1"
  commitSha := "c0ffee"
  pullRequestNumber := 4
  pullRequestUrl := "https://github.com/acme/shop/pull/4"

/-- A call with a forged authorization, made while one for the same manifest runs, is answered with its publication. -/
theorem forged_call_published : ¬ Authorized reportCrypto shopPublisher (run reportCrypto shopPublisher
    [.publish ⟨signedInput,2000⟩,.publish ⟨forgedInput,2000⟩,.ended shopKey (.ok shopResult)]) := by
  intro authorized
  apply forged_refused
  apply authorized ⟨forgedInput,2000⟩ shopResult
  have started : (execute reportCrypto shopPublisher ⟨signedInput,2000⟩).started = .ok () := by
    unfold execute
    rw [signed_prepared]
    rfl
  exact joined_answer reportCrypto shopPublisher started (shopKey_of (reports_parsed reports_valid.1) rfl rfl)
    (shopKey_of forged_parsed rfl rfl)

end AgentOS.Publication
