import AgentOS.Checkpoint.Database
import Mathlib.Data.List.Induction

/-! Concurrent admissions in the database. Each is a transaction that holds its
project's advisory lock from its first query to its end; every query reads what
is committed at that moment, and its writes are seen once it commits. -/
namespace AgentOS.Checkpoint
open Library

inductive Phase where
  | locked
  | located
  | spentRead (totals : Totals)
  | workflowRead (totals : Totals)
  | dailyRead (totals : Totals)
  | counted (totals : Totals)
  | judged (totals : Totals) (verdict : Verdict)

structure Transaction where
  request : SessionAdmission
  phase : Phase

/-- The committed tables and, by project, the transaction that holds the project's lock. -/
structure Admissions where
  db : Database
  active : String → Option Transaction := fun _ => none

inductive Turn where
  | begins (request : SessionAdmission)
  | advances (projectId : String)

namespace Admissions

def hold (admissions : Admissions) (projectId : String) (transaction : Option Transaction) : Admissions :=
  {admissions with active := fun other => if other = projectId then transaction else admissions.active other}

def next (db : Database) (request : SessionAdmission) : Phase → Option Phase
  | .locked =>
    match db.tables.reservations.get? request.reservationKey with
    | none => some .located
    | some existing =>
      if Database.differs existing request then none
      else some (.judged {} (if db.tables.heldByAnother request then .refused .concurrency else .retaken))
  | .located => some (.spentRead (db.readSpent request))
  | .spentRead totals => some (.workflowRead (db.readWorkflow request totals))
  | .workflowRead totals => some (.dailyRead (db.readDaily request totals))
  | .dailyRead totals => some (.counted (db.readDeployment totals))
  | .counted totals => some (.judged totals (Database.judge request totals (db.tables.heldByAnother request)))
  | .judged _ _ => none

/-- A commit; a reservation whose key has been taken meanwhile rolls it back. -/
def commit (db : Database) (request : SessionAdmission) (verdict : Verdict) : Database :=
  if verdict = .reserved ∧ (db.tables.reservations.get? request.reservationKey).isSome then db
  else {db with tables := Database.write db.tables request verdict}

/-- What the end of a transaction leaves: its commit, or the tables as they were where it raised. -/
def ended (db : Database) (request : SessionAdmission) : Phase → Database
  | .judged _ verdict => commit db request verdict
  | _ => db

def advance (admissions : Admissions) (projectId : String) (transaction : Transaction) : Admissions :=
  match next admissions.db transaction.request transaction.phase with
  | some phase => admissions.hold projectId (some {transaction with phase := phase})
  | none => {admissions.hold projectId none with db := ended admissions.db transaction.request transaction.phase}

/-- An invalid request raises at once, and one that finds its project's lock held waits. -/
def step (admissions : Admissions) : Turn → Admissions
  | .begins request =>
    if Database.invalid request then admissions
    else match admissions.active request.projectId with
      | some _ => admissions
      | none => admissions.hold request.projectId (some ⟨request,.locked⟩)
  | .advances projectId =>
    match admissions.active projectId with
    | none => admissions
    | some transaction => admissions.advance projectId transaction

def play (admissions : Admissions) (turns : List Turn) : Admissions := turns.foldl step admissions

end Admissions

def Database.reserved (db : Database) : Int := db.tables.reserved fun _ => true

structure Deployment where
  limit : Int
  admissionNumerator : Int
  admissionDenominator : Int
  spent : Int

namespace Deployment

def Below (deployment : Deployment) (db : Database) : Prop :=
  deployment.spent + db.reserved < (deployment.limit * deployment.admissionNumerator).fdiv
    deployment.admissionDenominator

/-- A request under the deployment's limit, whose query finds the deployment's spend. -/
structure Asks (deployment : Deployment) (db : Database) (request : SessionAdmission) : Prop where
  limited : 0 < deployment.limit
  limit : Database.deploymentDailyLimit request = deployment.limit
  admissionNumerator : request.admissionNumerator = deployment.admissionNumerator
  admissionDenominator : request.admissionDenominator = deployment.admissionDenominator
  spent : db.deploymentSpent request.now = deployment.spent

end Deployment

namespace Admissions
variable {deployment : Deployment} {admissions : Admissions}

/-- The project's next turn commits no reservation on a deployment total that has grown since it was read. -/
def Fresh (admissions : Admissions) (projectId : String) : Prop :=
  ∀ request totals, admissions.active projectId = some ⟨request,.judged totals .reserved⟩ →
    admissions.db.reserved ≤ totals.deploymentReserved

def Carries (deployment : Deployment) (request : SessionAdmission) : Phase → Prop
  | .locked => True
  | .located => True
  | .spentRead totals => totals.deploymentSpent = deployment.spent
  | .workflowRead totals => totals.deploymentSpent = deployment.spent
  | .dailyRead totals => totals.deploymentSpent = deployment.spent
  | .counted totals => totals.deploymentSpent = deployment.spent
  | .judged totals verdict => verdict = .reserved →
    deployment.spent + totals.deploymentReserved + request.estimatedMicrodollars <
      (deployment.limit * deployment.admissionNumerator).fdiv deployment.admissionDenominator

structure Sound (deployment : Deployment) (admissions : Admissions) : Prop where
  below : deployment.Below admissions.db
  asked : ∀ projectId transaction, admissions.active projectId = some transaction →
    deployment.Asks admissions.db transaction.request
  carried : ∀ projectId transaction, admissions.active projectId = some transaction →
    Carries deployment transaction.request transaction.phase

theorem sound_start {start : Database} (below : deployment.Below start) :
    Sound deployment ⟨start,fun _ => none⟩ where
  below := below
  asked _ _ idle := by cases idle
  carried _ _ idle := by cases idle

variable {projectId : String} {request : SessionAdmission}

theorem judge_reserved {totals : Totals} {held : Bool}
    (reserved : Database.judge request totals held = .reserved) (limited : 0 < Database.deploymentDailyLimit request) :
    Store.exceeds totals.deploymentSpent totals.deploymentReserved request.estimatedMicrodollars
      (Database.deploymentDailyLimit request) request = false := by
  unfold Database.judge at reserved
  split at reserved
  · cases reserved
  · rename_i room
    rw [← Bool.not_eq_true]
    exact fun exceeds => room ⟨limited,exceeds⟩

theorem Carries.next {db : Database} {phase later : Phase}
    (asks : deployment.Asks db request) (carries : Carries deployment request phase)
    (advanced : next db request phase = some later) : Carries deployment request later := by
  cases phase with
  | locked =>
    simp only [Admissions.next] at advanced
    split at advanced
    · cases advanced
      trivial
    · split at advanced
      · cases advanced
      · cases advanced
        intro reserved
        split at reserved <;> cases reserved
  | located =>
    cases advanced
    exact asks.spent
  | spentRead => cases advanced; exact carries
  | workflowRead => cases advanced; exact carries
  | dailyRead => cases advanced; exact carries
  | counted totals =>
    cases advanced
    intro reserved
    have room := judge_reserved reserved (asks.limit ▸ asks.limited)
    have spent : totals.deploymentSpent = deployment.spent := carries
    simp only [Store.exceeds,Bool.or_eq_false_iff,decide_eq_false_iff_not,asks.limit,asks.admissionNumerator,
      asks.admissionDenominator,spent] at room
    omega
  | judged => cases advanced

theorem reserved_write (db : Database) (request : SessionAdmission) (verdict : Verdict)
    (free : verdict = .reserved → db.tables.reservations.get? request.reservationKey = none) :
    Database.reserved {db with tables := Database.write db.tables request verdict} =
      db.reserved + if verdict = .reserved then request.estimatedMicrodollars else 0 := by
  cases verdict with
  | refused reason => simp [Database.reserved,Database.write]
  | retaken => simp [Database.reserved,Database.write,Store.takeLease,Store.reserved]
  | reserved =>
    have total := OrderedMap.total_set_new db.tables.reservations request.reservationKey
      ⟨request.runId,request.projectId,request.stepKey,request.estimatedMicrodollars,request.leaseExpiresAt⟩
      Reservation.estimatedMicrodollars (free rfl)
    simpa [Database.reserved,Database.write,Ledger.reserved_eq_total,Store.takeLease,Store.reserve] using total

theorem deploymentSpent_commit (db : Database) (request : SessionAdmission) (verdict : Verdict) (now : Instant) :
    (commit db request verdict).deploymentSpent now = db.deploymentSpent now := by
  unfold commit
  split <;> rfl

theorem Asks.commit {db : Database} {request other : SessionAdmission} (asks : deployment.Asks db other)
    (verdict : Verdict) : deployment.Asks (Admissions.commit db request verdict) other :=
  {asks with spent := by rw [deploymentSpent_commit,asks.spent]}

section
variable (sound : Sound deployment admissions)
include sound

theorem Sound.hold (projectId : String) {transaction : Option Transaction}
    (asked : ∀ held, transaction = some held → deployment.Asks admissions.db held.request)
    (carried : ∀ held, transaction = some held → Carries deployment held.request held.phase) :
    Sound deployment (admissions.hold projectId transaction) := by
  refine ⟨sound.below,fun other held present => ?_,fun other held present => ?_⟩
  · simp only [Admissions.hold] at present
    split at present
    · exact asked held present
    · exact sound.asked other held present
  · simp only [Admissions.hold] at present
    split at present
    · exact carried held present
    · exact sound.carried other held present

theorem Sound.commit {totals : Totals} {verdict : Verdict}
    (held : admissions.active projectId = some ⟨request,.judged totals verdict⟩) (fresh : admissions.Fresh projectId) :
    deployment.Below (Admissions.commit admissions.db request verdict) := by
  unfold Admissions.commit
  split
  · exact sound.below
  · rename_i free
    have absent (reserved : verdict = .reserved) :
        admissions.db.tables.reservations.get? request.reservationKey = none := by
      simpa [reserved] using free
    unfold Deployment.Below
    rw [reserved_write admissions.db request verdict absent]
    have below := sound.below
    unfold Deployment.Below at below
    split
    · rename_i reserved
      have room : deployment.spent + totals.deploymentReserved + request.estimatedMicrodollars < _ :=
        sound.carried projectId _ held reserved
      have current := fresh request totals (by rw [held,reserved])
      omega
    · omega

theorem Sound.advance {transaction : Transaction}
    (held : admissions.active projectId = some transaction) (fresh : admissions.Fresh projectId) :
    Sound deployment (admissions.advance projectId transaction) := by
  obtain ⟨request,phase⟩ := transaction
  have asks := sound.asked projectId _ held
  unfold Admissions.advance
  cases advanced : next admissions.db request phase with
  | some later =>
    apply sound.hold
    · rintro other same
      cases same
      exact asks
    · rintro other same
      cases same
      exact (sound.carried projectId _ held).next asks advanced
  | none =>
    have released : Sound deployment (admissions.hold projectId none) :=
      sound.hold projectId (fun _ same => by cases same) (fun _ same => by cases same)
    cases phase with
    | judged totals verdict =>
      refine ⟨sound.commit held fresh,fun other held present => ?_,released.carried⟩
      exact Asks.commit (released.asked other held present) verdict
    | _ => exact released

theorem Sound.step (turn : Turn) (asked : ∀ request, turn = .begins request → deployment.Asks admissions.db request)
    (fresh : ∀ projectId, turn = .advances projectId → admissions.Fresh projectId) : Sound deployment (admissions.step turn) := by
  cases turn with
  | begins request =>
    simp only [Admissions.step]
    split
    · exact sound
    · split
      · exact sound
      · apply sound.hold
        · rintro held same
          cases same
          exact asked request rfl
        · rintro held same
          cases same
          trivial
  | advances projectId =>
    simp only [Admissions.step]
    split
    · exact sound
    · rename_i transaction held
      exact sound.advance held (fresh projectId rfl)

end

theorem deploymentSpent_step (admissions : Admissions) (turn : Turn) (now : Instant) :
    (admissions.step turn).db.deploymentSpent now = admissions.db.deploymentSpent now := by
  cases turn with
  | begins request =>
    simp only [Admissions.step]
    split
    · rfl
    · split <;> rfl
  | advances projectId =>
    simp only [Admissions.step]
    split
    · rfl
    · rename_i transaction _
      simp only [Admissions.advance]
      split
      · rfl
      · unfold ended
        split
        · exact deploymentSpent_commit _ _ _ now
        · rfl

/-- Where no reservation is committed on a deployment total that has grown since it was read, the
deployment's spend and open reservations stay below the fraction of its limit. -/
theorem deployment_budget_kept (deployment : Deployment) (start : Database) (turns : List Turn) (below : deployment.Below start)
    (asked : ∀ request, .begins request ∈ turns → deployment.Asks start request)
    (fresh : ∀ past projectId later, turns = past ++ .advances projectId::later → (play ⟨start,fun _ => none⟩ past).Fresh projectId) :
    ∀ past later, turns = past ++ later → deployment.Below (play ⟨start,fun _ => none⟩ past).db := by
  have sound : ∀ past later, turns = past ++ later → Sound deployment (play ⟨start,fun _ => none⟩ past) ∧
      ∀ now, (play ⟨start,fun _ => none⟩ past).db.deploymentSpent now = start.deploymentSpent now := by
    intro past
    induction past using List.reverseRecOn with
    | nil =>
      intro _ _
      exact ⟨sound_start below,fun _ => rfl⟩
    | append_singleton past turn ih =>
      intro later split
      have cut : turns = past ++ turn::later := by simpa using split
      obtain ⟨before,usage⟩ := ih _ cut
      have last : play ⟨start,fun _ => none⟩ (past ++ [turn]) = (play ⟨start,fun _ => none⟩ past).step turn := by
        simp [play]
      rw [last]
      refine ⟨before.step turn ?_ ?_,fun now => (deploymentSpent_step _ turn now).trans (usage now)⟩
      · rintro request rfl
        have asks := asked request (by simp [cut])
        exact {asks with spent := (usage request.now).trans asks.spent}
      · rintro projectId rfl
        exact fresh past projectId later cut
  exact fun past later split => (sound past later split).1.below

/-! ### One project at a time -/

/-- The project holds the only lock, and what it has read of the deployment is still so. -/
structure Alone (projectId : String) (admissions : Admissions) : Prop where
  only : ∀ other transaction, admissions.active other = some transaction → other = projectId
  counted : ∀ request totals, admissions.active projectId = some ⟨request,.counted totals⟩ →
    totals.deploymentReserved = admissions.db.reserved
  judged : ∀ request totals, admissions.active projectId = some ⟨request,.judged totals .reserved⟩ →
    totals.deploymentReserved = admissions.db.reserved

theorem alone_start (projectId : String) (start : Database) : Alone projectId ⟨start,fun _ => none⟩ where
  only _ _ idle := by cases idle
  counted _ _ idle := by cases idle
  judged _ _ idle := by cases idle

theorem Alone.hold (alone : Alone projectId admissions) (transaction : Option Transaction)
    (counted : ∀ request totals, transaction = some ⟨request,.counted totals⟩ → totals.deploymentReserved = admissions.db.reserved)
    (judged : ∀ request totals, transaction = some ⟨request,.judged totals .reserved⟩ →
      totals.deploymentReserved = admissions.db.reserved) : Alone projectId (admissions.hold projectId transaction) := by
  refine ⟨fun other held present => ?_,fun request totals present => ?_,fun request totals present => ?_⟩
  · by_contra different
    simp only [Admissions.hold,if_neg different] at present
    exact different (alone.only other held present)
  · simp only [Admissions.hold,if_true] at present
    exact counted request totals present
  · simp only [Admissions.hold,if_true] at present
    exact judged request totals present

theorem Alone.step (alone : Alone projectId admissions) (turn : Turn)
    (mine : ∀ request, turn = .begins request → request.projectId = projectId) : Alone projectId (admissions.step turn) := by
  cases turn with
  | begins request =>
    simp only [Admissions.step]
    split
    · exact alone
    · split
      · exact alone
      · rw [mine request rfl]
        apply alone.hold
        · rintro _ _ same
          cases same
        · rintro _ _ same
          cases same
  | advances other =>
    simp only [Admissions.step]
    split
    · exact alone
    · rename_i transaction held
      obtain rfl := alone.only other transaction held
      obtain ⟨request,phase⟩ := transaction
      unfold Admissions.advance
      cases advanced : next admissions.db request phase with
      | some later =>
        apply alone.hold
        · rintro _ totals same
          cases same
          cases phase <;> simp only [next] at advanced
          case locked => split at advanced <;> [cases advanced; (split at advanced <;> cases advanced)]
          case dailyRead => cases advanced; rfl
          all_goals cases advanced
        · rintro _ totals same
          cases same
          cases phase <;> simp only [next] at advanced
          case locked =>
            split at advanced
            · cases advanced
            · split at advanced
              · cases advanced
              · simp only [Option.some.injEq,Phase.judged.injEq] at advanced
                split at advanced <;> simp at advanced
          case counted before =>
            simp only [Option.some.injEq,Phase.judged.injEq] at advanced
            exact advanced.1 ▸ alone.counted request before held
          all_goals cases advanced
      | none =>
        refine ⟨fun name held present => ?_,fun _ _ present => ?_,fun _ _ present => ?_⟩
        · by_contra different
          simp only [Admissions.hold,if_neg different] at present
          exact different (alone.only name held present)
        · simp [Admissions.hold] at present
        · simp [Admissions.hold] at present

theorem one_project_fresh (start : Database) (projectId : String) (turns : List Turn)
    (mine : ∀ request, .begins request ∈ turns → request.projectId = projectId) (other : String) :
    (play ⟨start,fun _ => none⟩ turns).Fresh other := by
  have alone : Alone projectId (play ⟨start,fun _ => none⟩ turns) := by
    induction turns using List.reverseRecOn with
    | nil => exact alone_start projectId start
    | append_singleton past turn ih =>
      have last : play ⟨start,fun _ => none⟩ (past ++ [turn]) = (play ⟨start,fun _ => none⟩ past).step turn := by
        simp [play]
      rw [last]
      apply (ih fun request inside => mine request (by simp [inside])).step
      rintro request rfl
      exact mine request (by simp)
  intro request totals held
  obtain rfl := alone.only other _ held
  exact le_of_eq (alone.judged request totals held).symm

def smallDeployment : Deployment where
  limit := 1000
  admissionNumerator := 80
  admissionDenominator := 100
  spent := 0

def asks (projectId : String) : SessionAdmission where
  reservationKey := projectId
  projectId := projectId
  runId := projectId
  stepKey := "plan"
  workflowSpentMicrodollars := 0
  dailySpentMicrodollars := 0
  workflowLimitMicrodollars := 1000
  dailyLimitMicrodollars := 1000
  admissionNumerator := 80
  admissionDenominator := 100
  deploymentDailyLimitMicrodollars := some 1000
  deploymentSpentMicrodollars := some 0
  now := 0
  leaseExpiresAt := 1260000
  estimatedMicrodollars := 500

def oneAdmission : List Turn := .begins (asks "a")::List.replicate 7 (.advances "a")

def overlapping : List Turn :=
  [.begins (asks "a"),.begins (asks "b")] ++ List.replicate 6 (.advances "a") ++ List.replicate 6 (.advances "b") ++
    [.advances "a",.advances "b"]

theorem asks_asks (projectId : String) : smallDeployment.Asks {} (asks projectId) := by
  constructor <;> first | rfl | decide

theorem deployment_budget_kept_alone : smallDeployment.Below (play ⟨{},fun _ => none⟩ oneAdmission).db := by
  have mine : ∀ request, Turn.begins request ∈ oneAdmission → request = asks "a" := by
    intro request inside
    rcases List.mem_cons.mp inside with same | later
    · cases same
      rfl
    · cases (List.eq_of_mem_replicate later)
  apply deployment_budget_kept smallDeployment {} oneAdmission (by unfold Deployment.Below; decide) _ _ oneAdmission []
    (by simp)
  · intro request inside
    rw [mine request inside]
    exact asks_asks "a"
  · intro past projectId later split
    apply one_project_fresh {} "a"
    intro request inside
    have begun : Turn.begins request ∈ oneAdmission := by
      rw [split]
      exact List.mem_append_left _ inside
    rw [mine request begun]
    rfl

theorem overlapping_exceeds_deployment : ¬ ∀ (deployment : Deployment) (start : Database) (turns : List Turn),
    deployment.Below start → (∀ request, .begins request ∈ turns → deployment.Asks start request) →
      ∀ past later, turns = past ++ later → deployment.Below (play ⟨start,fun _ => none⟩ past).db := by
  intro kept
  have below := kept smallDeployment {} overlapping (by unfold Deployment.Below; decide) (by
    intro request inside
    simp only [overlapping,List.mem_append,List.mem_replicate,List.mem_cons,List.not_mem_nil,reduceCtorEq,and_false,
      or_false,Turn.begins.injEq] at inside
    rcases inside with rfl | rfl <;> exact asks_asks _) overlapping [] (by simp)
  unfold Deployment.Below at below
  revert below
  decide

end Admissions
end AgentOS.Checkpoint
