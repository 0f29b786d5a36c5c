import AgentOS.Library.Paging
import AgentOS.Repository
import AgentOS.Stringify
import Mathlib.Data.Prod.Lex
import Mathlib.Data.String.Basic

/-! Configuration revisions. The active one is not stored: it is derived from the
revisions of the project, by the time at which their callers say they were made. -/
namespace AgentOS.ControlPlane

/-! ### Applying a revision -/

structure ConfigRevisionDraft where
  id : String
  projectId : String
  config : Json
  provenance : Provenance := {}
  createdAt : Instant

def ConfigRevisionDraft.numbered (draft : ConfigRevisionDraft) (revision : Nat) : ConfigRevision where
  id := draft.id
  projectId := draft.projectId
  revision := revision
  config := draft.config
  provenance := draft.provenance
  createdAt := draft.createdAt

/-- The revision that the caller takes to be active; none if there is to be none. -/
structure ConfigRevisionPrecondition where
  revision : Option Nat
  digest : Option String
  deriving DecidableEq

def configRevisionMatches (existing : ConfigRevision) (requested : ConfigRevisionDraft) : Bool :=
  existing.id = requested.id && existing.projectId = requested.projectId &&
    canonicalJsonValue existing.config = canonicalJsonValue requested.config && existing.provenance = requested.provenance

def staleConfiguration : Fault := .error "Active configuration changed before apply"

def ConfigRevisionPrecondition.holds (precondition : ConfigRevisionPrecondition) (active : Option ConfigRevision) : Bool :=
  active.map ConfigRevision.revision = precondition.revision &&
    (active.map fun active => active.provenance.configDigest) = precondition.digest

end AgentOS.ControlPlane

namespace AgentOS.Repository
open Library ControlPlane

def storedProject (repository : Repository) (project : Project) : Project :=
  match repository.projects.get? project.id with
  | none => project
  | some existing => {id := existing.id,name := project.name,createdAt := existing.createdAt,updatedAt := project.updatedAt}

def nextRevision (repository : Repository) (projectId : String) : Nat :=
  ((repository.revisionsOf projectId).map ConfigRevision.revision).foldr max 0 + 1

def insertConfigRevision (repository : Repository) (project : Project) (created : ConfigRevision) : Repository :=
  {repository with
    projects := repository.projects.set project.id (repository.storedProject project)
    configRevisions := repository.configRevisions.set created.id created}

/-- A revision that is stored already is answered as it is. Otherwise the precondition is
checked against the active revision, and the draft gets the next number. -/
def applyConfigRevision (repository : Repository) (project : Project) (revision : ConfigRevisionDraft)
    (precondition : Option ConfigRevisionPrecondition) (failBeforeCommit : Option Fault) :
    Except Fault (ConfigRevision × Repository) :=
  match repository.configRevisions.get? revision.id with
  | some existing =>
    if configRevisionMatches existing revision then .ok (existing,repository)
    else .error (.idempotencyConflict ("Config revision " ++ revision.id ++ " already exists with different content"))
  | none =>
    if ¬ precondition.all (·.holds (repository.getLatestConfigRevision project.id)) then .error staleConfiguration
    else if POSTGRES_INTEGER_MAX < repository.nextRevision project.id then
      .error (.error "revision must be a positive PostgreSQL integer")
    else match failBeforeCommit with
      | some fault => .error fault
      | none =>
        let created := revision.numbered (repository.nextRevision project.id)
        .ok (created,repository.insertConfigRevision project created)

/-! ### The active revision -/

def appliedKey (revision : ConfigRevision) : Int ×ₗ Nat ×ₗ String :=
  toLex (revision.createdAt,toLex (revision.revision,revision.id))

theorem appliedAfter_iff {left right : ConfigRevision} : appliedAfter left right = true ↔ appliedKey right < appliedKey left := by
  simp only [appliedAfter,appliedKey,Prod.Lex.toLex_lt_toLex,Bool.or_eq_true,Bool.and_eq_true,decide_eq_true_eq]

theorem appliedAfter_strict : Paging.Strict appliedAfter where
  asymmetric left right later := by
    rw [← Bool.not_eq_true,appliedAfter_iff]
    exact lt_asymm (appliedAfter_iff.mp later)
  weakly first second third early late := by
    rw [← Bool.not_eq_true,appliedAfter_iff,not_lt] at early late ⊢
    exact late.trans early

variable {repository before after : Repository} {projectId : String}

variable {project : Project} {draft : ConfigRevisionDraft} {active : ConfigRevision}

theorem getLatestConfigRevision_ok (latest : repository.getLatestConfigRevision projectId = some active) :
    active ∈ repository.revisionsOf projectId ∧ ∀ other ∈ repository.revisionsOf projectId, appliedAfter other active = false :=
  appliedAfter_strict.first _ (fun left right => by simp) latest

theorem getLatestConfigRevision_of (listed : active ∈ repository.revisionsOf projectId)
    (least : ∀ other ∈ repository.revisionsOf projectId, other = active ∨ appliedAfter active other = true) :
    repository.getLatestConfigRevision projectId = some active :=
  appliedAfter_strict.first_of _ (fun left right => by simp) listed least

theorem lt_nextRevision {revision : ConfigRevision} (listed : revision ∈ repository.revisionsOf projectId) :
    revision.revision < repository.nextRevision projectId := by
  unfold nextRevision
  have bound : ∀ numbers : List Nat, ∀ number ∈ numbers, number < numbers.foldr max 0 + 1 := by
    intro numbers
    induction numbers with
    | nil => exact nofun
    | cons first numbers ih =>
      intro number inside
      rw [List.foldr_cons]
      rcases List.mem_cons.mp inside with rfl | inside
      · have left := le_max_left number (numbers.foldr max 0)
        omega
      · have right := le_max_right first (numbers.foldr max 0)
        have here := ih number inside
        omega
  exact bound _ _ (List.mem_map_of_mem listed)

theorem applyConfigRevision_ok
    {precondition : Option ConfigRevisionPrecondition} {failBeforeCommit : Option Fault} {answer : ConfigRevision}
    (ok : before.applyConfigRevision project draft precondition failBeforeCommit = .ok (answer,after)) :
    before.configRevisions.get? draft.id = some answer ∧ configRevisionMatches answer draft = true ∧ after = before ∨
    before.configRevisions.get? draft.id = none ∧
      (precondition.all fun precondition => precondition.holds (before.getLatestConfigRevision project.id)) = true ∧
      answer = draft.numbered (before.nextRevision project.id) ∧ after = before.insertConfigRevision project answer := by
  unfold applyConfigRevision at ok
  split at ok
  · rename_i existing found
    split at ok
    · rename_i same
      cases ok
      exact .inl ⟨found,same,rfl⟩
    · cases ok
  · rename_i absent
    split at ok
    · cases ok
    rename_i met
    split at ok
    · cases ok
    split at ok
    · cases ok
    · cases ok
      exact .inr ⟨absent,not_not.mp met,rfl,rfl⟩

theorem mem_insertConfigRevision {created revision : ConfigRevision} (absent : before.configRevisions.get? created.id = none) :
    revision ∈ (before.insertConfigRevision project created).revisionsOf projectId ↔
      revision = created ∧ created.projectId = projectId ∨ revision ∈ before.revisionsOf projectId := by
  unfold revisionsOf
  rw [List.mem_filter,List.mem_filter,decide_eq_true_eq,OrderedMap.mem_values,OrderedMap.mem_values]
  constructor
  · rintro ⟨⟨key,held⟩,mine⟩
    rcases OrderedMap.get?_set_some held with ⟨_,rfl⟩ | ⟨_,held⟩
    · exact .inl ⟨rfl,mine⟩
    · exact .inr ⟨⟨key,held⟩,mine⟩
  · rintro (⟨rfl,mine⟩ | ⟨⟨key,held⟩,mine⟩)
    · exact ⟨⟨revision.id,(OrderedMap.get?_set _ _ _ _).trans (if_pos rfl)⟩,mine⟩
    · refine ⟨⟨key,?_⟩,mine⟩
      change (before.configRevisions.set created.id created).get? key = some revision
      rw [OrderedMap.get?_set,if_neg]
      · exact held
      · rintro rfl
        rw [absent] at held
        cases held

theorem inserted_active {created : ConfigRevision}
    (absent : before.configRevisions.get? draft.id = none) (mine : draft.projectId = project.id)
    (made : created = draft.numbered (before.nextRevision project.id))
    (current : ∀ active, before.getLatestConfigRevision project.id = some active → active.createdAt ≤ draft.createdAt) :
    (before.insertConfigRevision project created).getLatestConfigRevision project.id = some created := by
  subst made
  apply getLatestConfigRevision_of
  · exact (mem_insertConfigRevision absent).mpr (.inl ⟨rfl,mine⟩)
  intro other listed
  rcases (mem_insertConfigRevision absent).mp listed with ⟨rfl,_⟩ | listed
  · exact .inl rfl
  right
  cases latest : before.getLatestConfigRevision project.id with
  | none =>
    have empty := List.length_insertionSort (fun left right => ¬ appliedAfter right left) (before.revisionsOf project.id)
    rw [List.head?_eq_none_iff.mp latest] at empty
    have some := List.length_pos_of_mem listed
    simp only [List.length_nil] at empty
    omega
  | some active =>
    obtain ⟨_,none⟩ := getLatestConfigRevision_ok latest
    have earlier : appliedKey other ≤ appliedKey active := by
      rw [← not_lt,← appliedAfter_iff,none other listed]
      exact Bool.false_ne_true
    have time : other.createdAt ≤ draft.createdAt := by
      have first := (Prod.Lex.toLex_le_toLex.mp earlier).elim (fun before => le_of_lt before) fun same => le_of_eq same.1
      exact first.trans (current active latest)
    have number := lt_nextRevision listed
    rw [appliedAfter_iff,appliedKey,appliedKey,Prod.Lex.toLex_lt_toLex]
    rcases lt_or_eq_of_le time with before | same
    · exact .inl before
    · exact .inr ⟨same,Prod.Lex.toLex_lt_toLex.mpr (.inl number)⟩

end AgentOS.Repository
