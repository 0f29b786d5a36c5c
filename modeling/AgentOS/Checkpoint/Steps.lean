import AgentOS.Checkpoint.Effects

/-! The steps that a delivery can take on the effects, by the drafts it claims
and the keys it changes effects under, and what none of these steps can do. -/
namespace AgentOS.Checkpoint

inductive EffectStep (drafts : EffectDraft → Prop) (keys : String → Prop) (before : Store) : Store → Prop
  | claimed {after : Store} {draft : EffectDraft} {claim : EffectClaim} {effect : Effect} (mine : drafts draft)
      (ok : before.claimEffect draft claim = .ok (effect,after)) : EffectStep drafts keys before after
  | started {after : Store} {lease : EffectLease} {now : Instant} {effect : Effect} (mine : keys lease.key)
      (ok : before.markEffectStarted lease now = .ok (effect,after)) : EffectStep drafts keys before after
  | attached {after : Store} {lease : EffectLease} {externalRef : String} {now : Instant} {effect : Effect}
      (mine : keys lease.key) (ok : before.attachExternalRef lease externalRef now = .ok (effect,after)) :
      EffectStep drafts keys before after
  | completed {after : Store} {lease : EffectLease} {output : Json} {now : Instant} {effect : Effect}
      (mine : keys lease.key) (ok : before.completeEffect lease output now = .ok (effect,after)) :
      EffectStep drafts keys before after
  | failed {after : Store} {lease : EffectLease} {error : String} {deadLetter : Bool} {now : Instant} {effect : Effect}
      (mine : keys lease.key) (ok : before.failEffect lease error deadLetter now = .ok (effect,after)) :
      EffectStep drafts keys before after

/-- What an effect can become: its run and kind stay, and once it has succeeded all of it does. -/
structure Continues (existing effect : Effect) : Prop where
  runId : effect.runId = existing.runId
  kind : effect.kind = existing.kind
  finished : existing.status = .succeeded → effect = existing

namespace Continues

variable (existing : Effect)

theorem claimed (draft : EffectDraft) (claim : EffectClaim) : Continues existing (Store.claimed (some existing) draft claim) := by
  simp only [Store.claimed]
  split
  · rename_i free
    have unfinished : existing.status ≠ .succeeded := by
      intro done
      simp [Store.claimable,done] at free
    exact ⟨rfl,rfl,fun done => absurd done unfinished⟩
  · exact ⟨rfl,rfl,fun _ => rfl⟩

theorem startedBy (now : Instant) : Continues existing (Store.startedBy now existing) := by
  have same := Store.startedBy_identity now existing
  refine ⟨same.1,same.2,fun done => ?_⟩
  simp [Store.startedBy,done]

theorem attachedBy (externalRef : String) (now : Instant) (status : existing.status = .started) :
    Continues existing (Store.attachedBy externalRef now existing) :=
  ⟨rfl,rfl,fun done => by simp [status] at done⟩

theorem completedBy (output : Json) (now : Instant) : Continues existing (Store.completedBy output now existing) := by
  have same := Store.completedBy_identity output now existing
  exact ⟨same.1,same.2,fun done => if_pos done⟩

theorem failedBy (error : String) (deadLetter : Bool) (now : Instant) :
    Continues existing (Store.failedBy error deadLetter now existing) := by
  unfold Store.failedBy
  split
  · exact ⟨rfl,rfl,fun _ => rfl⟩
  · rename_i unfinished
    exact ⟨rfl,rfl,fun done => absurd done unfinished⟩

end Continues

namespace EffectStep
variable {drafts : EffectDraft → Prop} {keys : String → Prop} {before after : Store}

private theorem of_changes {lease : EffectLease} {change : Effect → Effect} {effect : Effect} (mine : keys lease.key)
    (changes : Store.Changes before lease change effect after)
    (continues : ∀ existing, effect = change existing → Continues existing (change existing)) :
    ∃ key effect existing, Replaces before key effect after ∧ keys key ∧
      before.effects.get? key = some existing ∧ Continues existing effect := by
  obtain ⟨existing,found,answer,replaced⟩ := changes.found
  exact ⟨lease.key,effect,existing,replaced,mine,found,answer ▸ continues existing answer⟩

section
variable (step : EffectStep drafts keys before after)
include step

theorem replaces : ∃ key effect, Replaces before key effect after ∧
    (∀ existing, before.effects.get? key = some existing → Continues existing effect) ∧ ((keys key ∧ before.effects.get? key ≠ none) ∨
      ∃ draft, drafts draft ∧ draft.key = key ∧ effect.runId = draft.runId ∧ effect.kind = draft.kind) := by
  have leased : (∃ key effect existing, Replaces before key effect after ∧ keys key ∧
      before.effects.get? key = some existing ∧ Continues existing effect) →
      ∃ key effect, Replaces before key effect after ∧
        (∀ existing, before.effects.get? key = some existing → Continues existing effect) ∧
        ((keys key ∧ before.effects.get? key ≠ none) ∨
          ∃ draft, drafts draft ∧ draft.key = key ∧ effect.runId = draft.runId ∧ effect.kind = draft.kind) := by
    rintro ⟨key,effect,existing,replaced,mine,found,continues⟩
    refine ⟨key,effect,replaced,fun other held => ?_,.inl ⟨mine,by simp [found]⟩⟩
    cases found.symm.trans held
    exact continues
  cases step with
  | @claimed draft claim effect mine ok =>
    obtain ⟨replaced,answer,_⟩ := Store.claimEffect_ok ok
    obtain ⟨_,run,kind⟩ := Store.claimEffect_draft ok
    refine ⟨draft.key,effect,replaced,fun existing found => ?_,.inr ⟨draft,mine,rfl,run,kind⟩⟩
    rw [answer,found]
    exact .claimed existing draft claim
  | started mine ok =>
    exact leased (of_changes mine (Store.markEffectStarted_ok ok) fun existing _ => .startedBy existing _)
  | attached mine ok =>
    obtain ⟨changes,status⟩ := Store.attachExternalRef_ok ok
    apply leased (of_changes mine changes _)
    intro existing answer
    apply Continues.attachedBy
    rwa [answer] at status
  | completed mine ok =>
    exact leased (of_changes mine (Store.completeEffect_ok ok).1 fun existing _ => .completedBy existing _ _)
  | failed mine ok =>
    exact leased (of_changes mine (Store.failEffect_ok ok) fun existing _ => .failedBy existing _ _ _)

theorem reservations : after.reservations = before.reservations := by
  obtain ⟨_,_,replaced,_⟩ := step.replaces
  exact replaced.reservations

theorem succeeded {key : String} {effect : Effect}
    (held : before.effects.get? key = some effect) (done : effect.status = .succeeded) :
    after.effects.get? key = some effect := by
  obtain ⟨touched,next,replaced,continues,_⟩ := step.replaces
  by_cases same : key = touched
  · subst same
    rw [replaced.stored,(continues effect held).finished done]
  · rw [replaced.others key same,held]

theorem concerned {concerns : String → String → Prop} (undrafted : ∀ draft, drafts draft → ¬ concerns draft.runId draft.kind)
    (finished : ∀ key effect, before.effects.get? key = some effect → concerns effect.runId effect.kind →
      effect.status = .succeeded) {key : String} {effect : Effect} (concern : concerns effect.runId effect.kind) :
    after.effects.get? key = some effect ↔ before.effects.get? key = some effect := by
  constructor
  · intro held
    obtain ⟨touched,next,replaced,continues,place⟩ := step.replaces
    by_cases same : key = touched
    · subst same
      cases replaced.stored.symm.trans held
      cases found : before.effects.get? key with
      | some existing =>
        have continued := continues existing found
        have before : concerns existing.runId existing.kind := by rwa [continued.runId,continued.kind] at concern
        rw [continued.finished (finished key existing found before)]
      | none =>
        rcases place with ⟨_,present⟩ | ⟨draft,mine,_,run,kind⟩
        · exact absurd found present
        · rw [run,kind] at concern
          exact absurd concern (undrafted draft mine)
    · rwa [replaced.others key same] at held
  · exact fun held => step.succeeded held (finished key effect held concern)

end

end EffectStep
end AgentOS.Checkpoint
