import AgentOS.Library.Interleaving

/-! Where a routine stands on its path. Its own steps so far lie in its first part, or
that part has ended and the rest of them lie in the second. -/
namespace Library

namespace Program
variable {σ α β : Type}

theorem Steps.of_append {program left : Program σ α} {early late : List (σ × σ)} (steps : program.Steps (early ++ late) left) :
    ∃ middle, program.Steps early middle ∧ middle.Steps late left := by
  induction early generalizing program with
  | nil => exact ⟨program,.rest program,steps⟩
  | cons moment early ih =>
    cases steps with
    | act now steps =>
      obtain ⟨middle,first,second⟩ := ih steps
      exact ⟨middle,.act now first,second⟩

theorem Steps.same {program left other : Program σ α} {taken : List (σ × σ)} (first : program.Steps taken left)
    (second : program.Steps taken other) : left = other := by
  induction first with
  | rest =>
    cases second
    rfl
  | act now _ ih =>
    cases second with
    | act _ second => exact ih second

theorem Steps.bind {program : Program σ α} {rest : α → Program σ β} {taken : List (σ × σ)} {left : Program σ β}
    (steps : (program >>= rest).Steps taken left) : (∃ inner, program.Steps taken inner) ∨
      ∃ first value second, taken = first ++ second ∧ second ≠ [] ∧ program.Ends first value ∧ (rest value).Steps second left := by
  change (program.bind rest).Steps taken left at steps
  induction program generalizing taken with
  | pure value =>
    cases taken with
    | nil => exact .inl ⟨_,.rest _⟩
    | cons moment taken => exact .inr ⟨[],value,moment::taken,rfl,List.cons_ne_nil _ _,.rest _,steps⟩
  | act effect next ih =>
    cases steps with
    | rest => exact .inl ⟨_,.rest _⟩
    | act now steps =>
      rcases ih now steps with ⟨inner,steps⟩ | ⟨first,value,second,rfl,some,ends,later⟩
      · exact .inl ⟨inner,.act now steps⟩
      · exact .inr ⟨(now,effect now)::first,value,second,rfl,some,.act now ends,later⟩

end Program

namespace Routine
variable {σ ε α β : Type} {taken early late : List (σ × σ)}

def Walks (routine : Routine σ ε α) (taken : List (σ × σ)) : Prop :=
  ∃ left, Program.Steps (ExceptT.run routine) taken left

variable {routine : Routine σ ε α}

theorem Walks.of_append (walks : routine.Walks (early ++ late)) : routine.Walks early := by
  obtain ⟨left,steps⟩ := walks
  obtain ⟨middle,first,_⟩ := steps.of_append
  exact ⟨middle,first⟩

theorem Ends.stop {answer : Except ε α} (ends : routine.Ends early answer) (walks : routine.Walks (early ++ late)) : late = [] := by
  obtain ⟨left,steps⟩ := walks
  obtain ⟨middle,first,second⟩ := steps.of_append
  cases first.same ends
  cases second
  rfl

@[simp] theorem walks_pure {value : α} : (Pure.pure value : Routine σ ε α).Walks taken ↔ taken = [] := by
  constructor
  · rintro ⟨left,steps⟩
    cases steps
    rfl
  · rintro rfl
    exact ⟨_,.rest _⟩

@[simp] theorem walks_throw {error : ε} : (throw error : Routine σ ε α).Walks taken ↔ taken = [] := by
  constructor
  · rintro ⟨left,steps⟩
    cases steps
    rfl
  · rintro rfl
    exact ⟨_,.rest _⟩

variable {moment : σ × σ} {body : β → Routine σ ε PUnit} {rest : α → Routine σ ε β} {step : σ → σ → Prop}

theorem Single.walks (single : routine.Single)
    (walks : routine.Walks (early ++ [moment])) : early = [] ∧ moment.2 = (routine.exec moment.1).2 := by
  obtain ⟨action,rfl⟩ := single
  obtain ⟨left,steps⟩ := walks
  cases early with
  | nil =>
    cases steps with
    | act now steps => exact ⟨rfl,rfl⟩
  | cons first early =>
    cases steps with
    | act now steps =>
      cases early with
      | nil => cases steps
      | cons _ _ => cases steps

theorem Single.walks_length (single : routine.Single) (walks : routine.Walks taken) : taken.length ≤ 1 := by
  rcases List.eq_nil_or_concat taken with rfl | ⟨early,moment,rfl⟩
  · exact Nat.zero_le _
  · rw [List.concat_eq_append] at walks ⊢
    obtain ⟨rfl,_⟩ := single.walks walks
    exact Nat.le_refl _

theorem Walks.outcome (walks : routine.outcome.Walks taken) : routine.Walks taken := by
  obtain ⟨left,steps⟩ := walks
  rcases Program.Steps.bind steps with inner | ⟨_,_,second,_,some,_,later⟩
  · exact inner
  · cases later
    exact absurd rfl some

theorem Walks.bind (walks : (routine >>= rest).Walks taken) :
    routine.Walks taken ∨ ∃ first value second, taken = first ++ second ∧ second ≠ [] ∧ routine.Ends first (.ok value) ∧
      (rest value).Walks second := by
  obtain ⟨left,steps⟩ := walks
  rcases Program.Steps.bind steps with inner | ⟨first,answer,second,rfl,some,ends,later⟩
  · exact .inl inner
  · cases answer with
    | ok value => exact .inr ⟨first,value,second,rfl,some,ends,left,later⟩
    | error error =>
      cases later
      exact absurd rfl some

theorem Takes.walks (takes : routine.Takes step) (walks : routine.Walks taken) : ∀ moment ∈ taken, step moment.1 moment.2 := by
  obtain ⟨left,steps⟩ := walks
  intro moment inside
  exact (Program.Holds.along (takes moment.1) (fun _ _ => trivial) steps).1 moment inside

theorem Walks.reached {quiet : σ → σ → Prop}
    (walks : (routine >>= rest).Walks (early ++ [moment])) (silent : routine.Takes quiet) (loud : ¬ quiet moment.1 moment.2) :
    ∃ first value second, early = first ++ second ∧ routine.Ends first (.ok value) ∧ (rest value).Walks (second ++ [moment]) := by
  rcases walks.bind with within | ⟨first,value,second,same,some,ends,later⟩
  · exact absurd (silent.walks within moment (by simp)) loud
  · obtain ⟨init,last,rfl⟩ := List.eq_nil_or_concat second |>.resolve_left some
    rw [List.concat_eq_append,← List.append_assoc] at same
    obtain ⟨rfl,lasts⟩ := List.append_inj' same rfl
    cases lasts
    rw [List.concat_eq_append] at later
    exact ⟨first,value,init,rfl,ends,later⟩

/-! ### Calls -/

inductive Calls (part : Routine σ ε β) : {α : Type} → Routine σ ε α → List (σ × σ) → Prop
  | tail : Calls part part []
  | now {α : Type} (rest : β → Routine σ ε α) : Calls part (part >>= rest) []
  | inner {α γ : Type} {routine : Routine σ ε γ} {path : List (σ × σ)} (rest : γ → Routine σ ε α)
      (calls : Calls part routine path) : Calls part (routine >>= rest) path
  | later {α γ : Type} {routine : Routine σ ε γ} {rest : γ → Routine σ ε α} {value : γ} {first second : List (σ × σ)}
      (ends : routine.Ends first (.ok value)) (calls : Calls part (rest value) second) :
      Calls part (routine >>= rest) (first ++ second)

theorem Calls.trans {γ : Type} {part : Routine σ ε β} {outer : Routine σ ε α} {routine : Routine σ ε γ}
    (first : Calls outer routine early) (second : Calls part outer late) : Calls part routine (early ++ late) := by
  induction first with
  | tail => exact second
  | now rest => exact .inner rest second
  | inner rest _ ih => exact .inner rest ih
  | later ends _ ih =>
    rw [List.append_assoc]
    exact .later ends ih

theorem walks_forM {items : List β}
    (walks : (items.forM body).Walks (early ++ [moment])) : ∃ item ∈ items, ∃ first second, early = first ++ second ∧
      Calls (body item) (items.forM body) first ∧ (body item).Walks (second ++ [moment]) := by
  induction items generalizing early with
  | nil =>
    have nothing := walks_pure.mp walks
    simp at nothing
  | cons item items ih =>
    change (body item >>= fun _ => items.forM body).Walks _ at walks
    rcases walks.bind with within | ⟨first,_,second,same,some,ends,later⟩
    · exact ⟨item,List.mem_cons_self,[],early,rfl,.now _,within⟩
    · obtain ⟨init,last,rfl⟩ := List.eq_nil_or_concat second |>.resolve_left some
      rw [List.concat_eq_append,← List.append_assoc] at same
      obtain ⟨rfl,lasts⟩ := List.append_inj' same rfl
      cases lasts
      rw [List.concat_eq_append] at later
      obtain ⟨found,inside,before,after,rfl,calls,mine⟩ := ih later
      exact ⟨found,List.mem_cons_of_mem _ inside,first ++ before,after,(List.append_assoc _ _ _).symm,.later ends calls,mine⟩

theorem ends_forM {items : List β} (ends : (items.forM body).Ends taken (.ok PUnit.unit))
    {item : β} (inside : item ∈ items) : ∃ path part rest, taken = path ++ (part ++ rest) ∧
      Calls (body item) (items.forM body) path ∧ (body item).Ends part (.ok PUnit.unit) := by
  induction items generalizing taken with
  | nil => cases inside
  | cons head items ih =>
    change (body head >>= fun _ => items.forM body).Ends taken (.ok PUnit.unit) at ends
    obtain ⟨first,value,second,rfl,here,later⟩ := ends_bind_ok.mp ends
    rcases List.mem_cons.mp inside with rfl | inside
    · exact ⟨[],first,second,rfl,.now _,here⟩
    · obtain ⟨path,part,rest,rfl,calls,body⟩ := ih later inside
      exact ⟨first ++ path,part,rest,by simp,.later here calls,body⟩

theorem Gives.ends [Nonempty σ] {post : α → Prop}
    (gives : routine.Gives step post) {value : α} (ends : routine.Ends taken (.ok value)) : post value := by
  obtain ⟨state⟩ := ‹Nonempty σ›
  obtain ⟨_,_,allowed⟩ := (gives state).ends (fun _ _ => trivial) ends
  exact allowed value rfl

theorem ends_settle {settled answer : Except ε α} :
    (settle settled : Routine σ ε α).Ends taken answer ↔ taken = [] ∧ answer = settled := Program.ends_pure

end Routine

namespace Interleaved
variable {ι σ ε α : Type} [DecidableEq ι] {pool later : ι → Thread σ} {state after : σ} {trace : List (Moment ι σ)}

theorem walks (ran : Interleaved pool state trace later after) {who : ι} {routine : Routine σ ε α}
    (started : pool who = routine.thread) : routine.Walks (own who trace) := by
  obtain ⟨left,_,steps⟩ := ran.steps who started
  exact ⟨left,steps⟩

theorem walks_to {early late : List (Moment ι σ)} {moment : Moment ι σ}
    (ran : Interleaved pool state (early ++ moment::late) later after) {routine : Routine σ ε α}
    (started : pool moment.who = routine.thread) : routine.Walks (own moment.who early ++ [(moment.before,moment.after)]) := by
  have walked := ran.walks started
  have mine : own moment.who (early ++ moment::late) =
      (own moment.who early ++ [(moment.before,moment.after)]) ++ own moment.who late := by
    simp [own]
  rw [mine] at walked
  exact walked.of_append

end Interleaved
end Library
