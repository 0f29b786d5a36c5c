import Mathlib.Logic.Relation
import Mathlib.Data.List.Induction
import Mathlib.Data.List.Perm.Subperm
import Mathlib.Algebra.Order.BigOperators.Group.List
import Mathlib.Algebra.Order.Ring.Nat

/-! A depth-first search for a circle in a graph, and how much it visits. -/
namespace Library.DepthFirst
open Relation

/-- Whether a circle was met, the nodes done with, and how many visits that took. -/
structure Outcome (κ : Type) where
  found : Bool
  seen : List κ
  visits : Nat

variable {κ : Type}

/-- Visits one after another, until one meets a circle. -/
def scan (visit : List κ → κ → Outcome κ) : List κ → List κ → Outcome κ
  | [],seen => ⟨false,seen,0⟩
  | node::nodes,seen =>
    let first := visit seen node
    if first.found then first
    else
      let rest := scan visit nodes first.seen
      {rest with visits := first.visits + rest.visits}

theorem scan_congr {visit other : List κ → κ → Outcome κ} {nodes : List κ}
    (same : ∀ node ∈ nodes, ∀ seen, visit seen node = other seen node) (seen : List κ) :
    scan visit nodes seen = scan other nodes seen := by
  induction nodes generalizing seen with
  | nil => rfl
  | cons node nodes ih =>
    rw [List.forall_mem_cons] at same
    simp only [scan,same.1,ih same.2]

def Edge (next : κ → List κ) (source target : κ) : Prop := target ∈ next source

def weight (next : κ → List κ) (nodes : List κ) : Nat := (nodes.map fun node => (next node).length).sum

/-- Nodes listed so that what follows a node comes later in the list. -/
def Finished (next : κ → List κ) : List κ → Prop
  | [] => True
  | node::nodes => next node ⊆ nodes ∧ Finished next nodes

variable {next : κ → List κ} {nodes : List κ}

theorem Finished.next_mem (finished : Finished next nodes) {node child : κ} (listed : node ∈ nodes) (edge : Edge next node child) :
    child ∈ nodes := by
  induction nodes with
  | nil => cases listed
  | cons first nodes ih =>
    apply List.mem_cons_of_mem
    rcases List.mem_cons.mp listed with rfl | later
    · exact finished.1 edge
    · exact ih finished.2 later

theorem Finished.acyclic (finished : Finished next nodes) {node : κ} (listed : node ∈ nodes) : ¬ TransGen (Edge next) node node := by
  induction nodes with
  | nil => cases listed
  | cons first nodes ih =>
    have stays : ∀ {start stop}, start ∈ nodes → TransGen (Edge next) start stop → stop ∈ nodes := by
      intro start stop inside path
      induction path with
      | single edge => exact finished.2.next_mem inside edge
      | tail _ edge known => exact finished.2.next_mem known edge
    intro circle
    have later : node ∈ nodes := by
      rcases List.mem_cons.mp listed with rfl | later
      · obtain ⟨child,edge,rest⟩ := TransGen.head'_iff.mp circle
        rcases reflTransGen_iff_eq_or_transGen.mp rest with same | path
        · exact same ▸ finished.1 edge
        · exact stays (finished.1 edge) path
      · exact later
    exact ih finished.2 later circle

/-- Read backwards, what follows a node comes before it. -/
theorem finished_reverse_iff {order : List κ} : Finished next order.reverse ↔
    ∀ before node after, order = before ++ node::after → next node ⊆ before := by
  induction order using List.reverseRecOn with
  | nil => simp [Finished]
  | append_singleton order last ih =>
    rw [List.reverse_concat,Finished,ih]
    constructor
    · intro ⟨here,earlier⟩ before node after split
      rcases List.eq_nil_or_concat after with rfl | ⟨rest,final,rfl⟩
      · obtain ⟨rfl,rfl⟩ := List.append_singleton_inj.mp split
        exact fun _ follows => List.mem_reverse.mp (here follows)
      · rw [List.concat_eq_append,← List.cons_append,← List.append_assoc] at split
        exact earlier before node rest (List.append_singleton_inj.mp split).1
    · intro each
      refine ⟨fun _ follows => List.mem_reverse.mpr (each order last [] rfl follows),fun before node after split => ?_⟩
      exact each before node (after ++ [last]) (by rw [split,List.append_assoc,List.cons_append])

/-- What a search from `seen` makes of the nodes it is asked for, while `visiting` others. -/
structure Explored (next : κ → List κ) (nodes visiting asked seen : List κ) (outcome : Outcome κ) : Prop where
  grows : seen ⊆ outcome.seen
  fresh : ∀ node ∈ outcome.seen, node ∈ seen ∨ node ∈ nodes ∧ node ∉ visiting
  distinct : seen.Nodup → outcome.seen.Nodup
  few : outcome.visits + weight next seen ≤ asked.length + weight next outcome.seen
  circle : outcome.found = true → ∃ node ∈ nodes, TransGen (Edge next) node node
  finished : Finished next seen → outcome.found = false → Finished next outcome.seen ∧ asked ⊆ outcome.seen

theorem scan_explored {step : List κ → κ → Outcome κ} {visiting asked : List κ}
    (each : ∀ node ∈ asked, ∀ seen, Explored next nodes visiting [node] seen (step seen node)) (seen : List κ) :
    Explored next nodes visiting asked seen (scan step asked seen) := by
  induction asked generalizing seen with
  | nil => exact ⟨fun _ => id,fun _ => .inl,id,by simp [scan],nofun,fun finished _ => ⟨finished,List.nil_subset _⟩⟩
  | cons node rest ih =>
    rw [List.forall_mem_cons] at each
    have first := each.1 seen
    have further := ih each.2 (step seen node).seen
    have costs := first.few
    rw [scan]
    by_cases found : (step seen node).found = true
    · simp only [found,if_true]
      exact {first with few := by simp only [List.length_cons,List.length_nil] at costs ⊢; omega
                        finished := fun _ unfound => absurd (found.symm.trans unfound) nofun}
    rw [if_neg found]
    have more := further.few
    refine ⟨fun _ known => further.grows (first.grows known),?_,fun distinct => further.distinct (first.distinct distinct),?_,
      further.circle,?_⟩
    · intro other listed
      rcases further.fresh other listed with known | new
      · exact first.fresh other known
      · exact .inr new
    · simp only [List.length_cons,List.length_nil] at costs ⊢
      omega
    · intro finished unfound
      obtain ⟨one,here⟩ := first.finished finished (by simpa using found)
      obtain ⟨all,others⟩ := further.finished one unfound
      exact ⟨all,List.cons_subset.mpr ⟨further.grows (here List.mem_cons_self),others⟩⟩

/-- Where a search stands: on its way from `visiting` to a node, with room to go on. -/
structure Underway (next : κ → List κ) (nodes : List κ) (depth : Nat) (visiting : List κ) (node : κ) : Prop where
  distinct : visiting.Nodup
  within : visiting ⊆ nodes
  here : node ∈ nodes
  room : nodes.length < depth + visiting.length
  leads : ∀ before ∈ visiting, TransGen (Edge next) before node

variable {depth : Nat} {visiting : List κ} {node : κ}

theorem Underway.positive (underway : Underway next nodes 0 visiting node) : False := by
  have few := (List.subperm_of_subset underway.distinct underway.within).length_le
  have room := underway.room
  omega

theorem Underway.deeper (closed : ∀ node ∈ nodes, next node ⊆ nodes) (underway : Underway next nodes (depth + 1) visiting node)
    (fresh : node ∉ visiting) {child : κ} (edge : Edge next node child) : Underway next nodes depth (node::visiting) child where
  distinct := List.nodup_cons.mpr ⟨fresh,underway.distinct⟩
  within := List.cons_subset.mpr ⟨underway.here,underway.within⟩
  here := closed node underway.here edge
  room := by
    have room := underway.room
    simp only [List.length_cons]
    omega
  leads before listed := by
    rcases List.mem_cons.mp listed with rfl | earlier
    · exact .single edge
    · exact (underway.leads before earlier).tail edge

theorem start (deep : nodes.length < depth) (listed : node ∈ nodes) : Underway next nodes depth [] node :=
  ⟨List.nodup_nil,List.nil_subset _,listed,by simpa using deep,nofun⟩

variable [DecidableEq κ]

/-- A visit of a node from the nodes of `visiting`; `depth` counts down how deep the search may still go. -/
def visit (next : κ → List κ) (depth : Nat) (visiting seen : List κ) (node : κ) : Outcome κ :=
  match depth with
  | 0 => ⟨false,seen,1⟩
  | depth + 1 =>
    if node ∈ visiting then ⟨true,seen,1⟩
    else if node ∈ seen then ⟨false,seen,1⟩
    else
      let below := scan (visit next depth (node::visiting)) (next node) seen
      ⟨below.found,node::below.seen,below.visits + 1⟩

theorem visit_explored (closed : ∀ node ∈ nodes, next node ⊆ nodes) (underway : Underway next nodes depth visiting node)
    (seen : List κ) : Explored next nodes visiting [node] seen (visit next depth visiting seen node) := by
  induction depth generalizing visiting node seen with
  | zero => exact underway.positive.elim
  | succ depth ih =>
    unfold visit
    by_cases circle : node ∈ visiting
    · rw [if_pos circle]
      exact ⟨fun _ => id,fun _ => .inl,id,le_rfl,fun _ => ⟨node,underway.here,underway.leads node circle⟩,fun _ => nofun⟩
    rw [if_neg circle]
    by_cases known : node ∈ seen
    · rw [if_pos known]
      exact ⟨fun _ => id,fun _ => .inl,id,le_rfl,nofun,fun finished _ => ⟨finished,by simpa using known⟩⟩
    rw [if_neg known]
    have below := scan_explored (fun child edge => ih (underway.deeper closed circle edge)) seen
    have few := below.few
    refine ⟨fun _ inside => List.mem_cons_of_mem _ (below.grows inside),?_,?_,?_,below.circle,?_⟩
    · intro other listed
      rcases List.mem_cons.mp listed with rfl | listed
      · exact .inr ⟨underway.here,circle⟩
      · exact (below.fresh other listed).imp_right fun new => ⟨new.1,fun inside => new.2 (List.mem_cons_of_mem _ inside)⟩
    · intro distinct
      refine List.nodup_cons.mpr ⟨fun listed => ?_,below.distinct distinct⟩
      rcases below.fresh node listed with already | new
      · exact known already
      · exact new.2 List.mem_cons_self
    · simp only [weight,List.map_cons,List.sum_cons,List.length_cons,List.length_nil] at few ⊢
      omega
    · intro finished unfound
      obtain ⟨all,children⟩ := below.finished finished unfound
      exact ⟨⟨children,all⟩,by simp⟩

/-- More room than there are nodes changes nothing: the search ends by itself. -/
theorem visit_settles (closed : ∀ node ∈ nodes, next node ⊆ nodes) (underway : Underway next nodes depth visiting node)
    (seen : List κ) : visit next (depth + 1) visiting seen node = visit next depth visiting seen node := by
  induction depth generalizing visiting node seen with
  | zero => exact underway.positive.elim
  | succ depth ih =>
    rw [visit]
    conv => rhs; rw [visit]
    by_cases circle : node ∈ visiting
    · rw [if_pos circle,if_pos circle]
    · rw [scan_congr fun child edge => ih (underway.deeper closed circle edge)]

theorem scan_settles (closed : ∀ node ∈ nodes, next node ⊆ nodes) (deep : nodes.length < depth) :
    scan (visit next depth []) nodes [] = scan (visit next (nodes.length + 1) []) nodes [] := by
  induction depth, deep using Nat.le_induction with
  | base => rfl
  | succ depth deep ih =>
    rw [← ih]
    exact scan_congr (fun node listed => visit_settles closed (start deep listed)) []

theorem scan_exact (closed : ∀ node ∈ nodes, next node ⊆ nodes) (deep : nodes.length < depth) :
    let outcome := scan (visit next depth []) nodes []
    (outcome.found = true ↔ ∃ node ∈ nodes, TransGen (Edge next) node node) ∧ outcome.seen.Nodup ∧ outcome.seen ⊆ nodes ∧
      outcome.visits ≤ nodes.length + weight next nodes := by
  intro outcome
  have explored := scan_explored (fun node listed => visit_explored closed (start deep listed)) []
  have distinct := explored.distinct List.nodup_nil
  have inside : outcome.seen ⊆ nodes := fun node listed => ((explored.fresh node listed).resolve_left nofun).1
  refine ⟨⟨explored.circle,fun ⟨node,listed,circle⟩ => ?_⟩,distinct,inside,?_⟩
  · by_contra unfound
    obtain ⟨finished,all⟩ := explored.finished trivial (by simpa using unfound)
    exact finished.acyclic (all listed) circle
  · have few := explored.few
    obtain ⟨rest,same,part⟩ := List.subperm_of_subset distinct inside
    have lighter : weight next outcome.seen ≤ weight next nodes := by
      have equal : weight next rest = weight next outcome.seen := (same.map _).sum_eq
      rw [← equal]
      exact (part.map _).sum_le_sum fun _ _ => Nat.zero_le _
    simp only [weight,List.map_nil,List.sum_nil,Nat.add_zero] at few lighter ⊢
    exact few.trans (Nat.add_le_add_left lighter _)

theorem scan_finished (closed : ∀ node ∈ nodes, next node ⊆ nodes) (deep : nodes.length < depth)
    (unfound : (scan (visit next depth []) nodes []).found = false) :
    Finished next (scan (visit next depth []) nodes []).seen ∧ nodes ⊆ (scan (visit next depth []) nodes []).seen :=
  (scan_explored (fun _ listed => visit_explored closed (start deep listed)) []).finished trivial unfound

end Library.DepthFirst
