import AgentOS.Library.RefNames
import AgentOS.Publication.GitHubPublisher
import AgentOS.Publication.Binding
import Mathlib.Data.List.SplitBy
import Mathlib.Data.Set.Function

/-! The branches publications are put on. Both publishers take the run's identifier into the name;
neither takes the dots out that stand in pairs, and the local one leaves colons too. -/
namespace AgentOS.Publication
open Library RefNames Gate

def reference (branch : String) : List Char := "refs/heads/".toList ++ branch.toList

section
variable {crypto : Crypto} {text part runId digest : String} {char : Char} {chars : List Char}

theorem containsText_iff : containsText part text = true ↔ part.toList <:+: text.toList := by
  unfold containsText
  rw [List.any_eq_true,List.infix_iff_prefix_suffix]
  simp [List.mem_tails,List.isPrefixOf_iff_prefix,and_comm]

theorem undoubled_iff : containsText ".." text = false ↔ text.toList.IsChain (Apart '.' '.') := by
  rw [← unpaired_iff,← Bool.not_eq_true,containsText_iff]
  rfl

theorem colonless_iff : containsText ":" text = false ↔ ':' ∉ text.toList := by
  rw [← Bool.not_eq_true,containsText_iff,not_iff_not]
  exact List.singleton_infix_iff _ _

/-! ### What stands in a branch -/

def Unreserved (char : Char) : Prop := char.isAlphanum ∨ char ∈ ['.','_','-']

theorem unreserved_allowed (plain : Unreserved char) : Allowed char ∧ char ≠ '/' ∧ char ≠ '@' := by
  rcases plain with alphanumeric | mark
  · simp only [Char.isAlphanum,isAlpha_eq,isUpper_eq,isLower_eq,Char.isDigit,Bool.or_eq_true,Bool.and_eq_true,
      decide_eq_true_eq] at alphanumeric
    unfold Allowed
    simp only [List.mem_cons,List.not_mem_nil,or_false,not_or,ne_eq,Char.ext_iff,UInt32.lt_iff_toNat_lt,
      ← UInt32.toNat_inj,UInt32.le_iff_toNat_le] at alphanumeric ⊢
    simp at alphanumeric ⊢
    omega
  · simp only [List.mem_cons,List.not_mem_nil,or_false] at mark
    rcases mark with rfl | rfl | rfl <;> exact ⟨⟨by decide,by decide,by decide⟩,by decide,by decide⟩

theorem unreserved_of_isHex (hex : Workflow.isHex char = true) : Unreserved char := by
  simp only [Workflow.isHex,Bool.or_eq_true,Bool.and_eq_true,decide_eq_true_eq] at hex
  refine .inl ?_
  rcases hex with digit | ⟨low,high⟩
  · simp [Char.isAlphanum,digit]
  · have lower : char.isLower = true := by
      simp only [isLower_eq,Bool.and_eq_true,decide_eq_true_eq]
      have bounds : char.val.toNat ≤ 'f'.val.toNat := high
      exact ⟨low,UInt32.le_iff_toNat_le.mpr (bounds.trans (by decide))⟩
    simp [Char.isAlphanum,isAlpha_eq,lower]

theorem unreserved_of_slugChar (sluggish : GitHub.slugChar char = true) : Unreserved char := by
  simp only [GitHub.slugChar,Bool.or_eq_true,decide_eq_true_eq] at sluggish
  unfold Unreserved
  rcases sluggish with (((lower | digit) | rfl) | rfl) | rfl
  · exact .inl (by simp [Char.isAlphanum,isAlpha_eq,lower])
  · exact .inl (by simp [Char.isAlphanum,digit])
  · exact .inr (by decide)
  · exact .inr (by decide)
  · exact .inr (by decide)

theorem part_of_unreserved (named : chars ≠ []) (visible : chars.head? ≠ some '.') (unlocked : ¬ ['.','l','o','c','k'] <:+ chars)
    (plain : ∀ char ∈ chars, Unreserved char) (undoubled : ¬ ['.','.'] <:+: chars) (ended : chars.getLast? ≠ some '.') :
    Part chars where
  named := named
  visible := visible
  unlocked := unlocked
  allowed char inside := ⟨(unreserved_allowed (plain char inside)).1,(unreserved_allowed (plain char inside)).2.1⟩
  single := undoubled
  braceless braced := (unreserved_allowed (plain '@' (braced.subset (by simp)))).2.2 rfl
  ended := ended

structure Tag (tag : List Char) : Prop where
  length : tag.length = 8
  hex : ∀ char ∈ tag, Workflow.isHex char = true

theorem tag_of_digest (valid : isDigest digest = true) : Tag (digest.toList.take 8) := by
  simp only [isDigest,Bool.and_eq_true,decide_eq_true_eq,List.all_eq_true] at valid
  have long : digest.toList.length = 64 := valid.1
  exact ⟨by simp [long],fun char inside => valid.2 char (List.mem_of_mem_take inside)⟩

theorem tagged_part {tag : List Char} (tagged : Tag tag) (visible : chars.head? ≠ some '.') (plain : ∀ char ∈ chars, Unreserved char)
    (undoubled : chars.IsChain (Apart '.' '.')) : Part (chars ++ '-'::tag) := by
  have every : ∀ char ∈ chars ++ '-'::tag, Unreserved char := by
    intro char inside
    rcases List.mem_append.mp inside with within | within
    · exact plain char within
    · rcases List.mem_cons.mp within with rfl | within
      · exact .inr (by decide)
      · exact unreserved_of_isHex (tagged.hex char within)
  have dotless : ∀ char ∈ '-'::tag, char ≠ '.' := by
    rintro char inside rfl
    rcases List.mem_cons.mp inside with same | within
    · exact absurd same (by decide)
    · exact absurd (tagged.hex '.' within) (by decide)
  refine part_of_unreserved (by simp) ?_ ?_ every (unpaired_iff.mpr ?_) ?_
  · cases chars with
    | nil => simp
    | cons first rest => exact visible
  · -- the last five characters are the tag's
    intro locked
    have within : ['.','l','o','c','k'] <:+ tag := List.suffix_of_suffix_length_le locked
      ((List.suffix_cons _ _).trans (List.suffix_append _ _)) (by simp [tagged.length])
    exact absurd (tagged.hex '.' (within.subset (by simp))) (by decide)
  · refine undoubled.append ?_ ?_
    · refine List.isChain_iff_forall_rel_of_append_cons_cons.mpr fun first second before after split => ?_
      rintro ⟨rfl,_⟩
      exact dotless '.' (by simp [split]) rfl
    · rintro char _ other first ⟨_,rfl⟩
      simp at first
  · intro ended
    rw [List.getLast?_append_of_ne_nil _ (by simp)] at ended
    exact dotless '.' (List.mem_of_getLast? ended) rfl

theorem agentos_toList (branch : List Char) : ("agentos/" ++ String.ofList branch).toList = "agentos/".toList ++ branch :=
  String.toList_append.trans (congrArg _ String.toList_ofList)

theorem part_of_word (named : chars ≠ []) (word : ∀ char ∈ chars, char.isAlphanum = true) : Part chars := by
  have dotless : '.' ∉ chars := fun inside => absurd (word '.' inside) (by decide)
  refine part_of_unreserved named (fun head => dotless (List.mem_of_mem_head? head)) (fun locked => dotless (locked.subset (by simp)))
    (fun char inside => .inl (word char inside)) (fun twice => dotless (twice.subset (by simp)))
    fun last => dotless (List.mem_of_getLast? last)

theorem reference_agentos (branch : List Char) : reference ("agentos/" ++ String.ofList branch) =
    ['r','e','f','s','/','h','e','a','d','s','/','a','g','e','n','t','o','s','/'] ++ branch := by
  have start : "refs/heads/".toList ++ "agentos/".toList =
      ['r','e','f','s','/','h','e','a','d','s','/','a','g','e','n','t','o','s','/'] := rfl
  unfold reference
  rw [agentos_toList,← List.append_assoc,start]

theorem reference_part {branch : List Char} (part : Part branch) : WellFormed (reference ("agentos/" ++ String.ofList branch)) := by
  have joined : reference ("agentos/" ++ String.ofList branch) =
      ['/'].intercalate [['r','e','f','s'],['h','e','a','d','s'],['a','g','e','n','t','o','s'],branch] := by
    rw [reference_agentos]
    simp only [List.intercalate_cons_cons,List.intercalate_singleton,List.append_assoc]
    rfl
  rw [joined]
  refine wellFormed_joined (by simp) ?_
  simp only [List.forall_mem_cons,List.not_mem_nil,IsEmpty.forall_iff,implies_true,and_true]
  refine ⟨?_,?_,?_,part⟩
  all_goals exact part_of_word (by simp) (List.all_eq_true.mp (by decide))

/-! ### The GitHub publisher's branch -/

theorem dot_of_toLower (lower : char.toLower = '.') : char = '.' := by
  unfold Char.toLower at lower
  split at lower
  · rename_i upper
    have value := congrArg Char.val lower
    simp only [← UInt32.toNat_inj,UInt32.le_iff_toNat_le] at value upper
    have bound := upper.2
    simp_all
    omega
  · exact lower

def dashed (chars : List Char) : List Char :=
  (chars.splitBy fun left right => GitHub.slugChar left == GitHub.slugChar right).flatMap fun group =>
    if group.all GitHub.slugChar then group else ['-']

def stripped (chars : List Char) : List Char :=
  ((chars.dropWhile GitHub.edgeChar).reverse.dropWhile GitHub.edgeChar).reverse

theorem slug_eq (runId : String) : (GitHub.slug runId).toList = (stripped (dashed (runId.toList.map Char.toLower))).take 80 :=
  String.toList_ofList

theorem dashed_slugChar (inside : char ∈ dashed chars) : GitHub.slugChar char = true := by
  obtain ⟨group,_,within⟩ := List.mem_flatMap.mp inside
  split at within
  · rename_i every
    exact List.all_eq_true.mp every char within
  · obtain rfl := List.mem_singleton.mp within
    rfl

theorem dashed_undoubled (undoubled : chars.IsChain (Apart '.' '.')) : (dashed chars).IsChain (Apart '.' '.') := by
  unfold dashed
  rw [List.flatMap_def]
  have groups := undoubled
  rw [← List.flatten_splitBy (fun left right => GitHub.slugChar left == GitHub.slugChar right) chars,
    List.isChain_flatten (List.nil_notMem_splitBy _ _)] at groups
  rw [List.isChain_flatten]
  · refine ⟨?_,?_⟩
    · intro group inside
      obtain ⟨source,within,rfl⟩ := List.mem_map.mp inside
      split
      · exact groups.1 source within
      · exact List.isChain_singleton _
    · rw [List.isChain_map]
      refine groups.2.imp fun left right apart char last other first => ?_
      rintro ⟨rfl,rfl⟩
      split at last
      · split at first
        · exact apart '.' last '.' first ⟨rfl,rfl⟩
        · simp at first
      · simp at last
  · intro inside
    obtain ⟨group,within,empty⟩ := List.mem_map.mp inside
    split at empty
    · exact List.ne_nil_of_mem_splitBy within empty
    · cases empty

theorem stripped_starts (chars : List Char) : stripped chars <+: chars.dropWhile GitHub.edgeChar := by
  have inner := List.reverse_prefix.mpr (List.dropWhile_suffix GitHub.edgeChar (l := (chars.dropWhile GitHub.edgeChar).reverse))
  rwa [List.reverse_reverse] at inner

theorem stripped_head : (stripped chars).head? ≠ some '.' := by
  intro dotted
  obtain ⟨rest,whole⟩ := stripped_starts chars
  obtain ⟨tail,starts⟩ := List.head?_eq_some_iff.mp dotted
  have head := List.head?_dropWhile_not GitHub.edgeChar chars
  rw [← whole,starts] at head
  simp [GitHub.edgeChar] at head

theorem toList_tagged (name tag : List Char) :
    "agentos/" ++ String.ofList name ++ "-" ++ String.ofList tag = "agentos/" ++ String.ofList (name ++ '-'::tag) := by
  have joined : String.ofList name ++ "-" ++ String.ofList tag = String.ofList (name ++ '-'::tag) := by
    rw [show "-" = String.ofList ['-'] from rfl,← String.ofList_append,← String.ofList_append,List.append_assoc,
      List.singleton_append]
  rw [← joined,String.append_assoc,String.append_assoc,String.append_assoc]

def runName (runId : String) : List Char := if GitHub.slug runId = "" then ['r','u','n'] else (GitHub.slug runId).toList

theorem github_branch (crypto : Crypto) (runId : String) : GitHub.branchForRun crypto runId =
    "agentos/" ++ String.ofList (runName runId ++ '-'::(crypto.sha256 runId).toList.take 8) := by
  rw [← toList_tagged]
  unfold GitHub.branchForRun runName
  split
  · rfl
  · rw [String.ofList_toList]

theorem github_wellFormed (hashed : ∀ text, isDigest (crypto.sha256 text) = true)
    (undoubled : runId.toList.IsChain (Apart '.' '.')) : WellFormed (reference (GitHub.branchForRun crypto runId)) := by
  rw [github_branch]
  refine reference_part ?_
  unfold runName
  split
  · have letters : ∀ char ∈ ['r','u','n'], char.isAlphanum = true := List.all_eq_true.mp (by decide)
    have word : Part ['r','u','n'] := part_of_word (by simp) letters
    exact tagged_part (tag_of_digest (hashed runId)) word.visible (fun char inside => .inl (letters char inside))
      (unpaired_iff.mp word.single)
  · rw [slug_eq]
    have lowered : (runId.toList.map Char.toLower).IsChain (Apart '.' '.') := by
      rw [List.isChain_map]
      exact undoubled.imp fun left right apart both => apart ⟨dot_of_toLower both.1,dot_of_toLower both.2⟩
    have kept : stripped (dashed (runId.toList.map Char.toLower)) <:+: dashed (runId.toList.map Char.toLower) :=
      (stripped_starts _).isInfix.trans (List.dropWhile_suffix _).isInfix
    refine tagged_part (tag_of_digest (hashed runId)) ?_ ?_ ?_
    · rw [List.head?_take]
      simpa using stripped_head
    · intro char inside
      exact unreserved_of_slugChar (dashed_slugChar (kept.subset (List.mem_of_mem_take inside)))
    · exact (chain_within (dashed_undoubled lowered) kept).take 80

theorem github_hash_of_branch {other : String} (hashed : ∀ text, isDigest (crypto.sha256 text) = true)
    (same : GitHub.branchForRun crypto runId = GitHub.branchForRun crypto other) :
    (crypto.sha256 runId).toList.take 8 = (crypto.sha256 other).toList.take 8 := by
  rw [github_branch,github_branch] at same
  have chars := congrArg String.toList same
  rw [agentos_toList,agentos_toList] at chars
  have ends := List.append_inj_right' (List.append_cancel_left chars)
    (by simp [(tag_of_digest (hashed runId)).length,(tag_of_digest (hashed other)).length])
  exact List.tail_eq_of_cons_eq ends

/-! ### The local publisher's branch -/

theorem local_branch (runId digest : String) : LocalGit.branchForRun runId digest =
    "agentos/" ++ String.ofList (runId.toList ++ '-'::digest.toList.take 8) := by
  rw [← toList_tagged,String.ofList_toList]
  rfl

section
variable (identifier : isIdentifier runId = true)
include identifier

theorem identifier_chars (inside : char ∈ runId.toList) : char.isAlphanum = true ∨ char ∈ ['.','_',':','-'] := by
  unfold isIdentifier at identifier
  split at identifier
  · cases identifier
  · rename_i first rest chars
    rw [chars] at inside
    simp only [Bool.and_eq_true,decide_eq_true_eq,List.all_eq_true,Bool.or_eq_true] at identifier
    rcases List.mem_cons.mp inside with rfl | within
    · exact .inl identifier.1.1
    · exact identifier.2 char within

theorem identifier_head : runId.toList.head? ≠ some '.' := by
  unfold isIdentifier at identifier
  split at identifier
  · cases identifier
  · rename_i first rest chars
    rw [chars]
    rintro ⟨⟩
    simp at identifier

theorem local_wellFormed_iff (valid : isDigest digest = true) : WellFormed (reference (LocalGit.branchForRun runId digest)) ↔
      containsText ".." runId = false ∧ containsText ":" runId = false := by
  rw [local_branch,undoubled_iff,colonless_iff]
  constructor
  · intro formed
    have within : runId.toList <:+: reference ("agentos/" ++ String.ofList (runId.toList ++ '-'::digest.toList.take 8)) := by
      rw [reference_agentos]
      exact ((List.prefix_append _ _).isInfix).trans (List.suffix_append _ _).isInfix
    refine ⟨chain_within (unpaired_iff.mp formed.single) within,fun colon => ?_⟩
    exact (formed.allowed ':' (within.subset colon)).2.2 (by decide)
  · rintro ⟨undoubled,colonless⟩
    refine reference_part (tagged_part (tag_of_digest valid) (identifier_head identifier) ?_ undoubled)
    intro char inside
    refine (identifier_chars identifier inside).imp_right fun mark => ?_
    simp only [List.mem_cons,List.not_mem_nil,or_false] at mark ⊢
    rcases mark with dot | score | rfl | dash
    · exact .inl dot
    · exact .inr (.inl score)
    · exact absurd inside colonless
    · exact .inr (.inr dash)

end

theorem local_run_of_branch {other digest' : String} (valid : isDigest digest = true) (valid' : isDigest digest' = true)
    (same : LocalGit.branchForRun runId digest = LocalGit.branchForRun other digest') : runId = other := by
  rw [local_branch,local_branch] at same
  have chars := congrArg String.toList same
  rw [agentos_toList,agentos_toList] at chars
  have starts := List.append_inj_left' (List.append_cancel_left chars)
    (by simp [(tag_of_digest valid).length,(tag_of_digest valid').length])
  exact String.toList_injective starts

end

/-- Both branches of a run are references git takes exactly where its identifier has no two dots in a row and no
colon. Runs whose hashes begin differently have different branches on GitHub, and locally all runs have. -/
theorem branches_wellFormed_iff (crypto : Crypto) (hashed : ∀ text, isDigest (crypto.sha256 text) = true) :
    (∀ runId digest, isIdentifier runId = true → isDigest digest = true →
      (WellFormed (reference (GitHub.branchForRun crypto runId)) ∧ WellFormed (reference (LocalGit.branchForRun runId digest)) ↔
        containsText ".." runId = false ∧ containsText ":" runId = false)) ∧
    (∀ input parsed, parsePublicationManifest crypto input = .ok parsed →
      (WellFormed (reference (GitHub.branchForRun crypto parsed.manifest.runId)) ∧
          WellFormed (reference (LocalGit.branchForRun parsed.manifest.runId parsed.manifestDigest)) ↔
        containsText ".." parsed.manifest.runId = false ∧ containsText ":" parsed.manifest.runId = false)) ∧
    (∀ runIds : Set String, Set.InjOn (fun runId => (crypto.sha256 runId).toList.take 8) runIds →
      Set.InjOn (GitHub.branchForRun crypto) runIds) ∧ ∀ runId other digest digest', isDigest digest = true → isDigest digest' = true →
      LocalGit.branchForRun runId digest = LocalGit.branchForRun other digest' → runId = other := by
  have exact : ∀ runId digest, isIdentifier runId = true → isDigest digest = true →
      (WellFormed (reference (GitHub.branchForRun crypto runId)) ∧ WellFormed (reference (LocalGit.branchForRun runId digest)) ↔
        containsText ".." runId = false ∧ containsText ":" runId = false) := by
    intro runId digest identifier valid
    rw [local_wellFormed_iff identifier valid]
    exact and_iff_right_of_imp fun fits => github_wellFormed hashed (undoubled_iff.mp fits.1)
  refine ⟨exact,?_,?_,fun _ _ _ _ valid valid' same => local_run_of_branch valid valid' same⟩
  · intro input parsed ok
    obtain ⟨valid,_,_,rfl⟩ := parsePublicationManifest_ok ok
    refine exact _ _ ?_ (hashed _)
    simp only [PublicationManifestBody.valid,Bool.and_eq_true] at valid
    tauto
  · intro runIds distinct runId inside other inside' same
    exact distinct inside inside' (github_hash_of_branch hashed same)

theorem release_branches_wellFormed : WellFormed (reference (GitHub.branchForRun reportCrypto "release-1.2")) ∧
    WellFormed (reference (LocalGit.branchForRun "release-1.2" (repeated 'a'))) :=
  ((branches_wellFormed_iff reportCrypto isDigest_report).1 _ _ (by decide) (by decide)).mpr (by decide)

/-- A run named with two dots in a row has no branch git would make, with either publisher. -/
theorem doubled_dots_malformed : isIdentifier "v1..2" = true ∧ isDigest (repeated 'a') = true ∧
    ¬ WellFormed (reference (GitHub.branchForRun reportCrypto "v1..2")) ∧
    ¬ WellFormed (reference (LocalGit.branchForRun "v1..2" (repeated 'a'))) :=
  ⟨by decide,by decide,fun formed => formed.single (by decide),fun formed => formed.single (by decide)⟩

end AgentOS.Publication
