import AgentOS.Library.Url
import Mathlib.Data.String.Basic

/-! Where a login sends its visitor back to: the location asked for is read
once by the filter, and what the filter returns is read again by the route. -/
namespace AgentOS.Auth
open Library Url

/-- The two kinds of public URLs. -/
inductive Scheme where
  | http
  | https
  deriving DecidableEq

structure Origin where
  scheme : Scheme
  host : String
  port : Option Nat
  deriving DecidableEq

/-- What the parser of hosts reads in the text between the slashes and the path, with any credentials and port. -/
abbrev Hosts : Type := Scheme → List Char → Option (String × Option Nat)

def Hosts.origin (hosts : Hosts) (base : Origin) (text : List Char) : Option Origin :=
  (hosts base.scheme text).map fun found => {base with host := found.1,port := found.2}

def localOrigin : Origin := {scheme := .https,host := "local.invalid",port := none}

variable (hosts : Hosts)

/-- `new URL(value,base)` for a value that begins with a slash. -/
def newUrl (value : String) (base : Origin) : Option (Location Origin) := resolve hosts.origin base value.toList

/-- A value that is missing, or null, is none. -/
def sanitizeReturnTo (value : Option String) : String :=
  match value with
  | none => "/"
  | some value =>
    if ¬ ['/'] <+: value.toList ∨ ['/','/'] <+: value.toList then "/"
    else match newUrl hosts value localOrigin with
      | none => "/"
      | some url => if url.origin = localOrigin then String.ofList url.written else "/"

/-- Where the local login route redirects to. -/
def localLogin (publicUrl : Origin) (returnTo : Option String) : Option (Location Origin) :=
  newUrl hosts (sanitizeReturnTo hosts returnTo) publicUrl

/-- Where the callback redirects to: the state of the request for authorization holds what was sanitized then. -/
def callback (publicUrl : Origin) (requested : Option String) : Option (Location Origin) :=
  newUrl hosts (sanitizeReturnTo hosts (some (sanitizeReturnTo hosts requested))) publicUrl

/-- The value is let through, and is read as a path of the local origin. -/
def Accepted (value : Option String) (url : Location Origin) : Prop :=
  ∃ text, value = some text ∧ ['/'] <+: text.toList ∧ ¬ ['/','/'] <+: text.toList ∧
    newUrl hosts text localOrigin = some url ∧ url.origin = localOrigin

structure StaysHome (value : Option String) : Prop where
  login : ∀ publicUrl, ∃ url, localLogin hosts publicUrl value = some url ∧ url.origin = publicUrl
  callback : ∀ publicUrl, ∃ url, callback hosts publicUrl value = some url ∧ url.origin = publicUrl
  again : sanitizeReturnTo hosts (some (sanitizeReturnTo hosts value)) = sanitizeReturnTo hosts value

section
variable {hosts} {value : Option String} {url : Location Origin}

theorem sanitizeReturnTo_accepted (accepted : Accepted hosts value url) : sanitizeReturnTo hosts value = String.ofList url.written := by
  obtain ⟨text,rfl,slash,single,read,home⟩ := accepted
  unfold sanitizeReturnTo
  dsimp only
  rw [if_neg (not_or.mpr ⟨not_not.mpr slash,single⟩),read]
  exact if_pos home

theorem sanitizeReturnTo_refused (refused : ∀ url, ¬ Accepted hosts value url) : sanitizeReturnTo hosts value = "/" := by
  unfold sanitizeReturnTo
  split
  · rfl
  · rename_i text
    split
    · rfl
    · rename_i fine
      obtain ⟨slash,single⟩ := not_or.mp fine
      split
      · rfl
      · rename_i url read
        exact if_neg fun home => refused url ⟨text,rfl,not_not.mp slash,single,read,home⟩

theorem accepted_normal (accepted : Accepted hosts value url) : Normal url := by
  obtain ⟨text,rfl,-,-,read,-⟩ := accepted
  unfold newUrl resolve afterSlash at read
  split at read
  · split at read
    · obtain ⟨_,-,rfl⟩ := Option.map_eq_some_iff.mp read
      exact normal_locate _ _
    · exact Option.some.inj read ▸ normal_locate _ _
  · cases read

theorem part_filter (mark : Char) (text : Option (List Char)) : part mark (text.filter (· ≠ [])) = part mark text := by
  match text with
  | none => rfl
  | some [] => rfl
  | some (_::_) => rfl

/-- What is written of a path that does not begin like a host is read as a path of any origin. -/
theorem newUrl_written (normal : Normal url) (single : ¬ Doubled url) (base : Origin) :
    ∃ again, newUrl hosts (String.ofList url.written) base = some again ∧ again.origin = base ∧ again.written = url.written := by
  refine ⟨⟨base,url.path,url.query.filter (· ≠ []),url.fragment.filter (· ≠ [])⟩,?_,rfl,?_⟩
  · unfold newUrl
    rw [String.toList_ofList]
    exact resolve_written hosts.origin base normal single
  · rw [Location.written,Location.written,Location.search,Location.hash,part_filter,part_filter]
    rfl

theorem accepted_written (normal : Normal url) (single : ¬ Doubled url) :
    ∃ again, Accepted hosts (some (String.ofList url.written)) again ∧ again.written = url.written := by
  obtain ⟨again,read,home,same⟩ := @newUrl_written hosts url normal single localOrigin
  obtain ⟨text,written,local_,-⟩ := written_local normal single
  refine ⟨again,⟨_,rfl,?_,?_,read,home⟩,same⟩
  · rw [String.toList_ofList,written]
    exact ⟨text,rfl⟩
  · rw [String.toList_ofList,written]
    rintro ⟨rest,begins⟩
    obtain rfl := (List.cons.inj begins).2
    cases local_

/-- What is returned in place of a refused value is the root. -/
theorem root_written : ∃ root : Location Origin, Normal root ∧ ¬ Doubled root ∧ String.ofList root.written = "/" :=
  ⟨⟨localOrigin,[[]],none,none⟩,⟨by simp,by simp [Plain]; decide,by simp,by simp,by simp⟩,by unfold Doubled; decide,by decide⟩

theorem staysHome_of (normal : Normal url) (single : ¬ Doubled url) (sanitized : sanitizeReturnTo hosts value = String.ofList url.written) :
    StaysHome hosts value := by
  obtain ⟨again,accepted,same⟩ := @accepted_written hosts url normal single
  have fixed : sanitizeReturnTo hosts (some (sanitizeReturnTo hosts value)) = sanitizeReturnTo hosts value := by
    rw [sanitized,sanitizeReturnTo_accepted accepted,same]
  have lands (publicUrl : Origin) : ∃ url, newUrl hosts (sanitizeReturnTo hosts value) publicUrl = some url ∧ url.origin = publicUrl := by
    obtain ⟨found,read,home,-⟩ := @newUrl_written hosts url normal single publicUrl
    exact ⟨found,sanitized ▸ read,home⟩
  refine ⟨lands,fun publicUrl => ?_,fixed⟩
  unfold callback
  rw [fixed]
  exact lands publicUrl

theorem returnTo_iff (value : Option String) : StaysHome hosts value ↔ ∀ url, Accepted hosts value url → ¬ Doubled url := by
  constructor
  · rintro ⟨-,-,again⟩ url accepted ⟨rest,doubled⟩
    have slashes : ['/','/'] <+: url.written := ⟨rest ++ url.search ++ url.hash,by rw [Location.written,← doubled]; simp⟩
    have refused : sanitizeReturnTo hosts (some (String.ofList url.written)) = "/" :=
      if_pos (.inr (by rwa [String.toList_ofList]))
    rw [sanitizeReturnTo_accepted accepted,refused] at again
    have longer := slashes.length_le
    rw [← String.toList_ofList (l := url.written),← again] at longer
    exact absurd longer (by decide)
  · intro single
    by_cases accepts : ∃ url, Accepted hosts value url
    · obtain ⟨url,accepted⟩ := accepts
      exact staysHome_of (accepted_normal accepted) (single url accepted) (sanitizeReturnTo_accepted accepted)
    · obtain ⟨root,normal,rooted,written⟩ := root_written
      exact staysHome_of normal rooted ((sanitizeReturnTo_refused (not_exists.mp accepts)).trans written.symm)

end

/-- Reads any text as the name of a host. -/
def anyHost : Hosts := fun _ text => some (String.ofList text,none)

theorem dotted_host_leaves : ¬ StaysHome anyHost (some "/.//evil.com") ∧
    (localLogin anyHost {scheme := .https,host := "control.example",port := none} (some "/.//evil.com")).map (·.origin.host) =
      some "evil.com" :=
  ⟨fun stays => absurd stays.again (by decide +kernel),by decide +kernel⟩

end AgentOS.Auth
