import AgentOS.Stringify
import AgentOS.Library.OrderedMap

/-! Which events a reducer has processed. An event that comes again with the same content is a
duplicate, as long as its identifier is among the last that were processed. -/
namespace AgentOS.Reducers
open Library

def reasonField : Option String → List (String × Json)
  | none => []
  | some reason => [("reason",.str reason)]

def EVENT_DEDUPE_WINDOW : Nat := 256

def idChar (char : Char) : Bool := char.isAlphanum || char = '.' || char = '_' || char = ':' || char = '-'

/-- Matches `[A-Za-z0-9][A-Za-z0-9._:-]{0,127}`. -/
def isEventId (id : String) : Bool :=
  match id.toList with
  | [] => false
  | first::rest => first.isAlphanum && rest.length ≤ 127 && rest.all idChar

structure Processed where
  ids : List String
  fingerprints : OrderedMap String String

namespace Processed

def none : Processed := ⟨[],.empty⟩

def isDuplicateEvent (processed : Processed) (id fingerprint : String) : Except String Bool :=
  match processed.fingerprints.get? id with
  | some known =>
    if known ≠ fingerprint then .error ("Event ID " ++ id ++ " was reused with different type or payload") else .ok true
  | .none => .ok (processed.ids.contains id)

/-- Drops the oldest identifiers, and their fingerprints, while there are too many. -/
def expire : List String → OrderedMap String String → Processed
  | [], fingerprints => ⟨[],fingerprints⟩
  | id::ids, fingerprints =>
    if (id::ids).length > EVENT_DEDUPE_WINDOW then expire ids (fingerprints.erase id) else ⟨id::ids,fingerprints⟩

def recordProcessedEvent (processed : Processed) (id fingerprint : String) : Processed :=
  expire (processed.ids ++ [id]) (processed.fingerprints.set id fingerprint)

end Processed

def eventFingerprint (sha256 : String → String) (id : String) (event : Json) : Except String String :=
  if isEventId id then .ok (sha256 (canonicalJsonValue event))
  else .error "Event ID must be non-empty and contain only safe identifier characters"

end AgentOS.Reducers
