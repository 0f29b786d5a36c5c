import AgentOS.Artifacts.Keys
import AgentOS.JsonSizes
import AgentOS.Library.Base64url

/-! Signed texts: what kind they are, which key signed them, what is signed and its code, with dots between.
Cursors and capabilities are of this form. -/
namespace AgentOS.Artifacts.Tokens
open Library

inductive KeySecret where
  | text (value : String)
  | bytes (value : List UInt8)

structure SigningKey where
  keyId : String
  secret : KeySecret

def utf8 (text : String) : List UInt8 := text.toUTF8.data.toList

def KeySecret.read : KeySecret → List UInt8
  | .text value => utf8 value
  | .bytes value => value

abbrev Hmac : Type := List UInt8 → List UInt8 → Vector UInt8 32

variable (bytes : List UInt8)

def base64url : String := String.ofList (Base64url.encode bytes)

def decodePart (value : String) : Option (List UInt8) :=
  if value.toList = [] ∨ ¬ value.toList.all (Base64url.ALPHABET.contains ·) then none
  else
    let bytes := Base64url.decode value.toList
    if base64url bytes ≠ value then none else some bytes

/-- A decoder that refuses what is no UTF-8, and drops a byte order mark. -/
def decodeText : Option String :=
  (String.fromUTF8? ⟨bytes.toArray⟩).map fun text => match text.toList with
    | '\uFEFF'::chars => String.ofList chars
    | _ => text

structure TokenKind where
  tag : String
  domain : String

variable (kind : TokenKind) (hmac : Hmac)

def TokenKind.signature (secret : List UInt8) (signed : String) : List UInt8 := (hmac secret (utf8 (kind.domain ++ signed))).toList

def TokenKind.signed (keyId encoded : String) : String := kind.tag ++ "." ++ keyId ++ "." ++ encoded

def TokenKind.token (keyId : String) (secret : List UInt8) (payload : String) : String :=
  let signed := kind.signed keyId (base64url (utf8 payload))
  signed ++ "." ++ base64url (kind.signature hmac secret signed)

/-- The part that is signed, still encoded, of a text that one of the keys signed. -/
def TokenKind.accept (secretOf : String → Option (List UInt8)) (token : String) : Option String :=
  match (token.toList.splitOn '.').map String.ofList with
  | [tag,keyId,encoded,code] =>
    if tag ≠ kind.tag then none
    else
      secretOf keyId >>= fun secret =>
      decodePart code >>= fun supplied =>
      if supplied ≠ kind.signature hmac secret (kind.signed keyId encoded) then none else some encoded
  | _ => none

/-! ### Parts -/

theorem utf8_length (text : String) : (utf8 text).length = byteLength text := rfl

theorem utf8_ne_nil {text : String} (some_ : text.toList.head? ≠ none) : utf8 text ≠ [] := by
  intro empty
  have length := congrArg List.length empty
  rw [utf8_length,Json.byteLength_chars] at length
  cases chars : text.toList with
  | nil =>
    rw [chars] at some_
    exact some_ rfl
  | cons char rest =>
    have positive := char.utf8Size_pos
    rw [chars,List.map_cons,List.sum_cons,List.length_nil] at length
    omega

theorem decodePart_base64url {bytes : List UInt8} (some_ : bytes ≠ []) : decodePart (base64url bytes) = some bytes := by
  have letters : (Base64url.encode bytes).all (Base64url.ALPHABET.contains ·) = true := by
    apply List.all_eq_true.mpr
    intro char inside
    exact List.contains_iff_mem.mpr (Base64url.encode_letters bytes char inside)
  have canonical : ¬ (Base64url.encode bytes = [] ∨ ¬ (Base64url.encode bytes).all (Base64url.ALPHABET.contains ·)) :=
    not_or.mpr ⟨Base64url.encode_ne_nil some_,not_not.mpr letters⟩
  unfold decodePart base64url
  rw [String.toList_ofList,if_neg canonical,Base64url.decode_encode]
  exact if_neg (not_not.mpr rfl)

theorem fromUTF8_utf8 (text : String) : String.fromUTF8? ⟨(utf8 text).toArray⟩ = some text := by
  have valid : ByteArray.IsValidUTF8 ⟨text.toUTF8.data⟩ := text.isValidUTF8
  unfold utf8 String.fromUTF8?
  rw [Array.toArray_toList,dif_pos valid]
  rfl

theorem decodeText_utf8 {text : String} (marked : text.toList.head? ≠ some '\uFEFF') : decodeText (utf8 text) = some text := by
  unfold decodeText
  rw [fromUTF8_utf8,Option.map_some]
  split
  · rename_i chars
    rw [chars] at marked
    exact absurd rfl marked
  · rfl

theorem base64url_plain : '.' ∉ (base64url bytes).toList := by
  intro inside
  unfold base64url at inside
  rw [String.toList_ofList] at inside
  exact absurd (Base64url.encode_letters bytes _ inside) (by decide)

/-! ### Tokens -/

variable {kind hmac} {keyId payload : String} {secret : List UInt8} {secretOf : String → Option (List UInt8)}

theorem token_toList : (kind.token hmac keyId secret payload).toList = kind.tag.toList ++ '.'::(keyId.toList ++
    '.'::((base64url (utf8 payload)).toList ++ '.'::(base64url (kind.signature hmac secret
      (kind.signed keyId (base64url (utf8 payload))))).toList)) := by
  have dot : (".":String).toList = ['.'] := rfl
  unfold TokenKind.token
  dsimp only
  rw [String.toList_append,String.toList_append,dot]
  conv => left; left; left; unfold TokenKind.signed
  simp only [String.toList_append,dot,List.append_assoc,List.cons_append,List.nil_append]

section
variable (tagged : '.' ∉ kind.tag.toList) (named : '.' ∉ keyId.toList)
include tagged named

theorem token_parts : ((kind.token hmac keyId secret payload).toList.splitOn '.').map String.ofList =
      [kind.tag,keyId,base64url (utf8 payload),
        base64url (kind.signature hmac secret (kind.signed keyId (base64url (utf8 payload))))] := by
  rw [token_toList,List.splitOn_append_cons_self_of_not_mem tagged,List.splitOn_append_cons_self_of_not_mem named,
    List.splitOn_append_cons_self_of_not_mem (base64url_plain _),List.splitOn_eq_singleton (base64url_plain _)]
  simp only [List.map_cons,List.map_nil,String.ofList_toList]

theorem accept_token (known : secretOf keyId = some secret) :
    kind.accept hmac secretOf (kind.token hmac keyId secret payload) = some (base64url (utf8 payload)) := by
  have signed : kind.signature hmac secret (kind.signed keyId (base64url (utf8 payload))) ≠ [] := by
    intro empty
    have length := congrArg List.length empty
    unfold TokenKind.signature at length
    rw [Vector.length_toList] at length
    cases length
  unfold TokenKind.accept
  rw [token_parts tagged named]
  dsimp only
  rw [if_neg (not_not.mpr rfl),known,decodePart_base64url signed]
  exact if_neg (not_not.mpr rfl)

end

theorem accept_dotted (dotted : '.' ∈ keyId.toList) : kind.accept hmac secretOf (kind.token hmac keyId secret payload) = none := by
  obtain ⟨before,after_,split⟩ := List.append_of_mem dotted
  have parts (chars : List Char) : 0 < (chars.splitOn '.').length := List.length_pos_of_ne_nil (List.splitOn_ne_nil _ _)
  have many : 4 < (((kind.token hmac keyId secret payload).toList.splitOn '.').map String.ofList).length := by
    rw [token_toList,split,List.append_assoc,List.cons_append,List.splitOn_append_cons_self,List.splitOn_append_cons_self,
      List.splitOn_append_cons_self,List.splitOn_append_cons_self]
    simp only [List.length_map,List.length_append]
    have first := parts kind.tag.toList
    have second := parts before
    have third := parts after_
    have fourth := parts (base64url (utf8 payload)).toList
    have fifth := parts (base64url (kind.signature hmac secret (kind.signed keyId (base64url (utf8 payload))))).toList
    omega
  unfold TokenKind.accept
  split
  · rename_i four
    rw [four] at many
    exact absurd many (by simp)
  · rfl

/-! ### Sizes -/

theorem base64url_length : utf16Length (base64url bytes) = (4 * bytes.length + 2) / 3 := by
  have letters : Base64url.ALPHABET.all (fun char => decide (char.val < 65536)) = true := by decide
  rw [utf16Length_plain]
  · rw [base64url,String.toList_ofList,Base64url.encode_length]
  · intro char inside
    rw [base64url,String.toList_ofList] at inside
    exact of_decide_eq_true (List.all_eq_true.mp letters char (Base64url.encode_letters bytes char inside))

theorem token_length : utf16Length (kind.token hmac keyId secret payload) =
    utf16Length kind.tag + utf16Length keyId + (4 * byteLength payload + 2) / 3 + 46 := by
  have dot : utf16Length "." = 1 := by decide
  have code : (kind.signature hmac secret (kind.signed keyId (base64url (utf8 payload)))).length = 32 := Vector.length_toList
  unfold TokenKind.token
  dsimp only
  rw [utf16Length_append,utf16Length_append,base64url_length,code,dot]
  unfold TokenKind.signed
  rw [utf16Length_append,utf16Length_append,utf16Length_append,utf16Length_append,base64url_length,utf8_length,dot]
  omega

end AgentOS.Artifacts.Tokens
