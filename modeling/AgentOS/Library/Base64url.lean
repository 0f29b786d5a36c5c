import Mathlib.Data.List.Basic

/-! Bytes as texts in the alphabet of base64url, without padding: three bytes are four letters of six bits. -/
namespace Library.Base64url

def ALPHABET : List Char := "ABCDEFGHIJKLMNOPQRSTUVWXYZabcdefghijklmnopqrstuvwxyz0123456789-_".toList

def letter (sextet : Nat) : Char := ALPHABET[sextet]?.getD 'A'

def sextet (char : Char) : Nat := ALPHABET.idxOf char

def encode : List UInt8 → List Char
  | first::second::third::rest =>
    letter (first.toNat / 4)::letter (first.toNat % 4 * 16 + second.toNat / 16)::
      letter (second.toNat % 16 * 4 + third.toNat / 64)::letter (third.toNat % 64)::encode rest
  | [first,second] =>
    [letter (first.toNat / 4),letter (first.toNat % 4 * 16 + second.toNat / 16),letter (second.toNat % 16 * 4)]
  | [first] => [letter (first.toNat / 4),letter (first.toNat % 4 * 16)]
  | [] => []

/-- A last letter on its own holds no byte, and bits that fill no byte are dropped. -/
def decode : List Char → List UInt8
  | first::second::third::fourth::rest =>
    UInt8.ofNat (sextet first * 4 + sextet second / 16)::UInt8.ofNat (sextet second % 16 * 16 + sextet third / 4)::
      UInt8.ofNat (sextet third % 4 * 64 + sextet fourth)::decode rest
  | [first,second,third] =>
    [UInt8.ofNat (sextet first * 4 + sextet second / 16),UInt8.ofNat (sextet second % 16 * 16 + sextet third / 4)]
  | [first,second] => [UInt8.ofNat (sextet first * 4 + sextet second / 16)]
  | _ => []

theorem sextet_of_letter : ∀ number : Fin 64, sextet (letter number.val) = number.val := by
  decide

theorem sextet_letter {number : Nat} (small : number < 64) : sextet (letter number) = number := sextet_of_letter ⟨number,small⟩

theorem letter_mem (number : Nat) : letter number ∈ ALPHABET := by
  unfold letter
  cases found : ALPHABET[number]? with
  | none => decide
  | some char => exact List.mem_of_getElem? found

theorem byte_of {byte : UInt8} {number : Nat} (same : number = byte.toNat) : UInt8.ofNat number = byte := by
  rw [same]
  exact UInt8.ofNat_toNat

theorem decode_encode (bytes : List UInt8) : decode (encode bytes) = bytes := by
  induction bytes using encode.induct with
  | case1 first second third rest ih =>
    have low := first.toNat_lt
    have middle := second.toNat_lt
    have high := third.toNat_lt
    rw [encode,decode,ih,sextet_letter (by omega),sextet_letter (by omega),sextet_letter (by omega),sextet_letter (by omega),
      @byte_of first _ (by omega),@byte_of second _ (by omega),@byte_of third _ (by omega)]
  | case2 first second =>
    have low := first.toNat_lt
    have middle := second.toNat_lt
    rw [encode,decode,sextet_letter (by omega),sextet_letter (by omega),sextet_letter (by omega),@byte_of first _ (by omega),
      @byte_of second _ (by omega)]
  | case3 first =>
    have low := first.toNat_lt
    rw [encode,decode,sextet_letter (by omega),sextet_letter (by omega),@byte_of first _ (by omega)]
  | case4 => rfl

theorem encode_letters (bytes : List UInt8) : ∀ char ∈ encode bytes, char ∈ ALPHABET := by
  induction bytes using encode.induct with
  | case1 first second third rest ih =>
    rw [encode]
    simp only [List.forall_mem_cons]
    exact ⟨letter_mem _,letter_mem _,letter_mem _,letter_mem _,ih⟩
  | case2 first second =>
    rw [encode]
    simp only [List.forall_mem_cons]
    exact ⟨letter_mem _,letter_mem _,letter_mem _,List.forall_mem_nil _⟩
  | case3 first =>
    rw [encode]
    simp only [List.forall_mem_cons]
    exact ⟨letter_mem _,letter_mem _,List.forall_mem_nil _⟩
  | case4 => exact List.forall_mem_nil _

theorem encode_length (bytes : List UInt8) : (encode bytes).length = (4 * bytes.length + 2) / 3 := by
  induction bytes using encode.induct with
  | case1 first second third rest ih =>
    rw [encode]
    simp only [List.length_cons,ih]
    omega
  | case2 first second => simp [encode]
  | case3 first => simp [encode]
  | case4 => rfl

theorem encode_ne_nil {bytes : List UInt8} (some_ : bytes ≠ []) : encode bytes ≠ [] := by
  have length := encode_length bytes
  have positive := List.length_pos_of_ne_nil some_
  intro empty
  rw [empty,List.length_nil] at length
  omega

end Library.Base64url
