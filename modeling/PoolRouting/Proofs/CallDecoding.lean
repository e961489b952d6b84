import PoolRouting.Transaction.CallData

/-!
Call data can be read back. Each layer of the encoding has a reader that undoes it: digits, bytes,
numbers, names, and the cut at the separator. No digit is the separator, so the arguments of a call
come out as they went in, whatever they hold.
-/

namespace PoolRouting
namespace Text

theorem hex_digit_value : ∀ value < 16, hexDigitValue? (hexDigit value) = some value := by decide

theorem bytes_of_hex_chars (bytes : List UInt8) : bytesOfHex? (hexChars bytes) = some bytes := by
  induction bytes with
  | nil => rfl
  | cons byte rest ih =>
    have small : byte.toNat < 256 := byte.toNat_lt
    have high := hex_digit_value (byte.toNat / 16) (by omega)
    have low := hex_digit_value (byte.toNat % 16) (by omega)
    have whole : byte.toNat / 16 * 16 + byte.toNat % 16 = byte.toNat := by omega
    simp [hexChars, bytesOfHex?, high, low, ih, whole]

theorem nat_of_bytes_append (front : List UInt8) (last : UInt8) :
    natOfBytes (front ++ [last]) = natOfBytes front * 256 + last.toNat := by
  simp [natOfBytes]

-- The recursion of the writer takes the last byte off, which is the last one the reader adds.
theorem nat_of_nat_bytes (value : Nat) : natOfBytes (natBytes value) = value := by
  induction value using natBytes.induct with
  | case1 =>
    rw [natBytes, if_pos rfl]
    rfl
  | case2 value nonzero ih =>
    have last : (UInt8.ofNat (value % 256)).toNat = value % 256 :=
      UInt8.toNat_ofNat_of_lt (Nat.mod_lt _ (by decide))
    rw [natBytes, if_neg nonzero, nat_of_bytes_append, ih, last]
    omega

/-- Reads a text in UTF-8. -/
def ofUtf8? (bytes : List UInt8) : Option String := String.fromUTF8? ⟨bytes.toArray⟩

theorem of_utf8_utf8 (text : String) : ofUtf8? (utf8 text) = some text := by
  change String.fromUTF8? text.toByteArray = some text
  rw [String.fromUTF8?, dif_pos text.isValidUTF8]
  rfl

theorem split_ne_nil (separator : Char) (text : List Char) : split separator text ≠ [] := by
  cases text with
  | nil => simp [split]
  | cons first rest =>
    rw [split]
    split
    · simp
    · split <;> simp

theorem split_plain {separator : Char} {part : List Char} (plain : separator ∉ part) :
    split separator part = [part] := by
  induction part with
  | nil => rfl
  | cons first rest ih =>
    have different : separator ≠ first := List.ne_of_not_mem_cons plain
    rw [split, ih (List.not_mem_of_not_mem_cons plain)]
    exact if_neg (Ne.symm different)

theorem split_append {separator : Char} {part : List Char} (plain : separator ∉ part)
    (rest : List Char) :
    split separator (part ++ separator :: rest) = part :: split separator rest := by
  induction part with
  | nil =>
    obtain ⟨next, later, same⟩ := List.exists_cons_of_ne_nil (split_ne_nil separator rest)
    rw [List.nil_append, split, same]
    exact if_pos rfl
  | cons first front ih =>
    have different : separator ≠ first := List.ne_of_not_mem_cons plain
    rw [List.cons_append, split, ih (List.not_mem_of_not_mem_cons plain)]
    exact if_neg (Ne.symm different)

theorem hex_digit_plain : ∀ value < 16, hexDigit value ≠ '@' := by decide

theorem separator_not_mem_hex_chars (bytes : List UInt8) : '@' ∉ hexChars bytes := by
  induction bytes with
  | nil => simp [hexChars]
  | cons byte rest ih =>
    have small : byte.toNat < 256 := byte.toNat_lt
    have high := hex_digit_plain (byte.toNat / 16) (by omega)
    have low := hex_digit_plain (byte.toNat % 16) (by omega)
    simp [hexChars, high.symm, low.symm, ih]

end Text

namespace Call

theorem split_chars (function : List Char) (plain : separator ∉ function)
    (arguments : List (List UInt8)) :
    Text.split separator
        (function ++ arguments.flatMap fun bytes => separator :: Text.hexChars bytes) =
      function :: arguments.map Text.hexChars := by
  induction arguments generalizing function with
  | nil =>
    rw [List.flatMap_nil, List.append_nil]
    exact Text.split_plain plain
  | cons bytes rest ih =>
    rw [List.flatMap_cons, List.cons_append, Text.split_append plain,
      ih (Text.hexChars bytes) (Text.separator_not_mem_hex_chars bytes), List.map_cons]

theorem arguments_of_hex_chars (arguments : List (List UInt8)) :
    (arguments.map Text.hexChars).mapM Text.bytesOfHex? = some arguments := by
  induction arguments with
  | nil => rfl
  | cons bytes rest ih => simp [List.mapM_cons, Text.bytes_of_hex_chars, ih]

/-- A call whose function has no separator in its name is read back from its data. -/
theorem of_chars_chars (call : Call) (plain : separator ∉ call.function.toList) :
    ofChars? call.chars = some call := by
  rw [ofChars?, chars, split_chars call.function.toList plain]
  dsimp only
  rw [arguments_of_hex_chars, Option.map_some, String.ofList_toList]

end Call
end PoolRouting
