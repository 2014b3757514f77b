import PromptBook.Text.Blank
import Mathlib.Data.List.Basic

/-!
# Texts in UTF-8

A character takes one to four bytes.  An ASCII character is one byte, the same as its code, and no
byte of any other character is an ASCII byte.

**Results.**
* `toByteArray_bytes`: the bytes of a text are those of the string.
* `eq_of_mem_encode`: an ASCII byte stands for its own character only.
* `slice_append`: what stands between two offsets that fall between characters.
-/

namespace PromptBook
namespace Text

variable {c : Char}

/-- The text in UTF-8. -/
def bytes (cs : List Char) : List UInt8 :=
  cs.flatMap String.utf8EncodeChar

/-- How many bytes a text takes in UTF-8. -/
def size (cs : List Char) : Nat :=
  (bytes cs).length

theorem toByteArray_bytes (cs : List Char) :
    (bytes cs).toByteArray = (String.ofList cs).toByteArray :=
  String.toByteArray_ofList.symm

theorem bytes_append (a b : List Char) : bytes (a ++ b) = bytes a ++ bytes b :=
  List.flatMap_append

theorem bytes_cons (c : Char) (cs : List Char) :
    bytes (c :: cs) = String.utf8EncodeChar c ++ bytes cs :=
  List.flatMap_cons

theorem size_append (a b : List Char) : size (a ++ b) = size a + size b := by
  rw [size, bytes_append, List.length_append]
  rfl

theorem size_cons (c : Char) (cs : List Char) : size (c :: cs) = c.utf8Size + size cs := by
  rw [size, bytes_cons, List.length_append, String.length_utf8EncodeChar]
  rfl

section Characters

/-- An ASCII byte stands for its own character only. -/
theorem eq_of_mem_encode {b : UInt8} (hb : b.toNat < 128) (h : b ∈ String.utf8EncodeChar c) :
    c.toNat = b.toNat := by
  have hlarge : ∀ n, 128 ≤ n → n < 256 → b ≠ UInt8.ofNat n := by
    rintro n hle hlt rfl
    rw [UInt8.toNat_ofNat_of_lt' hlt] at hb
    omega
  have hval : c.val.toNat = c.toNat := rfl
  simp only [String.utf8EncodeChar, hval] at h
  split at h
  · rename_i hone
    obtain rfl := List.mem_singleton.mp h
    exact (UInt8.toNat_ofNat_of_lt' (Nat.lt_of_le_of_lt hone (by decide))).symm
  · -- No byte of a longer character is below 128.
    exfalso
    split at h
    · simp only [List.mem_cons, List.not_mem_nil, or_false] at h
      rcases h with h | h <;> exact hlarge _ (by omega) (by omega) h
    · split at h
      · simp only [List.mem_cons, List.not_mem_nil, or_false] at h
        rcases h with h | h | h <;> exact hlarge _ (by omega) (by omega) h
      · simp only [List.mem_cons, List.not_mem_nil, or_false] at h
        rcases h with h | h | h | h <;> exact hlarge _ (by omega) (by omega) h

/-- A text whose bytes begin with the byte of an ASCII character begins with that character. -/
theorem exists_of_head?_bytes {cs : List Char} (hc : c.toNat < 128)
    (h : (bytes cs).head? = some (UInt8.ofNat c.toNat)) : ∃ tail, cs = c :: tail := by
  cases cs with
  | nil =>
      cases h
  | cons d tail =>
      have hbyte : (UInt8.ofNat c.toNat).toNat = c.toNat :=
        UInt8.toNat_ofNat_of_lt' (Nat.lt_of_lt_of_le hc (by decide))
      rw [bytes_cons, List.head?_append_of_ne_nil _ (String.utf8EncodeChar_ne_nil)] at h
      have hcode := eq_of_mem_encode (by rw [hbyte]; exact hc) (List.mem_of_head? h)
      rw [hbyte] at hcode
      exact ⟨tail, by rw [Char.toNat_inj.mp hcode]⟩

end Characters

section Slices

variable {n : Nat}

/-- The characters of a text that begin at an offset or after it. -/
def dropBytes : Nat → List Char → List Char
  | 0, cs => cs
  | _ + 1, [] => []
  | n + 1, c :: cs => dropBytes (n + 1 - c.utf8Size) cs

/-- The characters of a text that begin before an offset. -/
def takeBytes : Nat → List Char → List Char
  | 0, _ => []
  | _ + 1, [] => []
  | n + 1, c :: cs => c :: takeBytes (n + 1 - c.utf8Size) cs

/-- What stands in a text between two offsets. -/
def slice (start stop : Nat) (cs : List Char) : List Char :=
  takeBytes (stop - start) (dropBytes start cs)

theorem dropBytes_cons (hn : 0 < n) (c : Char) (cs : List Char) :
    dropBytes n (c :: cs) = dropBytes (n - c.utf8Size) cs := by
  cases n with
  | zero => cases hn
  | succ n => rfl

theorem takeBytes_cons (hn : 0 < n) (c : Char) (cs : List Char) :
    takeBytes n (c :: cs) = c :: takeBytes (n - c.utf8Size) cs := by
  cases n with
  | zero => cases hn
  | succ n => rfl

theorem dropBytes_append (front back : List Char) :
    dropBytes (size front) (front ++ back) = back := by
  induction front with
  | nil =>
      cases back <;> rfl
  | cons c front ih =>
      have hpos := c.utf8Size_pos
      rw [size_cons, List.cons_append, dropBytes_cons (by omega), Nat.add_sub_cancel_left, ih]

theorem takeBytes_append (front back : List Char) :
    takeBytes (size front) (front ++ back) = front := by
  induction front with
  | nil =>
      cases back <;> rfl
  | cons c front ih =>
      have hpos := c.utf8Size_pos
      rw [size_cons, List.cons_append, takeBytes_cons (by omega), Nat.add_sub_cancel_left, ih]

/-- A part of a text stands between the offsets at which it begins and ends. -/
theorem slice_append (before middle after : List Char) :
    slice (size before) (size before + size middle) (before ++ (middle ++ after)) = middle := by
  rw [slice, dropBytes_append, Nat.add_sub_cancel_left, takeBytes_append]

end Slices

end Text
end PromptBook
