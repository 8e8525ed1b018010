import Mathlib.Data.Fintype.Basic
import MoodleTenancy.Cluster.Http

/-!
# Paths of objects

A path can be taken apart again. Percent encoding loses nothing of a segment and leaves no slash in
it, so the slashes of a path are those in front of its segments, and two paths are one only if
their segments are.

* `percentDecode`: the bytes that a percent-encoded segment stands for.
* `percentDecode_percentEncode`: they are those of the text.
* `path_inj`: a path has one list of segments.
* `objectPath_inj_iff`: what two objects of one path have in common.
-/

namespace MoodleTenancy
set_option autoImplicit false

namespace Text

/-! ## Percent decoding -/

/-- The value of an upper-case hexadecimal digit. -/
def hexValue (c : Char) : Nat := if c.isDigit then c.toNat - 48 else c.toNat - 55

/-- The bytes that a percent-encoded segment stands for. -/
def percentDecode : List Char → List UInt8
  | '%' :: high :: low :: rest =>
    UInt8.ofNat (16 * hexValue high + hexValue low) :: percentDecode rest
  | c :: rest => c.val.toUInt8 :: percentDecode rest
  | [] => []

theorem percentByte_eq (b : UInt8) : ∃ high low, percentByte b = ['%', high, low] ∧
    UInt8.ofNat (16 * hexValue high + hexValue low) = b ∧ high ≠ '/' ∧ low ≠ '/' := by
  have all : ∀ i : Fin 256, ∃ high low, percentByte (.ofNat i) = ['%', high, low] ∧
      UInt8.ofNat (16 * hexValue high + hexValue low) = .ofNat i ∧ high ≠ '/' ∧ low ≠ '/' := by
    intro i
    -- The two digits are named, so that what is left can be tried for every byte.
    refine ⟨(percentByte (.ofNat i)).getD 1 ' ', (percentByte (.ofNat i)).getD 2 ' ', ?_⟩
    revert i
    decide +kernel
  simpa using all ⟨b.toNat, b.toNat_lt⟩

theorem percentDecode_percentByte (b : UInt8) (rest : List Char) :
    percentDecode (percentByte b ++ rest) = b :: percentDecode rest := by
  obtain ⟨high, low, h, value, -, -⟩ := percentByte_eq b
  rw [h, ← value]
  rfl

theorem percentDecode_percentBytes (bs : List UInt8) (rest : List Char) :
    percentDecode (bs.flatMap percentByte ++ rest) = bs ++ percentDecode rest := by
  induction bs with
  | nil => rfl
  | cons b bs ih =>
    rw [List.flatMap_cons, List.append_assoc, percentDecode_percentByte, ih, List.cons_append]

theorem utf8EncodeChar_of_isUnreserved {c : Char} (h : isUnreserved c = true) :
    String.utf8EncodeChar c = [c.val.toUInt8] := by
  apply String.utf8EncodeChar_eq_singleton
  rw [Char.utf8Size_eq_one_iff, UInt32.le_iff_toNat_le]
  change c.val.toNat ≤ 127
  simp only [isUnreserved, Bool.or_eq_true, beq_iff_eq] at h
  -- It is a letter or a digit, or one of four marks.
  rcases h with (((h | rfl) | rfl) | rfl) | rfl
  · have ranges : (decide ('A'.val ≤ c.val ∧ c.val ≤ 'Z'.val) ||
        (decide ('a'.val ≤ c.val) && decide (c.val ≤ 'z'.val)) ||
        (decide ('0'.val ≤ c.val) && decide (c.val ≤ '9'.val))) = true := h
    simp only [Bool.or_eq_true, Bool.and_eq_true, decide_eq_true_eq,
      UInt32.le_iff_toNat_le] at ranges
    obtain (⟨-, top⟩ | ⟨-, top⟩) | ⟨-, top⟩ := ranges <;> exact top.trans (by decide)
  all_goals decide

theorem percentDecode_percentChar (c : Char) (rest : List Char) :
    percentDecode (percentChar c ++ rest) = String.utf8EncodeChar c ++ percentDecode rest := by
  unfold percentChar
  split
  case isTrue h =>
    have plain : c ≠ '%' := by
      rintro rfl
      exact absurd h (by decide)
    rw [utf8EncodeChar_of_isUnreserved h]
    simp [percentDecode, plain]
  case isFalse h => exact percentDecode_percentBytes _ rest

/-- The bytes of an encoded segment are those of the text. -/
theorem percentDecode_percentEncode (s : String) :
    percentDecode (percentEncode s).toList = s.toList.flatMap String.utf8EncodeChar := by
  have spread : ∀ cs : List Char,
      percentDecode (cs.flatMap percentChar) = cs.flatMap String.utf8EncodeChar := by
    intro cs
    induction cs with
    | nil => rfl
    | cons c cs ih => rw [List.flatMap_cons, percentDecode_percentChar, ih, List.flatMap_cons]
  rw [percentEncode, String.toList_ofList, spread]

theorem percentEncode_inj {s t : String} : percentEncode s = percentEncode t ↔ s = t := by
  refine ⟨fun h => ?_, congrArg _⟩
  have bytes : s.toList.flatMap String.utf8EncodeChar = t.toList.flatMap String.utf8EncodeChar := by
    rw [← percentDecode_percentEncode, h, percentDecode_percentEncode]
  rw [← String.toByteArray_inj, ← String.utf8Encode_toList, ← String.utf8Encode_toList]
  exact congrArg List.toByteArray bytes

/-! ## Segments have no slash -/

theorem slash_notMem_percentChar (c : Char) : '/' ∉ percentChar c := by
  unfold percentChar
  split
  case isTrue h =>
    rw [List.mem_singleton]
    rintro rfl
    exact absurd h (by decide)
  case isFalse =>
    rw [List.mem_flatMap]
    rintro ⟨b, -, hb⟩
    obtain ⟨high, low, h, -, hhigh, hlow⟩ := percentByte_eq b
    rw [h] at hb
    simp [hhigh.symm, hlow.symm] at hb

theorem slash_notMem_percentEncode (s : String) : '/' ∉ (percentEncode s).toList := by
  rw [percentEncode, String.toList_ofList, List.mem_flatMap]
  rintro ⟨c, -, hc⟩
  exact slash_notMem_percentChar c hc

end Text

/-! ## Paths by their segments -/

theorem toList_path (segments : List String) :
    (path segments).toList = segments.flatMap fun s => '/' :: (Text.percentEncode s).toList := by
  simp [path, List.flatMap_map]

/-- What is joined by a separator is the first part, and every other one behind a separator. -/
theorem intercalate_singleton_cons {α : Type} (sep : α) (l : List α) (ls : List (List α)) :
    [sep].intercalate (l :: ls) = l ++ ls.flatMap fun m => sep :: m := by
  induction ls generalizing l with
  | nil => simp
  | cons m ls ih => rw [List.intercalate_cons_cons, ih, List.flatMap_cons]; simp

/-- What stands between the slashes of a path: nothing in front of the first, and then the encoded
segments. -/
theorem splitOn_path (segments : List String) :
    (path segments).toList.splitOn '/' =
      [] :: segments.map fun s => (Text.percentEncode s).toList := by
  have joined : (path segments).toList =
      ['/'].intercalate ([] :: segments.map fun s => (Text.percentEncode s).toList) := by
    rw [toList_path, intercalate_singleton_cons, List.nil_append, List.flatMap_map]
  rw [joined, List.splitOn_intercalate '/' _ (List.cons_ne_nil _ _)]
  intro l hl
  rcases List.mem_cons.1 hl with rfl | hl
  · exact List.not_mem_nil
  · obtain ⟨s, -, rfl⟩ := List.mem_map.1 hl
    exact Text.slash_notMem_percentEncode s

theorem path_inj {ss ts : List String} : path ss = path ts ↔ ss = ts := by
  refine ⟨fun h => ?_, congrArg _⟩
  have split : ss.map (fun s => (Text.percentEncode s).toList) =
      ts.map fun s => (Text.percentEncode s).toList := by
    simpa [splitOn_path] using congrArg (fun p => p.toList.splitOn '/') h
  refine List.map_injective_iff.2 (fun s t hst => ?_) split
  exact Text.percentEncode_inj.1 (String.toList_inj.1 hst)

theorem path_append_singleton (segments : List String) (s : String) :
    path (segments ++ [s]) = path segments ++ "/" ++ Text.percentEncode s := by
  simp [path, String.join_append, String.append_assoc]

/-! ## Addresses of objects -/

theorem Kind.plural_inj {k l : Kind} : k.plural = l.plural ↔ k = l := by
  cases k <;> cases l <;> decide

theorem objectPath_eq (k : Kind) (ns name : String) :
    objectPath k ns name = collectionPath k ns ++ "/" ++ Text.percentEncode name :=
  path_append_singleton _ _

/-- The plural of its kind is the last segment of a collection. -/
theorem getLast?_collectionSegments (k : Kind) (ns : String) :
    (collectionSegments k ns).getLast? = some k.plural := by
  unfold collectionSegments
  split <;> simp

theorem collectionSegments_inj {k l : Kind} {ns ns' : String} :
    collectionSegments k ns = collectionSegments l ns' ↔
      k = l ∧ (k = .namespaceKind ∨ ns = ns') := by
  constructor
  · intro h
    obtain rfl : k = l := by
      have := congrArg List.getLast? h
      rw [getLast?_collectionSegments, getLast?_collectionSegments, Option.some_inj] at this
      exact Kind.plural_inj.1 this
    refine ⟨rfl, or_iff_not_imp_left.2 fun hk => ?_⟩
    simpa [collectionSegments, hk] using h
  · rintro ⟨rfl, rfl | rfl⟩ <;> simp [collectionSegments]

/-- Objects of one path are of one kind and one name, and in one namespace unless they are
namespaces themselves. -/
theorem objectPath_inj_iff {k l : Kind} {ns ns' name name' : String} :
    objectPath k ns name = objectPath l ns' name' ↔
      k = l ∧ name = name' ∧ (k = .namespaceKind ∨ ns = ns') := by
  rw [objectPath, objectPath, path_inj, List.append_singleton_inj, collectionSegments_inj]
  tauto

end MoodleTenancy
