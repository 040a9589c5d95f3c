import Mathlib.Data.List.Infix
import Mathlib.Data.List.Basic
import Mathlib.Data.List.Nodup
import Mathlib.Data.Nat.Digits

/-!
# Go/Basic — Go strings as bytes, the `strings` and `strconv` helpers, and Go's `int`

A Go `string` is a sequence of bytes: `len`, slicing and `strings.Split` all count bytes, so a
string is modelled as `List UInt8` (`GoString`) and a literal of `pivotTable.go` as its UTF-8
encoding (`utf8`).  The standard-library calls of `pivotTable.go` are given at that type:

* `strings.Split` on a one-byte separator is `List.splitOn`, with one more piece than there are
  separators (`length_splitOn`);
* `strings.ReplaceAll`, `strings.TrimPrefix`, `strings.Contains`, `strings.EqualFold`;
* `strconv.Itoa` on a non-negative number (`itoa`): decimal digits, injective (`itoa_injective`).

Go's `int` is 64 bits wide on the platforms excelize ships for; `GoInt` carries that range, and
`GoInt.succ` wraps around at the top exactly as `cacheID++` does.
-/

namespace Excelize

/-- A Go `string`: its bytes. -/
abbrev GoString := List UInt8

/-- The bytes of a string literal: its UTF-8 encoding, as the Go compiler stores it. -/
def utf8 (s : String) : GoString := s.toList.flatMap String.utf8EncodeChar

/-! ## `strings.Split` on a one-byte separator -/

/-- Splitting on `b` gives one piece more than `b` occurs. -/
theorem length_splitOn (b : UInt8) (s : GoString) : (s.splitOn b).length = s.count b + 1 := by
  induction s with
  | nil => rfl
  | cons x xs ih =>
    simp only [List.splitOn, List.splitOnP_cons, List.count_cons] at ih ⊢
    by_cases hx : x = b <;> simp [hx, ih]

/-- A string with no `b` on either side of one `b` splits into exactly those two sides. -/
theorem splitOn_append_singleton (b : UInt8) {s a : GoString} (hs : b ∉ s) (ha : b ∉ a) :
    (s ++ b :: a).splitOn b = [s, a] := by
  have h := List.splitOn_intercalate [s, a] b (by simp [hs, ha]) (by simp)
  simpa [List.intercalate] using h

/-- `==` on Go strings is byte equality, whichever instance elaboration picks. -/
theorem goString_beq : (List.instBEq : BEq GoString) = instBEqOfDecidableEq :=
  lawful_beq_subsingleton _ _

theorem indexOf_lt_length_iff {x : GoString} {l : List GoString} :
    l.indexOf x < l.length ↔ x ∈ l := by
  rw [goString_beq]; exact List.indexOf_lt_length

/-- The first position of a string of `l` holds it. -/
theorem getElem?_indexOf {x : GoString} {l : List GoString} (h : x ∈ l) :
    l[l.indexOf x]? = some x := by
  rw [goString_beq]
  induction l with
  | nil => cases h
  | cons y ys ih =>
    by_cases hy : y = x
    · simp [List.indexOf_cons, hy]
    · simpa [List.indexOf_cons, hy] using ih (by simpa [Ne.symm hy] using h)

/-! ## `strings.ReplaceAll`

`ReplaceAll` scans left to right and replaces each non-overlapping occurrence of `old`.  `skip`
counts the bytes of the occurrence just replaced that are still to be passed over.  Both calls in
`pivotTable.go` have a non-empty `old`, the only case modelled. -/

/-- The scan of `strings.ReplaceAll`, `skip` bytes into a replaced occurrence. -/
def replaceAllAux (old new : GoString) : Nat → GoString → GoString
  | _, [] => []
  | skip + 1, _ :: s => replaceAllAux old new skip s
  | 0, c :: s =>
    if old <+: c :: s then new ++ replaceAllAux old new (old.length - 1) s
    else c :: replaceAllAux old new 0 s

/-- `strings.ReplaceAll(s, old, new)` for a non-empty `old`. -/
def replaceAll (s old new : GoString) : GoString := replaceAllAux old new 0 s

theorem replaceAllAux_skip (old new l s : GoString) :
    replaceAllAux old new l.length (l ++ s) = replaceAllAux old new 0 s := by
  induction l with
  | nil => rfl
  | cons _ l ih => exact ih

/-- Deleting a one-byte pattern is filtering it out. -/
theorem replaceAll_singleton_nil (s : GoString) (c : UInt8) :
    replaceAll s [c] [] = s.filter (· ≠ c) := by
  induction s with
  | nil => rfl
  | cons x s ih =>
    unfold replaceAll at ih
    by_cases hx : x = c
    · subst hx; simp [replaceAll, replaceAllAux, ih]
    · simp [replaceAll, replaceAllAux, List.cons_prefix_cons, Ne.symm hx, hx, ih]

/-- An occurrence at the front is replaced and the scan resumes after it. -/
theorem replaceAll_append_left {old : GoString} (hold : old ≠ []) (new s : GoString) :
    replaceAll (old ++ s) old new = new ++ replaceAll s old new := by
  obtain ⟨o, os, rfl⟩ := List.exists_cons_of_ne_nil hold
  have hp : o :: os <+: o :: (os ++ s) := List.prefix_append (o :: os) s
  show replaceAllAux _ new 0 (o :: (os ++ s)) = _
  rw [replaceAllAux, if_pos hp, List.length_cons, Nat.add_sub_cancel, replaceAllAux_skip]
  rfl

/-- A string without an occurrence is left as it is. -/
theorem replaceAll_of_not_infix {old s : GoString} (new : GoString) (h : ¬ old <:+: s) :
    replaceAll s old new = s := by
  induction s with
  | nil => rfl
  | cons c s ih =>
    have hp : ¬ old <+: c :: s := fun hp => h hp.isInfix
    have ht : ¬ old <:+: s := fun ht => h (ht.trans (List.suffix_cons c s).isInfix)
    simp only [replaceAll, replaceAllAux, hp, if_false] at ih ⊢
    rw [ih ht]

/-! ## `strings.TrimPrefix`, `strings.Contains` -/

/-- `strings.TrimPrefix(s, prefix)`. -/
def trimPrefix (s pre : GoString) : GoString := if pre <+: s then s.drop pre.length else s

/-- `strings.Contains(s, substr)`. -/
def contains (s substr : GoString) : Bool := decide (substr <:+: s)

/-! ## `strings.EqualFold` against an ASCII pattern

Every call here compares an ASCII enum name with a caller's string.  Go decodes one rune from each
side and compares them under Unicode simple case folding.  Against an ASCII rune that is ASCII case,
plus the two non-ASCII runes whose folding orbit holds an ASCII letter: `ſ` (U+017F, bytes `C5 BF`)
folds with `s`, and the Kelvin sign (U+212A, bytes `E2 84 AA`) with `k`.  Any other non-ASCII rune,
and any invalid byte (decoded as U+FFFD), matches no ASCII rune. -/

/-- ASCII lower case of one byte. -/
def lowerAscii (b : UInt8) : UInt8 := if 65 ≤ b ∧ b ≤ 90 then b + 32 else b

/-- `strings.EqualFold(s, t)` for an ASCII `s`. -/
def equalFold : GoString → GoString → Bool
  | [], t => t.isEmpty
  | _ :: _, [] => false
  | c :: s, b :: t =>
    if b < 0x80 then lowerAscii c == lowerAscii b && equalFold s t
    else if b = 0xC5 ∧ t.head? = some 0xBF then lowerAscii c == 0x73 && equalFold s t.tail
    else if b = 0xE2 ∧ t.take 2 = [0x84, 0xAA] then lowerAscii c == 0x6B && equalFold s (t.drop 2)
    else false

example : equalFold (utf8 "average") (utf8 "AVERAGE") = true := by decide
example : equalFold (utf8 "stdDev") (utf8 "ſtddev") = true := by decide

/-! ## `strconv.Itoa`

`strconv.Itoa` of a non-negative number is its decimal digits, the digits of core's `Nat.toDigits`.
Reading them back (`decodeDigits`) gives the number, so different numbers name different parts. -/

/-- `strconv.Itoa(n)` for `n ≥ 0`. -/
def itoa (n : Nat) : GoString := (Nat.toDigits 10 n).map Char.toUInt8

/-- Reading decimal digits back. -/
def decodeDigits (l : GoString) : Nat := l.foldl (fun acc b => acc * 10 + (b.toNat - 48)) 0

theorem toDigitsCore_append (fuel n : Nat) (ds : List Char) :
    Nat.toDigitsCore 10 fuel n ds = Nat.toDigitsCore 10 fuel n [] ++ ds := by
  induction fuel generalizing n ds with
  | zero => rfl
  | succ fuel ih =>
    simp only [Nat.toDigitsCore]
    split
    · rfl
    · rw [ih _ (_ :: ds), ih _ [_]]; simp

theorem digitChar_toUInt8 : ∀ k, k < 10 → (Nat.digitChar k).toUInt8.toNat = 48 + k := by
  decide

theorem decodeDigits_toDigitsCore (fuel n : Nat) (h : n < fuel) :
    decodeDigits ((Nat.toDigitsCore 10 fuel n []).map Char.toUInt8) = n := by
  induction fuel generalizing n with
  | zero => omega
  | succ fuel ih =>
    have hd := digitChar_toUInt8 (n % 10) (Nat.mod_lt _ (by decide))
    simp only [Nat.toDigitsCore]
    split
    · simp [decodeDigits, hd]; omega
    · rw [toDigitsCore_append, List.map_append, decodeDigits, List.foldl_append, ← decodeDigits,
        ih _ (by omega)]
      simp [hd]; omega

@[simp] theorem decodeDigits_itoa (n : Nat) : decodeDigits (itoa n) = n :=
  decodeDigits_toDigitsCore _ _ (Nat.lt_succ_self n)

theorem itoa_injective : Function.Injective itoa := fun a b h => by
  rw [← decodeDigits_itoa a, h, decodeDigits_itoa]

@[simp] theorem itoa_inj {a b : Nat} : itoa a = itoa b ↔ a = b := itoa_injective.eq_iff

theorem mem_toDigitsCore {fuel n : Nat} {ds : List Char} {c : Char}
    (h : c ∈ Nat.toDigitsCore 10 fuel n ds) : c ∈ ds ∨ ∃ k < 10, c = Nat.digitChar k := by
  induction fuel generalizing n ds with
  | zero => exact .inl h
  | succ fuel ih =>
    simp only [Nat.toDigitsCore] at h
    split at h
    · rcases List.mem_cons.1 h with h | h
      · exact .inr ⟨_, Nat.mod_lt _ (by decide), h⟩
      · exact .inl h
    · rcases ih h with h | h
      · rcases List.mem_cons.1 h with h | h
        · exact .inr ⟨_, Nat.mod_lt _ (by decide), h⟩
        · exact .inl h
      · exact .inr h

/-- Every byte of `itoa n` is an ASCII digit. -/
theorem mem_itoa {n : Nat} {b : UInt8} (h : b ∈ itoa n) : 48 ≤ b.toNat ∧ b.toNat ≤ 57 := by
  obtain ⟨c, hc, rfl⟩ := List.mem_map.1 h
  rcases mem_toDigitsCore hc with h | ⟨k, hk, rfl⟩
  · simp at h
  · have := digitChar_toUInt8 k hk
    omega

theorem itoa_ne_nil (n : Nat) : itoa n ≠ [] := fun h => by
  have h0 : n = 0 := by rw [← decodeDigits_itoa n, h]; rfl
  subst h0
  exact absurd h (by decide)

/-! ## Go's `int` -/

/-- A Go `int` on a 64-bit platform: an integer in `[-2^63, 2^63)`. -/
structure GoInt where
  val : Int
  min_le : -9223372036854775808 ≤ val
  lt_max : val < 9223372036854775808
deriving DecidableEq, Repr

namespace GoInt

/-- The largest Go `int`, `2^63 - 1`. -/
def max : Int := 9223372036854775807

/-- The smallest Go `int`, `-2^63`. -/
def min : Int := -9223372036854775808

/-- The literal `1`. -/
def one : GoInt := ⟨1, by decide, by decide⟩

theorem ext {x y : GoInt} (h : x.val = y.val) : x = y := by
  cases x
  cases y
  subst h
  rfl

theorem val_le_max (x : GoInt) : x.val ≤ max := by
  have := x.lt_max
  simp only [max]
  omega

/-- `x++`: two's-complement increment, wrapping from the largest `int` to the smallest. -/
def succ (x : GoInt) : GoInt :=
  ⟨(x.val + 1 + 9223372036854775808) % 18446744073709551616 - 9223372036854775808, by omega,
    by omega⟩

theorem succ_val {x : GoInt} (h : x.val < max) : x.succ.val = x.val + 1 := by
  have := x.min_le
  simp only [succ, max] at h ⊢
  omega

/-- At the largest `int`, `++` wraps to the smallest. -/
theorem succ_val_max {x : GoInt} (h : x.val = max) : x.succ.val = min := by
  simp only [succ, max, min] at h ⊢
  omega

end GoInt

end Excelize
