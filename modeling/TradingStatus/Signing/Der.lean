import TradingStatus.Crypto.Arithmetic
import TradingStatus.Powers

/-! Elements of DER: a tag, the length of the contents in as few bytes as it takes, and the contents.
The contents of numbers, names and bit strings have one form each, and the elements of a set stand in
the order of their bytes. -/

namespace TradingStatus.Der

/-- The tags that are used here. -/
def integerTag : UInt8 := 0x02
def bitsTag : UInt8 := 0x03
def octetsTag : UInt8 := 0x04
def nameTag : UInt8 := 0x06
def sequenceTag : UInt8 := 0x30
def setTag : UInt8 := 0x31

/-- The tag of an optional part by its number. -/
def partTag (n : UInt8) : UInt8 := 0xA0 + n

/-- A length of more than one byte, written in `count` bytes. -/
def longLength? (count : Nat) (bytes : List UInt8) : Option (Nat × List UInt8) :=
  let digits := bytes.take count
  let n := digits.foldl (fun n b => n * 256 + b.toNat) 0
  if digits.length = count ∧ 1 ≤ count ∧ count ≤ 4 ∧ digits.head? ≠ some 0 ∧ 128 ≤ n then
    some (n, bytes.drop count)
  else none

/-- The length at the front of some bytes, and what follows it. -/
def length? : List UInt8 → Option (Nat × List UInt8)
  | [] => none
  | b :: rest => if b.toNat < 128 then some (b.toNat, rest) else longLength? (b.toNat - 128) rest

/-- The contents of an element with a tag at the front of some bytes, and what follows it. -/
def element? (tag : UInt8) : List UInt8 → Option (List UInt8 × List UInt8)
  | [] => none
  | t :: rest =>
    if t = tag then
      match length? rest with
      | some (n, rest) => if n ≤ rest.length then some (rest.take n, rest.drop n) else none
      | none => none
    else none

/-- The contents of an element that is all there is. -/
def only? (tag : UInt8) (bytes : List UInt8) : Option (List UInt8) :=
  match element? tag bytes with
  | some (contents, []) => some contents
  | _ => none

/-- The contents of an optional element, if it is there. -/
def optional (tag : UInt8) (bytes : List UInt8) : Option (Option (List UInt8) × List UInt8) :=
  if bytes.head? = some tag then (element? tag bytes).map fun (contents, rest) => (some contents, rest)
  else some (none, bytes)

/-- The number that bytes write with seven bits each, the highest first. The eighth bit marks the bytes
that others follow. -/
def ofSevenBits (bytes : List UInt8) : Nat := bytes.foldl (fun n b => n * 128 + b.toNat % 128) 0

/-- What follows a long tag number: one of at most 32 bits in as few bytes as it takes, which no single
byte with the rest of the tag could hold. -/
def afterTagNumber? (bytes : List UInt8) : Option (List UInt8) :=
  let marked := bytes.takeWhile fun b => 128 ≤ b.toNat
  match bytes.drop marked.length with
  | [] => none
  | last :: rest =>
    let number := ofSevenBits (marked ++ [last])
    if marked.head? ≠ some 0x80 ∧ 31 ≤ number ∧ number < twoTo 32 then some rest else none

/-- What follows the tag at the front of some bytes. -/
def afterTag? : List UInt8 → Option (List UInt8)
  | [] => none
  | tag :: rest => if tag.toNat % 32 = 31 then afterTagNumber? rest else some rest

/-- The bytes of the element at the front of some bytes, whatever it is, and what follows it. -/
def first? (bytes : List UInt8) : Option (List UInt8 × List UInt8) :=
  match afterTag? bytes with
  | none => none
  | some rest =>
    match length? rest with
    | none => none
    | some (n, rest) =>
      if n ≤ rest.length then
        some (bytes.take (bytes.length - (rest.drop n).length), rest.drop n)
      else none

theorem length_afterTag?_lt {bytes rest : List UInt8} (h : afterTag? bytes = some rest) :
    rest.length < bytes.length := by
  cases bytes with
  | nil => simp [afterTag?] at h
  | cons tag bytes =>
    simp only [afterTag?] at h
    split at h
    · simp only [afterTagNumber?] at h
      split at h
      · simp at h
      · rename_i last after heq
        have hlength := congrArg List.length heq
        simp only [Option.ite_none_right_eq_some, Option.some.injEq] at h
        obtain ⟨-, rfl⟩ := h
        simp only [List.length_drop, List.length_cons] at *
        omega
    · cases h
      exact Nat.lt_succ_self _

theorem length_length?_le {bytes : List UInt8} {step : Nat × List UInt8}
    (h : length? bytes = some step) : step.2.length ≤ bytes.length := by
  cases bytes with
  | nil => simp [length?] at h
  | cons b bytes =>
    simp only [length?] at h
    split at h
    · cases h
      exact Nat.le_succ _
    · simp only [longLength?, Option.ite_none_right_eq_some, Option.some.injEq] at h
      obtain ⟨-, rfl⟩ := h
      simp only [List.length_drop, List.length_cons]
      omega

/-- Reading an element leaves less. -/
theorem length_first?_lt {bytes : List UInt8} {step : List UInt8 × List UInt8}
    (h : first? bytes = some step) : step.2.length < bytes.length := by
  unfold first? at h
  split at h
  · simp at h
  · rename_i htag
    have htag := length_afterTag?_lt htag
    split at h
    · simp at h
    · rename_i hlength
      have hlength := length_length?_le hlength
      simp only [Option.ite_none_right_eq_some, Option.some.injEq] at h
      obtain ⟨-, rfl⟩ := h
      simp only [List.length_drop] at *
      omega

/-- The elements that some bytes consist of. -/
def elements? (bytes : List UInt8) : Option (List (List UInt8)) :=
  if bytes.isEmpty then some []
  else
    match _h : first? bytes with
    | none => none
    | some (element, rest) => (elements? rest).map (element :: ·)
termination_by bytes.length
decreasing_by exact length_first?_lt _h

/-- Bytes stand before others or are the same: the first difference decides, or else the length. -/
def atMost : List UInt8 → List UInt8 → Bool
  | [], _ => true
  | _ :: _, [] => false
  | a :: as, b :: bs => a.toNat < b.toNat || (a == b && atMost as bs)

/-- No element stands before its predecessor. -/
def ascending : List (List UInt8) → Bool
  | a :: b :: rest => atMost a b && ascending (b :: rest)
  | _ => true

/-- The elements of a set. -/
def set? (contents : List UInt8) : Option (List (List UInt8)) :=
  match elements? contents with
  | some elements => if ascending elements then some elements else none
  | none => none

/-- The parts of a name: each is a number of at most 32 bits, with seven bits to a byte and in as few
bytes as it takes. What has been read of the part at the front comes to `begun`, if it has begun. -/
def areParts (begun : Option Nat) : List UInt8 → Bool
  | [] => begun.isNone
  | b :: rest =>
    let number := begun.getD 0 * 128 + b.toNat % 128
    (begun.isSome || b != 0x80) && number < twoTo 32 &&
      areParts (if b.toNat < 128 then none else some number) rest

/-- The contents of a name: at least one part, and 63 bytes at most. -/
def isName (contents : List UInt8) : Bool :=
  !contents.isEmpty && contents.length ≤ 63 && areParts none contents

/-- The number that contents write in as few bytes as it takes, none if it is below zero. -/
def natural? : List UInt8 → Option Nat
  | [] => none
  | [b] => if b.toNat < 128 then some b.toNat else none
  | b :: c :: rest =>
    if b.toNat < 128 ∧ (b = 0 → 128 ≤ c.toNat) then some (ofBytesBE (b :: c :: rest)) else none

/-- The bytes of a bit string. Its contents begin with the number of bits of the last byte that do not
count and are zero. -/
def bits? : List UInt8 → Option (List UInt8)
  | [] => none
  | spare :: bytes =>
    match bytes.getLast? with
    | none => if spare = 0 then some [] else none
    | some last =>
      if spare.toNat < 8 ∧ last.toNat % twoTo spare.toNat = 0 then some bytes else none

/-- An element of fewer than 128 bytes. -/
def encodeShort (tag : UInt8) (contents : List UInt8) : List UInt8 :=
  tag :: UInt8.ofNat contents.length :: contents

theorem element?_encodeShort (tag : UInt8) {contents : List UInt8} (rest : List UInt8)
    (h : contents.length < 128) :
    element? tag (encodeShort tag contents ++ rest) = some (contents, rest) := by
  have hn : (UInt8.ofNat contents.length).toNat = contents.length := by
    simp only [UInt8.toNat_ofNat']; omega
  simp [element?, encodeShort, length?, hn, h]

end TradingStatus.Der
