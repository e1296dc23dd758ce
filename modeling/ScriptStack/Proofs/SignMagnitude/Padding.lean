import Mathlib.Data.Set.Card
import ScriptStack.Proofs.SignMagnitude.Codec
/-!
All spellings of a number.  Bytes that are not the shortest for their number
are the shortest ones with the sign moved to a byte of its own at the end and
bytes of zero before it (`eq_encode_or_eq_padWith`), so at each length a number
other than zero has one spelling at most (`spellings_longer`) and zero has two
(`spellings_zero`).
-/

namespace ScriptStack.SignMagnitude

open LittleEndian

/-- The bytes with the sign bit of the last one cleared. -/
def clearSign (bytes : List UInt8) : List UInt8 :=
  match bytes.getLast? with
  | none => []
  | some last => bytes.dropLast ++ [last &&& magnitudeBits]

/-- Bytes made longer: the sign goes into a last byte of its own, with bytes
of zero before it. -/
def padWith (negative : Bool) (bytes : List UInt8) (zeros : Nat) :
    List UInt8 :=
  clearSign bytes ++ List.replicate zeros 0 ++ [withSign negative 0]

/-- The spelling of a number that is `zeros + 1` bytes longer than needed. -/
def padded (n : Int) (zeros : Nat) : List UInt8 :=
  clearSign (encode n) ++ List.replicate zeros 0 ++
    [if n < 0 then 0x80 else 0x00]

@[simp] theorem clearSign_nil : clearSign [] = [] := rfl

theorem clearSign_concat_withSign (rest : List UInt8) (negative : Bool)
    {low : UInt8} (hlow : hasSignBit low = false) :
    clearSign (rest ++ [withSign negative low]) = rest ++ [low] := by
  simp only [clearSign, List.getLast?_concat, List.dropLast_concat,
    withSign_and_magnitudeBits negative hlow]

@[simp] theorem length_clearSign (bytes : List UInt8) :
    (clearSign bytes).length = bytes.length := by
  rcases eq_nil_or_concat_withSign bytes with
    rfl | ⟨rest, negative, low, hlow, rfl⟩
  · rfl
  · simp [clearSign_concat_withSign rest negative hlow]

/-- Less the sign bit, bytes are the absolute value of their number. -/
theorem value_clearSign (bytes : List UInt8) :
    value (clearSign bytes) = (decode bytes).natAbs := by
  rcases eq_nil_or_concat_withSign bytes with
    rfl | ⟨rest, negative, low, hlow, rfl⟩
  · rfl
  · rw [clearSign_concat_withSign rest negative hlow,
      decode_concat_withSign rest negative hlow, natAbs_signed]

theorem length_padWith (negative : Bool) (bytes : List UInt8) (zeros : Nat) :
    (padWith negative bytes zeros).length = bytes.length + (zeros + 1) := by
  simp [padWith]

theorem padWith_sign_eq_padded (n : Int) (zeros : Nat) :
    padWith (decide (n < 0)) (encode n) zeros = padded n zeros := by
  by_cases hn : n < 0 <;> simp [padWith, padded, withSign, signBit, hn]

theorem padWith_nil (negative : Bool) (zeros : Nat) :
    padWith negative [] zeros =
      List.replicate zeros 0 ++ [if negative then 0x80 else 0x00] := by
  cases negative <;> simp [padWith, withSign, signBit]

/-- Zeros on top and another sign leave the absolute value as it is. -/
theorem decode_padWith (negative : Bool) (bytes : List UInt8) (zeros : Nat) :
    decode (padWith negative bytes zeros) =
      signed negative (decode bytes).natAbs := by
  rw [padWith, decode_concat_withSign _ negative (by decide),
    value_concat_zero, value_append_zeros, value_clearSign]

theorem decode_padded (n : Int) (zeros : Nat) :
    decode (padded n zeros) = n := by
  rw [← padWith_sign_eq_padded, decode_padWith, decode_encode, signed_natAbs]

/-- The sign of a padded spelling is free for zero only. -/
theorem decode_padWith_encode_iff (n : Int) (negative : Bool) (zeros : Nat) :
    decode (padWith negative (encode n) zeros) = n ↔
      n = 0 ∨ negative = decide (n < 0) := by
  rw [decode_padWith, decode_encode]
  cases negative with
  | false =>
      rw [eq_comm (a := false), decide_eq_false_iff_not]
      simp only [signed, Bool.false_eq_true, if_false]
      omega
  | true =>
      rw [eq_comm (a := true), decide_eq_true_eq]
      simp only [signed, if_true]
      omega

/-- Bytes that are padded twice are padded once by as much, with the last sign.
-/
theorem padWith_padWith (negative negative' : Bool) (bytes : List UInt8)
    (zeros : Nat) :
    padWith negative (padWith negative' bytes zeros) 0 =
      padWith negative bytes (zeros + 1) := by
  have hclear : clearSign (padWith negative' bytes zeros) =
      clearSign bytes ++ List.replicate zeros 0 ++ [0] :=
    clearSign_concat_withSign _ negative' (by decide)
  rw [padWith, hclear, padWith, List.replicate_succ']
  simp

/-- Bytes that are not minimal are one byte of padding away from bytes with
the same number. -/
theorem isMinimal_or_padWith (bytes : List UInt8) :
    isMinimal bytes = true ∨ ∃ negative shorter,
      decode shorter = decode bytes ∧ bytes = padWith negative shorter 0 := by
  rcases eq_nil_or_concat_withSign bytes with
    rfl | ⟨rest, negative, low, hlow, rfl⟩
  · exact Or.inl rfl
  · rw [isMinimal_concat_withSign rest negative hlow]
    by_cases hzero : low = 0
    · subst hzero
      cases rest using List.reverseRecOn with
      | nil =>
          have hdecode := decode_zeros_concat 0 negative
          exact Or.inr ⟨negative, [], hdecode.symm, rfl⟩
      | append_singleton front before _ =>
          cases hbefore : hasSignBit before with
          | true => exact Or.inl (by simp [hbefore])
          | false =>
              -- the sign byte goes, and the sign returns to the byte before it
              refine Or.inr
                ⟨negative, front ++ [withSign negative before], ?_, ?_⟩
              · rw [decode_concat_withSign front negative hbefore,
                  decode_concat_withSign _ negative hlow, value_concat_zero]
              · rw [padWith, clearSign_concat_withSign front negative hbefore]
                simp
    · exact Or.inl (by simp [hzero])

/-- Bytes are the shortest for their number, or those made longer. -/
theorem eq_encode_or_eq_padWith (bytes : List UInt8) :
    bytes = encode (decode bytes) ∨ ∃ negative zeros,
      bytes = padWith negative (encode (decode bytes)) zeros := by
  induction hsize : bytes.length using Nat.strongRecOn generalizing bytes with
  | _ size ih =>
      rcases isMinimal_or_padWith bytes with
        hminimal | ⟨negative, shorter, hdecode, rfl⟩
      · exact Or.inl (encode_decode_of_isMinimal hminimal).symm
      · rw [length_padWith] at hsize
        right
        rw [← hdecode]
        rcases ih shorter.length (by omega) shorter rfl with
          hshort | ⟨negative', zeros, hpad⟩
        · exact ⟨negative, 0, by rw [← hshort]⟩
        · exact ⟨negative, zeros + 1, by rw [← padWith_padWith, ← hpad]⟩

theorem eq_encode_or_eq_padded {bytes : List UInt8} (hne : decode bytes ≠ 0) :
    bytes = encode (decode bytes) ∨
      ∃ zeros, bytes = padded (decode bytes) zeros := by
  rcases eq_encode_or_eq_padWith bytes with
    hshort | ⟨negative, zeros, hpad⟩
  · exact Or.inl hshort
  · have hdecode := congrArg decode hpad
    have hsign := (decode_padWith_encode_iff _ negative zeros).mp hdecode.symm
    rw [hsign.resolve_left hne, padWith_sign_eq_padded] at hpad
    exact Or.inr ⟨zeros, hpad⟩

/-- The bytes of one length that stand for a number. -/
def spellings (n : Int) (size : Nat) : Set (List UInt8) :=
  {bytes | decode bytes = n ∧ bytes.length = size}

theorem mem_spellings (bytes : List UInt8) (n : Int) (size : Nat) :
    bytes ∈ spellings n size ↔ decode bytes = n ∧ bytes.length = size :=
  Iff.rfl

/-- Bytes are the shortest ones for their number, or there are more of them. -/
theorem eq_encode_or_longer (bytes : List UInt8) :
    bytes = encode (decode bytes) ∨ ∃ zeros,
      bytes.length = (encode (decode bytes)).length + (zeros + 1) := by
  rcases eq_encode_or_eq_padWith bytes with
    hshort | ⟨negative, zeros, hpad⟩
  · exact Or.inl hshort
  · refine Or.inr ⟨zeros, ?_⟩
    rw [← length_padWith negative, ← hpad]

theorem length_encode_le (bytes : List UInt8) :
    (encode (decode bytes)).length ≤ bytes.length := by
  rcases eq_encode_or_longer bytes with hshort | ⟨zeros, hlength⟩
  · exact (congrArg List.length hshort).ge
  · omega

theorem length_encode_eq_iff (bytes : List UInt8) :
    (encode (decode bytes)).length = bytes.length ↔
      bytes = encode (decode bytes) := by
  constructor
  · intro hequal
    rcases eq_encode_or_longer bytes with hshort | ⟨zeros, hlength⟩
    · exact hshort
    · omega
  · intro hshort
    exact (congrArg List.length hshort).symm

theorem spellings_of_lt {n : Int} {size : Nat}
    (hsize : size < (encode n).length) : spellings n size = ∅ := by
  ext bytes
  rw [mem_spellings, Set.mem_empty_iff_false, iff_false]
  rintro ⟨rfl, rfl⟩
  exact Nat.not_le_of_lt hsize (length_encode_le bytes)

theorem spellings_shortest (n : Int) :
    spellings n (encode n).length = {encode n} := by
  ext bytes
  rw [mem_spellings, Set.mem_singleton_iff]
  constructor
  · rintro ⟨rfl, hlength⟩
    exact (length_encode_eq_iff bytes).mp hlength.symm
  · rintro rfl
    exact ⟨decode_encode n, rfl⟩

theorem length_padded (n : Int) (zeros : Nat) :
    (padded n zeros).length = (encode n).length + (zeros + 1) := by
  rw [← padWith_sign_eq_padded, length_padWith]

/-- Of every larger size, a number other than zero has one spelling. -/
theorem spellings_longer {n : Int} (hne : n ≠ 0) (zeros : Nat) :
    spellings n ((encode n).length + (zeros + 1)) = {padded n zeros} := by
  ext bytes
  rw [mem_spellings, Set.mem_singleton_iff]
  constructor
  · rintro ⟨rfl, hlength⟩
    rcases eq_encode_or_eq_padded hne with hshort | ⟨zeros', hpad⟩
    · have hequal := congrArg List.length hshort
      omega
    · have hlonger := congrArg List.length hpad
      rw [length_padded] at hlonger
      obtain rfl : zeros' = zeros := by omega
      exact hpad
  · rintro rfl
    exact ⟨decode_padded n zeros, length_padded n zeros⟩

/-- Zero has two spellings of every size but none, for its sign says nothing. -/
theorem spellings_zero (zeros : Nat) :
    spellings 0 (zeros + 1) =
      {List.replicate zeros 0 ++ [0x00], List.replicate zeros 0 ++ [0x80]} := by
  ext bytes
  rw [mem_spellings, Set.mem_insert_iff, Set.mem_singleton_iff]
  constructor
  · rintro ⟨hdecode, hlength⟩
    rcases eq_encode_or_eq_padWith bytes with
      hshort | ⟨negative, zeros', hpad⟩
    · rw [hdecode, encode_zero] at hshort
      simp [hshort] at hlength
    · rw [hdecode, encode_zero, padWith_nil] at hpad
      obtain rfl : zeros' = zeros := by simpa [hpad] using hlength
      cases negative with
      | false => exact Or.inl hpad
      | true => exact Or.inr hpad
  · rintro (rfl | rfl)
    · exact ⟨decode_zeros_concat zeros false, by simp⟩
    · exact ⟨decode_zeros_concat zeros true, by simp⟩

theorem encard_spellings {n : Int} (hne : n ≠ 0) (size : Nat) :
    (spellings n size).encard = if (encode n).length ≤ size then 1 else 0 := by
  split
  · next hsize =>
      rcases Nat.eq_or_lt_of_le hsize with rfl | hlonger
      · rw [spellings_shortest, Set.encard_singleton]
      · obtain ⟨zeros, rfl⟩ := Nat.exists_eq_add_of_lt hlonger
        rw [Nat.add_assoc, spellings_longer hne, Set.encard_singleton]
  · next hsize =>
      rw [spellings_of_lt (Nat.lt_of_not_le hsize), Set.encard_empty]

theorem encard_spellings_zero (size : Nat) :
    (spellings 0 size).encard = if size = 0 then 1 else 2 := by
  cases size with
  | zero =>
      have hshortest := spellings_shortest 0
      rw [encode_zero, List.length_nil] at hshortest
      rw [hshortest, Set.encard_singleton, if_pos rfl]
  | succ zeros =>
      rw [spellings_zero, Set.encard_pair (by simp), if_neg (by simp)]

/-- Which bytes stand for a number.  None are shorter than the written ones,
and longer ones are the written ones with the sign moved behind bytes of zero,
where zero takes either sign.  So a number other than zero is spelled once at
each length from the shortest on, and zero twice at each length but the
shortest. -/
theorem spellings_shape :
    (∀ bytes : List UInt8,
        (encode (decode bytes)).length ≤ bytes.length ∧
          ((encode (decode bytes)).length = bytes.length ↔
            bytes = encode (decode bytes))) ∧
      (∀ bytes : List UInt8, bytes ≠ encode (decode bytes) → ∃ zeros,
        bytes.length = (encode (decode bytes)).length + (zeros + 1) ∧
          (decode bytes ≠ 0 → bytes = padded (decode bytes) zeros) ∧
          (decode bytes = 0 → bytes = List.replicate zeros 0 ++ [0x00] ∨
            bytes = List.replicate zeros 0 ++ [0x80])) ∧
      (∀ n zeros, decode (padded n zeros) = n) ∧
      (∀ zeros, decode (List.replicate zeros 0 ++ [0x00]) = 0 ∧
        decode (List.replicate zeros 0 ++ [0x80]) = 0) ∧
      (∀ n ≠ 0, ∀ size, (spellings n size).encard =
        if (encode n).length ≤ size then 1 else 0) ∧
      ∀ size, (spellings 0 size).encard = if size = 0 then 1 else 2 := by
  refine ⟨?_, ?_, decode_padded, ?_, ?_, encard_spellings_zero⟩
  · intro bytes
    exact ⟨length_encode_le bytes, length_encode_eq_iff bytes⟩
  · intro bytes hlonger
    obtain ⟨zeros, hlength⟩ :=
      (eq_encode_or_longer bytes).resolve_left hlonger
    have hmem : bytes ∈ spellings (decode bytes)
        ((encode (decode bytes)).length + (zeros + 1)) := ⟨rfl, hlength⟩
    refine ⟨zeros, hlength, ?_, ?_⟩
    · intro hne
      rwa [spellings_longer hne] at hmem
    · intro hzero
      rwa [hzero, encode_zero, List.length_nil, Nat.zero_add,
        spellings_zero] at hmem
  · intro zeros
    exact ⟨decode_zeros_concat zeros false, decode_zeros_concat zeros true⟩
  · intro n hne size
    exact encard_spellings hne size

/-- A padded spelling of minus one, and a padded negative zero. -/
theorem spellings_shape_padded :
    (∃ zeros, [0x01, 0x00, 0x80] = padded (-1) zeros) ∧
      (spellings (-1) 3).encard = 1 ∧
      ∃ zeros : Nat, [(0x00 : UInt8), 0x80] = List.replicate zeros 0 ++ [0x00] ∨
        [(0x00 : UInt8), 0x80] = List.replicate zeros 0 ++ [0x80] := by
  have hone : decode [0x01, 0x00, 0x80] = -1 := by decide
  obtain ⟨zeros, _, hpad, _⟩ :=
    spellings_shape.2.1 [0x01, 0x00, 0x80] (by decide +kernel)
  obtain ⟨zeros', _, _, hzero⟩ :=
    spellings_shape.2.1 [0x00, 0x80] (by decide +kernel)
  have hcount := spellings_shape.2.2.2.2.1 (-1) (by decide) 3
  rw [hone] at hpad
  rw [if_pos (by decide +kernel)] at hcount
  exact ⟨⟨zeros, hpad (by decide)⟩, hcount, zeros', hzero (by decide)⟩

end ScriptStack.SignMagnitude
