/-
`vsomeip_config.rs`: how an id of the vsomeip configuration file is read.

vsomeip's own files write an id as `0x` and hexadecimal digits (`HexId`).
`deserializeHexU16` strips `0x` as often as it is there, also when it is not,
and leaves the rest to `from_str_radix`, which takes a plus sign. So it reads
every `HexId` as what it says, and `LooseId`s besides (`reads_iff`).
-/
import VsomeipTransport.Lib.RustParse
import VsomeipTransport.Utils

namespace VsomeipTransport

open RustParse

/-- `deserialize_hex_u16` of a JSON string. -/
def deserializeHexU16 (hexStr : String) : Except String UInt16 :=
  match fromStrRadix 65535 (trimStartMatches hexStr.toList "0x".toList) 16 with
  | .ok id => .ok (UInt16.ofNat id)
  | .error e => .error e.display

example : deserializeHexU16 "0x1A3F" = .ok 0x1A3F := by decide

/-- The string is `0x` and one or more hexadecimal digits of value `id`. -/
def HexId (s : String) (id : UInt16) : Prop :=
  ∃ digits, s.toList = "0x".toList ++ digits ∧ digits ≠ [] ∧ Numeral 16 digits id.toNat

/-- The string is a number of `0x`, at most one plus sign, and one or more
hexadecimal digits of value `id`. -/
def HexLike (s : String) (prefixes : ℕ) (plus : Bool) (id : UInt16) : Prop :=
  ∃ digits, s.toList = copies prefixes "0x".toList ++ ((if plus then ['+'] else []) ++ digits) ∧ digits ≠ [] ∧
    Numeral 16 digits id.toNat

/-- Hexadecimal digits behind no `0x`, several of them, or a plus sign. -/
def LooseId (s : String) : Prop := ∃ prefixes plus id, HexLike s prefixes plus id ∧ (prefixes ≠ 1 ∨ plus = true)

theorem hexId_iff {s : String} {id : UInt16} : HexId s id ↔ HexLike s 1 false id := by
  simp [HexId, HexLike]

/-- Digits, with a sign or without, do not begin with `0x`. -/
theorem not_another_copy {digits : List Char} (plus : Bool) {value : ℕ} (hnum : Numeral 16 digits value) :
    ¬ "0x".toList <+: (if plus then ['+'] else []) ++ digits := by
  intro hp
  obtain ⟨rest, hrest⟩ := hp
  cases plus with
  | true => simp at hrest
  | false =>
    have hdigits : digits = '0' :: 'x' :: rest := hrest.symm
    subst hdigits
    exact not_numeral (c := 'x') rfl (by simp) hnum

/-- What `deserialize_hex_u16` accepts, and as what. -/
theorem deserializeHexU16_ok_iff {s : String} {id : UInt16} :
    deserializeHexU16 s = .ok id ↔ ∃ prefixes plus, HexLike s prefixes plus id := by
  have hpat : "0x".toList ≠ [] := by decide
  constructor
  · intro h
    unfold deserializeHexU16 at h
    split at h
    · next value hparse =>
      cases h
      obtain ⟨⟨prefixes, hs⟩, -⟩ := trimStartMatches_spec (s := s.toList) hpat
      obtain ⟨digits, hrest, hne, hnum, hle⟩ := (fromStrRadix_ok_iff (by decide)).1 hparse
      have hvalue : (UInt16.ofNat value).toNat = value := UInt16.toNat_ofNat_of_lt (Nat.lt_succ_of_le hle)
      rcases hrest with hrest | hrest
      · exact ⟨prefixes, false, digits, by rw [hrest] at hs; exact hs, hne, by rw [hvalue]; exact hnum⟩
      · exact ⟨prefixes, true, digits, by rw [hrest] at hs; exact hs, hne, by rw [hvalue]; exact hnum⟩
    · cases h
  · intro h
    obtain ⟨prefixes, plus, digits, hs, hne, hnum⟩ := h
    have hle : id.toNat ≤ 65535 := Nat.le_of_lt_succ id.toNat_lt
    have hparse : fromStrRadix 65535 ((if plus then ['+'] else []) ++ digits) 16 = .ok id.toNat := by
      refine (fromStrRadix_ok_iff (by decide)).2 ⟨digits, ?_, hne, hnum, hle⟩
      cases plus with
      | true => exact .inr rfl
      | false => exact .inl rfl
    unfold deserializeHexU16
    rw [hs, trimStartMatches_copies hpat (not_another_copy plus hnum) prefixes, hparse]
    simp

/-- One string is `HexLike` in one way. -/
theorem HexLike.eq_one {s : String} {prefixes : ℕ} {plus : Bool} {id id' : UInt16}
    (h : HexLike s prefixes plus id) (h1 : HexLike s 1 false id') : prefixes = 1 ∧ plus = false := by
  have hpat : "0x".toList ≠ [] := by decide
  obtain ⟨digits, hs, -, hnum⟩ := h
  obtain ⟨digits', hs', -, hnum'⟩ := h1
  have hrest := trimStartMatches_copies hpat (not_another_copy plus hnum) prefixes
  rw [← hs, hs', trimStartMatches_copies hpat (not_another_copy false hnum') 1] at hrest
  rw [hs', hrest] at hs
  have hcopies : copies 1 "0x".toList = copies prefixes "0x".toList := List.append_cancel_right hs
  have hlength := congrArg List.length hcopies
  rw [length_copies, length_copies] at hlength
  refine ⟨(Nat.eq_of_mul_eq_mul_right (by decide) hlength).symm, ?_⟩
  cases plus with
  | false => rfl
  | true =>
    have hdigits : digits' = '+' :: digits := hrest
    subst hdigits
    exact absurd hnum' (not_numeral (toDigit_plus 16) List.mem_cons_self)

theorem HexId.not_loose {s : String} {id : UInt16} (h : HexId s id) : ¬ LooseId s := by
  intro hloose
  obtain ⟨prefixes, plus, id', hlike, hother⟩ := hloose
  obtain ⟨rfl, rfl⟩ := hlike.eq_one (hexId_iff.1 h)
  exact hother.elim (fun hne => hne rfl) (fun he => Bool.false_ne_true he)

/-- The string is read as what it says, or is an error. -/
def Reads (s : String) : Prop := ∀ id, deserializeHexU16 s = .ok id ↔ HexId s id

/-- A loose string is read, as something it does not say. -/
theorem not_reads_of_loose {s : String} (hloose : LooseId s) : ¬ Reads s := by
  intro hreads
  have ⟨prefixes, plus, id, hlike, _⟩ := hloose
  have hid : HexId s id := (hreads id).1 (deserializeHexU16_ok_iff.2 ⟨prefixes, plus, hlike⟩)
  exact hid.not_loose hloose

/-- **Exactly the loose strings are read as something they do not say.** -/
theorem reads_iff (s : String) : Reads s ↔ ¬ LooseId s := by
  constructor
  · intro hreads hloose
    exact not_reads_of_loose hloose hreads
  · intro hstrict id
    rw [hexId_iff, deserializeHexU16_ok_iff]
    constructor
    · intro h
      obtain ⟨prefixes, plus, hlike⟩ := h
      have hone : ¬ (prefixes ≠ 1 ∨ plus = true) := fun hother => hstrict ⟨prefixes, plus, id, hlike, hother⟩
      obtain ⟨rfl, rfl⟩ : prefixes = 1 ∧ plus = false := by simpa using hone
      exact hlike
    · intro hlike
      exact ⟨1, false, hlike⟩

/-- `1234` is 1234 to vsomeip; `0x0x12` and `0x+12` are no ids at all. -/
theorem loose_ids_read :
    deserializeHexU16 "1234" = .ok 0x1234 ∧ deserializeHexU16 "0x0x12" = .ok 0x12 ∧
    deserializeHexU16 "0x+12" = .ok 0x12 ∧ ¬ Reads "1234" ∧ ¬ Reads "0x0x12" ∧ ¬ Reads "0x+12" := by
  have hbare : HexLike "1234" 0 false 0x1234 := ⟨"1234".toList, by decide, by decide, [1, 2, 3, 4], by decide, by decide⟩
  have htwice : HexLike "0x0x12" 2 false 0x12 := ⟨"12".toList, by decide, by decide, [1, 2], by decide, by decide⟩
  have hsigned : HexLike "0x+12" 1 true 0x12 := ⟨"12".toList, by decide, by decide, [1, 2], by decide, by decide⟩
  exact ⟨by decide, by decide, by decide, not_reads_of_loose ⟨0, false, _, hbare, .inl (by decide)⟩,
    not_reads_of_loose ⟨2, false, _, htwice, .inl (by decide)⟩, not_reads_of_loose ⟨1, true, _, hsigned, .inr rfl⟩⟩

end VsomeipTransport
