/-
Reading numbers from text as Rust's standard library does.

* `trimStartMatches` (`str::trim_start_matches`) strips every leading copy
  of a pattern (`trimStartMatches_spec`).
* `fromStrRadix` (`from_str_radix` of the unsigned types) accepts one
  optional plus sign and then one or more digits, leading zeros included,
  whose value fits (`fromStrRadix_ok_iff`).

A text is the list of its characters.
-/
import Mathlib.Data.List.Basic
import Mathlib.Data.Nat.Digits.Defs

namespace RustParse

/-! ## `trim_start_matches` -/

/-- Strips up to `fuel` leading copies of the pattern. -/
def trimCopies (pat : List Char) : ℕ → List Char → List Char
  | 0, s => s
  | fuel + 1, s =>
    match s.dropPrefix? pat with
    | some rest => trimCopies pat fuel rest
    | none => s

/-- `str::trim_start_matches`. A text has no more copies of a pattern than
characters. -/
def trimStartMatches (s pat : List Char) : List Char := trimCopies pat s.length s

/-- `n` copies of the pattern. -/
def copies (n : ℕ) (pat : List Char) : List Char := (List.replicate n pat).flatten

@[simp] theorem copies_zero (pat : List Char) : copies 0 pat = [] := rfl

@[simp] theorem copies_succ (n : ℕ) (pat : List Char) : copies (n + 1) pat = pat ++ copies n pat := by
  simp [copies, List.replicate_succ]

theorem length_copies (n : ℕ) (pat : List Char) : (copies n pat).length = n * pat.length := by
  simp [copies]

theorem dropPrefix?_some {s pat rest : List Char} : s.dropPrefix? pat = some rest ↔ s = pat ++ rest := by
  simp [List.dropPrefix?_eq_some_iff]

theorem trimCopies_spec {pat : List Char} (hpat : pat ≠ []) {fuel : ℕ} {s : List Char} (hfuel : s.length ≤ fuel) :
    (∃ n, s = copies n pat ++ trimCopies pat fuel s) ∧ ¬ pat <+: trimCopies pat fuel s := by
  induction fuel generalizing s with
  | zero =>
    obtain rfl : s = [] := List.length_eq_zero_iff.1 (Nat.le_zero.1 hfuel)
    exact ⟨⟨0, rfl⟩, fun hp => hpat (List.prefix_nil.1 hp)⟩
  | succ fuel ih =>
    cases hd : s.dropPrefix? pat with
    | some rest =>
      obtain rfl := dropPrefix?_some.1 hd
      have hlen : 0 < pat.length := List.length_pos_iff.2 hpat
      have hrest : rest.length ≤ fuel := by
        rw [List.length_append] at hfuel
        omega
      obtain ⟨⟨n, hn⟩, hno⟩ := ih hrest
      simp only [trimCopies, hd]
      refine ⟨⟨n + 1, ?_⟩, hno⟩
      rw [copies_succ, List.append_assoc, ← hn]
    | none =>
      simp only [trimCopies, hd]
      refine ⟨⟨0, rfl⟩, fun hp => ?_⟩
      obtain ⟨rest, rfl⟩ := hp
      rw [dropPrefix?_some.2 rfl] at hd
      cases hd

/-- What is left has no copy of the pattern in front, and the copies in
front of it make up the text. -/
theorem trimStartMatches_spec {s pat : List Char} (hpat : pat ≠ []) :
    (∃ n, s = copies n pat ++ trimStartMatches s pat) ∧ ¬ pat <+: trimStartMatches s pat :=
  trimCopies_spec hpat le_rfl

/-- Copies of the pattern before a text that does not begin with it are
exactly what is stripped. -/
theorem trimStartMatches_copies {pat rest : List Char} (hpat : pat ≠ []) (hno : ¬ pat <+: rest) (n : ℕ) :
    trimStartMatches (copies n pat ++ rest) pat = rest := by
  obtain ⟨⟨m, hm⟩, hno'⟩ := trimStartMatches_spec (s := copies n pat ++ rest) hpat
  generalize trimStartMatches (copies n pat ++ rest) pat = left at hm hno'
  induction n generalizing m with
  | zero =>
    cases m with
    | zero => exact hm.symm
    | succ m =>
      rw [copies_zero, List.nil_append, copies_succ, List.append_assoc] at hm
      exact absurd ⟨_, hm.symm⟩ hno
  | succ n ih =>
    cases m with
    | zero =>
      rw [copies_zero, List.nil_append, copies_succ, List.append_assoc] at hm
      exact absurd ⟨_, hm⟩ hno'
    | succ m =>
      rw [copies_succ, copies_succ, List.append_assoc, List.append_assoc] at hm
      exact ih m (List.append_cancel_left hm)

/-! ## `from_str_radix` -/

/-- `std::num::ParseIntError`. -/
inductive ParseIntError
  | empty
  | invalidDigit
  | posOverflow
deriving DecidableEq, Repr

/-- Its `Display`. -/
def ParseIntError.display : ParseIntError → String
  | .empty => "cannot parse integer from empty string"
  | .invalidDigit => "invalid digit found in string"
  | .posOverflow => "number too large to fit in target type"

/-- `char::to_digit`. -/
def toDigit (c : Char) (radix : ℕ) : Option ℕ :=
  let digit :=
    if '0' ≤ c ∧ c ≤ '9' then some (c.toNat - '0'.toNat)
    else if 'a' ≤ c ∧ c ≤ 'z' then some (c.toNat - 'a'.toNat + 10)
    else if 'A' ≤ c ∧ c ≤ 'Z' then some (c.toNat - 'A'.toNat + 10)
    else none
  digit.filter (· < radix)

/-- The loop of `from_str_radix` for a type whose largest value is `max`. -/
def parseDigits (max radix : ℕ) : ℕ → List Char → Except ParseIntError ℕ
  | result, [] => .ok result
  | result, c :: digits =>
    match toDigit c radix with
    | none => .error .invalidDigit
    | some x =>
      if max < result * radix then .error .posOverflow
      else if max < result * radix + x then .error .posOverflow
      else parseDigits max radix (result * radix + x) digits

/-- `from_str_radix` for an unsigned type whose largest value is `max`. -/
def fromStrRadix (max : ℕ) (src : List Char) (radix : ℕ) : Except ParseIntError ℕ :=
  match src with
  | [] => .error .empty
  | ['+'] => .error .invalidDigit
  | ['-'] => .error .invalidDigit
  | '+' :: digits => parseDigits max radix 0 digits
  | digits => parseDigits max radix 0 digits

/-- The text is a numeral in the radix, and `value` is its value. -/
def Numeral (radix : ℕ) (digits : List Char) (value : ℕ) : Prop :=
  ∃ xs : List ℕ, digits.map (toDigit · radix) = xs.map some ∧ value = Nat.ofDigits radix xs.reverse

/-- Every character of a numeral is a digit. -/
theorem Numeral.digit {radix value : ℕ} {digits : List Char} (h : Numeral radix digits value) {c : Char}
    (hc : c ∈ digits) : ∃ x, toDigit c radix = some x := by
  obtain ⟨xs, hxs, -⟩ := h
  have hm : toDigit c radix ∈ digits.map (toDigit · radix) := List.mem_map_of_mem hc
  rw [hxs, List.mem_map] at hm
  obtain ⟨x, -, hx⟩ := hm
  exact ⟨x, hx.symm⟩

/-- The value of the digits `xs` read after `result`. -/
def continued (radix result : ℕ) (xs : List ℕ) : ℕ := result * radix ^ xs.length + Nat.ofDigits radix xs.reverse

theorem continued_nil (radix result : ℕ) : continued radix result [] = result := by
  simp [continued]

theorem continued_cons (radix result x : ℕ) (xs : List ℕ) :
    continued radix result (x :: xs) = continued radix (result * radix + x) xs := by
  simp only [continued, List.length_cons, List.reverse_cons, Nat.ofDigits_append, List.length_reverse,
    Nat.ofDigits_singleton]
  ring

theorem le_continued {radix : ℕ} (hradix : 0 < radix) (result : ℕ) (xs : List ℕ) :
    result ≤ continued radix result xs :=
  calc result ≤ result * radix ^ xs.length := Nat.le_mul_of_pos_right _ (Nat.pow_pos hradix)
    _ ≤ continued radix result xs := Nat.le_add_right _ _

/-- The loop goes through when every character is a digit and the value they
add up to fits. -/
theorem parseDigits_ok_iff {max radix : ℕ} (hradix : 0 < radix) {digits : List Char} {result value : ℕ}
    (hresult : result ≤ max) :
    parseDigits max radix result digits = .ok value ↔
      ∃ xs : List ℕ, digits.map (toDigit · radix) = xs.map some ∧ value = continued radix result xs ∧ value ≤ max := by
  induction digits generalizing result with
  | nil =>
    simp only [parseDigits, List.map_nil]
    constructor
    · intro h
      cases h
      exact ⟨[], rfl, (continued_nil _ _).symm, hresult⟩
    · intro h
      obtain ⟨xs, hxs, rfl, -⟩ := h
      obtain rfl : xs = [] := List.map_eq_nil_iff.1 hxs.symm
      rw [continued_nil]
  | cons c digits ih =>
    simp only [parseDigits, List.map_cons]
    cases hc : toDigit c radix with
    | none =>
      constructor
      · intro h
        cases h
      · intro h
        obtain ⟨xs, hxs, -⟩ := h
        cases xs with
        | nil => cases hxs
        | cons x xs => cases hxs
    | some x =>
      simp only
      have hcons : (∃ ys : List ℕ, some x :: digits.map (toDigit · radix) = ys.map some ∧
            value = continued radix result ys ∧ value ≤ max) ↔
          ∃ xs : List ℕ, digits.map (toDigit · radix) = xs.map some ∧
            value = continued radix (result * radix + x) xs ∧ value ≤ max := by
        constructor
        · intro h
          obtain ⟨ys, hys, hvalue, hle⟩ := h
          cases ys with
          | nil => cases hys
          | cons y xs =>
            rw [List.map_cons, List.cons.injEq, Option.some.injEq] at hys
            obtain ⟨rfl, hxs⟩ := hys
            exact ⟨xs, hxs, by rw [hvalue, continued_cons], hle⟩
        · intro h
          obtain ⟨xs, hxs, hvalue, hle⟩ := h
          exact ⟨x :: xs, by rw [List.map_cons, hxs], by rw [hvalue, continued_cons], hle⟩
      rw [hcons]
      by_cases hfits : result * radix + x ≤ max
      · have hmul : ¬ max < result * radix := by omega
        rw [if_neg hmul, if_neg (Nat.not_lt.2 hfits), ih hfits]
      · have herr : ∀ e : Except ParseIntError ℕ, (if max < result * radix then .error .posOverflow
            else if max < result * radix + x then .error .posOverflow else e) = .error .posOverflow := by
          intro e
          split
          · rfl
          · exact if_pos (Nat.lt_of_not_le hfits)
        rw [herr]
        constructor
        · intro h
          cases h
        · intro h
          -- What is read after an overflow does not make the value smaller.
          obtain ⟨xs, -, hvalue, hle⟩ := h
          have hge := le_continued hradix (result * radix + x) xs
          omega

theorem parseDigits_numeral {max radix : ℕ} (hradix : 0 < radix) {digits : List Char} {value : ℕ} :
    parseDigits max radix 0 digits = .ok value ↔ Numeral radix digits value ∧ value ≤ max := by
  rw [parseDigits_ok_iff hradix (Nat.zero_le max)]
  simp only [continued, zero_mul, zero_add, Numeral]
  constructor
  · intro h
    obtain ⟨xs, hxs, hvalue, hle⟩ := h
    exact ⟨⟨xs, hxs, hvalue⟩, hle⟩
  · intro h
    obtain ⟨⟨xs, hxs, hvalue⟩, hle⟩ := h
    exact ⟨xs, hxs, hvalue, hle⟩

theorem toDigit_plus (radix : ℕ) : toDigit '+' radix = none := rfl

theorem toDigit_minus (radix : ℕ) : toDigit '-' radix = none := rfl

/-- A text with a character that is no digit is no numeral. -/
theorem not_numeral {radix value : ℕ} {digits : List Char} {c : Char} (hc : toDigit c radix = none)
    (hm : c ∈ digits) : ¬ Numeral radix digits value := by
  intro h
  obtain ⟨x, hx⟩ := h.digit hm
  rw [hc] at hx
  cases hx

/-- **`from_str_radix` reads one or more digits whose value fits, after at
most one plus sign.** -/
theorem fromStrRadix_ok_iff {max radix : ℕ} (hradix : 0 < radix) {src : List Char} {value : ℕ} :
    fromStrRadix max src radix = .ok value ↔
      ∃ digits, (src = digits ∨ src = '+' :: digits) ∧ digits ≠ [] ∧ Numeral radix digits value ∧ value ≤ max := by
  have hplus : ∀ rest, ¬ Numeral radix ('+' :: rest) value :=
    fun rest => not_numeral (toDigit_plus radix) List.mem_cons_self
  have hminus : ¬ Numeral radix ['-'] value := not_numeral (toDigit_minus radix) List.mem_cons_self
  unfold fromStrRadix
  split
  · simp
  · simp [hplus]
  · simp [hminus]
  · next digits hne =>
    rw [parseDigits_numeral hradix]
    constructor
    · intro h
      exact ⟨digits, .inr rfl, hne, h⟩
    · intro h
      obtain ⟨digits', rfl | he, -, hnum⟩ := h
      · exact absurd hnum.1 (hplus _)
      · obtain rfl := List.tail_eq_of_cons_eq he
        exact hnum
  · next hempty _ _ hsigned =>
    rw [parseDigits_numeral hradix]
    constructor
    · intro h
      exact ⟨src, .inl rfl, hempty, h⟩
    · intro h
      obtain ⟨digits', rfl | rfl, -, hnum⟩ := h
      · exact hnum
      · exact absurd rfl (hsigned digits')

end RustParse
